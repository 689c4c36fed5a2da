import AntiFlock.Events.Replay

set_option autoImplicit false

/-!
# Streams

A stream lists what is stored from its cursor on and then waits to be woken.
`Append` wakes it when all else is done, so that a stream which has nothing to
read and is not woken has missed only events of calls that returned an error.
-/
namespace AntiFlock.Events
open AntiFlock.Go AntiFlock.Storage AntiFlock.Effect

/-! ## Topics and cursors -/

def streamReplayPageSize : ℕ := 200

def streamTopics : List String :=
  ["posture.changed", "finding.opened", "finding.resolved", "node.changed", "path.changed", "action.held",
    "scrambler.changed"]

def parseTopics (value : String) : Except String (List String) :=
  let value := if value = "" then ",".intercalate streamTopics else value
  let parts := (value.toList.splitOn ',').map String.ofList
  if streamTopics.length < parts.length then .error "at most seven stream topics may be requested"
  else if (parts.map trimSpace).all fun part => len part ≤ 64 && streamTopics.contains part then
    .ok (parts.map trimSpace)
  else .error "stream contains an unsupported topic"

theorem parseTopics_empty : parseTopics "" = .ok streamTopics := by decide

def topicForEvent (kind : String) : String :=
  if ["posture.changed", "finding.opened", "finding.resolved", "action.held"].contains kind then kind
  else if hasPrefix kind "node." then "node.changed"
  else if hasPrefix kind "mesh.path" || hasPrefix kind "mesh.exit" || kind == "mesh.connection_lost" then "path.changed"
  else if hasPrefix kind "scrambler." then "scrambler.changed"
  else ""

structure ReplayCursor where
  ingestOrdinal : ℕ
  eventID : String
deriving DecidableEq

/-- What `requestCursor` lets through: no cursor, or one with all its fields. -/
def ReplayCursor.Requested (cursor : ReplayCursor) : Prop :=
  cursor = ⟨0, ""⟩ ∨ cursor.ingestOrdinal ≠ 0 ∧ boundedString cursor.eventID 128 = true

/-! ## The handler -/

inductive Phase where
  | checking
  | subscribing
  | draining
  | waiting
  | ended
deriving DecidableEq

/-- A stream: what it was asked for, and what it has sent. -/
structure Stream where
  topics : List String
  start : ReplayCursor
  current : ReplayCursor
  emitted : List (ℕ × EventEnvelope)
  phase : Phase

def Stream.connect (topics : List String) (start : ReplayCursor) : Stream := ⟨topics, start, start, [], .checking⟩

def Stream.requests (s : Stream) (e : ℕ × EventEnvelope) : Bool :=
  topicForEvent e.2.kind != "" && s.topics.contains (topicForEvent e.2.kind)

/-- The stream sends what is asked for of a page, and goes on if the page was full. -/
def Stream.deliver (s : Stream) (page : List (ℕ × EventEnvelope)) : Stream :=
  { s with
    current := (page.getLast?.map fun e => ⟨e.1, e.2.id⟩).getD s.current
    emitted := s.emitted ++ page.filter s.requests
    phase := if page.length < streamReplayPageSize then .waiting else .draining }

def Wake.receive : Wake → Option Wake
  | .subscribed (n + 1) => some (.subscribed n)
  | .evicted (n + 1) => some (.evicted n)
  | _ => none

def Stream.page (proto : Protobuf) (s : Stream) (t : Tables) : Except StorageErr (List (ℕ × EventEnvelope)) :=
  replayFrom proto s.current.ingestOrdinal Instant.zero s.current.eventID streamReplayPageSize t t

/-- The steps of `handleStream`, with the channel it leaves behind. -/
inductive Stream.Step (proto : Protobuf) (s : Stream) (w : Log) : Stream → Wake → Prop where
  | checked (phase : s.phase = .checking)
      (h : s.start.eventID ≠ "" → ∃ event, getEvent proto s.start.eventID w.tables = .ok (s.start.ingestOrdinal, event)) :
      Stream.Step proto s w { s with phase := .subscribing } w.wake
  | subscribed (phase : s.phase = .subscribing) :
      Stream.Step proto s w { s with phase := .draining } (.subscribed 0)
  | drained (phase : s.phase = .draining) {page : List (ℕ × EventEnvelope)} (h : s.page proto w.tables = .ok page) :
      Stream.Step proto s w (s.deliver page) w.wake
  | woken (phase : s.phase = .waiting) {wake : Wake} (h : w.wake.receive = some wake) :
      Stream.Step proto s w { s with phase := .draining } wake
  | heartbeat (phase : s.phase = .waiting) : Stream.Step proto s w s w.wake
  /-- A write fails within a page. -/
  | cut (phase : s.phase = .draining) {page : List (ℕ × EventEnvelope)} (h : s.page proto w.tables = .ok page) (n : ℕ) :
      Stream.Step proto s w { s with emitted := s.emitted ++ (page.filter s.requests).take n, phase := .ended } .absent
  /-- The cursor is refused, a read fails, the channel is closed or the client is gone. -/
  | ended : Stream.Step proto s w { s with phase := .ended } .absent

/-- The calls to `Append` and a stream. -/
structure Service where
  writers : Writers
  stream : Stream

inductive Service.Step (proto : Protobuf) (faults : Faults) : Service → Service → Prop where
  | append {s : Service} {c : Writers} (h : Pool.Step (storing proto faults) (Appends proto) s.writers c) :
      Service.Step proto faults s ⟨c, s.stream⟩
  | stream {s : Service} {stream : Stream} {wake : Wake} (h : Stream.Step proto s.stream s.writers.world stream wake) :
      Service.Step proto faults s ⟨⟨{ s.writers.world with wake }, s.writers.threads⟩, stream⟩

/-- Nothing is stored, and a stream is about to connect. -/
def Service.Init (s : Service) : Prop :=
  Unwritten s.writers ∧ ∃ value topics start, parseTopics value = .ok topics ∧ start.Requested ∧
    s.stream = .connect topics start

/-! ## What a stream has sent -/

/-- The stream has sent what it was asked for between its two cursors. -/
structure Follows (proto : Protobuf) (s : Stream) (w : Log) : Prop where
  start : s.start.ingestOrdinal ≤ s.current.ingestOrdinal
  current : s.current.ingestOrdinal ≤ w.tables.events.length
  named : s.current.ingestOrdinal = 0 → s.current.eventID = ""
  emitted : s.emitted = (((storedEvents proto w.tables).take s.current.ingestOrdinal).drop
    s.start.ingestOrdinal).filter s.requests

/-- Whoever stored an event beyond the cursor has not woken the stream, or it is about to wake. -/
def Awaits (s : Stream) (w : Log) : Prop := ∀ n, w.wake = .subscribed n → ∀ k call : ℕ,
  s.current.ingestOrdinal ≤ k → w.owners[k]? = some call → 0 < n ∨ call ∉ w.published

def Stream.Keeps (proto : Protobuf) (s : Stream) (w : Log) : Prop :=
  match s.phase with
  | .checking => s.current = s.start ∧ s.emitted = [] ∧ s.start.Requested
  | .subscribing => Follows proto s w
  | .draining => Follows proto s w
  | .waiting => Follows proto s w ∧ Awaits s w
  | .ended => True

section Stored
variable {proto : Protobuf} {w w' : Log} {call : ℕ}

theorem filter_lt_eq_drop {α : Type} {f : α → ℕ} {l : List α} {n : ℕ}
    (h : ∀ (k : ℕ) a, l[k]? = some a → f a = n + k + 1) (m : ℕ) : (l.filter fun a => m < f a) = l.drop (m - n) := by
  induction l generalizing n with
  | nil => simp
  | cons a l ih =>
    have ha := h 0 a rfl
    have hrest := ih (n := n + 1) fun k b hb => by
      rw [h (k + 1) b hb]
      omega
    by_cases hle : n + 1 ≤ m
    · rw [List.filter_cons_of_neg (by simp only [decide_eq_true_eq]; omega), hrest, show m - n = m - (n + 1) + 1 by omega]
      rfl
    · rw [List.filter_cons_of_pos (by simp only [decide_eq_true_eq]; omega), hrest, show m - n = 0 by omega,
        show m - (n + 1) = 0 by omega]
      rfl

theorem length_storedEvents (hw : Sound proto w) : (storedEvents proto w.tables).length = w.tables.events.length :=
  length_filterMap_of_forall (rowEvent_of_mem hw)

theorem ordinal_storedEvents (hw : Sound proto w) {k : ℕ} {e : ℕ × EventEnvelope}
    (h : (storedEvents proto w.tables)[k]? = some e) : e.1 = k + 1 := by
  unfold storedEvents at h
  rw [getElem?_filterMap_of_forall (rowEvent_of_mem hw), Option.bind_eq_some_iff] at h
  obtain ⟨row, hrow, hread⟩ := h
  obtain ⟨event, hrecord⟩ := hw.records row (List.mem_of_getElem? hrow)
  rw [rowEvent_of_records hrecord] at hread
  cases hread
  exact hw.ordinals k row hrow

theorem filter_storedEvents_eq_drop (hw : Sound proto w) (m : ℕ) :
    ((storedEvents proto w.tables).filter fun e => m < e.1) = (storedEvents proto w.tables).drop m :=
  filter_lt_eq_drop (n := 0) (fun k e he => by rw [ordinal_storedEvents hw he, Nat.zero_add]) m

theorem Act.take_storedEvents (h : Act proto call w w') (hw : Sound proto w) {n : ℕ} (hn : n ≤ w.tables.events.length) :
    (storedEvents proto w'.tables).take n = (storedEvents proto w.tables).take n := by
  cases h with
  | idle => rfl
  | stored unpublished fresh ordinal records events last cursors =>
    unfold storedEvents
    rw [events, List.filterMap_append]
    exact List.take_append_of_le_length (by rw [← length_storedEvents hw] at hn; exact hn)
  | moved row_mem ordinal id forward => rfl
  | published => rfl

theorem Act.length_events (h : Act proto call w w') : w.tables.events.length ≤ w'.tables.events.length := by
  cases h with
  | idle => exact Nat.le_refl _
  | stored unpublished fresh ordinal records events last cursors =>
    rw [events, List.length_append]
    exact Nat.le_add_right _ _
  | moved row_mem ordinal id forward => exact Nat.le_refl _
  | published => exact Nat.le_refl _

end Stored

section Following
variable {proto : Protobuf} {w w' : Log} {s s' : Stream} {call : ℕ}

theorem Follows.act (hs : Follows proto s w) (h : Act proto call w w') (hw : Sound proto w) : Follows proto s w' := by
  refine ⟨hs.start, hs.current.trans h.length_events, hs.named, ?_⟩
  rw [h.take_storedEvents hw hs.current]
  exact hs.emitted

theorem Wake.publish_subscribed {wake : Wake} {n : ℕ} (h : wake.publish = .subscribed n) : 0 < n := by
  cases wake with
  | absent => cases h
  | subscribed m =>
    unfold Wake.publish at h
    by_cases hroom : m < wakeBuffer
    · simp only [hroom, if_true, Wake.subscribed.injEq] at h
      omega
    · simp only [hroom, if_false, reduceCtorEq] at h
  | evicted m => cases h

theorem Awaits.act (hs : Awaits s w) (h : Act proto call w w') : Awaits s w' := by
  cases h with
  | idle => exact hs
  | stored unpublished fresh ordinal records events last cursors =>
    intro n hn k owner hk howner
    dsimp only at hn howner ⊢
    rw [List.getElem?_append] at howner
    split at howner
    · exact hs n hn k owner hk howner
    · rw [List.getElem?_singleton] at howner
      split at howner
      · cases howner
        exact .inr unpublished
      · cases howner
  | moved row_mem ordinal id forward => exact hs
  | published =>
    intro n hn k owner hk howner
    exact .inl (Wake.publish_subscribed hn)

theorem Stream.Keeps.act (hs : s.Keeps proto w) (h : Act proto call w w') (hw : Sound proto w) : s.Keeps proto w' := by
  unfold Stream.Keeps at hs ⊢
  split
  · rename_i hphase
    rwa [hphase] at hs
  · rename_i hphase
    rw [hphase] at hs
    exact hs.act h hw
  · rename_i hphase
    rw [hphase] at hs
    exact hs.act h hw
  · rename_i hphase
    rw [hphase] at hs
    exact ⟨hs.1.act h hw, hs.2.act h⟩
  · trivial

theorem Follows.page (hs : Follows proto s w) (hw : Sound proto w) : s.page proto w.tables =
    .ok (((storedEvents proto w.tables).drop s.current.ingestOrdinal).take streamReplayPageSize) := by
  have hlist := listEventsFromOrdinal_eq hw s.current.ingestOrdinal streamReplayPageSize
  rw [filter_storedEvents_eq_drop hw] at hlist
  unfold Stream.page replayFrom
  split
  · exact hlist
  · rename_i hzero
    rw [not_not] at hzero
    rw [hzero] at hlist
    rw [hs.named hzero, hzero]
    exact hlist

theorem deliver_current (hs : Follows proto s w) (hw : Sound proto w) {page : List (ℕ × EventEnvelope)}
    (hpage : page = ((storedEvents proto w.tables).drop s.current.ingestOrdinal).take streamReplayPageSize) :
    (s.deliver page).current.ingestOrdinal = s.current.ingestOrdinal + page.length ∧
      ((s.deliver page).current.ingestOrdinal = 0 → (s.deliver page).current.eventID = "") := by
  rcases List.eq_nil_or_concat page with hnil | ⟨rest, e, hconcat⟩
  · subst hnil
    exact ⟨rfl, hs.named⟩
  · rw [List.concat_eq_append] at hconcat
    have hlength : page.length = rest.length + 1 := by rw [hconcat, List.length_append, List.length_singleton]
    have hlast : page[rest.length]? = some e := by rw [hconcat, List.getElem?_concat_length]
    have hcurrent : (s.deliver page).current = ⟨e.1, e.2.id⟩ := by
      simp only [Stream.deliver, hconcat, List.getLast?_concat, Option.map_some, Option.getD_some]
    have hordinal : e.1 = s.current.ingestOrdinal + page.length := by
      have htake := congrArg List.length hpage
      rw [List.length_take] at htake
      rw [hpage, List.getElem?_take_of_lt (by omega), List.getElem?_drop] at hlast
      rw [ordinal_storedEvents hw hlast, hlength]
      omega
    rw [hcurrent]
    refine ⟨hordinal, fun hzero => ?_⟩
    dsimp only at hzero
    omega

theorem deliver_keeps (hs : Follows proto s w) (hw : Sound proto w) {page : List (ℕ × EventEnvelope)}
    (h : s.page proto w.tables = .ok page) : (s.deliver page).Keeps proto w := by
  rw [hs.page hw, Except.ok.injEq] at h
  obtain ⟨hcurrent, hnamed⟩ := deliver_current hs hw h.symm
  have hlength := congrArg List.length h
  rw [List.length_take, List.length_drop, length_storedEvents hw] at hlength
  have hbound := hs.current
  have hfollows : Follows proto (s.deliver page) w := by
    refine ⟨?_, ?_, hnamed, ?_⟩
    · rw [hcurrent]
      exact hs.start.trans (Nat.le_add_right _ _)
    · rw [hcurrent]
      omega
    · -- what was stored up to the new cursor is what was up to the old one, and the page
      have htake : (storedEvents proto w.tables).take (s.current.ingestOrdinal + page.length) =
          (storedEvents proto w.tables).take s.current.ingestOrdinal ++ page := by
        rw [List.take_add]
        congr 1
        rw [← h, List.take_eq_take_iff, List.length_take]
        omega
      rw [hcurrent, htake, List.drop_append_of_le_length ?_, List.filter_append]
      · exact congrArg (· ++ _) hs.emitted
      · rw [List.length_take, length_storedEvents hw]
        have := hs.start
        change s.start.ingestOrdinal ≤ _
        omega
  unfold Stream.Keeps
  by_cases hfull : page.length < streamReplayPageSize
  · rw [show (s.deliver page).phase = .waiting from if_pos hfull]
    refine ⟨hfollows, fun n _ k call hk howner => ?_⟩
    have hlt := (List.getElem?_eq_some_iff.mp howner).1
    rw [hw.owners] at hlt
    omega
  · rw [show (s.deliver page).phase = .draining from if_neg hfull]
    exact hfollows

theorem getEvent_ok {id : String} {ordinal : ℕ} {event : EventEnvelope}
    (h : getEvent proto id w.tables = .ok (ordinal, event)) : ∃ row ∈ w.tables.events, row.ordinal = ordinal := by
  unfold getEvent at h
  split at h
  · cases h
  · rename_i row hrow
    refine ⟨row, List.mem_of_find?_eq_some hrow, ?_⟩
    cases hread : unmarshalEvent proto row.wire with
    | error err =>
      rw [hread] at h
      cases h
    | ok stored =>
      rw [hread] at h
      cases h
      rfl

theorem Stream.Keeps.step {wake : Wake} (hs : s.Keeps proto w) (hw : Sound proto w) (h : Stream.Step proto s w s' wake) :
    s'.Keeps proto { w with wake } := by
  cases h with
  | checked phase hcheck =>
    rw [Stream.Keeps, phase] at hs
    obtain ⟨hcurrent, hemitted, hrequested⟩ := hs
    refine ⟨Nat.le_of_eq (congrArg _ hcurrent.symm), ?_, fun hzero => ?_, ?_⟩
    · rcases hrequested with hnone | ⟨-, hbounded⟩
      · rw [hcurrent, hnone]
        exact Nat.zero_le _
      · have hid : s.start.eventID ≠ "" := by
          intro hempty
          rw [hempty] at hbounded
          cases hbounded
        obtain ⟨event, hevent⟩ := hcheck hid
        obtain ⟨row, hrow, hordinal⟩ := getEvent_ok hevent
        rw [hcurrent, ← hordinal]
        exact hw.ordinal_le hrow
    · rcases hrequested with hnone | ⟨hordinal, -⟩
      · rw [hcurrent, hnone]
      · rw [hcurrent] at hzero
        exact absurd hzero hordinal
    · rw [hemitted, hcurrent, List.drop_eq_nil_of_le (List.length_take_le _ _)]
      rfl
  | subscribed phase =>
    rw [Stream.Keeps, phase] at hs
    have hfollows : Follows proto s w := hs
    exact ⟨hfollows.start, hfollows.current, hfollows.named, hfollows.emitted⟩
  | drained phase hpage =>
    rw [Stream.Keeps, phase] at hs
    exact deliver_keeps hs hw hpage
  | woken phase hreceive =>
    rw [Stream.Keeps, phase] at hs
    exact ⟨hs.1.start, hs.1.current, hs.1.named, hs.1.emitted⟩
  | heartbeat phase => exact hs
  | cut phase hpage n => trivial
  | ended => trivial

end Following

/-! ## Every interleaving -/

section Services
variable {proto : Protobuf} {faults : Faults} {s s' : Service}

variable (proto faults) in
/-- What holds of the calls and the stream at any time. -/
structure Service.Right (s : Service) : Prop where
  writers : Orderly proto False (storing proto faults) s.writers
  stream : s.stream.Keeps proto s.writers.world

theorem Orderly.with_wake {quiet : Prop} {H : ℕ → Handler storeSig Log} {c : Writers} (hc : Orderly proto quiet H c)
    (wake : Wake) : Orderly proto quiet H ⟨{ c.world with wake }, c.threads⟩ := by
  have hsound := hc.good.invariant.sound
  refine ⟨⟨⟨⟨hsound.ordinals, hsound.last, hsound.ids, hsound.records, hsound.owners, hsound.cursor⟩,
    hc.good.invariant.dated⟩, fun i p hp => ?_⟩, hc.fresh⟩
  obtain ⟨seen, hrely, hok⟩ := hc.good.threads i p hp
  exact ⟨seen, ⟨hrely.events, hrely.owners, hrely.published, hrely.reached⟩, hok⟩

theorem Service.Right.step (hproto : ReadsBack proto) (hs : s.Right proto faults) (h : Service.Step proto faults s s') :
    s'.Right proto faults := by
  have hsound := hs.writers.good.invariant.sound
  cases h with
  | append h =>
    obtain ⟨hwriters, hworld⟩ := hs.writers.step hproto (serves_storing proto faults) h
    refine ⟨hwriters, ?_⟩
    rcases hworld with hsame | ⟨call, hact⟩
    · dsimp only
      rw [hsame]
      exact hs.stream
    · exact hs.stream.act hact hsound
  | stream h => exact ⟨hs.writers.with_wake _, hs.stream.step hsound h⟩

theorem right_of_reachable (hproto : ReadsBack proto) (h : Reachable Service.Init (Service.Step proto faults) s) :
    s.Right proto faults := by
  refine h.invariant ?_ fun s s' hs hstep => hs.step hproto hstep
  rintro ⟨writers, stream⟩ ⟨hwriters, value, topics, start, -, hrequested, hstream⟩
  dsimp only at hwriters hstream
  subst hstream
  exact ⟨orderly_of_reachable hproto (serves_storing proto faults) (.start hwriters), rfl, rfl, hrequested⟩

variable (proto) in
/-- What a stream was asked for, in the order of ingestion. -/
def Service.expected (s : Service) : List (ℕ × EventEnvelope) :=
  (storedEvents proto s.writers.world.tables).filter fun e => s.stream.start.ingestOrdinal < e.1 ∧ s.stream.requests e

theorem expected_eq (hw : Sound proto s.writers.world) (hs : Follows proto s.stream s.writers.world) :
    s.expected proto = s.stream.emitted ++
      ((storedEvents proto s.writers.world.tables).drop s.stream.current.ingestOrdinal).filter s.stream.requests := by
  have hsplit : (storedEvents proto s.writers.world.tables).drop s.stream.start.ingestOrdinal =
      ((storedEvents proto s.writers.world.tables).take s.stream.current.ingestOrdinal).drop s.stream.start.ingestOrdinal ++
        (storedEvents proto s.writers.world.tables).drop s.stream.current.ingestOrdinal := by
    conv_lhs => rw [← List.take_append_drop s.stream.current.ingestOrdinal (storedEvents proto s.writers.world.tables)]
    refine List.drop_append_of_le_length ?_
    have hstart := hs.start
    have hcurrent := hs.current
    rw [List.length_take, length_storedEvents hw]
    omega
  have hboth : s.expected proto =
      ((storedEvents proto s.writers.world.tables).filter fun e => s.stream.start.ingestOrdinal < e.1).filter
        s.stream.requests := by
    rw [List.filter_filter]
    refine List.filter_congr fun e _ => ?_
    rw [Bool.decide_and, Bool.decide_eq_true, Bool.and_comm]
  rw [hboth, filter_storedEvents_eq_drop hw, hsplit, List.filter_append, ← hs.emitted]

/-- When no call is running and the stream waits with nothing in its channel, it has sent what it was asked
for up to some event, each once and in the order of ingestion, and what it has not sent was stored by calls
that returned an error. So it has sent all of it if no call that stored an event has returned an error. -/
theorem stream_delivers (hproto : ReadsBack proto) (h : Reachable Service.Init (Service.Step proto faults) s)
    (hidle : s.writers.Idle) (hwaiting : s.stream.phase = .waiting) (hempty : s.writers.world.wake = .subscribed 0) :
    (∃ missed, s.expected proto = s.stream.emitted ++ missed ∧ ∀ e ∈ missed, ∃ call a,
      s.writers.world.owners[e.1 - 1]? = some call ∧ s.writers.Returned call a ∧ a.2 ≠ none) ∧
    ((∀ call a, s.writers.Returned call a → call ∈ s.writers.world.owners → a.2 = none) →
      s.stream.emitted = s.expected proto) := by
  have hright := right_of_reachable hproto h
  have hsound := hright.writers.good.invariant.sound
  have hkeeps := hright.stream
  rw [Stream.Keeps, hwaiting] at hkeeps
  obtain ⟨hfollows, hawaits⟩ := hkeeps
  obtain ⟨missed, hexpected, hmissed⟩ : ∃ missed, s.expected proto = s.stream.emitted ++ missed ∧
      ∀ e ∈ missed, ∃ call a, s.writers.world.owners[e.1 - 1]? = some call ∧ s.writers.Returned call a ∧ a.2 ≠ none := by
    refine ⟨_, expected_eq hsound hfollows, fun e he => ?_⟩
    obtain ⟨k, hk⟩ := List.mem_iff_getElem?.mp (List.mem_of_mem_filter he)
    rw [List.getElem?_drop] at hk
    have hordinal : e.1 - 1 = s.stream.current.ingestOrdinal + k := by
      rw [ordinal_storedEvents hsound hk]
      omega
    have hlt : e.1 - 1 < s.writers.world.owners.length := by
      rw [hordinal, hsound.owners, ← length_storedEvents hsound]
      exact (List.getElem?_eq_some_iff.mp hk).1
    have howner := List.getElem?_eq_getElem hlt
    obtain ⟨a, hreturned⟩ := hidle.returned (hright.writers.owner_lt (List.mem_of_getElem? howner))
    refine ⟨_, a, howner, hreturned, fun hnone => ?_⟩
    obtain ⟨hdone, -⟩ := hright.writers.settled hreturned _ howner
    rcases hawaits 0 hempty _ _ (by omega) howner with hpos | hunpublished
    · exact absurd hpos (Nat.lt_irrefl 0)
    · exact hunpublished (hdone hnone).2.1
  refine ⟨⟨missed, hexpected, hmissed⟩, fun hclean => ?_⟩
  have hnil : missed = [] := List.eq_nil_iff_forall_not_mem.mpr fun e he => by
    obtain ⟨call, a, howner, hreturned, herr⟩ := hmissed e he
    exact herr (hclean call a hreturned (List.mem_of_getElem? howner))
  rw [hexpected, hnil, List.append_nil]

theorem reachable_append (h : Reachable Service.Init (Service.Step proto faults) s) {c : Writers}
    (hc : Reachable (· = s.writers) (Pool.Step (storing proto faults) (Appends proto)) c) :
    Reachable Service.Init (Service.Step proto faults) ⟨c, s.stream⟩ := by
  induction hc with
  | start heq =>
    subst heq
    exact h
  | next _ hstep ih => exact ih.next (.append hstep)

end Services

/-! ## A call that is cut off -/

def nodeEvent (receivedAt : Instant) : EventEnvelope := { namedEvent "a" receivedAt with kind := "node.seen" }

def nodeProto : Protobuf := pairProto (nodeEvent 10) (nodeEvent 10)

def nodeCall : Prog storeSig Appended :=
  plainStore.appending openScheme nodeProto (fun _ => some []) (fun _ => 0) 10 (nodeEvent Instant.zero)

/-- What is answered when the caller goes away behind its commit: a stored event is not read back. -/
def cutOff (proto : Protobuf) (call : ℕ) : (q : StoreRequest) → Log → q.Answer × Log
  | .getEvent id, w =>
    (match getEvent proto id w.tables with
      | .ok _ => .error (.invalid "get event: context canceled")
      | .error err => .error err, w)
  | .appendEvent event, w => answered proto call (.appendEvent event) w
  | .getProjectionCursor, w => answered proto call .getProjectionCursor w
  | .setProjectionCursor cursor, w => answered proto call (.setProjectionCursor cursor) w
  | .publish, w => answered proto call .publish w

theorem storing_cutOff (proto : Protobuf) (call : ℕ) (q : StoreRequest) (w : Log) :
    (storing proto .refusals call).step q w (cutOff proto call q w).1 (cutOff proto call q w).2 := by
  cases q with
  | getEvent id =>
    change Served Faults.refusals (getEvent proto id w.tables, w) w (cutOff proto call (.getEvent id) w).1 w
    unfold cutOff
    dsimp only
    split
    · exact .refused (by decide) _
    · exact .refused (by decide) _
  | appendEvent event => exact storing_answered proto .refusals call _ w
  | getProjectionCursor => exact storing_answered proto .refusals call _ w
  | setProjectionCursor cursor => exact storing_answered proto .refusals call _ w
  | publish => exact storing_answered proto .refusals call _ w

/-- A stream of all topics waits from the start; then an event is appended by a call that is cut off. -/
def unwoken : Service :=
  ⟨[0, 0, 0].foldl (Pool.advance (cutOff nodeProto)) ⟨{ Log.new ∅ with wake := .subscribed 0 }, [nodeCall]⟩,
    { Stream.connect streamTopics ⟨0, ""⟩ with phase := .waiting }⟩

theorem reachable_unwoken : Reachable Service.Init (Service.Step nodeProto .refusals) unwoken := by
  have hstart : Reachable Service.Init (Service.Step nodeProto .refusals)
      ⟨⟨.new ∅, []⟩, .connect streamTopics ⟨0, ""⟩⟩ :=
    .start ⟨⟨rfl, ∅, rfl⟩, "", _, _, parseTopics_empty, .inl rfl, rfl⟩
  have hchecked := hstart.next (.stream (.checked rfl fun h => absurd rfl h))
  have hsubscribed : Reachable Service.Init (Service.Step nodeProto .refusals)
      ⟨⟨{ Log.new ∅ with wake := .subscribed 0 }, []⟩, { Stream.connect streamTopics ⟨0, ""⟩ with phase := .draining }⟩ :=
    hchecked.next (.stream (.subscribed rfl))
  have hpage : Stream.page nodeProto { Stream.connect streamTopics ⟨0, ""⟩ with phase := .draining } (.new ∅) = .ok [] :=
    rfl
  have hwaiting : Reachable Service.Init (Service.Step nodeProto .refusals)
      ⟨⟨{ Log.new ∅ with wake := .subscribed 0 }, []⟩, { Stream.connect streamTopics ⟨0, ""⟩ with phase := .waiting }⟩ := by
    have hdrained := hsubscribed.next (.stream (.drained rfl hpage))
    exact hdrained
  have hcall : Appends nodeProto nodeCall := ⟨_, _, _, _, _, _, rfl⟩
  refine reachable_append hwaiting (Pool.reachable_advance (storing_cutOff nodeProto) [0, 0, 0] ?_)
  exact .next (.start rfl) (Pool.Step.start hcall)

/-- The event is stored and was asked for. The stream waits and nobody will wake it. -/
theorem unwoken_misses : Reachable Service.Init (Service.Step nodeProto .refusals) unwoken ∧ unwoken.writers.Idle ∧
    unwoken.stream.phase = .waiting ∧ unwoken.writers.world.wake = .subscribed 0 ∧ unwoken.stream.emitted = [] ∧
    unwoken.expected nodeProto = [(1, nodeEvent 10)] := by
  refine ⟨reachable_unwoken, ?_, rfl, ?_, rfl, ?_⟩
  all_goals decide +kernel

theorem stream_delivers_unwoken : (∃ missed, unwoken.expected nodeProto = unwoken.stream.emitted ++ missed ∧
      ∀ e ∈ missed, ∃ call a, unwoken.writers.world.owners[e.1 - 1]? = some call ∧ unwoken.writers.Returned call a ∧
        a.2 ≠ none) ∧
    ((∀ call a, unwoken.writers.Returned call a → call ∈ unwoken.writers.world.owners → a.2 = none) →
      unwoken.stream.emitted = unwoken.expected nodeProto) :=
  stream_delivers (readsBack_pairProto (by decide +kernel) (by decide +kernel)) reachable_unwoken (by decide +kernel) rfl
    (by decide +kernel)

end AntiFlock.Events
