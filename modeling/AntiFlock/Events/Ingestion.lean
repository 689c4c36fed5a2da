import AntiFlock.Effect.Pool
import AntiFlock.Events.Authenticity
import AntiFlock.Storage.Ingest
import Mathlib.Data.List.MinMax

set_option autoImplicit false

/-!
# Events that are appended side by side

`Append` reads the clock, stores the event in one transaction, and then moves the
cursor of the API projection by a read, a guarded write and a second read that no
lock holds together; at last it wakes the streams. Others may act between any two
of these requests.
-/
namespace AntiFlock.Events
open AntiFlock.Go AntiFlock.Storage AntiFlock.Sql AntiFlock.Effect

/-! ## The program -/

inductive StoreRequest where
  | getEvent (id : String)
  | appendEvent (event : EventEnvelope)
  | getProjectionCursor
  | setProjectionCursor (cursor : ProjectionCursor)
  | publish

def StoreRequest.Answer : StoreRequest → Type
  | getEvent _ => Except StorageErr (ℕ × EventEnvelope)
  | appendEvent _ => Except StorageErr Bool
  | getProjectionCursor => Except StorageErr (ℕ × Instant)
  | setProjectionCursor _ => Except StorageErr Unit
  | publish => Unit

abbrev storeSig : Sig := ⟨StoreRequest, StoreRequest.Answer⟩

/-- What `Append` returns: whether its transaction stored the event, and an error. -/
abbrev Appended := Bool × Option AppendErr

/-- The cursor that is written for an event, from the one that was read. -/
def nextCursor (ordinal : ℕ) (event : EventEnvelope) (now updatedAt : Instant) : ProjectionCursor :=
  ⟨ordinal, sortableTime event.receivedAt, event.id, if now < updatedAt then updatedAt else now⟩

/-- `advanceAPICursor`. A write that lost against one that went further is no error. -/
def advancing (ordinal : ℕ) (event : EventEnvelope) (now : Instant) : Prog storeSig (Option AppendErr) :=
  .call .getProjectionCursor fun
    | .error err => .ret (some (.storage err))
    | .ok (last, updatedAt) =>
      if ordinal ≤ last then .ret none
      else
        .call (.setProjectionCursor (nextCursor ordinal event now updatedAt)) fun
          | .ok () => .ret none
          | .error err =>
            .call .getProjectionCursor fun
              | .ok (latest, _) => .ret (if ordinal ≤ latest then none else some (.storage err))
              | .error _ => .ret (some (.storage err))

/-- The time of receipt: that of the stored event, or now. -/
def receivedTime (now : Instant) : Except StorageErr (ℕ × EventEnvelope) → Except StorageErr Instant
  | .ok (_, existing) => .ok existing.receivedAt
  | .error .eventNotFound => .ok now
  | .error err => .error err

/-- `Append` behind its transaction. -/
def settling (now : Instant) (id : String) (inserted : Bool) : Prog storeSig Appended :=
  .call (.getEvent id) fun
    | .error err => .ret (inserted, some (.storage err))
    | .ok (ordinal, stored) =>
      (advancing ordinal stored now).bind fun
        | some err => .ret (inserted, some err)
        | none => if inserted then .call .publish fun _ => .ret (true, none) else .ret (false, none)

section Append
variable (store : Store) (scheme : Scheme) (proto : Protobuf) (marshal : EventMessage → Option (List UInt8))
  (size : EventMessage → ℕ)

/-- `Append`, from its reading of the clock. -/
def Store.appending (now : Instant) (event : EventEnvelope) : Prog storeSig Appended :=
  match store.check scheme proto marshal size now event with
  | some err => .ret (false, some err)
  | none =>
    .call (.getEvent event.id) fun existing =>
      match receivedTime now existing with
      | .error err => .ret (false, some (.storage err))
      | .ok receivedAt =>
        match EventEnvelope.validate proto { event with receivedAt } with
        | some err => .ret (false, some (.invalid err))
        | none =>
          .call (.appendEvent { event with receivedAt }) fun
            | .error err => .ret (false, some (.storage err))
            | .ok inserted => settling now event.id inserted

end Append

/-! ## The store -/

def wakeBuffer : ℕ := 64

/-- The channel a stream is woken by. An evicted stream still finds what was sent before. -/
inductive Wake where
  | absent
  | subscribed (pending : ℕ)
  | evicted (pending : ℕ)
deriving DecidableEq

/-- `publish`, as one subscriber sees it. -/
def Wake.publish : Wake → Wake
  | .absent => .absent
  | .subscribed pending => if pending < wakeBuffer then .subscribed (pending + 1) else .evicted pending
  | .evicted pending => .evicted pending

structure Log where
  tables : Tables
  wake : Wake
  /-- The calls that stored the rows of `events`, row by row. No program reads it. -/
  owners : List ℕ
  /-- The calls that have woken the streams. No program reads it. -/
  published : List ℕ

def Log.new (nodes : Map String (Option Instant)) : Log := ⟨.new nodes, .absent, [], []⟩

section Handler
variable (proto : Protobuf)

def Log.appendEvent (w : Log) (call : ℕ) (event : EventEnvelope) : Except StorageErr Bool × Log :=
  ((Storage.appendEvent proto event w.tables).1,
    { w with
      tables := (Storage.appendEvent proto event w.tables).2
      owners := if (Storage.appendEvent proto event w.tables).1 = .ok true then w.owners ++ [call] else w.owners })

def Log.setCursor (w : Log) (cursor : ProjectionCursor) : Except StorageErr Unit × Log :=
  (((setProjectionCursor apiProjection cursor).commit w.tables).1,
    { w with tables := ((setProjectionCursor apiProjection cursor).commit w.tables).2 })

def Log.publish (w : Log) (call : ℕ) : Log :=
  { w with wake := w.wake.publish, published := w.published ++ [call] }

/-- The requests of one call. Transactions are run one after the other; each request may be disturbed. -/
def storing (faults : Faults) (call : ℕ) : Handler storeSig Log where
  step
    | .getEvent id, w, r, w' => Served faults (getEvent proto id w.tables, w) w r w'
    | .appendEvent event, w, r, w' => Served faults (w.appendEvent proto call event) w r w'
    | .getProjectionCursor, w, r, w' => Served faults (getProjectionCursor apiProjection w.tables, w) w r w'
    | .setProjectionCursor cursor, w, r, w' => Served faults (w.setCursor cursor) w r w'
    | .publish, w, _, w' => w' = w.publish call
  torn _ w w' := w' = w

def answered (call : ℕ) : (q : StoreRequest) → Log → q.Answer × Log
  | .getEvent id, w => (getEvent proto id w.tables, w)
  | .appendEvent event, w => w.appendEvent proto call event
  | .getProjectionCursor, w => (getProjectionCursor apiProjection w.tables, w)
  | .setProjectionCursor cursor, w => w.setCursor cursor
  | .publish, w => ((), w.publish call)

theorem storing_answered (faults : Faults) (call : ℕ) (q : StoreRequest) (w : Log) :
    (storing proto faults call).step q w (answered proto call q w).1 (answered proto call q w).2 := by
  cases q with
  | getEvent id => exact .served
  | appendEvent event => exact .served
  | getProjectionCursor => exact .served
  | setProjectionCursor cursor => exact .served
  | publish => rfl

def Appends (p : Prog storeSig Appended) : Prop :=
  ∃ (store : Store) (scheme : Scheme) (marshal : EventMessage → Option (List UInt8)) (size : EventMessage → ℕ)
    (now : Instant) (event : EventEnvelope), p = store.appending scheme proto marshal size now event

abbrev Writers := Pool storeSig Log Appended

def Unwritten (c : Writers) : Prop := c.threads = [] ∧ ∃ nodes, c.world = Log.new nodes

end Handler

/-! ## What a request does to the log -/

/-- What is asked of the protobuf library: an event that was encoded is read back as an event that is
valid, with the same id, kind and time of receipt. -/
def ReadsBack (proto : Protobuf) : Prop := ∀ event encoded, event.validate proto = none →
  proto.marshal event = some encoded → ∃ event', proto.unmarshal encoded = some event' ∧
    event'.validate proto = none ∧ event'.id = event.id ∧ event'.kind = event.kind ∧
    event'.receivedAt = event.receivedAt

structure Records (proto : Protobuf) (row : EventRow) (event : EventEnvelope) : Prop where
  reads : unmarshalEvent proto row.wire = .ok event
  id : event.id = row.id
  named : row.id ≠ ""
  kind : event.kind = row.kind
  received : sortableTime event.receivedAt = row.receivedAt
  dated : event.receivedAt.isZero = false

def Log.reached (w : Log) : ℕ := ((w.tables.cursors.lookup apiProjection).map (·.lastIngestOrdinal)).getD 0

structure Sound (proto : Protobuf) (w : Log) : Prop where
  ordinals : ∀ (k : ℕ) row, w.tables.events[k]? = some row → row.ordinal = k + 1
  last : w.tables.lastOrdinal = w.tables.events.length
  ids : (w.tables.events.map (·.id)).Nodup
  records : ∀ row ∈ w.tables.events, ∃ event, Records proto row event
  owners : w.owners.length = w.tables.events.length
  cursor : ∀ cursor, w.tables.cursors.lookup apiProjection = some cursor →
    ∃ row ∈ w.tables.events, row.ordinal = cursor.lastIngestOrdinal ∧ row.id = cursor.lastEventID

inductive Act (proto : Protobuf) (call : ℕ) (w : Log) : Log → Prop where
  | idle : Act proto call w w
  | stored {row : EventRow} {t : Tables} (unpublished : call ∉ w.published) (fresh : ∀ r ∈ w.tables.events, r.id ≠ row.id)
      (ordinal : row.ordinal = w.tables.lastOrdinal + 1) (records : ∃ event, Records proto row event)
      (events : t.events = w.tables.events ++ [row]) (last : t.lastOrdinal = w.tables.lastOrdinal + 1)
      (cursors : t.cursors = w.tables.cursors) :
      Act proto call w { w with tables := t, owners := w.owners ++ [call] }
  | moved {row : EventRow} {cursor : ProjectionCursor} (row_mem : row ∈ w.tables.events)
      (ordinal : cursor.lastIngestOrdinal = row.ordinal) (id : cursor.lastEventID = row.id)
      (forward : w.reached ≤ row.ordinal) :
      Act proto call w { w with tables := { w.tables with cursors := w.tables.cursors.insert apiProjection cursor } }
  | published : Act proto call w (w.publish call)

section Steps
variable {proto : Protobuf} {call : ℕ} {w w' : Log}

theorem Log.reached_of_lookup {cursor : ProjectionCursor} (h : w.tables.cursors.lookup apiProjection = some cursor) :
    w.reached = cursor.lastIngestOrdinal := by
  rw [Log.reached, h]
  rfl

theorem Log.reached_moved (cursor : ProjectionCursor) :
    Log.reached { w with tables := { w.tables with cursors := w.tables.cursors.insert apiProjection cursor } } =
      cursor.lastIngestOrdinal :=
  Log.reached_of_lookup (AList.lookup_insert _)

theorem records_stored (hproto : ReadsBack proto) {event : EventEnvelope} {encoded : List UInt8}
    (h : admission proto event = .ok encoded) (ordinal : ℕ) :
    ∃ event', Records proto (eventRow event ordinal encoded) event' := by
  unfold admission at h
  split at h
  · cases h
  rename_i hvalid
  split at h
  · cases h
  rename_i hdated
  split at h
  · cases h
  split at h
  · cases h
  rename_i hmarshal
  split at h
  · cases h
  cases h
  obtain ⟨event', hread, hvalid', hid, hkind, hreceived⟩ := hproto event encoded hvalid hmarshal
  refine ⟨event', ?_, hid, (EventEnvelope.ids_of_validate hvalid).1, hkind, congrArg sortableTime hreceived, ?_⟩
  · simp only [unmarshalEvent, eventRow, hread, hvalid']
  · rw [hreceived]
    exact Bool.eq_false_iff.mpr hdated

theorem act_appendEvent (hproto : ReadsBack proto) (hcall : call ∉ w.published) (event : EventEnvelope) :
    Act proto call w (w.appendEvent proto call event).2 := by
  unfold Log.appendEvent
  rcases appendEvent_stores proto event w.tables with ⟨hnew, encoded, hstores⟩ | ⟨hold, hsame⟩
  · rw [if_pos hnew]
    exact .stored hcall hstores.fresh rfl (records_stored hproto hstores.admitted _) hstores.events hstores.lastOrdinal
      hstores.cursors
  · rw [if_neg hold, hsame]
    exact .idle

theorem act_setCursor (cursor : ProjectionCursor) : Act proto call w (w.setCursor cursor).2 := by
  unfold Log.setCursor
  rcases Tx.commit_cases (setProjectionCursor apiProjection cursor) w.tables with ⟨err, hr⟩ | ⟨u, t, hdoes, hr⟩
  · rw [hr]
    exact .idle
  · rw [hr]
    obtain ⟨row, ⟨hfound, hforward⟩, rfl⟩ := setProjectionCursor_moves hdoes
    have hid : row.id = cursor.lastEventID := by simpa using List.find?_some hfound
    refine .moved (List.mem_of_find?_eq_some hfound) rfl hid.symm ?_
    unfold Log.reached
    cases hlookup : w.tables.cursors.lookup apiProjection with
    | none => exact Nat.zero_le _
    | some previous => exact hforward previous hlookup

theorem act_of_step (hproto : ReadsBack proto) {faults : Faults} {q : StoreRequest} {r : q.Answer}
    (hq : ∀ event, q = .appendEvent event → call ∉ w.published) (h : (storing proto faults call).step q w r w') :
    Act proto call w w' := by
  cases q with
  | getEvent id =>
    rcases Served.state h with rfl | rfl
    · exact .idle
    · exact .idle
  | appendEvent event =>
    rcases Served.state h with rfl | rfl
    · exact .idle
    · exact act_appendEvent hproto (hq event rfl) event
  | getProjectionCursor =>
    rcases Served.state h with rfl | rfl
    · exact .idle
    · exact .idle
  | setProjectionCursor cursor =>
    rcases Served.state h with rfl | rfl
    · exact .idle
    · exact act_setCursor cursor
  | publish =>
    cases h
    exact .published

theorem Act.sound (h : Act proto call w w') (hw : Sound proto w) : Sound proto w' := by
  cases h with
  | idle => exact hw
  | @stored row t unpublished fresh ordinal records events last cursors =>
    refine ⟨fun k row' hk => ?_, ?_, ?_, fun row' hrow' => ?_, ?_, fun cursor hcursor => ?_⟩
    · dsimp only at hk
      rw [events, List.getElem?_append] at hk
      split at hk
      · exact hw.ordinals k row' hk
      · rw [List.getElem?_singleton] at hk
        split at hk
        · cases hk
          rw [ordinal, hw.last]
          omega
        · cases hk
    · dsimp only
      rw [last, events, hw.last, List.length_append, List.length_singleton]
    · dsimp only
      rw [events, List.map_append, List.map_singleton]
      refine List.Nodup.append hw.ids (List.nodup_singleton _) ?_
      rw [List.disjoint_singleton]
      intro hmem
      obtain ⟨r, hr, hid⟩ := List.mem_map.mp hmem
      exact fresh r hr hid
    · dsimp only at hrow'
      rw [events, List.mem_append, List.mem_singleton] at hrow'
      rcases hrow' with hold | rfl
      · exact hw.records row' hold
      · exact records
    · dsimp only
      rw [events, List.length_append, List.length_append, hw.owners]
      rfl
    · dsimp only at hcursor ⊢
      rw [cursors] at hcursor
      obtain ⟨row', hrow', hnames⟩ := hw.cursor cursor hcursor
      exact ⟨row', by rw [events]; exact List.mem_append_left _ hrow', hnames⟩
  | @moved row cursor row_mem ordinal id forward =>
    refine ⟨hw.ordinals, hw.last, hw.ids, hw.records, hw.owners, fun cursor' hcursor' => ?_⟩
    dsimp only at hcursor'
    rw [AList.lookup_insert, Option.some.injEq] at hcursor'
    subst hcursor'
    exact ⟨row, row_mem, ordinal.symm, id.symm⟩
  | published => exact ⟨hw.ordinals, hw.last, hw.ids, hw.records, hw.owners, hw.cursor⟩

theorem Act.reached_le (h : Act proto call w w') : w.reached ≤ w'.reached := by
  cases h with
  | idle => exact Nat.le_refl _
  | stored unpublished fresh ordinal records events last cursors =>
    unfold Log.reached
    dsimp only
    rw [cursors]
  | moved row_mem ordinal id forward =>
    rw [Log.reached_moved, ordinal]
    exact forward
  | published => exact Nat.le_refl _

theorem Sound.find (hw : Sound proto w) {row : EventRow} (h : row ∈ w.tables.events) :
    w.tables.events.find? (fun r => r.id = row.id) = some row := by
  have hsome : (w.tables.events.find? fun r => decide (r.id = row.id)).isSome = true :=
    List.find?_isSome.mpr ⟨row, h, decide_eq_true rfl⟩
  obtain ⟨found, hfound⟩ := Option.isSome_iff_exists.mp hsome
  have hid : found.id = row.id := by simpa using List.find?_some hfound
  rw [hfound, List.inj_on_of_nodup_map hw.ids (List.mem_of_find?_eq_some hfound) h hid]

theorem Sound.getEvent (hw : Sound proto w) {k : ℕ} {row : EventRow} (h : w.tables.events[k]? = some row) :
    ∃ event, Records proto row event ∧ Events.getEvent proto row.id w.tables = .ok (row.ordinal, event) := by
  have hmem := List.mem_of_getElem? h
  obtain ⟨event, hrecords⟩ := hw.records row hmem
  refine ⟨event, hrecords, ?_⟩
  simp only [Events.getEvent, hw.find hmem, hrecords.reads]
  rfl

end Steps

/-! ## A call among others -/

structure Rely (call : ℕ) (u v : Log) : Prop where
  events : u.tables.events <+: v.tables.events
  owners : ∃ others, v.owners = u.owners ++ others ∧ call ∉ others
  published : call ∈ v.published ↔ call ∈ u.published
  reached : u.reached ≤ v.reached

structure Owns (call k : ℕ) (row : EventRow) (w : Log) : Prop where
  row : w.tables.events[k]? = some row
  owner : ∀ j : ℕ, w.owners[j]? = some call ↔ j = k

def Untouched (call : ℕ) (w : Log) : Prop := call ∉ w.owners ∧ call ∉ w.published

def Dated (w : Log) : Prop := ∀ cursor, w.tables.cursors.lookup apiProjection = some cursor → cursor.updatedAt.Parses

/-- A cursor that is written at a time that can be read and, unless the stored cursor has gone as far
already, not before the time of that cursor. -/
structure Timely (cursor : ProjectionCursor) (t : Tables) : Prop where
  dated : cursor.updatedAt.isZero = false
  parses : cursor.updatedAt.Parses
  later : ∀ previous, t.cursors.lookup apiProjection = some previous →
    previous.lastIngestOrdinal < cursor.lastIngestOrdinal → previous.updatedAt ≤ cursor.updatedAt

/-- Requests that nothing disturbs, with timely cursors only. -/
def timely (proto : Protobuf) (call : ℕ) : Handler storeSig Log where
  step q w r w' := (storing proto .none call).step q w r w' ∧
    ∀ cursor, q = .setProjectionCursor cursor → Timely cursor w.tables
  torn _ w w' := w' = w

/-- What a call that has returned leaves. Where it has stored an event and reports no error, the streams
were woken and the cursor has reached the event. -/
def Settled (quiet : Prop) (call : ℕ) (w : Log) (a : Appended) : Prop := ∀ k : ℕ, w.owners[k]? = some call →
  (a.2 = none → a.1 = true ∧ call ∈ w.published ∧ k + 1 ≤ w.reached) ∧ (quiet → a.2 = none)

/-- A handler that serves the requests of a call, without disturbance where it is quiet. -/
structure Serves (proto : Protobuf) (call : ℕ) (quiet : Prop) (H : Handler storeSig Log) : Prop where
  any : ∀ q w r w', H.step q w r w' → ∃ faults, (storing proto faults call).step q w r w'
  timely : quiet → ∀ q w r w', H.step q w r w' → (timely proto call).step q w r w'

section Calls
variable {proto : Protobuf} {call : ℕ} {u v w w' : Log} {k : ℕ} {row : EventRow}

theorem Rely.refl (call : ℕ) (w : Log) : Rely call w w :=
  ⟨List.prefix_rfl, ⟨[], (List.append_nil _).symm, List.not_mem_nil⟩, Iff.rfl, Nat.le_refl _⟩

theorem Rely.trans (h : Rely call u v) (h' : Rely call v w) : Rely call u w := by
  obtain ⟨others, howners, hnot⟩ := h.owners
  obtain ⟨others', howners', hnot'⟩ := h'.owners
  refine ⟨h.events.trans h'.events, ⟨others ++ others', ?_, ?_⟩, h'.published.trans h.published,
    h.reached.trans h'.reached⟩
  · rw [howners', howners, List.append_assoc]
  · rw [List.mem_append, not_or]
    exact ⟨hnot, hnot'⟩

theorem Act.rely {i j : ℕ} (hne : i ≠ j) (h : Act proto i u v) : Rely j u v := by
  have hreached := h.reached_le
  cases h with
  | idle => exact .refl j u
  | stored unpublished fresh ordinal records events last cursors =>
    refine ⟨?_, ⟨[i], rfl, ?_⟩, Iff.rfl, hreached⟩
    · dsimp only
      rw [events]
      exact List.prefix_append _ _
    · rw [List.mem_singleton]
      exact hne.symm
  | moved row_mem ordinal id forward =>
    exact ⟨List.prefix_rfl, ⟨[], (List.append_nil _).symm, List.not_mem_nil⟩, Iff.rfl, hreached⟩
  | published =>
    refine ⟨List.prefix_rfl, ⟨[], (List.append_nil _).symm, List.not_mem_nil⟩, ?_, hreached⟩
    simp [Log.publish, hne.symm]

theorem Untouched.rely (hu : Untouched call u) (h : Rely call u v) : Untouched call v := by
  obtain ⟨others, howners, hnot⟩ := h.owners
  refine ⟨?_, fun hpublished => hu.2 (h.published.mp hpublished)⟩
  rw [howners, List.mem_append, not_or]
  exact ⟨hu.1, hnot⟩

theorem Rely.owner (h : Rely call u v) (j : ℕ) : v.owners[j]? = some call ↔ u.owners[j]? = some call := by
  obtain ⟨others, howners, hnot⟩ := h.owners
  rw [howners, List.getElem?_append]
  split
  · exact Iff.rfl
  · rename_i hge
    rw [List.getElem?_eq_none (Nat.le_of_not_lt hge)]
    constructor
    · intro hother
      exact absurd (List.mem_of_getElem? hother) hnot
    · rintro ⟨⟩

theorem Owns.rely (hu : Owns call k row u) (h : Rely call u v) : Owns call k row v := by
  obtain ⟨rest, hrest⟩ := h.events
  refine ⟨?_, fun j => (h.owner j).trans (hu.owner j)⟩
  rw [← hrest, List.getElem?_append_left (List.getElem?_eq_some_iff.mp hu.row).1]
  exact hu.row

theorem Settled.rely {quiet : Prop} {a : Appended} (hu : Settled quiet call u a) (h : Rely call u v) :
    Settled quiet call v a := by
  intro k hk
  obtain ⟨hdone, hquiet⟩ := hu k ((h.owner k).mp hk)
  refine ⟨fun hnone => ?_, hquiet⟩
  obtain ⟨hnew, hpublished, hreached⟩ := hdone hnone
  exact ⟨hnew, h.published.mpr hpublished, hreached.trans h.reached⟩

/-! ### Its requests -/

variable {quiet : Prop} {H : Handler storeSig Log}

variable (proto quiet) in
/-- What holds of the log at any time, and where no request is disturbed. -/
structure Kept (w : Log) : Prop where
  sound : Sound proto w
  dated : quiet → Dated w

theorem dated_of_timely {q : StoreRequest} {r : q.Answer} (h : (timely proto call).step q w r w') (hw : Dated w) :
    Dated w' := by
  obtain ⟨hstep, htimely⟩ := h
  cases q with
  | getEvent id =>
    cases Served.undisturbed hstep
    exact hw
  | appendEvent event =>
    have hcursors : w'.tables.cursors = w.tables.cursors := by
      have hw' : (w.appendEvent proto call event).2 = w' := congrArg Prod.snd (Served.undisturbed hstep)
      rw [← hw']
      rcases appendEvent_stores proto event w.tables with ⟨-, encoded, hstores⟩ | ⟨-, hsame⟩
      · exact hstores.cursors
      · exact congrArg Tables.cursors hsame
    unfold Dated
    rw [hcursors]
    exact hw
  | getProjectionCursor =>
    cases Served.undisturbed hstep
    exact hw
  | setProjectionCursor cursor =>
    have hw' : (w.setCursor cursor).2 = w' := congrArg Prod.snd (Served.undisturbed hstep)
    rw [← hw']
    unfold Log.setCursor
    rcases Tx.commit_cases (setProjectionCursor apiProjection cursor) w.tables with ⟨err, hr⟩ | ⟨u, t, hdoes, hr⟩
    · rw [hr]
      exact hw
    · rw [hr]
      obtain ⟨row, -, rfl⟩ := setProjectionCursor_moves hdoes
      intro cursor' hcursor'
      dsimp only at hcursor'
      rw [AList.lookup_insert, Option.some.injEq] at hcursor'
      subst hcursor'
      exact (htimely cursor rfl).parses
  | publish =>
    cases hstep
    exact hw

theorem Serves.kept (hproto : ReadsBack proto) (hs : Serves proto call quiet H) {q : StoreRequest} {r : q.Answer}
    (hq : ∀ event, q = .appendEvent event → call ∉ w.published) (h : H.step q w r w') (hw : Kept proto quiet w) :
    Act proto call w w' ∧ Kept proto quiet w' := by
  obtain ⟨faults, hstep⟩ := hs.any q w r w' h
  have hact := act_of_step hproto hq hstep
  exact ⟨hact, hact.sound hw.sound, fun hquiet => dated_of_timely (hs.timely hquiet q w r w' h) (hw.dated hquiet)⟩

variable (proto call quiet H) in
/-- The call keeps the log in order, and ends as `Q` says, whatever the others do. -/
abbrev Right {α : Type} (Q : Log → α → Prop) : Log → Prog storeSig α → Prop :=
  Ok H (Kept proto quiet) (Rely call) (Act proto call) Q

theorem right_call (hproto : ReadsBack proto) (hs : Serves proto call quiet H) {α : Type} {Q : Log → α → Prop}
    {seen : Log} {q : StoreRequest} {p : q.Answer → Prog storeSig α}
    (hq : ∀ event, q = .appendEvent event → call ∉ seen.published)
    (h : ∀ w, Rely call seen w → Kept proto quiet w → ∀ r w', H.step q w r w' → Kept proto quiet w' →
      Right proto call quiet H Q w' (p r)) : Right proto call quiet H Q seen (.call q p) := by
  intro w hrely hw r w' hstep
  obtain ⟨hact, hw'⟩ := hs.kept hproto (fun event he hmem => hq event he (hrely.published.mp hmem)) hstep hw
  exact ⟨hact, hw', h w hrely hw r w' hstep hw'⟩

theorem getProjectionCursor_ok {last : ℕ} {updatedAt : Instant}
    (h : getProjectionCursor apiProjection w.tables = .ok (last, updatedAt)) : last = w.reached := by
  unfold getProjectionCursor at h
  unfold Log.reached
  cases hlookup : w.tables.cursors.lookup apiProjection with
  | none =>
    rw [hlookup] at h
    cases h
    rfl
  | some cursor =>
    rw [hlookup] at h
    simp only at h
    split at h
    · cases h
      rfl
    · cases h

theorem Dated.getProjectionCursor (hw : Dated w) :
    ∃ updatedAt, Events.getProjectionCursor apiProjection w.tables = .ok (w.reached, updatedAt) := by
  cases hlookup : w.tables.cursors.lookup apiProjection with
  | none =>
    refine ⟨Instant.zero, ?_⟩
    simp only [Events.getProjectionCursor, Log.reached, hlookup]
    rfl
  | some cursor =>
    refine ⟨cursor.updatedAt, ?_⟩
    simp only [Events.getProjectionCursor, Log.reached, hlookup, if_pos (hw cursor hlookup)]
    rfl

theorem Serves.read (hs : Serves proto call quiet H) (hw : Kept proto quiet w)
    {r : Except StorageErr (ℕ × Instant)} (h : H.step .getProjectionCursor w r w') :
    w' = w ∧ (∀ last updatedAt, r = .ok (last, updatedAt) → last = w.reached) ∧ (quiet → ∀ err, r ≠ .error err) := by
  obtain ⟨faults, hstep⟩ := hs.any _ _ _ _ h
  refine ⟨?_, ?_, fun hquiet err herr => ?_⟩
  · rcases Served.state hstep with hsame | hsame
    · exact hsame
    · exact hsame
  · rintro last updatedAt rfl
    exact getProjectionCursor_ok (congrArg Prod.fst (Served.ok hstep))
  · subst herr
    obtain ⟨updatedAt, hread⟩ := (hw.dated hquiet).getProjectionCursor
    have htrue := congrArg Prod.fst (Served.undisturbed (hs.timely hquiet _ _ _ _ h).1)
    rw [hread] at htrue
    cases htrue

theorem Serves.write (hs : Serves proto call quiet H) (hw : Kept proto quiet w) (hrow : row ∈ w.tables.events)
    {cursor : ProjectionCursor} (hid : cursor.lastEventID = row.id) (hordinal : cursor.lastIngestOrdinal = row.ordinal)
    (htime : cursor.lastReceivedAt = row.receivedAt) {r : Except StorageErr Unit}
    (h : H.step (.setProjectionCursor cursor) w r w') :
    (w'.tables.events = w.tables.events ∧ w'.owners = w.owners ∧ w'.published = w.published) ∧
      (r = .ok () → row.ordinal ≤ w'.reached) ∧ (quiet → row.ordinal ≤ w'.reached) := by
  obtain ⟨faults, hstep⟩ := hs.any _ _ _ _ h
  have hfound : w.tables.events.find? (fun r => r.id = cursor.lastEventID) = some row := by
    rw [hid]
    exact hw.sound.find hrow
  have hwrites : (w.setCursor cursor).1 = .ok () → row.ordinal ≤ (w.setCursor cursor).2.reached := by
    intro hok
    obtain ⟨row', ⟨hfound', -⟩, htables⟩ := setProjectionCursor_moves (Tx.does_of_commit hok)
    rw [hfound, Option.some.injEq] at hfound'
    subst hfound'
    unfold Log.reached Log.setCursor
    rw [htables, AList.lookup_insert]
    exact Nat.le_refl _
  refine ⟨?_, ?_, fun hquiet => ?_⟩
  · rcases Served.state hstep with rfl | rfl
    · exact ⟨rfl, rfl, rfl⟩
    · refine ⟨?_, rfl, rfl⟩
      unfold Log.setCursor
      rcases Tx.commit_cases (setProjectionCursor apiProjection cursor) w.tables with ⟨err, hr⟩ | ⟨u, t, hdoes, hr⟩
      · rw [hr]
      · rw [hr]
        obtain ⟨cursors, rfl⟩ := setProjectionCursor_frame hdoes
        rfl
  · rintro rfl
    have htrue := Served.ok hstep
    have hreached := hwrites (congrArg Prod.fst htrue)
    rwa [congrArg Prod.snd htrue] at hreached
  · obtain ⟨hserved, htimely⟩ := hs.timely hquiet _ _ _ _ h
    have hw' : (w.setCursor cursor).2 = w' := congrArg Prod.snd (Served.undisturbed hserved)
    rw [← hw']
    by_cases hless : row.ordinal ≤ w.reached
    · have hact : Act proto call w (w.setCursor cursor).2 := act_setCursor cursor
      exact hless.trans hact.reached_le
    · refine hwrites (congrArg Prod.fst (Tx.commit_of_does (setProjectionCursor_written (by decide) ?_
        (htimely cursor rfl).dated hfound hordinal htime fun previous hprevious => ?_)))
      · rw [hid]
        obtain ⟨event, hrecords⟩ := hw.sound.records row hrow
        exact hrecords.named
      · rw [Log.reached_of_lookup hprevious] at hless
        refine ⟨Nat.le_of_not_le hless, .inl fun heq => hless (Nat.le_of_eq heq.symm), hw.dated hquiet previous hprevious, ?_⟩
        exact (htimely cursor rfl).later previous hprevious (by rw [hordinal]; exact Nat.lt_of_not_le hless)

/-! ### Its programs -/

theorem Owns.of_eq (hw : Owns call k row w) (hevents : w'.tables.events = w.tables.events)
    (howners : w'.owners = w.owners) : Owns call k row w' := by
  refine ⟨?_, fun j => ?_⟩
  · rw [hevents]
    exact hw.row
  · rw [howners]
    exact hw.owner j

theorem advancing_right (hproto : ReadsBack proto) (hs : Serves proto call quiet H) {seen : Log}
    {stored : EventEnvelope} (hseen : Owns call k row seen) (hrecords : Records proto row stored) (now : Instant) :
    Right proto call quiet H (fun w err => Owns call k row w ∧ (err = none → row.ordinal ≤ w.reached) ∧
      (quiet → err = none)) seen (advancing row.ordinal stored now) := by
  refine right_call hproto hs (by rintro _ ⟨⟩) fun w hrely hw r w₁ hread _ => ?_
  obtain ⟨rfl, hlast, hclear⟩ := hs.read hw hread
  have howns := hseen.rely hrely
  cases r with
  | error err => exact ⟨howns, by rintro ⟨⟩, fun hquiet => absurd rfl (hclear hquiet err)⟩
  | ok read =>
    dsimp only
    split
    · rename_i hle
      rw [hlast read.1 read.2 rfl] at hle
      exact ⟨howns, fun _ => hle, fun _ => rfl⟩
    · refine right_call hproto hs (by rintro _ ⟨⟩) fun w₂ hrely₂ hw₂ r₂ w₃ hwrite hw₃ => ?_
      have howns₂ := howns.rely hrely₂
      obtain ⟨⟨hevents, howners, -⟩, hdone, hforward⟩ := hs.write hw₂ (List.mem_of_getElem? howns₂.row)
        (show (nextCursor row.ordinal stored now read.2).lastEventID = row.id from hrecords.id) rfl
        hrecords.received hwrite
      have howns₃ := howns₂.of_eq hevents howners
      cases r₂ with
      | ok u => exact ⟨howns₃, fun _ => hdone rfl, fun _ => rfl⟩
      | error err =>
        -- the write failed: how far others have gone by now decides
        refine right_call hproto hs (by rintro _ ⟨⟩) fun w₄ hrely₄ hw₄ r₄ w₅ hread₄ _ => ?_
        obtain ⟨rfl, hlast₄, hclear₄⟩ := hs.read hw₄ hread₄
        have howns₄ := howns₃.rely hrely₄
        cases r₄ with
        | error err' => exact ⟨howns₄, by rintro ⟨⟩, fun hquiet => absurd rfl (hclear₄ hquiet err')⟩
        | ok latest =>
          have hlatest := hlast₄ latest.1 latest.2 rfl
          refine ⟨howns₄, fun hnone => ?_, fun hquiet => ?_⟩
          · split at hnone
            · rename_i hle
              rwa [hlatest] at hle
            · cases hnone
          · refine if_pos ?_
            rw [hlatest]
            exact (hforward hquiet).trans hrely₄.reached

theorem settling_right (hproto : ReadsBack proto) (hs : Serves proto call quiet H) {seen : Log}
    (hseen : Owns call k row seen) (now : Instant) :
    Right proto call quiet H (Settled quiet call) seen (settling now row.id true) := by
  have hfailed (w : Log) (err : AppendErr) (hquiet : ¬ quiet) : Settled quiet call w (true, some err) :=
    fun _ _ => ⟨by rintro ⟨⟩, fun h => absurd h hquiet⟩
  refine right_call hproto hs (by rintro _ ⟨⟩) fun w hrely hw r w' hstep hw' => ?_
  have howns := hseen.rely hrely
  obtain ⟨event, hrecords, hread⟩ := hw.sound.getEvent howns.row
  obtain ⟨faults, hserved⟩ := hs.any _ _ _ _ hstep
  cases r with
  | error err =>
    refine hfailed w' _ fun hquiet => ?_
    have htrue := congrArg Prod.fst (Served.undisturbed (hs.timely hquiet _ _ _ _ hstep).1)
    rw [hread] at htrue
    cases htrue
  | ok read =>
    have htrue := Served.ok hserved
    rw [hread] at htrue
    cases htrue
    refine ok_bind (advancing_right hproto hs howns hrecords now) fun w₂ err ⟨howns₂, hreached, hclear⟩ => ?_
    cases err with
    | some err =>
      refine hfailed w₂ err fun hquiet => ?_
      cases hclear hquiet
    | none =>
      have hordinal : row.ordinal = k + 1 := hw.sound.ordinals k row howns.row
      refine right_call hproto hs (by rintro _ ⟨⟩) fun w₃ hrely₃ hw₃ r₃ w₄ hpublish _ => ?_
      obtain ⟨faults', hpublished⟩ := hs.any _ _ _ _ hpublish
      have hw₄ : w₄ = w₃.publish call := hpublished
      subst hw₄
      intro j hj
      have hjk := ((howns₂.rely hrely₃).owner j).mp hj
      subst hjk
      refine ⟨fun _ => ⟨rfl, List.mem_append_right _ (List.mem_singleton_self _), ?_⟩, fun _ => rfl⟩
      exact hordinal ▸ (hreached rfl).trans hrely₃.reached

theorem right_of_only (hproto : ReadsBack proto) (hs : Serves proto call quiet H) {seen : Log}
    {p : Prog storeSig Appended} (hp : p.Only fun q : StoreRequest => ∀ event, q ≠ .appendEvent event)
    (hseen : call ∉ seen.owners) : Right proto call quiet H (Settled quiet call) seen p := by
  refine ok_mono (ok_only (K := fun w => call ∉ w.owners) hp p.returns_true hseen (fun h hu => ?_)
    fun q w r w' hq hw hstep => ?_) fun w a hw k hk => absurd (List.mem_of_getElem? hk) hw.1
  · obtain ⟨others, howners, hnot⟩ := h.owners
    rw [howners, List.mem_append, not_or]
    exact ⟨hu, hnot⟩
  · obtain ⟨hact, hw'⟩ := hs.kept hproto (fun event he => absurd he (hq event)) hstep hw
    refine ⟨hact, hw', fun howner => ?_⟩
    obtain ⟨faults, hserved⟩ := hs.any _ _ _ _ hstep
    have howners : w'.owners = w.owners := by
      cases q with
      | getEvent id => rcases Served.state hserved with rfl | rfl <;> rfl
      | appendEvent event => exact absurd rfl (hq event)
      | getProjectionCursor => rcases Served.state hserved with rfl | rfl <;> rfl
      | setProjectionCursor cursor => rcases Served.state hserved with rfl | rfl <;> rfl
      | publish =>
        cases hserved
        rfl
    rw [howners]
    exact howner

theorem advancing_only (ordinal : ℕ) (event : EventEnvelope) (now : Instant) :
    (advancing ordinal event now).Only fun q : StoreRequest => ∀ event, q ≠ .appendEvent event := by
  refine ⟨by rintro _ ⟨⟩, fun r => ?_⟩
  cases r with
  | error err => trivial
  | ok read =>
    dsimp only
    split
    · trivial
    · refine ⟨by rintro _ ⟨⟩, fun r => ?_⟩
      cases r with
      | ok u => trivial
      | error err =>
        refine ⟨by rintro _ ⟨⟩, fun r => ?_⟩
        cases r with
        | ok latest => trivial
        | error err => trivial

theorem settling_only (now : Instant) (id : String) (inserted : Bool) :
    (settling now id inserted).Only fun q : StoreRequest => ∀ event, q ≠ .appendEvent event := by
  refine ⟨by rintro _ ⟨⟩, fun r => ?_⟩
  cases r with
  | error err => trivial
  | ok read =>
    refine (advancing_only read.1 read.2 now).bind fun err => ?_
    cases err with
    | some err => trivial
    | none =>
      cases inserted with
      | false => trivial
      | true => exact ⟨by rintro _ ⟨⟩, fun _ => trivial⟩

theorem Log.appendEvent_owns (hw : Sound proto w) (hcall : call ∉ w.owners) {event : EventEnvelope}
    (h : (w.appendEvent proto call event).1 = .ok true) :
    ∃ k row, row.id = event.id ∧ Owns call k row (w.appendEvent proto call event).2 := by
  unfold Log.appendEvent at h ⊢
  rcases appendEvent_stores proto event w.tables with ⟨hnew, encoded, hstores⟩ | ⟨hold, -⟩
  · refine ⟨w.tables.events.length, eventRow event (w.tables.lastOrdinal + 1) encoded, rfl, ?_, fun j => ?_⟩
    · rw [hstores.events, List.getElem?_concat_length]
    · rw [if_pos hnew, ← hw.owners, List.getElem?_append]
      split
      · rename_i hlt
        constructor
        · intro hj
          exact absurd (List.mem_of_getElem? hj) hcall
        · rintro rfl
          exact absurd hlt (Nat.lt_irrefl _)
      · rename_i hge
        rw [List.getElem?_singleton]
        constructor
        · intro hj
          split at hj
          · omega
          · cases hj
        · rintro rfl
          rw [if_pos (Nat.sub_self _)]
  · exact absurd h hold

theorem Log.appendEvent_unchanged {event : EventEnvelope} (h : (w.appendEvent proto call event).1 ≠ .ok true) :
    (w.appendEvent proto call event).2 = w := by
  unfold Log.appendEvent at h ⊢
  rcases appendEvent_stores proto event w.tables with ⟨hnew, -⟩ | ⟨hold, hsame⟩
  · exact absurd hnew h
  · rw [if_neg hold, hsame]

theorem appending_right (hproto : ReadsBack proto) (hs : Serves proto call quiet H) {seen : Log}
    {p : Prog storeSig Appended} (hp : Appends proto p) (hseen : Untouched call seen) :
    Right proto call quiet H (Settled quiet call) seen p := by
  obtain ⟨store, scheme, marshal, size, now, event, rfl⟩ := hp
  unfold Store.appending
  have hnothing {w : Log} (hw : Untouched call w) (a : Appended) : Settled quiet call w a :=
    fun k hk => absurd (List.mem_of_getElem? hk) hw.1
  split
  · exact hnothing hseen _
  refine right_call hproto hs (by rintro _ ⟨⟩) fun w hrely hw r w' hstep hw' => ?_
  have hw'eq : w' = w := by
    obtain ⟨faults, hserved⟩ := hs.any _ _ _ _ hstep
    rcases Served.state hserved with hsame | hsame
    · exact hsame
    · exact hsame
  subst hw'eq
  have huntouched := hseen.rely hrely
  split
  · exact hnothing huntouched _
  rename_i receivedAt _
  split
  · exact hnothing huntouched _
  refine right_call hproto hs (fun _ _ => huntouched.2) fun w₂ hrely₂ hw₂ r₂ w₃ hstep₂ hw₃ => ?_
  have huntouched₂ := huntouched.rely hrely₂
  obtain ⟨faults, hserved⟩ := hs.any _ _ _ _ hstep₂
  cases r₂ with
  | error err =>
    -- the event may be stored all the same, but not where nothing is disturbed
    refine fun j hj => ⟨by rintro ⟨⟩, fun hquiet => ?_⟩
    have htrue := Served.undisturbed (hs.timely hquiet _ _ _ _ hstep₂).1
    have hfirst : (w₂.appendEvent proto call { event with receivedAt }).1 = .error err := congrArg Prod.fst htrue
    have hsecond : (w₂.appendEvent proto call { event with receivedAt }).2 = w₃ := congrArg Prod.snd htrue
    have hsame := Log.appendEvent_unchanged (show (w₂.appendEvent proto call { event with receivedAt }).1 ≠ .ok true by
      rw [hfirst]
      rintro ⟨⟩)
    rw [hsecond] at hsame
    subst hsame
    exact absurd (List.mem_of_getElem? hj) huntouched₂.1
  | ok inserted =>
    have htrue := Served.ok hserved
    have hfirst : (w₂.appendEvent proto call { event with receivedAt }).1 = .ok inserted := congrArg Prod.fst htrue
    have hsecond : (w₂.appendEvent proto call { event with receivedAt }).2 = w₃ := congrArg Prod.snd htrue
    cases inserted with
    | true =>
      obtain ⟨j, row, hid, howns⟩ := Log.appendEvent_owns hw₂.sound huntouched₂.1 hfirst
      rw [hsecond] at howns
      have hsettling := settling_right hproto hs howns now
      rwa [hid] at hsettling
    | false =>
      have hsame := Log.appendEvent_unchanged (show (w₂.appendEvent proto call { event with receivedAt }).1 ≠ .ok true by
        rw [hfirst]
        rintro ⟨⟩)
      rw [hsecond] at hsame
      subst hsame
      exact right_of_only hproto hs (settling_only now event.id false) huntouched₂.1

end Calls

/-! ## Every interleaving -/

section Pools
variable {proto : Protobuf} {quiet : Prop} {H : ℕ → Handler storeSig Log} {c c' : Writers}

variable (proto quiet H) in
structure Orderly (c : Writers) : Prop where
  good : c.Good H (Kept proto quiet) Rely (Act proto) (Settled quiet)
  fresh : c.Fresh Untouched

theorem Orderly.step (hproto : ReadsBack proto) (hs : ∀ call, Serves proto call quiet (H call))
    (hc : Orderly proto quiet H c) (h : Pool.Step H (Appends proto) c c') :
    Orderly proto quiet H c' ∧ (c'.world = c.world ∨ ∃ call, Act proto call c.world c'.world) := by
  obtain ⟨hgood, hfresh, hworld⟩ := h.good_fresh Rely.refl Rely.trans (fun hne hact => hact.rely hne)
    (fun hne hact hu => hu.rely (hact.rely hne)) (fun call p hp w _ hu => appending_right hproto (hs call) hp hu)
    hc.good hc.fresh
  exact ⟨⟨hgood, hfresh⟩, hworld⟩

theorem sound_new (nodes : Map String (Option Instant)) : Sound proto (.new nodes) := by
  refine ⟨fun k row hk => ?_, rfl, List.nodup_nil, fun row hrow => ?_, rfl, fun cursor hcursor => ?_⟩
  · cases hk
  · cases hrow
  · cases hcursor

theorem orderly_of_reachable (hproto : ReadsBack proto) (hs : ∀ call, Serves proto call quiet (H call))
    (h : Reachable Unwritten (Pool.Step H (Appends proto)) c) : Orderly proto quiet H c := by
  refine h.invariant ?_ fun c c' hc hstep => (hc.step hproto hs hstep).1
  rintro ⟨w, threads⟩ ⟨hthreads, nodes, hnew⟩
  dsimp only at hthreads hnew
  subst hthreads hnew
  refine ⟨Pool.good_nil ⟨sound_new nodes, fun _ cursor hcursor => ?_⟩, fun i _ => ⟨?_, ?_⟩⟩
  · cases hcursor
  · exact List.not_mem_nil
  · exact List.not_mem_nil

theorem serves_storing (proto : Protobuf) (faults : Faults) (call : ℕ) :
    Serves proto call False (storing proto faults call) :=
  ⟨fun _ _ _ _ h => ⟨faults, h⟩, False.elim⟩

theorem serves_timely (proto : Protobuf) (call : ℕ) : Serves proto call True (timely proto call) :=
  ⟨fun _ _ _ _ h => ⟨.none, h.1⟩, fun _ _ _ _ _ h => h⟩

theorem Orderly.settled (hc : Orderly proto quiet H c) {call : ℕ} {a : Appended} (h : c.Returned call a) :
    Settled quiet call c.world a :=
  hc.good.returned h fun hrely hsettled => hsettled.rely hrely

theorem Orderly.owner_lt (hc : Orderly proto quiet H c) {call : ℕ} (h : call ∈ c.world.owners) :
    call < c.threads.length := by
  by_contra hge
  exact (hc.fresh call (Nat.le_of_not_lt hge)).1 h

end Pools

def Log.greatest (w : Log) : ℕ := (w.tables.events.map (·.ordinal)).foldr max 0

section Cursor
variable {proto : Protobuf} {w : Log}

theorem Sound.ordinal_le (hw : Sound proto w) {row : EventRow} (h : row ∈ w.tables.events) :
    row.ordinal ≤ w.tables.events.length := by
  obtain ⟨k, hk⟩ := List.mem_iff_getElem?.mp h
  rw [hw.ordinals k row hk]
  exact (List.getElem?_eq_some_iff.mp hk).1

theorem Sound.reached_le (hw : Sound proto w) : w.reached ≤ w.tables.events.length := by
  unfold Log.reached
  cases hlookup : w.tables.cursors.lookup apiProjection with
  | none => exact Nat.zero_le _
  | some cursor =>
    obtain ⟨row, hrow, hordinal, -⟩ := hw.cursor cursor hlookup
    rw [Option.map_some, Option.getD_some, ← hordinal]
    exact hw.ordinal_le hrow

theorem Sound.greatest (hw : Sound proto w) : w.greatest = w.tables.events.length := by
  refine Nat.le_antisymm (List.max_le_of_forall_le _ _ fun n hn => ?_) ?_
  · obtain ⟨row, hrow, rfl⟩ := List.mem_map.mp hn
    exact hw.ordinal_le hrow
  · rcases List.eq_nil_or_concat w.tables.events with hnil | ⟨rows, row, hrows⟩
    · rw [hnil]
      exact Nat.zero_le _
    · have hlast : w.tables.events[rows.length]? = some row := by
        rw [hrows, List.concat_eq_append, List.getElem?_concat_length]
      refine List.le_max_of_le (List.mem_map_of_mem (List.mem_of_getElem? hlast)) ?_
      rw [hw.ordinals _ row hlast, hrows, List.concat_eq_append, List.length_append, List.length_singleton]

end Cursor

/-- However the calls to `Append` interleave, and whatever fails, the API cursor never goes back. Where
every cursor is written in time and nothing else fails, each call that has stored an event reports so and
no error, and when all calls have returned the cursor has the greatest ordinal of a stored event. -/
theorem api_cursor_settles (proto : Protobuf) (hproto : ReadsBack proto) :
    (∀ faults (c c' : Writers), Reachable Unwritten (Pool.Step (storing proto faults) (Appends proto)) c →
      Pool.Step (storing proto faults) (Appends proto) c c' → c.world.reached ≤ c'.world.reached) ∧
    ∀ c : Writers, Reachable Unwritten (Pool.Step (timely proto) (Appends proto)) c →
      (∀ call a, c.Returned call a → call ∈ c.world.owners → a = (true, none)) ∧
      (c.Idle → c.world.reached = c.world.greatest) := by
  refine ⟨fun faults c c' hc hstep => ?_, fun c hc => ?_⟩
  · have horderly := orderly_of_reachable hproto (serves_storing proto faults) hc
    rcases (horderly.step hproto (serves_storing proto faults) hstep).2 with hsame | ⟨call, hact⟩
    · rw [hsame]
    · exact hact.reached_le
  · have horderly := orderly_of_reachable hproto (serves_timely proto) hc
    have hsound := horderly.good.invariant.sound
    refine ⟨fun call a hreturned howner => ?_, fun hidle => ?_⟩
    · obtain ⟨k, hk⟩ := List.mem_iff_getElem?.mp howner
      obtain ⟨hdone, hnone⟩ := horderly.settled hreturned k hk
      exact Prod.ext (hdone (hnone trivial)).1 (hnone trivial)
    · rw [hsound.greatest]
      refine Nat.le_antisymm hsound.reached_le ?_
      rcases List.eq_nil_or_concat c.world.owners with hnil | ⟨calls, call, hcalls⟩
      · rw [← hsound.owners, hnil]
        exact Nat.zero_le _
      · -- the call that stored the last row has returned
        rw [List.concat_eq_append] at hcalls
        have hk : c.world.owners[calls.length]? = some call := by rw [hcalls, List.getElem?_concat_length]
        obtain ⟨a, ha⟩ := hidle.returned (horderly.owner_lt (List.mem_of_getElem? hk))
        obtain ⟨hdone, hnone⟩ := horderly.settled ha _ hk
        rw [← hsound.owners, hcalls, List.length_append, List.length_singleton]
        exact (hdone (hnone trivial)).2.2

/-! ## Two clocks -/

def namedEvent (name : String) (receivedAt : Instant) : EventEnvelope :=
  { signedPlain name with id := name, nodeID := name, receivedAt }

def pairProto (x y : EventEnvelope) : Protobuf where
  payload _ _ _ := none
  fields _ := true
  marshal event := if event = x then some [0] else if event = y then some [1] else none
  unmarshal encoded := if encoded = [0] then some x else if encoded = [1] then some y else none

theorem readsBack_pairProto {x y : EventEnvelope} (hx : x.validate (pairProto x y) = none)
    (hy : y.validate (pairProto x y) = none) : ReadsBack (pairProto x y) := by
  intro event encoded hvalid hmarshal
  simp only [pairProto] at hmarshal
  split_ifs at hmarshal with hfirst hsecond
  · cases hmarshal
    exact ⟨x, rfl, hx, congrArg _ hfirst.symm, congrArg _ hfirst.symm, congrArg _ hfirst.symm⟩
  · cases hmarshal
    exact ⟨y, rfl, hy, congrArg _ hsecond.symm, congrArg _ hsecond.symm, congrArg _ hsecond.symm⟩

def openScheme : Scheme where
  sign _ _ := List.replicate 64 0
  verify _ _ _ := true
  publicKey _ := List.replicate 32 0

/-- Events `a` and `b` are received at these times, each by a call of its own. -/
def clockProto (a b : Instant) : Protobuf := pairProto (namedEvent "a" a) (namedEvent "b" b)

def clockCall (a b now : Instant) (name : String) : Prog storeSig Appended :=
  plainStore.appending openScheme (clockProto a b) (fun _ => some []) (fun _ => 0) now (namedEvent name Instant.zero)

/-- The calls at times `a` and `b`, with their requests in some order. -/
def clocks (a b : Instant) (schedule : List ℕ) : Writers :=
  schedule.foldl (Pool.advance (answered (clockProto a b))) ⟨.new ∅, [clockCall a b a "a", clockCall a b b "b"]⟩

theorem reachable_clocks (faults : Faults) (a b : Instant) (schedule : List ℕ) :
    Reachable Unwritten (Pool.Step (storing (clockProto a b) faults) (Appends (clockProto a b))) (clocks a b schedule) := by
  refine Pool.reachable_advance (storing_answered (clockProto a b) faults) schedule ?_
  have hcall (now : Instant) (name : String) : Appends (clockProto a b) (clockCall a b now name) :=
    ⟨_, _, _, _, _, _, rfl⟩
  exact ((Reachable.start ⟨rfl, ∅, rfl⟩).next (.start (hcall a "a"))).next (.start (hcall b "b"))

/-- Call `b` stores its event and then call `a`, whose clock is behind; `a` reads the cursor before `b`
writes it. -/
def overtaken : Writers := clocks 10 20 [1, 1, 0, 0, 0, 0, 1, 1, 1, 1, 0, 0]

/-- The event of `a` is stored, `a` reports an error, and the cursor stays behind the event. -/
theorem overtaken_cursor : Reachable Unwritten
    (Pool.Step (storing (clockProto 10 20) .none) (Appends (clockProto 10 20))) overtaken ∧ overtaken.Idle ∧
    overtaken.Returned 0 (true, some (.storage (.invalid "projection cursor update time cannot move backward"))) ∧
    0 ∈ overtaken.world.owners ∧ overtaken.world.reached = 1 ∧ overtaken.world.greatest = 2 := by
  refine ⟨reachable_clocks .none 10 20 _, ?_, Pool.result_eq_some.mp ?_, ?_, ?_, ?_⟩
  all_goals decide +kernel

theorem api_cursor_settles_clocks : ReadsBack (clockProto 10 20) ∧ ∀ c : Writers,
    Reachable Unwritten (Pool.Step (timely (clockProto 10 20)) (Appends (clockProto 10 20))) c →
      (∀ call a, c.Returned call a → call ∈ c.world.owners → a = (true, none)) ∧
      (c.Idle → c.world.reached = c.world.greatest) := by
  have hproto : ReadsBack (clockProto 10 20) := readsBack_pairProto (by decide +kernel) (by decide +kernel)
  exact ⟨hproto, (api_cursor_settles (clockProto 10 20) hproto).2⟩

end AntiFlock.Events
