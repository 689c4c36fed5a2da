import AntiFlock.Events.Ingestion

set_option autoImplicit false

/-!
# Replay

Stored events are listed in pages, from an ordinal on. `Replay` resolves an
instant to the ordinal of the last event that was received no later, and lists
from there. Events are received at a time and stored at another, so that an event
with a smaller ordinal may have been received later than the instant.
-/
namespace AntiFlock.Events
open AntiFlock.Go AntiFlock.Storage AntiFlock.Effect

/-! ## Pages -/

section Pages
variable (proto : Protobuf)

def readRow (row : EventRow) : Except StorageErr (ℕ × EventEnvelope) :=
  (unmarshalEvent proto row.wire).map (row.ordinal, ·)

def pageLimit (limit : ℤ) : ℕ := if limit ≤ 0 ∨ 1000 < limit then 200 else limit.toNat

/-- `ListEventsFromOrdinal`: the events and their ordinals. -/
def listEventsFromOrdinal (afterOrdinal : ℕ) (limit : ℤ) (t : Tables) : Except StorageErr (List (ℕ × EventEnvelope)) :=
  ((t.events.filter fun row => afterOrdinal < row.ordinal).take (pageLimit limit)).mapM (readRow proto)

/-- The greatest ordinal of an event received at that time or before. -/
def resolveTime (after : Instant) (t : Tables) : ℕ :=
  ((t.events.filter fun row => row.receivedAt ≤ sortableTime after).map (·.ordinal)).foldr max 0

/-- `ListEventsPage`. Its two statements find the tables as they are at two times. -/
def listEventsPage (after : Instant) (afterEventID : String) (limit : ℤ) (resolved listed : Tables) :
    Except StorageErr (List (ℕ × EventEnvelope)) :=
  if afterEventID ≠ "" then
    match resolved.events.find? fun row => row.id = afterEventID with
    | none => .error .eventNotFound
    | some row => listEventsFromOrdinal proto row.ordinal limit listed
  else if after.isZero = false then listEventsFromOrdinal proto (resolveTime after resolved) limit listed
  else listEventsFromOrdinal proto 0 limit listed

/-- `Replay`, which is `ListEvents`. -/
def replay (after : Instant) (limit : ℤ) (resolved listed : Tables) : Except StorageErr (List (ℕ × EventEnvelope)) :=
  listEventsPage proto after "" limit resolved listed

/-- `ReplayFrom`, from the ordinal, the time or the event of a cursor. -/
def replayFrom (lastIngestOrdinal : ℕ) (lastReceivedAt : Instant) (lastEventID : String) (limit : ℤ)
    (resolved listed : Tables) : Except StorageErr (List (ℕ × EventEnvelope)) :=
  if lastIngestOrdinal ≠ 0 then listEventsFromOrdinal proto lastIngestOrdinal limit listed
  else listEventsPage proto lastReceivedAt lastEventID limit resolved listed

def rowEvent (row : EventRow) : Option (ℕ × EventEnvelope) := (readRow proto row).toOption

/-- The stored events with their ordinals, in the order of ingestion. -/
def storedEvents (t : Tables) : List (ℕ × EventEnvelope) := t.events.filterMap (rowEvent proto)

end Pages

/-! ## What a page lists -/

section Lists
variable {α β : Type}

theorem filter_le_append_filter_lt {f : α → ℕ} {l : List α} (h : l.Pairwise fun a b => f a < f b) (m : ℕ) :
    (l.filter fun a => f a ≤ m) ++ (l.filter fun a => m < f a) = l := by
  induction l with
  | nil => rfl
  | cons a l ih =>
    rw [List.pairwise_cons] at h
    by_cases ha : f a ≤ m
    · rw [List.filter_cons_of_pos (by simpa using ha), List.filter_cons_of_neg (by simpa using ha), List.cons_append,
        ih h.2]
    · have hrest : l.filter (fun a => f a ≤ m) = [] := by
        rw [List.filter_eq_nil_iff]
        intro b hb
        have := h.1 b hb
        simp only [decide_eq_true_eq]
        omega
      have hall := ih h.2
      rw [hrest, List.nil_append] at hall
      rw [List.filter_cons_of_neg (by simpa using ha), List.filter_cons_of_pos (by simpa using ha), hrest, hall]
      rfl

theorem take_filter_eq_iff {p : α → Bool} (l : List α) (n : ℕ) :
    l.take n = (l.filter p).take n ↔ ∀ a ∈ l.take n, p a = true := by
  constructor
  · intro h a ha
    rw [h] at ha
    exact (List.mem_filter.mp (List.mem_of_mem_take ha)).2
  · intro h
    induction l generalizing n with
    | nil => rfl
    | cons a l ih =>
      cases n with
      | zero => rfl
      | succ n =>
        rw [List.take_succ_cons, List.forall_mem_cons] at h
        rw [List.filter_cons_of_pos h.1, List.take_succ_cons, List.take_succ_cons, ih n h.2]

/-- The first elements of the second part are the first that pass a test on the whole just when nothing
in the first part passes, and they do. -/
theorem take_eq_take_filter_append_iff {p : α → Bool} {l₁ l₂ : List α} {n : ℕ} (hn : 0 < n)
    (hapart : ∀ a ∈ l₁, a ∉ l₂) :
    l₂.take n = ((l₁ ++ l₂).filter p).take n ↔ (∀ a ∈ l₁, p a = false) ∧ ∀ a ∈ l₂.take n, p a = true := by
  rw [List.filter_append]
  have hnone : (∀ a ∈ l₁, p a = false) ↔ l₁.filter p = [] := by
    rw [List.filter_eq_nil_iff]
    simp only [Bool.not_eq_true]
  rw [hnone]
  cases hfirst : l₁.filter p with
  | nil =>
    rw [List.nil_append, take_filter_eq_iff]
    simp
  | cons a rest =>
    have ha : a ∈ l₁ := (List.mem_filter.mp (by rw [hfirst]; exact List.mem_cons_self)).1
    constructor
    · intro h
      cases n with
      | zero => exact absurd hn (Nat.lt_irrefl 0)
      | succ n =>
        have hmem : a ∈ l₂.take (n + 1) := by
          rw [h, List.cons_append, List.take_succ_cons]
          exact List.mem_cons_self
        exact absurd (List.mem_of_mem_take hmem) (hapart a ha)
    · rintro ⟨⟨⟩, -⟩

theorem take_filterMap {f : α → Option β} {l : List α} (h : ∀ a ∈ l, ∃ b, f a = some b) (n : ℕ) :
    (l.take n).filterMap f = (l.filterMap f).take n := by
  induction l generalizing n with
  | nil => simp
  | cons a l ih =>
    rw [List.forall_mem_cons] at h
    obtain ⟨⟨b, hb⟩, hrest⟩ := h
    cases n with
    | zero => rfl
    | succ n => rw [List.take_succ_cons, List.filterMap_cons_some hb, List.filterMap_cons_some hb, List.take_succ_cons, ih hrest]

theorem length_filterMap_of_forall {f : α → Option β} {l : List α} (h : ∀ a ∈ l, ∃ b, f a = some b) :
    (l.filterMap f).length = l.length := by
  induction l with
  | nil => rfl
  | cons a l ih =>
    rw [List.forall_mem_cons] at h
    obtain ⟨⟨b, hb⟩, hrest⟩ := h
    rw [List.filterMap_cons_some hb, List.length_cons, List.length_cons, ih hrest]

theorem getElem?_filterMap_of_forall {f : α → Option β} {l : List α} (h : ∀ a ∈ l, ∃ b, f a = some b) (k : ℕ) :
    (l.filterMap f)[k]? = l[k]?.bind f := by
  induction l generalizing k with
  | nil => rfl
  | cons a l ih =>
    rw [List.forall_mem_cons] at h
    obtain ⟨⟨b, hb⟩, hrest⟩ := h
    rw [List.filterMap_cons_some hb]
    cases k with
    | zero => exact hb.symm
    | succ k => exact ih hrest k

end Lists

section Listing
variable {proto : Protobuf} {w : Log}

theorem readRow_of_records {row : EventRow} {event : EventEnvelope} (h : Records proto row event) :
    readRow proto row = .ok (row.ordinal, event) := by
  rw [readRow, h.reads]
  rfl

theorem rowEvent_of_records {row : EventRow} {event : EventEnvelope} (h : Records proto row event) :
    rowEvent proto row = some (row.ordinal, event) := by
  rw [rowEvent, readRow_of_records h]
  rfl

theorem mapM_readRow {rows : List EventRow} (h : ∀ row ∈ rows, ∃ event, Records proto row event) :
    rows.mapM (readRow proto) = .ok (rows.filterMap (rowEvent proto)) := by
  induction rows with
  | nil => rfl
  | cons row rows ih =>
    rw [List.forall_mem_cons] at h
    obtain ⟨⟨event, hrecords⟩, hrest⟩ := h
    rw [List.mapM_cons, readRow_of_records hrecords, ih hrest, List.filterMap_cons_some (rowEvent_of_records hrecords)]
    rfl

theorem filter_storedEvents (hw : Sound proto w) (p : ℕ → Bool) :
    (storedEvents proto w.tables).filter (fun e => p e.1) =
      (w.tables.events.filter fun row => p row.ordinal).filterMap (rowEvent proto) := by
  have hrecords := hw.records
  unfold storedEvents
  generalize w.tables.events = rows at hrecords ⊢
  induction rows with
  | nil => rfl
  | cons row rows ih =>
    rw [List.forall_mem_cons] at hrecords
    obtain ⟨⟨event, hrecord⟩, hrest⟩ := hrecords
    have hread := rowEvent_of_records hrecord
    rw [List.filterMap_cons_some hread, List.filter_cons, List.filter_cons, ih hrest]
    cases p row.ordinal with
    | true => exact (List.filterMap_cons_some hread).symm
    | false => rfl

theorem rowEvent_of_mem (hw : Sound proto w) : ∀ row ∈ w.tables.events, ∃ e, rowEvent proto row = some e := by
  intro row hrow
  obtain ⟨event, hrecord⟩ := hw.records row hrow
  exact ⟨_, rowEvent_of_records hrecord⟩

theorem listEventsFromOrdinal_eq (hw : Sound proto w) (after : ℕ) (limit : ℤ) :
    listEventsFromOrdinal proto after limit w.tables =
      .ok (((storedEvents proto w.tables).filter fun e => after < e.1).take (pageLimit limit)) := by
  have hrecords : ∀ row ∈ w.tables.events.filter (fun row => decide (after < row.ordinal)),
      ∃ event, Records proto row event := fun row hrow => hw.records row (List.mem_of_mem_filter hrow)
  unfold listEventsFromOrdinal
  rw [mapM_readRow fun row hrow => hrecords row (List.mem_of_mem_take hrow), 
    filter_storedEvents hw fun n => decide (after < n), take_filterMap fun row hrow => ?_]
  obtain ⟨event, hrecord⟩ := hrecords row hrow
  exact ⟨_, rowEvent_of_records hrecord⟩

theorem Sound.sorted (hw : Sound proto w) : w.tables.events.Pairwise fun a b => a.ordinal < b.ordinal := by
  rw [List.pairwise_iff_getElem]
  intro i j hi hj hij
  rw [hw.ordinals i _ (List.getElem?_eq_getElem hi), hw.ordinals j _ (List.getElem?_eq_getElem hj)]
  exact Nat.succ_lt_succ hij

theorem storedEvents_sorted (hw : Sound proto w) : (storedEvents proto w.tables).Pairwise fun a b => a.1 < b.1 := by
  unfold storedEvents
  rw [List.pairwise_filterMap]
  refine List.Pairwise.imp_of_mem ?_ hw.sorted
  intro row row' hrow hrow' hlt e he e' he'
  obtain ⟨event, hrecord⟩ := hw.records row hrow
  obtain ⟨event', hrecord'⟩ := hw.records row' hrow'
  rw [rowEvent_of_records hrecord] at he
  rw [rowEvent_of_records hrecord'] at he'
  cases he
  cases he'
  exact hlt

end Listing

/-! ## Replay from an instant -/

/-- An event stands no later than one that was received at that time or before. -/
def Passed (after : Instant) (t : Tables) (e : ℕ × EventEnvelope) : Prop :=
  after.isZero = false ∧ ∃ row ∈ t.events, row.receivedAt ≤ sortableTime after ∧ e.1 ≤ row.ordinal

instance (after : Instant) (t : Tables) (e : ℕ × EventEnvelope) : Decidable (Passed after t e) :=
  inferInstanceAs (Decidable (_ ∧ _))

section Exact
variable {proto : Protobuf} {w w' : Log} {after : Instant} {limit : ℤ}

def startOrdinal (after : Instant) (t : Tables) : ℕ := if after.isZero = false then resolveTime after t else 0

theorem replay_eq (resolved listed : Tables) : replay proto after limit resolved listed =
    listEventsFromOrdinal proto (startOrdinal after resolved) limit listed := by
  unfold replay listEventsPage startOrdinal
  rw [if_neg (fun h => h rfl)]
  split
  · rfl
  · rfl

theorem le_foldr_max_iff {l : List ℕ} {n : ℕ} (hn : 0 < n) : n ≤ l.foldr max 0 ↔ ∃ m ∈ l, n ≤ m := by
  induction l with
  | nil =>
    simp only [List.foldr_nil, List.not_mem_nil, false_and, exists_false, iff_false]
    omega
  | cons m l ih => simp [ih]

theorem le_startOrdinal_iff {e : ℕ × EventEnvelope} (he : 0 < e.1) (t : Tables) :
    e.1 ≤ startOrdinal after t ↔ Passed after t e := by
  unfold startOrdinal Passed
  split
  · rename_i hdated
    rw [resolveTime, le_foldr_max_iff he]
    simp only [List.mem_map, List.mem_filter, decide_eq_true_eq]
    constructor
    · rintro ⟨_, ⟨row, ⟨hrow, hreceived⟩, rfl⟩, hle⟩
      exact ⟨hdated, row, hrow, hreceived, hle⟩
    · rintro ⟨-, row, hrow, hreceived, hle⟩
      exact ⟨_, ⟨row, ⟨hrow, hreceived⟩, rfl⟩, hle⟩
  · rename_i hzero
    constructor
    · intro hle
      omega
    · rintro ⟨hdated, -⟩
      exact absurd hdated hzero

theorem storedEvents_pos (hw : Sound proto w) : ∀ e ∈ storedEvents proto w.tables, 0 < e.1 := by
  intro e he
  obtain ⟨row, hrow, hread⟩ := List.mem_filterMap.mp he
  obtain ⟨event, hrecord⟩ := hw.records row hrow
  rw [rowEvent_of_records hrecord] at hread
  cases hread
  obtain ⟨k, hk⟩ := List.mem_iff_getElem?.mp hrow
  rw [hw.ordinals k row hk]
  exact Nat.succ_pos k

theorem replay_sound (hw : Sound proto w) (hlimit : 1 ≤ limit ∧ limit ≤ 1000) (resolved : Tables) :
    replay proto after limit resolved w.tables =
        .ok (((storedEvents proto w.tables).filter fun e => after < e.2.receivedAt).take limit.toNat) ↔
      (∀ e ∈ storedEvents proto w.tables, Passed after resolved e → e.2.receivedAt ≤ after) ∧
      ∀ e ∈ ((storedEvents proto w.tables).filter fun e => ¬ Passed after resolved e).take limit.toNat,
        after < e.2.receivedAt := by
  have hpage : pageLimit limit = limit.toNat := if_neg (by omega)
  have hbeyond : ((storedEvents proto w.tables).filter fun e => ¬ Passed after resolved e) =
      (storedEvents proto w.tables).filter fun e => startOrdinal after resolved < e.1 := by
    refine List.filter_congr fun e he => ?_
    rw [decide_eq_decide, ← le_startOrdinal_iff (storedEvents_pos hw e he), Nat.not_le]
  have hsplit := filter_le_append_filter_lt (storedEvents_sorted hw) (startOrdinal after resolved)
  have hapart : ∀ e ∈ (storedEvents proto w.tables).filter (fun e => decide (e.1 ≤ startOrdinal after resolved)),
      e ∉ (storedEvents proto w.tables).filter (fun e => decide (startOrdinal after resolved < e.1)) := by
    intro e he he'
    have hle := (List.mem_filter.mp he).2
    have hlt := (List.mem_filter.mp he').2
    simp only [decide_eq_true_eq] at hle hlt
    omega
  have hiff := take_eq_take_filter_append_iff (p := fun e => decide (after < e.2.receivedAt)) (n := limit.toNat)
    (by omega) hapart
  rw [hsplit] at hiff
  rw [replay_eq, listEventsFromOrdinal_eq hw, hpage, hbeyond, Except.ok.injEq, hiff]
  simp only [decide_eq_true_eq, decide_eq_false_iff_not, Int.not_lt]
  refine and_congr_left fun _ => ⟨fun h e he hpassed => h e ?_, fun h e he => ?_⟩
  · rw [List.mem_filter, decide_eq_true_eq, le_startOrdinal_iff (storedEvents_pos hw e he)]
    exact ⟨he, hpassed⟩
  · rw [List.mem_filter, decide_eq_true_eq] at he
    exact h e he.1 ((le_startOrdinal_iff (storedEvents_pos hw e he.1) resolved).mp he.2)

end Exact

/-- However calls to `Append` interleave, before `Replay` and while it runs: it returns the first stored
events that were received after an instant, in the order of ingestion, just when those that stand no later
than an event received at the instant or before were received so themselves, and those it lists were
received later. -/
theorem replay_exact_iff {proto : Protobuf} (hproto : ReadsBack proto) {faults : Faults} {c c' : Writers}
    (hc : Reachable Unwritten (Pool.Step (storing proto faults) (Appends proto)) c)
    (hc' : Reachable (· = c) (Pool.Step (storing proto faults) (Appends proto)) c') (after : Instant) {limit : ℤ}
    (hlimit : 1 ≤ limit ∧ limit ≤ 1000) :
    replay proto after limit c.world.tables c'.world.tables =
        .ok (((storedEvents proto c'.world.tables).filter fun e => after < e.2.receivedAt).take limit.toNat) ↔
      (∀ e ∈ storedEvents proto c'.world.tables, Passed after c.world.tables e → e.2.receivedAt ≤ after) ∧
      ∀ e ∈ ((storedEvents proto c'.world.tables).filter fun e => ¬ Passed after c.world.tables e).take limit.toNat,
        after < e.2.receivedAt :=
  replay_sound (orderly_of_reachable hproto (serves_storing proto faults) (hc.trans hc')).good.invariant.sound hlimit _

/-- Call `b` runs behind call `a`, with a clock that is behind. -/
def setBack : Writers := clocks 10 5 [0, 0, 0, 0, 0, 0, 1, 1, 1, 1, 1, 1]

/-- Event `a` was received at 10 and is not replayed from 5, when event `b` was received. -/
theorem setBack_replay : Reachable Unwritten
    (Pool.Step (storing (clockProto 10 5) .none) (Appends (clockProto 10 5))) setBack ∧ setBack.Idle ∧
    replay (clockProto 10 5) 5 100 setBack.world.tables setBack.world.tables = .ok [] ∧
    ((storedEvents (clockProto 10 5) setBack.world.tables).filter fun e => 5 < e.2.receivedAt) =
      [(1, namedEvent "a" 10)] := by
  refine ⟨reachable_clocks .none 10 5 _, ?_, ?_, ?_⟩
  all_goals decide +kernel

theorem replay_exact_iff_setBack : replay (clockProto 10 5) 5 100 setBack.world.tables setBack.world.tables =
        .ok (((storedEvents (clockProto 10 5) setBack.world.tables).filter fun e => 5 < e.2.receivedAt).take 100) ↔
      (∀ e ∈ storedEvents (clockProto 10 5) setBack.world.tables, Passed 5 setBack.world.tables e → e.2.receivedAt ≤ 5) ∧
      ∀ e ∈ ((storedEvents (clockProto 10 5) setBack.world.tables).filter
        fun e => ¬ Passed 5 setBack.world.tables e).take 100, 5 < e.2.receivedAt :=
  replay_exact_iff (readsBack_pairProto (by decide +kernel) (by decide +kernel)) (reachable_clocks .none 10 5 _) (.start rfl)
    5 (by decide)

end AntiFlock.Events
