import AntiFlock.Storage.Retention
import Mathlib.Data.List.Induction

set_option autoImplicit false

/-!
# Contiguous ingestion

The cursors of a node and of its boots move together with what `AppendEvent`
accepts: for each boot the accepted sequences are `1` to the cursor, in order.
Retention deletes rows and leaves the cursors alone, so that a deleted event is
not accepted again.
-/
namespace AntiFlock.Storage
open AntiFlock.Go AntiFlock.Sql

inductive Position (t : Tables) (e : EventEnvelope) : Prop where
  | first (unseen : t.nodeStates.lookup e.nodeID = none) (one : e.sequence = 1)
      (new : t.boots.lookup (e.nodeID, e.bootID) = none)
  | boot {state : NodeEventState} (seen : t.nodeStates.lookup e.nodeID = some state)
      (other : state.currentBootID ≠ e.bootID) (one : e.sequence = 1)
      (new : t.boots.lookup (e.nodeID, e.bootID) = none)
  | next {state : NodeEventState} (seen : t.nodeStates.lookup e.nodeID = some state)
      (same : state.currentBootID = e.bootID) (succ : e.sequence = (state.highest + 1) % 2 ^ 64)

structure Advances (e : EventEnvelope) (t t' : Tables) : Prop where
  position : Position t e
  states : t'.nodeStates = t.nodeStates.insert e.nodeID (stateRow e)
  others : ∀ k, k ≠ (e.nodeID, e.bootID) → t'.boots.lookup k = t.boots.lookup k
  own : (∀ state, t.nodeStates.lookup e.nodeID = some state → state.currentBootID = e.bootID →
      ∃ row, t.boots.lookup (e.nodeID, e.bootID) = some row) →
    ∃ row, t'.boots.lookup (e.nodeID, e.bootID) = some row ∧ row.highest = e.sequence

structure SameLog (t t' : Tables) : Prop where
  events : t'.events = t.events
  lastOrdinal : t'.lastOrdinal = t.lastOrdinal
  tombstones : t'.tombstones = t.tombstones
  lastTombstone : t'.lastTombstone = t.lastTombstone

section Accepting
variable {e : EventEnvelope} {t t' : Tables} {encoded : List UInt8}

theorem insertBoot_does {u : Unit} : (insertBoot e).Does t u t' ↔
    t.boots.lookup (e.nodeID, e.bootID) = none ∧
      t' = { t with boots := t.boots.insert (e.nodeID, e.bootID) (bootRow e) } := by
  simp only [insertBoot, Tx.does_bind, Tx.does_get, Tx.does_require, Tx.does_modify]
  constructor
  · rintro ⟨_, _, ⟨rfl, rfl⟩, _, _, ⟨hnew, rfl⟩, rfl⟩
    exact ⟨hnew, rfl⟩
  · rintro ⟨hnew, rfl⟩
    exact ⟨t, t, ⟨rfl, rfl⟩, (), t, ⟨hnew, rfl⟩, rfl⟩

theorem advanceEventSequence_advances {u : Unit} (h : (advanceEventSequence e).Does t u t') :
    Advances e t t' ∧ SameLog t t' ∧ t'.cursors = t.cursors := by
  simp only [advanceEventSequence, Tx.does_bind, Tx.does_get] at h
  obtain ⟨_, _, ⟨rfl, rfl⟩, h⟩ := h
  rename_i t
  cases hstate : t.nodeStates.lookup e.nodeID with
  | none =>
    simp only [hstate, Tx.does_bind, Tx.does_require, Tx.does_modify, insertBoot_does] at h
    obtain ⟨_, _, ⟨hone, rfl⟩, _, _, rfl, hnew, rfl⟩ := h
    refine ⟨⟨.first hstate hone hnew, rfl, fun k hk => ?_, fun _ => ⟨bootRow e, ?_, rfl⟩⟩, ⟨rfl, rfl, rfl, rfl⟩, rfl⟩
    · exact AList.lookup_insert_ne hk
    · exact AList.lookup_insert _
  | some state =>
    simp only [hstate] at h
    split at h
    case isTrue hother =>
      simp only [Tx.does_bind, Tx.does_require, Tx.does_modify, insertBoot_does] at h
      obtain ⟨_, _, ⟨hnew, rfl⟩, _, _, ⟨hone, rfl⟩, _, _, ⟨-, rfl⟩, rfl⟩ := h
      refine ⟨⟨.boot hstate hother hone hnew, rfl, fun k hk => ?_, fun _ => ?_⟩, ⟨rfl, rfl, rfl, rfl⟩, rfl⟩
      · rw [Map.lookup_update, if_neg hk]
        exact AList.lookup_insert_ne hk
      · refine ⟨_, by rw [Map.lookup_update, if_pos rfl, AList.lookup_insert, Option.map_some], rfl⟩
    case isFalse hsame =>
      rw [not_not] at hsame
      simp only [Tx.does_bind, Tx.does_require, Tx.does_modify] at h
      obtain ⟨_, _, ⟨hsucc, rfl⟩, rfl⟩ := h
      refine ⟨⟨.next hstate hsame hsucc, rfl, fun k hk => ?_, fun hrow => ?_⟩, ⟨rfl, rfl, rfl, rfl⟩, rfl⟩
      · rw [Map.lookup_update, if_neg hk]
      · obtain ⟨row, hrow⟩ := hrow state hstate hsame
        refine ⟨_, by rw [Map.lookup_update, if_pos rfl, hrow, Option.map_some], rfl⟩

theorem insertEvent_does {u : Unit} (h : (insertEvent e encoded).Does t u t') :
    t.lastOrdinal < maximumRowID ∧ t' = { t with
      events := t.events ++ [eventRow e (t.lastOrdinal + 1) encoded]
      lastOrdinal := t.lastOrdinal + 1 } := by
  simp only [insertEvent, Tx.does_bind, Tx.does_get, Tx.does_require, Tx.does_modify] at h
  obtain ⟨_, _, ⟨rfl, rfl⟩, _, _, ⟨-, rfl⟩, _, _, ⟨hroom, rfl⟩, rfl⟩ := h
  exact ⟨hroom, rfl⟩

theorem advanceNodeLastSeen_frame {u : Unit} (h : (advanceNodeLastSeen e).Does t u t') :
    ∃ seen, t' = { t with lastSeen := seen } := by
  simp only [advanceNodeLastSeen, Tx.does_bind, Tx.does_get] at h
  obtain ⟨_, _, ⟨rfl, rfl⟩, h⟩ := h
  split at h
  · obtain ⟨-, rfl⟩ := Tx.does_pure.mp h
    exact ⟨_, rfl⟩
  · exact ⟨_, Tx.does_modify.mp h⟩
  · split at h
    · simp only [Tx.does_bind, Tx.does_require, Tx.does_modify] at h
      obtain ⟨_, _, ⟨-, rfl⟩, h⟩ := h
      exact ⟨_, h⟩
    · simp only [Tx.does_bind, Tx.does_require, Tx.does_pure] at h
      obtain ⟨_, _, ⟨-, rfl⟩, -, rfl⟩ := h
      exact ⟨_, rfl⟩

theorem ingest_advances {new : Bool} (h : (ingest e encoded).Does t new t') :
    new = true ∧ Advances e t t' := by
  simp only [ingest, Tx.does_bind, Tx.does_pure] at h
  obtain ⟨_, t₁, hadvance, _, t₂, hinsert, _, t₃, hseen, rfl, rfl⟩ := h
  obtain ⟨⟨hposition, hstates, hothers, hown⟩, -⟩ := advanceEventSequence_advances hadvance
  obtain ⟨-, rfl⟩ := insertEvent_does hinsert
  obtain ⟨seen, rfl⟩ := advanceNodeLastSeen_frame hseen
  exact ⟨rfl, hposition, hstates, hothers, hown⟩

variable {proto : Protobuf}

theorem admission_sequence (h : admission proto e = .ok encoded) : 0 < e.sequence ∧ e.sequence < 2 ^ 63 := by
  unfold admission at h
  split at h
  · cases h
  · rename_i hvalid
    exact EventEnvelope.sequence_of_validate hvalid

theorem appendEvent_cases (proto : Protobuf) (e : EventEnvelope) (t : Tables) :
    ((appendEvent proto e t).1 = .ok true ∧ e.sequence < 2 ^ 63 ∧ Advances e t (appendEvent proto e t).2 ∧
      ∀ row ∈ t.events, row.id ≠ e.id) ∨
    ((appendEvent proto e t).1 ≠ .ok true ∧ (appendEvent proto e t).2 = t) := by
  unfold appendEvent
  cases hadmission : admission proto e with
  | error err => exact .inr ⟨nofun, rfl⟩
  | ok encoded =>
    dsimp only
    cases hfind : t.events.find? fun row => row.id = e.id with
    | some stored =>
      refine .inr ⟨fun h => ?_, rfl⟩
      simp only [resend] at h
      repeat' split at h
      all_goals cases h
    | none =>
      dsimp only
      rcases Tx.commit_cases (ingest e encoded) t with ⟨err, hfailed⟩ | ⟨new, t', hdoes, hdone⟩
      · rw [hfailed]
        exact .inr ⟨nofun, rfl⟩
      · obtain ⟨rfl, hadvances⟩ := ingest_advances hdoes
        rw [hdone]
        refine .inl ⟨rfl, (admission_sequence hadmission).2, hadvances, fun row hrow => ?_⟩
        simpa using List.find?_eq_none.mp hfind row hrow

/-- What `AppendEvent` does to the log of events when it accepts one. -/
structure Stores (proto : Protobuf) (e : EventEnvelope) (encoded : List UInt8) (t t' : Tables) : Prop where
  admitted : admission proto e = .ok encoded
  fresh : ∀ row ∈ t.events, row.id ≠ e.id
  events : t'.events = t.events ++ [eventRow e (t.lastOrdinal + 1) encoded]
  lastOrdinal : t'.lastOrdinal = t.lastOrdinal + 1
  cursors : t'.cursors = t.cursors

theorem ingest_log {new : Bool} (h : (ingest e encoded).Does t new t') :
    t'.events = t.events ++ [eventRow e (t.lastOrdinal + 1) encoded] ∧
      t'.lastOrdinal = t.lastOrdinal + 1 ∧ t'.cursors = t.cursors := by
  simp only [ingest, Tx.does_bind, Tx.does_pure] at h
  obtain ⟨_, t₁, hadvance, _, t₂, hinsert, _, t₃, hseen, rfl, rfl⟩ := h
  obtain ⟨-, hlog, hcursors⟩ := advanceEventSequence_advances hadvance
  obtain ⟨-, rfl⟩ := insertEvent_does hinsert
  obtain ⟨seen, rfl⟩ := advanceNodeLastSeen_frame hseen
  refine ⟨?_, ?_, hcursors⟩
  · rw [← hlog.events, ← hlog.lastOrdinal]
  · rw [← hlog.lastOrdinal]

theorem appendEvent_stores (proto : Protobuf) (e : EventEnvelope) (t : Tables) :
    ((appendEvent proto e t).1 = .ok true ∧ ∃ encoded, Stores proto e encoded t (appendEvent proto e t).2) ∨
    ((appendEvent proto e t).1 ≠ .ok true ∧ (appendEvent proto e t).2 = t) := by
  rcases appendEvent_cases proto e t with ⟨hnew, -, -, hfresh⟩ | hold
  · refine .inl ⟨hnew, ?_⟩
    unfold appendEvent at hnew ⊢
    cases hadmission : admission proto e with
    | error err =>
      rw [hadmission] at hnew
      cases hnew
    | ok encoded =>
      have hfind : t.events.find? (fun row => row.id = e.id) = none :=
        List.find?_eq_none.mpr fun row hrow => by simpa using hfresh row hrow
      simp only [hadmission, hfind] at hnew ⊢
      obtain ⟨hevents, hlast, hcursors⟩ := ingest_log (Tx.does_of_commit hnew)
      exact ⟨encoded, hadmission, hfresh, hevents, hlast, hcursors⟩
  · exact .inr hold

end Accepting

section Frames
variable {t t' : Tables}

/-- What a cursor that is written names, and what it may replace. -/
structure Moves (projection : String) (cursor : ProjectionCursor) (row : EventRow) (t : Tables) : Prop where
  found : t.events.find? (fun row => row.id = cursor.lastEventID) = some row
  forward : ∀ previous, t.cursors.lookup projection = some previous → previous.lastIngestOrdinal ≤ row.ordinal

theorem setProjectionCursor_moves {projection : String} {cursor : ProjectionCursor} {u : Unit}
    (h : (setProjectionCursor projection cursor).Does t u t') : ∃ row, Moves projection cursor row t ∧
      t' = { t with
        cursors := t.cursors.insert projection ⟨row.ordinal, row.receivedAt, cursor.lastEventID, cursor.updatedAt⟩ } := by
  simp only [setProjectionCursor, Tx.does_bind, Tx.does_require, Tx.does_get] at h
  obtain ⟨_, _, ⟨-, rfl⟩, _, _, ⟨rfl, rfl⟩, h⟩ := h
  split at h
  · exact absurd h Tx.does_throw
  · rename_i row hrow
    simp only [Tx.does_bind, Tx.does_require] at h
    obtain ⟨_, _, ⟨-, rfl⟩, _, _, ⟨-, rfl⟩, h⟩ := h
    split at h
    · rename_i hnone
      refine ⟨row, ⟨hrow, fun previous hprevious => ?_⟩, Tx.does_modify.mp h⟩
      rw [hnone] at hprevious
      cases hprevious
    · rename_i previous hprevious
      simp only [Tx.does_bind, Tx.does_require, Tx.does_modify] at h
      obtain ⟨_, _, ⟨hforward, rfl⟩, _, _, ⟨-, rfl⟩, _, _, ⟨-, rfl⟩, h⟩ := h
      refine ⟨row, ⟨hrow, fun previous' hprevious' => ?_⟩, h⟩
      rw [hprevious] at hprevious'
      cases hprevious'
      exact hforward

theorem setProjectionCursor_written {projection : String} {cursor : ProjectionCursor} {row : EventRow}
    (hprojection : projection ≠ "") (hid : cursor.lastEventID ≠ "") (hupdated : cursor.updatedAt.isZero = false)
    (hrow : t.events.find? (fun row => row.id = cursor.lastEventID) = some row)
    (hordinal : cursor.lastIngestOrdinal = row.ordinal) (htime : cursor.lastReceivedAt = row.receivedAt)
    (hprevious : ∀ previous, t.cursors.lookup projection = some previous → previous.lastIngestOrdinal ≤ row.ordinal ∧
      (previous.lastIngestOrdinal ≠ row.ordinal ∨ previous.lastEventID = cursor.lastEventID) ∧
      previous.updatedAt.Parses ∧ previous.updatedAt ≤ cursor.updatedAt) :
    (setProjectionCursor projection cursor).Does t () { t with
      cursors := t.cursors.insert projection ⟨row.ordinal, row.receivedAt, cursor.lastEventID, cursor.updatedAt⟩ } := by
  simp only [setProjectionCursor, Tx.does_bind, Tx.does_require, Tx.does_get]
  refine ⟨(), t, ⟨⟨hprojection, hid, hupdated⟩, rfl⟩, t, t, ⟨rfl, rfl⟩, ?_⟩
  simp only [hrow, Tx.does_bind, Tx.does_require]
  refine ⟨(), t, ⟨.inr hordinal, rfl⟩, (), t, ⟨.inr htime, rfl⟩, ?_⟩
  cases hlookup : t.cursors.lookup projection with
  | none => exact Tx.does_modify.mpr rfl
  | some previous =>
    obtain ⟨hforward, hsame, hlater⟩ := hprevious previous hlookup
    simp only [Tx.does_bind, Tx.does_require]
    exact ⟨(), t, ⟨hforward, rfl⟩, (), t, ⟨hsame, rfl⟩, (), t, ⟨hlater, rfl⟩, Tx.does_modify.mpr rfl⟩

theorem setProjectionCursor_frame {projection : String} {cursor : ProjectionCursor} {u : Unit}
    (h : (setProjectionCursor projection cursor).Does t u t') :
    ∃ cursors, t' = { t with cursors := cursors } := by
  obtain ⟨row, -, htables⟩ := setProjectionCursor_moves h
  exact ⟨_, htables⟩

theorem pruneEvents_frame {reader : TextReader} {request : PruneRequest} {result : RetentionResult}
    (h : (pruneEvents reader request).Does t result t') :
    t'.nodeStates = t.nodeStates ∧ t'.boots = t.boots := by
  cases prunes_of_does h with
  | nothing => exact ⟨rfl, rfl⟩
  | batch => exact ⟨rfl, rfl⟩

end Frames

inductive StoreCall where
  | append (event : EventEnvelope)
  | setCursor (projection : String) (cursor : ProjectionCursor)
  | prune (request : PruneRequest)
  /-- A call whose transaction the database fails. -/
  | failed

structure History where
  tables : Tables
  accepted : List EventEnvelope

section Runs
variable (proto : Protobuf) (reader : TextReader)

def StoreCall.perform (h : History) : StoreCall → History
  | .append event =>
    ⟨(appendEvent proto event h.tables).2,
      match (appendEvent proto event h.tables).1 with
      | .ok true => h.accepted ++ [event]
      | _ => h.accepted⟩
  | .setCursor projection cursor => { h with tables := ((setProjectionCursor projection cursor).commit h.tables).2 }
  | .prune request => { h with tables := ((pruneEvents reader request).commit h.tables).2 }
  | .failed => h

def history (nodes : Map String (Option Instant)) (calls : List StoreCall) : History :=
  calls.foldl (StoreCall.perform proto reader) ⟨.new nodes, []⟩

end Runs

/-- The sequences accepted for a boot of a node, in the order of acceptance. -/
def acceptedSequences (accepted : List EventEnvelope) (node boot : String) : List ℕ :=
  (accepted.filter fun e => e.nodeID = node ∧ e.bootID = boot).map (·.sequence)

/-- `highest_contiguous_sequence` of a boot, zero where the boot is not known. -/
def Tables.highest (t : Tables) (node boot : String) : ℕ :=
  ((t.boots.lookup (node, boot)).map (·.highest)).getD 0

theorem Tables.highest_of_lookup {t : Tables} {node boot : String} {row : NodeEventBoot}
    (h : t.boots.lookup (node, boot) = some row) : t.highest node boot = row.highest := by
  rw [highest, h]
  rfl

theorem Tables.highest_of_none {t : Tables} {node boot : String} (h : t.boots.lookup (node, boot) = none) :
    t.highest node boot = 0 := by
  rw [highest, h]
  rfl

/-- The two cursor tables agree, and record exactly what was accepted. -/
structure Contiguous (h : History) : Prop where
  current : ∀ node state, h.tables.nodeStates.lookup node = some state →
    ∃ row, h.tables.boots.lookup (node, state.currentBootID) = some row ∧ row.highest = state.highest
  bounded : ∀ node state, h.tables.nodeStates.lookup node = some state → state.highest < 2 ^ 63
  sequences : ∀ node boot,
    acceptedSequences h.accepted node boot = List.range' 1 (h.tables.highest node boot)

theorem Contiguous.congr {h h' : History} (hc : Contiguous h) (haccepted : h'.accepted = h.accepted)
    (hframe : h'.tables.nodeStates = h.tables.nodeStates ∧ h'.tables.boots = h.tables.boots) :
    Contiguous h' := by
  obtain ⟨hstates, hboots⟩ := hframe
  refine ⟨fun node state hs => ?_, fun node state hs => ?_, fun node boot => ?_⟩
  · rw [hboots]
    exact hc.current node state (hstates ▸ hs)
  · exact hc.bounded node state (hstates ▸ hs)
  · rw [haccepted, Tables.highest, hboots]
    exact hc.sequences node boot

theorem Contiguous.position {h : History} {e : EventEnvelope} (hc : Contiguous h)
    (hp : Position h.tables e) : e.sequence = h.tables.highest e.nodeID e.bootID + 1 := by
  cases hp with
  | first unseen one new => rw [one, Tables.highest_of_none new]
  | boot seen other one new => rw [one, Tables.highest_of_none new]
  | @next state seen same succ =>
    obtain ⟨row, hrow, hhighest⟩ := hc.current _ _ seen
    rw [same] at hrow
    have := hc.bounded _ _ seen
    rw [Tables.highest_of_lookup hrow, hhighest, succ]
    omega

theorem Contiguous.accept {h : History} {e : EventEnvelope} {t' : Tables} (hc : Contiguous h)
    (hbound : e.sequence < 2 ^ 63) (ha : Advances e h.tables t') :
    Contiguous ⟨t', h.accepted ++ [e]⟩ := by
  have hrow : ∃ row, t'.boots.lookup (e.nodeID, e.bootID) = some row ∧ row.highest = e.sequence := by
    refine ha.own fun state hstate hsame => ?_
    obtain ⟨row, hrow, -⟩ := hc.current _ _ hstate
    rw [hsame] at hrow
    exact ⟨row, hrow⟩
  obtain ⟨row, hrow, hhighest⟩ := hrow
  refine ⟨fun node state hs => ?_, fun node state hs => ?_, fun node boot => ?_⟩
  · simp only [ha.states, Map.lookup_insert_eq_ite] at hs
    split at hs
    case isTrue hnode =>
      cases hs
      exact ⟨row, hnode ▸ hrow, hhighest⟩
    case isFalse hnode =>
      obtain ⟨row', hrow', hhighest'⟩ := hc.current _ _ hs
      refine ⟨row', ?_, hhighest'⟩
      rw [ha.others _ fun hk => hnode (congrArg Prod.fst hk)]
      exact hrow'
  · simp only [ha.states, Map.lookup_insert_eq_ite] at hs
    split at hs
    · cases hs
      exact hbound
    · exact hc.bounded _ _ hs
  · unfold acceptedSequences
    rw [List.filter_append, List.map_append]
    by_cases hown : e.nodeID = node ∧ e.bootID = boot
    · obtain ⟨rfl, rfl⟩ := hown
      have hnext := hc.position ha.position
      have hold := hc.sequences e.nodeID e.bootID
      unfold acceptedSequences at hold
      rw [hold, Tables.highest_of_lookup hrow, hhighest, hnext, List.range'_concat]
      simp [hnext, Nat.add_comm]
    · have hother : (node, boot) ≠ (e.nodeID, e.bootID) := fun hk =>
        hown ⟨(congrArg Prod.fst hk).symm, (congrArg Prod.snd hk).symm⟩
      have hold := hc.sequences node boot
      unfold acceptedSequences at hold
      rw [hold, Tables.highest, Tables.highest, ha.others _ hother]
      simp [hown]

section Results
variable {proto : Protobuf} {reader : TextReader} {nodes : Map String (Option Instant)}

theorem perform_contiguous {h : History} (hc : Contiguous h) (call : StoreCall) :
    Contiguous (call.perform proto reader h) := by
  cases call with
  | failed => exact hc
  | setCursor projection cursor =>
    rcases Tx.commit_cases (setProjectionCursor projection cursor) h.tables with ⟨err, hr⟩ | ⟨_, t', hdoes, hr⟩
    · simp only [StoreCall.perform, hr]
      exact hc
    · obtain ⟨cursors, rfl⟩ := setProjectionCursor_frame hdoes
      simp only [StoreCall.perform, hr]
      exact hc.congr rfl ⟨rfl, rfl⟩
  | prune request =>
    rcases Tx.commit_cases (pruneEvents reader request) h.tables with ⟨err, hr⟩ | ⟨_, t', hdoes, hr⟩
    · simp only [StoreCall.perform, hr]
      exact hc
    · simp only [StoreCall.perform, hr]
      exact hc.congr rfl (pruneEvents_frame hdoes)
  | append event =>
    rcases appendEvent_cases proto event h.tables with ⟨hnew, hbound, hadvances, -⟩ | ⟨hold, hsame⟩
    · simp only [StoreCall.perform, hnew]
      exact hc.accept hbound hadvances
    · simp only [StoreCall.perform, hsame]
      exact hc

theorem history_append (before after : List StoreCall) : history proto reader nodes (before ++ after) =
    after.foldl (StoreCall.perform proto reader) (history proto reader nodes before) :=
  List.foldl_append

theorem history_contiguous (calls : List StoreCall) : Contiguous (history proto reader nodes calls) := by
  induction calls using List.reverseRecOn with
  | nil =>
    refine ⟨fun node state hs => ?_, fun node state hs => ?_, fun node boot => rfl⟩
    · cases hs
    · cases hs
  | append_singleton calls call ih =>
    rw [history_append]
    exact perform_contiguous ih call

theorem perform_boots {h : History} {node boot : String} {row : NodeEventBoot}
    (hrow : h.tables.boots.lookup (node, boot) = some row) (call : StoreCall) :
    ∃ row', (call.perform proto reader h).tables.boots.lookup (node, boot) = some row' := by
  cases call with
  | failed => exact ⟨row, hrow⟩
  | setCursor projection cursor =>
    rcases Tx.commit_cases (setProjectionCursor projection cursor) h.tables with ⟨err, hr⟩ | ⟨_, t', hdoes, hr⟩
    · simp only [StoreCall.perform, hr]
      exact ⟨row, hrow⟩
    · obtain ⟨cursors, rfl⟩ := setProjectionCursor_frame hdoes
      simp only [StoreCall.perform, hr]
      exact ⟨row, hrow⟩
  | prune request =>
    rcases Tx.commit_cases (pruneEvents reader request) h.tables with ⟨err, hr⟩ | ⟨_, t', hdoes, hr⟩
    · simp only [StoreCall.perform, hr]
      exact ⟨row, hrow⟩
    · simp only [StoreCall.perform, hr]
      exact ⟨row, by rw [(pruneEvents_frame hdoes).2]; exact hrow⟩
  | append event =>
    rcases appendEvent_cases proto event h.tables with ⟨-, -, ha, -⟩ | ⟨-, hsame⟩
    · simp only [StoreCall.perform]
      by_cases hown : (node, boot) = (event.nodeID, event.bootID)
      · rw [hown]
        obtain ⟨row', hrow', -⟩ := ha.own fun _ _ _ => ⟨row, hown ▸ hrow⟩
        exact ⟨row', hrow'⟩
      · exact ⟨row, by rw [ha.others _ hown]; exact hrow⟩
    · simp only [StoreCall.perform, hsame]
      exact ⟨row, hrow⟩

theorem history_boots {node boot : String} {row : NodeEventBoot} {before : List StoreCall}
    (hrow : (history proto reader nodes before).tables.boots.lookup (node, boot) = some row)
    (after : List StoreCall) :
    ∃ row', (history proto reader nodes (before ++ after)).tables.boots.lookup (node, boot) = some row' := by
  induction after using List.reverseRecOn with
  | nil => exact ⟨row, by rw [List.append_nil]; exact hrow⟩
  | append_singleton after call ih =>
    obtain ⟨row', hrow'⟩ := ih
    rw [← List.append_assoc, history_append (before ++ after)]
    exact perform_boots hrow' call

theorem appendEvent_closed {t : Tables} {e : EventEnvelope} {state : NodeEventState} {row : NodeEventBoot}
    (hstate : t.nodeStates.lookup e.nodeID = some state) (hother : state.currentBootID ≠ e.bootID)
    (hrow : t.boots.lookup (e.nodeID, e.bootID) = some row) : (appendEvent proto e t).1 ≠ .ok true := by
  rcases appendEvent_cases proto e t with ⟨-, -, ha, -⟩ | ⟨hold, -⟩
  · cases ha.position with
    | first unseen one new =>
      rw [hstate] at unseen
      cases unseen
    | boot seen other one new =>
      rw [hrow] at new
      cases new
    | next seen same succ =>
      rw [hstate, Option.some.injEq] at seen
      rw [seen] at hother
      exact absurd same hother
  · exact hold

/-- After any calls: for each boot the sequences accepted as new are `1` to its cursor, each once; an
event whose id is stored changes nothing when it is sent again; an event of a boot that was current
and is no more is not accepted; and a call that fails changes nothing. -/
theorem ingestion_exactly_once (calls : List StoreCall) :
    (∀ node boot, acceptedSequences (history proto reader nodes calls).accepted node boot =
      List.range' 1 ((history proto reader nodes calls).tables.highest node boot)) ∧
    (∀ e, (∃ row ∈ (history proto reader nodes calls).tables.events, row.id = e.id) →
      (appendEvent proto e (history proto reader nodes calls).tables).2 =
        (history proto reader nodes calls).tables) ∧
    (∀ before after e state state', before ++ after = calls →
      (history proto reader nodes before).tables.nodeStates.lookup e.nodeID = some state →
      state.currentBootID = e.bootID →
      (history proto reader nodes calls).tables.nodeStates.lookup e.nodeID = some state' →
      state'.currentBootID ≠ e.bootID →
      (appendEvent proto e (history proto reader nodes calls).tables).1 ≠ .ok true) ∧
    ∀ e err, (appendEvent proto e (history proto reader nodes calls).tables).1 = .error err →
      (appendEvent proto e (history proto reader nodes calls).tables).2 =
        (history proto reader nodes calls).tables := by
  refine ⟨(history_contiguous calls).sequences, fun e hstored => ?_, ?_, fun e err herr => ?_⟩
  · rcases appendEvent_cases proto e (history proto reader nodes calls).tables with ⟨-, -, -, hnew⟩ | ⟨-, hsame⟩
    · obtain ⟨row, hrow, hid⟩ := hstored
      exact absurd hid (hnew row hrow)
    · exact hsame
  · rintro before after e state state' rfl hbefore hboot hnow hchanged
    obtain ⟨row, hrow, -⟩ := (history_contiguous before).current _ _ hbefore
    rw [hboot] at hrow
    obtain ⟨row', hrow'⟩ := history_boots hrow after
    exact appendEvent_closed hnow hchanged hrow'
  · rcases appendEvent_cases proto e (history proto reader nodes calls).tables with ⟨hnew, -⟩ | ⟨-, hsame⟩
    · rw [hnew] at herr
      cases herr
    · exact hsame

end Results
end AntiFlock.Storage
