import AntiFlock.Go.Map
import AntiFlock.Go.Wire
import Mathlib.Logic.Function.Basic

set_option autoImplicit false

/-!
# The enforcer's state store

A plan is reserved under its id before anything is mutated, and its terminal
result is kept for redeliveries. A plan result is a protobuf message: the stores
read its plan id and revision and compare or encode it as a whole.
-/
namespace AntiFlock.Enforcement
open AntiFlock.Go

/-- The sentinel errors of the enforcer; `other` stands for errors without one. -/
inductive StateErrKind where
  | planReplay
  | planInProgress
  | contextDone
  | other
deriving DecidableEq

structure StateErr where
  kind : StateErrKind
  text : String
deriving DecidableEq

def errPlanReplay : StateErr := ⟨.planReplay, "plan replay or revision conflict"⟩
def errPlanInProgress : StateErr := ⟨.planInProgress, "plan execution is already in progress"⟩

abbrev Context := Option String

/-- The replay-safe identity of executable plan content. -/
structure Reservation where
  planID : String
  fingerprint : String
  policyRevision : ℕ
  planRevision : ℕ
deriving DecidableEq

/-- What the stores need of plan results. `marshal` is the deterministic encoding, which not every
message has; equal results are those `proto.Equal` finds equal. -/
structure ResultFormat (Result : Type) where
  planID : Result → String
  planRevision : Result → ℕ
  unknownFields : Result → Bool
  marshal : Result → Option (List UInt8)
  unmarshal : List UInt8 → Option Result
  unmarshal_marshal : ∀ {result wire}, marshal result = some wire → unmarshal wire = some result
  planID_of_empty : ∀ {result}, marshal result = some [] → planID result = ""

theorem ResultFormat.marshal_inj {Result : Type} (format : ResultFormat Result) {result result' : Result}
    {wire : List UInt8} (h : format.marshal result = some wire) (h' : format.marshal result' = some wire) :
    result = result' :=
  Option.some.inj ((format.unmarshal_marshal h).symm.trans (format.unmarshal_marshal h'))

def Reservation.Complete (reservation : Reservation) : Prop :=
  reservation.planID ≠ "" ∧ reservation.fingerprint ≠ "" ∧ reservation.policyRevision ≠ 0 ∧
    reservation.planRevision ≠ 0

structure MemoryRecord (Result : Type) where
  reservation : Reservation
  result : Option Result

structure MemoryStateStore (Result : Type) where
  lastPolicyRevision : ℕ
  lastPlanRevision : ℕ
  records : Map String (MemoryRecord Result)

def newMemoryStateStore (Result : Type) (lastPolicyRevision lastPlanRevision : ℕ) : MemoryStateStore Result :=
  ⟨lastPolicyRevision, lastPlanRevision, ∅⟩

namespace MemoryStateStore
variable {Result : Type}

def reserve (store : MemoryStateStore Result) (ctx : Context) (reservation : Reservation) :
    Except StateErr (Option Result) × MemoryStateStore Result :=
  match ctx with
  | some text => (.error ⟨.contextDone, text⟩, store)
  | none =>
    match store.records.lookup reservation.planID with
    | some existing =>
      if existing.reservation ≠ reservation then (.error errPlanReplay, store)
      else
        match existing.result with
        | none => (.error errPlanInProgress, store)
        | some result => (.ok (some result), store)
    | none =>
      if reservation.planID = "" ∨ reservation.fingerprint = "" ∨ reservation.policyRevision = 0 ∨
          reservation.planRevision = 0 ∨ reservation.policyRevision < store.lastPolicyRevision ∨
          reservation.planRevision ≤ store.lastPlanRevision then
        (.error errPlanReplay, store)
      else
        (.ok none, ⟨reservation.policyRevision, reservation.planRevision,
          store.records.insert reservation.planID ⟨reservation, none⟩⟩)

theorem reserve_absent {store : MemoryStateStore Result} {reservation : Reservation}
    (h : store.records.lookup reservation.planID = none) (hcomplete : reservation.Complete) :
    store.reserve none reservation =
      if reservation.policyRevision < store.lastPolicyRevision ∨
          reservation.planRevision ≤ store.lastPlanRevision then (.error errPlanReplay, store)
      else (.ok none, ⟨reservation.policyRevision, reservation.planRevision,
        store.records.insert reservation.planID ⟨reservation, none⟩⟩) := by
  obtain ⟨hplan, hfingerprint, hpolicy, hrevision⟩ := hcomplete
  simp [reserve, h, hplan, hfingerprint, hpolicy, hrevision]

theorem reserve_incomplete {store : MemoryStateStore Result} {reservation : Reservation}
    (h : store.records.lookup reservation.planID = none) (hincomplete : ¬ reservation.Complete) :
    store.reserve none reservation = (.error errPlanReplay, store) := by
  simp only [reserve, h]
  refine if_pos ?_
  simp only [Reservation.Complete] at hincomplete
  tauto

def complete [DecidableEq Result] (format : ResultFormat Result) (store : MemoryStateStore Result)
    (ctx : Context) (result : Option Result) : Except StateErr Unit × MemoryStateStore Result :=
  match result with
  | none => (.error ⟨.other, "terminal plan result is required"⟩, store)
  | some result =>
    if format.planID result = "" then (.error ⟨.other, "terminal plan result is required"⟩, store)
    else
      match ctx with
      | some text => (.error ⟨.contextDone, text⟩, store)
      | none =>
        match store.records.lookup (format.planID result) with
        | none => (.error ⟨.other, "plan result has no matching reservation"⟩, store)
        | some record =>
          if record.reservation.planRevision ≠ format.planRevision result then
            (.error ⟨.other, "plan result has no matching reservation"⟩, store)
          else
            match record.result with
            | some stored => if stored = result then (.ok (), store) else (.error errPlanReplay, store)
            | none =>
              (.ok (), { store with
                records := store.records.insert (format.planID result) ⟨record.reservation, some result⟩ })

end MemoryStateStore

/-! ## Plan results with three fields set -/

/-- A plan result of which only the plan id, the plan revision and the reason code are set. -/
structure BareResult where
  planID : String
  planRevision : ℕ
  reasonCode : String
  named : planID ≠ ""
  revised : planRevision ≠ 0 ∧ planRevision < 2 ^ 64
  reasoned : reasonCode ≠ ""
deriving DecidableEq

namespace BareResult

def wire (result : BareResult) : List UInt8 :=
  Wire.str 1 result.planID ++ Wire.uint 3 result.planRevision ++ Wire.str 10 result.reasonCode

theorem bytes_ne_nil {s : String} (h : s ≠ "") : bytes s ≠ [] := fun hempty => h (bytes_injective hempty)

theorem str_eq {field : ℕ} {s : String} (h : s ≠ "") : Wire.str field s = Wire.delimited field (bytes s) :=
  if_neg (bytes_ne_nil h)

theorem wire_eq (result : BareResult) : result.wire = Wire.delimited 1 (bytes result.planID) ++
    (Wire.tag 3 0 ++ (Wire.varint result.planRevision ++
      (Wire.delimited 10 (bytes result.reasonCode) ++ []))) := by
  rw [wire, str_eq result.named, str_eq result.reasoned, Wire.uint, if_neg result.revised.1]
  simp only [List.append_assoc, List.append_nil]

theorem len_reasonCode_le (result : BareResult) : len result.reasonCode ≤ result.wire.length := by
  rw [wire_eq]
  simp only [Wire.delimited, List.length_append, len]
  omega

theorem length_wire_le (result : BareResult) :
    result.wire.length ≤ len result.planID + len result.reasonCode + 60 := by
  have htag (field kind : ℕ) : (Wire.tag field kind).length ≤ 10 := Wire.length_varint_le _
  have h₁ := htag 1 2
  have h₃ := htag 3 0
  have h₁₀ := htag 10 2
  have hplan := Wire.length_varint_le (bytes result.planID).length
  have hrevision := Wire.length_varint_le result.planRevision
  have hreason := Wire.length_varint_le (bytes result.reasonCode).length
  rw [wire_eq]
  simp only [Wire.delimited, List.length_append, len, List.length_nil]
  omega

/-- Messages of two gigabytes and more have no encoding. -/
def marshal (result : BareResult) : Option (List UInt8) :=
  if result.wire.length < 2 ^ 31 then some result.wire else none

theorem wire_inj {result result' : BareResult} (hlen : result.wire.length < 2 ^ 31)
    (h : result.wire = result'.wire) : result = result' := by
  have hlen' : result'.wire.length < 2 ^ 31 := h ▸ hlen
  have hbound (r : BareResult) (hr : r.wire.length < 2 ^ 31) :
      (bytes r.planID).length < 2 ^ 64 ∧ (bytes r.reasonCode).length < 2 ^ 64 := by
    rw [wire_eq] at hr
    simp only [Wire.delimited, List.length_append] at hr
    constructor <;> omega
  rw [wire_eq, wire_eq] at h
  obtain ⟨hplan, hrest⟩ := Wire.delimited_append_inj (hbound result hlen).1 (hbound result' hlen').1 h
  obtain ⟨hrevision, hrest⟩ := Wire.varint_append_inj result.revised.2 result'.revised.2
    (List.append_cancel_left hrest)
  obtain ⟨hreason, -⟩ := Wire.delimited_append_inj (hbound result hlen).2 (hbound result' hlen').2 hrest
  have hplan' := bytes_injective hplan
  have hreason' := bytes_injective hreason
  cases result
  cases result'
  simp only [BareResult.mk.injEq]
  exact ⟨hplan', hrevision, hreason'⟩

theorem marshal_eq_some {result : BareResult} {wire : List UInt8} :
    marshal result = some wire ↔ result.wire.length < 2 ^ 31 ∧ result.wire = wire := by
  unfold marshal
  split
  case isTrue hlen => exact ⟨fun h => ⟨hlen, Option.some.inj h⟩, fun h => congrArg some h.2⟩
  case isFalse hlen => exact ⟨nofun, fun h => absurd h.1 hlen⟩

open Classical in
noncomputable def unmarshal (wire : List UInt8) : Option BareResult :=
  if h : ∃ result, marshal result = some wire then some h.choose else none

theorem unmarshal_marshal {result : BareResult} {wire : List UInt8} (h : marshal result = some wire) :
    unmarshal wire = some result := by
  have hex : ∃ result, marshal result = some wire := ⟨result, h⟩
  obtain ⟨hlen, hwire⟩ := marshal_eq_some.mp hex.choose_spec
  rw [unmarshal, dif_pos hex, wire_inj hlen (hwire.trans (marshal_eq_some.mp h).2.symm)]

theorem planID_of_empty {result : BareResult} (h : marshal result = some []) : result.planID = "" := by
  have hlen := len_reasonCode_le result
  rw [(marshal_eq_some.mp h).2, List.length_nil, Nat.le_zero, len, List.length_eq_zero_iff] at hlen
  exact absurd hlen (bytes_ne_nil result.reasoned)

noncomputable def format : ResultFormat BareResult :=
  ⟨planID, planRevision, fun _ => false, marshal, unmarshal, unmarshal_marshal, planID_of_empty⟩

def filler (n : ℕ) : String := String.ofList (List.replicate (n + 1) 'a')

theorem len_filler (n : ℕ) : len (filler n) = n + 1 := by
  simp [len, filler, show 'a'.utf8Size = 1 from rfl]

theorem filler_ne (n : ℕ) : filler n ≠ "" := by
  intro h
  have hlen := len_filler n
  rw [h] at hlen
  cases hlen

end BareResult

def sampleReservation : Reservation := ⟨"plan-1", "fingerprint", 3, 7⟩

theorem samplePlan_ne : "plan-1" ≠ "" := by decide
theorem sampleRevision : 7 ≠ 0 ∧ 7 < 2 ^ 64 := by decide

/-- A result of the sample plan with a reason code of `n + 1` bytes. -/
def sampleResult (n : ℕ) : BareResult :=
  ⟨"plan-1", 7, BareResult.filler n, samplePlan_ne, sampleRevision, BareResult.filler_ne n⟩

theorem sampleResult_marshal {n : ℕ} (hn : n ≤ 524288) : ∃ wire,
    BareResult.format.marshal (sampleResult n) = some wire ∧ n < wire.length ∧ wire.length ≤ n + 67 := by
  have hlower := BareResult.len_reasonCode_le (sampleResult n)
  have hupper := BareResult.length_wire_le (sampleResult n)
  have hreason : len (sampleResult n).reasonCode = n + 1 := BareResult.len_filler n
  have hplan : len (sampleResult n).planID = 6 := show len "plan-1" = 6 by decide
  rw [hreason] at hlower hupper
  rw [hplan] at hupper
  exact ⟨_, BareResult.marshal_eq_some.mpr ⟨by omega, rfl⟩, by omega, by omega⟩

end AntiFlock.Enforcement
