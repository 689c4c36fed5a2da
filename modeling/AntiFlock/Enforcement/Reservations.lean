import AntiFlock.Driver.Stores
import AntiFlock.Effect.Answers
import AntiFlock.Enforcement.StateStore

set_option autoImplicit false

/-!
# The driver's reservation store under the enforcer

The driver contract maps the enforcer's state store onto its own reservation
store. Both answer alike, call by call, as long as no encoded result is longer
than the reservation store takes and its clock runs.
-/
namespace AntiFlock.Enforcement
open AntiFlock.Effect AntiFlock.Go
open AntiFlock.Driver (ReservationKey ReservationRecord ReservationStore ReservationToken RevisionFloor
  Step Time maxReservationResultBytes)

/-- How the enforcer's reservations and results become keys and releases. The nonce is the plan nonce
as a printable string. -/
structure Adapter (Result : Type) where
  format : ResultFormat Result
  nonce : Reservation → String
  terminal : Result → Step
  terminal_terminal : ∀ result, (terminal result).terminal = true

/-- A reservation, with what the clock of the driver's store shows, or a completion. -/
inductive PlanCall (Result : Type) where
  | reserve (reservation : Reservation) (now : Time)
  | complete (result : Result)

/-- What either store decides, in the words of the enforcer. -/
inductive Verdict where
  | granted
  | stored (terminal : Step) (wire : Option (List UInt8))
  | replay
  | inProgress
  | completed
  | failed
deriving DecidableEq

/-- `ErrAlreadyReserved` means in progress for the identical key and replay for another one. -/
def reserveVerdict (store : ReservationStore) (key : ReservationKey) :
    Except Driver.Err Driver.Reservation → Verdict
  | .ok reservation =>
    if reservation.replayed then .stored reservation.terminal (some reservation.result) else .granted
  | .error err =>
    match err.kind with
    | .staleRevision => .replay
    | .alreadyReserved =>
      if (store.records.lookup key.planID).any fun record => record.token.key = key then .inProgress
      else .replay
    | _ => .failed

def releaseVerdict : Except Driver.Err Unit → Verdict
  | .ok () => .completed
  | .error err => if err.kind = .reservationConflict then .replay else .failed

def errVerdict (err : StateErr) : Verdict :=
  match err.kind with
  | .planReplay => .replay
  | .planInProgress => .inProgress
  | _ => .failed

namespace Adapter
variable {Result : Type} (adapter : Adapter Result)

def key (reservation : Reservation) : ReservationKey :=
  ⟨reservation.planID, reservation.policyRevision, reservation.planRevision, adapter.nonce reservation,
    reservation.fingerprint⟩

/-- The driver's store; a completion releases the token that `Reserve` gave out. -/
def driverStep (store : ReservationStore) : PlanCall Result → (Verdict × RevisionFloor) × ReservationStore
  | .reserve reservation now =>
    let (answer, store') := store.reserve now (adapter.key reservation)
    ((reserveVerdict store (adapter.key reservation) answer, store'.floor), store')
  | .complete result =>
    match store.records.lookup (adapter.format.planID result), adapter.format.marshal result with
    | some record, some wire =>
      let (answer, store') := store.release record.token (adapter.terminal result) wire
      ((releaseVerdict answer, store'.floor), store')
    | _, _ => ((.failed, store.floor), store)

def storedVerdict : Except StateErr (Option Result) → Verdict
  | .ok none => .granted
  | .ok (some result) => .stored (adapter.terminal result) (adapter.format.marshal result)
  | .error err => errVerdict err

def completeVerdict : Except StateErr Unit → Verdict
  | .ok () => .completed
  | .error err => errVerdict err

def enforcerStep [DecidableEq Result] (store : MemoryStateStore Result) :
    PlanCall Result → (Verdict × RevisionFloor) × MemoryStateStore Result
  | .reserve reservation _ =>
    let (answer, store') := store.reserve none reservation
    ((adapter.storedVerdict answer, ⟨store'.lastPolicyRevision, store'.lastPlanRevision⟩), store')
  | .complete result =>
    let (answer, store') := store.complete adapter.format none (some result)
    ((completeVerdict answer, ⟨store'.lastPolicyRevision, store'.lastPlanRevision⟩), store')

/-- Valid keys, completions of a reserved key, and nothing beyond what the driver's store takes: a
running clock and results of bounded size. -/
def Admissible (store : ReservationStore) : PlanCall Result → Prop
  | .reserve reservation now => (adapter.key reservation).validate = none ∧ now ≠ 0
  | .complete result =>
    (∃ record, store.records.lookup (adapter.format.planID result) = some record ∧
      record.token.key.planRevision = adapter.format.planRevision result) ∧
    ∃ wire, adapter.format.marshal result = some wire ∧ wire.length ≤ maxReservationResultBytes

@[simp] theorem key_policyRevision (r : Reservation) : (adapter.key r).policyRevision = r.policyRevision := rfl
@[simp] theorem key_planRevision (r : Reservation) : (adapter.key r).planRevision = r.planRevision := rfl

theorem key_inj {r r' : Reservation} (h : adapter.key r = adapter.key r') : r = r' := by
  cases r
  cases r'
  simp only [key, ReservationKey.mk.injEq] at h
  obtain ⟨hplan, hpolicy, hrevision, -, hfingerprint⟩ := h
  rw [hplan, hpolicy, hrevision, hfingerprint]

theorem key_valid {r : Reservation} (h : (adapter.key r).validate = none) : r.Complete := by
  have hempty : Driver.validIdentifier "" = false := by decide
  simp only [ReservationKey.validate, key, Driver.check_eq_none, and_true, Bool.not_eq_true', Bool.or_eq_true,
    not_or, Bool.not_eq_false] at h
  obtain ⟨hplan, ⟨hpolicy, hrevision⟩, ⟨-, hfingerprint⟩, -⟩ := h
  refine ⟨fun h => ?_, fun h => ?_, fun h => hpolicy (decide_eq_true h), fun h => hrevision (decide_eq_true h)⟩
  · rw [h, hempty] at hplan
    cases hplan
  · rw [h, hempty] at hfingerprint
    cases hfingerprint

structure RecordsAlike (id : String) (d : ReservationRecord) (m : MemoryRecord Result) : Prop where
  named : m.reservation.planID = id ∧ id ≠ ""
  key : d.token.key = adapter.key m.reservation
  valid : d.token.validate = none
  result : match m.result with
    | none => d.released = false
    | some result => d.released = true ∧ d.terminal = adapter.terminal result ∧
        adapter.format.marshal result = some d.result

structure StoresAlike (d : ReservationStore) (m : MemoryStateStore Result) : Prop where
  policy : d.floor.policyRevision = m.lastPolicyRevision
  plan : d.floor.planRevision = m.lastPlanRevision
  records : Map.Related adapter.RecordsAlike d.records m.records

variable {adapter} {d : ReservationStore} {m : MemoryStateStore Result}

theorem StoresAlike.floor (h : adapter.StoresAlike d m) :
    d.floor = ⟨m.lastPolicyRevision, m.lastPlanRevision⟩ := by
  rw [← h.policy, ← h.plan]

theorem storesAlike_new (policy plan : ℕ) :
    adapter.StoresAlike ⟨⟨policy, plan⟩, ∅⟩ (newMemoryStateStore Result policy plan) :=
  ⟨rfl, rfl, .empty⟩

theorem complete_refused {result : Result} {record : ReservationRecord} {wire : List UInt8}
    (hrecord : d.records.lookup (adapter.format.planID result) = some record)
    (hvalid : record.token.validate = none) (hwire : adapter.format.marshal result = some wire)
    (hlong : maxReservationResultBytes < wire.length) :
    adapter.driverStep d (.complete result) = ((.failed, d.floor), d) := by
  have hrelease : d.release record.token (adapter.terminal result) wire =
      (.error ⟨.invalidRequest, "terminal result exceeds 524288 bytes"⟩, d) := by
    simp [ReservationStore.release, hvalid, adapter.terminal_terminal, hlong]
  simp only [driverStep, hrecord, hwire, hrelease]
  rfl

variable [DecidableEq Result]

theorem reserve_alike (h : adapter.StoresAlike d m) {reservation : Reservation} {now : Time}
    (hvalid : (adapter.key reservation).validate = none) (hnow : now ≠ 0) :
    (adapter.driverStep d (.reserve reservation now)).1 = (adapter.enforcerStep m (.reserve reservation now)).1 ∧
      adapter.StoresAlike (adapter.driverStep d (.reserve reservation now)).2
        (adapter.enforcerStep m (.reserve reservation now)).2 := by
  have hdigest : (adapter.key reservation).digest = .ok (adapter.key reservation).digestValue := by
    rw [ReservationKey.digest, hvalid]
  rcases h.records.lookup reservation.planID with ⟨hd, hm⟩ | ⟨old, record, hd, hm, hrecords⟩
  all_goals change d.records.lookup (adapter.key reservation).planID = _ at hd
  · have hcomplete := adapter.key_valid hvalid
    have henforcer := MemoryStateStore.reserve_absent hm hcomplete
    by_cases hstale : reservation.policyRevision < m.lastPolicyRevision ∨
        reservation.planRevision ≤ m.lastPlanRevision
    · have hdriver : d.reserve now (adapter.key reservation) = (.error ⟨.staleRevision, ""⟩, d) := by
        simp [ReservationStore.reserve, hdigest, hd, h.policy, h.plan, hstale]
      rw [if_pos hstale] at henforcer
      simp only [driverStep, enforcerStep, hdriver, henforcer]
      exact ⟨by rw [h.floor]; rfl, h⟩
    · have hdriver : d.reserve now (adapter.key reservation) =
          (.ok ⟨⟨adapter.key reservation, (adapter.key reservation).digestValue, now⟩, false, .none, []⟩,
            ⟨⟨reservation.policyRevision, reservation.planRevision⟩, d.records.insert reservation.planID
              ⟨⟨adapter.key reservation, (adapter.key reservation).digestValue, now⟩, false, .none, []⟩⟩) := by
        simp [ReservationStore.reserve, hdigest, hd, h.policy, h.plan, hstale, Driver.isZero, hnow]
        rfl
      rw [if_neg hstale] at henforcer
      simp only [driverStep, enforcerStep, hdriver, henforcer]
      refine ⟨rfl, rfl, rfl, h.records.insert ⟨⟨rfl, hcomplete.1⟩, rfl, ?_, rfl⟩⟩
      simp [ReservationToken.validate, hdigest, Driver.isZero, hnow]
  · by_cases hsame : record.reservation = reservation
    · have hkey : old.token.key = adapter.key reservation := by rw [hrecords.key, hsame]
      have hresult := hrecords.result
      cases hr : record.result with
      | none =>
        rw [hr] at hresult
        have hdriver : d.reserve now (adapter.key reservation) = (.error ⟨.alreadyReserved, ""⟩, d) := by
          simp [ReservationStore.reserve, hdigest, hd, hkey, hresult]
        have henforcer : m.reserve none reservation = (.error errPlanInProgress, m) := by
          simp [MemoryStateStore.reserve, hm, hsame, hr]
        simp only [driverStep, enforcerStep, hdriver, henforcer]
        refine ⟨?_, h⟩
        simp [reserveVerdict, storedVerdict, errVerdict, errPlanInProgress, hd, hkey, h.floor]
      | some result =>
        rw [hr] at hresult
        obtain ⟨hreleased, hterminal, hwire⟩ := hresult
        have hdriver : d.reserve now (adapter.key reservation) =
            (.ok ⟨old.token, true, old.terminal, old.result⟩, d) := by
          simp [ReservationStore.reserve, hdigest, hd, hkey, hreleased]
        have henforcer : m.reserve none reservation = (.ok (some result), m) := by
          simp [MemoryStateStore.reserve, hm, hsame, hr]
        simp only [driverStep, enforcerStep, hdriver, henforcer]
        refine ⟨?_, h⟩
        simp [reserveVerdict, storedVerdict, hterminal, hwire, h.floor]
    · have hkey : old.token.key ≠ adapter.key reservation := by
        rw [hrecords.key]
        exact fun heq => hsame (adapter.key_inj heq)
      have hdriver : d.reserve now (adapter.key reservation) = (.error ⟨.alreadyReserved, ""⟩, d) := by
        simp [ReservationStore.reserve, hdigest, hd, hkey]
      have henforcer : m.reserve none reservation = (.error errPlanReplay, m) := by
        simp [MemoryStateStore.reserve, hm, hsame]
      simp only [driverStep, enforcerStep, hdriver, henforcer]
      refine ⟨?_, h⟩
      simp [reserveVerdict, storedVerdict, errVerdict, errPlanReplay, hd, hkey, h.floor]

theorem complete_alike (h : adapter.StoresAlike d m) {result : Result} {old : ReservationRecord}
    (hd : d.records.lookup (adapter.format.planID result) = some old)
    (hrevision : old.token.key.planRevision = adapter.format.planRevision result) {wire : List UInt8}
    (hwire : adapter.format.marshal result = some wire) (hlen : wire.length ≤ maxReservationResultBytes) :
    (adapter.driverStep d (.complete result)).1 = (adapter.enforcerStep m (.complete result)).1 ∧
      adapter.StoresAlike (adapter.driverStep d (.complete result)).2
        (adapter.enforcerStep m (.complete result)).2 := by
  rcases h.records.lookup (adapter.format.planID result) with ⟨hd', -⟩ | ⟨old', record, hd', hm, hrecords⟩
  · rw [hd] at hd'
    cases hd'
  · rw [hd, Option.some.injEq] at hd'
    subst hd'
    obtain ⟨hnamed, hnonempty⟩ := hrecords.named
    have hplan : old.token.key.planID = adapter.format.planID result := by rw [hrecords.key]; exact hnamed
    have hd' : d.records.lookup old.token.key.planID = some old := by rw [hplan]; exact hd
    have hmatches : record.reservation.planRevision = adapter.format.planRevision result := by
      rw [← hrevision, hrecords.key]
      rfl
    have hresult := hrecords.result
    cases hr : record.result with
    | none =>
      rw [hr] at hresult
      have hdriver : d.release old.token (adapter.terminal result) wire =
          (.ok (), ⟨d.floor, d.records.insert (adapter.format.planID result)
            (old.close (adapter.terminal result) wire)⟩) := by
        simp [ReservationStore.release, hrecords.valid, adapter.terminal_terminal, Nat.not_lt.mpr hlen, hd',
          hresult]
        rw [hplan]
      have henforcer : m.complete adapter.format none (some result) =
          (.ok (), ⟨m.lastPolicyRevision, m.lastPlanRevision,
            m.records.insert (adapter.format.planID result) ⟨record.reservation, some result⟩⟩) := by
        simp [MemoryStateStore.complete, hnonempty, hm, hmatches, hr]
      simp only [driverStep, enforcerStep, hd, hwire, hdriver, henforcer]
      refine ⟨by rw [h.floor]; rfl, h.policy, h.plan, h.records.insert ?_⟩
      exact ⟨hrecords.named, hrecords.key, hrecords.valid, rfl, rfl, hwire⟩
    | some stored =>
      rw [hr] at hresult
      obtain ⟨hreleased, hterminal, hstored⟩ := hresult
      by_cases hsame : stored = result
      · subst hsame
        have hdriver : d.release old.token (adapter.terminal stored) wire = (.ok (), d) := by
          have hbytes : old.result = wire := Option.some.inj (hstored.symm.trans hwire)
          simp [ReservationStore.release, hrecords.valid, adapter.terminal_terminal, Nat.not_lt.mpr hlen, hd',
            hreleased, hterminal, hbytes]
        have henforcer : m.complete adapter.format none (some stored) = (.ok (), m) := by
          simp [MemoryStateStore.complete, hnonempty, hm, hmatches, hr]
        simp only [driverStep, enforcerStep, hd, hwire, hdriver, henforcer]
        exact ⟨by rw [h.floor]; rfl, h⟩
      · have hbytes : old.result ≠ wire := fun heq =>
          hsame (adapter.format.marshal_inj hstored (heq ▸ hwire))
        have hdriver : d.release old.token (adapter.terminal result) wire =
            (.error ⟨.reservationConflict, ""⟩, d) := by
          simp [ReservationStore.release, hrecords.valid, adapter.terminal_terminal, Nat.not_lt.mpr hlen, hd',
            hreleased, hbytes]
        have henforcer : m.complete adapter.format none (some result) = (.error errPlanReplay, m) := by
          simp [MemoryStateStore.complete, hnonempty, hm, hmatches, hr, hsame]
        simp only [driverStep, enforcerStep, hd, hwire, hdriver, henforcer]
        exact ⟨by rw [h.floor]; rfl, h⟩

variable (adapter) in
/-- Started with the same floors, both stores answer every admissible list of calls alike and keep
their floors equal. -/
theorem reservations_simulate (policy plan : ℕ) (calls : List (PlanCall Result))
    (h : Along adapter.driverStep adapter.Admissible ⟨⟨policy, plan⟩, ∅⟩ calls) :
    answers adapter.driverStep ⟨⟨policy, plan⟩, ∅⟩ calls =
      answers adapter.enforcerStep (newMemoryStateStore Result policy plan) calls := by
  rw [← List.forall₂_eq_eq_eq]
  refine answers_alike (R := adapter.StoresAlike) (fun d m call halike hcall => ?_) (storesAlike_new policy plan) h
  cases call with
  | reserve reservation now => exact reserve_alike halike hcall.1 hcall.2
  | complete result =>
    obtain ⟨⟨record, hrecord, hrevision⟩, wire, hwire, hlen⟩ := hcall
    exact complete_alike halike hrecord hrevision hwire hlen

end Adapter

theorem commit_terminal (_ : BareResult) : Step.commit.terminal = true := rfl

noncomputable def bareAdapter : Adapter BareResult := ⟨BareResult.format, fun _ => "nonce", fun _ => .commit, commit_terminal⟩

noncomputable def reservedStore : ReservationStore :=
  (bareAdapter.driverStep ⟨⟨0, 0⟩, ∅⟩ (.reserve sampleReservation 1)).2

noncomputable def reservedState : MemoryStateStore BareResult :=
  (bareAdapter.enforcerStep (newMemoryStateStore BareResult 0 0) (.reserve sampleReservation 1)).2

theorem reserved_alike : bareAdapter.StoresAlike reservedStore reservedState ∧
    (bareAdapter.driverStep ⟨⟨0, 0⟩, ∅⟩ (.reserve sampleReservation 1)).1 = (.granted, ⟨3, 7⟩) := by
  have hnew : bareAdapter.StoresAlike ⟨⟨0, 0⟩, ∅⟩ (newMemoryStateStore BareResult 0 0) :=
    Adapter.storesAlike_new 0 0
  have hvalid : (bareAdapter.key sampleReservation).validate = none := by decide
  have hnow : (1 : Time) ≠ 0 := by decide
  obtain ⟨hanswer, hstores⟩ := Adapter.reserve_alike hnew hvalid hnow
  exact ⟨hstores, hanswer⟩

theorem reservedStore_record : ∃ record, reservedStore.records.lookup "plan-1" = some record ∧
    record.token.key.planRevision = 7 ∧ record.token.validate = none := by
  have hstate : reservedState.records.lookup "plan-1" = some ⟨sampleReservation, none⟩ := rfl
  rcases reserved_alike.1.records.lookup "plan-1" with ⟨-, hnone⟩ | ⟨old, record, hold, hrecord, halike⟩
  · rw [hstate] at hnone
    cases hnone
  · rw [hstate, Option.some.injEq] at hrecord
    subst hrecord
    exact ⟨old, hold, by rw [halike.key]; rfl, halike.valid⟩

theorem reservations_simulate_sample :
    answers bareAdapter.driverStep ⟨⟨0, 0⟩, ∅⟩ [.reserve sampleReservation 1, .complete (sampleResult 8)] =
      [(.granted, ⟨3, 7⟩), (.completed, ⟨3, 7⟩)] := by
  obtain ⟨record, hrecord, hrevision, -⟩ := reservedStore_record
  obtain ⟨wire, hwire, -, hshort⟩ := sampleResult_marshal (n := 8) (by decide)
  refine bareAdapter.reservations_simulate 0 0 _ ⟨⟨by decide, by decide⟩, ⟨⟨record, hrecord, hrevision⟩,
    wire, hwire, ?_⟩, trivial⟩
  exact hshort.trans (by decide)

/-- A result of more than 512 KiB: the enforcer's store keeps it, the driver's store refuses it. -/
theorem long_result_answers_differ :
    answers bareAdapter.driverStep ⟨⟨0, 0⟩, ∅⟩ [.reserve sampleReservation 1, .complete (sampleResult 524288)] =
        [(.granted, ⟨3, 7⟩), (.failed, ⟨3, 7⟩)] ∧
      answers bareAdapter.enforcerStep (newMemoryStateStore BareResult 0 0)
        [.reserve sampleReservation 1, .complete (sampleResult 524288)] =
        [(.granted, ⟨3, 7⟩), (.completed, ⟨3, 7⟩)] := by
  obtain ⟨record, hrecord, -, hvalid⟩ := reservedStore_record
  obtain ⟨wire, hwire, hlong, -⟩ := sampleResult_marshal (n := 524288) (Nat.le_refl _)
  have hrefused : bareAdapter.driverStep reservedStore (.complete (sampleResult 524288)) =
      ((.failed, reservedStore.floor), reservedStore) :=
    Adapter.complete_refused hrecord hvalid hwire hlong
  refine ⟨?_, rfl⟩
  change [_, (bareAdapter.driverStep reservedStore (.complete (sampleResult 524288))).1] = _
  rw [hrefused, reserved_alike.1.floor, reserved_alike.2]
  rfl

end AntiFlock.Enforcement
