import AntiFlock.Driver.Contract
import AntiFlock.Go.Map

set_option autoImplicit false

/-! # The reservation store and the receipt store -/
namespace AntiFlock.Driver
open AntiFlock.Go

def maxReservationResultBytes : ℕ := 512 * 1024

/-- The outcome of a reservation; a replayed one carries the stored result. -/
structure Reservation where
  token : ReservationToken
  replayed : Bool
  terminal : Step
  result : List UInt8
deriving DecidableEq, Inhabited

structure RevisionFloor where
  policyRevision : ℕ
  planRevision : ℕ
deriving DecidableEq, Inhabited

structure ReservationRecord where
  token : ReservationToken
  released : Bool := false
  terminal : Step := .none
  result : List UInt8 := []
deriving DecidableEq, Inhabited

def ReservationRecord.close (record : ReservationRecord) (terminal : Step) (result : List UInt8) :
    ReservationRecord :=
  { record with released := true, terminal := terminal, result := result }

/-- `MemoryReservationStore`, keyed by plan id. -/
structure ReservationStore where
  floor : RevisionFloor
  records : Map String ReservationRecord

namespace ReservationStore

/-- `issuedAt` is the reading of the store's own clock. -/
def reserve (store : ReservationStore) (issuedAt : Time) (key : ReservationKey) :
    Except Err Reservation × ReservationStore :=
  match key.digest with
  | .error err => (.error err, store)
  | .ok digest =>
    match store.records.lookup key.planID with
    | some existing =>
      if existing.token.key ≠ key then (.error ⟨.alreadyReserved, ""⟩, store)
      else if !existing.released then (.error ⟨.alreadyReserved, ""⟩, store)
      else (.ok ⟨existing.token, true, existing.terminal, existing.result⟩, store)
    | none =>
      if key.policyRevision < store.floor.policyRevision ||
          key.planRevision ≤ store.floor.planRevision then
        (.error ⟨.staleRevision, ""⟩, store)
      else if isZero issuedAt then
        (.error ⟨.other, "reservation clock returned a zero time"⟩, store)
      else
        let token : ReservationToken := ⟨key, digest, issuedAt⟩
        (.ok ⟨token, false, .none, []⟩,
          { floor := ⟨key.policyRevision, key.planRevision⟩
            records := store.records.insert key.planID ⟨token, false, .none, []⟩ })

def release (store : ReservationStore) (token : ReservationToken) (terminal : Step)
    (result : List UInt8) : Except Err Unit × ReservationStore :=
  match token.validate with
  | some err => (.error err, store)
  | none =>
    if !terminal.terminal then (.error ⟨.reservationNotTerminal, ""⟩, store)
    else if result.length > maxReservationResultBytes then
      (.error ⟨.invalidRequest, "terminal result exceeds 524288 bytes"⟩, store)
    else match store.records.lookup token.key.planID with
      | none => (.error ⟨.reservationUnknown, ""⟩, store)
      | some record =>
        if record.token.token ≠ token.token then (.error ⟨.reservationUnknown, ""⟩, store)
        else if record.released then
          if record.terminal = terminal && record.result = result then (.ok (), store)
          else (.error ⟨.reservationConflict, ""⟩, store)
        else
          (.ok (), { store with
            records := store.records.insert token.key.planID (record.close terminal result) })

theorem reserve_cases (store : ReservationStore) (issuedAt : Time) (key : ReservationKey) :
    (∃ err, store.reserve issuedAt key = (.error err, store)) ∨
    (∃ reservation, reservation.replayed = true ∧
      store.reserve issuedAt key = (.ok reservation, store)) ∨
    (store.records.lookup key.planID = none ∧ key.validate = none ∧ issuedAt ≠ 0 ∧
      store.reserve issuedAt key =
        (.ok ⟨⟨key, key.digestValue, issuedAt⟩, false, .none, []⟩,
          ⟨⟨key.policyRevision, key.planRevision⟩,
            store.records.insert key.planID ⟨⟨key, key.digestValue, issuedAt⟩, false, .none, []⟩⟩)) := by
  cases hv : key.validate with
  | some err => exact .inl ⟨err, by simp [reserve, ReservationKey.digest, hv]⟩
  | none =>
    have hd : key.digest = .ok key.digestValue := by simp [ReservationKey.digest, hv]
    cases hl : store.records.lookup key.planID with
    | some existing =>
      by_cases hkey : existing.token.key = key
      · by_cases hrel : existing.released = true
        · exact .inr (.inl ⟨⟨existing.token, true, existing.terminal, existing.result⟩, rfl, by
            simp [reserve, hd, hl, hkey, hrel]⟩)
        · exact .inl ⟨⟨.alreadyReserved, ""⟩, by simp [reserve, hd, hl, hkey, hrel]⟩
      · exact .inl ⟨⟨.alreadyReserved, ""⟩, by simp [reserve, hd, hl, hkey]⟩
    | none =>
      by_cases hf : key.policyRevision < store.floor.policyRevision ∨
          key.planRevision ≤ store.floor.planRevision
      · exact .inl ⟨⟨.staleRevision, ""⟩, by simp [reserve, hd, hl, hf]⟩
      · by_cases hz : issuedAt = 0
        · exact .inl ⟨⟨.other, "reservation clock returned a zero time"⟩, by
            simp [reserve, hd, hl, hf, isZero, hz]⟩
        · exact .inr (.inr ⟨rfl, rfl, hz, by simp [reserve, hd, hl, hf, isZero, hz]⟩)

theorem release_cases (store : ReservationStore) (token : ReservationToken) (terminal : Step)
    (result : List UInt8) :
    (∃ err, store.release token terminal result = (.error err, store)) ∨
    (∃ record, store.records.lookup token.key.planID = some record ∧
      record.token.token = token.token ∧ terminal.terminal = true ∧
      ((record.released = true ∧ record.terminal = terminal ∧ record.result = result ∧
        store.release token terminal result = (.ok (), store)) ∨
      (record.released = false ∧
        store.release token terminal result =
          (.ok (), { store with
            records := store.records.insert token.key.planID (record.close terminal result) })))) := by
  cases hv : token.validate with
  | some err => exact .inl ⟨err, by simp [release, hv]⟩
  | none =>
    by_cases ht : terminal.terminal = true
    · by_cases hlen : result.length > maxReservationResultBytes
      · exact .inl ⟨⟨.invalidRequest, "terminal result exceeds 524288 bytes"⟩, by
          simp [release, hv, ht, hlen]⟩
      · cases hl : store.records.lookup token.key.planID with
        | none => exact .inl ⟨⟨.reservationUnknown, ""⟩, by simp [release, hv, ht, hlen, hl]⟩
        | some record =>
          by_cases htok : record.token.token = token.token
          · by_cases hrel : record.released = true
            · by_cases hsame : record.terminal = terminal ∧ record.result = result
              · exact .inr ⟨record, rfl, htok, ht, .inl ⟨hrel, hsame.1, hsame.2, by
                  simp [release, hv, ht, hlen, hl, htok, hrel, hsame]⟩⟩
              · exact .inl ⟨⟨.reservationConflict, ""⟩, by
                  simp [release, hv, ht, hlen, hl, htok, hrel, hsame]⟩
            · exact .inr ⟨record, rfl, htok, ht, .inr ⟨by simpa using hrel, by
                simp [release, hv, ht, hlen, hl, htok, hrel]⟩⟩
          · exact .inl ⟨⟨.reservationUnknown, ""⟩, by simp [release, hv, ht, hlen, hl, htok]⟩
    · exact .inl ⟨⟨.reservationNotTerminal, ""⟩, by simp [release, hv, ht]⟩

/-- A store that has forgotten no plan id and changed no token. -/
def Keeps (store store' : ReservationStore) : Prop :=
  ∀ plan record, store.records.lookup plan = some record →
    ∃ record', store'.records.lookup plan = some record' ∧ record'.token = record.token

theorem Keeps.refl (store : ReservationStore) : Keeps store store := fun _ record h => ⟨record, h, rfl⟩

theorem reserve_keeps (store : ReservationStore) (issuedAt : Time) (key : ReservationKey) :
    Keeps store (store.reserve issuedAt key).2 := by
  rcases store.reserve_cases issuedAt key with ⟨err, h⟩ | ⟨reservation, -, h⟩ | ⟨hnone, -, -, h⟩
  · rw [h]; exact .refl store
  · rw [h]; exact .refl store
  · rw [h]
    intro plan record hr
    have hne : plan ≠ key.planID := by
      rintro rfl
      rw [hnone] at hr
      cases hr
    exact ⟨record, by rw [Map.lookup_insert_eq_ite, if_neg hne, hr], rfl⟩

theorem release_keeps (store : ReservationStore) (token : ReservationToken) (terminal : Step)
    (result : List UInt8) : Keeps store (store.release token terminal result).2 := by
  rcases store.release_cases token terminal result with
    ⟨err, h⟩ | ⟨record, hl, -, -, ⟨-, -, -, h⟩ | ⟨-, h⟩⟩
  · rw [h]; exact .refl store
  · rw [h]; exact .refl store
  · rw [h]
    intro plan old hr
    by_cases hplan : plan = token.key.planID
    · subst hplan
      rw [hl, Option.some.injEq] at hr
      exact ⟨record.close terminal result, by simp, by rw [← hr]; rfl⟩
    · exact ⟨old, by rw [Map.lookup_insert_eq_ite, if_neg hplan, hr], rfl⟩

end ReservationStore

/-- `MemoryReceiptStore`. -/
structure ReceiptStore where
  receipts : List Receipt
  digests : List String
deriving DecidableEq, Inhabited

namespace ReceiptStore

def append (store : ReceiptStore) (receipt : Receipt) : Except Err Unit × ReceiptStore :=
  match receipt.contentDigest with
  | .error err => (.error err, store)
  | .ok digest =>
    if digest ∈ store.digests then (.error ⟨.receiptDuplicate, ""⟩, store)
    else (.ok (), ⟨store.receipts ++ [receipt], digest :: store.digests⟩)

end ReceiptStore
end AntiFlock.Driver
