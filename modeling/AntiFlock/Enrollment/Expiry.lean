import AntiFlock.Enrollment.Tables

set_option autoImplicit false

/-!
# Requests that have expired

`ApproveEnrollmentRequestWithAudit` marks a request that has expired and fails in
the same transaction, so that the mark is rolled back with it. The request stays
pending: it can still be denied, and only the clock keeps it from being approved.
-/
namespace AntiFlock.Enrollment
open AntiFlock.Go AntiFlock.Sql

variable {J : Type}

/-! ## Runs of decisions -/

inductive Ruling (J : Type) where
  | approve (enrollmentID actorID operationID reasonCode : String) (tags : List String) (now : Instant) (node : Node J)
  | deny (enrollmentID actorID operationID reasonCode : String) (now : Instant)

namespace Ruling

def tx : Ruling J → EnrollTx J Unit
  | approve enrollmentID actorID operationID reasonCode tags now node =>
    approveEnrollmentRequest enrollmentID actorID operationID reasonCode tags now node
  | deny enrollmentID actorID operationID reasonCode now =>
    denyEnrollmentRequest enrollmentID actorID operationID reasonCode now

def now : Ruling J → Instant
  | approve _ _ _ _ _ now _ => now
  | deny _ _ _ _ now => now

def Approves (id : String) : Ruling J → Prop
  | approve enrollmentID _ _ _ _ _ _ => enrollmentID = id
  | deny _ _ _ _ _ => False

end Ruling

/-- How the database may fail a call: it rolls it back, or it commits it and does not say so. -/
inductive Fault where
  | none
  | failed (message : String)
  | lost (message : String)

structure Attempt (J : Type) where
  ruling : Ruling J
  fault : Fault

def Attempt.answer (a : Attempt J) (t : Tables J) : Except EnrollErr Unit × Tables J :=
  match a.fault with
  | .none => a.ruling.tx.commit t
  | .failed message => (.error (.text message), t)
  | .lost message => (.error (.text message), (a.ruling.tx.commit t).2)

def Tables.after (t : Tables J) (attempts : List (Attempt J)) : Tables J :=
  attempts.foldl (fun t a => (a.answer t).2) t

def Tables.request (t : Tables J) (id : String) : Option (EnrollmentRequestRecord J) :=
  t.requests.find? fun row => row.id = id

def Tables.statusOf (t : Tables J) (id : String) : Option RequestStatus := (t.request id).map (·.status)

/-- The call is an approval of the request that is refused because the request has expired. -/
def Attempt.Refused (a : Attempt J) (t : Tables J) (id : String) : Prop :=
  a.ruling.Approves id ∧ (a.answer t).1 = .error .requestExpired

variable {t t' : Tables J} {id : String} {a : Attempt J} {attempts : List (Attempt J)}

theorem request_settle {enrollmentID : String} {change : EnrollmentRequestRecord J → EnrollmentRequestRecord J}
    (hchange : ∀ row, (change row).id = row.id) : (t.settle enrollmentID change).request id =
      (t.request id).map fun row => if row.id = enrollmentID ∧ row.status = .pending then change row else row := by
  unfold Tables.request Tables.settle
  rw [List.find?_map]
  congr 2
  funext row
  rw [Function.comp_apply]
  split
  · rw [hchange]
  · rfl

theorem Attempt.answer_cases (a : Attempt J) (t : Tables J) :
    (a.answer t).2 = t ∨ a.ruling.tx.Does t () (a.answer t).2 := by
  have hcommit : (a.ruling.tx.commit t).2 = t ∨ a.ruling.tx.Does t () (a.ruling.tx.commit t).2 := by
    rcases a.ruling.tx.commit_cases t with ⟨err, h⟩ | ⟨u, t', hdoes, h⟩
    · rw [h]
      exact .inl rfl
    · rw [h]
      exact .inr hdoes
  unfold Attempt.answer
  cases a.fault with
  | none => exact hcommit
  | failed message => exact .inl rfl
  | lost message => exact hcommit

/-! ## Calls that are refused -/

theorem expired_of_fails {actorID operationID reasonCode : String} {tags : List String} {now : Instant} {node : Node J}
    (h : (approveEnrollmentRequest id actorID operationID reasonCode tags now node).Fails t .requestExpired) :
    ∃ row, t.request id = some row ∧ row.status = .pending ∧ row.expiresAt ≤ now := by
  rw [approveEnrollmentRequest, Tx.fails_get_bind] at h
  cases hrequest : t.requests.find? fun row => row.id = id with
  | none =>
    rw [hrequest, Tx.fails_throw] at h
    cases h
  | some request =>
    rw [hrequest] at h
    simp only [Tx.fails_bind, Tx.fails_require, Tx.fails_lift, Tx.does_require, Tx.does_lift, parseTime_eq_ok] at h
    obtain ⟨-, h⟩ | ⟨_, _, ⟨hpending, rfl⟩, h | ⟨_, _, ⟨⟨-, rfl⟩, rfl⟩, h⟩⟩ := h
    · cases h
    · unfold parseTime at h
      split at h
      all_goals cases h
    split at h
    · rename_i hnow
      exact ⟨request, hrequest, hpending, not_lt.mp hnow⟩
    · -- whatever else goes wrong has another name
      split at h
      · cases Tx.fails_throw.mp h
      · simp only [insertNode, Tx.fails_bind, Tx.fails_get, Tx.fails_require, Tx.fails_modify, Tx.does_bind, Tx.does_get,
          Tx.does_require, Tx.does_modify, and_false, or_false, exists_false, reduceCtorEq] at h

theorem Attempt.Refused.unchanged (h : a.Refused t id) : (a.answer t).2 = t ∧
    ∃ row, t.request id = some row ∧ row.status = .pending ∧ row.expiresAt ≤ a.ruling.now := by
  obtain ⟨ruling, fault⟩ := a
  obtain ⟨happroves, herr⟩ := h
  cases fault with
  | failed message => cases herr
  | lost message => cases herr
  | none =>
    refine ⟨Tx.commit_error herr, ?_⟩
    cases ruling with
    | deny enrollmentID actorID operationID reasonCode now => exact happroves.elim
    | approve enrollmentID actorID operationID reasonCode tags now node =>
      cases happroves
      exact expired_of_fails (Tx.fails_of_commit herr)

/-- The request was pending when it expired, and no call has approved it since. -/
def Tables.Lapsed (t : Tables J) (id : String) (now : Instant) : Prop :=
  ∃ row, t.request id = some row ∧ row.expiresAt ≤ now ∧ (row.status = .pending ∨ row.status = .denied)

theorem Tables.Lapsed.answer {now : Instant} (h : t.Lapsed id now) (hnow : now ≤ a.ruling.now) :
    (a.answer t).2.Lapsed id now := by
  obtain ⟨row, hrow, hexpired, hstatus⟩ := h
  rcases a.answer_cases t with hsame | hdoes
  · rw [hsame]
    exact ⟨row, hrow, hexpired, hstatus⟩
  generalize (a.answer t).2 = t' at hdoes ⊢
  cases hruling : a.ruling with
  | approve enrollmentID actorID operationID reasonCode tags now' node =>
    rw [hruling] at hdoes hnow
    cases approveEnrollmentRequest_moves hdoes with
    | approved hrequest hpending hparses hbefore howner howns hnode hverdict =>
      refine ⟨row, ?_, hexpired, hstatus⟩
      refine (request_settle ?_).trans ((congrArg (Option.map _) hrow).trans (congrArg some (if_neg ?_)))
      · exact fun _ => rfl
      rintro ⟨rfl, -⟩
      have hid : row.id = id := by simpa using List.find?_some hrow
      rw [hid] at hrequest
      cases hrow.symm.trans hrequest
      exact absurd hbefore (not_lt.mpr (le_trans hexpired hnow))
  | deny enrollmentID actorID operationID reasonCode now' =>
    rw [hruling] at hdoes
    cases denyEnrollmentRequest_moves hdoes with
    | denied hrequest hpending hverdict =>
      refine ⟨_, (request_settle ?_).trans (congrArg (Option.map _) hrow), ?_⟩
      · exact fun _ => rfl
      dsimp only
      split
      · exact ⟨hexpired, .inr rfl⟩
      · exact ⟨hexpired, hstatus⟩

theorem Tables.Lapsed.after {now : Instant} (h : t.Lapsed id now) (hnow : ∀ a ∈ attempts, now ≤ a.ruling.now) :
    (t.after attempts).Lapsed id now := by
  induction attempts generalizing t with
  | nil => exact h
  | cons a attempts ih =>
    exact ih (h.answer (hnow a List.mem_cons_self)) fun b hb => hnow b (List.mem_cons_of_mem a hb)

theorem Tables.Lapsed.status {now : Instant} (h : t.Lapsed id now) :
    t.statusOf id = some .pending ∨ t.statusOf id = some .denied := by
  obtain ⟨row, hrow, -, hstatus⟩ := h
  unfold Tables.statusOf
  rw [hrow]
  exact hstatus.imp (congrArg some) (congrArg some)

end AntiFlock.Enrollment
