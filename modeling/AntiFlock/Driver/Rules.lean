import AntiFlock.Driver.Lifecycle

set_option autoImplicit false

/-!
# Proof rules for the lifecycle methods

One rule per method: what has to be shown of the requests it makes and of each
way it can return. Everything proved about runs of a lifecycle goes through
these rules, so that only they look inside the methods.
-/
namespace AntiFlock.Driver
open AntiFlock.Effect
variable {W α : Type} {H : Handler Port W} {C : W → Prop} {w : W}

namespace Lifecycle
variable {lc : Lifecycle}

theorem require_ok {expected : LifecycleState} {run : LifecycleRun}
    (h : lc.require expected = .ok run) : lc.run = some run ∧ lc.state = expected := by
  unfold require at h
  split at h
  · cases h
  · rename_i run' hrun
    split at h
    · cases h
    · rename_i hstate
      cases h
      exact ⟨hrun, by simpa using hstate⟩

theorem wp_begin {ref : PlanRef} {Q : Returned Unit → W → Prop} (hC : C w)
    (invalid : ∀ err, ref.validate = some err → Q (lc.refuse err) w)
    (busy : lc.active = true → Q (lc.refuse ⟨.planActive, ""⟩) w)
    (called : lc.active = false → ref.validate = none →
      wp H C (store .journalInFlight) (fun inFlight w =>
        (∀ err, inFlight = .error err → Q (lc.refuse err) w) ∧
        (∀ entries err, inFlight = .ok entries → entries ≠ [] → err.kind = .recoveryPending →
          Q (lc.refuse err) w) ∧
        (inFlight = .ok [] → wp H C (journalBegin { ref := ref }) (fun written w =>
          (∀ err, written = .error err → Q (lc.refuse err) w) ∧
          (written = .ok () → Q ⟨(), none, lc.into .begun { ref := ref }⟩ w)) w)) w) :
    wp H C (lc.begin_ ref) Q w := by
  unfold begin_
  cases hv : ref.validate with
  | some err => exact ⟨hC, invalid err hv⟩
  | none =>
    cases ha : lc.active with
    | true => exact ⟨hC, busy ha⟩
    | false =>
      simp only [Bool.false_eq_true, if_false, Prog.bind_eq, wp_bind]
      refine wp_mono (called ha hv) fun inFlight w hw h => ?_
      match inFlight, h with
      | .error err, h => exact ⟨hw, h.1 err rfl⟩
      | .ok (_ :: _), h => exact ⟨hw, h.2.1 _ _ rfl (by simp) rfl⟩
      | .ok [], h =>
        refine (wp_bind _ _ _ _).mpr (wp_mono (h.2.2 rfl) fun written w hw h => ?_)
        match written, h with
        | .error err, h => exact ⟨hw, h.1 err rfl⟩
        | .ok (), h => exact ⟨hw, h.2 rfl⟩

theorem wp_capture {scope : Scope} {Q : Returned Snapshot → W → Prop} (hC : C w)
    (refused : ∀ err, Q (lc.refuse err) w)
    (called : ∀ run, lc.require .begun = .ok run → scope.validate = none →
      wp H C (driver (.capture scope)) (fun answer w => (∀ err, Q (lc.fail err) w) ∧
        ∀ snapshot digest, answer = .ok snapshot → snapshot.digest = .ok digest →
          Q ⟨snapshot, none, lc.into .captured
            { run with scope := scope, snapshot := snapshot, digest := digest }⟩ w) w) :
    wp H C (lc.capture scope) Q w := by
  unfold capture
  cases hr : lc.require .begun with
  | error err => exact ⟨hC, refused err⟩
  | ok run =>
    cases hv : scope.validate with
    | some err => exact ⟨hC, refused err⟩
    | none =>
      refine (wp_bind _ _ _ _).mpr (wp_mono (called run hr hv) fun answer w hw h => ?_)
      match answer, h with
      | .error err, h => exact ⟨hw, h.1 err⟩
      | .ok snapshot, h =>
        cases hd : snapshot.digest with
        | error err => simpa only [hd] using ⟨hw, h.1 err⟩
        | ok digest => simpa only [hd] using ⟨hw, h.2 snapshot digest rfl hd⟩

theorem wp_simulate {operation : Option PlanOperation} {Q : Returned SimulationResult → W → Prop}
    (hC : C w) (refused : ∀ err, Q (lc.refuse err) w)
    (called : ∀ run operation', lc.require .captured = .ok run → operation = some operation' →
      operation'.id = run.ref.operationID → validateTarget operation'.target = none →
      wp H C (driver (.simulate run.snapshot operation')) (fun answer w => (∀ err, Q (lc.fail err) w) ∧
        ∀ result, answer = .ok result → result.validate = none →
          result.snapshotDigest = run.digest → result.target = operation'.target →
          Q ⟨result, some ⟨.simulationRejected, ""⟩, lc.into .failed
            { run with simulation := result, operation := some operation' }⟩ w ∧
          (result.wouldSucceed = true →
            wp H C (journalAdvance { run with simulation := result, operation := some operation' }
              .simulate "" result.diff.afterDigest) (fun written w =>
              (∀ err, Q ⟨default, some err, lc.into .failed
                { run with simulation := result, operation := some operation' }⟩ w) ∧
              (written = .ok () → Q ⟨result, none, lc.into .simulated
                { run with simulation := result, operation := some operation' }⟩ w)) w)) w) :
    wp H C (lc.simulate operation) Q w := by
  unfold simulate
  cases hr : lc.require .captured with
  | error err => exact ⟨hC, refused err⟩
  | ok run =>
    cases ho : operation.filter fun operation => operation.id = run.ref.operationID with
    | none => simpa only [ho] using ⟨hC, refused _⟩
    | some operation' =>
      obtain ⟨hop, hid⟩ := Option.filter_eq_some_iff.mp ho
      cases ht : validateTarget operation'.target with
      | some err => simpa only [ho, ht] using ⟨hC, refused err⟩
      | none =>
        simp only [ho, ht, Prog.bind_eq, wp_bind]
        refine wp_mono (called run operation' hr hop (by simpa using hid) ht) fun answer w hw h => ?_
        match answer, h with
        | .error err, h => exact ⟨hw, h.1 err⟩
        | .ok result, h =>
          cases hv : result.validate with
          | some err => simpa only [hv] using ⟨hw, h.1 err⟩
          | none =>
            simp only [hv]
            split
            · exact ⟨hw, h.1 _⟩
            · rename_i hb
              simp only [ne_eq, Bool.or_eq_true, decide_eq_true_eq, not_or, not_not] at hb
              obtain ⟨hrej, hok⟩ := h.2 result rfl hv hb.1.1 hb.1.2
              cases hs : result.wouldSucceed with
              | false => exact ⟨hw, hrej⟩
              | true =>
                refine (wp_bind _ _ _ _).mpr (wp_mono (hok hs) fun written w hw h => ?_)
                match written, h with
                | .error err, h => exact ⟨hw, h.1 err⟩
                | .ok (), h => exact ⟨hw, h.2 rfl⟩

theorem wp_approve {approval : Approval} {Q : Returned Unit → W → Prop} (hC : C w)
    (refused : ∀ err, Q (lc.refuse err) w)
    (called : ∀ run, lc.require .simulated = .ok run → approval.validate = none →
      approval.planID = run.ref.planID → approval.planRevision = run.ref.planRevision →
      approval.operationID = run.ref.operationID → approval.target = run.target →
      wp H C (journalAdvance run .approve "" approval.digest) (fun written w =>
        (∀ err, written = .error err → Q (lc.refuse err) w) ∧
        (written = .ok () →
          Q ⟨(), none, lc.into .approved { run with approval := approval }⟩ w)) w) :
    wp H C (lc.approve approval) Q w := by
  unfold approve
  cases hr : lc.require .simulated with
  | error err => exact ⟨hC, refused err⟩
  | ok run =>
    cases hv : approval.validate with
    | some err => simpa only [hv] using ⟨hC, refused err⟩
    | none =>
      simp only
      split
      · exact ⟨hC, refused _⟩
      · rename_i hb
        simp only [ne_eq, Bool.or_eq_true, decide_eq_true_eq, not_or, not_not] at hb
        obtain ⟨⟨⟨hplan, hrev⟩, hop⟩, htarget⟩ := hb
        refine (wp_bind _ _ _ _).mpr
          (wp_mono (called run hr hv hplan hrev hop htarget) fun written w hw h => ?_)
        match written, h with
        | .error err, h => exact ⟨hw, h.1 err rfl⟩
        | .ok (), h => exact ⟨hw, h.2 rfl⟩

theorem wp_reserve {key : ReservationKey} {Q : Returned ReservationToken → W → Prop} (hC : C w)
    (refused : ∀ err, Q (lc.refuse err) w)
    (called : ∀ run, lc.require .approved = .ok run → key.validate = none →
      key.planID = run.ref.planID → key.planRevision = run.ref.planRevision →
      wp H C (store (.reserve key)) (fun answer w => (∀ err, Q (lc.fail err) w) ∧
        ∀ reservation, answer = .ok reservation → reservation.replayed = false →
          wp H C (journalAdvance { run with reservation := reservation.token, reserved := true }
            .reserve "" reservation.token.token) (fun written w =>
            (∀ err, Q ⟨default, some err, lc.into .failed
              { run with reservation := reservation.token, reserved := true }⟩ w) ∧
            (written = .ok () → Q ⟨reservation.token, none, lc.into .reserved
              { run with reservation := reservation.token, reserved := true }⟩ w)) w) w) :
    wp H C (lc.reserve key) Q w := by
  unfold reserve
  cases hr : lc.require .approved with
  | error err => exact ⟨hC, refused err⟩
  | ok run =>
    cases hv : key.validate with
    | some err => exact ⟨hC, refused err⟩
    | none =>
      simp only
      split
      · exact ⟨hC, refused _⟩
      · rename_i hb
        simp only [ne_eq, Bool.or_eq_true, decide_eq_true_eq, not_or, not_not] at hb
        refine (wp_bind _ _ _ _).mpr (wp_mono (called run hr hv hb.1 hb.2) fun answer w hw h => ?_)
        match answer, h with
        | .error err, h => exact ⟨hw, h.1 err⟩
        | .ok reservation, h =>
          cases hp : reservation.replayed with
          | true => simpa only [hp] using ⟨hw, h.1 _⟩
          | false =>
            simp only [hp, Bool.false_eq_true, if_false, Prog.bind_eq, wp_bind]
            refine wp_mono (h.2 reservation rfl hp) fun written w hw h => ?_
            match written, h with
            | .error err, h => exact ⟨hw, h.1 err⟩
            | .ok (), h => exact ⟨hw, h.2 rfl⟩

/-- The receipt a driver may answer an apply with, as the lifecycle checks it. -/
def Bound (run : LifecycleRun) (receipt : ApplyReceipt) : Prop :=
  receipt.validate = none ∧ receipt.planID = run.ref.planID ∧
    receipt.planRevision = run.ref.planRevision ∧ receipt.operationID = run.ref.operationID ∧
    receipt.target = run.approval.target ∧
    receipt.ownershipToken = ownershipTokenFor run.ref.planID run.ref.planRevision
      run.ref.operationID run.approval.target run.reservation.token

theorem wp_apply {Q : Returned ApplyReceipt → W → Prop} (hC : C w)
    (refused : ∀ err, Q (lc.refuse err) w)
    (called : ∀ run, lc.require .reserved = .ok run →
      wp H C (driver (.capture run.scope)) (fun answer w => (∀ err, Q (lc.fail err) w) ∧
        ∀ current, answer = .ok current → current.digest = .ok run.digest →
          wp H C (journalAdvance run .apply "" run.digest) (fun written w =>
            (∀ err, Q (lc.fail err) w) ∧
            (written = .ok () → wp H C (driver (.apply (lc.applyRequest run))) (fun applied w =>
              (∀ err, Q (lc.fail err) w) ∧
              ∀ receipt, applied = .ok receipt → Bound run receipt →
                wp H C (journalAdvance { run with receipt := receipt, applied := true }
                  .verify receipt.ownershipToken receipt.appliedDigest) (fun written w =>
                  (∀ err, Q ⟨receipt, some err, lc.into .failed
                    { run with receipt := receipt, applied := true }⟩ w) ∧
                  (written = .ok () → Q ⟨receipt, none, lc.into .applied
                    { run with receipt := receipt, applied := true }⟩ w)) w) w)) w) w) :
    wp H C lc.apply Q w := by
  unfold apply
  cases hr : lc.require .reserved with
  | error err => exact ⟨hC, refused err⟩
  | ok run =>
    refine (wp_bind _ _ _ _).mpr (wp_mono (called run hr) fun answer w hw h => ?_)
    match answer, h with
    | .error err, h => exact ⟨hw, h.1 err⟩
    | .ok current, h =>
      cases hd : current.digest with
      | error err => simpa only [hd] using ⟨hw, h.1 err⟩
      | ok digest =>
        simp only [hd]
        split
        · exact ⟨hw, h.1 _⟩
        · rename_i hsame
          rw [not_not.mp hsame] at hd
          refine (wp_bind _ _ _ _).mpr (wp_mono (h.2 current rfl hd) fun written w hw h => ?_)
          match written, h with
          | .error err, h => exact ⟨hw, h.1 err⟩
          | .ok (), h =>
            refine (wp_bind _ _ _ _).mpr (wp_mono (h.2 rfl) fun applied w hw h => ?_)
            match applied, h with
            | .error err, h => exact ⟨hw, h.1 err⟩
            | .ok receipt, h =>
              cases hv : receipt.validate with
              | some err => simpa only [hv] using ⟨hw, h.1 err⟩
              | none =>
                simp only [hv]
                split
                · exact ⟨hw, h.1 _⟩
                · rename_i hb
                  simp only [ne_eq, Bool.or_eq_true, decide_eq_true_eq, not_or, not_not] at hb
                  obtain ⟨⟨⟨⟨hplan, hrev⟩, hop⟩, htarget⟩, htoken⟩ := hb
                  refine (wp_bind _ _ _ _).mpr (wp_mono (h.2 receipt rfl
                    ⟨hv, hplan, hrev, hop, htarget, htoken⟩) fun written w hw h => ?_)
                  match written, h with
                  | .error err, h => exact ⟨hw, h.1 err⟩
                  | .ok (), h => exact ⟨hw, h.2 rfl⟩

theorem wp_verify {Q : Returned VerificationResult → W → Prop} (hC : C w)
    (refused : ∀ err, Q (lc.refuse err) w)
    (called : ∀ run, lc.require .applied = .ok run →
      wp H C (driver (.verify run.receipt)) (fun answer w => (∀ err, Q (lc.fail err) w) ∧
        ∀ result, answer = .ok result → result.validate = none →
          Q ⟨result, some ⟨.verificationFailed, ""⟩,
            lc.into .failed { run with verification := result }⟩ w ∧
          (result.verified = true → result.expectedDigest = run.receipt.appliedDigest →
            Q ⟨result, none, lc.into .verified { run with verification := result }⟩ w)) w) :
    wp H C lc.verify Q w := by
  unfold verify
  cases hr : lc.require .applied with
  | error err => exact ⟨hC, refused err⟩
  | ok run =>
    refine (wp_bind _ _ _ _).mpr (wp_mono (called run hr) fun answer w hw h => ?_)
    match answer, h with
    | .error err, h => exact ⟨hw, h.1 err⟩
    | .ok result, h =>
      cases hv : result.validate with
      | some err => simpa only [hv] using ⟨hw, h.1 err⟩
      | none =>
        obtain ⟨hfail, hok⟩ := h.2 result rfl hv
        simp only [hv]
        split
        · exact ⟨hw, hfail⟩
        · rename_i hb
          simp only [Bool.not_eq_true', ne_eq, Bool.or_eq_true, decide_eq_true_eq, not_or,
            Bool.not_eq_false, not_not] at hb
          exact ⟨hw, hok hb.1 hb.2⟩

/-- The answers of the receipt store after which a step goes on. -/
def Recorded (answer : Except Err Unit) : Prop :=
  answer = .ok () ∨ ∃ err, answer = .error err ∧ err.kind = .receiptDuplicate

theorem wp_appendReceipt {receipt : Receipt} {Q : Except Err Unit → W → Prop}
    (called : wp H C (store (.appendReceipt receipt)) (fun answer w =>
      (∀ err, answer = .error err → err.kind ≠ .receiptDuplicate → Q (.error err) w) ∧
      (Recorded answer → Q (.ok ()) w)) w) :
    wp H C (appendReceipt receipt) Q w := by
  refine (wp_bind _ _ _ _).mpr (wp_mono called fun answer w hw h => ?_)
  match answer, h with
  | .ok (), h => exact ⟨hw, h.2 (.inl rfl)⟩
  | .error err, h =>
    simp only
    split
    · rename_i hd
      exact ⟨hw, h.2 (.inr ⟨err, rfl, hd⟩)⟩
    · rename_i hd
      exact ⟨hw, h.1 err rfl hd⟩

theorem wp_appendReceipts {receipts : List Receipt} {I : W → Prop} {Q : Except Err Unit → W → Prop}
    (hC : C w) (hI : I w)
    (each : ∀ receipt ∈ receipts, ∀ w, C w → I w → wp H C (appendReceipt receipt)
      (fun answer w => I w ∧ ∀ err, answer = .error err → Q (.error err) w) w)
    (done : ∀ w, C w → I w → Q (.ok ()) w) : wp H C (appendReceipts receipts) Q w := by
  induction receipts generalizing w with
  | nil => exact ⟨hC, done w hC hI⟩
  | cons receipt rest ih =>
    refine (wp_bind _ _ _ _).mpr
      (wp_mono (each receipt List.mem_cons_self w hC hI) fun answer w hw h => ?_)
    match answer, h with
    | .error err, h => exact ⟨hw, h.2 err rfl⟩
    | .ok (), h => exact ih hw h.1 fun receipt hr => each receipt (List.mem_cons_of_mem _ hr)

theorem wp_record {Q : Returned Unit → W → Prop} (hC : C w) (refused : ∀ err, Q (lc.refuse err) w)
    (called : ∀ run, lc.require .verified = .ok run →
      wp H C (journalAdvance run .record run.receipt.ownershipToken run.receipt.appliedDigest)
        (fun written w => (∀ err, Q (lc.fail err) w) ∧
          (written = .ok () → wp H C
            (appendReceipts [run.receipt.toReceipt, verifyReceipt run run.verification])
            (fun appended w => (∀ err, Q (lc.fail err) w) ∧
              (appended = .ok () → Q ⟨(), none, { lc with state := .recorded }⟩ w)) w)) w) :
    wp H C lc.record Q w := by
  unfold record
  cases hr : lc.require .verified with
  | error err => exact ⟨hC, refused err⟩
  | ok run =>
    refine (wp_bind _ _ _ _).mpr (wp_mono (called run hr) fun written w hw h => ?_)
    match written, h with
    | .error err, h => exact ⟨hw, h.1 err⟩
    | .ok (), h =>
      refine (wp_bind _ _ _ _).mpr (wp_mono (h.2 rfl) fun appended w hw h => ?_)
      match appended, h with
      | .error err, h => exact ⟨hw, h.1 err⟩
      | .ok (), h => exact ⟨hw, h.2 rfl⟩

theorem wp_commitRun {run : LifecycleRun} {reason : String} {Q : Except Err Unit → W → Prop}
    (called : wp H C clock (fun now w =>
      (∀ err, (commitReceipt run reason now).contentDigest = .error err → Q (.error err) w) ∧
      ∀ digest, (commitReceipt run reason now).contentDigest = .ok digest →
        wp H C (appendReceipt (commitReceipt run reason now)) (fun appended w =>
          (∀ err, appended = .error err → Q (.error err) w) ∧
          (appended = .ok () →
            wp H C (store (.release run.reservation .commit (Go.bytes digest))) (fun released w =>
              (∀ err, released = .error err → Q (.error err) w) ∧
              (released = .ok () → wp H C (journalFinish run .commit run.receipt.ownershipToken
                run.receipt.appliedDigest) Q w)) w)) w) w) :
    wp H C (commitRun run reason) Q w := by
  refine (wp_bind _ _ _ _).mpr (wp_mono called fun now w hw h => ?_)
  cases hd : (commitReceipt run reason now).contentDigest with
  | error err => simpa only [hd] using ⟨hw, h.1 err hd⟩
  | ok digest =>
    simp only [hd]
    refine (wp_bind _ _ _ _).mpr (wp_mono (h.2 digest hd) fun appended w hw h => ?_)
    match appended, h with
    | .error err, h => exact ⟨hw, h.1 err rfl⟩
    | .ok (), h =>
      refine (wp_bind _ _ _ _).mpr (wp_mono (h.2 rfl) fun released w hw h => ?_)
      match released, h with
      | .error err, h => exact ⟨hw, h.1 err rfl⟩
      | .ok (), h => exact h.2 rfl

theorem wp_commit {Q : Returned Unit → W → Prop} (hC : C w) (refused : ∀ err, Q (lc.refuse err) w)
    (called : ∀ run, lc.require .recorded = .ok run →
      wp H C (commitRun run reasonApplied) (fun committed w =>
        (∀ err, committed = .error err → Q (lc.fail err) w) ∧
        (committed = .ok () → Q ⟨(), none, { lc with state := .committed }⟩ w)) w) :
    wp H C lc.commit Q w := by
  unfold commit
  cases hr : lc.require .recorded with
  | error err => exact ⟨hC, refused err⟩
  | ok run =>
    refine (wp_bind _ _ _ _).mpr (wp_mono (called run hr) fun committed w hw h => ?_)
    match committed, h with
    | .error err, h => exact ⟨hw, h.1 err rfl⟩
    | .ok (), h => exact ⟨hw, h.2 rfl⟩

theorem wp_revert {run : LifecycleRun} {reason : String}
    {Q : Except Err (RollbackReceipt × List UInt8) → W → Prop} (hC : C w)
    (skipped : run.applied = false → Q (.ok (default, [])) w)
    (called : run.applied = true →
      wp H C (driver (.rollback (lc.rollbackRequest run))) (fun answer w =>
        (∀ err, answer = .error err → err.kind = .unknownOwnership → Q (.ok (default, [])) w) ∧
        (∀ err, answer = .error err → err.kind ≠ .unknownOwnership → Q (.error err) w) ∧
        ∀ receipt, answer = .ok receipt →
          (∀ err, receipt.validate = some err → Q (.error err) w) ∧
          (∀ err, (revertReceipt receipt reason).contentDigest = .error err → Q (.error err) w) ∧
          ∀ digest, receipt.validate = none →
            (revertReceipt receipt reason).contentDigest = .ok digest →
            wp H C (appendReceipt (revertReceipt receipt reason)) (fun appended w =>
              (∀ err, appended = .error err → Q (.error err) w) ∧
              (appended = .ok () → Q (.ok (receipt, Go.bytes digest)) w)) w) w) :
    wp H C (lc.revert run reason) Q w := by
  unfold revert
  cases ha : run.applied with
  | false => exact ⟨hC, skipped ha⟩
  | true =>
    refine (wp_bind _ _ _ _).mpr (wp_mono (called ha) fun answer w hw h => ?_)
    match answer, h with
    | .error err, h =>
      simp only
      split
      · rename_i hk
        exact ⟨hw, h.1 err rfl hk⟩
      · rename_i hk
        exact ⟨hw, h.2.1 err rfl hk⟩
    | .ok receipt, h =>
      obtain ⟨hinvalid, hundigested, happend⟩ := h.2.2 receipt rfl
      cases hv : receipt.validate with
      | some err => simpa only [hv] using ⟨hw, hinvalid err hv⟩
      | none =>
        cases hd : (revertReceipt receipt reason).contentDigest with
        | error err => simpa only [hv, hd] using ⟨hw, hundigested err hd⟩
        | ok digest =>
          simp only [hv, hd]
          refine (wp_bind _ _ _ _).mpr (wp_mono (happend digest hv hd) fun appended w hw h => ?_)
          match appended, h with
          | .error err, h => exact ⟨hw, h.1 err rfl⟩
          | .ok (), h => exact ⟨hw, h.2 rfl⟩

theorem wp_releaseRun {run : LifecycleRun} {terminal : Step} {result : List UInt8}
    {Q : Except Err Unit → W → Prop} (hC : C w) (skipped : run.reserved = false → Q (.ok ()) w)
    (called : run.reserved = true → wp H C (store (.release run.reservation terminal result)) Q w) :
    wp H C (releaseRun run terminal result) Q w := by
  unfold releaseRun
  cases hr : run.reserved with
  | false => exact ⟨hC, skipped hr⟩
  | true => exact called hr

theorem wp_rollbackRun {run : LifecycleRun} {reason : String}
    {Q : Except Err RollbackReceipt → W → Prop}
    (called : wp H C (lc.revert run reason) (fun reverted w =>
      (∀ err, reverted = .error err → Q (.error err) w) ∧
      ∀ receipt result, reverted = .ok (receipt, result) →
        wp H C (releaseRun run .rollback result) (fun released w =>
          (∀ err, released = .error err → Q (.error err) w) ∧
          (released = .ok () → wp H C (journalFinish run .rollback run.receipt.ownershipToken
            receipt.restoredDigest) (fun finished w =>
              (∀ err, finished = .error err → Q (.error err) w) ∧
              (finished = .ok () → Q (.ok receipt) w)) w)) w) w) :
    wp H C (lc.rollbackRun run reason) Q w := by
  refine (wp_bind _ _ _ _).mpr (wp_mono called fun reverted w hw h => ?_)
  match reverted, h with
  | .error err, h => exact ⟨hw, h.1 err rfl⟩
  | .ok (receipt, result), h =>
    refine (wp_bind _ _ _ _).mpr (wp_mono (h.2 receipt result rfl) fun released w hw h => ?_)
    match released, h with
    | .error err, h => exact ⟨hw, h.1 err rfl⟩
    | .ok (), h =>
      refine (wp_bind _ _ _ _).mpr (wp_mono (h.2 rfl) fun finished w hw h => ?_)
      match finished, h with
      | .error err, h => exact ⟨hw, h.1 err rfl⟩
      | .ok (), h => exact ⟨hw, h.2 rfl⟩

theorem wp_rollback {Q : Returned RollbackReceipt → W → Prop} (hC : C w)
    (refused : ∀ err, Q (lc.refuse err) w)
    (called : ∀ run, lc.run = some run → lc.state.terminal = false →
      wp H C (lc.rollbackRun run reasonRolledBack) (fun rolled w =>
        (∀ err, rolled = .error err → Q (lc.fail err) w) ∧
        ∀ receipt, rolled = .ok receipt → Q ⟨receipt, none, { lc with state := .rolledBack }⟩ w) w) :
    wp H C lc.rollback Q w := by
  unfold rollback
  split
  case h_1 => exact ⟨hC, refused _⟩
  case h_2 run hr =>
    cases ht : lc.state.terminal with
    | true => exact ⟨hC, refused _⟩
    | false =>
      refine (wp_bind _ _ _ _).mpr (wp_mono (called run hr ht) fun rolled w hw h => ?_)
      match rolled, h with
      | .error err, h => exact ⟨hw, h.1 err rfl⟩
      | .ok receipt, h => exact ⟨hw, h.2 receipt rfl⟩

theorem wp_recoverCommit {run : LifecycleRun} {Q : Except Err Unit → W → Prop}
    (called : wp H C (appendReceipts [run.receipt.toReceipt, verifyReceipt run run.verification])
      (fun appended w => (∀ err, appended = .error err → Q (.error err) w) ∧
        (appended = .ok () → wp H C (commitRun run reasonRecoveryCommit) Q w)) w) :
    wp H C (recoverCommit run) Q w := by
  refine (wp_bind _ _ _ _).mpr (wp_mono called fun appended w hw h => ?_)
  match appended, h with
  | .error err, h => exact ⟨hw, h.1 err rfl⟩
  | .ok (), h => exact h.2 rfl

/-- The run recovery acts on once an apply may have happened. -/
def recoveredApply (entry : JournalRecord) (records : List JournalRecord) (run : LifecycleRun) :
    LifecycleRun :=
  { run with receipt := recoveredReceipt entry records run, applied := true }

theorem wp_recoverApplied {entry : JournalRecord} {records : List JournalRecord}
    {run : LifecycleRun} {operation : RecoveredOperation}
    {Q : Except Err (RecoveredOperation × String) → W → Prop} (hC : C w)
    (corrupt : ∀ err, run.reserved = false ∨ entry.target = "" → Q (.error err) w)
    (called : run.reserved = true → entry.target ≠ "" →
      wp H C (reverify (recoveredReceipt entry records run)) (fun verified w =>
        (∀ err, verified = .error err → Q (.error err) w) ∧
        (∀ verification, verified = .ok (some verification) →
          wp H C (recoverCommit
            { recoveredApply entry records run with verification := verification })
            (fun committed w => (∀ err, committed = .error err → Q (.error err) w) ∧
              (committed = .ok () → Q (.ok ({ operation with
                ownershipToken := (recoveredReceipt entry records run).ownershipToken
                finished := true }, reasonRecoveryCommit)) w)) w) ∧
        (verified = .ok none →
          wp H C (lc.rollbackRun (recoveredApply entry records run) reasonRecoveryRollback)
            (fun rolled w => (∀ err, rolled = .error err → Q (.error err) w) ∧
              ∀ receipt, rolled = .ok receipt → Q (.ok ({ operation with
                ownershipToken := (recoveredReceipt entry records run).ownershipToken
                reverted := receipt.reasonCode = reasonRolledBack || receipt.alreadyRolledBack
                finished := true }, reasonRecoveryRollback)) w) w)) w) :
    wp H C (lc.recoverApplied entry records run operation) Q w := by
  unfold recoverApplied
  split
  · rename_i hbad
    exact ⟨hC, corrupt _ (by simpa using hbad)⟩
  · rename_i hok
    simp only [Bool.not_eq_true', Bool.or_eq_true, decide_eq_true_eq, not_or, Bool.not_eq_false] at hok
    refine (wp_bind _ _ _ _).mpr (wp_mono (called hok.1 hok.2) fun verified w hw h => ?_)
    match verified, h with
    | .error err, h => exact ⟨hw, h.1 err rfl⟩
    | .ok (some verification), h =>
      refine (wp_bind _ _ _ _).mpr (wp_mono (h.2.1 verification rfl) fun committed w hw h => ?_)
      match committed, h with
      | .error err, h => exact ⟨hw, h.1 err rfl⟩
      | .ok (), h => exact ⟨hw, h.2 rfl⟩
    | .ok none, h =>
      refine (wp_bind _ _ _ _).mpr (wp_mono (h.2.2 rfl) fun rolled w hw h => ?_)
      match rolled, h with
      | .error err, h => exact ⟨hw, h.1 err rfl⟩
      | .ok receipt, h => exact ⟨hw, h.2 receipt rfl⟩

theorem recoveredRun_ok {entry : JournalRecord} {run : LifecycleRun}
    (h : recoveredRun entry = .ok run) :
    run.ref = ⟨entry.planID, entry.planRevision, entry.operationID⟩ ∧
      (run.reserved = true ↔ entry.reservation ≠ .zero) ∧
      (run.reserved = true → run.reservation.key = entry.reservation) := by
  unfold recoveredRun at h
  simp only at h
  split at h
  · rename_i hne
    split at h
    · cases h
    · cases h
      exact ⟨rfl, ⟨fun _ => hne, fun _ => rfl⟩, fun _ => rfl⟩
  · rename_i hzero
    cases h
    exact ⟨rfl, ⟨fun hr => by (cases hr), fun hne => absurd hne hzero⟩, fun hr => by (cases hr)⟩

/-- The report line of an entry before recovery has acted on it. -/
def untouched (entry : JournalRecord) : RecoveredOperation :=
  ⟨entry.planID, entry.planRevision, entry.operationID, "none", entry.step, false, false⟩

theorem wp_recoverEntry {entry : JournalRecord} {records : List JournalRecord}
    {Q : Except Err (RecoveredOperation × String) → W → Prop} (hC : C w)
    (corrupt : ∀ err, recoveredRun entry = .error err → Q (.error err) w)
    (aborted : ∀ run, recoveredRun entry = .ok run → beforeApply entry.step = true →
      wp H C (lc.rollbackRun run reasonRecoveryRollback) (fun rolled w =>
        (∀ err, rolled = .error err → Q (.error err) w) ∧
        ∀ receipt, rolled = .ok receipt →
          Q (.ok ({ untouched entry with finished := true }, reasonRecoveryAborted)) w) w)
    (applied : ∀ run, recoveredRun entry = .ok run → beforeApply entry.step = false →
      wp H C (lc.recoverApplied entry records run (untouched entry)) Q w) :
    wp H C (lc.recoverEntry entry records) Q w := by
  unfold recoverEntry
  cases hr : recoveredRun entry with
  | error err => exact ⟨hC, corrupt err hr⟩
  | ok run =>
    cases hb : beforeApply entry.step with
    | false =>
      simp only [Bool.false_eq_true, if_false]
      exact applied run hr hb
    | true =>
      simp only [if_true]
      refine (wp_bind _ _ _ _).mpr (wp_mono (aborted run hr hb) fun rolled w hw h => ?_)
      match rolled, h with
      | .error err, h => exact ⟨hw, h.1 err rfl⟩
      | .ok receipt, h => exact ⟨hw, h.2 receipt rfl⟩

theorem wp_recover {Q : Returned RecoveryReport → W → Prop} (hC : C w)
    (refused : ∀ err, lc.active = true → Q (lc.refuse err) w)
    (called : lc.active = false → wp H C clock (fun now w =>
      wp H C (store .journalInFlight) (fun inFlight w =>
        (∀ err, inFlight = .error err → Q (lc.refuse err) w) ∧
        (inFlight = .ok [] → Q ⟨⟨[], [reasonRecoveryClean], now⟩, none, lc⟩ w) ∧
        ∀ entries, inFlight = .ok entries → entries ≠ [] →
          wp H C (store .journalRecords) (fun records w =>
            (∀ err, records = .error err → Q (lc.refuse err) w) ∧
            ∀ records', records = .ok records' →
              wp H C (driver .recover) (fun recovered w =>
                (∀ err, recovered = .error err → Q (lc.refuse err) w) ∧
                ∀ driverReport, recovered = .ok driverReport →
                  wp H C (lc.recoverEntries records' entries []) (fun outcomes w =>
                    (∀ err, outcomes = .error err → Q (lc.refuse err) w) ∧
                    ∀ outcomes', outcomes = .ok outcomes' →
                      (∀ err, (report now outcomes').validate = some err → Q (lc.refuse err) w) ∧
                      ((report now outcomes').validate = none →
                        Q ⟨report now outcomes', none, lc⟩ w)) w) w) w) w) w) :
    wp H C lc.recover Q w := by
  unfold recover
  cases ha : lc.active with
  | true => exact ⟨hC, refused _ ha⟩
  | false =>
    refine (wp_bind _ _ _ _).mpr (wp_mono (called ha) fun now w hw h => ?_)
    refine (wp_bind _ _ _ _).mpr (wp_mono h fun inFlight w hw h => ?_)
    match inFlight, h with
    | .error err, h => exact ⟨hw, h.1 err rfl⟩
    | .ok [], h => exact ⟨hw, h.2.1 rfl⟩
    | .ok (entry :: rest), h =>
      refine (wp_bind _ _ _ _).mpr (wp_mono (h.2.2 _ rfl (by simp)) fun records w hw h => ?_)
      match records, h with
      | .error err, h => exact ⟨hw, h.1 err rfl⟩
      | .ok records', h =>
        refine (wp_bind _ _ _ _).mpr (wp_mono (h.2 _ rfl) fun recovered w hw h => ?_)
        match recovered, h with
        | .error err, h => exact ⟨hw, h.1 err rfl⟩
        | .ok driverReport, h =>
          refine (wp_bind _ _ _ _).mpr (wp_mono (h.2 _ rfl) fun outcomes w hw h => ?_)
          match outcomes, h with
          | .error err, h => exact ⟨hw, h.1 err rfl⟩
          | .ok outcomes', h =>
            obtain ⟨hbad, hok⟩ := h.2 outcomes' rfl
            cases hv : (report now outcomes').validate with
            | some err => simpa only [hv] using ⟨hw, hbad err hv⟩
            | none => simpa only [hv] using ⟨hw, hok hv⟩

theorem wp_recoverEntries {records entries : List JournalRecord}
    {done : List (RecoveredOperation × String)}
    {I : List JournalRecord → List (RecoveredOperation × String) → W → Prop}
    {Q : Except Err (List (RecoveredOperation × String)) → W → Prop}
    (hC : C w) (hI : I entries done w)
    (each : ∀ entry rest done w, C w → I (entry :: rest) done w →
      wp H C (lc.recoverEntry entry records) (fun outcome w =>
        (∀ err, outcome = .error err → Q (.error err) w) ∧
        ∀ outcome', outcome = .ok outcome' → I rest (done ++ [outcome']) w) w)
    (finished : ∀ done w, C w → I [] done w → Q (.ok done) w) :
    wp H C (lc.recoverEntries records entries done) Q w := by
  induction entries generalizing done w with
  | nil => exact ⟨hC, finished done w hC hI⟩
  | cons entry rest ih =>
    refine (wp_bind _ _ _ _).mpr (wp_mono (each entry rest done w hC hI) fun outcome w hw h => ?_)
    match outcome, h with
    | .error err, h => exact ⟨hw, h.1 err rfl⟩
    | .ok outcome', h => exact ih hw (h.2 outcome' rfl)

section Books
variable {P : PortCall → Prop}

theorem journalFinish_only {run : LifecycleRun} {step : Step} {ownership digest : String}
    (clock : P .clock)
    (finish : ∀ now, P (.store (.journalFinish (entry run .finish step ownership digest now)))) :
    (journalFinish run step ownership digest).Only P :=
  .bind (.perform clock) fun _ => .perform (finish _)

theorem appendReceipt_only {receipt : Receipt} (append : P (.store (.appendReceipt receipt))) :
    (appendReceipt receipt).Only P := by
  refine .bind (.perform append) fun answer => ?_
  split
  · split
    · exact .ret _
    · exact .ret _
  · exact .ret _

theorem appendReceipts_only {receipts : List Receipt}
    (append : ∀ receipt ∈ receipts, P (.store (.appendReceipt receipt))) :
    (appendReceipts receipts).Only P := by
  induction receipts with
  | nil => exact .ret _
  | cons receipt rest ih =>
    refine .bind (appendReceipt_only (append receipt List.mem_cons_self)) fun answer => ?_
    split
    · exact .ret _
    · exact ih fun receipt hr => append receipt (List.mem_cons_of_mem _ hr)

theorem commitRun_only {run : LifecycleRun} {reason : String} (clock : P .clock)
    (append : ∀ now, P (.store (.appendReceipt (commitReceipt run reason now))))
    (release : ∀ result, P (.store (.release run.reservation .commit result)))
    (finish : ∀ ownership digest now,
      P (.store (.journalFinish (entry run .finish .commit ownership digest now)))) :
    (commitRun run reason).Only P := by
  refine .bind (.perform clock) fun now => ?_
  simp only
  split
  · exact .ret _
  · refine .bind (appendReceipt_only (append now)) fun appended => ?_
    split
    · exact .ret _
    · refine .bind (.perform (release _)) fun released => ?_
      split
      · exact .ret _
      · exact journalFinish_only clock (finish _ _)

theorem reverify_only {receipt : ApplyReceipt} (verify : P (.driver (.verify receipt))) : (reverify receipt).Only P := by
  unfold reverify
  split
  · exact .ret _
  · refine .bind (.perform verify) fun answer => ?_
    split
    · split
      · exact .ret _
      · exact .ret _
    · split
      · exact .ret _
      · exact .ret _

end Books

/-- The calls that settle an operation: no plan is begun, advanced, reserved or applied by them,
and only `tokens` are released. -/
def settles (tokens : ReservationToken → Prop) : PortCall → Prop
  | .store (.journalBegin _) => False
  | .store (.journalAdvance _) => False
  | .store (.reserve _) => False
  | .store (.release token _ _) => tokens token
  | .driver (.capture _) => False
  | .driver (.simulate _ _) => False
  | .driver (.apply _) => False
  | _ => True

section Settling
variable {tokens : ReservationToken → Prop}

theorem journalFinish_settles (run : LifecycleRun) (step : Step) (ownership digest : String) :
    (journalFinish run step ownership digest).Only (settles tokens) :=
  journalFinish_only trivial fun _ => trivial

theorem appendReceipt_settles (receipt : Receipt) : (appendReceipt receipt).Only (settles tokens) :=
  appendReceipt_only trivial

theorem appendReceipts_settles (receipts : List Receipt) :
    (appendReceipts receipts).Only (settles tokens) :=
  appendReceipts_only fun _ _ => trivial

theorem commitRun_settles (run : LifecycleRun) (h : tokens run.reservation) (reason : String) :
    (commitRun run reason).Only (settles tokens) :=
  commitRun_only trivial (fun _ => trivial) (fun _ => h) fun _ _ _ => trivial

theorem revert_settles (lc : Lifecycle) (run : LifecycleRun) (reason : String) :
    (lc.revert run reason).Only (settles tokens) := by
  unfold revert
  split
  · refine .bind (.perform trivial) fun answer => ?_
    split
    · split
      · exact .ret _
      · exact .ret _
    · split
      · exact .ret _
      · split
        · exact .ret _
        · refine .bind (appendReceipt_settles _) fun appended => ?_
          split
          · exact .ret _
          · exact .ret _
  · exact .ret _

theorem rollbackRun_settles (lc : Lifecycle) (run : LifecycleRun)
    (h : run.reserved = true → tokens run.reservation) (reason : String) :
    (lc.rollbackRun run reason).Only (settles tokens) := by
  have hrelease (result : List UInt8) : (releaseRun run .rollback result).Only (settles tokens) := by
    unfold releaseRun
    split
    · rename_i hr
      exact .perform (h hr)
    · exact .ret _
  refine .bind (revert_settles lc run reason) fun reverted => ?_
  split
  · exact .ret _
  · refine .bind (hrelease _) fun released => ?_
    split
    · exact .ret _
    · refine .bind (journalFinish_settles _ _ _ _) fun finished => ?_
      split
      · exact .ret _
      · exact .ret _

theorem reverify_settles (receipt : ApplyReceipt) : (reverify receipt).Only (settles tokens) :=
  reverify_only trivial

theorem recoverApplied_settles (lc : Lifecycle) (entry : JournalRecord)
    (records : List JournalRecord) {run : LifecycleRun} (operation : RecoveredOperation)
    (h : run.reserved = true → tokens run.reservation) :
    (lc.recoverApplied entry records run operation).Only (settles tokens) := by
  unfold recoverApplied
  split
  · exact .ret _
  · rename_i hok
    simp only [Bool.not_eq_true', Bool.or_eq_true, decide_eq_true_eq, not_or, Bool.not_eq_false] at hok
    refine .bind (reverify_settles _) fun verified => ?_
    split
    · exact .ret _
    · rename_i verification
      refine .bind (.bind (appendReceipts_settles _) fun appended => ?_) fun committed => ?_
      · split
        · exact .ret _
        · exact commitRun_settles
            { recoveredApply entry records run with verification := verification } (h hok.1) _
      · split
        · exact .ret _
        · exact .ret _
    · refine .bind (rollbackRun_settles lc (recoveredApply entry records run) h _) fun rolled => ?_
      split
      · exact .ret _
      · exact .ret _

theorem recoverEntry_settles (lc : Lifecycle) {entry : JournalRecord} (records : List JournalRecord)
    (h : ∀ run, recoveredRun entry = .ok run → run.reserved = true → tokens run.reservation) :
    (lc.recoverEntry entry records).Only (settles tokens) := by
  unfold recoverEntry
  split
  · exact .ret _
  · rename_i run hrun
    simp only
    split
    · refine .bind (rollbackRun_settles lc run (h run hrun) _) fun rolled => ?_
      split
      · exact .ret _
      · exact .ret _
    · exact recoverApplied_settles lc entry records _ (h run hrun)

theorem recoverEntries_settles (lc : Lifecycle) (records entries : List JournalRecord)
    (done : List (RecoveredOperation × String)) :
    (lc.recoverEntries records entries done).Only (settles fun _ => True) := by
  induction entries generalizing done with
  | nil => exact .ret _
  | cons entry rest ih =>
    refine .bind (recoverEntry_settles lc records fun _ _ _ => trivial) fun outcome => ?_
    split
    · exact .ret _
    · exact ih _

end Settling

theorem wp_recover_settling {R : W → W → Prop} (refl : ∀ w, R w w)
    (trans : ∀ {u v w}, R u v → R v w → R u w)
    (each : ∀ q w, settles (fun _ => True) q → C w → wp H C (Prog.perform (S := Port) q) (fun _ w' => R w w') w)
    (hC : C w) : wp H C lc.recover (fun r w' => r.lifecycle = lc ∧ R w w') w := by
  refine wp_recover hC (fun _ _ => ⟨rfl, refl w⟩) fun _ => ?_
  refine wp_mono (each .clock w trivial hC) fun now w₁ h₁ r₁ => ?_
  refine wp_mono (each (.store .journalInFlight) w₁ trivial h₁) fun inFlight w₂ h₂ r₂ => ?_
  have r₁₂ := trans r₁ r₂
  refine ⟨fun _ _ => ⟨rfl, r₁₂⟩, fun _ => ⟨rfl, r₁₂⟩, fun entries _ _ => ?_⟩
  refine wp_mono (each (.store .journalRecords) w₂ trivial h₂) fun records w₃ h₃ r₃ => ?_
  refine ⟨fun _ _ => ⟨rfl, trans r₁₂ r₃⟩, fun records' _ => ?_⟩
  refine wp_mono (each (.driver .recover) w₃ trivial h₃) fun recovered w₄ h₄ r₄ => ?_
  have r₁₄ := trans (trans r₁₂ r₃) r₄
  refine ⟨fun _ _ => ⟨rfl, r₁₄⟩, fun _ _ => ?_⟩
  refine wp_mono (wp_only (recoverEntries_settles lc records' entries []) refl trans each h₄)
    fun outcomes w₅ h₅ r₅ => ?_
  have r₁₅ := trans r₁₄ r₅
  exact ⟨fun _ _ => ⟨rfl, r₁₅⟩, fun _ _ => ⟨fun _ _ => ⟨rfl, r₁₅⟩, fun _ => ⟨rfl, r₁₅⟩⟩⟩

end Lifecycle
end AntiFlock.Driver
