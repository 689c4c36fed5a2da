import AntiFlock.Driver.Rules

set_option autoImplicit false

/-!
# The journal follows the lifecycle

One lifecycle writes the journal and nobody else does. A journal call is served
or refused; the clock, the driver and the other stores answer whatever they
like. Between two calls the journal then says where the run stands.
-/
namespace AntiFlock.Driver
open AntiFlock.Effect

def JournalState.answer (state : JournalState) : Except Err JournalState → Except Err Unit × JournalState
  | .error err => (.error err, state)
  | .ok next => (.ok (), next)

/-- The ports of a lifecycle that is the only writer of its journal. -/
def soleWriter : Handler Port JournalState where
  step
    | .clock, j, _, j' => j' = j
    | .store (.journalBegin record), j, answer, j' => Served .refusals (j.answer (j.begin_ record)) j answer j'
    | .store (.journalAdvance record), j, answer, j' => Served .refusals (j.answer (j.advance record)) j answer j'
    | .store (.journalFinish record), j, answer, j' => Served .refusals (j.answer (j.finish record)) j answer j'
    | .store .journalInFlight, j, answer, j' => Served .refusals (.ok j.inFlight, j) j answer j'
    | .store .journalRecords, j, answer, j' => Served .refusals (.ok j.records, j) j answer j'
    | .store (.reserve _), j, _, j' => j' = j
    | .store (.release _ _ _), j, _, j' => j' = j
    | .store (.appendReceipt _), j, _, j' => j' = j
    | .driver _, j, _, j' => j' = j
  torn _ _ _ := False

/-- The steps the journal may be at in a state of the lifecycle. -/
def LifecycleState.Journals : LifecycleState → Step → Prop
  | .begun, step => step = .capture
  | .captured, step => step = .capture
  | .simulated, step => step = .simulate
  | .approved, step => step = .approve
  | .reserved, step => step = .reserve
  | .applied, step => step = .verify
  | .verified, step => step = .verify
  | .recorded, step => step = .record
  | .failed, step => step.valid = true ∧ step.terminal = false
  | .idle, _ => False
  | .committed, _ => False
  | .rolledBack, _ => False

namespace JournalState

def Clear (j : JournalState) : Prop := ∀ identity, j.current identity = none

/-- The journal has one open entry. It is of this run, at one of these steps. -/
def At (j : JournalState) (run : LifecycleRun) (steps : Step → Prop) : Prop :=
  (∃ entry, j.current run.identity = some entry ∧ steps entry.step) ∧
    ∀ identity, identity ≠ run.identity → j.current identity = none

theorem At.mono {j : JournalState} {run run' : LifecycleRun} {steps steps' : Step → Prop} (h : j.At run steps)
    (hrun : run'.ref = run.ref) (hsteps : ∀ step, steps step → steps' step) : j.At run' steps' := by
  have hid : run'.identity = run.identity := by rw [LifecycleRun.identity, LifecycleRun.identity, hrun]
  obtain ⟨⟨entry, hentry, hstep⟩, hother⟩ := h
  rw [At, hid]
  exact ⟨⟨entry, hentry, hsteps _ hstep⟩, hother⟩

end JournalState

/-- Between two calls: an active run has the one open entry, otherwise there is none. -/
def InStep (lc : Lifecycle) (j : JournalState) : Prop :=
  (∀ run, lc.run = some run → lc.state.terminal = false → j.At run lc.state.Journals) ∧
    (lc.active = false → j.Clear)

section Agreement
variable {j : JournalState} {lc : Lifecycle} {run run' : LifecycleRun}

theorem journals_failed {state : LifecycleState} {step : Step} (h : state.Journals step) :
    LifecycleState.failed.Journals step := by
  cases state with
  | failed => exact h
  | idle => exact h.elim
  | committed => exact h.elim
  | rolledBack => exact h.elim
  | begun => cases h; exact ⟨rfl, rfl⟩
  | captured => cases h; exact ⟨rfl, rfl⟩
  | simulated => cases h; exact ⟨rfl, rfl⟩
  | approved => cases h; exact ⟨rfl, rfl⟩
  | reserved => cases h; exact ⟨rfl, rfl⟩
  | applied => cases h; exact ⟨rfl, rfl⟩
  | verified => cases h; exact ⟨rfl, rfl⟩
  | recorded => cases h; exact ⟨rfl, rfl⟩

theorem inStep_into {state : LifecycleState} (hstate : state.terminal = false) (h : j.At run state.Journals) :
    InStep (lc.into state run) j := by
  constructor
  · intro run' hrun _
    cases hrun
    exact h
  · intro hactive
    simp [Lifecycle.active, Lifecycle.into, hstate] at hactive

theorem inStep_state {state : LifecycleState} (hrun : lc.run = some run) (hstate : state.terminal = false)
    (h : j.At run state.Journals) : InStep { lc with state := state } j := by
  constructor
  · intro run' hrun' _
    have hsame : run' = run := Option.some.inj (hrun'.symm.trans hrun)
    rw [hsame]
    exact h
  · intro hactive
    simp [Lifecycle.active, hrun, hstate] at hactive

theorem inStep_ended {state : LifecycleState} (hstate : state.terminal = true) (h : j.Clear) :
    InStep { lc with state := state } j := by
  constructor
  · intro _ _ hterminal
    rw [hstate] at hterminal
    cases hterminal
  · intro _
    exact h

theorem at_of_inStep {state : LifecycleState} (h : InStep lc j) (hrequire : lc.require state = .ok run)
    (hstate : state.terminal = false) : lc.run = some run ∧ j.At run state.Journals := by
  obtain ⟨hrun, rfl⟩ := Lifecycle.require_ok hrequire
  exact ⟨hrun, h.1 run hrun hstate⟩

theorem inStep_fail {α : Type} [Inhabited α] {err : Err} {steps : Step → Prop} (hrun : lc.run = some run)
    (h : j.At run steps) (hsteps : ∀ step, steps step → LifecycleState.failed.Journals step) :
    InStep (lc.fail err : Returned α).lifecycle j :=
  inStep_state hrun rfl (h.mono rfl hsteps)

end Agreement

/-! ## Journal calls -/

section Calls
variable {j : JournalState} {run : LifecycleRun} {step : Step} {ownership digest : String}

abbrev alive : JournalState → Prop := fun _ => True

theorem served_write {kind : Except Err JournalState} {answer : Except Err Unit} {j' : JournalState}
    (h : Served .refusals (j.answer kind) j answer j') :
    (∀ err, answer = .error err → j' = j) ∧ (answer = .ok () → kind = .ok j') := by
  cases kind with
  | error err' =>
    constructor
    · rintro err -
      rcases h.state with rfl | rfl <;> rfl
    · rintro rfl
      have := h.ok
      cases this
  | ok next =>
    constructor
    · rintro err rfl
      generalize hr : (Except.error err : Except Err Unit) = r at h
      cases h with
      | served => cases hr
      | refused _ _ => rfl
      | lost hany _ => cases hany
    · rintro rfl
      have := h.ok
      cases this
      rfl

theorem at_of_append {record : JournalRecord} {j' : JournalState} (h : j.append record = .ok j')
    (hid : record.identity = run.identity) (hk : record.kind ≠ .finish)
    (hother : ∀ identity, identity ≠ run.identity → j.current identity = none) :
    j'.At run (· = record.step) := by
  obtain ⟨-, -, -, hcurrent, -⟩ := JournalState.append_ok h
  constructor
  · refine ⟨record, ?_, rfl⟩
    rw [hcurrent, if_pos hid.symm, if_neg hk]
  · intro identity hne
    rw [hcurrent, if_neg (by rw [hid]; exact hne)]
    exact hother identity hne

theorem clear_of_append {record : JournalRecord} {j' : JournalState} (h : j.append record = .ok j')
    (hid : record.identity = run.identity) (hk : record.kind = .finish)
    (hother : ∀ identity, identity ≠ run.identity → j.current identity = none) : j'.Clear := by
  obtain ⟨-, -, -, hcurrent, -⟩ := JournalState.append_ok h
  intro identity
  rw [hcurrent]
  by_cases hsame : identity = record.identity
  · rw [if_pos hsame, if_pos hk]
  · rw [if_neg hsame]
    exact hother identity (by rwa [← hid])

theorem wp_soleBegin (h : j.Clear) : wp soleWriter alive (Lifecycle.journalBegin run)
    (fun written j' => (∀ err, written = .error err → j' = j) ∧ (written = .ok () → j'.At run (· = .capture))) j := by
  refine ⟨trivial, nofun, ?_⟩
  rintro now _ rfl
  refine ⟨trivial, nofun, ?_⟩
  intro answer j' hserved
  obtain ⟨herror, hok⟩ := served_write hserved
  refine ⟨trivial, herror, fun hanswer => ?_⟩
  exact at_of_append (hok hanswer) rfl (by simp) fun identity _ => h identity

theorem wp_soleAdvance {steps : Step → Prop} (next : LifecycleState) (hnext : next.Journals step)
    (h : j.At run steps) (hsteps : ∀ step, steps step → LifecycleState.failed.Journals step) :
    wp soleWriter alive (Lifecycle.journalAdvance run step ownership digest)
      (fun written j' => j'.At run LifecycleState.failed.Journals ∧ (∀ err, written = .error err → j' = j) ∧
        (written = .ok () → j'.At run next.Journals)) j := by
  refine ⟨trivial, nofun, ?_⟩
  rintro now _ rfl
  refine ⟨trivial, nofun, ?_⟩
  intro answer j' hserved
  obtain ⟨herror, hok⟩ := served_write hserved
  have hmoved : answer = .ok () → j'.At run next.Journals := by
    intro hanswer
    refine (at_of_append (hok hanswer) rfl (by simp) h.2).mono rfl fun _ hstep => ?_
    rw [hstep]
    exact hnext
  refine ⟨trivial, ?_, herror, hmoved⟩
  cases answer with
  | error err =>
    rw [herror err rfl]
    exact h.mono rfl hsteps
  | ok u => exact (hmoved rfl).mono rfl fun _ => journals_failed

theorem wp_soleFinish {steps : Step → Prop} (h : j.At run steps) :
    wp soleWriter alive (Lifecycle.journalFinish run step ownership digest)
      (fun written j' => (∀ err, written = .error err → j' = j) ∧ (written = .ok () → j'.Clear)) j := by
  refine ⟨trivial, nofun, ?_⟩
  rintro now _ rfl
  refine ⟨trivial, nofun, ?_⟩
  intro answer j' hserved
  obtain ⟨herror, hok⟩ := served_write hserved
  refine ⟨trivial, herror, fun hanswer => ?_⟩
  exact clear_of_append (hok hanswer) rfl rfl h.2

theorem wp_soleInFlight (h : j.Clear) : wp soleWriter alive (store .journalInFlight)
    (fun answer j' => j' = j ∧ ∀ entries, answer = .ok entries → entries = []) j := by
  refine ⟨trivial, nofun, ?_⟩
  intro answer j' hserved
  refine ⟨trivial, ?_, ?_⟩
  · rcases hserved.state with hstate | hstate
    · exact hstate
    · exact hstate
  · rintro entries rfl
    have htruth := hserved.ok
    rw [JournalState.inFlight_eq_nil.mpr h] at htruth
    cases htruth
    rfl

theorem wp_soleDriver (call : DriverCall) : wp soleWriter alive (driver call) (fun _ j' => j' = j) j := by
  refine ⟨trivial, nofun, ?_⟩
  rintro answer _ rfl
  exact ⟨trivial, rfl⟩

theorem wp_soleReserve (key : ReservationKey) :
    wp soleWriter alive (store (.reserve key)) (fun _ j' => j' = j) j := by
  refine ⟨trivial, nofun, ?_⟩
  rintro answer _ rfl
  exact ⟨trivial, rfl⟩

theorem wp_soleRelease (token : ReservationToken) (terminal : Step) (result : List UInt8) :
    wp soleWriter alive (store (.release token terminal result)) (fun _ j' => j' = j) j := by
  refine ⟨trivial, nofun, ?_⟩
  rintro answer _ rfl
  exact ⟨trivial, rfl⟩

theorem wp_soleReceipt (receipt : Receipt) :
    wp soleWriter alive (Lifecycle.appendReceipt receipt) (fun _ j' => j' = j) j := by
  refine Lifecycle.wp_appendReceipt ⟨trivial, nofun, ?_⟩
  rintro answer _ rfl
  exact ⟨trivial, fun _ _ _ => rfl, fun _ => rfl⟩

end Calls

/-! ## Lifecycle calls -/

section Methods
variable {j : JournalState} {lc : Lifecycle}

theorem inStep_begin (ref : PlanRef) (h : InStep lc j) :
    wp soleWriter alive (lc.begin_ ref) (fun r j' => InStep r.lifecycle j') j := by
  refine Lifecycle.wp_begin trivial (fun _ _ => h) (fun _ => h) fun hidle _ => ?_
  refine wp_mono (wp_soleInFlight (h.2 hidle)) fun inFlight j' _ hread => ?_
  obtain ⟨rfl, -⟩ := hread
  refine ⟨fun _ _ => h, fun _ _ _ _ _ => h, fun _ => ?_⟩
  refine wp_mono (wp_soleBegin (h.2 hidle)) fun written j'' _ hwritten => ?_
  constructor
  · intro err herr
    rw [hwritten.1 err herr]
    exact h
  · intro hok
    exact inStep_into rfl ((hwritten.2 hok).mono rfl fun _ hstep => hstep)

theorem inStep_capture (scope : Scope) (h : InStep lc j) :
    wp soleWriter alive (lc.capture scope) (fun r j' => InStep r.lifecycle j') j := by
  refine Lifecycle.wp_capture trivial (fun _ => h) fun run hrequire _ => ?_
  obtain ⟨hrun, hat⟩ := at_of_inStep h hrequire rfl
  refine wp_mono (wp_soleDriver _) fun answer j' _ hj => ?_
  subst hj
  refine ⟨fun err => inStep_fail hrun hat fun _ => journals_failed, fun snapshot digest _ _ => ?_⟩
  exact inStep_into rfl (hat.mono rfl fun _ hstep => hstep)

theorem inStep_simulate (operation : Option PlanOperation) (h : InStep lc j) :
    wp soleWriter alive (lc.simulate operation) (fun r j' => InStep r.lifecycle j') j := by
  refine Lifecycle.wp_simulate trivial (fun _ => h) fun run operation' hrequire _ _ _ => ?_
  obtain ⟨hrun, hat⟩ := at_of_inStep h hrequire rfl
  refine wp_mono (wp_soleDriver _) fun answer j' _ hj => ?_
  subst hj
  refine ⟨fun err => inStep_fail hrun hat fun _ => journals_failed, fun result _ _ _ _ => ?_⟩
  have hat' : j'.At { run with simulation := result, operation := some operation' }
      LifecycleState.captured.Journals := hat.mono rfl fun _ hstep => hstep
  refine ⟨inStep_into rfl (hat'.mono rfl fun _ => journals_failed), fun _ => ?_⟩
  refine wp_mono (wp_soleAdvance .simulated rfl hat' fun _ => journals_failed) fun written j'' _ hwritten => ?_
  exact ⟨fun _ => inStep_into rfl hwritten.1, fun hok => inStep_into rfl (hwritten.2.2 hok)⟩

theorem inStep_approve (approval : Approval) (h : InStep lc j) :
    wp soleWriter alive (lc.approve approval) (fun r j' => InStep r.lifecycle j') j := by
  refine Lifecycle.wp_approve trivial (fun _ => h) fun run hrequire _ _ _ _ _ => ?_
  obtain ⟨hrun, hat⟩ := at_of_inStep h hrequire rfl
  refine wp_mono (wp_soleAdvance .approved rfl hat fun _ => journals_failed) fun written j' _ hwritten => ?_
  constructor
  · intro err herr
    rw [hwritten.2.1 err herr]
    exact h
  · intro hok
    exact inStep_into rfl ((hwritten.2.2 hok).mono rfl fun _ hstep => hstep)

theorem inStep_reserve (key : ReservationKey) (h : InStep lc j) :
    wp soleWriter alive (lc.reserve key) (fun r j' => InStep r.lifecycle j') j := by
  refine Lifecycle.wp_reserve trivial (fun _ => h) fun run hrequire _ _ _ => ?_
  obtain ⟨hrun, hat⟩ := at_of_inStep h hrequire rfl
  refine wp_mono (wp_soleReserve _) fun answer j' _ hj => ?_
  subst hj
  refine ⟨fun err => inStep_fail hrun hat fun _ => journals_failed, fun reservation _ _ => ?_⟩
  have hat' : j'.At { run with reservation := reservation.token, reserved := true }
      LifecycleState.approved.Journals := hat.mono rfl fun _ hstep => hstep
  refine wp_mono (wp_soleAdvance .reserved rfl hat' fun _ => journals_failed) fun written j'' _ hwritten => ?_
  exact ⟨fun _ => inStep_into rfl hwritten.1, fun hok => inStep_into rfl (hwritten.2.2 hok)⟩

theorem inStep_apply (h : InStep lc j) : wp soleWriter alive lc.apply (fun r j' => InStep r.lifecycle j') j := by
  refine Lifecycle.wp_apply trivial (fun _ => h) fun run hrequire => ?_
  obtain ⟨hrun, hat⟩ := at_of_inStep h hrequire rfl
  refine wp_mono (wp_soleDriver _) fun answer j' _ hj => ?_
  subst hj
  refine ⟨fun err => inStep_fail hrun hat fun _ => journals_failed, fun current _ _ => ?_⟩
  -- the journal is at APPLY only inside this call: no state of the lifecycle stands for it
  refine wp_mono (wp_soleAdvance .failed ⟨rfl, rfl⟩ hat fun _ => journals_failed) fun written j' _ hwritten => ?_
  refine ⟨fun err => inStep_fail hrun hwritten.1 fun _ hstep => hstep, fun _ => ?_⟩
  refine wp_mono (wp_soleDriver _) fun applied j'' _ hj => ?_
  subst hj
  refine ⟨fun err => inStep_fail hrun hwritten.1 fun _ hstep => hstep, fun receipt _ _ => ?_⟩
  have hat' : j''.At { run with receipt := receipt, applied := true } LifecycleState.failed.Journals :=
    hwritten.1.mono rfl fun _ hstep => hstep
  refine wp_mono (wp_soleAdvance .applied rfl hat' fun _ hstep => hstep) fun written j' _ hwritten => ?_
  exact ⟨fun _ => inStep_into rfl hwritten.1, fun hok => inStep_into rfl (hwritten.2.2 hok)⟩

theorem inStep_verify (h : InStep lc j) : wp soleWriter alive lc.verify (fun r j' => InStep r.lifecycle j') j := by
  refine Lifecycle.wp_verify trivial (fun _ => h) fun run hrequire => ?_
  obtain ⟨hrun, hat⟩ := at_of_inStep h hrequire rfl
  refine wp_mono (wp_soleDriver _) fun answer j' _ hj => ?_
  subst hj
  refine ⟨fun err => inStep_fail hrun hat fun _ => journals_failed, fun result _ _ => ?_⟩
  exact ⟨inStep_into rfl (hat.mono rfl fun _ => journals_failed),
    fun _ _ => inStep_into rfl (hat.mono rfl fun _ hstep => hstep)⟩

theorem inStep_record (h : InStep lc j) : wp soleWriter alive lc.record (fun r j' => InStep r.lifecycle j') j := by
  refine Lifecycle.wp_record trivial (fun _ => h) fun run hrequire => ?_
  obtain ⟨hrun, hat⟩ := at_of_inStep h hrequire rfl
  refine wp_mono (wp_soleAdvance .recorded rfl hat fun _ => journals_failed) fun written j' _ hwritten => ?_
  refine ⟨fun err => inStep_fail hrun hwritten.1 fun _ hstep => hstep, fun hok => ?_⟩
  have hfailed (err : Err) : InStep (lc.fail err : Returned Unit).lifecycle j' :=
    inStep_fail hrun hwritten.1 fun _ hstep => hstep
  have hrecorded : InStep { lc with state := .recorded } j' := inStep_state hrun rfl (hwritten.2.2 hok)
  refine Lifecycle.wp_appendReceipts (I := (· = j')) trivial rfl ?_ ?_
  · rintro receipt - _ - rfl
    refine wp_mono (wp_soleReceipt receipt) fun answer j'' _ hj => ?_
    subst hj
    exact ⟨rfl, fun err _ => ⟨hfailed, nofun⟩⟩
  · rintro _ - rfl
    exact ⟨hfailed, fun _ => hrecorded⟩

theorem inStep_commit (h : InStep lc j) : wp soleWriter alive lc.commit (fun r j' => InStep r.lifecycle j') j := by
  refine Lifecycle.wp_commit trivial (fun _ => h) fun run hrequire => ?_
  obtain ⟨hrun, hat⟩ := at_of_inStep h hrequire rfl
  have hfailed (err : Err) : InStep (lc.fail err : Returned Unit).lifecycle j :=
    inStep_fail hrun hat fun _ => journals_failed
  refine Lifecycle.wp_commitRun ⟨trivial, nofun, ?_⟩
  rintro now _ rfl
  refine ⟨trivial, fun err _ => ⟨fun _ _ => hfailed _, nofun⟩, fun digest _ => ?_⟩
  refine wp_mono (wp_soleReceipt _) fun appended j' _ hj => ?_
  subst hj
  refine ⟨fun err _ => ⟨fun _ _ => hfailed _, nofun⟩, fun _ => ?_⟩
  refine wp_mono (wp_soleRelease _ _ _) fun released j' _ hj => ?_
  subst hj
  refine ⟨fun err _ => ⟨fun _ _ => hfailed _, nofun⟩, fun _ => ?_⟩
  refine wp_mono (wp_soleFinish hat) fun finished j'' _ hfinished => ?_
  constructor
  · intro err herr
    rw [hfinished.1 err herr]
    exact hfailed err
  · intro hok
    exact inStep_ended rfl (hfinished.2 hok)

theorem wp_soleRevert (lc : Lifecycle) (run : LifecycleRun) (reason : String) :
    wp soleWriter alive (lc.revert run reason) (fun _ j' => j' = j) j := by
  refine Lifecycle.wp_revert trivial (fun _ => rfl) fun _ => ?_
  refine wp_mono (wp_soleDriver _) fun answer j' _ hj => ?_
  subst hj
  refine ⟨fun _ _ _ => rfl, fun _ _ _ => rfl, fun receipt _ => ⟨fun _ _ => rfl, fun _ _ => rfl, ?_⟩⟩
  intro digest _ _
  exact wp_mono (wp_soleReceipt _) fun appended j'' _ hj => ⟨fun _ _ => hj, fun _ => hj⟩

theorem inStep_rollback (h : InStep lc j) : wp soleWriter alive lc.rollback (fun r j' => InStep r.lifecycle j') j := by
  refine Lifecycle.wp_rollback trivial (fun _ => h) fun run hrun hstate => ?_
  have hat := h.1 run hrun hstate
  have hfailed (err : Err) : InStep (lc.fail err : Returned RollbackReceipt).lifecycle j :=
    inStep_fail hrun hat fun _ => journals_failed
  refine Lifecycle.wp_rollbackRun (wp_mono (wp_soleRevert lc run _) fun reverted j' _ hj => ?_)
  subst hj
  refine ⟨fun err _ => ⟨fun _ _ => hfailed _, nofun⟩, fun receipt result _ => ?_⟩
  have hreleased : wp soleWriter alive (Lifecycle.releaseRun run .rollback result) (fun _ j'' => j'' = j') j' :=
    Lifecycle.wp_releaseRun trivial (fun _ => rfl) fun _ => wp_soleRelease _ _ _
  refine wp_mono hreleased fun released j'' _ hj => ?_
  subst hj
  refine ⟨fun err _ => ⟨fun _ _ => hfailed _, nofun⟩, fun _ => ?_⟩
  refine wp_mono (wp_soleFinish hat) fun finished j' _ hfinished => ?_
  constructor
  · intro err herr
    rw [hfinished.1 err herr]
    exact ⟨fun _ _ => hfailed _, nofun⟩
  · intro hok
    exact ⟨nofun, fun _ _ => inStep_ended rfl (hfinished.2 hok)⟩

theorem inStep_recover (h : InStep lc j) : wp soleWriter alive lc.recover (fun r j' => InStep r.lifecycle j') j := by
  refine Lifecycle.wp_recover trivial (fun _ _ => h) fun hidle => ⟨trivial, nofun, ?_⟩
  rintro now _ rfl
  refine ⟨trivial, ?_⟩
  refine wp_mono (wp_soleInFlight (h.2 hidle)) fun inFlight j' _ hread => ?_
  obtain ⟨rfl, hempty⟩ := hread
  exact ⟨fun _ _ => h, fun _ => h, fun entries hentries hne => absurd (hempty entries hentries) hne⟩

theorem inStep_perform (op : Op) (h : InStep lc j) :
    wp soleWriter alive (op.perform lc) (fun r j' => InStep r.2 j') j := by
  have hreturn {α : Type} {p : Prog Port (Returned α)}
      (hp : wp soleWriter alive p (fun r j' => InStep r.lifecycle j') j) :
      wp soleWriter alive (p.bind fun r => .ret r.outcome) (fun r j' => InStep r.2 j') j :=
    (wp_bind _ _ _ _).mpr (wp_mono hp fun _ _ halive hagrees => ⟨halive, hagrees⟩)
  cases op with
  | begin ref => exact hreturn (inStep_begin ref h)
  | capture scope => exact hreturn (inStep_capture scope h)
  | simulate operation => exact hreturn (inStep_simulate operation h)
  | approve approval => exact hreturn (inStep_approve approval h)
  | reserve key => exact hreturn (inStep_reserve key h)
  | apply => exact hreturn (inStep_apply h)
  | verify => exact hreturn (inStep_verify h)
  | record => exact hreturn (inStep_record h)
  | commit => exact hreturn (inStep_commit h)
  | rollback => exact hreturn (inStep_rollback h)
  | recover => exact hreturn (inStep_recover h)

end Methods

/-! ## Whole runs -/

structure Ledgered where
  lifecycle : Lifecycle
  journal : JournalState

inductive Ledgered.Step : Ledgered → Ledgered → Prop where
  | returned {s : Ledgered} {op : Op} {err : Option Err} {lc : Lifecycle} {j : JournalState}
      (h : Exec soleWriter (op.perform s.lifecycle) s.journal (some (err, lc)) j) : Step s ⟨lc, j⟩

def Ledgered.Initial (s : Ledgered) : Prop :=
  s.journal.records = [] ∧ ∃ timeouts bounded, s.lifecycle = .fresh timeouts bounded

theorem inStep_of_reachable {s : Ledgered} (h : Reachable Ledgered.Initial Ledgered.Step s) :
    InStep s.lifecycle s.journal := by
  refine h.invariant (I := fun s => InStep s.lifecycle s.journal) ?_ ?_
  · rintro ⟨lc, ⟨records⟩⟩ ⟨hempty, timeouts, bounded, hfresh⟩
    dsimp only at hempty hfresh
    subst hempty hfresh
    refine ⟨fun run hrun _ => ?_, fun _ _ => rfl⟩
    simp [Lifecycle.fresh] at hrun
  · rintro s t hs ⟨hexec⟩
    exact hexec.of_wp (inStep_perform _ hs)

theorem inFlight_of_at {j : JournalState} {run : LifecycleRun} {steps : Step → Prop} (h : j.At run steps) :
    ∃ entry, j.inFlight = [entry] ∧ entry.identity = run.identity ∧ steps entry.step := by
  obtain ⟨⟨entry, hentry, hstep⟩, hother⟩ := h
  have hid := j.current_identity hentry
  have hmem (record : JournalRecord) : record ∈ j.inFlight ↔ record = entry := by
    rw [JournalState.mem_inFlight]
    constructor
    · intro hrecord
      have hsame : record.identity = run.identity := by
        by_contra hne
        rw [hother _ hne] at hrecord
        cases hrecord
      rw [hsame, hentry] at hrecord
      exact (Option.some.inj hrecord).symm
    · rintro rfl
      rw [hid]
      exact hentry
  refine ⟨entry, ?_, hid, hstep⟩
  have hperm := (List.perm_ext_iff_of_nodup j.inFlight_nodup.of_map (List.nodup_singleton entry)).mpr
    fun record => (hmem record).trans List.mem_singleton.symm
  exact List.perm_singleton.mp hperm

def journalOnly : (q : PortCall) → JournalState → q.Ans × JournalState
  | .clock, j => (1, j)
  | .store (.journalBegin record), j => j.answer (j.begin_ record)
  | .store (.journalAdvance record), j => j.answer (j.advance record)
  | .store (.journalFinish record), j => j.answer (j.finish record)
  | .store .journalInFlight, j => (.ok j.inFlight, j)
  | .store .journalRecords, j => (.ok j.records, j)
  | .store (.reserve _), j => (.error ⟨.other, ""⟩, j)
  | .store (.release _ _ _), j => (.error ⟨.other, ""⟩, j)
  | .store (.appendReceipt _), j => (.error ⟨.other, ""⟩, j)
  | .driver _, j => (.error ⟨.other, ""⟩, j)

theorem soleWriter_journalOnly (q : PortCall) (j : JournalState) :
    soleWriter.step q j (journalOnly q j).1 (journalOnly q j).2 := by
  cases q with
  | clock => rfl
  | driver call => cases call <;> rfl
  | store call =>
    cases call with
    | reserve key => rfl
    | release token terminal result => rfl
    | appendReceipt receipt => rfl
    | journalInFlight => exact .served
    | journalRecords => exact .served
    | journalBegin record => exact .served
    | journalAdvance record => exact .served
    | journalFinish record => exact .served

def begunPlan : Ledgered :=
  let r := ((Op.begin ⟨"plan-1", 1, "operation-1"⟩).perform (.fresh .default StepTimeouts.default_bounded)).run
    (S := Port) journalOnly ⟨[]⟩
  ⟨r.1.2, r.2⟩

theorem reachable_begunPlan : Reachable Ledgered.Initial Ledgered.Step begunPlan := by
  have hstart : Reachable Ledgered.Initial Ledgered.Step
      ⟨.fresh .default StepTimeouts.default_bounded, ⟨[]⟩⟩ := .start ⟨rfl, _, _, rfl⟩
  exact .next hstart ⟨Prog.exec_run soleWriter_journalOnly _ _⟩

/-- In every run the journal has exactly one entry in flight while a plan is active, and it names the
plan and the step the lifecycle is at. -/
theorem journal_agreement {s : Ledgered} (h : Reachable Ledgered.Initial Ledgered.Step s) :
    (s.lifecycle.active = true ↔ s.journal.inFlight.length = 1) ∧
      (∀ entry ∈ s.journal.inFlight, ∃ run, s.lifecycle.run = some run ∧ entry.planID = run.ref.planID ∧
        entry.planRevision = run.ref.planRevision ∧ entry.operationID = run.ref.operationID ∧
        s.lifecycle.state.Journals entry.step) ∧
      (s.lifecycle.state.terminal = true → s.journal.inFlight = []) := by
  obtain ⟨hactive, hidle⟩ := inStep_of_reachable h
  cases ha : s.lifecycle.active with
  | false =>
    have hnil := JournalState.inFlight_eq_nil.mpr (hidle ha)
    simp [hnil]
  | true =>
    obtain ⟨hsome, hstate⟩ := Bool.and_eq_true_iff.mp ha
    obtain ⟨run, hrun⟩ := Option.isSome_iff_exists.mp hsome
    have hstate : s.lifecycle.state.terminal = false := by simpa using hstate
    obtain ⟨entry, hflight, hid, hstep⟩ := inFlight_of_at (hactive run hrun hstate)
    rw [hflight]
    refine ⟨by simp, ?_, by simp [hstate]⟩
    intro record hrecord
    rw [List.mem_singleton.mp hrecord]
    obtain ⟨hplan, hrevision, hoperation⟩ := JournalIdentity.mk.inj hid
    exact ⟨run, hrun, hplan, hrevision, hoperation, hstep⟩

theorem journal_agreement_begunPlan :
    begunPlan.lifecycle.active = true ∧ begunPlan.journal.inFlight.length = 1 := by
  have hactive : begunPlan.lifecycle.active = true := by decide
  exact ⟨hactive, (journal_agreement reachable_begunPlan).1.mp hactive⟩

end AntiFlock.Driver
