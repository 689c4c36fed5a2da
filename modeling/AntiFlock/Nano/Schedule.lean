import AntiFlock.Effect.Pool
import AntiFlock.Nano.Pass
import Mathlib.Data.List.Pairwise

set_option autoImplicit false

/-!
# Runs side by side

Any number of runners of one program and node run findings against one store of
cursors. Others may move the cursor between the load and the swap of a run; its
swap then changes nothing, and the run fails. So the findings whose intents are
returned lie a step apart, in the order of the swaps, and no two proposals are the
same.
-/
namespace AntiFlock.Nano
open AntiFlock.Go AntiFlock.Effect

/-- A swap that took effect, and the call that asked for it. -/
structure Swap where
  call : ℕ
  previous : Cursor
  next : Cursor

structure Shared where
  rows : Rows
  /-- The swaps that took effect, in order. No program reads it. -/
  swaps : List Swap

def Shared.own (w : Shared) (call : ℕ) : List Swap := w.swaps.filter fun swap => swap.call = call

/-- A statement changes a row or finds none to change. One that fails has changed nothing. -/
inductive Statement (swap : Swap) (w : Shared) (truth : Bool × Rows) : Except Err Bool → Shared → Prop where
  | changed (h : truth.1 = true) : Statement swap w truth (.ok true) ⟨truth.2, w.swaps ++ [swap]⟩
  | unchanged (h : truth.1 = false) : Statement swap w truth (.ok false) w
  | failed (err : Err) : Statement swap w truth (.error err) w

def sharing (call : ℕ) : Handler sig Shared where
  step
    | .contextErr, w, _, w' => w' = w
    | .clock, w, _, w' => w' = w
    | .load key, w, r, w' => (∀ cursor, r = .ok cursor → cursor = w.rows.cursor key) ∧ w' = w
    | .update key previous next, w, r, w' =>
      Statement ⟨call, previous, next⟩ w (w.rows.update key previous next) r w'
    | .insert key next, w, r, w' => Statement ⟨call, .zero, next⟩ w (w.rows.insert key next) r w'
    | .swap key previous next, w, r, w' => Statement ⟨call, previous, next⟩ w (w.rows.swap key previous next) r w'
    | .getProgram _, w, _, w' => w' = w
  torn _ w w' := w' = w

/-! ## The cursor only moves ahead -/

/-- The second cursor is due no earlier than the first. -/
def Cursor.Before (cursor later : Cursor) : Prop :=
  later.initialized = true ∧ cursor.nextDueUnix.toInt ≤ later.nextDueUnix.toInt

theorem Cursor.Before.trans {a b c : Cursor} (h : a.Before b) (h' : b.Before c) : a.Before c :=
  ⟨h'.1, h.2.trans h'.2⟩

/-- The row of a cursor that was initialized stays, and its due time does not decrease. -/
def Rises (key : Key) (rows rows' : Rows) : Prop :=
  ∀ cursor, rows key = some cursor → cursor.initialized = true → ∃ later, rows' key = some later ∧ cursor.Before later

theorem rises_refl (key : Key) (rows : Rows) : Rises key rows rows :=
  fun cursor hrow hinit => ⟨cursor, hrow, hinit, le_rfl⟩

theorem Rises.trans {key : Key} {rows₁ rows₂ rows₃ : Rows} (h : Rises key rows₁ rows₂) (h' : Rises key rows₂ rows₃) :
    Rises key rows₁ rows₃ := by
  intro cursor hrow hinit
  obtain ⟨later, hlater, hbefore⟩ := h cursor hrow hinit
  obtain ⟨last, hlast, hbefore'⟩ := h' later hlater hbefore.1
  exact ⟨last, hlast, hbefore.trans hbefore'⟩

/-- What a run asks for: an initialized cursor, that is not behind the one it replaces. -/
def Rising (previous next : Cursor) : Prop :=
  next.initialized = true ∧ (previous.initialized = true → previous.Before next)

theorem rising_of_evaluated {program : Program} {timestamp : Int64} {cursor next : Cursor} {result : EvaluationResult}
    (h : Evaluated program timestamp cursor result next) : Rising cursor next := by
  cases h with
  | early hearly _ hsame =>
    rw [Cursor.early, Bool.and_eq_true] at hearly
    rw [hsame]
    exact ⟨hearly.1, fun hinit => ⟨hinit, le_rfl⟩⟩
  | due hdue hmoved hexact _ =>
    rw [hmoved]
    refine ⟨rfl, fun hinit => ⟨rfl, ?_⟩⟩
    rw [Cursor.early, hinit, Bool.true_and, decide_eq_false_iff_not, Int64.lt_iff_toInt_lt, not_lt] at hdue
    have hpos := program.step_pos
    change cursor.nextDueUnix.toInt ≤ (timestamp + program.step).toInt
    omega

/-- Each swap starts from where the ones before it have led, and the stored row is where they all have led. -/
structure Timely (key : Key) (w : Shared) : Prop where
  ordered : w.swaps.Pairwise fun earlier later => earlier.next.Before later.previous
  stored : ∀ swap ∈ w.swaps, ∃ cursor, w.rows key = some cursor ∧ swap.next.Before cursor

/-- What a call does to the others: nothing to their swaps, and it does not move the cursor back. -/
structure Guarantee (key : Key) (call : ℕ) (w w' : Shared) : Prop where
  own : ∀ other, other ≠ call → w'.own other = w.own other
  rises : Rises key w.rows w'.rows

def Undisturbed (call : ℕ) (w w' : Shared) : Prop := w'.own call = w.own call

section Swaps
variable {key : Key} {call : ℕ} {w w' : Shared} {previous next : Cursor}

theorem guarantee_refl (key : Key) (call : ℕ) (w : Shared) : Guarantee key call w w :=
  ⟨fun _ _ => rfl, rises_refl key w.rows⟩

theorem own_concat (rows : Rows) (swap : Swap) :
    (⟨rows, w.swaps ++ [swap]⟩ : Shared).own call = w.own call ++ if swap.call = call then [swap] else [] := by
  simp only [Shared.own, List.filter_append, List.filter_singleton, cond_eq_ite, decide_eq_true_eq]

theorem Timely.cursor_before (hw : Timely key w) {swap : Swap} (hswap : swap ∈ w.swaps) :
    swap.next.Before (w.rows.cursor key) := by
  obtain ⟨cursor, hrow, hbefore⟩ := hw.stored swap hswap
  rwa [Rows.cursor, hrow, Option.getD_some]

theorem Timely.swap (hw : Timely key w) (hcursor : w.rows.cursor key = previous) (hrising : Rising previous next) :
    Timely key ⟨w.rows.put key next, w.swaps ++ [⟨call, previous, next⟩]⟩ := by
  have hbefore (swap : Swap) (hswap : swap ∈ w.swaps) : swap.next.Before previous :=
    hcursor ▸ hw.cursor_before hswap
  refine ⟨List.pairwise_append.mpr ⟨hw.ordered, List.pairwise_singleton _ _, fun swap hswap later hlater => ?_⟩,
    fun swap hswap => ⟨next, Rows.put_self .., ?_⟩⟩
  · rw [List.mem_singleton.mp hlater]
    exact hbefore swap hswap
  · rcases List.mem_append.mp hswap with hold | hnew
    · have hprevious := hbefore swap hold
      exact hprevious.trans (hrising.2 hprevious.1)
    · rw [List.mem_singleton.mp hnew]
      exact ⟨hrising.1, le_rfl⟩

theorem rises_put {rows : Rows} (hrising : Rising (rows.cursor key) next) : Rises key rows (rows.put key next) := by
  intro cursor hrow hinit
  rw [Rows.cursor, hrow, Option.getD_some] at hrising
  exact ⟨next, Rows.put_self .., hrising.2 hinit⟩

/-- What a call has swapped after a swap that it asked for, its only one. -/
def Took (swap : Swap) (w : Shared) : Except Err Bool → Prop
  | .ok true => w.own swap.call = [swap]
  | _ => w.own swap.call = []

theorem statement_took {truth : Bool × Rows} {r : Except Err Bool} (hw : Timely key w) (hrising : Rising previous next)
    (hfresh : w.own call = [])
    (htruth : truth = (true, w.rows.put key next) ∧ w.rows.cursor key = previous ∨ truth = (false, w.rows))
    (h : Statement ⟨call, previous, next⟩ w truth r w') :
    Guarantee key call w w' ∧ Timely key w' ∧ Took ⟨call, previous, next⟩ w' r := by
  cases h with
  | unchanged hfalse => exact ⟨guarantee_refl key call w, hw, hfresh⟩
  | failed err => exact ⟨guarantee_refl key call w, hw, hfresh⟩
  | changed htrue =>
    rcases htruth with ⟨rfl, hcursor⟩ | rfl
    · refine ⟨⟨fun other hother => ?_, rises_put (hcursor ▸ hrising)⟩, hw.swap hcursor hrising, ?_⟩
      · rw [own_concat, if_neg (Ne.symm hother), List.append_nil]
      · change Shared.own _ call = _
        rw [own_concat, if_pos rfl, hfresh, List.nil_append]
    · cases htrue

end Swaps

/-! ## One run -/

section Run
variable {key : Key} {call : ℕ} {α β : Type} {seen : Shared} {Q : Shared → Except Err α → Prop}

variable (key call) in
/-- What is promised of a part of a call, whatever the others do meanwhile. -/
def Right (seen : Shared) (p : Watchdog α) (Q : Shared → Except Err α → Prop) : Prop :=
  Ok (sharing call) (Timely key) (Undisturbed call) (Guarantee key call) Q seen p.run

def Quiet : Request → Prop
  | .update _ _ _ | .insert _ _ | .swap _ _ _ => False
  | _ => True

theorem sharing_quiet {q : Request} {r : q.Answer} {w w' : Shared} (hq : Quiet q) (h : (sharing call).step q w r w') :
    w' = w := by
  cases q with
  | update _ _ _ => exact hq.elim
  | insert _ _ => exact hq.elim
  | swap _ _ _ => exact hq.elim
  | load key => exact h.2
  | contextErr => exact h
  | clock => exact h
  | getProgram id => exact h

theorem right_quiet {p : Watchdog α} (hp : p.run.Only Quiet) (hseen : seen.own call = []) :
    Right key call seen p fun w _ => w.own call = [] := by
  refine ok_mono (ok_only (K := fun w => w.own call = []) hp (Prog.returns_true _) hseen (fun h hu => h.trans hu)
    fun q w r w' hq hw hstep => ?_) fun w a h => h.1
  rw [sharing_quiet hq hstep]
  exact ⟨guarantee_refl key call w, hw, id⟩

theorem Right.quiet {p : Watchdog β} {f : β → Watchdog α} (hp : p.run.Only Quiet) (hseen : seen.own call = [])
    (herr : ∀ w err, w.own call = [] → Q w (.error err))
    (hf : ∀ w b, w.own call = [] → Right key call w (f b) Q) : Right key call seen (p >>= f) Q :=
  ok_except (right_quiet hp hseen) herr hf

theorem Right.give {x : Except Err β} {f : β → Watchdog α} (herr : ∀ err, Q seen (.error err))
    (hf : ∀ b, x = .ok b → Right key call seen (f b) Q) : Right key call seen (Nano.give x >>= f) Q := by
  cases x with
  | ok b => exact hf b rfl
  | error err => exact herr err

theorem Right.ask {q : Request} {f : q.Answer → Watchdog α} (hseen : seen.own call = [])
    (hf : ∀ w r w', Timely key w → w.own call = [] → (sharing call).step q w r w' →
      Guarantee key call w w' ∧ Timely key w' ∧ Right key call w' (f r) Q) :
    Right key call seen (Nano.ask q >>= f) Q := by
  intro w hw htimely r w' hstep
  exact hf w r w' htimely (Eq.trans hw hseen) hstep

theorem Right.within {text : String} {p : Watchdog α} (h : Right key call seen p fun w r => Q w (wrap text r)) :
    Right key call seen (Nano.within text p) Q := ok_bind h fun _ _ hr => hr

theorem quiet_ask {q : Request} (hq : Quiet q) : (ask q).run.Only Quiet := ⟨hq, fun _ => trivial⟩

theorem quiet_give (x : Except Err α) : (give x).run.Only Quiet := trivial

theorem quiet_checkContext : checkContext.run.Only Quiet := by
  refine .except (quiet_ask trivial) fun err => ?_
  cases (err : Option Err) with
  | none => trivial
  | some err => trivial

theorem quiet_within {text : String} {p : Watchdog α} (hp : p.run.Only Quiet) : (within text p).run.Only Quiet :=
  .bind hp fun _ => trivial

theorem quiet_loadCursor (store : Store) (key : Key) : (loadCursor store key).run.Only Quiet := by
  cases store with
  | database => exact .except (quiet_give _) fun _ => .except (quiet_ask trivial) fun _ => quiet_give _
  | memory => exact .except quiet_checkContext fun _ => .except (quiet_ask trivial) fun _ => quiet_give _

theorem quiet_checkAge (deadline : Instant) (evaluation : EvaluationResult) :
    (checkAge deadline evaluation).run.Only Quiet := by
  unfold checkAge
  split
  · trivial
  · exact .except (quiet_ask trivial) fun _ => quiet_give _

section Swap
variable {previous next : Cursor}

theorem Took.wrap {text : String} {swap : Swap} {w : Shared} {r : Except Err Bool} (h : Took swap w r) :
    Took swap w (wrap text r) := by
  cases r with
  | error err => exact h
  | ok changed => exact h

theorem right_createCursor (hrising : Rising previous next) (hseen : seen.own call = []) :
    Right key call seen (createCursor key previous next) (Took ⟨call, previous, next⟩) := by
  unfold createCursor
  split
  · exact hseen
  · rename_i hzero
    obtain rfl := Cursor.eq_zero hzero
    refine Right.ask (q := .insert key next) hseen fun w r w' hw hfresh hstep => ?_
    obtain ⟨hguarantee, hw', htook⟩ := statement_took hw hrising hfresh (insert_swapped w.rows key next) hstep
    exact ⟨hguarantee, hw', htook.wrap⟩

theorem right_compareAndSwap (store : Store) (hrising : Rising previous next) (hseen : seen.own call = []) :
    Right key call seen (compareAndSwap store key previous next) (Took ⟨call, previous, next⟩) := by
  cases store with
  | database =>
    refine .quiet (quiet_ask trivial) hseen (fun _ _ h => h) fun w now hfresh => ?_
    refine .quiet (quiet_give _) hfresh (fun _ _ h => h) fun w _ hfresh => ?_
    refine Right.ask (q := .update key previous next) hfresh fun w r w' hw hfresh hstep => ?_
    obtain ⟨hguarantee, hw', htook⟩ := statement_took hw hrising hfresh (update_swapped w.rows key previous next) hstep
    refine ⟨hguarantee, hw', ?_⟩
    cases (r : Except Err Bool) with
    | error err => exact htook
    | ok changed =>
      cases changed with
      | true => exact htook
      | false => exact right_createCursor hrising htook
  | memory =>
    refine .quiet quiet_checkContext hseen (fun _ _ h => h) fun w _ hfresh => ?_
    refine Right.ask (q := .swap key previous next) hfresh fun w r w' hw hfresh hstep => ?_
    exact statement_took hw hrising hfresh (swap_swapped w.rows key previous next) hstep

end Swap

variable {formats : Formats}

/-- What a run leaves: one that fails has swapped nothing, and one that returns has swapped once, as it
evaluated. -/
def Ran (runner : Runner formats) (finding : FindingContext) (call : ℕ) (w : Shared) : Except Err RunResult → Prop
  | .error _ => w.own call = []
  | .ok result => ∃ previous next, w.own call = [⟨call, previous, next⟩] ∧
      Evaluated runner.program finding.observedUnix previous result.evaluation next ∧
      runner.proposals finding result.evaluation (inputDigest formats finding) = .ok result.proposals

theorem right_runFinding (runner : Runner formats) (finding : FindingContext) (hkey : runner.key = key)
    (hseen : seen.own call = []) : Right key call seen (runFinding runner finding) (Ran runner finding call) := by
  subst hkey
  refine .quiet quiet_checkContext hseen (fun _ _ h => h) fun w _ hfresh => ?_
  refine .quiet (quiet_give _) hfresh (fun _ _ h => h) fun w _ hfresh => ?_
  refine .give (fun _ => hfresh) ?_
  rintro ⟨frame, digest⟩ hframe
  refine .quiet (quiet_within (quiet_loadCursor _ _)) hfresh (fun _ _ h => h) fun w cursor hfresh => ?_
  refine .give (fun _ => hfresh) ?_
  rintro ⟨evaluation, next⟩ hevaluate
  have hevaluated := evaluated_of_evaluate runner.admitted hframe hevaluate
  refine .quiet (quiet_checkAge _ _) hfresh (fun _ _ h => h) fun w _ hfresh => ?_
  refine .give (fun _ => hfresh) fun proposals hproposals => ?_
  -- whatever cursor was loaded, the swap succeeds only if it is the stored one
  have hswap : Right runner.key call w (compareAndSwap runner.store runner.key cursor next)
      (Took ⟨call, cursor, next⟩) := right_compareAndSwap runner.store (rising_of_evaluated hevaluated) hfresh
  refine ok_except (P := Took ⟨call, cursor, next⟩) (Right.within (ok_mono hswap fun _ _ => Took.wrap))
    (fun _ _ h => h) fun w advanced htook => ?_
  cases advanced with
  | false => exact htook
  | true =>
    rw [(frameForFinding_ok hframe).2.1] at hproposals
    exact ⟨cursor, next, htook, hevaluated, hproposals⟩

end Run

/-! ## Every interleaving -/

section Interleaving
variable {formats : Formats} {key : Key}

variable (formats) in
structure Outcome where
  runner : Runner formats
  finding : FindingContext
  result : Except Err RunResult

def Outcome.intents (o : Outcome formats) : List EmittedIntent :=
  match o.result with
  | .ok result => result.evaluation.intents
  | .error _ => []

def Outcome.proposals (o : Outcome formats) : List SecureActionProposal :=
  match o.result with
  | .ok result => result.proposals
  | .error _ => []

def Outcome.seeds (o : Outcome formats) : List String :=
  Nano.seeds o.runner.programDigest (inputDigest formats o.finding) o.runner.bindingID o.intents

def started (runner : Runner formats) (finding : FindingContext) : Prog sig (Outcome formats) :=
  (runFinding runner finding).run.bind fun result => .ret ⟨runner, finding, result⟩

variable (formats key) in
/-- The calls that are made: any runner of the program and node, and any finding. -/
def Runs (p : Prog sig (Outcome formats)) : Prop :=
  ∃ (runner : Runner formats) (finding : FindingContext), runner.key = key ∧ p = started runner finding

variable (formats key) in
abbrev Moves : Pool sig Shared (Outcome formats) → Pool sig Shared (Outcome formats) → Prop :=
  Pool.Step sharing (Runs formats key)

variable (key) in
def Settled (call : ℕ) (w : Shared) (o : Outcome formats) : Prop :=
  o.runner.key = key ∧ Ran o.runner o.finding call w o.result

theorem Settled.undisturbed {call : ℕ} {w w' : Shared} {o : Outcome formats} (h : Undisturbed call w w')
    (ho : Settled key call w o) : Settled key call w' o := by
  refine ⟨ho.1, ?_⟩
  have hran := ho.2
  cases hresult : o.result with
  | error err =>
    rw [hresult] at hran
    exact Eq.trans h hran
  | ok result =>
    rw [hresult] at hran
    obtain ⟨previous, next, hown, hrest⟩ := hran
    exact ⟨previous, next, Eq.trans h hown, hrest⟩

theorem ok_started {call : ℕ} {p : Prog sig (Outcome formats)} (hp : Runs formats key p) {w : Shared}
    (hfresh : w.own call = []) :
    Ok (sharing call) (Timely key) (Undisturbed call) (Guarantee key call) (Settled key call) w p := by
  obtain ⟨runner, finding, hkey, rfl⟩ := hp
  exact ok_bind (right_runFinding runner finding hkey hfresh) fun _ _ hran => ⟨hkey, hran⟩

variable (key) in
structure Orderly (c : Pool sig Shared (Outcome formats)) : Prop where
  good : c.Good sharing (Timely key) Undisturbed (Guarantee key) (Settled key)
  fresh : c.Fresh fun call w => w.own call = []

theorem Orderly.step {c c' : Pool sig Shared (Outcome formats)} (hc : Orderly key c) (h : Moves formats key c c') :
    Orderly key c' ∧ Rises key c.world.rows c'.world.rows := by
  obtain ⟨hgood, hfresh, hworld⟩ := h.good_fresh (F := fun call w => w.own call = []) (R := Undisturbed)
    (G := Guarantee key) (fun _ _ => rfl) (fun h h' => Eq.trans h' h) (fun hne hg => hg.own _ hne.symm)
    (fun hne hg hown => (hg.own _ hne.symm).trans hown) (fun _ _ hp _ _ hown => ok_started hp hown) hc.good hc.fresh
  refine ⟨⟨hgood, hfresh⟩, ?_⟩
  rcases hworld with hsame | ⟨call, hguarantee⟩
  · rw [hsame]
    exact rises_refl key _
  · exact hguarantee.rises

theorem orderly_of_reachable {rows : Rows} {c : Pool sig Shared (Outcome formats)}
    (hc : Reachable (· = ⟨⟨rows, []⟩, []⟩) (Moves formats key) c) : Orderly key c := by
  refine hc.invariant ?_ fun c c' horderly hstep => (horderly.step hstep).1
  rintro c rfl
  exact ⟨Pool.good_nil ⟨.nil, nofun⟩, fun _ _ => rfl⟩

theorem Orderly.rises {c c' : Pool sig Shared (Outcome formats)} (hc : Orderly key c)
    (h : Reachable (· = c) (Moves formats key) c') : Rises key c.world.rows c'.world.rows := by
  have hboth : Orderly key c' ∧ Rises key c.world.rows c'.world.rows := by
    refine h.invariant (I := fun d => Orderly key d ∧ Rises key c.world.rows d.world.rows) ?_ ?_
    · rintro d rfl
      exact ⟨hc, rises_refl key _⟩
    · rintro d d' ⟨horderly, hrises⟩ hstep
      obtain ⟨horderly', hrises'⟩ := horderly.step hstep
      exact ⟨horderly', hrises.trans hrises'⟩
  exact hboth.2

variable {c : Pool sig Shared (Outcome formats)}

theorem Orderly.settled (hc : Orderly key c) {i : ℕ} {o : Outcome formats} (h : c.Returned i o) :
    Settled key i c.world o := hc.good.returned h fun hsame ho => ho.undisturbed hsame

theorem Orderly.swapped (hc : Orderly key c) {i : ℕ} {o : Outcome formats} (h : c.Returned i o)
    (hintents : o.intents ≠ []) : ∃ previous : Cursor,
      c.world.own i = [⟨i, previous, ⟨true, o.finding.observedUnix + o.runner.program.step⟩⟩] ∧
      (previous.initialized = true → previous.nextDueUnix.toInt ≤ o.finding.observedUnix.toInt) ∧
      (o.finding.observedUnix + o.runner.program.step).toInt =
        o.finding.observedUnix.toInt + o.runner.program.step.toInt ∧
      ∀ intent ∈ o.intents, intent.timestamp = o.finding.observedUnix := by
  have hran := (hc.settled h).2
  unfold Outcome.intents at hintents ⊢
  cases hresult : o.result with
  | error err =>
    rw [hresult] at hintents
    exact absurd rfl hintents
  | ok result =>
    rw [hresult] at hran hintents
    obtain ⟨previous, next, hown, hevaluated, -⟩ := hran
    cases hevaluated with
    | early _ hnone _ => exact absurd hnone hintents
    | due hdue hmoved hexact hstamped =>
      refine ⟨previous, by rw [hown, hmoved], fun hinit => ?_, hexact, hstamped⟩
      rwa [Cursor.early, hinit, Bool.true_and, decide_eq_false_iff_not, Int64.lt_iff_toInt_lt, not_lt] at hdue

theorem mem_own {w : Shared} {swap : Swap} (h : swap ∈ w.swaps) : swap ∈ w.own swap.call :=
  List.mem_filter.mpr ⟨h, by simp⟩

theorem Orderly.spaced (hc : Orderly key c) : c.world.swaps.Pairwise fun earlier later => ∀ o o',
    c.Returned earlier.call o → c.Returned later.call o' → o.intents ≠ [] → o'.intents ≠ [] →
      o.finding.observedUnix.toInt + o.runner.program.step.toInt ≤ o'.finding.observedUnix.toInt := by
  refine hc.good.invariant.ordered.imp_of_mem ?_
  intro earlier later hearlier hlater hbefore o o' ho ho' hintents hintents'
  obtain ⟨previous, hown, -, hexact, -⟩ := hc.swapped ho hintents
  obtain ⟨previous', hown', hdue, -, -⟩ := hc.swapped ho' hintents'
  have hnext := List.mem_singleton.mp (hown ▸ mem_own hearlier)
  have hprevious := List.mem_singleton.mp (hown' ▸ mem_own hlater)
  rw [hnext, hprevious] at hbefore
  have hreached := hbefore.2
  rw [hexact] at hreached
  exact hreached.trans (hdue hbefore.1)

variable (c) in
/-- The runs of two swaps have findings of different times. -/
def Apart (s t : Swap) : Prop := ∀ o o', c.Returned s.call o → c.Returned t.call o' → o.intents ≠ [] →
  o'.intents ≠ [] → o.finding.observedUnix ≠ o'.finding.observedUnix

instance symm_apart : Std.Symm (Apart c) where
  symm _ _ h o o' ho ho' hintents hintents' := (h o' o ho' ho hintents' hintents).symm

theorem Orderly.apart (hc : Orderly key c) : c.world.swaps.Pairwise (Apart c) := by
  refine hc.spaced.imp fun hspaced o o' ho ho' hintents hintents' heq => ?_
  have hstep := hspaced o o' ho ho' hintents hintents'
  have hpos := o.runner.program.step_pos
  rw [heq] at hstep
  omega

theorem Orderly.timestamp_ne (hc : Orderly key c) {i j : ℕ} {o o' : Outcome formats} (hij : i ≠ j)
    (ho : c.Returned i o) (ho' : c.Returned j o') (hintents : o.intents ≠ []) (hintents' : o'.intents ≠ []) :
    o.finding.observedUnix ≠ o'.finding.observedUnix := by
  obtain ⟨previous, hown, -⟩ := hc.swapped ho hintents
  obtain ⟨previous', hown', -⟩ := hc.swapped ho' hintents'
  have hmem := (List.mem_filter.mp (hown ▸ List.mem_singleton.mpr rfl)).1
  have hmem' := (List.mem_filter.mp (hown' ▸ List.mem_singleton.mpr rfl)).1
  exact hc.apart.forall hmem hmem' (fun heq => hij (congrArg Swap.call heq)) o o' ho ho' hintents hintents'

/-! ## Digests -/

def CollisionFree (texts : String → Prop) : Prop := ∀ s t, texts s → texts t →
  (Sha256.sum256 (bytes s)).take 16 = (Sha256.sum256 (bytes t)).take 16 → s = t

variable (c) in
/-- What is hashed for the calls that have returned: their programs and the seeds of their proposals. -/
inductive Hashed : String → Prop where
  | program {i : ℕ} {o : Outcome formats} {text : String} (h : c.Returned i o)
      (htext : o.runner.program.canonicalJSON formats = .ok text) : Hashed text
  | proposal {i : ℕ} {o : Outcome formats} {seed : String} (h : c.Returned i o) (hseed : seed ∈ o.seeds) : Hashed seed

theorem digest_ok {program : Program} {digest : String} (h : program.digest formats = .ok digest) :
    ∃ text, program.canonicalJSON formats = .ok text ∧
      digest = "sha256:" ++ hexEncode (Sha256.sum256 (bytes text)) := by
  unfold Program.digest at h
  cases htext : program.canonicalJSON formats with
  | error err =>
    rw [htext] at h
    cases h
  | ok text =>
    rw [htext] at h
    exact ⟨text, rfl, (Except.ok.inj h).symm⟩

theorem Orderly.step_eq (hc : Orderly key c) (hhash : CollisionFree (Hashed c)) {i j : ℕ} {o o' : Outcome formats}
    (ho : c.Returned i o) (ho' : c.Returned j o') : o.runner.program.step = o'.runner.program.step := by
  have hkey : o.runner.key = o'.runner.key := (hc.settled ho).1.trans (hc.settled ho').1.symm
  obtain ⟨text, htext, hdigest⟩ := digest_ok o.runner.digest
  obtain ⟨text', htext', hdigest'⟩ := digest_ok o'.runner.digest
  have hsame : o.runner.programDigest = o'.runner.programDigest := congrArg Key.programDigest hkey
  rw [hdigest, hdigest'] at hsame
  have hchars := congrArg String.toList hsame
  simp only [String.toList_append] at hchars
  have hsum := hexEncode_inj (String.toList_injective (List.append_cancel_left hchars))
  obtain rfl := hhash text text' (.program ho htext) (.program ho' htext') (congrArg (List.take 16) hsum)
  exact step_of_canonicalJSON formats htext htext'

theorem proposalID_injOn (hhash : CollisionFree (Hashed c)) {i j : ℕ} {o o' : Outcome formats}
    (ho : c.Returned i o) (ho' : c.Returned j o') {seed seed' : String} (hseed : seed ∈ o.seeds)
    (hseed' : seed' ∈ o'.seeds) (h : proposalID seed = proposalID seed') : seed = seed' :=
  hhash seed seed' (.proposal ho hseed) (.proposal ho' hseed') (proposalID_inj h)

theorem Orderly.proposals (hc : Orderly key c) {i : ℕ} {o : Outcome formats} (h : c.Returned i o) :
    (o.proposals.map (·.id)).Sublist (o.seeds.map proposalID) := by
  have hran := (hc.settled h).2
  unfold Outcome.proposals Outcome.seeds Outcome.intents
  cases hresult : o.result with
  | error err => exact .slnil
  | ok result =>
    rw [hresult] at hran
    obtain ⟨_, _, -, -, hproposals⟩ := hran
    exact (buildProposals_ok hproposals).1

theorem Orderly.proposals_nodup (hc : Orderly key c) (hhash : CollisionFree (Hashed c)) {i : ℕ}
    {o : Outcome formats} (h : c.Returned i o) : (o.proposals.map (·.id)).Nodup := by
  refine List.Nodup.sublist (hc.proposals h) (List.Nodup.map_on ?_ (nodup_seeds ..))
  intro seed hseed seed' hseed' hid
  exact proposalID_injOn hhash h h hseed hseed' hid

theorem Orderly.seed_timestamp (hc : Orderly key c) {i : ℕ} {o : Outcome formats} (h : c.Returned i o)
    {seed : String} (hseed : seed ∈ o.seeds) : o.intents ≠ [] ∧ ∃ index,
      seed = proposalSeed o.runner.programDigest (inputDigest formats o.finding) o.runner.bindingID
        o.finding.observedUnix index := by
  obtain ⟨⟨intent, index⟩, hentry, rfl⟩ := List.mem_map.mp hseed
  have hmem : intent ∈ o.intents := (List.mem_zipIdx' hentry).2 ▸ List.getElem_mem _
  have hintents : o.intents ≠ [] := List.ne_nil_of_mem hmem
  obtain ⟨_, -, -, -, hstamped⟩ := hc.swapped h hintents
  exact ⟨hintents, index, by rw [hstamped intent hmem]⟩

theorem Orderly.proposals_disjoint (hc : Orderly key c) (hhash : CollisionFree (Hashed c)) {i j : ℕ}
    {o o' : Outcome formats} (hij : i ≠ j) (ho : c.Returned i o) (ho' : c.Returned j o') :
    List.Disjoint (o.proposals.map (·.id)) (o'.proposals.map (·.id)) := by
  intro id hid hid'
  obtain ⟨seed, hseed, hseedID⟩ := List.mem_map.mp ((hc.proposals ho).subset hid)
  obtain ⟨seed', hseed', hseedID'⟩ := List.mem_map.mp ((hc.proposals ho').subset hid')
  have hsame := proposalID_injOn hhash ho ho' hseed hseed' (hseedID.trans hseedID'.symm)
  obtain ⟨hintents, index, hfrom⟩ := hc.seed_timestamp ho hseed
  obtain ⟨hintents', index', hfrom'⟩ := hc.seed_timestamp ho' hseed'
  rw [hfrom, hfrom'] at hsame
  exact hc.timestamp_ne hij ho ho' hintents hintents' (proposalSeed_inj hsame).1

theorem Orderly.deadline (hc : Orderly key c) {i : ℕ} {o : Outcome formats} (h : c.Returned i o) {result : RunResult}
    (hresult : o.result = .ok result) :
    (o.finding.observedUnix + 62135596800).toInt = o.finding.observedUnix.toInt + 62135596800 ∧
      o.runner.deadline o.finding = Instant.ofUnix o.finding.observedUnix.toInt + o.runner.proposalTTL := by
  have hran := (hc.settled h).2
  rw [hresult] at hran
  obtain ⟨_, _, -, -, hproposals⟩ := hran
  obtain ⟨hpos, hmax⟩ := o.runner.ttl
  refine Instant.add_unix_of_parses hpos.le ?_ (buildProposals_ok hproposals).2
  unfold maximumTTL Instant.perSecond at hmax
  omega

/-- What the schedule promises at any time, of the calls that have returned by then. -/
structure Scheduled (key : Key) (c : Pool sig Shared (Outcome formats)) : Prop where
  /-- A run that returns intents has swapped the cursor once, to one step after its finding. -/
  swapped : ∀ i o, c.Returned i o → o.intents ≠ [] → ∃ swap, c.world.own i = [swap] ∧
    swap.next.initialized = true ∧
    swap.next.nextDueUnix.toInt = o.finding.observedUnix.toInt + o.runner.program.step.toInt
  /-- In the order of the swaps, each such finding comes at least a step after those before it. -/
  spaced : c.world.swaps.Pairwise fun earlier later => ∀ o o', c.Returned earlier.call o →
    c.Returned later.call o' → o.intents ≠ [] → o'.intents ≠ [] →
      o.finding.observedUnix.toInt + o.runner.program.step.toInt ≤ o'.finding.observedUnix.toInt
  /-- The step is the same for all. -/
  step_eq : ∀ i j o o', c.Returned i o → c.Returned j o' → o.runner.program.step = o'.runner.program.step
  /-- The due time that is stored does not decrease from here on. -/
  rises : ∀ c', Reachable (· = c) (Moves formats key) c' → Rises key c.world.rows c'.world.rows
  /-- No run returns an identifier twice, and no two runs return the same. -/
  nodup : ∀ i o, c.Returned i o → (o.proposals.map (·.id)).Nodup
  disjoint : ∀ i j o o', i ≠ j → c.Returned i o → c.Returned j o' →
    List.Disjoint (o.proposals.map (·.id)) (o'.proposals.map (·.id))
  /-- A finding that is due is refused if the sum with the step does not fit. -/
  exact : ∀ (runner : Runner formats) (finding : FindingContext) (frame : Frame) (digest : String) (cursor : Cursor),
    frameForFinding formats finding = .ok (frame, digest) → cursor.early finding.observedUnix = false →
    (finding.observedUnix + runner.program.step).toInt ≠ finding.observedUnix.toInt + runner.program.step.toInt →
    evaluate formats runner.program frame cursor defaultLimits = .error (.invalidFrame "")
  /-- The sums of a deadline fit in every run that returns, also the one that counts its seconds from year 1. -/
  deadline : ∀ i o result, c.Returned i o → o.result = .ok result →
    (o.finding.observedUnix + 62135596800).toInt = o.finding.observedUnix.toInt + 62135596800 ∧
      o.runner.deadline o.finding = Instant.ofUnix o.finding.observedUnix.toInt + o.runner.proposalTTL

/-- However the runs of any runners of one program and node interleave, and whatever requests of the store
fail, from any table of cursors. -/
theorem runs_scheduled {rows : Rows} (hc : Reachable (· = ⟨⟨rows, []⟩, []⟩) (Moves formats key) c)
    (hhash : CollisionFree (Hashed c)) : Scheduled key c := by
  have horderly := orderly_of_reachable hc
  refine ⟨fun i o ho hintents => ?_, horderly.spaced, fun i j o o' ho ho' => horderly.step_eq hhash ho ho',
    fun c' hc' => horderly.rises hc', fun i o ho => horderly.proposals_nodup hhash ho,
    fun i j o o' hij ho ho' => horderly.proposals_disjoint hhash hij ho ho', ?_,
    fun i o result ho hresult => horderly.deadline ho hresult⟩
  · obtain ⟨previous, hown, -, hexact, -⟩ := horderly.swapped ho hintents
    exact ⟨_, hown, rfl, hexact⟩
  · intro runner finding frame digest cursor hframe hdue hoverflow
    exact evaluate_refuses runner.admitted hframe hdue hoverflow

end Interleaving

/-! ## Two runs -/

section Probe

theorem probe_admitted : isOpaque "node" = true ∧ (0 < Instant.perSecond ∧ Instant.perSecond ≤ maximumTTL) ∧
    admitWatchdog probeWatch = .ok () ∧ (admittedBindings.lookup "scrambler-simulation-v1").isSome = true := by decide

theorem digest_probeWatch : probeWatch.digest plainFormats = .ok probeDigest := by decide +kernel

def probeRunner : Runner plainFormats where
  program := probeWatch
  programDigest := probeDigest
  bindingID := "scrambler-simulation-v1"
  nodeID := "node"
  proposalTTL := Instant.perSecond
  store := .database
  node := probe_admitted.1
  ttl := probe_admitted.2.1
  admitted := probe_admitted.2.2.1
  bound := probe_admitted.2.2.2
  digest := digest_probeWatch

def answered (swap : Swap) (w : Shared) (truth : Bool × Rows) : Except Err Bool × Shared :=
  if truth.1 then (.ok true, ⟨truth.2, w.swaps ++ [swap]⟩) else (.ok false, w)

def answer (call : ℕ) : (q : Request) → Shared → q.Answer × Shared
  | .contextErr, w => (none, w)
  | .clock, w => (Instant.ofUnix 100, w)
  | .load key, w => (.ok (w.rows.cursor key), w)
  | .update key previous next, w => answered ⟨call, previous, next⟩ w (w.rows.update key previous next)
  | .insert key next, w => answered ⟨call, .zero, next⟩ w (w.rows.insert key next)
  | .swap key previous next, w => answered ⟨call, previous, next⟩ w (w.rows.swap key previous next)
  | .getProgram _, w => (.ok probeRecord, w)

theorem statement_answered (swap : Swap) (w : Shared) (truth : Bool × Rows) :
    Statement swap w truth (answered swap w truth).1 (answered swap w truth).2 := by
  unfold answered
  split
  · exact .changed ‹_›
  · exact .unchanged (Bool.not_eq_true _ ▸ ‹_›)

theorem sharing_answer (call : ℕ) (q : Request) (w : Shared) :
    (sharing call).step q w (answer call q w).1 (answer call q w).2 := by
  cases q with
  | contextErr => rfl
  | clock => rfl
  | load key => exact ⟨fun cursor h => (Except.ok.inj h).symm, rfl⟩
  | update key previous next => exact statement_answered ..
  | insert key next => exact statement_answered ..
  | swap key previous next => exact statement_answered ..
  | getProgram id => rfl

def probing (observed : Int64) : FindingContext := ⟨"finding-1", "node", "404 probing", Float64.one, observed⟩

def probe (call : ℕ) (observed : Int64) (w : Shared) : Outcome plainFormats × Shared :=
  (started probeRunner (probing observed)).run (answer call) w

def firstProbe : Outcome plainFormats × Shared := probe 0 100 ⟨fun _ => none, []⟩

def secondProbe : Outcome plainFormats × Shared := probe 1 101 firstProbe.2

def probes : Pool sig Shared (Outcome plainFormats) := ⟨secondProbe.2, [.ret firstProbe.1, .ret secondProbe.1]⟩

theorem reachable_probes :
    Reachable (· = ⟨⟨fun _ => none, []⟩, []⟩) (Moves plainFormats ⟨probeDigest, "node"⟩) probes := by
  have hruns (observed : Int64) : Runs plainFormats ⟨probeDigest, "node"⟩ (started probeRunner (probing observed)) :=
    ⟨probeRunner, probing observed, rfl, rfl⟩
  have hstart : Reachable (· = ⟨⟨fun _ => none, []⟩, []⟩) (Moves plainFormats ⟨probeDigest, "node"⟩)
      ⟨⟨fun _ => none, []⟩, [started probeRunner (probing 100)]⟩ := .next (.start rfl) (.start (hruns 100))
  have hfirst : Reachable (· = ⟨⟨fun _ => none, []⟩, []⟩) (Moves plainFormats ⟨probeDigest, "node"⟩)
      ⟨firstProbe.2, [.ret firstProbe.1]⟩ := Pool.reachable_run (i := 0) (sharing_answer 0) hstart rfl
  have hboth : Reachable (· = ⟨⟨fun _ => none, []⟩, []⟩) (Moves plainFormats ⟨probeDigest, "node"⟩)
      ⟨firstProbe.2, [.ret firstProbe.1, started probeRunner (probing 101)]⟩ := .next hfirst (.start (hruns 101))
  exact Pool.reachable_run (i := 1) (sharing_answer 1) hboth rfl

theorem probe_program (call : ℕ) (observed : Int64) (w : Shared) :
    (probe call observed w).1.runner.program = probeWatch := by
  rw [probe, started, Prog.run_bind]
  rfl

def probeTexts : List String :=
  (probeWatch.canonicalJSON plainFormats).toOption.getD "" :: firstProbe.1.seeds ++ secondProbe.1.seeds

theorem nodup_probeTexts : (probeTexts.map fun text => (Sha256.sum256 (bytes text)).take 16).Nodup := by
  decide +kernel

theorem returned_probes {i : ℕ} {o : Outcome plainFormats} (h : probes.Returned i o) :
    o = firstProbe.1 ∨ o = secondProbe.1 := by
  have hmem : Prog.ret o ∈ [Prog.ret firstProbe.1, .ret secondProbe.1] := List.mem_of_getElem? h
  simpa using hmem

theorem mem_probeTexts {text : String} (h : Hashed probes text) : text ∈ probeTexts := by
  unfold probeTexts
  rw [List.cons_append, List.mem_cons, List.mem_append]
  cases h with
  | @program i o text ho htext =>
    have hprogram : o.runner.program = probeWatch := by
      rcases returned_probes ho with heq | heq
      · rw [heq, firstProbe, probe_program]
      · rw [heq, secondProbe, probe_program]
    rw [hprogram] at htext
    rw [htext]
    exact .inl rfl
  | @proposal i o seed ho hseed =>
    rcases returned_probes ho with heq | heq
    · exact .inr (.inl (heq ▸ hseed))
    · exact .inr (.inr (heq ▸ hseed))

/-- Two runs that each return a proposal. -/
theorem runs_scheduled_probes : Scheduled ⟨probeDigest, "node"⟩ probes ∧
    firstProbe.1.proposals.length = 1 ∧ secondProbe.1.proposals.length = 1 := by
  refine ⟨runs_scheduled reachable_probes fun s t hs ht heq => ?_, by decide +kernel, by decide +kernel⟩
  exact List.inj_on_of_nodup_map nodup_probeTexts (mem_probeTexts hs) (mem_probeTexts ht) heq

end Probe
end AntiFlock.Nano
