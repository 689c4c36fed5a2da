import AntiFlock.Effect.Prog

set_option autoImplicit false

/-!
# Preconditions of programs that may die

`wp H C p Q w` says that every execution of `p` from `w` that returns ends in `Q`
and every one that dies leaves a world in `C`. The rules below take a program
apart along its own syntax; `Exec.of_wp` turns the result into a statement about
executions.
-/
namespace AntiFlock.Effect
variable {S : Sig} {W α β : Type} {H : Handler S W} {C : W → Prop}

def wp (H : Handler S W) (C : W → Prop) : Prog S α → (α → W → Prop) → W → Prop
  | .ret a, Q, w => C w ∧ Q a w
  | .call q k, Q, w => C w ∧ (∀ w', H.torn q w w' → C w') ∧
      ∀ r w', H.step q w r w' → wp H C (k r) Q w'

@[simp] theorem wp_ret (a : α) (Q : α → W → Prop) (w : W) :
    wp H C (.ret a) Q w ↔ C w ∧ Q a w := Iff.rfl

@[simp] theorem wp_call (q : S.Req) (k : S.Ans q → Prog S α) (Q : α → W → Prop) (w : W) :
    wp H C (.call q k) Q w ↔ C w ∧ (∀ w', H.torn q w w' → C w') ∧
      ∀ r w', H.step q w r w' → wp H C (k r) Q w' := Iff.rfl

theorem wp_alive {p : Prog S α} {Q : α → W → Prop} {w : W} (h : wp H C p Q w) : C w := by
  cases p with
  | ret a => exact h.1
  | call q k => exact h.1

theorem wp_mono {p : Prog S α} {Q Q' : α → W → Prop} {w : W} (h : wp H C p Q w)
    (hQ : ∀ a w, C w → Q a w → Q' a w) : wp H C p Q' w := by
  induction p generalizing w with
  | ret a => exact ⟨h.1, hQ a w h.1 h.2⟩
  | call q k ih => exact ⟨h.1, h.2.1, fun r w' hs => ih r (h.2.2 r w' hs)⟩

theorem wp_bind (p : Prog S α) (f : α → Prog S β) (Q : β → W → Prop) (w : W) :
    wp H C (p.bind f) Q w ↔ wp H C p (fun a w => wp H C (f a) Q w) w := by
  induction p generalizing w with
  | ret a => exact ⟨fun h => ⟨wp_alive h, h⟩, fun h => h.2⟩
  | call q k ih =>
    simp only [Prog.call_bind, wp_call]
    refine and_congr Iff.rfl (and_congr Iff.rfl ?_)
    exact forall_congr' fun r => forall_congr' fun w' => imp_congr Iff.rfl (ih r w')

theorem wp_and {C' : W → Prop} {p : Prog S α} {Q Q' : α → W → Prop} {w : W} (h : wp H C p Q w)
    (h' : wp H C' p Q' w) : wp H (fun w => C w ∧ C' w) p (fun a w => Q a w ∧ Q' a w) w := by
  induction p generalizing w with
  | ret a => exact ⟨⟨h.1, h'.1⟩, h.2, h'.2⟩
  | call q k ih =>
    exact ⟨⟨h.1, h'.1⟩, fun w' ht => ⟨h.2.1 w' ht, h'.2.1 w' ht⟩, fun r w' hs => ih r (h.2.2 r w' hs) (h'.2.2 r w' hs)⟩

theorem wp_invariant (p : Prog S α) (w : W) (hw : C w)
    (step : ∀ q w r w', C w → H.step q w r w' → C w')
    (torn : ∀ q w w', C w → H.torn q w w' → C w') : wp H C p (fun _ w => C w) w := by
  induction p generalizing w with
  | ret a => exact ⟨hw, hw⟩
  | call q k ih =>
    exact ⟨hw, fun w' h => torn q w w' hw h, fun r w' h => ih r w' (step q w r w' hw h)⟩

theorem wp_only {P : S.Req → Prop} {R : W → W → Prop} {p : Prog S α} (hp : p.Only P)
    (refl : ∀ w, R w w) (trans : ∀ {u v w}, R u v → R v w → R u w)
    (each : ∀ q w, P q → C w → wp H C (Prog.perform q) (fun _ w' => R w w') w) {w : W} (hw : C w) :
    wp H C p (fun _ w' => R w w') w := by
  induction p generalizing w with
  | ret a => exact ⟨hw, refl w⟩
  | call q k ih =>
    obtain ⟨-, htorn, hstep⟩ := each q w hp.1 hw
    refine ⟨hw, htorn, fun r w' hs => ?_⟩
    obtain ⟨hw', hr⟩ := hstep r w' hs
    exact wp_mono (ih r (hp.2 r) hw') fun _ _ _ hr' => trans hr hr'

/-- What `wp` promises of one execution. -/
def Meets (C : W → Prop) (Q : α → W → Prop) (w : W) : Option α → Prop
  | none => C w
  | some a => Q a w

theorem Exec.of_wp {p : Prog S α} {Q : α → W → Prop} {w w' : W} {o : Option α}
    (h : Exec H p w o w') (hw : wp H C p Q w) : Meets C Q w' o := by
  induction h with
  | ret a w => exact hw.2
  | died p w => exact wp_alive (H := H) hw
  | torn h => exact hw.2.1 _ h
  | call h _ ih => exact ih (hw.2.2 _ _ h)

/-- The handler that answers as a function does, and never dies. -/
def Handler.answering (f : (q : S.Req) → W → S.Ans q × W) : Handler S W where
  step q w r w' := f q w = (r, w')
  torn _ _ _ := False

theorem wp_weaken {C' : W → Prop} {p : Prog S α} {Q : α → W → Prop} {w : W} (h : wp H C p Q w)
    (hC : ∀ w, C w → C' w) : wp H C' p Q w := by
  induction p generalizing w with
  | ret a => exact ⟨hC w h.1, h.2⟩
  | call q k ih =>
    exact ⟨hC w h.1, fun w' ht => hC w' (h.2.1 w' ht), fun r w' hs => ih r (h.2.2 r w' hs)⟩

theorem wp_except {ε : Type} (p : ExceptT ε (Prog S) α) (f : α → ExceptT ε (Prog S) β)
    (Q : Except ε β → W → Prop) (w : W) :
    wp H C (p >>= f).run Q w ↔ wp H C p.run (fun r w => match r with
      | .ok a => wp H C (f a).run Q w
      | .error err => C w ∧ Q (.error err) w) w := by
  change wp H C (Prog.bind p.run (ExceptT.bindCont f)) Q w ↔ _
  rw [wp_bind]
  have hcont : (fun a w => wp H C (ExceptT.bindCont f a) Q w) = fun (r : Except ε α) w => match r with
      | .ok a => wp H C (f a).run Q w
      | .error err => C w ∧ Q (.error err) w := by
    funext r w
    cases r with
    | ok a => rfl
    | error err => rfl
  rw [hcont]

/-- How operations may be disturbed: not at all, before they take effect, or also after. -/
inductive Faults where
  | none
  | refusals
  | any
deriving DecidableEq

/-- The answers of an operation under some faults. `truth` is what it does undisturbed. -/
inductive Served {ε σ : Type} (faults : Faults) (truth : Except ε α × σ) (s : σ) :
    Except ε α → σ → Prop where
  | served : Served faults truth s truth.1 truth.2
  | refused (h : faults ≠ .none) (err : ε) : Served faults truth s (.error err) s
  | lost (h : faults = .any) (err : ε) : Served faults truth s (.error err) truth.2

theorem Served.ok {ε σ : Type} {faults : Faults} {truth : Except ε α × σ} {s s' : σ} {a : α}
    (h : Served faults truth s (.ok a) s') : truth = (.ok a, s') := by
  generalize hr : (Except.ok a : Except ε α) = r at h
  cases h with
  | served => rfl
  | refused _ err => cases hr
  | lost _ err => cases hr

theorem Served.undisturbed {ε σ : Type} {truth : Except ε α × σ} {s s' : σ} {r : Except ε α}
    (h : Served .none truth s r s') : truth = (r, s') := by
  cases h with
  | served => rfl
  | refused h err => exact absurd rfl h
  | lost h err => cases h

theorem Served.state {ε σ : Type} {faults : Faults} {truth : Except ε α × σ} {s s' : σ}
    {r : Except ε α} (h : Served faults truth s r s') : s' = s ∨ s' = truth.2 := by
  cases h with
  | served => exact .inr rfl
  | refused => exact .inl rfl
  | lost => exact .inr rfl

/-- States reached from an initial one by finitely many steps. -/
inductive Reachable {σ : Type} (init : σ → Prop) (step : σ → σ → Prop) : σ → Prop where
  | start {s : σ} (h : init s) : Reachable init step s
  | next {s t : σ} (h : Reachable init step s) (hs : step s t) : Reachable init step t

theorem Reachable.invariant {σ : Type} {init : σ → Prop} {step : σ → σ → Prop} {I : σ → Prop}
    (start : ∀ s, init s → I s) (next : ∀ s t, I s → step s t → I t) {s : σ}
    (h : Reachable init step s) : I s := by
  induction h with
  | start h => exact start _ h
  | next _ hs ih => exact next _ _ ih hs

theorem Reachable.trans {σ : Type} {init : σ → Prop} {step : σ → σ → Prop} {s t : σ} (h : Reachable init step s)
    (h' : Reachable (· = s) step t) : Reachable init step t := by
  induction h' with
  | start heq =>
    subst heq
    exact h
  | next _ hs ih => exact ih.next hs

theorem Reachable.mono {σ : Type} {init init' : σ → Prop} {step step' : σ → σ → Prop}
    (start : ∀ s, init s → init' s) (next : ∀ s t, step s t → step' s t) {s : σ}
    (h : Reachable init step s) : Reachable init' step' s := by
  induction h with
  | start h => exact .start (start _ h)
  | next _ hs ih => exact ih.next (next _ _ hs)

end AntiFlock.Effect
