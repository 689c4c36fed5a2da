import Mathlib.Logic.Relation

set_option autoImplicit false

/-!
# Programs that act through atomic requests

A program is a finite tree of requests to its environment. What a request does
is not part of the program: a `Handler` says which answers and which next worlds
a request may have, and in which worlds the process may be left when it dies
inside the request. Failing stores, hostile drivers, advancing clocks and
crashes are all handlers for one program text.
-/
namespace AntiFlock.Effect

/-- Atomic requests together with the type of each answer. -/
structure Sig where
  Req : Type
  Ans : Req → Type

/-- A finite tree of requests; `ret` carries the value the program returns. -/
inductive Prog (S : Sig) (α : Type) : Type where
  | ret (a : α)
  | call (q : S.Req) (k : S.Ans q → Prog S α)

namespace Prog
variable {S : Sig} {α β γ : Type}

def bind : Prog S α → (α → Prog S β) → Prog S β
  | .ret a, f => f a
  | .call q k, f => .call q fun r => (k r).bind f

instance : Monad (Prog S) where
  pure := .ret
  bind := .bind

/-- The program that makes one request and returns its answer. -/
def perform (q : S.Req) : Prog S (S.Ans q) := .call q .ret

@[simp] theorem pure_eq (a : α) : (pure a : Prog S α) = .ret a := rfl
@[simp] theorem bind_eq (p : Prog S α) (f : α → Prog S β) : (p >>= f) = p.bind f := rfl
@[simp] theorem ret_bind (a : α) (f : α → Prog S β) : (Prog.ret a).bind f = f a := rfl
@[simp] theorem call_bind (q : S.Req) (k : S.Ans q → Prog S α) (f : α → Prog S β) :
    (Prog.call q k).bind f = .call q fun r => (k r).bind f := rfl
@[simp] theorem perform_bind (q : S.Req) (f : S.Ans q → Prog S β) :
    (perform q).bind f = .call q f := rfl

theorem bind_assoc (p : Prog S α) (f : α → Prog S β) (g : β → Prog S γ) :
    (p.bind f).bind g = p.bind fun a => (f a).bind g := by
  induction p with
  | ret a => rfl
  | call q k ih =>
    simp only [call_bind]
    congr 1
    funext r
    exact ih r

/-- Every request the program can make satisfies `P`. -/
def Only (P : S.Req → Prop) : Prog S α → Prop
  | .ret _ => True
  | .call q k => P q ∧ ∀ r, (k r).Only P

variable {P : S.Req → Prop}

theorem Only.ret (a : α) : (Prog.ret a : Prog S α).Only P := trivial

theorem Only.perform {q : S.Req} (h : P q) : (Prog.perform q).Only P := ⟨h, fun _ => trivial⟩

theorem Only.bind {p : Prog S α} {f : α → Prog S β} (hp : p.Only P) (hf : ∀ a, (f a).Only P) :
    (p.bind f).Only P := by
  induction p with
  | ret a => exact hf a
  | call q k ih => exact ⟨hp.1, fun r => ih r (hp.2 r)⟩

theorem Only.except {ε : Type} {p : ExceptT ε (Prog S) α} {f : α → ExceptT ε (Prog S) β}
    (hp : p.run.Only P) (hf : ∀ a, (f a).run.Only P) : (p >>= f).run.Only P := by
  refine hp.bind fun r => ?_
  cases r with
  | ok a => exact hf a
  | error err => exact .ret _

end Prog

/-- What a request may do to a world `W`. `torn q w w'` says that a process that
dies inside `q` may leave `w'`; dying between requests is always possible and
leaves the world as it is. -/
structure Handler (S : Sig) (W : Type) where
  step : (q : S.Req) → W → S.Ans q → W → Prop
  torn : S.Req → W → W → Prop

/-- Executions of a program. The outcome is `none` when the process died. -/
inductive Exec {S : Sig} {W : Type} (H : Handler S W) {α : Type} :
    Prog S α → W → Option α → W → Prop where
  | ret (a : α) (w : W) : Exec H (.ret a) w (some a) w
  | died (p : Prog S α) (w : W) : Exec H p w none w
  | torn {q : S.Req} {k : S.Ans q → Prog S α} {w w' : W} (h : H.torn q w w') :
      Exec H (.call q k) w none w'
  | call {q : S.Req} {k : S.Ans q → Prog S α} {w w' w'' : W} {r : S.Ans q} {o : Option α}
      (h : H.step q w r w') (tail : Exec H (k r) w' o w'') : Exec H (.call q k) w o w''

theorem Exec.bind {S : Sig} {W α β : Type} {H : Handler S W} {p : Prog S α} {f : α → Prog S β} {w w' w'' : W} {a : α}
    {o : Option β} (h : Exec H p w (some a) w') (hf : Exec H (f a) w' o w'') : Exec H (p.bind f) w o w'' := by
  generalize hr : some a = r at h
  induction h with
  | ret b w =>
    cases hr
    exact hf
  | died p w => cases hr
  | torn ht => cases hr
  | call hs _ ih => exact .call hs (ih hf hr)

theorem Exec.of_bind {S : Sig} {W α β : Type} {H : Handler S W} {p : Prog S α} {f : α → Prog S β} {w w' : W} {b : β}
    (h : Exec H (p.bind f) w (some b) w') : ∃ a w₁, Exec H p w (some a) w₁ ∧ Exec H (f a) w₁ (some b) w' := by
  induction p generalizing w with
  | ret a => exact ⟨a, w, .ret a w, h⟩
  | call q k ih =>
    cases h with
    | call hs tail =>
      obtain ⟨a, w₁, hp, hf⟩ := ih _ tail
      exact ⟨a, w₁, .call hs hp, hf⟩

theorem Exec.of_except {S : Sig} {W α β ε : Type} {H : Handler S W} {p : ExceptT ε (Prog S) α}
    {f : α → ExceptT ε (Prog S) β} {w w' : W} {r : Except ε β} (h : Exec H (p >>= f).run w (some r) w') :
    (∃ a w₁, Exec H p.run w (some (.ok a)) w₁ ∧ Exec H (f a).run w₁ (some r) w') ∨
      ∃ err, Exec H p.run w (some (.error err)) w' ∧ r = .error err := by
  obtain ⟨a, w₁, hp, hf⟩ := Exec.of_bind (f := ExceptT.bindCont f) h
  cases a with
  | ok a => exact .inl ⟨a, w₁, hp, hf⟩
  | error err =>
    cases hf
    exact .inr ⟨err, hp, rfl⟩

def Prog.run {S : Sig} {W α : Type} (f : (q : S.Req) → W → S.Ans q × W) : Prog S α → W → α × W
  | .ret a, w => (a, w)
  | .call q k, w => (k (f q w).1).run f (f q w).2

theorem Prog.run_bind {S : Sig} {W α β : Type} (f : (q : S.Req) → W → S.Ans q × W) (p : Prog S α)
    (g : α → Prog S β) (w : W) : (p.bind g).run f w = (g (p.run f w).1).run f (p.run f w).2 := by
  induction p generalizing w with
  | ret a => rfl
  | call q k ih => exact ih _ _

theorem Prog.exec_run_of {S : Sig} {W α : Type} {H : Handler S W} {I : W → Prop}
    {f : (q : S.Req) → W → S.Ans q × W}
    (h : ∀ q w, I w → H.step q w (f q w).1 (f q w).2 ∧ I (f q w).2) (p : Prog S α) (w : W) (hw : I w) :
    Exec H p w (some (p.run f w).1) (p.run f w).2 ∧ I (p.run f w).2 := by
  induction p generalizing w with
  | ret a => exact ⟨.ret a w, hw⟩
  | call q k ih =>
    obtain ⟨hstep, hw'⟩ := h q w hw
    obtain ⟨htail, hend⟩ := ih _ _ hw'
    exact ⟨.call hstep htail, hend⟩

theorem Prog.exec_run {S : Sig} {W α : Type} {H : Handler S W} {f : (q : S.Req) → W → S.Ans q × W}
    (h : ∀ q w, H.step q w (f q w).1 (f q w).2) (p : Prog S α) (w : W) :
    Exec H p w (some (p.run f w).1) (p.run f w).2 :=
  (exec_run_of (I := fun _ => True) (fun q w _ => ⟨h q w, trivial⟩) p w trivial).1

/-- Evaluation that stops after `n` requests. -/
def Prog.cut {S : Sig} {W α : Type} (f : (q : S.Req) → W → S.Ans q × W) : Nat → Prog S α → W → W
  | 0, _, w => w
  | _ + 1, .ret _, w => w
  | n + 1, .call q k, w => (k (f q w).1).cut f n (f q w).2

theorem Prog.exec_cut {S : Sig} {W α : Type} {H : Handler S W} {f : (q : S.Req) → W → S.Ans q × W}
    (h : ∀ q w, H.step q w (f q w).1 (f q w).2) (n : Nat) (p : Prog S α) (w : W) :
    Exec H p w none (p.cut f n w) := by
  induction n generalizing p w with
  | zero => exact .died p w
  | succ n ih =>
    cases p with
    | ret a => exact .died _ w
    | call q k => exact .call (h q w) (ih _ _)

/-- Requests answered by programs over another interface. -/
def Handler.implement {S T : Sig} {W : Type} (H : Handler T W)
    (impl : (q : S.Req) → Prog T (S.Ans q)) : Handler S W where
  step q w r w' := Exec H (impl q) w (some r) w'
  torn q w w' := Exec H (impl q) w none w'

end AntiFlock.Effect
