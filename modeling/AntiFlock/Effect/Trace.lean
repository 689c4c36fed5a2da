import AntiFlock.Effect.Prog
import Mathlib.Data.List.Basic

set_option autoImplicit false

/-!
# What a program asks until it returns

`Returns p t a` says that `p` returns `a` once its requests were answered as `t` has them.
Every answer of the interface is possible, so what holds of all traces holds in every
environment. `whileOk` is the loop that stops behind the first step that is not well.
-/
namespace AntiFlock.Effect
variable {S : Sig} {α β γ : Type}

/-- The answered requests of a run, oldest first. -/
abbrev Trace (S : Sig) := List ((q : S.Req) × S.Ans q)

inductive Returns : Prog S α → Trace S → α → Prop where
  | ret (a : α) : Returns (.ret a) [] a
  | call {q : S.Req} {k : S.Ans q → Prog S α} {r : S.Ans q} {t : Trace S} {a : α} (tail : Returns (k r) t a) :
      Returns (.call q k) (⟨q, r⟩ :: t) a

theorem Returns.of_ret {a b : α} {t : Trace S} (h : Returns (.ret a) t b) : t = [] ∧ b = a := by
  cases h
  exact ⟨rfl, rfl⟩

theorem Returns.of_call {q : S.Req} {k : S.Ans q → Prog S α} {t : Trace S} {a : α} (h : Returns (.call q k) t a) :
    ∃ r t', t = ⟨q, r⟩ :: t' ∧ Returns (k r) t' a := by
  cases h with
  | call tail => exact ⟨_, _, rfl, tail⟩

theorem Returns.of_bind {p : Prog S α} {f : α → Prog S β} {t : Trace S} {b : β} (h : Returns (p.bind f) t b) :
    ∃ a t₁ t₂, t = t₁ ++ t₂ ∧ Returns p t₁ a ∧ Returns (f a) t₂ b := by
  induction p generalizing t with
  | ret a => exact ⟨a, [], t, rfl, .ret a, h⟩
  | call q k ih =>
    obtain ⟨r, t', rfl, htail⟩ := h.of_call
    obtain ⟨a, t₁, t₂, rfl, hp, hf⟩ := ih r htail
    exact ⟨a, ⟨q, r⟩ :: t₁, t₂, rfl, .call hp, hf⟩

/-- The trace and the value for answers that depend on the request alone. -/
def Prog.follow (f : (q : S.Req) → S.Ans q) : Prog S α → Trace S × α
  | .ret a => ([], a)
  | .call q k => (⟨q, f q⟩ :: ((k (f q)).follow f).1, ((k (f q)).follow f).2)

theorem returns_follow (f : (q : S.Req) → S.Ans q) (p : Prog S α) : Returns p (p.follow f).1 (p.follow f).2 := by
  induction p with
  | ret a => exact .ret a
  | call q k ih => exact .call (ih (f q))

/-! ## Steps until one fails -/

def Prog.whileOk (step : β → Prog S α) (ok : β × α → Bool) : List β → Prog S (List (β × α))
  | [] => .ret []
  | b :: bs => (step b).bind fun a =>
    if ok (b, a) then (whileOk step ok bs).bind fun run => .ret ((b, a) :: run) else .ret [(b, a)]

/-- The steps that were made of those planned: up to the first that is not well, or all. -/
structure Attempts (ok : β × α → Bool) (planned : List β) (run : List (β × α)) : Prop where
  inOrder : run.map Prod.fst <+: planned
  stops : ∀ x ∈ run.dropLast, ok x = true
  complete : run.all ok = true → run.map Prod.fst = planned

theorem Attempts.nil (ok : β × α → Bool) : Attempts ok [] [] where
  inOrder := List.prefix_refl []
  stops := by simp
  complete _ := rfl

theorem Attempts.failed {ok : β × α → Bool} {b : β} {a : α} (planned : List β) (h : ok (b, a) = false) :
    Attempts ok (b :: planned) [(b, a)] where
  inOrder := ⟨planned, rfl⟩
  stops := by simp
  complete hall := by simp [h] at hall

theorem Attempts.cons {ok : β × α → Bool} {b : β} {a : α} {planned : List β} {run : List (β × α)} (h : ok (b, a) = true)
    (hrun : Attempts ok planned run) : Attempts ok (b :: planned) ((b, a) :: run) where
  inOrder := List.prefix_cons_inj b |>.mpr hrun.inOrder
  stops := by
    cases run with
    | nil => simp
    | cons x run =>
      intro y hy
      rcases List.mem_cons.mp hy with rfl | hy
      · exact h
      · exact hrun.stops y hy
  complete hall := by
    rw [List.map_cons, hrun.complete (by simpa [h] using hall)]

/-- The trace of the loop is that of its steps, of which each makes one request. -/
theorem Returns.of_whileOk {step : β → Prog S α} {ok : β × α → Bool} {planned : List β} {t : Trace S}
    {run : List (β × α)} {entry : β × α → (q : S.Req) × S.Ans q}
    (hstep : ∀ b t a, Returns (step b) t a → t = [entry (b, a)]) (h : Returns (Prog.whileOk step ok planned) t run) :
    t = run.map entry ∧ Attempts ok planned run := by
  induction planned generalizing t run with
  | nil =>
    obtain ⟨rfl, rfl⟩ := h.of_ret
    exact ⟨rfl, .nil ok⟩
  | cons b planned ih =>
    obtain ⟨a, t₁, t₂, rfl, hfirst, hrest⟩ := h.of_bind
    have hentry := hstep b t₁ a hfirst
    subst hentry
    by_cases hok : ok (b, a) = true
    · rw [if_pos hok] at hrest
      obtain ⟨rest, t₃, t₄, rfl, hloop, hret⟩ := hrest.of_bind
      obtain ⟨rfl, rfl⟩ := hret.of_ret
      obtain ⟨rfl, hattempts⟩ := ih hloop
      exact ⟨by simp, hattempts.cons hok⟩
    · rw [if_neg hok] at hrest
      obtain ⟨rfl, rfl⟩ := hrest.of_ret
      exact ⟨rfl, .failed planned (by simpa using hok)⟩

end AntiFlock.Effect
