import Mathlib.Data.List.Induction

set_option autoImplicit false

/-!
# Histories of a component

A component answers one call after another. `run` gives the history of a list of
calls, with the state before and behind each, and the state in the end.
-/
namespace AntiFlock.History
variable {σ γ α : Type}

structure Entry (σ γ α : Type) where
  before : σ
  call : γ
  answer : α
  after : σ

def entry (step : σ → γ → α × σ) (state : σ) (call : γ) : Entry σ γ α :=
  ⟨state, call, (step state call).1, (step state call).2⟩

def run (step : σ → γ → α × σ) (start : σ) (calls : List γ) : List (Entry σ γ α) × σ :=
  calls.foldl (fun past call => (past.1 ++ [entry step past.2 call], (step past.2 call).2)) ([], start)

variable {step : σ → γ → α × σ} {start : σ}

theorem run_concat (calls : List γ) (call : γ) : run step start (calls ++ [call]) =
    ((run step start calls).1 ++ [entry step (run step start calls).2 call], (step (run step start calls).2 call).2) := by
  simp [run]

/-- What holds at the start and is kept by each call holds of every history. -/
theorem run_induction {P : List (Entry σ γ α) → σ → Prop} (hstart : P [] start)
    (hstep : ∀ past state call, P past state → P (past ++ [entry step state call]) (step state call).2)
    (calls : List γ) : P (run step start calls).1 (run step start calls).2 := by
  induction calls using List.reverseRecOn with
  | nil => exact hstart
  | append_singleton calls call ih =>
    rw [run_concat]
    exact hstep _ _ call ih

/-- Each entry of a history is a step, made behind a history of its own. -/
theorem run_split {calls : List γ} {past rest : List (Entry σ γ α)} {e : Entry σ γ α}
    (h : (run step start calls).1 = past ++ e :: rest) :
    ∃ earlier, run step start earlier = (past, e.before) ∧ step e.before e.call = (e.answer, e.after) := by
  induction calls using List.reverseRecOn generalizing rest with
  | nil => exact absurd h (by simp [run])
  | append_singleton calls call ih =>
    rw [run_concat] at h
    rcases List.eq_nil_or_concat rest with rfl | ⟨rest, last, rfl⟩
    · obtain ⟨hpast, hentry⟩ := List.append_inj' h rfl
      cases hentry
      exact ⟨calls, by rw [← hpast]; rfl, rfl⟩
    · rw [List.concat_eq_append, ← List.cons_append, ← List.append_assoc] at h
      exact ih (List.append_inj' h rfl).1

end AntiFlock.History
