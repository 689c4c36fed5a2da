import Mathlib.Data.List.Basic

set_option autoImplicit false

/-!
# Objects that answer calls one after the other

Two such objects answer alike on every list of calls once a relation between
their states makes each single answer alike and survives each single call.
-/
namespace AntiFlock.Effect
variable {σ τ ι α β : Type}

def answers (step : σ → ι → α × σ) : σ → List ι → List α
  | _, [] => []
  | s, call :: calls => (step s call).1 :: answers step (step s call).2 calls

def final (step : σ → ι → α × σ) (s : σ) (calls : List ι) : σ := calls.foldl (fun s call => (step s call).2) s

/-- Every call of the list meets `P` in the state it finds. -/
def Along (step : σ → ι → α × σ) (P : σ → ι → Prop) : σ → List ι → Prop
  | _, [] => True
  | s, call :: calls => P s call ∧ Along step P (step s call).2 calls

variable {step : σ → ι → α × σ} {step' : τ → ι → β × τ} {P : σ → ι → Prop}

theorem answers_alike {R : σ → τ → Prop} {E : α → β → Prop}
    (h : ∀ s t call, R s t → P s call →
      E (step s call).1 (step' t call).1 ∧ R (step s call).2 (step' t call).2)
    {s : σ} {t : τ} (hst : R s t) {calls : List ι} (hcalls : Along step P s calls) :
    List.Forall₂ E (answers step s calls) (answers step' t calls) := by
  induction calls generalizing s t with
  | nil => exact .nil
  | cons call calls ih =>
    obtain ⟨hanswer, hstate⟩ := h s t call hst hcalls.1
    exact .cons hanswer (ih hstate hcalls.2)

end AntiFlock.Effect
