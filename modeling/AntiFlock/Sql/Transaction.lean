import Mathlib.Data.Nat.Notation

set_option autoImplicit false

/-!
# Atomic transactions

A transaction is a state-passing computation that may fail. Committing it either
installs the state it ends in or, if it fails, leaves the state it started from.
-/
namespace AntiFlock.Sql
variable {σ ε α β : Type}

abbrev Tx (σ ε α : Type) := StateT σ (Except ε) α

namespace Tx

def require (condition : Prop) [Decidable condition] (err : ε) : Tx σ ε Unit :=
  if condition then pure () else throw err

def commit (tx : Tx σ ε α) (s : σ) : Except ε α × σ :=
  match tx.run s with
  | .ok (a, s') => (.ok a, s')
  | .error err => (.error err, s)

def Does (tx : Tx σ ε α) (s : σ) (a : α) (s' : σ) : Prop := tx.run s = .ok (a, s')

theorem commit_of_does {tx : Tx σ ε α} {s s' : σ} {a : α} (h : tx.Does s a s') :
    tx.commit s = (.ok a, s') := by
  have hrun : tx.run s = .ok (a, s') := h
  simp only [commit, hrun]

theorem does_of_commit {tx : Tx σ ε α} {s : σ} {a : α} (h : (tx.commit s).1 = .ok a) :
    tx.Does s a (tx.commit s).2 := by
  unfold commit at h ⊢
  cases hrun : tx.run s with
  | error err =>
    rw [hrun] at h
    cases h
  | ok r =>
    rw [hrun] at h
    cases h
    exact hrun

theorem commit_error {tx : Tx σ ε α} {s : σ} {err : ε} (h : (tx.commit s).1 = .error err) :
    (tx.commit s).2 = s := by
  unfold commit at h ⊢
  cases hrun : tx.run s with
  | error _ => rfl
  | ok r =>
    rw [hrun] at h
    cases h

theorem commit_cases (tx : Tx σ ε α) (s : σ) :
    (∃ err, tx.commit s = (.error err, s)) ∨ ∃ a s', tx.Does s a s' ∧ tx.commit s = (.ok a, s') := by
  cases hrun : tx.run s with
  | error err => exact .inl ⟨err, by simp only [commit, hrun]⟩
  | ok r => exact .inr ⟨r.1, r.2, hrun, by simp only [commit, hrun]⟩

section Does
variable {s s' s'' : σ} {a a' : α} {b : β} {err : ε}

theorem does_pure : (pure a : Tx σ ε α).Does s a' s' ↔ a' = a ∧ s' = s := by
  constructor
  · intro h
    cases h
    exact ⟨rfl, rfl⟩
  · rintro ⟨rfl, rfl⟩
    rfl

theorem does_bind {tx : Tx σ ε α} {f : α → Tx σ ε β} :
    (tx >>= f).Does s b s'' ↔ ∃ a s', tx.Does s a s' ∧ (f a).Does s' b s'' := by
  unfold Does
  rw [StateT.run_bind]
  constructor
  · intro h
    cases hrun : tx.run s with
    | error err =>
      rw [hrun] at h
      cases h
    | ok r =>
      rw [hrun] at h
      exact ⟨r.1, r.2, rfl, h⟩
  · rintro ⟨a, s', htx, hf⟩
    rw [htx]
    exact hf

theorem does_throw : ¬ (throw err : Tx σ ε α).Does s a s' := nofun

theorem does_get {r : σ} : (get : Tx σ ε σ).Does s r s' ↔ r = s ∧ s' = s := by
  constructor
  · intro h
    cases h
    exact ⟨rfl, rfl⟩
  · rintro ⟨rfl, rfl⟩
    rfl

theorem does_get_bind {f : σ → Tx σ ε β} : (get >>= f).Does s b s' ↔ (f s).Does s b s' := Iff.rfl

theorem does_modify {f : σ → σ} {u : Unit} : (modify f : Tx σ ε Unit).Does s u s' ↔ s' = f s := by
  constructor
  · intro h
    cases h
    rfl
  · rintro rfl
    rfl

theorem does_require {condition : Prop} [Decidable condition] {u : Unit} :
    (require condition err : Tx σ ε Unit).Does s u s' ↔ condition ∧ s' = s := by
  unfold require
  split
  · rw [does_pure]
    simp [*]
  · simp [*, does_throw]

theorem does_lift {r : Except ε α} : (liftM r : Tx σ ε α).Does s a s' ↔ r = .ok a ∧ s' = s := by
  cases r with
  | error err =>
    constructor
    · nofun
    · rintro ⟨h, -⟩
      cases h
  | ok b =>
    constructor
    · intro h
      cases h
      exact ⟨rfl, rfl⟩
    · rintro ⟨h, rfl⟩
      cases h
      rfl

end Does

def Fails (tx : Tx σ ε α) (s : σ) (err : ε) : Prop := tx.run s = .error err

theorem fails_of_commit {tx : Tx σ ε α} {s : σ} {err : ε} (h : (tx.commit s).1 = .error err) : tx.Fails s err := by
  unfold commit at h
  unfold Fails
  cases hrun : tx.run s with
  | error err =>
    rw [hrun] at h
    cases h
    rfl
  | ok r =>
    rw [hrun] at h
    cases h

section Fails
variable {s s' : σ} {err err' : ε}

theorem fails_bind {tx : Tx σ ε α} {f : α → Tx σ ε β} :
    (tx >>= f).Fails s err ↔ tx.Fails s err ∨ ∃ a s', tx.Does s a s' ∧ (f a).Fails s' err := by
  unfold Fails Does
  rw [StateT.run_bind]
  cases tx.run s with
  | error err' =>
    constructor
    · intro h
      cases h
      exact .inl rfl
    · rintro (h | ⟨a, s', h, -⟩)
      · cases h
        rfl
      · cases h
  | ok r =>
    constructor
    · intro h
      exact .inr ⟨r.1, r.2, rfl, h⟩
    · rintro (h | ⟨a, s', h, hf⟩)
      · cases h
      · cases h
        exact hf

theorem fails_throw : (throw err : Tx σ ε α).Fails s err' ↔ err' = err := by
  constructor
  · intro h
    cases h
    rfl
  · rintro rfl
    rfl

theorem fails_get_bind {f : σ → Tx σ ε β} : (get >>= f).Fails s err ↔ (f s).Fails s err := Iff.rfl

theorem fails_get : ¬ (get : Tx σ ε σ).Fails s err := by
  intro h
  cases h

theorem fails_modify {f : σ → σ} : ¬ (modify f : Tx σ ε Unit).Fails s err := by
  intro h
  cases h

theorem fails_require {condition : Prop} [Decidable condition] :
    (require condition err : Tx σ ε Unit).Fails s err' ↔ ¬ condition ∧ err' = err := by
  unfold require
  split
  · rename_i hcondition
    constructor
    · intro h
      cases h
    · exact fun h => absurd hcondition h.1
  · rename_i hcondition
    rw [fails_throw, and_iff_right hcondition]

theorem fails_lift {r : Except ε α} : (liftM r : Tx σ ε α).Fails s err ↔ r = .error err := by
  cases r with
  | error err' =>
    constructor
    · intro h
      cases h
      rfl
    · intro h
      cases h
      rfl
  | ok a =>
    constructor
    · intro h
      cases h
    · intro h
      cases h

end Fails
end Tx
end AntiFlock.Sql
