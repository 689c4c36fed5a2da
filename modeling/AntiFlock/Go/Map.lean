import Mathlib.Data.List.AList

set_option autoImplicit false

/-! # Go maps as association lists without duplicate keys -/
namespace AntiFlock.Go
variable {K V : Type} [DecidableEq K]

abbrev Map (K V : Type) := AList fun _ : K => V

namespace Map

theorem lookup_insert_eq_ite (k k' : K) (v : V) (m : Map K V) :
    (AList.insert k' v m).lookup k = if k = k' then some v else m.lookup k := by
  split
  case isTrue h => rw [h, AList.lookup_insert]
  case isFalse h => exact AList.lookup_insert_ne h

theorem lookup_erase_eq_ite (k k' : K) (m : Map K V) :
    (AList.erase k' m).lookup k = if k = k' then none else m.lookup k := by
  split
  case isTrue h => rw [h, AList.lookup_erase]
  case isFalse h => exact AList.lookup_erase_ne h

def values (m : Map K V) : List V := m.entries.map (·.2)

theorem mem_values {v : V} {m : Map K V} : v ∈ values m ↔ ∃ k, m.lookup k = some v := by
  simp only [values, List.mem_map]
  constructor
  · rintro ⟨⟨k, v⟩, hm, rfl⟩
    exact ⟨k, AList.mem_lookup_iff.mpr hm⟩
  · rintro ⟨k, hk⟩
    exact ⟨⟨k, v⟩, AList.mem_lookup_iff.mp hk, rfl⟩

def update (k : K) (f : V → V) (m : Map K V) : Map K V :=
  match m.lookup k with
  | none => m
  | some v => m.insert k (f v)

theorem lookup_update (k k' : K) (f : V → V) (m : Map K V) :
    (update k' f m).lookup k = if k = k' then (m.lookup k').map f else m.lookup k := by
  unfold update
  cases h : m.lookup k' with
  | none =>
    by_cases hk : k = k'
    · rw [if_pos hk, hk]
      exact h
    · rw [if_neg hk]
  | some v => exact lookup_insert_eq_ite k k' (f v) m

variable {W : Type} {R : K → V → W → Prop} {m : Map K V} {m' : Map K W}

/-- Maps with the same keys, and related values under each. -/
def Related (R : K → V → W → Prop) (m : Map K V) (m' : Map K W) : Prop :=
  ∀ k, Option.Rel (R k) (m.lookup k) (m'.lookup k)

theorem Related.empty : Related R (∅ : Map K V) (∅ : Map K W) := fun _ => .none

theorem Related.lookup (h : Related R m m') (k : K) : (m.lookup k = none ∧ m'.lookup k = none) ∨
    ∃ v w, m.lookup k = some v ∧ m'.lookup k = some w ∧ R k v w := by
  have hk := h k
  cases hm : m.lookup k with
  | none =>
    rw [hm] at hk
    cases hm' : m'.lookup k with
    | none => exact .inl ⟨rfl, rfl⟩
    | some w => rw [hm'] at hk; cases hk
  | some v =>
    rw [hm] at hk
    cases hm' : m'.lookup k with
    | none => rw [hm'] at hk; cases hk
    | some w =>
      rw [hm'] at hk
      cases hk with
      | some hvw => exact .inr ⟨v, w, rfl, rfl, hvw⟩

theorem Related.insert (h : Related R m m') {k : K} {v : V} {w : W} (hvw : R k v w) :
    Related R (m.insert k v) (m'.insert k w) := by
  intro k'
  rw [lookup_insert_eq_ite, lookup_insert_eq_ite]
  split
  case isTrue heq =>
    subst heq
    exact .some hvw
  case isFalse => exact h k'

end Map
end AntiFlock.Go
