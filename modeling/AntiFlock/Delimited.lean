import Mathlib.Data.List.Basic

set_option autoImplicit false

/-!
# Texts that end by themselves

A text is delimited if what stands behind it can be told from it. Delimited texts may be
written one after the other, or joined by a separator, and read back.
-/
namespace AntiFlock.Delimited
variable {α χ : Type} {f : α → List χ}

def Delimits (f : α → List χ) : Prop := ∀ (a b : α) (x y : List χ), f a ++ x = f b ++ y → a = b ∧ x = y

theorem Delimits.read (h : Delimits f) {a b : α} {x y : List χ} (heq : f a ++ x = f b ++ y) : a = b ∧ x = y :=
  h a b x y heq

/-- It suffices that no text continues another. -/
theorem Delimits.of_continues (h : ∀ a b x, f b = f a ++ x → a = b) : Delimits f := by
  intro a b x y hxy
  obtain rfl : a = b := by
    rcases List.append_eq_append_iff.mp hxy with ⟨z, hb, -⟩ | ⟨z, ha, -⟩
    · exact h a b z hb
    · exact (h b a z ha).symm
  exact ⟨rfl, List.append_cancel_left hxy⟩

theorem intercalate_cons (sep : List χ) (text : List χ) (texts : List (List χ)) :
    sep.intercalate (text :: texts) = text ++ texts.flatMap (sep ++ ·) := by
  induction texts generalizing text with
  | nil => simp [List.intercalate_singleton]
  | cons next texts ih =>
    rw [List.intercalate_cons_cons, ih, List.flatMap_cons]
    simp only [List.append_assoc]

theorem Delimits.flatMap_inj (h : Delimits f) {sep : List χ} (hsep : sep ≠ []) {as bs : List α}
    (heq : as.flatMap (fun a => sep ++ f a) = bs.flatMap fun b => sep ++ f b) : as = bs := by
  induction as generalizing bs with
  | nil =>
    cases bs with
    | nil => rfl
    | cons b bs => exact absurd heq.symm (by simp [hsep])
  | cons a as ih =>
    cases bs with
    | nil => exact absurd heq (by simp [hsep])
    | cons b bs =>
      simp only [List.flatMap_cons, List.append_assoc] at heq
      obtain ⟨rfl, hrest⟩ := h.read (List.append_cancel_left heq)
      rw [ih hrest]

theorem Delimits.intercalate_inj (h : Delimits f) (hne : ∀ a, f a ≠ []) {sep : List χ} (hsep : sep ≠ []) {as bs : List α}
    (heq : sep.intercalate (as.map f) = sep.intercalate (bs.map f)) : as = bs := by
  cases as with
  | nil =>
    cases bs with
    | nil => rfl
    | cons b bs => exact absurd heq.symm (by simp [intercalate_cons, hne])
  | cons a as =>
    cases bs with
    | nil => exact absurd heq (by simp [intercalate_cons, hne])
    | cons b bs =>
      simp only [List.map_cons, intercalate_cons, List.flatMap_map] at heq
      obtain ⟨rfl, hrest⟩ := h.read heq
      rw [h.flatMap_inj hsep hrest]

end AntiFlock.Delimited
