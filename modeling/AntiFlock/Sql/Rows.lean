import Mathlib.Data.List.Nodup

set_option autoImplicit false

/-!
# Rows of a table

A table that is only appended to and updated in place keeps its rows, as what they
may become. A column is unique if no two rows agree in it.
-/
namespace AntiFlock.Sql
variable {α β : Type}

/-- Every row is still there, as something it may become. -/
def Kept (R : α → α → Prop) (rows rows' : List α) : Prop := ∀ row ∈ rows, ∃ row' ∈ rows', R row row'

section Kept
variable {R : α → α → Prop} {rows rows' rows'' : List α}

theorem Kept.refl (hrefl : ∀ row, R row row) (rows : List α) : Kept R rows rows :=
  fun row hrow => ⟨row, hrow, hrefl row⟩

theorem Kept.trans (htrans : ∀ {a b c}, R a b → R b c → R a c) (h : Kept R rows rows') (h' : Kept R rows' rows'') :
    Kept R rows rows'' := by
  intro row hrow
  obtain ⟨row', hrow', hstep⟩ := h row hrow
  obtain ⟨row'', hrow'', hstep'⟩ := h' row' hrow'
  exact ⟨row'', hrow'', htrans hstep hstep'⟩

theorem Kept.append (hrefl : ∀ row, R row row) (rows more : List α) : Kept R rows (rows ++ more) :=
  fun row hrow => ⟨row, List.mem_append_left more hrow, hrefl row⟩

theorem Kept.map {f : α → α} (h : ∀ row ∈ rows, R row (f row)) : Kept R rows (rows.map f) :=
  fun row hrow => ⟨f row, List.mem_map_of_mem hrow, h row hrow⟩

end Kept

abbrev UniqueBy (key : α → β) (rows : List α) : Prop := (rows.map key).Nodup

section UniqueBy
variable {key : α → β} {rows : List α}

theorem UniqueBy.eq (h : UniqueBy key rows) {a b : α} (ha : a ∈ rows) (hb : b ∈ rows) (hkey : key a = key b) : a = b :=
  List.inj_on_of_nodup_map h ha hb hkey

theorem UniqueBy.append (h : UniqueBy key rows) {new : α} (hnew : ∀ row ∈ rows, key row ≠ key new) :
    UniqueBy key (rows ++ [new]) := by
  unfold UniqueBy
  rw [List.map_append, List.map_singleton, ← List.concat_eq_append]
  refine h.concat fun hmem => ?_
  obtain ⟨row, hrow, hkey⟩ := List.mem_map.mp hmem
  exact hnew row hrow hkey

theorem UniqueBy.map (h : UniqueBy key rows) {f : α → α} (hf : ∀ row, key (f row) = key row) : UniqueBy key (rows.map f) := by
  unfold UniqueBy
  rw [List.map_map, show key ∘ f = key from funext hf]
  exact h

end UniqueBy

theorem of_find {p : α → Prop} [DecidablePred p] {rows : List α} {row : α}
    (h : rows.find? (fun row => decide (p row)) = some row) : row ∈ rows ∧ p row := by
  have hp := List.find?_some h
  exact ⟨List.mem_of_find?_eq_some h, of_decide_eq_true hp⟩

theorem UniqueBy.find [DecidableEq β] {key : α → β} {rows : List α} (h : UniqueBy key rows) {row : α} {k : β}
    (hrow : row ∈ rows) (hkey : key row = k) : rows.find? (fun row => key row = k) = some row := by
  cases hfind : rows.find? (fun row => key row = k) with
  | none => exact absurd hkey (by simpa using List.find?_eq_none.mp hfind row hrow)
  | some found =>
    obtain ⟨hfound, hsame⟩ := of_find hfind
    rw [h.eq hfound hrow (hsame.trans hkey.symm)]

end AntiFlock.Sql
