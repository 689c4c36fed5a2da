import Mathlib.Data.List.Sort
import Mathlib.Data.String.Basic

set_option autoImplicit false

/-!
# Sorting by a key

A list that is sorted before it is read does not depend on the order it had, as
long as no two of its elements stand before each other.
-/
namespace AntiFlock.Go

variable {α β : Type}

theorem insertionSort_eq_of_perm {before : α → α → Prop} [DecidableRel before] [Std.Total before] [IsTrans α before]
    {as bs : List α} (hanti : ∀ a ∈ as, ∀ b ∈ as, before a b → before b a → a = b) (h : as.Perm bs) :
    as.insertionSort before = bs.insertionSort before := by
  have hperm := (List.perm_insertionSort before as).trans (h.trans (List.perm_insertionSort before bs).symm)
  refine hperm.eq_of_pairwise (fun a b ha hb => ?_) (List.pairwise_insertionSort before as)
    (List.pairwise_insertionSort before bs)
  exact hanti a ((List.mem_insertionSort before).mp ha) b (h.mem_iff.mpr ((List.mem_insertionSort before).mp hb))

section Keys

variable [LinearOrder β]

theorem total_byKey (key : α → β) : Std.Total fun a b : α => ¬ key b < key a :=
  ⟨fun a b => by simpa only [not_lt] using le_total (key a) (key b)⟩

theorem trans_byKey (key : α → β) : IsTrans α fun a b => ¬ key b < key a :=
  ⟨fun _ _ _ h h' => not_lt.mpr ((not_lt.mp h).trans (not_lt.mp h'))⟩

theorem insertionSort_byKey_eq {key : α → β} [DecidableRel fun a b : α => ¬ key b < key a] {as bs : List α}
    (hkey : ∀ a ∈ as, ∀ b ∈ as, key a = key b → a = b) (h : as.Perm bs) :
    as.insertionSort (fun a b => ¬ key b < key a) = bs.insertionSort fun a b => ¬ key b < key a := by
  have htotal := total_byKey key
  have htrans := trans_byKey key
  refine insertionSort_eq_of_perm (fun a ha b hb hab hba => ?_) h
  exact hkey a ha b hb (le_antisymm (not_lt.mp hab) (not_lt.mp hba))

theorem insertionSort_eq [DecidableRel fun a b : β => ¬ b < a] {as bs : List β} (h : as.Perm bs) :
    as.insertionSort (fun a b => ¬ b < a) = bs.insertionSort fun a b => ¬ b < a := by
  have htotal : Std.Total fun a b : β => ¬ b < a := total_byKey id
  have htrans : IsTrans β fun a b => ¬ b < a := trans_byKey id
  exact insertionSort_eq_of_perm (fun a _ b _ hab hba => le_antisymm (not_lt.mp hab) (not_lt.mp hba)) h

end Keys

end AntiFlock.Go
