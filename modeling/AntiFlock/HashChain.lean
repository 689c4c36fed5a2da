import Mathlib.Data.List.Induction
import Mathlib.Data.List.Forall2

set_option autoImplicit false

/-!
# Chains of hashes

Each element of a chain names the hash of the one before it. Where a hash
determines what it is taken of, the last hash of a chain determines the chain.
-/
namespace AntiFlock.HashChain
variable {E H : Type} {previous hash : E → H}

/-- Each element names the hash before it, the first one the root. -/
def Linked (previous hash : E → H) : H → List E → Prop
  | _, [] => True
  | root, e :: es => previous e = root ∧ Linked previous hash (hash e) es

def tip (hash : E → H) (root : H) (es : List E) : H := (es.getLast?.map hash).getD root

theorem tip_cons (root : H) (e : E) (es : List E) : tip hash root (e :: es) = tip hash (hash e) es := by
  cases es with
  | nil => rfl
  | cons e' es => simp [tip, List.getLast?_cons]

theorem tip_concat (root : H) (es : List E) (e : E) : tip hash root (es ++ [e]) = hash e := by
  simp [tip]

theorem linked_append {root : H} {es es' : List E} : Linked previous hash root (es ++ es') ↔
    Linked previous hash root es ∧ Linked previous hash (tip hash root es) es' := by
  induction es generalizing root with
  | nil => simp [Linked, tip]
  | cons e es ih => rw [List.cons_append, Linked, Linked, ih, tip_cons, and_assoc]

theorem tip_cases {R : H → H → Prop} {root : H} {es es' : List E} (hlength : es.length = es'.length)
    (hroot : R root root) (hhash : ∀ e ∈ es, ∀ e' ∈ es', R (hash e) (hash e')) :
    R (tip hash root es) (tip hash root es') := by
  rcases List.eq_nil_or_concat es with rfl | ⟨front, e, rfl⟩
  · rw [List.eq_nil_of_length_eq_zero hlength.symm]
    exact hroot
  · rcases List.eq_nil_or_concat es' with rfl | ⟨front', e', rfl⟩
    · simp at hlength
    · rw [List.concat_eq_append, List.concat_eq_append] at hhash
      rw [List.concat_eq_append, List.concat_eq_append, tip_concat, tip_concat]
      exact hhash e (by simp) e' (by simp)

theorem Linked.agree {same : E → E → Prop} {R : H → H → Prop} {root : H} {es es' : List E}
    (h : Linked previous hash root es) (h' : Linked previous hash root es') (hlength : es.length = es'.length)
    (htip : tip hash root es = tip hash root es') (hroot : R root root)
    (hhash : ∀ e ∈ es, ∀ e' ∈ es', R (hash e) (hash e'))
    (hsame : ∀ e ∈ es, ∀ e' ∈ es', hash e = hash e' → R (previous e) (previous e') →
      same e e' ∧ previous e = previous e') : List.Forall₂ same es es' := by
  induction es using List.reverseRecOn generalizing es' with
  | nil =>
    rw [List.eq_nil_of_length_eq_zero hlength.symm]
    exact .nil
  | append_singleton es e ih =>
    rcases List.eq_nil_or_concat es' with rfl | ⟨es', e', rfl⟩
    · simp at hlength
    rw [List.concat_eq_append] at *
    obtain ⟨hes, hlast, -⟩ := linked_append.mp h
    obtain ⟨hes', hlast', -⟩ := linked_append.mp h'
    have hlength' : es.length = es'.length := by simpa using hlength
    rw [tip_concat, tip_concat] at htip
    have hfront : ∀ a ∈ es, ∀ a' ∈ es', R (hash a) (hash a') :=
      fun a ha a' ha' => hhash a (List.mem_append_left _ ha) a' (List.mem_append_left _ ha')
    have halike : R (previous e) (previous e') := by
      rw [hlast, hlast']
      exact tip_cases hlength' hroot hfront
    obtain ⟨hee, hlinks⟩ := hsame e (by simp) e' (by simp) htip halike
    rw [hlast, hlast'] at hlinks
    have hrest := ih hes hes' hlength' hlinks hfront
      fun a ha a' ha' => hsame a (List.mem_append_left _ ha) a' (List.mem_append_left _ ha')
    exact List.rel_append hrest (.cons hee .nil)

end AntiFlock.HashChain
