import Mathlib.Data.List.Basic
import Mathlib.Tactic

set_option autoImplicit false

/-!
# Cutting an input into tokens

A lexer looks at what is left of an input and says which token it begins with.
Its look-ahead ends with the token: what stands after decides nothing. Cutting
the input off at the end of a token then leaves the tokens before as they were.
-/
namespace AntiFlock

variable {α β : Type}

def Local (f : List α → ℕ) : Prop := ∀ input n, f input ≤ n → f (input.take n) = f input

namespace Local

theorem seq {f g : List α → ℕ} (hf : Local f) (hg : Local g) :
    Local fun input => f input + g (input.drop (f input)) := by
  intro input n hn
  simp only at hn
  have hfirst : f (input.take n) = f input := hf input n (by omega)
  simp only [hfirst, List.drop_take, hg (input.drop (f input)) (n - f input) (by omega)]

end Local

/-- The length of the longest stretch of such elements at the front. -/
def span (p : α → Bool) (input : List α) : ℕ := (input.takeWhile p).length

theorem span_cons (p : α → Bool) (a : α) (input : List α) :
    span p (a :: input) = if p a then span p input + 1 else 0 := by
  by_cases ha : p a = true
  · simp [span, ha]
  · simp [span, ha]

theorem local_span (p : α → Bool) : Local (span p) := by
  intro input
  induction input with
  | nil => simp [span]
  | cons a input ih =>
    intro n hn
    rw [span_cons] at hn ⊢
    cases n with
    | zero =>
      split at hn <;> simp_all [span]
    | succ n =>
      rw [List.take_succ_cons, span_cons]
      split
      case isTrue ha =>
        rw [if_pos ha] at hn
        rw [ih n (by omega)]
      case isFalse ha => rfl

def accept (p : α → Bool) : List α → ℕ
  | [] => 0
  | a :: _ => if p a then 1 else 0

theorem local_accept (p : α → Bool) : Local (accept p) := by
  intro input n hn
  match input, n with
  | [], _ => simp
  | a :: input, 0 => exact (Nat.le_zero.mp hn).symm
  | a :: input, n + 1 => rfl

theorem span_le (p : α → Bool) (input : List α) : span p input ≤ input.length :=
  (List.takeWhile_sublist p).length_le

theorem accept_le (p : α → Bool) (input : List α) : accept p input ≤ input.length := by
  cases input with
  | nil => exact le_rfl
  | cons a input =>
    rw [accept, List.length_cons]
    split <;> omega

structure Lexer (α β : Type) where
  /-- The token a non-empty input begins with. -/
  next : List α → β
  size : β → ℕ
  size_pos : ∀ input, input ≠ [] → 0 < size (next input)
  size_le : ∀ input, input ≠ [] → size (next input) ≤ input.length
  next_take : ∀ input n, input ≠ [] → size (next input) ≤ n → next (input.take n) = next input

namespace Lexer
variable (L : Lexer α β)

theorem length_drop_lt {input : List α} (h : input ≠ []) :
    (input.drop (L.size (L.next input))).length < input.length := by
  have hpos := L.size_pos input h
  have hle := L.size_le input h
  rw [List.length_drop]
  omega

def tokens (input : List α) : List β :=
  if _h : input = [] then []
  else L.next input :: tokens (input.drop (L.size (L.next input)))
termination_by input.length
decreasing_by exact L.length_drop_lt ‹_›

def width (tokens : List β) : ℕ := (tokens.map L.size).sum

@[simp] theorem width_nil : L.width [] = 0 := rfl

@[simp] theorem width_cons (t : β) (ts : List β) : L.width (t :: ts) = L.size t + L.width ts := rfl

@[simp] theorem width_append (xs ys : List β) : L.width (xs ++ ys) = L.width xs + L.width ys := by
  simp [width]

@[simp] theorem tokens_nil : L.tokens [] = [] := by
  rw [tokens, dif_pos rfl]

theorem tokens_of_ne_nil {input : List α} (h : input ≠ []) :
    L.tokens input = L.next input :: L.tokens (input.drop (L.size (L.next input))) := by
  rw [tokens, dif_neg h]

theorem width_tokens (input : List α) : L.width (L.tokens input) = input.length := by
  induction hn : input.length using Nat.strong_induction_on generalizing input with
  | _ n ih =>
    subst hn
    by_cases h : input = []
    · rw [h, tokens_nil]
      rfl
    · have hle := L.size_le input h
      rw [L.tokens_of_ne_nil h, width_cons, ih _ (L.length_drop_lt h) _ rfl, List.length_drop]
      omega

theorem forall_tokens {P : β → Prop} (h : ∀ input, input ≠ [] → P (L.next input)) (input : List α) :
    ∀ t ∈ L.tokens input, P t := by
  induction hn : input.length using Nat.strong_induction_on generalizing input with
  | _ n ih =>
    subst hn
    by_cases hne : input = []
    · rw [hne, tokens_nil]
      exact List.forall_mem_nil P
    · rw [L.tokens_of_ne_nil hne]
      exact List.forall_mem_cons.mpr ⟨h input hne, ih _ (L.length_drop_lt hne) _ rfl⟩

theorem tokens_take (front back : List β) (input : List α) (h : L.tokens input = front ++ back) :
    L.tokens (input.take (L.width front)) = front := by
  induction front generalizing input with
  | nil => simp
  | cons t front ih =>
    have hne : input ≠ [] := by
      rintro rfl
      simp at h
    rw [L.tokens_of_ne_nil hne, List.cons_append, List.cons.injEq] at h
    obtain ⟨rfl, hrest⟩ := h
    have hpos := L.size_pos input hne
    rw [width_cons]
    -- the first token is seen in what is kept
    have hcut : input.take (L.size (L.next input) + L.width front) ≠ [] := by
      rw [Ne, List.take_eq_nil_iff]
      rintro (hzero | hnil)
      · omega
      · exact hne hnil
    rw [L.tokens_of_ne_nil hcut, L.next_take input _ hne (by omega), List.drop_take, Nat.add_sub_cancel_left,
      ih _ hrest]

end Lexer
end AntiFlock
