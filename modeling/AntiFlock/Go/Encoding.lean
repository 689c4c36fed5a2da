import AntiFlock.Go.Json
import Mathlib.Data.Nat.Digits.Defs

set_option autoImplicit false

/-! # Hex digits, numerals, base64 and lists inside JSON texts -/
namespace AntiFlock.Go

def base64Alphabet : List Char :=
  "ABCDEFGHIJKLMNOPQRSTUVWXYZabcdefghijklmnopqrstuvwxyz0123456789+/".toList

def sextet (n : ℕ) : Char := base64Alphabet.getD n 'A'

/-- `base64.RawStdEncoding.EncodeToString`. -/
def rawBase64 : List UInt8 → List Char
  | [] => []
  | [a] => [sextet (a.toNat / 4), sextet (a.toNat % 4 * 16)]
  | [a, b] => [sextet (a.toNat / 4), sextet (a.toNat % 4 * 16 + b.toNat / 16), sextet (b.toNat % 16 * 4)]
  | a :: b :: c :: rest =>
    sextet (a.toNat / 4) :: sextet (a.toNat % 4 * 16 + b.toNat / 16) ::
      sextet (b.toNat % 16 * 4 + c.toNat / 64) :: sextet (c.toNat % 64) :: rawBase64 rest

/-- `base64.StdEncoding.EncodeToString`. -/
def base64 (bs : List UInt8) : List Char :=
  rawBase64 bs ++ List.replicate ((3 - bs.length % 3) % 3) '='

theorem sextet_mem (n : ℕ) : sextet n ∈ base64Alphabet := by
  unfold sextet
  rw [List.getD_eq_getElem?_getD]
  cases h : base64Alphabet[n]? with
  | none => decide
  | some c => exact List.mem_of_getElem? h

theorem rawBase64_spec (bs : List UInt8) :
    (rawBase64 bs).length = (4 * bs.length + 2) / 3 ∧ ∀ c ∈ rawBase64 bs, c ∈ base64Alphabet := by
  induction bs using rawBase64.induct with
  | case1 => simp [rawBase64]
  | case2 a => simp [rawBase64, sextet_mem]
  | case3 a b => simp [rawBase64, sextet_mem]
  | case4 a b c rest ih =>
    obtain ⟨hlen, hmem⟩ := ih
    simp only [rawBase64, List.length_cons, hlen, List.mem_cons]
    refine ⟨by omega, ?_⟩
    rintro x (rfl | rfl | rfl | rfl | hx)
    · exact sextet_mem _
    · exact sextet_mem _
    · exact sextet_mem _
    · exact sextet_mem _
    · exact hmem x hx

theorem length_base64 (bs : List UInt8) : (base64 bs).length = 4 * ((bs.length + 2) / 3) := by
  rw [base64, List.length_append, (rawBase64_spec bs).1, List.length_replicate]
  omega

theorem hexChars_append_inj {a b : UInt8} {x y : List Char} (h : hexChars a ++ x = hexChars b ++ y) :
    a = b ∧ x = y := by
  have hdigit : ∀ m < 16, ∀ n < 16, Nat.digitChar m = Nat.digitChar n → m = n := by decide
  have ha := a.toNat_lt
  have hb := b.toNat_lt
  simp only [hexChars, List.cons_append, List.nil_append, List.cons.injEq] at h
  obtain ⟨hhigh, hlow, hrest⟩ := h
  have hhigh' := hdigit _ (by omega) _ (by omega) hhigh
  have hlow' := hdigit _ (by omega) _ (by omega) hlow
  refine ⟨UInt8.toNat_inj.mp ?_, hrest⟩
  omega

theorem hexEncode_inj {as bs : List UInt8} (h : hexEncode as = hexEncode bs) : as = bs := by
  have hchars : as.flatMap hexChars = bs.flatMap hexChars := String.ofList_injective h
  induction as generalizing bs with
  | nil =>
    cases bs with
    | nil => rfl
    | cons b bs => cases hchars
  | cons a as ih =>
    cases bs with
    | nil => cases hchars
    | cons b bs =>
      obtain ⟨rfl, hrest⟩ := hexChars_append_inj hchars
      rw [ih (congrArg String.ofList hrest) hrest]

theorem len_append (s t : String) : len (s ++ t) = len s + len t := by
  simp [len]

namespace Json

/-- Characters that a JSON string shows as the single bytes they are. -/
def plain (c : Char) : Bool := escape c = [c] && c.utf8Size = 1

theorem len_quote_plain {cs : List Char} (h : ∀ c ∈ cs, plain c = true) :
    len (quote (String.ofList cs)) = cs.length + 2 := by
  have hquote : (bytes "\"").length = 1 := by decide
  have hescaped : cs.flatMap escape = cs := by
    induction cs with
    | nil => rfl
    | cons c cs ih =>
      have hc := h c List.mem_cons_self
      simp only [plain, Bool.and_eq_true, decide_eq_true_eq] at hc
      rw [List.flatMap_cons, hc.1, ih fun c hc => h c (List.mem_cons_of_mem _ hc)]
      rfl
  have hsizes : (cs.map Char.utf8Size).sum = cs.length := by
    rw [List.map_congr_left (g := fun _ => 1) fun c hc => by
      have := h c hc
      simp only [plain, Bool.and_eq_true, decide_eq_true_eq] at this
      exact this.2]
    simp
  simp only [len, quote, quoteChars, String.toList_ofList, hescaped]
  simp [List.length_flatMap, hquote, hsizes]
  omega

theorem len_quote_base64 (bs : List UInt8) :
    len (quote (String.ofList (base64 bs))) = 4 * ((bs.length + 2) / 3) + 2 := by
  have halphabet : (base64Alphabet.all plain) = true := by decide
  rw [len_quote_plain, length_base64]
  intro c hc
  rw [base64, List.mem_append] at hc
  rcases hc with hc | hc
  · exact List.all_eq_true.mp halphabet c ((rawBase64_spec bs).2 c hc)
  · rw [List.eq_of_mem_replicate hc]
    decide

def commaSeparated : List String → String
  | [] => ""
  | [item] => item
  | item :: rest => item ++ "," ++ commaSeparated rest

def array (items : List String) : String := "[" ++ commaSeparated items ++ "]"

def weight (items : List String) : ℕ := (items.map fun item => len item + 1).sum

theorem len_commaSeparated {items : List String} (h : items ≠ []) :
    len (commaSeparated items) + 1 = weight items := by
  induction items with
  | nil => exact absurd rfl h
  | cons item rest ih =>
    cases rest with
    | nil => simp [commaSeparated, weight]
    | cons next rest =>
      have hrest := ih (List.cons_ne_nil _ _)
      have hcomma : len "," = 1 := by decide
      rw [commaSeparated, len_append, len_append, hcomma]
      · rw [weight, List.map_cons, List.sum_cons, ← weight]
        omega
      · exact List.cons_ne_nil _ _

end Json
end AntiFlock.Go
