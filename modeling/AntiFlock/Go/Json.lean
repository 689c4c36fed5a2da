import AntiFlock.Go.Text
import Mathlib.Tactic.FinCases

set_option autoImplicit false

/-!
# JSON text as `encoding/json` writes it

Strings are quoted with HTML escaping, raw values are compacted. A quoted string
can be read back from the front of a text, so texts built from quoted strings and
fixed separators determine the strings.
-/
namespace AntiFlock.Go.Json

def hexDigit (n : ℕ) : Char := Nat.digitChar (n % 16)

def hex4 (n : ℕ) : List Char :=
  [hexDigit (n / 4096), hexDigit (n / 256), hexDigit (n / 16), hexDigit n]

/-- Characters that are safe for JSON but not inside HTML or JavaScript. -/
def unsafeHTML : List Char := ['<', '>', '&', '\u2028', '\u2029']

def escape (c : Char) : List Char :=
  if c = '"' then ['\\', '"']
  else if c = '\\' then ['\\', '\\']
  else if c = '\x08' then ['\\', 'b']
  else if c = '\x0c' then ['\\', 'f']
  else if c = '\n' then ['\\', 'n']
  else if c = '\r' then ['\\', 'r']
  else if c = '\t' then ['\\', 't']
  else if c.toNat < 0x20 ∨ c ∈ unsafeHTML then '\\' :: 'u' :: hex4 c.toNat
  else [c]

def quoteChars (cs : List Char) : List Char := '"' :: cs.flatMap escape ++ ['"']

def quote (s : String) : String := String.ofList (quoteChars s.toList)

def hexValue (c : Char) : ℕ := if c.toNat < 58 then c.toNat - 48 else c.toNat - 87

def unescape : List Char → Option (Char × List Char)
  | '\\' :: 'b' :: rest => some ('\x08', rest)
  | '\\' :: 'f' :: rest => some ('\x0c', rest)
  | '\\' :: 'n' :: rest => some ('\n', rest)
  | '\\' :: 'r' :: rest => some ('\r', rest)
  | '\\' :: 't' :: rest => some ('\t', rest)
  | '\\' :: 'u' :: a :: b :: c :: d :: rest =>
    some (Char.ofNat (hexValue a * 4096 + hexValue b * 256 + hexValue c * 16 + hexValue d), rest)
  | '\\' :: c :: rest => some (c, rest)
  | c :: rest => some (c, rest)
  | [] => none

theorem hex4_value : (∀ n < 0x20, ∀ rest, unescape ('\\' :: 'u' :: hex4 n ++ rest) = some (Char.ofNat n, rest)) ∧
    ∀ c ∈ unsafeHTML, ∀ rest, unescape ('\\' :: 'u' :: hex4 c.toNat ++ rest) = some (c, rest) := by
  constructor
  · intro n hn rest
    have hread : ∀ n < 0x20, Char.ofNat (hexValue (hexDigit (n / 4096)) * 4096 +
        hexValue (hexDigit (n / 256)) * 256 + hexValue (hexDigit (n / 16)) * 16 +
        hexValue (hexDigit n)) = Char.ofNat n := by decide
    simp only [hex4, List.cons_append, List.nil_append, unescape, hread n hn]
  · intro c hc rest
    have hread : (unsafeHTML.all fun c => Char.ofNat (hexValue (hexDigit (c.toNat / 4096)) * 4096 +
        hexValue (hexDigit (c.toNat / 256)) * 256 + hexValue (hexDigit (c.toNat / 16)) * 16 +
        hexValue (hexDigit c.toNat)) = c) = true := by decide
    have hvalue := of_decide_eq_true (List.all_eq_true.mp hread c hc)
    simp only [hex4, List.cons_append, List.nil_append, unescape, hvalue]

theorem unescape_escape (c : Char) (rest : List Char) : unescape (escape c ++ rest) = some (c, rest) := by
  unfold escape
  split_ifs with hquote hslash hb hf hn hr ht hcoded
  · rw [hquote]; rfl
  · rw [hslash]; rfl
  · rw [hb]; rfl
  · rw [hf]; rfl
  · rw [hn]; rfl
  · rw [hr]; rfl
  · rw [ht]; rfl
  · rcases hcoded with hlow | hunsafe
    · rw [hex4_value.1 c.toNat hlow rest, Char.ofNat_toNat]
    · exact hex4_value.2 c hunsafe rest
  · rw [List.cons_append, List.nil_append]
    unfold unescape
    split <;> simp_all

theorem escape_ne_quote (c : Char) (rest tail : List Char) : escape c ++ rest ≠ '"' :: tail := by
  unfold escape
  split_ifs with hquote <;> simp_all

theorem escaped_append_inj {esc : Char → List Char} (hread : ∀ c rest, unescape (esc c ++ rest) = some (c, rest))
    (hquote : ∀ c rest tail, esc c ++ rest ≠ '"' :: tail) {s t x y : List Char}
    (h : s.flatMap esc ++ '"' :: x = t.flatMap esc ++ '"' :: y) : s = t ∧ x = y := by
  induction s generalizing t with
  | nil =>
    cases t with
    | nil => exact ⟨rfl, (List.cons.inj h).2⟩
    | cons d t =>
      rw [List.flatMap_nil, List.nil_append, List.flatMap_cons, List.append_assoc] at h
      exact absurd h.symm (hquote d _ _)
  | cons c s ih =>
    cases t with
    | nil =>
      rw [List.flatMap_nil, List.nil_append, List.flatMap_cons, List.append_assoc] at h
      exact absurd h (hquote c _ _)
    | cons d t =>
      rw [List.flatMap_cons, List.flatMap_cons, List.append_assoc, List.append_assoc] at h
      have hfront := congrArg unescape h
      rw [hread, hread, Option.some.injEq, Prod.mk.injEq] at hfront
      obtain ⟨rfl, hrest⟩ := hfront
      obtain ⟨rfl, hxy⟩ := ih hrest
      exact ⟨rfl, hxy⟩

theorem quoteChars_append_inj {s t x y : List Char} (h : quoteChars s ++ x = quoteChars t ++ y) :
    s = t ∧ x = y := by
  apply escaped_append_inj unescape_escape escape_ne_quote
  simpa [quoteChars] using h

/-- The escaping of an encoder that was told not to escape HTML. -/
def escapePlain (c : Char) : List Char := if c ∈ ['<', '>', '&'] then [c] else escape c

def quotePlainChars (cs : List Char) : List Char := '"' :: cs.flatMap escapePlain ++ ['"']

def quotePlain (s : String) : String := String.ofList (quotePlainChars s.toList)

theorem unescape_escapePlain (c : Char) (rest : List Char) : unescape (escapePlain c ++ rest) = some (c, rest) := by
  unfold escapePlain
  split
  · rename_i hc
    fin_cases hc <;> rfl
  · exact unescape_escape c rest

theorem escapePlain_ne_quote (c : Char) (rest tail : List Char) : escapePlain c ++ rest ≠ '"' :: tail := by
  unfold escapePlain
  split
  · rename_i hc
    fin_cases hc <;> simp
  · exact escape_ne_quote c rest tail

theorem quotePlainChars_append_inj {s t x y : List Char} (h : quotePlainChars s ++ x = quotePlainChars t ++ y) :
    s = t ∧ x = y := by
  apply escaped_append_inj unescape_escapePlain escapePlain_ne_quote
  simpa [quotePlainChars] using h

def escapeHTML (c : Char) : List Char := if c ∈ unsafeHTML then '\\' :: 'u' :: hex4 c.toNat else [c]

/-- `json.Compact` with HTML escaping, for valid JSON: whether the scan is inside a string, then
whether the next character is escaped. -/
def compactChars : Bool → Bool → List Char → List Char
  | _, _, [] => []
  | false, _, c :: cs =>
    if c ∈ [' ', '\t', '\r', '\n'] then compactChars false false cs
    else escapeHTML c ++ compactChars (c == '"') false cs
  | true, true, c :: cs => escapeHTML c ++ compactChars true false cs
  | true, false, c :: cs => escapeHTML c ++ compactChars (c != '"') (c == '\\') cs

def compact (s : String) : String := String.ofList (compactChars false false s.toList)

end AntiFlock.Go.Json
