import AntiFlock.Go.Sha256

set_option autoImplicit false

/-! # Strings as the byte sequences Go measures, scans and hashes -/
namespace AntiFlock.Go

def bytes (s : String) : List UInt8 := s.toByteArray.data.toList

@[simp] theorem bytes_ofList (cs : List Char) :
    bytes (String.ofList cs) = cs.flatMap String.utf8EncodeChar := by
  simp [bytes, List.utf8Encode]

@[simp] theorem bytes_append (s t : String) : bytes (s ++ t) = bytes s ++ bytes t := by
  simp [bytes]

theorem bytes_injective : Function.Injective bytes := by
  intro s t h
  have hdata : s.toByteArray.data = t.toByteArray.data := Array.toList_inj.mp h
  exact String.toByteArray_inj.mp (ByteArray.ext hdata)

/-- The builtin `len` of a string. -/
def len (s : String) : ℕ := (bytes s).length

/-- Printable ASCII. Every rune beyond ASCII is encoded in bytes beyond it, so that a scan of the
bytes sees what a scan of the runes does. -/
def printable (b : UInt8) : Bool := 0x20 ≤ b.toNat && b.toNat ≤ 0x7e

/-- `strings.ContainsAny` for a set of ASCII characters. -/
def containsAny (s chars : String) : Bool := (bytes s).any fun b => (bytes chars).contains b

def hasPrefix (s lead : String) : Bool := (bytes lead).isPrefixOf (bytes s)

/-- `unicode.IsSpace`. -/
def isSpace (c : Char) : Bool :=
  ['\t', '\n', '\x0b', '\x0c', '\r', ' ', '\u0085', '\u00a0', '\u1680', '\u2028', '\u2029', '\u202f',
    '\u205f', '\u3000'].contains c || (0x2000 ≤ c.toNat && c.toNat ≤ 0x200a)

/-- `strings.TrimSpace`. -/
def trimSpace (s : String) : String :=
  String.ofList ((s.toList.dropWhile isSpace).reverse.dropWhile isSpace).reverse

theorem trimSpace_eq_self {s : String} (h : ∀ c ∈ s.toList, isSpace c = false) : trimSpace s = s := by
  have hdrop {l : List Char} (hl : ∀ c ∈ l, isSpace c = false) : l.dropWhile isSpace = l := by
    cases l with
    | nil => rfl
    | cons c rest => rw [List.dropWhile_cons_of_neg (by simp [hl c List.mem_cons_self])]
  rw [trimSpace, hdrop h, hdrop fun c hc => h c (List.mem_reverse.mp hc), List.reverse_reverse, String.ofList_toList]

def between (low high : Char) (b : UInt8) : Bool := low.toNat ≤ b.toNat && b.toNat ≤ high.toNat

def hexByte (b : UInt8) : Bool := between '0' '9' b || between 'a' 'f' b || between 'A' 'F' b

def lowerHexByte (b : UInt8) : Bool := between '0' '9' b || between 'a' 'f' b

def hexChars (b : UInt8) : List Char := [Nat.digitChar (b.toNat / 16), Nat.digitChar (b.toNat % 16)]

/-- `hex.EncodeToString`. -/
def hexEncode (bs : List UInt8) : String := String.ofList (bs.flatMap hexChars)

theorem encode_digitChar : ∀ n < 16, (String.utf8EncodeChar (Nat.digitChar n)).length = 1 ∧
    (String.utf8EncodeChar (Nat.digitChar n)).all lowerHexByte = true := by
  decide

theorem hexByte_of_lowerHexByte {b : UInt8} (h : lowerHexByte b = true) : hexByte b = true := by
  rw [hexByte, ← lowerHexByte, h, Bool.true_or]

theorem toNat_of_hexByte {b : UInt8} (h : hexByte b = true) : 0x30 ≤ b.toNat ∧ b.toNat ≤ 0x66 := by
  simp only [hexByte, between, Bool.or_eq_true, Bool.and_eq_true, decide_eq_true_eq] at h
  have h0 : '0'.toNat = 48 := rfl
  have h9 : '9'.toNat = 57 := rfl
  have ha : 'a'.toNat = 97 := rfl
  have hf : 'f'.toNat = 102 := rfl
  have hA : 'A'.toNat = 65 := rfl
  have hF : 'F'.toNat = 70 := rfl
  omega

theorem printable_of_hexByte {b : UInt8} (h : hexByte b = true) : printable b = true := by
  have hb := toNat_of_hexByte h
  simp only [printable, Bool.and_eq_true, decide_eq_true_eq]
  omega

theorem lower_hexEncode (bs : List UInt8) : (bytes (hexEncode bs)).length = 2 * bs.length ∧
    (bytes (hexEncode bs)).all lowerHexByte = true := by
  rw [hexEncode, bytes_ofList]
  induction bs with
  | nil => exact ⟨rfl, rfl⟩
  | cons b bs ih =>
    have hb := b.toNat_lt
    obtain ⟨hlow, hlow'⟩ := encode_digitChar (b.toNat % 16) (Nat.mod_lt _ (by decide))
    obtain ⟨hhigh, hhigh'⟩ := encode_digitChar (b.toNat / 16) (by omega)
    rw [List.flatMap_cons, List.flatMap_append, List.length_append, List.all_append, ih.1, ih.2]
    simp only [hexChars, List.flatMap_cons, List.flatMap_nil, List.append_nil, List.length_append,
      List.all_append, List.length_cons, hlow, hlow', hhigh, hhigh', Bool.and_self, and_true]
    omega

theorem bytes_hexEncode (bs : List UInt8) : (bytes (hexEncode bs)).length = 2 * bs.length ∧
    (bytes (hexEncode bs)).all hexByte = true := by
  obtain ⟨hlength, hlower⟩ := lower_hexEncode bs
  refine ⟨hlength, List.all_eq_true.mpr fun b hb => ?_⟩
  exact hexByte_of_lowerHexByte (List.all_eq_true.mp hlower b hb)

end AntiFlock.Go
