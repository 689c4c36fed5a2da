import AntiFlock.Go.Map
import AntiFlock.Go.Utf8

set_option autoImplicit false

/-!
# Rendering untrusted bytes

Text from outside is shown on a terminal and written to reports. `render` lets
printable runes and newlines through, replaces the rest by printable escapes (or
drops it), takes a whole terminal sequence as one unit, and caps the output.
-/
namespace AntiFlock.Trust

/-- What happens to hostile runes and sequences; the type is a `uint8`. -/
inductive RenderMode where
  | escape
  | strip
  | other (value : UInt8)
  deriving DecidableEq, Repr

def defaultMaxBytes : ℤ := 4096

def minMaxBytes : ℤ := 64

/-- The output space held back for the truncation marker. -/
def markerReserve : ℕ := 48

def maxSequenceBytes : ℕ := 1024

structure RenderPolicy where
  mode : RenderMode
  asciiOnly : Bool
  maxBytes : ℤ
  deriving DecidableEq, Repr

def errInvalidPolicy : String := "trust: invalid render policy"

inductive FindingKind where
  | nul | c0 | cr | del | esc | csi | osc | dcs | sos | pm | apc | c1 | bidi | format | separator | invalidUTF8
  deriving DecidableEq, Repr

def FindingKind.text : FindingKind → String
  | nul => "NUL"
  | c0 => "C0"
  | cr => "CR"
  | del => "DEL"
  | esc => "ESC"
  | csi => "CSI"
  | osc => "OSC"
  | dcs => "DCS"
  | sos => "SOS"
  | pm => "PM"
  | apc => "APC"
  | c1 => "C1"
  | bidi => "BIDI"
  | format => "FORMAT"
  | separator => "SEPARATOR"
  | invalidUTF8 => "INVALID_UTF8"

structure Finding where
  kind : FindingKind
  count : ℕ
  deriving DecidableEq, Repr

inductive Taint where
  | containsControlChars
  | containsBidi
  | oversized
  | truncated
  deriving DecidableEq, Repr

structure Rendered where
  text : List UInt8
  taints : Finset Taint
  findings : List Finding
  inputBytes : ℕ
  droppedBytes : ℕ

/-! ## Runes -/

def inTable (table : List (ℕ × ℕ)) (c : Char) : Bool :=
  table.any fun range => range.1 ≤ c.toNat && c.toNat ≤ range.2

/-- `unicode.Cf`. -/
def formatRunes : List (ℕ × ℕ) :=
  [(0xad, 0xad), (0x600, 0x605), (0x61c, 0x61c), (0x6dd, 0x6dd), (0x70f, 0x70f), (0x890, 0x891), (0x8e2, 0x8e2),
    (0x180e, 0x180e), (0x200b, 0x200f), (0x202a, 0x202e), (0x2060, 0x2064), (0x2066, 0x206f), (0xfeff, 0xfeff),
    (0xfff9, 0xfffb), (0x110bd, 0x110bd), (0x110cd, 0x110cd), (0x13430, 0x1343f), (0x1bca0, 0x1bca3),
    (0x1d173, 0x1d17a), (0xe0001, 0xe0001), (0xe0020, 0xe007f)]

/-- `unicode.Zs`. -/
def spaceRunes : List (ℕ × ℕ) :=
  [(0x20, 0x20), (0xa0, 0xa0), (0x1680, 0x1680), (0x2000, 0x200a), (0x202f, 0x202f), (0x205f, 0x205f),
    (0x3000, 0x3000)]

def isFormat (c : Char) : Bool := inTable formatRunes c

def isBidiControl (c : Char) : Bool :=
  (0x202a ≤ c.toNat && c.toNat ≤ 0x202e) || (0x2066 ≤ c.toNat && c.toNat ≤ 0x2069) ||
    (c.toNat == 0x200e || c.toNat == 0x200f || c.toNat == 0x61c)

def isSeparator (c : Char) : Bool := c.toNat == 0x2028 || c.toNat == 0x2029

def isC1 (c : Char) : Bool := 0x80 ≤ c.toNat && c.toNat ≤ 0x9f

def c1Introducer (c : Char) : Option FindingKind :=
  match c.toNat with
  | 0x9b => some .csi
  | 0x9d => some .osc
  | 0x90 => some .dcs
  | 0x98 => some .sos
  | 0x9e => some .pm
  | 0x9f => some .apc
  | _ => none

/-! ## Escapes -/

/-- The verb `x` with a width that the number does not exceed. -/
def hexDigits : ℕ → ℕ → List Char
  | 0, _ => []
  | width + 1, n => hexDigits width (n / 16) ++ [Nat.digitChar (n % 16)]

def escapeByte (b : UInt8) : List Char := '\\' :: 'x' :: hexDigits 2 b.toNat

def escapeRune (c : Char) : List Char :=
  if c.toNat < 0x100 then '\\' :: 'x' :: hexDigits 2 c.toNat
  else if c.toNat < 0x10000 then '\\' :: 'u' :: hexDigits 4 c.toNat
  else '\\' :: 'U' :: hexDigits 8 c.toNat

def escapeUnit : UInt8 ⊕ Char → List Char
  | .inl b => escapeByte b
  | .inr c => if 0x20 ≤ c.toNat ∧ c.toNat ≤ 0x7e then [c] else escapeRune c

def escapeSequence (sequence : List UInt8) : List Char := (Go.runes.tokens sequence).flatMap escapeUnit

/-! ## Terminal sequences -/

def within (low high b : UInt8) : Bool := low ≤ b && b ≤ high

def isParameter : UInt8 → Bool := within 0x30 0x3f

def isIntermediate : UInt8 → Bool := within 0x20 0x2f

/-- The body of a control sequence: parameters, intermediates and a final byte. -/
def controlBody (body : List UInt8) : ℕ :=
  span isParameter body +
    (fun rest => span isIntermediate rest + accept (within 0x40 0x7e) (rest.drop (span isIntermediate rest)))
      (body.drop (span isParameter body))

/-- A body up to its terminator (BEL, ESC \ or U+009C) or the bound, which is counted down. -/
def stringBody : ℕ → List UInt8 → ℕ
  | 0, _ => 0
  | _ + 1, [] => 0
  | bound + 1, b :: rest =>
    if b = 0x07 then 1
    else if b = 0x1b ∧ rest.head? = some 0x5c then 2
    else if b = 0xc2 ∧ rest.head? = some 0x9c then 2
    else 1 + stringBody bound rest

def scanSequenceBody (kind : FindingKind) (body : List UInt8) : ℕ :=
  if kind = .csi then controlBody body else stringBody maxSequenceBytes body

/-- The byte after ESC that opens a sequence with a body. -/
def escapeIntroducer (next : UInt8) : Option FindingKind :=
  if next = 0x5b then some .csi
  else if next = 0x5d then some .osc
  else if next = 0x50 then some .dcs
  else if next = 0x58 then some .sos
  else if next = 0x5e then some .pm
  else if next = 0x5f then some .apc
  else none

def escapeBody (body : List UInt8) : ℕ :=
  span isIntermediate body + accept (within 0x30 0x7e) (body.drop (span isIntermediate body))

/-- The sequence after an ESC, with the ESC: its length and kind. -/
def scanEscape : List UInt8 → ℕ × FindingKind
  | [] => (1, .esc)
  | next :: body =>
    match escapeIntroducer next with
    | some kind => (2 + scanSequenceBody kind body, kind)
    | none =>
      if isIntermediate next then (2 + escapeBody body, .esc)
      else if within 0x30 0x7e next then (2, .esc)
      else (1, .esc)

/-! ## Pieces -/

/-- What a stretch of the input is rendered to in escape mode, its length and its kind. -/
structure Piece where
  text : List UInt8
  size : ℕ
  kind : Option FindingKind

def carriageReturn (rest : List UInt8) : Piece :=
  if rest.tail.head? = some 0x0a then ⟨Go.utf8 ['\n'], 2, none⟩
  else ⟨Go.utf8 (escapeRune '\r'), 1, some .cr⟩

def escapePiece (rest : List UInt8) : Piece :=
  let sequence := scanEscape rest.tail
  ⟨Go.utf8 (escapeSequence (rest.take sequence.1)), sequence.1, some sequence.2⟩

def c1Piece (r : Char) (rest : List UInt8) : Piece :=
  match c1Introducer r with
  | some kind =>
    let length := r.utf8Size + scanSequenceBody kind (rest.drop r.utf8Size)
    ⟨Go.utf8 (escapeSequence (rest.take length)), length, some kind⟩
  | none => ⟨Go.utf8 (escapeRune r), r.utf8Size, some .c1⟩

section Classify
-- the printable runes, by a table of the Unicode version
variable (isPrint : Char → Bool) (asciiOnly : Bool)

def classifyRune (r : Char) (rest : List UInt8) : Piece :=
  if r = '\n' then ⟨Go.utf8 ['\n'], 1, none⟩
  else if r = '\r' then carriageReturn rest
  else if r.toNat = 0 then ⟨Go.utf8 (escapeRune r), 1, some .nul⟩
  else if r.toNat = 0x1b then escapePiece rest
  else if r.toNat < 0x20 then ⟨Go.utf8 (escapeRune r), 1, some .c0⟩
  else if r.toNat = 0x7f then ⟨Go.utf8 (escapeRune r), 1, some .del⟩
  else if isC1 r then c1Piece r rest
  else if isBidiControl r then ⟨Go.utf8 (escapeRune r), r.utf8Size, some .bidi⟩
  else if isSeparator r then ⟨Go.utf8 (escapeRune r), r.utf8Size, some .separator⟩
  else if isFormat r then ⟨Go.utf8 (escapeRune r), r.utf8Size, some .format⟩
  else if asciiOnly ∧ 0x80 ≤ r.toNat then ⟨Go.utf8 (escapeRune r), r.utf8Size, none⟩
  else if 0x80 ≤ r.toNat ∧ ¬ isPrint r ∧ ¬ inTable spaceRunes r then ⟨Go.utf8 (escapeRune r), r.utf8Size, none⟩
  else ⟨rest.take r.utf8Size, r.utf8Size, none⟩

def classify (rest : List UInt8) : Piece :=
  match Go.decodeRune rest with
  | none => ⟨Go.utf8 (escapeByte (rest.headD 0)), 1, some .invalidUTF8⟩
  | some r => classifyRune isPrint asciiOnly r rest

end Classify

/-! ## The pieces of an input

Each scan reads no further than the piece it measures. -/

theorem local_controlBody : Local controlBody :=
  (local_span _).seq ((local_span _).seq (local_accept _))

theorem local_escapeBody : Local escapeBody :=
  (local_span _).seq (local_accept _)

theorem controlBody_le (body : List UInt8) : controlBody body ≤ body.length := by
  have hparameters := span_le isParameter body
  have hintermediates := span_le isIntermediate (body.drop (span isParameter body))
  have hfinal := accept_le (within 0x40 0x7e)
    ((body.drop (span isParameter body)).drop (span isIntermediate (body.drop (span isParameter body))))
  simp only [List.length_drop] at hintermediates hfinal
  simp only [controlBody]
  omega

theorem escapeBody_le (body : List UInt8) : escapeBody body ≤ body.length := by
  have hintermediates := span_le isIntermediate body
  have hfinal := accept_le (within 0x30 0x7e) (body.drop (span isIntermediate body))
  simp only [List.length_drop] at hfinal
  simp only [escapeBody]
  omega

theorem head?_take_cases (rest : List UInt8) (n : ℕ) :
    (rest.take n).head? = rest.head? ∨ (rest.take n).head? = none := by
  cases rest with
  | nil => simp
  | cons b rest => cases n <;> simp

theorem stringBody_le (bound : ℕ) (body : List UInt8) : stringBody bound body ≤ body.length := by
  fun_induction stringBody bound body with
  | case1 | case2 | case3 => simp
  | case4 bound b rest _ h | case5 bound b rest _ _ h =>
    have hrest : rest ≠ [] := by
      rintro rfl
      simp at h
    have hpos := List.length_pos_iff.mpr hrest
    rw [List.length_cons]
    omega
  | case6 bound b rest _ _ _ ih =>
    rw [List.length_cons]
    omega

theorem local_stringBody (bound : ℕ) : Local (stringBody bound) := by
  intro body
  fun_induction stringBody bound body with
  | case1 => simp [stringBody]
  | case2 => simp [stringBody]
  | case3 bound rest =>
    intro n hn
    obtain ⟨m, rfl⟩ := Nat.exists_eq_add_of_le' hn
    simp [stringBody]
  | case4 bound b rest h7 h | case5 bound b rest h7 hesc h =>
    intro n hn
    obtain ⟨m, rfl⟩ := Nat.exists_eq_add_of_le' hn
    cases rest with
    | nil => simp at h
    | cons c rest => simp_all [stringBody]
  | case6 bound b rest h7 hesc hst ih =>
    intro n hn
    obtain ⟨m, rfl⟩ := Nat.exists_eq_add_of_le' (Nat.le_of_add_right_le hn)
    have hhead : (rest.take m).head? = rest.head? ∨ (rest.take m).head? = none := head?_take_cases rest m
    rw [List.take_succ_cons, stringBody, if_neg h7, if_neg, if_neg, ih m (by omega)]
    · rintro ⟨hb, hc⟩
      rcases hhead with hhead | hhead
      · exact hst ⟨hb, hhead ▸ hc⟩
      · simp [hhead] at hc
    · rintro ⟨hb, hc⟩
      rcases hhead with hhead | hhead
      · exact hesc ⟨hb, hhead ▸ hc⟩
      · simp [hhead] at hc

theorem local_scanSequenceBody (kind : FindingKind) : Local (scanSequenceBody kind) := by
  unfold scanSequenceBody
  split
  · exact local_controlBody
  · exact local_stringBody maxSequenceBytes

theorem scanSequenceBody_le (kind : FindingKind) (body : List UInt8) : scanSequenceBody kind body ≤ body.length := by
  unfold scanSequenceBody
  split
  · exact controlBody_le body
  · exact stringBody_le maxSequenceBytes body

theorem scanEscape_pos (rest : List UInt8) : 0 < (scanEscape rest).1 := by
  fun_cases scanEscape rest <;> simp

theorem scanEscape_le (rest : List UInt8) : (scanEscape rest).1 ≤ rest.length + 1 := by
  fun_cases scanEscape rest with
  | case1 => simp
  | case2 next body kind h =>
    have := scanSequenceBody_le kind body
    rw [List.length_cons]
    omega
  | case3 next body h hi =>
    have := escapeBody_le body
    rw [List.length_cons]
    omega
  | case4 | case5 => simp_all

theorem scanEscape_take (rest : List UInt8) (n : ℕ) (hn : (scanEscape rest).1 ≤ n + 1) :
    scanEscape (rest.take n) = scanEscape rest := by
  match rest, n with
  | [], _ => simp
  | next :: body, 0 =>
    -- only a lone ESC is that short
    simp only [scanEscape] at hn ⊢
    cases hi : escapeIntroducer next with
    | some kind =>
      simp only [hi] at hn
      omega
    | none =>
      simp only [hi] at hn ⊢
      split_ifs at hn ⊢
      · simp only at hn
        omega
      · simp at hn
      · rfl
  | next :: body, n + 1 =>
    simp only [List.take_succ_cons, scanEscape] at hn ⊢
    cases hi : escapeIntroducer next with
    | some kind =>
      simp only [hi] at hn ⊢
      rw [local_scanSequenceBody kind body n (by omega)]
    | none =>
      simp only [hi] at hn ⊢
      split_ifs at hn ⊢
      · rw [local_escapeBody body n (by simp only at hn; omega)]
      · rfl
      · rfl

theorem utf8Size_of_lt {r : Char} (h : r.toNat < 0x80) : r.utf8Size = 1 := by
  have hr : r.val ≤ 0x7f := UInt32.le_iff_toNat_le.mpr (by simpa using Nat.le_of_lt_succ h)
  simp [Char.utf8Size, hr]

theorem carriageReturn_size (rest : List UInt8) : 0 < (carriageReturn rest).size := by
  unfold carriageReturn
  split <;> simp

theorem carriageReturn_le {rest : List UInt8} (h : rest ≠ []) : (carriageReturn rest).size ≤ rest.length := by
  obtain ⟨b, rest, rfl⟩ := List.exists_cons_of_ne_nil h
  cases rest with
  | nil => simp [carriageReturn]
  | cons c rest =>
    unfold carriageReturn
    split <;> simp

theorem carriageReturn_take {rest : List UInt8} {n : ℕ} (hn : (carriageReturn rest).size ≤ n) :
    carriageReturn (rest.take n) = carriageReturn rest := by
  have hpos := carriageReturn_size rest
  unfold carriageReturn at hn ⊢
  rw [← List.drop_one, List.drop_take, List.drop_one]
  by_cases h : rest.tail.head? = some 0x0a
  · rw [if_pos h] at hn ⊢
    obtain ⟨m, rfl⟩ := Nat.exists_eq_add_of_le' hn
    rw [if_pos]
    simpa [List.head?_take] using h
  · rw [if_neg h, if_neg]
    rcases head?_take_cases rest.tail (n - 1) with htake | htake
    · rwa [htake]
    · simp [htake]

theorem escapePiece_take {rest : List UInt8} {n : ℕ} (hn : (escapePiece rest).size ≤ n) :
    escapePiece (rest.take n) = escapePiece rest := by
  have hpos := scanEscape_pos rest.tail
  simp only [escapePiece] at hn ⊢
  rw [← List.drop_one, List.drop_take, List.drop_one, scanEscape_take rest.tail (n - 1) (by omega), List.take_take, min_eq_left hn]

theorem c1Piece_take {r : Char} {rest : List UInt8} {n : ℕ} (hn : (c1Piece r rest).size ≤ n) :
    c1Piece r (rest.take n) = c1Piece r rest := by
  unfold c1Piece at hn ⊢
  cases hi : c1Introducer r with
  | none => rfl
  | some kind =>
    simp only [hi] at hn ⊢
    rw [List.drop_take, local_scanSequenceBody kind _ (n - r.utf8Size) (by omega), List.take_take, min_eq_left hn]

theorem c1Piece_size (r : Char) (rest : List UInt8) : r.utf8Size ≤ (c1Piece r rest).size := by
  unfold c1Piece
  split <;> simp

theorem c1Piece_le {r : Char} {rest : List UInt8} (h : r.utf8Size ≤ rest.length) :
    (c1Piece r rest).size ≤ rest.length := by
  unfold c1Piece
  split
  case h_1 kind _ =>
    have hbody := scanSequenceBody_le kind (rest.drop r.utf8Size)
    rw [List.length_drop] at hbody
    simp only
    omega
  case h_2 => exact h

section Classify
variable (isPrint : Char → Bool) (asciiOnly : Bool)

structure Safe (c : Char) : Prop where
  control : c = '\n' ∨ 0x20 ≤ c.toNat
  del : c.toNat ≠ 0x7f
  c1 : isC1 c = false
  bidi : isBidiControl c = false
  separator : isSeparator c = false
  format : isFormat c = false
  ascii : asciiOnly = true → c.toNat < 0x80

/-- What a rune does with the input it begins: it is escaped alone, it opens a unit of several bytes, or
it passes. -/
inductive Begins (r : Char) : (List UInt8 → Piece) → Prop
  | newline : r = '\n' → Begins r fun _ => ⟨Go.utf8 ['\n'], 1, none⟩
  | carriageReturn : r = '\r' → Begins r carriageReturn
  | escape : r.toNat = 0x1b → Begins r escapePiece
  | c1 : Begins r (c1Piece r)
  | alone (kind : Option FindingKind) : Begins r fun _ => ⟨Go.utf8 (escapeRune r), r.utf8Size, kind⟩
  | passes : Safe asciiOnly r → Begins r fun rest => ⟨rest.take r.utf8Size, r.utf8Size, none⟩

theorem classifyRune_begins (r : Char) : Begins asciiOnly r (classifyRune isPrint asciiOnly r) := by
  -- below 0x80 the width is one
  have hone (h : r.toNat < 0x80) (kind : Option FindingKind) :
      Begins asciiOnly r fun _ => ⟨Go.utf8 (escapeRune r), 1, kind⟩ := by
    rw [← utf8Size_of_lt h]
    exact .alone kind
  unfold classifyRune
  by_cases hnl : r = '\n'
  · simp only [if_pos hnl]
    exact .newline hnl
  by_cases hcr : r = '\r'
  · simp only [if_neg hnl, if_pos hcr]
    exact .carriageReturn hcr
  simp only [if_neg hnl, if_neg hcr]
  by_cases hnul : r.toNat = 0
  · simp only [if_pos hnul]
    exact hone (by omega) _
  by_cases hesc : r.toNat = 0x1b
  · simp only [if_neg hnul, if_pos hesc]
    exact .escape hesc
  simp only [if_neg hnul, if_neg hesc]
  by_cases hc0 : r.toNat < 0x20
  · simp only [if_pos hc0]
    exact hone (by omega) _
  by_cases hdel : r.toNat = 0x7f
  · simp only [if_neg hc0, if_pos hdel]
    exact hone (by omega) _
  simp only [if_neg hc0, if_neg hdel]
  by_cases hc1 : isC1 r = true
  · simp only [if_pos hc1]
    exact .c1
  by_cases hbidi : isBidiControl r = true
  · simp only [if_neg hc1, if_pos hbidi]
    exact .alone _
  simp only [if_neg hc1, if_neg hbidi]
  by_cases hseparator : isSeparator r = true
  · simp only [if_pos hseparator]
    exact .alone _
  by_cases hformat : isFormat r = true
  · simp only [if_neg hseparator, if_pos hformat]
    exact .alone _
  simp only [if_neg hseparator, if_neg hformat]
  by_cases hascii : asciiOnly = true ∧ 0x80 ≤ r.toNat
  · simp only [if_pos hascii]
    exact .alone _
  simp only [if_neg hascii]
  split
  · exact .alone _
  · exact .passes
      { control := .inr (not_lt.mp hc0)
        del := hdel
        c1 := Bool.not_eq_true _ ▸ hc1
        bidi := Bool.not_eq_true _ ▸ hbidi
        separator := Bool.not_eq_true _ ▸ hseparator
        format := Bool.not_eq_true _ ▸ hformat
        ascii := fun h => not_le.mp fun hr => hascii ⟨h, hr⟩ }

variable {asciiOnly} {r : Char} {piece : List UInt8 → Piece}

theorem Begins.size (h : Begins asciiOnly r piece) (rest : List UInt8) : r.utf8Size ≤ (piece rest).size := by
  cases h with
  | newline hnl =>
    rw [hnl]
    exact (by decide : '\n'.utf8Size ≤ 1)
  | carriageReturn hcr =>
    rw [hcr]
    exact carriageReturn_size rest
  | escape hesc =>
    rw [utf8Size_of_lt (by omega)]
    exact scanEscape_pos rest.tail
  | c1 => exact c1Piece_size r rest
  | alone kind => exact le_rfl
  | passes => exact le_rfl

theorem Begins.le (h : Begins asciiOnly r piece) {rest : List UInt8} (hr : r.utf8Size ≤ rest.length) :
    (piece rest).size ≤ rest.length := by
  have hpos : 1 ≤ rest.length := r.utf8Size_pos.trans_le hr
  cases h with
  | newline => exact hpos
  | carriageReturn => exact carriageReturn_le (List.length_pos_iff.mp hpos)
  | escape =>
    have hle := scanEscape_le rest.tail
    rw [List.length_tail] at hle
    simp only [escapePiece]
    omega
  | c1 => exact c1Piece_le hr
  | alone kind => exact hr
  | passes => exact hr

theorem Begins.take (h : Begins asciiOnly r piece) {rest : List UInt8} {n : ℕ} (hn : (piece rest).size ≤ n) :
    piece (rest.take n) = piece rest := by
  cases h with
  | newline => rfl
  | carriageReturn => exact carriageReturn_take hn
  | escape => exact escapePiece_take hn
  | c1 => exact c1Piece_take hn
  | alone kind => rfl
  | passes =>
    simp only at hn ⊢
    rw [List.take_take, min_eq_left hn]

variable (asciiOnly)

def pieces : Lexer UInt8 Piece where
  next := classify isPrint asciiOnly
  size := Piece.size
  size_pos rest _ := by
    unfold classify
    split
    case h_1 => exact Nat.one_pos
    case h_2 r _ => exact r.utf8Size_pos.trans_le ((classifyRune_begins isPrint asciiOnly r).size rest)
  size_le rest hne := by
    unfold classify
    split
    case h_1 => exact List.length_pos_iff.mpr hne
    case h_2 r hr => exact (classifyRune_begins isPrint asciiOnly r).le (Go.utf8Size_le_length hr)
  next_take rest n hne hn := by
    unfold classify at hn ⊢
    cases hr : Go.decodeRune rest with
    | none =>
      simp only [hr, Go.decodeRune_take_none hr] at hn ⊢
      obtain ⟨b, rest, rfl⟩ := List.exists_cons_of_ne_nil hne
      obtain ⟨m, rfl⟩ := Nat.exists_eq_add_of_le' hn
      rfl
    | some r =>
      have hbegins := classifyRune_begins isPrint asciiOnly r
      simp only [hr] at hn ⊢
      rw [Go.decodeRune_take hr ((hbegins.size rest).trans hn)]
      exact hbegins.take hn

end Classify

/-! ## The loop -/

structure Progress where
  out : List UInt8 := []
  index : ℕ := 0
  counts : Go.Map FindingKind ℕ := ∅
  taints : Finset Taint := ∅
  appending : Bool := true
  /-- Where the output and the input are cut should the cap be passed. -/
  cut : Option (ℕ × ℕ) := none

namespace Progress

def note (s : Progress) : Option FindingKind → Progress
  | none => s
  | some kind =>
    { s with
      counts := s.counts.insert kind ((s.counts.lookup kind).getD 0 + 1)
      taints := insert (if kind = .bidi then .containsBidi else .containsControlChars) s.taints }

def append (limit : ℕ) (s : Progress) (text : List UInt8) : Progress :=
  let cut :=
    if s.cut = none ∧ limit - markerReserve < s.out.length + text.length then some (s.out.length, s.index) else s.cut
  if limit < s.out.length + text.length then { s with cut, appending := false }
  else { s with cut, out := s.out ++ text }

end Progress

namespace RenderPolicy

def Valid (policy : RenderPolicy) : Prop := policy.mode = .escape ∨ policy.mode = .strip

def limit (policy : RenderPolicy) : ℕ :=
  let wanted := if policy.maxBytes = 0 then defaultMaxBytes else policy.maxBytes
  (if wanted < minMaxBytes then minMaxBytes else wanted).toNat

def emit (policy : RenderPolicy) (piece : Piece) : List UInt8 :=
  if piece.kind.isSome ∧ policy.mode = .strip then [] else piece.text

def round (policy : RenderPolicy) (s : Progress) (piece : Piece) : Progress :=
  let noted := s.note piece.kind
  let written := if noted.appending then noted.append policy.limit (policy.emit piece) else noted
  { written with index := s.index + piece.size }

end RenderPolicy

def truncationMarker (dropped : ℕ) (asciiOnly : Bool) : List UInt8 :=
  Go.utf8 ((if asciiOnly then escapeRune '…' else ['…']) ++ ("[truncated ".toList ++ Nat.toDigits 10 dropped ++ " bytes]".toList))

def findings (counts : Go.Map FindingKind ℕ) : List Finding :=
  (counts.entries.map fun entry => ⟨entry.1, entry.2⟩).mergeSort fun a b => a.kind.text ≤ b.kind.text

def finish (raw : Go.Str) (policy : RenderPolicy) (s : Progress) : Rendered :=
  let taints := if policy.limit < raw.bytes.length then insert .oversized s.taints else s.taints
  if s.appending then
    { text := s.out, taints, findings := findings s.counts, inputBytes := raw.bytes.length, droppedBytes := 0 }
  else
    let cut := s.cut.getD (0, 0)
    let dropped := raw.bytes.length - cut.2
    { text := s.out.take cut.1 ++ truncationMarker dropped policy.asciiOnly
      taints := insert .truncated taints
      findings := findings s.counts
      inputBytes := raw.bytes.length
      droppedBytes := dropped }

def render (isPrint : Char → Bool) (raw : Go.Str) (policy : RenderPolicy) : Except String Rendered :=
  match policy.mode with
  | .other _ => .error errInvalidPolicy
  | _ => .ok (finish raw policy (((pieces isPrint policy.asciiOnly).tokens raw.bytes).foldl policy.round {}))

end AntiFlock.Trust
