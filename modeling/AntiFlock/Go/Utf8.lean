import AntiFlock.Go.Encoding
import AntiFlock.Lexer

set_option autoImplicit false

/-!
# Byte strings and the runes in them

A Go string is any sequence of bytes; `range`, `utf8.DecodeRuneInString` and the
like read runes from it, and give a byte that starts no encoding as an error of
width one.
-/
namespace AntiFlock.Go

/-- A string, whose `len` is an `int`. -/
structure Str where
  bytes : List UInt8
  length_lt : bytes.length < 2 ^ 63

namespace Str

/-- The slice `s[:n]`. -/
def take (s : Str) (n : ℕ) : Str :=
  ⟨s.bytes.take n, (List.length_take_le' n s.bytes).trans_lt s.length_lt⟩

end Str

def utf8 (runes : List Char) : List UInt8 := runes.flatMap String.utf8EncodeChar

@[simp] theorem utf8_append (xs ys : List Char) : utf8 (xs ++ ys) = utf8 xs ++ utf8 ys :=
  List.flatMap_append

theorem utf8_singleton (c : Char) : utf8 [c] = String.utf8EncodeChar c := by
  simp [utf8]

/-- `utf8.DecodeRuneInString`, where `none` is `RuneError` with a width of at most one. -/
def decodeRune (bs : List UInt8) : Option Char := (ByteArray.mk bs.toArray).utf8DecodeChar? 0

theorem decodeRune_append {bs : List UInt8} {c : Char} (h : decodeRune bs = some c) (rest : List UInt8) :
    decodeRune (bs ++ rest) = some c := by
  have happend : ByteArray.mk (bs ++ rest).toArray = ByteArray.mk bs.toArray ++ ByteArray.mk rest.toArray :=
    ByteArray.ext (by simp)
  rw [decodeRune, happend]
  exact ByteArray.utf8DecodeChar?_append_eq_some h _

theorem decodeRune_encode (c : Char) (rest : List UInt8) :
    decodeRune (String.utf8EncodeChar c ++ rest) = some c := by
  refine decodeRune_append ?_ rest
  have hone : ByteArray.mk (String.utf8EncodeChar c).toArray = [c].utf8Encode :=
    ByteArray.ext (by simp [List.utf8Encode])
  rw [decodeRune, hone]
  exact List.utf8DecodeChar?_utf8Encode_cons

theorem decodeRune_some {bs : List UInt8} {c : Char} (h : decodeRune bs = some c) :
    ∃ rest, bs = String.utf8EncodeChar c ++ rest := by
  have heq := congrArg (fun b : ByteArray => b.data.toList) (ByteArray.eq_of_utf8DecodeChar?_eq_some h)
  rw [ByteArray.data_append, Array.toList_append] at heq
  exact ⟨_, by simpa using heq⟩

theorem decodeRune_take {bs : List UInt8} {c : Char} {n : ℕ} (h : decodeRune bs = some c)
    (hn : c.utf8Size ≤ n) : decodeRune (bs.take n) = some c := by
  obtain ⟨rest, rfl⟩ := decodeRune_some h
  rw [← String.length_utf8EncodeChar] at hn
  rw [List.take_append, List.take_of_length_le hn]
  exact decodeRune_encode c _

theorem decodeRune_take_none {bs : List UInt8} (h : decodeRune bs = none) (n : ℕ) :
    decodeRune (bs.take n) = none := by
  cases htake : decodeRune (bs.take n) with
  | none => rfl
  | some c =>
    have hwhole := decodeRune_append htake (bs.drop n)
    rw [List.take_append_drop, h] at hwhole
    cases hwhole

theorem utf8Size_le_length {bs : List UInt8} {c : Char} (h : decodeRune bs = some c) : c.utf8Size ≤ bs.length := by
  obtain ⟨rest, rfl⟩ := decodeRune_some h
  rw [List.length_append, String.length_utf8EncodeChar]
  omega

/-- One round of a loop over the runes of a string: the rune, or the byte that starts none. -/
def nextRune (bs : List UInt8) : UInt8 ⊕ Char :=
  match decodeRune bs with
  | none => .inl (bs.headD 0)
  | some c => .inr c

def runeSize : UInt8 ⊕ Char → ℕ
  | .inl _ => 1
  | .inr c => c.utf8Size

def runes : Lexer UInt8 (UInt8 ⊕ Char) where
  next := nextRune
  size := runeSize
  size_pos bs _ := by
    cases nextRune bs with
    | inl b => exact Nat.one_pos
    | inr c => exact c.utf8Size_pos
  size_le bs hne := by
    cases h : decodeRune bs with
    | none =>
      simp only [nextRune, h, runeSize]
      exact List.length_pos_iff.mpr hne
    | some c =>
      simp only [nextRune, h, runeSize]
      exact utf8Size_le_length h
  next_take bs n hne hn := by
    cases h : decodeRune bs with
    | none =>
      simp only [nextRune, h, runeSize] at hn ⊢
      rw [decodeRune_take_none h]
      obtain ⟨b, rest, rfl⟩ := List.exists_cons_of_ne_nil hne
      obtain ⟨m, rfl⟩ := Nat.exists_eq_add_of_le' hn
      rfl
    | some c =>
      simp only [nextRune, h, runeSize] at hn ⊢
      rw [decodeRune_take h hn]

theorem mem_encode {c : Char} {b : UInt8} (h : b ∈ String.utf8EncodeChar c) :
    (c.toNat < 0x80 ∧ b.toNat = c.toNat) ∨ (0x80 ≤ c.toNat ∧ 0x80 ≤ b.toNat) := by
  simp only [String.utf8EncodeChar] at h
  have hc : c.toNat = c.val.toNat := rfl
  rw [hc]
  split at h
  case isTrue hsmall =>
    simp only [List.mem_singleton] at h
    subst h
    left
    refine ⟨by omega, ?_⟩
    rw [UInt8.toNat_ofNat']
    omega
  case isFalse hlarge =>
    right
    refine ⟨by omega, ?_⟩
    split_ifs at h
    all_goals
      simp only [List.mem_cons, List.not_mem_nil, or_false] at h
      rcases h with rfl | rfl | rfl | rfl <;> rw [UInt8.toNat_ofNat'] <;> omega

end AntiFlock.Go
