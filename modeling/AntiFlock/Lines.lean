import Mathlib.Data.Countable.Basic
import Mathlib.Data.List.Infix
import Mathlib.Logic.Equiv.List

set_option autoImplicit false

/-!
# Texts of terminated lines

A journal that is only appended to is a text of lines, each ended by a
terminator, with a torn line behind it where an append was cut short. What is
behind the last terminator can be told from the lines before it.
-/
namespace AntiFlock.Lines
variable {α R : Type} [DecidableEq α] {nl : α}

def newline : UInt8 := 10

def text (nl : α) (lines : List (List α)) : List α := lines.flatMap (· ++ [nl])

def complete (nl : α) (content : List α) : List α := (content.reverse.dropWhile (· ≠ nl)).reverse

def split (nl : α) : List α → List (List α)
  | [] => []
  | c :: rest =>
    if c = nl then [] :: split nl rest
    else
      match split nl rest with
      | [] => [[c]]
      | line :: lines => (c :: line) :: lines

omit [DecidableEq α] in
theorem text_append (lines others : List (List α)) : text nl (lines ++ others) = text nl lines ++ text nl others :=
  List.flatMap_append

omit [DecidableEq α] in
theorem text_singleton (line : List α) : text nl [line] = line ++ [nl] := by
  simp [text]

theorem split_line {line rest : List α} (h : nl ∉ line) :
    split nl (line ++ nl :: rest) = line :: split nl rest := by
  induction line with
  | nil => simp [split]
  | cons c line ih =>
    have hc : c ≠ nl := fun hc => h (hc ▸ List.mem_cons_self)
    have hrest := ih fun hmem => h (List.mem_cons_of_mem _ hmem)
    simp only [List.cons_append, split, hc, if_false, hrest]

theorem split_text {lines : List (List α)} (h : ∀ line ∈ lines, nl ∉ line) : split nl (text nl lines) = lines := by
  induction lines with
  | nil => rfl
  | cons line lines ih =>
    have hrest := ih fun other hother => h other (List.mem_cons_of_mem _ hother)
    have hcons : text nl (line :: lines) = line ++ nl :: text nl lines := by simp [text]
    rw [hcons, split_line (h line List.mem_cons_self), hrest]

theorem complete_of_notMem {tail : List α} (h : nl ∉ tail) : complete nl tail = [] := by
  have hall : ∀ c ∈ tail.reverse, decide (c ≠ nl) = true := by
    intro c hc
    rw [decide_eq_true_eq]
    rintro rfl
    exact h (List.mem_reverse.mp hc)
  have hdrop : (tail.reverse ++ []).dropWhile (· ≠ nl) = [].dropWhile (· ≠ nl) := List.dropWhile_append_of_pos hall
  rw [List.append_nil, List.dropWhile_nil] at hdrop
  rw [complete, hdrop, List.reverse_nil]

theorem complete_text_append {lines : List (List α)} {tail : List α} (h : nl ∉ tail) :
    complete nl (text nl lines ++ tail) = text nl lines := by
  rcases List.eq_nil_or_concat lines with rfl | ⟨front, last, rfl⟩
  · exact complete_of_notMem h
  · have hend : text nl (front ++ [last]) = text nl front ++ last ++ [nl] := by
      rw [text_append, text_singleton, List.append_assoc]
    have htail : ∀ c ∈ tail.reverse, decide (c ≠ nl) = true := by
      intro c hc
      rw [decide_eq_true_eq]
      rintro rfl
      exact h (List.mem_reverse.mp hc)
    rw [List.concat_eq_append, hend, complete, List.reverse_append, List.dropWhile_append_of_pos htail,
      List.reverse_append, List.reverse_singleton, List.singleton_append, List.dropWhile_cons_of_neg (by simp)]
    rw [List.reverse_cons, List.reverse_reverse]

theorem exists_text (nl : α) (content : List α) : ∃ lines tail, content = text nl lines ++ tail ∧
    (∀ line ∈ lines, nl ∉ line) ∧ nl ∉ tail := by
  induction content with
  | nil => exact ⟨[], [], rfl, nofun, nofun⟩
  | cons c content ih =>
    obtain ⟨lines, tail, rfl, hlines, htail⟩ := ih
    by_cases hc : c = nl
    · refine ⟨[] :: lines, tail, by simp [text, hc], ?_, htail⟩
      intro line hline
      rcases List.mem_cons.mp hline with rfl | hline
      · exact List.not_mem_nil
      · exact hlines line hline
    · cases lines with
      | nil =>
        refine ⟨[], c :: tail, rfl, nofun, ?_⟩
        simp [htail, Ne.symm hc]
      | cons first lines =>
        refine ⟨(c :: first) :: lines, tail, by simp [text], ?_, htail⟩
        intro line hline
        rcases List.mem_cons.mp hline with rfl | hline
        · have := hlines first List.mem_cons_self
          simp [this, Ne.symm hc]
        · exact hlines line (List.mem_cons_of_mem _ hline)

theorem complete_complete (nl : α) (content : List α) : complete nl (complete nl content) = complete nl content := by
  obtain ⟨lines, tail, rfl, -, htail⟩ := exists_text nl content
  have hnil : complete nl (text nl lines ++ []) = text nl lines := complete_text_append List.not_mem_nil
  rw [List.append_nil] at hnil
  rw [complete_text_append htail, hnil]

theorem take_complete (nl : α) (content : List α) :
    content.take (complete nl content).length = complete nl content := by
  obtain ⟨lines, tail, rfl, -, htail⟩ := exists_text nl content
  rw [complete_text_append htail, List.take_left]

theorem complete_of_whole {content : List α} (h : content.getLast?.any (· != nl) = false) :
    complete nl content = content := by
  obtain ⟨lines, tail, rfl, -, htail⟩ := exists_text nl content
  rw [complete_text_append htail]
  cases hlast : tail.getLast? with
  | none => rw [List.getLast?_eq_none_iff.mp hlast, List.append_nil]
  | some b =>
    have hne : tail ≠ [] := by
      rintro rfl
      cases hlast
    rw [List.getLast?_append_of_ne_nil _ hne, hlast, Option.any_some, bne_eq_false_iff_eq] at h
    exact absurd (h ▸ List.mem_of_getLast? hlast) htail

omit [DecidableEq α] in
theorem torn_or_whole {line written : List α} (hline : nl ∉ line) (h : written <+: line ++ [nl]) :
    written = line ++ [nl] ∨ nl ∉ written := by
  rcases List.prefix_concat_iff.mp h with hwhole | htorn
  · exact .inl hwhole
  · exact .inr fun hmem => hline (htorn.subset hmem)

omit [DecidableEq α] in
theorem mem_text {lines : List (List α)} (h : lines ≠ []) : nl ∈ text nl lines := by
  obtain ⟨line, rest, rfl⟩ := List.exists_cons_of_ne_nil h
  simp [text]

omit [DecidableEq α] in
theorem getLast?_text_append {lines : List (List α)} (hlines : lines ≠ []) {tail : List α} (h : nl ∉ tail) :
    (text nl lines ++ tail).getLast? = some nl ↔ tail = [] := by
  constructor
  · intro hlast
    by_contra hne
    rw [List.getLast?_append_of_ne_nil _ hne] at hlast
    exact h (List.mem_of_getLast? hlast)
  · rintro rfl
    rcases List.eq_nil_or_concat lines with rfl | ⟨front, last, rfl⟩
    · exact absurd rfl hlines
    · rw [List.append_nil, List.concat_eq_append, text_append, text_singleton, ← List.append_assoc,
        List.getLast?_append_of_ne_nil _ (List.cons_ne_nil _ _), List.getLast?_singleton]

structure Codec (nl : α) (R : Type) where
  encode : R → List α
  decode : List α → Option R
  decode_encode : ∀ r, decode (encode r) = some r
  encode_line : ∀ r, nl ∉ encode r

def Codec.text (codec : Codec nl R) (records : List R) : List α := Lines.text nl (records.map codec.encode)

namespace Codec
variable (codec : Codec nl R)

omit [DecidableEq α] in
theorem text_append (records others : List R) : codec.text (records ++ others) = codec.text records ++ codec.text others := by
  rw [text, List.map_append, Lines.text_append]
  rfl

omit [DecidableEq α] in
theorem text_singleton (r : R) : codec.text [r] = codec.encode r ++ [nl] := Lines.text_singleton _

theorem split_text (records : List R) : split nl (codec.text records) = records.map codec.encode := by
  refine Lines.split_text fun line hline => ?_
  obtain ⟨r, -, rfl⟩ := List.mem_map.mp hline
  exact codec.encode_line r

theorem complete_text (records : List R) {tail : List α} (h : nl ∉ tail) :
    complete nl (codec.text records ++ tail) = codec.text records :=
  complete_text_append h

end Codec

instance countableChar : Countable Char := Function.Injective.countable fun _ _ h => Char.toNat_inj.mp h

instance countableString : Countable String := Function.Injective.countable fun _ _ h => String.toList_injective h

/-- A numbering of countably many records that starts with a given one. -/
noncomputable def number {R : Type} [Countable R] (first r : R) : ℕ :=
  Equiv.swap ((Countable.exists_injective_nat R).choose first) 0 ((Countable.exists_injective_nat R).choose r)

theorem number_injective {R : Type} [Countable R] (first : R) : Function.Injective (number first) :=
  (Equiv.injective _).comp (Countable.exists_injective_nat R).choose_spec

theorem number_first {R : Type} [Countable R] (first : R) : number first first = 0 := Equiv.swap_apply_left _ _

/-- Countably many records can be written as lines, a given one as the empty line. -/
noncomputable def Codec.ofCountable (nl : α) {other : α} (h : other ≠ nl) [Countable R] (first : R) : Codec nl R where
  encode r := List.replicate (number first r) other
  decode line := open Classical in
    if found : ∃ r, number first r = line.length then some found.choose else none
  decode_encode r := by
    have found : ∃ r', number first r' = (List.replicate (number first r) other).length := ⟨r, by simp⟩
    rw [dif_pos found]
    exact congrArg some (number_injective first (found.choose_spec.trans List.length_replicate))
  encode_line r hmem := h (List.eq_of_mem_replicate hmem).symm

def byteText (bs : List UInt8) : String := String.ofList (bs.map fun b => Char.ofNat b.toNat)

def textBytes (s : String) : List UInt8 := s.toList.map fun c => c.toNat.toUInt8

theorem textBytes_byteText (bs : List UInt8) : textBytes (byteText bs) = bs := by
  have hcode : ∀ n < 256, (Char.ofNat n).toNat = n := by decide +kernel
  have hbyte : ∀ b : UInt8, (Char.ofNat b.toNat).toNat.toUInt8 = b := by
    intro b
    rw [hcode b.toNat b.toNat_lt]
    exact UInt8.ofNat_toNat
  simp [byteText, textBytes, Function.comp_def, hbyte]

end AntiFlock.Lines
