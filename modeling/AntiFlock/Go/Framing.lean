import AntiFlock.Go.Sha256
import Mathlib.Data.List.Basic

set_option autoImplicit false

/-!
# Length-prefixed fields

A text made of fields, each with its length in four bytes before it, can be read
back as long as the fields are short enough for their lengths to fit.
-/
namespace AntiFlock.Go

namespace Sha256

theorem beBytes_mod (n v w : ℕ) (h : beBytes n v = beBytes n w) : v % 256 ^ n = w % 256 ^ n := by
  induction n with
  | zero => rw [pow_zero, Nat.mod_one, Nat.mod_one]
  | succ n ih =>
    simp only [beBytes, List.cons.injEq] at h
    obtain ⟨hhead, htail⟩ := h
    have hbyte := congrArg UInt8.toNat hhead
    rw [UInt8.toNat_ofNat', UInt8.toNat_ofNat', Nat.shiftRight_eq_div_pow, Nat.shiftRight_eq_div_pow, pow_mul] at hbyte
    rw [pow_succ, Nat.mod_mul, Nat.mod_mul, ih htail]
    exact congrArg (fun byte => w % 256 ^ n + 256 ^ n * byte) hbyte

theorem beBytes_inj {n v w : ℕ} (hv : v < 256 ^ n) (hw : w < 256 ^ n) (h : beBytes n v = beBytes n w) : v = w := by
  have hmod := beBytes_mod n v w h
  rwa [Nat.mod_eq_of_lt hv, Nat.mod_eq_of_lt hw] at hmod

end Sha256

open Sha256

def lengthPrefixed (fields : List (List UInt8)) : List UInt8 :=
  fields.flatMap fun field => Sha256.beBytes 4 field.length ++ field

theorem lengthPrefixed_cons (field : List UInt8) (fields : List (List UInt8)) :
    lengthPrefixed (field :: fields) = beBytes 4 field.length ++ (field ++ lengthPrefixed fields) := by
  simp [lengthPrefixed]

theorem lengthPrefixed_append (fields others : List (List UInt8)) :
    lengthPrefixed (fields ++ others) = lengthPrefixed fields ++ lengthPrefixed others :=
  List.flatMap_append

theorem length_of_lengthPrefixed {field field' : List UInt8} {fields fields' : List (List UInt8)}
    (hfield : field.length < 256 ^ 4) (hfield' : field'.length < 256 ^ 4)
    (h : lengthPrefixed (field :: fields) = lengthPrefixed (field' :: fields')) : field.length = field'.length := by
  rw [lengthPrefixed_cons, lengthPrefixed_cons] at h
  exact beBytes_inj hfield hfield' (List.append_inj h (by simp)).1

def Short (fields : List (List UInt8)) : Prop := ∀ field ∈ fields, field.length < 256 ^ 4

theorem Short.nil : Short [] := nofun

theorem Short.cons {field : List UInt8} {fields : List (List UInt8)} (hfield : field.length < 256 ^ 4)
    (hfields : Short fields) : Short (field :: fields) := List.forall_mem_cons.mpr ⟨hfield, hfields⟩

theorem Short.append {fields others : List (List UInt8)} (hfields : Short fields) (hothers : Short others) :
    Short (fields ++ others) := List.forall_mem_append.mpr ⟨hfields, hothers⟩

theorem lengthPrefixed_injOn {fields others : List (List UInt8)} (hfields : Short fields) (hothers : Short others)
    (h : lengthPrefixed fields = lengthPrefixed others) : fields = others := by
  have hcons (field : List UInt8) (fields : List (List UInt8)) : lengthPrefixed (field :: fields) ≠ [] := by
    intro hnil
    have := congrArg List.length hnil
    simp [lengthPrefixed_cons] at this
  induction fields generalizing others with
  | nil =>
    cases others with
    | nil => rfl
    | cons other others => exact absurd h.symm (hcons other others)
  | cons field fields ih =>
    cases others with
    | nil => exact absurd h (hcons field fields)
    | cons other others =>
      have hlength := length_of_lengthPrefixed (hfields _ List.mem_cons_self) (hothers _ List.mem_cons_self) h
      rw [lengthPrefixed_cons, lengthPrefixed_cons, hlength] at h
      obtain ⟨hfield, htail⟩ := List.append_inj (List.append_cancel_left h) hlength
      rw [hfield, ih (List.forall_mem_cons.mp hfields).2 (List.forall_mem_cons.mp hothers).2 htail]

def counted (items : List (List UInt8)) : List (List UInt8) := beBytes 8 items.length :: items

theorem counted_append_inj {items items' rest rest' : List (List UInt8)} (hitems : items.length < 256 ^ 8)
    (hitems' : items'.length < 256 ^ 8) (h : counted items ++ rest = counted items' ++ rest') :
    items = items' ∧ rest = rest' := by
  obtain ⟨hcount, happended⟩ := List.cons.inj h
  exact List.append_inj happended (beBytes_inj hitems hitems' hcount)

end AntiFlock.Go
