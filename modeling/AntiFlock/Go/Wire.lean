import AntiFlock.Go.Text
import Mathlib.Data.List.Sort

set_option autoImplicit false

/-!
# Protocol buffer encoding

The deterministic encoding of the message parts the programs hash or measure.
Proto3 leaves out a scalar field that holds its zero value, so every scalar
encoder returns nothing for it.
-/
namespace AntiFlock.Go.Wire

/-- Base-128 groups of a 64-bit value, least significant first. -/
def varintGroups : ℕ → ℕ → List UInt8
  | 0, _ => []
  | n + 1, v =>
    if v < 128 then [UInt8.ofNat v] else UInt8.ofNat (v % 128 + 128) :: varintGroups n (v / 128)

def varint (v : ℕ) : List UInt8 := varintGroups 10 (v % 2 ^ 64)

def tag (field kind : ℕ) : List UInt8 := varint (8 * field + kind)

def delimited (field : ℕ) (payload : List UInt8) : List UInt8 :=
  tag field 2 ++ varint payload.length ++ payload

theorem length_varintGroups_le (n v : ℕ) : (varintGroups n v).length ≤ n := by
  induction n generalizing v with
  | zero => exact Nat.le_refl 0
  | succ n ih =>
    unfold varintGroups
    split
    · simp
    · simpa using ih (v / 128)

theorem length_varint_le (v : ℕ) : (varint v).length ≤ 10 := length_varintGroups_le 10 _

theorem varintGroups_append_inj {n v w : ℕ} {x y : List UInt8} (hv : v < 128 ^ n) (hw : w < 128 ^ n)
    (h : varintGroups n v ++ x = varintGroups n w ++ y) : v = w ∧ x = y := by
  induction n generalizing v w with
  | zero =>
    rw [pow_zero, Nat.lt_one_iff] at hv hw
    exact ⟨hv.trans hw.symm, h⟩
  | succ n ih =>
    have hbyte {a b : ℕ} (ha : a < 256) (hb : b < 256) (hab : UInt8.ofNat a = UInt8.ofNat b) : a = b := by
      have := congrArg UInt8.toNat hab
      simpa [Nat.mod_eq_of_lt ha, Nat.mod_eq_of_lt hb] using this
    unfold varintGroups at h
    split at h <;> split at h
    all_goals
      simp only [List.cons_append, List.nil_append, List.cons.injEq] at h
      obtain ⟨hfirst, hrest⟩ := h
      have hgroup := hbyte (by omega) (by omega) hfirst
    · exact ⟨hgroup, hrest⟩
    · omega
    · omega
    · rw [pow_succ] at hv hw
      obtain ⟨hquot, hx⟩ := ih (Nat.div_lt_of_lt_mul (by omega)) (Nat.div_lt_of_lt_mul (by omega)) hrest
      exact ⟨by omega, hx⟩

theorem varint_append_inj {v w : ℕ} {x y : List UInt8} (hv : v < 2 ^ 64) (hw : w < 2 ^ 64)
    (h : varint v ++ x = varint w ++ y) : v = w ∧ x = y := by
  rw [varint, varint, Nat.mod_eq_of_lt hv, Nat.mod_eq_of_lt hw] at h
  exact varintGroups_append_inj (by omega) (by omega) h

theorem delimited_append_inj {field : ℕ} {p q x y : List UInt8} (hp : p.length < 2 ^ 64) (hq : q.length < 2 ^ 64)
    (h : delimited field p ++ x = delimited field q ++ y) : p = q ∧ x = y := by
  simp only [delimited, List.append_assoc] at h
  obtain ⟨hlength, hrest⟩ := varint_append_inj hp hq (List.append_cancel_left h)
  exact List.append_inj hrest hlength

def uint (field v : ℕ) : List UInt8 := if v = 0 then [] else tag field 0 ++ varint v

def int (field : ℕ) (v : ℤ) : List UInt8 := uint field (v % 2 ^ 64).toNat

def bool (field : ℕ) (b : Bool) : List UInt8 := if b then tag field 0 ++ varint 1 else []

def raw (field : ℕ) (payload : List UInt8) : List UInt8 :=
  if payload = [] then [] else delimited field payload

def str (field : ℕ) (s : String) : List UInt8 := raw field (bytes s)

def strs (field : ℕ) (ss : List String) : List UInt8 :=
  ss.flatMap fun s => delimited field (bytes s)

def message (field : ℕ) (payload : Option (List UInt8)) : List UInt8 :=
  match payload with
  | none => []
  | some payload => delimited field payload

def messages (field : ℕ) (payloads : List (List UInt8)) : List UInt8 :=
  payloads.flatMap (delimited field)

def packed (field : ℕ) (vs : List ℕ) : List UInt8 := raw field (vs.flatMap varint)

/-- `google.protobuf.Value`; a number is held by its IEEE 754 bits. -/
inductive Value where
  | null
  | number (bits : ℕ)
  | string (s : String)
  | bool (b : Bool)
  | struct (fields : List (String × Value))
  | list (values : List Value)
deriving Inhabited

/-- Map entries in key order, as deterministic marshalling writes them. -/
def mapEntries (entries : List (String × List UInt8)) : List UInt8 :=
  (entries.insertionSort fun a b => ¬ b.1 < a.1).flatMap fun e =>
    delimited 1 (delimited 1 (bytes e.1) ++ delimited 2 e.2)

mutual

def Value.encode : Value → List UInt8
  | .null => tag 1 0 ++ varint 0
  | .number bits => tag 2 1 ++ (Sha256.beBytes 8 bits).reverse
  | .string s => delimited 3 (bytes s)
  | .bool b => tag 4 0 ++ varint b.toNat
  | .struct fields => delimited 5 (mapEntries (encodeFields fields))
  | .list values => delimited 6 (encodeValues values)

def encodeFields : List (String × Value) → List (String × List UInt8)
  | [] => []
  | (key, value) :: rest => (key, value.encode) :: encodeFields rest

def encodeValues : List Value → List UInt8
  | [] => []
  | value :: rest => delimited 1 value.encode ++ encodeValues rest

end

/-- `google.protobuf.Struct`. -/
structure Struct where
  fields : List (String × Value)
deriving Inhabited

def Struct.encode (s : Struct) : List UInt8 := mapEntries (encodeFields s.fields)

def Struct.get (s : Struct) (key : String) : Option Value := s.fields.lookup key

example : (Struct.mk [("b", .bool true), ("a", .string "x")]).encode =
    [10, 8, 10, 1, 97, 18, 3, 26, 1, 120, 10, 7, 10, 1, 98, 18, 2, 32, 1] := by decide

end AntiFlock.Go.Wire
