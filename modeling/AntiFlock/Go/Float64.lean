import AntiFlock.Go.Text
import Mathlib.Tactic.NormNum

set_option autoImplicit false

/-!
# Machine numbers and numerals

A `float64` is given by its bits; it is compared by the exact value they stand
for. An `int64` is Lean's `Int64`; the lemmas here say when its arithmetic is
exact. Decimal numerals determine their numbers.
-/
namespace AntiFlock.Go

structure Float64 where
  bits : UInt64
deriving DecidableEq

namespace Float64

def negative (x : Float64) : Bool := 2 ^ 63 ≤ x.bits.toNat

def exponent (x : Float64) : ℕ := x.bits.toNat / 2 ^ 52 % 2048

def fraction (x : Float64) : ℕ := x.bits.toNat % 2 ^ 52

def isNaN (x : Float64) : Bool := x.exponent = 2047 && x.fraction ≠ 0

def isInf (x : Float64) : Bool := x.exponent = 2047 && x.fraction = 0

/-- The magnitude in units of the least positive number. An infinity is above every finite number. -/
def magnitude (x : Float64) : ℕ :=
  if x.exponent = 0 then x.fraction else (2 ^ 52 + x.fraction) * 2 ^ (x.exponent - 1)

def scaled (x : Float64) : ℤ := if x.negative then -x.magnitude else x.magnitude

def lt (x y : Float64) : Bool := !x.isNaN && !y.isNaN && x.scaled < y.scaled

def le (x y : Float64) : Bool := !x.isNaN && !y.isNaN && x.scaled ≤ y.scaled

def eq (x y : Float64) : Bool := !x.isNaN && !y.isNaN && x.scaled = y.scaled

def zero : Float64 := ⟨0⟩

def one : Float64 := ⟨0x3ff0000000000000⟩

end Float64

theorem toInt_add_of_le {x y : Int64} (hy : 0 ≤ y.toInt) (h : x.toInt + y.toInt ≤ Int64.maxValue.toInt) :
    (x + y).toInt = x.toInt + y.toInt := by
  have hx := x.le_toInt
  rw [Int64.toInt_maxValue] at h
  rw [Int64.toInt_add, Int.bmod_eq_of_le] <;> omega

theorem toInt_sub_of_nonneg {x y : Int64} (hx : 0 ≤ x.toInt) (hy : 0 ≤ y.toInt) :
    (x - y).toInt = x.toInt - y.toInt := by
  have hx' := x.toInt_lt
  have hy' := y.toInt_lt
  rw [Int64.toInt_sub, Int.bmod_eq_of_le] <;> omega

theorem toInt_mul_of_le {x y : Int64} (hx : 0 ≤ x.toInt) (hy : 0 ≤ y.toInt)
    (h : x.toInt * y.toInt ≤ Int64.maxValue.toInt) : (x * y).toInt = x.toInt * y.toInt := by
  have hxy := Int.mul_nonneg hx hy
  rw [Int64.toInt_maxValue] at h
  rw [Int64.toInt_mul, Int.bmod_eq_of_le] <;> omega

theorem toInt_div_of_pos {x y : Int64} (hx : 0 ≤ x.toInt) (hy : 0 < y.toInt) :
    (x / y).toInt = x.toInt / y.toInt := by
  have hquotient := Int.ediv_le_self y.toInt hx
  have hnonneg := Int.ediv_nonneg hx hy.le
  have hx' := x.toInt_lt
  rw [Int64.toInt_div, Int.tdiv_eq_ediv_of_nonneg hx, Int.bmod_eq_of_le] <;> omega

/-! ## Numerals -/

def digitValue (b : UInt8) : Option ℕ := if between '0' '9' b then some (b.toNat - 48) else none

def decimal : List UInt8 → Option ℕ
  | [] => none
  | bs => (bs.mapM digitValue).map fun ds => ds.foldl (fun n d => 10 * n + d) 0

/-- `strconv.ParseInt` to base 10 and 64 bits. -/
def parseInt (text : List UInt8) : Option Int64 :=
  let inRange (n : ℤ) : Option Int64 :=
    if Int64.minValue.toInt ≤ n ∧ n ≤ Int64.maxValue.toInt then some (Int64.ofInt n) else none
  match text with
  | 45 :: ds => (decimal ds).bind fun n => inRange (-n)
  | 43 :: ds => (decimal ds).bind fun n => inRange n
  | ds => (decimal ds).bind fun n => inRange n

theorem numeral_inj {m n : ℕ} (h : toString m = toString n) : m = n := by
  have hchars : Nat.toDigits 10 m = Nat.toDigits 10 n := String.ofList_injective h
  have hvalue := congrArg (fun cs => Nat.ofDigitChars 10 cs 0) hchars
  simpa using hvalue

theorem numeral_digit {n : ℕ} {c : Char} (hc : c ∈ (toString n).toList) : c.isDigit = true := by
  have hdigits : (toString n).toList = Nat.toDigits 10 n := String.toList_ofList
  rw [hdigits] at hc
  exact Nat.isDigit_of_mem_toDigits (by decide) (by decide) hc

theorem integer_chars (i : ℤ) : (∃ n : ℕ, i = n ∧ toString i = toString n) ∨
    ∃ n : ℕ, i = -n ∧ toString i = "-" ++ toString n := by
  cases i with
  | ofNat n => exact .inl ⟨n, rfl, rfl⟩
  | negSucc n => exact .inr ⟨n + 1, rfl, rfl⟩

theorem integer_inj {i j : ℤ} (h : toString i = toString j) : i = j := by
  have hminus (m n : ℕ) : toString m ≠ "-" ++ toString n := by
    intro heq
    have hmem : '-' ∈ (toString m).toList := by
      rw [heq, String.toList_append]
      exact List.mem_append_left _ (by simp)
    exact absurd (numeral_digit hmem) (by decide)
  rcases integer_chars i with ⟨m, rfl, hm⟩ | ⟨m, rfl, hm⟩ <;>
    rcases integer_chars j with ⟨n, rfl, hn⟩ | ⟨n, rfl, hn⟩ <;> rw [hm, hn] at h
  · rw [numeral_inj h]
  · exact absurd h (hminus m n)
  · exact absurd h.symm (hminus n m)
  · rw [numeral_inj (String.append_right_inj "-" |>.mp h)]

end AntiFlock.Go
