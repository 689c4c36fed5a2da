import Mathlib.Algebra.Order.Ring.Int

set_option autoImplicit false

/-!
# Instants

A `time.Time` as the nanoseconds between the Unix epoch and it. Only instants
are modelled: locations do not matter to comparisons, and every text the
program stores is in UTC.
-/
namespace AntiFlock.Go

abbrev Instant := ℤ

namespace Instant

def perSecond : ℤ := 1000000000

def ofUnix (seconds : ℤ) : Instant := seconds * perSecond

/-- `time.Time{}`: the first instant of year 1. -/
def zero : Instant := ofUnix (-62135596800)

/-- `time.Unix(seconds, 0)`. The seconds since year 1 are counted in 64 bits. -/
def unix (seconds : Int64) : Instant := ofUnix ((seconds + 62135596800).toInt - 62135596800)

/-- `Add` of a duration that is not negative, which stops at the last second there is. -/
def add (t : Instant) (d : ℤ) : Instant :=
  let latest := Int64.maxValue.toInt - 62135596800
  if latest < (t + d) / perSecond then ofUnix latest + (t + d) % perSecond else t + d

def isZero (t : Instant) : Bool := t == zero

/-- `UnixNano`, in 64-bit arithmetic. -/
def unixNano (t : Instant) : ℤ := Int.bmod t (2 ^ 64)

/-- The instants `UnixNano` tells apart. -/
def InNanoRange (t : Instant) : Prop := -(2 ^ 63 : ℤ) ≤ t ∧ (2 ^ 63 : ℤ) > t

instance (t : Instant) : Decidable t.InNanoRange :=
  inferInstanceAs (Decidable (_ ∧ _))

theorem unixNano_of_inNanoRange {t : ℤ} (h : InNanoRange t) : unixNano t = t := by
  obtain ⟨hlow, hhigh⟩ := h
  unfold unixNano
  rw [Int.bmod_eq_of_le] <;> omega

def endOfYears : Instant := ofUnix 253402300800

/-- What `timestamppb.CheckValid` accepts: years 1 to 9999. -/
def protoValid (t : Instant) : Bool := zero ≤ t && t < endOfYears

/-- Years 0 to 9999, the instants whose RFC 3339 text `time.Parse` reads back. -/
def Parses (t : Instant) : Prop := ofUnix (-62167219200) ≤ t ∧ t < endOfYears

instance (t : Instant) : Decidable t.Parses :=
  inferInstanceAs (Decidable (_ ∧ _))

theorem parses_of_inNanoRange {t : ℤ} (h : InNanoRange t) : Parses t := by
  obtain ⟨hlow, hhigh⟩ := h
  constructor
  · change (-62167219200 * 1000000000 : ℤ) ≤ t
    omega
  · change t < (253402300800 * 1000000000 : ℤ)
    omega

theorem add_unix_of_parses {seconds : Int64} {d : ℤ} (hd : 0 ≤ d) (hd' : d < 2 ^ 63)
    (h : Parses ((unix seconds).add d)) :
    (seconds + 62135596800).toInt = seconds.toInt + 62135596800 ∧
      (unix seconds).add d = ofUnix seconds.toInt + d := by
  have hlow := seconds.le_toInt
  have hhigh := seconds.toInt_lt
  have hsum : (seconds + 62135596800).toInt = seconds.toInt + 62135596800 ∨
      (seconds + 62135596800).toInt = seconds.toInt + 62135596800 - 2 ^ 64 := by
    rw [Int64.toInt_add, show (62135596800 : Int64).toInt = 62135596800 from by decide]
    rcases lt_or_ge (seconds.toInt + 62135596800) (2 ^ 63) with hfits | hwraps
    · exact .inl (Int.bmod_eq_of_le (by omega) (by omega))
    · refine .inr ?_
      rw [← Int.sub_bmod_right]
      exact Int.bmod_eq_of_le (by omega) (by omega)
  have hmax : Int64.maxValue.toInt = 2 ^ 63 - 1 := by decide
  obtain ⟨hfrom, hto⟩ := h
  generalize hshifted : (seconds + 62135596800).toInt = shifted at hsum
  obtain ⟨total, htotal⟩ : ∃ total : ℤ, total = (unix seconds).add d := ⟨_, rfl⟩
  rw [← htotal] at hfrom hto ⊢
  -- the last second there is lies beyond year 9999
  have hadd : total = (shifted - 62135596800) * 1000000000 + d ∨ 253402300800 * 1000000000 ≤ total := by
    simp only [add, hmax, unix, hshifted, ofUnix, perSecond] at htotal
    split at htotal
    all_goals omega
  change -62167219200 * 1000000000 ≤ total at hfrom
  change total < 253402300800 * 1000000000 at hto
  have hfits : shifted = seconds.toInt + 62135596800 := by omega
  refine ⟨hfits, ?_⟩
  change total = seconds.toInt * 1000000000 + d
  omega

end Instant
end AntiFlock.Go
