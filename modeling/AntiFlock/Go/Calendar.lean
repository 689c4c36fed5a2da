import AntiFlock.Go.Instant
import Mathlib.Data.List.TakeWhile
import Mathlib.Data.Nat.Log
import Mathlib.Tactic.Ring

set_option autoImplicit false

/-!
# RFC 3339 text

The UTC text `time.RFC3339Nano` gives an instant. The text determines the
instant, whatever its year.
-/
namespace AntiFlock.Go.Calendar

def leap (year : ℕ) : Bool := year % 4 == 0 && (year % 100 != 0 || year % 400 == 0)

def yearLengths : List ℕ := (List.range 400).map fun year => if leap year then 366 else 365

def monthLengths (leap : Bool) : List ℕ := [31, if leap then 29 else 28, 31, 30, 31, 30, 31, 31, 30, 31, 30, 31]

/-- The period a day falls into, and the day of that period. -/
def split : List ℕ → ℕ → ℕ × ℕ
  | [], d => (0, d)
  | n :: ns, d => if d < n then (0, d) else ((split ns (d - n)).1 + 1, (split ns (d - n)).2)

theorem split_sum (ns : List ℕ) (d : ℕ) : (ns.take (split ns d).1).sum + (split ns d).2 = d := by
  induction ns generalizing d with
  | nil => simp [split]
  | cons n ns ih =>
    unfold split
    split
    · simp
    · have := ih (d - n)
      simp only [List.take_succ_cons, List.sum_cons]
      omega

theorem split_lt {ns : List ℕ} {d : ℕ} (h : d < ns.sum) :
    (split ns d).1 < ns.length ∧ (split ns d).2 < ns.getD (split ns d).1 0 := by
  induction ns generalizing d with
  | nil => simp at h
  | cons n ns ih =>
    rw [List.sum_cons] at h
    unfold split
    split
    case isTrue hd => simpa using hd
    case isFalse hd =>
      obtain ⟨hindex, hrest⟩ := ih (d := d - n) (by omega)
      rw [List.length_cons, List.getD_cons_succ]
      exact ⟨by omega, hrest⟩

theorem sum_yearLengths : yearLengths.sum = 146097 := by decide +kernel

def perDay : ℤ := 86400 * 1000000000

/-- An instant in UTC; months and days count from zero. -/
@[ext] structure Civil where
  year : ℤ
  month : ℕ
  day : ℕ
  ofDay : ℕ
deriving DecidableEq

def dayNumber (t : ℤ) : ℤ := t / perDay + 719528

def civil (t : Instant) : Civil :=
  let inCycle := split yearLengths (dayNumber t % 146097).toNat
  let inYear := split (monthLengths (leap inCycle.1)) inCycle.2
  ⟨dayNumber t / 146097 * 400 + inCycle.1, inYear.1, inYear.2, (t % perDay).toNat⟩

theorem civil_inj {s t : ℤ} (h : civil s = civil t) : s = t := by
  have hday (t : ℤ) : 0 ≤ dayNumber t % 146097 ∧ dayNumber t % 146097 < 146097 := by omega
  have hcycle (t : ℤ) : (split yearLengths (dayNumber t % 146097).toNat).1 < 400 := by
    have hlt : (dayNumber t % 146097).toNat < yearLengths.sum := by
      rw [sum_yearLengths]
      have := hday t
      omega
    simpa [yearLengths] using (split_lt hlt).1
  simp only [civil, Civil.mk.injEq] at h
  obtain ⟨hyear, hmonth, hdom, hof⟩ := h
  have hs := hcycle s
  have ht := hcycle t
  have hyoe : (split yearLengths (dayNumber s % 146097).toNat).1 =
      (split yearLengths (dayNumber t % 146097).toNat).1 := by omega
  have hera : dayNumber s / 146097 = dayNumber t / 146097 := by omega
  rw [hyoe] at hmonth hdom
  have hdoy : (split yearLengths (dayNumber s % 146097).toNat).2 =
      (split yearLengths (dayNumber t % 146097).toNat).2 := by
    rw [← split_sum (monthLengths _) (split yearLengths (dayNumber s % 146097).toNat).2,
      ← split_sum (monthLengths _) (split yearLengths (dayNumber t % 146097).toNat).2, hmonth, hdom]
  have hdoe : (dayNumber s % 146097).toNat = (dayNumber t % 146097).toNat := by
    rw [← split_sum yearLengths (dayNumber s % 146097).toNat,
      ← split_sum yearLengths (dayNumber t % 146097).toNat, hyoe, hdoy]
  have hnumber : dayNumber s = dayNumber t := by
    have := hday s
    have := hday t
    omega
  simp only [dayNumber, perDay] at hnumber hof
  omega

def digits : ℕ → ℕ → List Char
  | 0, _ => []
  | w + 1, n => digits w (n / 10) ++ [Nat.digitChar (n % 10)]

@[simp] theorem length_digits (w n : ℕ) : (digits w n).length = w := by
  induction w generalizing n with
  | zero => rfl
  | succ w ih => simp [digits, ih]

theorem digitChar_inj : ∀ m < 10, ∀ n < 10, Nat.digitChar m = Nat.digitChar n → m = n := by decide

theorem digits_inj {w m n : ℕ} (hm : m < 10 ^ w) (hn : n < 10 ^ w) (h : digits w m = digits w n) : m = n := by
  induction w generalizing m n with
  | zero => omega
  | succ w ih =>
    rw [pow_succ] at hm hn
    simp only [digits] at h
    obtain ⟨hinit, hlast⟩ := List.append_inj' h rfl
    have hquot := ih (m := m / 10) (n := n / 10) (by omega) (by omega) hinit
    have hrem := digitChar_inj (m % 10) (by omega) (n % 10) (by omega) (List.cons.inj hlast).1
    omega

def isDigit (c : Char) : Bool := '0'.toNat ≤ c.toNat && c.toNat ≤ '9'.toNat

theorem isDigit_digits (w n : ℕ) : ∀ c ∈ digits w n, isDigit c = true := by
  have hdigit : ∀ m < 10, isDigit (Nat.digitChar m) = true := by decide
  induction w generalizing n with
  | zero => simp [digits]
  | succ w ih =>
    intro c hc
    rcases List.mem_append.mp hc with hc | hc
    · exact ih _ c hc
    · rw [List.mem_singleton.mp hc]
      exact hdigit _ (Nat.mod_lt _ (by decide))

def yearWidth (n : ℕ) : ℕ := max 4 (Nat.log 10 n + 1)

theorem lt_pow_yearWidth (n : ℕ) : n < 10 ^ yearWidth n :=
  (Nat.lt_pow_succ_log_self (by decide) n).trans_le
    (Nat.pow_le_pow_right (by decide) (Nat.le_max_right _ _))

def yearChars (year : ℤ) : List Char :=
  (if year < 0 then ['-'] else []) ++ digits (yearWidth year.natAbs) year.natAbs

theorem digits_append_inj {a b x y : List Char} (ha : ∀ c ∈ a, isDigit c = true)
    (hb : ∀ c ∈ b, isDigit c = true) (h : a ++ '-' :: x = b ++ '-' :: y) : a = b ∧ x = y := by
  have hdash : isDigit '-' = false := by decide
  induction a generalizing b with
  | nil =>
    cases b with
    | nil => exact ⟨rfl, (List.cons.inj h).2⟩
    | cons d b =>
      have hd := hb d List.mem_cons_self
      rw [← (List.cons.inj h).1, hdash] at hd
      cases hd
  | cons c a ih =>
    cases b with
    | nil =>
      have hc := ha c List.mem_cons_self
      rw [(List.cons.inj h).1, hdash] at hc
      cases hc
    | cons d b =>
      obtain ⟨hcd, hrest⟩ := List.cons.inj h
      obtain ⟨hab, hxy⟩ := ih (fun c hc => ha c (List.mem_cons_of_mem _ hc))
        (fun c hc => hb c (List.mem_cons_of_mem _ hc)) hrest
      exact ⟨by rw [hcd, hab], hxy⟩

theorem yearChars_append_inj {m n : ℤ} {x y : List Char}
    (h : yearChars m ++ '-' :: x = yearChars n ++ '-' :: y) : m = n ∧ x = y := by
  have hpart (n : ℤ) := isDigit_digits (yearWidth n.natAbs) n.natAbs
  have hdash : isDigit '-' = false := by decide
  have hnumber {a b : ℕ} (hab : digits (yearWidth a) a = digits (yearWidth b) b) : a = b := by
    have hwidth : yearWidth a = yearWidth b := by
      rw [← length_digits (yearWidth a) a, ← length_digits (yearWidth b) b, hab]
    have ha := lt_pow_yearWidth a
    rw [hwidth] at hab ha
    exact digits_inj ha (lt_pow_yearWidth b) hab
  -- A text of digits does not start with a sign.
  have hsign {a : ℕ} {x y : List Char} (ha : digits (yearWidth a) a ++ '-' :: x = '-' :: y) : False := by
    cases hd : digits (yearWidth a) a with
    | nil =>
      have hlen := length_digits (yearWidth a) a
      rw [hd, yearWidth, List.length_nil] at hlen
      omega
    | cons c rest =>
      have hc := isDigit_digits (yearWidth a) a c (by rw [hd]; exact List.mem_cons_self)
      rw [hd] at ha
      rw [(List.cons.inj ha).1, hdash] at hc
      cases hc
  unfold yearChars at h
  by_cases hm : m < 0 <;> by_cases hn : n < 0
  · simp only [hm, hn, if_true, List.cons_append, List.nil_append, List.cons.injEq, true_and] at h
    obtain ⟨hdigits, hxy⟩ := digits_append_inj (hpart m) (hpart n) h
    have := hnumber hdigits
    exact ⟨by omega, hxy⟩
  · simp only [hm, hn, if_true, if_false, List.cons_append, List.nil_append] at h
    exact (hsign h.symm).elim
  · simp only [hm, hn, if_true, if_false, List.cons_append, List.nil_append] at h
    exact (hsign h).elim
  · simp only [hm, hn, if_false, List.nil_append] at h
    obtain ⟨hdigits, hxy⟩ := digits_append_inj (hpart m) (hpart n) h
    have := hnumber hdigits
    exact ⟨by omega, hxy⟩

def trimZeros (cs : List Char) : List Char := (cs.reverse.dropWhile (· == '0')).reverse

theorem trimZeros_inj {a b : List Char} (hlen : a.length = b.length) (h : trimZeros a = trimZeros b) : a = b := by
  have hback (a : List Char) : a = trimZeros a ++ List.replicate (a.length - (trimZeros a).length) '0' := by
    have hzeros : ∀ c ∈ a.reverse.takeWhile (· == '0'), c = '0' := by
      intro c hc
      simpa using List.mem_takeWhile_imp hc
    have hparts := List.takeWhile_append_dropWhile (p := (· == '0')) (l := a.reverse)
    have hrev := congrArg List.reverse hparts
    rw [List.reverse_append, List.reverse_reverse] at hrev
    have hrep : (a.reverse.takeWhile (· == '0')).reverse =
        List.replicate (a.length - (trimZeros a).length) '0' := by
      rw [List.eq_replicate_iff]
      refine ⟨?_, fun c hc => hzeros c (List.mem_reverse.mp hc)⟩
      have hl := congrArg List.length hrev
      rw [List.length_append] at hl
      unfold trimZeros
      omega
    rw [← hrep]
    exact hrev.symm
  rw [hback a, hback b, h, hlen]

def fraction (nanos : ℕ) : List Char :=
  if nanos = 0 then [] else '.' :: trimZeros (digits 9 nanos)

theorem fraction_inj {m n : ℕ} (hm : m < 10 ^ 9) (hn : n < 10 ^ 9) (h : fraction m = fraction n) : m = n := by
  unfold fraction at h
  split_ifs at h with hm0 hn0 hn0
  · omega
  · exact digits_inj hm hn (trimZeros_inj (by simp) (List.cons.inj h).2)

def perSecond : ℕ := 1000000000

def clock (ofDay : ℕ) : List Char :=
  digits 2 (ofDay / perSecond / 3600) ++ ':' :: digits 2 (ofDay / perSecond / 60 % 60) ++
    ':' :: digits 2 (ofDay / perSecond % 60) ++ fraction (ofDay % perSecond)

theorem clock_inj {m n : ℕ} (hm : m < 86400 * perSecond) (hn : n < 86400 * perSecond)
    (h : clock m = clock n) : m = n := by
  simp only [clock, List.append_assoc, List.cons_append] at h
  obtain ⟨hhours, h⟩ := List.append_inj h (by simp)
  obtain ⟨hminutes, h⟩ := List.append_inj (List.cons.inj h).2 (by simp)
  obtain ⟨hseconds, hfraction⟩ := List.append_inj (List.cons.inj h).2 (by simp)
  simp only [perSecond] at hm hn hhours hminutes hseconds hfraction
  have h1 := digits_inj (by omega) (by omega) hhours
  have h2 := digits_inj (by omega) (by omega) hminutes
  have h3 := digits_inj (by omega) (by omega) hseconds
  have h4 := fraction_inj (by omega) (by omega) hfraction
  omega

theorem month_day_lt (t : ℤ) : (civil t).month < 12 ∧ (civil t).day < 31 := by
  have hlt : (dayNumber t % 146097).toNat < yearLengths.sum := by
    rw [sum_yearLengths]
    omega
  obtain ⟨hyoe, hdoy⟩ := split_lt hlt
  have hlength : ∀ year < 400, yearLengths.getD year 0 = (monthLengths (leap year)).sum := by
    intro year hyear
    rw [yearLengths, List.getD_eq_getElem?_getD, List.getElem?_map, List.getElem?_range hyear]
    change (if leap year then 366 else 365) = _
    cases leap year <;> rfl
  rw [hlength _ (by simpa [yearLengths] using hyoe)] at hdoy
  obtain ⟨hmonth, hday⟩ := split_lt hdoy
  have hlong : ∀ leap month, (monthLengths leap).getD month 0 ≤ 31 := by
    intro leap month
    rcases Nat.lt_or_ge month 12 with hm | hm
    · revert month
      cases leap <;> decide
    · rw [List.getD_eq_getElem?_getD, List.getElem?_eq_none (by simpa [monthLengths] using hm)]
      exact Nat.zero_le _
  refine ⟨hmonth, ?_⟩
  have := hlong (leap (split yearLengths (dayNumber t % 146097).toNat).1)
    (split (monthLengths (leap (split yearLengths (dayNumber t % 146097).toNat).1))
      (split yearLengths (dayNumber t % 146097).toNat).2).1
  change (split (monthLengths _) _).2 < 31
  omega

def civilChars (c : Civil) : List Char :=
  yearChars c.year ++ '-' :: (digits 2 (c.month + 1) ++ '-' :: digits 2 (c.day + 1) ++ 'T' ::
    clock c.ofDay ++ ['Z'])

/-- `formatTime`: the instant in UTC as RFC 3339 text with the nanoseconds it needs. -/
def formatTime (t : Instant) : String := String.ofList (civilChars (civil t))

example : civilChars (civil (-1)) = "1969-12-31T23:59:59.999999999Z".toList := by decide +kernel

theorem formatTime_inj {s t : ℤ} (h : formatTime s = formatTime t) : s = t := by
  have hchars : civilChars (civil s) = civilChars (civil t) := String.ofList_injective h
  have hof (t : ℤ) : (civil t).ofDay < 86400 * perSecond := by
    simp only [civil, perDay, perSecond]
    omega
  have hs := month_day_lt s
  have ht := month_day_lt t
  simp only [civilChars, List.append_assoc, List.cons_append] at hchars
  obtain ⟨hyear, hchars⟩ := yearChars_append_inj hchars
  obtain ⟨hmonth, hchars⟩ := List.append_inj hchars (by simp)
  obtain ⟨hday, hchars⟩ := List.append_inj (List.cons.inj hchars).2 (by simp)
  obtain ⟨hclock, -⟩ := List.append_inj' (List.cons.inj hchars).2 rfl
  have h1 := digits_inj (by omega) (by omega) hmonth
  have h2 := digits_inj (by omega) (by omega) hday
  have h3 := clock_inj (hof s) (hof t) hclock
  exact civil_inj (Civil.ext hyear (by omega) (by omega) h3)

end AntiFlock.Go.Calendar
