import AntiFlock.Go.Text

set_option autoImplicit false

/-!
# Escaped paths

The path of a URL as it is sent, with percent escapes. The whole path can be
unescaped, or it can be cut at its slashes first and each segment unescaped: a
slash that was escaped is then inside a segment.
-/
namespace AntiFlock.Go.Url

def slash : UInt8 := 47

def percent : UInt8 := 37

def unhex (b : UInt8) : Option ℕ :=
  if between '0' '9' b then some (b.toNat - '0'.toNat)
  else if between 'a' 'f' b then some (b.toNat - 'a'.toNat + 10)
  else if between 'A' 'F' b then some (b.toNat - 'A'.toNat + 10)
  else none

/-- `url.PathUnescape`. -/
def unescape : List UInt8 → Option (List UInt8)
  | [] => some []
  | [b] => if b = percent then none else some [b]
  | [b, c] => if b = percent ∨ c = percent then none else some [b, c]
  | b :: high :: low :: rest =>
    if b = percent then
      match unhex high, unhex low with
      | some h, some l => (unescape rest).map (UInt8.ofNat (16 * h + l) :: ·)
      | _, _ => none
    else (unescape (high :: low :: rest)).map (b :: ·)

def segments : List UInt8 → List (List UInt8)
  | [] => [[]]
  | b :: rest =>
    if b = slash then [] :: segments rest
    else
      match segments rest with
      | [] => [[b]]
      | segment :: others => (b :: segment) :: others

def join (parts : List (List UInt8)) : List UInt8 := parts.flatMap (slash :: ·)

theorem segments_slash (rest : List UInt8) : segments (slash :: rest) = [] :: segments rest := by
  simp [segments]

theorem segments_ne_nil (path : List UInt8) : segments path ≠ [] := by
  cases path with
  | nil => simp [segments]
  | cons b rest =>
    simp only [segments]
    split
    · simp
    · split <;> simp

theorem segments_cons {b : UInt8} (hb : b ≠ slash) {rest segment : List UInt8} {others : List (List UInt8)}
    (h : segments rest = segment :: others) : segments (b :: rest) = (b :: segment) :: others := by
  simp [segments, hb, h]

theorem unhex_slash : unhex slash = none := by decide

theorem unescape_cons {b : UInt8} (hb : b ≠ percent) (rest : List UInt8) :
    unescape (b :: rest) = (unescape rest).map (b :: ·) := by
  match rest with
  | [] => simp [unescape, hb]
  | [c] =>
    by_cases hc : c = percent
    · simp [unescape, hb, hc]
    · simp [unescape, hb, hc]
  | high :: low :: rest => rw [unescape, if_neg hb]

theorem unescape_percent {high low : UInt8} {h l : ℕ} (hhigh : unhex high = some h) (hlow : unhex low = some l)
    (rest : List UInt8) :
    unescape (percent :: high :: low :: rest) = (unescape rest).map (UInt8.ofNat (16 * h + l) :: ·) := by
  rw [unescape, if_pos rfl, hhigh, hlow]

theorem unescape_percent_some {rest decoded : List UInt8} (h : unescape (percent :: rest) = some decoded) :
    ∃ high low tail v w, rest = high :: low :: tail ∧ unhex high = some v ∧ unhex low = some w := by
  match rest with
  | [] => simp [unescape] at h
  | [_] => simp [unescape] at h
  | high :: low :: tail =>
    rw [unescape, if_pos rfl] at h
    cases hhigh : unhex high with
    | none => simp [hhigh] at h
    | some v =>
      cases hlow : unhex low with
      | none => simp [hhigh, hlow] at h
      | some w => exact ⟨high, low, tail, v, w, rfl, hhigh, hlow⟩

theorem unescape_segments (path : List UInt8) {decoded : List UInt8} (h : unescape path = some decoded) :
    ∃ part parts, (segments path).mapM unescape = some (part :: parts) ∧ decoded = part ++ join parts := by
  induction hn : path.length using Nat.strong_induction_on generalizing path decoded with
  | _ n ih =>
    subst hn
    match path with
    | [] =>
      cases h
      exact ⟨[], [], rfl, rfl⟩
    | b :: rest =>
      by_cases hb : b = percent
      · subst hb
        obtain ⟨high, low, tail, v, w, rfl, hhigh, hlow⟩ := unescape_percent_some h
        rw [unescape_percent hhigh hlow] at h
        obtain ⟨d, hd, rfl⟩ := Option.map_eq_some_iff.mp h
        obtain ⟨part, parts, hparts, rfl⟩ := ih tail.length (by simp only [List.length_cons]; omega) tail hd rfl
        -- neither the sign nor its digits are slashes
        have hslash {c : UInt8} {x : ℕ} (hc : unhex c = some x) : c ≠ slash := by
          rintro rfl
          rw [unhex_slash] at hc
          cases hc
        obtain ⟨segment, others, hsegments⟩ := List.exists_cons_of_ne_nil (segments_ne_nil tail)
        have hwhole := segments_cons (by decide : percent ≠ slash)
          (segments_cons (hslash hhigh) (segments_cons (hslash hlow) hsegments))
        rw [hsegments] at hparts
        rw [hwhole]
        simp only [List.mapM_cons, unescape_percent hhigh hlow, Option.bind_eq_bind, Option.pure_def,
          Option.bind_eq_some_iff, Option.some.injEq, List.cons.injEq] at hparts ⊢
        obtain ⟨part', hpart, parts', hothers, rfl, rfl⟩ := hparts
        exact ⟨_, _, ⟨_, by rw [hpart]; rfl, _, hothers, rfl, rfl⟩, rfl⟩
      · rw [unescape_cons hb] at h
        obtain ⟨d, hd, rfl⟩ := Option.map_eq_some_iff.mp h
        obtain ⟨part, parts, hparts, rfl⟩ := ih rest.length (by simp) rest hd rfl
        by_cases hslash : b = slash
        · subst hslash
          refine ⟨[], part :: parts, ?_, by simp [join]⟩
          rw [segments_slash, List.mapM_cons, hparts]
          rfl
        · obtain ⟨segment, others, hsegments⟩ := List.exists_cons_of_ne_nil (segments_ne_nil rest)
          rw [hsegments] at hparts
          rw [segments_cons hslash hsegments]
          simp only [List.mapM_cons, unescape_cons hb, Option.bind_eq_bind, Option.pure_def,
            Option.bind_eq_some_iff, Option.some.injEq, List.cons.injEq] at hparts ⊢
          obtain ⟨part', hpart, parts', hothers, rfl, rfl⟩ := hparts
          exact ⟨_, _, ⟨_, by rw [hpart]; rfl, _, hothers, rfl, rfl⟩, rfl⟩

end AntiFlock.Go.Url
