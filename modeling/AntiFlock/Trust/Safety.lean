import AntiFlock.Trust.Render

set_option autoImplicit false

/-!
# What a rendering can contain

Every piece that is written is a text of safe runes, and the output is cut
between two pieces. The cap holds with the marker in place, since the space held
back for it is enough for any `int`.
-/
namespace AntiFlock.Trust

/-! ## Safe texts -/

def Clean (asciiOnly : Bool) (bs : List UInt8) : Prop :=
  ∃ runes, bs = Go.utf8 runes ∧ ∀ c ∈ runes, Safe asciiOnly c

section Clean
variable {asciiOnly : Bool}

theorem isFormat_of_lt {c : Char} (h : c.toNat < 0x80) : isFormat c = false := by
  simp only [isFormat, inTable, formatRunes, List.any_cons, List.any_nil, Bool.or_false, Bool.or_eq_false_iff,
    Bool.and_eq_false_imp, decide_eq_true_eq, decide_eq_false_iff_not]
  omega

theorem safe_of_printable {c : Char} (h : 0x20 ≤ c.toNat ∧ c.toNat ≤ 0x7e) : Safe asciiOnly c where
  control := .inr h.1
  del := by omega
  c1 := by
    simp only [isC1, Bool.and_eq_false_imp, decide_eq_true_eq, decide_eq_false_iff_not]
    omega
  bidi := by
    simp only [isBidiControl, Bool.or_eq_false_iff, Bool.and_eq_false_imp, decide_eq_true_eq,
      decide_eq_false_iff_not, beq_eq_false_iff_ne]
    omega
  separator := by
    simp only [isSeparator, Bool.or_eq_false_iff, beq_eq_false_iff_ne]
    omega
  format := isFormat_of_lt (by omega)
  ascii _ := by omega

def Printable (c : Char) : Prop := 0x20 ≤ c.toNat ∧ c.toNat ≤ 0x7e

theorem clean_of_printable {runes : List Char} (h : ∀ c ∈ runes, Printable c) : Clean asciiOnly (Go.utf8 runes) :=
  ⟨runes, rfl, fun c hc => safe_of_printable (h c hc)⟩

theorem printable_digitChar : ∀ n < 16, 0x20 ≤ (Nat.digitChar n).toNat ∧ (Nat.digitChar n).toNat ≤ 0x7e := by
  decide

theorem printable_hexDigits (width n : ℕ) : ∀ c ∈ hexDigits width n, Printable c := by
  induction width generalizing n with
  | zero => simp [hexDigits]
  | succ width ih =>
    rw [hexDigits]
    refine List.forall_mem_append.mpr ⟨ih (n / 16), ?_⟩
    simpa [Printable] using printable_digitChar (n % 16) (Nat.mod_lt _ (by decide))

theorem printable_escape {lead : Char} (hlead : Printable lead) (width n : ℕ) :
    ∀ c ∈ '\\' :: lead :: hexDigits width n, Printable c := by
  refine List.forall_mem_cons.mpr ⟨⟨by decide, by decide⟩, ?_⟩
  exact List.forall_mem_cons.mpr ⟨hlead, printable_hexDigits width n⟩

theorem printable_escapeByte (b : UInt8) : ∀ c ∈ escapeByte b, Printable c :=
  printable_escape ⟨by decide, by decide⟩ 2 b.toNat

theorem printable_escapeRune (r : Char) : ∀ c ∈ escapeRune r, Printable c := by
  unfold escapeRune
  split_ifs
  · exact printable_escape ⟨by decide, by decide⟩ 2 _
  · exact printable_escape ⟨by decide, by decide⟩ 4 _
  · exact printable_escape ⟨by decide, by decide⟩ 8 _

theorem printable_escapeSequence (sequence : List UInt8) : ∀ c ∈ escapeSequence sequence, Printable c := by
  intro c hc
  obtain ⟨unit, -, hunit⟩ := List.mem_flatMap.mp hc
  cases unit with
  | inl b => exact printable_escapeByte b c hunit
  | inr r =>
    simp only [escapeUnit] at hunit
    split at hunit
    case isTrue hr => exact List.mem_singleton.mp hunit ▸ hr
    case isFalse => exact printable_escapeRune r c hunit

theorem safe_newline : Safe asciiOnly '\n' where
  control := .inl rfl
  del := by decide
  c1 := by decide
  bidi := by decide
  separator := by decide
  format := by decide
  ascii _ := by decide

theorem clean_newline : Clean asciiOnly (Go.utf8 ['\n']) :=
  ⟨['\n'], rfl, by simpa using safe_newline⟩

theorem Begins.clean {r : Char} {piece : List UInt8 → Piece} (h : Begins asciiOnly r piece) {rest : List UInt8}
    (hr : Go.decodeRune rest = some r) : Clean asciiOnly (piece rest).text := by
  cases h with
  | newline => exact clean_newline
  | carriageReturn =>
    unfold Trust.carriageReturn
    split
    · exact clean_newline
    · exact clean_of_printable (printable_escapeRune _)
  | escape => exact clean_of_printable (printable_escapeSequence _)
  | c1 =>
    unfold c1Piece
    split
    · exact clean_of_printable (printable_escapeSequence _)
    · exact clean_of_printable (printable_escapeRune _)
  | alone kind => exact clean_of_printable (printable_escapeRune _)
  | passes hsafe =>
    -- the bytes that pass are the encoding of the rune that was read from them
    obtain ⟨tail, rfl⟩ := Go.decodeRune_some hr
    refine ⟨[r], ?_, by simpa using hsafe⟩
    rw [Go.utf8_singleton]
    simp only
    rw [← String.length_utf8EncodeChar, List.take_left]

theorem clean_classify (isPrint : Char → Bool) (rest : List UInt8) :
    Clean asciiOnly (classify isPrint asciiOnly rest).text := by
  unfold classify
  split
  case h_1 => exact clean_of_printable (printable_escapeByte _)
  case h_2 r hr => exact (classifyRune_begins isPrint asciiOnly r).clean hr

theorem clean_nil : Clean asciiOnly [] := ⟨[], rfl, by simp⟩

theorem Clean.append {xs ys : List UInt8} (hxs : Clean asciiOnly xs) (hys : Clean asciiOnly ys) :
    Clean asciiOnly (xs ++ ys) := by
  obtain ⟨front, rfl, hfront⟩ := hxs
  obtain ⟨back, rfl, hback⟩ := hys
  exact ⟨front ++ back, (Go.utf8_append front back).symm, List.forall_mem_append.mpr ⟨hfront, hback⟩⟩

theorem clean_flatMap {β : Type} {f : β → List UInt8} {ts : List β} (h : ∀ t ∈ ts, Clean asciiOnly (f t)) :
    Clean asciiOnly (ts.flatMap f) := by
  induction ts with
  | nil => exact clean_nil
  | cons t ts ih =>
    obtain ⟨ht, hts⟩ := List.forall_mem_cons.mp h
    exact ht.append (ih hts)

theorem Clean.bytes {bs : List UInt8} (h : Clean asciiOnly bs) : ∀ b ∈ bs,
    (b = 0x0a ∨ 0x20 ≤ b.toNat) ∧ b.toNat ≠ 0x7f ∧ (asciiOnly = true → b.toNat < 0x80) := by
  obtain ⟨runes, rfl, hsafe⟩ := h
  intro b hb
  obtain ⟨c, hc, hbc⟩ := List.mem_flatMap.mp hb
  have hs := hsafe c hc
  rcases Go.mem_encode hbc with ⟨-, heq⟩ | ⟨hlarge, hb⟩
  · refine ⟨?_, heq ▸ hs.del, fun ha => heq ▸ hs.ascii ha⟩
    rcases hs.control with rfl | hc
    · exact .inl (UInt8.toNat_inj.mp heq)
    · exact .inr (heq ▸ hc)
  · refine ⟨.inr (by omega), by omega, fun ha => absurd (hs.ascii ha) (by omega)⟩

/-! ## The marker -/

theorem printable_of_isDigit {c : Char} (h : c.isDigit = true) : Printable c := by
  simp only [Char.isDigit, Bool.and_eq_true, decide_eq_true_eq] at h
  exact ⟨(by decide : 0x20 ≤ 48).trans (UInt32.le_iff_toNat_le.mp h.1), (UInt32.le_iff_toNat_le.mp h.2).trans (by decide)⟩

theorem safe_ellipsis : Safe false '…' where
  control := .inr (by decide)
  del := by decide
  c1 := by decide
  bidi := by decide
  separator := by decide
  format := by decide
  ascii h := by cases h

theorem printable_markerText (dropped : ℕ) :
    ∀ c ∈ "[truncated ".toList ++ Nat.toDigits 10 dropped ++ " bytes]".toList, Printable c := by
  have hfixed : ∀ c ∈ "[truncated ".toList ++ " bytes]".toList, 0x20 ≤ c.toNat ∧ c.toNat ≤ 0x7e := by
    have hall : ("[truncated ".toList ++ " bytes]".toList).all (fun c => 0x20 ≤ c.toNat && c.toNat ≤ 0x7e) = true := by
      decide
    simpa only [List.all_eq_true, Bool.and_eq_true, decide_eq_true_eq] using hall
  obtain ⟨hfront, hback⟩ := List.forall_mem_append.mp hfixed
  refine List.forall_mem_append.mpr ⟨List.forall_mem_append.mpr ⟨hfront, ?_⟩, hback⟩
  exact fun c hc => printable_of_isDigit (Nat.isDigit_of_mem_toDigits (by decide) (by decide) hc)

theorem clean_truncationMarker (dropped : ℕ) : Clean asciiOnly (truncationMarker dropped asciiOnly) := by
  unfold truncationMarker
  rw [Go.utf8_append]
  refine Clean.append ?_ (clean_of_printable (printable_markerText dropped))
  cases asciiOnly with
  | true => exact clean_of_printable (printable_escapeRune '…')
  | false => exact ⟨['…'], rfl, by simpa using safe_ellipsis⟩

theorem length_utf8_printable {runes : List Char} (h : ∀ c ∈ runes, Printable c) :
    (Go.utf8 runes).length = runes.length := by
  induction runes with
  | nil => rfl
  | cons c runes ih =>
    obtain ⟨hc, hruns⟩ := List.forall_mem_cons.mp h
    have hone : (String.utf8EncodeChar c).length = 1 := by
      rw [String.length_utf8EncodeChar]
      exact utf8Size_of_lt (by have := hc.2; omega)
    have hcons : Go.utf8 (c :: runes) = String.utf8EncodeChar c ++ Go.utf8 runes := rfl
    rw [hcons, List.length_append, hone, ih hruns, List.length_cons, Nat.add_comm]

theorem length_truncationMarker {dropped : ℕ} (h : dropped < 2 ^ 63) (asciiOnly : Bool) :
    (truncationMarker dropped asciiOnly).length ≤ markerReserve := by
  have hdigits : (Nat.toDigits 10 dropped).length ≤ 19 :=
    (Nat.length_toDigits_le_iff (by decide) (by decide)).mpr (h.trans (by decide))
  have hlead : (Go.utf8 (if asciiOnly then escapeRune '…' else ['…'])).length ≤ 6 := by
    cases asciiOnly <;> decide
  have hfront : "[truncated ".toList.length = 11 := rfl
  have hback : " bytes]".toList.length = 7 := rfl
  rw [truncationMarker, Go.utf8_append, List.length_append, length_utf8_printable (printable_markerText dropped),
    List.length_append, List.length_append, hfront, hback, markerReserve]
  omega

end Clean

/-! ## The loop -/

theorem RenderPolicy.limit_ge (policy : RenderPolicy) : 64 ≤ policy.limit := by
  have h (wanted : ℤ) : 64 ≤ (if wanted < minMaxBytes then minMaxBytes else wanted).toNat := by
    unfold minMaxBytes
    split <;> omega
  exact h _

section Loop
variable {policy : RenderPolicy} {done : List Piece} {s : Progress}

/-- A place to cut at: between two pieces, with room for the marker behind it. -/
def CutAt (policy : RenderPolicy) (done : List Piece) (out : List UInt8) (cut : ℕ × ℕ) : Prop :=
  ∃ front back, done = front ++ back ∧ cut = ((front.flatMap policy.emit).length, (front.map Piece.size).sum) ∧
    cut.1 ≤ policy.limit - markerReserve ∧ front.flatMap policy.emit <+: out

theorem CutAt.mono {out more : List UInt8} {cut : ℕ × ℕ} (h : CutAt policy done out cut) (piece : Piece)
    (hout : out <+: more) : CutAt policy (done ++ [piece]) more cut := by
  obtain ⟨front, back, rfl, hcut, hroom, hfront⟩ := h
  exact ⟨front, back ++ [piece], by rw [List.append_assoc], hcut, hroom, hfront.trans hout⟩

structure Written (policy : RenderPolicy) (done : List Piece) (s : Progress) : Prop where
  index : s.index = (done.map Piece.size).sum
  appending : s.appending = true → s.out = done.flatMap policy.emit ∧ s.out.length ≤ policy.limit
  room : s.appending = true → s.cut = none → s.out.length ≤ policy.limit - markerReserve
  stopped : s.appending = false → s.cut ≠ none ∧ policy.limit < (done.flatMap policy.emit).length
  cut : ∀ cut, s.cut = some cut → CutAt policy done s.out cut
  taints : .truncated ∉ s.taints

theorem written_start : Written policy [] {} where
  index := rfl
  appending _ := ⟨rfl, Nat.zero_le _⟩
  room _ _ := Nat.zero_le _
  stopped h := by cases h
  cut _ h := by cases h
  taints := Finset.notMem_empty _

theorem Written.note (h : Written policy done s) (kind : Option FindingKind) : Written policy done (s.note kind) := by
  cases kind with
  | none => exact h
  | some kind =>
    refine ⟨h.index, h.appending, h.room, h.stopped, h.cut, ?_⟩
    simp only [Progress.note, Finset.mem_insert, not_or]
    refine ⟨?_, h.taints⟩
    split <;> decide

theorem Written.cut_append (h : Written policy done s) (happending : s.appending = true) (piece : Piece)
    {more : List UInt8} (hmore : s.out <+: more) {cut : ℕ × ℕ}
    (hcut : (s.append policy.limit (policy.emit piece)).cut = some cut) :
    CutAt policy (done ++ [piece]) more cut := by
  obtain ⟨hout, -⟩ := h.appending happending
  have hcases : (s.cut = none ∧ cut = (s.out.length, s.index)) ∨ s.cut = some cut := by
    simp only [Progress.append] at hcut
    split_ifs at hcut with hfirst
    all_goals simp_all
  rcases hcases with ⟨hnone, rfl⟩ | hold
  · exact ⟨done, [piece], rfl, by rw [hout, h.index], h.room happending hnone, hout ▸ hmore⟩
  · exact (h.cut cut hold).mono piece hmore

theorem flatMap_emit_concat (piece : Piece) :
    (done ++ [piece]).flatMap policy.emit = done.flatMap policy.emit ++ policy.emit piece := by
  simp

theorem Written.full (h : Written policy done s) (happending : s.appending = true) (piece : Piece)
    (hfull : policy.limit < s.out.length + (policy.emit piece).length) :
    Written policy (done ++ [piece])
      { s.append policy.limit (policy.emit piece) with index := s.index + piece.size } := by
  obtain ⟨hout, -⟩ := h.appending happending
  have hlimit := policy.limit_ge
  have hstop : (s.append policy.limit (policy.emit piece)).appending = false := by
    simp [Progress.append, hfull]
  have hsame : (s.append policy.limit (policy.emit piece)).out = s.out := by
    simp [Progress.append, hfull]
  refine ⟨?_, fun hap => absurd hap (by simp [hstop]), fun hap => absurd hap (by simp [hstop]), fun _ => ⟨?_, ?_⟩,
    fun cut hcut => h.cut_append happending piece (hsame ▸ List.prefix_rfl) hcut, ?_⟩
  · simp [h.index]
  · -- the cap is passed, so the space before the marker is
    simp only [Progress.append, hfull, if_true]
    split_ifs with hfirst
    · simp
    · intro hnone
      exact hfirst ⟨hnone, by omega⟩
  · rw [flatMap_emit_concat, ← hout, List.length_append]
    exact hfull
  · simpa [Progress.append, hfull] using h.taints

theorem Written.fits (h : Written policy done s) (happending : s.appending = true) (piece : Piece)
    (hfits : ¬ policy.limit < s.out.length + (policy.emit piece).length) :
    Written policy (done ++ [piece])
      { s.append policy.limit (policy.emit piece) with index := s.index + piece.size } := by
  obtain ⟨hout, -⟩ := h.appending happending
  have hgoes : (s.append policy.limit (policy.emit piece)).appending = true := by
    simp [Progress.append, hfits, happending]
  have hmore : (s.append policy.limit (policy.emit piece)).out = s.out ++ policy.emit piece := by
    simp [Progress.append, hfits]
  refine ⟨?_, fun _ => ⟨?_, ?_⟩, fun _ hcut => ?_, fun hap => absurd hap (by simp [hgoes]),
    fun cut hcut => h.cut_append happending piece (hmore ▸ List.prefix_append _ _) hcut, ?_⟩
  · simp [h.index]
  · rw [flatMap_emit_concat, ← hout]
    exact hmore
  · simp only [hmore, List.length_append]
    omega
  · -- no cut was noted, neither before nor now
    simp only [hmore, List.length_append]
    simp only [Progress.append, hfits, if_false] at hcut
    split_ifs at hcut with hfirst
    exact not_lt.mp fun hlt => hfirst ⟨hcut, hlt⟩
  · simpa [Progress.append, hfits] using h.taints

theorem Written.skip (h : Written policy done s) (hstopped : s.appending = false) (piece : Piece) :
    Written policy (done ++ [piece]) { s with index := s.index + piece.size } := by
  obtain ⟨hcut, hfull⟩ := h.stopped hstopped
  refine ⟨by simp [h.index], fun hap => absurd hap (by simp [hstopped]), fun hap => absurd hap (by simp [hstopped]),
    fun _ => ⟨hcut, ?_⟩, fun cut hcut => (h.cut cut hcut).mono piece List.prefix_rfl, h.taints⟩
  rw [flatMap_emit_concat, List.length_append]
  omega

theorem Written.round (h : Written policy done s) (piece : Piece) :
    Written policy (done ++ [piece]) (policy.round s piece) := by
  have hnoted := h.note piece.kind
  have hindex : (s.note piece.kind).index = s.index := hnoted.index.trans h.index.symm
  unfold RenderPolicy.round
  rw [← hindex]
  simp only
  cases happending : (s.note piece.kind).appending with
  | false => exact hnoted.skip happending piece
  | true =>
    by_cases hfull : policy.limit < (s.note piece.kind).out.length + (policy.emit piece).length
    · exact hnoted.full happending piece hfull
    · exact hnoted.fits happending piece hfull

theorem Written.rounds (h : Written policy done s) (ps : List Piece) :
    Written policy (done ++ ps) (ps.foldl policy.round s) := by
  induction ps generalizing done s with
  | nil => simpa using h
  | cons piece ps ih => simpa using ih (h.round piece)

end Loop

/-! ## Renderings -/

section Render
variable (isPrint : Char → Bool) (raw : Go.Str) {policy : RenderPolicy}

def rendered (policy : RenderPolicy) (input : List UInt8) : Progress :=
  ((pieces isPrint policy.asciiOnly).tokens input).foldl policy.round {}

theorem render_valid (h : policy.Valid) :
    render isPrint raw policy = .ok (finish raw policy (rendered isPrint policy raw.bytes)) := by
  unfold render rendered
  rcases h with h | h <;> rw [h]

theorem written_rendered (policy : RenderPolicy) (input : List UInt8) :
    Written policy ((pieces isPrint policy.asciiOnly).tokens input) (rendered isPrint policy input) :=
  written_start.rounds _

theorem clean_emit (policy : RenderPolicy) (input : List UInt8) :
    ∀ piece ∈ (pieces isPrint policy.asciiOnly).tokens input, Clean policy.asciiOnly (policy.emit piece) := by
  refine (pieces isPrint policy.asciiOnly).forall_tokens (fun rest _ => ?_) input
  unfold RenderPolicy.emit
  split
  · exact clean_nil
  · exact clean_classify isPrint rest

theorem rendered_front {front back : List Piece} (input : List UInt8)
    (h : (pieces isPrint policy.asciiOnly).tokens input = front ++ back)
    (hroom : (front.flatMap policy.emit).length ≤ policy.limit - markerReserve) :
    (rendered isPrint policy (input.take (front.map Piece.size).sum)).appending = true ∧
      (rendered isPrint policy (input.take (front.map Piece.size).sum)).out = front.flatMap policy.emit := by
  have hwritten := written_rendered isPrint policy (input.take (front.map Piece.size).sum)
  have htokens : (pieces isPrint policy.asciiOnly).tokens (input.take (front.map Piece.size).sum) = front :=
    (pieces isPrint policy.asciiOnly).tokens_take front back input h
  rw [htokens] at hwritten
  cases happending : (rendered isPrint policy (input.take (front.map Piece.size).sum)).appending with
  | true => exact ⟨rfl, (hwritten.appending happending).1⟩
  | false =>
    have hfull := (hwritten.stopped happending).2
    omega

theorem truncated_finish {s : Progress} (h : .truncated ∉ s.taints) :
    .truncated ∈ (finish raw policy s).taints ↔ s.appending = false := by
  have hsize : .truncated ∉ (if policy.limit < raw.bytes.length then insert .oversized s.taints else s.taints) := by
    split
    · simpa using h
    · exact h
  cases happending : s.appending with
  | true => simpa [finish, happending] using hsize
  | false => simp [finish, happending]

theorem finish_cut (hcut : (rendered isPrint policy raw.bytes).appending = false) : ∃ front back,
    (pieces isPrint policy.asciiOnly).tokens raw.bytes = front ++ back ∧
    (front.flatMap policy.emit).length ≤ policy.limit - markerReserve ∧
    (front.map Piece.size).sum ≤ raw.bytes.length ∧
    (finish raw policy (rendered isPrint policy raw.bytes)).droppedBytes
      = raw.bytes.length - (front.map Piece.size).sum ∧
    (finish raw policy (rendered isPrint policy raw.bytes)).text = front.flatMap policy.emit ++
      truncationMarker (raw.bytes.length - (front.map Piece.size).sum) policy.asciiOnly := by
  have hwritten := written_rendered isPrint policy raw.bytes
  obtain ⟨hsome, -⟩ := hwritten.stopped hcut
  obtain ⟨cut, hat⟩ := Option.ne_none_iff_exists'.mp hsome
  obtain ⟨front, back, hpieces, rfl, hroom, hfront⟩ := hwritten.cut cut hat
  have hwidth := (pieces isPrint policy.asciiOnly).width_tokens raw.bytes
  rw [hpieces, Lexer.width_append] at hwidth
  have hdrop : (finish raw policy (rendered isPrint policy raw.bytes)).droppedBytes
      = raw.bytes.length - (front.map Piece.size).sum := by
    simp [finish, hcut, hat]
  refine ⟨front, back, hpieces, hroom, le_of_add_le_left hwidth.le, hdrop, ?_⟩
  simp only [finish, hcut, hat, Bool.false_eq_true, if_false, Option.getD_some]
  rw [← List.prefix_iff_eq_take.mp hfront]

theorem clean_finish (policy : RenderPolicy) :
    Clean policy.asciiOnly (finish raw policy (rendered isPrint policy raw.bytes)).text := by
  have hemit := clean_emit isPrint policy raw.bytes
  cases happending : (rendered isPrint policy raw.bytes).appending with
  | true =>
    obtain ⟨hout, -⟩ := (written_rendered isPrint policy raw.bytes).appending happending
    simp only [finish, happending, if_true, hout]
    exact clean_flatMap hemit
  | false =>
    obtain ⟨front, back, hpieces, -, -, -, htext⟩ := finish_cut isPrint raw happending
    rw [hpieces] at hemit
    rw [htext]
    exact (clean_flatMap (List.forall_mem_append.mp hemit).1).append (clean_truncationMarker _)

theorem length_finish (policy : RenderPolicy) :
    (finish raw policy (rendered isPrint policy raw.bytes)).text.length ≤ policy.limit := by
  cases happending : (rendered isPrint policy raw.bytes).appending with
  | true =>
    simp only [finish, happending, if_true]
    exact ((written_rendered isPrint policy raw.bytes).appending happending).2
  | false =>
    obtain ⟨front, back, -, hroom, -, -, htext⟩ := finish_cut isPrint raw happending
    have hlimit := policy.limit_ge
    have hmarker := length_truncationMarker ((Nat.sub_le raw.bytes.length (front.map Piece.size).sum).trans_lt
      raw.length_lt) policy.asciiOnly
    rw [htext, List.length_append]
    unfold markerReserve at *
    omega

/-- A rendering is clean, keeps the cap, and is cut between two pieces where it is cut. -/
theorem render_safe (hvalid : policy.Valid) : ∃ r, render isPrint raw policy = .ok r ∧
    (∃ runes, r.text = Go.utf8 runes ∧ ∀ c ∈ runes,
      isC1 c = false ∧ isBidiControl c = false ∧ isFormat c = false ∧ isSeparator c = false) ∧
    (∀ b ∈ r.text, (b = 0x0a ∨ 0x20 ≤ b.toNat) ∧ b.toNat ≠ 0x7f ∧ (policy.asciiOnly = true → b.toNat < 0x80)) ∧
    r.text.length ≤ policy.limit ∧
    (.truncated ∈ r.taints → r.droppedBytes ≤ r.inputBytes ∧
      ∃ whole, render isPrint (raw.take (r.inputBytes - r.droppedBytes)) policy = .ok whole ∧
        .truncated ∉ whole.taints ∧ r.text = whole.text ++ truncationMarker r.droppedBytes policy.asciiOnly) := by
  have hclean := clean_finish isPrint raw policy
  refine ⟨_, render_valid isPrint raw hvalid, ?_, hclean.bytes, length_finish isPrint raw policy, fun htruncated => ?_⟩
  · obtain ⟨runes, htext, hsafe⟩ := hclean
    exact ⟨runes, htext, fun c hc => ⟨(hsafe c hc).c1, (hsafe c hc).bidi, (hsafe c hc).format, (hsafe c hc).separator⟩⟩
  have hcut := (truncated_finish raw (written_rendered isPrint policy raw.bytes).taints).mp htruncated
  obtain ⟨front, back, hpieces, hroom, hle, hdropped, htext⟩ := finish_cut isPrint raw hcut
  have hinput : (finish raw policy (rendered isPrint policy raw.bytes)).inputBytes = raw.bytes.length := by
    simp [finish, hcut]
  have hkept : raw.bytes.length - (raw.bytes.length - (front.map Piece.size).sum) = (front.map Piece.size).sum :=
    Nat.sub_sub_self hle
  rw [hdropped, hinput, hkept]
  obtain ⟨happending, hout⟩ := rendered_front isPrint raw.bytes hpieces hroom
  refine ⟨Nat.sub_le _ _, _, render_valid isPrint _ hvalid, ?_, ?_⟩
  · rw [truncated_finish _ (written_rendered isPrint policy _).taints]
    simpa [Go.Str.take] using happending
  · rw [htext]
    simp [finish, Go.Str.take, happending, hout]

/-- A rendering with the default policy. -/
theorem render_safe_default : ∃ r,
    render (fun _ => true) ⟨[0x1b, 0x5b, 0x6d], by decide⟩ ⟨.escape, false, 4096⟩ = .ok r ∧ r.text.length ≤ 4096 := by
  obtain ⟨r, hr, -, -, hlength, -⟩ :=
    @render_safe (fun _ => true) ⟨[0x1b, 0x5b, 0x6d], by decide⟩ ⟨.escape, false, 4096⟩ (.inl rfl)
  exact ⟨r, hr, hlength⟩

end Render
end AntiFlock.Trust
