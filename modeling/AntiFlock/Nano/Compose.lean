import AntiFlock.Go.Except
import AntiFlock.Nano.Evaluate
import Mathlib.Data.List.Nodup

set_option autoImplicit false

/-!
# Evaluation in two parts

A frame may be cut in two and evaluated part by part, the second from the cursor of
the first. Nothing depends on the intents and instructions that are there already,
except through the limits, which the parts reach later than the whole.
-/
namespace AntiFlock.Nano
open AntiFlock.Go

/-! ## Results that grow alike -/

/-- Both results have grown by the same intents and the same number of instructions. -/
def Alike (r r' s s' : EvaluationResult) : Prop :=
  ∃ intents, ∃ n : ℕ, r'.intents = r.intents ++ intents ∧ s'.intents = s.intents ++ intents ∧
    r'.instructions = r.instructions + n ∧ s'.instructions = s.instructions + n

def Below (s r : EvaluationResult) : Prop := s.instructions ≤ r.instructions ∧ s.intents.length ≤ r.intents.length

theorem Alike.refl (r s : EvaluationResult) : Alike r r s s := ⟨[], 0, by simp⟩

theorem Alike.grow (r s : EvaluationResult) (intents : List EmittedIntent) (n : ℕ) (trace trace' : List TraceEntry) :
    Alike r ⟨r.intents ++ intents, trace, r.instructions + n⟩ s ⟨s.intents ++ intents, trace', s.instructions + n⟩ :=
  ⟨intents, n, rfl, rfl, rfl, rfl⟩

theorem Alike.trans {r r' r'' s s' s'' : EvaluationResult} (h : Alike r r' s s') (h' : Alike r' r'' s' s'') :
    Alike r r'' s s'' := by
  obtain ⟨intents, n, hr, hs, hn, hm⟩ := h
  obtain ⟨intents', n', hr', hs', hn', hm'⟩ := h'
  refine ⟨intents ++ intents', n + n', ?_, ?_, by omega, by omega⟩
  · rw [hr', hr, List.append_assoc]
  · rw [hs', hs, List.append_assoc]

theorem Alike.below {r r' s s' : EvaluationResult} (h : Alike r r' s s') (hbelow : Below s r) : Below s' r' := by
  obtain ⟨intents, n, hr, hs, hn, hm⟩ := h
  obtain ⟨hinstructions, hlength⟩ := hbelow
  have hr' := congrArg List.length hr
  have hs' := congrArg List.length hs
  rw [List.length_append] at hr' hs'
  exact ⟨by omega, by omega⟩

/-! ## What one timestamp adds -/

def observe (signals : List (String × List Float64)) (index : ℕ) (name : String) : Option Float64 :=
  (signals.lookup name).map fun series => series.getD index Float64.zero

section Steps
variable {formats : Formats} {program : Program} {limits : Limits} {signals signals' : List (String × List Float64)}
  {index index' : ℕ} {timestamp : Int64}

theorem checkConditions_congr (h : ∀ name, observe signals index name = observe signals' index' name)
    (conditions : List Condition) (result : EvaluationResult) :
    checkConditions formats limits signals index timestamp conditions result =
      checkConditions formats limits signals' index' timestamp conditions result := by
  induction conditions generalizing result with
  | nil => rfl
  | cons condition conditions ih =>
    have hcondition := h condition.signal
    unfold observe at hcondition
    unfold checkConditions
    cases hseries : signals.lookup condition.signal with
    | none =>
      rw [hseries, Option.map_none, eq_comm, Option.map_eq_none_iff] at hcondition
      rw [hcondition]
    | some series =>
      rw [hseries, Option.map_some, eq_comm, Option.map_eq_some_iff] at hcondition
      obtain ⟨series', hseries', hvalue⟩ := hcondition
      rw [hseries']
      simp only [hvalue, ih]

theorem evaluateAt_congr (h : ∀ name, observe signals index name = observe signals' index' name)
    (state : EvaluationResult × Cursor) : evaluateAt formats program limits signals index timestamp state =
      evaluateAt formats program limits signals' index' timestamp state := by
  simp only [evaluateAt, fire, checkConditions_congr h]

theorem checkConditions_alike {conditions : List Condition} {r r' s : EvaluationResult} {matched : Bool}
    (h : checkConditions formats limits signals index timestamp conditions r = .ok (matched, r')) (hs : Below s r) :
    ∃ s', checkConditions formats limits signals index timestamp conditions s = .ok (matched, s') ∧ Alike r r' s s' := by
  induction conditions generalizing r s with
  | nil =>
    cases h
    exact ⟨s, rfl, .refl _ s⟩
  | cons condition conditions ih =>
    unfold checkConditions at h ⊢
    have hinstructions := hs.1
    split at h
    · cases h
    rename_i hlimit
    rw [if_neg (by omega)]
    split at h
    · cases h
    rename_i series hseries
    simp only at h ⊢
    split at h
    · obtain ⟨s', hs', halike⟩ := ih h (s := { s with instructions := s.instructions + 1, trace := _ })
        ⟨Int.add_le_add_right hinstructions 1, hs.2⟩
      rw [if_pos ‹_›]
      exact ⟨s', hs', Alike.trans ⟨[], 1, by simp⟩ halike⟩
    · cases h
      rw [if_neg ‹_›]
      exact ⟨_, rfl, [], 1, by simp⟩

theorem emitIntents_alike {intents : List Intent} {r r' s : EvaluationResult}
    (h : emitIntents limits timestamp intents r = .ok r') (hs : Below s r) :
    ∃ s', emitIntents limits timestamp intents s = .ok s' ∧ Alike r r' s s' := by
  induction intents generalizing r s with
  | nil =>
    cases h
    exact ⟨s, rfl, .refl _ s⟩
  | cons intent intents ih =>
    unfold emitIntents at h ⊢
    obtain ⟨hinstructions, hlength⟩ := hs
    split at h
    · cases h
    rename_i hlimit
    rw [if_neg (by omega)]
    have hstep := Alike.grow r s [⟨intent.action, timestamp⟩] 1
      (r.trace ++ [⟨"intent.emitted", timestamp, intent.action.text⟩])
      (s.trace ++ [⟨"intent.emitted", timestamp, intent.action.text⟩])
    obtain ⟨s', hs', halike⟩ := ih h (hstep.below ⟨hinstructions, hlength⟩)
    exact ⟨s', hs', hstep.trans halike⟩

theorem fire_alike {r r' s : EvaluationResult} (h : fire formats program limits signals index timestamp r = .ok r')
    (hs : Below s r) : ∃ s', fire formats program limits signals index timestamp s = .ok s' ∧ Alike r r' s s' := by
  unfold fire at h ⊢
  obtain ⟨⟨matched, checked⟩, hchecked, h⟩ := bind_eq_ok.mp h
  obtain ⟨checked', hchecked', halike⟩ := checkConditions_alike hchecked hs
  simp only [hchecked', except_ok_bind]
  dsimp only at h
  split at h
  · rw [if_pos ‹_›]
    obtain ⟨s', hs', halike'⟩ := emitIntents_alike h (halike.below hs)
    exact ⟨s', hs', halike.trans halike'⟩
  · cases h
    rw [if_neg ‹_›]
    exact ⟨checked', rfl, halike⟩

theorem evaluateAt_alike {r r' s : EvaluationResult} {cursor next : Cursor}
    (h : evaluateAt formats program limits signals index timestamp (r, cursor) = .ok (r', next)) (hs : Below s r) :
    ∃ s', evaluateAt formats program limits signals index timestamp (s, cursor) = .ok (s', next) ∧ Alike r r' s s' := by
  unfold evaluateAt at h ⊢
  split at h
  · cases h
    rw [if_pos ‹_›]
    exact ⟨s, rfl, .refl _ s⟩
  rw [if_neg ‹_›]
  split at h
  · cases h
  rw [if_neg ‹_›]
  obtain ⟨fired, hfired, h⟩ := bind_eq_ok.mp h
  cases h
  obtain ⟨s', hs', halike⟩ := fire_alike hfired hs
  exact ⟨s', by rw [hs']; rfl, halike⟩

end Steps

/-! ## What a frame adds -/

section Runs
variable (formats : Formats) (program : Program) (limits : Limits)

/-- The loop of `Evaluate`, over timestamps with their indices. -/
def visit (signals : List (String × List Float64)) (entries : List (Int64 × ℕ)) (state : EvaluationResult × Cursor) :
    Except Err (EvaluationResult × Cursor) :=
  entries.foldlM (fun state entry => evaluateAt formats program limits signals entry.2 entry.1 state) state

variable {formats program limits} {signals signals' : List (String × List Float64)} {entries : List (Int64 × ℕ)}

theorem visit_alike {r r' s : EvaluationResult} {cursor next : Cursor}
    (h : visit formats program limits signals entries (r, cursor) = .ok (r', next)) (hs : Below s r) :
    ∃ s', visit formats program limits signals entries (s, cursor) = .ok (s', next) ∧ Alike r r' s s' := by
  unfold visit at h ⊢
  induction entries generalizing r s cursor with
  | nil =>
    cases h
    exact ⟨s, rfl, .refl _ s⟩
  | cons entry entries ih =>
    rw [List.foldlM_cons] at h ⊢
    obtain ⟨⟨middle, moved⟩, hmiddle, h⟩ := bind_eq_ok.mp h
    obtain ⟨s', hs', halike⟩ := evaluateAt_alike hmiddle hs
    obtain ⟨s'', hs'', halike'⟩ := ih h (halike.below hs)
    exact ⟨s'', by rw [hs']; exact hs'', halike.trans halike'⟩

theorem visit_shift (offset : ℕ)
    (h : ∀ entry ∈ entries, ∀ name, observe signals (entry.2 + offset) name = observe signals' entry.2 name)
    (state : EvaluationResult × Cursor) :
    visit formats program limits signals (entries.map fun entry => (entry.1, entry.2 + offset)) state =
      visit formats program limits signals' entries state := by
  unfold visit
  induction entries generalizing state with
  | nil => rfl
  | cons entry entries ih =>
    rw [List.map_cons, List.foldlM_cons, List.foldlM_cons, evaluateAt_congr (h entry (by simp))]
    exact congrArg _ (funext fun next => ih (fun e he => h e (List.mem_cons_of_mem _ he)) next)

end Runs

/-! ## Frames one after the other -/

/-- Frames with the same names of signals, each once, as in a map. -/
structure SameNames (first second : Frame) : Prop where
  names : (first.signals.map Prod.fst).Perm (second.signals.map Prod.fst)
  once : (first.signals.map Prod.fst).Nodup

def Frame.append (first second : Frame) : Frame where
  timestamps := first.timestamps ++ second.timestamps
  signals := first.signals.map fun signal => (signal.1, signal.2 ++ (second.signals.lookup signal.1).getD [])

/-- A value of each signal for each timestamp. -/
def Frame.Even (frame : Frame) : Prop := ∀ signal ∈ frame.signals, signal.2.length = frame.timestamps.length

section Lookup
variable {A B : Type} {entries others : List (String × A)} {name : String}

theorem lookup_map_values (f : String → A → B) : (entries.map fun entry => (entry.1, f entry.1 entry.2)).lookup name =
    (entries.lookup name).map (f name) := by
  induction entries with
  | nil => rfl
  | cons entry entries ih =>
    rw [List.map_cons, List.lookup_cons, List.lookup_cons, ih]
    by_cases hname : name = entry.1
    · simp [hname]
    · simp [beq_eq_false_iff_ne.mpr hname]

theorem lookup_eq_none_iff_notMem : entries.lookup name = none ↔ name ∉ entries.map Prod.fst := by
  rw [List.lookup_eq_none_iff, List.mem_map, not_exists]
  simp only [bne_iff_ne, ne_eq, not_and, eq_comm (a := name)]

theorem mem_of_lookup {value : A} (h : entries.lookup name = some value) : (name, value) ∈ entries := by
  obtain ⟨before, after, rfl, -⟩ := List.lookup_eq_some_iff.mp h
  simp

theorem lookup_of_mem (hnodup : (entries.map Prod.fst).Nodup) {value : A} (h : (name, value) ∈ entries) :
    entries.lookup name = some value := by
  obtain ⟨before, after, rfl⟩ := List.append_of_mem h
  refine List.lookup_eq_some_iff.mpr ⟨before, after, rfl, fun entry hentry => ?_⟩
  rw [List.map_append, List.nodup_append] at hnodup
  simpa using (hnodup.2.2 entry.1 (List.mem_map_of_mem hentry) name (by simp)).symm

end Lookup

section Frames
variable {first second : Frame} {limits : Limits} {name : String}

theorem SameNames.lookup_none (h : SameNames first second) :
    first.signals.lookup name = none ↔ second.signals.lookup name = none := by
  rw [lookup_eq_none_iff_notMem, lookup_eq_none_iff_notMem, h.names.mem_iff]

/-- A signal of the second frame stands behind the one of that name in the first. -/
theorem SameNames.behind (h : SameNames first second) {signal : String × List Float64} (hsignal : signal ∈ second.signals) :
    ∃ series, (signal.1, series) ∈ first.signals ∧ (signal.1, series ++ signal.2) ∈ (first.append second).signals := by
  have hmember := h.names.mem_iff.mpr (List.mem_map_of_mem hsignal)
  obtain ⟨⟨name, series⟩, hseries, hname⟩ := List.mem_map.mp hmember
  cases hname
  have hlookup := lookup_of_mem (h.names.nodup_iff.mp h.once) hsignal
  refine ⟨series, hseries, List.mem_map.mpr ⟨_, hseries, ?_⟩⟩
  rw [hlookup, Option.getD_some]

theorem lookup_append (name : String) : (first.append second).signals.lookup name =
    (first.signals.lookup name).map fun series => series ++ (second.signals.lookup name).getD [] :=
  lookup_map_values fun name series => series ++ (second.signals.lookup name).getD []

theorem observe_append_left (heven : first.Even) {index : ℕ} (h : index < first.timestamps.length) :
    observe (first.append second).signals index name = observe first.signals index name := by
  unfold observe
  rw [lookup_append]
  cases hseries : first.signals.lookup name with
  | none => rfl
  | some series =>
    rw [← heven _ (mem_of_lookup hseries)] at h
    simp [List.getElem?_append_left h]

theorem observe_append_right (hnames : SameNames first second) (heven : first.Even) (index : ℕ) :
    observe (first.append second).signals (index + first.timestamps.length) name = observe second.signals index name := by
  unfold observe
  rw [lookup_append]
  cases hseries : first.signals.lookup name with
  | none => rw [hnames.lookup_none.mp hseries, Option.map_none, Option.map_none, Option.map_none]
  | some series =>
    cases hseries' : second.signals.lookup name with
    | none => rw [hnames.lookup_none.mpr hseries'] at hseries; cases hseries
    | some series' =>
      rw [← heven _ (mem_of_lookup hseries)]
      simp [List.getElem?_append_right]

theorem ordered_append {xs ys : List Int64} (h : ordered (xs ++ ys) = true) : ordered xs = true ∧ ordered ys = true := by
  induction xs with
  | nil => exact ⟨rfl, h⟩
  | cons t xs ih =>
    cases xs with
    | nil =>
      cases ys with
      | nil => exact ⟨rfl, rfl⟩
      | cons u ys => exact ⟨rfl, (Bool.and_eq_true_iff.mp h).2⟩
    | cons u xs =>
      obtain ⟨hle, hrest⟩ := Bool.and_eq_true_iff.mp h
      obtain ⟨hxs, hys⟩ := ih hrest
      exact ⟨Bool.and_eq_true_iff.mpr ⟨hle, hxs⟩, hys⟩

theorem Frame.valid_iff (frame : Frame) : frame.valid limits = true ↔ frame.timestamps ≠ [] ∧
    (frame.timestamps.length : ℤ) ≤ limits.maxTimestamps ∧ (frame.signals.length : ℤ) ≤ limits.maxSignals ∧
    ordered frame.timestamps = true ∧ frame.Even ∧ ∀ signal ∈ frame.signals, trimSpace signal.1 ≠ "" ∧
      ∀ value ∈ signal.2, value.isNaN = false ∧ value.isInf = false := by
  simp only [Frame.valid, Frame.Even, Bool.and_eq_true, decide_eq_true_eq, List.all_eq_true, Bool.not_eq_true', and_assoc,
    ne_eq]
  refine and_congr_right fun _ => and_congr_right fun _ => and_congr_right fun _ => and_congr_right fun _ => ?_
  rw [← forall₂_and]
  exact forall₂_congr fun signal _ => by tauto

theorem valid_parts (hnames : SameNames first second) (hfirst : first.timestamps ≠ []) (hsecond : second.timestamps ≠ [])
    (heven : first.Even) (h : (first.append second).valid limits = true) :
    first.valid limits = true ∧ second.valid limits = true := by
  simp only [Frame.valid_iff] at h ⊢
  obtain ⟨-, htimestamps, hsignals, hordered, heven', hvalues⟩ := h
  simp only [Frame.append, List.length_append, List.length_map, Nat.cast_add] at htimestamps hsignals
  obtain ⟨hordered₁, hordered₂⟩ := ordered_append hordered
  have hlength := hnames.names.length_eq
  rw [List.length_map, List.length_map] at hlength
  refine ⟨⟨hfirst, by omega, hsignals, hordered₁, heven, fun signal hsignal => ?_⟩,
    hsecond, by omega, by omega, hordered₂, fun signal hsignal => ?_, fun signal hsignal => ?_⟩
  · obtain ⟨hname, hfinite⟩ := hvalues _ (List.mem_map_of_mem hsignal)
    exact ⟨hname, fun value hvalue => hfinite value (List.mem_append_left _ hvalue)⟩
  · obtain ⟨series, hseries, hmember⟩ := hnames.behind hsignal
    have htotal := heven' _ hmember
    have hlength' := heven _ hseries
    simp only [Frame.append, List.length_append] at htotal hlength'
    omega
  · obtain ⟨series, -, hmember⟩ := hnames.behind hsignal
    obtain ⟨hname, hfinite⟩ := hvalues _ hmember
    exact ⟨hname, fun value hvalue => hfinite value (List.mem_append_right _ hvalue)⟩

end Frames

section Evaluations
variable {formats : Formats} {program : Program} {limits : Limits}

theorem evaluate_ok {frame : Frame} {cursor next : Cursor} {result : EvaluationResult} :
    evaluate formats program frame cursor limits = .ok (result, next) ↔ limits.validate = .ok () ∧
      admitWatchdog program = .ok () ∧ frame.valid limits = true ∧
      visit formats program limits frame.signals frame.timestamps.zipIdx
        (loaded program (frame.timestamps.headD 0), cursor) = .ok (result, next) := by
  unfold evaluate visit
  simp only [bind_eq_ok]
  constructor
  · rintro ⟨⟨⟩, hlimits, ⟨⟩, hadmitted, h⟩
    split at h
    · exact ⟨hlimits, hadmitted, ‹_›, h⟩
    · cases h
  · rintro ⟨hlimits, hadmitted, hvalid, h⟩
    exact ⟨(), hlimits, (), hadmitted, by rw [if_pos hvalid]; exact h⟩

theorem visit_append {first second : Frame} (hnames : SameNames first second) (heven : first.Even)
    {state final : EvaluationResult × Cursor}
    (h : visit formats program limits (first.append second).signals (first.append second).timestamps.zipIdx state =
      .ok final) : ∃ middle, visit formats program limits first.signals first.timestamps.zipIdx state = .ok middle ∧
        visit formats program limits second.signals second.timestamps.zipIdx middle = .ok final := by
  have hsplit : (first.append second).timestamps.zipIdx = first.timestamps.zipIdx.map (fun e => (e.1, e.2 + 0)) ++
      second.timestamps.zipIdx.map fun e => (e.1, e.2 + first.timestamps.length) := by
    rw [Frame.append, List.zipIdx_append, List.zipIdx_eq_map_add (l := second.timestamps)]
    simp [Nat.add_comm]
  rw [hsplit, visit, List.foldlM_append] at h
  obtain ⟨middle, hleft, hright⟩ := bind_eq_ok.mp h
  refine ⟨middle, ?_, ?_⟩
  · rw [← hleft]
    refine (visit_shift 0 (fun entry hentry name => ?_) state).symm
    exact observe_append_left heven (List.snd_lt_of_mem_zipIdx hentry)
  · rw [← hright]
    exact (visit_shift _ (fun entry _ name => observe_append_right hnames heven entry.2) middle).symm

end Evaluations

/-- Where a frame that was put together from two is evaluated, so are its parts, the second from the cursor
of the first, and they add up to the same, exactly if the first has a value of each signal for each of its
timestamps. -/
theorem evaluate_append_iff {formats : Formats} {program : Program} {limits : Limits} {first second : Frame}
    {cursor final : Cursor} {result : EvaluationResult} (hnames : SameNames first second)
    (hfirst : first.timestamps ≠ []) (hsecond : second.timestamps ≠ [])
    (h : evaluate formats program (first.append second) cursor limits = .ok (result, final)) :
    (∃ result₁ middle result₂, evaluate formats program first cursor limits = .ok (result₁, middle) ∧
      evaluate formats program second middle limits = .ok (result₂, final) ∧
      result.intents = result₁.intents ++ result₂.intents ∧
      result.instructions = result₁.instructions + result₂.instructions) ↔ first.Even := by
  obtain ⟨hlimits, hadmitted, hvalid, hrun⟩ := evaluate_ok.mp h
  refine ⟨fun ⟨result₁, middle, _, hresult₁, _⟩ => ?_, fun heven => ?_⟩
  · obtain ⟨-, -, hvalid₁, -⟩ := evaluate_ok.mp hresult₁
    exact ((Frame.valid_iff first).mp hvalid₁).2.2.2.2.1
  obtain ⟨hvalid₁, hvalid₂⟩ := valid_parts hnames hfirst hsecond heven hvalid
  obtain ⟨⟨result₁, middle⟩, hleft, hright⟩ := visit_append hnames heven hrun
  have hhead : (first.append second).timestamps.headD 0 = first.timestamps.headD 0 := by
    rw [Frame.append]
    cases hts : first.timestamps with
    | nil => exact absurd hts hfirst
    | cons t ts => rfl
  rw [hhead] at hleft
  have hbelow : Below (loaded program (second.timestamps.headD 0)) result₁ := by
    obtain ⟨-, -, -, n, -, -, hn, -⟩ := visit_alike hleft ⟨le_refl _, le_refl _⟩
    exact ⟨by rw [hn]; simp [loaded], Nat.zero_le _⟩
  obtain ⟨result₂, hresult₂, halike⟩ := visit_alike hright hbelow
  obtain ⟨intents, n, hr, hs, hn, hm⟩ := halike
  refine ⟨result₁, middle, result₂, evaluate_ok.mpr ⟨hlimits, hadmitted, hvalid₁, hleft⟩,
    evaluate_ok.mpr ⟨hlimits, hadmitted, hvalid₂, hresult₂⟩, ?_, ?_⟩
  · rw [hr, hs]
    rfl
  · rw [hn, hm]
    simp [loaded]

def pulse : Program := ⟨"pulse", none, [⟨"LOAD", .eq, Float64.zero⟩], [⟨.observe, "", none⟩], []⟩

def loads (timestamp : Int64) (values : List Float64) : Frame := ⟨[timestamp], [("LOAD", values)]⟩

theorem sameNames_loads (t u : Int64) (values values' : List Float64) : SameNames (loads t values) (loads u values') :=
  ⟨.refl _, List.nodup_singleton _⟩

theorem evaluate_append_iff_pulse : ∃ result final,
    evaluate plainFormats pulse ((loads 10 [Float64.zero]).append (loads 20 [Float64.zero])) .zero defaultLimits =
      .ok (result, final) ∧ result.intents = [⟨.observe, 10⟩, ⟨.observe, 20⟩] ∧
    ((∃ result₁ middle result₂,
      evaluate plainFormats pulse (loads 10 [Float64.zero]) .zero defaultLimits = .ok (result₁, middle) ∧
      evaluate plainFormats pulse (loads 20 [Float64.zero]) middle defaultLimits = .ok (result₂, final) ∧
      result.intents = result₁.intents ++ result₂.intents ∧
      result.instructions = result₁.instructions + result₂.instructions) ↔ (loads 10 [Float64.zero]).Even) :=
  ⟨_, _, rfl, rfl, evaluate_append_iff (sameNames_loads ..) (List.cons_ne_nil _ _) (List.cons_ne_nil _ _) rfl⟩

/-- Two values at the first timestamp and none at the second make a valid whole, but not a valid first part. -/
theorem uneven_part_refused : SameNames (loads 10 [Float64.zero, Float64.zero]) (loads 20 []) ∧
    (evaluate plainFormats pulse ((loads 10 [Float64.zero, Float64.zero]).append (loads 20 [])) .zero
      defaultLimits).isOk = true ∧
    evaluate plainFormats pulse (loads 10 [Float64.zero, Float64.zero]) .zero defaultLimits = .error (.invalidFrame "") :=
  ⟨sameNames_loads .., rfl, rfl⟩

end AntiFlock.Nano
