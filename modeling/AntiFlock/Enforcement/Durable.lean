import AntiFlock.Enforcement.FileState

set_option autoImplicit false

/-!
# The durable store refines the memory store

What `FileStateStore` reads back is the state of a `MemoryStateStore` that was
given the same calls. The two differ only where the durable store looks at more
of a call: at the form of a fingerprint, at fields of a result that the program
does not know, and at arguments before it looks at a done context.
-/
namespace AntiFlock.Enforcement
open AntiFlock.Effect AntiFlock.Go

def planTokenRune (c : Char) : Bool :=
  ('a'.toNat ≤ c.toNat && c.toNat ≤ 'z'.toNat) || ('A'.toNat ≤ c.toNat && c.toNat ≤ 'Z'.toNat) ||
    ('0'.toNat ≤ c.toNat && c.toNat ≤ '9'.toNat) || "._:-".toList.contains c

def safePlanToken (value : String) : Bool := value ≠ "" && len value ≤ 128 && value.toList.all planTokenRune

theorem isSpace_planTokenRune {c : Char} (h : planTokenRune c = true) : isSpace c = false := by
  have hspaces : (['\t', '\n', '\x0b', '\x0c', '\r', ' ', '\u0085', '\u00a0', '\u1680', '\u2028', '\u2029',
      '\u202f', '\u205f', '\u3000'].all fun c => planTokenRune c = false) = true := by decide
  have hmarks : ("._:-".toList.all fun c => c.toNat < 0x2000) = true := by decide
  have hlow : c.toNat < 0x2000 := by
    simp only [planTokenRune, Bool.or_eq_true, Bool.and_eq_true, decide_eq_true_eq] at h
    have hz : 'z'.toNat = 122 ∧ 'Z'.toNat = 90 ∧ '9'.toNat = 57 := by decide
    rcases h with ((h | h) | h) | h
    · omega
    · omega
    · omega
    · exact of_decide_eq_true (List.all_eq_true.mp hmarks c (List.contains_iff_mem.mp h))
  rw [isSpace, Bool.or_eq_false_iff]
  refine ⟨?_, by simp; omega⟩
  rw [← Bool.not_eq_true, List.contains_iff_mem]
  intro hmem
  have := of_decide_eq_true (List.all_eq_true.mp hspaces c hmem)
  rw [h] at this
  cases this

theorem trimSpace_safePlanToken {value : String} (h : safePlanToken value = true) : trimSpace value = value := by
  simp only [safePlanToken, Bool.and_eq_true] at h
  exact trimSpace_eq_self fun c hc => isSpace_planTokenRune (List.all_eq_true.mp h.2 c hc)

inductive StateCall (Result : Type) where
  | reserve (ctx : Context) (reservation : Reservation)
  | complete (ctx : Context) (result : Option Result)

/-- What a caller sees of a call: a reservation outcome, a stored result, an error kind. -/
inductive Answered (Result : Type) where
  | reserved (outcome : Except StateErrKind (Option Result))
  | completed (outcome : Except StateErrKind Unit)

section Steps
variable {Result : Type} [DecidableEq Result] (format : ResultFormat Result)

def fileStep (file : StateFile) : StateCall Result → Answered Result × StateFile
  | .reserve ctx reservation =>
    let (answer, file') := fileReserve format file ctx reservation
    (.reserved (answer.mapError StateErr.kind), file')
  | .complete ctx result =>
    let (answer, file') := fileComplete format file ctx result
    (.completed (answer.mapError StateErr.kind), file')

def memoryStep (store : MemoryStateStore Result) : StateCall Result → Answered Result × MemoryStateStore Result
  | .reserve ctx reservation =>
    let (answer, store') := store.reserve ctx reservation
    (.reserved (answer.mapError StateErr.kind), store')
  | .complete ctx result =>
    let (answer, store') := store.complete format ctx result
    (.completed (answer.mapError StateErr.kind), store')

end Steps

section Refinement
variable {Result : Type} (format : ResultFormat Result)

/-- The calls on which both stores look at the same things, while the state to save fits the file:
fingerprints of a bounded form, results of known fields that have an encoding, and with a done
context only arguments in order. -/
def Comparable (file : StateFile) : StateCall Result → Prop
  | .reserve ctx reservation =>
    safePlanToken reservation.planID = true ∧
      (len reservation.fingerprint ≤ 256 ∧ trimSpace reservation.fingerprint = reservation.fingerprint) ∧
      (ctx = none ∨ validateReservation reservation = true) ∧
      ∀ state state', load format file = .ok state → state.reserve format reservation = .save state' →
        state'.size ≤ maximumFileStateBytes
  | .complete _ none => True
  | .complete ctx (some result) =>
    (ctx = none ∨ format.planID result = "" ∨ format.planRevision result ≠ 0) ∧
      format.unknownFields result = false ∧ ∃ canonical, format.marshal result = some canonical ∧
        ∀ state state', load format file = .ok state → state.complete format result canonical = .save state' →
          state'.size ≤ maximumFileStateBytes

structure RecordMirrors (f : FileRecord) (m : MemoryRecord Result) : Prop where
  reservation : f.reservation = m.reservation
  result : match m.result with
    | none => f.result = []
    | some result => format.marshal result = some f.result ∧ f.result ≠ []

structure Mirrors (state : FileState) (m : MemoryStateStore Result) : Prop where
  policy : state.lastPolicyRevision = m.lastPolicyRevision
  plan : state.lastPlanRevision = m.lastPlanRevision
  records : Map.Related (fun _ => RecordMirrors format) state.records m.records

variable {format} {state : FileState} {m : MemoryStateStore Result}

theorem validateReservation_iff {reservation : Reservation} (hid : safePlanToken reservation.planID = true)
    (hfingerprint : len reservation.fingerprint ≤ 256 ∧ trimSpace reservation.fingerprint = reservation.fingerprint) :
    validateReservation reservation = true ↔ reservation.Complete := by
  have htrim := trimSpace_safePlanToken hid
  simp only [safePlanToken, Bool.and_eq_true, decide_eq_true_eq] at hid
  simp [validateReservation, Reservation.Complete, htrim, hfingerprint.1, hfingerprint.2, hid.1.2]
  tauto

theorem complete_of_valid {reservation : Reservation} (h : validateReservation reservation = true) :
    reservation.Complete := by
  simp only [validateReservation, Bool.not_eq_true', Bool.or_eq_false_iff, decide_eq_false_iff_not] at h
  obtain ⟨⟨⟨⟨⟨⟨⟨hplan, -⟩, -⟩, hfingerprint⟩, -⟩, -⟩, hpolicy⟩, hrevision⟩ := h
  exact ⟨hplan, hfingerprint, hpolicy, hrevision⟩

/-- The file reads back as the state of the memory store. -/
def Reflects (format : ResultFormat Result) (file : StateFile) (m : MemoryStateStore Result) : Prop :=
  ∃ state, load format file = .ok state ∧ Mirrors format state m

theorem settle_save {α : Type} {file : StateFile} {fresh : α} (h : state.Sound format)
    (hsize : state.size ≤ maximumFileStateBytes) :
    settle file fresh (.save state) = (.ok fresh, some state) := by
  rw [settle, save_sound h, if_pos hsize]

theorem reflects_new : Reflects format none (newMemoryStateStore Result 0 0) :=
  ⟨_, rfl, rfl, rfl, .empty⟩

variable {file : StateFile} {ctx : Context}

theorem reserve_reflects {reservation : Reservation} (h : Reflects format file m)
    (hcall : Comparable format file (.reserve ctx reservation)) :
    (fileReserve format file ctx reservation).1.mapError StateErr.kind =
        (m.reserve ctx reservation).1.mapError StateErr.kind ∧
      Reflects format (fileReserve format file ctx reservation).2 (m.reserve ctx reservation).2 := by
  obtain ⟨state, hload, hmirrors⟩ := h
  obtain ⟨hid, hfingerprint, hctx, hsize⟩ := hcall
  have hsound := (load_ok hload).1
  by_cases hvalid : validateReservation reservation = true
  · cases ctx with
    | some text =>
      simp only [fileReserve, hvalid, MemoryStateStore.reserve]
      exact ⟨rfl, state, hload, hmirrors⟩
    | none =>
      have hfile : fileReserve format file none reservation =
          settle file none (state.reserve format reservation) := by
        simp [fileReserve, hvalid, hload]
      rw [hfile]
      rcases hmirrors.records.lookup reservation.planID with ⟨hf, hm⟩ | ⟨f, record, hf, hm, hrecord⟩
      · have hmemory := MemoryStateStore.reserve_absent hm (complete_of_valid hvalid)
        by_cases hstale : reservation.policyRevision < m.lastPolicyRevision ∨
            reservation.planRevision ≤ m.lastPlanRevision
        · have hdecides : state.reserve format reservation = .answer (.error errPlanReplay) := by
            simp [FileState.reserve, hf, hmirrors.policy, hmirrors.plan, hstale]
          rw [hdecides, hmemory, if_pos hstale]
          exact ⟨rfl, state, hload, hmirrors⟩
        · obtain ⟨state', hstate'⟩ : ∃ state', state.reserve format reservation = .save state' := by
            simp [FileState.reserve, hf, hmirrors.policy, hmirrors.plan, hstale]
          obtain ⟨-, hsound', hnew⟩ := hsound.reserve hvalid hstate'
          have hfits := hsize state state' hload hstate'
          rw [hstate', settle_save hsound' hfits, hmemory, if_neg hstale]
          refine ⟨rfl, state', load_saved hsound' hfits, ?_⟩
          rw [hnew]
          exact ⟨rfl, rfl, hmirrors.records.insert ⟨rfl, rfl⟩⟩
      · by_cases hsame : record.reservation = reservation
        · have hresult := hrecord.result
          cases hr : record.result with
          | none =>
            rw [hr] at hresult
            have hdecides : state.reserve format reservation = .answer (.error errPlanInProgress) := by
              simp [FileState.reserve, hf, hrecord.reservation, hsame, hresult]
            have hmemory : m.reserve none reservation = (.error errPlanInProgress, m) := by
              simp [MemoryStateStore.reserve, hm, hsame, hr]
            rw [hdecides, hmemory]
            exact ⟨rfl, state, hload, hmirrors⟩
          | some result =>
            rw [hr] at hresult
            obtain ⟨hmarshal, hne⟩ := hresult
            obtain ⟨result', hresult', hknown, -⟩ := (hsound.records _ _ hf).result hne
            rw [format.unmarshal_marshal hmarshal, Option.some.injEq] at hresult'
            subst hresult'
            have hdecides : state.reserve format reservation = .answer (.ok (some result)) := by
              simp [FileState.reserve, hf, hrecord.reservation, hsame, hne, format.unmarshal_marshal hmarshal, hknown]
            have hmemory : m.reserve none reservation = (.ok (some result), m) := by
              simp [MemoryStateStore.reserve, hm, hsame, hr]
            rw [hdecides, hmemory]
            exact ⟨rfl, state, hload, hmirrors⟩
        · have hdecides : state.reserve format reservation = .answer (.error errPlanReplay) := by
            simp [FileState.reserve, hf, hrecord.reservation, hsame]
          have hmemory : m.reserve none reservation = (.error errPlanReplay, m) := by
            simp [MemoryStateStore.reserve, hm, hsame]
          rw [hdecides, hmemory]
          exact ⟨rfl, state, hload, hmirrors⟩
  · -- The memory store refuses an invalid reservation as well: none of its records has one.
    have hnone : ctx = none := hctx.resolve_right hvalid
    subst hnone
    have hfile : fileReserve format file none reservation = (.error errPlanReplay, file) := by
      simp [fileReserve, hvalid]
    have hmemory : m.reserve none reservation = (.error errPlanReplay, m) := by
      rcases hmirrors.records.lookup reservation.planID with ⟨-, hm⟩ | ⟨f, record, hf, hm, hrecord⟩
      · rw [validateReservation_iff hid hfingerprint] at hvalid
        exact MemoryStateStore.reserve_incomplete hm hvalid
      · have hother : record.reservation ≠ reservation := by
          rintro rfl
          exact hvalid (hrecord.reservation ▸ (hsound.records _ _ hf).valid)
        simp [MemoryStateStore.reserve, hm, hother]
    rw [hfile, hmemory]
    exact ⟨rfl, state, hload, hmirrors⟩

variable [DecidableEq Result]

theorem complete_reflects {result : Option Result} (h : Reflects format file m)
    (hcall : Comparable format file (.complete ctx result)) :
    (fileComplete format file ctx result).1.mapError StateErr.kind =
        (m.complete format ctx result).1.mapError StateErr.kind ∧
      Reflects format (fileComplete format file ctx result).2 (m.complete format ctx result).2 := by
  cases result with
  | none => exact ⟨rfl, h⟩
  | some result =>
    by_cases hplan : format.planID result = ""
    · simp only [fileComplete, MemoryStateStore.complete, hplan]
      exact ⟨rfl, h⟩
    · obtain ⟨hctx, hknown, canonical, hcanonical, hsize⟩ := hcall
      obtain ⟨state, hload, hmirrors⟩ := h
      have hsound := (load_ok hload).1
      have hfound := hmirrors.records.lookup (format.planID result)
      by_cases hrevision : format.planRevision result = 0
      · have hnone : ctx = none := by tauto
        subst hnone
        have hfile : fileComplete format file none (some result) =
            (.error (other "terminal plan result is required"), file) := by
          simp [fileComplete, hplan, hrevision]
        have hmemory : m.complete format none (some result) =
            (.error (other "plan result has no matching reservation"), m) := by
          rcases hfound with ⟨-, hm⟩ | ⟨f, record, hf, hm, hrecord⟩
          · simp [MemoryStateStore.complete, hplan, hm, other]
          · have hpositive : record.reservation.planRevision ≠ 0 :=
              hrecord.reservation ▸ (complete_of_valid (hsound.records _ _ hf).valid).2.2.2
            simp [MemoryStateStore.complete, hplan, hm, hrevision, hpositive, other]
        rw [hfile, hmemory]
        exact ⟨rfl, state, hload, hmirrors⟩
      · cases ctx with
        | some text =>
          simp only [fileComplete, MemoryStateStore.complete, hplan, hrevision]
          exact ⟨rfl, state, hload, hmirrors⟩
        | none =>
          have hfile : fileComplete format file none (some result) =
              settle file () (state.complete format result canonical) := by
            simp [fileComplete, hplan, hrevision, hknown, hcanonical, hload]
          rw [hfile]
          rcases hfound with ⟨hf, hm⟩ | ⟨f, record, hf, hm, hrecord⟩
          · have hdecides : state.complete format result canonical =
                .answer (.error (other "plan result has no matching reservation")) := by
              simp [FileState.complete, hf]
            have hmemory : m.complete format none (some result) =
                (.error (other "plan result has no matching reservation"), m) := by
              simp [MemoryStateStore.complete, hplan, hm, other]
            rw [hdecides, hmemory]
            exact ⟨rfl, state, hload, hmirrors⟩
          · by_cases hmatches : record.reservation.planRevision = format.planRevision result
            · have hresult := hrecord.result
              cases hr : record.result with
              | none =>
                rw [hr] at hresult
                obtain ⟨state', hstate'⟩ : ∃ state', state.complete format result canonical = .save state' := by
                  simp [FileState.complete, hf, hrecord.reservation, hmatches, hresult]
                obtain ⟨f', hf', -, -, hsound', hnew⟩ := hsound.complete hknown hcanonical hstate'
                rw [hf, Option.some.injEq] at hf'
                subst hf'
                have hfits := hsize state state' hload hstate'
                have hmemory : m.complete format none (some result) =
                    (.ok (), ⟨m.lastPolicyRevision, m.lastPlanRevision,
                      m.records.insert (format.planID result) ⟨record.reservation, some result⟩⟩) := by
                  simp [MemoryStateStore.complete, hplan, hm, hmatches, hr]
                rw [hstate', settle_save hsound' hfits, hmemory]
                refine ⟨rfl, state', load_saved hsound' hfits, ?_⟩
                rw [hnew]
                refine ⟨hmirrors.policy, hmirrors.plan, hmirrors.records.insert ⟨hrecord.reservation, hcanonical, ?_⟩⟩
                exact fun hempty => hplan (format.planID_of_empty (hempty ▸ hcanonical))
              | some stored =>
                rw [hr] at hresult
                obtain ⟨hmarshal, hne⟩ := hresult
                have hequal : f.result = canonical ↔ stored = result := by
                  constructor
                  · rintro rfl
                    exact format.marshal_inj hmarshal hcanonical
                  · rintro rfl
                    exact Option.some.inj (hmarshal.symm.trans hcanonical)
                have hdecides : state.complete format result canonical =
                    if stored = result then .answer (.ok ()) else .answer (.error errPlanReplay) := by
                  simp [FileState.complete, hf, hrecord.reservation, hmatches, hne, hequal]
                have hmemory : m.complete format none (some result) =
                    if stored = result then (.ok (), m) else (.error errPlanReplay, m) := by
                  simp [MemoryStateStore.complete, hplan, hm, hmatches, hr]
                rw [hdecides, hmemory]
                split
                · exact ⟨rfl, state, hload, hmirrors⟩
                · exact ⟨rfl, state, hload, hmirrors⟩
            · have hdecides : state.complete format result canonical =
                  .answer (.error (other "plan result has no matching reservation")) := by
                simp [FileState.complete, hf, hrecord.reservation, hmatches]
              have hmemory : m.complete format none (some result) =
                  (.error (other "plan result has no matching reservation"), m) := by
                simp [MemoryStateStore.complete, hplan, hm, hmatches, other]
              rw [hdecides, hmemory]
              exact ⟨rfl, state, hload, hmirrors⟩

variable (format) in
/-- Over every list of comparable calls the durable store gives the answers of a memory store. -/
theorem fileState_refines (calls : List (StateCall Result))
    (h : Along (fileStep format) (Comparable format) none calls) :
    answers (fileStep format) none calls =
      answers (memoryStep format) (newMemoryStateStore Result 0 0) calls := by
  rw [← List.forall₂_eq_eq_eq]
  refine answers_alike (R := Reflects format) (fun file m call hreflects hcall => ?_) reflects_new h
  cases call with
  | reserve ctx reservation =>
    obtain ⟨hanswer, hstate⟩ := reserve_reflects hreflects hcall
    exact ⟨congrArg Answered.reserved hanswer, hstate⟩
  | complete ctx result =>
    obtain ⟨hanswer, hstate⟩ := complete_reflects hreflects hcall
    exact ⟨congrArg Answered.completed hanswer, hstate⟩

end Refinement

def reservedFile : FileState :=
  ⟨fileStateSchema, 3, 7, AList.insert "plan-1" ⟨sampleReservation, []⟩ (∅ : Map String FileRecord)⟩

theorem reservedFile_size : reservedFile.size ≤ maximumFileStateBytes := by decide +kernel

theorem sampleReservation_valid : validateReservation sampleReservation = true := by decide

theorem reservedFile_saved : fileStep BareResult.format none (.reserve none sampleReservation) =
    (.reserved (.ok none), some reservedFile) := by
  have hdecides : FileState.reserve BareResult.format ⟨fileStateSchema, 0, 0, ∅⟩ sampleReservation =
      .save reservedFile := rfl
  have hempty : load BareResult.format none = .ok ⟨fileStateSchema, 0, 0, ∅⟩ := rfl
  have hsound := ((load_ok hempty).1.reserve sampleReservation_valid hdecides).2.1
  simp [fileStep, fileReserve, sampleReservation_valid, load, hdecides, settle_save hsound reservedFile_size,
    Except.mapError]

theorem fileState_refines_sample :
    answers (fileStep BareResult.format) none [.reserve none sampleReservation, .reserve none sampleReservation] =
      [.reserved (.ok none), .reserved (.error .planInProgress)] := by
  refine fileState_refines BareResult.format _ ⟨⟨by decide, by decide, .inl rfl, ?_⟩,
    ⟨by decide, by decide, .inl rfl, ?_⟩, trivial⟩
  · rintro state state' ⟨⟩ ⟨⟩
    exact reservedFile_size
  · rw [reservedFile_saved]
    intro state state' hload hsave
    rw [← (load_ok hload).2 reservedFile rfl] at hsave
    cases hsave

/-- A fingerprint of more than 256 bytes: the durable store refuses the plan as a replay, the memory
store grants it. -/
theorem long_fingerprint_answers_differ : safePlanToken "plan-1" = true ∧
    answers (fileStep BareResult.format) none [.reserve none ⟨"plan-1", BareResult.filler 256, 3, 7⟩] =
      [.reserved (.error .planReplay)] ∧
    answers (memoryStep BareResult.format) (newMemoryStateStore BareResult 0 0)
      [.reserve none ⟨"plan-1", BareResult.filler 256, 3, 7⟩] = [.reserved (.ok none)] := by
  have hinvalid : validateReservation ⟨"plan-1", BareResult.filler 256, 3, 7⟩ = false := by
    simp [validateReservation, BareResult.len_filler]
  refine ⟨by decide, ?_, ?_⟩
  · simp [answers, fileStep, fileReserve, hinvalid, Except.mapError, errPlanReplay]
  · have hcomplete : Reservation.Complete ⟨"plan-1", BareResult.filler 256, 3, 7⟩ :=
      ⟨by decide, BareResult.filler_ne 256, by decide, by decide⟩
    have habsent : (newMemoryStateStore BareResult 0 0).records.lookup "plan-1" = none := rfl
    have hgranted := MemoryStateStore.reserve_absent habsent hcomplete
    simp only [answers, memoryStep, hgranted]
    rfl

end AntiFlock.Enforcement
