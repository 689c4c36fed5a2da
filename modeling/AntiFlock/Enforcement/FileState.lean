import AntiFlock.Effect.Answers
import AntiFlock.Enforcement.StateStore
import AntiFlock.Go.Encoding
import Mathlib.Algebra.Order.BigOperators.Group.List
import Mathlib.Data.List.Sort

set_option autoImplicit false

/-!
# The durable state store

`FileStateStore` keeps its whole state in one file that every change replaces. A
store holds nothing but its directory, so a reopened store is the same store.
The file is the text of a state; reading it back checks every record again.
-/
namespace AntiFlock.Enforcement
open AntiFlock.Effect AntiFlock.Go

def fileStateSchema : String := "antiflock.plan-state/v1"
def maximumFileStateBytes : ℕ := 8 * 2 ^ 20

/-- A persisted record; a plan without a result has no result bytes. -/
structure FileRecord where
  reservation : Reservation
  result : List UInt8
deriving DecidableEq

structure FileState where
  schemaVersion : String
  lastPolicyRevision : ℕ
  lastPlanRevision : ℕ
  records : Map String FileRecord

/-! ## The text of a state -/

def Reservation.marshal (reservation : Reservation) : String :=
  "\x7b\"PlanID\":" ++ Json.quote reservation.planID ++ ",\"Fingerprint\":" ++ Json.quote reservation.fingerprint ++
    ",\"PolicyRevision\":" ++ toString reservation.policyRevision ++ ",\"PlanRevision\":" ++
    toString reservation.planRevision ++ "\x7d"

def FileRecord.marshalResult (record : FileRecord) : String :=
  if record.result = [] then "" else ",\"result\":" ++ Json.quote (String.ofList (base64 record.result))

def FileRecord.marshal (record : FileRecord) : String :=
  "\x7b\"reservation\":" ++ record.reservation.marshal ++ record.marshalResult ++ "\x7d"

def marshalMember (entry : Sigma fun _ : String => FileRecord) : String :=
  Json.quote entry.1 ++ ":" ++ entry.2.marshal

def FileState.members (state : FileState) : List String :=
  (state.records.entries.insertionSort fun a b => ¬ b.1 < a.1).map marshalMember

def FileState.marshal (state : FileState) : String :=
  "\x7b\"schemaVersion\":" ++ Json.quote state.schemaVersion ++ ",\"lastPolicyRevision\":" ++
    toString state.lastPolicyRevision ++ ",\"lastPlanRevision\":" ++ toString state.lastPlanRevision ++
    ",\"records\":\x7b" ++ Json.commaSeparated state.members ++ "\x7d\x7d"

def FileState.size (state : FileState) : ℕ := len state.marshal

/-- The state file, where there is one: the text of a complete state. -/
abbrev StateFile := Option FileState

/-! ## The store -/

def validateReservation (reservation : Reservation) : Bool :=
  !(reservation.planID = "" || len reservation.planID > 128 || trimSpace reservation.planID ≠ reservation.planID ||
    reservation.fingerprint = "" || len reservation.fingerprint > 256 ||
    trimSpace reservation.fingerprint ≠ reservation.fingerprint ||
    reservation.policyRevision = 0 || reservation.planRevision = 0)

/-- What a call decides once the state is loaded: an answer, or a state to save. -/
inductive Decision (α : Type) where
  | answer (answer : Except StateErr α)
  | save (state : FileState)

def other (text : String) : StateErr := ⟨.other, text⟩

section Store
variable {Result : Type} (format : ResultFormat Result)

/-- The checks of `load` on one record. -/
def checkRecord (id : String) (record : FileRecord) : Option StateErr :=
  if id ≠ record.reservation.planID || !validateReservation record.reservation ||
      record.result.length > maximumFileStateBytes then
    some (other "plan state record is invalid")
  else if record.result = [] then none
  else
    match format.unmarshal record.result with
    | none => some (other "persisted plan result does not match its reservation")
    | some result =>
      if format.unknownFields result || format.planID result ≠ record.reservation.planID ||
          format.planRevision result ≠ record.reservation.planRevision then
        some (other "persisted plan result does not match its reservation")
      else none

def load : StateFile → Except StateErr FileState
  | none => .ok ⟨fileStateSchema, 0, 0, ∅⟩
  | some state =>
    if state.size = 0 || state.size > maximumFileStateBytes then .error (other "read plan state")
    else if state.schemaVersion ≠ fileStateSchema then .error (other "plan state schema is invalid")
    else
      match state.records.entries.findSome? fun entry => checkRecord format entry.1 entry.2 with
      | some err => .error err
      | none => .ok state

def save (state : FileState) : Except StateErr StateFile :=
  if state.schemaVersion ≠ fileStateSchema then .error (other "plan state is invalid")
  else if state.size = 0 || state.size > maximumFileStateBytes then .error (other "encode plan state")
  else .ok (some state)

/-- Carries a decision out; `fresh` is the answer behind a saved state. -/
def settle {α : Type} (file : StateFile) (fresh : α) : Decision α → Except StateErr α × StateFile
  | .answer answer => (answer, file)
  | .save state =>
    match save state with
    | .error err => (.error err, file)
    | .ok file' => (.ok fresh, file')

def FileState.reserve (state : FileState) (reservation : Reservation) : Decision (Option Result) :=
  match state.records.lookup reservation.planID with
  | some existing =>
    if existing.reservation ≠ reservation then .answer (.error errPlanReplay)
    else if existing.result = [] then .answer (.error errPlanInProgress)
    else
      match format.unmarshal existing.result with
      | none => .answer (.error (other "persisted plan result is invalid"))
      | some result =>
        if format.unknownFields result then .answer (.error (other "persisted plan result is invalid"))
        else .answer (.ok (some result))
  | none =>
    if reservation.policyRevision < state.lastPolicyRevision || reservation.planRevision ≤ state.lastPlanRevision then
      .answer (.error errPlanReplay)
    else
      .save ⟨state.schemaVersion, reservation.policyRevision, reservation.planRevision,
        state.records.insert reservation.planID ⟨reservation, []⟩⟩

def FileState.withResult (state : FileState) (reservation : Reservation) (id : String)
    (canonical : List UInt8) : FileState :=
  { state with records := state.records.insert id ⟨reservation, canonical⟩ }

def FileState.complete (state : FileState) (result : Result) (canonical : List UInt8) : Decision Unit :=
  match state.records.lookup (format.planID result) with
  | none => .answer (.error (other "plan result has no matching reservation"))
  | some record =>
    if record.reservation.planRevision ≠ format.planRevision result then
      .answer (.error (other "plan result has no matching reservation"))
    else if record.result ≠ [] then
      if record.result = canonical then .answer (.ok ()) else .answer (.error errPlanReplay)
    else .save (state.withResult record.reservation (format.planID result) canonical)

def fileReserve (file : StateFile) (ctx : Context) (reservation : Reservation) :
    Except StateErr (Option Result) × StateFile :=
  if !validateReservation reservation then (.error errPlanReplay, file)
  else
    match ctx with
    | some text => (.error ⟨.contextDone, text⟩, file)
    | none =>
      match load format file with
      | .error err => (.error err, file)
      | .ok state => settle file none (state.reserve format reservation)

def fileComplete (file : StateFile) (ctx : Context) (result : Option Result) :
    Except StateErr Unit × StateFile :=
  match result with
  | none => (.error (other "terminal plan result is required"), file)
  | some result =>
    if format.planID result = "" || format.planRevision result = 0 then
      (.error (other "terminal plan result is required"), file)
    else
      match ctx with
      | some text => (.error ⟨.contextDone, text⟩, file)
      | none =>
        if format.unknownFields result then
          (.error (other "terminal plan result contains unknown fields"), file)
        else
          match format.marshal result with
          | none => (.error (other "encode terminal plan result"), file)
          | some canonical =>
            match load format file with
            | .error err => (.error err, file)
            | .ok state => settle file () (state.complete format result canonical)

end Store

/-! ## Sizes -/

theorem FileState.weight_members (state : FileState) :
    Json.weight state.members = Json.weight (state.records.entries.map marshalMember) := by
  unfold Json.weight FileState.members
  exact (((List.perm_insertionSort _ _).map marshalMember).map _).sum_eq

theorem len_commaSeparated_bounds (items : List String) :
    len (Json.commaSeparated items) ≤ Json.weight items ∧ Json.weight items ≤ len (Json.commaSeparated items) + 1 := by
  by_cases h : items = []
  · subst h
    exact ⟨by decide, by decide⟩
  · have := Json.len_commaSeparated h
    omega

theorem FileState.size_bounds (state : FileState) :
    Json.weight (state.records.entries.map marshalMember) ≤ state.size ∧
      state.size ≤ Json.weight (state.records.entries.map marshalMember) + len (Json.quote state.schemaVersion) +
        len (toString state.lastPolicyRevision) + len (toString state.lastPlanRevision) + 200 := by
  have hmembers := len_commaSeparated_bounds state.members
  rw [state.weight_members] at hmembers
  have h₁ : len "\x7b\"schemaVersion\":" = 17 := by decide
  have h₂ : len ",\"lastPolicyRevision\":" = 22 := by decide
  have h₃ : len ",\"lastPlanRevision\":" = 20 := by decide
  have h₄ : len ",\"records\":\x7b" = 12 := by decide
  have h₅ : len "\x7d\x7d" = 2 := by decide
  unfold FileState.size FileState.marshal
  simp only [len_append, h₁, h₂, h₃, h₄, h₅]
  omega

theorem FileRecord.len_marshal (record : FileRecord) : len record.marshal =
    len record.reservation.marshal + len record.marshalResult + 16 := by
  have h₁ : len "\x7b\"reservation\":" = 15 := by decide
  have h₂ : len "\x7d" = 1 := by decide
  simp only [FileRecord.marshal, len_append, h₁, h₂]
  omega

theorem FileRecord.len_marshalResult (record : FileRecord) (h : record.result ≠ []) :
    len record.marshalResult = 4 * ((record.result.length + 2) / 3) + 12 := by
  have h₁ : len ",\"result\":" = 10 := by decide
  rw [FileRecord.marshalResult, if_neg h, len_append, h₁, Json.len_quote_base64]
  omega

theorem FileState.length_result_le {state : FileState} {id : String} {record : FileRecord}
    (h : state.records.lookup id = some record) : record.result.length ≤ state.size := by
  by_cases hempty : record.result = []
  · rw [hempty]
    exact Nat.zero_le _
  · have hmem : marshalMember ⟨id, record⟩ ∈ state.records.entries.map marshalMember :=
      List.mem_map_of_mem (AList.mem_lookup_iff.mp h)
    have hweight : len (marshalMember ⟨id, record⟩) + 1 ≤
        Json.weight (state.records.entries.map marshalMember) :=
      List.single_le_sum (by simp) _ (List.mem_map_of_mem hmem)
    have hmember : len record.marshal ≤ len (marshalMember ⟨id, record⟩) := by
      simp only [marshalMember, len_append]
      omega
    have hrecord := record.len_marshal
    have hresult := record.len_marshalResult hempty
    have hsize := state.size_bounds.1
    omega

theorem FileState.size_pos (state : FileState) : 0 < state.size := by
  have h₁ : len "\x7b\"schemaVersion\":" = 17 := by decide
  unfold FileState.size FileState.marshal
  simp only [len_append, h₁]
  omega

/-! ## What the store reads back -/

section Sound
variable {Result : Type} (format : ResultFormat Result)

/-- A record that `load` accepts in a file of bounded size. -/
structure RecordSound (id : String) (record : FileRecord) : Prop where
  named : id = record.reservation.planID
  valid : validateReservation record.reservation = true
  result : record.result ≠ [] → ∃ result, format.unmarshal record.result = some result ∧
    format.unknownFields result = false ∧ format.planID result = id ∧
    format.planRevision result = record.reservation.planRevision

structure FileState.Sound (state : FileState) : Prop where
  schema : state.schemaVersion = fileStateSchema
  records : ∀ id record, state.records.lookup id = some record → RecordSound format id record

variable {format}

theorem RecordSound.of_check {id : String} {record : FileRecord} (h : checkRecord format id record = none) :
    RecordSound format id record := by
  unfold checkRecord at h
  split at h
  · cases h
  · rename_i hfits
    simp only [Bool.or_eq_true, decide_eq_true_eq, Bool.not_eq_true', not_or, not_not, Bool.not_eq_false] at hfits
    obtain ⟨⟨hid, hvalid⟩, -⟩ := hfits
    refine ⟨hid, hvalid, fun hne => ?_⟩
    rw [if_neg hne] at h
    cases hresult : format.unmarshal record.result with
    | none => simp [hresult] at h
    | some result =>
      simp only [hresult, ite_eq_right_iff, reduceCtorEq, imp_false, Bool.or_eq_true, decide_eq_true_eq, not_or,
        not_not, Bool.not_eq_true] at h
      obtain ⟨⟨hknown, hplan⟩, hrevision⟩ := h
      exact ⟨result, rfl, hknown, hplan.trans hid.symm, hrevision⟩

theorem RecordSound.check {id : String} {record : FileRecord} (h : RecordSound format id record)
    (hlen : record.result.length ≤ maximumFileStateBytes) : checkRecord format id record = none := by
  unfold checkRecord
  rw [if_neg (by simp [← h.named, h.valid, hlen])]
  split
  case isTrue => rfl
  case isFalse hne =>
    obtain ⟨result, hresult, hknown, hplan, hrevision⟩ := h.result hne
    simp [hresult, hknown, hplan, ← h.named, hrevision]

theorem load_ok {file : StateFile} {state : FileState} (h : load format file = .ok state) :
    state.Sound format ∧ (∀ state', file = some state' → state' = state) := by
  cases file with
  | none =>
    cases h
    exact ⟨⟨rfl, fun _ _ hrecord => by cases hrecord⟩, nofun⟩
  | some state' =>
    simp only [load] at h
    split at h
    · cases h
    · split at h
      · cases h
      · rename_i hschema
        split at h
        · cases h
        · rename_i hchecks
          cases h
          refine ⟨⟨not_not.mp hschema, fun id record hrecord => ?_⟩, by rintro _ ⟨⟩; rfl⟩
          exact .of_check (List.findSome?_eq_none_iff.mp hchecks ⟨id, record⟩ (AList.mem_lookup_iff.mp hrecord))

theorem load_saved {state : FileState} (h : state.Sound format) (hsize : state.size ≤ maximumFileStateBytes) :
    load format (some state) = .ok state := by
  have hchecks : (state.records.entries.findSome? fun entry => checkRecord format entry.1 entry.2) = none := by
    rw [List.findSome?_eq_none_iff]
    intro entry hentry
    have hrecord : state.records.lookup entry.1 = some entry.2 := AList.mem_lookup_iff.mpr hentry
    exact (h.records _ _ hrecord).check ((FileState.length_result_le hrecord).trans hsize)
  simp [load, state.size_pos.ne', Nat.not_lt.mpr hsize, h.schema, hchecks]

theorem save_sound {state : FileState} (h : state.Sound format) :
    save state = if state.size ≤ maximumFileStateBytes then .ok (some state) else .error (other "encode plan state") := by
  by_cases hsize : state.size ≤ maximumFileStateBytes
  · simp [save, h.schema, state.size_pos.ne', Nat.not_lt.mpr hsize, hsize]
  · simp [save, h.schema, Nat.not_le.mp hsize, hsize]

theorem FileState.Sound.insert {state : FileState} (h : state.Sound format) {id : String} {record : FileRecord}
    (hrecord : RecordSound format id record) (policy plan : ℕ) :
    FileState.Sound format ⟨state.schemaVersion, policy, plan, state.records.insert id record⟩ := by
  refine ⟨h.schema, fun other old hold => ?_⟩
  change (state.records.insert id record).lookup other = some old at hold
  rw [Map.lookup_insert_eq_ite] at hold
  split at hold
  case isTrue heq =>
    cases hold
    rw [heq]
    exact hrecord
  case isFalse => exact h.records other old hold

theorem FileState.Sound.reserve {state state' : FileState} (h : state.Sound format) {reservation : Reservation}
    (hvalid : validateReservation reservation = true) (hsave : state.reserve format reservation = .save state') :
    state.records.lookup reservation.planID = none ∧ state'.Sound format ∧
      state' = ⟨state.schemaVersion, reservation.policyRevision, reservation.planRevision,
        state.records.insert reservation.planID ⟨reservation, []⟩⟩ := by
  unfold FileState.reserve at hsave
  cases hl : state.records.lookup reservation.planID with
  | some existing =>
    simp only [hl] at hsave
    split at hsave
    · cases hsave
    · split at hsave
      · cases hsave
      · split at hsave
        · cases hsave
        · split at hsave
          · cases hsave
          · cases hsave
  | none =>
    simp only [hl] at hsave
    split at hsave
    · cases hsave
    · cases hsave
      have hnew : RecordSound format reservation.planID ⟨reservation, []⟩ :=
        ⟨rfl, hvalid, fun hne => absurd rfl hne⟩
      exact ⟨rfl, h.insert hnew _ _, rfl⟩

theorem FileState.Sound.complete {state state' : FileState} (h : state.Sound format) {result : Result}
    {canonical : List UInt8} (hknown : format.unknownFields result = false)
    (hcanonical : format.marshal result = some canonical)
    (hsave : state.complete format result canonical = .save state') :
    ∃ record, state.records.lookup (format.planID result) = some record ∧ record.result = [] ∧
      record.reservation.planRevision = format.planRevision result ∧ state'.Sound format ∧
      state' = state.withResult record.reservation (format.planID result) canonical := by
  unfold FileState.complete at hsave
  cases hl : state.records.lookup (format.planID result) with
  | none =>
    simp only [hl] at hsave
    cases hsave
  | some record =>
    simp only [hl] at hsave
    split at hsave
    · cases hsave
    · rename_i hrevision
      rw [not_not] at hrevision
      split at hsave
      · split at hsave
        · cases hsave
        · cases hsave
      · rename_i hempty
        cases hsave
        have hold := h.records _ _ hl
        refine ⟨record, rfl, not_not.mp hempty, hrevision, ?_, rfl⟩
        have hnew : RecordSound format (format.planID result) ⟨record.reservation, canonical⟩ :=
          ⟨hold.named, hold.valid, fun _ =>
            ⟨result, format.unmarshal_marshal hcanonical, hknown, rfl, hrevision.symm⟩⟩
        exact h.insert hnew _ _

end Sound

end AntiFlock.Enforcement
