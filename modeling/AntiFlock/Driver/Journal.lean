import AntiFlock.Driver.Contract
import AntiFlock.Go.Map
import Mathlib.Data.List.Induction

set_option autoImplicit false

/-!
# The crash-safe journal

`JournalState` is the discipline shared by every journal implementation: an
append-only list of records, the entries it leaves open, and the compaction of
finished ones.
-/
namespace AntiFlock.Driver
open AntiFlock.Go

inductive JournalKind where
  | unknown
  | begin
  | advance
  | finish
deriving DecidableEq, Inhabited, Repr

structure JournalIdentity where
  planID : String
  planRevision : ℕ
  operationID : String
deriving DecidableEq, Inhabited

structure JournalRecord where
  schemaVersion : ℕ
  kind : JournalKind
  planID : String
  planRevision : ℕ
  operationID : String
  step : Step
  ownershipToken : String
  digest : String
  target : String
  reservation : ReservationKey
  at_ : Time
deriving DecidableEq, Inhabited

/-- The zero `ReservationKey{}` of a record that carries none. -/
def ReservationKey.zero : ReservationKey := ⟨"", 0, 0, "", ""⟩

namespace JournalRecord

def identity (record : JournalRecord) : JournalIdentity :=
  ⟨record.planID, record.planRevision, record.operationID⟩

def validate (record : JournalRecord) : Option Err :=
  if record.schemaVersion ≠ contractVersion then
    some ⟨.invalidRequest, s!"journal record schema version {record.schemaVersion} is not 1"⟩
  else if record.kind = .unknown then some ⟨.invalidRequest, "journal record kind is unknown"⟩
  else if !validIdentity record.planID record.planRevision record.operationID then
    some ⟨.invalidRequest, "journal record plan id, revision and operation id are required"⟩
  else if !record.step.valid then some ⟨.invalidRequest, "journal record step is unknown"⟩
  else if record.kind = .finish && !record.step.terminal then
    some ⟨.invalidRequest, "journal finish must name a terminal step"⟩
  else if record.kind ≠ .finish && record.step.terminal then
    some ⟨.invalidRequest, "only journal finish may name a terminal step"⟩
  else if record.ownershipToken ≠ "" && !validIdentifier record.ownershipToken then
    some ⟨.invalidRequest, "journal record ownership token is not a bounded identifier"⟩
  else if record.digest ≠ "" && !validDigest record.digest then
    some ⟨.invalidRequest, "journal record digest must be hex SHA-256"⟩
  else if let some err := if record.target ≠ "" then validateTarget record.target else none then
    some err
  else if let some err :=
      if record.reservation ≠ .zero then record.reservation.validate else none then
    some err
  else if isZero record.at_ then some ⟨.invalidRequest, "journal record at is required"⟩
  else none

theorem validate_eq_none {record : JournalRecord} : record.validate = none ↔
    record.schemaVersion = contractVersion ∧ record.kind ≠ .unknown ∧
    validIdentity record.planID record.planRevision record.operationID = true ∧
    record.step.valid = true ∧ (record.kind = .finish ↔ record.step.terminal = true) ∧
    (record.ownershipToken = "" ∨ validIdentifier record.ownershipToken = true) ∧
    (record.digest = "" ∨ validDigest record.digest = true) ∧
    (record.target = "" ∨ validateTarget record.target = none) ∧
    (record.reservation = .zero ∨ record.reservation.validate = none) ∧ record.at_ ≠ 0 := by
  have hkind : (record.kind = .finish ↔ record.step.terminal = true) ↔
      ¬ (record.kind = .finish && !record.step.terminal) = true ∧
      ¬ (record.kind ≠ .finish && record.step.terminal) = true := by
    cases record.step.terminal <;> simp
  have htarget : (record.target = "" ∨ validateTarget record.target = none) ↔
      (if record.target ≠ "" then validateTarget record.target else none) = none := by
    rw [optional_eq_none, not_not]
  have hkey : (record.reservation = .zero ∨ record.reservation.validate = none) ↔
      (if record.reservation ≠ .zero then record.reservation.validate else none) = none := by
    rw [optional_eq_none, not_not]
  rw [hkind, htarget, hkey]
  simp only [validate, check_eq_none]
  cases (if record.target ≠ "" then validateTarget record.target else none) with
  | some err => simp
  | none =>
    cases (if record.reservation ≠ .zero then record.reservation.validate else none) with
    | some err => simp
    | none => simp [isZero, or_iff_not_imp_left, and_assoc]

def reportedBefore (a b : JournalRecord) : Bool :=
  if a.planID ≠ b.planID then a.planID < b.planID
  else if a.planRevision ≠ b.planRevision then a.planRevision < b.planRevision
  else !decide (b.operationID < a.operationID)

end JournalRecord

def maxJournalRecords : ℕ := 4096
def journalCompactionThreshold : ℕ := 1024

structure JournalState where
  records : List JournalRecord
deriving DecidableEq, Inhabited

abbrev OpenEntries := Map JournalIdentity JournalRecord

namespace JournalState

def openStep (entries : OpenEntries) (record : JournalRecord) : OpenEntries :=
  match record.kind with
  | .begin => entries.insert record.identity record
  | .advance => entries.insert record.identity record
  | .finish => entries.erase record.identity
  | .unknown => entries

def openEntries (records : List JournalRecord) : OpenEntries := records.foldl openStep ∅

def current (state : JournalState) (identity : JournalIdentity) : Option JournalRecord :=
  (openEntries state.records).lookup identity

def counts (records : List JournalRecord) (identity : JournalIdentity) : ℕ :=
  records.countP fun record => record.identity = identity

/-- The loop of `compact` that picks the identities to drop, oldest first. -/
def dropLoop (state : JournalState) :
    List JournalRecord → ℕ → List JournalIdentity → List JournalIdentity
  | [], _, dropped => dropped
  | record :: rest, remaining, dropped =>
    if remaining ≤ journalCompactionThreshold / 2 then dropped
    else if (state.current record.identity).isSome then dropLoop state rest remaining dropped
    else if record.identity ∈ dropped then dropLoop state rest remaining dropped
    else dropLoop state rest (remaining - counts state.records record.identity)
      (record.identity :: dropped)

def compact (state : JournalState) : JournalState :=
  if state.records.length ≤ journalCompactionThreshold then state
  else
    let dropped := dropLoop state state.records state.records.length []
    ⟨state.records.filter fun record => record.identity ∉ dropped⟩

def append (state : JournalState) (record : JournalRecord) : Except Err JournalState :=
  match record.validate with
  | some err => .error err
  | none =>
    if state.records.length ≥ maxJournalRecords then .error ⟨.journalFull, ""⟩
    else
      let appended : JournalState := ⟨state.records ++ [record]⟩
      match record.kind, state.current record.identity with
      | .begin, some _ => .error ⟨.journalActive, ""⟩
      | .begin, none => .ok appended
      | .advance, none => .error ⟨.journalInactive, ""⟩
      | .advance, some current =>
        if record.step.number ≤ current.step.number then .error ⟨.journalOrder, ""⟩
        else .ok appended
      | .finish, none => .error ⟨.journalInactive, ""⟩
      | .finish, some _ => .ok appended.compact
      | .unknown, _ => .ok appended

def inFlight (state : JournalState) : List JournalRecord :=
  (Map.values (openEntries state.records)).insertionSort fun a b => a.reportedBefore b = true

def begin_ (state : JournalState) (record : JournalRecord) : Except Err JournalState :=
  state.append { record with kind := .begin }

def advance (state : JournalState) (record : JournalRecord) : Except Err JournalState :=
  state.append { record with kind := .advance }

def finish (state : JournalState) (record : JournalRecord) : Except Err JournalState :=
  state.append { record with kind := .finish }

theorem openEntries_concat (records : List JournalRecord) (record : JournalRecord) :
    openEntries (records ++ [record]) = openStep (openEntries records) record := by
  simp [openEntries]

theorem lookup_openStep (entries : OpenEntries) (record : JournalRecord) (identity : JournalIdentity) :
    (openStep entries record).lookup identity =
      if identity = record.identity then
        match record.kind with
        | .finish => none
        | .unknown => entries.lookup identity
        | _ => some record
      else entries.lookup identity := by
  cases hk : record.kind with
  | unknown => simp only [openStep, hk, ite_self]
  | begin => simp only [openStep, hk, Map.lookup_insert_eq_ite]
  | advance => simp only [openStep, hk, Map.lookup_insert_eq_ite]
  | finish => simp only [openStep, hk, Map.lookup_erase_eq_ite]

theorem current_identity (state : JournalState) {identity : JournalIdentity} {record : JournalRecord}
    (h : state.current identity = some record) : record.identity = identity := by
  obtain ⟨records⟩ := state
  unfold current at h
  induction records using List.reverseRecOn with
  | nil => simp [openEntries] at h
  | append_singleton records last ih =>
    simp only [openEntries_concat, lookup_openStep] at h
    split at h
    case isFalse => exact ih h
    case isTrue hid =>
      cases hk : last.kind with
      | unknown => exact ih (by simpa [hk] using h)
      | begin => simp only [hk, Option.some.injEq] at h; rw [← h, hid]
      | advance => simp only [hk, Option.some.injEq] at h; rw [← h, hid]
      | finish => simp [hk] at h

theorem mem_inFlight {state : JournalState} {record : JournalRecord} :
    record ∈ state.inFlight ↔ state.current record.identity = some record := by
  rw [inFlight, List.mem_insertionSort, Map.mem_values]
  constructor
  · rintro ⟨identity, h⟩
    have hid : record.identity = identity := state.current_identity h
    rwa [hid]
  · exact fun h => ⟨_, h⟩

theorem inFlight_eq_nil {state : JournalState} :
    state.inFlight = [] ↔ ∀ identity, state.current identity = none := by
  rw [List.eq_nil_iff_forall_not_mem]
  constructor
  · intro h identity
    rw [Option.eq_none_iff_forall_ne_some]
    intro record hr
    refine h record (mem_inFlight.mpr ?_)
    rwa [state.current_identity hr]
  · intro h record hr
    rw [mem_inFlight, h] at hr
    cases hr

theorem inFlight_nodup (state : JournalState) : (state.inFlight.map (·.identity)).Nodup := by
  have hvalues : (Map.values (openEntries state.records)).map (·.identity) =
      (openEntries state.records).keys := by
    simp only [Map.values, AList.keys, List.keys, List.map_map]
    refine List.map_congr_left fun entry hentry => ?_
    exact state.current_identity (AList.mem_lookup_iff.mpr hentry)
  have hperm := ((Map.values (openEntries state.records)).perm_insertionSort
    fun a b => a.reportedBefore b = true).map (·.identity)
  rw [inFlight, hperm.nodup_iff, hvalues]
  exact AList.keys_nodup _

theorem lookup_openEntries_filter (records : List JournalRecord) (keep : JournalRecord → Bool)
    (identity : JournalIdentity)
    (h : ∀ record ∈ records, record.identity = identity → keep record = true) :
    (openEntries (records.filter keep)).lookup identity = (openEntries records).lookup identity := by
  induction records using List.reverseRecOn with
  | nil => rfl
  | append_singleton records last ih =>
    have ih := ih fun record hr => h record (List.mem_append_left _ hr)
    rw [List.filter_append, openEntries_concat, lookup_openStep]
    cases hkeep : keep last with
    | true =>
      rw [List.filter_cons_of_pos hkeep, List.filter_nil, openEntries_concat, lookup_openStep, ih]
    | false =>
      have hne : identity ≠ last.identity := by
        intro hid
        rw [h last (by simp) hid.symm] at hkeep
        cases hkeep
      rw [List.filter_cons_of_neg (by simp [hkeep]), List.filter_nil, List.append_nil, ih, if_neg hne]

theorem lookup_openEntries_of_forall_ne (records : List JournalRecord) (identity : JournalIdentity)
    (h : ∀ record ∈ records, record.identity ≠ identity) :
    (openEntries records).lookup identity = none := by
  have hf := lookup_openEntries_filter records (fun _ => false) identity fun record hr hid =>
    absurd hid (h record hr)
  rw [← hf, List.filter_false]
  rfl

theorem dropLoop_closed (state : JournalState) (rest : List JournalRecord) (remaining : ℕ)
    (dropped : List JournalIdentity) (h : ∀ identity ∈ dropped, state.current identity = none) :
    ∀ identity ∈ dropLoop state rest remaining dropped, state.current identity = none := by
  induction rest generalizing remaining dropped with
  | nil => exact h
  | cons record rest ih =>
    simp only [dropLoop]
    split
    · exact h
    · split
      · exact ih _ _ h
      · split
        · exact ih _ _ h
        · rename_i hopen _
          refine ih _ _ fun identity hid => ?_
          rcases List.mem_cons.mp hid with rfl | hid
          · simpa using hopen
          · exact h identity hid

@[simp] theorem current_compact (state : JournalState) (identity : JournalIdentity) :
    state.compact.current identity = state.current identity := by
  unfold compact
  split
  · rfl
  · by_cases hid : identity ∈ dropLoop state state.records state.records.length []
    · rw [dropLoop_closed state _ _ [] (by simp) identity hid]
      refine lookup_openEntries_of_forall_ne _ _ fun record hr hrid => ?_
      simp only [List.mem_filter, decide_eq_true_eq] at hr
      exact hr.2 (hrid ▸ hid)
    · refine lookup_openEntries_filter _ _ _ fun record _ hrid => ?_
      simpa [hrid] using hid

theorem length_compact_le (state : JournalState) :
    state.compact.records.length ≤ state.records.length := by
  unfold compact
  split
  · exact le_rfl
  · exact List.length_filter_le _ _

theorem mem_dropLoop_of_mem (state : JournalState) (rest : List JournalRecord) (remaining : ℕ)
    (dropped : List JournalIdentity) {identity : JournalIdentity} (h : identity ∈ dropped) :
    identity ∈ dropLoop state rest remaining dropped := by
  induction rest generalizing remaining dropped with
  | nil => exact h
  | cons record rest ih =>
    simp only [dropLoop]
    split_ifs
    · exact h
    · exact ih _ _ h
    · exact ih _ _ h
    · exact ih _ _ (List.mem_cons_of_mem _ h)

/-- The records that survive when `dropped` goes. -/
def kept (state : JournalState) (dropped : List JournalIdentity) : ℕ :=
  state.records.countP fun record => record.identity ∉ dropped

theorem kept_cons (state : JournalState) (dropped : List JournalIdentity) (identity : JournalIdentity)
    (h : identity ∉ dropped) :
    state.kept (identity :: dropped) = state.kept dropped - counts state.records identity := by
  have hsplit : state.kept dropped =
      state.kept (identity :: dropped) + counts state.records identity := by
    unfold kept counts
    induction state.records with
    | nil => rfl
    | cons record rest ih =>
      simp only [List.countP_cons, ih]
      by_cases hid : record.identity = identity
      · simp [hid, h]
        omega
      · simp [hid]
        omega
  omega

theorem dropLoop_kept (state : JournalState) (rest : List JournalRecord)
    (dropped : List JournalIdentity) :
    state.kept (dropLoop state rest (state.kept dropped) dropped) ≤ journalCompactionThreshold / 2 ∨
      ∀ record ∈ rest, state.current record.identity = none →
        record.identity ∈ dropLoop state rest (state.kept dropped) dropped := by
  induction rest generalizing dropped with
  | nil => exact .inr (by simp)
  | cons record rest ih =>
    simp only [dropLoop]
    split
    · exact .inl ‹_›
    · split
      case isTrue hopen =>
        refine (ih dropped).imp_right fun h r hr hc => ?_
        rcases List.mem_cons.mp hr with rfl | hr
        · simp [hc] at hopen
        · exact h r hr hc
      case isFalse =>
        split
        case isTrue hmem =>
          refine (ih dropped).imp_right fun h r hr hc => ?_
          rcases List.mem_cons.mp hr with rfl | hr
          · exact mem_dropLoop_of_mem _ _ _ _ hmem
          · exact h r hr hc
        case isFalse hmem =>
          rw [← kept_cons state dropped record.identity hmem]
          refine (ih (record.identity :: dropped)).imp_right fun h r hr hc => ?_
          rcases List.mem_cons.mp hr with rfl | hr
          · exact mem_dropLoop_of_mem _ _ _ _ List.mem_cons_self
          · exact h r hr hc

theorem length_compact (state : JournalState) :
    state.compact.records.length ≤ journalCompactionThreshold ∨
      ∀ record ∈ state.compact.records, state.current record.identity ≠ none := by
  unfold compact
  split
  · exact .inl ‹_›
  · have hall : state.kept [] = state.records.length := by simp [kept]
    have hk := dropLoop_kept state state.records []
    rw [hall] at hk
    rcases hk with hk | hk
    · left
      change (state.records.filter _).length ≤ _
      rw [← List.countP_eq_length_filter]
      exact hk.trans (by decide)
    · right
      intro record hr hclosed
      obtain ⟨hmem, hkeep⟩ := List.mem_filter.mp hr
      exact absurd (hk record hmem hclosed) (by simpa using hkeep)

theorem current_concat (records : List JournalRecord) (record : JournalRecord)
    (identity : JournalIdentity) (hk : record.kind ≠ .unknown) :
    (JournalState.mk (records ++ [record])).current identity =
      if identity = record.identity then (if record.kind = .finish then none else some record)
      else (JournalState.mk records).current identity := by
  simp only [current, openEntries_concat, lookup_openStep]
  split
  · cases h : record.kind <;> simp_all
  · rfl

/-- What an accepted record must satisfy against the state it meets. -/
def Admits (state : JournalState) (record : JournalRecord) : Prop :=
  match record.kind with
  | .begin => state.current record.identity = none
  | .advance => ∃ entry, state.current record.identity = some entry ∧
      entry.step.number < record.step.number
  | .finish => ∃ entry, state.current record.identity = some entry
  | .unknown => False

theorem append_ok {state state' : JournalState} {record : JournalRecord}
    (h : state.append record = .ok state') :
    record.validate = none ∧ state.records.length < maxJournalRecords ∧ state.Admits record ∧
      (∀ identity, state'.current identity =
        if identity = record.identity then (if record.kind = .finish then none else some record)
        else state.current identity) ∧
      state' = if record.kind = .finish then compact ⟨state.records ++ [record]⟩
        else ⟨state.records ++ [record]⟩ := by
  unfold append at h
  split at h
  · cases h
  · rename_i hv
    have hu : record.kind ≠ .unknown := by
      intro hu
      simp only [JournalRecord.validate, hu] at hv
      split_ifs at hv
    have hcur := fun identity => current_concat state.records record identity hu
    split at h
    · cases h
    · rename_i hlen
      refine ⟨hv, by omega, ?_⟩
      unfold Admits
      split at h <;> rename_i hk hc
      · cases h
      · cases h; simpa [hk, hc] using hcur
      · cases h
      · split at h
        case isTrue => cases h
        case isFalse horder =>
          cases h
          refine ⟨?_, by simpa [hk] using hcur⟩
          simpa [hk, hc] using Nat.lt_of_not_le horder
      · cases h
      · cases h
        refine ⟨by simp [hk, hc], ?_, by simp [hk]⟩
        intro identity
        rw [current_compact, hcur]
      · exact absurd hc hu

theorem mem_of_append {state state' : JournalState} {record r : JournalRecord}
    (h : state.append record = .ok state') (hr : r ∈ state'.records) : r ∈ state.records ∨ r = record := by
  obtain ⟨-, -, -, -, hstate⟩ := append_ok h
  have hmem : r ∈ state.records ++ [record] := by
    rw [hstate] at hr
    split at hr
    · unfold compact at hr
      split at hr
      · exact hr
      · exact (List.mem_filter.mp hr).1
    · exact hr
  rcases List.mem_append.mp hmem with hold | hnew
  · exact .inl hold
  · exact .inr (List.mem_singleton.mp hnew)

theorem append_of_admits {state : JournalState} {record : JournalRecord}
    (hv : record.validate = none) (hlen : state.records.length < maxJournalRecords)
    (h : state.Admits record) : ∃ state', state.append record = .ok state' := by
  unfold append
  rw [hv]
  simp only [ge_iff_le, Nat.not_le.mpr hlen, if_false]
  unfold Admits at h
  cases hk : record.kind with
  | unknown => simp [hk] at h
  | begin => simp only [hk] at h; rw [h]; exact ⟨_, rfl⟩
  | advance =>
    simp only [hk] at h
    obtain ⟨entry, he, hs⟩ := h
    rw [he]
    simp only [Nat.not_le.mpr hs, if_false]
    exact ⟨_, rfl⟩
  | finish =>
    simp only [hk] at h
    obtain ⟨entry, he⟩ := h
    rw [he]
    exact ⟨_, rfl⟩

end JournalState
end AntiFlock.Driver
