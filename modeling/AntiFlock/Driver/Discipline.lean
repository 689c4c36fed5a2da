import AntiFlock.Driver.Journal
import Mathlib.Data.String.Basic

set_option autoImplicit false

/-!
# The discipline of the journal

`check` is what a loaded journal has to pass. Appending keeps it, although
compaction takes whole identities out of the middle of the records.
-/
namespace AntiFlock.Driver
open AntiFlock.Go

namespace JournalRecord

theorem reportedBefore_total (a b : JournalRecord) : a.reportedBefore b = true ∨ b.reportedBefore a = true := by
  unfold reportedBefore
  grind

theorem reportedBefore_trans {a b c : JournalRecord} (hab : a.reportedBefore b = true)
    (hbc : b.reportedBefore c = true) : a.reportedBefore c = true := by
  unfold reportedBefore at *
  grind

theorem identity_eq_of_reportedBefore {a b : JournalRecord} (hab : a.reportedBefore b = true)
    (hba : b.reportedBefore a = true) : a.identity = b.identity := by
  unfold reportedBefore at *
  unfold identity
  grind

end JournalRecord

namespace JournalState

/-- One turn of the loop of `check`. -/
def checkRecord (entries : OpenEntries) (record : JournalRecord) : Except Err OpenEntries :=
  match record.validate with
  | some err => .error ⟨.journalCorrupt, err.text⟩
  | none =>
    match record.kind, entries.lookup record.identity with
    | .begin, some _ => .error ⟨.journalCorrupt, "duplicate begin"⟩
    | .begin, none => .ok (entries.insert record.identity record)
    | .advance, none => .error ⟨.journalCorrupt, "advance without open entry or out of order"⟩
    | .advance, some current =>
      if record.step.number ≤ current.step.number then
        .error ⟨.journalCorrupt, "advance without open entry or out of order"⟩
      else .ok (entries.insert record.identity record)
    | .finish, none => .error ⟨.journalCorrupt, "finish without open entry"⟩
    | .finish, some _ => .ok (entries.erase record.identity)
    | .unknown, _ => .ok entries

def checkLoop (entries : OpenEntries) : List JournalRecord → Option Err
  | [] => none
  | record :: rest =>
    match checkRecord entries record with
    | .error err => some err
    | .ok entries => checkLoop entries rest

def check (state : JournalState) : Option Err :=
  if state.records.length > maxJournalRecords then
    some ⟨.journalCorrupt, s!"more than {maxJournalRecords} records"⟩
  else checkLoop ∅ state.records

/-- `append` as the statements that change the journal in place. -/
def appendInPlace (record : JournalRecord) : ExceptT Err (StateM JournalState) Unit := do
  if let some err := record.validate then throw err
  let state ← get
  if state.records.length ≥ maxJournalRecords then throw ⟨.journalFull, ""⟩
  match record.kind, state.current record.identity with
  | .begin, some _ => throw ⟨.journalActive, ""⟩
  | .advance, none => throw ⟨.journalInactive, ""⟩
  | .advance, some current =>
    if record.step.number ≤ current.step.number then throw ⟨.journalOrder, ""⟩
  | .finish, none => throw ⟨.journalInactive, ""⟩
  | _, _ => pure ()
  modify fun state => ⟨state.records ++ [record]⟩
  if record.kind = .finish then modify compact

def written (state : JournalState) (record : JournalRecord) : Except Err Unit × JournalState :=
  (appendInPlace record).run.run state

theorem written_eq (state : JournalState) (record : JournalRecord) :
    state.written record = match state.append record with
      | .ok next => (.ok (), next)
      | .error err => (.error err, state) := by
  unfold written appendInPlace append
  cases record.validate with
  | some err => rfl
  | none =>
    have hget : StateT.run (get : ExceptT Err (StateM JournalState) JournalState).run state =
        pure (.ok state, state) := rfl
    simp only [ExceptT.run_bind, StateT.run_bind, hget, pure_bind]
    by_cases hfull : state.records.length ≥ maxJournalRecords
    · simp only [hfull, ↓reduceIte]
      rfl
    · simp only [hfull, ↓reduceIte]
      cases hk : record.kind <;> cases hc : state.current record.identity
      case advance.some current =>
        by_cases horder : record.step.number ≤ current.step.number
        · simp only [horder, ↓reduceIte]
          rfl
        · simp only [horder, ↓reduceIte]
          rfl
      all_goals rfl

/-- Each record is valid and is admitted by the ones before it. -/
def Disciplined (records : List JournalRecord) : Prop :=
  ∀ before record after, records = before ++ record :: after →
    record.validate = none ∧ (JournalState.mk before).Admits record

theorem disciplined_nil : Disciplined [] := by
  intro before record after h
  simp at h

theorem disciplined_concat {records : List JournalRecord} {last : JournalRecord} :
    Disciplined (records ++ [last]) ↔
      Disciplined records ∧ last.validate = none ∧ (JournalState.mk records).Admits last := by
  constructor
  · intro h
    refine ⟨fun before record after hr => h before record (after ++ [last]) (by simp [hr]), ?_⟩
    exact h records last [] rfl
  · rintro ⟨hrecords, hlast⟩ before record after h
    rcases after.eq_nil_or_concat with rfl | ⟨after, final, rfl⟩
    · obtain ⟨rfl, hsame⟩ := List.append_inj' h rfl
      cases hsame
      exact hlast
    · have hinit : records ++ [last] = (before ++ record :: after) ++ [final] := by simpa using h
      obtain ⟨hrecords', -⟩ := List.append_inj' hinit rfl
      exact hrecords before record after hrecords'

theorem admits_congr {state other : JournalState} {record : JournalRecord}
    (h : state.current record.identity = other.current record.identity) :
    state.Admits record ↔ other.Admits record := by
  unfold Admits
  rw [h]

theorem disciplined_filter {records : List JournalRecord} (keep : JournalIdentity → Bool)
    (h : Disciplined records) : Disciplined (records.filter fun record => keep record.identity) := by
  induction records using List.reverseRecOn with
  | nil => exact h
  | append_singleton records last ih =>
    obtain ⟨hrecords, hvalid, hadmits⟩ := disciplined_concat.mp h
    rw [List.filter_append]
    cases hkeep : keep last.identity with
    | false => simpa [List.filter_cons, hkeep] using ih hrecords
    | true =>
      simp only [List.filter_cons, hkeep, ↓reduceIte, List.filter_nil]
      refine disciplined_concat.mpr ⟨ih hrecords, hvalid, ?_⟩
      refine (admits_congr ?_).mpr hadmits
      refine lookup_openEntries_filter records _ last.identity fun record _ hid => ?_
      rw [hid]
      exact hkeep

theorem disciplined_compact {state : JournalState} (h : Disciplined state.records) :
    Disciplined state.compact.records := by
  unfold compact
  split
  · exact h
  · exact disciplined_filter (fun identity => identity ∉ dropLoop state state.records state.records.length []) h

theorem checkRecord_of_admits {records : List JournalRecord} {record : JournalRecord}
    (hvalid : record.validate = none) (hadmits : (JournalState.mk records).Admits record) :
    checkRecord (openEntries records) record = .ok (openEntries (records ++ [record])) := by
  rw [openEntries_concat]
  unfold checkRecord openStep
  rw [hvalid]
  unfold Admits current at hadmits
  cases hk : record.kind with
  | unknown => simp [hk] at hadmits
  | begin =>
    simp only [hk] at hadmits
    simp only [hadmits]
  | advance =>
    simp only [hk] at hadmits
    obtain ⟨entry, hentry, hstep⟩ := hadmits
    simp only [hentry, Nat.not_le.mpr hstep, ↓reduceIte]
  | finish =>
    simp only [hk] at hadmits
    obtain ⟨entry, hentry⟩ := hadmits
    simp only [hentry]

theorem checkLoop_of_disciplined {before rest : List JournalRecord} (h : Disciplined (before ++ rest)) :
    checkLoop (openEntries before) rest = none := by
  induction rest generalizing before with
  | nil => rfl
  | cons record rest ih =>
    obtain ⟨hvalid, hadmits⟩ := h before record rest rfl
    rw [checkLoop, checkRecord_of_admits hvalid hadmits]
    exact ih (by simpa using h)

theorem check_of_disciplined {state : JournalState} (h : Disciplined state.records)
    (hlen : state.records.length ≤ maxJournalRecords) : state.check = none := by
  unfold check
  rw [if_neg (Nat.not_lt.mpr hlen)]
  have hloop : checkLoop (openEntries []) state.records = none := checkLoop_of_disciplined h
  exact hloop

theorem disciplined_append {state next : JournalState} {record : JournalRecord}
    (h : state.append record = .ok next) (hstate : Disciplined state.records) :
    Disciplined next.records ∧ next.records.length ≤ maxJournalRecords := by
  obtain ⟨hvalid, hlen, hadmits, -, rfl⟩ := append_ok h
  have happended : Disciplined (JournalState.mk (state.records ++ [record])).records :=
    disciplined_concat.mpr ⟨hstate, hvalid, hadmits⟩
  have hbound : (JournalState.mk (state.records ++ [record])).records.length ≤ maxJournalRecords := by
    simp only [List.length_append, List.length_cons, List.length_nil]
    omega
  split
  · exact ⟨disciplined_compact happended, (length_compact_le _).trans hbound⟩
  · exact ⟨happended, hbound⟩

/-- The journal after a sequence of appends, whichever of them are refused. -/
def appendAll : JournalState → List JournalRecord → JournalState
  | state, [] => state
  | state, record :: rest => appendAll (state.written record).2 rest

theorem disciplined_appendAll (state : JournalState) (records : List JournalRecord)
    (h : Disciplined state.records ∧ state.records.length ≤ maxJournalRecords) :
    Disciplined (state.appendAll records).records ∧
      (state.appendAll records).records.length ≤ maxJournalRecords := by
  induction records generalizing state with
  | nil => exact h
  | cons record rest ih =>
    refine ih _ ?_
    rw [written_eq]
    cases happend : state.append record with
    | error err => exact h
    | ok next => exact disciplined_append happend h.1

theorem compact_sublist (state : JournalState) : state.compact.records.Sublist state.records := by
  unfold compact
  split
  · exact List.Sublist.refl _
  · exact List.filter_sublist

theorem filter_open_compact (state : JournalState) :
    state.compact.records.filter (fun record => (state.current record.identity).isSome) =
      state.records.filter fun record => (state.current record.identity).isSome := by
  unfold compact
  split
  · rfl
  · rw [List.filter_filter]
    refine List.filter_congr fun record _ => ?_
    cases hopen : state.current record.identity with
    | none => simp
    | some entry =>
      have hkept : record.identity ∉ dropLoop state state.records state.records.length [] := by
        intro hmem
        rw [dropLoop_closed state _ _ [] (by simp) record.identity hmem] at hopen
        cases hopen
      simp [hkept]

theorem inFlight_congr {state other : JournalState}
    (h : ∀ identity, state.current identity = other.current identity) : state.inFlight = other.inFlight := by
  have hsorted (s : JournalState) : s.inFlight.Pairwise fun a b => a.reportedBefore b = true := by
    have htotal : Std.Total fun a b : JournalRecord => a.reportedBefore b = true :=
      ⟨JournalRecord.reportedBefore_total⟩
    have htrans : IsTrans JournalRecord fun a b => a.reportedBefore b = true :=
      ⟨fun _ _ _ => JournalRecord.reportedBefore_trans⟩
    exact List.pairwise_insertionSort _ _
  have hmem (record : JournalRecord) : record ∈ state.inFlight ↔ record ∈ other.inFlight := by
    rw [mem_inFlight, mem_inFlight, h]
  have hperm : state.inFlight.Perm other.inFlight :=
    (List.perm_ext_iff_of_nodup state.inFlight_nodup.of_map other.inFlight_nodup.of_map).mpr hmem
  refine hperm.eq_of_pairwise ?_ (hsorted state) (hsorted other)
  intro a b ha hb hab hba
  -- two reports that stand before each other are of one identity, which has one entry
  have hid := JournalRecord.identity_eq_of_reportedBefore hab hba
  have ha' := mem_inFlight.mp ((hmem a).mp ha)
  rw [hid, mem_inFlight.mp hb] at ha'
  exact (Option.some.inj ha').symm

/-- The journal stays one that loads, refusals leave it alone, and compaction touches nothing open. -/
theorem journal_discipline (records : List JournalRecord) :
    (appendAll ⟨[]⟩ records).check = none ∧
      (∀ record err next, (appendAll ⟨[]⟩ records).written record = (.error err, next) →
        next.records = (appendAll ⟨[]⟩ records).records) ∧
      (∀ state : JournalState, state.compact.inFlight = state.inFlight ∧
        state.compact.records.filter (fun record => (state.current record.identity).isSome) =
          state.records.filter (fun record => (state.current record.identity).isSome) ∧
        state.compact.records.Sublist state.records) ∧
      ∀ record next, (appendAll ⟨[]⟩ records).written record = (.ok (), next) → record.kind = .finish →
        next.records.length ≤ journalCompactionThreshold ∨
          ∀ r ∈ next.records, (next.current r.identity).isSome := by
  obtain ⟨hdisciplined, hlen⟩ := disciplined_appendAll ⟨[]⟩ records ⟨disciplined_nil, Nat.zero_le _⟩
  refine ⟨check_of_disciplined hdisciplined hlen, ?_, ?_, ?_⟩
  · intro record err next h
    rw [written_eq] at h
    cases happend : (appendAll ⟨[]⟩ records).append record with
    | ok state => simp [happend] at h
    | error err' =>
      rw [happend] at h
      cases h
      rfl
  · intro state
    exact ⟨inFlight_congr state.current_compact, filter_open_compact state, compact_sublist state⟩
  · intro record next h hk
    rw [written_eq] at h
    cases happend : (appendAll ⟨[]⟩ records).append record with
    | error err => simp [happend] at h
    | ok state =>
      rw [happend] at h
      cases h
      obtain ⟨-, -, -, -, hstate⟩ := append_ok happend
      rw [if_pos hk] at hstate
      subst hstate
      refine (length_compact _).imp_right fun hopen r hr => ?_
      rw [current_compact, ← Option.ne_none_iff_isSome]
      exact hopen r hr

/-! ## Finishing an open entry -/

/-- An open entry can be finished exactly while the journal has room: the bound is checked before the
compaction that a finish brings. -/
theorem finish_accepted_iff (records : List JournalRecord) (record : JournalRecord) (hvalid : record.validate = none)
    (hkind : record.kind = .finish) (hopen : ((appendAll ⟨[]⟩ records).current record.identity).isSome) :
    ((appendAll ⟨[]⟩ records).written record).1 = .ok () ↔
      (appendAll ⟨[]⟩ records).records.length < maxJournalRecords := by
  rw [written_eq]
  constructor
  · intro haccepted
    cases happend : (appendAll ⟨[]⟩ records).append record with
    | error err =>
      rw [happend] at haccepted
      cases haccepted
    | ok next => exact (append_ok happend).2.1
  · intro hroom
    have hadmits : (appendAll ⟨[]⟩ records).Admits record := by
      rw [Admits, hkind]
      exact Option.isSome_iff_exists.mp hopen
    obtain ⟨next, happend⟩ := append_of_admits hvalid hroom hadmits
    rw [happend]

def begun (revision : ℕ) : JournalRecord where
  schemaVersion := contractVersion
  kind := .begin
  planID := "plan"
  planRevision := revision + 1
  operationID := "operation"
  step := .capture
  ownershipToken := ""
  digest := ""
  target := ""
  reservation := .zero
  at_ := 1

def finished (revision : ℕ) : JournalRecord := { begun revision with kind := .finish, step := .rollback }

theorem identifiers_begun : validIdentifier "plan" = true ∧ validIdentifier "operation" = true := by decide

theorem validate_begun (revision : ℕ) : (begun revision).validate = none ∧ (finished revision).validate = none := by
  have hidentity : validIdentity "plan" (revision + 1) "operation" = true := by
    simp [validIdentity, identifiers_begun]
  constructor
  · refine JournalRecord.validate_eq_none.mpr ⟨rfl, by simp [begun], hidentity, rfl, by simp [begun, Step.terminal],
      .inl rfl, .inl rfl, .inl rfl, .inl rfl, by simp [begun]⟩
  · refine JournalRecord.validate_eq_none.mpr ⟨rfl, by simp [finished], hidentity, rfl,
      by simp [finished, Step.terminal], .inl rfl, .inl rfl, .inl rfl, .inl rfl, by simp [finished, begun]⟩

theorem finish_accepted_iff_begun :
    ((appendAll ⟨[]⟩ [begun 0]).written (finished 0)).1 = .ok () ↔
      (appendAll ⟨[]⟩ [begun 0]).records.length < maxJournalRecords :=
  finish_accepted_iff [begun 0] (finished 0) (validate_begun 0).2 rfl (by decide)

theorem appendAll_concat (state : JournalState) (records : List JournalRecord) (record : JournalRecord) :
    state.appendAll (records ++ [record]) = ((state.appendAll records).written record).2 := by
  induction records generalizing state with
  | nil => rfl
  | cons first records ih => exact ih _

theorem appendAll_begun {count : ℕ} (h : count ≤ maxJournalRecords) :
    appendAll ⟨[]⟩ ((List.range count).map begun) = ⟨(List.range count).map begun⟩ := by
  induction count with
  | zero => rfl
  | succ count ih =>
    rw [List.range_succ, List.map_append, List.map_singleton, appendAll_concat, ih (by omega), written_eq]
    have hclosed : (JournalState.mk ((List.range count).map begun)).current (begun count).identity = none := by
      refine lookup_openEntries_of_forall_ne _ _ fun record hrecord heq => ?_
      obtain ⟨revision, hrevision, rfl⟩ := List.mem_map.mp hrecord
      have hsame : revision + 1 = count + 1 := congrArg JournalIdentity.planRevision heq
      have hlt := List.mem_range.mp hrevision
      omega
    have hroom : ((List.range count).map begun).length < maxJournalRecords := by
      rw [List.length_map, List.length_range]
      exact h
    obtain ⟨next, happend⟩ := append_of_admits (validate_begun count).1 hroom hclosed
    obtain ⟨-, -, -, -, hnext⟩ := append_ok happend
    rw [happend]
    exact hnext

/-- With as many open entries as there may be records no entry can be finished. -/
theorem full_journal_refuses_finish : ∃ (records : List JournalRecord) (record : JournalRecord),
    record.validate = none ∧ record.kind = .finish ∧
      ((appendAll ⟨[]⟩ records).current record.identity).isSome ∧
      ((appendAll ⟨[]⟩ records).written record).1 = .error ⟨.journalFull, ""⟩ := by
  have hfull := appendAll_begun (le_refl maxJournalRecords)
  refine ⟨(List.range maxJournalRecords).map begun, finished 4095, (validate_begun 4095).2, rfl, ?_, ?_⟩
  · have hlast : (List.range maxJournalRecords).map begun = (List.range 4095).map begun ++ [begun 4095] := by
      rw [← List.map_singleton, ← List.map_append, ← List.range_succ]
      rfl
    rw [hfull, hlast, current_concat _ _ _ (by simp [begun])]
    rfl
  · rw [hfull, written_eq, append, (validate_begun 4095).2]
    simp

end JournalState
end AntiFlock.Driver
