import AntiFlock.Driver.Discipline
import AntiFlock.Effect.Answers
import AntiFlock.Go.Calendar
import AntiFlock.Go.Encoding

set_option autoImplicit false

/-!
# The durable journal

`FileJournal` keeps no records in memory: every call reads the journal file,
checks it, and a write replaces it as a whole. It answers as a `MemoryJournal`
does, because the text of a record is read back as that record and a journal that
grew by appends passes the check of `load`.
-/
namespace AntiFlock.Driver
open AntiFlock.Effect AntiFlock.Go AntiFlock.Go.Calendar

def fileJournalSchema : String := "antiflock.driver-journal/v2"
def maximumJournalBytes : ℕ := 8 * 2 ^ 20

structure PersistedReservationKey where
  planID : String
  policyRevision : ℕ
  planRevision : ℕ
  nonce : String
  fingerprint : String

structure PersistedJournalRecord where
  schemaVersion : ℕ
  kind : String
  planID : String
  planRevision : ℕ
  operationID : String
  step : String
  ownershipToken : String
  digest : String
  target : String
  reservation : Option PersistedReservationKey
  at_ : String

structure PersistedJournal where
  schemaVersion : String
  records : List PersistedJournalRecord

/-! ## Texts -/

def JournalKind.name : JournalKind → String
  | .begin => "BEGIN"
  | .advance => "ADVANCE"
  | .finish => "FINISH"
  | .unknown => "UNKNOWN"

def Step.name : Step → String
  | .capture => "CAPTURE"
  | .simulate => "SIMULATE"
  | .approve => "APPROVE"
  | .reserve => "RESERVE"
  | .apply => "APPLY"
  | .verify => "VERIFY"
  | .record => "RECORD"
  | .commit => "COMMIT"
  | .rollback => "ROLLBACK"
  | .none => "NONE"

def journalKindByName (name : String) : Option JournalKind :=
  [JournalKind.begin, .advance, .finish].find? fun kind => kind.name = name

def stepByName (name : String) : Option Step :=
  [Step.capture, .simulate, .approve, .reserve, .apply, .verify, .record, .commit, .rollback].find? fun step =>
    step.name = name

def calendarInstant (t : Time) : Instant := t + Instant.zero

/-- `t.UTC().Format(time.RFC3339Nano)`. -/
def timeText (t : Time) : String := formatTime (calendarInstant t)

def FourDigitYear (t : Time) : Prop := 0 ≤ (civil (calendarInstant t)).year ∧ (civil (calendarInstant t)).year ≤ 9999

/-- `time.Parse(time.RFC3339Nano, _)`, which reads back what `Format` writes. -/
structure TimeParser where
  parse : String → Option Time
  parse_timeText : ∀ t, FourDigitYear t → parse (timeText t) = some t

/-- A member of a JSON object that is left out when it is empty. -/
def optionalMember (name value : String) : String :=
  if value = "" then "" else ",\"" ++ name ++ "\":" ++ Json.quote value

def PersistedReservationKey.marshal (key : PersistedReservationKey) : String :=
  "\x7b\"planId\":" ++ Json.quote key.planID ++ ",\"policyRevision\":" ++ toString key.policyRevision ++
    ",\"planRevision\":" ++ toString key.planRevision ++ ",\"nonce\":" ++ Json.quote key.nonce ++
    ",\"fingerprint\":" ++ Json.quote key.fingerprint ++ "\x7d"

def marshalReservation : Option PersistedReservationKey → String
  | none => ""
  | some key => ",\"reservation\":" ++ key.marshal

def PersistedJournalRecord.marshal (entry : PersistedJournalRecord) : String :=
  "\x7b\"schemaVersion\":" ++ toString entry.schemaVersion ++ ",\"kind\":" ++ Json.quote entry.kind ++
    ",\"planId\":" ++ Json.quote entry.planID ++ ",\"planRevision\":" ++ toString entry.planRevision ++
    ",\"operationId\":" ++ Json.quote entry.operationID ++ ",\"step\":" ++ Json.quote entry.step ++
    optionalMember "ownershipToken" entry.ownershipToken ++ optionalMember "digest" entry.digest ++
    optionalMember "target" entry.target ++ marshalReservation entry.reservation ++
    ",\"at\":" ++ Json.quote entry.at_ ++ "\x7d"

def PersistedJournal.marshal (persisted : PersistedJournal) : String :=
  "\x7b\"schemaVersion\":" ++ Json.quote persisted.schemaVersion ++ ",\"records\":" ++
    Json.array (persisted.records.map PersistedJournalRecord.marshal) ++ "\x7d"

def PersistedJournal.size (persisted : PersistedJournal) : ℕ := len persisted.marshal

/-- The journal file, where there is one: the text of a complete journal. -/
abbrev JournalFile := Option PersistedJournal

/-! ## Records and their persisted form -/

def encodeReservationKey (key : ReservationKey) : Option PersistedReservationKey :=
  if key = .zero then none
  else some ⟨key.planID, key.policyRevision, key.planRevision, key.nonce, key.fingerprint⟩

def encodeJournalRecord (record : JournalRecord) : PersistedJournalRecord :=
  ⟨record.schemaVersion, record.kind.name, record.planID, record.planRevision, record.operationID,
    record.step.name, record.ownershipToken, record.digest, record.target,
    encodeReservationKey record.reservation, timeText record.at_⟩

def persist (state : JournalState) : PersistedJournal :=
  ⟨fileJournalSchema, state.records.map encodeJournalRecord⟩

def decodeReservationKey : Option PersistedReservationKey → ReservationKey
  | none => .zero
  | some key => ⟨key.planID, key.policyRevision, key.planRevision, key.nonce, key.fingerprint⟩

section Store
variable (times : TimeParser)

def PersistedJournalRecord.decode (entry : PersistedJournalRecord) : Except Err JournalRecord :=
  match journalKindByName entry.kind with
  | none => .error ⟨.other, "journal record kind is unknown"⟩
  | some kind =>
    match stepByName entry.step with
    | none => .error ⟨.other, "journal record step is unknown"⟩
    | some step =>
      match times.parse entry.at_ with
      | none => .error ⟨.other, "journal record at is not RFC 3339"⟩
      | some at_ =>
        let record : JournalRecord := ⟨entry.schemaVersion, kind, entry.planID, entry.planRevision,
          entry.operationID, step, entry.ownershipToken, entry.digest, entry.target,
          decodeReservationKey entry.reservation, at_⟩
        match record.validate with
        | some err => .error err
        | none => .ok record

def loadJournal : JournalFile → Except Err JournalState
  | none => .ok ⟨[]⟩
  | some persisted =>
    if persisted.size = 0 || persisted.size > maximumJournalBytes then
      .error ⟨.journalCorrupt, "journal is empty or oversized"⟩
    else if persisted.schemaVersion ≠ fileJournalSchema then
      .error ⟨.journalCorrupt, "journal schema is invalid"⟩
    else
      match persisted.records.mapM (PersistedJournalRecord.decode times) with
      | .error err => .error ⟨.journalCorrupt, err.text⟩
      | .ok records =>
        match (JournalState.mk records).check with
        | some err => .error err
        | none => .ok ⟨records⟩

def saveJournal (state : JournalState) : Except Err JournalFile :=
  if (persist state).size = 0 || (persist state).size > maximumJournalBytes then .error ⟨.other, "encode journal"⟩
  else .ok (some (persist state))

/-- `write`; `done` is the error of the call's context. -/
def writeJournal (file : JournalFile) (done : Option Err) (record : JournalRecord) : Except Err Unit × JournalFile :=
  match done with
  | some err => (.error err, file)
  | none =>
    match loadJournal times file with
    | .error err => (.error err, file)
    | .ok state =>
      match state.append record with
      | .error err => (.error err, file)
      | .ok next =>
        match saveJournal next with
        | .error err => (.error err, file)
        | .ok file' => (.ok (), file')

def readJournal (file : JournalFile) (done : Option Err) : Except Err JournalState :=
  match done with
  | some err => .error err
  | none => loadJournal times file

end Store

/-! ## Calls -/

inductive JournalCall where
  | begin_ (done : Option Err) (record : JournalRecord)
  | advance (done : Option Err) (record : JournalRecord)
  | finish (done : Option Err) (record : JournalRecord)
  | inFlight (done : Option Err)
  | records (done : Option Err)
  | reopen

/-- What a caller sees of a call: records or an error kind. -/
abbrev JournalAnswer := Except ErrKind (List JournalRecord)

def answered : Except Err Unit → JournalAnswer
  | .ok () => .ok []
  | .error err => .error err.kind

def reported (select : JournalState → List JournalRecord) : Except Err JournalState → JournalAnswer
  | .ok state => .ok (select state)
  | .error err => .error err.kind

/-- A call of the durable journal. It keeps nothing between calls, so reopening it changes nothing. -/
def fileJournalStep (times : TimeParser) (file : JournalFile) : JournalCall → JournalAnswer × JournalFile
  | .begin_ done record => (writeJournal times file done { record with kind := .begin }).map answered id
  | .advance done record => (writeJournal times file done { record with kind := .advance }).map answered id
  | .finish done record => (writeJournal times file done { record with kind := .finish }).map answered id
  | .inFlight done => (reported JournalState.inFlight (readJournal times file done), file)
  | .records done => (reported JournalState.records (readJournal times file done), file)
  | .reopen => (.ok [], file)

namespace MemoryJournal

def write (state : JournalState) (done : Option Err) (record : JournalRecord) : Except Err Unit × JournalState :=
  match done with
  | some err => (.error err, state)
  | none => state.written record

def read (state : JournalState) (done : Option Err) : Except Err JournalState :=
  match done with
  | some err => .error err
  | none => .ok state

def step (state : JournalState) : JournalCall → JournalAnswer × JournalState
  | .begin_ done record => (write state done { record with kind := .begin }).map answered id
  | .advance done record => (write state done { record with kind := .advance }).map answered id
  | .finish done record => (write state done { record with kind := .finish }).map answered id
  | .inFlight done => (reported JournalState.inFlight (read state done), state)
  | .records done => (reported JournalState.records (read state done), state)
  | .reopen => (.ok [], state)

end MemoryJournal

/-! ## Reading back what was written -/

section RoundTrip
variable {times : TimeParser}

theorem journalKindByName_name {kind : JournalKind} (h : kind ≠ .unknown) :
    journalKindByName kind.name = some kind := by
  cases kind with
  | unknown => exact absurd rfl h
  | begin => decide
  | advance => decide
  | finish => decide

theorem stepByName_name {step : Step} (h : step.valid = true) : stepByName step.name = some step := by
  cases step with
  | none => simp [Step.valid] at h
  | capture => decide
  | simulate => decide
  | approve => decide
  | reserve => decide
  | apply => decide
  | verify => decide
  | record => decide
  | commit => decide
  | rollback => decide

theorem decode_encodeReservationKey (key : ReservationKey) : decodeReservationKey (encodeReservationKey key) = key := by
  unfold encodeReservationKey
  split
  case isTrue h => exact h.symm
  case isFalse h => rfl

theorem decode_encodeJournalRecord {record : JournalRecord} (hvalid : record.validate = none)
    (hyear : FourDigitYear record.at_) : (encodeJournalRecord record).decode times = .ok record := by
  obtain ⟨-, hkind, -, hstep, -⟩ := JournalRecord.validate_eq_none.mp hvalid
  simp only [PersistedJournalRecord.decode, encodeJournalRecord, journalKindByName_name hkind, stepByName_name hstep,
    times.parse_timeText _ hyear, decode_encodeReservationKey, hvalid]

theorem decode_encodeJournalRecords {records : List JournalRecord}
    (h : ∀ record ∈ records, record.validate = none ∧ FourDigitYear record.at_) :
    (records.map encodeJournalRecord).mapM (PersistedJournalRecord.decode times) = .ok records := by
  induction records with
  | nil => rfl
  | cons record rest ih =>
    obtain ⟨hvalid, hyear⟩ := h record List.mem_cons_self
    rw [List.map_cons, List.mapM_cons, decode_encodeJournalRecord hvalid hyear,
      ih fun record hr => h record (List.mem_cons_of_mem _ hr)]
    rfl

/-- A journal that the memory journal could hold and the file can. -/
structure Storable (state : JournalState) : Prop where
  disciplined : JournalState.Disciplined state.records
  bounded : state.records.length ≤ maxJournalRecords
  years : ∀ record ∈ state.records, FourDigitYear record.at_

theorem Storable.empty : Storable ⟨[]⟩ := ⟨JournalState.disciplined_nil, Nat.zero_le _, nofun⟩

theorem Storable.append {state next : JournalState} {record : JournalRecord} (h : Storable state)
    (hyear : FourDigitYear record.at_) (happend : state.append record = .ok next) : Storable next := by
  obtain ⟨hdisciplined, hbounded⟩ := JournalState.disciplined_append happend h.disciplined
  refine ⟨hdisciplined, hbounded, fun r hr => ?_⟩
  rcases JournalState.mem_of_append happend hr with hr | rfl
  · exact h.years r hr
  · exact hyear

theorem PersistedJournal.size_ne_zero (persisted : PersistedJournal) : persisted.size ≠ 0 := by
  have hlast : len "\x7d" = 1 := by decide
  have hsize : persisted.size = _ + len "\x7d" := len_append _ _
  rw [hsize, hlast]
  exact Nat.succ_ne_zero _

theorem load_persist {state : JournalState} (h : Storable state) (hsize : (persist state).size ≤ maximumJournalBytes) :
    loadJournal times (some (persist state)) = .ok state := by
  have hrecords : ∀ record ∈ state.records, record.validate = none ∧ FourDigitYear record.at_ := by
    intro record hr
    obtain ⟨before, after, hsplit⟩ := List.append_of_mem hr
    exact ⟨(h.disciplined before record after hsplit).1, h.years record hr⟩
  have hcheck := JournalState.check_of_disciplined h.disciplined h.bounded
  have hdecoded : (persist state).records.mapM (PersistedJournalRecord.decode times) = .ok state.records :=
    decode_encodeJournalRecords hrecords
  have hschema : (persist state).schemaVersion = fileJournalSchema := rfl
  simp [loadJournal, PersistedJournal.size_ne_zero, Nat.not_lt.mpr hsize, hschema, hdecoded, hcheck]

theorem save_fits {state : JournalState} (hsize : (persist state).size ≤ maximumJournalBytes) :
    saveJournal state = .ok (some (persist state)) := by
  simp [saveJournal, PersistedJournal.size_ne_zero, Nat.not_lt.mpr hsize]

end RoundTrip

/-! ## Refinement -/

section Refinement
variable (times : TimeParser)

/-- A record whose year has four digits and that leaves a journal within the size of the file. -/
def FitsRecord (file : JournalFile) (record : JournalRecord) : Prop :=
  FourDigitYear record.at_ ∧ ∀ state next, loadJournal times file = .ok state → state.append record = .ok next →
    (persist next).size ≤ maximumJournalBytes

def Fits (file : JournalFile) : JournalCall → Prop
  | .begin_ _ record => FitsRecord times file { record with kind := .begin }
  | .advance _ record => FitsRecord times file { record with kind := .advance }
  | .finish _ record => FitsRecord times file { record with kind := .finish }
  | .inFlight _ => True
  | .records _ => True
  | .reopen => True

/-- The file reads back as the records of the memory journal. -/
structure Carries (file : JournalFile) (state : JournalState) : Prop where
  load : loadJournal times file = .ok state
  storable : Storable state

variable {times} {file : JournalFile} {state : JournalState}

theorem Carries.write (h : Carries times file state) (done : Option Err) {record : JournalRecord}
    (hfits : FitsRecord times file record) :
    (writeJournal times file done record).1 = (MemoryJournal.write state done record).1 ∧
      Carries times (writeJournal times file done record).2 (MemoryJournal.write state done record).2 := by
  cases done with
  | some err => exact ⟨rfl, h⟩
  | none =>
    simp only [writeJournal, MemoryJournal.write, JournalState.written_eq, h.load]
    cases happend : state.append record with
    | error err => exact ⟨rfl, h⟩
    | ok next =>
      have hsize := hfits.2 state next h.load happend
      have hstorable := h.storable.append hfits.1 happend
      simp only [save_fits hsize]
      exact ⟨trivial, load_persist hstorable hsize, hstorable⟩

theorem Carries.read (h : Carries times file state) (done : Option Err) :
    readJournal times file done = MemoryJournal.read state done := by
  cases done with
  | some err => rfl
  | none => exact h.load

theorem Carries.step (h : Carries times file state) (call : JournalCall) (hfits : Fits times file call) :
    (fileJournalStep times file call).1 = (MemoryJournal.step state call).1 ∧
      Carries times (fileJournalStep times file call).2 (MemoryJournal.step state call).2 := by
  cases call with
  | begin_ done record => exact (h.write done hfits).imp_left (congrArg answered)
  | advance done record => exact (h.write done hfits).imp_left (congrArg answered)
  | finish done record => exact (h.write done hfits).imp_left (congrArg answered)
  | inFlight done => exact ⟨congrArg (reported _) (h.read done), h⟩
  | records done => exact ⟨congrArg (reported _) (h.read done), h⟩
  | reopen => exact ⟨rfl, h⟩

/-- The durable journal answers every sequence of calls as the memory journal does. -/
theorem fileJournal_refines (times : TimeParser) (calls : List JournalCall)
    (h : Along (fileJournalStep times) (Fits times) none calls) :
    answers (fileJournalStep times) none calls = answers MemoryJournal.step ⟨[]⟩ calls := by
  have halike := answers_alike (R := Carries times) (E := Eq) (fun _ _ call hst hcall => hst.step call hcall)
    ⟨rfl, .empty⟩ h
  exact List.forall₂_eq_eq_eq ▸ halike

end Refinement

/-! ## A journal that is reopened -/

theorem timeText_injective : Function.Injective timeText := by
  intro s t h
  have hinstant : calendarInstant s = calendarInstant t := formatTime_inj h
  exact add_right_cancel hinstant

/-- The parser that reads exactly the texts that are written. -/
noncomputable def exactTimes : TimeParser where
  parse := Function.partialInv timeText
  parse_timeText t _ := Function.partialInv_left timeText_injective t

def sampleBegin : JournalRecord :=
  ⟨contractVersion, .unknown, "plan-1", 1, "op-1", .capture, "", "", "", .zero, 1700000000 * 1000000000⟩

def sampleCalls : List JournalCall := [.begin_ none sampleBegin, .reopen, .inFlight none]

theorem sampleBegin_fits : FitsRecord exactTimes none { sampleBegin with kind := .begin } := by
  refine ⟨by unfold FourDigitYear; decide, fun state next hload happend => ?_⟩
  have hstate : state = ⟨[]⟩ := (Except.ok.inj hload).symm
  subst hstate
  have hnext : next = ⟨[{ sampleBegin with kind := .begin }]⟩ := by
    have happended : JournalState.append ⟨[]⟩ { sampleBegin with kind := .begin } =
        .ok ⟨[{ sampleBegin with kind := .begin }]⟩ := by decide
    rw [happended] at happend
    exact (Except.ok.inj happend).symm
  subst hnext
  decide +kernel

theorem fileJournal_refines_sample :
    Along (fileJournalStep exactTimes) (Fits exactTimes) none sampleCalls ∧
      answers (fileJournalStep exactTimes) none sampleCalls = answers MemoryJournal.step ⟨[]⟩ sampleCalls := by
  have h : Along (fileJournalStep exactTimes) (Fits exactTimes) none sampleCalls :=
    ⟨sampleBegin_fits, trivial, trivial, trivial⟩
  exact ⟨h, fileJournal_refines exactTimes sampleCalls h⟩

end AntiFlock.Driver
