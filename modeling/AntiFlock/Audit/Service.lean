import AntiFlock.Audit.Entry
import AntiFlock.Effect.Logic
import AntiFlock.Storage.Retention

set_option autoImplicit false

/-!
# The audit service

The log is a table of entries with a state row that names its head, and a file of
anchors beside the database. An append commits the entry first and writes the
anchor after it; opening the service and verifying the log write the anchors that
are missing. All of it runs under one lock, so the database a program reads is the
one it reads again.
-/
namespace AntiFlock.Audit
open AntiFlock.Go AntiFlock.Effect
open Lines (newline)
open AntiFlock.Storage (TextReader)

def auditVerificationPageSize : ℤ := 100

inductive AnchorErr where
  | unsupportedVersion (version : String)
  | unknownKey (keyID : String)
  | signatureEncoding
  | signature
deriving DecidableEq

inductive AuditErr where
  | storage (text : String)
  | headConflict
  | stateDiverges (state entries : AuditHead)
  | parseTime
  | entriesWithoutAnchor
  | readAnchor
  | emptyAnchor
  | noCompleteRecord
  | decodeAnchor (line : ℕ)
  | verifyAnchor (line : ℕ) (err : AnchorErr)
  | missingGenesis
  | anchorNotMonotonic (line : ℕ)
  | encodeAnchor
  | sequenceNotMonotonic (sequence : ℤ)
  | chainBreak (sequence : ℤ)
  | unknownKey (sequence : ℤ) (keyID : String)
  | encodePayload
  | hashMismatch (sequence : ℤ)
  | signatureMismatch (sequence : ℤ)
  | stateMismatch (state chain : AuditHead)
  | divergence (anchor database : AuditHead)
  | notCanonical (field : String)
  | anchorMismatch
  | encodeDetails
  | detailsOversized
  | headUnread (entry : AuditEntry) (err : AuditErr)
  | headAdvancedUnexpectedly (entry : AuditEntry)
  | anchorNotUpdated (entry : AuditEntry) (err : AuditErr)

/-- The row of `audit_state`. -/
structure AuditState where
  entryCount : ℤ
  sequence : ℤ
  headHash : String
deriving DecidableEq

/-- The audit tables. The sequence is the primary key, and rows are listed by it. -/
structure Database where
  state : Option AuditState
  rows : List Row
  sorted : rows.Pairwise fun r s => r.sequence < s.sequence

/-- The keys of a service, and how it writes signatures, anchors and times. -/
structure Service where
  keyID : String
  sign : List UInt8 → List UInt8
  keyring : String → Option (List UInt8 → List UInt8 → Bool)
  encodeSignature : List UInt8 → String
  decodeSignature : String → Option (List UInt8)
  codec : Lines.Codec newline Anchor
  validJSON : String → Bool
  reader : TextReader
  own_key : ∃ verify, keyring keyID = some verify ∧ ∀ digest, verify digest (sign digest) = true
  length_sign : ∀ digest, (sign digest).length = 64
  decode_encodeSignature : ∀ signature, decodeSignature (encodeSignature signature) = some signature
  invalid_empty : validJSON "" = false

/-! ## Storage -/

def Database.lastSequence (db : Database) : ℤ := (db.rows.getLast?.map (·.sequence)).getD 0

def Database.actual (db : Database) : AuditHead :=
  ⟨db.rows.length, db.lastSequence, (db.rows.getLast?.map (·.entryHash)).getD ""⟩

/-- `GetAuditHead`. The numbers are scanned into unsigned integers. -/
def getAuditHead (db : Database) : Except AuditErr AuditHead :=
  match db.state with
  | none => .error (.storage "read atomic audit state")
  | some state =>
    if state.entryCount < 0 ∨ state.sequence < 0 ∨ db.lastSequence < 0 then
      .error (.storage "read atomic audit state")
    else
      let head : AuditHead := ⟨state.entryCount.toNat, state.sequence, state.headHash⟩
      if db.actual ≠ head then .error (.stateDiverges head db.actual) else .ok head

def Service.scan (service : Service) (row : Row) : Option AuditEntry :=
  (service.reader.parseTime row.occurredAt).map fun t =>
    { row with occurredAt := t }

def AuditEntry.row (e : AuditEntry) (sequence : ℤ) : Row :=
  { e with occurredAt := Calendar.formatTime e.occurredAt, sequence := sequence }

def listLimit (limit : ℤ) : ℕ := if limit ≤ 0 ∨ 5000 < limit then 500 else limit.toNat

def Database.after (db : Database) (sequence : ℤ) : List Row := db.rows.filter (sequence < ·.sequence)

def Service.listAuditEntriesAfter (service : Service) (db : Database) (afterSequence : ℤ) (limit : ℤ) :
    Except AuditErr (List AuditEntry) :=
  match ((db.after afterSequence).take (listLimit limit)).mapM service.scan with
  | none => .error .parseTime
  | some entries => .ok entries

/-- The row that `AUTOINCREMENT` makes of an entry is behind all others. -/
def Database.nextSequence (db : Database) : ℤ := max 0 db.lastSequence + 1

theorem Database.sequence_lt_next (db : Database) {row : Row} (h : row ∈ db.rows) :
    row.sequence < db.nextSequence := by
  rcases List.eq_nil_or_concat db.rows with hnil | ⟨front, last, hrows⟩
  · rw [hnil] at h
    cases h
  · have hsorted := db.sorted
    rw [hrows, List.concat_eq_append] at hsorted h
    have hlast : db.lastSequence = last.sequence := by simp [lastSequence, hrows]
    have hle : row.sequence ≤ last.sequence := by
      rcases List.mem_append.mp h with hfront | hend
      · exact le_of_lt ((List.pairwise_append.mp hsorted).2.2 row hfront last List.mem_cons_self)
      · rw [List.mem_singleton.mp hend]
    rw [nextSequence, hlast]
    omega

def Database.insertRow (db : Database) (state : AuditState) (e : AuditEntry) : Database where
  state := some state
  rows := db.rows ++ [e.row db.nextSequence]
  sorted := by
    refine List.pairwise_append.mpr ⟨db.sorted, List.pairwise_singleton _ _, ?_⟩
    intro row hrow last hlast
    rw [List.mem_singleton.mp hlast]
    exact db.sequence_lt_next hrow

/-- `insertAuditEntry`. The columns `id` and `entry_hash` are unique. -/
def insertAuditEntry (db : Database) (e : AuditEntry) : Except AuditErr Database :=
  if e.keyID = "" then .error (.storage "audit entry key id is required")
  else
    let e := if e.details = "" then { e with details := "\x7b\x7d" } else e
    if db.rows.any fun row => row.id == e.id || row.entryHash == e.entryHash then
      .error (.storage "insert audit entry")
    else
      match db.state with
      | none => .error .headConflict
      | some state =>
        if state.headHash ≠ e.previousHash then .error .headConflict
        else .ok (db.insertRow ⟨state.entryCount + 1, db.nextSequence, e.entryHash⟩ e)

/-! ## Verifying the chain -/

/-- What the loop of `verifyLocked` carries from entry to entry. -/
structure Scan where
  previous : String
  afterSequence : ℤ
  count : ℕ
  prefixMatched : Bool
  recoveryAnchors : List AuditHead

def Scan.start (trusted : AuditHead) : Scan :=
  ⟨"", 0, 0, trusted.count = 0 && trusted.sequence = 0 && trusted.hash = "", []⟩

def Scan.advance (trusted : AuditHead) (s : Scan) (e : AuditEntry) : Scan where
  previous := e.entryHash
  afterSequence := e.sequence
  count := s.count + 1
  prefixMatched :=
    if s.count + 1 = trusted.count then e.sequence = trusted.sequence && e.entryHash = trusted.hash
    else s.prefixMatched
  recoveryAnchors :=
    if trusted.count < s.count + 1 then s.recoveryAnchors ++ [⟨s.count + 1, e.sequence, e.entryHash⟩]
    else s.recoveryAnchors

section Verify
variable (service : Service)

/-- `hashEntry`: details that are not JSON cannot be encoded. -/
def Service.hashEntry (e : AuditEntry) : Except AuditErr (List UInt8) :=
  if service.validJSON e.details then .ok (hashDigest e) else .error .encodePayload

/-- The checks of `verifyLocked` on one entry. -/
def Service.checkEntry (s : Scan) (e : AuditEntry) : Except AuditErr Unit :=
  if e.sequence ≤ s.afterSequence then .error (.sequenceNotMonotonic e.sequence)
  else if e.previousHash ≠ s.previous then .error (.chainBreak e.sequence)
  else
    match service.keyring e.keyID with
    | none => .error (.unknownKey e.sequence e.keyID)
    | some verify =>
      match service.hashEntry e with
      | .error err => .error err
      | .ok digest =>
        if hexEncode digest ≠ e.entryHash then .error (.hashMismatch e.sequence)
        else
          match service.decodeSignature e.signature with
          | none => .error (.signatureMismatch e.sequence)
          | some signature =>
            if verify digest signature then .ok () else .error (.signatureMismatch e.sequence)

def Service.verifyEntries (trusted : AuditHead) : Scan → List AuditEntry → Except AuditErr Scan
  | s, [] => .ok s
  | s, e :: es =>
    match service.checkEntry s e with
    | .error err => .error err
    | .ok () => verifyEntries trusted (s.advance trusted e) es

theorem Service.sequence_of_checkEntry {s : Scan} {e : AuditEntry} (h : service.checkEntry s e = .ok ()) :
    s.afterSequence < e.sequence := by
  by_contra hle
  rw [checkEntry, if_pos (not_lt.mp hle)] at h
  cases h

theorem Service.verifyEntries_advances {trusted : AuditHead} {s s' : Scan} {es : List AuditEntry}
    (h : service.verifyEntries trusted s es = .ok s') (hne : es ≠ []) :
    s.afterSequence < s'.afterSequence ∧ ∃ e ∈ es, e.sequence = s'.afterSequence := by
  induction es generalizing s with
  | nil => exact absurd rfl hne
  | cons e es ih =>
    rw [verifyEntries] at h
    cases hcheck : service.checkEntry s e with
    | error err =>
      rw [hcheck] at h
      cases h
    | ok done =>
      rw [hcheck] at h
      have hlt := service.sequence_of_checkEntry hcheck
      by_cases hes : es = []
      · rw [hes, verifyEntries, Except.ok.injEq] at h
        rw [← h]
        exact ⟨hlt, e, List.mem_cons_self, rfl⟩
      · obtain ⟨hlater, e', he', hsequence⟩ := ih h hes
        exact ⟨hlt.trans hlater, e', List.mem_cons_of_mem _ he', hsequence⟩

theorem Service.scan_sequence {row : Row} {e : AuditEntry} (h : service.scan row = some e) :
    e.sequence = row.sequence := by
  rw [scan, Option.map_eq_some_iff] at h
  obtain ⟨t, -, rfl⟩ := h
  rfl

theorem forall₂_of_mapM {α β : Type} {f : α → Option β} {xs : List α} {ys : List β} (h : xs.mapM f = some ys) :
    List.Forall₂ (fun x y => f x = some y) xs ys := by
  induction xs generalizing ys with
  | nil =>
    simp only [List.mapM_nil, Option.pure_def, Option.some.injEq] at h
    subst h
    exact .nil
  | cons x xs ih =>
    simp only [List.mapM_cons, Option.bind_eq_bind, Option.bind_eq_some_iff, Option.pure_def, Option.some.injEq] at h
    obtain ⟨y, hy, ys', hys, rfl⟩ := h
    exact .cons hy (ih hys)

theorem exists_of_forall₂ {α β : Type} {R : α → β → Prop} {xs : List α} {ys : List β} (h : List.Forall₂ R xs ys)
    {y : β} (hy : y ∈ ys) : ∃ x ∈ xs, R x y := by
  induction h with
  | nil => cases hy
  | @cons x y' xs ys hxy _ ih =>
    rcases List.mem_cons.mp hy with rfl | hy
    · exact ⟨x, List.mem_cons_self, hxy⟩
    · obtain ⟨x', hx', hx'y⟩ := ih hy
      exact ⟨x', List.mem_cons_of_mem _ hx', hx'y⟩

theorem Service.page_decreases {db : Database} {limit : ℤ} {trusted : AuditHead} {s s' : Scan} {es : List AuditEntry}
    (hlist : service.listAuditEntriesAfter db s.afterSequence limit = .ok es) (hne : es ≠ [])
    (h : service.verifyEntries trusted s es = .ok s') :
    (db.after s'.afterSequence).length < (db.after s.afterSequence).length := by
  obtain ⟨hlt, e, he, hsequence⟩ := service.verifyEntries_advances h hne
  unfold listAuditEntriesAfter at hlist
  cases hscan : ((db.after s.afterSequence).take (listLimit limit)).mapM service.scan with
  | none =>
    rw [hscan] at hlist
    cases hlist
  | some entries =>
    rw [hscan, Except.ok.injEq] at hlist
    subst hlist
    obtain ⟨row, hrow, hrowe⟩ := exists_of_forall₂ (forall₂_of_mapM hscan) he
    have hmem := List.mem_of_mem_take hrow
    have hafter : db.after s'.afterSequence =
        (db.after s.afterSequence).filter (s'.afterSequence < ·.sequence) := by
      rw [Database.after, Database.after, List.filter_filter]
      refine List.filter_congr fun r _ => ?_
      rw [Bool.eq_iff_iff, Bool.and_eq_true, decide_eq_true_eq, decide_eq_true_eq]
      exact ⟨fun hr => ⟨hr, hlt.trans hr⟩, And.left⟩
    rw [hafter, List.length_filter_lt_length_iff_exists]
    refine ⟨row, hmem, ?_⟩
    rw [← hsequence, service.scan_sequence hrowe, decide_eq_true_eq]
    exact lt_irrefl _

/-- The page loop of `verifyLocked`. -/
def Service.verifyPages (db : Database) (trusted : AuditHead) (s : Scan) : Except AuditErr Scan :=
  match _hlist : service.listAuditEntriesAfter db s.afterSequence auditVerificationPageSize with
  | .error err => .error err
  | .ok [] => .ok s
  | .ok (e :: es) =>
    match _h : service.verifyEntries trusted s (e :: es) with
    | .error err => .error err
    | .ok s' => verifyPages db trusted s'
termination_by (db.after s.afterSequence).length
decreasing_by exact service.page_decreases _hlist (List.cons_ne_nil _ _) _h

/-- `verifyLocked` up to its writes: the heads that have no anchor yet. -/
def Service.verifyChain (db : Database) (trusted : AuditHead) : Except AuditErr (List AuditHead) :=
  match service.verifyPages db trusted (.start trusted) with
  | .error err => .error err
  | .ok s =>
    let actual : AuditHead := ⟨s.count, s.afterSequence, s.previous⟩
    match getAuditHead db with
    | .error err => .error err
    | .ok state =>
      if state ≠ actual then .error (.stateMismatch state actual)
      else if trusted = actual then .ok []
      else if trusted.count < s.count ∧ s.prefixMatched = true then .ok s.recoveryAnchors
      else .error (.divergence trusted actual)

def Service.verifyAnchor (a : Anchor) : Option AnchorErr :=
  if a.version ≠ anchorVersion then some (.unsupportedVersion a.version)
  else
    match service.keyring a.keyID with
    | none => some (.unknownKey a.keyID)
    | some verify =>
      match service.decodeSignature a.signature with
      | none => some .signatureEncoding
      | some signature =>
        if signature.length ≠ 64 then some .signatureEncoding
        else if verify (anchorDigest a) signature then none
        else some .signature

/-- The loop of `loadAnchor` over the lines, the first of which has number 1. -/
def Service.readAnchors : ℕ → Anchor → List (List UInt8) → Except AuditErr Anchor
  | _, current, [] => .ok current
  | line, current, content :: rest =>
    match service.codec.decode content with
    | none => .error (.decodeAnchor line)
    | some value =>
      match service.verifyAnchor value with
      | some err => .error (.verifyAnchor line err)
      | none =>
        if line = 1 then
          if value.count ≠ 0 ∨ value.sequence ≠ 0 ∨ value.headHash ≠ "" then .error .missingGenesis
          else readAnchors (line + 1) value rest
        else if value.count ≠ current.count + 1 ∨ value.sequence ≤ current.sequence ∨ value.headHash = "" then
          .error (.anchorNotMonotonic line)
        else readAnchors (line + 1) value rest

def Anchor.zero : Anchor := ⟨"", "", 0, 0, "", Instant.zero, ""⟩

end Verify

/-! ## The programs -/

inductive Request where
  | stat
  | read
  | truncate (length : ℕ)
  | append (content : List UInt8)
  | database
  | commit (entry : AuditEntry)
  | clock
  | newID

def Answer : Request → Type
  | .stat => Bool
  | .read => Option (List UInt8)
  | .truncate _ => Unit
  | .append _ => Unit
  | .database => Database
  | .commit _ => Except AuditErr Unit
  | .clock => Instant
  | .newID => String

def auditSig : Sig := ⟨Request, Answer⟩

abbrev Action := ExceptT AuditErr (Prog auditSig)

def ask (q : Request) : Action (Answer q) := ExceptT.lift (.perform (S := auditSig) q)

def ofExcept {α : Type} (r : Except AuditErr α) : Action α := ExceptT.mk (.ret r)

structure AppendRequest where
  actorType : String
  actorID : String
  action : String
  resourceType : String
  resourceID : String
  outcome : String
  /-- What `json.Marshal` makes of the details, if it can. -/
  details : Option String

def validAuditIdentifier (value : String) (maximum : ℕ) : Bool :=
  !(value == "" || maximum < len value || trimSpace value != value) &&
    value.toList.all fun c => !(c.toNat < 0x20 || c.toNat == 0x7f)

/-- The fields that must be canonical. Which of several bad ones is named is left open by the source. -/
def AppendRequest.fields (r : AppendRequest) : List (String × String) :=
  [("actor type", r.actorType), ("actor id", r.actorID), ("action", r.action), ("resource type", r.resourceType),
    ("resource id", r.resourceID), ("outcome", r.outcome)]

section Programs
variable (service : Service)

def Service.loadAnchor : Action Anchor := do
  match ← ask .read with
  | none => throw .readAnchor
  | some content =>
    if content = [] then throw .emptyAnchor
    else if content.getLast? = some newline then ofExcept (service.readAnchors 1 .zero (Lines.split newline content))
    else if newline ∉ content then throw .noCompleteRecord
    else do
      -- a torn record is cut off before the others are read
      let whole := Lines.complete newline content
      ask (.truncate whole.length)
      ofExcept (service.readAnchors 1 .zero (Lines.split newline whole))

def Service.signedAnchor (head : AuditHead) (now : Instant) : Anchor :=
  let value : Anchor := ⟨anchorVersion, service.keyID, head.count, head.sequence, head.hash, now, ""⟩
  { value with signature := service.encodeSignature (service.sign (anchorDigest value)) }

/-- `writeAnchor`. A time beyond the year 9999 has no JSON. -/
def Service.writeAnchor (head : AuditHead) : Action Unit := do
  let now : Instant ← ask .clock
  if now.Parses then ask (.append (service.codec.encode (service.signedAnchor head now) ++ [newline]))
  else throw .encodeAnchor

def Service.writeAnchors : List AuditHead → Action Unit
  | [] => pure ()
  | head :: heads => do
    service.writeAnchor head
    writeAnchors heads

def Service.verifyLocked : Action Unit := do
  let trusted ← service.loadAnchor
  let db : Database ← ask .database
  let missing ← ofExcept (service.verifyChain db trusted.head)
  service.writeAnchors missing

def genesis : AuditHead := ⟨0, 0, ""⟩

def Service.initializeLocked : Action Unit := do
  let found : Bool ← ask .stat
  if found then service.verifyLocked
  else do
    let db : Database ← ask .database
    let head ← ofExcept (getAuditHead db)
    if head.count ≠ 0 then throw .entriesWithoutAnchor
    else service.writeAnchor genesis

def Service.signedEntry (r : AppendRequest) (details id : String) (now : Instant) (previousHash : String) :
    AuditEntry :=
  let entry : AuditEntry := ⟨0, id, service.keyID, now, r.actorType, r.actorID, r.action, r.resourceType, r.resourceID,
    r.outcome, details, previousHash, "", ""⟩
  { entry with
    entryHash := hexEncode (hashDigest entry)
    signature := service.encodeSignature (service.sign (hashDigest entry)) }

/-- What `AppendWithMutation` does behind the commit. -/
def Service.anchorEntry (entry : AuditEntry) (head : AuditHead) : Action AuditEntry := do
  let db : Database ← ask .database
  match getAuditHead db with
  | .error err => throw (.headUnread entry err)
  | .ok newHead =>
    if newHead.count ≠ head.count + 1 ∨ newHead.sequence ≤ head.sequence ∨ newHead.hash ≠ entry.entryHash then
      throw (.headAdvancedUnexpectedly entry)
    else do
      tryCatch (service.writeAnchor newHead) fun err => throw (.anchorNotUpdated entry err)
      pure { entry with sequence := newHead.sequence }

/-- `AppendWithMutation`, with the part of the mutation on the audit tables. -/
def Service.appendWithMutation (r : AppendRequest) : Action AuditEntry := do
  match r.fields.find? fun field => !validAuditIdentifier field.2 256 with
  | some field => throw (.notCanonical field.1)
  | none => do
    let currentAnchor ← service.loadAnchor
    let db : Database ← ask .database
    let head ← ofExcept (getAuditHead db)
    if currentAnchor.head ≠ head then throw .anchorMismatch
    else
      match r.details with
      | none => throw .encodeDetails
      | some details =>
        if 64 * 1024 < len details then throw .detailsOversized
        else do
          let id ← ask .newID
          let now ← ask .clock
          let entry := service.signedEntry r details id now currentAnchor.headHash
          let _ ← ofExcept (service.hashEntry entry)
          let committed ← ask (.commit entry)
          ofExcept committed
          service.anchorEntry entry head

end Programs
end AntiFlock.Audit
