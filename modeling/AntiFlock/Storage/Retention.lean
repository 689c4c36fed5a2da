import AntiFlock.Go.Calendar
import AntiFlock.Go.Json
import AntiFlock.Storage.Events
import Mathlib.Data.List.Sort

set_option autoImplicit false

/-!
# Event retention

`PruneEventsWithCutoffs`: a batch of old events that every required projection
has processed is deleted, and a receipt that names the batch is chained to the
receipts before it, in one transaction.
-/
namespace AntiFlock.Storage
open AntiFlock.Go AntiFlock.Sql Calendar

structure EventRetentionCutoffs where
  defaultBefore : Instant
  byClassification : Map EvidenceClass Instant
  bySensitivity : Map Sensitivity Instant

structure RetentionRule where
  value : String
  before : String
deriving DecidableEq

structure RetentionPolicy where
  defaultBefore : String
  byClassification : List RetentionRule
  bySensitivity : List RetentionRule
deriving DecidableEq

def RetentionRule.marshal (rule : RetentionRule) : String :=
  "\x7b\"value\":" ++ Json.quote rule.value ++ ",\"before\":" ++ Json.quote rule.before ++ "\x7d"

def marshalRules (name : String) (rules : List RetentionRule) : String :=
  if rules = [] then ""
  else ",\"" ++ name ++ "\":[" ++ String.intercalate "," (rules.map RetentionRule.marshal) ++ "]"

def RetentionPolicy.marshal (policy : RetentionPolicy) : String :=
  "\x7b\"defaultBefore\":" ++ Json.quote policy.defaultBefore ++
    marshalRules "byClassification" policy.byClassification ++
    marshalRules "bySensitivity" policy.bySensitivity ++ "\x7d"

/-- Readers of stored text: RFC 3339 times, and JSON policies. -/
structure TextReader where
  parseTime : String → Option Instant
  unmarshalPolicy : String → Option RetentionPolicy
  parse_format : ∀ t : Instant, t.Parses → parseTime (formatTime t) = some t
  marshal_unmarshal : ∀ policy : RetentionPolicy,
    (unmarshalPolicy policy.marshal).map RetentionPolicy.marshal = some policy.marshal

/-- A reader that knows exactly the texts the program writes. -/
noncomputable instance : Inhabited TextReader where
  default :=
    { parseTime text := open Classical in
        if h : ∃ t : Instant, t.Parses ∧ formatTime t = text then some h.choose else none
      unmarshalPolicy text := open Classical in
        if h : ∃ policy : RetentionPolicy, policy.marshal = text then some h.choose else none
      parse_format t ht := by
        have h : ∃ t' : Instant, t'.Parses ∧ formatTime t' = formatTime t := ⟨t, ht, rfl⟩
        rw [dif_pos h, formatTime_inj h.choose_spec.2]
      marshal_unmarshal policy := by
        have h : ∃ policy' : RetentionPolicy, policy'.marshal = policy.marshal := ⟨policy, rfl⟩
        rw [dif_pos h, Option.map_some, h.choose_spec] }

def RetentionRule.sorted (a b : RetentionRule) : Prop := ¬ b.value < a.value

instance : DecidableRel RetentionRule.sorted := fun a b => inferInstanceAs (Decidable (¬ b.value < a.value))

/-- The rules of one kind, checked against the default and in the order of their values. -/
def retentionRules {K : Type} [DecidableEq K] (valid : K → Bool) (text : K → String) (kind : String)
    (defaultBefore : Instant) (cutoffs : Map K Instant) : Except StorageErr (List RetentionRule) :=
  match cutoffs.entries.find? fun e => !valid e.1 with
  | some e => .error (.invalid ("invalid retention " ++ kind ++ " " ++ text e.1))
  | none =>
    match cutoffs.entries.find? fun e => e.2.isZero || e.2 < defaultBefore with
    | some e => .error (.invalid ("retention " ++ kind ++ " cutoff " ++ text e.1 ++ " cannot extend the default"))
    | none => .ok ((cutoffs.entries.map fun e => RetentionRule.mk (text e.1) (formatTime e.2)).insertionSort
        RetentionRule.sorted)

def canonicalRetentionPolicy (cutoffs : EventRetentionCutoffs) : Except StorageErr String := do
  if cutoffs.defaultBefore.isZero then throw (.invalid "retention cutoff is required")
  let classes ← retentionRules EvidenceClass.valid EvidenceClass.text "classification"
    cutoffs.defaultBefore cutoffs.byClassification
  let sensitivities ← retentionRules Sensitivity.valid Sensitivity.text "sensitivity"
    cutoffs.defaultBefore cutoffs.bySensitivity
  return (RetentionPolicy.mk (formatTime cutoffs.defaultBefore) classes sensitivities).marshal

/-- `writeRetentionUint64`. -/
def uint64 (value : ℕ) : List UInt8 := Sha256.beBytes 8 value

/-- `writeRetentionField`. -/
def retentionField (value : List UInt8) : List UInt8 := uint64 value.length ++ value

def retentionBatchHash (candidates : List EventRow) : String :=
  hexEncode (Sha256.sum256 (retentionField (bytes "AntiFlock-Event-Retention-Batch-v1") ++
    candidates.flatMap fun row => uint64 row.ordinal ++ retentionField (bytes row.id) ++
      retentionField (Sha256.sum256 row.wire)))

structure TombstoneContent where
  previousHash : String
  first : ℕ
  last : ℕ
  count : ℕ
  batchHash : String
  policyJSON : String
  cutoffAt : String
  prunedAt : String
deriving DecidableEq

def retentionTombstoneHash (c : TombstoneContent) : String :=
  hexEncode (Sha256.sum256 (retentionField (bytes "AntiFlock-Event-Retention-Tombstone-v1") ++
    retentionField (bytes c.previousHash) ++ uint64 c.first ++ uint64 c.last ++ uint64 c.count ++
    retentionField (bytes c.batchHash) ++ retentionField (bytes c.policyJSON) ++
    retentionField (bytes c.cutoffAt) ++ retentionField (bytes c.prunedAt)))

def Tombstone.content (s : Tombstone) : TombstoneContent :=
  ⟨s.previousHash, s.first, s.last, s.count, s.batchHash, s.policyJSON, s.cutoffAt, s.prunedAt⟩

def validSHA256Hex (value : String) : Bool := (bytes value).length == 64 && (bytes value).all hexByte

section Verify
variable (reader : TextReader)

def canonicalPolicy (policyJSON : String) : Bool :=
  match reader.unmarshalPolicy policyJSON with
  | none => false
  | some policy => policy.marshal == policyJSON

/-- The checks of one tombstone behind the one with id `previousID` and hash `previousHash`. -/
def tombstoneError (previousID : ℕ) (previousHash : String) (s : Tombstone) : Option String :=
  if s.id ≤ previousID || s.first == 0 || s.last < s.first || s.count == 0 || s.last - s.first + 1 < s.count then
    some "invalid tombstone bounds"
  else if !validSHA256Hex s.batchHash || !validSHA256Hex s.hash ||
      (s.previousHash != "" && !validSHA256Hex s.previousHash) then
    some "invalid tombstone digest"
  else if s.previousHash != previousHash then some "previous hash mismatch"
  else if !canonicalPolicy reader s.policyJSON then some "noncanonical policy"
  else if (reader.parseTime s.cutoffAt).isNone then some "invalid cutoff"
  else if (reader.parseTime s.prunedAt).isNone then some "invalid prune time"
  else if retentionTombstoneHash s.content != s.hash then some "hash mismatch"
  else none

/-- The loop over the tombstones: the error it stops with, or how many there are and the last id
and hash. -/
def scanTombstones : List Tombstone → ℕ → ℕ → String → Except String (ℕ × ℕ × String)
  | [], count, previousID, previousHash => .ok (count, previousID, previousHash)
  | s :: rest, count, previousID, previousHash =>
    match tombstoneError reader previousID previousHash s with
    | some err => .error err
    | none => scanTombstones rest (count + 1) s.id s.hash

/-- `verifyRetentionTombstonesTx`. -/
def verifyTombstones (t : Tables) : Except StorageErr Unit :=
  match scanTombstones reader t.tombstones 0 0 "" with
  | .error err => .error (.retentionIntegrity err)
  | .ok (count, _, head) =>
    if count = t.tombstoneCount ∧ head = t.headHash then .ok ()
    else .error (.retentionIntegrity "state head does not match the tombstone journal")

end Verify

structure SafeCursor where
  ordinal : ℕ
  receivedAt : ℤ
  eventID : String
deriving DecidableEq

/-- `retentionSafeCursor`: the least cursor; a zero ordinal stands for none seen yet. -/
def retentionSafeCursor (t : Tables) : List String → SafeCursor → Except StorageErr SafeCursor
  | [], safe => .ok safe
  | projection :: rest, safe =>
    match t.cursors.lookup projection with
    | none => .error (.projectionNotReady projection)
    | some cursor =>
      if cursor.lastIngestOrdinal = 0 ∨ cursor.lastReceivedAt = sortableTime Instant.zero ∨
          cursor.lastEventID = "" then
        .error (.projectionNotReady projection)
      else if safe.ordinal = 0 ∨ cursor.lastIngestOrdinal < safe.ordinal then
        retentionSafeCursor t rest ⟨cursor.lastIngestOrdinal, cursor.lastReceivedAt, cursor.lastEventID⟩
      else retentionSafeCursor t rest safe

/-- The `WHERE` clause on ages. -/
def EventRetentionCutoffs.covers (cutoffs : EventRetentionCutoffs) (row : EventRow) : Bool :=
  row.receivedAt < sortableTime cutoffs.defaultBefore ||
    (cutoffs.byClassification.entries.any fun e =>
      row.classification == e.1 && row.receivedAt < sortableTime e.2) ||
    (cutoffs.bySensitivity.entries.any fun e =>
      row.sensitivity == e.1 && row.receivedAt < sortableTime e.2)

def selectRetentionCandidates (t : Tables) (cutoffs : EventRetentionCutoffs) (safeOrdinal batchSize : ℕ) :
    List EventRow :=
  (t.events.filter fun row => cutoffs.covers row && row.ordinal ≤ safeOrdinal).take batchSize

def effectiveBatch (batchSize : ℤ) : ℕ :=
  if batchSize ≤ 0 ∨ 10000 < batchSize then 500 else batchSize.toNat

structure PruneRequest where
  cutoffs : EventRetentionCutoffs
  projections : List String
  batchSize : ℤ
  /-- The clock when the batch is pruned. -/
  now : Instant

structure RetentionResult where
  deleted : ℕ
  safe : SafeCursor
  tombstoneHash : String
deriving DecidableEq

def newTombstone (t : Tables) (request : PruneRequest) (policyJSON : String) (first last : EventRow)
    (batch : List EventRow) : Tombstone :=
  let content : TombstoneContent := ⟨t.headHash, first.ordinal, last.ordinal, batch.length,
    retentionBatchHash batch, policyJSON, formatTime request.cutoffs.defaultBefore, formatTime request.now⟩
  ⟨t.lastTombstone + 1, content.first, content.last, content.count, content.batchHash, content.policyJSON,
    content.cutoffAt, content.prunedAt, content.previousHash, retentionTombstoneHash content⟩

def insertTombstone (s : Tombstone) : EventTx Unit := do
  let t ← get
  Tx.require (∀ old ∈ t.tombstones, old.hash ≠ s.hash ∧ ¬ (old.first = s.first ∧ old.last = s.last))
    (.constraint "record event retention tombstone")
  Tx.require (t.lastTombstone < maximumRowID) (.constraint "record event retention tombstone")
  modify fun t => { t with
    tombstones := t.tombstones ++ [s]
    lastTombstone := t.lastTombstone + 1
    tombstoneCount := t.tombstoneCount + 1
    headHash := s.hash }

def deleteEvents (ordinals : List ℕ) : EventTx Unit := do
  let t ← get
  Tx.require ((t.events.filter fun row => row.ordinal ∈ ordinals).length = ordinals.length)
    (.constraint "retention deletion count does not match tombstone count")
  modify fun t => { t with events := t.events.filter fun row => row.ordinal ∉ ordinals }

def checkProjections (projections : List String) : EventTx Unit := do
  Tx.require (projections ≠ []) (.invalid "at least one required projection is required for safe pruning")
  Tx.require (∀ projection ∈ projections, trimSpace projection ≠ "")
    (.invalid "required projection names cannot be empty")
  Tx.require projections.Nodup (.invalid "required projection is duplicated")

/-- `PruneEventsWithCutoffs`, up to the truncation of the write-ahead log behind its commit. -/
def pruneEvents (reader : TextReader) (request : PruneRequest) : EventTx RetentionResult := do
  let policyJSON ← canonicalRetentionPolicy request.cutoffs
  checkProjections request.projections
  let t ← get
  verifyTombstones reader t
  let safe ← retentionSafeCursor t request.projections ⟨0, 0, ""⟩
  let batch := selectRetentionCandidates t request.cutoffs safe.ordinal (effectiveBatch request.batchSize)
  match batch.head?, batch.getLast? with
  | some first, some last =>
    let s := newTombstone t request policyJSON first last batch
    insertTombstone s
    deleteEvents (batch.map (·.ordinal))
    return ⟨batch.length, safe, s.hash⟩
  | _, _ => return ⟨0, safe, ""⟩

def PruneRequest.batch (request : PruneRequest) (t : Tables) (safe : SafeCursor) : List EventRow :=
  selectRetentionCandidates t request.cutoffs safe.ordinal (effectiveBatch request.batchSize)

def Tables.pruned (t : Tables) (s : Tombstone) (batch : List EventRow) : Tables :=
  { t with
    events := t.events.filter fun row => row.ordinal ∉ batch.map (·.ordinal)
    tombstones := t.tombstones ++ [s]
    lastTombstone := t.lastTombstone + 1
    tombstoneCount := t.tombstoneCount + 1
    headHash := s.hash }

/-- A request that the checks in front of the transaction let through. -/
structure PruneRequest.Valid (request : PruneRequest) (policy : String) : Prop where
  policy : canonicalRetentionPolicy request.cutoffs = .ok policy
  some : request.projections ≠ []
  named : ∀ projection ∈ request.projections, trimSpace projection ≠ ""
  nodup : request.projections.Nodup

section Effect
variable {reader : TextReader} {request : PruneRequest} {t t' : Tables} {result : RetentionResult}

inductive Prunes (reader : TextReader) (request : PruneRequest) (t : Tables) : RetentionResult → Tables → Prop where
  | nothing {policy : String} {safe : SafeCursor} (valid : request.Valid policy)
      (verified : verifyTombstones reader t = .ok ())
      (ready : retentionSafeCursor t request.projections ⟨0, 0, ""⟩ = .ok safe)
      (empty : request.batch t safe = []) : Prunes reader request t ⟨0, safe, ""⟩ t
  | batch {policy : String} {safe : SafeCursor} {first last : EventRow} {s : Tombstone}
      (valid : request.Valid policy) (verified : verifyTombstones reader t = .ok ())
      (ready : retentionSafeCursor t request.projections ⟨0, 0, ""⟩ = .ok safe)
      (head : (request.batch t safe).head? = some first) (end_ : (request.batch t safe).getLast? = some last)
      (stone : s = newTombstone t request policy first last (request.batch t safe))
      (unique : ∀ old ∈ t.tombstones, old.hash ≠ s.hash ∧ ¬ (old.first = s.first ∧ old.last = s.last))
      (room : t.lastTombstone < maximumRowID)
      (all : (t.events.filter fun row => row.ordinal ∈ (request.batch t safe).map (·.ordinal)).length =
        ((request.batch t safe).map (·.ordinal)).length) :
      Prunes reader request t ⟨(request.batch t safe).length, safe, s.hash⟩ (t.pruned s (request.batch t safe))

theorem prunes_of_does (h : (pruneEvents reader request).Does t result t') : Prunes reader request t result t' := by
  simp only [pruneEvents, checkProjections, Tx.does_bind, Tx.does_lift, Tx.does_require, Tx.does_get] at h
  obtain ⟨policy, _, ⟨hpolicy, rfl⟩, _, _, ⟨_, _, ⟨hsome, rfl⟩, _, _, ⟨hnamed, rfl⟩, hnodup, rfl⟩, _, _, ⟨rfl, rfl⟩,
    _, _, ⟨hverified, rfl⟩, safe, _, ⟨hready, rfl⟩, h⟩ := h
  have hvalid : request.Valid policy := ⟨hpolicy, hsome, hnamed, hnodup⟩
  split at h
  · rename_i first last hhead hlast
    simp only [insertTombstone, deleteEvents, Tx.does_bind, Tx.does_get, Tx.does_require, Tx.does_modify,
      Tx.does_pure] at h
    obtain ⟨_, _, ⟨_, _, ⟨rfl, rfl⟩, _, _, ⟨hunique, rfl⟩, _, _, ⟨hroom, rfl⟩, rfl⟩, _, _,
      ⟨_, _, ⟨rfl, rfl⟩, _, _, ⟨hall, rfl⟩, rfl⟩, rfl, rfl⟩ := h
    exact .batch hvalid hverified hready hhead hlast rfl hunique hroom hall
  · rename_i hnone
    obtain ⟨rfl, rfl⟩ := Tx.does_pure.mp h
    refine .nothing hvalid hverified hready ?_
    cases hb : request.batch _ safe with
    | nil => rfl
    | cons row rest =>
      have hlast : (row :: rest).getLast? = some ((row :: rest).getLast (by simp)) := List.getLast?_eq_some_getLast _
      exact (hnone row ((row :: rest).getLast (by simp)) (by rw [PruneRequest.batch] at hb; rw [hb]; rfl)
        (by rw [PruneRequest.batch] at hb; rw [hb]; exact hlast)).elim

theorem does_of_prunes (h : Prunes reader request t result t') : (pruneEvents reader request).Does t result t' := by
  simp only [pruneEvents, checkProjections, Tx.does_bind, Tx.does_lift, Tx.does_require, Tx.does_get]
  cases h with
  | @nothing policy safe valid verified ready empty =>
    refine ⟨policy, t, ⟨valid.policy, rfl⟩, (), t, ⟨(), t, ⟨valid.some, rfl⟩, (), t, ⟨valid.named, rfl⟩, valid.nodup, rfl⟩,
      t, t, ⟨rfl, rfl⟩, (), t, ⟨verified, rfl⟩, safe, t, ⟨ready, rfl⟩, ?_⟩
    rw [PruneRequest.batch] at empty
    rw [empty]
    exact Tx.does_pure.mpr ⟨rfl, rfl⟩
  | @batch policy safe first last s valid verified ready head end_ stone unique room all =>
    refine ⟨policy, t, ⟨valid.policy, rfl⟩, (), t, ⟨(), t, ⟨valid.some, rfl⟩, (), t, ⟨valid.named, rfl⟩, valid.nodup, rfl⟩,
      t, t, ⟨rfl, rfl⟩, (), t, ⟨verified, rfl⟩, safe, t, ⟨ready, rfl⟩, ?_⟩
    subst stone
    unfold PruneRequest.batch at head end_ unique all ⊢
    simp only [head, end_, insertTombstone, deleteEvents, Tx.does_bind, Tx.does_get, Tx.does_require, Tx.does_modify,
      Tx.does_pure]
    exact ⟨(), _, ⟨t, t, ⟨rfl, rfl⟩, (), t, ⟨unique, rfl⟩, (), t, ⟨room, rfl⟩, rfl⟩, (), _,
      ⟨_, _, ⟨rfl, rfl⟩, (), _, ⟨all, rfl⟩, rfl⟩, trivial, rfl⟩

end Effect

end AntiFlock.Storage
