import AntiFlock.Effect.Prog
import AntiFlock.Go.Calendar
import AntiFlock.Go.Json
import AntiFlock.Go.Map
import AntiFlock.Lines

set_option autoImplicit false

/-!
# The file witness

A witness that signs checkpoints of an audit head and records them in a journal
of JSON lines. The journal is only appended to; a torn last line is cut off when
the journal is opened. The witness keeps the last sequence of each deployment in
memory.
-/
namespace AntiFlock.Witness
open AntiFlock.Go AntiFlock.Effect Calendar
open Lines (newline)

def journalVersion : String := "antiflock.witness-journal/v1"
def maxJournalLine : ℕ := 16 * 1024
def maxJournalSize : ℕ := 256 * 2 ^ 20
def maxIdentifierLength : ℕ := 256

/-- The steps of `appendRecord` on the file, each of which can fail. -/
inductive AppendStep where
  | inspect
  | openFile
  | protect
  | write
  | sync
  | close
  | syncDirectory
deriving DecidableEq

inductive AppendErr where
  | encode
  | oversized
  | step (failed : AppendStep)
deriving DecidableEq

/-- Errors that wrap the sentinels of the integration package. -/
inductive WitnessErr where
  | cancelled
  | invalidInput (text : String)
  | invalidReceipt (text : String)
  | sequenceRegression
  | unavailable (err : AppendErr)
deriving DecidableEq

inductive LineErr where
  | oversized
  | undecodable
  | unsupportedVersion (version : String)
  | undecodableSignature
  | receipt (err : WitnessErr)
  | regression
deriving DecidableEq

inductive ReplayErr where
  | oversized
  | line (number : ℕ) (err : LineErr)
deriving DecidableEq

structure Checkpoint where
  deploymentDigest : String
  auditHeadDigest : String
  sequence : ℕ
  issuedAt : Instant
  nodeCountBucket : String
deriving DecidableEq

structure Receipt where
  witnessID : String
  checkpointDigest : String
  witnessedAt : Instant
  signature : List UInt8
  keyID : String
deriving DecidableEq

/-- A receipt as the journal has it: the signature is base64 text. -/
structure ReceiptRecord where
  witnessID : String
  checkpointDigest : String
  witnessedAt : Instant
  signature : String
  keyID : String
deriving DecidableEq

structure JournalRecord where
  version : String
  checkpoint : Checkpoint
  receipt : ReceiptRecord
deriving DecidableEq

/-- The witness's Ed25519 key: the PKIX encoding of its public half, and what can be done with the halves. -/
structure Key where
  pkix : List UInt8
  sign : List UInt8 → List UInt8
  verify : List UInt8 → List UInt8 → Bool
  length_sign : ∀ payload, (sign payload).length = 64
  verify_sign : ∀ payload, verify payload (sign payload) = true

def digest (content : List UInt8) : String := hexEncode (Sha256.sum256 content)

def validDigest (value : String) : Bool := len value == 64 && (bytes value).all lowerHexByte

/-- ASCII without white space and control characters, scanned by bytes as `printable` is. -/
def validIdentifier (value : String) : Bool :=
  !(value == "" || maxIdentifierLength < len value) && (bytes value).all fun b => printable b && b != 0x20

def Key.id (key : Key) : String := "witness:" ++ digest key.pkix

def nodeCountBuckets : List String := ["", "0", "1-9", "10-99", "100-999", "1000+"]

def Checkpoint.validate (c : Checkpoint) : Option WitnessErr :=
  if !validDigest c.deploymentDigest then
    some (.invalidInput "checkpoint deployment digest must be a hex SHA-256")
  else if !validDigest c.auditHeadDigest then
    some (.invalidInput "checkpoint audit head digest must be a hex SHA-256")
  else if c.sequence = 0 then some (.invalidInput "checkpoint sequence must be positive")
  else if c.issuedAt.isZero then some (.invalidInput "checkpoint issued time is required")
  else if !nodeCountBuckets.contains c.nodeCountBucket then
    some (.invalidInput "checkpoint node count bucket is not recognised")
  else none

/-- `CheckpointDigest` of a checkpoint that is valid. -/
def Checkpoint.digest (c : Checkpoint) : String :=
  Witness.digest (bytes ("\x7b\"version\":1,\"deploymentDigest\":" ++ Json.quote c.deploymentDigest ++
    ",\"auditHeadDigest\":" ++ Json.quote c.auditHeadDigest ++ ",\"sequence\":" ++ toString c.sequence ++
    ",\"issuedAt\":" ++ Json.quote (formatTime c.issuedAt) ++ ",\"nodeCountBucket\":" ++
    Json.quote c.nodeCountBucket ++ "\x7d"))

def receiptSigningPayload (r : Receipt) : Except WitnessErr (List UInt8) :=
  if !validIdentifier r.witnessID then .error (.invalidReceipt "receipt witness id must be a canonical identifier")
  else if !validDigest r.checkpointDigest then
    .error (.invalidReceipt "receipt checkpoint digest must be a hex SHA-256")
  else if r.witnessedAt.isZero then .error (.invalidReceipt "receipt witnessed time is required")
  else if !validIdentifier r.keyID then .error (.invalidReceipt "receipt key id must be a canonical identifier")
  else .ok (bytes (digest (bytes ("\x7b\"version\":1,\"witnessId\":" ++ Json.quote r.witnessID ++
    ",\"checkpointDigest\":" ++ Json.quote r.checkpointDigest ++ ",\"witnessedAt\":" ++
    Json.quote (formatTime r.witnessedAt) ++ ",\"keyId\":" ++ Json.quote r.keyID ++ "\x7d"))))

def signReceipt (key : Key) (r : Receipt) : Except WitnessErr Receipt :=
  let r' := { r with keyID := key.id }
  match receiptSigningPayload r' with
  | .error err => .error err
  | .ok payload => .ok { r' with signature := key.sign payload }

def verifyReceipt (key : Key) (r : Receipt) : Option WitnessErr :=
  if r.keyID ≠ key.id then some (.invalidReceipt "receipt key id does not name the witness key")
  else if r.signature.length ≠ 64 then some (.invalidReceipt "receipt signature has the wrong size")
  else
    match receiptSigningPayload r with
    | .error err => some err
    | .ok payload =>
      if key.verify payload r.signature then none
      else some (.invalidReceipt "receipt signature does not verify")

def verifyReceiptFor (key : Key) (r : Receipt) (c : Checkpoint) : Option WitnessErr :=
  match c.validate with
  | some err => some err
  | none =>
    if r.checkpointDigest ≠ c.digest then some (.invalidReceipt "receipt is bound to a different checkpoint")
    else verifyReceipt key r

/-- What the witness asks of the file system. `append` is `appendRecord` from the inspection of the
file on: it answers the step that failed, if one did. -/
inductive Request where
  | read
  | append (content : List UInt8)
  | truncate (length : ℕ)

def Answer : Request → Type
  | .read => Option (List UInt8)
  | .append _ => Option AppendStep
  | .truncate _ => Unit

def fileSig : Sig := ⟨Request, Answer⟩

abbrev File := Option (List UInt8)

abbrev Marks := Map String ℕ

/-- The JSON of journal records and the base64 of signatures. -/
structure Encoding extends Lines.Codec newline JournalRecord where
  encodeSignature : List UInt8 → String
  decodeSignature : String → Option (List UInt8)
  decode_encodeSignature : ∀ signature, decodeSignature (encodeSignature signature) = some signature

/-- `json.Marshal` writes times of the years 0 to 9999. -/
def JournalRecord.marshals (r : JournalRecord) : Bool :=
  decide r.checkpoint.issuedAt.Parses && decide r.receipt.witnessedAt.Parses

def regresses (last : Marks) (c : Checkpoint) : Bool :=
  (last.lookup c.deploymentDigest).any (c.sequence ≤ ·)

section Witness
variable (encoding : Encoding) (key : Key) (witnessID : String)

def appendRecord (r : JournalRecord) : Prog fileSig (Except AppendErr Unit) :=
  if !r.marshals then .ret (.error .encode)
  else if maxJournalLine ≤ (encoding.encode r).length then .ret (.error .oversized)
  else
    .call (S := fileSig) (.append (encoding.encode r ++ [newline])) fun
      | none => .ret (.ok ())
      | some failed => .ret (.error (.step failed))

def journalRecord (c : Checkpoint) (r : Receipt) : JournalRecord :=
  ⟨journalVersion, c, r.witnessID, r.checkpointDigest, r.witnessedAt, encoding.encodeSignature r.signature, r.keyID⟩

/-- `Submit`: the receipt, and the marks behind it. -/
def submit (cancelled : Bool) (c : Checkpoint) (now : Instant) (last : Marks) :
    Prog fileSig (Except WitnessErr Receipt × Marks) :=
  if cancelled then .ret (.error .cancelled, last)
  else
    match c.validate with
    | some err => .ret (.error err, last)
    | none =>
      if regresses last c then .ret (.error .sequenceRegression, last)
      else
        match signReceipt key ⟨witnessID, c.digest, now, [], ""⟩ with
        | .error err => .ret (.error err, last)
        | .ok receipt =>
          (appendRecord encoding (journalRecord encoding c receipt)).bind fun
            | .error err => .ret (.error (.unavailable err), last)
            | .ok () => .ret (.ok receipt, last.insert c.deploymentDigest c.sequence)

/-- One turn of the loop of `replay`: the marks behind a line. -/
def replayLine (line : List UInt8) (last : Marks) : Except LineErr Marks :=
  if maxJournalLine ≤ line.length then .error .oversized
  else
    match encoding.decode line with
    | none => .error .undecodable
    | some ⟨version, c, r⟩ =>
      if version ≠ journalVersion then .error (.unsupportedVersion version)
      else
        match encoding.decodeSignature r.signature with
        | none => .error .undecodableSignature
        | some signature =>
          match verifyReceiptFor key ⟨r.witnessID, r.checkpointDigest, r.witnessedAt, signature, r.keyID⟩ c with
          | some err => .error (.receipt err)
          | none =>
            if regresses last c then .error .regression
            else .ok (last.insert c.deploymentDigest c.sequence)

/-- The loop of `replay`, at the line with an index. -/
def replayLines : ℕ → List (List UInt8) → Marks → Except ReplayErr Marks
  | _, [], last => .ok last
  | index, line :: rest, last =>
    match replayLine encoding key line last with
    | .error err => .error (.line (index + 1) err)
    | .ok last' => replayLines (index + 1) rest last'

/-- `replay`, at the end of `Open`. -/
def replay : Prog fileSig (Except ReplayErr Marks) :=
  .call (S := fileSig) .read fun
    | none => .ret (.ok ∅)
    | some content =>
      if maxJournalSize < content.length then .ret (.error .oversized)
      else if content.getLast?.any (· != newline) then
        -- a torn line is cut off the file before the lines in front of it are read
        let whole := Lines.complete newline content
        .call (S := fileSig) (.truncate whole.length) fun _ =>
          .ret (replayLines encoding key 0 (Lines.split newline whole) ∅)
      else .ret (replayLines encoding key 0 (Lines.split newline content) ∅)

end Witness

def AppendStep.Leaves (content : List UInt8) (f f' : File) : AppendStep → Prop
  | .inspect | .openFile => f' = f
  | .protect => f' = some (f.getD [])
  | .write => ∃ written, written <+: content ∧ f' = some (f.getD [] ++ written)
  | .sync | .close => f' = some (f.getD [] ++ content)
  | .syncDirectory => f = none ∧ f' = some content

/-- A disk on which every append may fail, at any of its steps. -/
def faultyDisk : Handler fileSig File where
  step
    | .read, f, r, f' => r = f ∧ f' = f
    | .append content, f, none, f' => f' = some (f.getD [] ++ content)
    | .append content, f, some failed, f' => failed.Leaves content f f'
    | .truncate length, f, _, f' => f' = f.map (List.take length)
  torn
    | .read, f, f' => f' = f
    | .append content, f, f' => ∃ failed : AppendStep, failed.Leaves content f f'
    | .truncate length, f, f' => f' = f ∨ f' = f.map (List.take length)

end AntiFlock.Witness
