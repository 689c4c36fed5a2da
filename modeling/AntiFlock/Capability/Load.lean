import AntiFlock.Capability.Prescan
import AntiFlock.Capability.Readiness

set_option autoImplicit false

/-!
# Loading a manifest

A manifest is scanned, decoded into its record, checked, and taken only if it is the
expected node's own and current. The decoder stores a member in the field whose name
it equals under simple case folding. The scan compares names in lower case, which
tells the long s from `s`; folding does not.
-/
namespace AntiFlock.Capability
open AntiFlock.Go AntiFlock.Driver

/-! ## The names of fields -/

namespace Unicode

/-- `foldName`: ASCII letters are raised, every other rune is replaced by the smallest of its orbit. -/
def foldChar (unicode : Unicode) (c : Char) : Char := if c.toNat < 128 then c.toUpper else unicode.foldRune c

def foldName (unicode : Unicode) (name : String) : List Char := name.toList.map unicode.foldChar

/-- The field a member is stored in: the one of its name, or else the first with the same folded name. -/
def bind {F : Type} (unicode : Unicode) (fields : List (String × F)) (name : String) : Option F :=
  match fields.find? fun field => field.1 = name with
  | some field => some field.2
  | none => (fields.find? fun field => unicode.foldName field.1 = unicode.foldName name).map (·.2)

end Unicode

inductive SignatureField where
  | keyId
  | algorithm
  | value
deriving DecidableEq

inductive EntryField where
  | schemaVersion
  | key
  | domain
  | operations
  | supportLevel
  | driverName
  | driverVersion
  | health
  | recoveryReady
  | reasonCodes
  | constraints
  | probedAt
  | expiresAt
  | probeDigest
deriving DecidableEq

inductive ManifestField where
  | schemaVersion
  | nodeId
  | revision
  | issuedAt
  | expiresAt
  | capabilities
  | policyKeyId
  | attestationRef
  | signature
deriving DecidableEq

def signatureFields : List (String × SignatureField) := [("keyId", .keyId), ("algorithm", .algorithm), ("value", .value)]

def entryFields : List (String × EntryField) :=
  [("schemaVersion", .schemaVersion), ("key", .key), ("domain", .domain), ("operations", .operations),
    ("supportLevel", .supportLevel), ("driverName", .driverName), ("driverVersion", .driverVersion), ("health", .health),
    ("recoveryReady", .recoveryReady), ("reasonCodes", .reasonCodes), ("constraints", .constraints),
    ("probedAt", .probedAt), ("expiresAt", .expiresAt), ("probeDigest", .probeDigest)]

def manifestFields : List (String × ManifestField) :=
  [("schemaVersion", .schemaVersion), ("nodeId", .nodeId), ("revision", .revision), ("issuedAt", .issuedAt),
    ("expiresAt", .expiresAt), ("capabilities", .capabilities), ("policyKeyId", .policyKeyId),
    ("attestationRef", .attestationRef), ("signature", .signature)]

/-! ## Values -/

structure Formats where
  /-- Of what stands between the quotes. -/
  parseTime : String → Option Time
  base64 : String → Option (List UInt8)

def parseUint (bits : ℕ) (literal : String) : Option ℕ :=
  if literal = "" ∨ literal.toList.all Char.isDigit = false then none
  else
    let value := literal.toList.foldl (fun value digit => 10 * value + (digit.toNat - '0'.toNat)) 0
    if value < 2 ^ bits then some value else none

def parseInt (bits : ℕ) (literal : String) : Option ℤ :=
  match literal.toList with
  | '-' :: digits =>
    match parseUint 64 (String.ofList digits) with
    | some value => if value ≤ 2 ^ (bits - 1) then some (-value) else none
    | none => none
  | _ => (parseUint (bits - 1) literal).map Int.ofNat

/-- `null` leaves a value as it is, unless it is a slice or a pointer. -/
def decodeText : Document → String → Option String
  | .scalar .null, old => some old
  | .scalar (.string text _), _ => some text
  | _, _ => none

def decodeBool : Document → Bool → Option Bool
  | .scalar .null, old => some old
  | .scalar (.bool value), _ => some value
  | _, _ => none

def decodeUint (bits : ℕ) : Document → ℕ → Option ℕ
  | .scalar .null, old => some old
  | .scalar (.number literal), _ => parseUint bits literal
  | _, _ => none

def decodeInt (bits : ℕ) : Document → ℤ → Option ℤ
  | .scalar .null, old => some old
  | .scalar (.number literal), _ => parseInt bits literal
  | _, _ => none

def decodeTime (formats : Formats) : Document → Time → Option Time
  | .scalar .null, old => some old
  | .scalar (.string _ raw), _ => formats.parseTime raw
  | _, _ => none

/-- Elements are decoded over those the slice holds already. -/
def decodeItems {α : Type} (decode : Document → α → Option α) (zero : α) : List Document → List α → Option (List α)
  | [], _ => some []
  | item :: rest, old =>
    match decode item (old.headD zero) with
    | none => none
    | some value => (decodeItems decode zero rest old.tail).map (value :: ·)

def decodeSlice {α : Type} (decode : Document → α → Option α) (zero : α) : Document → List α → Option (List α)
  | .scalar .null, _ => some []
  | .array items, old => decodeItems decode zero items old
  | _, _ => none

def decodeByte (document : Document) (old : UInt8) : Option UInt8 := (decodeUint 8 document old.toNat).map UInt8.ofNat

def decodeBytes (formats : Formats) : Document → List UInt8 → Option (List UInt8)
  | .scalar (.string text _), _ => formats.base64 text
  | document, old => decodeSlice decodeByte 0 document old

/-! ## Records -/

def SignatureField.Holds : SignatureField → Type
  | keyId | algorithm => String
  | value => List UInt8

def EntryField.Holds : EntryField → Type
  | schemaVersion | health => ℕ
  | domain | supportLevel => ℤ
  | operations => List ℤ
  | key | driverName | driverVersion | probeDigest => String
  | recoveryReady => Bool
  | reasonCodes | constraints => List String
  | probedAt | expiresAt => Time

def ManifestField.Holds : ManifestField → Type
  | schemaVersion | revision => ℕ
  | nodeId | policyKeyId | attestationRef => String
  | issuedAt | expiresAt => Time
  | capabilities => List Entry
  | signature => Option Signature

def Signature.toFields (signature : Signature) : (field : SignatureField) → field.Holds
  | .keyId => signature.keyID
  | .algorithm => signature.algorithm
  | .value => signature.value

def Signature.ofFields (fields : (field : SignatureField) → field.Holds) : Signature :=
  ⟨fields .keyId, fields .algorithm, fields .value⟩

def Entry.toFields (entry : Entry) : (field : EntryField) → field.Holds
  | .schemaVersion => entry.schemaVersion
  | .key => entry.key
  | .domain => entry.domain
  | .operations => entry.operations
  | .supportLevel => entry.supportLevel
  | .driverName => entry.driverName
  | .driverVersion => entry.driverVersion
  | .health => entry.health
  | .recoveryReady => entry.recoveryReady
  | .reasonCodes => entry.reasonCodes
  | .constraints => entry.constraints
  | .probedAt => entry.probedAt
  | .expiresAt => entry.expiresAt
  | .probeDigest => entry.probeDigest

def Entry.ofFields (fields : (field : EntryField) → field.Holds) : Entry :=
  ⟨fields .schemaVersion, fields .key, fields .domain, fields .operations, fields .supportLevel, fields .driverName,
    fields .driverVersion, fields .health, fields .recoveryReady, fields .reasonCodes, fields .constraints, fields .probedAt,
    fields .expiresAt, fields .probeDigest⟩

def Manifest.toFields (manifest : Manifest) : (field : ManifestField) → field.Holds
  | .schemaVersion => manifest.schemaVersion
  | .nodeId => manifest.nodeID
  | .revision => manifest.revision
  | .issuedAt => manifest.issuedAt
  | .expiresAt => manifest.expiresAt
  | .capabilities => manifest.capabilities
  | .policyKeyId => manifest.policyKeyID
  | .attestationRef => manifest.attestationRef
  | .signature => manifest.signature

def Manifest.ofFields (fields : (field : ManifestField) → field.Holds) : Manifest :=
  ⟨fields .schemaVersion, fields .nodeId, fields .revision, fields .issuedAt, fields .expiresAt, fields .capabilities,
    fields .policyKeyId, fields .attestationRef, fields .signature⟩

def zeroSignature : Signature := ⟨"", "", []⟩
def zeroEntry : Entry := ⟨0, "", 0, [], 0, "", "", 0, false, [], [], 0, 0, ""⟩
def zeroManifest : Manifest := ⟨0, "", 0, 0, 0, [], "", "", none⟩

section Decoding

variable (unicode : Unicode) (formats : Formats)

def decodeSignatureField : (field : SignatureField) → Document → field.Holds → Option field.Holds
  | .keyId | .algorithm => decodeText
  | .value => decodeBytes formats

def decodeSignature : Document → Option Signature → Option (Option Signature)
  | .scalar .null, _ => some none
  | .object members, old =>
    (storeMembers (unicode.bind signatureFields) (decodeSignatureField formats) members
      (old.getD zeroSignature).toFields).map fun fields => some (.ofFields fields)
  | _, _ => none

def decodeEntryField : (field : EntryField) → Document → field.Holds → Option field.Holds
  | .schemaVersion => decodeUint 32
  | .health => decodeUint 8
  | .domain | .supportLevel => decodeInt 32
  | .operations => decodeSlice (decodeInt 32) 0
  | .key | .driverName | .driverVersion | .probeDigest => decodeText
  | .recoveryReady => decodeBool
  | .reasonCodes | .constraints => decodeSlice decodeText ""
  | .probedAt | .expiresAt => decodeTime formats

def decodeEntry : Document → Entry → Option Entry
  | .scalar .null, old => some old
  | .object members, old =>
    (storeMembers (unicode.bind entryFields) (decodeEntryField formats) members old.toFields).map Entry.ofFields
  | _, _ => none

def decodeManifestField : (field : ManifestField) → Document → field.Holds → Option field.Holds
  | .schemaVersion => decodeUint 32
  | .revision => decodeUint 64
  | .nodeId | .policyKeyId | .attestationRef => decodeText
  | .issuedAt | .expiresAt => decodeTime formats
  | .capabilities => decodeSlice (decodeEntry unicode formats) zeroEntry
  | .signature => decodeSignature unicode formats

/-- `decoder.Decode(&manifest)` with unknown fields refused. -/
def decodeManifest : Document → Option Manifest
  | .scalar .null => some zeroManifest
  | .object members =>
    (storeMembers (unicode.bind manifestFields) (decodeManifestField unicode formats) members zeroManifest.toFields).map
      Manifest.ofFields
  | _ => none

end Decoding

/-! ## Two notions of one name -/

section Names

variable {unicode : Unicode} {F : Type}

end Names

/-- No object of the document has two members that the decoder would store in one field of a record. -/
def Unambiguous (unicode : Unicode) (document : Document) : Prop :=
  ∀ members, document.HasObject members → Unshared (unicode.bind manifestFields) members ∧
    Unshared (unicode.bind entryFields) members ∧ Unshared (unicode.bind signatureFields) members

section Order

variable {unicode : Unicode} {formats : Formats}

theorem Unambiguous.item {items : List Document} (h : Unambiguous unicode (.array items)) {item : Document}
    (hitem : item ∈ items) : Unambiguous unicode item :=
  fun members hmembers => h members (.item hitem hmembers)

theorem Unambiguous.member {outer : List (String × Document)} (h : Unambiguous unicode (.object outer))
    {member : String × Document} (hmember : member ∈ outer) : Unambiguous unicode member.2 :=
  fun members hmembers => h members (.member hmember hmembers)

/-- What is decoded does not depend on the order of members. -/
def Steady {α : Type} (unicode : Unicode) (decode : Document → α → Option α) : Prop :=
  ∀ document document', Unambiguous unicode document → document.Reordered document' → decode document = decode document'

end Order

/-! ## The loader -/

def maxManifestBytes : ℕ := 256 * 1024
def signatureDomain : String := "AntiFlock-CapabilityManifest-v1"

def reasonFileOversize : String := "AF-CAP-FILE-OVERSIZE"
def reasonJSONUnknownField : String := "AF-CAP-JSON-UNKNOWN-FIELD"
def reasonNodeMismatch : String := "AF-CAP-NODE-MISMATCH"

def signatureMessage (digest : List UInt8) : List UInt8 := bytes signatureDomain ++ digest

/-- What `Verify` reports: a manifest that is itself invalid, or what is wrong with its signature. -/
inductive VerifyErr where
  | manifest (err : ManifestErr)
  | signature (detail : String)
deriving DecidableEq

def Manifest.verify (scheme : Events.Scheme) (manifest : Manifest) (nodePublicKey : List UInt8) : Option VerifyErr :=
  if nodePublicKey.length ≠ Events.publicKeySize then some (.signature "node public key must be Ed25519")
  else
    match manifest.digest with
    | .error err => some (.manifest err)
    | .ok digest =>
      match manifest.signature with
      | none => some (.signature "manifest is unsigned")
      | some signature =>
        if signature.algorithm ≠ signatureAlgorithm ∨ signature.keyID ≠ manifest.nodeID then
          some (.signature "signature algorithm or key id is not the node's")
        else if scheme.verify nodePublicKey (signatureMessage digest) signature.value = false then
          some (.signature "signature does not verify")
        else none

/-- The error of a load: a text of the loader, or the error of a check it made. -/
inductive LoadFailure where
  | plain (err : LoadErr)
  | schema (err : ManifestErr)
  | signature (err : VerifyErr)
deriving DecidableEq

/-- What the loader is built on. Of the errors of a decoder it only asks whether they speak of an unknown field,
and of the data behind a value whether there is any. -/
structure Loader where
  unicode : Unicode
  decoder : Decoder
  formats : Formats
  scheme : Events.Scheme
  isUnknownField : List UInt8 → Bool
  trailing : List UInt8 → Bool

namespace Loader

def accept (loader : Loader) (manifest : Manifest) (expectedNodeID : String) (nodePublicKey : List UInt8) (now : Time) :
    Except LoadFailure Manifest :=
  match manifest.validate with
  | some err => .error (.schema err)
  | none =>
    if manifest.nodeID ≠ expectedNodeID then .error (.plain ⟨reasonNodeMismatch, "manifest belongs to another node"⟩)
    else
      match manifest.verify loader.scheme nodePublicKey with
      | some err => .error (.signature err)
      | none =>
        if !decide (now < manifest.expiresAt) then .error (.plain ⟨reasonExpired, "manifest has expired"⟩)
        else if now + maxClockSkew < manifest.issuedAt then
          .error (.plain ⟨reasonNotYetValid, "manifest is issued in the future"⟩)
        else .ok manifest

def loadManifestBytes (loader : Loader) (data : List UInt8) (expectedNodeID : String) (nodePublicKey : List UInt8)
    (now : Time) : Except LoadFailure Manifest :=
  if data.length > maxManifestBytes then .error (.plain ⟨reasonFileOversize, "manifest exceeds 262144 bytes"⟩)
  else
    match prescanJSON loader.unicode loader.decoder data with
    | some err => .error (.plain err)
    | none =>
      match (loader.decoder.value data).bind (decodeManifest loader.unicode loader.formats) with
      | none =>
        if loader.isUnknownField data then
          .error (.plain ⟨reasonJSONUnknownField, "manifest contains an unknown field"⟩)
        else .error (.plain ⟨reasonJSONSyntax, "manifest is not valid JSON for the schema"⟩)
      | some manifest =>
        if loader.trailing data then .error (.plain ⟨reasonJSONTrailing, "content follows the manifest object"⟩)
        else loader.accept manifest expectedNodeID nodePublicKey now

/-- A manifest that is taken is valid, names the node, carries its signature, and is inside its window. -/
structure Accepted (loader : Loader) (manifest : Manifest) (expectedNodeID : String) (nodePublicKey : List UInt8)
    (now : Time) : Prop where
  valid : manifest.validate = none
  node : manifest.nodeID = expectedNodeID
  signed : manifest.verify loader.scheme nodePublicKey = none
  current : manifestCode manifest now = none

theorem accepted_of_accept {loader : Loader} {manifest taken : Manifest} {expectedNodeID : String}
    {nodePublicKey : List UInt8} {now : Time}
    (h : loader.accept manifest expectedNodeID nodePublicKey now = .ok taken) :
    taken = manifest ∧ loader.Accepted manifest expectedNodeID nodePublicKey now := by
  unfold accept at h
  split at h
  case h_1 => cases h
  case h_2 hvalid =>
    split at h
    case isTrue => cases h
    case isFalse hnode =>
      split at h
      case h_1 => cases h
      case h_2 hverify =>
        split_ifs at h with hexpired hearly
        refine ⟨(Except.ok.inj h).symm, hvalid, not_not.mp hnode, hverify, ?_⟩
        rw [manifestCode, hvalid, if_neg (by simp), if_neg hexpired, if_neg hearly]

theorem loadManifestBytes_eq_ok {loader : Loader} {data : List UInt8} {expectedNodeID : String} {nodePublicKey : List UInt8}
    {now : Time} {manifest : Manifest}
    (h : loader.loadManifestBytes data expectedNodeID nodePublicKey now = .ok manifest) :
    loader.Accepted manifest expectedNodeID nodePublicKey now ∧ ∃ members,
      loader.decoder.value data = some (.object members) ∧ Screened loader.unicode (.object members) ∧
      decodeManifest loader.unicode loader.formats (.object members) = some manifest := by
  unfold loadManifestBytes at h
  split at h
  case isTrue => cases h
  case isFalse =>
    split at h
    case h_1 => cases h
    case h_2 hscan =>
      obtain ⟨members, hvalue, hscreened⟩ := prescanJSON_eq_none hscan
      split at h
      case h_1 =>
        split_ifs at h
      case h_2 decoded hdecode =>
        rw [hvalue, Option.bind_some] at hdecode
        split_ifs at h
        obtain ⟨rfl, haccepted⟩ := accepted_of_accept h
        exact ⟨haccepted, members, hvalue, hscreened, hdecode⟩

end Loader

/-! ## What the scan keeps out -/

def valueTokens (value : Option Document) : List Token × Ending :=
  match value with
  | some document => (document.tokens, .eof)
  | none => ([], .failed)

theorem valueTokens_nested (value : List UInt8 → Option Document) (data : List UInt8) (ts : List Token)
    (h : valueTokens (value data) = (ts, .eof)) : ∃ values : List Document, ts <+: values.flatMap Document.tokens ∧
      ∀ first rest, values = first :: rest → first.tokens <+: ts → value data = some first := by
  cases hvalue : value data with
  | none => simp [valueTokens, hvalue] at h
  | some document =>
    simp only [valueTokens, hvalue, Prod.mk.injEq, and_true] at h
    refine ⟨[document], by simp [h], fun first rest hvalues _ => ?_⟩
    rw [(List.cons.inj hvalues).1]

def Decoder.reading (text : String) (document : Document) : Decoder :=
  ⟨fun data => valueTokens (if data = bytes text then some document else none),
    fun data => if data = bytes text then some document else none, valueTokens_nested _⟩

end AntiFlock.Capability
