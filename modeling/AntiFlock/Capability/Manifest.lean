import AntiFlock.Driver.Probe
import AntiFlock.Proto.Capabilities
import Mathlib.Tactic.IntervalCases

set_option autoImplicit false

/-!
# Capability manifests

A node's manifest lists what its drivers reported, one entry for each capability, with
the digest of the report. Enumerations stand in it as the numbers of the wire contract.
-/
namespace AntiFlock

/-! ## Numbers of enumerations -/

namespace Driver

theorem unnamed_of_not_between {bound number : ℤ} (h : ¬ (0 ≤ number ∧ number ≤ bound)) :
    number < 0 ∨ bound < number := by
  omega

theorem beyond_of_not_le {bound number : ℕ} (h : ¬ number ≤ bound) : bound < number := Nat.lt_of_not_le h

def CapabilityDomain.ofNumber (number : ℤ) : CapabilityDomain :=
  if h : 0 ≤ number ∧ number ≤ 11 then
    [unspecified, mesh, network, dns, flow, process, firewall, identity, certificate, notification, actionGate,
      scrambler].getD number.toNat unspecified
  else unknown number (unnamed_of_not_between h)

def CapabilityOperation.ofNumber (number : ℤ) : CapabilityOperation :=
  if h : 0 ≤ number ∧ number ≤ 4 then [unspecified, observe, enforce, verify, rollback].getD number.toNat unspecified
  else unknown number (unnamed_of_not_between h)

def CapabilitySupportLevel.ofNumber (number : ℤ) : CapabilitySupportLevel :=
  if h : 0 ≤ number ∧ number ≤ 4 then
    [unspecified, unsupported, partially, full, experimental].getD number.toNat unspecified
  else unknown number (unnamed_of_not_between h)

def HealthStatus.ofNumber (number : ℕ) : HealthStatus :=
  if h : number ≤ 3 then [unknown, healthy, degraded, unavailable].getD number unknown
  else other number (beyond_of_not_le h)

theorem CapabilityDomain.number_ofNumber (number : ℤ) : (ofNumber number).number = number := by
  unfold ofNumber
  split
  case isTrue h =>
    obtain ⟨hlow, hhigh⟩ := h
    interval_cases number <;> rfl
  case isFalse => rfl

theorem CapabilityOperation.number_ofNumber (number : ℤ) : (ofNumber number).number = number := by
  unfold ofNumber
  split
  case isTrue h =>
    obtain ⟨hlow, hhigh⟩ := h
    interval_cases number <;> rfl
  case isFalse => rfl

theorem CapabilitySupportLevel.number_ofNumber (number : ℤ) : (ofNumber number).number = number := by
  unfold ofNumber
  split
  case isTrue h =>
    obtain ⟨hlow, hhigh⟩ := h
    interval_cases number <;> rfl
  case isFalse => rfl

theorem HealthStatus.number_ofNumber (number : ℕ) : (ofNumber number).number = number := by
  unfold ofNumber
  split
  case isTrue h => interval_cases number <;> rfl
  case isFalse => rfl

theorem CapabilityDomain.ofNumber_number (domain : CapabilityDomain) : ofNumber domain.number = domain := by
  cases domain with
  | unknown number unnamed => exact dif_neg (by simp only [CapabilityDomain.number]; omega)
  | _ => rfl

theorem CapabilityOperation.ofNumber_number (operation : CapabilityOperation) : ofNumber operation.number = operation := by
  cases operation with
  | unknown number unnamed => exact dif_neg (by simp only [CapabilityOperation.number]; omega)
  | _ => rfl

theorem CapabilitySupportLevel.ofNumber_number (level : CapabilitySupportLevel) : ofNumber level.number = level := by
  cases level with
  | unknown number unnamed => exact dif_neg (by simp only [CapabilitySupportLevel.number]; omega)
  | _ => rfl

theorem HealthStatus.ofNumber_number (status : HealthStatus) : ofNumber status.number = status := by
  cases status with
  | other number beyond => exact dif_neg (by simp only [HealthStatus.number]; omega)
  | _ => rfl

def ProbeResult.expired (result : ProbeResult) (now : Time) : Bool := !decide (now < result.expiresAt)

end Driver

namespace Capability
open AntiFlock.Go AntiFlock.Driver

/-! ## Entries -/

structure Entry where
  schemaVersion : ℕ
  key : String
  domain : ℤ
  operations : List ℤ
  supportLevel : ℤ
  driverName : String
  driverVersion : String
  health : ℕ
  recoveryReady : Bool
  reasonCodes : List String
  constraints : List String
  probedAt : Time
  expiresAt : Time
  probeDigest : String
deriving DecidableEq

def Entry.ofProbe (result : ProbeResult) (digest : String) : Entry where
  schemaVersion := result.schemaVersion
  key := result.key
  domain := result.domain.number
  operations := result.operations.map CapabilityOperation.number
  supportLevel := result.supportLevel.number
  driverName := result.driverName
  driverVersion := result.driverVersion
  health := result.health.number
  recoveryReady := result.recoveryReady
  reasonCodes := result.reasonCodes
  constraints := result.constraints
  probedAt := result.probedAt
  expiresAt := result.expiresAt
  probeDigest := digest

def entryFromProbe (result : ProbeResult) : Except String Entry := result.digest.map (Entry.ofProbe result)

def Entry.probe (entry : Entry) : ProbeResult where
  schemaVersion := entry.schemaVersion
  key := entry.key
  domain := .ofNumber entry.domain
  operations := entry.operations.map CapabilityOperation.ofNumber
  supportLevel := .ofNumber entry.supportLevel
  driverName := entry.driverName
  driverVersion := entry.driverVersion
  health := .ofNumber entry.health
  recoveryReady := entry.recoveryReady
  reasonCodes := entry.reasonCodes
  constraints := entry.constraints
  probedAt := entry.probedAt
  expiresAt := entry.expiresAt

/-- What `ErrManifestInvalid` is wrapped with. The key of an entry stands quoted in the text. -/
inductive ManifestErr where
  | manifest (detail : String)
  /-- `entry %q: ...` -/
  | entry (key detail : String)
  /-- `capability %q ...` -/
  | capability (key detail : String)
deriving DecidableEq

def Entry.validate (entry : Entry) : Option ManifestErr :=
  match entry.probe.digest with
  | .error err => some (.entry entry.key err)
  | .ok digest =>
    if digest ≠ entry.probeDigest then some (.entry entry.key "probe digest does not match content") else none

/-! ## Manifests -/

structure Signature where
  keyID : String
  algorithm : String
  value : List UInt8
deriving DecidableEq

structure Manifest where
  schemaVersion : ℕ
  nodeID : String
  revision : ℕ
  issuedAt : Time
  expiresAt : Time
  capabilities : List Entry
  policyKeyID : String
  attestationRef : String
  signature : Option Signature
deriving DecidableEq

def schemaVersion : ℕ := 1
def maxManifestEntries : ℕ := 256
def maxManifestValidity : Duration := maxProbeValidity
def maxNodeIDLength : ℕ := 128
def maxAttestationRefLength : ℕ := 512
def signatureAlgorithm : String := "ed25519"
def signatureSize : ℕ := 64
def digestDomain : String := "AntiFlock-CapabilityManifest-Digest-v1"

def validIdentifier (value : String) (maximum : ℕ) : Bool :=
  !(value == "" || len value > maximum || !printableASCII value) && !containsAny value " \t"

namespace Manifest

/-- The loop over the entries, which remembers the keys it has seen. -/
def validateEntries (expiresAt : Time) : List String → List Entry → Option ManifestErr
  | _, [] => none
  | seen, entry :: rest =>
    match entry.validate with
    | some err => some err
    | none =>
      if entry.key ∈ seen then some (.capability entry.key "is duplicated")
      else if entry.expiresAt < expiresAt then some (.capability entry.key "expires before the manifest")
      else validateEntries expiresAt (entry.key :: seen) rest

def validateTail (manifest : Manifest) : Option ManifestErr :=
  if !validIdentifier manifest.policyKeyID maxNodeIDLength then
    some (.manifest "policy key id must be a bounded printable identifier")
  else if manifest.attestationRef ≠ "" ∧
      (len manifest.attestationRef > maxAttestationRefLength ∨ !printableASCII manifest.attestationRef) then
    some (.manifest "attestation reference is oversized or not printable ASCII")
  else if manifest.signature.any fun signature => signature.algorithm ≠ signatureAlgorithm ||
      !validIdentifier signature.keyID maxNodeIDLength || signature.value.length ≠ signatureSize then
    some (.manifest "signature must be an Ed25519 signature with a bounded key id")
  else none

def validate (manifest : Manifest) : Option ManifestErr :=
  if manifest.schemaVersion ≠ Capability.schemaVersion then
    some (.manifest s!"schema version {manifest.schemaVersion} is not 1")
  else if !validIdentifier manifest.nodeID maxNodeIDLength then
    some (.manifest "node id must be a bounded printable identifier")
  else if manifest.revision = 0 then some (.manifest "revision must be positive")
  else if isZero manifest.issuedAt || isZero manifest.expiresAt then
    some (.manifest "issued-at and expires-at are required")
  else if !decide (manifest.issuedAt < manifest.expiresAt) then some (.manifest "expires-at must follow issued-at")
  else if manifest.expiresAt - manifest.issuedAt > maxManifestValidity then some (.manifest "validity exceeds 24h0m0s")
  else if manifest.capabilities.length = 0 || manifest.capabilities.length > maxManifestEntries then
    some (.manifest "between 1 and 256 capabilities are required")
  else
    match validateEntries manifest.expiresAt [] manifest.capabilities with
    | some err => some err
    | none => manifest.validateTail

/-- `slices.SortFunc` by key. -/
def sorted (entries : List Entry) : List Entry := entries.insertionSort fun a b => ¬ b.key < a.key

/-- What `Digest` has hashed in the end. -/
def digestWriter (manifest : Manifest) : DigestWriter :=
  let hasher := ((newDigest digestDomain).uint manifest.schemaVersion).str manifest.nodeID
  let hasher := ((hasher.uint manifest.revision).time manifest.issuedAt).time manifest.expiresAt
  let hasher := (hasher.str manifest.policyKeyID).str manifest.attestationRef
  let entries := sorted manifest.capabilities
  entries.foldl (fun hasher entry => (hasher.str entry.key).str entry.probeDigest) (hasher.uint entries.length)

def digest (manifest : Manifest) : Except ManifestErr (List UInt8) :=
  match manifest.validate with
  | some err => .error err
  | none => .ok (Sha256.sum256 manifest.digestWriter.written)

end Manifest

/-! ## What the checks establish -/

theorem entry_validate_eq_none {entry : Entry} :
    entry.validate = none ↔ entry.probe.validate = none ∧ entry.probeDigest = entry.probe.digestValue := by
  unfold Entry.validate ProbeResult.digest
  cases entry.probe.validate with
  | some err => simp
  | none => simp [eq_comm]

theorem probe_ofProbe (result : ProbeResult) (digest : String) : (Entry.ofProbe result digest).probe = result := by
  simp [Entry.ofProbe, Entry.probe, CapabilityDomain.ofNumber_number, CapabilitySupportLevel.ofNumber_number,
    HealthStatus.ofNumber_number, Function.comp_def, CapabilityOperation.ofNumber_number]

theorem entryFromProbe_valid {result : ProbeResult} {entry : Entry} (h : entryFromProbe result = .ok entry) :
    entry.validate = none ∧ entry.probe = result := by
  cases hvalid : result.validate with
  | some err => simp [entryFromProbe, ProbeResult.digest, hvalid, Except.map] at h
  | none =>
    simp only [entryFromProbe, ProbeResult.digest, hvalid, Except.map, Except.ok.injEq] at h
    subst h
    rw [entry_validate_eq_none, probe_ofProbe]
    exact ⟨⟨hvalid, rfl⟩, rfl⟩

namespace Manifest

theorem validateEntries_eq_none {expiresAt : Time} {seen : List String} {entries : List Entry} :
    validateEntries expiresAt seen entries = none ↔ (∀ entry ∈ entries, entry.validate = none ∧ entry.key ∉ seen ∧
      ¬ entry.expiresAt < expiresAt) ∧ (entries.map Entry.key).Nodup := by
  induction entries generalizing seen with
  | nil => simp [validateEntries]
  | cons entry rest ih =>
    rw [validateEntries, List.forall_mem_cons, List.map_cons, List.nodup_cons]
    cases hentry : entry.validate with
    | some err => simp
    | none =>
      simp only [check_eq_none, ih, List.mem_cons, not_or, List.mem_map, not_exists, not_and]
      constructor
      · rintro ⟨hseen, htime, hrest, hnodup⟩
        exact ⟨⟨⟨trivial, hseen, htime⟩, fun e he => ⟨(hrest e he).1, (hrest e he).2.1.2, (hrest e he).2.2⟩⟩,
          fun e he heq => (hrest e he).2.1.1 heq, hnodup⟩
      · rintro ⟨⟨⟨-, hseen, htime⟩, hrest⟩, hfresh, hnodup⟩
        exact ⟨hseen, htime, fun e he => ⟨(hrest e he).1, ⟨fun heq => hfresh e he heq, (hrest e he).2.1⟩, (hrest e he).2.2⟩,
          hnodup⟩

structure Framed (manifest : Manifest) : Prop where
  version : manifest.schemaVersion = Capability.schemaVersion
  node : validIdentifier manifest.nodeID maxNodeIDLength = true
  revision : manifest.revision ≠ 0
  times : isZero manifest.issuedAt = false ∧ isZero manifest.expiresAt = false
  ordered : manifest.issuedAt < manifest.expiresAt
  validity : manifest.expiresAt - manifest.issuedAt ≤ maxManifestValidity
  tail : manifest.validateTail = none

theorem validate_eq_none {manifest : Manifest} : manifest.validate = none ↔ manifest.Framed ∧
    (manifest.capabilities.length ≠ 0 ∧ manifest.capabilities.length ≤ maxManifestEntries) ∧
    (∀ entry ∈ manifest.capabilities, entry.validate = none ∧ ¬ entry.expiresAt < manifest.expiresAt) ∧
    (manifest.capabilities.map Entry.key).Nodup := by
  have hentries : validateEntries manifest.expiresAt [] manifest.capabilities = none ↔ _ := validateEntries_eq_none
  simp only [List.not_mem_nil, not_false_eq_true, true_and] at hentries
  unfold validate
  cases hloop : validateEntries manifest.expiresAt [] manifest.capabilities with
  | some err =>
    rw [hloop] at hentries
    have hnot := fun h => Option.some_ne_none err (hentries.mpr h)
    simp only [check_eq_none]
    constructor
    · rintro ⟨-, -, -, -, -, -, -, ⟨⟩⟩
    · rintro ⟨-, -, h⟩
      exact absurd h hnot
  | none =>
    have hvalid := hentries.mp hloop
    simp only [check_eq_none, Bool.not_eq_true', Bool.not_eq_false, Bool.or_eq_true, decide_eq_true_eq, not_or,
      not_not, decide_eq_false_iff_not, Bool.not_eq_true]
    constructor
    · rintro ⟨hversion, hnode, hrevision, htimes, hordered, hvalidity, ⟨hsome, hfew⟩, htail⟩
      exact ⟨⟨hversion, hnode, hrevision, htimes, hordered, not_lt.mp hvalidity, htail⟩, ⟨hsome, not_lt.mp hfew⟩, hvalid⟩
    · rintro ⟨h, ⟨hsome, hfew⟩, -⟩
      exact ⟨h.version, h.node, h.revision, h.times, h.ordered, not_lt.mpr h.validity, ⟨hsome, not_lt.mpr hfew⟩, h.tail⟩

end Manifest

/-! ## The wire form -/

def operationToWire : CapabilityOperation → Enforcement.CapabilityOperation
  | .unspecified => .unspecified
  | .observe => .observe
  | .enforce => .enforce
  | .verify => .verify
  | .rollback => .rollback
  | .unknown number _ => .unlisted number

def supportLevelToWire : CapabilitySupportLevel → Enforcement.SupportLevel
  | .unspecified => .unspecified
  | .unsupported => .unsupported
  | .partially => .partly
  | .full => .full
  | .experimental => .experimental
  | .unknown number _ => .unlisted number

def domainToWire : CapabilityDomain → Proto.CapabilityDomain
  | .unspecified => .unspecified
  | .mesh => .mesh
  | .network => .network
  | .dns => .dns
  | .flow => .flow
  | .process => .process
  | .firewall => .firewall
  | .identity => .identity
  | .certificate => .certificate
  | .notification => .notification
  | .actionGate => .actionGate
  | .scrambler => .scrambler
  | .unknown number _ => .unlisted number

/-- `timestamppb.New`; the times of the driver count from the zero time. -/
def wireTime (t : Time) : Events.Timestamp := Events.timestamp (Instant.zero + t)

def Entry.toWire (entry : Entry) : Proto.Capability where
  key := entry.probe.key
  domain := domainToWire entry.probe.domain
  operations := entry.probe.operations.map operationToWire
  supportLevel := supportLevelToWire entry.probe.supportLevel
  implementation := entry.probe.driverName
  implementationVersion := entry.probe.driverVersion
  constraints := entry.probe.constraints ++ ["probe-digest=" ++ entry.probeDigest,
    "health=" ++ entry.probe.health.text, "recovery-ready=" ++ toString entry.probe.recoveryReady]
  observedAt := some (wireTime entry.probe.probedAt)

def Manifest.toProto (manifest : Manifest) : Except ManifestErr Proto.CapabilityManifest :=
  match manifest.validate with
  | some err => .error err
  | none => .ok {
      nodeId := manifest.nodeID
      revision := manifest.revision
      issuedAt := some (wireTime manifest.issuedAt)
      expiresAt := some (wireTime manifest.expiresAt)
      capabilities := (sorted manifest.capabilities).map Entry.toWire
      signature := none }

/-! ## A manifest with one entry -/

def firewallProbe : ProbeResult :=
  ⟨1, "firewall.egress.enforce", .firewall, [.enforce, .rollback], .full, "nftables", "1.0", .healthy, true,
    ["AF-DRIVER-OK"], [], 1000, 3000⟩

def sampleManifest : Manifest :=
  ⟨1, "node-1", 1, 1000, 2000, [.ofProbe firewallProbe firewallProbe.digestValue], "policy-1", "", none⟩

theorem sampleManifest_valid : sampleManifest.validate = none := by
  have hprobe : firewallProbe.validate = none := by decide
  have hmade : entryFromProbe firewallProbe = .ok (.ofProbe firewallProbe firewallProbe.digestValue) := by
    simp [entryFromProbe, ProbeResult.digest, hprobe, Except.map]
  refine Manifest.validate_eq_none.mpr ⟨⟨rfl, by decide, by decide, by decide, by decide, by decide, by decide⟩, by decide, ?_,
    by decide⟩
  intro entry hmem
  rw [List.mem_singleton.mp hmem]
  exact ⟨(entryFromProbe_valid hmade).1, by decide⟩

end Capability
end AntiFlock
