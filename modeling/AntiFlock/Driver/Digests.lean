import AntiFlock.Driver.Lifecycle
import AntiFlock.Driver.Probe
import AntiFlock.Go.Encoding
import AntiFlock.Go.Framing

set_option autoImplicit false

/-!
# What a digest binds

Every digest of the contract is the SHA-256 of a list of length-prefixed fields
that starts with the name of a domain. The fields can be read back from the text,
so two values with one digest are of one kind and agree in what was digested.
-/
namespace AntiFlock.Driver
open AntiFlock.Go

/-! ## The fields of a writer -/

namespace DigestWriter

theorem bytes_written (w : DigestWriter) (value : List UInt8) :
    (w.bytes value).written = w.written ++ lengthPrefixed [value] := by
  simp [bytes, lengthPrefixed]

theorem str_written (w : DigestWriter) (value : String) :
    (w.str value).written = w.written ++ lengthPrefixed [Go.bytes value] := bytes_written _ _

theorem uint_written (w : DigestWriter) (value : ℕ) :
    (w.uint value).written = w.written ++ lengthPrefixed [Sha256.beBytes 8 value] := bytes_written _ _

theorem foldl_written {α : Type} {write : DigestWriter → α → DigestWriter} {fields : α → List (List UInt8)}
    (h : ∀ w item, (write w item).written = w.written ++ lengthPrefixed (fields item)) (w : DigestWriter)
    (items : List α) : (items.foldl write w).written = w.written ++ lengthPrefixed (items.flatMap fields) := by
  induction items generalizing w with
  | nil => simp [lengthPrefixed]
  | cons item rest ih => rw [List.foldl_cons, ih, h, List.flatMap_cons, lengthPrefixed_append, List.append_assoc]

theorem foldl_written_map {α : Type} {write : DigestWriter → α → DigestWriter} {field : α → List UInt8}
    (h : ∀ w item, (write w item).written = w.written ++ lengthPrefixed [field item]) (w : DigestWriter)
    (items : List α) : (items.foldl write w).written = w.written ++ lengthPrefixed (items.map field) := by
  have hfields (w : DigestWriter) (item : α) :
      (write w item).written = w.written ++ lengthPrefixed ((fun item => [field item]) item) := h w item
  rw [foldl_written hfields, List.map_eq_flatMap]

theorem strs_written (w : DigestWriter) (values : List String) :
    (w.strs values).written = w.written ++ lengthPrefixed (counted (values.map Go.bytes)) := by
  rw [strs, foldl_written_map str_written, uint_written, List.append_assoc, ← lengthPrefixed_append, counted,
    List.length_map]
  rfl

end DigestWriter

def intWord (value : ℤ) : List UInt8 := Sha256.beBytes 8 (value % 2 ^ 64).toNat

def timeWords (t : Time) : List (List UInt8) := [intWord (unixSeconds t), intWord (nanosecond t)]

theorem DigestWriter.int_written (w : DigestWriter) (value : ℤ) :
    (w.int value).written = w.written ++ lengthPrefixed [intWord value] := bytes_written _ _

theorem DigestWriter.time_written (w : DigestWriter) (t : Time) :
    (w.time t).written = w.written ++ lengthPrefixed (timeWords t) := by
  rw [time, int_written, int_written, List.append_assoc, ← lengthPrefixed_append]
  rfl

theorem newDigest_written (domain : String) : (newDigest domain).written = lengthPrefixed [bytes domain] :=
  DigestWriter.str_written _ _

/-- A time whose seconds are an `int64`, as those of every `time.Time`. -/
def InSeconds (t : ℤ) : Prop :=
  -9223372036854775808 ≤ t / 1000000000 ∧ t / 1000000000 < 9223372036854775808

theorem uint_inj {m n : ℕ} (hm : m < 2 ^ 64) (hn : n < 2 ^ 64) (h : Sha256.beBytes 8 m = Sha256.beBytes 8 n) : m = n :=
  Sha256.beBytes_inj (by omega) (by omega) h

theorem intWord_mod {a b : ℤ} (h : intWord a = intWord b) : a % 2 ^ 64 = b % 2 ^ 64 := by
  have hwords := uint_inj (by omega) (by omega) h
  omega

theorem timeWords_inj {s t : ℤ} (hs : InSeconds s) (ht : InSeconds t) (h : timeWords s = timeWords t) : s = t := by
  simp only [timeWords, List.cons.injEq, and_true] at h
  have hseconds : s / 1000000000 = t / 1000000000 := by
    have hwords := intWord_mod h.1
    simp only [InSeconds, unixSeconds] at *
    omega
  have hnanos : s % 1000000000 = t % 1000000000 := by
    have hwords : s % 1000000000 % 2 ^ 64 = t % 1000000000 % 2 ^ 64 := intWord_mod h.2
    omega
  rw [← Int.mul_ediv_add_emod s 1000000000, ← Int.mul_ediv_add_emod t 1000000000, hseconds, hnanos]

/-! ## The values that are digested -/

structure OwnershipBinding where
  planID : String
  planRevision : ℕ
  operationID : String
  target : String
  reservationToken : String
deriving DecidableEq

inductive Digested where
  | approval (approval : Approval)
  | reservation (key : ReservationKey)
  | ownership (binding : OwnershipBinding)
  | snapshot (snapshot : Snapshot)
  | receipt (receipt : Receipt)
  | probe (result : ProbeResult)

namespace Digested

def digest : Digested → Option String
  | approval a => (approvalDigest a.planID a.planRevision a.operationID a.target a.approverKind).toOption
  | reservation key => key.digest.toOption
  | ownership b => some (ownershipTokenFor b.planID b.planRevision b.operationID b.target b.reservationToken)
  | snapshot s => s.digest.toOption
  | receipt r => r.contentDigest.toOption
  | probe p => p.digest.toOption

/-- The ranges of the machine integers and times in a value. A binding has no checks of its own: its
texts are only taken to be shorter than 4 GiB. -/
def Representable : Digested → Prop
  | approval a => a.planRevision < 2 ^ 64
  | reservation key => key.policyRevision < 2 ^ 64 ∧ key.planRevision < 2 ^ 64
  | ownership b => b.planRevision < 2 ^ 64 ∧
      ∀ text ∈ [b.planID, b.operationID, b.target, b.reservationToken], len text < 2 ^ 32
  | snapshot _ => True
  | receipt r => r.planRevision < 2 ^ 64 ∧ InSeconds r.at_
  | probe p => InSeconds p.probedAt ∧ InSeconds p.expiresAt

/-- Two values of one kind that agree in every digested field. -/
def Agree : Digested → Digested → Prop
  | approval a, approval b => a.planID = b.planID ∧ a.planRevision = b.planRevision ∧
      a.operationID = b.operationID ∧ a.target = b.target ∧ a.approverKind = b.approverKind
  | reservation a, reservation b => a = b
  | ownership a, ownership b => a = b
  | snapshot a, snapshot b => a.schemaVersion = b.schemaVersion ∧ a.driverName = b.driverName ∧
      a.scope.operationType = b.scope.operationType ∧ a.scope.targets.Perm b.scope.targets ∧ a.entries = b.entries
  | receipt a, receipt b => a = b
  | probe a, probe b => a.schemaVersion = b.schemaVersion ∧ a.key = b.key ∧ a.domain = b.domain ∧
      a.operations.Perm b.operations ∧ a.supportLevel = b.supportLevel ∧ a.driverName = b.driverName ∧
      a.driverVersion = b.driverVersion ∧ a.health = b.health ∧ a.recoveryReady = b.recoveryReady ∧
      a.reasonCodes.Perm b.reasonCodes ∧ a.constraints.Perm b.constraints ∧ a.probedAt = b.probedAt ∧
      a.expiresAt = b.expiresAt
  | _, _ => False

/-! ## Their fields -/

def domain : Digested → String
  | approval _ => "AntiFlock-DriverApproval-v1"
  | reservation _ => "AntiFlock-DriverReservation-v1"
  | ownership _ => "AntiFlock-DriverOwnership-v1"
  | snapshot _ => "AntiFlock-DriverSnapshot-v1"
  | receipt _ => "AntiFlock-DriverReceipt-v1"
  | probe _ => "AntiFlock-DriverProbe-v1"

def fields : Digested → List (List UInt8)
  | approval a => [bytes a.planID, Sha256.beBytes 8 a.planRevision, bytes a.operationID, bytes a.target,
      bytes a.approverKind]
  | reservation key => [bytes key.planID, Sha256.beBytes 8 key.policyRevision, Sha256.beBytes 8 key.planRevision,
      bytes key.nonce, bytes key.fingerprint]
  | ownership b => [bytes b.planID, Sha256.beBytes 8 b.planRevision, bytes b.operationID, bytes b.target,
      bytes b.reservationToken]
  | snapshot s => [Sha256.beBytes 8 s.schemaVersion, bytes s.driverName, intWord s.scope.operationType.number] ++
      (counted ((s.scope.targets.insertionSort fun a b => ¬ b < a).map bytes) ++
        Sha256.beBytes 8 s.entries.length :: s.entries.flatMap fun entry => [bytes entry.key, bytes entry.value])
  | receipt r => [Sha256.beBytes 8 r.schemaVersion, Sha256.beBytes 8 r.kind.number, bytes r.planID,
      Sha256.beBytes 8 r.planRevision, bytes r.operationID, bytes r.target, bytes r.ownershipToken, bytes r.digest,
      bytes r.reasonCode] ++ timeWords r.at_
  | probe p => [Sha256.beBytes 8 p.schemaVersion, bytes p.key, intWord p.domain.number] ++
      (counted ((p.operations.insertionSort fun a b => a.number ≤ b.number).map fun operation => intWord operation.number) ++
      ([intWord p.supportLevel.number, bytes p.driverName, bytes p.driverVersion, Sha256.beBytes 8 p.health.number,
        Sha256.beBytes 8 (if p.recoveryReady then 1 else 0)] ++
      (counted ((p.reasonCodes.insertionSort fun a b => ¬ b < a).map bytes) ++
      (counted ((p.constraints.insertionSort fun a b => ¬ b < a).map bytes) ++
      (timeWords p.probedAt ++ timeWords p.expiresAt)))))

def text (x : Digested) : List UInt8 := lengthPrefixed (bytes x.domain :: x.fields)

def Valid : Digested → Prop
  | approval a => validIdentity a.planID a.planRevision a.operationID = true ∧ validIdentifier a.approverKind = true ∧
      validateTarget a.target = none
  | reservation key => key.validate = none
  | ownership _ => True
  | snapshot s => s.validate = none
  | receipt r => r.validate = none
  | probe p => p.validate = none

end Digested

/-! ## A digest is the SHA-256 of its fields -/

section Text
open DigestWriter Digested

theorem snapshot_digestValue (s : Snapshot) : s.digestValue = hexEncode (Sha256.sum256 (Digested.snapshot s).text) := by
  have hentry (w : DigestWriter) (entry : SnapshotEntry) : ((w.str entry.key).str entry.value).written =
      w.written ++ lengthPrefixed [bytes entry.key, bytes entry.value] := by
    rw [str_written, str_written, List.append_assoc, ← lengthPrefixed_append]
    rfl
  rw [Snapshot.digestValue, hex, foldl_written hentry]
  simp only [uint_written, strs_written, int_written, str_written, newDigest_written, ← lengthPrefixed_append, text,
    domain, fields]
  simp

theorem probe_digestValue (p : ProbeResult) : p.digestValue = hexEncode (Sha256.sum256 (Digested.probe p).text) := by
  rw [ProbeResult.digestValue, hex]
  simp only [uint_written, strs_written, int_written, str_written, time_written, newDigest_written,
    foldl_written_map fun w (operation : CapabilityOperation) => int_written w operation.number,
    ← lengthPrefixed_append, text, domain, fields]
  simp [counted]

theorem receipt_digestValue (r : Receipt) :
    r.contentDigestValue = hexEncode (Sha256.sum256 (Digested.receipt r).text) := by
  rw [Receipt.contentDigestValue, hex]
  simp only [uint_written, str_written, time_written, newDigest_written, ← lengthPrefixed_append, text, domain, fields]
  simp

theorem reservation_digestValue (key : ReservationKey) :
    key.digestValue = hexEncode (Sha256.sum256 (Digested.reservation key).text) := by
  rw [ReservationKey.digestValue, hex]
  simp only [uint_written, str_written, newDigest_written, ← lengthPrefixed_append, text, domain, fields]
  simp

theorem ownership_digestValue (b : OwnershipBinding) :
    ownershipTokenFor b.planID b.planRevision b.operationID b.target b.reservationToken =
      hexEncode (Sha256.sum256 (Digested.ownership b).text) := by
  rw [ownershipTokenFor, hex]
  simp only [uint_written, str_written, newDigest_written, ← lengthPrefixed_append, text, domain, fields]
  simp

theorem checked_eq_some {ε : Type} {check : Option ε} {outcome : Except ε String} {value d : String}
    (hfails : ∀ err, check = some err → outcome = .error err) (hpasses : check = none → outcome = .ok value) :
    outcome.toOption = some d ↔ check = none ∧ d = value := by
  cases hc : check with
  | some err => simp [hfails err hc, Except.toOption]
  | none => simp [hpasses hc, Except.toOption, eq_comm]

theorem approval_digest (a : Approval) {d : String} :
    (approvalDigest a.planID a.planRevision a.operationID a.target a.approverKind).toOption = some d ↔
      (Digested.approval a).Valid ∧ d = hexEncode (Sha256.sum256 (Digested.approval a).text) := by
  simp only [approvalDigest, hex, uint_written, str_written, newDigest_written, ← lengthPrefixed_append, text, domain,
    fields, Valid]
  split_ifs with hidentity
  · simp only [Bool.or_eq_true, Bool.not_eq_true'] at hidentity
    rcases hidentity with h | h
    · simp [h, Except.toOption]
    · simp [h, Except.toOption]
  · simp only [Bool.or_eq_true, Bool.not_eq_true', not_or, Bool.not_eq_false] at hidentity
    simp only [hidentity, true_and]
    exact checked_eq_some (fun err h => by simp only [h]) (fun h => by simp only [h]; rfl)

theorem digest_eq_some {x : Digested} {d : String} :
    x.digest = some d ↔ x.Valid ∧ d = hexEncode (Sha256.sum256 x.text) := by
  cases x with
  | approval a => exact approval_digest a
  | reservation key =>
    rw [← reservation_digestValue]
    exact checked_eq_some (fun err h => by simp only [ReservationKey.digest, h])
      (fun h => by simp only [ReservationKey.digest, h])
  | ownership b =>
    rw [← ownership_digestValue]
    simp [digest, Valid, eq_comm]
  | snapshot s =>
    rw [← snapshot_digestValue]
    exact checked_eq_some (fun err h => by simp only [Snapshot.digest, h])
      (fun h => by simp only [Snapshot.digest, h])
  | receipt r =>
    rw [← receipt_digestValue]
    exact checked_eq_some (fun err h => by simp only [Receipt.contentDigest, h])
      (fun h => by simp only [Receipt.contentDigest, h])
  | probe p =>
    rw [← probe_digestValue]
    exact checked_eq_some (fun err h => by simp only [ProbeResult.digest, h])
      (fun h => by simp only [ProbeResult.digest, h])

end Text

/-! ## Fields fit their lengths -/

theorem short_identifier {value : String} (h : validIdentifier value = true) : (bytes value).length < 256 ^ 4 := by
  simp only [validIdentifier, Bool.and_eq_true, Bool.not_eq_true', Bool.or_eq_false_iff, decide_eq_false_iff_not] at h
  exact (not_lt.mp h.1.1.2).trans_lt (by decide)

theorem short_target {value : String} (h : validateTarget value = none) : (bytes value).length < 256 ^ 4 := by
  simp only [validateTarget, check_eq_none, Bool.or_eq_true, decide_eq_true_eq, not_or] at h
  exact (not_lt.mp h.1.2).trans_lt (by decide)

theorem short_reasonCode {value : String} (h : validReasonCode value = true) : (bytes value).length < 256 ^ 4 := by
  simp only [validReasonCode, Bool.and_eq_true, decide_eq_true_eq] at h
  exact h.1.2.trans_lt (by decide)

theorem short_digest {value : String} (h : validDigest value = true) : (bytes value).length < 256 ^ 4 :=
  short_identifier (validIdentifier_of_validDigest h)

theorem short_key {value : String} (h : validKey value = true) : (bytes value).length < 256 ^ 4 := by
  simp only [validKey, Bool.and_eq_true, Bool.not_eq_true', Bool.or_eq_false_iff, decide_eq_false_iff_not] at h
  exact (not_lt.mp h.1.1.1.1.2).trans_lt (by decide)

theorem short_constraint {value : String} (h : ProbeResult.validConstraint value = true) :
    (bytes value).length < 256 ^ 4 := by
  simp only [ProbeResult.validConstraint, Bool.not_eq_true', Bool.or_eq_false_iff, decide_eq_false_iff_not] at h
  exact (not_lt.mp h.1.2).trans_lt (by decide)

theorem short_word (v : ℕ) : (Sha256.beBytes 8 v).length < 256 ^ 4 := by
  rw [Sha256.length_beBytes]
  omega

theorem short_intWord (v : ℤ) : (intWord v).length < 256 ^ 4 := short_word _

theorem short_timeWords (t : Time) : Short (timeWords t) :=
  .cons (short_intWord _) (.cons (short_intWord _) .nil)

theorem short_counted {α : Type} {before : α → α → Prop} [DecidableRel before] {items : List α} {field : α → List UInt8}
    (h : ∀ item ∈ items, (field item).length < 256 ^ 4) : Short (counted ((items.insertionSort before).map field)) := by
  refine .cons (short_word _) fun f hf => ?_
  obtain ⟨item, hitem, rfl⟩ := List.mem_map.mp hf
  exact h item ((List.mem_insertionSort before).mp hitem)

theorem Snapshot.short_entries {previous : Option String} {entries : List SnapshotEntry}
    (h : validateEntries previous entries = none) :
    Short (entries.flatMap fun entry => [bytes entry.key, bytes entry.value]) := by
  induction entries generalizing previous with
  | nil => exact .nil
  | cons entry rest ih =>
    rw [validateEntries] at h
    cases hkey : validateTarget entry.key with
    | some err => simp [hkey] at h
    | none =>
      rw [hkey] at h
      simp only [check_eq_none, Bool.or_eq_true, decide_eq_true_eq, not_or] at h
      have hvalue : (bytes entry.value).length < 256 ^ 4 := (not_lt.mp h.1.1).trans_lt (by decide)
      exact .cons (short_target hkey) (.cons hvalue (ih h.2.2))

theorem Scope.targets_valid {scope : Scope} (h : scope.validate = none) :
    scope.operationType.named = true ∧ scope.targets.length ≤ maxSnapshotEntries ∧
      ∀ target ∈ scope.targets, validateTarget target = none := by
  simp only [Scope.validate, check_eq_none, Bool.not_eq_true', Bool.not_eq_false, not_lt] at h
  obtain ⟨hnamed, hcount, htargets⟩ := h
  exact ⟨hnamed, hcount, List.forall_mem_map.mp (eq_none_of_firstError htargets)⟩

namespace Digested

theorem short_fields {x : Digested} (hvalid : x.Valid) (hx : x.Representable) : Short (bytes x.domain :: x.fields) := by
  refine .cons (by cases x <;> exact of_decide_eq_true rfl) ?_
  cases x with
  | approval a =>
    obtain ⟨hidentity, hkind, htarget⟩ := hvalid
    simp only [validIdentity, Bool.and_eq_true] at hidentity
    exact .cons (short_identifier hidentity.1.1) (.cons (short_word _) (.cons (short_identifier hidentity.2)
      (.cons (short_target htarget) (.cons (short_identifier hkind) .nil))))
  | reservation key =>
    have hvalid : key.validate = none := hvalid
    simp only [ReservationKey.validate, check_eq_none, Bool.not_eq_true', Bool.not_eq_false, Bool.or_eq_true, not_or] at hvalid
    obtain ⟨hplan, -, ⟨⟨hnonce, hfingerprint⟩, -⟩, -⟩ := hvalid
    exact .cons (short_identifier hplan) (.cons (short_word _) (.cons (short_word _) (.cons (short_identifier hnonce)
      (.cons (short_identifier hfingerprint) .nil))))
  | ownership b =>
    have htexts : ∀ text ∈ [b.planID, b.operationID, b.target, b.reservationToken], (bytes text).length < 256 ^ 4 := hx.2
    simp only [List.forall_mem_cons] at htexts
    obtain ⟨hplan, hoperation, htarget, htoken, -⟩ := htexts
    exact .cons hplan (.cons (short_word _) (.cons hoperation (.cons htarget (.cons htoken .nil))))
  | snapshot s =>
    obtain ⟨-, hname, hscope, -, hentries, -⟩ := Snapshot.validate_eq_none.mp hvalid
    obtain ⟨-, -, htargets⟩ := Scope.targets_valid hscope
    refine .append (.cons (short_word _) (.cons (short_identifier hname) (.cons (short_intWord _) .nil))) ?_
    exact .append (short_counted fun target ht => short_target (htargets target ht))
      (.cons (short_word _) (Snapshot.short_entries hentries))
  | receipt r =>
    obtain ⟨-, -, hidentity, htarget, htoken, hdigest, hcode, -⟩ := Receipt.validate_eq_none.mp hvalid
    simp only [validIdentity, Bool.and_eq_true] at hidentity
    have htarget : (bytes r.target).length < 256 ^ 4 := by
      rcases htarget with h | h
      · rw [h]
        decide
      · exact short_target h
    refine .append ?_ (short_timeWords _)
    exact .cons (short_word _) (.cons (short_word _) (.cons (short_identifier hidentity.1.1) (.cons (short_word _)
      (.cons (short_identifier hidentity.2) (.cons htarget (.cons (short_identifier htoken) (.cons (short_digest hdigest)
      (.cons (short_reasonCode hcode) .nil))))))))
  | probe p =>
    obtain ⟨-, hkey, -, -, -, ⟨hname, hversion⟩, -, ⟨-, hcodes⟩, -, hconstraints⟩ := ProbeResult.validate_eq_none hvalid
    refine .append (.cons (short_word _) (.cons (short_key hkey) (.cons (short_intWord _) .nil))) ?_
    refine .append (short_counted fun operation _ => short_intWord _) ?_
    refine .append (.cons (short_intWord _) (.cons (short_identifier hname) (.cons (short_identifier hversion)
      (.cons (short_word _) (.cons (short_word _) .nil))))) ?_
    refine .append (short_counted fun code hc => short_reasonCode (hcodes code hc)) ?_
    refine .append (short_counted fun constraint hc => short_constraint (hconstraints constraint hc)) ?_
    exact .append (short_timeWords _) (short_timeWords _)

end Digested

/-! ## Reading the fields back -/

theorem eq_of_intWord {α : Type} {number : α → ℤ} {named : α → Bool} (values : List α)
    (hvalues : ∀ c, named c = true → c ∈ values)
    (hnumbers : ∀ a ∈ values, ∀ b ∈ values, number a % 2 ^ 64 = number b % 2 ^ 64 → a = b) {a b : α}
    (ha : named a = true) (hb : named b = true) (h : intWord (number a) = intWord (number b)) : a = b :=
  hnumbers a (hvalues a ha) b (hvalues b hb) (intWord_mod h)

theorem PlanOperationType.eq_of_number {a b : PlanOperationType} :
    a.named = true → b.named = true → intWord a.number = intWord b.number → a = b :=
  eq_of_intWord [firewall, route, dns, mesh, service, exception, scramblerTransition, recovery]
    (fun c hc => by cases c <;> first | decide | cases hc) (by decide)

theorem CapabilityDomain.eq_of_number {a b : CapabilityDomain} :
    a.named = true → b.named = true → intWord a.number = intWord b.number → a = b :=
  eq_of_intWord [mesh, network, dns, flow, process, firewall, identity, certificate, notification, actionGate, scrambler]
    (fun c hc => by cases c <;> first | decide | cases hc) (by decide)

theorem CapabilitySupportLevel.eq_of_number {a b : CapabilitySupportLevel} :
    a.named = true → b.named = true → intWord a.number = intWord b.number → a = b :=
  eq_of_intWord [unsupported, partially, full, experimental]
    (fun c hc => by cases c <;> first | decide | cases hc) (by decide)

theorem CapabilityOperation.mem_values {a : CapabilityOperation} (h : a.named = true) :
    a ∈ [observe, enforce, verify, rollback] := by
  cases a <;> first | decide | cases h

theorem CapabilityOperation.eq_of_number {a b : CapabilityOperation} :
    a.named = true → b.named = true → intWord a.number = intWord b.number → a = b :=
  eq_of_intWord [observe, enforce, verify, rollback] (fun _ => mem_values) (by decide)

theorem HealthStatus.number_injective : Function.Injective HealthStatus.number := by
  intro a b h
  cases a <;> cases b <;> simp_all [number] <;> omega

theorem ReceiptKind.number_injective : Function.Injective ReceiptKind.number := by
  intro a b h
  cases a <;> cases b <;> first | rfl | cases h

theorem map_inj_on {α β : Type} {f : α → β} {as bs : List α} (hinj : ∀ a ∈ as, ∀ b ∈ bs, f a = f b → a = b)
    (h : as.map f = bs.map f) : as = bs := by
  induction as generalizing bs with
  | nil => exact (List.map_eq_nil_iff.mp h.symm).symm
  | cons a as ih =>
    cases bs with
    | nil => cases h
    | cons b bs =>
      obtain ⟨hhead, htail⟩ := List.cons.inj h
      rw [hinj a List.mem_cons_self b List.mem_cons_self hhead,
        ih (fun a ha b hb => hinj a (List.mem_cons_of_mem _ ha) b (List.mem_cons_of_mem _ hb)) htail]

theorem perm_of_counted {α : Type} {before : α → α → Prop} [DecidableRel before] {field : α → List UInt8}
    {as bs : List α} {rest rest' : List (List UInt8)} (ha : as.length < 256 ^ 8) (hb : bs.length < 256 ^ 8)
    (hinj : ∀ a ∈ as, ∀ b ∈ bs, field a = field b → a = b)
    (h : counted ((as.insertionSort before).map field) ++ rest = counted ((bs.insertionSort before).map field) ++ rest') :
    as.Perm bs ∧ rest = rest' := by
  obtain ⟨hsorted, hrest⟩ := counted_append_inj (by simpa using ha) (by simpa using hb) h
  have hsame : as.insertionSort before = bs.insertionSort before := by
    refine map_inj_on (fun a ha b hb => ?_) hsorted
    exact hinj a ((List.mem_insertionSort before).mp ha) b ((List.mem_insertionSort before).mp hb)
  exact ⟨(List.perm_insertionSort before as).symm.trans (hsame ▸ List.perm_insertionSort before bs), hrest⟩

theorem texts_perm {before : String → String → Prop} [DecidableRel before] {as bs : List String}
    {rest rest' : List (List UInt8)} (ha : as.length ≤ 4096) (hb : bs.length ≤ 4096)
    (h : counted ((as.insertionSort before).map bytes) ++ rest = counted ((bs.insertionSort before).map bytes) ++ rest') :
    as.Perm bs ∧ rest = rest' :=
  perm_of_counted (by omega) (by omega) (fun _ _ _ _ => (bytes_injective ·)) h

theorem pairs_inj {α : Type} {key value : α → String} {as bs : List α}
    (h : (as.flatMap fun item => [bytes (key item), bytes (value item)]) =
      bs.flatMap fun item => [bytes (key item), bytes (value item)]) :
    as.map (fun item => (key item, value item)) = bs.map fun item => (key item, value item) := by
  induction as generalizing bs with
  | nil =>
    cases bs with
    | nil => rfl
    | cons b bs => cases h
  | cons a as ih =>
    cases bs with
    | nil => cases h
    | cons b bs =>
      simp only [List.flatMap_cons, List.cons_append, List.nil_append, List.cons.injEq] at h
      obtain ⟨hkey, hvalue, hrest⟩ := h
      rw [List.map_cons, List.map_cons, bytes_injective hkey, bytes_injective hvalue, ih hrest]

theorem entries_inj {as bs : List SnapshotEntry} (h : (as.flatMap fun entry => [bytes entry.key, bytes entry.value]) =
    bs.flatMap fun entry => [bytes entry.key, bytes entry.value]) : as = bs := by
  refine map_inj_on (fun a _ b _ hab => ?_) (pairs_inj h)
  cases a
  cases b
  cases hab
  rfl

namespace Digested

theorem snapshot_agree {a b : Snapshot} (ha : a.validate = none) (hb : b.validate = none)
    (h : (snapshot a).fields = (snapshot b).fields) : Agree (snapshot a) (snapshot b) := by
  obtain ⟨hversion, -, hscope, -, -, -⟩ := Snapshot.validate_eq_none.mp ha
  obtain ⟨hversion', -, hscope', -, -, -⟩ := Snapshot.validate_eq_none.mp hb
  obtain ⟨hnamed, hcount, -⟩ := Scope.targets_valid hscope
  obtain ⟨hnamed', hcount', -⟩ := Scope.targets_valid hscope'
  simp only [fields, List.cons_append, List.nil_append, List.cons.injEq] at h
  obtain ⟨-, hname, htype, hrest⟩ := h
  obtain ⟨htargets, hrest⟩ := texts_perm hcount hcount' hrest
  exact ⟨hversion.trans hversion'.symm, bytes_injective hname, PlanOperationType.eq_of_number hnamed hnamed' htype,
    htargets, entries_inj (List.cons.inj hrest).2⟩

theorem receipt_agree {a b : Receipt} (ha : a.validate = none) (hb : b.validate = none)
    (har : (receipt a).Representable) (hbr : (receipt b).Representable)
    (h : (receipt a).fields = (receipt b).fields) : Agree (receipt a) (receipt b) := by
  obtain ⟨hversion, -⟩ := Receipt.validate_eq_none.mp ha
  obtain ⟨hversion', -⟩ := Receipt.validate_eq_none.mp hb
  simp only [fields, List.cons_append, List.nil_append, List.cons.injEq] at h
  obtain ⟨-, hkind, hplan, hrevision, hoperation, htarget, htoken, hdigest, hcode, htime⟩ := h
  have hnumber (kind : ReceiptKind) : kind.number < 2 ^ 64 := by cases kind <;> decide
  have hkind := ReceiptKind.number_injective (uint_inj (hnumber a.kind) (hnumber b.kind) hkind)
  have hrevision := uint_inj har.1 hbr.1 hrevision
  have htime := timeWords_inj har.2 hbr.2 htime
  cases a
  cases b
  simp only [Agree, Receipt.mk.injEq]
  exact ⟨hversion.trans hversion'.symm, hkind, bytes_injective hplan, hrevision, bytes_injective hoperation,
    bytes_injective htarget, bytes_injective htoken, bytes_injective hdigest, bytes_injective hcode, htime⟩

theorem probe_agree {a b : ProbeResult} (ha : a.validate = none) (hb : b.validate = none)
    (har : (probe a).Representable) (hbr : (probe b).Representable)
    (h : (probe a).fields = (probe b).fields) : Agree (probe a) (probe b) := by
  obtain ⟨hversion, -, hdomain, hoperations, hlevel, -, hhealth, ⟨hcodes, -⟩, hconstraints, -⟩ :=
    ProbeResult.validate_eq_none ha
  obtain ⟨hversion', -, hdomain', hoperations', hlevel', -, hhealth', ⟨hcodes', -⟩, hconstraints', -⟩ :=
    ProbeResult.validate_eq_none hb
  have hfew {p : ProbeResult} (hp : ProbeResult.validateOperations [] p.operations = none) :
      p.operations.length < 256 ^ 8 ∧ ∀ operation ∈ p.operations, operation.named = true := by
    obtain ⟨hnodup, hnamed⟩ := ProbeResult.validateOperations_eq_none hp
    have hsubset := List.subperm_of_subset hnodup fun operation hmem => CapabilityOperation.mem_values (hnamed operation hmem).1
    exact ⟨hsubset.length_le.trans_lt (by decide), fun operation hmem => (hnamed operation hmem).1⟩
  have hready : (if a.recoveryReady then 1 else 0) < 2 ^ 64 ∧ (if b.recoveryReady then 1 else 0) < 2 ^ 64 := by
    constructor <;> split <;> decide
  have hstatus : HealthStatus.unavailable.number < 2 ^ 64 := by decide
  simp only [fields, List.cons_append, List.nil_append, List.cons.injEq] at h
  obtain ⟨-, hkey, hnumber, hrest⟩ := h
  obtain ⟨hsame, hrest⟩ := perm_of_counted (hfew hoperations).1 (hfew hoperations').1
    (fun _ hm _ hm' => CapabilityOperation.eq_of_number ((hfew hoperations).2 _ hm) ((hfew hoperations').2 _ hm')) hrest
  simp only [List.cons.injEq] at hrest
  obtain ⟨hsupport, hname, hversions, hwell, hrecovery, hrest⟩ := hrest
  obtain ⟨hcode, hrest⟩ := texts_perm (hcodes.trans (by decide)) (hcodes'.trans (by decide)) hrest
  obtain ⟨hconstraint, hrest⟩ := texts_perm (hconstraints.trans (by decide)) (hconstraints'.trans (by decide)) hrest
  obtain ⟨hprobed, hexpires⟩ := List.append_inj hrest rfl
  have hrecovery := uint_inj hready.1 hready.2 hrecovery
  refine ⟨hversion.trans hversion'.symm, bytes_injective hkey, CapabilityDomain.eq_of_number hdomain hdomain' hnumber, hsame,
    CapabilitySupportLevel.eq_of_number hlevel hlevel' hsupport, bytes_injective hname, bytes_injective hversions, ?_, ?_,
    hcode, hconstraint, timeWords_inj har.1 hbr.1 hprobed, timeWords_inj har.2 hbr.2 hexpires⟩
  · exact HealthStatus.number_injective (uint_inj (hhealth.trans_lt hstatus) (hhealth'.trans_lt hstatus) hwell)
  · cases ha : a.recoveryReady <;> cases hb : b.recoveryReady <;> simp_all

theorem agree_of_fields {x y : Digested} (hx : x.Valid) (hy : y.Valid) (hxr : x.Representable) (hyr : y.Representable)
    (hdomain : x.domain = y.domain) (h : x.fields = y.fields) : Agree x y := by
  cases x <;> cases y
  case approval.approval a b =>
    simp only [fields, List.cons.injEq, and_true] at h
    obtain ⟨hplan, hrevision, hoperation, htarget, hkind⟩ := h
    exact ⟨bytes_injective hplan, uint_inj hxr hyr hrevision, bytes_injective hoperation, bytes_injective htarget,
      bytes_injective hkind⟩
  case reservation.reservation a b =>
    simp only [fields, List.cons.injEq, and_true] at h
    obtain ⟨hplan, hpolicy, hrevision, hnonce, hfingerprint⟩ := h
    have hpolicy := uint_inj hxr.1 hyr.1 hpolicy
    have hrevision := uint_inj hxr.2 hyr.2 hrevision
    cases a
    cases b
    simp only [Agree, ReservationKey.mk.injEq]
    exact ⟨bytes_injective hplan, hpolicy, hrevision, bytes_injective hnonce, bytes_injective hfingerprint⟩
  case ownership.ownership a b =>
    simp only [fields, List.cons.injEq, and_true] at h
    obtain ⟨hplan, hrevision, hoperation, htarget, htoken⟩ := h
    have hrevision := uint_inj hxr.1 hyr.1 hrevision
    cases a
    cases b
    simp only [Agree, OwnershipBinding.mk.injEq]
    exact ⟨bytes_injective hplan, hrevision, bytes_injective hoperation, bytes_injective htarget, bytes_injective htoken⟩
  case snapshot.snapshot a b => exact snapshot_agree hx hy h
  case receipt.receipt a b => exact receipt_agree hx hy hxr hyr h
  case probe.probe a b => exact probe_agree hx hy hxr hyr h
  all_goals
    simp only [domain] at hdomain
    exact absurd hdomain (by decide)

def NoCollision (x y : Digested) : Prop := Sha256.sum256 x.text = Sha256.sum256 y.text → x.text = y.text

/-- Values with one digest are of one kind and agree in every digested field. -/
theorem digest_binds {x y : Digested} {d : String} (hx : x.digest = some d) (hy : y.digest = some d)
    (hxr : x.Representable) (hyr : y.Representable) (hcollision : NoCollision x y) : Agree x y := by
  obtain ⟨hxv, hxd⟩ := digest_eq_some.mp hx
  obtain ⟨hyv, hyd⟩ := digest_eq_some.mp hy
  have htext : x.text = y.text := hcollision (hexEncode_inj (hxd.symm.trans hyd))
  have hfields := lengthPrefixed_injOn (short_fields hxv hxr) (short_fields hyv hyr) htext
  obtain ⟨hdomain, hrest⟩ := List.cons.inj hfields
  exact agree_of_fields hxv hyv hxr hyr (bytes_injective hdomain) hrest

def sampleSnapshot (targets : List String) : Snapshot :=
  ⟨contractVersion, "memory", ⟨.firewall, targets⟩, [⟨"tcp/22", "allow"⟩], 1⟩

theorem digest_binds_sample :
    ∃ d, (snapshot (sampleSnapshot ["tcp/22", "tcp/80"])).digest = some d ∧
      (snapshot (sampleSnapshot ["tcp/80", "tcp/22"])).digest = some d ∧
      Agree (snapshot (sampleSnapshot ["tcp/22", "tcp/80"])) (snapshot (sampleSnapshot ["tcp/80", "tcp/22"])) := by
  have htext : (snapshot (sampleSnapshot ["tcp/22", "tcp/80"])).text =
      (snapshot (sampleSnapshot ["tcp/80", "tcp/22"])).text := by
    decide
  have hvalid : (sampleSnapshot ["tcp/22", "tcp/80"]).validate = none := by decide
  have hvalid' : (sampleSnapshot ["tcp/80", "tcp/22"]).validate = none := by decide
  have hx := digest_eq_some (x := snapshot (sampleSnapshot ["tcp/22", "tcp/80"])) |>.mpr ⟨hvalid, rfl⟩
  have hy := digest_eq_some (x := snapshot (sampleSnapshot ["tcp/80", "tcp/22"])) |>.mpr
    ⟨hvalid', congrArg (hexEncode ∘ Sha256.sum256) htext⟩
  exact ⟨_, hx, hy, digest_binds hx hy trivial trivial fun _ => htext⟩

end Digested

end AntiFlock.Driver
