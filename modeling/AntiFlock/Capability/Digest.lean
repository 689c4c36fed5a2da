import AntiFlock.Capability.Manifest
import AntiFlock.Capability.Readiness
import AntiFlock.Driver.Digests
import AntiFlock.Go.Sorting
import Mathlib.Data.List.Perm.Basic

set_option autoImplicit false

/-!
# What the digest of a manifest binds

The digest of a manifest covers its fields and, for each entry, the key and the
digest of the report. Both levels sort what they write, so that the order of
entries and of the lists inside them is all that two manifests with one digest may
differ in.
-/
namespace AntiFlock

/-! ## Reports -/

namespace Driver
open AntiFlock.Go

theorem CapabilityOperation.number_injective : Function.Injective CapabilityOperation.number := by
  intro a b h
  rw [← ofNumber_number a, h, ofNumber_number b]

/-- Two reports that differ in the order of their lists. -/
structure ProbeResult.Rearranged (a b : ProbeResult) : Prop where
  operations : a.operations.Perm b.operations
  reasonCodes : a.reasonCodes.Perm b.reasonCodes
  constraints : a.constraints.Perm b.constraints
  rest : b = { a with operations := b.operations, reasonCodes := b.reasonCodes, constraints := b.constraints }

namespace ProbeResult

theorem validateOperations_iff {seen operations : List CapabilityOperation} :
    validateOperations seen operations = none ↔
      operations.Nodup ∧ ∀ operation ∈ operations, operation.named = true ∧ operation ∉ seen := by
  refine ⟨validateOperations_eq_none, fun h => ?_⟩
  induction operations generalizing seen with
  | nil => rfl
  | cons operation rest ih =>
    obtain ⟨hnodup, hnamed⟩ := h
    obtain ⟨hfresh, hnodup⟩ := List.nodup_cons.mp hnodup
    obtain ⟨⟨hname, hseen⟩, hrest⟩ := List.forall_mem_cons.mp hnamed
    rw [validateOperations, hname, if_neg (by simp), if_neg hseen]
    refine ih ⟨hnodup, fun other hother => ⟨(hrest other hother).1, ?_⟩⟩
    rintro (_ | ⟨_, hmem⟩)
    · exact hfresh hother
    · exact (hrest other hother).2 hmem

theorem Rearranged.validate {a b : ProbeResult} (h : a.Rearranged b) (ha : a.validate = none) : b.validate = none := by
  have hoperations : validateOperations [] a.operations = none := (validate_eq_none ha).2.2.2.1
  have hoperations' : validateOperations [] b.operations = none := by
    rw [validateOperations_iff] at hoperations ⊢
    exact ⟨h.operations.nodup_iff.mp hoperations.1, fun operation hmem =>
      hoperations.2 operation (h.operations.mem_iff.mpr hmem)⟩
  unfold ProbeResult.validate at ha ⊢
  rw [hoperations] at ha
  rw [hoperations', h.rest]
  simp only [← h.operations.length_eq, ← h.reasonCodes.length_eq, ← h.constraints.length_eq,
    ← h.reasonCodes.any_eq, ← h.constraints.any_eq]
  exact ha

theorem Rearranged.text {a b : ProbeResult} (h : a.Rearranged b) : (Digested.probe b).text = (Digested.probe a).text := by
  have htotal : Std.Total fun a b : CapabilityOperation => a.number ≤ b.number := ⟨fun a b => le_total _ _⟩
  have htrans : IsTrans CapabilityOperation fun a b => a.number ≤ b.number := ⟨fun _ _ _ => le_trans⟩
  have hoperations : (a.operations.insertionSort fun a b => a.number ≤ b.number) =
      b.operations.insertionSort fun a b => a.number ≤ b.number :=
    insertionSort_eq_of_perm (fun _ _ _ _ hab hba => CapabilityOperation.number_injective (le_antisymm hab hba)) h.operations
  rw [h.rest]
  simp only [Digested.text, Digested.domain, Digested.fields, hoperations, insertionSort_eq h.reasonCodes,
    insertionSort_eq h.constraints]

theorem Rearranged.digestValue {a b : ProbeResult} (h : a.Rearranged b) : b.digestValue = a.digestValue := by
  rw [probe_digestValue, probe_digestValue, h.text]

theorem rearranged_of_digestValue {a b : ProbeResult} (ha : a.validate = none) (hb : b.validate = none)
    (har : (Digested.probe a).Representable) (hbr : (Digested.probe b).Representable)
    (hcollision : Digested.NoCollision (.probe a) (.probe b)) (h : a.digestValue = b.digestValue) : a.Rearranged b := by
  rw [probe_digestValue, probe_digestValue] at h
  have htext := hcollision (hexEncode_inj h)
  have hfields := lengthPrefixed_injOn (Digested.short_fields (x := .probe a) ha har)
    (Digested.short_fields (x := .probe b) hb hbr) htext
  obtain ⟨hversion, hkey, hdomain, hoperations, hlevel, hname, hdriver, hhealth, hready, hcodes, hconstraints, hprobed,
    hexpires⟩ := Digested.probe_agree ha hb har hbr (List.cons.inj hfields).2
  refine ⟨hoperations, hcodes, hconstraints, ?_⟩
  rw [hversion, hkey, hdomain, hlevel, hname, hdriver, hhealth, hready, hprobed, hexpires]

end ProbeResult
end Driver

namespace Capability
open AntiFlock.Go AntiFlock.Driver

/-! ## Entries -/

/-- Two entries that differ in the order of their lists. -/
structure Entry.Rearranged (a b : Entry) : Prop where
  operations : a.operations.Perm b.operations
  reasonCodes : a.reasonCodes.Perm b.reasonCodes
  constraints : a.constraints.Perm b.constraints
  rest : b = { a with operations := b.operations, reasonCodes := b.reasonCodes, constraints := b.constraints }

namespace Entry

theorem Rearranged.probe {a b : Entry} (h : a.Rearranged b) : a.probe.Rearranged b.probe := by
  refine ⟨h.operations.map _, h.reasonCodes, h.constraints, ?_⟩
  rw [h.rest]
  rfl

theorem Rearranged.validate {a b : Entry} (h : a.Rearranged b) (ha : a.validate = none) : b.validate = none := by
  rw [entry_validate_eq_none] at ha ⊢
  have hdigest : b.probeDigest = a.probeDigest := by rw [h.rest]
  rw [hdigest, h.probe.digestValue]
  exact ⟨h.probe.validate ha.1, ha.2⟩

theorem rearranged_of_probe {a b : Entry} (hdigest : a.probeDigest = b.probeDigest) (h : a.probe.Rearranged b.probe) :
    a.Rearranged b := by
  have hnumbers (entry : Entry) : entry.probe.operations.map CapabilityOperation.number = entry.operations := by
    simp [Entry.probe, Function.comp_def, CapabilityOperation.number_ofNumber]
  have hoperations := h.operations.map CapabilityOperation.number
  rw [hnumbers, hnumbers] at hoperations
  refine ⟨hoperations, h.reasonCodes, h.constraints, ?_⟩
  have hrest := h.rest
  rcases a with ⟨version, key, domain, operations, level, name, driver, health, ready, codes, constraints, probed, expires, digest⟩
  rcases b with ⟨version', key', domain', operations', level', name', driver', health', ready', codes', constraints', probed',
    expires', digest'⟩
  simp only [Entry.probe, ProbeResult.mk.injEq, true_and] at hrest
  obtain ⟨rfl, rfl, hdomain, hlevel, rfl, rfl, hhealth, rfl, rfl, rfl⟩ := hrest
  have hdomain := congrArg CapabilityDomain.number hdomain
  have hlevel := congrArg CapabilitySupportLevel.number hlevel
  have hhealth := congrArg HealthStatus.number hhealth
  rw [CapabilityDomain.number_ofNumber, CapabilityDomain.number_ofNumber] at hdomain
  rw [CapabilitySupportLevel.number_ofNumber, CapabilitySupportLevel.number_ofNumber] at hlevel
  rw [HealthStatus.number_ofNumber, HealthStatus.number_ofNumber] at hhealth
  cases hdigest
  rw [hdomain, hlevel, hhealth]

end Entry

/-! ## Manifests -/

namespace Manifest

/-- Two manifests that differ in the order of their entries and of the lists inside these, signatures apart. -/
structure Rearranged (m m' : Manifest) : Prop where
  entries : ∃ entries, m.capabilities.Perm entries ∧ entries.Forall₂ Entry.Rearranged m'.capabilities
  rest : m' = { m with capabilities := m'.capabilities, signature := m'.signature }

def summary (entry : Entry) : String × String := (entry.key, entry.probeDigest)

def fields (m : Manifest) : List (List UInt8) :=
  [Sha256.beBytes 8 m.schemaVersion, bytes m.nodeID, Sha256.beBytes 8 m.revision] ++
    (timeWords m.issuedAt ++ (timeWords m.expiresAt ++ ([bytes m.policyKeyID, bytes m.attestationRef,
      Sha256.beBytes 8 (sorted m.capabilities).length] ++
      (sorted m.capabilities).flatMap fun entry => [bytes entry.key, bytes entry.probeDigest])))

theorem digestWriter_written (m : Manifest) :
    m.digestWriter.written = lengthPrefixed (bytes digestDomain :: m.fields) := by
  have hentry (w : DigestWriter) (entry : Entry) : ((w.str entry.key).str entry.probeDigest).written =
      w.written ++ lengthPrefixed [bytes entry.key, bytes entry.probeDigest] := by
    rw [DigestWriter.str_written, DigestWriter.str_written, List.append_assoc, ← lengthPrefixed_append]
    rfl
  rw [digestWriter, DigestWriter.foldl_written hentry]
  simp only [DigestWriter.uint_written, DigestWriter.str_written, DigestWriter.time_written, newDigest_written,
    ← lengthPrefixed_append, fields]
  simp

theorem sorted_perm (entries : List Entry) : (sorted entries).Perm entries := List.perm_insertionSort _ entries

theorem map_summary_sorted (entries : List Entry) : (sorted entries).map summary =
    (entries.map summary).insertionSort fun a b => ¬ b.1 < a.1 :=
  List.map_insertionSort _ _ _ _ fun _ _ _ _ => Iff.rfl

theorem map_eq_of_forall₂ {α β : Type} {related : α → α → Prop} {f : α → β} (hf : ∀ a b, related a b → f a = f b)
    {as bs : List α} (h : List.Forall₂ related as bs) : as.map f = bs.map f := by
  induction h with
  | nil => rfl
  | cons hab _ ih => rw [List.map_cons, List.map_cons, hf _ _ hab, ih]

theorem Rearranged.summaries {m m' : Manifest} (h : m.Rearranged m') :
    (m.capabilities.map summary).Perm (m'.capabilities.map summary) := by
  obtain ⟨entries, hperm, hentries⟩ := h.entries
  rw [← map_eq_of_forall₂ (f := summary) (fun a b hab => ?_) hentries]
  · exact hperm.map summary
  · rw [hab.rest]
    rfl

theorem Rearranged.entry {m m' : Manifest} (h : m.Rearranged m') {entry : Entry} (hentry : entry ∈ m'.capabilities) :
    ∃ original ∈ m.capabilities, original.Rearranged entry := by
  obtain ⟨entries, hperm, hentries⟩ := h.entries
  obtain ⟨i, hi, rfl⟩ := List.getElem_of_mem hentry
  have hi' : i < entries.length := hentries.length_eq ▸ hi
  exact ⟨entries[i], hperm.mem_iff.mpr (List.getElem_mem hi'), hentries.get hi' hi⟩

theorem map_key (entries : List Entry) : entries.map Entry.key = (entries.map summary).map Prod.fst := by
  rw [List.map_map]
  rfl

theorem Rearranged.validate {m m' : Manifest} (h : m.Rearranged m') (hsignature : m'.signature = m.signature)
    (hm : m.validate = none) : m'.validate = none := by
  obtain ⟨hframed, hcount, hentries, hnodup⟩ := validate_eq_none.mp hm
  have hkeys := h.summaries.map Prod.fst
  rw [← map_key, ← map_key] at hkeys
  have hlength : m.capabilities.length = m'.capabilities.length := by simpa using hkeys.length_eq
  have hrest := h.rest
  rw [hsignature] at hrest
  have hexpires : m'.expiresAt = m.expiresAt := by rw [hrest]
  have hframed' : m'.Framed := by
    rw [hrest]
    exact ⟨hframed.version, hframed.node, hframed.revision, hframed.times, hframed.ordered, hframed.validity, hframed.tail⟩
  refine validate_eq_none.mpr ⟨hframed', hlength ▸ hcount, fun entry hentry => ?_, hkeys.nodup_iff.mp hnodup⟩
  obtain ⟨original, horiginal, hrearranged⟩ := h.entry hentry
  have htime : entry.expiresAt = original.expiresAt := by rw [hrearranged.rest]
  rw [htime, hexpires]
  exact ⟨hrearranged.validate (hentries original horiginal).1, (hentries original horiginal).2⟩

theorem Rearranged.written {m m' : Manifest} (h : m.Rearranged m') (hnodup : (m.capabilities.map Entry.key).Nodup) :
    m'.digestWriter.written = m.digestWriter.written := by
  have hsummaries : (sorted m.capabilities).map summary = (sorted m'.capabilities).map summary := by
    rw [map_summary_sorted, map_summary_sorted]
    rw [map_key] at hnodup
    exact insertionSort_byKey_eq (fun a ha b hb hab => List.inj_on_of_nodup_map hnodup ha hb hab) h.summaries
  have hpairs (entries : List Entry) : (entries.flatMap fun entry => [bytes entry.key, bytes entry.probeDigest]) =
      (entries.map summary).flatMap fun pair => [bytes pair.1, bytes pair.2] := by
    rw [List.flatMap_map]
    rfl
  have hlength := congrArg List.length hsummaries
  rw [List.length_map, List.length_map] at hlength
  rw [digestWriter_written, digestWriter_written, fields, fields, hpairs, hpairs, hsummaries, hlength, h.rest]

/-! ## Reading a manifest back -/

/-- The ranges of the machine integers and times in a manifest. -/
structure Representable (m : Manifest) : Prop where
  revision : m.revision < 2 ^ 64
  issuedAt : InSeconds m.issuedAt
  expiresAt : InSeconds m.expiresAt
  entries : ∀ entry ∈ m.capabilities, InSeconds entry.probedAt ∧ InSeconds entry.expiresAt

/-- Neither the hashed texts of the manifests nor those of two reports with one key are a SHA-256 collision. -/
structure NoCollision (m m' : Manifest) : Prop where
  manifest : Sha256.sum256 m.digestWriter.written = Sha256.sum256 m'.digestWriter.written →
    m.digestWriter.written = m'.digestWriter.written
  entries : ∀ entry ∈ m.capabilities, ∀ entry' ∈ m'.capabilities, entry.key = entry'.key →
    Digested.NoCollision (.probe entry.probe) (.probe entry'.probe)

theorem short_boundedIdentifier {value : String} {maximum : ℕ} (hmaximum : maximum < 256 ^ 4)
    (h : Capability.validIdentifier value maximum = true) : (bytes value).length < 256 ^ 4 := by
  simp only [Capability.validIdentifier, Bool.and_eq_true, Bool.not_eq_true', Bool.or_eq_false_iff,
    decide_eq_false_iff_not] at h
  exact (not_lt.mp h.1.1.2).trans_lt hmaximum

theorem short_tail {m : Manifest} (h : m.validateTail = none) :
    (bytes m.policyKeyID).length < 256 ^ 4 ∧ (bytes m.attestationRef).length < 256 ^ 4 := by
  simp only [validateTail, check_eq_none, Bool.not_eq_true', Bool.not_eq_false, not_and_or, not_or, not_not, ne_eq,
    not_lt] at h
  obtain ⟨hpolicy, hattestation, -⟩ := h
  refine ⟨short_boundedIdentifier (by decide) hpolicy, ?_⟩
  rcases hattestation with h | ⟨h, -⟩
  · rw [h]
    decide
  · exact h.trans_lt (by decide)

theorem short_entries {entries : List Entry} (h : ∀ entry ∈ entries, entry.validate = none) :
    Short ((sorted entries).flatMap fun entry => [bytes entry.key, bytes entry.probeDigest]) := by
  intro field hfield
  obtain ⟨entry, hentry, hfield⟩ := List.mem_flatMap.mp hfield
  obtain ⟨hvalid, hdigest⟩ := entry_validate_eq_none.mp (h entry ((sorted_perm entries).mem_iff.mp hentry))
  simp only [List.mem_cons, List.not_mem_nil, or_false] at hfield
  rcases hfield with rfl | rfl
  · exact short_key (ProbeResult.validate_eq_none hvalid).2.1
  · rw [hdigest, ProbeResult.digestValue]
    exact short_digest (validDigest_hex _)

theorem short_fields {m : Manifest} (h : m.validate = none) : Short (bytes digestDomain :: m.fields) := by
  obtain ⟨hframed, -, hentries, -⟩ := validate_eq_none.mp h
  obtain ⟨hpolicy, hattestation⟩ := short_tail hframed.tail
  refine .cons (by decide) (.append (.cons (short_word _) (.cons (short_boundedIdentifier (by decide) hframed.node)
    (.cons (short_word _) .nil))) ?_)
  refine .append (short_timeWords _) (.append (short_timeWords _) (.append ?_ (short_entries fun e he => (hentries e he).1)))
  exact .cons hpolicy (.cons hattestation (.cons (short_word _) .nil))

theorem rearranged_of_summary {m m' : Manifest} (hm : m.validate = none) (hm' : m'.validate = none) (hr : m.Representable)
    (hr' : m'.Representable) (hcollision : NoCollision m m') {a b : Entry} (ha : a ∈ m.capabilities)
    (hb : b ∈ m'.capabilities) (h : summary a = summary b) : a.Rearranged b := by
  obtain ⟨hkey, hdigest⟩ := Prod.mk.inj h
  obtain ⟨-, -, hentries, -⟩ := validate_eq_none.mp hm
  obtain ⟨-, -, hentries', -⟩ := validate_eq_none.mp hm'
  obtain ⟨hvalid, hvalue⟩ := entry_validate_eq_none.mp (hentries a ha).1
  obtain ⟨hvalid', hvalue'⟩ := entry_validate_eq_none.mp (hentries' b hb).1
  refine Entry.rearranged_of_probe hdigest ?_
  exact ProbeResult.rearranged_of_digestValue hvalid hvalid' (hr.entries a ha) (hr'.entries b hb)
    (hcollision.entries a ha b hb hkey) (hvalue.symm.trans (hdigest.trans hvalue'))

theorem forall₂_of_map_eq {α β : Type} {f : α → β} {related : α → α → Prop} {as bs : List α}
    (hrelated : ∀ a ∈ as, ∀ b ∈ bs, f a = f b → related a b) (h : as.map f = bs.map f) : List.Forall₂ related as bs := by
  induction as generalizing bs with
  | nil =>
    rw [List.map_eq_nil_iff.mp h.symm]
    exact .nil
  | cons a as ih =>
    cases bs with
    | nil => cases h
    | cons b bs =>
      obtain ⟨hhead, htail⟩ := List.cons.inj h
      exact .cons (hrelated a List.mem_cons_self b List.mem_cons_self hhead)
        (ih (fun a ha b hb => hrelated a (List.mem_cons_of_mem _ ha) b (List.mem_cons_of_mem _ hb)) htail)

theorem rearranged_of_written {m m' : Manifest} (hm : m.validate = none) (hm' : m'.validate = none) (hr : m.Representable)
    (hr' : m'.Representable) (hcollision : NoCollision m m') (h : m.digestWriter.written = m'.digestWriter.written) :
    m.Rearranged m' := by
  rw [digestWriter_written, digestWriter_written] at h
  have hfields := (List.cons.inj (lengthPrefixed_injOn (short_fields hm) (short_fields hm') h)).2
  simp only [fields, List.cons_append, List.nil_append, List.cons.injEq] at hfields
  obtain ⟨-, hnode, hrevision, hrest⟩ := hfields
  obtain ⟨hissued, hrest⟩ := List.append_inj hrest rfl
  obtain ⟨hexpires, hrest⟩ := List.append_inj hrest rfl
  simp only [List.cons.injEq] at hrest
  obtain ⟨hpolicy, hattestation, -, hentries⟩ := hrest
  have hversion : m.schemaVersion = m'.schemaVersion :=
    (validate_eq_none.mp hm).1.version.trans (validate_eq_none.mp hm').1.version.symm
  refine ⟨?_, ?_⟩
  · -- the sorted entries correspond one by one, and sorting only permutes
    have hsorted : List.Forall₂ Entry.Rearranged (sorted m.capabilities) (sorted m'.capabilities) := by
      refine forall₂_of_map_eq (f := summary) (fun a ha b hb hab => ?_) (pairs_inj hentries)
      exact rearranged_of_summary hm hm' hr hr' hcollision ((sorted_perm _).mem_iff.mp ha) ((sorted_perm _).mem_iff.mp hb) hab
    have hcomp : Relation.Comp (List.Forall₂ Entry.Rearranged) List.Perm (sorted m.capabilities) m'.capabilities :=
      ⟨_, hsorted, sorted_perm _⟩
    rw [List.forall₂_comp_perm_eq_perm_comp_forall₂] at hcomp
    obtain ⟨entries, hperm, hentries⟩ := hcomp
    exact ⟨entries, (sorted_perm _).symm.trans hperm, hentries⟩
  · have hrevision := uint_inj hr.revision hr'.revision hrevision
    have hissued := timeWords_inj hr.issuedAt hr'.issuedAt hissued
    have hexpires := timeWords_inj hr.expiresAt hr'.expiresAt hexpires
    rw [hversion, bytes_injective hnode, hrevision, hissued, hexpires, bytes_injective hpolicy,
      bytes_injective hattestation]

theorem digest_of_valid {m : Manifest} (h : m.validate = none) :
    m.digest = .ok (Sha256.sum256 m.digestWriter.written) := by
  rw [digest, h]

/-- A valid manifest keeps its digest when entries and the lists inside them change their order, and two valid
manifests with one digest differ in nothing else that is digested. -/
theorem digest_rearranged {m : Manifest} (hm : m.validate = none) (m' : Manifest) :
    (m.Rearranged m' → m'.signature = m.signature → m'.digest = m.digest) ∧
      (m'.validate = none → m.Representable → m'.Representable → NoCollision m m' → m'.digest = m.digest →
        m.Rearranged m') := by
  constructor
  · intro hrearranged hsignature
    obtain ⟨-, -, -, hnodup⟩ := validate_eq_none.mp hm
    rw [digest_of_valid hm, digest_of_valid (hrearranged.validate hsignature hm), hrearranged.written hnodup]
  · intro hm' hr hr' hcollision hdigest
    rw [digest_of_valid hm, digest_of_valid hm', Except.ok.injEq] at hdigest
    exact rearranged_of_written hm hm' hr hr' hcollision (hcollision.manifest hdigest.symm)

/-! ## Two orders of one manifest -/

def dnsProbe (operations : List CapabilityOperation) : ProbeResult :=
  ⟨1, "dns.protected.enforce", .dns, operations, .full, "resolver", "1.0", .healthy, true, ["AF-DRIVER-OK"], [], 1000, 3000⟩

/-- The entry of the resolver, with its operations in some order. -/
def dnsEntry (operations : List CapabilityOperation) : Entry :=
  .ofProbe (dnsProbe operations) (dnsProbe [.enforce, .verify]).digestValue

def firewallEntry : Entry := .ofProbe firewallProbe firewallProbe.digestValue

def withEntries (entries : List Entry) : Manifest := { sampleManifest with capabilities := entries }

theorem dnsEntry_rearranged : (dnsEntry [.enforce, .verify]).Rearranged (dnsEntry [.verify, .enforce]) :=
  ⟨List.Perm.swap _ _ _, .refl _, .refl _, rfl⟩

theorem withEntries_valid : (withEntries [firewallEntry, dnsEntry [.enforce, .verify]]).validate = none := by
  obtain ⟨hframed, -, hentries, -⟩ := validate_eq_none.mp sampleManifest_valid
  have hdns : (dnsEntry [.enforce, .verify]).validate = none := by
    rw [entry_validate_eq_none, dnsEntry, probe_ofProbe]
    exact ⟨by decide, rfl⟩
  refine validate_eq_none.mpr ⟨⟨hframed.version, hframed.node, hframed.revision, hframed.times, hframed.ordered,
    hframed.validity, hframed.tail⟩, by decide, ?_, by decide⟩
  refine List.forall_mem_cons.mpr ⟨hentries _ List.mem_cons_self, List.forall_mem_singleton.mpr ⟨hdns, by decide⟩⟩

theorem withEntries_rearranged : (withEntries [firewallEntry, dnsEntry [.enforce, .verify]]).Rearranged
    (withEntries [dnsEntry [.verify, .enforce], firewallEntry]) :=
  ⟨⟨_, List.Perm.swap _ _ _, .cons dnsEntry_rearranged (.cons ⟨.refl _, .refl _, .refl _, rfl⟩ .nil)⟩, rfl⟩

theorem withEntries_representable (operations : List CapabilityOperation) {entries : List Entry}
    (h : ∀ entry ∈ entries, entry = firewallEntry ∨ entry = dnsEntry operations) : (withEntries entries).Representable := by
  have htimes : InSeconds 1000 ∧ InSeconds 2000 ∧ InSeconds 3000 := by
    simp only [InSeconds]
    decide
  refine ⟨by simp only [withEntries, sampleManifest]; decide, htimes.1, htimes.2.1, fun entry hentry => ?_⟩
  rcases h entry hentry with rfl | rfl
  · exact ⟨htimes.1, htimes.2.2⟩
  · exact ⟨htimes.1, htimes.2.2⟩

theorem withEntries_noCollision : NoCollision (withEntries [firewallEntry, dnsEntry [.enforce, .verify]])
    (withEntries [dnsEntry [.verify, .enforce], firewallEntry]) := by
  refine ⟨fun _ => (withEntries_rearranged.written (validate_eq_none.mp withEntries_valid).2.2.2).symm, ?_⟩
  have hdiffer : firewallEntry.key ≠ "dns.protected.enforce" := by decide
  refine List.forall_mem_cons.mpr ⟨?_, List.forall_mem_singleton.mpr ?_⟩
  · refine List.forall_mem_cons.mpr ⟨fun hkey => absurd hkey hdiffer, List.forall_mem_singleton.mpr fun _ _ => rfl⟩
  · refine List.forall_mem_cons.mpr ⟨fun _ _ => ?_, List.forall_mem_singleton.mpr fun hkey => absurd hkey.symm hdiffer⟩
    exact dnsEntry_rearranged.probe.text.symm

theorem digest_rearranged_two :
    (withEntries [dnsEntry [.verify, .enforce], firewallEntry]).digest =
        (withEntries [firewallEntry, dnsEntry [.enforce, .verify]]).digest ∧
      (withEntries [firewallEntry, dnsEntry [.enforce, .verify]]).Rearranged
        (withEntries [dnsEntry [.verify, .enforce], firewallEntry]) := by
  obtain ⟨hkept, hbound⟩ := digest_rearranged withEntries_valid (withEntries [dnsEntry [.verify, .enforce], firewallEntry])
  have hdigest := hkept withEntries_rearranged rfl
  exact ⟨hdigest, hbound (withEntries_rearranged.validate rfl withEntries_valid)
    (withEntries_representable [.enforce, .verify] (by simp)) (withEntries_representable [.verify, .enforce] (by simp))
    withEntries_noCollision hdigest⟩

/-! ## The digest binds the readiness -/

open AntiFlock.Enforcement (CapabilityRequirement)

theorem judge_rearranged {a b : ProbeResult} (h : a.Rearranged b) (requirement : CapabilityRequirement) (now : Time) :
    judge requirement b now = judge requirement a now := by
  have hoperations : (b.operations.map operationToWire).contains = (a.operations.map operationToWire).contains := by
    funext operation
    rw [Bool.eq_iff_iff, List.contains_iff_mem, List.contains_iff_mem]
    exact (h.operations.map _).mem_iff.symm
  rw [judge, judge, hoperations, h.rest]
  rfl

theorem evaluateOne_rearranged {m m' : Manifest} (h : m.Rearranged m') (hkeys : (m.capabilities.map Entry.key).Nodup)
    (requirement : CapabilityRequirement) (now : Time) : evaluateOne m' requirement now = evaluateOne m requirement now := by
  have hperm := h.summaries.map Prod.fst
  rw [← map_key, ← map_key] at hperm
  unfold evaluateOne
  cases hfind : m.capabilities.find? fun entry => entry.key = requirement.key with
  | none =>
    cases hfind' : m'.capabilities.find? fun entry => entry.key = requirement.key with
    | none => rfl
    | some entry =>
      have hkey : entry.key = requirement.key := by simpa using List.find?_some hfind'
      have hmem := hperm.mem_iff.mpr (List.mem_map_of_mem (List.mem_of_find?_eq_some hfind'))
      obtain ⟨original, horiginal, hsame⟩ := List.mem_map.mp hmem
      exact absurd (List.find?_eq_none.mp hfind original horiginal) (by simp [hsame, hkey])
  | some original =>
    have hkey : original.key = requirement.key := by simpa using List.find?_some hfind
    have horiginal := List.mem_of_find?_eq_some hfind
    cases hfind' : m'.capabilities.find? fun entry => entry.key = requirement.key with
    | none =>
      obtain ⟨entry, hentry, hsame⟩ := List.mem_map.mp (hperm.mem_iff.mp (List.mem_map_of_mem horiginal))
      exact absurd (List.find?_eq_none.mp hfind' entry hentry) (by simp [hsame, hkey])
    | some entry =>
      have hkey' : entry.key = requirement.key := by simpa using List.find?_some hfind'
      obtain ⟨other, hother, hrearranged⟩ := h.entry (List.mem_of_find?_eq_some hfind')
      have hsame : entry.key = other.key := by rw [hrearranged.rest]
      obtain rfl := List.inj_on_of_nodup_map hkeys hother horiginal (hsame.symm.trans (hkey'.trans hkey.symm))
      simp only [judge_rearranged hrearranged.probe]

/-- Two valid manifests with one digest answer every list of requirements alike, at any time. -/
theorem digest_binds_readiness {m m' : Manifest} (hm : m.validate = none) (hm' : m'.validate = none) (hr : m.Representable)
    (hr' : m'.Representable) (hcollision : NoCollision m m') (hdigest : m'.digest = m.digest)
    (requirements : List CapabilityRequirement) (now : Time) :
    evaluate m' requirements now = evaluate m requirements now := by
  rw [digest_of_valid hm, digest_of_valid hm', Except.ok.injEq] at hdigest
  have h := rearranged_of_written hm hm' hr hr' hcollision (hcollision.manifest hdigest.symm)
  obtain ⟨-, -, -, hkeys⟩ := validate_eq_none.mp hm
  have htimes : m'.issuedAt = m.issuedAt ∧ m'.expiresAt = m.expiresAt := by
    rw [h.rest]
    exact ⟨rfl, rfl⟩
  have hcode : manifestCode m' now = manifestCode m now := by
    rw [manifestCode, manifestCode, hm, hm', htimes.1, htimes.2]
  rw [evaluate, evaluate, hcode]
  simp only [evaluateOne_rearranged h hkeys]

theorem digest_binds_readiness_two :
    evaluate (withEntries [dnsEntry [.verify, .enforce], firewallEntry]) [⟨"dns.protected.enforce", [.enforce], .full⟩] 2000 =
      evaluate (withEntries [firewallEntry, dnsEntry [.enforce, .verify]])
        [⟨"dns.protected.enforce", [.enforce], .full⟩] 2000 := by
  have hvalid := withEntries_rearranged.validate rfl withEntries_valid
  obtain ⟨-, -, -, hkeys⟩ := validate_eq_none.mp withEntries_valid
  refine digest_binds_readiness withEntries_valid hvalid (withEntries_representable [.enforce, .verify] (by simp))
    (withEntries_representable [.verify, .enforce] (by simp)) withEntries_noCollision ?_ _ _
  rw [digest_of_valid withEntries_valid, digest_of_valid hvalid, withEntries_rearranged.written hkeys]

end Manifest

end Capability
end AntiFlock
