import AntiFlock.Driver.Ownership
import Mathlib.Data.List.Sort
import Mathlib.Data.List.Pairwise
import Mathlib.Data.String.Basic

set_option autoImplicit false

/-!
# What a simulation predicts

`Simulate` edits a sorted snapshot; `Apply` updates a map that a later capture
filters and sorts again. Both lists are sorted by distinct keys, so they are
equal once they have the same entries, and so are their digests.
-/
namespace AntiFlock.Driver.Memory
open AntiFlock.Effect AntiFlock.Go

/-! ## Entries in key order -/

instance : IsTrans SnapshotEntry entryBefore :=
  ⟨fun _ _ _ hab hbc => not_lt.mpr ((not_lt.mp hab).trans (not_lt.mp hbc))⟩

instance : Std.Total entryBefore :=
  ⟨fun a b => (le_total a.key b.key).imp not_lt.mpr not_lt.mpr⟩

/-- Entries as a valid snapshot has them: sorted, with one entry a key. -/
def Keyed (entries : List SnapshotEntry) : Prop := entries.Pairwise fun a b => a.key < b.key

namespace Keyed
variable {l m : List SnapshotEntry}

theorem ext (hl : Keyed l) (hm : Keyed m) (h : ∀ entry, entry ∈ l ↔ entry ∈ m) : l = m := by
  have : Std.Antisymm fun a b : SnapshotEntry => a.key < b.key :=
    ⟨fun _ _ hab hba => absurd hab (lt_asymm hba)⟩
  have : Std.Irrefl fun a b : SnapshotEntry => a.key < b.key := ⟨fun a => lt_irrefl a.key⟩
  exact hl.eq_of_mem_iff hm h

theorem of_insertionSort (h : l.Pairwise fun a b => a.key ≠ b.key) : Keyed (l.insertionSort entryBefore) := by
  have hne := ((List.perm_insertionSort entryBefore l).pairwise_iff Ne.symm).mpr h
  exact (List.pairwise_insertionSort entryBefore l).imp₂
    (fun a b hle hne => lt_of_le_of_ne (not_lt.mp hle) hne) hne

theorem set_findIdx (h : Keyed l) (target value : String) :
    l.set (l.findIdx fun entry => entry.key = target) ⟨target, value⟩ =
      l.map fun entry => if entry.key = target then ⟨target, value⟩ else entry := by
  induction l with
  | nil => rfl
  | cons entry rest ih =>
    obtain ⟨hfirst, hrest⟩ := List.pairwise_cons.mp h
    by_cases hkey : entry.key = target
    · have hothers : rest.map (fun entry => if entry.key = target then ⟨target, value⟩ else entry) = rest :=
        (List.map_congr_left fun other hother => if_neg fun heq =>
          absurd (hfirst other hother) (by rw [hkey, heq]; exact lt_irrefl target)).trans (List.map_id rest)
      simp [List.findIdx_cons, hkey, hothers]
    · simp [List.findIdx_cons, hkey, ih hrest]

end Keyed

section Simulated
variable {entries : List SnapshotEntry} {target value : String}

theorem mem_simulateEntries (h : Keyed entries) (entry : SnapshotEntry) :
    entry ∈ (simulateEntries entries target value).1 ↔
      entry = ⟨target, value⟩ ∨ entry ∈ entries ∧ entry.key ≠ target := by
  unfold simulateEntries
  cases hfound : entries.find? fun entry => entry.key = target with
  | none =>
    have habsent : entry ∈ entries → entry.key ≠ target := fun hentry => by
      simpa using List.find?_eq_none.mp hfound entry hentry
    simp only [List.mem_insertionSort, List.mem_append, List.mem_singleton]
    tauto
  | some found =>
    have hkey : found.key = target := by simpa using List.find?_some hfound
    have hmem := List.mem_of_find?_eq_some hfound
    have hunique (other : SnapshotEntry) (hother : other ∈ entries) (hk : other.key = target) :
        other = found := by
      by_contra hne
      have hsymm : Std.Symm fun a b : SnapshotEntry => a.key ≠ b.key := ⟨fun _ _ => Ne.symm⟩
      exact (h.imp fun hlt => hlt.ne).forall hother hmem hne (hk.trans hkey.symm)
    simp only
    split
    case isTrue hsame =>
      have hfound' : found = ⟨target, value⟩ := by rw [← hkey, ← hsame]
      rw [← hfound']
      refine ⟨fun hentry => ?_, ?_⟩
      · by_cases hk : entry.key = target
        · exact .inl (hunique entry hentry hk)
        · exact .inr ⟨hentry, hk⟩
      · rintro (rfl | ⟨hentry, -⟩)
        · exact hmem
        · exact hentry
    case isFalse =>
      rw [hkey, h.set_findIdx, List.mem_map]
      constructor
      · rintro ⟨other, hother, rfl⟩
        split
        · exact .inl rfl
        · exact .inr ⟨hother, ‹_›⟩
      · rintro (rfl | ⟨hentry, hk⟩)
        · exact ⟨found, hmem, if_pos hkey⟩
        · exact ⟨entry, hentry, if_neg hk⟩

theorem keyed_simulateEntries (h : Keyed entries) : Keyed (simulateEntries entries target value).1 := by
  unfold simulateEntries
  cases hfound : entries.find? fun entry => entry.key = target with
  | none =>
    refine .of_insertionSort (List.pairwise_append.mpr ⟨h.imp fun hlt => hlt.ne, List.pairwise_singleton _ _, ?_⟩)
    intro entry hentry other hother
    rw [List.mem_singleton.mp hother]
    simpa using List.find?_eq_none.mp hfound entry hentry
  | some found =>
    have hkey : found.key = target := by simpa using List.find?_some hfound
    simp only
    split
    case isTrue => exact h
    case isFalse =>
      rw [hkey, h.set_findIdx]
      have hkeys (entry : SnapshotEntry) :
          (if entry.key = target then (⟨target, value⟩ : SnapshotEntry) else entry).key = entry.key := by
        split
        · exact Eq.symm ‹_›
        · rfl
      exact List.pairwise_map.mpr (h.imp fun hlt => by rwa [hkeys, hkeys])

end Simulated

/-! ## Captures -/

def Covers (scope : Scope) (target : String) : Prop := scope.targets = [] ∨ target ∈ scope.targets

theorem captured_iff {scope : Scope} {rule : Sigma fun _ : RuleKey => String} {entry : SnapshotEntry} :
    (if rule.1.type ≠ scope.operationType then none
      else if scope.targets ≠ [] ∧ rule.1.target ∉ scope.targets then none
      else some (⟨rule.1.target, rule.2⟩ : SnapshotEntry)) = some entry ↔
    rule = ⟨⟨scope.operationType, entry.key⟩, entry.value⟩ ∧ Covers scope entry.key := by
  obtain ⟨⟨type, target⟩, value⟩ := rule
  obtain ⟨key, value'⟩ := entry
  by_cases htype : type = scope.operationType
  · subst htype
    by_cases hcovers : scope.targets = [] ∨ target ∈ scope.targets
    · have hwanted : ¬ (scope.targets ≠ [] ∧ target ∉ scope.targets) := by tauto
      rw [if_neg (not_not.mpr rfl), if_neg hwanted]
      constructor
      · rintro ⟨⟩
        exact ⟨rfl, hcovers⟩
      · rintro ⟨⟨⟩, -⟩
        rfl
    · have hskipped : scope.targets ≠ [] ∧ target ∉ scope.targets := by tauto
      rw [if_neg (not_not.mpr rfl), if_pos hskipped]
      refine ⟨nofun, ?_⟩
      rintro ⟨⟨⟩, h⟩
      exact absurd h hcovers
  · rw [if_pos htype]
    refine ⟨nofun, ?_⟩
    rintro ⟨⟨⟩, -⟩
    exact absurd rfl htype

theorem mem_capture (rules : Map RuleKey String) (scope : Scope) (entry : SnapshotEntry) :
    entry ∈ capture rules scope ↔
      rules.lookup ⟨scope.operationType, entry.key⟩ = some entry.value ∧ Covers scope entry.key := by
  simp only [capture, List.mem_insertionSort, List.mem_filterMap, captured_iff]
  constructor
  · rintro ⟨_, hrule, rfl, hcovers⟩
    exact ⟨AList.mem_lookup_iff.mpr hrule, hcovers⟩
  · rintro ⟨hrule, hcovers⟩
    exact ⟨_, AList.mem_lookup_iff.mp hrule, rfl, hcovers⟩

theorem keyed_capture (rules : Map RuleKey String) (scope : Scope) : Keyed (capture rules scope) := by
  refine .of_insertionSort ((List.nodupKeys_iff_pairwise.mp rules.nodupKeys).filterMap _ ?_)
  intro rule rule' hne entry hentry entry' hentry' hkey
  rw [(captured_iff.mp hentry).1, (captured_iff.mp hentry').1, hkey] at hne
  exact hne rfl

theorem capture_written {rules rules' : Map RuleKey String} {scope : Scope} {target value : String}
    (hcovers : Covers scope target) (hrules : ∀ key, rules'.lookup key =
      if key = ⟨scope.operationType, target⟩ then some value else rules.lookup key) :
    capture rules' scope = (simulateEntries (capture rules scope) target value).1 := by
  refine (keyed_capture rules' scope).ext (keyed_simulateEntries (keyed_capture rules scope)) fun entry => ?_
  rw [mem_simulateEntries (keyed_capture rules scope), mem_capture, mem_capture, hrules]
  by_cases hkey : entry.key = target
  · have hrule : (⟨scope.operationType, entry.key⟩ : RuleKey) = ⟨scope.operationType, target⟩ := by rw [hkey]
    rw [if_pos hrule]
    constructor
    · rintro ⟨hvalue, -⟩
      refine .inl ?_
      cases entry
      cases hkey
      cases hvalue
      rfl
    · rintro (rfl | ⟨-, hne⟩)
      · exact ⟨rfl, hcovers⟩
      · exact absurd hkey hne
  · have hrule : (⟨scope.operationType, entry.key⟩ : RuleKey) ≠ ⟨scope.operationType, target⟩ :=
      fun heq => hkey (congrArg RuleKey.target heq)
    rw [if_neg hrule]
    constructor
    · exact fun h => .inr ⟨h, hkey⟩
    · rintro (rfl | ⟨h, -⟩)
      · exact absurd rfl hkey
      · exact h

/-! ## The methods -/

section Calls
variable {faults : Faults} {b : Backing} (config : Config)

theorem capture_spec (scope : Scope) :
    wp (backingHandler faults) (fun _ => True) (captureMethod config scope).run (fun r b' => b' = b ∧
      (∀ taken, r = .ok taken → taken.validate = none ∧
        ∃ now, taken = snapshot config.name b.rules scope now) ∧
      ∀ err, r = .error err → faults = .none → scope.validate ≠ none ∨
        ∃ now, now ≠ 0 ∧ (snapshot config.name b.rules scope now).validate ≠ none) b := by
  refine wp_disk trivial fun done b₁ hs => ?_
  obtain ⟨rfl, hlive, -⟩ := hs
  refine wp_check trivial (fun err herr => ⟨rfl, nofun, fun _ _ hfaults => ?_⟩) fun _ => ?_
  · rw [hlive hfaults] at herr
    cases herr
  refine wp_check trivial (fun err herr => ⟨rfl, nofun, fun _ _ _ => .inl (by simp [herr])⟩) fun _ => ?_
  refine wp_disk trivial fun backing b₂ hs => ?_
  obtain ⟨rfl, rfl⟩ := hs
  refine wp_disk trivial fun now b₃ hs => ?_
  obtain ⟨rfl, hnow⟩ := hs
  refine wp_check trivial (fun err herr => ⟨rfl, nofun, fun _ _ hfaults => ?_⟩) fun hvalid => ?_
  · exact .inr ⟨now, hnow hfaults, by simp [herr]⟩
  · refine ⟨trivial, rfl, ?_, nofun⟩
    rintro _ ⟨⟩
    exact ⟨hvalid, now, rfl⟩

theorem simulate_spec (before : Snapshot) (operation : PlanOperation) :
    wp (backingHandler faults) (fun _ => True) (simulateMethod before operation).run (fun r _ =>
      ∀ result, r = .ok result → simulation before operation = .ok result) b := by
  refine wp_disk trivial fun done b₁ _ => wp_check trivial (by rintro _ _ _ ⟨⟩) fun _ => ?_
  exact ⟨trivial, fun _ hr => hr⟩

theorem digest_at {taken : Snapshot} {digest : String} {now : Time} (h : taken.digest = .ok digest)
    (hnow : now ≠ 0) : { taken with capturedAt := now }.digest = .ok digest := by
  obtain ⟨hvalid, hdigest⟩ := Snapshot.digest_eq_ok.mp h
  obtain ⟨hversion, hname, hscope, hcount, hentries, -⟩ := Snapshot.validate_eq_none.mp hvalid
  exact Snapshot.digest_eq_ok.mpr ⟨Snapshot.validate_eq_none.mpr ⟨hversion, hname, hscope, hcount, hentries, hnow⟩, hdigest⟩

theorem simulation_succeeds {before : Snapshot} {operation : PlanOperation} {result : SimulationResult}
    (h : simulation before operation = .ok result) (hsucceeds : result.wouldSucceed = true) :
    operation.type = before.scope.operationType ∧
      { before with entries := (simulateEntries before.entries operation.target (render operation)).1 }.digest =
        .ok result.diff.afterDigest := by
  unfold simulation at h
  cases hv : validOperation operation with
  | some err => simp [hv] at h
  | none =>
    cases hd : before.digest with
    | error err => simp [hv, hd] at h
    | ok beforeDigest =>
      simp only [hv, hd] at h
      split at h
      · cases h
        cases hsucceeds
      · rename_i htype
        refine ⟨not_not.mp htype, ?_⟩
        split at h
        · cases h
        · rename_i afterDigest hafter
          split at h
          · cases h
          · cases h
            exact hafter

theorem mutate_writes (request : ApplyRequest) (operation : PlanOperation) (before : String)
    (startedAt : Time) :
    wp (backingHandler faults) (fun _ => True) (mutate config request operation before startedAt).run
      (fun _ b' => b'.rules.lookup ⟨operation.type, request.target⟩ = some (render operation)) b := by
  refine wp_disk trivial fun _ b₁ hs => ?_
  cases hs
  have hwritten (b' : Backing)
      (h : Still { b with rules := b.rules.insert ⟨operation.type, request.target⟩ (render operation) } b') :
      b'.rules.lookup ⟨operation.type, request.target⟩ = some (render operation) := by
    rw [h.rules, AList.lookup_insert]
  refine wp_mono (wp_still ?_) fun _ b' _ h => hwritten b' h
  refine .except (disk_only ⟨rfl, rfl⟩) fun armed => ?_
  cases armed with
  | true => exact .ret _
  | false =>
    refine .except (disk_only ⟨rfl, rfl⟩) fun backing => .except (disk_only ⟨rfl, rfl⟩) fun capturedAt => ?_
    refine .except (.ret _) fun digest => .except (disk_only ⟨rfl, rfl⟩) fun completedAt => ?_
    exact .except (finish_only _ ⟨rfl, rfl⟩) fun _ => .except (check_only _) fun _ => .ret _

theorem apply_writes (request : ApplyRequest) {operation : PlanOperation}
    (ho : request.operation = some operation) :
    wp (backingHandler faults) (fun _ => True) (applyMethod config request).run (fun r b' =>
      ∀ receipt, r = .ok receipt → request.validate = none ∧
        b'.rules.lookup ⟨operation.type, request.target⟩ = some (render operation)) b := by
  refine wp_check trivial (by rintro _ _ _ ⟨⟩) fun hvalid => wp_disk trivial fun _ b₁ _ => ?_
  refine wp_check trivial (by rintro _ _ _ ⟨⟩) fun _ => wp_inFlight trivial (by rintro _ _ _ _ ⟨⟩) ?_
  rw [ho]
  refine wp_disk trivial fun startedAt b₂ _ => wp_disk trivial fun backing b₃ _ => ?_
  refine wp_then (wp_mono (wp_still (simulate_only ⟨rfl, rfl⟩ _ _)) fun _ b₄ _ _ => ?_)
  refine ⟨by rintro _ _ _ ⟨⟩, fun simulation _ => ?_⟩
  refine wp_check trivial (by rintro _ _ _ ⟨⟩) fun _ => wp_check trivial (by rintro _ _ _ ⟨⟩) fun _ => ?_
  refine wp_disk trivial fun _ b₅ _ => wp_disk trivial fun began b₆ _ => ?_
  cases began with
  | error err => exact wp_disk trivial fun _ _ _ => ⟨trivial, by rintro _ ⟨⟩⟩
  | ok u =>
    refine wp_disk trivial fun done b₇ _ => ?_
    cases done with
    | some err => exact wp_disk trivial fun _ _ _ => wp_disk trivial fun _ _ _ => ⟨trivial, by rintro _ ⟨⟩⟩
    | none => exact wp_mono (mutate_writes config request operation _ _) fun _ _ _ h _ _ => ⟨hvalid, h⟩

end Calls

theorem ApplyRequest.target_eq {request : ApplyRequest} {operation : PlanOperation}
    (h : request.validate = none) (ho : request.operation = some operation) :
    operation.target = request.target := by
  unfold ApplyRequest.validate at h
  rw [check_eq_none] at h
  cases ht : validateTarget request.target with
  | some err => simp [ht] at h
  | none =>
    simp only [ht, ho, check_eq_none] at h
    exact not_not.mp h.2.2.1

/-- Capture, simulate on that capture and apply, with nothing else writing the host in between:
a new capture has the digest the simulation gave, and only the operation's own rule changed. A done
context or a clock at zero may refuse the new capture; nothing else does. -/
theorem simulation_predicts_apply {config : Config} {faults : Faults} {scope : Scope}
    {operation : PlanOperation} {request : ApplyRequest} {b₀ b₀' b₁ b₁' b₂ b₂' b₃ b₃' : Backing}
    {before : Snapshot} {result : SimulationResult} {receipt : ApplyReceipt} {r : Except Err Snapshot}
    (hcovers : scope.targets = [] ∨ operation.target ∈ scope.targets)
    (hbefore : Exec (backingHandler faults) (captureMethod config scope).run b₀ (some (.ok before)) b₀')
    (hsimulate : Exec (backingHandler faults) (simulateMethod before operation).run b₁ (some (.ok result)) b₁')
    (hsucceeds : result.wouldSucceed = true) (hoperation : request.operation = some operation)
    (hhost : b₂.rules = b₀'.rules)
    (happly : Exec (backingHandler faults) (applyMethod config request).run b₂ (some (.ok receipt)) b₂')
    (hhost' : b₃.rules = b₂'.rules)
    (hafter : Exec (backingHandler faults) (captureMethod config scope).run b₃ (some r) b₃') :
    (∀ after, r = .ok after → after.digest = .ok result.diff.afterDigest) ∧
      (faults = .none → ∃ after, r = .ok after) ∧
      ∀ key, key ≠ ⟨operation.type, operation.target⟩ → b₂'.rules.lookup key = b₂.rules.lookup key := by
  obtain ⟨rfl, htaken, -⟩ := hbefore.of_wp (capture_spec config scope)
  obtain ⟨hvalid₀, now, rfl⟩ := htaken before rfl
  obtain ⟨htype, hdigest⟩ := simulation_succeeds (hsimulate.of_wp (simulate_spec _ _) result rfl) hsucceeds
  obtain ⟨hvalid, hwritten⟩ := happly.of_wp (apply_writes config request hoperation) receipt rfl
  have htarget := ApplyRequest.target_eq hvalid hoperation
  have hrule : requestRule request = ⟨operation.type, operation.target⟩ := by
    rw [requestRule, hoperation, htarget]
    rfl
  have hothers : ∀ key, key ≠ requestRule request → b₂'.rules.lookup key = b₂.rules.lookup key :=
    happly.of_wp (wp_within (apply_within config request))
  rw [hrule] at hothers
  have hentries : capture b₃.rules scope =
      (simulateEntries (capture b₀'.rules scope) operation.target (render operation)).1 := by
    refine capture_written hcovers fun key => ?_
    change operation.type = scope.operationType at htype
    rw [hhost', ← hhost, ← htype]
    split
    case isTrue hkey => rw [hkey, htarget, hwritten]
    case isFalse hkey => exact hothers key hkey
  have hpredicted (now' : Time) (hnow : now' ≠ 0) :
      (snapshot config.name b₃.rules scope now').digest = .ok result.diff.afterDigest := by
    rw [snapshot, hentries]
    exact digest_at hdigest hnow
  obtain ⟨-, htaken', hrefused⟩ := hafter.of_wp (capture_spec config scope)
  refine ⟨fun after hr => ?_, fun hfaults => ?_, hothers⟩
  · obtain ⟨hvalid', now', rfl⟩ := htaken' after hr
    obtain ⟨-, -, -, -, -, hnow⟩ := Snapshot.validate_eq_none.mp hvalid'
    exact hpredicted now' hnow
  · cases r with
    | ok after => exact ⟨after, rfl⟩
    | error err =>
      rcases hrefused err rfl hfaults with hscope | ⟨now', hnow, hinvalid⟩
      · exact absurd (Snapshot.validate_eq_none.mp hvalid₀).2.2.1 hscope
      · exact absurd (Snapshot.digest_eq_ok.mp (hpredicted now' hnow)).1 hinvalid

/-! ## A host under the sample operation -/

/-- The answer of an undisturbed method, with the clock standing at one. -/
def performed {α : Type} (p : Attempt α) (b : Backing) : Except Err α × Backing :=
  Prog.run (fun q b => b.answer 1 q) p.run b

theorem performed_run {α : Type} (faults : Faults) (p : Attempt α) (b : Backing) :
    Exec (backingHandler faults) p.run b (some (performed p b).1) (performed p b).2 :=
  Prog.exec_run (fun q b => b.answer_step (by decide) q) p.run b

theorem performed_exec {α : Type} {faults : Faults} {p : Attempt α} {b : Backing} {a : α}
    (h : (performed p b).1 = .ok a) :
    Exec (backingHandler faults) p.run b (some (.ok a)) (performed p b).2 :=
  h ▸ performed_run faults p b

def emptyHost : Backing := ⟨⟨[]⟩, ∅, ∅, ∅⟩

def sampleRequest : ApplyRequest :=
  ⟨"plan-1", 7, "op-1", "tcp/22", some sampleOperation, ⟨sampleKey, sampleKey.digestValue, 1⟩, 1⟩

def emptySnapshot : Snapshot := snapshot "memory" ∅ ⟨.firewall, []⟩ 1

def sampleApplied : Backing := (performed (applyMethod sampleConfig sampleRequest) emptyHost).2

theorem simulation_predicts_apply_sample : ∃ result after,
    simulation emptySnapshot sampleOperation = .ok result ∧
      (performed (captureMethod sampleConfig ⟨.firewall, []⟩) sampleApplied).1 = .ok after ∧
      after.digest = .ok result.diff.afterDigest ∧ ∀ key, key ≠ ⟨.firewall, "tcp/22"⟩ →
        sampleApplied.rules.lookup key = emptyHost.rules.lookup key := by
  have hbefore : (performed (captureMethod sampleConfig ⟨.firewall, []⟩) emptyHost).1 = .ok emptySnapshot := by
    rfl
  have hsimulated : ((performed (simulateMethod emptySnapshot sampleOperation) emptyHost).1.toOption.map
      (·.wouldSucceed)) = some true := by decide +kernel
  have happlied : (performed (applyMethod sampleConfig sampleRequest) emptyHost).1.toOption.isSome = true := by
    decide +kernel
  obtain ⟨result, hresult⟩ : ∃ result,
      (performed (simulateMethod emptySnapshot sampleOperation) emptyHost).1 = .ok result := by
    cases h : (performed (simulateMethod emptySnapshot sampleOperation) emptyHost).1 with
    | ok result => exact ⟨result, rfl⟩
    | error err => simp [h, Except.toOption] at hsimulated
  obtain ⟨receipt, hreceipt⟩ : ∃ receipt,
      (performed (applyMethod sampleConfig sampleRequest) emptyHost).1 = .ok receipt := by
    cases h : (performed (applyMethod sampleConfig sampleRequest) emptyHost).1 with
    | ok receipt => exact ⟨receipt, rfl⟩
    | error err => simp [h, Except.toOption] at happlied
  have hsucceeds : result.wouldSucceed = true := by
    simpa [hresult, Except.toOption] using hsimulated
  obtain ⟨hdigest, hreturns, hothers⟩ := simulation_predicts_apply (.inl rfl) (performed_exec hbefore)
    (performed_exec hresult) hsucceeds rfl rfl (performed_exec hreceipt) rfl
    (performed_run .none _ sampleApplied)
  obtain ⟨after, hafter⟩ := hreturns rfl
  exact ⟨result, after, hresult, hafter, hdigest after hafter, hothers⟩

end AntiFlock.Driver.Memory
