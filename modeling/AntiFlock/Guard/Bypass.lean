import AntiFlock.Guard.Evaluator
import AntiFlock.History
import AntiFlock.Sql.Rows
import Mathlib.Data.List.Nodup

set_option autoImplicit false

/-!
# One-time bypasses

Every operation of the registry holds its lock, and an evaluation reaches the registry
once at most, so an interleaving of calls is a list of calls. Over any such list a grant
is used once, for its own scope and before it expires.
-/
namespace AntiFlock.Guard
open AntiFlock.Go AntiFlock.History AntiFlock.Sql

/-! ## Issuing and pruning -/

/-- `Char.isWhitespace` -/
def isWhitespace (c : Char) : Bool :=
  let n := c.toNat
  (9 ≤ n ∧ n ≤ 13) ∨ (28 ≤ n ∧ n ≤ 32) ∨ n = 0xa0 ∨ n = 0x1680 ∨ (0x2000 ≤ n ∧ n ≤ 0x200a) ∨ n = 0x2028 ∨ n = 0x2029 ∨
    n = 0x202f ∨ n = 0x205f ∨ n = 0x3000

def isBlank (text : String) : Bool := text.toList.all isWhitespace

/-- A new entry of the map goes to the end, a known key keeps its place. -/
def put (grants : List ScopedBypassGrant) (grant : ScopedBypassGrant) : List ScopedBypassGrant :=
  if grant.grantId ∈ grants.map (·.grantId) then
    grants.map fun old => if old.grantId = grant.grantId then grant else old
  else grants ++ [grant]

namespace ScopedBypassRegistry

def authorize (registry : ScopedBypassRegistry) (grantId : String) (scope : ActionScope) (now requestedDuration : ℤ)
    (policy : GuardPolicy) : Except Thrown (ScopedBypassGrant × ScopedBypassRegistry) := do
  require (policy.allowOneTimeBypass = true) "Policy does not permit one-time bypass"
  require (¬ requestedDuration < 0 ∧ requestedDuration ≠ 0) failedRequirement
  require (grantId ∉ registry.issuedGrantIds) "Bypass grant ID has already been issued"
  let duration := min requestedDuration policy.maximumBypassDuration
  let expiresAt ← plus now duration
  let grant : ScopedBypassGrant := ⟨grantId, scope, now, expiresAt, 1⟩
  require (isBlank grant.grantId = false) failedRequirement
  require (grant.issuedAt < grant.expiresAt) failedRequirement
  require (grant.remainingUses = 1) failedRequirement
  return (grant, ⟨put registry.grants grant, registry.issuedGrantIds ++ [grantId]⟩)

def pruneExpired (registry : ScopedBypassRegistry) (now : ℤ) : ScopedBypassRegistry :=
  { registry with grants := registry.grants.filter fun grant => now < grant.expiresAt }

end ScopedBypassRegistry

inductive Call where
  | authorize (grantId : String) (scope : ActionScope) (now requestedDuration : ℤ) (policy : GuardPolicy)
  | pruneExpired (now : ℤ)
  | evaluate (input : GuardEvaluationInput)

inductive Answer where
  | issued (grant : ScopedBypassGrant)
  | done
  | verdict (verdict : GuardVerdict)
  | thrown (thrown : Thrown)

def step (registry : ScopedBypassRegistry) : Call → Answer × ScopedBypassRegistry
  | .authorize grantId scope now requestedDuration policy =>
    match registry.authorize grantId scope now requestedDuration policy with
    | .ok (grant, registry) => (.issued grant, registry)
    | .error thrown => (.thrown thrown, registry)
  | .pruneExpired now => (.done, registry.pruneExpired now)
  | .evaluate input =>
    match Guard.evaluate registry input with
    | .ok (verdict, registry) => (.verdict verdict, registry)
    | .error thrown => (.thrown thrown, registry)

/-! ## What one call does -/

inductive Effect (registry : ScopedBypassRegistry) : Call → Answer → ScopedBypassRegistry → Prop where
  | throws (call : Call) (thrown : Thrown) : Effect registry call (.thrown thrown) registry
  | issues {grantId : String} {scope : ActionScope} {now requestedDuration expiresAt : ℤ} {policy : GuardPolicy}
      (hnew : grantId ∉ registry.issuedGrantIds) (hexpires : expiresAt ≤ now + policy.maximumBypassDuration) :
      Effect registry (.authorize grantId scope now requestedDuration policy) (.issued ⟨grantId, scope, now, expiresAt, 1⟩)
        ⟨put registry.grants ⟨grantId, scope, now, expiresAt, 1⟩, registry.issuedGrantIds ++ [grantId]⟩
  | prunes (now : ℤ) : Effect registry (.pruneExpired now) .done (registry.pruneExpired now)
  | judges {input : GuardEvaluationInput} {verdict : GuardVerdict} (h : verdict.egressDecision ≠ .allowScopedOnce) :
      Effect registry (.evaluate input) (.verdict verdict) registry
  | bypasses {input : GuardEvaluationInput} {verdict : GuardVerdict} {grant : ScopedBypassGrant}
      (hgrant : grant ∈ registry.grants) (hscope : input.actionScope = some grant.scope)
      (hfresh : input.now < grant.expiresAt) (hdecision : verdict.egressDecision = .allowScopedOnce)
      (hid : verdict.consumedBypassGrantId = some grant.grantId) :
      Effect registry (.evaluate input) (.verdict verdict)
        { registry with grants := registry.grants.filter fun other => other.grantId ≠ grant.grantId }

variable {registry : ScopedBypassRegistry}

theorem authorize_effect (registry : ScopedBypassRegistry) (grantId : String) (scope : ActionScope)
    (now requestedDuration : ℤ) (policy : GuardPolicy) :
    Effect registry (.authorize grantId scope now requestedDuration policy)
      (step registry (.authorize grantId scope now requestedDuration policy)).1
      (step registry (.authorize grantId scope now requestedDuration policy)).2 := by
  cases h : registry.authorize grantId scope now requestedDuration policy with
  | error thrown =>
    simp only [step, h]
    exact .throws _ thrown
  | ok pair =>
    have h' := h
    simp only [ScopedBypassRegistry.authorize, bind_eq_ok, require_ok, exists_and_left, exists_const] at h'
    obtain ⟨-, -, hnew, expiresAt, hexpires, -, -, -, hpair⟩ := h'
    obtain rfl := Except.ok.inj hpair
    simp only [step, h]
    refine .issues hnew ?_
    rw [plus_ok hexpires]
    exact Int.add_le_add_left (min_le_right _ _) now

theorem consume_cases (registry : ScopedBypassRegistry) (scope : ActionScope) (now : ℤ) :
    registry.consume scope now = (.notFound, registry) ∨ ∃ grant ∈ registry.grants, grant.scope = scope ∧
      now < grant.expiresAt ∧ registry.consume scope now = (.consumed grant.grantId,
        { registry with grants := registry.grants.filter fun other => other.grantId ≠ grant.grantId }) := by
  unfold ScopedBypassRegistry.consume
  split
  · exact .inl rfl
  · rename_i grant hgrant
    obtain ⟨hmem, hscope, hfresh, -⟩ := of_find hgrant
    exact .inr ⟨grant, hmem, hscope, hfresh, rfl⟩

theorem blocked_effect {input : GuardEvaluationInput} (reasons : List String) (revision : Option ℕ)
    (bypassAvailable : Bool) :
    Effect registry (.evaluate input) (.verdict (blocked reasons revision bypassAvailable)) registry :=
  .judges (by simp [blocked])

theorem decideOn_effect (envelope : SignedPolicyEnvelope) (input : GuardEvaluationInput) (reasons : List String) :
    Effect registry (.evaluate input) (.verdict (decideOn registry envelope input reasons).1)
      (decideOn registry envelope input reasons).2 := by
  unfold decideOn
  by_cases hreasons : reasons = []
  · rw [if_pos hreasons]
    exact .judges (by simp)
  rw [if_neg hreasons]
  split
  · exact .judges (by simp)
  unfold bypass
  cases hscope : input.actionScope with
  | none => exact blocked_effect ..
  | some scope =>
    by_cases hallowed : envelope.policy.allowOneTimeBypass = true
    · simp only [if_pos hallowed]
      rcases consume_cases registry scope input.now with h | ⟨grant, hgrant, rfl, hfresh, h⟩
      · rw [h]
        exact blocked_effect ..
      · rw [h]
        exact .bypasses hgrant hscope hfresh rfl rfl
    · simp only [if_neg hallowed]
      exact blocked_effect ..

theorem evaluate_effect (registry : ScopedBypassRegistry) (input : GuardEvaluationInput) :
    Effect registry (.evaluate input) (step registry (.evaluate input)).1 (step registry (.evaluate input)).2 := by
  simp only [step]
  unfold evaluate
  by_cases husable : input.identity.any (·.isUsable input.now) = true
  swap
  · rw [if_pos husable]
    exact blocked_effect ..
  rw [if_neg (not_not.mpr husable)]
  cases input.policyStatus with
  | missing => exact blocked_effect ..
  | expired envelope => exact blocked_effect ..
  | active envelope =>
    dsimp only
    cases telemetry envelope.policy input.network input.now with
    | error thrown => exact .throws _ thrown
    | ok reasons => exact decideOn_effect envelope input _

theorem step_effect (registry : ScopedBypassRegistry) (call : Call) :
    Effect registry call (step registry call).1 (step registry call).2 := by
  cases call with
  | authorize grantId scope now requestedDuration policy => exact authorize_effect ..
  | pruneExpired now => exact .prunes now
  | evaluate input => exact evaluate_effect registry input

/-! ## Over any list of calls -/

abbrev Past := List (Entry ScopedBypassRegistry Call Answer)

def Answer.grant : Answer → Option ScopedBypassGrant
  | .issued found => some found
  | _ => none

def Answer.consumed : Answer → Option String
  | .verdict found => if found.egressDecision = .allowScopedOnce then found.consumedBypassGrantId else none
  | _ => none

/-- The grants that have been issued. -/
def issued (past : Past) : List ScopedBypassGrant := past.filterMap (·.answer.grant)

/-- The grants that a verdict was given for, as often as it was. -/
def consumed (past : Past) : List String := past.filterMap (·.answer.consumed)

theorem issued_concat (past : Past) (e : Entry ScopedBypassRegistry Call Answer) :
    issued (past ++ [e]) = issued past ++ e.answer.grant.toList := by
  rw [issued, List.filterMap_append, List.filterMap_cons]
  cases e.answer.grant <;> rfl

theorem consumed_concat (past : Past) (e : Entry ScopedBypassRegistry Call Answer) :
    consumed (past ++ [e]) = consumed past ++ e.answer.consumed.toList := by
  rw [consumed, List.filterMap_append, List.filterMap_cons]
  cases e.answer.consumed <;> rfl

structure Accounts (past : Past) (registry : ScopedBypassRegistry) : Prop where
  ids : registry.issuedGrantIds = (issued past).map (·.grantId)
  nodup : registry.issuedGrantIds.Nodup
  once : (consumed past).Nodup
  known : ∀ id ∈ consumed past, id ∈ registry.issuedGrantIds
  free : ∀ grant ∈ registry.grants, grant ∈ issued past ∧ grant.grantId ∉ consumed past

/-- A call that issues nothing and consumes nothing may only drop grants. -/
theorem Accounts.drop {past : Past} (h : Accounts past registry) {e : Entry ScopedBypassRegistry Call Answer}
    (hgrant : e.answer.grant = none) (hconsumed : e.answer.consumed = none) {grants : List ScopedBypassGrant}
    (hgrants : ∀ grant ∈ grants, grant ∈ registry.grants) :
    Accounts (past ++ [e]) { registry with grants := grants } := by
  have hissued : issued (past ++ [e]) = issued past := by simp [issued_concat, hgrant]
  have hused : consumed (past ++ [e]) = consumed past := by simp [consumed_concat, hconsumed]
  refine ⟨?_, h.nodup, ?_, ?_, ?_⟩
  · rw [hissued]
    exact h.ids
  · rw [hused]
    exact h.once
  · rw [hused]
    exact h.known
  · rw [hissued, hused]
    exact fun grant hmem => h.free grant (hgrants grant hmem)

theorem mem_put {grants : List ScopedBypassGrant} {new grant : ScopedBypassGrant} (h : grant ∈ put grants new) :
    grant = new ∨ grant ∈ grants := by
  unfold put at h
  split at h
  · obtain ⟨old, hold, rfl⟩ := List.mem_map.mp h
    split
    · exact .inl rfl
    · exact .inr hold
  · rcases List.mem_append.mp h with h | h
    · exact .inr h
    · exact .inl (List.mem_singleton.mp h)

theorem Accounts.issue {past : Past} (h : Accounts past registry) {e : Entry ScopedBypassRegistry Call Answer}
    {grant : ScopedBypassGrant} (hgrant : e.answer = .issued grant) (hnew : grant.grantId ∉ registry.issuedGrantIds) :
    Accounts (past ++ [e]) ⟨put registry.grants grant, registry.issuedGrantIds ++ [grant.grantId]⟩ := by
  have hissued : issued (past ++ [e]) = issued past ++ [grant] := by simp [issued_concat, hgrant, Answer.grant]
  have hused : consumed (past ++ [e]) = consumed past := by simp [consumed_concat, hgrant, Answer.consumed]
  refine ⟨?_, ?_, ?_, ?_, ?_⟩
  · rw [hissued, List.map_append, h.ids]
    rfl
  · exact List.nodup_append'.mpr ⟨h.nodup, List.nodup_singleton _, by simpa using hnew⟩
  · rw [hused]
    exact h.once
  · rw [hused]
    exact fun id hid => List.mem_append_left _ (h.known id hid)
  · rw [hissued, hused]
    intro other hother
    rcases mem_put hother with rfl | hother
    · exact ⟨by simp, fun hid => hnew (h.known _ hid)⟩
    · obtain ⟨hmem, hfree⟩ := h.free other hother
      exact ⟨List.mem_append_left _ hmem, hfree⟩

theorem Accounts.consume {past : Past} (h : Accounts past registry) {e : Entry ScopedBypassRegistry Call Answer}
    {grant : ScopedBypassGrant} (hmem : grant ∈ registry.grants) (hgrant : e.answer.grant = none)
    (hconsumed : e.answer.consumed = some grant.grantId) :
    Accounts (past ++ [e])
      { registry with grants := registry.grants.filter fun other => other.grantId ≠ grant.grantId } := by
  have hissued : issued (past ++ [e]) = issued past := by simp [issued_concat, hgrant]
  have hused : consumed (past ++ [e]) = consumed past ++ [grant.grantId] := by simp [consumed_concat, hconsumed]
  obtain ⟨hgranted, hfree⟩ := h.free grant hmem
  refine ⟨?_, h.nodup, ?_, ?_, ?_⟩
  · rw [hissued]
    exact h.ids
  · rw [hused]
    exact List.nodup_append'.mpr ⟨h.once, List.nodup_singleton _, by simpa using hfree⟩
  · rw [hused]
    intro id hid
    rcases List.mem_append.mp hid with hid | hid
    · exact h.known id hid
    · rw [List.mem_singleton.mp hid]
      change _ ∈ registry.issuedGrantIds
      rw [h.ids]
      exact List.mem_map_of_mem hgranted
  · rw [hissued, hused]
    intro other hother
    obtain ⟨hother, hne⟩ := List.mem_filter.mp hother
    obtain ⟨hmem', hfree'⟩ := h.free other hother
    refine ⟨hmem', fun hid => ?_⟩
    rcases List.mem_append.mp hid with hid | hid
    · exact hfree' hid
    · exact of_decide_eq_true hne (List.mem_singleton.mp hid)

theorem accounts_step {past : Past} (h : Accounts past registry) (call : Call) :
    Accounts (past ++ [entry step registry call]) (step registry call).2 := by
  have heffect := step_effect registry call
  unfold entry
  generalize step registry call = result at heffect
  obtain ⟨answer, registry'⟩ := result
  cases heffect with
  | throws call thrown => exact h.drop rfl rfl fun _ => id
  | issues hnew hexpires => exact h.issue rfl hnew
  | prunes now => exact h.drop rfl rfl fun _ hmem => (List.mem_filter.mp hmem).1
  | judges hdecision => exact h.drop rfl (show Answer.consumed (.verdict _) = none from if_neg hdecision) fun _ => id
  | bypasses hgrant hscope hfresh hdecision hid =>
    exact h.consume hgrant rfl (show Answer.consumed (.verdict _) = _ from (if_pos hdecision).trans hid)

theorem Accounts.fresh {past : Past} (h : Accounts past registry) {grantId : String}
    (hnew : grantId ∉ registry.issuedGrantIds) : grantId ∉ registry.grants.map (·.grantId) := by
  intro hmem
  obtain ⟨grant, hgrant, rfl⟩ := List.mem_map.mp hmem
  refine hnew ?_
  rw [h.ids]
  exact List.mem_map_of_mem (h.free grant hgrant).1

theorem accounts_run (calls : List Call) :
    Accounts (run step .empty calls).1 (run step .empty calls).2 := by
  refine run_induction (P := Accounts) ⟨rfl, List.nodup_nil, List.nodup_nil, ?_, ?_⟩ ?_ calls
  · simp [consumed]
  · simp [ScopedBypassRegistry.empty]
  · exact fun past registry call h => accounts_step h call

/-- Each grant is issued once and used at most once. A verdict that uses one is for its scope and before it
expires, it expires within the duration the policy allows, and only such a verdict removes it unexpired. -/
theorem bypass_used_once (calls : List Call) :
    ((issued (run step .empty calls).1).map (·.grantId)).Nodup ∧ (consumed (run step .empty calls).1).Nodup ∧
    ∀ past e rest, (run step .empty calls).1 = past ++ e :: rest →
      (∀ verdict, e.answer = .verdict verdict → verdict.egressDecision = .allowScopedOnce →
        ∃ grant ∈ issued past, ∃ input, e.call = .evaluate input ∧
          verdict.consumedBypassGrantId = some grant.grantId ∧ input.actionScope = some grant.scope ∧
          input.now < grant.expiresAt) ∧
      (∀ grant, e.answer = .issued grant → ∃ requestedDuration policy,
        e.call = .authorize grant.grantId grant.scope grant.issuedAt requestedDuration policy ∧
          grant.expiresAt ≤ grant.issuedAt + policy.maximumBypassDuration) ∧
      ∀ grant ∈ e.before.grants, grant ∉ e.after.grants →
        (∃ now, e.call = .pruneExpired now ∧ grant.expiresAt ≤ now) ∨
          ∃ verdict, e.answer = .verdict verdict ∧ verdict.egressDecision = .allowScopedOnce ∧
            verdict.consumedBypassGrantId = some grant.grantId := by
  have haccounts := accounts_run calls
  refine ⟨haccounts.ids ▸ haccounts.nodup, haccounts.once, fun past e rest h => ?_⟩
  obtain ⟨earlier, hearlier, hstep⟩ := run_split h
  have hbefore := accounts_run earlier
  have heffect := step_effect e.before e.call
  rw [hearlier] at hbefore
  rw [hstep] at heffect
  clear h hstep hearlier
  obtain ⟨before, call, answer, after⟩ := e
  dsimp only at hbefore heffect ⊢
  cases heffect with
  | throws call thrown => exact ⟨by simp, by simp, fun grant hmem hgone => absurd hmem hgone⟩
  | issues hnew hexpires =>
    refine ⟨by simp, ?_, ?_⟩
    · rintro grant hgrant
      cases hgrant
      exact ⟨_, _, rfl, hexpires⟩
    · intro grant hmem hgone
      refine absurd ?_ hgone
      rw [put, if_neg (hbefore.fresh hnew)]
      exact List.mem_append_left _ hmem
  | prunes now =>
    refine ⟨by simp, by simp, fun grant hmem hgone => .inl ⟨now, rfl, ?_⟩⟩
    by_contra hfresh
    exact hgone (List.mem_filter.mpr ⟨hmem, decide_eq_true (not_le.mp hfresh)⟩)
  | judges hdecision =>
    refine ⟨?_, by simp, fun grant hmem hgone => absurd hmem hgone⟩
    rintro verdict hverdict hscoped
    cases hverdict
    exact absurd hscoped hdecision
  | bypasses hgrant hscope hfresh hdecision hid =>
    refine ⟨?_, by simp, ?_⟩
    · rintro verdict hverdict -
      cases hverdict
      exact ⟨_, (hbefore.free _ hgrant).1, _, rfl, hid, hscope, hfresh⟩
    · intro grant hmem hgone
      refine .inr ⟨_, rfl, hdecision, ?_⟩
      by_contra hne
      refine hgone (List.mem_filter.mpr ⟨hmem, decide_eq_true fun hsame => hne ?_⟩)
      rw [hid, hsame]

/-! ## A grant stays until it is used or expires -/

end AntiFlock.Guard
