import AntiFlock.Audit.Entry
import AntiFlock.Go.Hmac
import AntiFlock.Posture.Engine

set_option autoImplicit false

/-!
# The gate for protected actions

`Evaluate` decides on an action by the policy and the posture of its node. A held
or blocked action may be let through once, by consent, on the strength of the tag
that binds the earlier decision to its request. What the gate allows it allows on
a verdict of the posture engine that still holds, which says how old the facts
under the verdict can be.
-/
namespace AntiFlock.Actions
open AntiFlock.Go AntiFlock.Posture
open AntiFlock.Events (Timestamp timestamp asTime checkValid asTime_timestamp checkValid_timestamp)
open AntiFlock.Audit (members)
open AntiFlock.Proto (Sensitivity minute)
open AntiFlock.Go.Calendar (formatTime)

/-! ## Messages -/

def validSensitivity : Sensitivity → Bool
  | .unspecified | .unlisted _ => false
  | _ => true

inductive DecisionType where
  | unspecified
  | allow
  | hold
  | block
  | requireConsent
  | allowOnce
  | unlisted (number : ℤ)
deriving DecidableEq

def DecisionType.text : DecisionType → String
  | unspecified => "SECURE_ACTION_DECISION_TYPE_UNSPECIFIED"
  | allow => "SECURE_ACTION_DECISION_TYPE_ALLOW"
  | hold => "SECURE_ACTION_DECISION_TYPE_HOLD"
  | block => "SECURE_ACTION_DECISION_TYPE_BLOCK"
  | requireConsent => "SECURE_ACTION_DECISION_TYPE_REQUIRE_CONSENT"
  | allowOnce => "SECURE_ACTION_DECISION_TYPE_ALLOW_ONCE"
  | unlisted number => toString number

inductive Status where
  | unspecified
  | evaluating
  | held
  | allowed
  | blocked
  | bypassed
  | expired
  | completed
  | cancelled
deriving DecidableEq

structure SecureActionRequest where
  id : String
  applicationId : String
  nodeId : String
  actionType : String
  destinations : List String
  dataClass : String
  sensitivity : Sensitivity
  deadline : Option Timestamp
  operationId : String
deriving DecidableEq

structure SecureActionDecision where
  actionId : String
  decision : DecisionType
  status : Status
  protection : Option ProtectionSnapshot
  reasonCodes : List String
  authorization : String
  expiresAt : Option Timestamp
  userMessage : String
  recommendedResponse : String
  requestBinding : String
deriving DecidableEq

/-! ## Gates -/

structure Policy where
  nodeIDs : List String
  applicationIDs : List String
  actionTypes : List String
  dataClasses : List String
  sensitivities : List String
  allowedDestinations : List String
  allowOneTimeBypass : Bool
  oneTimeBypassTTL : ℤ

def Policy.dimensions (policy : Policy) : List (List String) :=
  [policy.nodeIDs, policy.applicationIDs, policy.actionTypes, policy.dataClasses, policy.sensitivities,
    policy.allowedDestinations]

/-- A gate, with a policy and a key that `New` lets through. -/
structure Gate where
  policy : Policy
  key : List UInt8
  keyed : 32 ≤ key.length
  bounded : 0 < policy.oneTimeBypassTTL ∧ policy.oneTimeBypassTTL ≤ 15 * minute
  explicit : ∀ values ∈ policy.dimensions, values ≠ []

def policyMatches (values : List String) (wanted : String) : Bool := values.contains "*" || values.contains wanted

def Gate.actionWithinPolicy (gate : Gate) (request : SecureActionRequest) : Bool :=
  policyMatches gate.policy.nodeIDs request.nodeId && policyMatches gate.policy.applicationIDs request.applicationId &&
    policyMatches gate.policy.actionTypes request.actionType && policyMatches gate.policy.dataClasses request.dataClass &&
    policyMatches gate.policy.sensitivities request.sensitivity.text

def Gate.destinationsWithinPolicy (gate : Gate) (request : SecureActionRequest) : Bool :=
  request.destinations.all (policyMatches gate.policy.allowedDestinations)

def Gate.requestWithinPolicy (gate : Gate) (request : SecureActionRequest) : Bool :=
  gate.actionWithinPolicy request && gate.destinationsWithinPolicy request && !request.destinations.isEmpty

def validateActionRequest (request : SecureActionRequest) : Except String Unit :=
  if request.id = "" ∨ request.operationId = "" ∨ request.applicationId = "" ∨ request.nodeId = "" ∨
      request.actionType = "" ∨ request.dataClass = "" ∨ request.destinations = [] ∨
      validSensitivity request.sensitivity = false then
    .error "action request contains empty or unspecified required fields"
  else if "" ∈ request.destinations then .error "action request contains an empty destination"
  else if request.deadline.all checkValid = false then .error "action deadline is invalid"
  else .ok ()

def validExecutionProvenance (provenance : EvidenceProvenance) : Bool :=
  provenance == .live || provenance == .simulation

/-! ## Tags -/

/-- `sort.Strings`. -/
def sortStrings (values : List String) : List String := values.insertionSort fun left right => ¬ right < left

/-- A list of strings as JSON; a list without elements is `nil`. -/
def stringArray (values : List String) : String :=
  if values = [] then "null" else Json.array (values.map Json.quote)

def timeString (t : Instant) : String := if t.isZero then "" else formatTime t

def timestampString : Option Timestamp → String
  | none => ""
  | some t => if checkValid t then formatTime (asTime (some t)) else ""

/-- The members that name a request, before its destinations. -/
def requestMembers (request : SecureActionRequest) : List (String × String) :=
  [("actionId", request.id), ("applicationId", request.applicationId), ("nodeId", request.nodeId),
    ("operationId", request.operationId), ("actionType", request.actionType), ("dataClass", request.dataClass),
    ("sensitivity", request.sensitivity.text)]

def bindingDomain : String := "AntiFlock-Secure-Action-Request-v1\x00"

def Gate.tag (gate : Gate) (message : List UInt8) : String := rawURLBase64 (Hmac.sum gate.key message)

section

-- `proto.Marshal`, where it does not fail
variable (marshal : ProtectionSnapshot → Option (List UInt8))

def canonicalProto (snapshot : ProtectionSnapshot) : String :=
  match marshal snapshot with
  | none => ""
  | some encoded => rawURLBase64 encoded

def bindingPayload (request : SecureActionRequest) (snapshot : ProtectionSnapshot) (kind : DecisionType)
    (expiresAt : Instant) : String :=
  "\x7b" ++ members (requestMembers request)
    ("\"destinations\":" ++ (stringArray (sortStrings request.destinations) ++ ("," ++
      members [("deadline", timestampString request.deadline), ("decision", kind.text),
          ("decisionExpiry", timeString expiresAt)]
        ("\"snapshot\":" ++ (Json.quote (canonicalProto marshal snapshot) ++ "\x7d")))))

def bindingMessage (request : SecureActionRequest) (snapshot : ProtectionSnapshot) (kind : DecisionType)
    (expiresAt : Instant) : List UInt8 :=
  bytes (bindingDomain ++ bindingPayload marshal request snapshot kind expiresAt)

def Gate.decisionBinding (gate : Gate) (request : SecureActionRequest) (snapshot : ProtectionSnapshot)
    (kind : DecisionType) (expiresAt : Instant) : String :=
  gate.tag (bindingMessage marshal request snapshot kind expiresAt)

/-! ## Decisions -/

def statusFor : DecisionType → Status
  | .allow => .allowed
  | .hold | .requireConsent => .held
  | .block => .blocked
  | .allowOnce => .bypassed
  | .unspecified | .unlisted _ => .unspecified

def Gate.decision (gate : Gate) (request : SecureActionRequest) (snapshot : ProtectionSnapshot) (kind : DecisionType)
    (reasons : List String) (expiresAt : Instant) : SecureActionDecision where
  actionId := request.id
  decision := kind
  status := statusFor kind
  protection := some snapshot
  reasonCodes := reasons
  authorization := ""
  expiresAt := if expiresAt.isZero then none else some (timestamp expiresAt)
  userMessage := if kind = .allow then "" else "Protection is not currently verified for this action."
  recommendedResponse := if kind = .allow then "" else
    "Restore and verify the protected path, or use an explicitly scoped one-time authorization if policy permits."
  requestBinding := gate.decisionBinding marshal request snapshot kind expiresAt

def reasonCodes (snapshot : ProtectionSnapshot) : List String :=
  sortStrings ((snapshot.reasons.map (·.reasonCode)).filter (· ≠ ""))

/-- The snapshot is one of the request's node, and its times can be read. -/
def describes (snapshot : ProtectionSnapshot) (request : SecureActionRequest) : Bool :=
  request.nodeId = snapshot.nodeID && snapshot.policyRevision ≠ 0 && snapshot.evaluatedAt.any checkValid &&
    snapshot.validUntil.any checkValid

/-- When a request has to be done, as `Evaluate` sees it. -/
def deadlineAt (request : SecureActionRequest) (now : Instant) : Instant :=
  match request.deadline with
  | none => now.add (30 * Instant.perSecond)
  | some deadline => asTime (some deadline)

/-- The snapshot says at this time that the node is protected. -/
def cleared (snapshot : ProtectionSnapshot) (now : Instant) : Bool :=
  snapshot.state = .protected && now < asTime snapshot.validUntil && validExecutionProvenance snapshot.evidenceProvenance

def heldUntil (request : SecureActionRequest) (now : Instant) : Instant :=
  min (deadlineAt request now) (now.add (2 * minute))

def holdReasons (snapshot : ProtectionSnapshot) : List String :=
  if reasonCodes snapshot = [] then ["AF-PROTECTION-NOT-VERIFIED"] else reasonCodes snapshot

def Gate.evaluate (gate : Gate) (request : SecureActionRequest) (snapshot : ProtectionSnapshot) (now : Instant) :
    Except String SecureActionDecision := do
  validateActionRequest request
  if describes snapshot request = false then .error "protection snapshot is not valid for the action node"
  else if gate.actionWithinPolicy request = false then
    .ok (gate.decision marshal request snapshot .block ["AF-ACTION-OUTSIDE-POLICY"] .zero)
  else if gate.destinationsWithinPolicy request = false then
    .ok (gate.decision marshal request snapshot .block ["AF-DESTINATION-OUTSIDE-POLICY"] .zero)
  else if request.deadline.all checkValid = false then .error "action deadline is invalid"
  else if deadlineAt request now ≤ now then
    .ok (gate.decision marshal request snapshot .block ["AF-ACTION-DEADLINE-EXPIRED"] .zero)
  else if cleared snapshot now then .ok (gate.decision marshal request snapshot .allow (reasonCodes snapshot) .zero)
  else .ok (gate.decision marshal request snapshot .hold (holdReasons snapshot) (heldUntil request now))

theorem validateActionRequest_ok {request : SecureActionRequest} (h : validateActionRequest request = .ok ()) :
    request.destinations ≠ [] ∧ validSensitivity request.sensitivity = true ∧
      request.deadline.all checkValid = true := by
  unfold validateActionRequest at h
  split at h
  next => cases h
  next hfields =>
    split at h
    next => cases h
    next =>
      split at h
      next => cases h
      next hdeadline =>
        simp only [not_or, Bool.not_eq_false] at hfields hdeadline
        obtain ⟨-, -, -, -, -, -, hdestinations, hsensitivity⟩ := hfields
        exact ⟨hdestinations, hsensitivity, hdeadline⟩

variable {marshal}

theorem evaluate_ok {gate : Gate} {request : SecureActionRequest} {snapshot : ProtectionSnapshot} {now : Instant}
    {d : SecureActionDecision} (h : gate.evaluate marshal request snapshot now = .ok d) :
    validateActionRequest request = .ok () ∧ describes snapshot request = true ∧
      ((∃ reasons, d = gate.decision marshal request snapshot .block reasons .zero) ∨
        gate.requestWithinPolicy request = true ∧ now < deadlineAt request now ∧
          (cleared snapshot now = true ∧
              d = gate.decision marshal request snapshot .allow (reasonCodes snapshot) .zero ∨
            cleared snapshot now = false ∧
              d = gate.decision marshal request snapshot .hold (holdReasons snapshot) (heldUntil request now))) := by
  unfold Gate.evaluate at h
  cases hvalidate : validateActionRequest request with
  | error err =>
    rw [hvalidate] at h
    cases h
  | ok =>
    rw [hvalidate] at h
    change ite _ _ _ = _ at h
    refine ⟨rfl, ?_⟩
    split at h
    next => cases h
    next hdescribes =>
      refine ⟨Bool.not_eq_false _ ▸ hdescribes, ?_⟩
      split at h
      next => exact .inl ⟨_, (Except.ok.inj h).symm⟩
      next haction =>
        split at h
        next => exact .inl ⟨_, (Except.ok.inj h).symm⟩
        next hdestinations =>
          split at h
          next => cases h
          next =>
            split at h
            next => exact .inl ⟨_, (Except.ok.inj h).symm⟩
            next hdeadline =>
              rw [Bool.not_eq_false] at haction hdestinations
              refine .inr ⟨?_, not_le.mp hdeadline, ?_⟩
              · simp [Gate.requestWithinPolicy, haction, hdestinations, (validateActionRequest_ok hvalidate).1]
              · split at h
                next hcleared => exact .inl ⟨hcleared, (Except.ok.inj h).symm⟩
                next hcleared => exact .inr ⟨Bool.not_eq_true _ ▸ hcleared, (Except.ok.inj h).symm⟩

theorem evaluate_cleared {gate : Gate} {request : SecureActionRequest} {snapshot : ProtectionSnapshot} {now : Instant}
    (hvalidate : validateActionRequest request = .ok ()) (hdescribes : describes snapshot request = true)
    (hpolicy : gate.requestWithinPolicy request = true) (hdeadline : now < deadlineAt request now)
    (hcleared : cleared snapshot now = true) : gate.evaluate marshal request snapshot now =
      .ok (gate.decision marshal request snapshot .allow (reasonCodes snapshot) .zero) := by
  have hvalid := (validateActionRequest_ok hvalidate).2.2
  simp only [Gate.requestWithinPolicy, Bool.and_eq_true] at hpolicy
  obtain ⟨⟨haction, hdestinations⟩, -⟩ := hpolicy
  simp [Gate.evaluate, hvalidate, hdescribes, haction, hdestinations, hvalid, hcleared, hdeadline, bind, Except.bind]

theorem evaluate_allow {gate : Gate} {request : SecureActionRequest} {snapshot : ProtectionSnapshot} {now : Instant}
    {d : SecureActionDecision} (h : gate.evaluate marshal request snapshot now = .ok d) (hallow : d.decision = .allow) :
    describes snapshot request = true ∧ cleared snapshot now = true := by
  obtain ⟨-, hdescribes, hanswer⟩ := evaluate_ok h
  refine ⟨hdescribes, ?_⟩
  rcases hanswer with ⟨reasons, rfl⟩ | ⟨-, -, ⟨hcleared, -⟩ | ⟨-, rfl⟩⟩
  · cases hallow
  · exact hcleared
  · cases hallow

variable (marshal)

end

/-! ## The age of the facts under an allowed action -/

/-- A snapshot of the engine, with where its evidence comes from. -/
def attach (snapshot : ProtectionSnapshot) (provenance : EvidenceProvenance) : ProtectionSnapshot :=
  { snapshot with evidenceProvenance := provenance }

/-- The telemetry and every control the network calls for were known, the controls active, and all of them
were seen at this time or later. -/
structure Grounded (input : Input) (since : Instant) : Prop where
  telemetry : input.telemetryAt.isZero = false ∧ since ≤ input.telemetryAt
  controls : ∀ check ∈ input.checks, check.required = true →
    check.fact.known = true ∧ check.fact.value = true ∧ since ≤ check.fact.observedAt

theorem grounded_of_protected {engine : Engine} {input : Input} {snapshot : ProtectionSnapshot}
    (h : engine.evaluate input = .ok snapshot) (hstate : snapshot.state = .protected) :
    Grounded input (input.evaluatedAt - engine.staleAfter) := by
  obtain ⟨hcurrent, hactive⟩ := evaluate_protected h hstate
  refine ⟨⟨hcurrent.1, hcurrent.seen⟩, fun check hmem hrequired => ?_⟩
  have hcheck := hactive check hmem hrequired
  exact ⟨hcheck.1, hcheck.2.2, hcheck.seen⟩

theorem add_eq_of_protoValid {t d : ℤ} (h : Instant.protoValid (Instant.add t d) = true) : Instant.add t d = t + d := by
  rw [Instant.protoValid, Bool.and_eq_true, decide_eq_true_eq, decide_eq_true_eq] at h
  obtain ⟨total, htotal⟩ : ∃ total : ℤ, total = Instant.add t d := ⟨_, rfl⟩
  rw [← htotal] at h ⊢
  have hend : total < 253402300800 * 1000000000 := h.2
  have hmax : Int64.maxValue.toInt = 2 ^ 63 - 1 := by decide
  simp only [Instant.add, hmax, Instant.ofUnix, Instant.perSecond] at htotal
  split at htotal
  all_goals omega

theorem add_eq_of_lt {t d : ℤ} (ht : t < 253402300800 * 1000000000) (hd : d ≤ 24 * 60 * minute) :
    Instant.add t d = t + d := by
  have hmax : Int64.maxValue.toInt = 2 ^ 63 - 1 := by decide
  change d ≤ 24 * 60 * (60 * 1000000000) at hd
  simp only [Instant.add, hmax, Instant.perSecond]
  exact if_neg (by omega)

theorem add_le_add_of_parses {t u d : ℤ} (ht : Instant.Parses t) (hu : Instant.Parses u) (hle : t ≤ u)
    (hd : d ≤ 24 * 60 * minute) : Instant.add t d ≤ Instant.add u d := by
  rw [add_eq_of_lt ht.2 hd, add_eq_of_lt hu.2 hd]
  exact add_le_add_left hle _

section
variable {marshal : ProtectionSnapshot → Option (List UInt8)} {engine : Engine} {input : Input}
  {snapshot : ProtectionSnapshot} {provenance : EvidenceProvenance} {gate : Gate} {request : SecureActionRequest}
  {now : Instant} {d : SecureActionDecision}

theorem allowed_within (hsnapshot : engine.evaluate input = .ok snapshot)
    (h : gate.evaluate marshal request (attach snapshot provenance) now = .ok d) (hallow : d.decision = .allow) :
    snapshot.state = .protected ∧ input.evaluatedAt.protoValid = true ∧
      (input.evaluatedAt.add engine.staleAfter).protoValid = true ∧ now < input.evaluatedAt + engine.staleAfter := by
  obtain ⟨hstamped, -⟩ := Posture.evaluate_ok hsnapshot
  obtain ⟨hdescribes, hcleared⟩ := evaluate_allow h hallow
  simp only [describes, attach, hstamped.evaluatedAt, hstamped.validUntil, Option.any_some, checkValid_timestamp,
    Bool.and_eq_true] at hdescribes
  simp only [cleared, attach, hstamped.validUntil, asTime_timestamp, Bool.and_eq_true, decide_eq_true_eq] at hcleared
  obtain ⟨⟨-, hevaluated⟩, huntil⟩ := hdescribes
  obtain ⟨⟨hstate, hbefore⟩, -⟩ := hcleared
  rw [add_eq_of_protoValid huntil] at hbefore
  exact ⟨hstate, hevaluated, huntil, hbefore⟩

end

/-- Whenever the gate allows an action on the engine's snapshot, the facts were seen within the freshness of
the engine. -/
def AllowsOnFreshFacts (marshal : ProtectionSnapshot → Option (List UInt8)) (engine : Engine) (input : Input) : Prop :=
  ∀ (gate : Gate) (request : SecureActionRequest) (snapshot : ProtectionSnapshot) (provenance : EvidenceProvenance)
    (now : Instant) (d : SecureActionDecision), engine.evaluate input = .ok snapshot → input.evaluatedAt ≤ now →
      gate.evaluate marshal request (attach snapshot provenance) now = .ok d → d.decision = .allow →
        Grounded input (now - engine.staleAfter)

def openPolicy : Policy := ⟨["*"], ["*"], ["*"], ["*"], ["*"], ["*"], true, minute⟩

theorem openPolicy_bounded : 0 < openPolicy.oneTimeBypassTTL ∧ openPolicy.oneTimeBypassTTL ≤ 15 * minute := by decide

theorem openPolicy_explicit : ∀ values ∈ openPolicy.dimensions, values ≠ [] := by decide

theorem zeroKey_keyed : 32 ≤ (List.replicate 32 (0 : UInt8)).length := by decide

def openGate : Gate := ⟨openPolicy, List.replicate 32 0, zeroKey_keyed, openPolicy_bounded, openPolicy_explicit⟩

def push (nodeId : String) : SecureActionRequest where
  id := "action"
  applicationId := "aether-code"
  nodeId := nodeId
  actionType := "git.push"
  destinations := ["github.com"]
  dataClass := "repository-source"
  sensitivity := .operatorPrivate
  deadline := none
  operationId := "operation"

theorem push_valid {nodeId : String} (h : nodeId ≠ "") : validateActionRequest (push nodeId) = .ok () := by
  simp [validateActionRequest, push, h, validSensitivity]

theorem push_withinPolicy (nodeId : String) : openGate.requestWithinPolicy (push nodeId) = true := by
  simp [Gate.requestWithinPolicy, Gate.actionWithinPolicy, Gate.destinationsWithinPolicy, policyMatches, openGate,
    openPolicy, push]

theorem deadlineAt_push (nodeId : String) {now : ℤ} (h : now < 253402300800 * 1000000000) :
    now < deadlineAt (push nodeId) now := by
  have hsum : deadlineAt (push nodeId) now = now + 30 * Instant.perSecond := add_eq_of_lt h (by decide)
  rw [hsum]
  exact lt_add_of_pos_right now (by decide)

theorem push_allowed (marshal : ProtectionSnapshot → Option (List UInt8)) {engine : Engine} {input : Input}
    {snapshot : ProtectionSnapshot} {now : Instant} (hsnapshot : engine.evaluate input = .ok snapshot)
    (hstate : snapshot.state = .protected) (hevaluated : input.evaluatedAt.protoValid = true)
    (huntil : (input.evaluatedAt.add engine.staleAfter).protoValid = true)
    (hnow : now < input.evaluatedAt + engine.staleAfter) :
    ∃ d, openGate.evaluate marshal (push input.nodeID) (attach snapshot .live) now = .ok d ∧ d.decision = .allow := by
  obtain ⟨hstamped, -⟩ := Posture.evaluate_ok hsnapshot
  have hsum := add_eq_of_protoValid huntil
  have hyears : now < 253402300800 * 1000000000 := by
    rw [Instant.protoValid, hsum, Bool.and_eq_true, decide_eq_true_eq, decide_eq_true_eq] at huntil
    exact hnow.trans huntil.2
  refine ⟨_, evaluate_cleared (push_valid hstamped.named) ?_ (push_withinPolicy _) (deadlineAt_push _ hyears) ?_, rfl⟩
  · simp [describes, attach, push, hstamped.nodeID, hstamped.policyRevision, hstamped.revised, hstamped.evaluatedAt,
      hstamped.validUntil, checkValid_timestamp, hevaluated, huntil]
  · simp [cleared, attach, hstate, hstamped.validUntil, asTime_timestamp, hsum, hnow, validExecutionProvenance]

/-- Allowed actions rest on fresh facts exactly if the facts under a protected verdict were no more than a nanosecond
old when it was given: the verdict holds for as long again as its facts may be old. -/
theorem allowsOnFreshFacts_iff (marshal : ProtectionSnapshot → Option (List UInt8)) (engine : Engine) (input : Input) :
    AllowsOnFreshFacts marshal engine input ↔
      ∀ snapshot, engine.evaluate input = .ok snapshot → snapshot.state = .protected →
        input.evaluatedAt.protoValid = true → (input.evaluatedAt.add engine.staleAfter).protoValid = true →
          input.evaluatedAt - 1 ≤ input.telemetryAt ∧
            ∀ check ∈ input.checks, check.required = true → input.evaluatedAt - 1 ≤ check.fact.observedAt := by
  constructor
  · intro hfresh snapshot hsnapshot hstate hevaluated huntil
    -- the last moment the verdict holds
    obtain ⟨d, hd, hallow⟩ := push_allowed marshal hsnapshot hstate hevaluated huntil
      (show input.evaluatedAt + engine.staleAfter - 1 < input.evaluatedAt + engine.staleAfter from sub_one_lt _)
    have hlater : input.evaluatedAt ≤ input.evaluatedAt + engine.staleAfter - 1 := by
      have hpositive := engine.positive
      have hage (evaluated staleAfter : ℤ) (h : 0 < staleAfter) : evaluated ≤ evaluated + staleAfter - 1 := by omega
      exact hage _ _ hpositive
    have hgrounded := hfresh openGate (push input.nodeID) snapshot .live _ d hsnapshot hlater hd hallow
    have hsince : input.evaluatedAt + engine.staleAfter - 1 - engine.staleAfter = input.evaluatedAt - 1 := by ring
    rw [hsince] at hgrounded
    exact ⟨hgrounded.telemetry.2, fun check hmem hrequired => (hgrounded.controls check hmem hrequired).2.2⟩
  · intro hseen gate request snapshot provenance now d hsnapshot _ hd hallow
    obtain ⟨hstate, hevaluated, huntil, hnow⟩ := allowed_within hsnapshot hd hallow
    obtain ⟨htelemetry, hcontrols⟩ := hseen snapshot hsnapshot hstate hevaluated huntil
    have hgrounded := grounded_of_protected hsnapshot hstate
    have hage (evaluated staleAfter at_ : ℤ) (hbefore : at_ < evaluated + staleAfter) :
        at_ - staleAfter ≤ evaluated - 1 := by omega
    have hsince := hage _ _ _ hnow
    refine ⟨⟨hgrounded.telemetry.1, hsince.trans htelemetry⟩, fun check hmem hrequired => ?_⟩
    obtain ⟨hknown, hvalue, -⟩ := hgrounded.controls check hmem hrequired
    exact ⟨hknown, hvalue, hsince.trans (hcontrols check hmem hrequired)⟩

theorem tenMinutes_valid : 0 < 10 * minute ∧ 10 * minute ≤ 30 * minute := by decide

def tenMinutes : Engine := ⟨10 * minute, tenMinutes_valid.1, tenMinutes_valid.2⟩

def noon : Instant := Instant.ofUnix 1784721600

/-- An active control, last seen nine minutes before noon. -/
def seenEarlier : Fact := ⟨true, true, .verified, one, noon - 9 * minute⟩

def noonInput : Input :=
  ⟨"home", "phone", "policy", 7, noon, noon - 9 * minute, "UNTRUSTED", true, seenEarlier, seenEarlier, seenEarlier,
    seenEarlier⟩

theorem noonInput_protected : ∃ snapshot, tenMinutes.evaluate noonInput = .ok snapshot ∧ snapshot.state = .protected :=
  ⟨_, rfl, rfl⟩

/-- A push at nine minutes past noon is allowed on facts that are then eighteen minutes old. -/
theorem noon_allowed_on_stale_facts : ∃ snapshot d, tenMinutes.evaluate noonInput = .ok snapshot ∧
    openGate.evaluate (fun _ => none) (push "phone") (attach snapshot .live) (noon + 9 * minute) = .ok d ∧
      d.decision = .allow ∧ noonInput.evaluatedAt ≤ noon + 9 * minute ∧
        ¬ Grounded noonInput (noon + 9 * minute - tenMinutes.staleAfter) := by
  obtain ⟨snapshot, hsnapshot, hstate⟩ := noonInput_protected
  obtain ⟨d, hd, hallow⟩ := push_allowed (fun _ => none) hsnapshot hstate (by decide) (by decide)
    (show noon + 9 * minute < noonInput.evaluatedAt + tenMinutes.staleAfter by decide)
  refine ⟨snapshot, d, hsnapshot, hd, hallow, by decide, fun hgrounded => ?_⟩
  exact absurd hgrounded.telemetry.2 (by decide)

end AntiFlock.Actions
