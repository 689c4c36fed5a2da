import AntiFlock.Go.Encoding
import AntiFlock.Go.Except
import AntiFlock.Go.Sha256
import Mathlib.Data.List.ProdSigma
import Mathlib.Data.List.Sort
import Mathlib.Data.Set.Function
import Mathlib.Data.String.Basic

set_option autoImplicit false

/-!
# Candidates of the scrambler

`Simulate` combines every approved exit with every approved DNS profile. A dimension that
is not allowed takes part under the name `unchanged`, and the identifier of a candidate is a
hash over both names with a zero byte between them.
-/
namespace AntiFlock.Scrambler
open AntiFlock.Go

/-! ## Messages -/

inductive ScramblerDimension where
  | unspecified
  | exitNode
  | dnsProfile
  | relayPreference
  | routeSet
  | serviceInstance
  | overlayAddress
  | keyEpoch
  | unrecognized (number : ℤ)
  deriving DecidableEq

def ScramblerDimension.text : ScramblerDimension → String
  | .unspecified => "SCRAMBLER_DIMENSION_UNSPECIFIED"
  | .exitNode => "SCRAMBLER_DIMENSION_EXIT_NODE"
  | .dnsProfile => "SCRAMBLER_DIMENSION_DNS_PROFILE"
  | .relayPreference => "SCRAMBLER_DIMENSION_RELAY_PREFERENCE"
  | .routeSet => "SCRAMBLER_DIMENSION_ROUTE_SET"
  | .serviceInstance => "SCRAMBLER_DIMENSION_SERVICE_INSTANCE"
  | .overlayAddress => "SCRAMBLER_DIMENSION_OVERLAY_ADDRESS"
  | .keyEpoch => "SCRAMBLER_DIMENSION_KEY_EPOCH"
  | .unrecognized number => toString number

/-- `durationpb.Duration` -/
structure Duration where
  seconds : ℤ
  nanos : ℤ

def Duration.checkValid (d : Duration) : Bool :=
  -315576000000 ≤ d.seconds ∧ d.seconds ≤ 315576000000 ∧ -1000000000 < d.nanos ∧ d.nanos < 1000000000 ∧
    ¬ (0 < d.seconds ∧ d.nanos < 0) ∧ ¬ (d.seconds < 0 ∧ 0 < d.nanos)

/-- In nanoseconds, and as far as 64 bits reach. -/
def Duration.asDuration (d : Duration) : ℤ :=
  max (-2 ^ 63) (min (2 ^ 63 - 1) (d.seconds * 1000000000 + d.nanos))

structure ScramblerState where
  id : String
  nodeId : String

structure ScramblerConstraints where
  allowedDimensions : List ScramblerDimension
  approvedExitNodeIds : List String
  approvedDnsProfileIds : List String
  criticalPeerIds : List String
  requiredDestinations : List String
  maximumTransitionLatency : Option Duration
  operatorConsentRequired : Bool

structure ScramblerStateValue where
  dimension : ScramblerDimension
  stableReference : String
  parameters : List (String × Bool)

inductive ScramblerCandidateStatus where
  | proposed
  | rejected
  deriving DecidableEq

structure ScramblerCandidate where
  id : String
  previousStateId : String
  proposedValues : List ScramblerStateValue
  status : ScramblerCandidateStatus
  rejectionReasonCodes : List String
  estimatedDisruption : ℤ

/-- Times in nanoseconds. -/
structure ScramblerSimulation where
  id : String
  nodeId : String
  currentStateId : String
  constraints : ScramblerConstraints
  candidates : List ScramblerCandidate
  simulatedAt : ℤ
  expiresAt : ℤ

/-! ## Checks and identifiers -/

def bounded (value : String) (maximum : ℕ) : Bool := value ≠ "" && len value ≤ maximum && trimSpace value = value

def uniqueFrom (maximumLength : ℕ) : List String → List String → Bool
  | _, [] => true
  | seen, value :: values =>
    bounded value maximumLength && !seen.contains value && uniqueFrom maximumLength (value :: seen) values

def validUniqueStrings (values : List String) (minimum maximum maximumLength : ℕ) : Bool :=
  !(values.length < minimum || maximum < values.length) && uniqueFrom maximumLength [] values

/-- What is hashed: every value behind a zero byte. -/
def preimage (kind : String) (values : List String) : List UInt8 :=
  bytes ("AntiFlock-Scrambler-v1\x00" ++ kind) ++ values.flatMap fun value => 0 :: bytes value

def shortSum (message : List UInt8) : List UInt8 := (Sha256.sum256 message).take 16

def stableID (kind : String) (values : List String) : String :=
  kind ++ "_" ++ hexEncode (shortSum (preimage kind values))

/-! ## The planner -/

def second : ℤ := 1000000000

structure Planner where
  ttl : ℤ
  positive : 0 < ttl
  short : ttl ≤ 15 * 60 * second

def new (ttl : ℤ) : Except String Planner :=
  if h : ttl ≤ 0 ∨ 15 * 60 * second < ttl then
    .error "scrambler simulation TTL must be positive and no more than 15 minutes"
  else .ok ⟨ttl, by omega, by omega⟩

def checkDimensions : List ScramblerDimension → List ScramblerDimension → Except String Unit
  | _, [] => .ok ()
  | seen, dimension :: dimensions =>
    if dimension ≠ .exitNode ∧ dimension ≠ .dnsProfile then
      .error ("scrambler dimension " ++ dimension.text ++ " is outside the simulation boundary")
    else if dimension ∈ seen then .error "scrambler dimensions must be unique"
    else checkDimensions (dimension :: seen) dimensions

def maximumLatency : Option Duration → Except String ℤ
  | none => .ok (30 * second)
  | some d =>
    if d.checkValid = false ∨ d.asDuration ≤ 0 ∨ 5 * 60 * second < d.asDuration then
      .error "maximum transition latency is invalid"
    else .ok d.asDuration

/-- The references of one dimension. -/
def references (allowed : Bool) (approved : List String) (invalid unexpected : String) : Except String (List String) :=
  if allowed then if validUniqueStrings approved 1 16 128 then .ok approved else .error invalid
  else if approved.length ≠ 0 then .error unexpected
  else .ok ["unchanged"]

/-- `sort.Strings` -/
def sortStrings (values : List String) : List String := values.insertionSort fun left right => ¬ right < left

def value (dimension : ScramblerDimension) (reference : String) : List ScramblerStateValue :=
  if reference ≠ "unchanged" then [⟨dimension, reference, [("approved", true), ("simulation", true)]⟩] else []

def candidate (simulationID stateID : String) (latency : ℤ) (reference : String × String) : ScramblerCandidate :=
  let values := value .exitNode reference.1 ++ value .dnsProfile reference.2
  let estimated := 5 * second
  let rejected : Bool := latency < estimated || values.length = 0
  { id := stableID "candidate" [simulationID, reference.1, reference.2]
    previousStateId := stateID
    proposedValues := values
    status := if rejected then .rejected else .proposed
    rejectionReasonCodes := if rejected then ["AF-SCRAMBLER-NO-SAFE-CHANGE"] else []
    estimatedDisruption := estimated }

def requireThat (condition : Bool) (message : String) : Except String Unit :=
  if condition then .ok () else .error message

def simulateState (planner : Planner) (nodeID operationID : String) (current : ScramblerState)
    (constraints : ScramblerConstraints) (now : ℤ) : Except String ScramblerSimulation := do
  requireThat (bounded nodeID 128 && bounded operationID 128 && current.nodeId = nodeID && bounded current.id 128)
    "node, operation, current state, and constraints are required"
  requireThat (!(constraints.allowedDimensions.length = 0 || 4 < constraints.allowedDimensions.length))
    "scrambler simulation requires between one and four dimensions"
  checkDimensions [] constraints.allowedDimensions
  let latency ← maximumLatency constraints.maximumTransitionLatency
  let exits ← references (constraints.allowedDimensions.contains .exitNode) constraints.approvedExitNodeIds
    "exit-node simulation requires bounded unique approved exits"
    "approved exits require the exit-node simulation dimension"
  let dnsProfiles ← references (constraints.allowedDimensions.contains .dnsProfile) constraints.approvedDnsProfileIds
    "DNS-profile simulation requires bounded unique approved profiles"
    "approved DNS profiles require the DNS-profile simulation dimension"
  requireThat (validUniqueStrings constraints.criticalPeerIds 0 64 128 &&
      validUniqueStrings constraints.requiredDestinations 0 64 512)
    "scrambler verification targets must be unique and bounded"
  requireThat (!(64 < exits.length * dnsProfiles.length)) "scrambler candidate cross-product exceeds 64"
  let simulationID := stableID "simulation" [nodeID, current.id, operationID]
  return {
    id := simulationID
    nodeId := nodeID
    currentStateId := current.id
    constraints := constraints
    candidates := ((sortStrings exits).product (sortStrings dnsProfiles)).map (candidate simulationID current.id latency)
    simulatedAt := now
    expiresAt := now + planner.ttl }

def simulate (planner : Planner) (nodeID operationID : String) (current : Option ScramblerState)
    (constraints : Option ScramblerConstraints) (now : ℤ) : Except String ScramblerSimulation :=
  match current, constraints with
  | some current, some constraints => simulateState planner nodeID operationID current constraints now
  | _, _ => .error "node, operation, current state, and constraints are required"

/-! ## What the candidates stand for -/

section Intended
variable (constraints : ScramblerConstraints)

def approved : ScramblerDimension → List String
  | .exitNode => constraints.approvedExitNodeIds
  | .dnsProfile => constraints.approvedDnsProfileIds
  | _ => []

end Intended

def members (dimension : ScramblerDimension) (choice : Option String) : List (ScramblerDimension × String) :=
  choice.toList.map fun member => (dimension, member)

/-- The message behind the identifier of a candidate. -/
def message (simulationID : String) (pair : Option String × Option String) : List UInt8 :=
  preimage "candidate" [simulationID, pair.1.getD "unchanged", pair.2.getD "unchanged"]

/-! ## The references of a simulation -/

/-- The choice a reference stands for. -/
def choice (constraints : ScramblerConstraints) (dimension : ScramblerDimension) (reference : String) : Option String :=
  if dimension ∈ constraints.allowedDimensions then some reference else none

/-- The references of a dimension: the approved members, or the one name for no change. -/
structure Referenced (constraints : ScramblerConstraints) (dimension : ScramblerDimension) (refs : List String) : Prop where
  nodup : refs.Nodup
  nonempty : refs ≠ []
  allowed : dimension ∈ constraints.allowedDimensions → ∀ r, r ∈ refs ↔ r ∈ approved constraints dimension
  unchanged : dimension ∉ constraints.allowedDimensions → refs = ["unchanged"] ∧ approved constraints dimension = []

variable {constraints : ScramblerConstraints} {dimension : ScramblerDimension} {refs : List String}

theorem Referenced.sorted (h : Referenced constraints dimension refs) :
    Referenced constraints dimension (sortStrings refs) := by
  have hperm : (sortStrings refs).Perm refs := List.perm_insertionSort _ refs
  constructor
  · exact hperm.nodup_iff.mpr h.nodup
  · intro hnil
    exact h.nonempty (List.perm_nil.mp (hnil ▸ hperm).symm)
  · intro hallowed r
    exact hperm.mem_iff.trans (h.allowed hallowed r)
  · intro hnot
    obtain ⟨hrefs, hnone⟩ := h.unchanged hnot
    exact ⟨List.perm_singleton.mp (hrefs ▸ hperm), hnone⟩

theorem requireThat_ok {condition : Bool} {message : String} {x : Unit} (h : requireThat condition message = .ok x) :
    condition = true := by
  unfold requireThat at h
  split at h
  · assumption
  · cases h

variable {planner : Planner} {nodeID operationID : String} {current : Option ScramblerState} {now : ℤ}
  {simulation : ScramblerSimulation}

section Planned
variable {exits dnsProfiles : List String} {f : String × String → ScramblerCandidate}

end Planned

def shortPlanner : Planner := ⟨second, by decide, by decide⟩

def exitsAndProfiles (exits dnsProfiles : List String) : ScramblerConstraints :=
  ⟨[.exitNode, .dnsProfile], exits, dnsProfiles, [], [], none, true⟩

def simulated (exits dnsProfiles : List String) : Except String ScramblerSimulation :=
  simulate shortPlanner "node" "operation" (some ⟨"state", "node"⟩) (some (exitsAndProfiles exits dnsProfiles)) 0

end AntiFlock.Scrambler
