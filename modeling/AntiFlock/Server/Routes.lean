import AntiFlock.Go.Instant
import AntiFlock.Go.Url

set_option autoImplicit false

/-!
# Routes and authentication of the Core API

The router matches the segments of the escaped path, one by one; the scope a
caller needs is read off the unescaped path as a whole.
-/
namespace AntiFlock.Server
open AntiFlock.Go

inductive Scope where
  | dashboardRead
  | operatorMutate
  | enrollmentAdmin
  | actionsExecute
  | actionsAuthorize
  | agentIngest
deriving DecidableEq

/-- The fields of a verified leaf certificate that are read. -/
structure Leaf where
  commonName : String
  organization : List String
  clientAuth : Bool

/-- A request that has been parsed: the escapes of its path are in order. -/
structure Request where
  method : String
  escapedPath : List UInt8
  path : List UInt8
  parsed : Url.unescape escapedPath = some path
  authorization : List String
  leaf : Option Leaf

/-! ## Routing -/

inductive Segment where
  | lit (text : String)
  | var
deriving DecidableEq

structure Pattern where
  method : String
  segments : List Segment
deriving DecidableEq

inductive NodeStatus where
  | active
  | suspended
  | revoked
deriving DecidableEq

inductive Handler where
  | health
  | ready
  | overview
  | nodes
  | topology
  | paths
  | events
  | eventBatch
  | findings
  | listWatchdogs
  | admitWatchdog
  | runWatchdog
  | runWatchdogOpenFindings
  | posture
  | postureReport
  | emptyList (name : String)
  | footprint
  | scrambler
  | simulateScrambler
  | activateScrambler
  | validatePolicy
  | compilePolicy
  | stream
  | listActions
  | evaluateAction
  | waitAction
  | authorizeAction
  | actionAudit
  | createEnrollmentToken
  | enrollNode
  | approveEnrollment
  | denyEnrollment
  | updateNodeMetadata
  | nodeStatus (status : NodeStatus)
  | unavailable
deriving DecidableEq

structure Route where
  pattern : Pattern
  handler : Handler
deriving DecidableEq

def route (method : String) (segments : List Segment) (handler : Handler) : Route := ⟨⟨method, segments⟩, handler⟩

open Segment in
def routes : List Route :=
  [route "GET" [lit "healthz"] .health,
    route "GET" [lit "readyz"] .ready,
    route "GET" [lit "v1", lit "overview"] .overview,
    route "GET" [lit "v1", lit "nodes"] .nodes,
    route "GET" [lit "v1", lit "topology"] .topology,
    route "GET" [lit "v1", lit "paths"] .paths,
    route "GET" [lit "v1", lit "events"] .events,
    route "POST" [lit "v1", lit "events", lit "batch"] .eventBatch,
    route "POST" [lit "v1", lit "telemetry", lit "events:submit"] .eventBatch,
    route "GET" [lit "v1", lit "findings"] .findings,
    route "GET" [lit "v1", lit "watchdogs"] .listWatchdogs,
    route "POST" [lit "v1", lit "watchdogs"] .admitWatchdog,
    route "POST" [lit "v1", lit "watchdogs", var, lit "run"] .runWatchdog,
    route "POST" [lit "v1", lit "watchdogs", var, lit "run-open-findings"] .runWatchdogOpenFindings,
    route "GET" [lit "v1", lit "posture"] .posture,
    route "POST" [lit "v1", lit "posture", lit "report"] .postureReport,
    route "GET" [lit "v1", lit "field", lit "reports"] (.emptyList "reports"),
    route "GET" [lit "v1", lit "footprint"] .footprint,
    route "GET" [lit "v1", lit "scrambler", lit "state"] .scrambler,
    route "POST" [lit "v1", lit "scrambler", lit "simulate"] .simulateScrambler,
    route "POST" [lit "v1", lit "scrambler", lit "activate"] .activateScrambler,
    route "POST" [lit "v1", lit "policies", lit "validate"] .validatePolicy,
    route "POST" [lit "v1", lit "policies", lit "compile"] .compilePolicy,
    route "GET" [lit "v1", lit "stream"] .stream,
    route "GET" [lit "v1", lit "actions"] .listActions,
    route "POST" [lit "v1", lit "actions", lit "evaluate"] .evaluateAction,
    route "POST" [lit "v1", lit "actions", var, lit "wait"] .waitAction,
    route "POST" [lit "v1", lit "actions", var, lit "authorize"] .authorizeAction,
    route "POST" [lit "v1", lit "actions", var, lit "audit"] .actionAudit,
    route "POST" [lit "v1", lit "enrollment", lit "tokens"] .createEnrollmentToken,
    route "POST" [lit "v1", lit "enrollment", lit "nodes"] .enrollNode,
    route "POST" [lit "v1", lit "enrollment", var, lit "approve"] .approveEnrollment,
    route "POST" [lit "v1", lit "enrollment", var, lit "deny"] .denyEnrollment,
    route "PATCH" [lit "v1", lit "nodes", var] .updateNodeMetadata,
    route "POST" [lit "v1", lit "nodes", var, lit "suspend"] (.nodeStatus .suspended),
    route "POST" [lit "v1", lit "nodes", var, lit "reactivate"] (.nodeStatus .active),
    route "POST" [lit "v1", lit "nodes", var, lit "revoke"] (.nodeStatus .revoked),
    route "POST" [lit "v1", lit "plans", var, lit "apply"] .unavailable,
    route "POST" [lit "v1", lit "plans", var, lit "rollback"] .unavailable,
    route "POST" [lit "v1", lit "field", lit "reports"] .unavailable,
    route "POST" [lit "v1", lit "footprint", lit "assets"] .unavailable]

/-- A literal matches itself. A variable matches anything but an empty segment and one that is a
slash, which stand for the end of a path. -/
def Segment.matches : Segment → List UInt8 → Bool
  | .lit text, segment => segment = bytes text
  | .var, segment => segment ≠ [] && segment ≠ [Url.slash]

def matchesAll : List Segment → List (List UInt8) → Bool
  | [], [] => true
  | p :: ps, s :: ss => p.matches s && matchesAll ps ss
  | _, _ => false

def Pattern.accepts (pattern : Pattern) (method : String) : Bool :=
  method = pattern.method || (method = "HEAD" && pattern.method = "GET")

/-- A path that the router takes as it is: the others are redirected to their clean form. -/
def clean (parts : List (List UInt8)) : Bool :=
  parts.dropLast.all (· ≠ []) && parts.all fun part => part ≠ bytes "." && part ≠ bytes ".."

/-- The unescaped segments of a path that starts with a slash. -/
def Request.segments (request : Request) : Option (List (List UInt8)) :=
  match Url.segments request.escapedPath with
  | [] :: parts => if clean parts then parts.mapM Url.unescape else none
  | _ => none

def Request.route (request : Request) : Option Route :=
  match request.segments with
  | none => none
  | some parts => routes.find? fun r => r.pattern.accepts request.method && matchesAll r.pattern.segments parts

/-! ## Authentication -/

structure Principal where
  id : String
  scopes : List Scope
  nodeID : String
  applicationID : String
  expiresAt : Instant
  requireMTLS : Bool

def Principal.hasScope (value : Principal) (scope : Scope) : Bool := value.scopes.contains scope

structure CredentialDigest where
  digest : List UInt8
  principal : Principal

/-- What a request is served with: the credentials, the clock, the nodes of the database and whether
a request slot is free. -/
structure Service where
  credentials : List CredentialDigest
  now : Instant
  deploymentID : String
  nodes : String → Option NodeStatus
  slotFree : Bool

/-- The token of the one `Authorization` header, or the empty text. -/
def candidate (authorization : List String) : List UInt8 :=
  match authorization with
  | [value] =>
    if hasPrefix value "Bearer " && (bytes value).count ' '.toUInt8 = 1 then (bytes value).drop (bytes "Bearer ").length
    else []
  | _ => []

def matched (credentials : List CredentialDigest) (actual : List UInt8) : Option CredentialDigest :=
  credentials.reverse.find? (·.digest = actual)

/-- `tokenAuthenticator.authenticate`. -/
def Service.authenticator (service : Service) (request : Request) : Option Principal :=
  let token := candidate request.authorization
  match matched service.credentials (Sha256.sum256 token) with
  | none => none
  | some credential =>
    if token = [] then none
    else if !credential.principal.expiresAt.isZero ∧ ¬ service.now < credential.principal.expiresAt then none
    else some credential.principal

def Service.enrolledNodePrincipal (service : Service) (request : Request) : Option Principal :=
  match request.leaf with
  | none => none
  | some leaf =>
    let nodeID := trimSpace leaf.commonName
    if nodeID = "" ∨ service.deploymentID ∉ leaf.organization ∨ leaf.clientAuth = false then none
    else if service.nodes nodeID ≠ some .active then none
    else some ⟨"node:" ++ nodeID, [.agentIngest], nodeID, "", Instant.zero, true⟩

def Principal.validatePeerCertificate (value : Principal) (request : Request) (deploymentID : String) : Bool :=
  if !value.requireMTLS then true
  else
    match request.leaf with
    | none => false
    | some leaf => leaf.commonName = value.nodeID && deploymentID ∈ leaf.organization && leaf.clientAuth

/-- The scope that is read off a method and an unescaped path. -/
def scopeOf (method : String) (path : List UInt8) : Option Scope :=
  if method = "POST" ∧ bytes "/v1/actions/" <+: path ∧ bytes "/authorize" <:+ path then
    some .actionsAuthorize
  else if bytes "/v1/actions/" <+: path then some .actionsExecute
  else if path = bytes "/v1/events/batch" ∨ path = bytes "/v1/telemetry/events:submit" ∨ path = bytes "/v1/posture/report" then
    some .agentIngest
  else if path = bytes "/v1/enrollment/tokens" ∨ bytes "/approve" <:+ path ∨ bytes "/deny" <:+ path then
    some .enrollmentAdmin
  else if method = "GET" then some .dashboardRead
  else if method = "POST" ∨ method = "PATCH" then some .operatorMutate
  else none

def requiredScope (request : Request) : Option Scope := scopeOf request.method request.path

inductive Response where
  | unauthenticated
  | forbidden
  | nodeCredentialRequired
  | nodeInactive
  | rateLimited
  | unrouted
  | handled (route : Route) (principal : Option Principal)

/-- What is behind authentication: the limit on requests at a time and the router. -/
def Service.dispatch (service : Service) (request : Request) (principal : Option Principal) : Response :=
  if !service.slotFree then .rateLimited
  else
    match request.route with
    | none => .unrouted
    | some route => .handled route principal

def openPath (method : String) (path : List UInt8) : Bool :=
  path = bytes "/healthz" || path = bytes "/readyz" || (method = "POST" && path = bytes "/v1/enrollment/nodes")

/-- `authenticate` around the router. -/
def Service.serve (service : Service) (request : Request) : Response :=
  if openPath request.method request.path then service.dispatch request none
  else
    match (service.authenticator request).or (service.enrolledNodePrincipal request) with
    | none => .unauthenticated
    | some value =>
      match requiredScope request with
      | none => .forbidden
      | some required =>
        if !value.hasScope required then .forbidden
        else if !value.validatePeerCertificate request service.deploymentID then .nodeCredentialRequired
        else if required = .agentIngest ∧ service.nodes value.nodeID ≠ some .active then .nodeInactive
        else service.dispatch request (some value)

end AntiFlock.Server
