import AntiFlock.Enforcement.Plan

set_option autoImplicit false

/-! # Capability manifests of the wire contract -/
namespace AntiFlock.Proto
open AntiFlock.Events (Timestamp)
open AntiFlock.Enforcement (CapabilityOperation SupportLevel)

inductive CapabilityDomain where
  | unspecified
  | mesh
  | network
  | dns
  | flow
  | process
  | firewall
  | identity
  | certificate
  | notification
  | actionGate
  | scrambler
  | unlisted (number : ℤ)
deriving DecidableEq

structure Capability where
  key : String
  domain : CapabilityDomain
  operations : List CapabilityOperation
  supportLevel : SupportLevel
  implementation : String
  implementationVersion : String
  constraints : List String
  observedAt : Option Timestamp
deriving DecidableEq

structure CapabilityManifest where
  nodeId : String
  revision : ℕ
  issuedAt : Option Timestamp
  expiresAt : Option Timestamp
  capabilities : List Capability
  signature : Option Signature
deriving DecidableEq

end AntiFlock.Proto
