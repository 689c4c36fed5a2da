import AntiFlock.Enforcement.Durable
import AntiFlock.Events.Signing
import AntiFlock.Proto.Common

set_option autoImplicit false

/-!
# Plans and their validation

A plan is checked field by field before anything is done for it: its target, its
identity, its times, its signature, and then every check and operation it is made
of. `validatePlanMode` makes these checks with or without those of what the node
can do.
-/
namespace AntiFlock

/-! ## Messages -/

namespace Enforcement
open AntiFlock.Go AntiFlock.Proto
open AntiFlock.Events (Timestamp)

inductive CapabilityOperation where
  | unspecified
  | observe
  | enforce
  | verify
  | rollback
  | unlisted (number : ℤ)
deriving DecidableEq

inductive SupportLevel where
  | unspecified
  | unsupported
  | partly
  | full
  | experimental
  | unlisted (number : ℤ)
deriving DecidableEq

structure Capability where
  key : String
  operations : List CapabilityOperation
  supportLevel : SupportLevel

structure CapabilityManifest where
  nodeId : String
  capabilities : List Capability

structure CapabilityRequirement where
  key : String
  requiredOperations : List CapabilityOperation
  minimumSupportLevel : SupportLevel

end Enforcement

/-! ## The signature of a plan -/

namespace Enforcement
open AntiFlock.Go AntiFlock.Proto
open AntiFlock.Events (Timestamp Scheme asTime checkValid)

/-! ## Requirements and their support -/

def validCapabilityRequirements (requirements : List CapabilityRequirement) : Bool :=
  !requirements.isEmpty && requirements.all fun requirement =>
    safePlanToken requirement.key && !requirement.requiredOperations.isEmpty &&
      requirement.minimumSupportLevel ≠ .unspecified

def supportSatisfies (actual : SupportLevel) : SupportLevel → Bool
  | .unsupported => actual ≠ .unspecified
  | .partly => actual = .partly || actual = .full
  | .full => actual = .full
  | .experimental => actual = .experimental
  | .unspecified | .unlisted _ => false

/-- The manifest has a capability that meets a requirement. -/
def CapabilityManifest.supports (manifest : CapabilityManifest) (requirement : CapabilityRequirement) : Bool :=
  manifest.capabilities.any fun capability =>
    capability.key = requirement.key && supportSatisfies capability.supportLevel requirement.minimumSupportLevel &&
      requirement.requiredOperations.all fun operation =>
        operation ≠ .unspecified && capability.operations.contains operation

def CapabilityManifest.supportsAll (manifest : CapabilityManifest) (requirements : List CapabilityRequirement) : Bool :=
  validCapabilityRequirements requirements && requirements.all manifest.supports

end Enforcement
end AntiFlock
