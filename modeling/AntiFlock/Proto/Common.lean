import AntiFlock.Events.Message
import AntiFlock.Go.Map

set_option autoImplicit false

/-!
# Types of the wire contract that several messages share

An enumeration of the contract is open: a number that has no name is kept. A
message that is `nil` inside a list or a map reads as an empty one.
-/
namespace AntiFlock.Proto
open AntiFlock.Go
open AntiFlock.Events (Timestamp)

inductive Sensitivity where
  | unspecified
  | «public»
  | internal
  | operatorPrivate
  | restricted
  | secret
  /-- A number that is none of the levels. -/
  | unlisted (number : ℤ)
deriving DecidableEq

def Sensitivity.text : Sensitivity → String
  | unspecified => "SENSITIVITY_UNSPECIFIED"
  | «public» => "SENSITIVITY_PUBLIC"
  | internal => "SENSITIVITY_INTERNAL"
  | operatorPrivate => "SENSITIVITY_OPERATOR_PRIVATE"
  | restricted => "SENSITIVITY_RESTRICTED"
  | secret => "SENSITIVITY_SECRET"
  | unlisted number => toString number

inductive SignatureAlgorithm where
  | unspecified
  | ed25519
  | ecdsaP256Sha256
  | unlisted (number : ℤ)
deriving DecidableEq

inductive SignatureEncoding where
  | unspecified
  | protobufDeterministicV1
  | unlisted (number : ℤ)
deriving DecidableEq

structure Signature where
  keyId : String
  algorithm : SignatureAlgorithm
  value : List UInt8
  signedAt : Option Timestamp
  encoding : SignatureEncoding
  signedContentDigest : Option Storage.IntegrityDigest
  domain : String
deriving DecidableEq

/-! ## Durations -/

def minute : ℤ := 60 * Instant.perSecond

end AntiFlock.Proto
