import AntiFlock.Go.Text

set_option autoImplicit false

/-! # Errors, instants, identifiers and digests shared by the driver contract -/
namespace AntiFlock.Driver
open AntiFlock.Go

/-- The sentinel an error wraps, which is all that `errors.Is` sees of it. -/
inductive ErrKind where
  | invalidRequest
  | unsafeTarget
  | targetMismatch
  | reservationInvalid
  | unknownOwnership
  | hostDrift
  | crashInjected
  | recoveryPending
  | journalCorrupt
  | journalActive
  | journalInactive
  | journalOrder
  | journalFull
  | alreadyReserved
  | staleRevision
  | reservationNotTerminal
  | reservationUnknown
  | reservationConflict
  | receiptDuplicate
  | lifecycleOrder
  | planActive
  | noActivePlan
  | approvalMismatch
  | simulationRejected
  | verificationFailed
  | contextDone
  | other
deriving DecidableEq, Repr

def ErrKind.text : ErrKind → String
  | .invalidRequest => "driver request is invalid"
  | .unsafeTarget => "driver target is unsafe"
  | .targetMismatch => "driver apply target does not match the bound target"
  | .reservationInvalid => "driver reservation is invalid"
  | .unknownOwnership => "driver ownership token is unknown"
  | .hostDrift => "host state drifted since capture"
  | .crashInjected => "driver crash injected"
  | .recoveryPending => "lifecycle recovery is pending"
  | .journalCorrupt => "driver journal is corrupt"
  | .journalActive => "driver journal entry is already open"
  | .journalInactive => "driver journal entry is not open"
  | .journalOrder => "driver journal step must advance"
  | .journalFull => "driver journal is full"
  | .alreadyReserved => "plan is already reserved"
  | .staleRevision => "plan revision is stale"
  | .reservationNotTerminal => "reservation can only be released by a terminal step"
  | .reservationUnknown => "reservation is unknown"
  | .reservationConflict => "reservation was already released with a different result"
  | .receiptDuplicate => "driver receipt already recorded"
  | .lifecycleOrder => "driver lifecycle step is out of order"
  | .planActive => "another plan is active in this lifecycle"
  | .noActivePlan => "no plan is active in this lifecycle"
  | .approvalMismatch => "approval does not bind to the active plan"
  | .simulationRejected => "simulation predicted the operation would fail"
  | .verificationFailed => "post-apply verification failed"
  | .contextDone => "context deadline exceeded"
  | .other => ""

/-- An error: its sentinel and the text wrapped around it. -/
structure Err where
  kind : ErrKind
  detail : String := ""
deriving DecidableEq, Repr

namespace Err

def text (e : Err) : String :=
  if e.kind = .other then e.detail
  else if e.detail = "" then e.kind.text
  else e.kind.text ++ ": " ++ e.detail

/-- `fmt.Errorf("%w: ...", err)`. -/
def wrap (e : Err) (note : String) : Err :=
  { e with detail := if e.detail = "" then note else e.detail ++ ": " ++ note }

end Err

/-- Nanoseconds since the zero `time.Time`. -/
abbrev Time := ℤ

def isZero (t : Time) : Bool := t == 0

def unixSeconds (t : Time) : ℤ := t / 1000000000 - 62135596800

def nanosecond (t : Time) : ℤ := t % 1000000000

/-- A `time.Duration` in nanoseconds. -/
abbrev Duration := ℤ

def second : Duration := 1000000000

def contractVersion : ℕ := 1
def maxIdentifierLength : ℕ := 128
def maxTargetLength : ℕ := 256
def maxSnapshotEntries : ℕ := 4096
def maxSnapshotValueLength : ℕ := 1024
def maxDiffLines : ℕ := 4096
def maxDiffLineLength : ℕ := 512
def maxReasonCodes : ℕ := 32
def maxOperationTimeout : Duration := 120 * second

def printableASCII (value : String) : Bool := (bytes value).all printable

def validIdentifier (value : String) : Bool :=
  !(value == "" || len value > maxIdentifierLength || !printableASCII value) &&
    !containsAny value " \t"

def reasonByte (b : UInt8) : Bool := between 'A' 'Z' b || between '0' '9' b || between '-' '-' b

def validReasonCode (value : String) : Bool :=
  hasPrefix value "AF-" && len value ≤ maxIdentifierLength && (bytes value).all reasonByte

def validDigest (value : String) : Bool := len value == 64 && (bytes value).all hexByte

def validateTarget (target : String) : Option Err :=
  if target == "" || len target > maxTargetLength then
    some ⟨.unsafeTarget, "target is empty or longer than 256 bytes"⟩
  else if !printableASCII target then
    some ⟨.unsafeTarget, "target contains control or non-ASCII characters"⟩
  else if containsAny target " \t;|&$`<>()\x7b\x7d[]*?!~'\"\\#" then
    some ⟨.unsafeTarget, "target contains whitespace or shell metacharacters"⟩
  else none

def validateReasonCodes (codes : List String) : Option Err :=
  if codes.length == 0 || codes.length > maxReasonCodes then
    some ⟨.invalidRequest, "between 1 and 32 reason codes are required"⟩
  else if codes.any (!validReasonCode ·) then
    some ⟨.invalidRequest, "reason code is not a bounded AF- identifier"⟩
  else none

theorem check_eq_none {c : Prop} [Decidable c] {ε : Type} {err : ε} {rest : Option ε} :
    (if c then some err else rest) = none ↔ ¬ c ∧ rest = none := by
  split <;> simp_all

theorem optional_eq_none {c : Prop} [Decidable c] {inner : Option Err} :
    (if c then inner else none) = none ↔ ¬ c ∨ inner = none := by
  split <;> simp_all

/-- The bytes a `digestWriter` has hashed so far. -/
structure DigestWriter where
  written : List UInt8

namespace DigestWriter

def bytes (w : DigestWriter) (value : List UInt8) : DigestWriter :=
  ⟨w.written ++ Sha256.beBytes 4 value.length ++ value⟩

def str (w : DigestWriter) (value : String) : DigestWriter := w.bytes (Go.bytes value)

def uint (w : DigestWriter) (value : ℕ) : DigestWriter := w.bytes (Sha256.beBytes 8 value)

def strs (w : DigestWriter) (values : List String) : DigestWriter :=
  values.foldl str (w.uint values.length)

/-- The conversion `uint64(value)` of a signed integer. -/
def int (w : DigestWriter) (value : ℤ) : DigestWriter := w.uint (value % 2 ^ 64).toNat

def time (w : DigestWriter) (value : Time) : DigestWriter :=
  (w.int (unixSeconds value)).int (nanosecond value)

def hex (w : DigestWriter) : String := hexEncode (Sha256.sum256 w.written)

end DigestWriter

def newDigest (domain : String) : DigestWriter := (DigestWriter.mk []).str domain

theorem printableASCII_of_hex {value : String} (h : (bytes value).all hexByte = true) :
    printableASCII value = true := by
  simp only [printableASCII, List.all_eq_true] at h ⊢
  exact fun b hb => printable_of_hexByte (h b hb)

theorem validDigest_hex (w : DigestWriter) : validDigest w.hex = true := by
  obtain ⟨hl, hc⟩ := bytes_hexEncode (Sha256.sum256 w.written)
  rw [Sha256.length_sum256] at hl
  simp [validDigest, len, DigestWriter.hex, hl, hc]

theorem validIdentifier_of_validDigest {value : String} (h : validDigest value = true) :
    validIdentifier value = true := by
  simp only [validDigest, Bool.and_eq_true, beq_iff_eq] at h
  obtain ⟨hl, hc⟩ := h
  have hp := printableASCII_of_hex hc
  have hne : value ≠ "" := by
    rintro rfl
    exact absurd hl (by decide)
  have hspace : containsAny value " \t" = false := by
    simp only [containsAny, List.any_eq_false]
    intro b hmem hany
    have hb := toNat_of_hexByte (List.all_eq_true.mp hc b hmem)
    have hblank : ((bytes " \t").all fun blank => blank.toNat < 0x30) = true := by decide
    have := of_decide_eq_true (List.all_eq_true.mp hblank b (List.contains_iff_mem.mp hany))
    omega
  simp [validIdentifier, hne, hl, hp, hspace, maxIdentifierLength]

end AntiFlock.Driver
