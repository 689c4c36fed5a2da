import AntiFlock.Go.Encoding
import AntiFlock.Go.Sha256

set_option autoImplicit false

/-! # Keyed tags: HMAC with SHA-256, in URL-safe base64 -/
namespace AntiFlock.Go

/-- `base64.RawURLEncoding.EncodeToString`. -/
def rawURLBase64 (bs : List UInt8) : String :=
  String.ofList ((rawBase64 bs).map fun c => if c = '+' then '-' else if c = '/' then '_' else c)

def urlSextet (c : Char) : Option ℕ :=
  (base64Alphabet.map fun c => if c = '+' then '-' else if c = '/' then '_' else c).idxOf? c

/-- Groups of four characters, of which the last may be shorter. Bits that are left over are dropped. -/
def decodeSextets : List ℕ → Option (List UInt8)
  | [] => some []
  | [_] => none
  | [a, b] => some [UInt8.ofNat (a * 4 + b / 16)]
  | [a, b, c] => some [UInt8.ofNat (a * 4 + b / 16), UInt8.ofNat (b % 16 * 16 + c / 4)]
  | a :: b :: c :: d :: rest => (decodeSextets rest).map fun bs =>
      UInt8.ofNat (a * 4 + b / 16) :: UInt8.ofNat (b % 16 * 16 + c / 4) :: UInt8.ofNat (c % 4 * 64 + d) :: bs

/-- `base64.RawURLEncoding.DecodeString`, which skips line breaks. -/
def decodeRawURLBase64 (s : String) : Option (List UInt8) :=
  ((s.toList.filter fun c => c ≠ '\r' ∧ c ≠ '\n').mapM urlSextet).bind decodeSextets

example : decodeRawURLBase64 (rawURLBase64 [251, 255, 0, 7]) = some [251, 255, 0, 7] := by decide

namespace Hmac

def blockSize : ℕ := 64

/-- A key as one block: hashed if it is longer, filled up with zeros if it is shorter. -/
def block (key : List UInt8) : List UInt8 :=
  let key := if blockSize < key.length then Sha256.sum256 key else key
  key ++ List.replicate (blockSize - key.length) 0

def sum (key message : List UInt8) : List UInt8 :=
  Sha256.sum256 ((block key).map (· ^^^ 0x5c) ++ Sha256.sum256 ((block key).map (· ^^^ 0x36) ++ message))

/-- The tag of the empty message under the empty key. -/
example : sum [] [] =
    [0xb6, 0x13, 0x67, 0x9a, 0x08, 0x14, 0xd9, 0xec, 0x77, 0x2f, 0x95, 0xd7, 0x78, 0xc3, 0x5f, 0xc5,
     0xff, 0x16, 0x97, 0xc4, 0x93, 0x71, 0x56, 0x53, 0xc6, 0xc7, 0x12, 0x14, 0x42, 0x92, 0xc5, 0xad] := by
  decide +kernel

end Hmac
end AntiFlock.Go
