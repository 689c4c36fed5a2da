import AntiFlock.Go.Calendar
import AntiFlock.Go.Encoding
import AntiFlock.Go.Json
import AntiFlock.Go.Sha256
import AntiFlock.HashChain
import AntiFlock.Lines

set_option autoImplicit false

/-!
# Audit entries and anchors

An audit entry is hashed as the JSON of its fields, with the hash of the entry
before it among them. An anchor records the head of the log in a file of its own,
signed. The text that is hashed determines every field of an entry, but for white
space and HTML escapes in the details.
-/
namespace AntiFlock.Audit
open AntiFlock.Go Calendar

def anchorVersion : String := "antiflock.audit-anchor/v1"

/-- An audit entry, with its time as `T`. -/
structure Record (T : Type) where
  sequence : ℤ
  id : String
  keyID : String
  occurredAt : T
  actorType : String
  actorID : String
  action : String
  resourceType : String
  resourceID : String
  outcome : String
  details : String
  previousHash : String
  entryHash : String
  signature : String
deriving DecidableEq

abbrev AuditEntry := Record Instant

/-- A row of `audit_entries`, where the time is text. -/
abbrev Row := Record String

/-- The head of the log: how many entries it has, and the last one. -/
@[ext]
structure AuditHead where
  count : ℕ
  sequence : ℤ
  hash : String
deriving DecidableEq

structure Anchor where
  version : String
  keyID : String
  count : ℕ
  sequence : ℤ
  headHash : String
  updatedAt : Instant
  signature : String
deriving DecidableEq

def Anchor.head (a : Anchor) : AuditHead := ⟨a.count, a.sequence, a.headHash⟩

/-- The first members of a JSON object, each a string and followed by a comma. -/
def members (fields : List (String × String)) (rest : String) : String :=
  fields.foldr (fun field text => Json.quote field.1 ++ (":" ++ (Json.quote field.2 ++ ("," ++ text)))) rest

def hashedMembers (e : AuditEntry) : List (String × String) :=
  [("id", e.id), ("keyId", e.keyID), ("occurredAt", formatTime e.occurredAt), ("actorType", e.actorType),
    ("actorId", e.actorID), ("action", e.action), ("resourceType", e.resourceType), ("resourceId", e.resourceID),
    ("outcome", e.outcome)]

/-- What `hashEntry` hashes, for an entry whose details are JSON. -/
def hashPayload (e : AuditEntry) : String :=
  "\x7b" ++ members (hashedMembers e)
    ("\"details\":" ++ (Json.compact e.details ++ (",\"previousHash\":" ++ Json.quote e.previousHash) ++ "\x7d"))

def hashDigest (e : AuditEntry) : List UInt8 := Sha256.sum256 (bytes (hashPayload e))

def anchorDigest (a : Anchor) : List UInt8 :=
  Sha256.sum256 (bytes ("\x7b" ++ members [("version", a.version), ("keyId", a.keyID)]
    ("\"count\":" ++ toString a.count ++ ",\"sequence\":" ++ toString a.sequence ++ ",\"headHash\":" ++
      Json.quote a.headHash ++ ",\"updatedAt\":" ++ Json.quote (formatTime a.updatedAt) ++ "\x7d")))

theorem toList_quote (s : String) : (Json.quote s).toList = Json.quoteChars s.toList := String.toList_ofList

theorem quote_append_inj {s t x y : String} (h : Json.quote s ++ x = Json.quote t ++ y) : s = t ∧ x = y := by
  have hchars := congrArg String.toList h
  rw [String.toList_append, String.toList_append, toList_quote, toList_quote] at hchars
  obtain ⟨hs, hx⟩ := Json.quoteChars_append_inj hchars
  exact ⟨String.toList_injective hs, String.toList_injective hx⟩

theorem text_append_cancel {s x y : String} (h : s ++ x = s ++ y) : x = y := by
  have hchars := congrArg String.toList h
  rw [String.toList_append, String.toList_append] at hchars
  exact String.toList_injective (List.append_cancel_left hchars)

theorem members_inj {fields others : List (String × String)} {rest rest' : String}
    (hlength : fields.length = others.length) (h : members fields rest = members others rest') :
    fields = others ∧ rest = rest' := by
  induction fields generalizing others with
  | nil =>
    rw [List.eq_nil_of_length_eq_zero hlength.symm] at h ⊢
    exact ⟨rfl, h⟩
  | cons field fields ih =>
    cases others with
    | nil => cases hlength
    | cons other others =>
      obtain ⟨hname, hafter⟩ := quote_append_inj h
      obtain ⟨hvalue, hlater⟩ := quote_append_inj (text_append_cancel hafter)
      obtain ⟨hfields, hrest⟩ := ih (Nat.succ.inj hlength) (text_append_cancel hlater)
      exact ⟨by rw [Prod.ext hname hvalue, hfields], hrest⟩

structure SameHashed (e e' : AuditEntry) : Prop where
  id : e.id = e'.id
  keyID : e.keyID = e'.keyID
  occurredAt : e.occurredAt = e'.occurredAt
  actorType : e.actorType = e'.actorType
  actorID : e.actorID = e'.actorID
  action : e.action = e'.action
  resourceType : e.resourceType = e'.resourceType
  resourceID : e.resourceID = e'.resourceID
  outcome : e.outcome = e'.outcome
  details : Json.compact e.details = Json.compact e'.details
  previousHash : e.previousHash = e'.previousHash

def quotedLength (hash : String) : ℕ := (Json.quote hash).toList.length

theorem sameHashed_of_hashPayload {e e' : AuditEntry} (h : hashPayload e = hashPayload e')
    (hlength : quotedLength e.previousHash = quotedLength e'.previousHash) : SameHashed e e' := by
  rw [hashPayload, hashPayload] at h
  have hlengthMembers : (hashedMembers e).length = (hashedMembers e').length := rfl
  obtain ⟨hmembers, hrest⟩ := members_inj hlengthMembers (text_append_cancel h)
  have htail := congrArg String.toList (text_append_cancel hrest)
  simp only [String.toList_append] at htail
  have hbody := List.append_cancel_right htail
  have hlengths : (",\"previousHash\":".toList ++ (Json.quote e.previousHash).toList).length =
      (",\"previousHash\":".toList ++ (Json.quote e'.previousHash).toList).length := by
    rw [List.length_append, List.length_append]
    exact congrArg _ hlength
  obtain ⟨hdetails, hprevious⟩ := List.append_inj' hbody hlengths
  have hquoted := String.toList_injective (List.append_cancel_left hprevious)
  have hhash : e.previousHash = e'.previousHash := (quote_append_inj (congrArg (· ++ "") hquoted)).1
  simp only [hashedMembers, List.cons.injEq, Prod.mk.injEq, true_and, and_true] at hmembers
  obtain ⟨hid, hkey, htime, hactorType, hactor, haction, hresourceType, hresource, houtcome⟩ := hmembers
  exact ⟨hid, hkey, formatTime_inj htime, hactorType, hactor, haction, hresourceType, hresource, houtcome,
    String.toList_injective hdetails, hhash⟩

theorem quotedLength_hexEncode (bs : List UInt8) : quotedLength (hexEncode bs) = 2 * bs.length + 2 := by
  have hdigit : ∀ n < 16, (Json.escape (Nat.digitChar n)).length = 1 := by decide
  have hbody : ((bs.flatMap hexChars).flatMap Json.escape).length = 2 * bs.length := by
    induction bs with
    | nil => rfl
    | cons b bs ih =>
      have hb := b.toNat_lt
      have hhigh := hdigit (b.toNat / 16) (by omega)
      have hlow := hdigit (b.toNat % 16) (by omega)
      rw [List.flatMap_cons, List.flatMap_append, List.length_append, ih]
      simp only [hexChars, List.flatMap_cons, List.flatMap_nil, List.length_append, List.length_nil, hhigh, hlow,
        List.length_cons]
      omega
  rw [quotedLength, toList_quote, hexEncode, String.toList_ofList, Json.quoteChars, List.cons_append, List.length_cons,
    List.length_append, hbody, List.length_singleton]

end AntiFlock.Audit
