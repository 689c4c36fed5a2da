import Mathlib.Data.List.Perm.Basic
import Mathlib.Logic.Function.Basic

set_option autoImplicit false

/-!
# JSON documents

A document is read twice in the same way: as the stream of its tokens, and by a
decoder that stores the members of an object in the fields of a record, each under
the field its name stands for. A record whose fields are each named once does not
depend on the order of the members.
-/
namespace AntiFlock.Go

inductive Scalar where
  | null
  | bool (value : Bool)
  /-- A number, as it was written. -/
  | number (literal : String)
  /-- A string: its text, and what stands between the quotes. -/
  | string (text raw : String)
deriving DecidableEq

inductive Document where
  | scalar (value : Scalar)
  | array (items : List Document)
  | object (members : List (String × Document))

/-- What a reader of tokens is given; the name of a member comes as a string. -/
inductive Token where
  | openObject
  | closeObject
  | openArray
  | closeArray
  | string (text : String)
  /-- A number, a Boolean or null. -/
  | other
deriving DecidableEq

def Scalar.token : Scalar → Token
  | string text _ => .string text
  | _ => .other

namespace Document

theorem induct {P : Document → Prop} (scalar : ∀ value, P (.scalar value))
    (array : ∀ items, (∀ item ∈ items, P item) → P (.array items))
    (object : ∀ members, (∀ member ∈ members, P member.2) → P (.object members)) (document : Document) : P document :=
  @Document.rec P (fun items => ∀ item ∈ items, P item) (fun members => ∀ member ∈ members, P member.2)
    (fun member => P member.2) scalar array object (fun _ h => absurd h List.not_mem_nil)
    (fun _ _ hitem hrest => List.forall_mem_cons.mpr ⟨hitem, hrest⟩) (fun _ h => absurd h List.not_mem_nil)
    (fun _ _ hmember hrest => List.forall_mem_cons.mpr ⟨hmember, hrest⟩) (fun _ _ h => h) document

mutual

def tokens : Document → List Token
  | scalar value => [value.token]
  | array items => .openArray :: (itemTokens items ++ [.closeArray])
  | object members => .openObject :: (memberTokens members ++ [.closeObject])

def itemTokens : List Document → List Token
  | [] => []
  | item :: rest => item.tokens ++ itemTokens rest

def memberTokens : List (String × Document) → List Token
  | [] => []
  | (name, value) :: rest => .string name :: (value.tokens ++ memberTokens rest)

end

/-- The members of an object that stands somewhere in the document. -/
inductive HasObject : Document → List (String × Document) → Prop where
  | here (members : List (String × Document)) : HasObject (object members) members
  | item {items : List Document} {item : Document} {members : List (String × Document)} (hitem : item ∈ items)
      (h : HasObject item members) : HasObject (array items) members
  | member {outer : List (String × Document)} {member : String × Document} {members : List (String × Document)}
      (hmember : member ∈ outer) (h : HasObject member.2 members) : HasObject (object outer) members

mutual

/-- The second document has the members of every object in some other order. -/
inductive Reordered : Document → Document → Prop where
  | scalar (value : Scalar) : Reordered (scalar value) (scalar value)
  | array {items items' : List Document} (h : List.Forall₂ Reordered items items') :
      Reordered (array items) (array items')
  | object {members permuted members' : List (String × Document)} (hperm : members.Perm permuted)
      (h : MembersReordered permuted members') : Reordered (object members) (object members')

inductive MembersReordered : List (String × Document) → List (String × Document) → Prop where
  | nil : MembersReordered [] []
  | cons {name : String} {value value' : Document} {rest rest' : List (String × Document)}
      (hvalue : Reordered value value') (hrest : MembersReordered rest rest') :
      MembersReordered ((name, value) :: rest) ((name, value') :: rest')

end

end Document

/-! ## Storing members in fields -/

section Fields

variable {F : Type} [DecidableEq F] {T : F → Type} (bind : String → Option F)
  (decode : (field : F) → Document → T field → Option (T field))

/-- Each member is decoded over what its field holds; a name without a field is an error. -/
def storeMembers : List (String × Document) → ((field : F) → T field) → Option ((field : F) → T field)
  | [], record => some record
  | member :: rest, record =>
    match bind member.1 with
    | none => none
    | some field =>
      match decode field member.2 (record field) with
      | none => none
      | some value => storeMembers rest (Function.update record field value)

def Unshared (members : List (String × Document)) : Prop :=
  members.Pairwise fun a b => ∀ field, bind a.1 = some field → bind b.1 ≠ some field

variable {bind decode}

end Fields

end AntiFlock.Go
