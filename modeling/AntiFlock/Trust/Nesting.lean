import AntiFlock.Go.Document
import AntiFlock.Go.Text
import Mathlib.Data.List.Nodup

set_option autoImplicit false

/-!
# JSON within limits

`BoundedJSON` walks the tokens of a text with a stack of open containers and refuses what is
too large, nested too deeply or repeats a key. A recursive reading of the document says
the same.
-/
namespace AntiFlock.Trust.Nesting
open AntiFlock.Go

/-! ## Tokens -/

inductive Token where
  | start (object : Bool)
  | close (object : Bool)
  | string (text : String)
  | number (literal : String)
  /-- A Boolean or null. -/
  | literal

def scalarToken : Scalar → Token
  | .string text _ => .string text
  | .number literal => .number literal
  | _ => .literal

mutual

def tokens : Document → List Token
  | .scalar value => [scalarToken value]
  | .array items => .start false :: (itemTokens items ++ [.close false])
  | .object members => .start true :: (memberTokens members ++ [.close true])

def itemTokens : List Document → List Token
  | [] => []
  | item :: rest => tokens item ++ itemTokens rest

def memberTokens : List (String × Document) → List Token
  | [] => []
  | (name, value) :: rest => .string name :: (tokens value ++ memberTokens rest)

end

inductive Ending where
  | eof
  | failed
deriving DecidableEq

/-- The decoder of `encoding/json`, asked for one token after the other. -/
structure Tokenizer where
  stream : List UInt8 → List Token × Ending
  /-- The documents of a well-formed text, one behind the other. -/
  documents : List UInt8 → Option (List Document)
  /-- `bytes.TrimSpace` leaves nothing. -/
  blank : List UInt8 → Bool
  reports : ∀ raw ds, documents raw = some ds → stream raw = (ds.flatMap tokens, .eof)
  /-- Tokens are properly nested, and what is not well formed is cut short. -/
  nested : ∀ raw, ∃ ds : List Document, (stream raw).1 <+: ds.flatMap tokens
  complete : ∀ raw (ds : List Document), stream raw = (ds.flatMap tokens, .eof) → documents raw ≠ none
  blank_documents : ∀ raw ds, blank raw = true → documents raw = some ds → ds = []

/-! ## The walk -/

structure Limits where
  maxBytes : ℤ
  maxDepth : ℤ
  maxTokens : ℤ
  maxStringBytes : ℤ
  maxNumberBytes : ℤ

def defaultLimits : Limits := ⟨4194304, 32, 100000, 65536, 64⟩

def orDefault (value default : ℤ) : ℤ := if value ≤ 0 then default else value

def Limits.withDefaults (l : Limits) : Limits where
  maxBytes := orDefault l.maxBytes defaultLimits.maxBytes
  maxDepth := orDefault l.maxDepth defaultLimits.maxDepth
  maxTokens := orDefault l.maxTokens defaultLimits.maxTokens
  maxStringBytes := orDefault l.maxStringBytes defaultLimits.maxStringBytes
  maxNumberBytes := orDefault l.maxNumberBytes defaultLimits.maxNumberBytes

def taintOversized : UInt32 := 16
def taintDuplicateFields : UInt32 := 64

inductive JSONErr where
  | oversized
  | depth
  | tokens
  | stringLength
  | numberLength
  | duplicateKey
  | trailing
  | malformed
  | empty

/-- Without the offset in the input. -/
structure JSONError where
  err : JSONErr
  depth : ℕ := 0
  detail : String := ""

structure Frame where
  object : Bool
  expectKey : Bool
  keys : List String

def Frame.toggle (frame : Frame) : Frame := if frame.object then { frame with expectKey := !frame.expectKey } else frame

structure Walk where
  /-- The innermost frame stands first. -/
  stack : List Frame
  tokens : ℕ

section Walk
variable (limits : Limits) (scan : String → UInt32)

def exceeds (what : JSONErr) (s : Walk) (detail : String) : UInt32 × Except JSONError Walk :=
  (taintOversized, .error ⟨what, s.stack.length, detail⟩)

def excess (length : ℕ) (maximum : ℤ) : String := toString length ++ " bytes > " ++ toString maximum

def Walk.value (s : Walk) : Walk := ⟨s.stack.modifyHead Frame.toggle, s.tokens + 1⟩

def text (s : Walk) (value : String) : UInt32 × Except JSONError Walk :=
  match s.stack with
  | ⟨true, true, keys⟩ :: outer =>
    if value ∈ keys then (scan value ||| taintDuplicateFields, .error ⟨.duplicateKey, s.stack.length, ""⟩)
    else (scan value, .ok ⟨⟨true, false, value :: keys⟩ :: outer, s.tokens + 1⟩)
  | _ => (scan value, .ok s.value)

def step (s : Walk) (token : Token) : UInt32 × Except JSONError Walk :=
  if limits.maxTokens < s.tokens + 1 then exceeds .tokens s ("more than " ++ toString limits.maxTokens ++ " tokens")
  else match token with
    | .start object =>
      if limits.maxDepth < s.stack.length + 1 then exceeds .depth s ("deeper than " ++ toString limits.maxDepth)
      else (0, .ok ⟨⟨object, object, []⟩ :: s.stack, s.tokens + 1⟩)
    | .close _ => (0, .ok ⟨s.stack.tail.modifyHead Frame.toggle, s.tokens + 1⟩)
    | .string value =>
      if limits.maxStringBytes < len value then exceeds .stringLength s (excess (len value) limits.maxStringBytes)
      else text scan s value
    | .number value =>
      if limits.maxNumberBytes < len value then exceeds .numberLength s (excess (len value) limits.maxNumberBytes)
      else (0, .ok s.value)
    | .literal => (0, .ok s.value)

def walk (ending : Ending) : List Token → Walk → UInt32 → UInt32 × Option JSONError
  | [], s, taint =>
    match ending with
    | .failed => (taint, some ⟨.malformed, s.stack.length, ""⟩)
    | .eof =>
      (taint, some (if s.tokens = 0 then ⟨.empty, s.stack.length, ""⟩ else ⟨.malformed, s.stack.length, "unexpected end of input"⟩))
  | token :: rest, s, taint =>
    match step limits scan s token with
    | (seen, .error err) => (taint ||| seen, some err)
    | (seen, .ok next) =>
      if next.stack.isEmpty = false then walk ending rest next (taint ||| seen)
      -- the value is complete, and the next token is asked for
      else if rest.isEmpty && ending = .eof then (taint ||| seen, none)
      else (taint ||| seen, some ⟨.trailing, 0, ""⟩)

def boundedJSON (tokenizer : Tokenizer) (raw : List UInt8) (limits : Limits) : UInt32 × Option JSONError :=
  let limits := limits.withDefaults
  if limits.maxBytes < raw.length then
    (taintOversized, some { err := .oversized, detail := excess raw.length limits.maxBytes })
  else if tokenizer.blank raw then (0, some { err := .empty })
  else walk limits scan (tokenizer.stream raw).2 (tokenizer.stream raw).1 ⟨[], 0⟩ 0

end Walk

/-! ## Documents within limits -/

mutual

def nesting : Document → ℕ
  | .scalar _ => 0
  | .array items => itemsNesting items + 1
  | .object members => membersNesting members + 1

def itemsNesting : List Document → ℕ
  | [] => 0
  | item :: rest => max (nesting item) (itemsNesting rest)

def membersNesting : List (String × Document) → ℕ
  | [] => 0
  | (_, value) :: rest => max (nesting value) (membersNesting rest)

end

def Short (limits : Limits) : Token → Prop
  | .string text => len text ≤ limits.maxStringBytes
  | .number literal => len literal ≤ limits.maxNumberBytes
  | _ => True

def Keyed (document : Document) : Prop := ∀ members, document.HasObject members → (members.map Prod.fst).Nodup

structure Fits (limits : Limits) (document : Document) : Prop where
  depth : nesting document ≤ limits.maxDepth
  count : (tokens document).length ≤ limits.maxTokens
  short : ∀ token ∈ tokens document, Short limits token
  keyed : Keyed document

/-! ## Acceptance -/

section Accepts
variable {limits : Limits} {scan : String → UInt32} {ending : Ending}

def Accepts (limits : Limits) (scan : String → UInt32) (ending : Ending) (ts : List Token) (s : Walk) : Prop :=
  (walk limits scan ending ts s 0).2 = none

/-- The walk goes on unless the outermost value is complete. -/
def Goes (limits : Limits) (scan : String → UInt32) (ending : Ending) (ts : List Token) (s : Walk) : Prop :=
  if s.stack.isEmpty = false then Accepts limits scan ending ts s else ts = [] ∧ ending = .eof

theorem walk_taint (ts : List Token) (s : Walk) (taint taint' : UInt32) :
    (walk limits scan ending ts s taint).2 = (walk limits scan ending ts s taint').2 := by
  induction ts generalizing s taint taint' with
  | nil =>
    cases ending with
    | eof => rfl
    | failed => rfl
  | cons token ts ih =>
    unfold walk
    rcases step limits scan s token with ⟨seen, answer⟩
    cases answer with
    | error err => rfl
    | ok next =>
      dsimp only
      split
      · exact ih ..
      · split
        · rfl
        · rfl

/-- On a stream that begins like the piece or is cut short in it, the one walk is accepted exactly if the condition holds
and the other is accepted behind the piece. -/
def Span (before : List Token → Prop) (piece : List Token) (condition : Prop) (behind : List Token → Prop) : Prop :=
  ∀ ts rest, ts <+: piece ++ rest → (before ts ↔ condition ∧ ∃ ts', ts = piece ++ ts' ∧ behind ts')

theorem Span.append {A B B' : List Token → Prop} {us us' : List Token} {Q Q' : Prop} (h : Span A us Q B)
    (h' : Q → Span B us' Q' B') : Span A (us ++ us') (Q ∧ Q') B' := by
  intro ts rest hts
  rw [List.append_assoc] at hts
  rw [h ts _ hts]
  constructor
  · rintro ⟨hQ, ts', rfl, hB⟩
    obtain ⟨hQ', ts', rfl, hB'⟩ := (h' hQ ts' rest ((List.prefix_append_right_inj _).mp hts)).mp hB
    exact ⟨⟨hQ, hQ'⟩, ts', (List.append_assoc ..).symm, hB'⟩
  · rintro ⟨⟨hQ, hQ'⟩, ts', rfl, hB'⟩
    rw [List.append_assoc] at hts ⊢
    exact ⟨hQ, _, rfl, (h' hQ _ rest ((List.prefix_append_right_inj _).mp hts)).mpr ⟨hQ', ts', rfl, hB'⟩⟩

theorem Span.congr {A B : List Token → Prop} {us : List Token} {Q Q' : Prop} (h : Span A us Q B) (hQ : Q ↔ Q') : Span A us Q' B :=
  propext hQ ▸ h

theorem Span.nil {A : List Token → Prop} {Q : Prop} (h : Q) : Span A [] Q A := by
  intro ts rest _
  simp [h]

/-- One token, given what its step does. -/
theorem span_token {token : Token} {s next : Walk} {Q : Prop}
    (h : ∀ next', (step limits scan s token).2 = .ok next' ↔ Q ∧ next' = next) :
    Span (Accepts limits scan ending · s) [token] Q (Goes limits scan ending · next) := by
  intro ts rest hts
  cases ts with
  | nil =>
    cases ending with
    | eof => simp [Accepts, walk]
    | failed => simp [Accepts, walk]
  | cons first ts =>
    obtain ⟨rfl, -⟩ := List.cons_prefix_cons.mp hts
    simp only [List.singleton_append, List.cons.injEq, true_and, exists_eq_left']
    unfold Accepts walk
    revert h
    rcases step limits scan s first with ⟨seen, answer⟩
    intro h
    cases answer with
    | error err =>
      have hQ : ¬ Q := fun hQ => by simpa using (h next).mpr ⟨hQ, rfl⟩
      simp [hQ]
    | ok next' =>
      obtain ⟨hQ, rfl⟩ := (h next').mp rfl
      simp only [hQ, true_and, Goes]
      split
      · rw [Accepts, walk_taint]
      · split
        · simp_all
        · simp_all

/-- No key is expected. -/
def atValue : List Frame → Bool
  | frame :: _ => !(frame.object && frame.expectKey)
  | [] => true

def Bounded (limits : Limits) (depth deeper count : ℕ) (piece : List Token) : Prop :=
  depth + deeper ≤ limits.maxDepth ∧ count + piece.length ≤ limits.maxTokens ∧ ∀ token ∈ piece, Short limits token

/-- The walk over a document, from a state in which a value may come. -/
def Reads (limits : Limits) (scan : String → UInt32) (ending : Ending) (document : Document) : Prop :=
  ∀ s : Walk, atValue s.stack = true → s.stack.length ≤ limits.maxDepth → s.tokens ≤ limits.maxTokens →
    Span (Accepts limits scan ending · s) (tokens document)
      (Bounded limits s.stack.length (nesting document) s.tokens (tokens document) ∧ Keyed document)
      (Goes limits scan ending · ⟨s.stack.modifyHead Frame.toggle, s.tokens + (tokens document).length⟩)

theorem text_value {s : Walk} (h : atValue s.stack = true) (value : String) : text scan s value = (scan value, .ok s.value) := by
  unfold text
  split
  · rename_i hstack
    rw [hstack] at h
    cases h
  · rfl

theorem step_scalar {s next : Walk} (h : atValue s.stack = true) (value : Scalar) :
    (step limits scan s (scalarToken value)).2 = .ok next ↔
      (s.tokens + 1 ≤ limits.maxTokens ∧ Short limits (scalarToken value)) ∧ next = s.value := by
  unfold step
  split
  · rename_i hcount
    simp [exceeds, not_le.mpr hcount]
  · rename_i hcount
    rw [not_lt] at hcount
    cases value with
    | string value raw =>
      simp only [scalarToken]
      split
      · rename_i hlength
        simp [exceeds, Short, not_le.mpr hlength]
      · rename_i hlength
        rw [not_lt] at hlength
        simp [text_value h, Short, hlength, hcount, eq_comm]
    | number literal =>
      simp only [scalarToken]
      split
      · rename_i hlength
        simp [exceeds, Short, not_le.mpr hlength]
      · rename_i hlength
        rw [not_lt] at hlength
        simp [Short, hlength, hcount, eq_comm]
    | _ => simp [scalarToken, Short, hcount, eq_comm]

theorem step_start {s next : Walk} {object : Bool} : (step limits scan s (.start object)).2 = .ok next ↔
    (s.tokens + 1 ≤ limits.maxTokens ∧ s.stack.length + 1 ≤ limits.maxDepth) ∧
      next = ⟨⟨object, object, []⟩ :: s.stack, s.tokens + 1⟩ := by
  unfold step
  split
  · rename_i hcount
    simp [exceeds, not_le.mpr hcount]
  · rename_i hcount
    simp only
    split
    · rename_i hdepth
      simp [exceeds, not_le.mpr hdepth]
    · rename_i hdepth
      simp [not_lt.mp hcount, not_lt.mp hdepth, eq_comm]

theorem step_close {s next : Walk} {object : Bool} : (step limits scan s (.close object)).2 = .ok next ↔
    s.tokens + 1 ≤ limits.maxTokens ∧ next = ⟨s.stack.tail.modifyHead Frame.toggle, s.tokens + 1⟩ := by
  unfold step
  split
  · rename_i hcount
    simp [exceeds, not_le.mpr hcount]
  · rename_i hcount
    simp [not_lt.mp hcount, eq_comm]

theorem step_name {keys : List String} {outer : List Frame} {count : ℕ} {name : String} {next : Walk} :
    (step limits scan ⟨⟨true, true, keys⟩ :: outer, count⟩ (.string name)).2 = .ok next ↔
      (count + 1 ≤ limits.maxTokens ∧ Short limits (.string name) ∧ name ∉ keys) ∧
        next = ⟨⟨true, false, name :: keys⟩ :: outer, count + 1⟩ := by
  unfold step
  split
  · rename_i hcount
    simp [exceeds, not_le.mpr hcount]
  · rename_i hcount
    simp only
    split
    · rename_i hlength
      simp [exceeds, Short, not_le.mpr hlength]
    · rename_i hlength
      by_cases hkey : name ∈ keys
      · simp [text, hkey]
      · simp [text, hkey, Short, not_lt.mp hcount, not_lt.mp hlength, eq_comm]

/-! ### One lemma for each kind of value -/

theorem reads_scalar (value : Scalar) : Reads limits scan ending (.scalar value) := by
  intro s hvalue hdepth hcount
  have hkeyed : Keyed (.scalar value) := fun members hmembers => by cases hmembers
  refine (span_token fun next => step_scalar hvalue value).congr ?_
  simp [Bounded, tokens, nesting, hdepth, hkeyed]

theorem reads_items {items : List Document} (hitems : ∀ item ∈ items, Reads limits scan ending item) {outer : List Frame}
    {count : ℕ} (hdepth : (outer.length + 1 : ℕ) ≤ limits.maxDepth) (hcount : count ≤ limits.maxTokens) :
    Span (Accepts limits scan ending · ⟨⟨false, false, []⟩ :: outer, count⟩) (itemTokens items)
      (Bounded limits (outer.length + 1) (itemsNesting items) count (itemTokens items) ∧ ∀ item ∈ items, Keyed item)
      (Accepts limits scan ending · ⟨⟨false, false, []⟩ :: outer, count + (itemTokens items).length⟩) := by
  induction items generalizing count with
  | nil => exact .nil (by simpa [Bounded, itemTokens, itemsNesting, hcount] using hdepth)
  | cons item items ih =>
    obtain ⟨hitem, hrest⟩ := List.forall_mem_cons.mp hitems
    have hfirst := hitem ⟨⟨false, false, []⟩ :: outer, count⟩ rfl (by simpa using hdepth) hcount
    rw [itemTokens, List.length_append, ← Nat.add_assoc]
    refine (hfirst.append fun hQ => ih hrest (by simpa using hQ.1.2.1)).congr ?_
    simp only [Bounded, itemsNesting, List.length_cons, List.length_append, List.forall_mem_append, List.forall_mem_cons]
    push_cast
    grind

/-- The names of the members are new and different. -/
def Fresh (keys : List String) (members : List (String × Document)) : Prop :=
  (members.map Prod.fst).Nodup ∧ ∀ member ∈ members, member.1 ∉ keys

theorem fresh_cons {keys : List String} {name : String} {value : Document} {members : List (String × Document)} :
    Fresh keys ((name, value) :: members) ↔ name ∉ keys ∧ Fresh (name :: keys) members := by
  rw [Fresh, Fresh, List.map_cons, List.nodup_cons, List.forall_mem_cons]
  constructor
  · rintro ⟨⟨hname, hnodup⟩, hnew, hothers⟩
    refine ⟨hnew, hnodup, fun member hmember hmem => ?_⟩
    rcases List.mem_cons.mp hmem with heq | hmem
    · exact hname (List.mem_map.mpr ⟨member, hmember, heq⟩)
    · exact hothers member hmember hmem
  · rintro ⟨hnew, hnodup, hothers⟩
    refine ⟨⟨fun hname => ?_, hnodup⟩, hnew, fun member hmember hmem => hothers member hmember (List.mem_cons_of_mem _ hmem)⟩
    obtain ⟨member, hmember, heq⟩ := List.mem_map.mp hname
    exact hothers member hmember (heq ▸ List.mem_cons_self)

theorem reads_members {members : List (String × Document)} (hmembers : ∀ member ∈ members, Reads limits scan ending member.2)
    {outer : List Frame} {keys : List String} {count : ℕ} (hdepth : (outer.length + 1 : ℕ) ≤ limits.maxDepth)
    (hcount : count ≤ limits.maxTokens) :
    Span (Accepts limits scan ending · ⟨⟨true, true, keys⟩ :: outer, count⟩) (memberTokens members)
      (Bounded limits (outer.length + 1) (membersNesting members) count (memberTokens members) ∧ Fresh keys members ∧
        ∀ member ∈ members, Keyed member.2)
      (Accepts limits scan ending ·
        ⟨⟨true, true, (members.map Prod.fst).reverse ++ keys⟩ :: outer, count + (memberTokens members).length⟩) := by
  induction members generalizing count keys with
  | nil => exact .nil (by simpa [Bounded, memberTokens, membersNesting, hcount, Fresh] using hdepth)
  | cons member members ih =>
    obtain ⟨hvalue, hrest⟩ := List.forall_mem_cons.mp hmembers
    obtain ⟨name, value⟩ := member
    have hname : Span (Accepts limits scan ending · ⟨⟨true, true, keys⟩ :: outer, count⟩) [.string name] _
        (Accepts limits scan ending · ⟨⟨true, false, name :: keys⟩ :: outer, count + 1⟩) := span_token fun next => step_name
    have hfirst : count + 1 ≤ limits.maxTokens → Span (Accepts limits scan ending · ⟨⟨true, false, name :: keys⟩ :: outer, count + 1⟩)
        (tokens value) _ (Accepts limits scan ending · ⟨⟨true, true, name :: keys⟩ :: outer, count + 1 + (tokens value).length⟩) :=
      fun h => hvalue ⟨⟨true, false, name :: keys⟩ :: outer, count + 1⟩ rfl (by simpa using hdepth) (by simpa using h)
    have hlength : count + (memberTokens ((name, value) :: members)).length =
        count + 1 + (tokens value).length + (memberTokens members).length := by
      simp only [memberTokens, List.length_cons, List.length_append]
      omega
    have hkeys : (((name, value) :: members).map Prod.fst).reverse ++ keys = (members.map Prod.fst).reverse ++ name :: keys := by simp
    rw [hlength, hkeys, memberTokens, ← List.singleton_append]
    refine (hname.append fun hQ => (hfirst hQ.1).append fun hQ' => ih hrest (by simpa using hQ'.1.2.1)).congr ?_
    rw [fresh_cons]
    simp only [Bounded, membersNesting, List.length_cons, List.length_append, List.forall_mem_append, List.forall_mem_cons]
    push_cast
    grind

theorem keyed_array {items : List Document} : Keyed (.array items) ↔ ∀ item ∈ items, Keyed item := by
  constructor
  · intro h item hitem members hmembers
    exact h members (.item hitem hmembers)
  · intro h members hmembers
    cases hmembers with
    | item hitem hobject => exact h _ hitem members hobject

theorem keyed_object {members : List (String × Document)} :
    Keyed (.object members) ↔ Fresh [] members ∧ ∀ member ∈ members, Keyed member.2 := by
  constructor
  · intro h
    exact ⟨⟨h members (.here members), by simp⟩, fun member hmember inner hinner => h inner (.member hmember hinner)⟩
  · rintro ⟨⟨hnodup, -⟩, hmembers⟩ inner hinner
    cases hinner with
    | here => exact hnodup
    | member hmember hobject => exact hmembers _ hmember inner hobject

/-- A container, given what is read inside of it. -/
theorem reads_container {document : Document} {object : Bool} {piece : List Token} {deeper : ℕ} {K : Prop} {frame : Frame}
    (htokens : tokens document = [.start object] ++ (piece ++ [.close object])) (hnesting : nesting document = deeper + 1)
    (hkeyed : Keyed document ↔ K) (hinside : ∀ (outer : List Frame) (count : ℕ), (outer.length + 1 : ℕ) ≤ limits.maxDepth →
      count ≤ limits.maxTokens → Span (Accepts limits scan ending · ⟨⟨object, object, []⟩ :: outer, count⟩) piece
        (Bounded limits (outer.length + 1) deeper count piece ∧ K)
        (Accepts limits scan ending · ⟨frame :: outer, count + piece.length⟩)) : Reads limits scan ending document := by
  intro s hvalue hdepth hcount
  have hstart : Span (Accepts limits scan ending · s) [.start object] _
      (Accepts limits scan ending · ⟨⟨object, object, []⟩ :: s.stack, s.tokens + 1⟩) := span_token fun next => step_start
  have hclose : Span (Accepts limits scan ending · ⟨frame :: s.stack, s.tokens + 1 + piece.length⟩)
      [.close object] _ (Goes limits scan ending · _) := span_token fun next => step_close
  have hlength : s.tokens + (tokens document).length = s.tokens + 1 + piece.length + 1 := by
    simp only [htokens, List.length_append, List.length_singleton]
    omega
  rw [hlength, htokens]
  refine (hstart.append fun hQ => (hinside _ _ (by simpa using hQ.2) (by simpa using hQ.1)).append fun _ => hclose).congr ?_
  rw [hkeyed, hnesting]
  simp only [Bounded, Short, List.length_append, List.length_singleton, List.forall_mem_append, List.forall_mem_singleton]
  push_cast
  grind

theorem reads_array {items : List Document} (hitems : ∀ item ∈ items, Reads limits scan ending item) :
    Reads limits scan ending (.array items) :=
  reads_container (by rw [tokens]; rfl) (by rw [nesting]) keyed_array fun _ _ => reads_items hitems

theorem reads_object {members : List (String × Document)} (hmembers : ∀ member ∈ members, Reads limits scan ending member.2) :
    Reads limits scan ending (.object members) :=
  reads_container (by rw [tokens]; rfl) (by rw [nesting]) keyed_object fun _ _ => reads_members hmembers

theorem reads (document : Document) : Reads limits scan ending document :=
  Document.induct reads_scalar (fun _ => reads_array) (fun _ => reads_object) document

theorem tokens_ne_nil (document : Document) : tokens document ≠ [] := by
  cases document with
  | _ => simp [tokens]

/-- A properly nested stream is accepted if it is exactly one document that fits. -/
theorem accepts_iff (hlimits : 0 ≤ limits.maxDepth ∧ 0 ≤ limits.maxTokens) {ts : List Token} {first : Document} {others : List Document}
    (hts : ts <+: (first :: others).flatMap tokens) :
    Accepts limits scan ending ts ⟨[], 0⟩ ↔ ts = tokens first ∧ ending = .eof ∧ Fits limits first := by
  rw [List.flatMap_cons] at hts
  refine (reads first ⟨[], 0⟩ rfl (by simpa using hlimits.1) (by simpa using hlimits.2) ts _ hts).trans ?_
  constructor
  · rintro ⟨⟨⟨hdepth, hcount, hshort⟩, hkeyed⟩, ts', rfl, hgoes⟩
    obtain ⟨rfl, hending⟩ : ts' = [] ∧ ending = .eof := hgoes
    exact ⟨by simp, hending, by simpa using hdepth, by simpa using hcount, hshort, hkeyed⟩
  · rintro ⟨rfl, hending, hfits⟩
    have hbounded : Bounded limits 0 (nesting first) 0 (tokens first) :=
      ⟨by simpa using hfits.depth, by simpa using hfits.count, hfits.short⟩
    exact ⟨⟨hbounded, hfits.keyed⟩, [], by simp, rfl, hending⟩

end Accepts

theorem orDefault_pos {value default : ℤ} (h : 0 < default) : 0 < orDefault value default := by
  unfold orDefault
  split
  · exact h
  · omega

/-- Exactly one document within the limits is accepted. -/
theorem boundedJSON_exact (scan : String → UInt32) (tokenizer : Tokenizer) (raw : List UInt8) (limits : Limits) :
    (boundedJSON scan tokenizer raw limits).2 = none ↔ raw.length ≤ limits.withDefaults.maxBytes ∧
      ∃ document, tokenizer.documents raw = some [document] ∧ Fits limits.withDefaults document := by
  have hlimits : 0 ≤ limits.withDefaults.maxDepth ∧ 0 ≤ limits.withDefaults.maxTokens :=
    ⟨(orDefault_pos (by decide)).le, (orDefault_pos (by decide)).le⟩
  unfold boundedJSON
  dsimp only
  split
  · rename_i hlength
    simp [not_le.mpr hlength]
  rename_i hlength
  rw [not_lt] at hlength
  split
  · rename_i hblank
    constructor
    · intro h
      cases h
    · rintro ⟨-, document, hdocument, -⟩
      exact absurd (tokenizer.blank_documents raw _ hblank hdocument) (by simp)
  obtain ⟨ts, ending, hstream⟩ : ∃ ts ending, tokenizer.stream raw = (ts, ending) := ⟨_, _, rfl⟩
  obtain ⟨ds, hnested⟩ := tokenizer.nested raw
  rw [hstream] at hnested ⊢
  change ts <+: _ at hnested
  change Accepts limits.withDefaults scan ending ts ⟨[], 0⟩ ↔ _
  constructor
  · intro haccepts
    cases ds with
    | nil =>
      rw [List.prefix_nil.mp hnested] at haccepts
      cases ending with
      | _ => cases haccepts
    | cons first others =>
      obtain ⟨rfl, rfl, -⟩ := (accepts_iff hlimits hnested).mp haccepts
      obtain ⟨ds, hds⟩ := Option.ne_none_iff_exists'.mp (tokenizer.complete raw [first] (by simp [hstream]))
      have hreports := tokenizer.reports raw ds hds
      rw [hstream, Prod.mk.injEq] at hreports
      rw [hreports.1] at haccepts
      cases ds with
      | nil => exact absurd hreports.1 (tokens_ne_nil first)
      | cons document rest =>
        obtain ⟨hwhole, -, hfits⟩ := (accepts_iff hlimits (List.prefix_refl _)).mp haccepts
        rw [List.flatMap_cons, List.append_right_eq_self, List.flatMap_eq_nil_iff] at hwhole
        have hrest : rest = [] := List.eq_nil_iff_forall_not_mem.mpr fun other hother => tokens_ne_nil other (hwhole other hother)
        exact ⟨hlength, document, by rw [hds, hrest], hfits⟩
  · rintro ⟨-, document, hdocument, hfits⟩
    have hreports := tokenizer.reports raw _ hdocument
    rw [hstream, List.flatMap_singleton] at hreports
    cases hreports
    have hts : tokens document <+: [document].flatMap tokens := by simp
    exact (accepts_iff hlimits hts).mpr ⟨rfl, rfl, hfits⟩

/-- A decoder of a language with one text, an empty array. -/
def brackets : Tokenizer where
  stream raw := if raw = [91, 93] then ([.start false, .close false], .eof) else ([], .failed)
  documents raw := if raw = [91, 93] then some [.array []] else none
  blank _ := false
  reports raw ds h := by
    split at h
    · rename_i hraw
      cases h
      simp [hraw, tokens, itemTokens]
    · cases h
  nested raw := by
    refine ⟨[.array []], ?_⟩
    split
    · simp [tokens, itemTokens]
    · simp
  complete raw ds h := by
    split at h
    · rename_i hraw
      simp [hraw]
    · simp at h
  blank_documents raw ds h := by cases h

example : (boundedJSON (fun _ => 0) brackets [91, 93] defaultLimits).2 = none := rfl

end AntiFlock.Trust.Nesting
