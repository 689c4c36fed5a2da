import AntiFlock.Go.Document
import AntiFlock.Go.Text

set_option autoImplicit false

/-!
# The scan before a manifest is decoded

`prescanJSON` walks the tokens of a text once and refuses deep nesting, hostile
strings, repeated member names and anything but one object. Names are compared
after `strings.ToLower`.
-/
namespace AntiFlock.Capability
open AntiFlock.Go

/-! ## Characters -/

def kelvinSign : Char := '\u212a'
def longS : Char := '\u017f'

/-- The Unicode tables the loader and the decoder look into. The orbit of an ASCII letter under simple
folding holds its two cases, and also the Kelvin sign for `K` and the long s for `S`. -/
structure Unicode where
  toLower : Char → Char
  /-- The smallest rune that folds together with a rune. -/
  foldRune : Char → Char
  isFormat : Char → Bool
  isControl : Char → Bool
  isPrint : Char → Bool
  toLower_ascii : ∀ c, c.toNat < 128 → toLower c = c.toLower
  toLower_kelvinSign : toLower kelvinSign = 'k'
  toLower_longS : toLower longS = longS
  foldRune_kelvinSign : foldRune kelvinSign = 'K'
  foldRune_longS : foldRune longS = 'S'
  foldRune_ascii : ∀ c, 128 ≤ c.toNat → (foldRune c).toNat < 128 → c = kelvinSign ∨ c = longS

namespace Unicode

/-- `strings.ToLower`. -/
def lower (unicode : Unicode) (text : String) : String := String.ofList (text.toList.map unicode.toLower)

def cleanRune (unicode : Unicode) (r : Char) : Bool :=
  !(r == '\ufffd') && !(r.toNat < 0x20 || r.toNat == 0x7f || (r.toNat ≥ 0x80 && r.toNat ≤ 0x9f)) &&
    !(unicode.isFormat r || unicode.isControl r) && (unicode.isPrint r || r == ' ')

def cleanString (unicode : Unicode) (value : String) : Bool := value.toList.all unicode.cleanRune

end Unicode

/-! ## The decoder -/

/-- How a stream of tokens ends: with the data, or with an error in it. -/
inductive Ending where
  | eof
  | failed
deriving DecidableEq

/-- A decoder of `encoding/json`, asked for tokens or for a whole value. -/
structure Decoder where
  stream : List UInt8 → List Token × Ending
  /-- The value that stands first in the data. -/
  value : List UInt8 → Option Document
  /-- Tokens are properly nested: they are those of a row of values, the last of which may be cut short. The
  first value is the one that is decoded. -/
  nested : ∀ data ts, stream data = (ts, .eof) → ∃ values : List Document,
    ts <+: values.flatMap Document.tokens ∧
      ∀ first rest, values = first :: rest → first.tokens <+: ts → value data = some first

/-! ## The scan -/

structure LoadErr where
  code : String
  detail : String
deriving DecidableEq

def reasonJSONSyntax : String := "AF-CAP-JSON-SYNTAX"
def reasonJSONTrailing : String := "AF-CAP-JSON-TRAILING"
def reasonJSONDuplicateKey : String := "AF-CAP-JSON-DUPLICATE-KEY"
def reasonJSONNesting : String := "AF-CAP-JSON-NESTING"
def reasonJSONString : String := "AF-CAP-JSON-STRING"

def maxJSONDepth : ℕ := 8

structure Frame where
  object : Bool
  expectKey : Bool
  seen : List String

def Frame.markValue (frame : Frame) : Frame := if frame.object then { frame with expectKey := true } else frame

structure Scan where
  /-- The innermost frame stands first. -/
  stack : List Frame
  sawTopLevel : Bool

namespace Scan

def push (state : Scan) (object : Bool) : Except LoadErr Scan :=
  if state.stack.isEmpty && !object then .error ⟨reasonJSONSyntax, "manifest must be a JSON object"⟩
  else if state.stack.length + 1 > maxJSONDepth then .error ⟨reasonJSONNesting, "nesting exceeds 8"⟩
  else .ok ⟨⟨object, object, []⟩ :: state.stack.modifyHead Frame.markValue, state.sawTopLevel || state.stack.isEmpty⟩

def text (unicode : Unicode) (state : Scan) (frame : Frame) (outer : List Frame) (text : String) : Except LoadErr Scan :=
  if !unicode.cleanString text then
    .error ⟨reasonJSONString, "manifest contains a non-printable or format character"⟩
  else if frame.object && frame.expectKey then
    if unicode.lower text ∈ frame.seen then .error ⟨reasonJSONDuplicateKey, "manifest repeats a member name"⟩
    else .ok { state with stack := { frame with expectKey := false, seen := unicode.lower text :: frame.seen } :: outer }
  else .ok { state with stack := frame.markValue :: outer }

def step (unicode : Unicode) (state : Scan) (token : Token) : Except LoadErr Scan :=
  if state.sawTopLevel && state.stack.isEmpty then
    .error ⟨reasonJSONTrailing, "content follows the manifest object"⟩
  else
    match token with
    | .openObject => state.push true
    | .openArray => state.push false
    | .closeObject | .closeArray => .ok { state with stack := state.stack.tail }
    | .string value =>
      match state.stack with
      | [] => .error ⟨reasonJSONSyntax, "manifest must be a JSON object"⟩
      | frame :: outer => state.text unicode frame outer value
    | .other =>
      match state.stack with
      | [] => .error ⟨reasonJSONSyntax, "manifest must be a JSON object"⟩
      | frame :: outer => .ok { state with stack := frame.markValue :: outer }

def run (unicode : Unicode) (ending : Ending) : List Token → Scan → Option LoadErr
  | [], state =>
    match ending with
    | .failed =>
      if state.sawTopLevel && state.stack.isEmpty then
        some ⟨reasonJSONTrailing, "content follows the manifest object"⟩
      else some ⟨reasonJSONSyntax, "manifest is not well-formed JSON"⟩
    | .eof =>
      if !state.sawTopLevel || !state.stack.isEmpty then
        some ⟨reasonJSONSyntax, "manifest is not a complete JSON object"⟩
      else none
  | token :: rest, state =>
    match state.step unicode token with
    | .error err => some err
    | .ok next => run unicode ending rest next

end Scan

def prescanJSON (unicode : Unicode) (decoder : Decoder) (data : List UInt8) : Option LoadErr :=
  Scan.run unicode (decoder.stream data).2 (decoder.stream data).1 ⟨[], false⟩

/-! ## What an accepted stream holds -/

/-- No two members have names that are the same in lower case. -/
def LowerDistinct (unicode : Unicode) (members : List (String × Document)) : Prop :=
  members.Pairwise fun a b => unicode.lower a.1 ≠ unicode.lower b.1

def Screened (unicode : Unicode) (document : Document) : Prop :=
  ∀ members, document.HasObject members → LowerDistinct unicode members

namespace Scan

variable {unicode : Unicode}

theorem run_inside {frame : Frame} {outer : List Frame} {ts rest : List Token} {token : Token}
    (h : run unicode .eof ts ⟨frame :: outer, true⟩ = none) (hts : ts <+: token :: rest) :
    ∃ ts' next, ts = token :: ts' ∧ ts' <+: rest ∧ step unicode ⟨frame :: outer, true⟩ token = .ok next ∧
      run unicode .eof ts' next = none := by
  cases ts with
  | nil => simp [run] at h
  | cons first ts' =>
    obtain ⟨rfl, hts'⟩ := List.cons_prefix_cons.mp hts
    rw [run] at h
    cases hstep : step unicode ⟨frame :: outer, true⟩ first with
    | error err => simp [hstep] at h
    | ok next =>
      rw [hstep] at h
      exact ⟨ts', next, rfl, hts', rfl, h⟩

/-- What is left of an accepted stream once a value has been read in a frame. -/
def Reads (unicode : Unicode) (document : Document) : Prop :=
  ∀ (frame : Frame) (outer : List Frame) (ts rest : List Token), (frame.object && frame.expectKey) = false →
    run unicode .eof ts ⟨frame :: outer, true⟩ = none → ts <+: document.tokens ++ rest →
    Screened unicode document ∧ ∃ ts', ts = document.tokens ++ ts' ∧ ts' <+: rest ∧
      run unicode .eof ts' ⟨frame.markValue :: outer, true⟩ = none

theorem step_scalar {frame : Frame} {outer : List Frame} {value : Scalar} {next : Scan}
    (hvalue : (frame.object && frame.expectKey) = false)
    (h : step unicode ⟨frame :: outer, true⟩ value.token = .ok next) : next = ⟨frame.markValue :: outer, true⟩ := by
  cases value with
  | string value raw =>
    simp only [Scalar.token, step, text, List.isEmpty_cons, Bool.and_false, Bool.false_eq_true, if_false, hvalue] at h
    split_ifs at h
    exact (Except.ok.inj h).symm
  | _ => exact (Except.ok.inj h).symm

theorem push_ok {frame : Frame} {outer : List Frame} {object : Bool} {next : Scan}
    (h : push ⟨frame :: outer, true⟩ object = .ok next) :
    next = ⟨⟨object, object, []⟩ :: frame.markValue :: outer, true⟩ := by
  simp only [push, List.isEmpty_cons, Bool.false_and, Bool.false_eq_true, if_false] at h
  split_ifs at h
  exact (Except.ok.inj h).symm

theorem step_name {seen : List String} {outer : List Frame} {name : String} {next : Scan}
    (h : step unicode ⟨⟨true, true, seen⟩ :: outer, true⟩ (.string name) = .ok next) :
    unicode.lower name ∉ seen ∧ next = ⟨⟨true, false, unicode.lower name :: seen⟩ :: outer, true⟩ := by
  simp only [step, text, List.isEmpty_cons, Bool.and_false, Bool.false_eq_true, if_false, Bool.and_self, if_true] at h
  split_ifs at h with _ hseen
  exact ⟨hseen, (Except.ok.inj h).symm⟩

/-! ### One lemma for each kind of value -/

theorem reads_scalar (value : Scalar) : Reads unicode (.scalar value) := by
  intro frame outer ts rest hvalue h hts
  rw [Document.tokens] at hts ⊢
  obtain ⟨ts', next, rfl, hts', hstep, hrun⟩ := run_inside h hts
  rw [step_scalar hvalue hstep] at hrun
  refine ⟨?_, ts', rfl, hts', hrun⟩
  rintro members ⟨⟩

theorem reads_items {items : List Document} (hitems : ∀ item ∈ items, Reads unicode item) {outer : List Frame}
    {ts rest : List Token} (h : run unicode .eof ts ⟨⟨false, false, []⟩ :: outer, true⟩ = none)
    (hts : ts <+: Document.itemTokens items ++ rest) : (∀ item ∈ items, Screened unicode item) ∧
      ∃ ts', ts = Document.itemTokens items ++ ts' ∧ ts' <+: rest ∧
        run unicode .eof ts' ⟨⟨false, false, []⟩ :: outer, true⟩ = none := by
  induction items generalizing ts with
  | nil => exact ⟨fun _ hitem => absurd hitem List.not_mem_nil, ts, rfl, hts, h⟩
  | cons item items ih =>
    obtain ⟨hitem, hrest⟩ := List.forall_mem_cons.mp hitems
    rw [Document.itemTokens, List.append_assoc] at hts
    obtain ⟨hscreened, ts', rfl, hts', hrun⟩ := hitem _ outer ts _ rfl h hts
    obtain ⟨hscreened', ts'', rfl, hts'', hrun'⟩ := ih hrest hrun hts'
    refine ⟨List.forall_mem_cons.mpr ⟨hscreened, hscreened'⟩, ts'', ?_, hts'', hrun'⟩
    rw [Document.itemTokens, List.append_assoc]

theorem reads_members {members : List (String × Document)} (hmembers : ∀ member ∈ members, Reads unicode member.2)
    {seen : List String} {outer : List Frame} {ts rest : List Token}
    (h : run unicode .eof ts ⟨⟨true, true, seen⟩ :: outer, true⟩ = none)
    (hts : ts <+: Document.memberTokens members ++ rest) :
    LowerDistinct unicode members ∧ (∀ member ∈ members, unicode.lower member.1 ∉ seen ∧ Screened unicode member.2) ∧
      ∃ ts' seen', ts = Document.memberTokens members ++ ts' ∧ ts' <+: rest ∧
        run unicode .eof ts' ⟨⟨true, true, seen'⟩ :: outer, true⟩ = none := by
  induction members generalizing ts seen with
  | nil => exact ⟨.nil, fun _ hmember => absurd hmember List.not_mem_nil, ts, seen, rfl, hts, h⟩
  | cons member members ih =>
    obtain ⟨hmember, hrest⟩ := List.forall_mem_cons.mp hmembers
    obtain ⟨name, value⟩ := member
    rw [Document.memberTokens, List.cons_append, List.append_assoc] at hts
    obtain ⟨ts', next, rfl, hts', hstep, hrun⟩ := run_inside h hts
    obtain ⟨hname, rfl⟩ := step_name hstep
    obtain ⟨hscreened, ts', rfl, hts', hrun⟩ := hmember _ outer ts' _ rfl hrun hts'
    obtain ⟨hdistinct, hothers, ts', seen', rfl, hts', hrun⟩ := ih hrest hrun hts'
    refine ⟨List.pairwise_cons.mpr ⟨fun other hother heq => ?_, hdistinct⟩, ?_, ts', seen', ?_, hts', hrun⟩
    · exact (hothers other hother).1 (heq ▸ List.mem_cons_self)
    · refine List.forall_mem_cons.mpr ⟨⟨hname, hscreened⟩, fun other hother => ⟨fun hseen => ?_, (hothers other hother).2⟩⟩
      exact (hothers other hother).1 (List.mem_cons_of_mem _ hseen)
    · rw [Document.memberTokens, List.cons_append, List.append_assoc]

theorem screened_array {items : List Document} (h : ∀ item ∈ items, Screened unicode item) :
    Screened unicode (.array items) := by
  intro members hmembers
  cases hmembers with
  | item hitem hobject => exact h _ hitem members hobject

theorem screened_object {members : List (String × Document)} (h : LowerDistinct unicode members)
    (hmembers : ∀ member ∈ members, Screened unicode member.2) : Screened unicode (.object members) := by
  intro inner hinner
  cases hinner with
  | here => exact h
  | member hmember hobject => exact hmembers _ hmember inner hobject

theorem reads_array {items : List Document} (hitems : ∀ item ∈ items, Reads unicode item) :
    Reads unicode (.array items) := by
  intro frame outer ts rest _ h hts
  rw [Document.tokens, List.cons_append, List.append_assoc] at hts
  obtain ⟨ts', next, rfl, hts', hstep, hrun⟩ := run_inside h hts
  rw [push_ok hstep] at hrun
  obtain ⟨hscreened, ts', rfl, hts', hrun⟩ := reads_items hitems hrun hts'
  obtain ⟨ts', next, rfl, hts', hstep, hrun⟩ := run_inside hrun hts'
  obtain rfl := Except.ok.inj hstep
  refine ⟨screened_array hscreened, ts', ?_, hts', hrun⟩
  rw [Document.tokens, List.cons_append, List.append_assoc]
  rfl

theorem reads_object {members : List (String × Document)} (hmembers : ∀ member ∈ members, Reads unicode member.2) :
    Reads unicode (.object members) := by
  intro frame outer ts rest _ h hts
  rw [Document.tokens, List.cons_append, List.append_assoc] at hts
  obtain ⟨ts', next, rfl, hts', hstep, hrun⟩ := run_inside h hts
  rw [push_ok hstep] at hrun
  obtain ⟨hdistinct, hscreened, ts', seen, rfl, hts', hrun⟩ := reads_members hmembers hrun hts'
  obtain ⟨ts', next, rfl, hts', hstep, hrun⟩ := run_inside hrun hts'
  obtain rfl := Except.ok.inj hstep
  refine ⟨screened_object hdistinct fun member hmember => (hscreened member hmember).2, ts', ?_, hts', hrun⟩
  rw [Document.tokens, List.cons_append, List.append_assoc]
  rfl

theorem reads (document : Document) : Reads unicode document :=
  Document.induct reads_scalar (fun _ => reads_array) (fun _ => reads_object) document

/-! ### The whole stream -/

theorem run_failed (ts : List Token) (state : Scan) : run unicode .failed ts state ≠ none := by
  induction ts generalizing state with
  | nil =>
    rw [run]
    split_ifs <;> exact Option.some_ne_none _
  | cons token ts ih =>
    rw [run]
    cases step unicode state token with
    | error err => exact Option.some_ne_none err
    | ok next => exact ih next

theorem run_behind {ts : List Token} (h : run unicode .eof ts ⟨[], true⟩ = none) : ts = [] := by
  cases ts with
  | nil => rfl
  | cons token ts => simp [run, step] at h

theorem run_start {ts : List Token} {values : List Document} (h : run unicode .eof ts ⟨[], false⟩ = none)
    (hts : ts <+: values.flatMap Document.tokens) :
    ∃ members others, values = .object members :: others ∧ ts = (Document.object members).tokens ∧
      Screened unicode (.object members) := by
  cases ts with
  | nil => simp [run] at h
  | cons token ts =>
    cases values with
    | nil => simp at hts
    | cons first others =>
      rw [List.flatMap_cons] at hts
      cases first with
      | scalar value =>
        rw [Document.tokens, List.cons_append] at hts
        obtain ⟨rfl, -⟩ := List.cons_prefix_cons.mp hts
        cases value <;> simp [run, step, Scalar.token] at h
      | array items =>
        rw [Document.tokens, List.cons_append] at hts
        obtain ⟨rfl, -⟩ := List.cons_prefix_cons.mp hts
        simp [run, step, push] at h
      | object members =>
        rw [Document.tokens, List.cons_append, List.append_assoc] at hts
        obtain ⟨rfl, hinside⟩ := List.cons_prefix_cons.mp hts
        have hopened : run unicode .eof ts ⟨[⟨true, true, []⟩], true⟩ = none := h
        obtain ⟨hdistinct, hscreened, ts', seen, rfl, hts', hrun⟩ := reads_members (fun _ _ => reads _) hopened hinside
        obtain ⟨ts', next, rfl, hts', hstep, hrun⟩ := run_inside hrun hts'
        obtain rfl := Except.ok.inj hstep
        obtain rfl := run_behind hrun
        refine ⟨members, others, rfl, ?_, screened_object hdistinct fun member hmember => (hscreened member hmember).2⟩
        rw [Document.tokens]

end Scan

theorem prescanJSON_eq_none {unicode : Unicode} {decoder : Decoder} {data : List UInt8}
    (h : prescanJSON unicode decoder data = none) :
    ∃ members, decoder.value data = some (.object members) ∧ Screened unicode (.object members) := by
  rcases hstream : decoder.stream data with ⟨ts, ending⟩
  rw [prescanJSON, hstream] at h
  cases ending with
  | failed => exact absurd h (Scan.run_failed _ _)
  | eof =>
    obtain ⟨values, hts, hfirst⟩ := decoder.nested data ts hstream
    obtain ⟨members, others, hvalues, rfl, hscreened⟩ := Scan.run_start h hts
    exact ⟨members, hfirst _ others hvalues (List.prefix_refl _), hscreened⟩

end AntiFlock.Capability
