import AntiFlock.Nano.Program
import Mathlib.Data.List.TakeWhile

set_option autoImplicit false

/-!
# Evaluation of a program over a frame

A frame holds timestamps and the signals observed at them. A timestamp before the
one the cursor says is due next is passed over; the others move the cursor one
step ahead, and emit the intents of the program where all its conditions hold.
The frame of a finding has one timestamp.
-/
namespace AntiFlock.Nano
open AntiFlock.Go

structure Frame where
  timestamps : List Int64
  signals : List (String × List Float64)

structure Cursor where
  initialized : Bool
  nextDueUnix : Int64
deriving DecidableEq

def Cursor.zero : Cursor := ⟨false, 0⟩

def Cursor.early (cursor : Cursor) (timestamp : Int64) : Bool :=
  cursor.initialized && timestamp < cursor.nextDueUnix

structure EmittedIntent where
  action : Action
  timestamp : Int64
deriving DecidableEq

structure TraceEntry where
  event : String
  timestamp : Int64
  detail : String

structure EvaluationResult where
  intents : List EmittedIntent
  trace : List TraceEntry
  instructions : ℤ

def compare (observed : Float64) (operator : Operator) (expected : Float64) : Bool :=
  match operator with
  | .lt => observed.lt expected
  | .le => observed.le expected
  | .gt => expected.lt observed
  | .ge => expected.le observed
  | .eq => observed.eq expected
  | .ne => !observed.eq expected

def ordered : List Int64 → Bool
  | [] => true
  | [_] => true
  | t :: u :: rest => !(u < t) && ordered (u :: rest)

def Frame.valid (frame : Frame) (limits : Limits) : Bool :=
  frame.timestamps ≠ [] && (frame.timestamps.length : ℤ) ≤ limits.maxTimestamps &&
    (frame.signals.length : ℤ) ≤ limits.maxSignals && ordered frame.timestamps &&
    frame.signals.all fun signal => trimSpace signal.1 ≠ "" && signal.2.length = frame.timestamps.length &&
      signal.2.all fun value => !value.isNaN && !value.isInf

section Evaluate
variable (formats : Formats) (program : Program) (limits : Limits) (signals : List (String × List Float64))
  (index : ℕ) (timestamp : Int64)

def conditionDetail (condition : Condition) (observed : Float64) (passed : Bool) : String :=
  condition.signal ++ " " ++ condition.operator.text ++ " " ++ formats.formatFloat condition.value ++
    " observed=" ++ formats.formatFloat observed ++ " -> " ++ (if passed then "true" else "false")

/-- Conditions are evaluated up to the first that fails. -/
def checkConditions : List Condition → EvaluationResult → Except Err (Bool × EvaluationResult)
  | [], result => .ok (true, result)
  | condition :: conditions, result =>
    if limits.maxInstructions < result.instructions + 1 then .error .instructionLimit
    else
      match signals.lookup condition.signal with
      | none => .error (.invalidFrame ("signal " ++ condition.signal ++ " is missing"))
      | some series =>
        let observed := series.getD index Float64.zero
        let passed := compare observed condition.operator condition.value
        let result :=
          { result with
            instructions := result.instructions + 1
            trace := result.trace ++
              [⟨"condition.evaluated", timestamp, conditionDetail formats condition observed passed⟩] }
        if passed then checkConditions conditions result else .ok (false, result)

def emitIntents : List Intent → EvaluationResult → Except Err EvaluationResult
  | [], result => .ok result
  | intent :: intents, result =>
    if limits.maxInstructions < result.instructions + 1 ∨ limits.maxOutputs ≤ result.intents.length then
      .error .instructionLimit
    else emitIntents intents
      { intents := result.intents ++ [⟨intent.action, timestamp⟩]
        trace := result.trace ++ [⟨"intent.emitted", timestamp, intent.action.text⟩]
        instructions := result.instructions + 1 }

def fire (result : EvaluationResult) : Except Err EvaluationResult := do
  let (matched, result) ← checkConditions formats limits signals index timestamp program.conditions result
  if matched && program.conditions ≠ [] then emitIntents limits timestamp program.intents result else pure result

def evaluateAt (state : EvaluationResult × Cursor) : Except Err (EvaluationResult × Cursor) :=
  if state.2.early timestamp then .ok state
  else if Int64.maxValue - program.step < timestamp then .error (.invalidFrame "")
  else do
    let result ← fire formats program limits signals index timestamp state.1
    pure (result, ⟨true, timestamp + program.step⟩)

end Evaluate

def loaded (program : Program) (timestamp : Int64) : EvaluationResult :=
  ⟨[], [⟨"strategy.loaded", timestamp, program.name⟩], 0⟩

def evaluate (formats : Formats) (program : Program) (frame : Frame) (cursor : Cursor) (limits : Limits) :
    Except Err (EvaluationResult × Cursor) := do
  limits.validate
  admitWatchdog program
  if frame.valid limits then
    frame.timestamps.zipIdx.foldlM
      (fun state entry => evaluateAt formats program limits frame.signals entry.2 entry.1 state)
      (loaded program (frame.timestamps.headD 0), cursor)
  else throw (.invalidFrame "")

/-! ## Findings -/

structure FindingContext where
  findingID : String
  nodeID : String
  reasonCode : String
  confidence : Float64
  observedUnix : Int64

/-- `unicode.ToUpper`, as far as the result is an ASCII letter. Two letters beyond ASCII have one. -/
def toUpper (c : Char) : Char :=
  if c = 'ı' then 'I' else if c = 'ſ' then 'S' else c.toUpper

def reasonChar (c : Char) : Bool :=
  ('A'.toNat ≤ c.toNat && c.toNat ≤ 'Z'.toNat) || ('0'.toNat ≤ c.toNat && c.toNat ≤ '9'.toNat)

/-- Runs of other characters become one underscore, but not at the front. -/
def underscored : List Char → List Char → List Char
  | [], built => built
  | c :: rest, built =>
    if reasonChar c then underscored rest (built ++ [c])
    else if built ≠ [] ∧ built.getLast? ≠ some '_' then underscored rest (built ++ ['_'])
    else underscored rest built

def normalizeReason (reason : String) : String :=
  String.ofList ((underscored (reason.toList.map toUpper) []).reverse.dropWhile (· == '_')).reverse

def digestPart (value : String) : List UInt8 := bytes (toString (len value)) ++ 0 :: bytes value

def inputDigest (formats : Formats) (finding : FindingContext) : String :=
  "sha256:" ++ hexEncode (Sha256.sum256
    (["AntiFlock-Nano-Finding-v1", finding.findingID, finding.nodeID, finding.reasonCode,
      formats.formatFloat finding.confidence, toString finding.observedUnix.toInt].flatMap digestPart))

def FindingContext.frame (finding : FindingContext) : Frame where
  timestamps := [finding.observedUnix]
  signals := [("REASON_" ++ normalizeReason finding.reasonCode, [Float64.one]), ("CONFIDENCE", [finding.confidence])]

def frameForFinding (formats : Formats) (finding : FindingContext) : Except Err (Frame × String) :=
  if finding.findingID = "" ∨ finding.nodeID = "" ∨ finding.reasonCode = "" ∨
      finding.confidence.lt Float64.zero ∨ Float64.one.lt finding.confidence ∨ finding.confidence.isNaN ∨
      finding.confidence.isInf then
    .error (.invalidFrame "")
  else if normalizeReason finding.reasonCode = "" then .error (.invalidFrame "")
  else .ok (finding.frame, inputDigest formats finding)

/-! ## What one finding does -/

theorem trimSpace_ne_empty {s : String} {c : Char} (hc : c ∈ s.toList) (hspace : isSpace c = false) :
    trimSpace s ≠ "" := by
  intro hempty
  have hchars : ((s.toList.dropWhile isSpace).reverse.dropWhile isSpace).reverse = [] := by
    have htoList := congrArg String.toList hempty
    rwa [trimSpace, String.toList_ofList] at htoList
  have hall := List.dropWhile_eq_nil_iff.mp (List.reverse_eq_nil_iff.mp hchars)
  -- what is left begins with a character that is no space, unless all were
  have hhead := List.head?_dropWhile_not isSpace s.toList
  cases hleft : s.toList.dropWhile isSpace with
  | nil =>
    have hspaces := List.dropWhile_eq_nil_iff.mp hleft c hc
    rw [hspace] at hspaces
    cases hspaces
  | cons d rest =>
    rw [hleft] at hhead hall
    have hd := hall d (by simp)
    rw [show isSpace d = false from hhead] at hd
    cases hd

section Finding
variable {formats : Formats} {program : Program} {finding : FindingContext} {frame : Frame} {digest : String}

theorem frameForFinding_ok (h : frameForFinding formats finding = .ok (frame, digest)) :
    frame = finding.frame ∧ digest = inputDigest formats finding ∧ finding.frame.valid defaultLimits = true := by
  unfold frameForFinding at h
  split_ifs at h with hrefused hreason
  cases h
  refine ⟨rfl, rfl, ?_⟩
  simp only [not_or] at hrefused
  obtain ⟨-, -, -, -, -, hnan, hinf⟩ := hrefused
  have hname : trimSpace ("REASON_" ++ normalizeReason finding.reasonCode) ≠ "" :=
    trimSpace_ne_empty (c := 'R') (by simp) (by decide)
  have hconfidence : trimSpace "CONFIDENCE" ≠ "" := trimSpace_ne_empty (c := 'C') (by simp) (by decide)
  have hone : Float64.one.isNaN = false ∧ Float64.one.isInf = false := by decide
  simp [Frame.valid, FindingContext.frame, defaultLimits, ordered, hname, hconfidence, hone, hnan, hinf]

theorem except_ok_bind {ε α β : Type} (a : α) (f : α → Except ε β) : (Except.ok a >>= f) = f a := rfl

theorem except_bind_pure {ε α : Type} (x : Except ε α) : (x >>= .ok) = x := by
  cases x with
  | ok a => rfl
  | error err => rfl

theorem evaluate_finding (hadmitted : admitWatchdog program = .ok ())
    (hframe : frameForFinding formats finding = .ok (frame, digest)) (cursor : Cursor) :
    evaluate formats program frame cursor defaultLimits =
      evaluateAt formats program defaultLimits finding.frame.signals 0 finding.observedUnix
        (loaded program finding.observedUnix, cursor) := by
  obtain ⟨rfl, -, hvalid⟩ := frameForFinding_ok hframe
  have hlimits : defaultLimits.validate = .ok () := by decide
  rw [evaluate, hlimits, hadmitted, except_ok_bind, except_ok_bind, if_pos hvalid]
  change (evaluateAt formats program defaultLimits finding.frame.signals 0 finding.observedUnix
    (loaded program finding.observedUnix, cursor) >>= .ok) = _
  exact except_bind_pure _

theorem evaluateAt_early {limits : Limits} {signals : List (String × List Float64)} {index : ℕ} {timestamp : Int64}
    {result : EvaluationResult} {cursor : Cursor} (h : cursor.early timestamp = true) :
    evaluateAt formats program limits signals index timestamp (result, cursor) = .ok (result, cursor) := if_pos h

theorem checkConditions_intents {limits : Limits} {signals : List (String × List Float64)} {index : ℕ}
    {timestamp : Int64} {conditions : List Condition} {result result' : EvaluationResult} {matched : Bool}
    (h : checkConditions formats limits signals index timestamp conditions result = .ok (matched, result')) :
    result'.intents = result.intents := by
  induction conditions generalizing result with
  | nil =>
    cases h
    rfl
  | cons condition conditions ih =>
    unfold checkConditions at h
    split at h
    · cases h
    split at h
    · cases h
    simp only at h
    split at h
    · have hrest := ih h
      exact hrest
    · cases h
      rfl

theorem emitIntents_timestamp {limits : Limits} {timestamp : Int64} {intents : List Intent}
    {result result' : EvaluationResult} (h : emitIntents limits timestamp intents result = .ok result')
    (hold : ∀ intent ∈ result.intents, intent.timestamp = timestamp) :
    ∀ intent ∈ result'.intents, intent.timestamp = timestamp := by
  induction intents generalizing result with
  | nil =>
    cases h
    exact hold
  | cons intent intents ih =>
    unfold emitIntents at h
    split at h
    · cases h
    refine ih h fun emitted hemitted => ?_
    rcases List.mem_append.mp hemitted with hemitted | hemitted
    · exact hold emitted hemitted
    · cases List.mem_singleton.mp hemitted
      rfl

theorem fire_timestamp {limits : Limits} {signals : List (String × List Float64)} {index : ℕ} {timestamp : Int64}
    {result result' : EvaluationResult} (h : fire formats program limits signals index timestamp result = .ok result')
    (hold : ∀ intent ∈ result.intents, intent.timestamp = timestamp) :
    ∀ intent ∈ result'.intents, intent.timestamp = timestamp := by
  unfold fire at h
  cases hcheck : checkConditions formats limits signals index timestamp program.conditions result with
  | error err =>
    rw [hcheck] at h
    cases h
  | ok checked =>
    obtain ⟨matched, checked⟩ := checked
    rw [hcheck] at h
    have hsame : ∀ intent ∈ checked.intents, intent.timestamp = timestamp := by
      rw [checkConditions_intents hcheck]
      exact hold
    simp only [bind, Except.bind] at h
    split at h
    · exact emitIntents_timestamp h hsame
    · cases h
      exact hsame

theorem toInt_step {timestamp : Int64} (h : ¬ Int64.maxValue - program.step < timestamp) :
    (timestamp + program.step).toInt = timestamp.toInt + program.step.toInt := by
  have hpos := program.step_pos
  rw [Int64.lt_iff_toInt_lt, toInt_sub_of_nonneg (by decide) hpos.le, not_lt] at h
  exact toInt_add_of_le hpos.le (by omega)

/-- An evaluated finding came too early and changed nothing, or moved the cursor one step ahead of itself. -/
inductive Evaluated (program : Program) (timestamp : Int64) (cursor : Cursor) (result : EvaluationResult)
    (next : Cursor) : Prop where
  | early (h : cursor.early timestamp = true) (intents : result.intents = []) (same : next = cursor)
  | due (h : cursor.early timestamp = false) (moved : next = ⟨true, timestamp + program.step⟩)
      (exact : (timestamp + program.step).toInt = timestamp.toInt + program.step.toInt)
      (stamped : ∀ intent ∈ result.intents, intent.timestamp = timestamp)

theorem evaluated_of_evaluate (hadmitted : admitWatchdog program = .ok ())
    (hframe : frameForFinding formats finding = .ok (frame, digest)) {cursor next : Cursor}
    {result : EvaluationResult} (h : evaluate formats program frame cursor defaultLimits = .ok (result, next)) :
    Evaluated program finding.observedUnix cursor result next := by
  rw [evaluate_finding hadmitted hframe] at h
  cases hearly : cursor.early finding.observedUnix with
  | true =>
    rw [evaluateAt_early hearly] at h
    cases h
    exact .early hearly rfl rfl
  | false =>
    unfold evaluateAt at h
    rw [if_neg (by simp [hearly])] at h
    split at h
    · cases h
    rename_i hfits
    cases hfire : fire formats program defaultLimits finding.frame.signals 0 finding.observedUnix
        (loaded program finding.observedUnix) with
    | error err =>
      rw [hfire] at h
      cases h
    | ok fired =>
      rw [hfire] at h
      cases h
      exact .due hearly rfl (toInt_step hfits) (fire_timestamp hfire fun intent hintent => by cases hintent)

theorem evaluate_refuses (hadmitted : admitWatchdog program = .ok ())
    (hframe : frameForFinding formats finding = .ok (frame, digest)) {cursor : Cursor}
    (hdue : cursor.early finding.observedUnix = false) (hoverflow : (finding.observedUnix + program.step).toInt ≠
      finding.observedUnix.toInt + program.step.toInt) :
    evaluate formats program frame cursor defaultLimits = .error (.invalidFrame "") := by
  rw [evaluate_finding hadmitted hframe, evaluateAt, if_neg (by simp [hdue]), if_pos]
  by_contra hfits
  exact hoverflow (toInt_step hfits)

end Finding
end AntiFlock.Nano
