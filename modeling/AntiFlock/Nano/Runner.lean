import AntiFlock.Effect.Logic
import AntiFlock.Nano.Proposal
import Mathlib.Data.List.Sort
import Mathlib.Data.Prod.Lex
import Mathlib.Data.String.Basic

set_option autoImplicit false

/-!
# The watchdog runner and its registry

A runner evaluates an admitted program against a finding: it loads the cursor of
the program and node, evaluates, builds the proposals, and returns them only after
the cursor has been swapped. A pass over the open findings of a node runs them one
after the other. The database swaps a cursor with an `UPDATE` and, where there was
no row yet, an `INSERT`; the store in memory does it under its lock.
-/
namespace AntiFlock.Nano
open AntiFlock.Go AntiFlock.Effect

/-- Which row of the cursors: a program's digest and a node. -/
structure Key where
  programDigest : String
  nodeID : String
deriving DecidableEq

inductive Status where
  | admitted
  | other (text : String)
deriving DecidableEq

structure WatchdogRecord where
  id : String
  nodeID : String
  source : String
  programDigest : String
  bindingID : String
  status : Status

inductive Request where
  | contextErr
  | clock
  | load (key : Key)
  | update (key : Key) (previous next : Cursor)
  | insert (key : Key) (next : Cursor)
  | swap (key : Key) (previous next : Cursor)
  | getProgram (id : String)

/-- The statements that change the table say whether they changed a row. -/
def Request.Answer : Request → Type
  | .contextErr => Option Err
  | .clock => Instant
  | .load _ => Except Err Cursor
  | .update _ _ _ | .insert _ _ | .swap _ _ _ => Except Err Bool
  | .getProgram _ => Except Err WatchdogRecord

abbrev sig : Sig := ⟨Request, Request.Answer⟩

abbrev Watchdog (α : Type) := ExceptT Err (Prog sig) α

def ask (q : Request) : Watchdog q.Answer := ExceptT.lift (Prog.perform (S := sig) q)

def readClock : Watchdog Instant := ask .clock

def getProgram (id : String) : Watchdog (Except Err WatchdogRecord) := ask (.getProgram id)

def give {α : Type} (result : Except Err α) : Watchdog α := ExceptT.mk (pure result)

def ensure (condition : Bool) (err : Err) : Watchdog Unit := give (if condition then .ok () else .error err)

def wrap {α : Type} (text : String) : Except Err α → Except Err α
  | .ok a => .ok a
  | .error err => .error (.wrapped text err)

/-- What fails inside is reported as a failure of what was attempted. -/
def within {α : Type} (text : String) (p : Watchdog α) : Watchdog α :=
  ExceptT.mk (p.run.bind fun result => .ret (wrap text result))

def checkContext : Watchdog Unit := do
  let err : Option Err ← ask .contextErr
  match err with
  | none => pure ()
  | some err => throw err

/-! ## Cursor stores -/

inductive Store where
  | database
  | memory
deriving DecidableEq

def boundedNanoCursorID (value : String) (maximum : ℕ) : Bool :=
  value ≠ "" && len value ≤ maximum && trimSpace value = value && !containsAny value "\x00\r\n"

def Key.bounded (key : Key) : Bool := boundedNanoCursorID key.programDigest 128 && boundedNanoCursorID key.nodeID 128

def loadCursor (store : Store) (key : Key) : Watchdog Cursor :=
  match store with
  | .database => do
    ensure key.bounded (.plain "nano cursor identity is invalid")
    let answer : Except Err Cursor ← ask (.load key)
    give (wrap "read nano cursor" answer)
  | .memory => do
    checkContext
    let answer : Except Err Cursor ← ask (.load key)
    give answer

theorem Cursor.eq_zero {cursor : Cursor} (h : ¬ (cursor.initialized || cursor.nextDueUnix ≠ 0) = true) :
    cursor = .zero := by
  obtain ⟨initialized, nextDueUnix⟩ := cursor
  simp only [Bool.or_eq_true, decide_eq_true_eq, not_or, Bool.not_eq_true, not_not] at h
  obtain ⟨rfl, rfl⟩ := h
  rfl

/-- A row that was not there is created, unless someone else has done so. -/
def createCursor (key : Key) (previous next : Cursor) : Watchdog Bool :=
  if previous.initialized || previous.nextDueUnix ≠ 0 then pure false
  else do
    let created : Except Err Bool ← ask (.insert key next)
    give (wrap "create nano cursor" created)

def compareAndSwap (store : Store) (key : Key) (previous next : Cursor) : Watchdog Bool :=
  match store with
  | .database => do
    let now ← readClock
    ensure (key.bounded && !now.isZero) (.plain "nano cursor state is invalid")
    let answer : Except Err Bool ← ask (.update key previous next)
    let changed ← give (wrap "compare nano cursor" answer)
    match changed with
    | true => pure true
    | false => createCursor key previous next
  | .memory => do
    checkContext
    let answer : Except Err Bool ← ask (.swap key previous next)
    give answer

/-! ## The runner -/

def maximumTTL : ℤ := 15 * 60 * Instant.perSecond

section Runner
variable (formats : Formats)

structure Runner where
  program : Program
  programDigest : String
  bindingID : String
  nodeID : String
  proposalTTL : ℤ
  store : Store
  node : isOpaque nodeID = true
  ttl : 0 < proposalTTL ∧ proposalTTL ≤ maximumTTL
  admitted : admitWatchdog program = .ok ()
  bound : (admittedBindings.lookup bindingID).isSome = true
  digest : program.digest formats = .ok programDigest

variable {formats}

def Runner.key (runner : Runner formats) : Key := ⟨runner.programDigest, runner.nodeID⟩

structure RunResult where
  programDigest : String
  inputDigest : String
  evaluation : EvaluationResult
  proposals : List SecureActionProposal

def Runner.deadline (runner : Runner formats) (finding : FindingContext) : Instant :=
  (Instant.unix finding.observedUnix).add runner.proposalTTL

/-- A finding that would lead to a proposal must not be too old by the clock. -/
def checkAge (deadline : Instant) (evaluation : EvaluationResult) : Watchdog Unit :=
  if evaluation.intents = [] then pure ()
  else do
    let now ← readClock
    ensure (now < deadline) (.plain "watchdog finding is too old to produce a proposal")

def Runner.proposals (runner : Runner formats) (finding : FindingContext) (evaluation : EvaluationResult)
    (inputDigest : String) : Except Err (List SecureActionProposal) :=
  buildProposals evaluation runner.bindingID runner.programDigest inputDigest runner.nodeID (runner.deadline finding)

def runFinding (runner : Runner formats) (finding : FindingContext) : Watchdog RunResult := do
  checkContext
  ensure (finding.nodeID = runner.nodeID) (.plain "watchdog finding node does not match runner node")
  let (frame, inputDigest) ← give (frameForFinding formats finding)
  let cursor ← within "load watchdog schedule cursor" (loadCursor runner.store runner.key)
  let (evaluation, next) ← give (evaluate formats runner.program frame cursor defaultLimits)
  checkAge (runner.deadline finding) evaluation
  let proposals ← give (runner.proposals finding evaluation inputDigest)
  let advanced ← within "persist watchdog schedule cursor" (compareAndSwap runner.store runner.key cursor next)
  ensure advanced (.plain "watchdog schedule cursor changed concurrently; retry finding")
  pure { programDigest := runner.programDigest, inputDigest, evaluation, proposals }

/-! ## A pass over the open findings -/

/-- Findings are run oldest first, and in the order of their identifiers among those of one second. -/
def less (left right : FindingContext) : Bool :=
  if left.observedUnix = right.observedUnix then left.findingID < right.findingID
  else left.observedUnix < right.observedUnix

/-- `sort.Slice`, which may leave what compares equal in any order. -/
structure Sorter where
  sort : List FindingContext → List FindingContext
  perm : ∀ findings, (sort findings).Perm findings
  ordered : ∀ findings, (sort findings).Pairwise fun left right => less right left = false

def candidates (sorter : Sorter) (nodeID : String) (findings : List FindingContext) : List FindingContext :=
  sorter.sort (findings.filter fun finding => finding.nodeID = nodeID)

end Runner

end AntiFlock.Nano
