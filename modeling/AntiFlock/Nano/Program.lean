import AntiFlock.Go.Encoding
import AntiFlock.Go.Float64

set_option autoImplicit false

/-!
# Nano programs

A watchdog program as the compiler builds it: a schedule whose seconds are those
of its interval, conditions, intents and agents. Programs are identified by the
digest of a canonical JSON text, and that text determines the schedule.
-/
namespace AntiFlock.Nano
open AntiFlock.Go

inductive Err where
  | limitExceeded
  | admissionDenied (detail : String)
  | invalidFrame (detail : String)
  | instructionLimit
  | plain (text : String)
  | wrapped (text : String) (cause : Err)
deriving DecidableEq

structure Limits where
  maxSourceBytes : ℤ
  maxTokens : ℤ
  maxAgents : ℤ
  maxConditions : ℤ
  maxIntents : ℤ
  maxSignals : ℤ
  maxTimestamps : ℤ
  maxInstructions : ℤ
  maxOutputs : ℤ

def defaultLimits : Limits where
  maxSourceBytes := 65536
  maxTokens := 4096
  maxAgents := 16
  maxConditions := 64
  maxIntents := 16
  maxSignals := 128
  maxTimestamps := 1024
  maxInstructions := 8192
  maxOutputs := 128

def Limits.validate (limits : Limits) : Except Err Unit :=
  if [limits.maxSourceBytes, limits.maxTokens, limits.maxAgents, limits.maxConditions, limits.maxIntents,
      limits.maxSignals, limits.maxTimestamps, limits.maxInstructions, limits.maxOutputs].any (· < 1) then
    .error (.plain "every Nano resource limit must be positive")
  else .ok ()

def multiplier (unit : UInt8) : Option Int64 :=
  if unit = 115 then some 1
  else if unit = 109 then some 60
  else if unit = 104 then some 3600
  else if unit = 100 then some 86400
  else none

def intervalSeconds (value : String) : Except Err Int64 :=
  let text := bytes value
  if text.length < 2 then .error (.plain "invalid interval")
  else
    match parseInt text.dropLast with
    | none => .error (.plain "interval must be positive")
    | some amount =>
      if amount ≤ 0 then .error (.plain "interval must be positive")
      else
        match text.getLast?.bind multiplier with
        | none => .error (.plain "invalid interval")
        | some m => if Int64.maxValue / m < amount then .error (.plain "invalid interval") else .ok (amount * m)

structure Schedule where
  interval : String
  seconds : Int64
  valid : intervalSeconds interval = .ok seconds

inductive Operator where
  | lt
  | le
  | gt
  | ge
  | eq
  | ne
deriving DecidableEq

def Operator.text : Operator → String
  | .lt => "<"
  | .le => "<="
  | .gt => ">"
  | .ge => ">="
  | .eq => "=="
  | .ne => "!="

structure Condition where
  signal : String
  operator : Operator
  value : Float64

inductive Action where
  | buy
  | sell
  | execute
  | pause
  | observe
deriving DecidableEq

def Action.text : Action → String
  | .buy => "BUY"
  | .sell => "SELL"
  | .execute => "EXECUTE"
  | .pause => "PAUSE"
  | .observe => "OBSERVE"

structure Intent where
  action : Action
  asset : String
  confidence : Option Float64

structure Program where
  name : String
  schedule : Option Schedule
  conditions : List Condition
  intents : List Intent
  agents : List String

def Program.step (program : Program) : Int64 := (program.schedule.map Schedule.seconds).getD 1

def admitIntent (intent : Intent) : Except Err Unit :=
  if intent.action ≠ .execute ∧ intent.action ≠ .observe then
    .error (.admissionDenied (intent.action.text ++ " intents are not admitted"))
  else if intent.asset ≠ "" ∨ intent.confidence.isSome then
    .error (.admissionDenied "watchdog intents cannot carry script-selected parameters")
  else .ok ()

def admitWatchdog (program : Program) : Except Err Unit := program.intents.forM admitIntent

/-! ## The step is positive -/

theorem multiplier_pos {unit : UInt8} {m : Int64} (h : multiplier unit = some m) : 0 < m.toInt := by
  unfold multiplier at h
  split_ifs at h <;> cases h <;> decide

/-- The seconds of an interval are the exact product of its amount, which is positive, and its unit. -/
theorem intervalSeconds_ok {value : String} {seconds : Int64} (h : intervalSeconds value = .ok seconds) :
    ∃ amount u n m, bytes value = amount ++ [u] ∧ parseInt amount = some n ∧ multiplier u = some m ∧ 0 < n.toInt ∧
      seconds.toInt = n.toInt * m.toInt := by
  unfold intervalSeconds at h
  simp only at h
  split at h
  · cases h
  split at h
  · cases h
  rename_i hlength n hn
  split at h
  · cases h
  rename_i hpositive
  split at h
  · cases h
  rename_i m hm
  split at h
  · cases h
  rename_i hfits
  cases h
  obtain ⟨u, hu, hunit⟩ := Option.bind_eq_some_iff.mp hm
  obtain ⟨amount, hamount⟩ := List.getLast?_eq_some_iff.mp hu
  rw [hamount, List.dropLast_concat] at hn
  -- the product is exact, since the amount is at most the largest number divided by the unit
  have hpos := multiplier_pos hunit
  rw [Int64.le_iff_toInt_le, not_le] at hpositive
  rw [Int64.lt_iff_toInt_lt, not_lt, toInt_div_of_pos (by decide) hpos] at hfits
  have hproduct : n.toInt * m.toInt ≤ Int64.maxValue.toInt := Int.mul_le_of_le_ediv hpos hfits
  exact ⟨amount, u, n, m, hamount, hn, hunit, hpositive, toInt_mul_of_le hpositive.le hpos.le hproduct⟩

theorem intervalSeconds_pos {value : String} {seconds : Int64} (h : intervalSeconds value = .ok seconds) :
    0 < seconds.toInt := by
  obtain ⟨-, u, n, m, -, -, hm, hn, hseconds⟩ := intervalSeconds_ok h
  rw [hseconds]
  exact Int.mul_pos hn (multiplier_pos hm)

theorem Program.step_pos (program : Program) : 0 < program.step.toInt := by
  unfold Program.step
  cases program.schedule with
  | none => decide
  | some schedule => exact intervalSeconds_pos schedule.valid

/-! ## The canonical text -/

/-- How Go writes numbers: `strconv.FormatFloat` with the shortest digits, and `encoding/json`, which
has no text for what is not finite. -/
structure Formats where
  formatFloat : Float64 → String
  jsonFloat : Float64 → Option String

def plainFormats : Formats := ⟨fun _ => "1", fun _ => some "1"⟩

section Canonical
variable (formats : Formats)

def member (key text : String) : String := "\"" ++ key ++ "\":" ++ text

def optionalMember (key value : String) : List String :=
  if value = "" then [] else [member key (Json.quotePlain value)]

def node (kind : String) (members : List String) : String :=
  "\x7b\"type\":\"" ++ kind ++ "\"" ++ String.join (members.map ("," ++ ·)) ++ "\x7d"

def Schedule.node (schedule : Schedule) : String := Nano.node "Schedule" (optionalMember "interval" schedule.interval)

def Condition.node (condition : Condition) : Option String := do
  let value ← formats.jsonFloat condition.value
  pure (Nano.node "Condition" (optionalMember "signal" condition.signal ++
    optionalMember "operator" condition.operator.text ++ [member "value" value]))

def confidenceMember : Option Float64 → Option (List String)
  | none => some []
  | some confidence => (formats.jsonFloat confidence).map fun text => [member "confidence" text]

def Intent.node (intent : Intent) : Option String := do
  let confidence ← confidenceMember formats intent.confidence
  pure (Nano.node "Intent" (optionalMember "action" intent.action.text ++ optionalMember "asset" intent.asset ++
    confidence))

def agentNode (name : String) : String := Nano.node "Agent" (optionalMember "name" name)

def Program.otherNodes (program : Program) : Option (List String) := do
  let conditions ← program.conditions.mapM (Condition.node formats)
  let intents ← program.intents.mapM (Intent.node formats)
  pure (conditions ++ intents ++ program.agents.map agentNode)

def Program.nodes (program : Program) : Option (List String) :=
  (program.otherNodes formats).map fun others => (program.schedule.map Schedule.node).toList ++ others

def lead : String := "\x7b\"type\":\"Strategy\",\"nanoIrVersion\":\"0.1.0\",\"name\":"

def effects : String := ",\"effects\":[\"intent.emit\",\"log.append\"],\"nodes\":"

def Program.canonicalJSON (program : Program) : Except Err String :=
  if trimSpace program.name = "" then .error (.plain "nano program name is required")
  else
    match program.nodes formats with
    | none => .error (.plain "json: unsupported value")
    | some nodes => .ok (lead ++ Json.quotePlain program.name ++ effects ++ Json.array nodes ++ "\x7d")

def Program.digest (program : Program) : Except Err String := do
  let canonical ← program.canonicalJSON formats
  pure ("sha256:" ++ hexEncode (Sha256.sum256 (bytes canonical)))

/-! ## Programs with one digest have one schedule -/

theorem interval_ne_empty (schedule : Schedule) : schedule.interval ≠ "" := by
  intro h
  have hvalid := schedule.valid
  rw [h] at hvalid
  cases hvalid

theorem node_front (kind : String) (members : List String) : ∃ tail,
    (node kind members).toList = "\x7b\"type\":\"".toList ++ (kind.toList ++ tail) :=
  ⟨"\"".toList ++ (String.join (members.map ("," ++ ·)) ++ "\x7d").toList, by simp [node]⟩

theorem Schedule.node_chars (schedule : Schedule) : schedule.node.toList =
    "\x7b\"type\":\"Schedule\",\"interval\":".toList ++ (Json.quotePlainChars schedule.interval.toList ++ ['\x7d']) := by
  rw [Schedule.node, optionalMember, if_neg (interval_ne_empty schedule)]
  simp [Nano.node, member, Json.quotePlain, String.join]

theorem commaSeparated_front (item : String) (items : List String) : ∃ tail,
    (Json.commaSeparated (item :: items)).toList = item.toList ++ tail := by
  cases items with
  | nil => exact ⟨[], by simp [Json.commaSeparated]⟩
  | cons next items => exact ⟨',' :: (Json.commaSeparated (next :: items)).toList, by simp [Json.commaSeparated]⟩

theorem exists_of_mem_mapM {α β : Type} {f : α → Option β} {xs : List α} {ys : List β} (h : xs.mapM f = some ys) :
    ∀ y ∈ ys, ∃ x ∈ xs, f x = some y := by
  induction xs generalizing ys with
  | nil =>
    cases h
    simp
  | cons x xs ih =>
    simp only [List.mapM_cons, Option.bind_eq_bind, Option.bind_eq_some_iff, Option.pure_def, Option.some.injEq] at h
    obtain ⟨y, hy, ys, hys, rfl⟩ := h
    rintro z (_ | ⟨_, hz⟩)
    · exact ⟨x, by simp, hy⟩
    · obtain ⟨x', hx', hfx⟩ := ih hys z hz
      exact ⟨x', List.mem_cons_of_mem x hx', hfx⟩

theorem otherNodes_kind {program : Program} {others : List String} (h : program.otherNodes formats = some others) :
    ∀ text ∈ others, ∃ kind ∈ ["Condition", "Intent", "Agent"], ∃ members, text = node kind members := by
  simp only [Program.otherNodes, Option.bind_eq_bind, Option.bind_eq_some_iff, Option.pure_def, Option.some.injEq] at h
  obtain ⟨conditions, hconditions, intents, hintents, rfl⟩ := h
  intro text htext
  rw [List.append_assoc, List.mem_append, List.mem_append] at htext
  rcases htext with htext | htext | htext
  · obtain ⟨condition, -, hnode⟩ := exists_of_mem_mapM hconditions text htext
    simp only [Condition.node, Option.bind_eq_bind, Option.bind_eq_some_iff, Option.pure_def, Option.some.injEq] at hnode
    obtain ⟨value, -, rfl⟩ := hnode
    exact ⟨"Condition", by simp, _, rfl⟩
  · obtain ⟨intent, -, hnode⟩ := exists_of_mem_mapM hintents text htext
    simp only [Intent.node, Option.bind_eq_bind, Option.bind_eq_some_iff, Option.pure_def, Option.some.injEq] at hnode
    obtain ⟨confidence, -, rfl⟩ := hnode
    exact ⟨"Intent", by simp, _, rfl⟩
  · obtain ⟨name, -, rfl⟩ := List.mem_map.mp htext
    exact ⟨"Agent", by simp, _, rfl⟩

theorem otherNodes_front {program : Program} {others : List String} (h : program.otherNodes formats = some others)
    (x y : List Char) : (Json.commaSeparated others).toList ++ ']' :: x ≠
      "\x7b\"type\":\"Schedule".toList ++ y := by
  intro heq
  cases others with
  | nil => simp [Json.commaSeparated] at heq
  | cons text others =>
    obtain ⟨kind, hkind, members, rfl⟩ := otherNodes_kind formats h text (by simp)
    obtain ⟨tail, htail⟩ := commaSeparated_front (node kind members) others
    obtain ⟨rest, hrest⟩ := node_front kind members
    rw [htail, hrest] at heq
    fin_cases hkind <;> simp at heq

theorem interval_of_nodes {p q : Program} {ps qs : List String} (hp : p.nodes formats = some ps)
    (hq : q.nodes formats = some qs) {x y : List Char}
    (h : (Json.commaSeparated ps).toList ++ ']' :: x = (Json.commaSeparated qs).toList ++ ']' :: y) :
    p.schedule.map Schedule.interval = q.schedule.map Schedule.interval := by
  obtain ⟨others, hothers, rfl⟩ := Option.map_eq_some_iff.mp hp
  obtain ⟨others', hothers', rfl⟩ := Option.map_eq_some_iff.mp hq
  have hfront (schedule : Schedule) (rest : List String) : ∃ tail,
      (Json.commaSeparated ((some schedule.node).toList ++ rest)).toList =
        "\x7b\"type\":\"Schedule\",\"interval\":".toList ++ (Json.quotePlainChars schedule.interval.toList ++ tail) := by
    obtain ⟨tail, htail⟩ := commaSeparated_front schedule.node rest
    exact ⟨'\x7d' :: tail, by simpa [schedule.node_chars] using htail⟩
  cases hs : p.schedule with
  | none =>
    cases hs' : q.schedule with
    | none => rfl
    | some schedule =>
      obtain ⟨tail, htail⟩ := hfront schedule others'
      rw [hs, hs', Option.map_none, Option.map_some, htail] at h
      exact absurd h (by simpa using otherNodes_front formats hothers x _)
  | some schedule =>
    obtain ⟨tail, htail⟩ := hfront schedule others
    cases hs' : q.schedule with
    | none =>
      rw [hs, hs', Option.map_none, Option.map_some, htail] at h
      exact absurd h.symm (by simpa using otherNodes_front formats hothers' y _)
    | some schedule' =>
      obtain ⟨tail', htail'⟩ := hfront schedule' others'
      rw [hs, hs', Option.map_some, Option.map_some, htail, htail', List.append_assoc, List.append_assoc,
        List.append_assoc, List.append_assoc] at h
      have hinterval := (Json.quotePlainChars_append_inj (List.append_cancel_left h)).1
      rw [Option.map_some, Option.map_some, String.toList_injective hinterval]

theorem canonicalJSON_ok {program : Program} {text : String} (h : program.canonicalJSON formats = .ok text) :
    ∃ nodes, program.nodes formats = some nodes ∧
      text = lead ++ Json.quotePlain program.name ++ effects ++ Json.array nodes ++ "\x7d" := by
  unfold Program.canonicalJSON at h
  split_ifs at h
  split at h
  · cases h
  · rename_i nodes hnodes
    cases h
    exact ⟨nodes, hnodes, rfl⟩

theorem step_of_canonicalJSON {p q : Program} {text : String} (hp : p.canonicalJSON formats = .ok text)
    (hq : q.canonicalJSON formats = .ok text) : p.step = q.step := by
  obtain ⟨ps, hps, rfl⟩ := canonicalJSON_ok formats hp
  obtain ⟨qs, hqs, htext⟩ := canonicalJSON_ok formats hq
  have hchars := congrArg String.toList htext
  simp only [String.toList_append, Json.quotePlain, Json.array, String.toList_ofList, List.append_assoc] at hchars
  obtain ⟨-, hrest⟩ := Json.quotePlainChars_append_inj (List.append_cancel_left hchars)
  have hnodes := interval_of_nodes formats hps hqs
    (List.append_cancel_left (List.append_cancel_left hrest))
  unfold Program.step
  cases hs : p.schedule with
  | none =>
    rw [hs] at hnodes
    rw [Option.map_eq_none_iff.mp hnodes.symm]
  | some schedule =>
    rw [hs] at hnodes
    obtain ⟨schedule', hs', hinterval⟩ := Option.map_eq_some_iff.mp hnodes.symm
    have hvalid := schedule'.valid
    rw [hinterval, schedule.valid, Except.ok.injEq] at hvalid
    rw [hs', Option.map_some, Option.map_some, hvalid]

end Canonical
end AntiFlock.Nano
