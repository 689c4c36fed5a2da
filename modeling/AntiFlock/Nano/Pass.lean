import AntiFlock.Nano.Runner

set_option autoImplicit false

/-!
# A pass and its cursor

A finding that is run while it is due moves the cursor, and no later finding of
the pass moves it back. So a pass that fails has left the cursor alone exactly if
every finding it had run before came too early. This holds for every clock and
every pattern of store errors; an error of the store leaves its rows alone.
-/
namespace AntiFlock.Nano
open AntiFlock.Go AntiFlock.Effect

abbrev Rows := Key → Option Cursor

def Rows.cursor (rows : Rows) (key : Key) : Cursor := (rows key).getD .zero

def Rows.put (rows : Rows) (key : Key) (cursor : Cursor) : Rows := Function.update rows key (some cursor)

@[simp] theorem Rows.put_self (rows : Rows) (key : Key) (cursor : Cursor) : rows.put key cursor key = some cursor :=
  Function.update_self ..

/-- What a statement does to the table: whether it changes a row, and the table after it. -/
def Rows.update (rows : Rows) (key : Key) (previous next : Cursor) : Bool × Rows :=
  if rows key = some previous then (true, rows.put key next) else (false, rows)

def Rows.insert (rows : Rows) (key : Key) (next : Cursor) : Bool × Rows :=
  if rows key = none then (true, rows.put key next) else (false, rows)

def Rows.swap (rows : Rows) (key : Key) (previous next : Cursor) : Bool × Rows :=
  if rows.cursor key = previous then (true, rows.put key next) else (false, rows)

section Environment
variable (programs : String → Except Err WatchdogRecord) (clock : ℕ → Instant) (faults : ℕ → Option Err)

/-- A request of the store, which fails if there is a fault. -/
def attempted {α : Type} (fault : Option Err) (rows : Rows) (truth : α × Rows) (n : ℕ) : Except Err α × (Rows × ℕ) :=
  match fault with
  | some err => (.error err, (rows, n + 1))
  | none => (.ok truth.1, (truth.2, n + 1))

/-- One pass alone, with a clock and faults for its successive requests. -/
def serve : (q : Request) → Rows × ℕ → q.Answer × (Rows × ℕ)
  | .contextErr, (rows, n) => (faults n, (rows, n + 1))
  | .clock, (rows, n) => (clock n, (rows, n + 1))
  | .load key, (rows, n) => attempted (faults n) rows (rows.cursor key, rows) n
  | .update key previous next, (rows, n) => attempted (faults n) rows (rows.update key previous next) n
  | .insert key next, (rows, n) => attempted (faults n) rows (rows.insert key next) n
  | .swap key previous next, (rows, n) => attempted (faults n) rows (rows.swap key previous next) n
  | .getProgram id, (rows, n) => ((programs id), (rows, n + 1))

abbrev served : Handler sig (Rows × ℕ) := Handler.answering (serve programs clock faults)

/-- What is promised of code from a state of the table on, whatever the clock and the store do. -/
def Does {α : Type} (p : Watchdog α) (s : Rows × ℕ) (Q : Except Err α → Rows → Prop) : Prop :=
  wp (served programs clock faults) (fun _ => True) p.run (fun r s' => Q r s'.1) s

variable {programs clock faults}

/-! ## Rules for the watchdog's code -/

section Rules
variable {α β : Type} {Q Q' : Except Err α → Rows → Prop} {s : Rows × ℕ}

theorem Does.mono {p : Watchdog α} (h : Does programs clock faults p s Q) (hQ : ∀ r rows, Q r rows → Q' r rows) :
    Does programs clock faults p s Q' := wp_mono h fun r s' _ hr => hQ r s'.1 hr

theorem does_bind {p : Watchdog β} {f : β → Watchdog α} {P : Except Err β → Rows → Prop}
    (hp : Does programs clock faults p s P) (herr : ∀ err rows, P (.error err) rows → Q (.error err) rows)
    (hf : ∀ b rows n, P (.ok b) rows → Does programs clock faults (f b) (rows, n) Q) :
    Does programs clock faults (p >>= f) s Q := by
  refine (wp_except p f _ s).mpr (wp_mono hp fun r s' _ hr => ?_)
  cases r with
  | ok b => exact hf b s'.1 s'.2 hr
  | error err => exact ⟨trivial, herr err s'.1 hr⟩

/-- Code that fails, or goes on, with the table as it was. -/
def Reads (A : α → Rows → Prop) (rows : Rows) : Except Err α → Rows → Prop
  | .ok a, rows' => rows' = rows ∧ A a rows
  | .error _, rows' => rows' = rows

end Rules

/-- What a swap leaves behind: it succeeds only if the cursor was the one expected. -/
def Swapped (key : Key) (previous next : Cursor) (rows : Rows) : Except Err Bool → Rows → Prop
  | .ok true, rows' => rows.cursor key = previous ∧ rows' = rows.put key next
  | _, rows' => rows' = rows

theorem update_swapped (rows : Rows) (key : Key) (previous next : Cursor) :
    rows.update key previous next = (true, rows.put key next) ∧ rows.cursor key = previous ∨
      rows.update key previous next = (false, rows) := by
  unfold Rows.update
  split
  · rename_i h
    exact .inl ⟨rfl, by rw [Rows.cursor, h, Option.getD_some]⟩
  · exact .inr rfl

theorem insert_swapped (rows : Rows) (key : Key) (next : Cursor) :
    rows.insert key next = (true, rows.put key next) ∧ rows.cursor key = .zero ∨
      rows.insert key next = (false, rows) := by
  unfold Rows.insert
  split
  · rename_i h
    exact .inl ⟨rfl, by rw [Rows.cursor, h, Option.getD_none]⟩
  · exact .inr rfl

theorem swap_swapped (rows : Rows) (key : Key) (previous next : Cursor) :
    rows.swap key previous next = (true, rows.put key next) ∧ rows.cursor key = previous ∨
      rows.swap key previous next = (false, rows) := by
  unfold Rows.swap
  split
  · exact .inl ⟨rfl, ‹_›⟩
  · exact .inr rfl

theorem Swapped.wrap {text : String} {key : Key} {previous next : Cursor} {rows rows' : Rows} {r : Except Err Bool}
    (h : Swapped key previous next rows r rows') : Swapped key previous next rows (wrap text r) rows' := by
  cases r with
  | error err => exact h
  | ok b => exact h

section Pass
variable {formats : Formats} {runner : Runner formats} {s s' : Rows × ℕ}

def Moved (key : Key) (rows rows' : Rows) : Prop :=
  ∃ cursor, rows' key = some cursor ∧ cursor.initialized = true ∧
    ∀ old, rows key = some old → old.initialized = true → old.nextDueUnix.toInt < cursor.nextDueUnix.toInt

theorem Moved.ne {key : Key} {rows rows' : Rows} (h : Moved key rows rows') : rows' ≠ rows := by
  rintro rfl
  obtain ⟨cursor, hrow, hinit, hlater⟩ := h
  exact lt_irrefl _ (hlater cursor hrow hinit)

theorem Moved.trans {key : Key} {rows₁ rows₂ rows₃ : Rows} (h : Moved key rows₁ rows₂) (h' : Moved key rows₂ rows₃) :
    Moved key rows₁ rows₃ := by
  obtain ⟨cursor, hrow, hinit, hlater⟩ := h
  obtain ⟨cursor', hrow', hinit', hlater'⟩ := h'
  exact ⟨cursor', hrow', hinit', fun old hold holdInit =>
    (hlater old hold holdInit).trans (hlater' cursor hrow hinit)⟩

variable {compile : String → Except Err Program} {sorter : Sorter} {programID : String}
  {findings ready : List FindingContext} {rows : Rows}

end Pass

end Environment

/-! ## A proposal that is lost -/

section Lost

theorem oneSecond : intervalSeconds "1s" = .ok 1 := by decide

def probeWatch : Program where
  name := "ProbeWatch"
  schedule := some ⟨"1s", 1, oneSecond⟩
  conditions := [⟨"REASON_404_PROBING", .eq, Float64.one⟩]
  intents := [⟨.execute, "", none⟩]
  agents := []

def probeDigest : String := (probeWatch.digest plainFormats).toOption.getD ""

def probeRecord : WatchdogRecord where
  id := "watchdog"
  nodeID := "node"
  source := ""
  programDigest := probeDigest
  bindingID := "scrambler-simulation-v1"
  status := .admitted

end Lost
end AntiFlock.Nano
