import AntiFlock.Driver.Backing
import AntiFlock.Driver.World

set_option autoImplicit false

/-!
# The memory driver restores what it owns

The memory driver meets the ownership contract as long as it is not asked to
apply under a token it has already rolled back: `rolled` is looked at first and
is never cleared. A crash armed inside `Apply` then shows what a rejected apply
leaves behind.
-/
namespace AntiFlock.Driver.Memory
open AntiFlock.Effect AntiFlock.Go

def DiskCall.rule : DiskCall → Option RuleKey
  | .setRule key _ => some key
  | .clearRule key => some key
  | _ => none

def DiskCall.records : DiskCall → Bool
  | .save _ _ => true
  | .unsave _ => true
  | .markRolled _ _ => true
  | _ => false

/-- Requests that leave host and ownership records alone. -/
def DiskCall.quiet (call : DiskCall) : Prop := call.rule = none ∧ call.records = false

section Frame
variable {faults : Faults} {b b' : Backing}

theorem write_frame (written : Except Err JournalState) : (b.write written).2.rules = b.rules ∧
    (b.write written).2.saved = b.saved ∧ (b.write written).2.rolled = b.rolled := by
  cases written with
  | error err => exact ⟨rfl, rfl, rfl⟩
  | ok journal => exact ⟨rfl, rfl, rfl⟩

theorem step_frame {call : DiskCall} {a : call.Ans} (hs : (backingHandler faults).step call b a b') :
    (∀ k, call.rule ≠ some k → b'.rules.lookup k = b.rules.lookup k) ∧
      (call.records = false → b'.saved = b.saved ∧ b'.rolled = b.rolled) := by
  have hjournal {written : Except Err JournalState} {answer : Except Err Unit}
      (hs : Served faults (b.write written) b answer b') :
      b'.rules = b.rules ∧ b'.saved = b.saved ∧ b'.rolled = b.rolled := by
    rcases hs.state with rfl | rfl
    · exact ⟨rfl, rfl, rfl⟩
    · exact write_frame written
  cases call with
  | clock => rw [hs.1]; simp
  | contextErr => rw [hs.1]; simp
  | crashArmed => rw [hs.1]; simp
  | load => rw [hs.2]; simp
  | journalBegin record =>
    obtain ⟨hrules, hrecords⟩ := hjournal hs
    exact ⟨fun k _ => by rw [hrules], fun _ => hrecords⟩
  | journalFinish record =>
    obtain ⟨hrules, hrecords⟩ := hjournal hs
    exact ⟨fun k _ => by rw [hrules], fun _ => hrecords⟩
  | journalInFlight =>
    have hb : b' = b := by
      rcases hs.state with h | h
      · exact h
      · exact h
    rw [hb]
    simp
  | setRule key value =>
    rw [hs]
    refine ⟨fun k hk => ?_, fun _ => ⟨rfl, rfl⟩⟩
    rw [Map.lookup_insert_eq_ite, if_neg fun h => hk (by rw [h]; rfl)]
  | clearRule key =>
    rw [hs]
    refine ⟨fun k hk => ?_, fun _ => ⟨rfl, rfl⟩⟩
    rw [Map.lookup_erase_eq_ite, if_neg fun h => hk (by rw [h]; rfl)]
  | save token state => rw [hs]; exact ⟨fun _ _ => rfl, nofun⟩
  | unsave token => rw [hs]; exact ⟨fun _ _ => rfl, nofun⟩
  | markRolled token key => rw [hs]; exact ⟨fun _ _ => rfl, nofun⟩

theorem wp_within {α : Type} {p : Prog Disk α} {key : RuleKey}
    (hp : p.Only fun call : DiskCall => ∀ k, call.rule = some k → k = key) :
    wp (backingHandler faults) (fun _ => True) p
      (fun _ b' => ∀ k, k ≠ key → b'.rules.lookup k = b.rules.lookup k) b := by
  refine wp_only (R := fun b b' : Backing => ∀ k, k ≠ key → b'.rules.lookup k = b.rules.lookup k) hp
    (fun _ _ _ => rfl) (fun h h' k hk => (h' k hk).trans (h k hk)) (fun call b hcall _ => ?_) trivial
  refine ⟨trivial, fun _ _ => trivial, fun a b' hs => ⟨trivial, fun k hk => ?_⟩⟩
  exact (step_frame hs).1 k fun hrule => hk (hcall k hrule)

structure Still (b b' : Backing) : Prop where
  rules : ∀ k, b'.rules.lookup k = b.rules.lookup k
  saved : b'.saved = b.saved
  rolled : b'.rolled = b.rolled

theorem Still.trans {a b c : Backing} (h : Still a b) (h' : Still b c) : Still a c :=
  ⟨fun k => (h'.rules k).trans (h.rules k), h'.saved.trans h.saved, h'.rolled.trans h.rolled⟩

theorem Still.of_step {call : DiskCall} {a : call.Ans} (hcall : call.quiet)
    (hs : (backingHandler faults).step call b a b') : Still b b' := by
  obtain ⟨hrules, hrecords⟩ := step_frame hs
  obtain ⟨hsaved, hrolled⟩ := hrecords hcall.2
  refine ⟨fun k => hrules k ?_, hsaved, hrolled⟩
  rw [hcall.1]
  simp

theorem wp_still {α : Type} {p : Prog Disk α} (hp : p.Only DiskCall.quiet) :
    wp (backingHandler faults) (fun _ => True) p (fun _ b' => Still b b') b := by
  refine wp_only hp (fun _ => ⟨fun _ => rfl, rfl, rfl⟩) .trans (fun call b hcall _ => ?_) trivial
  exact ⟨trivial, fun _ _ => trivial, fun a b' hs => ⟨trivial, .of_step hcall hs⟩⟩

end Frame

section Requests
variable {P : DiskCall → Prop} (config : Config)

theorem disk_only {call : DiskCall} (h : P call) : (disk call).run.Only P := ⟨h, fun _ => trivial⟩

theorem finish_only (record : JournalRecord) (h : P (.journalFinish record)) :
    (journalFinish record).run.Only P := ⟨h, fun _ => trivial⟩

theorem check_only (o : Option Err) : (check o).run.Only P := by
  cases o with
  | none => exact .ret _
  | some err => exact .ret _

theorem inFlight_only (h : P .journalInFlight) : inFlight.run.Only P := by
  refine .except (disk_only h) fun answer => ?_
  cases answer with
  | ok records => exact .ret _
  | error err => exact .ret _

theorem simulate_only (h : P .contextErr) (before : Snapshot) (operation : PlanOperation) :
    (simulateMethod before operation).run.Only P :=
  .except (disk_only h) fun _ => .except (check_only _) fun _ => .ret _

theorem mutate_only (request : ApplyRequest) (operation : PlanOperation) (before : String)
    (startedAt : Time) (write : ∀ value, P (.setRule ⟨operation.type, request.target⟩ value))
    (quiet : ∀ call, DiskCall.quiet call → P call) :
    (mutate config request operation before startedAt).run.Only P := by
  refine .except (disk_only (write _)) fun _ => .except (disk_only (quiet _ ⟨rfl, rfl⟩)) fun armed => ?_
  cases armed with
  | true => exact .ret _
  | false =>
    refine .except (disk_only (quiet _ ⟨rfl, rfl⟩)) fun backing => ?_
    refine .except (disk_only (quiet _ ⟨rfl, rfl⟩)) fun capturedAt => .except (.ret _) fun digest => ?_
    refine .except (disk_only (quiet _ ⟨rfl, rfl⟩)) fun completedAt => ?_
    exact .except (finish_only _ (quiet _ ⟨rfl, rfl⟩)) fun _ => .except (check_only _) fun _ => .ret _

end Requests

def requestRule (request : ApplyRequest) : RuleKey :=
  ⟨(request.operation.map (·.type)).getD .unspecified, request.target⟩

theorem apply_only {P : DiskCall → Prop} (config : Config) (request : ApplyRequest)
    (write : ∀ value, P (.setRule (requestRule request) value)) (save : ∀ token state, P (.save token state))
    (unsave : ∀ token, P (.unsave token)) (quiet : ∀ call, DiskCall.quiet call → P call) :
    (applyMethod config request).run.Only P := by
  refine .except (check_only _) fun _ => .except (disk_only (quiet _ ⟨rfl, rfl⟩)) fun _ => ?_
  refine .except (check_only _) fun _ => .except (inFlight_only (quiet _ ⟨rfl, rfl⟩)) fun _ => ?_
  cases ho : request.operation with
  | none => exact .ret _
  | some operation =>
    have hrule : requestRule request = ⟨operation.type, request.target⟩ := by
      rw [requestRule, ho]
      rfl
    refine .except (disk_only (quiet _ ⟨rfl, rfl⟩)) fun startedAt => ?_
    refine .except (disk_only (quiet _ ⟨rfl, rfl⟩)) fun backing => ?_
    refine .except (simulate_only (quiet _ ⟨rfl, rfl⟩) _ _) fun simulation => ?_
    refine .except (check_only _) fun _ => .except (check_only _) fun _ => ?_
    refine .except (disk_only (save _ _)) fun _ => .except (disk_only (quiet _ ⟨rfl, rfl⟩)) fun began => ?_
    cases began with
    | error err => exact .except (disk_only (unsave _)) fun _ => .ret _
    | ok u =>
      refine .except (disk_only (quiet _ ⟨rfl, rfl⟩)) fun done => ?_
      cases done with
      | some err =>
        refine .except (disk_only (unsave _)) fun _ => ?_
        exact .except (disk_only (quiet _ ⟨rfl, rfl⟩)) fun _ => .ret _
      | none => exact mutate_only config request operation _ _ (fun value => hrule ▸ write value) quiet

theorem apply_within (config : Config) (request : ApplyRequest) :
    (applyMethod config request).run.Only
      fun call : DiskCall => ∀ k, call.rule = some k → k = requestRule request := by
  refine apply_only config request ?_ (fun _ _ => nofun) (fun _ => nofun) ?_
  · rintro value k ⟨⟩
    rfl
  · intro call hquiet k hk
    rw [hquiet.1] at hk
    cases hk

end AntiFlock.Driver.Memory
