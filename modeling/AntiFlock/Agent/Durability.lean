import AntiFlock.Agent.Backlog

set_option autoImplicit false

/-!
# What the queue keeps

The queue file is replaced as a whole, and the queue in memory is taken back exactly
where the file was not replaced. So the events in memory are those of the file after
every call, and a sequence that was returned is never returned again.
-/
namespace AntiFlock.Agent
open AntiFlock.Go AntiFlock.Effect AntiFlock.Storage

inductive QueueCall where
  | nextSequence
  | enqueueBatch (entries : List QueueEntry)
  | batch (maximum : ℤ)
  | acknowledge (events : List EventEnvelope)

inductive Reply where
  | sequence (n : ℕ)
  | done
  | events (values : List EventEnvelope)

def Disk.events (d : Disk) : List QueuedEvent := (d.map (·.events)).getD []

def Disk.lastSequence (d : Disk) : ℕ := (d.map (·.lastSequence)).getD 0

section Calls
variable {proto : Protobuf} (decoder : Decoder proto)

def QueueCall.program (q : QueueState) : QueueCall → Action Reply
  | nextSequence => (Agent.nextSequence q).bind fun r => .ret (r.1.map .sequence, r.2)
  | enqueueBatch entries => (Agent.enqueueBatch proto entries q).bind fun r => .ret (r.1.map fun _ => .done, r.2)
  | batch maximum =>
    if maximum < 1 ∨ 256 < maximum then .ret (.error "batch size must be between one and 256", q)
    else .ret ((Agent.batch decoder maximum.toNat q).map .events, q)
  | acknowledge events => (Agent.acknowledge decoder events q).bind fun r => .ret (r.1.map fun _ => .done, r.2)

/-- What a call writes, and what it returns when that went well. -/
inductive QueueCall.Writes (q : QueueState) : QueueCall → QueueState → Reply → Prop
  | sequence : Writes q .nextSequence (q.advanced 1) (.sequence (q.lastSequence + 1))
  | enqueued {entries : List QueueEntry} {encoded : List QueuedEvent}
      (hencoded : entries.mapM (encodeEntry proto q.nodeID) = .ok encoded) :
      Writes q (.enqueueBatch entries) (q.extended encoded) .done
  | acknowledged {events : List EventEnvelope} {kept : List QueuedEvent}
      (hkept : unsent decoder (events.map (·.id)) q.events = .ok kept) :
      Writes q (.acknowledge events) (q.shortened kept) .done

/-- All that may come of a call: what it returns with the queue in memory, unless the process dies, and the file. -/
inductive QueueCall.Effects (call : QueueCall) (q : QueueState) (d : Disk) :
    Option (Except String Reply × QueueState) → Disk → Prop
  | died : Effects call q d none d
  | refused (err : String) : Effects call q d (some (.error err, q)) d
  | read {maximum : ℤ} {values : List EventEnvelope} (hcall : call = .batch maximum) (hmaximum : 1 ≤ maximum)
      (hvalues : Agent.batch decoder maximum.toNat q = .ok values) : Effects call q d (some (.ok (.events values), q)) d
  | installed {q' : QueueState} {reply : Reply} (hwrites : call.Writes decoder q q' reply)
      {o : Option (Except String Reply × QueueState)}
      (ho : o = none ∨ o = some (.ok reply, q') ∨ ∃ err, o = some (.error err, q')) : Effects call q d o (some q')
  | failed {q₁ : QueueState} (err : String) (hevents : q₁.events = q.events) (hlast : q.lastSequence ≤ q₁.lastSequence) :
      Effects call q d (some (.error err, q₁)) d

variable {decoder} {q : QueueState} {d d' : Disk}

attribute [local irreducible] QueueState.size

theorem wp_save_installs {C : Disk → Prop} {Q : Installed → Disk → Prop} (hold : C d) (hnew : C (some q))
    (hfailed : ∀ err, Q (.failed err) d) (hdone : Q .done (some q)) (hunsynced : ∀ err, Q (.unsynced err) (some q)) :
    wp anyEnvironment C (save q) Q d := by
  unfold save
  split
  · exact ⟨hold, hfailed _⟩
  · refine ⟨hold, fun d' htorn => ?_, fun r d' hstep => ?_⟩
    · rcases htorn with rfl | rfl
      · exact hold
      · exact hnew
    · rcases hstep with ⟨err, rfl, rfl⟩ | ⟨rfl | ⟨err, rfl⟩, rfl⟩
      · exact ⟨hold, hfailed err⟩
      · exact ⟨hnew, hdone⟩
      · exact ⟨hnew, hunsynced err⟩

theorem wp_writes {call : QueueCall} {q' : QueueState} {reply : Reply} (hwrites : call.Writes decoder q q' reply)
    {k : Installed → Action Reply} (hdone : k .done = .ret (.ok reply, q'))
    (hunsynced : ∀ err, k (.unsynced err) = .ret (.error err, q'))
    (hfailed : ∀ err, ∃ q₁, k (.failed err) = .ret (.error err, q₁) ∧ q₁.events = q.events ∧
      q.lastSequence ≤ q₁.lastSequence) :
    wp anyEnvironment (call.Effects decoder q d none) ((save q').bind k) (fun r d' => call.Effects decoder q d (some r) d') d := by
  rw [wp_bind]
  refine wp_save_installs ?_ ?_ (fun err => ?_) ?_ fun err => ?_
  · exact .died
  · exact .installed hwrites (.inl rfl)
  · obtain ⟨q₁, hk, hevents, hlast⟩ := hfailed err
    rw [hk]
    exact ⟨.died, .failed err hevents hlast⟩
  · rw [hdone]
    exact ⟨.installed hwrites (.inl rfl), .installed hwrites (.inr (.inl rfl))⟩
  · rw [hunsynced]
    exact ⟨.installed hwrites (.inl rfl), .installed hwrites (.inr (.inr ⟨err, rfl⟩))⟩

theorem wp_refused {call : QueueCall} (err : String) : wp anyEnvironment (call.Effects decoder q d none)
    (.ret (.error err, q)) (fun r d' => call.Effects decoder q d (some r) d') d :=
  ⟨.died, .refused err⟩

theorem wp_program (call : QueueCall) (q : QueueState) (d : Disk) :
    wp anyEnvironment (call.Effects decoder q d none) (call.program decoder q)
      (fun r d' => call.Effects decoder q d (some r) d') d := by
  cases call with
  | nextSequence =>
    change wp _ _ ((Agent.nextSequence q).bind _) _ d
    unfold Agent.nextSequence
    split
    · exact wp_refused _
    · rw [Prog.bind_assoc]
      exact wp_writes .sequence rfl (fun _ => rfl) fun err => ⟨_, rfl, rfl, Nat.le_succ _⟩
  | enqueueBatch entries =>
    change wp _ _ ((Agent.enqueueBatch proto entries q).bind _) _ d
    unfold Agent.enqueueBatch
    split
    · exact wp_refused _
    split
    · exact wp_refused _
    · rename_i encoded hencoded
      split
      · exact wp_refused _
      · rw [Prog.bind_assoc]
        exact wp_writes (.enqueued hencoded) rfl (fun _ => rfl) fun err => ⟨_, rfl, rfl, le_refl _⟩
  | batch maximum =>
    change wp _ _ (if _ then _ else _) _ d
    split
    · exact wp_refused _
    · rename_i hmaximum
      cases hvalues : Agent.batch decoder maximum.toNat q with
      | error err => exact wp_refused _
      | ok values => exact ⟨.died, .read rfl (by omega) hvalues⟩
  | acknowledge events =>
    change wp _ _ ((Agent.acknowledge decoder events q).bind _) _ d
    unfold Agent.acknowledge
    split
    · exact wp_refused _
    split
    · exact wp_refused _
    split
    · exact wp_refused _
    · rename_i kept hkept
      split
      · exact wp_refused _
      · rw [Prog.bind_assoc]
        exact wp_writes (.acknowledged hkept) rfl (fun _ => rfl) fun err => ⟨_, rfl, rfl, le_refl _⟩

theorem effects_of_exec {call : QueueCall} {o : Option (Except String Reply × QueueState)}
    (h : Exec anyEnvironment (call.program decoder q) d o d') : call.Effects decoder q d o d' := by
  have hmeets := h.of_wp (wp_program call q d)
  cases o with
  | none => exact hmeets
  | some r => exact hmeets

end Calls

/-! ## Batches -/

section Batches
variable {proto : Protobuf} {decoder : Decoder proto} {nodeID : String}

end Batches

/-! ## Runs -/

/-- What is seen of a step: a call that has returned, or one that the process died in. -/
inductive Label where
  | returned (call : QueueCall) (r : Except String Reply)
  | died (call : QueueCall)

def Label.call : Label → QueueCall
  | returned call _ => call
  | died call => call

def Label.sequence : Label → Option ℕ
  | returned _ (.ok (.sequence n)) => some n
  | _ => none

def sequences (history : List Label) : List ℕ := history.filterMap Label.sequence

structure Running.Matches (s : Running) : Prop where
  events : s.memory.events = s.disk.events
  lastSequence : s.disk.lastSequence ≤ s.memory.lastSequence

section Runs
variable {proto : Protobuf} (decoder : Decoder proto) (nodeID : String)

/-- A call returns, or the process dies in it and the queue is opened again. -/
inductive QueueStep (s : Running) : Label → Running → Prop
  | returned {call : QueueCall} {r : Except String Reply} {memory : QueueState} {disk : Disk}
      (run : Exec anyEnvironment (call.program decoder s.memory) s.disk (some (r, memory)) disk) :
      QueueStep s (.returned call r) ⟨memory, disk⟩
  | died {call : QueueCall} {memory : QueueState} {disk : Disk}
      (run : Exec anyEnvironment (call.program decoder s.memory) s.disk none disk)
      (opened : loadQueue nodeID disk = .ok memory) : QueueStep s (.died call) ⟨memory, disk⟩

/-- A history of calls, from when the queue was first opened. -/
inductive QueueRun : List Label → Running → Prop
  | opened {memory : QueueState} {disk : Disk} (h : loadQueue nodeID disk = .ok memory) : QueueRun [] ⟨memory, disk⟩
  | step {history : List Label} {s s' : Running} {label : Label} (run : QueueRun history s)
      (h : QueueStep decoder nodeID s label s') : QueueRun (history ++ [label]) s'

variable {decoder nodeID} {s s' : Running} {label : Label} {call : QueueCall} {q q' : QueueState} {d : Disk} {reply : Reply}

theorem matches_of_loadQueue (h : loadQueue nodeID d = .ok q) : q.events = d.events ∧ q.lastSequence = d.lastSequence := by
  cases d with
  | none =>
    cases h
    exact ⟨rfl, rfl⟩
  | some file =>
    simp only [loadQueue] at h
    split at h
    · cases h
    split at h
    · cases h
    · cases h
      exact ⟨rfl, rfl⟩

theorem Writes.lastSequence (h : call.Writes decoder q q' reply) :
    q.lastSequence ≤ q'.lastSequence ∧ ∀ n, reply = .sequence n → n = q.lastSequence + 1 ∧ q'.lastSequence = n := by
  cases h with
  | sequence =>
    refine ⟨Nat.le_succ _, ?_⟩
    rintro _ ⟨⟩
    exact ⟨rfl, rfl⟩
  | enqueued hencoded =>
    refine ⟨le_refl _, ?_⟩
    rintro _ ⟨⟩
  | acknowledged hkept =>
    refine ⟨le_refl _, ?_⟩
    rintro _ ⟨⟩

theorem QueueStep.matches (h : QueueStep decoder nodeID s label s') (hs : s.Matches) :
    s'.Matches ∧ s.disk.lastSequence ≤ s'.disk.lastSequence ∧
      ∀ n ∈ label.sequence, s.disk.lastSequence < n ∧ n ≤ s'.disk.lastSequence := by
  cases h with
  | died run opened =>
    obtain ⟨hevents, hlast⟩ := matches_of_loadQueue opened
    refine ⟨⟨hevents, hlast.ge⟩, ?_, ?_⟩
    · cases effects_of_exec run with
      | died => exact le_refl _
      | installed hwrites ho => exact hs.lastSequence.trans (Writes.lastSequence hwrites).1
    · rintro n ⟨⟩
  | @returned call r memory disk run =>
    cases effects_of_exec run with
    | refused err =>
      refine ⟨hs, le_refl _, ?_⟩
      rintro n ⟨⟩
    | read hcall hmaximum hvalues =>
      refine ⟨hs, le_refl _, ?_⟩
      rintro n ⟨⟩
    | failed err hevents hlast =>
      refine ⟨⟨hevents.trans hs.events, hs.lastSequence.trans hlast⟩, le_refl _, ?_⟩
      rintro n ⟨⟩
    | @installed q' reply hwrites _ ho =>
      obtain ⟨hmono, hsequence⟩ := Writes.lastSequence hwrites
      have hdisk := hs.lastSequence.trans hmono
      rcases ho with ho | ho | ⟨err, ho⟩
      · cases ho
      · cases ho
        refine ⟨⟨rfl, le_refl _⟩, hdisk, fun n hn => ?_⟩
        cases reply with
        | sequence m =>
          cases hn
          obtain ⟨hnext, hlast⟩ := hsequence n rfl
          have hseen := hs.lastSequence
          change s.disk.lastSequence < n ∧ n ≤ memory.lastSequence
          omega
        | done => cases hn
        | events values => cases hn
      · cases ho
        refine ⟨⟨rfl, le_refl _⟩, hdisk, ?_⟩
        rintro n ⟨⟩

theorem QueueRun.invariant {history : List Label} (h : QueueRun decoder nodeID history s) :
    s.Matches ∧ (sequences history).Pairwise (· < ·) ∧ ∀ n ∈ sequences history, n ≤ s.disk.lastSequence := by
  induction h with
  | opened h =>
    obtain ⟨hevents, hlast⟩ := matches_of_loadQueue h
    refine ⟨⟨hevents, hlast.ge⟩, .nil, fun n hn => ?_⟩
    cases hn
  | @step history s s' label run h ih =>
    obtain ⟨hs, hsorted, hbound⟩ := ih
    obtain ⟨hs', hmono, hnew⟩ := h.matches hs
    unfold sequences at hsorted hbound ⊢
    rw [List.filterMap_append]
    cases hlabel : label.sequence with
    | none =>
      rw [List.filterMap_cons_none hlabel, List.filterMap_nil, List.append_nil]
      exact ⟨hs', hsorted, fun n hn => (hbound n hn).trans hmono⟩
    | some m =>
      obtain ⟨hlt, hle⟩ := hnew m hlabel
      rw [List.filterMap_cons_some hlabel, List.filterMap_nil]
      refine ⟨hs', List.pairwise_append.mpr ⟨hsorted, List.pairwise_singleton _ _, fun n hn k hk => ?_⟩, fun n hn => ?_⟩
      · rw [List.mem_singleton.mp hk]
        exact (hbound n hn).trans_lt hlt
      · rcases List.mem_append.mp hn with hold | hlast
        · exact (hbound n hold).trans hmono
        · rw [List.mem_singleton.mp hlast]
          exact hle

/-! ### Events that stay -/

end Runs

/-! ### A process that dies between two sequences -/

end AntiFlock.Agent
