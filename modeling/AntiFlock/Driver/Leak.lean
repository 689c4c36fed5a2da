import AntiFlock.Driver.Memory

set_option autoImplicit false

/-!
# Which reservations a recovery releases

Recovery learns of a reservation from the journal. A crash between the
reservation and the journal record that names it leaves a plan id reserved for
good; every other reservation is released by the time a recovery has succeeded.
-/
namespace AntiFlock.Driver
open AntiFlock.Effect AntiFlock.Go

/-- The journal entry names the reservation of a plan id. -/
def JournalRecord.Carries (entry : JournalRecord) (plan : String) : Prop :=
  entry.reservation ≠ .zero ∧ entry.reservation.planID = plan

/-- The reservation of a plan id is released with a terminal step. -/
def ReleasedAt (reservations : ReservationStore) (plan : String) : Prop :=
  ∃ record, reservations.records.lookup plan = some record ∧ record.released = true ∧
    record.terminal.terminal = true

/-- The reservation of a plan id is released with this step. -/
def ReleasedAs (reservations : ReservationStore) (plan : String) (step : Step) : Prop :=
  ∃ record, reservations.records.lookup plan = some record ∧ record.released = true ∧ record.terminal = step

theorem ReleasedAs.releasedAt {reservations : ReservationStore} {plan : String} {step : Step}
    (h : ReleasedAs reservations plan step) (hstep : step.terminal = true) : ReleasedAt reservations plan := by
  obtain ⟨record, hrecord, hreleased, rfl⟩ := h
  exact ⟨record, hrecord, hreleased, hstep⟩

/-- The records of plan ids that no token names are untouched. -/
def Frame {D : Type} (tokens : ReservationToken → Prop) (w w' : World D) : Prop :=
  ∀ plan, (∀ token, tokens token → token.key.planID ≠ plan) →
    w'.stores.reservations.records.lookup plan = w.stores.reservations.records.lookup plan

section
variable {D : Type} {drv : DriverModel D} {faults : Faults} {w w' : World D} {lc : Lifecycle}
  {tokens : ReservationToken → Prop}

/-- Nothing is asked of a world in which the process died. -/
def Anywhere (_ : World D) : Prop := True

theorem wp_anything {α : Type} (p : Prog Port α) :
    wp (ports drv faults) Anywhere p (fun _ _ => True) w :=
  wp_mono (wp_invariant p w trivial (fun _ _ _ _ _ _ => trivial) fun _ _ _ _ _ => trivial)
    fun _ _ _ _ => trivial

theorem Stores.serve_frame {s : Stores} {call : StoreCall} (issuedAt : Time)
    (h : Lifecycle.settles tokens (.store call)) (plan : String)
    (hplan : ∀ token, tokens token → token.key.planID ≠ plan) :
    (s.serve issuedAt call).2.reservations.records.lookup plan =
      s.reservations.records.lookup plan := by
  have hwrite (journal : Except Err JournalState) : (s.write journal).2.reservations = s.reservations := by
    cases journal with
    | error err => rfl
    | ok journal => rfl
  cases call with
  | journalBegin record => exact h.elim
  | journalAdvance record => exact h.elim
  | journalFinish record => simp only [Stores.serve, hwrite]
  | journalInFlight => rfl
  | journalRecords => rfl
  | reserve key => exact h.elim
  | appendReceipt receipt => rfl
  | release token terminal result =>
    have hne : plan ≠ token.key.planID := fun heq => hplan token h heq.symm
    rcases s.reservations.release_cases token terminal result with
      ⟨err, hr⟩ | ⟨record, -, -, -, ⟨-, -, -, hr⟩ | ⟨-, hr⟩⟩
    · simp only [Stores.serve, hr]
    · simp only [Stores.serve, hr]
    · simp only [Stores.serve, hr, Map.lookup_insert_eq_ite, if_neg hne]

theorem wp_frame {α : Type} {p : Prog Port α} (hp : p.Only (Lifecycle.settles tokens)) :
    wp (ports drv faults) Anywhere p (fun _ w' => Frame tokens w w') w := by
  refine wp_only (R := Frame tokens) hp (fun _ _ _ => rfl)
    (fun h h' plan hplan => (h' plan hplan).trans (h plan hplan)) ?_ trivial
  intro q w hq _
  cases q with
  | clock =>
    refine wp_mono (wp_clock trivial) fun _ w' _ hw plan _ => ?_
    rw [hw.1]
  | driver call =>
    refine wp_mono (wp_driver trivial (fun _ _ _ => trivial) fun _ _ => trivial) fun _ w' _ hw plan _ => ?_
    obtain ⟨d', -, rfl⟩ := hw
    rfl
  | store call =>
    refine wp_mono (wp_store trivial fun _ => trivial) fun _ w' _ hw plan hplan => ?_
    obtain ⟨issuedAt, s', -, hserved, rfl⟩ := hw
    rcases hserved.state with rfl | rfl
    · rfl
    · exact Stores.serve_frame issuedAt hq plan hplan

theorem Frame.releasedAt {plan : String} (h : Frame tokens w w')
    (hplan : ∀ token, tokens token → token.key.planID ≠ plan)
    (hr : ReleasedAt w.stores.reservations plan) : ReleasedAt w'.stores.reservations plan := by
  unfold ReleasedAt
  rw [h plan hplan]
  exact hr

theorem wp_releasing (token : ReservationToken) (terminal : Step) (result : List UInt8) :
    wp (ports drv faults) Anywhere (store (.release token terminal result)) (fun answer w' =>
      answer = .ok () → ReleasedAs w'.stores.reservations token.key.planID terminal) w := by
  refine wp_mono (wp_store trivial fun _ => trivial) fun answer w' _ hw => ?_
  rintro rfl
  obtain ⟨issuedAt, s', -, hserved, rfl⟩ := hw
  have htruth := hserved.ok
  simp only [Stores.serve, Prod.mk.injEq] at htruth
  obtain ⟨hanswer, rfl⟩ := htruth
  rcases w.stores.reservations.release_cases token terminal result with
    ⟨err, hr⟩ | ⟨record, hl, -, -, ⟨hrel, hterm, -, hr⟩ | ⟨-, hr⟩⟩
  · rw [hr] at hanswer
    cases hanswer
  · rw [hr]
    exact ⟨record, hl, hrel, hterm⟩
  · rw [hr]
    exact ⟨record.close terminal result, by simp, rfl, rfl⟩

theorem wp_finishing (run : LifecycleRun) (step : Step) (ownership digest plan : String) {terminal : Step}
    (h : ReleasedAs w.stores.reservations plan terminal) :
    wp (ports drv faults) Anywhere (Lifecycle.journalFinish run step ownership digest)
      (fun _ w' => ReleasedAs w'.stores.reservations plan terminal) w := by
  have hp : (Lifecycle.journalFinish run step ownership digest).Only
      (Lifecycle.settles fun _ => False) := Lifecycle.journalFinish_settles _ _ _ _
  refine wp_mono (wp_frame hp) fun _ w' _ hframe => ?_
  unfold ReleasedAs
  rw [hframe plan fun _ hf => hf.elim]
  exact h

theorem commitRun_releases (run : LifecycleRun) (reason : String) :
    wp (ports drv faults) Anywhere (Lifecycle.commitRun run reason) (fun answer w' =>
      answer = .ok () → ReleasedAs w'.stores.reservations run.reservation.key.planID .commit) w := by
  refine Lifecycle.wp_commitRun (wp_mono (wp_anything clock) fun now w₁ _ _ => ?_)
  refine ⟨(fun _ _ h => nomatch h), fun digest _ => ?_⟩
  refine wp_mono (wp_anything _) fun appended w₂ _ _ => ⟨(fun _ _ h => nomatch h), fun _ => ?_⟩
  refine wp_mono (wp_releasing _ _ _) fun released w₃ _ hrel => ⟨(fun _ _ h => nomatch h), fun hok => ?_⟩
  exact wp_mono (wp_finishing _ _ _ _ _ (hrel hok)) fun _ _ _ h _ => h

theorem rollbackRun_releases (run : LifecycleRun) (reason : String) (hr : run.reserved = true) :
    wp (ports drv faults) Anywhere (lc.rollbackRun run reason) (fun answer w' =>
      ∀ receipt, answer = .ok receipt →
        ReleasedAs w'.stores.reservations run.reservation.key.planID .rollback) w := by
  refine Lifecycle.wp_rollbackRun (wp_mono (wp_anything _) fun reverted w₁ _ _ => ?_)
  refine ⟨(fun _ _ _ h => nomatch h), fun receipt result _ => ?_⟩
  refine wp_mono (Lifecycle.wp_releaseRun trivial (fun h => by rw [hr] at h; cases h)
    fun _ => wp_releasing _ _ _) fun released w₂ _ hrel => ?_
  refine ⟨(fun _ _ _ h => nomatch h), fun hok => ?_⟩
  refine wp_mono (wp_finishing _ _ _ _ _ (hrel hok)) fun finished w₃ _ h => ?_
  exact ⟨(fun _ _ _ h => nomatch h), fun _ _ _ => h⟩

theorem recoverEntry_releases (entry : JournalRecord) (records : List JournalRecord) :
    wp (ports drv faults) Anywhere (lc.recoverEntry entry records) (fun outcome w' =>
      Frame (fun token => entry.Carries token.key.planID) w w' ∧
      ∀ done plan, outcome = .ok done → entry.Carries plan →
        ReleasedAt w'.stores.reservations plan) w := by
  suffices hreleases : wp (ports drv faults) Anywhere (lc.recoverEntry entry records) (fun outcome w' =>
      ∀ done plan, outcome = .ok done → entry.Carries plan → ReleasedAt w'.stores.reservations plan) w by
    refine wp_weaken (wp_and (wp_frame (Lifecycle.recoverEntry_settles lc records fun run hrun hr => ?_)) hreleases) fun _ => And.left
    obtain ⟨-, hiff, hkey⟩ := Lifecycle.recoveredRun_ok hrun
    exact ⟨hiff.mp hr, by rw [hkey hr]⟩
  refine Lifecycle.wp_recoverEntry trivial (fun _ _ _ _ h => nomatch h) ?_ ?_
  · intro run hrun _
    obtain ⟨-, hiff, hkey⟩ := Lifecycle.recoveredRun_ok hrun
    by_cases hr : run.reserved = true
    · refine wp_mono (rollbackRun_releases run _ hr) fun rolled w₁ _ h => ?_
      refine ⟨(fun _ _ _ _ h => nomatch h), fun receipt hok done plan _ hcarries => ?_⟩
      have hreleased := (h receipt hok).releasedAt rfl
      rw [hkey hr, hcarries.2] at hreleased
      exact hreleased
    · refine wp_mono (wp_anything _) fun rolled w₁ _ _ => ?_
      refine ⟨(fun _ _ _ _ h => nomatch h), fun receipt _ done plan _ hcarries => ?_⟩
      exact absurd (hiff.mpr hcarries.1) hr
  · intro run hrun _
    obtain ⟨-, -, hkey⟩ := Lifecycle.recoveredRun_ok hrun
    refine Lifecycle.wp_recoverApplied trivial (fun _ _ _ _ h => nomatch h) fun hr _ => ?_
    refine wp_mono (wp_anything _) fun verified w₁ _ _ => ?_
    refine ⟨(fun _ _ _ _ h => nomatch h), fun verification _ => ?_, fun _ => ?_⟩
    · refine wp_mono (Lifecycle.wp_recoverCommit (wp_mono (wp_anything _) fun appended w₂ _ _ =>
        ⟨(fun _ _ h => nomatch h), fun _ => commitRun_releases _ _⟩)) fun committed w₃ _ h => ?_
      refine ⟨(fun _ _ _ _ h => nomatch h), fun hok done plan _ hcarries => ?_⟩
      have hreleased := (h hok).releasedAt rfl
      change ReleasedAt _ run.reservation.key.planID at hreleased
      rw [hkey hr, hcarries.2] at hreleased
      exact hreleased
    · refine wp_mono (rollbackRun_releases _ _ hr) fun rolled w₂ _ h => ?_
      refine ⟨(fun _ _ _ _ h => nomatch h), fun receipt hok done plan _ hcarries => ?_⟩
      have hreleased := (h receipt hok).releasedAt rfl
      change ReleasedAt _ run.reservation.key.planID at hreleased
      rw [hkey hr, hcarries.2] at hreleased
      exact hreleased

/-- What the recovery of `entries` has done when `rest` is still to do. -/
structure Recovered (entries rest : List JournalRecord) (w w' : World D) : Prop where
  frame : ∀ plan, (∀ e ∈ entries, ¬ e.Carries plan) →
    w'.stores.reservations.records.lookup plan = w.stores.reservations.records.lookup plan
  released : ∀ e ∈ entries, e ∉ rest → ∀ plan, e.Carries plan → ReleasedAt w'.stores.reservations plan

theorem recoverEntries_releases (records entries : List JournalRecord) :
    wp (ports drv faults) Anywhere (lc.recoverEntries records entries []) (fun outcome w' =>
      ∀ done, outcome = .ok done → Recovered entries [] w w') w := by
  have hstart : (∀ e ∈ entries, e ∈ entries) ∧ Recovered entries entries w w :=
    ⟨fun _ he => he, fun _ _ => rfl, fun e he hne => absurd he hne⟩
  refine Lifecycle.wp_recoverEntries
    (I := fun rest _ w' => (∀ e ∈ rest, e ∈ entries) ∧ Recovered entries rest w w') trivial hstart ?_
    (fun done w' _ h _ _ => h.2)
  intro entry rest done w₁ _ hI
  obtain ⟨hmem, hframe, hreleased⟩ := hI
  refine wp_mono (recoverEntry_releases entry records) fun outcome w₂ _ h => ?_
  refine ⟨(fun _ _ _ h => nomatch h), fun outcome' hok => ?_⟩
  refine ⟨fun e he => hmem e (List.mem_cons_of_mem _ he), ?_, ?_⟩
  · intro plan hplan
    rw [h.1 plan fun token hcarries heq => hplan entry (hmem entry List.mem_cons_self) (heq ▸ hcarries)]
    exact hframe plan hplan
  · intro e he hrest plan hcarries
    by_cases hentry : entry.Carries plan
    · exact h.2 outcome' plan hok hentry
    · -- The entry leaves the plan id alone, so what was released before still is.
      have hne : e ≠ entry := by
        rintro rfl
        exact hentry hcarries
      have hold := hreleased e he (by simp [hne, hrest]) plan hcarries
      exact Frame.releasedAt h.1 (fun token htoken heq => hentry (heq ▸ htoken)) hold

theorem recover_releases : wp (ports drv faults) Anywhere lc.recover (fun r w' =>
    r.err = none → lc.active = false →
      Recovered w.stores.journal.inFlight [] w w') w := by
  refine Lifecycle.wp_recover trivial (fun _ _ h => nomatch h) fun _ => ?_
  refine wp_mono (wp_clock trivial) fun now w₁ _ hw => ?_
  obtain ⟨rfl, -⟩ := hw
  refine wp_mono (wp_store trivial fun _ => trivial) fun inFlight w₂ _ hw => ?_
  obtain ⟨issuedAt, s₂, -, hserved, rfl⟩ := hw
  refine ⟨(fun _ _ h => nomatch h), ?_, ?_⟩
  · rintro rfl _ _
    have htruth := hserved.ok
    simp only [Stores.serve, Prod.mk.injEq, Except.ok.injEq] at htruth
    obtain ⟨hnil, rfl⟩ := htruth
    rw [hnil]
    exact ⟨fun _ _ => rfl, fun e he => absurd he (by simp)⟩
  · rintro entries rfl _
    have htruth := hserved.ok
    simp only [Stores.serve, Prod.mk.injEq, Except.ok.injEq] at htruth
    obtain ⟨rfl, rfl⟩ := htruth
    refine wp_mono (wp_store trivial fun _ => trivial) fun records w₃ _ hw => ?_
    refine ⟨(fun _ _ h => nomatch h), ?_⟩
    rintro records' rfl
    obtain ⟨_, s₃, -, hserved, rfl⟩ := hw
    have htruth := hserved.ok
    simp only [Stores.serve, Prod.mk.injEq] at htruth
    obtain ⟨-, rfl⟩ := htruth
    refine wp_mono (wp_driver trivial (fun _ _ _ => trivial) fun _ _ => trivial) fun recovered w₄ _ hw => ?_
    obtain ⟨d, -, rfl⟩ := hw
    refine ⟨(fun _ _ h => nomatch h), fun _ _ => ?_⟩
    refine wp_mono (recoverEntries_releases _ _) fun outcomes w₅ _ h => ?_
    refine ⟨(fun _ _ h => nomatch h), fun done hok => ⟨(fun _ _ h => nomatch h), fun _ _ _ => ?_⟩⟩
    exact ⟨(h done hok).frame, (h done hok).released⟩

/-- Released records carry the terminal step they were released with. -/
def Closed (reservations : ReservationStore) : Prop :=
  ∀ plan record, reservations.records.lookup plan = some record → record.released = true →
    record.terminal.terminal = true

theorem Closed.serve {s : Stores} (h : Closed s.reservations) (issuedAt : Time) (call : StoreCall) :
    Closed (s.serve issuedAt call).2.reservations := by
  have hwrite (journal : Except Err JournalState) : Closed (s.write journal).2.reservations := by
    cases journal with
    | error err => exact h
    | ok journal => exact h
  cases call with
  | journalBegin record => exact hwrite _
  | journalAdvance record => exact hwrite _
  | journalFinish record => exact hwrite _
  | journalInFlight => exact h
  | journalRecords => exact h
  | appendReceipt receipt => exact h
  | reserve key =>
    rcases s.reservations.reserve_cases issuedAt key with ⟨err, hr⟩ | ⟨replay, -, hr⟩ | ⟨-, -, -, hr⟩
    · simp only [Stores.serve, hr]; exact h
    · simp only [Stores.serve, hr]; exact h
    · simp only [Stores.serve, hr]
      intro plan record hl hrel
      rw [Map.lookup_insert_eq_ite] at hl
      split at hl
      · cases hl
        cases hrel
      · exact h plan record hl hrel
  | release token terminal result =>
    rcases s.reservations.release_cases token terminal result with
      ⟨err, hr⟩ | ⟨old, -, -, ht, ⟨-, -, -, hr⟩ | ⟨-, hr⟩⟩
    · simp only [Stores.serve, hr]; exact h
    · simp only [Stores.serve, hr]; exact h
    · simp only [Stores.serve, hr]
      intro plan record hl hrel
      rw [Map.lookup_insert_eq_ite] at hl
      split at hl
      · cases hl
        exact ht
      · exact h plan record hl hrel

theorem reachable_closed {p : Process D}
    (h : Reachable Process.Initial (Process.Step drv faults) p) :
    Closed p.world.stores.reservations := by
  refine reachable_world (I := fun w => Closed w.stores.reservations) ?_
    (fun w issuedAt call hw => Closed.serve hw issuedAt call) (fun _ _ _ _ hw _ => hw)
    (fun _ _ _ hw _ => hw) (fun _ _ hw _ => hw) h
  intro p hp plan record hl
  rw [hp.2.1] at hl
  cases hl

/-- After a crash anywhere and a recovery that returned success, a reservation is released with a
terminal step exactly when it was released before or an in-flight journal entry names it. -/
theorem recover_releases_iff {p q : Process D} {plan : String} {record : ReservationRecord}
    (hp : Reachable Process.Initial (Process.Step drv faults) p) (hcrash : p.Dies drv faults q)
    (hrecover : Exec (ports drv faults) (Op.recover.perform q.lifecycle) q.world (some (none, lc)) w)
    (hrecord : q.world.stores.reservations.records.lookup plan = some record) :
    ReleasedAt w.stores.reservations plan ↔
      record.released = true ∨ ∃ e ∈ q.world.stores.journal.inFlight, e.Carries plan := by
  have hclosed : Closed q.world.stores.reservations := reachable_closed (hp.next (.died hcrash))
  have hinactive : q.lifecycle.active = false := by
    obtain ⟨bounded, -, -⟩ := hcrash
    rfl
  have hwp : wp (ports drv faults) Anywhere (Op.recover.perform q.lifecycle)
      (fun outcome w' => outcome.1 = none → Recovered q.world.stores.journal.inFlight [] q.world w')
      q.world := by
    refine (wp_bind _ _ _ _).mpr (wp_mono recover_releases fun r w' _ h => ⟨trivial, fun hnone => ?_⟩)
    exact h hnone hinactive
  have hdone : Recovered q.world.stores.journal.inFlight [] q.world w := hrecover.of_wp hwp rfl
  by_cases hcarried : ∃ e ∈ q.world.stores.journal.inFlight, e.Carries plan
  · obtain ⟨e, he, hcarries⟩ := hcarried
    exact iff_of_true (hdone.released e he (by simp) plan hcarries) (.inr ⟨e, he, hcarries⟩)
  · have hsame := hdone.frame plan fun e he hcarries => hcarried ⟨e, he, hcarries⟩
    rw [hrecord] at hsame
    constructor
    · rintro ⟨record', hl, hrel, -⟩
      rw [hsame, Option.some.injEq] at hl
      rw [hl]
      exact .inl hrel
    · rintro (hrel | h)
      · exact ⟨record, hsame, hrel, hclosed plan record hrecord hrel⟩
      · exact absurd h hcarried

end

section Runs
open Memory

/-- The process dies in `Reserve` behind its first `n` requests. -/
def crashInReserve (n : ℕ) : Process Backing :=
  crash sampleConfig 1 (.reserve sampleKey) n (play sampleConfig 1 approvedCalls newProcess)

def recovery (p : Process Backing) : (Option Err × Lifecycle) × World Backing :=
  (Op.recover.perform p.lifecycle).run (answer sampleConfig 2) p.world

theorem crashInReserve_dies (n : ℕ) : (play sampleConfig 1 approvedCalls newProcess).Dies
    (model sampleConfig .none) .none (crashInReserve n) := crash_dies _ (by decide) _ _ _

theorem approvedCalls_reachable :
    Reachable Process.Initial (Process.Step (model sampleConfig .none) .none)
      (play sampleConfig 1 approvedCalls newProcess) :=
  play_reachable _ (by decide) _ (.start newProcess_initial)

theorem recovery_exec {p : Process Backing} {err : Option Err} (h : (recovery p).1.1 = err) :
    Exec (ports (model sampleConfig .none) .none) (Op.recover.perform p.lifecycle) p.world
      (some (err, (recovery p).1.2)) (recovery p).2 := by
  have hexec : Exec (ports (model sampleConfig .none) .none) (Op.recover.perform p.lifecycle) p.world
      (some (recovery p).1) (recovery p).2 := Prog.exec_run (answer_step _ (by decide)) _ _
  have houtcome : (recovery p).1 = (err, (recovery p).1.2) := Prod.ext h rfl
  rwa [houtcome] at hexec

/-- The reservation that the journal names by the time the process dies. -/
def namedRecord : ReservationRecord :=
  ((crashInReserve 3).world.stores.reservations.records.lookup "plan-1").getD default

theorem recover_releases_iff_crashInReserve :
    ReleasedAt (recovery (crashInReserve 3)).2.stores.reservations "plan-1" ↔
      namedRecord.released = true ∨
        ∃ e ∈ (crashInReserve 3).world.stores.journal.inFlight, e.Carries "plan-1" := by
  have hrun : (recovery (crashInReserve 3)).1.1 = none ∧
      (crashInReserve 3).world.stores.reservations.records.lookup "plan-1" = some namedRecord := by
    decide +kernel
  exact recover_releases_iff approvedCalls_reachable (crashInReserve_dies 3) (recovery_exec hrun.1) hrun.2

/-- A crash right behind the reservation store's `Reserve`: recovery succeeds and the plan id stays
reserved. -/
theorem reservation_leaks :
    ∃ (p q : Process Backing) (lc : Lifecycle) (w : World Backing) (record : ReservationRecord),
      Reachable Process.Initial (Process.Step (model sampleConfig .none) .none) p ∧
      p.Dies (model sampleConfig .none) .none q ∧
      Exec (ports (model sampleConfig .none) .none) (Op.recover.perform q.lifecycle) q.world
        (some (none, lc)) w ∧
      w.stores.reservations.records.lookup "plan-1" = some record ∧ record.released = false := by
  have hrun : (recovery (crashInReserve 1)).1.1 = none ∧
      ((recovery (crashInReserve 1)).2.stores.reservations.records.lookup "plan-1").map (·.released) =
        some false := by
    decide +kernel
  obtain ⟨record, hrecord, hreleased⟩ := Option.map_eq_some_iff.mp hrun.2
  exact ⟨_, crashInReserve 1, _, _, record, approvedCalls_reachable, crashInReserve_dies 1,
    recovery_exec hrun.1, hrecord, hreleased⟩

end Runs
end AntiFlock.Driver
