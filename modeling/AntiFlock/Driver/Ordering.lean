import AntiFlock.Driver.Rules
import Mathlib.Data.List.Sublists

set_option autoImplicit false

/-!
# Every apply is prepared, and no plan is applied twice

The world of this module is the reservation store together with everything that
has happened so far. The journal, the receipt store, the driver and the clock
may answer anything; a process may die at any request and start again.
-/
namespace AntiFlock.Driver.Ordering
open AntiFlock.Effect

inductive Event where
  /-- A port call with its answer; there is none when the process died inside it. -/
  | call (q : PortCall) (answer : Option q.Ans)
  | returned (op : Op) (err : Option Err)
  | restart

structure Trace where
  reservations : ReservationStore
  history : List Event

def Trace.log (t : Trace) (event : Event) : Trace := { t with history := t.history ++ [event] }

def Touches : (q : PortCall) → ReservationStore → q.Ans → ReservationStore → Prop
  | .store (.reserve key), s, answer, s' => ∃ issuedAt, Served .any (s.reserve issuedAt key) s answer s'
  | .store (.release token terminal result), s, answer, s' =>
    Served .any (s.release token terminal result) s answer s'
  | _, s, _, s' => s' = s

def observed : Handler Port Trace where
  step q t answer t' := t'.history = t.history ++ [.call q (some answer)] ∧
    Touches q t.reservations answer t'.reservations
  torn q t t' := t'.history = t.history ++ [.call q none] ∧
    (t'.reservations = t.reservations ∨ ∃ answer, Touches q t.reservations answer t'.reservations)

structure Process where
  lifecycle : Lifecycle
  trace : Trace

inductive Process.Step : Process → Process → Prop where
  | returned {p : Process} {op : Op} {err : Option Err} {lc : Lifecycle} {t : Trace}
      (h : Exec observed (op.perform p.lifecycle) p.trace (some (err, lc)) t) :
      Step p ⟨lc, t.log (.returned op err)⟩
  | died {p : Process} {op : Op} {t : Trace} (timeouts : StepTimeouts)
      (bounded : timeouts.validate = none) (h : Exec observed (op.perform p.lifecycle) p.trace none t) :
      Step p ⟨.fresh timeouts bounded, t.log .restart⟩

def Process.Initial (p : Process) : Prop :=
  p.trace.history = [] ∧ ∃ timeouts bounded, p.lifecycle = .fresh timeouts bounded

/-- The run in progress after some events: the plan begun last by the living process and what
has happened since. -/
def runStep (current : Option (PlanRef × List Event)) : Event → Option (PlanRef × List Event)
  | .returned (.begin ref) none => some (ref, [])
  | .restart => none
  | event => current.map fun run => (run.1, run.2 ++ [event])

def currentRun (history : List Event) : Option (PlanRef × List Event) := history.foldl runStep none

def Event.appliedPlan : Event → Option String
  | .call (.driver (.apply request)) _ => some request.planID
  | _ => none

/-- The plan ids `Driver.Apply` has been called for. -/
def applied (history : List Event) : List String := history.filterMap Event.appliedPlan

/-- What must have happened, in this order and in the current run, before `Driver.Apply` is
called with `request`. -/
def Prepared (history : List Event) (request : ApplyRequest) : Prop :=
  ∃ events scope snapshot operation result approval key reservation,
    currentRun history =
      some (⟨request.planID, request.planRevision, request.operationID⟩, events) ∧
    [Event.call (.driver (.capture scope)) (some (.ok snapshot)),
      Event.call (.driver (.simulate snapshot operation)) (some (.ok result)),
      Event.returned (.approve approval) none,
      Event.call (.store (.reserve key)) (some (.ok reservation))].Sublist events ∧
    (snapshot.digest = .ok result.snapshotDigest ∧ result.wouldSucceed = true ∧
      request.operation = some operation) ∧
    (approval.planID = request.planID ∧ approval.planRevision = request.planRevision ∧
      approval.operationID = request.operationID ∧ approval.target = request.target) ∧
    (key.planID = request.planID ∧ key.planRevision = request.planRevision ∧
      reservation.replayed = false ∧ reservation.token = request.reservation)

/-- Neither a call of `Driver.Apply` nor the start or end of a run. -/
def Event.plain : Event → Bool
  | .call (.driver (.apply _)) _ => false
  | .returned (.begin _) none => false
  | .restart => false
  | _ => true

theorem runStep_of_plain (current : Option (PlanRef × List Event)) {event : Event}
    (h : event.plain = true) :
    runStep current event = current.map fun run => (run.1, run.2 ++ [event]) := by
  unfold runStep
  split
  · cases h
  · cases h
  · rfl

theorem appliedPlan_of_plain {event : Event} (h : event.plain = true) : event.appliedPlan = none := by
  unfold Event.appliedPlan
  split
  · cases h
  · rfl

@[simp] theorem currentRun_concat (history : List Event) (event : Event) :
    currentRun (history ++ [event]) = runStep (currentRun history) event := by
  simp [currentRun]

theorem currentRun_append_plain (history events : List Event) (h : ∀ e ∈ events, e.plain = true) :
    currentRun (history ++ events) =
      (currentRun history).map fun run => (run.1, run.2 ++ events) := by
  induction events using List.reverseRecOn with
  | nil => simp
  | append_singleton events last ih =>
    rw [← List.append_assoc, currentRun_concat, ih fun e he => h e (List.mem_append_left _ he),
      runStep_of_plain _ (h last (by simp)), Option.map_map]
    simp [Function.comp_def]

theorem applied_append_plain (history events : List Event) (h : ∀ e ∈ events, e.plain = true) :
    applied (history ++ events) = applied history := by
  have hnone : events.filterMap Event.appliedPlan = [] :=
    List.filterMap_eq_nil_iff.mpr fun e he => appliedPlan_of_plain (h e he)
  simp [applied, hnone]

/-- What a stretch without an apply leaves: more plain events, and every reservation kept. -/
structure Quiet (t t' : Trace) : Prop where
  events : ∃ es, t'.history = t.history ++ es ∧ ∀ e ∈ es, e.plain = true
  kept : ∀ plan, t.reservations.records.lookup plan ≠ none →
    t'.reservations.records.lookup plan ≠ none

theorem Quiet.refl (t : Trace) : Quiet t t := ⟨⟨[], by simp⟩, fun _ h => h⟩

theorem Quiet.trans {t u v : Trace} (h : Quiet t u) (h' : Quiet u v) : Quiet t v := by
  obtain ⟨es, hes, hplain⟩ := h.events
  obtain ⟨es', hes', hplain'⟩ := h'.events
  refine ⟨⟨es ++ es', by rw [hes', hes, List.append_assoc], fun e he => ?_⟩,
    fun plan hp => h'.kept plan (h.kept plan hp)⟩
  rcases List.mem_append.mp he with he | he
  · exact hplain e he
  · exact hplain' e he

theorem Quiet.log (t : Trace) {event : Event} (h : event.plain = true) : Quiet t (t.log event) :=
  ⟨⟨[event], rfl, by simpa using h⟩, fun _ h => h⟩

theorem Quiet.applied_eq {t t' : Trace} (h : Quiet t t') : applied t'.history = applied t.history := by
  obtain ⟨es, hes, hplain⟩ := h.events
  rw [hes, applied_append_plain _ _ hplain]

theorem Touches.kept {q : PortCall} {s s' : ReservationStore} {answer : q.Ans}
    (h : Touches q s answer s') (plan : String) (hp : s.records.lookup plan ≠ none) :
    s'.records.lookup plan ≠ none := by
  have hkeeps : ReservationStore.Keeps s s' := by
    unfold Touches at h
    split at h
    · obtain ⟨issuedAt, h⟩ := h
      rcases h.state with h | h
      · rw [h]; exact .refl s
      · rw [h]; exact s.reserve_keeps issuedAt _
    · rcases h.state with h | h
      · rw [h]; exact .refl s
      · rw [h]; exact s.release_keeps _ _ _
    · rw [h]; exact .refl s
  obtain ⟨record, hr⟩ := Option.ne_none_iff_exists'.mp hp
  obtain ⟨record', hr', -⟩ := hkeeps plan record hr
  simp [hr']

theorem Touches.fresh {key : ReservationKey} {s s' : ReservationStore} {reservation : Reservation}
    (h : Touches (.store (.reserve key)) s (.ok reservation) s') (hr : reservation.replayed = false) :
    s.records.lookup key.planID = none ∧ s'.records.lookup key.planID ≠ none := by
  obtain ⟨issuedAt, h⟩ := h
  have htruth := h.ok
  rcases s.reserve_cases issuedAt key with ⟨err, h⟩ | ⟨replay, hp, h⟩ | ⟨hnone, -, -, h⟩ <;>
    rw [h] at htruth
  · cases htruth
  · cases htruth
    rw [hp] at hr
    cases hr
  · cases htruth
    exact ⟨hnone, by simp⟩

/-- Every call of `Driver.Apply` in a history was prepared by what came before it. -/
def AllPrepared (history : List Event) : Prop :=
  ∀ before request answer after,
    history = before ++ .call (.driver (.apply request)) answer :: after → Prepared before request

theorem allPrepared_concat {history : List Event} {event : Event} (h : AllPrepared history)
    (hevent : ∀ request answer, event = .call (.driver (.apply request)) answer →
      Prepared history request) : AllPrepared (history ++ [event]) := by
  intro before request answer after heq
  rcases List.eq_nil_or_concat' after with rfl | ⟨after', last, rfl⟩
  · obtain ⟨hbefore, hlast⟩ := List.append_inj' heq rfl
    rw [← hbefore]
    exact hevent request answer (List.cons.inj hlast).1
  · rw [← List.cons_append, ← List.append_assoc] at heq
    exact h before request answer after' (List.append_inj' heq rfl).1

theorem allPrepared_plain {history events : List Event} (h : AllPrepared history)
    (hplain : ∀ e ∈ events, e.plain = true) : AllPrepared (history ++ events) := by
  induction events using List.reverseRecOn with
  | nil => simpa using h
  | append_singleton events last ih =>
    rw [← List.append_assoc]
    refine allPrepared_concat (ih fun e he => hplain e (List.mem_append_left _ he)) ?_
    rintro request answer rfl
    cases hplain _ (List.mem_append_right _ List.mem_cons_self)

structure Sound (t : Trace) : Prop where
  prepared : AllPrepared t.history
  once : (applied t.history).Nodup
  recorded : ∀ plan ∈ applied t.history, t.reservations.records.lookup plan ≠ none

theorem Sound.quiet {t t' : Trace} (h : Sound t) (hq : Quiet t t') : Sound t' := by
  obtain ⟨es, hes, hplain⟩ := hq.events
  exact ⟨hes ▸ allPrepared_plain h.prepared hplain, by rw [hq.applied_eq]; exact h.once,
    fun plan hplan => hq.kept plan (h.recorded plan (hq.applied_eq ▸ hplan))⟩

def simulationEvents (run : LifecycleRun) (scope : Scope) (operation : PlanOperation) : List Event :=
  [.call (.driver (.capture scope)) (some (.ok run.snapshot)),
    .call (.driver (.simulate run.snapshot operation)) (some (.ok run.simulation))]

def SimulationBound (run : LifecycleRun) (operation : PlanOperation) : Prop :=
  run.snapshot.digest = .ok run.simulation.snapshotDigest ∧ run.simulation.wouldSucceed = true ∧
    run.operation = some operation

def ApprovalBound (run : LifecycleRun) : Prop :=
  run.approval.planID = run.ref.planID ∧ run.approval.planRevision = run.ref.planRevision ∧
    run.approval.operationID = run.ref.operationID

/-- What the events of a run show in each state on the way to an apply. -/
def Evidence (run : LifecycleRun) (events : List Event) : LifecycleState → Prop
  | .captured => ∃ scope,
      [Event.call (.driver (.capture scope)) (some (.ok run.snapshot))].Sublist events ∧
      run.snapshot.digest = .ok run.digest
  | .simulated => ∃ scope operation, (simulationEvents run scope operation).Sublist events ∧
      SimulationBound run operation
  | .approved => ∃ scope operation,
      (simulationEvents run scope operation ++ [Event.returned (.approve run.approval) none]).Sublist
        events ∧ SimulationBound run operation ∧ ApprovalBound run
  | .reserved => ∃ scope operation key reservation,
      (simulationEvents run scope operation ++ [Event.returned (.approve run.approval) none] ++
        [Event.call (.store (.reserve key)) (some (.ok reservation))]).Sublist events ∧
      SimulationBound run operation ∧ ApprovalBound run ∧ key.planID = run.ref.planID ∧
      key.planRevision = run.ref.planRevision ∧ reservation.replayed = false ∧
      reservation.token = run.reservation
  | _ => True

theorem Evidence.append {run : LifecycleRun} {events : List Event} {state : LifecycleState}
    (h : Evidence run events state) (more : List Event) : Evidence run (events ++ more) state := by
  have hsub {es : List Event} (h : es.Sublist events) : es.Sublist (events ++ more) :=
    h.trans (List.sublist_append_left _ _)
  cases state with
  | captured => obtain ⟨scope, hs, h⟩ := h; exact ⟨scope, hsub hs, h⟩
  | simulated => obtain ⟨scope, operation, hs, h⟩ := h; exact ⟨scope, operation, hsub hs, h⟩
  | approved => obtain ⟨scope, operation, hs, h⟩ := h; exact ⟨scope, operation, hsub hs, h⟩
  | reserved =>
    obtain ⟨scope, operation, key, reservation, hs, h⟩ := h
    exact ⟨scope, operation, key, reservation, hsub hs, h⟩
  | _ => trivial

def loose : LifecycleState → Bool
  | .captured => false
  | .simulated => false
  | .approved => false
  | .reserved => false
  | _ => true

theorem evidence_of_loose {state : LifecycleState} (h : loose state = true) (run : LifecycleRun)
    (events : List Event) : Evidence run events state := by
  cases state with
  | captured => cases h
  | simulated => cases h
  | approved => cases h
  | reserved => cases h
  | _ => trivial

/-- The living process and the history agree on the run in progress. -/
structure Tracks (lc : Lifecycle) (t : Trace) : Prop where
  run : ∀ run, lc.run = some run → lc.state.terminal = false →
    ∃ events, currentRun t.history = some (run.ref, events) ∧ Evidence run events lc.state
  unspent : ∀ run, lc.run = some run → lc.state = .reserved →
    run.ref.planID ∉ applied t.history ∧ t.reservations.records.lookup run.ref.planID ≠ none

theorem Tracks.quiet {lc : Lifecycle} {t t' : Trace} (h : Tracks lc t) (hq : Quiet t t') :
    Tracks lc t' := by
  obtain ⟨es, hes, hplain⟩ := hq.events
  refine ⟨fun run hrun hstate => ?_, fun run hrun hstate => ?_⟩
  · obtain ⟨events, hcur, hev⟩ := h.run run hrun hstate
    exact ⟨events ++ es, by rw [hes, currentRun_append_plain _ _ hplain, hcur]; rfl, hev.append es⟩
  · obtain ⟨hnew, hrec⟩ := h.unspent run hrun hstate
    exact ⟨by rwa [hq.applied_eq], hq.kept _ hrec⟩

theorem Tracks.settle {lc : Lifecycle} {t : Trace} {run run' : LifecycleRun} {state : LifecycleState}
    (h : Tracks lc t) (hrun : lc.run = some run) (hstate : lc.state.terminal = false)
    (href : run'.ref = run.ref) (hloose : loose state = true) : Tracks (lc.into state run') t := by
  refine ⟨fun r hr _ => ?_, fun r _ hs => ?_⟩
  · obtain ⟨events, hcur, -⟩ := h.run run hrun hstate
    cases hr
    exact ⟨events, by rw [href]; exact hcur, evidence_of_loose hloose _ _⟩
  · subst hs
    cases hloose

theorem Tracks.fail {α : Type} [Inhabited α] {lc : Lifecycle} {t : Trace} {run : LifecycleRun}
    (h : Tracks lc t) (hrun : lc.run = some run) (hstate : lc.state.terminal = false) (err : Err) :
    Tracks (lc.fail err : Returned α).lifecycle t := by
  have hs : Tracks (lc.into .failed run) t := h.settle hrun hstate rfl rfl
  have heq : (lc.fail err : Returned α).lifecycle = lc.into .failed run := by
    simp only [Lifecycle.fail, Lifecycle.into, hrun]
  rwa [heq]

def quietCall : PortCall → Bool
  | .driver (.apply _) => false
  | _ => true

theorem plain_call {q : PortCall} (h : quietCall q = true) (answer : Option q.Ans) :
    (Event.call q answer).plain = true := by
  cases q with
  | clock => rfl
  | store => rfl
  | driver call =>
    cases call with
    | apply => cases h
    | _ => rfl

theorem wp_observed {q : PortCall} {t : Trace} (hq : quietCall q = true) (h : Sound t) :
    wp observed Sound (Prog.perform (S := Port) q) (fun answer t' => Quiet t t' ∧
      t'.history = t.history ++ [.call q (some answer)] ∧
      Touches q t.reservations answer t'.reservations) t := by
  have hquiet {t' : Trace} {answer : Option q.Ans} (hh : t'.history = t.history ++ [.call q answer])
      (hs : t'.reservations = t.reservations ∨ ∃ a, Touches q t.reservations a t'.reservations) :
      Quiet t t' := by
    refine ⟨⟨_, hh, by simpa using plain_call hq answer⟩, fun plan hp => ?_⟩
    rcases hs with hs | ⟨a, hs⟩
    · rwa [hs]
    · exact hs.kept plan hp
  refine ⟨h, fun t' ht => h.quiet (hquiet ht.1 ht.2), fun answer t' ht => ?_⟩
  have hqt := hquiet ht.1 (.inr ⟨answer, ht.2⟩)
  exact ⟨h.quiet hqt, hqt, ht.1, ht.2⟩

theorem wp_quiet {q : PortCall} {t : Trace} (hq : quietCall q = true) (h : Sound t) :
    wp observed Sound (Prog.perform (S := Port) q) (fun _ t' => Quiet t t') t :=
  wp_mono (wp_observed hq h) fun _ _ _ h => h.1

theorem wp_quiet_bind {α β : Type} {p : Prog Port α} {f : α → Prog Port β} {t : Trace}
    (hp : wp observed Sound p (fun _ t' => Quiet t t') t)
    (hf : ∀ a t', Sound t' → wp observed Sound (f a) (fun _ t'' => Quiet t' t'') t') :
    wp observed Sound (p.bind f) (fun _ t' => Quiet t t') t :=
  (wp_bind _ _ _ _).mpr (wp_mono hp fun a t' hs hq =>
    wp_mono (hf a t' hs) fun _ _ _ hq' => hq.trans hq')

theorem wp_advance {t : Trace} (h : Sound t) (run : LifecycleRun) (step : Step)
    (ownership digest : String) :
    wp observed Sound (Lifecycle.journalAdvance run step ownership digest)
      (fun _ t' => Quiet t t') t :=
  wp_quiet_bind (wp_quiet rfl h) fun _ _ hs => wp_quiet rfl hs

theorem quietCall_of_settles {q : PortCall} {tokens : ReservationToken → Prop}
    (h : Lifecycle.settles tokens q) : quietCall q = true := by
  cases q with
  | driver call =>
    cases call with
    | apply => exact h.elim
    | _ => rfl
  | _ => rfl

theorem wp_settling {α : Type} {p : Prog Port α} {t : Trace}
    (hp : p.Only (Lifecycle.settles fun _ => True)) (h : Sound t) : wp observed Sound p (fun _ t' => Quiet t t') t :=
  wp_only hp Quiet.refl Quiet.trans (fun _ _ hq hs => wp_quiet (quietCall_of_settles hq) hs) h

/-- What has to be shown of one method: the run it leaves is tracked once its return is logged. -/
def Leaves {α : Type} (op : Op) (r : Returned α) (t : Trace) : Prop :=
  Tracks r.lifecycle (t.log (.returned op r.err))

section Methods
variable {lc : Lifecycle} {t : Trace} {op : Op}

theorem leaves_refused {α : Type} [Inhabited α] {t' : Trace} (ht : Tracks lc t) (hq : Quiet t t')
    (err : Err) : Leaves op (lc.refuse err : Returned α) t' := by
  refine (ht.quiet hq).quiet (.log t' ?_)
  cases op <;> rfl

theorem leaves_failed {α : Type} [Inhabited α] {t' : Trace} {run : LifecycleRun} (ht : Tracks lc t)
    (hq : Quiet t t') (hrun : lc.run = some run) (hstate : lc.state.terminal = false) (err : Err) :
    Leaves op (lc.fail err : Returned α) t' := by
  refine ((ht.quiet hq).fail hrun hstate err).quiet (.log t' ?_)
  cases op <;> rfl

theorem leaves_settled {α : Type} {t' : Trace} {run run' : LifecycleRun} {state : LifecycleState}
    {value : α} {err : Option Err} (ht : Tracks lc t) (hq : Quiet t t') (hrun : lc.run = some run)
    (hstate : lc.state.terminal = false) (href : run'.ref = run.ref) (hloose : loose state = true)
    (hop : (Event.returned op err).plain = true) :
    Leaves op ⟨value, err, lc.into state run'⟩ t' :=
  ((ht.quiet hq).settle hrun hstate href hloose).quiet (.log t' hop)

theorem begin_tracks (h : Sound t) (ht : Tracks lc t) (ref : PlanRef) :
    wp observed Sound (lc.begin_ ref) (Leaves (.begin ref)) t := by
  have hrefused (t' : Trace) (hq : Quiet t t') (err : Err) :
      Leaves (.begin ref) (lc.refuse err : Returned Unit) t' := leaves_refused ht hq err
  refine Lifecycle.wp_begin h (fun err _ => hrefused t (.refl t) err)
    (fun _ => hrefused t (.refl t) _) fun _ _ => ?_
  refine wp_mono (wp_quiet rfl h) fun inFlight t₁ h₁ q₁ => ?_
  refine ⟨fun err _ => hrefused t₁ q₁ err, fun _ err _ _ _ => hrefused t₁ q₁ err, fun _ => ?_⟩
  refine wp_mono (wp_quiet_bind (wp_quiet rfl h₁) fun _ _ hs => wp_quiet rfl hs) fun written t₂ _ q₂ => ?_
  refine ⟨fun err _ => hrefused t₂ (q₁.trans q₂) err, fun _ => ⟨fun run hrun _ => ?_, ?_⟩⟩
  · cases hrun
    exact ⟨[], by simp [Trace.log, runStep], trivial⟩
  · rintro run - ⟨⟩

theorem capture_tracks (h : Sound t) (ht : Tracks lc t) (scope : Scope) :
    wp observed Sound (lc.capture scope) (Leaves (.capture scope)) t := by
  refine Lifecycle.wp_capture h (leaves_refused ht (.refl t)) fun run hreq _ => ?_
  obtain ⟨hrun, hstate⟩ := Lifecycle.require_ok hreq
  have hactive : lc.state.terminal = false := by rw [hstate]; rfl
  refine wp_mono (wp_observed rfl h) fun answer t₁ _ hobs => ⟨leaves_failed ht hobs.1 hrun hactive, ?_⟩
  rintro snapshot digest rfl hdigest
  refine Tracks.quiet ⟨fun run' hrun' _ => ?_, by rintro run' - ⟨⟩⟩ (.log t₁ rfl)
  obtain ⟨events, hcur, -⟩ := ht.run run hrun hactive
  cases hrun'
  refine ⟨events ++ [_], ?_, scope, List.sublist_append_right _ _, hdigest⟩
  rw [hobs.2.1, currentRun_concat, runStep_of_plain _ rfl, hcur]
  rfl

theorem simulate_tracks (h : Sound t) (ht : Tracks lc t) (operation : Option PlanOperation) :
    wp observed Sound (lc.simulate operation) (Leaves (.simulate operation)) t := by
  refine Lifecycle.wp_simulate h (leaves_refused ht (.refl t)) fun run operation' hreq _ _ _ => ?_
  obtain ⟨hrun, hstate⟩ := Lifecycle.require_ok hreq
  have hactive : lc.state.terminal = false := by rw [hstate]; rfl
  refine wp_mono (wp_observed rfl h) fun answer t₁ h₁ hobs => ⟨leaves_failed ht hobs.1 hrun hactive, ?_⟩
  rintro result rfl - hdigest -
  refine ⟨leaves_settled ht hobs.1 hrun hactive rfl rfl rfl, fun hsucceed => ?_⟩
  refine wp_mono (wp_advance h₁ _ _ _ _) fun written t₂ _ q₂ =>
    ⟨fun err => leaves_settled ht (hobs.1.trans q₂) hrun hactive rfl rfl rfl, fun _ => ?_⟩
  refine (Tracks.quiet ⟨fun run' hrun' _ => ?_, by rintro run' - ⟨⟩⟩ q₂).quiet (.log t₂ rfl)
  obtain ⟨events, hcur, hev⟩ := ht.run run hrun hactive
  rw [hstate] at hev
  obtain ⟨scope, hsub, hdig⟩ := hev
  cases hrun'
  refine ⟨events ++ [_], ?_, scope, operation', hsub.append (List.Sublist.refl _),
    by rw [hdigest]; exact hdig, hsucceed, rfl⟩
  rw [hobs.2.1, currentRun_concat, runStep_of_plain _ rfl, hcur]
  rfl

theorem approve_tracks (h : Sound t) (ht : Tracks lc t) (approval : Approval) :
    wp observed Sound (lc.approve approval) (Leaves (.approve approval)) t := by
  refine Lifecycle.wp_approve h (leaves_refused ht (.refl t)) fun run hreq _ hplan hrev hop _ => ?_
  obtain ⟨hrun, hstate⟩ := Lifecycle.require_ok hreq
  have hactive : lc.state.terminal = false := by rw [hstate]; rfl
  refine wp_mono (wp_advance h _ _ _ _) fun written t₁ _ q₁ =>
    ⟨fun err _ => leaves_refused ht q₁ err, fun _ => ⟨fun run' hrun' _ => ?_, by rintro run' - ⟨⟩⟩⟩
  obtain ⟨events, hcur, hev⟩ := (ht.quiet q₁).run run hrun hactive
  rw [hstate] at hev
  obtain ⟨scope, operation, hsub, hsim⟩ := hev
  cases hrun'
  refine ⟨events ++ [_], ?_, scope, operation, hsub.append (List.Sublist.refl _), hsim,
    hplan, hrev, hop⟩
  rw [Trace.log, currentRun_concat, runStep_of_plain _ rfl, hcur]
  rfl

theorem reserve_tracks (h : Sound t) (ht : Tracks lc t) (key : ReservationKey) :
    wp observed Sound (lc.reserve key) (Leaves (.reserve key)) t := by
  refine Lifecycle.wp_reserve h (leaves_refused ht (.refl t)) fun run hreq _ hplan hrev => ?_
  obtain ⟨hrun, hstate⟩ := Lifecycle.require_ok hreq
  have hactive : lc.state.terminal = false := by rw [hstate]; rfl
  refine wp_mono (wp_observed rfl h) fun answer t₁ h₁ hobs => ⟨leaves_failed ht hobs.1 hrun hactive, ?_⟩
  rintro reservation rfl hfresh
  obtain ⟨hnone, hsome⟩ := hobs.2.2.fresh hfresh
  refine wp_mono (wp_advance h₁ _ _ _ _) fun written t₂ _ q₂ =>
    ⟨fun err => leaves_settled ht (hobs.1.trans q₂) hrun hactive rfl rfl rfl, fun _ => ?_⟩
  refine (Tracks.quiet ⟨fun run' hrun' _ => ?_, fun run' hrun' _ => ?_⟩ q₂).quiet (.log t₂ rfl)
  · obtain ⟨events, hcur, hev⟩ := ht.run run hrun hactive
    rw [hstate] at hev
    obtain ⟨scope, operation, hsub, hsim, happroval⟩ := hev
    cases hrun'
    refine ⟨events ++ [_], ?_, scope, operation, key, reservation,
      hsub.append (List.Sublist.refl _), hsim, happroval, hplan, hrev, hfresh, rfl⟩
    rw [hobs.2.1, currentRun_concat, runStep_of_plain _ rfl, hcur]
    rfl
  · cases hrun'
    rw [hobs.1.applied_eq]
    -- The store had no record of the plan, while every applied plan has one.
    exact ⟨fun hmem => h.recorded _ hmem (hplan ▸ hnone), hplan ▸ hsome⟩

theorem Sound.applying {t' : Trace} {request : ApplyRequest}
    {answer : Option (PortCall.driver (.apply request)).Ans} (h : Sound t)
    (hprep : Prepared t.history request) (hnew : request.planID ∉ applied t.history)
    (hrec : t.reservations.records.lookup request.planID ≠ none)
    (hh : t'.history = t.history ++ [.call (.driver (.apply request)) answer])
    (hs : t'.reservations = t.reservations) : Sound t' := by
  have happlied : applied t'.history = applied t.history ++ [request.planID] := by
    rw [hh]
    simp [applied, Event.appliedPlan]
  refine ⟨hh ▸ allPrepared_concat h.prepared ?_, ?_, fun plan hplan => ?_⟩
  · rintro _ _ ⟨⟩
    exact hprep
  · rw [happlied, List.nodup_append]
    refine ⟨h.once, by simp, fun a ha b hb => ?_⟩
    rw [List.mem_singleton.mp hb]
    rintro rfl
    exact hnew ha
  · rw [hs]
    rw [happlied, List.mem_append, List.mem_singleton] at hplan
    rcases hplan with hplan | rfl
    · exact h.recorded plan hplan
    · exact hrec

theorem wp_applying {request : ApplyRequest} (h : Sound t) (hprep : Prepared t.history request)
    (hnew : request.planID ∉ applied t.history)
    (hrec : t.reservations.records.lookup request.planID ≠ none) :
    wp observed Sound (driver (.apply request)) (fun answer t' =>
      t'.history = t.history ++ [.call (.driver (.apply request)) (some answer)]) t := by
  refine ⟨h, fun t' ht => ?_, fun answer t' ht => ⟨h.applying hprep hnew hrec ht.1 ht.2, ht.1⟩⟩
  rcases ht.2 with hs | ⟨answer, hs⟩
  · exact h.applying hprep hnew hrec ht.1 hs
  · exact h.applying hprep hnew hrec ht.1 hs

theorem prepared_of_evidence {run : LifecycleRun} {events : List Event}
    (hcur : currentRun t.history = some (run.ref, events)) (hev : Evidence run events .reserved) :
    Prepared t.history (lc.applyRequest run) := by
  obtain ⟨scope, operation, key, reservation, hsub, hsim, happroval, hplan, hrev, hfresh, htoken⟩ := hev
  exact ⟨events, scope, run.snapshot, operation, run.simulation, run.approval, key, reservation,
    hcur, hsub, hsim, ⟨happroval.1, happroval.2.1, happroval.2.2, rfl⟩, hplan, hrev, hfresh, htoken⟩

theorem apply_tracks (h : Sound t) (ht : Tracks lc t) :
    wp observed Sound lc.apply (Leaves .apply) t := by
  refine Lifecycle.wp_apply h (leaves_refused ht (.refl t)) fun run hreq => ?_
  obtain ⟨hrun, hstate⟩ := Lifecycle.require_ok hreq
  have hactive : lc.state.terminal = false := by rw [hstate]; rfl
  refine wp_mono (wp_quiet rfl h) fun answer t₁ h₁ q₁ => ⟨leaves_failed ht q₁ hrun hactive, ?_⟩
  rintro current rfl -
  refine wp_mono (wp_advance h₁ _ _ _ _) fun written t₂ h₂ q₂ =>
    ⟨leaves_failed ht (q₁.trans q₂) hrun hactive, fun _ => ?_⟩
  have ht₂ := ht.quiet (q₁.trans q₂)
  obtain ⟨events, hcur, hev⟩ := ht₂.run run hrun hactive
  rw [hstate] at hev
  obtain ⟨hnew, hrec⟩ := ht₂.unspent run hrun hstate
  refine wp_mono (wp_applying h₂ (prepared_of_evidence hcur hev) hnew hrec) fun answer t₃ h₃ hh => ?_
  have ht₃ : Tracks (lc.into .failed run) t₃ := by
    refine ⟨fun run' hrun' _ => ?_, by rintro run' - ⟨⟩⟩
    cases hrun'
    exact ⟨_, by rw [hh, currentRun_concat, hcur]; rfl, trivial⟩
  constructor
  · intro err
    have hfail : (lc.fail err : Returned ApplyReceipt).lifecycle = lc.into .failed run := by
      simp only [Lifecycle.fail, Lifecycle.into, hrun]
    exact Tracks.quiet (by rw [hfail]; exact ht₃) (.log t₃ rfl)
  · intro receipt _ _
    refine wp_mono (wp_advance h₃ _ _ _ _) fun written t₄ _ q₄ => ?_
    have hs (err : Option Err) (state : LifecycleState) (hl : loose state = true) :
        Leaves .apply ⟨receipt, err, (lc.into .failed run).into state
          { run with receipt := receipt, applied := true }⟩ t₄ :=
      leaves_settled ht₃ q₄ rfl rfl rfl hl rfl
    exact ⟨fun err => hs (some err) .failed rfl, fun _ => hs none .applied rfl⟩

theorem verify_tracks (h : Sound t) (ht : Tracks lc t) :
    wp observed Sound lc.verify (Leaves .verify) t := by
  refine Lifecycle.wp_verify h (leaves_refused ht (.refl t)) fun run hreq => ?_
  obtain ⟨hrun, hstate⟩ := Lifecycle.require_ok hreq
  have hactive : lc.state.terminal = false := by rw [hstate]; rfl
  refine wp_mono (wp_quiet rfl h) fun answer t₁ _ q₁ => ⟨leaves_failed ht q₁ hrun hactive, ?_⟩
  exact fun result _ _ => ⟨leaves_settled ht q₁ hrun hactive rfl rfl rfl,
    fun _ _ => leaves_settled ht q₁ hrun hactive rfl rfl rfl⟩

theorem leaves_state {α : Type} {t' : Trace} {run : LifecycleRun} {state : LifecycleState}
    {value : α} (ht : Tracks lc t) (hq : Quiet t t') (hrun : lc.run = some run)
    (hstate : lc.state.terminal = false) (hloose : loose state = true)
    (hop : (Event.returned op none).plain = true) :
    Leaves op ⟨value, none, { lc with state := state }⟩ t' := by
  have heq : { lc with state := state } = lc.into state run := by simp only [Lifecycle.into, hrun]
  rw [heq]
  exact leaves_settled ht hq hrun hstate rfl hloose hop

theorem record_tracks (h : Sound t) (ht : Tracks lc t) :
    wp observed Sound lc.record (Leaves .record) t := by
  refine Lifecycle.wp_record h (leaves_refused ht (.refl t)) fun run hreq => ?_
  obtain ⟨hrun, hstate⟩ := Lifecycle.require_ok hreq
  have hactive : lc.state.terminal = false := by rw [hstate]; rfl
  refine wp_mono (wp_advance h _ _ _ _) fun written t₁ h₁ q₁ =>
    ⟨leaves_failed ht q₁ hrun hactive, fun _ => ?_⟩
  exact wp_mono (wp_settling (Lifecycle.appendReceipts_settles _) h₁) fun appended t₂ _ q₂ =>
    ⟨leaves_failed ht (q₁.trans q₂) hrun hactive,
      fun _ => leaves_state ht (q₁.trans q₂) hrun hactive rfl rfl⟩

theorem commit_tracks (h : Sound t) (ht : Tracks lc t) :
    wp observed Sound lc.commit (Leaves .commit) t := by
  refine Lifecycle.wp_commit h (leaves_refused ht (.refl t)) fun run hreq => ?_
  obtain ⟨hrun, hstate⟩ := Lifecycle.require_ok hreq
  have hactive : lc.state.terminal = false := by rw [hstate]; rfl
  exact wp_mono (wp_settling (Lifecycle.commitRun_settles _ trivial _) h) fun committed t₁ _ q₁ =>
    ⟨fun err _ => leaves_failed ht q₁ hrun hactive err, fun _ => leaves_state ht q₁ hrun hactive rfl rfl⟩

theorem rollback_tracks (h : Sound t) (ht : Tracks lc t) :
    wp observed Sound lc.rollback (Leaves .rollback) t := by
  refine Lifecycle.wp_rollback h (leaves_refused ht (.refl t)) fun run hrun hactive => ?_
  exact wp_mono (wp_settling (Lifecycle.rollbackRun_settles lc _ (fun _ => trivial) _) h) fun rolled t₁ _ q₁ =>
    ⟨fun err _ => leaves_failed ht q₁ hrun hactive err,
      fun receipt _ => leaves_state ht q₁ hrun hactive rfl rfl⟩

theorem recover_tracks (h : Sound t) (ht : Tracks lc t) :
    wp observed Sound lc.recover (Leaves .recover) t := by
  have hsettle : wp observed Sound lc.recover (fun r t' => r.lifecycle = lc ∧ Quiet t t') t :=
    Lifecycle.wp_recover_settling Quiet.refl Quiet.trans
      (fun _ _ hq hs => wp_quiet (quietCall_of_settles hq) hs) h
  refine wp_mono hsettle fun r t₁ _ hr => ?_
  obtain ⟨hlc, hq⟩ := hr
  have htracks : Tracks r.lifecycle t₁ := by
    rw [hlc]
    exact ht.quiet hq
  exact htracks.quiet (.log t₁ rfl)

theorem op_tracks (h : Sound t) (ht : Tracks lc t) (op : Op) :
    wp observed Sound (op.perform lc)
      (fun outcome t' => Tracks outcome.2 (t'.log (.returned op outcome.1))) t := by
  have done {α : Type} {p : Prog Port (Returned α)} (hp : wp observed Sound p (Leaves op) t) :
      wp observed Sound (p.bind fun r => .ret r.outcome)
        (fun outcome t' => Tracks outcome.2 (t'.log (.returned op outcome.1))) t :=
    (wp_bind _ _ _ _).mpr (wp_mono hp fun _ _ hs hl => ⟨hs, hl⟩)
  cases op with
  | «begin» ref => exact done (begin_tracks h ht ref)
  | capture scope => exact done (capture_tracks h ht scope)
  | simulate operation => exact done (simulate_tracks h ht operation)
  | approve approval => exact done (approve_tracks h ht approval)
  | reserve key => exact done (reserve_tracks h ht key)
  | apply => exact done (apply_tracks h ht)
  | verify => exact done (verify_tracks h ht)
  | record => exact done (record_tracks h ht)
  | commit => exact done (commit_tracks h ht)
  | rollback => exact done (rollback_tracks h ht)
  | recover => exact done (recover_tracks h ht)

end Methods

def Inv (p : Process) : Prop := Sound p.trace ∧ Tracks p.lifecycle p.trace

theorem Sound.log {t : Trace} (h : Sound t) {event : Event} (hevent : event.appliedPlan = none) :
    Sound (t.log event) := by
  have happlied : applied (t.log event).history = applied t.history := by
    simp [applied, Trace.log, hevent]
  refine ⟨allPrepared_concat h.prepared ?_, by rw [happlied]; exact h.once,
    fun plan hplan => h.recorded plan (happlied ▸ hplan)⟩
  rintro request answer rfl
  cases hevent

theorem tracks_fresh (timeouts : StepTimeouts) (bounded : timeouts.validate = none) (t : Trace) :
    Tracks (.fresh timeouts bounded) t :=
  ⟨fun _ hrun => (Option.some_ne_none _ hrun.symm).elim,
    fun _ hrun => (Option.some_ne_none _ hrun.symm).elim⟩

theorem inv_initial {p : Process} (h : p.Initial) : Inv p := by
  obtain ⟨hempty, timeouts, bounded, hfresh⟩ := h
  refine ⟨⟨fun before request answer after heq => ?_, ?_, ?_⟩, ?_⟩
  · rw [hempty] at heq
    simp at heq
  · simp [hempty, applied]
  · simp [hempty, applied]
  · rw [hfresh]
    exact tracks_fresh timeouts bounded _

theorem inv_step {p p' : Process} (h : Inv p) (hs : p.Step p') : Inv p' := by
  cases hs with
  | @returned op err lc t hexec =>
    have hwp := hexec.of_wp (wp_mono (op_tracks h.1 h.2 op) fun _ _ hs ht => And.intro hs ht)
    exact ⟨hwp.1.log rfl, hwp.2⟩
  | died timeouts bounded hexec =>
    have hsound : Sound _ := hexec.of_wp (op_tracks h.1 h.2 _)
    exact ⟨hsound.log rfl, tracks_fresh timeouts bounded _⟩

/-- Over every history of calls, failures and restarts: each call of `Driver.Apply` was prepared in
its own run, and `Driver.Apply` is called at most once per plan id. -/
theorem apply_prepared_once {p : Process} (h : Reachable Process.Initial Process.Step p) :
    (∀ before request answer after,
      p.trace.history = before ++ .call (.driver (.apply request)) answer :: after →
        Prepared before request) ∧
    (applied p.trace.history).Nodup := by
  have hinv : Inv p := h.invariant (fun _ h => inv_initial h) fun _ _ h hs => inv_step h hs
  exact ⟨hinv.1.prepared, hinv.1.once⟩

/-- A world in which every port agrees, except that the driver fails its apply. -/
def agreeable : (q : PortCall) → Trace → q.Ans
  | .clock, _ => 1
  | .store (.journalBegin _), _ => .ok ()
  | .store (.journalAdvance _), _ => .ok ()
  | .store (.journalFinish _), _ => .ok ()
  | .store .journalInFlight, _ => .ok []
  | .store .journalRecords, _ => .ok []
  | .store (.reserve key), t => (t.reservations.reserve 1 key).1
  | .store (.release token terminal result), t => (t.reservations.release token terminal result).1
  | .store (.appendReceipt _), _ => .ok ()
  | .driver (.capture scope), _ => .ok ⟨1, "memory", scope, [], 1⟩
  | .driver (.simulate snapshot operation), _ =>
    .ok ⟨operation.id, operation.target, snapshot.digestValue,
      ⟨snapshot.digestValue, snapshot.digestValue, []⟩, true, ["AF-OK"]⟩
  | .driver (.apply _), _ => .error ⟨.other, "refused"⟩
  | .driver (.verify _), _ => .error ⟨.other, "refused"⟩
  | .driver (.rollback _), _ => .error ⟨.other, "refused"⟩
  | .driver .recover, _ => .error ⟨.other, "refused"⟩

def agreeableStore : (q : PortCall) → Trace → ReservationStore
  | .store (.reserve key), t => (t.reservations.reserve 1 key).2
  | .store (.release token terminal result), t => (t.reservations.release token terminal result).2
  | _, t => t.reservations

def agree (q : PortCall) (t : Trace) : q.Ans × Trace :=
  (agreeable q t, ⟨agreeableStore q t, t.history ++ [.call q (some (agreeable q t))]⟩)

theorem agree_observed (q : PortCall) (t : Trace) :
    observed.step q t (agree q t).1 (agree q t).2 := by
  refine ⟨rfl, ?_⟩
  cases q with
  | clock => rfl
  | driver call => cases call <;> rfl
  | store call =>
    cases call with
    | reserve key => exact ⟨1, .served⟩
    | release token terminal result => exact .served
    | _ => rfl

/-- The process after a list of calls, all of which return. -/
def play : List Op → Process → Process
  | [], p => p
  | op :: ops, p =>
    play ops ⟨((op.perform p.lifecycle).run agree p.trace).1.2,
      ((op.perform p.lifecycle).run agree p.trace).2.log
        (.returned op ((op.perform p.lifecycle).run agree p.trace).1.1)⟩

theorem play_reachable (ops : List Op) {p : Process}
    (h : Reachable Process.Initial Process.Step p) :
    Reachable Process.Initial Process.Step (play ops p) := by
  induction ops generalizing p with
  | nil => exact h
  | cons op ops ih =>
    exact ih (h.next (.returned (Prog.exec_run agree_observed _ _)))

def sampleOperation : PlanOperation := ⟨"op-1", .firewall, "tcp/22", ⟨[]⟩⟩

def sampleApproval : Approval :=
  ⟨"plan-1", 7, "op-1", "tcp/22", "operator",
    (approvalDigest "plan-1" 7 "op-1" "tcp/22" "operator").toOption.getD ""⟩

def sampleRun : List Op :=
  [.begin ⟨"plan-1", 7, "op-1"⟩, .capture ⟨.firewall, []⟩, .simulate (some sampleOperation),
    .approve sampleApproval, .reserve ⟨"plan-1", 3, 7, "nonce", "fingerprint"⟩, .apply, .apply,
    .rollback]

def idle : Process := ⟨.fresh .default StepTimeouts.default_bounded, ⟨⟨⟨0, 0⟩, ∅⟩, []⟩⟩

theorem apply_prepared_once_sampleRun :
    applied (play sampleRun idle).trace.history = ["plan-1"] ∧
    (∀ before request answer after,
      (play sampleRun idle).trace.history =
        before ++ .call (.driver (.apply request)) answer :: after → Prepared before request) ∧
    (applied (play sampleRun idle).trace.history).Nodup :=
  ⟨by decide +kernel,
    apply_prepared_once (play_reachable sampleRun (.start ⟨rfl, .default, StepTimeouts.default_bounded, rfl⟩))⟩

end AntiFlock.Driver.Ordering
