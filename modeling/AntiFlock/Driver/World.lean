import AntiFlock.Driver.Rules

set_option autoImplicit false

/-!
# A lifecycle over its stores and a driver

The stores are the in-memory ones of the source; the driver is any machine that
answers driver calls. Store calls may be refused before or fail after taking
effect, as far as `Faults` allows, and a process may die at any durable effect.
-/
namespace AntiFlock.Driver
open AntiFlock.Effect

@[reducible] def DriverSig : Sig := ⟨DriverCall, DriverCall.Ans⟩

/-- A driver: its calls, and what a fresh instance over the same durable state starts with. -/
structure DriverModel (D : Type) where
  calls : Handler DriverSig D
  reopen : D → D → Prop

structure Stores where
  journal : JournalState
  reservations : ReservationStore
  receipts : ReceiptStore

namespace Stores

def write (s : Stores) : Except Err JournalState → Except Err Unit × Stores
  | .error err => (.error err, s)
  | .ok journal => (.ok (), { s with journal := journal })

/-- What a store call does undisturbed; `issuedAt` is the reservation store's clock. -/
def serve (s : Stores) (issuedAt : Time) : (call : StoreCall) → call.Ans × Stores
  | .journalBegin record => s.write (s.journal.begin_ record)
  | .journalAdvance record => s.write (s.journal.advance record)
  | .journalFinish record => s.write (s.journal.finish record)
  | .journalInFlight => (.ok s.journal.inFlight, s)
  | .journalRecords => (.ok s.journal.records, s)
  | .reserve key =>
    ((s.reservations.reserve issuedAt key).1,
      { s with reservations := (s.reservations.reserve issuedAt key).2 })
  | .release token terminal result =>
    ((s.reservations.release token terminal result).1,
      { s with reservations := (s.reservations.release token terminal result).2 })
  | .appendReceipt receipt =>
    ((s.receipts.append receipt).1, { s with receipts := (s.receipts.append receipt).2 })

end Stores

structure World (D : Type) where
  stores : Stores
  driver : D

variable {D α : Type}

/-- The ports of a lifecycle over a driver. Undisturbed clocks never read the zero time. -/
def ports (drv : DriverModel D) (faults : Faults) : Handler Port (World D) where
  step
    | .clock, w, now, w' => w' = w ∧ (faults = .none → now ≠ 0)
    | .store call, w, answer, w' => ∃ issuedAt s', (faults = .none → issuedAt ≠ 0) ∧
        Served faults (w.stores.serve issuedAt call) w.stores answer s' ∧ w' = ⟨s', w.driver⟩
    | .driver call, w, answer, w' => ∃ d', drv.calls.step call w.driver answer d' ∧
        w' = ⟨w.stores, d'⟩
  torn
    | .clock, _, _ => False
    | .store call, w, w' => ∃ issuedAt, w' = ⟨(w.stores.serve issuedAt call).2, w.driver⟩
    | .driver call, w, w' => ∃ d', drv.calls.torn call w.driver d' ∧ w' = ⟨w.stores, d'⟩

structure Process (D : Type) where
  lifecycle : Lifecycle
  world : World D

/-- A call is cut short and a fresh process starts over what is left. -/
inductive Process.Dies (drv : DriverModel D) (faults : Faults) (p : Process D) : Process D → Prop where
  | mk {op : Op} {w : World D} {d : D} {timeouts : StepTimeouts} (bounded : timeouts.validate = none)
      (h : Exec (ports drv faults) (op.perform p.lifecycle) p.world none w)
      (reopened : drv.reopen w.driver d) :
      Dies drv faults p ⟨.fresh timeouts bounded, ⟨w.stores, d⟩⟩

inductive Process.Step (drv : DriverModel D) (faults : Faults) : Process D → Process D → Prop where
  | returned {p : Process D} {op : Op} {err : Option Err} {lc : Lifecycle} {w : World D}
      (h : Exec (ports drv faults) (op.perform p.lifecycle) p.world (some (err, lc)) w) :
      Step drv faults p ⟨lc, w⟩
  | died {p q : Process D} (h : p.Dies drv faults q) : Step drv faults p q

def Process.Initial (p : Process D) : Prop :=
  p.world.stores.journal.records = [] ∧ p.world.stores.reservations.records = ∅ ∧
    p.world.stores.receipts = ⟨[], []⟩ ∧
    ∃ timeouts bounded, p.lifecycle = .fresh timeouts bounded

section Calls
variable {drv : DriverModel D} {faults : Faults} {C : World D → Prop} {w : World D}

theorem wp_clock (hC : C w) : wp (ports drv faults) C clock
    (fun now w' => w' = w ∧ (faults = .none → now ≠ 0)) w := by
  refine ⟨hC, fun w' h => h.elim, ?_⟩
  rintro now w' ⟨rfl, hnow⟩
  exact ⟨hC, rfl, hnow⟩

theorem wp_store {call : StoreCall} (hC : C w)
    (keep : ∀ issuedAt, C ⟨(w.stores.serve issuedAt call).2, w.driver⟩) :
    wp (ports drv faults) C (store call) (fun answer w' => ∃ issuedAt s',
      (faults = .none → issuedAt ≠ 0) ∧
      Served faults (w.stores.serve issuedAt call) w.stores answer s' ∧ w' = ⟨s', w.driver⟩) w := by
  refine ⟨hC, ?_, ?_⟩
  · rintro w' ⟨issuedAt, rfl⟩
    exact keep issuedAt
  · rintro answer w' ⟨issuedAt, s', hnow, hserved, rfl⟩
    refine ⟨?_, issuedAt, s', hnow, hserved, rfl⟩
    rcases hserved.state with rfl | rfl
    · exact hC
    · exact keep issuedAt

theorem wp_driver {call : DriverCall} (hC : C w)
    (step : ∀ answer d', drv.calls.step call w.driver answer d' → C ⟨w.stores, d'⟩)
    (torn : ∀ d', drv.calls.torn call w.driver d' → C ⟨w.stores, d'⟩) :
    wp (ports drv faults) C (driver call) (fun answer w' => ∃ d',
      drv.calls.step call w.driver answer d' ∧ w' = ⟨w.stores, d'⟩) w := by
  refine ⟨hC, ?_, ?_⟩
  · rintro w' ⟨d', hd, rfl⟩
    exact torn d' hd
  · rintro answer w' ⟨d', hd, rfl⟩
    exact ⟨step answer d' hd, d', hd, rfl⟩

end Calls

theorem reachable_world {drv : DriverModel D} {faults : Faults} {init : Process D → Prop}
    {I : World D → Prop} (start : ∀ p, init p → I p.world)
    (store : ∀ w issuedAt call, I w → I ⟨(w.stores.serve issuedAt call).2, w.driver⟩)
    (driver : ∀ w call answer d, I w → drv.calls.step call w.driver answer d → I ⟨w.stores, d⟩)
    (torn : ∀ w call d, I w → drv.calls.torn call w.driver d → I ⟨w.stores, d⟩)
    (reopen : ∀ w d, I w → drv.reopen w.driver d → I ⟨w.stores, d⟩)
    {p : Process D} (h : Reachable init (Process.Step drv faults) p) : I p.world := by
  have hwp (op : Op) (lc : Lifecycle) (w : World D) (hw : I w) :
      wp (ports drv faults) I (op.perform lc) (fun _ w' => I w') w := by
    refine wp_invariant _ w hw ?_ ?_
    · intro q w r w' hw hs
      cases q with
      | clock => rw [hs.1]; exact hw
      | driver call =>
        obtain ⟨d, hd, rfl⟩ := hs
        exact driver w call r d hw hd
      | store call =>
        obtain ⟨issuedAt, s, -, hserved, rfl⟩ := hs
        rcases hserved.state with rfl | rfl
        · exact hw
        · exact store w issuedAt call hw
    · intro q w w' hw ht
      cases q with
      | clock => exact ht.elim
      | driver call =>
        obtain ⟨d, hd, rfl⟩ := ht
        exact torn w call d hw hd
      | store call =>
        obtain ⟨issuedAt, rfl⟩ := ht
        exact store w issuedAt call hw
  refine h.invariant (I := fun p => I p.world) start ?_
  intro p q hp hstep
  cases hstep with
  | returned hexec => exact hexec.of_wp (hwp _ _ _ hp)
  | died hdies =>
    obtain ⟨-, hexec, hreopened⟩ := hdies
    exact reopen _ _ (hexec.of_wp (hwp _ _ _ hp)) hreopened

end AntiFlock.Driver
