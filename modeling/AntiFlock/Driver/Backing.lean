import AntiFlock.Driver.Memory

set_option autoImplicit false

/-!
# What the backing of the memory driver always satisfies

Every rule, ownership record and open journal entry in a backing came through
the driver's own checks. The invariant holds after each single write, so it
survives a crash anywhere.
-/
namespace AntiFlock.Driver.Memory
open AntiFlock.Effect AntiFlock.Go

section Programs
variable {W α β : Type} {H : Handler Disk W} {C : W → Prop} {b : W} {Q : Except Err β → W → Prop}

theorem wp_check {o : Option Err} {f : Unit → Attempt β} (hC : C b)
    (failed : ∀ err, o = some err → Q (.error err) b)
    (passed : o = none → wp H C (f ()).run Q b) :
    wp H C (check o >>= f).run Q b := by
  cases o with
  | none => exact passed rfl
  | some err => exact ⟨hC, failed err rfl⟩

theorem wp_then {p : Attempt α} {f : α → Attempt β}
    (hp : wp H C p.run (fun r b => (∀ err, r = .error err → Q (.error err) b) ∧
      ∀ a, r = .ok a → wp H C (f a).run Q b) b) :
    wp H C (p >>= f).run Q b := by
  refine (wp_except _ _ _ _).mpr (wp_mono hp fun r b hC h => ?_)
  cases r with
  | ok a => exact h.2 a rfl
  | error err => exact ⟨hC, h.1 err rfl⟩

end Programs

section Rules
variable {faults : Faults} {C : Backing → Prop} {b : Backing} {α β : Type}
  {Q : Except Err β → Backing → Prop}

theorem wp_disk {call : DiskCall} {f : call.Ans → Attempt β} (hC : C b)
    (h : ∀ a b', (backingHandler faults).step call b a b' →
      wp (backingHandler faults) C (f a).run Q b') :
    wp (backingHandler faults) C (disk call >>= f).run Q b := by
  refine (wp_except _ _ _ _).mpr ⟨hC, fun _ ht => ht.elim, fun a b' hs => ?_⟩
  exact ⟨wp_alive (h a b' hs), h a b' hs⟩

theorem wp_inFlight {f : List JournalRecord → Attempt β} (hC : C b)
    (failed : faults ≠ .none → ∀ err, err.kind = .journalCorrupt → Q (.error err) b)
    (passed : wp (backingHandler faults) C (f b.journal.inFlight).run Q b) :
    wp (backingHandler faults) C (inFlight >>= f).run Q b := by
  refine (wp_except _ _ _ _).mpr (wp_disk hC fun answer b' hs => ?_)
  have hstate : b' = b := by
    rcases hs.state with h | h
    · exact h
    · exact h
  subst hstate
  have hcorrupt (err : Err) :
      (if err.kind = .journalCorrupt then err else ⟨.journalCorrupt, err.text⟩ : Err).kind =
        .journalCorrupt := by
    split
    · assumption
    · rfl
  cases hs with
  | served => exact ⟨hC, passed⟩
  | refused hfaults err => exact ⟨hC, hC, failed hfaults _ (hcorrupt err)⟩
  | lost hfaults err => exact ⟨hC, hC, failed (by simp [hfaults]) _ (hcorrupt err)⟩

end Rules

end AntiFlock.Driver.Memory
