import AntiFlock.Effect.Logic
import Mathlib.Data.List.Basic

set_option autoImplicit false

/-!
# Programs that run side by side

A pool holds a world and what is left of every program that was started. One
thread at a time makes its next request; what it does next depends on answers
that may be outdated by then. `Ok H I R G Q w p` says that `p`, having last seen
the world `w`, keeps the invariant `I`, guarantees `G` with each of its requests
and returns only what `Q` allows, as long as the world moves along `R` when others
act.
-/
namespace AntiFlock.Effect
variable {S : Sig} {W α β : Type}

namespace Prog

/-- The program with its requests made through another interface. -/
def via {T : Sig} (impl : (q : S.Req) → Prog T (S.Ans q)) : Prog S α → Prog T α
  | .ret a => .ret a
  | .call q k => (impl q).bind fun r => (k r).via impl

theorem via_bind {T : Sig} (impl : (q : S.Req) → Prog T (S.Ans q)) (p : Prog S α) (f : α → Prog S β) :
    (p.bind f).via impl = (p.via impl).bind fun a => (f a).via impl := by
  induction p with
  | ret a => rfl
  | call q k ih =>
    rw [call_bind, via, via, bind_assoc]
    exact congrArg _ (funext ih)

/-- Everything the program can return satisfies `P`. -/
def Returns (P : α → Prop) : Prog S α → Prop
  | .ret a => P a
  | .call _ k => ∀ r, (k r).Returns P

theorem Returns.bind {P : β → Prop} {p : Prog S α} {f : α → Prog S β} (hf : ∀ a, (f a).Returns P) :
    (p.bind f).Returns P := by
  induction p with
  | ret a => exact hf a
  | call q k ih => exact fun r => ih r

theorem Returns.via {T : Sig} {impl : (q : S.Req) → Prog T (S.Ans q)} {P : α → Prop} {p : Prog S α} (h : p.Returns P) :
    (p.via impl).Returns P := by
  induction p with
  | ret a => exact h
  | call q k ih => exact .bind fun r => ih r (h r)

theorem returns_true (p : Prog S α) : p.Returns fun _ => True := by
  induction p with
  | ret a => trivial
  | call q k ih => exact ih

theorem via_except {T : Sig} {ε : Type} (impl : (q : S.Req) → Prog T (S.Ans q)) (p : ExceptT ε (Prog S) α)
    (f : α → ExceptT ε (Prog S) β) : (p >>= f).run.via impl = (p.run.via impl).bind fun
      | .ok a => (f a).run.via impl
      | .error err => .ret (.error err) := by
  change (Prog.bind p.run (ExceptT.bindCont f)).via impl = _
  rw [via_bind]
  congr 1
  funext r
  cases r with
  | ok a => rfl
  | error err => rfl

end Prog

/-- A world and the threads that run in it. A thread that has returned stays. -/
structure Pool (S : Sig) (W α : Type) where
  world : W
  threads : List (Prog S α)

def Pool.Returned (c : Pool S W α) (i : ℕ) (a : α) : Prop := c.threads[i]? = some (.ret a)

def Pool.result (c : Pool S W α) (i : ℕ) : Option α :=
  match c.threads[i]? with
  | some (.ret a) => some a
  | _ => none

theorem Pool.result_eq_some {c : Pool S W α} {i : ℕ} {a : α} : c.result i = some a ↔ c.Returned i a := by
  unfold Pool.result Pool.Returned
  split
  · rename_i b hthread
    simp [hthread]
  · rename_i hthread
    constructor
    · rintro ⟨⟩
    · intro h
      exact absurd h (hthread a)

def Pool.Idle (c : Pool S W α) : Prop := ∀ i < c.threads.length, (c.result i).isSome = true

instance (c : Pool S W α) : Decidable c.Idle := inferInstanceAs (Decidable (∀ i < _, _))

theorem Pool.Idle.returned {c : Pool S W α} (h : c.Idle) {i : ℕ} (hi : i < c.threads.length) : ∃ a, c.Returned i a := by
  obtain ⟨a, ha⟩ := Option.isSome_iff_exists.mp (h i hi)
  exact ⟨a, Pool.result_eq_some.mp ha⟩

/-- A program is started, or a thread makes its next request. -/
inductive Pool.Step (H : ℕ → Handler S W) (starts : Prog S α → Prop) : Pool S W α → Pool S W α → Prop where
  | start {w : W} {ps : List (Prog S α)} {p : Prog S α} (h : starts p) :
      Pool.Step H starts ⟨w, ps⟩ ⟨w, ps ++ [p]⟩
  | request {w w' : W} {ps : List (Prog S α)} {i : ℕ} {q : S.Req} {k : S.Ans q → Prog S α} {r : S.Ans q}
      (hp : ps[i]? = some (.call q k)) (h : (H i).step q w r w') :
      Pool.Step H starts ⟨w, ps⟩ ⟨w', ps.set i (k r)⟩

section Rule
variable (H : Handler S W) (I : W → Prop) (R G : W → W → Prop)

def Ok (Q : W → α → Prop) : W → Prog S α → Prop
  | seen, .ret a => Q seen a
  | seen, .call q k => ∀ w, R seen w → I w → ∀ r w', H.step q w r w' → G w w' ∧ I w' ∧ Ok Q w' (k r)

variable {H I R G} {Q : W → α → Prop}

theorem ok_bind {P : W → β → Prop} {seen : W} {p : Prog S β} {f : β → Prog S α} (hp : Ok H I R G P seen p)
    (hf : ∀ w a, P w a → Ok H I R G Q w (f a)) : Ok H I R G Q seen (p.bind f) := by
  induction p generalizing seen with
  | ret a => exact hf seen a hp
  | call q k ih =>
    intro w hw hI r w' hstep
    obtain ⟨hG, hI', hrest⟩ := hp w hw hI r w' hstep
    exact ⟨hG, hI', ih r hrest⟩

theorem ok_mono {P : W → α → Prop} {seen : W} {p : Prog S α} (hp : Ok H I R G P seen p)
    (hPQ : ∀ w a, P w a → Q w a) : Ok H I R G Q seen p := by
  induction p generalizing seen with
  | ret a => exact hPQ seen a hp
  | call q k ih =>
    intro w hw hI r w' hstep
    obtain ⟨hG, hI', hrest⟩ := hp w hw hI r w' hstep
    exact ⟨hG, hI', ih r hrest⟩

theorem ok_except {ε : Type} {P : W → Except ε β → Prop} {Q : W → Except ε α → Prop} {seen : W}
    {p : ExceptT ε (Prog S) β} {f : β → ExceptT ε (Prog S) α} (hp : Ok H I R G P seen p.run)
    (herr : ∀ w err, P w (.error err) → Q w (.error err))
    (hf : ∀ w b, P w (.ok b) → Ok H I R G Q w (f b).run) : Ok H I R G Q seen (p >>= f).run := by
  refine ok_bind hp fun w r hr => ?_
  cases r with
  | ok b => exact hf w b hr
  | error err => exact herr w err hr

/-- A program whose requests may be made at any time. What holds at its start and is kept by others
and by each of its requests holds at its end. -/
theorem ok_only {P : S.Req → Prop} {A : α → Prop} {K : W → Prop} {seen : W} {p : Prog S α} (hp : p.Only P)
    (hA : p.Returns A) (hK : K seen) (others : ∀ {u v}, R u v → K u → K v)
    (each : ∀ q w r w', P q → I w → H.step q w r w' → G w w' ∧ I w' ∧ (K w → K w')) :
    Ok H I R G (fun w a => K w ∧ A a) seen p := by
  induction p generalizing seen with
  | ret a => exact ⟨hK, hA⟩
  | call q k ih =>
    intro w hw hI r w' hstep
    obtain ⟨hG, hI', hkeep⟩ := each q w r w' hp.1 hI hstep
    exact ⟨hG, hI', ih r (hp.2 r) (hA r) (hkeep (others hw hK))⟩

end Rule

/-- What holds of a pool: the invariant, and that every thread is right from some world it has seen. -/
structure Pool.Good (H : ℕ → Handler S W) (I : W → Prop) (R G : ℕ → W → W → Prop) (Q : ℕ → W → α → Prop)
    (c : Pool S W α) : Prop where
  invariant : I c.world
  threads : ∀ i p, c.threads[i]? = some p → ∃ seen, R i seen c.world ∧ Ok (H i) I (R i) (G i) (Q i) seen p

section Run
variable {H : ℕ → Handler S W} {I : W → Prop} {R G : ℕ → W → W → Prop} {Q : ℕ → W → α → Prop}
  {starts : Prog S α → Prop}

/-- What holds of the world before a thread is started. -/
def Pool.Fresh (F : ℕ → W → Prop) (c : Pool S W α) : Prop := ∀ i, c.threads.length ≤ i → F i c.world

/-- A step of a good pool keeps it good, where programs are started from what no thread has spoilt for
them. It leaves the world alone, or a thread does what it guarantees. -/
theorem Pool.Step.good_fresh {F : ℕ → W → Prop} (refl : ∀ i w, R i w w)
    (trans : ∀ {i u v w}, R i u v → R i v w → R i u w) (grow : ∀ {i j u v}, i ≠ j → G i u v → R j u v)
    (keep : ∀ {i j u v}, i ≠ j → G i u v → F j u → F j v)
    (hstarts : ∀ i p, starts p → ∀ w, I w → F i w → Ok (H i) I (R i) (G i) (Q i) w p) {c c' : Pool S W α}
    (h : Pool.Step H starts c c') (hc : c.Good H I R G Q) (hF : c.Fresh F) :
    c'.Good H I R G Q ∧ c'.Fresh F ∧ (c'.world = c.world ∨ ∃ i, G i c.world c'.world) := by
  cases h with
  | @start w ps p hp =>
    refine ⟨⟨hc.invariant, fun i p' hp' => ?_⟩, fun i hi => hF i ?_, .inl rfl⟩
    · rcases Nat.lt_or_ge i ps.length with hi | hi
      · rw [List.getElem?_append_left hi] at hp'
        exact hc.threads i p' hp'
      · rw [List.getElem?_append_right hi, List.getElem?_singleton] at hp'
        split at hp'
        · cases hp'
          exact ⟨w, refl i w, hstarts i p hp w hc.invariant (hF i hi)⟩
        · cases hp'
    · rw [List.length_append] at hi
      exact Nat.le_trans (Nat.le_add_right _ _) hi
  | @request w w' ps i q k r hp hstep =>
    obtain ⟨seen, hseen, hok⟩ := hc.threads i _ hp
    obtain ⟨hG, hI, hrest⟩ := hok w hseen hc.invariant r w' hstep
    have hlt : i < ps.length := (List.getElem?_eq_some_iff.mp hp).1
    refine ⟨⟨hI, fun j p' hp' => ?_⟩, fun j hj => ?_, .inr ⟨i, hG⟩⟩
    · by_cases hij : i = j
      · subst hij
        rw [List.getElem?_set_self hlt, Option.some.injEq] at hp'
        subst hp'
        exact ⟨w', refl i w', hrest⟩
      · -- another thread has seen what it had seen before, and the world has moved along its rely
        rw [List.getElem?_set_ne hij] at hp'
        obtain ⟨seen', hseen', hok'⟩ := hc.threads j p' hp'
        exact ⟨seen', trans hseen' (grow hij hG), hok'⟩
    · rw [List.length_set] at hj
      exact keep (Nat.ne_of_lt (Nat.lt_of_lt_of_le hlt hj)) hG (hF j hj)

theorem Pool.Step.good (refl : ∀ i w, R i w w) (trans : ∀ {i u v w}, R i u v → R i v w → R i u w)
    (grow : ∀ {i j u v}, i ≠ j → G i u v → R j u v)
    (hstarts : ∀ i p, starts p → ∀ w, I w → Ok (H i) I (R i) (G i) (Q i) w p) {c c' : Pool S W α}
    (h : Pool.Step H starts c c') (hc : c.Good H I R G Q) :
    c'.Good H I R G Q ∧ (c'.world = c.world ∨ ∃ i, G i c.world c'.world) := by
  obtain ⟨hgood, -, hworld⟩ := h.good_fresh (F := fun _ _ => True) refl trans grow (fun _ _ _ => trivial)
    (fun i p hp w hw _ => hstarts i p hp w hw) hc fun _ _ => trivial
  exact ⟨hgood, hworld⟩

theorem Pool.good_of_reachable (refl : ∀ i w, R i w w) (trans : ∀ {i u v w}, R i u v → R i v w → R i u w)
    (grow : ∀ {i j u v}, i ≠ j → G i u v → R j u v)
    (hstarts : ∀ i p, starts p → ∀ w, I w → Ok (H i) I (R i) (G i) (Q i) w p) {init : Pool S W α → Prop}
    (hinit : ∀ c, init c → c.Good H I R G Q) {c : Pool S W α} (h : Reachable init (Pool.Step H starts) c) :
    c.Good H I R G Q :=
  h.invariant hinit fun _ _ hc hstep => (hstep.good refl trans grow hstarts hc).1

theorem Pool.Good.returned {c : Pool S W α} (hc : c.Good H I R G Q) {i : ℕ} {a : α} (h : c.Returned i a)
    (stable : ∀ {u v}, R i u v → Q i u a → Q i v a) : Q i c.world a := by
  obtain ⟨seen, hseen, hok⟩ := hc.threads i _ h
  exact stable hseen hok

theorem Pool.reachable_run {init : Pool S W α → Prop} {f : (q : S.Req) → W → S.Ans q × W} {i : ℕ}
    (hf : ∀ q w, (H i).step q w (f q w).1 (f q w).2) {w : W} {ps : List (Prog S α)} {p : Prog S α}
    (h : Reachable init (Pool.Step H starts) ⟨w, ps⟩) (hp : ps[i]? = some p) :
    Reachable init (Pool.Step H starts) ⟨(p.run f w).2, ps.set i (.ret (p.run f w).1)⟩ := by
  induction p generalizing w ps with
  | ret a =>
    obtain ⟨hi, hget⟩ := List.getElem?_eq_some_iff.mp hp
    change Reachable init _ ⟨w, ps.set i (.ret a)⟩
    rwa [← hget, List.set_getElem_self hi]
  | call q k ih =>
    have hi := (List.getElem?_eq_some_iff.mp hp).1
    have hrest := ih (f q w).1 (h.next (.request hp (hf q w))) (List.getElem?_set_self hi)
    rwa [List.set_set] at hrest

theorem Pool.reachable_call {init : Pool S W α → Prop} {f : ℕ → (q : S.Req) → W → S.Ans q × W}
    (hf : ∀ i q w, (H i).step q w (f i q w).1 (f i q w).2) {w : W} {ps : List (Prog S α)} {p : Prog S α} (hp : starts p)
    (h : Reachable init (Pool.Step H starts) ⟨w, ps⟩) :
    Reachable init (Pool.Step H starts) ⟨(p.run (f ps.length) w).2, ps ++ [.ret (p.run (f ps.length) w).1]⟩ := by
  have hrun := Pool.reachable_run (hf ps.length) (h.next (.start hp)) (List.getElem?_concat_length)
  rwa [List.set_append_right _ _ (Nat.le_refl _), Nat.sub_self] at hrun

/-- Thread `i` makes its next request, if it has one. -/
def Pool.advance (f : ℕ → (q : S.Req) → W → S.Ans q × W) (c : Pool S W α) (i : ℕ) : Pool S W α :=
  match c.threads[i]? with
  | some (.call q k) => ⟨(f i q c.world).2, c.threads.set i (k (f i q c.world).1)⟩
  | _ => c

theorem Pool.reachable_advance {init : Pool S W α → Prop} {f : ℕ → (q : S.Req) → W → S.Ans q × W}
    (hf : ∀ i q w, (H i).step q w (f i q w).1 (f i q w).2) (schedule : List ℕ) {c : Pool S W α}
    (h : Reachable init (Pool.Step H starts) c) :
    Reachable init (Pool.Step H starts) (schedule.foldl (Pool.advance f) c) := by
  induction schedule generalizing c with
  | nil => exact h
  | cons i schedule ih =>
    refine ih ?_
    unfold Pool.advance
    split
    · rename_i q k hthread
      exact h.next (.request hthread (hf i q c.world))
    · exact h

theorem Pool.good_nil {w : W} (h : I w) : (⟨w, []⟩ : Pool S W α).Good H I R G Q :=
  ⟨h, fun _ _ hp => by simp at hp⟩

end Run
end AntiFlock.Effect
