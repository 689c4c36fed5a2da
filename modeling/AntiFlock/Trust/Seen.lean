import AntiFlock.Go.Instant
import AntiFlock.Go.Map
import AntiFlock.History
import Mathlib.Data.List.Dedup

set_option autoImplicit false

/-!
# The set of digests seen

`SeenSet` keeps its digests twice, in a linked list with the last one observed in
front and in a map from a digest to its element of the list. Against the history of the
calls it is the set of the last digests observed, as many as its capacity.
-/
namespace AntiFlock.Trust
open AntiFlock.Go AntiFlock.History

/-! ## The set -/

/-- An element of the list, with the address it has. -/
structure Element where
  address : ℕ
  value : String
  deriving DecidableEq

structure SeenSet where
  capacity : ℕ
  order : List Element
  index : Map String ℕ
  /-- No element was given this address or a higher one. -/
  fresh : ℕ

def defaultSeenCapacity : ℕ := 4096

def newSeenSet (capacity : ℤ) : SeenSet where
  capacity := if capacity ≤ 0 then defaultSeenCapacity else capacity.toNat
  order := []
  index := ∅
  fresh := 0

def moveToFront (order : List Element) (address : ℕ) : List Element :=
  order.filter (·.address = address) ++ order.filter (·.address ≠ address)

def remove (order : List Element) (element : Element) : List Element := order.filter (·.address ≠ element.address)

namespace SeenSet

/-- The loop of `Observe`, with at most this number of turns. -/
def evict : ℕ → SeenSet → SeenSet
  | 0, s => s
  | turns + 1, s =>
    match s.order.getLast? with
    | some oldest =>
      if s.capacity < s.order.length then
        evict turns { s with order := remove s.order oldest, index := s.index.erase oldest.value }
      else s
    | none => s

def observe (s : SeenSet) (digest : String) : Bool × SeenSet :=
  match s.index.lookup digest with
  | some address => (true, { s with order := moveToFront s.order address })
  | none =>
    let added : SeenSet := { s with
      order := ⟨s.fresh, digest⟩ :: s.order
      index := s.index.insert digest s.fresh
      fresh := s.fresh + 1 }
    (false, added.evict added.order.length)

def contains (s : SeenSet) (digest : String) : Bool := (s.index.lookup digest).isSome

def digests (s : SeenSet) : List String := s.order.map (·.value)

end SeenSet

inductive Call where
  | observe (digest : String)
  | contains (digest : String)

/-- Each call holds the lock. -/
def step (s : SeenSet) : Call → Bool × SeenSet
  | .observe digest => s.observe digest
  | .contains digest => (s.contains digest, s)

/-! ## The last digests of a history -/

section Recent
variable {α : Type} [DecidableEq α]

/-- The last `n` distinct members, each where it was observed last, beginning with the latest. -/
def recent (n : ℕ) (past : List α) : List α := past.dedup.reverse.take n

theorem dedup_concat (past : List α) (a : α) : (past ++ [a]).dedup = past.dedup.filter (· ≠ a) ++ [a] := by
  induction past with
  | nil => simp
  | cons x past ih =>
    by_cases hmem : x ∈ past
    · rw [List.cons_append, List.dedup_cons_of_mem (List.mem_append_left _ hmem), List.dedup_cons_of_mem hmem]
      exact ih
    · rw [List.dedup_cons_of_notMem hmem]
      by_cases hx : x = a
      · rw [List.cons_append, List.dedup_cons_of_mem (by simp [hx]), List.filter_cons_of_neg (by simp [hx])]
        exact ih
      · rw [List.cons_append, List.dedup_cons_of_notMem (by simp [hmem, hx]), List.filter_cons_of_pos (by simp [hx]),
          List.cons_append, ih]

/-- Without one member, the first `m` are among the first `m + 1`. -/
theorem take_filter_ne {l : List α} (h : l.Nodup) (a : α) (m : ℕ) :
    (l.filter (· ≠ a)).take m = ((l.take (m + 1)).filter (· ≠ a)).take m := by
  induction l generalizing m with
  | nil => simp
  | cons x l ih =>
    obtain ⟨hx, hl⟩ := List.nodup_cons.mp h
    rw [List.take_succ_cons]
    by_cases hxa : x = a
    · have hrest (k : ℕ) : (l.take k).filter (· ≠ a) = l.take k := by
        apply List.filter_eq_self.mpr
        intro y hy
        have hne : y ≠ a := fun hya => hx (hxa ▸ hya ▸ List.mem_of_mem_take hy)
        simpa using hne
      have hall : l.filter (· ≠ a) = l := by simpa using hrest l.length
      rw [List.filter_cons_of_neg (by simp [hxa]), List.filter_cons_of_neg (by simp [hxa]), hall, hrest,
        List.take_take, Nat.min_self]
    · rw [List.filter_cons_of_pos (by simp [hxa]), List.filter_cons_of_pos (by simp [hxa])]
      cases m with
      | zero => rfl
      | succ m => rw [List.take_succ_cons, List.take_succ_cons, ih hl]

theorem recent_concat (n : ℕ) (past : List α) (a : α) :
    recent n (past ++ [a]) = (a :: (recent n past).filter (· ≠ a)).take n := by
  have hnodup : past.dedup.reverse.Nodup := List.nodup_reverse.mpr past.nodup_dedup
  unfold recent
  rw [dedup_concat, List.reverse_append, ← List.filter_reverse]
  cases n with
  | zero => simp
  | succ n =>
    rw [List.reverse_singleton, List.singleton_append, List.take_succ_cons, List.take_succ_cons,
      take_filter_ne hnodup]

end Recent

/-! ## The list and the map agree -/

/-- The map leads each digest to its one element of the list. -/
structure Linked (s : SeenSet) : Prop where
  addresses : (s.order.map (·.address)).Nodup
  once : s.digests.Nodup
  fresh : ∀ element ∈ s.order, element.address < s.fresh
  index : ∀ digest address, s.index.lookup digest = some address ↔ ⟨address, digest⟩ ∈ s.order

theorem linked_newSeenSet (capacity : ℤ) : Linked (newSeenSet capacity) where
  addresses := List.nodup_nil
  once := List.nodup_nil
  fresh := by simp [newSeenSet]
  index := by simp [newSeenSet]

variable {s : SeenSet}

theorem Linked.unique_address (h : Linked s) {a b : Element} (ha : a ∈ s.order) (hb : b ∈ s.order)
    (hab : a.address = b.address) : a = b := List.inj_on_of_nodup_map h.addresses ha hb hab

theorem Linked.unique_value (h : Linked s) {a b : Element} (ha : a ∈ s.order) (hb : b ∈ s.order)
    (hab : a.value = b.value) : a = b := List.inj_on_of_nodup_map h.once ha hb hab

theorem Linked.contains_iff (h : Linked s) (digest : String) : s.contains digest = true ↔ digest ∈ s.digests := by
  unfold SeenSet.contains SeenSet.digests
  rw [Option.isSome_iff_exists, List.mem_map]
  constructor
  · intro hfound
    obtain ⟨address, hlookup⟩ := hfound
    exact ⟨_, (h.index digest address).mp hlookup, rfl⟩
  · intro hfound
    obtain ⟨element, helement, hvalue⟩ := hfound
    subst hvalue
    exact ⟨element.address, (h.index _ _).mpr helement⟩

theorem Linked.keys_perm (h : Linked s) : s.index.keys.Perm s.digests := by
  apply (List.perm_ext_iff_of_nodup s.index.nodupKeys h.once).mpr
  intro digest
  rw [← h.contains_iff digest, SeenSet.contains, AList.lookup_isSome]
  rfl

/-- The element at an address, and what stays of the list without it, by digests. -/
theorem Linked.split (h : Linked s) {element : Element} (helement : element ∈ s.order) :
    s.order.filter (·.address = element.address) = [element] ∧
      (s.order.filter (·.address ≠ element.address)).map (·.value) = s.digests.filter (· ≠ element.value) := by
  have haddress : ∀ a ∈ s.order, decide (a.address = element.address) = decide (a = element) := by
    intro a ha
    have hiff : a.address = element.address ↔ a = element := ⟨h.unique_address ha helement, congrArg _⟩
    simp [hiff]
  have hvalue : ∀ a ∈ s.order, decide (a.address ≠ element.address) = decide (a.value ≠ element.value) := by
    intro a ha
    have hiff : a.address = element.address ↔ a.value = element.value :=
      ⟨fun hab => congrArg _ (h.unique_address ha helement hab), fun hab => congrArg _ (h.unique_value ha helement hab)⟩
    simp [hiff]
  constructor
  · have hnodup : s.order.Nodup := h.addresses.of_map _
    rw [List.filter_congr haddress, List.filter_eq, List.count_eq_one_of_mem hnodup helement]
    rfl
  · unfold SeenSet.digests
    rw [List.filter_congr hvalue, List.filter_map]
    rfl

theorem moveToFront_perm (order : List Element) (address : ℕ) : (moveToFront order address).Perm order := by
  have hsplit := List.filter_append_perm (fun a : Element => decide (a.address = address)) order
  simpa [moveToFront] using hsplit

theorem Linked.moved (h : Linked s) (address : ℕ) : Linked { s with order := moveToFront s.order address } := by
  have hperm := moveToFront_perm s.order address
  constructor
  · exact (hperm.map _).nodup_iff.mpr h.addresses
  · exact (hperm.map _).nodup_iff.mpr h.once
  · intro a ha
    exact h.fresh a (hperm.mem_iff.mp ha)
  · intro digest address
    rw [h.index digest address]
    exact hperm.mem_iff.symm

theorem Linked.added (h : Linked s) {digest : String} (hdigest : digest ∉ s.digests) :
    Linked { s with
      order := ⟨s.fresh, digest⟩ :: s.order
      index := s.index.insert digest s.fresh
      fresh := s.fresh + 1 } := by
  constructor
  · refine List.nodup_cons.mpr ⟨?_, h.addresses⟩
    intro hmem
    obtain ⟨element, helement, haddress⟩ := List.mem_map.mp hmem
    have hlt : element.address < s.fresh := h.fresh element helement
    have hfresh : element.address = s.fresh := haddress
    omega
  · exact List.nodup_cons.mpr ⟨hdigest, h.once⟩
  · intro element helement
    rcases List.mem_cons.mp helement with hnew | hold
    · rw [hnew]
      exact Nat.lt_succ_self _
    · exact Nat.lt_succ_of_lt (h.fresh element hold)
  · intro other address
    rw [Map.lookup_insert_eq_ite, List.mem_cons]
    split
    · rename_i hsame
      subst hsame
      have hnone : (⟨address, other⟩ : Element) ∉ s.order := fun hmem => hdigest (List.mem_map.mpr ⟨_, hmem, rfl⟩)
      simp [hnone, eq_comm]
    · rename_i hother
      rw [h.index other address]
      simp [hother]

/-- One turn of the loop forgets the digest in the back. -/
theorem Linked.evicted (h : Linked s) {oldest : Element} (holdest : s.order.getLast? = some oldest) :
    Linked { s with order := remove s.order oldest, index := s.index.erase oldest.value } ∧
      (remove s.order oldest).map (·.value) = s.digests.dropLast := by
  obtain ⟨front, hfront⟩ := List.getLast?_eq_some_iff.mp holdest
  have hmem : oldest ∈ s.order := by simp [hfront]
  have hremoved : remove s.order oldest = front := by
    have haddresses := h.addresses
    rw [hfront, List.map_append, List.nodup_append] at haddresses
    unfold remove
    rw [hfront, List.filter_append, List.filter_eq_self.mpr, List.filter_eq_nil_iff.mpr, List.append_nil]
    · simp
    · intro a ha
      have hne := haddresses.2.2 a.address (List.mem_map_of_mem ha) oldest.address (by simp)
      simpa using hne
  constructor
  · have hsub : (remove s.order oldest).Sublist s.order := List.filter_sublist
    constructor
    · exact h.addresses.sublist (hsub.map _)
    · exact h.once.sublist (hsub.map _)
    · intro a ha
      exact h.fresh a (hsub.subset ha)
    · intro digest address
      rw [Map.lookup_erase_eq_ite, remove, List.mem_filter]
      split
      · rename_i hsame
        constructor
        · intro hnone
          cases hnone
        · intro hfound
          have hold := h.unique_value hfound.1 hmem hsame
          simp [← hold] at hfound
      · rename_i hother
        rw [h.index digest address]
        constructor
        · intro hfound
          refine ⟨hfound, ?_⟩
          have hne : address ≠ oldest.address := fun haddress =>
            hother (congrArg Element.value (h.unique_address hfound hmem haddress))
          simpa using hne
        · exact And.left
  · rw [hremoved, SeenSet.digests, hfront, List.map_append, List.map_singleton, List.dropLast_concat]

theorem Linked.evict (h : Linked s) (turns : ℕ) (hturns : s.order.length ≤ s.capacity + turns) :
    Linked (s.evict turns) ∧ (s.evict turns).capacity = s.capacity ∧
      (s.evict turns).digests = s.digests.take s.capacity := by
  induction turns generalizing s with
  | zero =>
    have hshort : s.digests.length ≤ s.capacity := by simpa [SeenSet.digests] using hturns
    exact ⟨h, rfl, (List.take_of_length_le hshort).symm⟩
  | succ turns ih =>
    unfold SeenSet.evict
    split
    · rename_i oldest holdest
      obtain ⟨hlinked, hdigests⟩ := h.evicted holdest
      split
      · rename_i hlong
        have hlength : (remove s.order oldest).length = s.order.length - 1 := by
          simpa [SeenSet.digests] using congrArg List.length hdigests
        obtain ⟨hkept, hcapacity, htaken⟩ := ih hlinked (by simp only; omega)
        refine ⟨hkept, hcapacity, htaken.trans ?_⟩
        change ((remove s.order oldest).map (·.value)).take s.capacity = _
        have hbefore : s.capacity ≤ s.digests.length - 1 := by
          simp only [SeenSet.digests, List.length_map]
          omega
        rw [hdigests, List.dropLast_eq_take, List.take_take, Nat.min_eq_left hbefore]
      · rename_i hlong
        have hshort : s.digests.length ≤ s.capacity := by simpa [SeenSet.digests] using hlong
        exact ⟨h, rfl, (List.take_of_length_le hshort).symm⟩
    · rename_i hnone
      have hnil : s.order = [] := List.getLast?_eq_none_iff.mp hnone
      exact ⟨h, rfl, by simp [SeenSet.digests, hnil]⟩

/-- Observing brings the digest to the front. -/
theorem Linked.observe (h : Linked s) (hlength : s.digests.length ≤ s.capacity) (digest : String) :
    ((s.observe digest).1 = true ↔ digest ∈ s.digests) ∧ Linked (s.observe digest).2 ∧
      (s.observe digest).2.capacity = s.capacity ∧
      (s.observe digest).2.digests = (digest :: s.digests.filter (· ≠ digest)).take s.capacity := by
  have hcontains := h.contains_iff digest
  unfold SeenSet.contains at hcontains
  unfold SeenSet.observe
  split
  · rename_i address haddress
    have hmem : digest ∈ s.digests := hcontains.mp (by simp [haddress])
    have helement := (h.index digest address).mp haddress
    obtain ⟨hself, hothers⟩ := h.split helement
    have hmoved : (moveToFront s.order address).map (·.value) = digest :: s.digests.filter (· ≠ digest) := by
      rw [moveToFront, hself, List.map_append, hothers, List.map_singleton, List.singleton_append]
    have hsame : ((moveToFront s.order address).map (·.value)).length = s.digests.length :=
      ((moveToFront_perm s.order address).map _).length_eq
    refine ⟨by simp [hmem], h.moved address, rfl, ?_⟩
    rw [← hmoved, List.take_of_length_le (hsame ▸ hlength)]
    rfl
  · rename_i hnone
    have hmem : digest ∉ s.digests := fun hmem => by simpa [hnone] using hcontains.mpr hmem
    obtain ⟨hlinked, hcapacity, hdigests⟩ := (h.added hmem).evict (s.order.length + 1) (by simp only [List.length_cons]; omega)
    refine ⟨by simp [hmem], hlinked, hcapacity, hdigests.trans ?_⟩
    have hall : s.digests.filter (· ≠ digest) = s.digests := by
      apply List.filter_eq_self.mpr
      intro other hother
      have hne : other ≠ digest := fun hsame => hmem (hsame ▸ hother)
      simpa using hne
    rw [hall]
    rfl

/-! ## Every history -/

abbrev Past := List (Entry SeenSet Call Bool)

def observed (past : Past) : List String := past.filterMap fun e =>
  match e.call with
  | .observe digest => some digest
  | .contains _ => none

/-- The set behind a history. -/
structure Exact (n : ℕ) (past : Past) (s : SeenSet) : Prop where
  linked : Linked s
  capacity : s.capacity = n
  digests : s.digests = recent n (observed past)

theorem Exact.short {n : ℕ} {past : Past} (h : Exact n past s) : s.digests.length ≤ s.capacity := by
  rw [h.digests, h.capacity]
  exact List.length_take_le _ _

theorem exact_step {n : ℕ} {past : Past} (h : Exact n past s) (call : Call) :
    Exact n (past ++ [entry step s call]) (step s call).2 := by
  cases call with
  | observe digest =>
    obtain ⟨-, hlinked, hcapacity, hdigests⟩ := h.linked.observe h.short digest
    refine ⟨hlinked, hcapacity.trans h.capacity, hdigests.trans ?_⟩
    have hobserved : observed (past ++ [entry step s (.observe digest)]) = observed past ++ [digest] := by
      simp [observed, entry]
    rw [hobserved, recent_concat, h.digests, h.capacity]
  | contains digest =>
    have hobserved : observed (past ++ [entry step s (.contains digest)]) = observed past := by simp [observed, entry]
    exact ⟨h.linked, h.capacity, by rw [hobserved]; exact h.digests⟩

theorem exact_run (capacity : ℤ) (calls : List Call) :
    Exact (newSeenSet capacity).capacity (run step (newSeenSet capacity) calls).1 (run step (newSeenSet capacity) calls).2 := by
  apply run_induction
  · exact ⟨linked_newSeenSet capacity, rfl, by simp [recent, observed, newSeenSet, SeenSet.digests]⟩
  · intro past state call h
    exact exact_step h call

/-- What a call answers and changes, by the calls before it. -/
def Answered (n : ℕ) (past : Past) (e : Entry SeenSet Call Bool) : Prop :=
  match e.call with
  | .observe digest => e.answer = true ↔ digest ∈ recent n (observed past)
  | .contains digest => (e.answer = true ↔ digest ∈ recent n (observed past)) ∧ e.after = e.before

/-- The same digests in both places, each of them once and not more than the capacity. -/
structure Consistent (n : ℕ) (s : SeenSet) : Prop where
  order : s.digests.Nodup
  index : s.index.keys.Nodup
  same : s.index.keys.Perm s.digests
  bounded : s.order.length ≤ n

theorem seenSet_exact (capacity : ℤ) (calls : List Call) :
    Consistent (newSeenSet capacity).capacity (run step (newSeenSet capacity) calls).2 ∧
      ∀ past e rest, (run step (newSeenSet capacity) calls).1 = past ++ e :: rest →
        Answered (newSeenSet capacity).capacity past e := by
  constructor
  · have h := exact_run capacity calls
    have hshort := h.short
    rw [h.capacity, SeenSet.digests, List.length_map] at hshort
    exact ⟨h.linked.once, AList.keys_nodup _, h.linked.keys_perm, hshort⟩
  · intro past e rest hsplit
    obtain ⟨earlier, hearlier, hstep⟩ := run_split hsplit
    have h := exact_run capacity earlier
    rw [hearlier] at h
    unfold Answered
    cases hcall : e.call with
    | observe digest =>
      rw [hcall] at hstep
      have hanswer := (h.linked.observe h.short digest).1
      have hsame : (e.before.observe digest).1 = e.answer := congrArg Prod.fst hstep
      rw [hsame, h.digests] at hanswer
      exact hanswer
    | contains digest =>
      rw [hcall] at hstep
      have hanswer := h.linked.contains_iff digest
      have hsame : e.before.contains digest = e.answer := congrArg Prod.fst hstep
      have hafter : e.before = e.after := congrArg Prod.snd hstep
      rw [hsame, h.digests] at hanswer
      exact ⟨hanswer, hafter.symm⟩

/-! ## Receipts that come again -/

def taintStale : UInt32 := 128
def taintReplayed : UInt32 := 256

structure Freshness where
  maxAge : ℤ
  skew : ℤ

/-- `Sub`, which stops at the longest durations there are. -/
def elapsed (now since : Instant) : ℤ := max (-2 ^ 63) (min (2 ^ 63 - 1) (now - since))

def Freshness.check (f : Freshness) (digest : String) (issuedAt expiresAt now : Instant) (seen : SeenSet) :
    UInt32 × SeenSet :=
  let issued := if issuedAt.isZero then taintStale
    else if now + f.skew < issuedAt then taintStale
    else if 0 < f.maxAge ∧ f.maxAge < elapsed now issuedAt then taintStale
    else 0
  let expired := if !expiresAt.isZero && expiresAt < now - f.skew then taintStale else 0
  let observed := seen.observe digest
  (issued ||| expired ||| (if observed.1 then taintReplayed else 0), observed.2)

end AntiFlock.Trust
