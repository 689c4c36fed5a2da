import AntiFlock.Go.Calendar
import AntiFlock.Nano.Evaluate

set_option autoImplicit false

/-!
# Proposals

The intents of an evaluation become proposals for the action gate. The identifier
of a proposal is a truncated digest of the program, the input, the binding, the
timestamp and the position of the intent; the text that is digested determines the
last two.
-/
namespace AntiFlock.Nano
open AntiFlock.Go

structure ProposalBinding where
  actionType : String
  destination : String
  dataClass : String

def admittedBindings : List (String × ProposalBinding) :=
  [("scrambler-simulation-v1", ⟨"scrambler.simulate", "local://scrambler/simulation", "network-control"⟩),
    ("fixture-shodan-query-v1", ⟨"watchdog.public_surface.query", "provider://fixture-shodan", "owned-public-surface"⟩),
    ("fixture-broker-query-v1",
      ⟨"watchdog.public_surface.query", "provider://fixture-broker-registry", "owned-public-surface"⟩),
    ("fixture-paste-query-v1",
      ⟨"watchdog.public_surface.query", "provider://fixture-paste-reference", "owned-public-surface"⟩),
    ("countermeasure-plan-v1", ⟨"watchdog.countermeasure.plan", "local://countermeasure/plan", "owned-public-surface"⟩)]

structure SecureActionProposal where
  id : String
  applicationID : String
  nodeID : String
  actionType : String
  destinations : List String
  dataClass : String
  sensitivity : String
  deadline : Instant
  operationID : String
  bindingID : String
  programDigest : String
  inputDigest : String

def digestString (value : String) : Bool :=
  len value = 71 && hasPrefix value "sha256:" && ((bytes value).drop 7).all hexByte

def isOpaque (value : String) : Bool :=
  value ≠ "" && len value ≤ 128 && trimSpace value = value &&
    (bytes value).all fun b => between 'a' 'z' b || between 'A' 'Z' b || between '0' '9' b || b = 46 || b = 95 || b = 45

def proposalFront (programDigest inputDigest bindingID : String) : String :=
  "AntiFlock-Nano-Proposal-v1\x00" ++ programDigest ++ "\x00" ++ inputDigest ++ "\x00" ++ bindingID

def proposalSeed (programDigest inputDigest bindingID : String) (timestamp : Int64) (index : ℕ) : String :=
  proposalFront programDigest inputDigest bindingID ++ "\x00" ++ toString timestamp.toInt ++ "\x00" ++ toString index

def suffix (seed : String) : String := hexEncode ((Sha256.sum256 (bytes seed)).take 16)

section Build
variable (binding : ProposalBinding) (bindingID programDigest inputDigest nodeID : String) (deadline : Instant)

def proposal (seed : String) : SecureActionProposal where
  id := "nano-action-" ++ suffix seed
  applicationID := "antiflock-nano"
  nodeID := nodeID
  actionType := binding.actionType
  destinations := [binding.destination]
  dataClass := binding.dataClass
  sensitivity := "SENSITIVITY_OPERATOR_PRIVATE"
  deadline := deadline
  operationID := "nano-operation-" ++ suffix seed
  bindingID := bindingID
  programDigest := programDigest
  inputDigest := inputDigest

def propose (intent : EmittedIntent) (index : ℕ) : Except Err (Option SecureActionProposal) :=
  if intent.action = .observe then .ok none
  else if intent.action ≠ .execute ∨ deadline ≤ Instant.unix intent.timestamp then .error (.admissionDenied "")
  else .ok (some (proposal binding bindingID programDigest inputDigest nodeID deadline
    (proposalSeed programDigest inputDigest bindingID intent.timestamp index)))

end Build

def buildProposals (result : EvaluationResult) (bindingID programDigest inputDigest nodeID : String)
    (deadline : Instant) : Except Err (List SecureActionProposal) :=
  match admittedBindings.lookup bindingID with
  | none => .error (.admissionDenied "")
  | some binding =>
    if !digestString programDigest || !digestString inputDigest || !isOpaque nodeID then .error (.admissionDenied "")
    else if ¬ deadline.Parses then .error (.plain "nano proposal deadline must be RFC3339")
    else do
      let proposals ← result.intents.zipIdx.mapM fun entry =>
        propose binding bindingID programDigest inputDigest nodeID deadline entry.1 entry.2
      pure (proposals.filterMap id)

/-! ## Identifiers -/

theorem append_cons_inj {α : Type} {a b x y : List α} {c : α} (hx : c ∉ x) (hy : c ∉ y)
    (h : a ++ c :: x = b ++ c :: y) : a = b ∧ x = y := by
  induction a generalizing b with
  | nil =>
    cases b with
    | nil => exact ⟨rfl, (List.cons.inj h).2⟩
    | cons d b =>
      obtain ⟨rfl, hrest⟩ := List.cons.inj h
      exact absurd (show c ∈ x by rw [hrest]; simp) hx
  | cons d a ih =>
    cases b with
    | nil =>
      obtain ⟨rfl, hrest⟩ := List.cons.inj h
      exact absurd (show d ∈ y by rw [← hrest]; simp) hy
    | cons e b =>
      obtain ⟨rfl, hrest⟩ := List.cons.inj h
      obtain ⟨rfl, hxy⟩ := ih hrest
      exact ⟨rfl, hxy⟩

theorem nul_not_mem_numeral (n : ℕ) : '\x00' ∉ (toString n).toList := by
  intro h
  exact absurd (numeral_digit h) (by decide)

theorem nul_not_mem_integer (i : ℤ) : '\x00' ∉ (toString i).toList := by
  rcases integer_chars i with ⟨n, -, hn⟩ | ⟨n, -, hn⟩
  · rw [hn]
    exact nul_not_mem_numeral n
  · rw [hn]
    simpa using nul_not_mem_numeral n

theorem proposalSeed_inj {d d' i i' b b' : String} {t t' : Int64} {index index' : ℕ}
    (h : proposalSeed d i b t index = proposalSeed d' i' b' t' index') : t = t' ∧ index = index' := by
  have hnul : "\x00".toList = ['\x00'] := rfl
  have hchars := congrArg String.toList h
  simp only [proposalSeed, String.toList_append, hnul, List.append_assoc, List.singleton_append] at hchars
  -- cut at the last two separators; what stands before them does not matter
  obtain ⟨hfront, hindex⟩ := append_cons_inj (nul_not_mem_numeral index) (nul_not_mem_numeral index')
    (a := (proposalFront d i b).toList ++ '\x00' :: (toString t.toInt).toList)
    (b := (proposalFront d' i' b').toList ++ '\x00' :: (toString t'.toInt).toList) (by simpa using hchars)
  obtain ⟨-, htime⟩ := append_cons_inj (nul_not_mem_integer t.toInt) (nul_not_mem_integer t'.toInt) hfront
  exact ⟨Int64.toInt_inj.mp (integer_inj (String.toList_injective htime)), numeral_inj (String.toList_injective hindex)⟩

def proposalID (seed : String) : String := "nano-action-" ++ suffix seed

theorem proposalID_inj {seed seed' : String} (h : proposalID seed = proposalID seed') :
    (Sha256.sum256 (bytes seed)).take 16 = (Sha256.sum256 (bytes seed')).take 16 := by
  have hchars := congrArg String.toList h
  simp only [proposalID, String.toList_append] at hchars
  exact hexEncode_inj (String.toList_injective (List.append_cancel_left hchars))

def seeds (programDigest inputDigest bindingID : String) (intents : List EmittedIntent) : List String :=
  intents.zipIdx.map fun entry => proposalSeed programDigest inputDigest bindingID entry.1.timestamp entry.2

theorem nodup_seeds (programDigest inputDigest bindingID : String) (intents : List EmittedIntent) :
    (seeds programDigest inputDigest bindingID intents).Nodup := by
  have hindex : (intents.zipIdx.map Prod.snd).Nodup := by
    rw [List.zipIdx_map_snd]
    exact List.nodup_range'
  refine List.Nodup.map_on ?_ hindex.of_map
  intro entry hentry entry' hentry' hseed
  exact List.inj_on_of_nodup_map hindex hentry hentry' (proposalSeed_inj hseed).2

theorem filterMap_sublist_of_mapM {α β γ ε : Type} {f : α → Except ε (Option β)} {g : α → γ} {h : β → γ}
    (hfg : ∀ x y, f x = .ok (some y) → h y = g x) {xs : List α} {ys : List (Option β)} (hys : xs.mapM f = .ok ys) :
    ((ys.filterMap id).map h).Sublist (xs.map g) := by
  induction xs generalizing ys with
  | nil =>
    cases hys
    exact .slnil
  | cons x xs ih =>
    rw [List.mapM_cons] at hys
    cases hx : f x with
    | error err =>
      rw [hx] at hys
      cases hys
    | ok y =>
      cases hrest : xs.mapM f with
      | error err =>
        rw [hx, hrest] at hys
        cases hys
      | ok rest =>
        rw [hx, hrest] at hys
        cases hys
        cases y with
        | none => exact (ih hrest).cons _
        | some y =>
          rw [List.map_cons, ← hfg x y hx]
          exact (ih hrest).cons_cons _

/-- What is built from an evaluation: every proposal has its identifier from the seed of an intent, and the
deadline is one that can be written down. -/
theorem buildProposals_ok {result : EvaluationResult} {bindingID programDigest inputDigest nodeID : String}
    {deadline : Instant} {proposals : List SecureActionProposal}
    (h : buildProposals result bindingID programDigest inputDigest nodeID deadline = .ok proposals) :
    (proposals.map (·.id)).Sublist ((seeds programDigest inputDigest bindingID result.intents).map proposalID) ∧
      deadline.Parses := by
  unfold buildProposals at h
  split at h
  · cases h
  rename_i binding _
  split_ifs at h with hinvalid hparses
  cases hmapM : result.intents.zipIdx.mapM fun entry =>
      propose binding bindingID programDigest inputDigest nodeID deadline entry.1 entry.2 with
  | error err =>
    rw [hmapM] at h
    cases h
  | ok built =>
    rw [hmapM] at h
    cases h
    refine ⟨?_, hparses⟩
    rw [seeds, List.map_map]
    refine filterMap_sublist_of_mapM (fun entry p hp => ?_) hmapM
    unfold propose at hp
    split_ifs at hp
    · cases hp
    · rw [← Option.some.inj (Except.ok.inj hp)]
      rfl

end AntiFlock.Nano
