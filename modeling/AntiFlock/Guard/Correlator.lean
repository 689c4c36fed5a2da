import AntiFlock.Go.Text
import AntiFlock.Guard.Appearance
import Mathlib.Data.List.Sort

set_option autoImplicit false

/-!
# Correlating vehicle appearances

The correlator keeps observations in buckets under a keyed hash of the appearance, drops
them as they expire, and ends with its session. Seen from outside it is a list of timed
observations: every purge drops those that have expired, and the aggregate counts the rest.
-/
namespace AntiFlock.Guard
open AntiFlock.Go AntiFlock.History

/-! ## The correlator -/

structure VehicleAppearanceAggregateEntry where
  count : ℕ
  text : String
  count_pos : 0 < count
  text_not_blank : isBlank text = false

def VehicleAppearanceAggregateEntry.make (count : ℕ) (text : String) : Except Thrown VehicleAppearanceAggregateEntry :=
  if hcount : 0 < count then
    if htext : isBlank text = false then .ok ⟨count, text, hcount, htext⟩
    else .error (.illegalArgument failedRequirement)
  else .error (.illegalArgument failedRequirement)

structure VehicleAppearanceAggregate where
  totalCount : ℕ
  distinctAppearanceCount : ℕ
  entries : List VehicleAppearanceAggregateEntry
  distinct_eq : distinctAppearanceCount = entries.length
  total_eq : totalCount = (entries.map (·.count)).sum

def VehicleAppearanceAggregate.empty : VehicleAppearanceAggregate := ⟨0, 0, [], rfl, rfl⟩

structure VehicleAppearanceCorrelationResult where
  matchingCountInCurrentSession : ℕ
  aggregate : VehicleAppearanceAggregate

structure EphemeralObservation where
  sessionId : String
  observedAt : ℤ
  expiresAt : ℤ

structure ObservationBucket where
  appearance : ClassifiedVehicleAppearance
  observations : List EphemeralObservation

/-- What a session is started with. -/
structure Session where
  sessionId : String
  startedAt : ℤ
  sessionExpiresAt : ℤ
  observationLifetime : ℤ

/-- The tokens in the map are never destroyed before they leave it, so a token is its bytes. -/
structure Correlator where
  secret : List UInt8
  buckets : List (List UInt8 × ObservationBucket)
  ended : Bool
  lastObservedAt : ℤ

def isISOControl (c : Char) : Bool := c.toNat ≤ 0x1f ∨ (0x7f ≤ c.toNat ∧ c.toNat ≤ 0x9f)

/-- `String.length`, in UTF-16 code units. -/
def utf16Length (text : String) : ℕ := (text.toList.map fun c => if c.toNat < 0x10000 then 1 else 2).sum

def maxSessionLifetime : ℤ := 15 * 60 * second

def start (sessionId : String) (sessionSalt : List UInt8) (startedAt sessionLifetime observationLifetime : ℤ) :
    Except Thrown (Session × Correlator) := do
  require (isBlank sessionId = false ∧ utf16Length sessionId ≤ 128) "Session id must be present and bounded"
  require (sessionId.toList.any isISOControl = false) "Session id cannot contain control characters"
  require (32 ≤ sessionSalt.length) "Vehicle appearance sessions require at least 32 bytes of secret material"
  require (0 < sessionLifetime ∧ sessionLifetime ≤ maxSessionLifetime)
    "Vehicle appearance sessions must end within PT15M"
  require (0 < observationLifetime ∧ observationLifetime ≤ sessionLifetime)
    "Observation lifetime must be positive and no longer than the session"
  let sessionExpiresAt ← plus startedAt sessionLifetime
  return (⟨sessionId, startedAt, sessionExpiresAt, observationLifetime⟩, ⟨sessionSalt, [], false, startedAt⟩)

def listedBefore (a b : VehicleAppearanceAggregateEntry) : Prop :=
  b.count < a.count ∨ (a.count = b.count ∧ a.text ≤ b.text)

instance : DecidableRel listedBefore := fun _ _ => inferInstanceAs (Decidable (_ ∨ _))

namespace Correlator

def endSession (correlator : Correlator) : ℕ × Correlator :=
  if correlator.ended then (0, correlator)
  else ((correlator.buckets.map fun entry => entry.2.observations.length).sum,
    { correlator with buckets := [], secret := List.replicate correlator.secret.length 0, ended := true })

def purgeBucket (instant : ℤ) (entry : List UInt8 × ObservationBucket) : List UInt8 × ObservationBucket :=
  (entry.1, { entry.2 with observations := entry.2.observations.filter fun seen => instant < seen.expiresAt })

def purgeExpired (session : Session) (correlator : Correlator) (instant : ℤ) : ℕ × Correlator :=
  if correlator.ended then (0, correlator)
  else if session.sessionExpiresAt ≤ instant then correlator.endSession
  else
    ((correlator.buckets.map fun entry =>
        entry.2.observations.length - (purgeBucket instant entry).2.observations.length).sum,
      { correlator with buckets :=
          (correlator.buckets.map (purgeBucket instant)).filter fun entry => !entry.2.observations.isEmpty })

def aggregateWithoutPurging (correlator : Correlator) : Except Thrown VehicleAppearanceAggregate :=
  if correlator.ended ∨ correlator.buckets = [] then .ok .empty
  else do
    let entries ← correlator.buckets.mapM fun entry =>
      VehicleAppearanceAggregateEntry.make entry.2.observations.length entry.2.appearance.controlledDescription
    let entries := entries.insertionSort listedBefore
    return ⟨(entries.map (·.count)).sum, entries.length, entries, rfl, rfl⟩

def aggregate (session : Session) (correlator : Correlator) (instant : ℤ) :
    Except Thrown VehicleAppearanceAggregate × Correlator :=
  let correlator := (correlator.purgeExpired session instant).2
  (correlator.aggregateWithoutPurging, correlator)

/-- Adds an observation to the bucket of a token, which is made if there is none. -/
def record (token : List UInt8) (appearance : ClassifiedVehicleAppearance) (seen : EphemeralObservation) :
    List (List UInt8 × ObservationBucket) → List (List UInt8 × ObservationBucket)
  | [] => [(token, ⟨appearance, [seen]⟩)]
  | (other, bucket) :: rest =>
    if other = token then (other, { bucket with observations := bucket.observations ++ [seen] }) :: rest
    else (other, bucket) :: record token appearance seen rest

def matching (token : List UInt8) (buckets : List (List UInt8 × ObservationBucket)) : ℕ :=
  ((buckets.lookup token).map fun bucket => bucket.observations.length).getD 0

def check (session : Session) (correlator : Correlator) (observedAt : ℤ) : Except Thrown Unit := do
  if correlator.ended then .error (.illegalState "Vehicle appearance session has ended")
  require (¬ observedAt < session.startedAt) "Observation predates the session"
  require (¬ observedAt < correlator.lastObservedAt) "Observation time must be monotonic"
  require (observedAt < session.sessionExpiresAt) "Vehicle appearance session has expired"

end Correlator

section Hash
variable (hmac : List UInt8 → List UInt8 → List UInt8)

/-- `VehicleAppearanceHmac.digest` -/
def digest (sessionId : String) (sessionSalt : List UInt8) (appearance : ClassifiedVehicleAppearance) : List UInt8 :=
  hmac sessionSalt (bytes (sessionId ++ "\u001f" ++ appearance.canonicalVector))

def Correlator.observe (session : Session) (correlator : Correlator) (appearance : ClassifiedVehicleAppearance)
    (observedAt : ℤ) : Except Thrown VehicleAppearanceCorrelationResult × Correlator :=
  match correlator.check session observedAt with
  | .error thrown => (.error thrown, correlator)
  | .ok () =>
    let purged := (correlator.purgeExpired session observedAt).2
    if purged.ended then (.error (.illegalState "Vehicle appearance session has ended"), purged)
    else
      let noted := { purged with lastObservedAt := observedAt }
      match plus observedAt session.observationLifetime with
      | .error thrown => (.error thrown, noted)
      | .ok sum =>
        let token := digest hmac session.sessionId noted.secret appearance
        let seen : EphemeralObservation := ⟨session.sessionId, observedAt, min sum session.sessionExpiresAt⟩
        let recorded := { noted with buckets := record token appearance seen noted.buckets }
        (do let aggregate ← recorded.aggregateWithoutPurging
            require (0 < matching token recorded.buckets) failedRequirement
            return ⟨matching token recorded.buckets, aggregate⟩, recorded)

namespace Correlation

inductive Call where
  | observe (appearance : ClassifiedVehicleAppearance) (observedAt : ℤ)
  | aggregate (instant : ℤ)
  | purgeExpired (instant : ℤ)
  | endSession

inductive Answer where
  | observed (result : VehicleAppearanceCorrelationResult)
  | aggregated (aggregate : VehicleAppearanceAggregate)
  | removed (count : ℕ)
  | thrown (thrown : Thrown)

def step (session : Session) (correlator : Correlator) : Call → Answer × Correlator
  | .observe appearance observedAt =>
    match correlator.observe hmac session appearance observedAt with
    | (.ok result, correlator) => (.observed result, correlator)
    | (.error thrown, correlator) => (.thrown thrown, correlator)
  | .aggregate instant =>
    match correlator.aggregate session instant with
    | (.ok aggregate, correlator) => (.aggregated aggregate, correlator)
    | (.error thrown, correlator) => (.thrown thrown, correlator)
  | .purgeExpired instant =>
    let purged := correlator.purgeExpired session instant
    (.removed purged.1, purged.2)
  | .endSession => (.removed correlator.endSession.1, correlator.endSession.2)

end Correlation
end Hash

/-! ## Buckets as a list of timed observations -/

abbrev Timed := ClassifiedVehicleAppearance × ℤ

def flat (buckets : List (List UInt8 × ObservationBucket)) : List Timed :=
  buckets.flatMap fun entry => entry.2.observations.map fun seen => (entry.2.appearance, seen.expiresAt)

/-- The buckets hold the observations of the ledger, each under the key of its appearance. -/
structure Holds (key : ClassifiedVehicleAppearance → List UInt8) (buckets : List (List UInt8 × ObservationBucket))
    (ledger : List Timed) : Prop where
  bucket : ∀ entry ∈ buckets, entry.1 = key entry.2.appearance ∧ entry.2.observations ≠ []
  nodup : (buckets.map Prod.fst).Nodup
  perm : (flat buckets).Perm ledger

section Buckets
variable {key : ClassifiedVehicleAppearance → List UInt8} {buckets : List (List UInt8 × ObservationBucket)}
  {ledger : List Timed} {appearance : ClassifiedVehicleAppearance} {seen : EphemeralObservation} {token : List UInt8}

def purge (instant : ℤ) (buckets : List (List UInt8 × ObservationBucket)) : List (List UInt8 × ObservationBucket) :=
  (buckets.map (Correlator.purgeBucket instant)).filter fun entry => !entry.2.observations.isEmpty

theorem flat_purge (instant : ℤ) (buckets : List (List UInt8 × ObservationBucket)) :
    flat (purge instant buckets) = (flat buckets).filter fun timed => instant < timed.2 := by
  induction buckets with
  | nil => rfl
  | cons entry buckets ih =>
    have hhead : (Correlator.purgeBucket instant entry).2.observations.map
        (fun seen => (entry.2.appearance, seen.expiresAt)) = (entry.2.observations.map
          fun seen => (entry.2.appearance, seen.expiresAt)).filter fun timed => instant < timed.2 := by
      rw [List.filter_map]
      rfl
    have hflat : flat (entry :: buckets) = (entry.2.observations.map fun seen => (entry.2.appearance, seen.expiresAt)) ++
        flat buckets := List.flatMap_cons
    rw [hflat, List.filter_append, ← hhead, ← ih]
    cases hseen : (Correlator.purgeBucket instant entry).2.observations with
    | nil => simp [purge, hseen]
    | cons first rest =>
      have hkept : purge instant (entry :: buckets) = Correlator.purgeBucket instant entry :: purge instant buckets := by
        simp [purge, hseen]
      rw [hkept, ← hseen]
      exact List.flatMap_cons

theorem Holds.purge (h : Holds key buckets ledger) (instant : ℤ) :
    Holds key (Guard.purge instant buckets) (ledger.filter fun timed => instant < timed.2) := by
  refine ⟨?_, ?_, ?_⟩
  · intro entry hentry
    obtain ⟨hmap, hne⟩ := List.mem_filter.mp hentry
    obtain ⟨old, hold, rfl⟩ := List.mem_map.mp hmap
    exact ⟨(h.bucket old hold).1, by simpa using hne⟩
  · refine List.Nodup.sublist ?_ h.nodup
    have hsublist := (List.filter_sublist (p := fun entry => !entry.2.observations.isEmpty)
      (l := buckets.map (Correlator.purgeBucket instant))).map Prod.fst
    rwa [List.map_map] at hsublist
  · rw [flat_purge]
    exact h.perm.filter _

theorem flat_record (h : ∀ entry ∈ buckets, entry.1 = token → entry.2.appearance = appearance) :
    (flat (Correlator.record token appearance seen buckets)).Perm (flat buckets ++ [(appearance, seen.expiresAt)]) := by
  induction buckets with
  | nil => exact List.Perm.refl _
  | cons entry buckets ih =>
    obtain ⟨other, bucket⟩ := entry
    unfold Correlator.record
    split
    · rename_i hother
      have happearance : bucket.appearance = appearance := h _ List.mem_cons_self hother
      simp only [flat, List.flatMap_cons, List.map_append, List.map_cons, List.map_nil, List.append_assoc, happearance]
      exact List.perm_append_comm.append_left _
    · have hrest := ih fun entry hentry => h entry (List.mem_cons_of_mem _ hentry)
      simp only [flat, List.flatMap_cons, List.append_assoc]
      exact hrest.append_left _

theorem record_bucket (happearance : token = key appearance)
    (h : ∀ entry ∈ buckets, entry.1 = key entry.2.appearance ∧ entry.2.observations ≠ []) :
    ∀ entry ∈ Correlator.record token appearance seen buckets,
      entry.1 = key entry.2.appearance ∧ entry.2.observations ≠ [] := by
  induction buckets with
  | nil => simpa [Correlator.record] using happearance
  | cons entry buckets ih =>
    have hrest := ih fun entry hentry => h entry (List.mem_cons_of_mem _ hentry)
    have hhead := h entry List.mem_cons_self
    obtain ⟨other, bucket⟩ := entry
    unfold Correlator.record
    split
    · exact List.forall_mem_cons.mpr ⟨⟨hhead.1, by simp⟩, fun entry hentry => h entry (List.mem_cons_of_mem _ hentry)⟩
    · exact List.forall_mem_cons.mpr ⟨hhead, hrest⟩

theorem record_keys : (Correlator.record token appearance seen buckets).map Prod.fst =
    if token ∈ buckets.map Prod.fst then buckets.map Prod.fst else buckets.map Prod.fst ++ [token] := by
  induction buckets with
  | nil => rfl
  | cons entry buckets ih =>
    obtain ⟨other, bucket⟩ := entry
    unfold Correlator.record
    by_cases hother : other = token
    · simp [hother]
    · rw [if_neg hother, List.map_cons, List.map_cons, ih]
      by_cases hmem : token ∈ buckets.map Prod.fst
      · rw [if_pos hmem, if_pos (List.mem_cons_of_mem _ hmem)]
      · rw [if_neg hmem, if_neg (by simpa [Ne.symm hother] using hmem)]
        rfl

theorem Holds.record (h : Holds key buckets ledger) (hkey : Function.Injective key)
    (appearance : ClassifiedVehicleAppearance) (seen : EphemeralObservation) :
    Holds key (Correlator.record (key appearance) appearance seen buckets) (ledger ++ [(appearance, seen.expiresAt)]) := by
  refine ⟨record_bucket rfl h.bucket, ?_, ?_⟩
  · rw [record_keys]
    split
    · exact h.nodup
    · rename_i hnew
      rw [← List.concat_eq_append]
      exact h.nodup.concat hnew
  · refine (flat_record fun entry hentry htoken => ?_).trans (h.perm.append_right _)
    exact hkey ((h.bucket entry hentry).1.symm.trans htoken)

theorem matching_record_pos : 0 < Correlator.matching token (Correlator.record token appearance seen buckets) := by
  induction buckets with
  | nil => simp [Correlator.record, Correlator.matching]
  | cons entry buckets ih =>
    obtain ⟨other, bucket⟩ := entry
    unfold Correlator.record
    split
    · rename_i hother
      simp [Correlator.matching, hother]
    · rename_i hother
      have hne : (token == other) = false := by simpa using Ne.symm hother
      simpa [Correlator.matching, List.lookup_cons, hne] using ih

def VehicleAppearanceAggregate.countOf (aggregate : VehicleAppearanceAggregate)
    (appearance : ClassifiedVehicleAppearance) : ℕ :=
  ((aggregate.entries.filter (·.text = appearance.controlledDescription)).map (·.count)).sum

theorem entries_of_buckets (h : ∀ entry ∈ buckets, entry.2.observations ≠ []) : ∃ entries,
    buckets.mapM (fun entry => VehicleAppearanceAggregateEntry.make entry.2.observations.length
      entry.2.appearance.controlledDescription) = .ok entries ∧
    entries.map (·.text) = buckets.map (·.2.appearance.controlledDescription) ∧
    ∀ appearance : ClassifiedVehicleAppearance,
      ((entries.filter (·.text = appearance.controlledDescription)).map (·.count)).sum =
        (flat buckets).countP fun timed => timed.1 = appearance := by
  induction buckets with
  | nil => exact ⟨[], rfl, rfl, fun appearance => rfl⟩
  | cons entry buckets ih =>
    obtain ⟨entries, hentries, htexts, hcounts⟩ := ih fun entry hentry => h entry (List.mem_cons_of_mem _ hentry)
    have hpos : 0 < entry.2.observations.length := List.length_pos_iff.mpr (h entry List.mem_cons_self)
    have htext := controlledDescription_not_blank entry.2.appearance
    refine ⟨⟨entry.2.observations.length, entry.2.appearance.controlledDescription, hpos, htext⟩ :: entries, ?_, ?_, ?_⟩
    · rw [List.mapM_cons, hentries]
      simp only [VehicleAppearanceAggregateEntry.make, dif_pos hpos, dif_pos htext]
      rfl
    · rw [List.map_cons, List.map_cons, htexts]
    · intro appearance
      have hflat : (flat (entry :: buckets)).countP (fun timed => timed.1 = appearance) =
          (entry.2.observations.map fun seen => (entry.2.appearance, seen.expiresAt)).countP
            (fun timed => timed.1 = appearance) + (flat buckets).countP fun timed => timed.1 = appearance :=
        List.countP_append
      rw [hflat, ← hcounts, List.countP_map]
      by_cases hsame : entry.2.appearance = appearance
      · simp [hsame, Function.comp_def]
      · have hdescription : entry.2.appearance.controlledDescription ≠ appearance.controlledDescription :=
          fun heq => hsame (controlledDescription_injective heq)
        simp [hsame, hdescription, Function.comp_def]

/-- The aggregate lists every appearance once, with the number of its observations. -/
theorem Holds.aggregate (h : Holds key buckets ledger) (correlator : Correlator) (hbuckets : correlator.buckets = buckets)
    (hopen : correlator.ended = false) : ∃ aggregate, correlator.aggregateWithoutPurging = .ok aggregate ∧
      (aggregate.entries.map (·.text)).Nodup ∧
      ∀ appearance, aggregate.countOf appearance = ledger.countP fun timed => timed.1 = appearance := by
  unfold Correlator.aggregateWithoutPurging
  simp only [hopen, Bool.false_eq_true, false_or, hbuckets]
  by_cases hempty : buckets = []
  · have hledger : ledger = [] := by
      have hperm := h.perm
      rw [hempty] at hperm
      exact hperm.nil_eq.symm
    rw [if_pos hempty, hledger]
    exact ⟨_, rfl, List.nodup_nil, fun appearance => rfl⟩
  · obtain ⟨entries, hentries, htexts, hcounts⟩ := entries_of_buckets fun entry hentry => (h.bucket entry hentry).2
    have hsorted := List.perm_insertionSort listedBefore entries
    rw [if_neg hempty, hentries]
    refine ⟨_, rfl, ?_, ?_⟩
    · rw [(hsorted.map _).nodup_iff, htexts]
      refine List.Nodup.map_on (fun entry hentry other hother htext => ?_) h.nodup.of_map
      have happearance := controlledDescription_injective htext
      refine List.inj_on_of_nodup_map h.nodup hentry hother ?_
      rw [(h.bucket entry hentry).1, (h.bucket other hother).1, happearance]
    · intro appearance
      rw [← h.perm.countP_eq, ← hcounts]
      exact ((hsorted.filter _).map _).sum_nat

end Buckets

/-! ## The correlator over any list of calls -/

namespace Correlation

abbrev Past := List (Entry Correlator Call Answer)

/-- The instant that a call purges at. An observation purges once it has passed the checks, also
if its expiry is then beyond the last instant. -/
def purgedAt (e : Entry Correlator Call Answer) : Option ℤ :=
  match e.call, e.answer with
  | .aggregate instant, _ => some instant
  | .purgeExpired instant, _ => some instant
  | .observe _ observedAt, .observed _ => some observedAt
  | .observe _ observedAt, .thrown .dateTime => some observedAt
  | _, _ => none

/-- The observation that a call has added, with its expiry. -/
def accepted (session : Session) (e : Entry Correlator Call Answer) : Option Timed :=
  match e.call, e.answer with
  | .observe appearance observedAt, .observed _ =>
    some (appearance, min (observedAt + session.observationLifetime) session.sessionExpiresAt)
  | _, _ => none

/-- The accepted observations that expire behind every later purge. -/
def live (session : Session) : Past → List Timed
  | [] => []
  | e :: later =>
    ((accepted session e).toList.filter fun timed => ∀ instant ∈ later.filterMap purgedAt, instant < timed.2) ++
      live session later

def Ends (session : Session) (call : Call) : Prop :=
  match call with
  | .endSession => True
  | .aggregate instant => session.sessionExpiresAt ≤ instant
  | .purgeExpired instant => session.sessionExpiresAt ≤ instant
  | .observe .. => False

/-- The session was ended, or a call has found it expired. -/
def Closed (session : Session) (past : Past) : Prop := ∃ e ∈ past, Ends session e.call

def Answer.aggregate : Answer → Option VehicleAppearanceAggregate
  | .observed result => some result.aggregate
  | .aggregated found => some found
  | _ => none

variable {session : Session} {past : Past} {e : Entry Correlator Call Answer}

theorem live_concat (session : Session) (past : Past) (e : Entry Correlator Call Answer) :
    live session (past ++ [e]) = ((live session past).filter fun timed => ∀ instant ∈ purgedAt e, instant < timed.2) ++
      (accepted session e).toList := by
  induction past with
  | nil => simp [live]
  | cons first past ih =>
    rw [List.cons_append, live, live, ih, List.filter_append, List.append_assoc, List.filter_filter]
    congr 1
    refine List.filter_congr fun timed _ => ?_
    have hlater : (∀ instant ∈ (past ++ [e]).filterMap purgedAt, instant < timed.2) ↔
        (∀ instant ∈ purgedAt e, instant < timed.2) ∧ ∀ instant ∈ past.filterMap purgedAt, instant < timed.2 := by
      rw [List.filterMap_append, List.forall_mem_append, and_comm]
      cases hpurged : purgedAt e <;> simp [hpurged]
    rw [decide_eq_decide.mpr hlater, Bool.decide_and]

theorem closed_concat : Closed session (past ++ [e]) ↔ Closed session past ∨ Ends session e.call := by
  simp [Closed, List.mem_append, or_and_right, exists_or]

variable {hmac : List UInt8 → List UInt8 → List UInt8} {salt : List UInt8} {correlator correlator' : Correlator}

/-- How the correlator stands to the calls that were made. -/
structure Tracks (hmac : List UInt8 → List UInt8 → List UInt8) (session : Session) (salt : List UInt8) (past : Past)
    (correlator : Correlator) : Prop where
  closed : Closed session past → correlator.ended = true
  ended : correlator.ended = true → Closed session past ∧ correlator.buckets = [] ∧
    correlator.secret = List.replicate salt.length 0
  opened : correlator.ended = false → correlator.secret = salt ∧
    Holds (digest hmac session.sessionId salt) correlator.buckets (live session past)

theorem Tracks.stay (h : Tracks hmac session salt past correlator) (hended : correlator.ended = true)
    (e : Entry Correlator Call Answer) : Tracks hmac session salt (past ++ [e]) correlator := by
  obtain ⟨hclosed, hbuckets, hsecret⟩ := h.ended hended
  refine ⟨fun _ => hended, fun _ => ⟨closed_concat.mpr (.inl hclosed), hbuckets, hsecret⟩, fun hopen => ?_⟩
  rw [hended] at hopen
  cases hopen

theorem Tracks.finish (h : Tracks hmac session salt past correlator) (hopen : correlator.ended = false)
    (hends : Ends session e.call) : Tracks hmac session salt (past ++ [e]) correlator.endSession.2 := by
  obtain ⟨hsecret, -⟩ := h.opened hopen
  have hend : correlator.endSession.2 =
      { correlator with buckets := [], secret := List.replicate correlator.secret.length 0, ended := true } := by
    simp [Correlator.endSession, hopen]
  rw [hend, hsecret]
  exact ⟨fun _ => rfl, fun _ => ⟨closed_concat.mpr (.inr hends), rfl, rfl⟩, fun hopen => by cases hopen⟩

theorem Tracks.move (h : Tracks hmac session salt past correlator) (hopen : correlator.ended = false)
    (hends : ¬ Ends session e.call) (hopen' : correlator'.ended = false) (hsecret : correlator'.secret = correlator.secret)
    (hholds : Holds (digest hmac session.sessionId salt) correlator'.buckets (live session (past ++ [e]))) :
    Tracks hmac session salt (past ++ [e]) correlator' := by
  refine ⟨fun hclosed => ?_, fun hended => ?_, fun _ => ⟨hsecret.trans (h.opened hopen).1, hholds⟩⟩
  · rcases closed_concat.mp hclosed with hclosed | hclosed
    · rw [h.closed hclosed] at hopen
      cases hopen
    · exact absurd hclosed hends
  · rw [hopen'] at hended
    cases hended

theorem Tracks.purge (h : Tracks hmac session salt past correlator) (hopen : correlator.ended = false) {instant : ℤ}
    (hends : ¬ Ends session e.call) (hpurged : purgedAt e = some instant) (haccepted : accepted session e = none)
    (hopen' : correlator'.ended = false) (hsecret : correlator'.secret = correlator.secret)
    (hbuckets : correlator'.buckets = Guard.purge instant correlator.buckets) :
    Tracks hmac session salt (past ++ [e]) correlator' := by
  refine h.move hopen hends hopen' hsecret ?_
  have hholds := (h.opened hopen).2.purge instant
  rw [hbuckets, live_concat, hpurged, haccepted]
  simpa using hholds

theorem purgeExpired_ended (hended : correlator.ended = true) (instant : ℤ) :
    correlator.purgeExpired session instant = (0, correlator) := by
  simp [Correlator.purgeExpired, hended]

theorem purgeExpired_expired (hopen : correlator.ended = false) {instant : ℤ} (h : session.sessionExpiresAt ≤ instant) :
    correlator.purgeExpired session instant = correlator.endSession := by
  simp [Correlator.purgeExpired, hopen, h]

theorem purgeExpired_open (hopen : correlator.ended = false) {instant : ℤ} (h : ¬ session.sessionExpiresAt ≤ instant) :
    (correlator.purgeExpired session instant).2 = { correlator with buckets := purge instant correlator.buckets } := by
  simp [Correlator.purgeExpired, hopen, h, purge]

theorem Tracks.purgeExpired (h : Tracks hmac session salt past correlator) {instant : ℤ}
    (hcall : e.call = .aggregate instant ∨ e.call = .purgeExpired instant) :
    Tracks hmac session salt (past ++ [e]) (correlator.purgeExpired session instant).2 := by
  cases hended : correlator.ended with
  | true =>
    rw [purgeExpired_ended hended]
    exact h.stay hended e
  | false =>
    have hends : Ends session e.call ↔ session.sessionExpiresAt ≤ instant := by
      rcases hcall with hcall | hcall <;> rw [hcall] <;> rfl
    by_cases hexpired : session.sessionExpiresAt ≤ instant
    · rw [purgeExpired_expired hended hexpired]
      exact h.finish hended (hends.mpr hexpired)
    · rw [purgeExpired_open hended hexpired]
      refine h.purge hended (fun hyes => hexpired (hends.mp hyes)) ?_ ?_ hended rfl rfl
      · rcases hcall with hcall | hcall <;> simp [purgedAt, hcall]
      · rcases hcall with hcall | hcall <;> simp [accepted, hcall]

theorem check_ended (session : Session) (hended : correlator.ended = true) (observedAt : ℤ) :
    ∃ message, correlator.check session observedAt = .error (.illegalState message) := by
  refine ⟨"Vehicle appearance session has ended", ?_⟩
  rw [Correlator.check, if_pos hended]
  rfl

theorem check_open (hopen : correlator.ended = false) (observedAt : ℤ) :
    (∃ message, correlator.check session observedAt = .error (.illegalArgument message)) ∨
      correlator.check session observedAt = .ok () ∧ observedAt < session.sessionExpiresAt := by
  rw [Correlator.check, if_neg (by simp [hopen])]
  by_cases hstarted : ¬ observedAt < session.startedAt
  · by_cases hmonotonic : ¬ observedAt < correlator.lastObservedAt
    · by_cases hexpires : observedAt < session.sessionExpiresAt
      · exact .inr ⟨by simp only [require, if_pos hstarted, if_pos hmonotonic, if_pos hexpires]; rfl, hexpires⟩
      · exact .inl ⟨_, by simp only [require, if_pos hstarted, if_pos hmonotonic, if_neg hexpires]; rfl⟩
    · exact .inl ⟨_, by simp only [require, if_pos hstarted, if_neg hmonotonic]; rfl⟩
  · exact .inl ⟨_, by simp only [require, if_neg hstarted]; rfl⟩

/-- What an observation does to an open session. -/
theorem observe_open (h : Tracks hmac session salt past correlator) (hopen : correlator.ended = false)
    (hkey : Function.Injective (digest hmac session.sessionId salt)) (appearance : ClassifiedVehicleAppearance)
    (observedAt : ℤ) :
    (∃ message, correlator.observe hmac session appearance observedAt = (.error (.illegalArgument message), correlator)) ∨
    (correlator.observe hmac session appearance observedAt = (.error .dateTime,
      { correlator with buckets := purge observedAt correlator.buckets, lastObservedAt := observedAt })) ∨
    ∃ result correlator', correlator.observe hmac session appearance observedAt = (.ok result, correlator') ∧
      correlator'.aggregateWithoutPurging = .ok result.aggregate ∧ correlator'.ended = false ∧
      correlator'.secret = correlator.secret ∧ Holds (digest hmac session.sessionId salt) correlator'.buckets
        ((live session past).filter (fun timed => observedAt < timed.2) ++
          [(appearance, min (observedAt + session.observationLifetime) session.sessionExpiresAt)]) := by
  rcases check_open hopen observedAt with ⟨message, hcheck⟩ | ⟨hcheck, hexpires⟩
  · exact .inl ⟨message, by rw [Correlator.observe, hcheck]⟩
  have hpurged := purgeExpired_open hopen (not_le.mpr hexpires)
  refine .inr ?_
  cases hplus : plus observedAt session.observationLifetime with
  | error thrown =>
    have hthrown : thrown = .dateTime := by
      unfold plus at hplus
      split at hplus
      · cases hplus
      · exact (Except.error.inj hplus).symm
    subst hthrown
    refine .inl ?_
    simp only [Correlator.observe, hcheck, hpurged, hopen, hplus, Bool.false_eq_true, if_false]
  | ok sum =>
    obtain ⟨hsecret, hholds⟩ := h.opened hopen
    have hrecorded := (hholds.purge observedAt).record hkey appearance
      ⟨session.sessionId, observedAt, min sum session.sessionExpiresAt⟩
    obtain ⟨recorded, hrecord⟩ : ∃ recorded : Correlator, recorded = { correlator with
      buckets := Correlator.record (digest hmac session.sessionId salt appearance) appearance
        ⟨session.sessionId, observedAt, min sum session.sessionExpiresAt⟩ (purge observedAt correlator.buckets)
      lastObservedAt := observedAt } := ⟨_, rfl⟩
    have hbuckets := congrArg Correlator.buckets hrecord
    dsimp only at hbuckets
    have hended : recorded.ended = false := by rw [hrecord, hopen]
    obtain ⟨count, hcount⟩ : ∃ count,
        Correlator.matching (digest hmac session.sessionId salt appearance) recorded.buckets = count := ⟨_, rfl⟩
    have hmatching : 0 < count := by
      rw [← hcount, hbuckets]
      exact matching_record_pos
    obtain ⟨aggregate, haggregate, -⟩ := hrecorded.aggregate recorded hbuckets hended
    refine .inr ⟨⟨count, aggregate⟩, recorded, ?_, haggregate, hended, by rw [hrecord], ?_⟩
    · simp only [Correlator.observe, hcheck, hpurged, hopen, hplus, Bool.false_eq_true, if_false, hsecret]
      rw [hopen, hsecret] at hrecord
      rw [← hrecord, ← hbuckets, haggregate, hcount]
      simp only [require, if_pos hmatching]
      rfl
    · rw [hbuckets, ← plus_ok hplus]
      exact hrecorded

theorem Tracks.reports (h : Tracks hmac session salt past correlator) :
    ∃ aggregate, correlator.aggregateWithoutPurging = .ok aggregate := by
  cases hended : correlator.ended with
  | true => exact ⟨.empty, if_pos (.inl hended)⟩
  | false =>
    obtain ⟨aggregate, haggregate, -⟩ := (h.opened hended).2.aggregate correlator rfl hended
    exact ⟨aggregate, haggregate⟩

/-- A reported aggregate is that of the state behind the call. -/
theorem reported (h : Tracks hmac session salt past correlator)
    (hkey : Function.Injective (digest hmac session.sessionId salt)) {call : Call} {aggregate : VehicleAppearanceAggregate}
    (hanswer : (step hmac session correlator call).1.aggregate = some aggregate) :
    (step hmac session correlator call).2.aggregateWithoutPurging = .ok aggregate := by
  cases call with
  | aggregate instant =>
    simp only [step, Correlator.aggregate] at hanswer ⊢
    cases hfound : (correlator.purgeExpired session instant).2.aggregateWithoutPurging with
    | error thrown => simp [hfound, Answer.aggregate] at hanswer
    | ok found =>
      simp only [hfound, Answer.aggregate, Option.some.injEq] at hanswer ⊢
      rw [hanswer]
  | purgeExpired instant => cases hanswer
  | endSession => cases hanswer
  | observe appearance observedAt =>
    cases hended : correlator.ended with
    | true =>
      obtain ⟨message, hcheck⟩ := check_ended session hended observedAt
      simp [step, Correlator.observe, hcheck, Answer.aggregate] at hanswer
    | false =>
      rcases observe_open h hended hkey appearance observedAt with
        ⟨message, hobserve⟩ | hobserve | ⟨result, correlator', hobserve, haggregate, -⟩
      · simp [step, hobserve, Answer.aggregate] at hanswer
      · simp [step, hobserve, Answer.aggregate] at hanswer
      · simp only [step, hobserve, Answer.aggregate, Option.some.injEq] at hanswer ⊢
        rw [haggregate, hanswer]

end Correlation

end AntiFlock.Guard
