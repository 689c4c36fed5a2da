import AntiFlock.Actions.Gate
import AntiFlock.Enrollment.Calls
import AntiFlock.Enrollment.Expiry

set_option autoImplicit false

/-!
# Requests that are made again

A node that makes an accepted request again gets the same enrollment, whatever has
become of the request, its token and its node. But the request is checked against the
clock before it is recognised, and the capabilities it carries expire.
-/
namespace AntiFlock.Enrollment
open AntiFlock.Go AntiFlock.Effect AntiFlock.Sql
open AntiFlock.Proto (minute CapabilityManifest Capability)

/-! ## Checks at a later time -/

section Checks
variable {J : Type} {lib : Library J}

def EnrollNodeRequest.FreshAt (request : EnrollNodeRequest) (now : Instant) : Prop :=
  ∃ manifest ∈ request.capabilities, ∃ expiresAt ∈ protoTime manifest.expiresAt, now < expiresAt

variable {earlier now : Reading}

theorem skew_mono (h : earlier.1 ≤ now.1) {time : Instant} (hskew : ¬ earlier.1.add fiveMinutes < time) :
    ¬ now.1.add fiveMinutes < time := by
  have hmono : earlier.1.add fiveMinutes ≤ now.1.add fiveMinutes :=
    Actions.add_le_add_of_parses earlier.2 now.2 h (by decide)
  exact fun hlt => hskew (lt_of_le_of_lt hmono hlt)

theorem validateCapability_mono (h : earlier.1 ≤ now.1) {seen : List String} {capabilities : List Capability}
    (hvalid : validateCapability lib earlier.1 seen capabilities = .ok ()) :
    validateCapability lib now.1 seen capabilities = .ok () := by
  induction capabilities generalizing seen with
  | nil => rfl
  | cons capability rest ih =>
    unfold validateCapability at hvalid ⊢
    split at hvalid
    · cases hvalid
    split at hvalid
    · cases hvalid
    split at hvalid
    · cases hvalid
    split at hvalid
    · cases hvalid
    · rename_i hform hseen hoperations hobserved
      rw [if_neg hform, if_neg hseen, if_neg hoperations, if_neg ?_]
      · exact ih hvalid
      · rintro ⟨hsome, hlate⟩
        refine hobserved ⟨hsome, ?_⟩
        cases htime : protoTime capability.observedAt with
        | none => rfl
        | some time =>
          rw [htime] at hlate
          by_contra hskew
          exact skew_mono h (by simpa using hskew) (by simpa using hlate)

theorem validateCapabilities_iff (h : earlier.1 ≤ now.1) {manifest : CapabilityManifest}
    (hvalid : validateCapabilities lib manifest earlier.1 = .ok ()) :
    validateCapabilities lib manifest now.1 = .ok () ↔ ∃ expiresAt ∈ protoTime manifest.expiresAt, now.1 < expiresAt := by
  unfold validateCapabilities at hvalid ⊢
  split at hvalid
  · cases hvalid
  split at hvalid
  · cases hvalid
  split at hvalid
  · cases hvalid
  rename_i hknown hempty hrevision
  rw [if_neg hknown, if_neg hempty, if_neg hrevision]
  cases hissued : protoTime manifest.issuedAt with
  | none =>
    rw [hissued] at hvalid
    cases hvalid
  | some issuedAt =>
    rw [hissued] at hvalid
    dsimp only at hvalid ⊢
    split at hvalid
    · cases hvalid
    rename_i hskew
    rw [if_neg (skew_mono h hskew)]
    cases hexpires : protoTime manifest.expiresAt with
    | none =>
      rw [hexpires] at hvalid
      cases hvalid
    | some expiresAt =>
      rw [hexpires] at hvalid
      dsimp only at hvalid ⊢
      split at hvalid
      · cases hvalid
      rename_i hafter
      push Not at hafter
      constructor
      · intro hok
        split at hok
        · cases hok
        · rename_i hnow
          push Not at hnow
          exact ⟨expiresAt, rfl, hnow.1⟩
      · rintro ⟨_, ⟨⟩, hnow⟩
        rw [if_neg (by push Not; exact ⟨hnow, hafter.2⟩)]
        exact validateCapability_mono h hvalid

theorem validateForm_capabilities {request : EnrollNodeRequest} {manifest : CapabilityManifest}
    (h : validateForm lib request = .ok manifest) : request.capabilities = some manifest := by
  unfold validateForm at h
  repeat' split at h
  all_goals cases h
  assumption

theorem validateRequest_iff (h : earlier.1 ≤ now.1) {request : EnrollNodeRequest}
    (hvalid : validateRequest lib request earlier.1 = .ok ()) :
    validateRequest lib request now.1 = .ok () ↔ request.FreshAt now.1 := by
  unfold validateRequest at hvalid ⊢
  cases hform : validateForm lib request with
  | error err =>
    rw [hform] at hvalid
    cases hvalid
  | ok manifest =>
    rw [hform] at hvalid
    refine (validateCapabilities_iff h hvalid).trans ?_
    unfold EnrollNodeRequest.FreshAt
    rw [validateForm_capabilities hform]
    constructor
    · exact fun hfresh => ⟨manifest, rfl, hfresh⟩
    · rintro ⟨_, ⟨⟩, hfresh⟩
      exact hfresh

end Checks

/-! ## The replay -/

section Replay
variable {J : Type} {lib : Library J} {service : Service} {request : EnrollNodeRequest} {legacy : List String} {call : ℕ}

theorem exec_ask {α : Type} {faults : Faults} {q : Request J} {f : q.Answer → Call J α} {w w' : World J}
    {r : Except EnrollErr α} : Exec (serving faults call) (ask q >>= f).run w (some r) w' ↔
      ∃ a w₁, (serving faults call).step q w a w₁ ∧ Exec (serving faults call) (f a).run w₁ (some r) w' := by
  constructor
  · intro h
    cases h with
    | call hstep htail => exact ⟨_, _, hstep, htail⟩
  · rintro ⟨a, w₁, hstep, htail⟩
    exact .call hstep htail

theorem exec_ofExcept {α : Type} {faults : Faults} {w w' : World J} {x r : Except EnrollErr α} :
    Exec (serving faults call) (ofExcept x : Call J α).run w (some r) w' ↔ r = x ∧ w' = w := by
  constructor
  · intro h
    cases h
    exact ⟨rfl, rfl⟩
  · rintro ⟨rfl, rfl⟩
    exact .ret _ _

theorem exec_ok {α β : Type} {faults : Faults} {a : α} {f : α → Call J β} {w w' : World J} {r : Except EnrollErr β} :
    Exec (serving faults call) (ofExcept (.ok a) >>= f).run w (some r) w' ↔
      Exec (serving faults call) (f a).run w (some r) w' := Iff.rfl

theorem resolve_finds {w w' : World J} (hw : w.Sound lib legacy) {tokenHash digest : List UInt8} {requestID : String}
    {token : EnrollmentTokenRecord J} {row : EnrollmentRequestRecord J}
    (hconsumed : w.tables.Consumed tokenHash requestID digest token row) {r : Except EnrollErr (EnrollmentRequestRecord J)}
    (h : Exec (serving .none call) (resolveEnrollmentRequestReplay tokenHash requestID digest).run w (some r) w') :
    r = .ok row ∧ w' = w := by
  obtain ⟨consumption, hmem, hby⟩ := hconsumed.consumed
  have htoken : w.tables.getEnrollmentToken tokenHash Instant.zero = .ok token :=
    getEnrollmentToken_eq_ok.mpr ⟨hw.admitted.keyed.tokenHashes.find hconsumed.stored hconsumed.hash, hconsumed.readable,
      fun hnone => by simp [Option.mem_def.mp hmem] at hnone⟩
  have hrow : w.tables.getEnrollmentRequestByToken token.id = .ok row :=
    getEnrollmentRequestByToken_eq_ok.mpr ⟨hw.admitted.keyed.requestTokens.find hconsumed.requested hconsumed.tokenID,
      hconsumed.times.1, hconsumed.times.2, hw.dated row hconsumed.requested⟩
  obtain ⟨read, w₁, hread, h⟩ := exec_ask.mp h
  cases htoken ▸ Served.undisturbed hread
  have h := exec_ok.mp h
  rw [Option.mem_def.mp hmem] at h
  dsimp only at h
  rw [if_neg (by simp [hby])] at h
  obtain ⟨read, w₁, hread, h⟩ := exec_ask.mp h
  cases hrow ▸ Served.undisturbed hread
  exact exec_ofExcept.mp h

theorem replay_tail {w w' : World J} (hw : w.Sound lib legacy) {rawToken proof : List UInt8}
    {token : EnrollmentTokenRecord J} {descriptor : EnrollmentTokenDescriptor} {row : EnrollmentRequestRecord J}
    {shown : EnrollmentView} {now : Reading} (hparsed : parseToken request.tokenValue = .ok rawToken)
    (hadmits : service.admits lib request token = .ok (descriptor, proof))
    (hconsumed : w.tables.Consumed (tokenDigest rawToken) request.requestId proof token row)
    (hshown : enrollmentRequestToProto lib row = .ok shown) {k : Instant → Prog (enrollSig J) (Except EnrollErr EnrollmentView)}
    (hk : (service.enroll lib request).run = .call .clock k) {r : Except EnrollErr EnrollmentView}
    (h : Exec (serving .none call) (k now.1) w (some r) w') :
    r = ((validateRequest lib request now.1).map fun _ => shown) ∧ w' = w := by
  obtain ⟨consumption, hmem, -⟩ := hconsumed.consumed
  have htoken : w.tables.getEnrollmentToken (tokenDigest rawToken) now.1 = .ok token :=
    getEnrollmentToken_eq_ok.mpr ⟨hw.admitted.keyed.tokenHashes.find hconsumed.stored hconsumed.hash, hconsumed.readable,
      fun hnone => by simp [Option.mem_def.mp hmem] at hnone⟩
  cases hk
  change Exec _ (ofExcept (validateRequest lib request now.1) >>= _).run w (some r) w' at h
  cases hvalid : validateRequest lib request now.1 with
  | error err =>
    rw [hvalid] at h
    exact exec_ofExcept.mp h
  | ok _ =>
    rw [hvalid, hparsed] at h
    obtain ⟨read, w₁, hread, h⟩ := exec_ask.mp h
    cases htoken ▸ Served.undisturbed hread
    have h := exec_ok.mp h
    rw [hadmits] at h
    change Exec _ (ExceptT.run (if token.consumed.isSome then _ else _)) w (some r) w' at h
    rw [if_pos (Option.isSome_of_mem hmem)] at h
    rcases Exec.of_except h with ⟨found, w₁, hresolve, h⟩ | ⟨err, hresolve, -⟩
    · obtain ⟨hfound, rfl⟩ := resolve_finds hw hconsumed hresolve
      cases hfound
      rw [hshown] at h
      exact exec_ofExcept.mp h
    · cases (resolve_finds hw hconsumed hresolve).1

/-- What a node gets that makes its request again: the same enrollment, with the status it has now. -/
def Replays (view : EnrollmentView) (w : World J) (r : Except EnrollErr EnrollmentView) (w' : World J) : Prop :=
  (∃ view', r = .ok view' ∧ view'.id = view.id ∧ w.tables.statusOf view.id = some view'.status) ∧
    w'.tables = w.tables ∧ w'.audit = w.audit

theorem Accepted.tail {w : World J} (hw : w.Sound lib legacy) {view : EnrollmentView}
    (haccepted : Accepted lib service request view w) {k : Instant → Prog (enrollSig J) (Except EnrollErr EnrollmentView)}
    (hk : (service.enroll lib request).run = .call .clock k) {now : Reading} (hnow : w.now.1 ≤ now.1)
    {r : Except EnrollErr EnrollmentView} {w' : World J}
    (h : Exec (serving .none call) (k now.1) { w with now } (some r) w') :
    w' = { w with now } ∧ (Replays view w r w' ↔ request.FreshAt now.1) := by
  obtain ⟨earlier, rawToken, token, descriptor, proof, row, hearlier, hvalid, hparsed, hadmits, hconsumed, ⟨shown, hshown⟩,
    hid⟩ := haccepted
  have hsound : ({ w with now } : World J).Sound lib legacy := ⟨hw.admitted, hw.dated⟩
  obtain ⟨rfl, rfl⟩ := replay_tail hsound hparsed hadmits hconsumed hshown hk h
  rw [← validateRequest_iff (hearlier.trans hnow) hvalid]
  refine ⟨rfl, ?_, fun hchecked => ?_⟩
  · rintro ⟨⟨view', hview', -⟩, -⟩
    cases hchecked : validateRequest lib request now.1 with
    | ok _ => rfl
    | error err =>
      rw [hchecked] at hview'
      cases hview'
  · obtain ⟨hsame, hstatus⟩ := enrollmentRequestToProto_shows hshown
    refine ⟨⟨shown, ?_, hsame.trans hid, ?_⟩, rfl, rfl⟩
    · rw [hchecked]
      rfl
    · unfold Tables.statusOf Tables.request
      rw [hw.admitted.keyed.requestIDs.find hconsumed.requested hid, hstatus]
      rfl

/-- The calls of the service, of which those with one request tell what they return. -/
inductive Enrolling (lib : Library J) (service : Service) (request : EnrollNodeRequest) :
    Prog (enrollSig J) (Option (Except EnrollErr EnrollmentView)) → Prop
  | enroll : Enrolling lib service request ((service.enroll lib request).run.bind fun r => .ret (some r))
  | other {p : Prog (enrollSig J) Unit} (hp : Serves lib p) : Enrolling lib service request (p.bind fun _ => .ret none)

theorem safe_enrolling {faults : Faults} {seen : World J} {p : Prog (enrollSig J) (Option (Except EnrollErr EnrollmentView))}
    (hp : Enrolling lib service request p) :
    Safe lib legacy (fun w a => ∀ view, a = some (.ok view) → Accepted lib service request view w) faults call seen p := by
  cases hp with
  | enroll =>
    refine ok_bind safe_enroll fun w r hr => ?_
    rintro view ⟨⟩
    exact hr view rfl
  | other hp =>
    refine ok_bind (safe_serves hp) fun w r _ => ?_
    rintro view ⟨⟩

/-- Whatever has happened since a request was accepted, it is recognised when it is made again exactly
as long as the capabilities it carries have not expired; and it is answered at any time. -/
theorem replay_iff_fresh {faults : Faults} {w₀ : World J} (hw₀ : w₀.Sound lib legacy)
    {c : Pool (enrollSig J) (World J) (Option (Except EnrollErr EnrollmentView))}
    (hc : Reachable (· = ⟨w₀, []⟩) (Pool.Step (serving faults) (Enrolling lib service request)) c) {i : ℕ}
    {view : EnrollmentView} (hview : c.Returned i (some (.ok view))) (call : ℕ) :
    (∀ r w', Exec (serving .none call) (service.enroll lib request).run c.world (some r) w' →
      (Replays view c.world r w' ↔ request.FreshAt w'.now.1)) ∧
    ∀ now : Reading, c.world.now.1 ≤ now.1 →
      ∃ r, Exec (serving .none call) (service.enroll lib request).run c.world (some r) { c.world with now } := by
  have hgood := Pool.good_of_reachable (fun _ w => World.Grows.refl w) World.Grows.trans (fun _ h => h.1)
    (fun i p hp w _ => safe_enrolling hp) (fun c hinit => hinit ▸ Pool.good_nil hw₀) hc
  have haccepted := hgood.returned hview (fun hgrows h view hview => (h view hview).grows hgrows) view rfl
  obtain ⟨k, hk⟩ : ∃ k, (service.enroll lib request).run = .call .clock k := ⟨_, rfl⟩
  rw [hk]
  refine ⟨fun r w' h => ?_, fun now hnow => ?_⟩
  · cases h with
    | call hclock htail =>
      obtain ⟨now, rfl, hnow, rfl⟩ := hclock
      obtain ⟨rfl, hiff⟩ := haccepted.tail hgood.invariant hk hnow htail
      exact hiff
  · have htail := Prog.exec_run (serving_answered .none now call) (k now.1) { c.world with now }
    rw [(haccepted.tail hgood.invariant hk hnow htail).1] at htail
    exact ⟨_, .call ⟨now, rfl, hnow, rfl⟩ htail⟩

end Replay

/-! ## A phone that makes its request again -/

def createdWorld : World (EnrollmentTokenDescriptor ⊕ CapabilityManifest) := (phoneCreates.run (answered atNoon 0) noonWorld).2

/-- What the phone gets at noon, and the world in which it has got it. -/
def phoneEnrolled : Except EnrollErr EnrollmentView × World (EnrollmentTokenDescriptor ⊕ CapabilityManifest) :=
  (homeService.enroll plainLibrary phoneRequest).run.run (answered atNoon 1) createdWorld

theorem reachable_phoneEnrolled : ∃ w view, Reachable (· = ⟨noonWorld, []⟩)
    (Pool.Step (serving .none) (Enrolling plainLibrary homeService phoneRequest))
      ⟨w, [.ret none, .ret (some (.ok view))]⟩ ∧ w.now = atNoon := by
  have hok : phoneEnrolled.1.isOk = true ∧ phoneEnrolled.2.now.1 = Actions.noon := by decide +kernel
  obtain ⟨view, hview⟩ : ∃ view, phoneEnrolled.1 = .ok view := by
    cases hr : phoneEnrolled.1 with
    | ok view => exact ⟨view, rfl⟩
    | error err =>
      rw [hr] at hok
      cases hok.1
  have hcreate : Enrolling plainLibrary homeService phoneRequest (phoneCreates.bind fun _ => .ret none) :=
    .other (.createScopedToken homeService "operator" "creation" phoneScope)
  have hstart : Reachable (· = ⟨noonWorld, []⟩)
    (Pool.Step (serving .none) (Enrolling plainLibrary homeService phoneRequest)) ⟨noonWorld, []⟩ := .start rfl
  have hcreated := Pool.reachable_call (serving_answered .none atNoon) hcreate hstart
  simp only [Prog.run_bind, Prog.run, List.length_nil, List.nil_append, ← createdWorld.eq_1] at hcreated
  have henrolled := Pool.reachable_call (serving_answered .none atNoon) .enroll hcreated
  simp only [Prog.run_bind, Prog.run, List.length_singleton, ← phoneEnrolled.eq_1, hview] at henrolled
  exact ⟨phoneEnrolled.2, view, henrolled, Subtype.ext hok.2⟩

theorem minuteLater_parses : (Actions.noon + minute).Parses := by decide

def minuteLater : Reading := ⟨Actions.noon + minute, minuteLater_parses⟩

/-- The request of the phone was accepted at noon. A minute later its capabilities have expired, and the
same request is refused. -/
theorem replay_expired : ∃ w view, Reachable (· = ⟨noonWorld, []⟩)
    (Pool.Step (serving .none) (Enrolling plainLibrary homeService phoneRequest))
      ⟨w, [.ret none, .ret (some (.ok view))]⟩ ∧
    Exec (serving .none 2) (homeService.enroll plainLibrary phoneRequest).run w
      (some (.error (.text "capability expires_at must be after issuance and current time")))
      { w with now := minuteLater } := by
  obtain ⟨w, view, hreachable, hnoon⟩ := reachable_phoneEnrolled
  have hinvalid : validateRequest plainLibrary phoneRequest minuteLater.1 =
    .error (.text "capability expires_at must be after issuance and current time") := by decide +kernel
  have hnow : w.now.1 ≤ minuteLater.1 := by
    rw [hnoon]
    decide
  refine ⟨w, view, hreachable, .call ⟨minuteLater, rfl, hnow, rfl⟩ ?_⟩
  change Exec _ (ofExcept (validateRequest plainLibrary phoneRequest minuteLater.1) >>= _).run _ _ _
  rw [hinvalid]
  exact .ret _ _

theorem replay_iff_fresh_noon : ∃ w view r w', Reachable (· = ⟨noonWorld, []⟩)
    (Pool.Step (serving .none) (Enrolling plainLibrary homeService phoneRequest))
      ⟨w, [.ret none, .ret (some (.ok view))]⟩ ∧
    Exec (serving .none 2) (homeService.enroll plainLibrary phoneRequest).run w (some r) w' ∧ Replays view w r w' := by
  obtain ⟨w, view, hreachable, hnoon⟩ := reachable_phoneEnrolled
  obtain ⟨hreplays, hanswers⟩ := replay_iff_fresh (sound_of_no_requests noonWorld_keyed rfl) hreachable (i := 1) rfl 2
  obtain ⟨r, hr⟩ := hanswers w.now (le_refl _)
  refine ⟨w, view, r, _, hreachable, hr, (hreplays r _ hr).mpr ⟨phoneManifest, rfl, Actions.noon + minute, ?_, ?_⟩⟩
  · decide
  · change w.now.1 < _
    rw [hnoon]
    decide

end AntiFlock.Enrollment
