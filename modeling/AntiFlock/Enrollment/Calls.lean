import AntiFlock.Enrollment.Admission

set_option autoImplicit false

/-!
# Calls of the enrollment service, side by side

What a call writes was made from rows that it has read, and rows stay: this keeps
the invariant of the tables, whichever calls run beside it. A call of `Enroll` that
returns has left a consumed token and a request behind.
-/
namespace AntiFlock.Enrollment
open AntiFlock.Go AntiFlock.Effect AntiFlock.Sql
open AntiFlock.Proto (minute)
open AntiFlock.Server (NodeStatus)

section Safe
variable {J : Type} (lib : Library J) (legacy : List String)

/-- What a request writes was made from what is in the tables. -/
def Request.Honest (t : Tables J) : Request J → Prop
  | appendWithMutation _ mutation => mutation.Honest lib t ∧ mutation.Dated
  | _ => True

structure World.Sound (w : World J) : Prop where
  admitted : w.tables.Admitted lib legacy
  dated : w.tables.Dated

structure World.Grows (w w' : World J) : Prop where
  tables : w.tables.Grows w'.tables
  now : w.now.1 ≤ w'.now.1

/-- A call keeps the invariant, as long as others let the tables grow. -/
abbrev Safe {α : Type} (Q : World J → α → Prop) (faults : Faults) (call : ℕ) (seen : World J)
    (p : Prog (enrollSig J) α) : Prop :=
  Ok (serving faults call) (World.Sound lib legacy) World.Grows (fun u v => u.Grows v ∧ u.tables.Enrolls lib v.tables)
    Q seen p

variable {lib legacy} {α : Type} {Q : World J → α → Prop} {faults : Faults} {call : ℕ} {seen : World J}

theorem World.Grows.refl (w : World J) : w.Grows w := ⟨.refl _, le_refl _⟩

theorem World.Grows.trans {u v w : World J} (h : u.Grows v) (h' : v.Grows w) : u.Grows w :=
  ⟨h.tables.trans h'.tables, h.now.trans h'.now⟩

theorem now_of_served {β : Type} {w w' : World J} {truth r : Except EnrollErr β}
    (h : Served faults (truth, w) w r w') : w'.now = w.now := by
  rcases h.state with rfl | rfl
  · rfl
  · rfl

theorem serving_now {q : Request J} {w w' : World J} {r : q.Answer} (h : (serving faults call).step q w r w') :
    w.now.1 ≤ w'.now.1 := by
  cases q with
  | clock =>
    obtain ⟨now, -, hnow, rfl⟩ := h
    exact hnow
  | newID kind =>
    obtain ⟨-, rfl⟩ := h
    exact le_refl _
  | getEnrollmentToken tokenHash now => exact le_of_eq (congrArg Subtype.val (now_of_served h).symm)
  | getEnrollmentTokenByOperation operationID => exact le_of_eq (congrArg Subtype.val (now_of_served h).symm)
  | getEnrollmentRequest id => exact le_of_eq (congrArg Subtype.val (now_of_served h).symm)
  | getEnrollmentRequestByToken tokenID => exact le_of_eq (congrArg Subtype.val (now_of_served h).symm)
  | getNode id => exact le_of_eq (congrArg Subtype.val (now_of_served h).symm)
  | issueNodeCertificate nodeID publicKey now =>
    have hsame : w' = w := h
    rw [hsame]
  | appendWithMutation entry mutation =>
    rcases Served.state h with rfl | rfl
    · exact le_refl _
    · rcases w.append_cases call entry mutation with ⟨err, happend⟩ | ⟨tables, -, happend⟩
      · rw [happend]
      · rw [happend]
        exact le_refl w.now.1

theorem step_sound {q : Request J} {w w' : World J} {r : q.Answer} (hq : q.Honest lib w.tables)
    (hw : w.Sound lib legacy) (hstep : (serving faults call).step q w r w') :
    w'.Sound lib legacy ∧ w.Grows w' ∧ w.tables.Enrolls lib w'.tables := by
  have hnow := serving_now hstep
  rcases serving_tables hstep with hsame | ⟨entry, mutation, rfl, hmoves⟩
  · refine ⟨⟨?_, ?_⟩, ⟨?_, hnow⟩, ?_⟩
    · rw [hsame]
      exact hw.admitted
    · rw [hsame]
      exact hw.dated
    · rw [hsame]
      exact .refl _
    · rw [hsame]
      exact enrolls_of_old fun node hnode => ⟨node, hnode, rfl⟩
  · obtain ⟨hadmitted, hgrows, henrolls⟩ := hw.admitted.moves hq.1 hmoves
    exact ⟨⟨hadmitted, hmoves.dated hq.2 hw.dated⟩, ⟨hgrows, hnow⟩, henrolls⟩

theorem safe_ask {β : Type} {Q : World J → Except EnrollErr β → Prop} {q : Request J} {f : q.Answer → Call J β}
    (hq : ∀ t, seen.tables.Grows t → q.Honest lib t)
    (hf : ∀ w r w', seen.Grows w → w.Sound lib legacy → (serving faults call).step q w r w' → w.Grows w' →
      w'.Sound lib legacy → Safe lib legacy Q faults call w' (f r).run) :
    Safe lib legacy Q faults call seen (ask q >>= f).run := by
  intro w hgrows hw r w' hstep
  obtain ⟨hw', hgrows', henrolls⟩ := step_sound (hq w.tables hgrows.tables) hw hstep
  exact ⟨⟨hgrows', henrolls⟩, hw', hf w r w' hgrows hw hstep hgrows' hw'⟩

theorem safe_ok {β γ : Type} {Q : World J → Except EnrollErr β → Prop} {a : γ} {f : γ → Call J β}
    (h : Safe lib legacy Q faults call seen (f a).run) : Safe lib legacy Q faults call seen (ofExcept (.ok a) >>= f).run := h

theorem safe_of_only {p : Prog (enrollSig J) α} (hp : p.Only fun q => ∀ t, Request.Honest lib t q) :
    Safe lib legacy (fun _ _ => True) faults call seen p := by
  refine ok_mono (ok_only (K := fun _ => True) hp (Prog.returns_true p) trivial (fun _ _ => trivial)
    fun q w r w' hq hw hstep => ?_) fun _ _ _ => trivial
  obtain ⟨hw', hgrows, henrolls⟩ := step_sound (hq w.tables) hw hstep
  exact ⟨⟨hgrows, henrolls⟩, hw', fun _ => trivial⟩

end Safe

/-! ## Calls that write nothing about requests they have read -/

section Only
variable {J : Type} {lib : Library J} {legacy : List String} {α : Type} {faults : Faults} {call : ℕ} {seen : World J}
  {P : Request J → Prop}

theorem only_ask {q : Request J} (h : P q) : (ask q).run.Only P := ⟨h, fun _ => trivial⟩

theorem only_ofExcept (r : Except EnrollErr α) : (ofExcept r : Call J α).run.Only P := trivial

theorem safe_createScopedToken (service : Service) (actorID operationID : String) (scope : TokenScope) :
    Safe lib legacy (fun _ _ => True) faults call seen (service.createScopedToken lib actorID operationID scope).run := by
  refine safe_of_only ?_
  unfold Service.createScopedToken
  split
  · exact .ret _
  split
  · exact .ret _
  refine .except (only_ofExcept _) fun _ => .except (only_ofExcept _) fun rawToken => ?_
  refine .except (only_ask fun _ => trivial) fun existing => ?_
  cases existing with
  | ok existing => exact only_ofExcept _
  | error err =>
    cases err with
    | tokenInvalid =>
      refine .except (only_ask fun _ => trivial) fun now => .except (only_ask fun _ => trivial) fun id => ?_
      dsimp only
      split
      · exact .ret _
      · refine .except (only_ask fun _ => ⟨trivial, trivial⟩) fun created => ?_
        cases created with
        | ok _ => exact .ret _
        | error err =>
          cases err with
          | operationConflict =>
            exact .except (only_ask fun _ => trivial) fun read => .except (only_ofExcept read) fun _ => only_ofExcept _
          | _ => exact .ret _
    | _ => exact .ret _

theorem safe_setStatusWithReason (actorID nodeID : String) (status : NodeStatus) (operationID reasonCode : String) :
    Safe lib legacy (fun _ _ => True) faults call seen
      (setStatusWithReason actorID nodeID status operationID reasonCode).run := by
  refine safe_of_only ?_
  unfold setStatusWithReason
  split
  · exact .ret _
  split
  · exact .ret _
  exact .except (only_ask fun _ => trivial) fun now => .except (only_ask fun _ => ⟨trivial, trivial⟩) only_ofExcept

theorem safe_updateMetadataWithOperation (actorID nodeID name : String) (tags : List String) (operationID : String) :
    Safe lib legacy (fun _ _ => True) faults call seen
      (updateMetadataWithOperation lib actorID nodeID name tags operationID).run := by
  refine safe_of_only ?_
  unfold updateMetadataWithOperation
  split
  · exact .ret _
  split
  · exact .ret _
  exact .except (only_ofExcept _) fun _ => .except (only_ask fun _ => ⟨trivial, trivial⟩) only_ofExcept

theorem safe_deny (actorID : String) (request : DenyEnrollmentRequest) :
    Safe lib legacy (fun _ _ => True) faults call seen (deny lib actorID request).run := by
  unfold deny
  split
  · trivial
  refine safe_ask (fun _ _ => trivial) fun w read w' _ _ _ _ _ => ?_
  cases read with
  | error err => trivial
  | ok record =>
    refine safe_ok ?_
    split
    · split
      · trivial
      · trivial
    · split
      · trivial
      · refine safe_ask (fun _ _ => trivial) fun w₁ now w₂ _ _ hclock _ _ => ?_
        obtain ⟨reading, rfl, -⟩ := hclock
        refine safe_ask (fun _ _ => ⟨trivial, reading.2⟩) fun w₃ written w₄ _ _ _ _ _ => ?_
        cases written with
        | ok _ => trivial
        | error err => trivial

end Only

/-! ## Approvals -/

section Approve
variable {J : Type} {lib : Library J} {legacy : List String} {faults : Faults} {call : ℕ} {seen : World J}

theorem allowed_of_approvableTags {allowed seen tags : List String} (h : approvableTags lib allowed seen tags = .ok ()) :
    ∀ tag ∈ tags, tag ∈ allowed := by
  induction tags generalizing seen with
  | nil =>
    intro tag htag
    cases htag
  | cons first rest ih =>
    unfold approvableTags at h
    split at h
    · cases h
    split at h
    · cases h
    split at h
    · cases h
    · rename_i hallowed _
      intro tag htag
      rcases List.mem_cons.mp htag with rfl | hrest
      · exact not_not.mp hallowed
      · exact ih h tag hrest

theorem safe_approvePending {actorID : String} {request : ApproveEnrollmentRequest} {record : EnrollmentRequestRecord J}
    (hrecord : record ∈ seen.tables.requests) :
    Safe lib legacy (fun _ _ => True) faults call seen (approvePending lib actorID request record).run := by
  refine safe_ask (fun _ _ => trivial) fun w (checked : Instant) w' hgrows _ _ hgrows' _ => ?_
  change Safe lib legacy _ faults call w' (ExceptT.run (if ¬ checked < record.expiresAt then _ else _))
  split
  · trivial
  cases htags : approvableTags lib record.allowedTags [] request.approvedTags with
  | error err => trivial
  | ok _ =>
    refine safe_ask (fun _ _ => trivial) fun w₁ now w₂ hgrows₁ _ hclock hgrows₁' _ => ?_
    obtain ⟨reading, rfl, -⟩ := hclock
    refine safe_ask (fun _ _ => trivial) fun w₃ certificate w₄ hgrows₂ _ _ hgrows₂' _ => ?_
    cases certificate with
    | error err => trivial
    | ok certificate =>
      have hhonest : (approvalMutation actorID request record (enrolledNode record request.approvedTags certificate reading.1)
          reading.1).Honest lib seen.tables :=
        ⟨record, hrecord, rfl, rfl, rfl, rfl, allowed_of_approvableTags htags⟩
      have hseen : seen.Grows w₄ :=
        (hgrows.trans hgrows').trans ((hgrows₁.trans hgrows₁').trans (hgrows₂.trans hgrows₂'))
      refine safe_ask (fun t ht => ⟨hhonest.grows (hseen.tables.trans ht), reading.2⟩) fun _ r _ _ _ _ _ _ => ?_
      cases r with
      | ok _ => trivial
      | error err => trivial

theorem safe_approve (actorID : String) (request : ApproveEnrollmentRequest) :
    Safe lib legacy (fun _ _ => True) faults call seen (approve lib actorID request).run := by
  unfold approve
  split
  · trivial
  split
  · trivial
  refine safe_ask (fun _ _ => trivial) fun w read w' _ _ hread _ _ => ?_
  cases read with
  | error err => trivial
  | ok record =>
    obtain ⟨hfound, rfl⟩ := Prod.mk.inj (Served.ok hread)
    obtain ⟨hrecord, -⟩ := of_find (getEnrollmentRequest_eq_ok.mp hfound).1
    refine safe_ok ?_
    split
    · split
      · trivial
      · refine safe_ask (fun _ _ => trivial) fun w' node w'' _ _ _ _ _ => ?_
        exact safe_of_only (only_ofExcept _)
    · split
      · trivial
      · exact safe_approvePending hrecord

end Approve

/-! ## Requests that are accepted -/

section Consumed
variable {J : Type} {lib : Library J} {t t' : Tables J} {tokenHash digest : List UInt8} {requestID : String}
  {token token' : EnrollmentTokenRecord J} {row row' : EnrollmentRequestRecord J}

/-- A request has consumed a token, and a row is there for it. -/
structure Tables.Consumed (t : Tables J) (tokenHash : List UInt8) (requestID : String) (digest : List UInt8)
    (token : EnrollmentTokenRecord J) (row : EnrollmentRequestRecord J) : Prop where
  stored : token ∈ t.tokens
  hash : token.hash = tokenHash
  readable : token.Readable
  consumed : ∃ consumption ∈ token.consumed, consumption.requestID = requestID ∧ consumption.requestDigest = digest
  requested : row ∈ t.requests
  tokenID : row.tokenID = token.id
  times : row.requestedAt.Parses ∧ row.expiresAt.Parses

theorem EnrollmentTokenRecord.Becomes.same (h : token.Becomes token') {consumption : Consumption}
    (hconsumed : consumption ∈ token.consumed) : token' = token :=
  h.2 (Option.isSome_of_mem hconsumed)

theorem Tables.Consumed.grows (h : t.Consumed tokenHash requestID digest token row) (hgrows : t.Grows t') :
    ∃ row', row.Becomes row' ∧ t'.Consumed tokenHash requestID digest token row' := by
  obtain ⟨consumption, hconsumed, hby⟩ := h.consumed
  obtain ⟨token', htoken', hbecomes⟩ := hgrows.tokens token h.stored
  obtain ⟨row', hrow', hrow⟩ := hgrows.requests row h.requested
  refine ⟨row', hrow, hbecomes.same hconsumed ▸ htoken', h.hash, h.readable, ⟨consumption, hconsumed, hby⟩, hrow', ?_, ?_⟩
  · rw [hrow.1]
    exact h.tokenID
  · rw [hrow.1]
    exact h.times

theorem Moves.consumed {now : Instant} {record : EnrollmentRequestRecord J}
    (hmoves : Moves t (.submitEnrollmentRequest tokenHash now record) t') (hnow : now.Parses)
    (hrequested : record.requestedAt.Parses) (hcreated : ∀ token ∈ t.tokens, token.hash = tokenHash → token.createdAt.Parses) :
    ∃ token tokenID expiresAt,
      t'.Consumed tokenHash record.requestID record.requestDigest token (record.submitted tokenID expiresAt) := by
  cases hmoves with
  | @submitted _ _ _ token htoken hfree hparses hbefore hkeys hclaim hapart =>
    obtain ⟨hmem, hhash⟩ := of_find htoken
    refine ⟨_, token.id, token.expiresAt, List.mem_map.mpr ⟨token, hmem, if_pos ⟨hhash, hfree⟩⟩, hhash, ?_, ?_, ?_, rfl, ?_⟩
    · refine ⟨hcreated token hmem hhash, hparses, fun consumption hconsumption => ?_⟩
      cases Option.mem_some.mp hconsumption
      exact hnow
    · exact ⟨_, rfl, rfl, rfl⟩
    · exact List.mem_append_right _ (List.mem_singleton_self _)
    · exact ⟨hrequested, hparses⟩

theorem exists_enrollmentRequestToProto_iff : (∃ view, enrollmentRequestToProto lib row = .ok view) ↔
    (∃ capabilities, lib.unmarshalCapabilities row.capabilitiesJSON = some capabilities) ∧ row.nodeType.known = true := by
  unfold enrollmentRequestToProto
  cases lib.unmarshalCapabilities row.capabilitiesJSON with
  | none => simp
  | some capabilities =>
    cases row.nodeType.known with
    | false => simp
    | true => simp

theorem enrollmentRequestToProto_shows {view : EnrollmentView} (h : enrollmentRequestToProto lib row = .ok view) :
    view.id = row.id ∧ view.status = row.status := by
  unfold enrollmentRequestToProto at h
  split at h
  · cases h
  split at h
  · cases h
  · cases h
    exact ⟨rfl, rfl⟩

theorem EnrollmentRequestRecord.Becomes.shown (h : row.Becomes row') (hshown : ∃ view, enrollmentRequestToProto lib row = .ok view) :
    ∃ view, enrollmentRequestToProto lib row' = .ok view := by
  rw [exists_enrollmentRequestToProto_iff] at hshown ⊢
  rw [h.1]
  exact hshown

end Consumed

section Enroll
variable {J : Type} (lib : Library J) (service : Service) (request : EnrollNodeRequest)

/-- A request was accepted: it passed the checks before, and it has consumed its token. -/
def Accepted (view : EnrollmentView) (w : World J) : Prop :=
  ∃ (earlier : Reading) (rawToken : List UInt8) (token : EnrollmentTokenRecord J) (descriptor : EnrollmentTokenDescriptor)
    (proof : List UInt8) (row : EnrollmentRequestRecord J), earlier.1 ≤ w.now.1 ∧
    validateRequest lib request earlier.1 = .ok () ∧ parseToken request.tokenValue = .ok rawToken ∧
    service.admits lib request token = .ok (descriptor, proof) ∧
    w.tables.Consumed (tokenDigest rawToken) request.requestId proof token row ∧
    (∃ shown, enrollmentRequestToProto lib row = .ok shown) ∧ row.id = view.id

/-- What `Enroll` returns, it has accepted. -/
def Accepts (w : World J) (r : Except EnrollErr EnrollmentView) : Prop :=
  ∀ view, r = .ok view → Accepted lib service request view w

/-- What a call of `Enroll` has checked when it has read its token. The token may have been consumed since. -/
structure Passes (w : World J) (rawToken : List UInt8) (token : EnrollmentTokenRecord J)
    (descriptor : EnrollmentTokenDescriptor) (proof : List UInt8) (now : Reading) : Prop where
  since : now.1 ≤ w.now.1
  valid : validateRequest lib request now.1 = .ok ()
  parsed : parseToken request.tokenValue = .ok rawToken
  stored : ∃ row ∈ w.tables.tokens, token.Becomes row
  hash : token.hash = tokenDigest rawToken
  readable : token.createdAt.Parses ∧ token.expiresAt.Parses
  admits : service.admits lib request token = .ok (descriptor, proof)

variable {lib service request} {legacy : List String} {faults : Faults} {call : ℕ} {seen : World J}

theorem Accepted.grows {view : EnrollmentView} {w w' : World J} (h : Accepted lib service request view w)
    (hgrows : w.Grows w') : Accepted lib service request view w' := by
  obtain ⟨earlier, rawToken, token, descriptor, proof, row, hearlier, hvalid, hparsed, hadmits, hconsumed, hshown, hid⟩ := h
  obtain ⟨row', hbecomes, hconsumed'⟩ := hconsumed.grows hgrows.tables
  refine ⟨earlier, rawToken, token, descriptor, proof, row', hearlier.trans hgrows.now, hvalid, hparsed, hadmits, hconsumed',
    hbecomes.shown hshown, ?_⟩
  rw [hbecomes.1]
  exact hid

theorem accepts_error (w : World J) (err : EnrollErr) : Accepts lib service request w (.error err) := by
  rintro view ⟨⟩

theorem admits_scope {token : EnrollmentTokenRecord J} {descriptor : EnrollmentTokenDescriptor} {proof : List UInt8}
    (h : service.admits lib request token = .ok (descriptor, proof)) :
    lib.unmarshalDescriptor token.scopeJSON = some descriptor := by
  unfold Service.admits at h
  cases hscope : lib.unmarshalDescriptor token.scopeJSON with
  | none =>
    rw [hscope] at h
    cases h
  | some found =>
    rw [hscope] at h
    dsimp only at h
    repeat' split at h
    all_goals cases h
    rfl

theorem admits_of_becomes {token token' : EnrollmentTokenRecord J} (h : token.Becomes token') :
    service.admits lib request token' = service.admits lib request token := by
  unfold Service.admits
  rw [h.1]

section Passes
variable {w w' : World J} {rawToken proof : List UInt8} {token : EnrollmentTokenRecord J}
  {descriptor : EnrollmentTokenDescriptor} {now : Reading}

theorem Passes.grows (h : Passes lib service request w rawToken token descriptor proof now) (hgrows : w.Grows w') :
    Passes lib service request w' rawToken token descriptor proof now := by
  obtain ⟨row, hrow, hbecomes⟩ := h.stored
  obtain ⟨row', hrow', hbecomes'⟩ := hgrows.tables.tokens row hrow
  exact { h with
    since := h.since.trans hgrows.now
    stored := ⟨row', hrow', hbecomes.trans hbecomes'⟩ }

theorem Passes.becomes (h : Passes lib service request w rawToken token descriptor proof now) (hw : w.tables.Keyed)
    {row : EnrollmentTokenRecord J} (hrow : row ∈ w.tables.tokens) (hhash : row.hash = tokenDigest rawToken) :
    token.Becomes row := by
  obtain ⟨row', hrow', hbecomes⟩ := h.stored
  have hhash' : row'.hash = tokenDigest rawToken := (congrArg EnrollmentTokenRecord.hash hbecomes.1).trans h.hash
  rwa [hw.tokenHashes.eq hrow hrow' (hhash.trans hhash'.symm)]

theorem Passes.accepted (h : Passes lib service request w rawToken token descriptor proof now) (hw : w.tables.Keyed)
    {consumed : EnrollmentTokenRecord J} {row : EnrollmentRequestRecord J}
    (hconsumed : w.tables.Consumed (tokenDigest rawToken) request.requestId proof consumed row)
    (hshown : ∃ shown, enrollmentRequestToProto lib row = .ok shown) {view : EnrollmentView} (hid : row.id = view.id) :
    Accepted lib service request view w := by
  have hbecomes := h.becomes hw hconsumed.stored hconsumed.hash
  exact ⟨now, rawToken, consumed, descriptor, proof, row, h.since, h.valid, h.parsed,
    (admits_of_becomes hbecomes).trans h.admits, hconsumed, hshown, hid⟩

end Passes

section Submit
variable {rawToken proof : List UInt8} {token : EnrollmentTokenRecord J} {descriptor : EnrollmentTokenDescriptor} {now : Reading}

theorem safe_replay (hpasses : Passes lib service request seen rawToken token descriptor proof now) :
    Safe lib legacy (fun w r => ∀ row, r = .ok row → ∀ view, enrollmentRequestToProto lib row = .ok view →
        Accepted lib service request view w) faults call seen
      (resolveEnrollmentRequestReplay (tokenDigest rawToken) request.requestId proof).run := by
  refine safe_ask (fun _ _ => trivial) fun w read w' hgrows _ hread _ _ => ?_
  cases read with
  | error err =>
    rintro row ⟨⟩
  | ok found =>
    obtain ⟨hfound, rfl⟩ := Prod.mk.inj (Served.ok hread)
    obtain ⟨hfind, hreadable, -⟩ := getEnrollmentToken_eq_ok.mp hfound
    obtain ⟨hmem, hhash⟩ := of_find hfind
    refine safe_ok ?_
    split
    · rintro row ⟨⟩
    · rename_i consumption hconsumed
      split
      · rintro row ⟨⟩
      · rename_i hsame
        push Not at hsame
        refine safe_ask (fun _ _ => trivial) fun w₁ read w₂ hgrows₁ hw₁ hread _ _ => ?_
        cases read with
        | error err =>
          rintro row ⟨⟩
        | ok row =>
          obtain ⟨hfound, rfl⟩ := Prod.mk.inj (Served.ok hread)
          obtain ⟨hfind, hparses, hparses', -⟩ := getEnrollmentRequestByToken_eq_ok.mp hfound
          obtain ⟨hrow, htokenID⟩ := of_find hfind
          rintro _ ⟨⟩ view hview
          obtain ⟨found', hfound', hbecomes⟩ := hgrows₁.tables.tokens found hmem
          have hfound : w₁.tables.Consumed (tokenDigest rawToken) request.requestId proof found row :=
            ⟨hbecomes.same hconsumed ▸ hfound', hhash, hreadable, ⟨consumption, hconsumed, hsame⟩, hrow, htokenID, hparses,
              hparses'⟩
          exact (hpasses.grows (hgrows.trans hgrows₁)).accepted hw₁.admitted.keyed hfound ⟨view, hview⟩
            (enrollmentRequestToProto_shows hview).1.symm

theorem safe_submitAs {capabilities : J} {proposedNodeID : String}
    (hpasses : Passes lib service request seen rawToken token descriptor proof now) :
    Safe lib legacy (Accepts lib service request) faults call seen
      (submitAs lib request (tokenDigest rawToken) token descriptor proof capabilities now.1 proposedNodeID).run := by
  refine safe_ask (fun _ _ => trivial) fun w id w' hgrows _ _ hgrows' _ => ?_
  have hhonest : (Mutation.submitEnrollmentRequest (tokenDigest rawToken) now.1
      (enrollmentRecord request token descriptor proof capabilities id proposedNodeID now.1)).Honest lib seen.tables := by
    obtain ⟨row, hrow, hbecomes⟩ := hpasses.stored
    refine ⟨row, hrow, ?_, descriptor, ?_, rfl⟩
    · rw [hbecomes.1]
      exact hpasses.hash
    · rw [hbecomes.1]
      exact admits_scope hpasses.admits
  refine safe_ask (fun t ht => ⟨hhonest.grows ((hgrows.trans hgrows').tables.trans ht), trivial⟩)
    fun w₁ r w₂ hgrows₁ hw₁ hwritten hgrows₂ hw₂ => ?_
  have hpasses₁ := hpasses.grows ((hgrows.trans hgrows').trans hgrows₁)
  have hpasses₂ := hpasses₁.grows hgrows₂
  cases r with
  | ok _ =>
    rcases w₁.append_cases call _ _ with ⟨err, happend⟩ | ⟨tables, hmoves, happend⟩
    · cases happend.symm.trans (Served.ok hwritten)
    · cases happend.symm.trans (Served.ok hwritten)
      obtain ⟨consumed, tokenID, expiresAt, hconsumed⟩ := hmoves.consumed now.2 now.2 fun row hrow hhash => by
        rw [(hpasses₁.becomes hw₁.admitted.keyed hrow hhash).1]
        exact hpasses₁.readable.1
      intro view hview
      have hshown := exists_enrollmentRequestToProto_iff.mp ⟨view, hview⟩
      exact hpasses₂.accepted hw₂.admitted.keyed hconsumed (exists_enrollmentRequestToProto_iff.mpr hshown)
        (enrollmentRequestToProto_shows hview).1.symm
  | error err =>
    cases err with
    | tokenUsed =>
      exact ok_except (safe_replay hpasses₂) (fun w err _ => accepts_error w err) fun w row h view hview => h row rfl view hview
    | _ => exact accepts_error _ _

theorem safe_submit {manifest : Proto.CapabilityManifest}
    (hpasses : Passes lib service request seen rawToken token descriptor proof now) :
    Safe lib legacy (Accepts lib service request) faults call seen
      (submit lib request manifest (tokenDigest rawToken) token descriptor proof now.1).run := by
  unfold submit
  cases validateCSR lib request with
  | error err => exact accepts_error _ _
  | ok _ =>
    cases validateCapabilities lib manifest now.1 with
    | error err => exact accepts_error _ _
    | ok _ =>
      cases lib.marshalCapabilities manifest with
      | none => exact accepts_error _ _
      | some capabilities =>
        change Safe lib legacy _ faults call seen (ExceptT.run (if _ then _ else _))
        split
        · refine safe_ask (fun _ _ => trivial) fun w nodeID w' hgrows _ _ hgrows' _ => ?_
          exact safe_submitAs (hpasses.grows (hgrows.trans hgrows'))
        · exact safe_submitAs hpasses

end Submit

theorem safe_enroll : Safe lib legacy (Accepts lib service request) faults call seen (service.enroll lib request).run := by
  refine safe_ask (fun _ _ => trivial) fun w now w' _ _ hclock _ _ => ?_
  obtain ⟨reading, rfl, -, rfl⟩ := hclock
  cases hvalid : validateRequest lib request reading.1 with
  | error err => exact accepts_error _ _
  | ok _ =>
    cases hparsed : parseToken request.tokenValue with
    | error err => exact accepts_error _ _
    | ok rawToken =>
      refine safe_ask (fun _ _ => trivial) fun w₁ read w₂ hgrows _ hread _ _ => ?_
      cases read with
      | error err => exact accepts_error _ _
      | ok token =>
        obtain ⟨hfound, rfl⟩ := Prod.mk.inj (Served.ok hread)
        obtain ⟨hfind, hreadable, -⟩ := getEnrollmentToken_eq_ok.mp hfound
        obtain ⟨hstored, hhash⟩ := of_find hfind
        refine safe_ok ?_
        cases hadmits : service.admits lib request token with
        | error err => exact accepts_error _ _
        | ok admitted =>
          obtain ⟨descriptor, proof⟩ := admitted
          have hpasses : Passes lib service request w₁ rawToken token descriptor proof reading :=
            ⟨hgrows.now, hvalid, hparsed, ⟨token, hstored, .refl token⟩, hhash, ⟨hreadable.1, hreadable.2.1⟩, hadmits⟩
          change Safe lib legacy _ faults call w₁ (ExceptT.run (if _ then _ else _))
          split
          · refine ok_except (safe_replay hpasses) (fun w err _ => accepts_error w err) fun w row h => ?_
            exact fun view hview => h row rfl view hview
          · split
            · exact accepts_error _ _
            · exact safe_submit hpasses

end Enroll

/-! ## Runs -/

section Run
variable {J : Type} (lib : Library J)

inductive Serves : Prog (enrollSig J) Unit → Prop
  | createScopedToken (service : Service) (actorID operationID : String) (scope : TokenScope) :
      Serves ((service.createScopedToken lib actorID operationID scope).run.bind fun _ => .ret ())
  | enroll (service : Service) (request : EnrollNodeRequest) :
      Serves ((service.enroll lib request).run.bind fun _ => .ret ())
  | approve (actorID : String) (request : ApproveEnrollmentRequest) :
      Serves ((Enrollment.approve lib actorID request).run.bind fun _ => .ret ())
  | deny (actorID : String) (request : DenyEnrollmentRequest) :
      Serves ((Enrollment.deny lib actorID request).run.bind fun _ => .ret ())
  | setStatusWithReason (actorID nodeID : String) (status : NodeStatus) (operationID reasonCode : String) :
      Serves ((Enrollment.setStatusWithReason actorID nodeID status operationID reasonCode).run.bind fun _ => .ret ())
  | updateMetadataWithOperation (actorID nodeID name : String) (tags : List String) (operationID : String) :
      Serves ((Enrollment.updateMetadataWithOperation lib actorID nodeID name tags operationID).run.bind fun _ => .ret ())

variable {lib} {legacy : List String} {faults : Faults}

theorem safe_serves {call : ℕ} {seen : World J} {p : Prog (enrollSig J) Unit} (hp : Serves lib p) :
    Safe lib legacy (fun _ _ => True) faults call seen p := by
  cases hp with
  | createScopedToken service actorID operationID scope =>
    exact ok_bind (safe_createScopedToken service actorID operationID scope) fun _ _ _ => trivial
  | enroll service request => exact ok_bind safe_enroll fun _ _ _ => trivial
  | approve actorID request => exact ok_bind (safe_approve actorID request) fun _ _ _ => trivial
  | deny actorID request => exact ok_bind (safe_deny actorID request) fun _ _ _ => trivial
  | setStatusWithReason actorID nodeID status operationID reasonCode =>
    exact ok_bind (safe_setStatusWithReason actorID nodeID status operationID reasonCode) fun _ _ _ => trivial
  | updateMetadataWithOperation actorID nodeID name tags operationID =>
    exact ok_bind (safe_updateMetadataWithOperation actorID nodeID name tags operationID) fun _ _ _ => trivial

theorem sound_of_no_requests {w : World J} (hkeyed : w.tables.Keyed) (hrequests : w.tables.requests = []) :
    w.Sound lib (w.tables.nodes.map Node.id) := by
  have hnone (row : EnrollmentRequestRecord J) (hrow : row ∈ w.tables.requests) : False := by
    rw [hrequests] at hrow
    cases hrow
  exact ⟨⟨hkeyed, fun row hrow => (hnone row hrow).elim, fun node hnode => .inl (List.mem_map_of_mem hnode),
    fun row hrow => (hnone row hrow).elim⟩, fun row hrow => (hnone row hrow).elim⟩

/-- However calls are interleaved: tokens, keys and node ids stand in one request each, the nodes are those
of the approved requests, and with every step rows stay decided or revoked, and nodes that appear were
approved in time and within the scope of their tokens. -/
theorem calls_keep_admitted {w₀ : World J} (hkeyed : w₀.tables.Keyed) (hrequests : w₀.tables.requests = [])
    {c : Pool (enrollSig J) (World J) Unit}
    (hc : Reachable (· = ⟨w₀, []⟩) (Pool.Step (serving faults) (Serves lib)) c) :
    c.world.tables.Admitted lib (w₀.tables.nodes.map Node.id) ∧
      ∀ c', Pool.Step (serving faults) (Serves lib) c c' →
        c.world.tables.Grows c'.world.tables ∧ c.world.tables.Enrolls lib c'.world.tables := by
  have hgood := Pool.good_of_reachable (fun _ w => World.Grows.refl w) World.Grows.trans (fun _ h => h.1)
    (fun i p hp w _ => safe_serves hp) (fun c hinit => hinit ▸ Pool.good_nil (sound_of_no_requests hkeyed hrequests)) hc
  refine ⟨hgood.invariant.admitted, fun c' hstep => ?_⟩
  rcases (hstep.good (fun _ w => World.Grows.refl w) World.Grows.trans (fun _ h => h.1)
    (fun i p hp w _ => safe_serves hp) hgood).2 with hsame | ⟨i, hgrows, henrolls⟩
  · rw [hsame]
    exact ⟨.refl _, enrolls_of_old fun node hnode => ⟨node, hnode, rfl⟩⟩
  · exact ⟨hgrows.tables, henrolls⟩

end Run

/-! ### A phone is enrolled -/

section Answered
variable {J : Type}

/-- The world when the clock shows a time, unless it has shown a later one. -/
def World.tick (w : World J) (now : Reading) : World J := if w.now.1 ≤ now.1 then { w with now } else w

theorem World.tick_later (w : World J) (now : Reading) :
    w.now.1 ≤ (w.tick now).now.1 ∧ w.tick now = { w with now := (w.tick now).now } := by
  unfold World.tick
  split
  · exact ⟨‹_›, rfl⟩
  · exact ⟨le_refl _, rfl⟩

/-- Answers without faults, where the clock shows a time and all random bytes are zero. -/
def answered (now : Reading) (call : ℕ) : (q : Request J) → World J → q.Answer × World J
  | .clock, w => ((w.tick now).now.1, w.tick now)
  | .newID kind, w => (kind ++ "_" ++ hexEncode (List.replicate 16 0), w)
  | .getEnrollmentToken tokenHash time, w => (w.tables.getEnrollmentToken tokenHash time, w)
  | .getEnrollmentTokenByOperation operationID, w => (w.tables.getEnrollmentTokenByOperation operationID, w)
  | .getEnrollmentRequest id, w => (w.tables.getEnrollmentRequest id, w)
  | .getEnrollmentRequestByToken tokenID, w => (w.tables.getEnrollmentRequestByToken tokenID, w)
  | .getNode id, w => (w.tables.getNode id, w)
  | .issueNodeCertificate _ _ _, w => (.ok "certificate", w)
  | .appendWithMutation entry mutation, w => w.append call entry mutation

theorem serving_answered (faults : Faults) (now : Reading) (call : ℕ) (q : Request J) (w : World J) :
    (serving faults call).step q w (answered now call q w).1 (answered now call q w).2 := by
  cases q with
  | clock => exact ⟨(w.tick now).now, rfl, w.tick_later now⟩
  | newID kind => exact ⟨⟨List.replicate 16 0, rfl, rfl⟩, rfl⟩
  | getEnrollmentToken tokenHash time => exact .served
  | getEnrollmentTokenByOperation operationID => exact .served
  | getEnrollmentRequest id => exact .served
  | getEnrollmentRequestByToken tokenID => exact .served
  | getNode id => exact .served
  | issueNodeCertificate nodeID publicKey time => rfl
  | appendWithMutation entry mutation => exact .served

end Answered

/-- Messages are stored as they are, and every signature holds. -/
def plainLibrary : Library (EnrollmentTokenDescriptor ⊕ Proto.CapabilityManifest) where
  marshalDescriptor descriptor := some (.inl descriptor)
  unmarshalDescriptor := Sum.getLeft?
  unmarshal_descriptor := by
    rintro descriptor _ ⟨⟩
    rfl
  marshalCapabilities manifest := some (.inr manifest)
  unmarshalCapabilities := Sum.getRight?
  unmarshal_capabilities := by
    rintro manifest _ ⟨⟩
    rfl
  size _ := 1000
  rejectUnknownFields _ := none
  unknownManifest _ := false
  rejectUnknown _ := none
  marshal _ := some []
  verify _ _ _ := true
  parseCertificateRequest _ := none
  quote := Json.quote

def homeService : Service := ⟨15 * minute, "home", "operator", fun _ _ => .ok (List.replicate 64 0)⟩

theorem noon_parses : Actions.noon.Parses := by decide

def atNoon : Reading := ⟨Actions.noon, noon_parses⟩

/-- The capabilities of a phone, which says that they hold for a minute. -/
def phoneManifest : Proto.CapabilityManifest where
  nodeId := ""
  revision := 1
  issuedAt := some (Events.timestamp Actions.noon)
  expiresAt := some (Events.timestamp (Actions.noon + minute))
  capabilities := [⟨"network.observe", .network, [.observe], .full, "agent", "1", [], none⟩]
  signature := none

def phoneRequest : EnrollNodeRequest where
  tokenValue := enrollmentTokenPrefix ++ rawURLBase64 (List.replicate 64 0)
  requestId := "request"
  displayName := "phone"
  nodeType := .phone
  platform := "android"
  platformVersion := "15"
  keyAlgorithm := "ed25519"
  publicKey := List.replicate 32 1
  proofOfPossession := List.replicate 64 2
  certificateSigningRequestDer := []
  capabilities := some phoneManifest
  requestedNodeId := ""

def phoneApproval : ApproveEnrollmentRequest :=
  ⟨"enrollment_request_" ++ hexEncode (List.replicate 16 0), "approval", "known", ["mobile"]⟩

def phoneScope : TokenScope := ⟨.phone, ["home", "mobile"]⟩

def phoneCreates : Prog (enrollSig (EnrollmentTokenDescriptor ⊕ Proto.CapabilityManifest)) Unit :=
  (homeService.createScopedToken plainLibrary "operator" "creation" phoneScope).run.bind fun _ => .ret ()

def phoneEnrolls : Prog (enrollSig (EnrollmentTokenDescriptor ⊕ Proto.CapabilityManifest)) Unit :=
  (homeService.enroll plainLibrary phoneRequest).run.bind fun _ => .ret ()

def phoneApproved : Prog (enrollSig (EnrollmentTokenDescriptor ⊕ Proto.CapabilityManifest)) Unit :=
  (approve plainLibrary "operator" phoneApproval).run.bind fun _ => .ret ()

def noonWorld : World (EnrollmentTokenDescriptor ⊕ Proto.CapabilityManifest) := ⟨atNoon, ⟨[], [], [], []⟩, []⟩

def phoneWorld : World (EnrollmentTokenDescriptor ⊕ Proto.CapabilityManifest) :=
  (phoneApproved.run (answered atNoon 2) (phoneEnrolls.run (answered atNoon 1) (phoneCreates.run (answered atNoon 0) noonWorld).2).2).2

theorem noonWorld_keyed : noonWorld.tables.Keyed :=
  ⟨.nil, .nil, .nil, .nil, .nil, .nil, .nil, .nil⟩

theorem reachable_phoneWorld : ∃ threads, Reachable (· = ⟨noonWorld, []⟩) (Pool.Step (serving .none) (Serves plainLibrary))
    ⟨phoneWorld, threads⟩ := by
  have hstart : Reachable (· = ⟨noonWorld, []⟩) (Pool.Step (serving .none) (Serves plainLibrary)) ⟨noonWorld, []⟩ := .start rfl
  have hcreates := Pool.reachable_call (serving_answered .none atNoon)
    (show Serves plainLibrary phoneCreates from .createScopedToken homeService "operator" "creation" phoneScope) hstart
  have henrolls := Pool.reachable_call (serving_answered .none atNoon)
    (show Serves plainLibrary phoneEnrolls from .enroll homeService phoneRequest) hcreates
  have happroves := Pool.reachable_call (serving_answered .none atNoon)
    (show Serves plainLibrary phoneApproved from .approve "operator" phoneApproval) henrolls
  exact ⟨_, happroves⟩

theorem calls_admit_phone : phoneWorld.tables.nodes.map (fun node => (node.status, node.tags)) = [(.active, ["mobile"])] ∧
    phoneWorld.tables.Admitted plainLibrary [] := by
  obtain ⟨threads, hreachable⟩ := reachable_phoneWorld
  exact ⟨by decide +kernel, (calls_keep_admitted noonWorld_keyed rfl hreachable).1⟩

end AntiFlock.Enrollment
