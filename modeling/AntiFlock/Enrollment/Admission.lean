import AntiFlock.Enrollment.Service
import AntiFlock.Sql.Rows

set_option autoImplicit false

/-!
# Who is admitted

However the calls of the service are interleaved, a token admits one request, a
key and a node id stand in one request, and the nodes are those of the requests
that were approved in time and within the scope of their tokens. A decision is
final, and so is a revocation.
-/
namespace AntiFlock.Enrollment
open AntiFlock.Go AntiFlock.Effect AntiFlock.Sql
open AntiFlock.Server (NodeStatus)

/-! ## What rows become -/

section Rows
variable {J : Type}

/-- What a row of the requests may become: only what was decided changes, and only once. -/
def EnrollmentRequestRecord.Becomes (row row' : EnrollmentRequestRecord J) : Prop :=
  row' = { row with status := row'.status, verdict := row'.verdict, approvedTags := row'.approvedTags, nodeID := row'.nodeID } ∧
    (row.status ≠ .pending → row' = row)

/-- What a row of the tokens may become: it may be consumed, once. -/
def EnrollmentTokenRecord.Becomes (row row' : EnrollmentTokenRecord J) : Prop :=
  row' = { row with consumed := row'.consumed } ∧ (row.consumed.isSome = true → row' = row)

def Node.Becomes (row row' : Node J) : Prop :=
  row'.id = row.id ∧ row'.publicKey = row.publicKey ∧ (row.status = .revoked → row'.status = .revoked)

structure Tables.Grows (t t' : Tables J) : Prop where
  tokens : Kept EnrollmentTokenRecord.Becomes t.tokens t'.tokens
  requests : Kept EnrollmentRequestRecord.Becomes t.requests t'.requests
  nodes : Kept Node.Becomes t.nodes t'.nodes

theorem EnrollmentRequestRecord.Becomes.refl (row : EnrollmentRequestRecord J) : row.Becomes row := ⟨rfl, fun _ => rfl⟩

theorem EnrollmentTokenRecord.Becomes.refl (row : EnrollmentTokenRecord J) : row.Becomes row := ⟨rfl, fun _ => rfl⟩

theorem Node.Becomes.refl (row : Node J) : row.Becomes row := ⟨rfl, rfl, fun h => h⟩

theorem EnrollmentRequestRecord.Becomes.trans {row row' row'' : EnrollmentRequestRecord J} (h : row.Becomes row')
    (h' : row'.Becomes row'') : row.Becomes row'' := by
  refine ⟨?_, fun hdecided => ?_⟩
  · rw [h'.1, h.1]
  · have hsame := h.2 hdecided
    rw [h'.2 (hsame ▸ hdecided), hsame]

theorem EnrollmentTokenRecord.Becomes.trans {row row' row'' : EnrollmentTokenRecord J} (h : row.Becomes row')
    (h' : row'.Becomes row'') : row.Becomes row'' := by
  refine ⟨?_, fun hconsumed => ?_⟩
  · rw [h'.1, h.1]
  · have hsame := h.2 hconsumed
    rw [h'.2 (hsame ▸ hconsumed), hsame]

theorem Node.Becomes.trans {row row' row'' : Node J} (h : row.Becomes row') (h' : row'.Becomes row'') : row.Becomes row'' :=
  ⟨h'.1.trans h.1, h'.2.1.trans h.2.1, fun hrevoked => h'.2.2 (h.2.2 hrevoked)⟩

theorem Tables.Grows.refl (t : Tables J) : t.Grows t :=
  ⟨.refl EnrollmentTokenRecord.Becomes.refl _, .refl EnrollmentRequestRecord.Becomes.refl _, .refl Node.Becomes.refl _⟩

theorem Tables.Grows.trans {t t' t'' : Tables J} (h : t.Grows t') (h' : t'.Grows t'') : t.Grows t'' where
  tokens := h.tokens.trans EnrollmentTokenRecord.Becomes.trans h'.tokens
  requests := h.requests.trans EnrollmentRequestRecord.Becomes.trans h'.requests
  nodes := h.nodes.trans Node.Becomes.trans h'.nodes

/-! ### What the updates do to rows -/

variable {t t' : Tables J}

theorem consume_kept (t : Tables J) (tokenHash : List UInt8) (consumption : Consumption) :
    Kept EnrollmentTokenRecord.Becomes t.tokens (t.consume tokenHash consumption).tokens := by
  refine .map fun row _ => ?_
  split
  · rename_i h
    refine ⟨rfl, fun hconsumed => ?_⟩
    rw [Option.isNone_iff_eq_none.mp h.2] at hconsumed
    cases hconsumed
  · exact .refl row

theorem settle_kept (t : Tables J) (enrollmentID : String)
    {change : EnrollmentRequestRecord J → EnrollmentRequestRecord J} (hchange : ∀ row : EnrollmentRequestRecord J,
      row.status = .pending → row.Becomes (change row)) :
    Kept EnrollmentRequestRecord.Becomes t.requests (t.settle enrollmentID change).requests := by
  refine .map fun row _ => ?_
  split
  · rename_i h
    exact hchange row h.2
  · exact .refl row

theorem updateNode_kept (t : Tables J) (id : String) {change : Node J → Node J}
    (hchange : ∀ row ∈ t.nodes, row.id = id → row.Becomes (change row)) :
    Kept Node.Becomes t.nodes (t.updateNode id change).nodes := by
  refine .map fun row hrow => ?_
  split
  · rename_i h
    exact hchange row hrow h
  · exact .refl row

theorem Moves.grows {mutation : Mutation J} (h : Moves t mutation t') (hunique : UniqueBy Node.id t.nodes) : t.Grows t' := by
  have htokens := Kept.refl EnrollmentTokenRecord.Becomes.refl t.tokens
  have hrequests := Kept.refl EnrollmentRequestRecord.Becomes.refl t.requests
  have hnodes := Kept.refl Node.Becomes.refl t.nodes
  cases h with
  | created hoperation hfresh => exact ⟨.append EnrollmentTokenRecord.Becomes.refl _ _, hrequests, hnodes⟩
  | submitted htoken hfree hparses hnow hkeys hclaim hapart =>
    exact ⟨consume_kept _ _ _, .append EnrollmentRequestRecord.Becomes.refl _ _, hnodes⟩
  | approved hrequest hpending hparses hnow howner howns hnode hverdict =>
    refine ⟨htokens, settle_kept _ _ fun row hpending => ?_, .append Node.Becomes.refl _ _⟩
    exact ⟨rfl, fun hdecided => absurd hpending hdecided⟩
  | denied hrequest hpending hverdict =>
    refine ⟨htokens, settle_kept _ _ fun row hpending => ?_, hnodes⟩
    exact ⟨rfl, fun hdecided => absurd hpending hdecided⟩
  | @status id status now node hnode hkept =>
    refine ⟨htokens, hrequests, updateNode_kept _ _ fun row hrow hid => ⟨rfl, rfl, fun hrevoked => ?_⟩⟩
    obtain ⟨hmem, hfound⟩ := of_find hnode
    have hsame := hunique.eq hrow hmem (hid.trans hfound.symm)
    rw [hsame] at hrevoked
    by_contra hne
    exact hkept ⟨hrevoked, hne⟩
  | metadata hnode => exact ⟨htokens, hrequests, updateNode_kept _ _ fun row _ _ => ⟨rfl, rfl, fun h => h⟩⟩

end Rows

/-! ## The invariant -/

section Invariant
variable {J : Type} (lib : Library J)

def Tables.Allows (t : Tables J) (row : EnrollmentRequestRecord J) (tags : List String) : Prop :=
  ∃ token ∈ t.tokens, token.id = row.tokenID ∧
    ∃ descriptor, lib.unmarshalDescriptor token.scopeJSON = some descriptor ∧ descriptor.allowedTags = tags

/-- A row was approved, before it expired, and has become a node. -/
structure EnrollmentRequestRecord.Admits (row : EnrollmentRequestRecord J) (node : Node J) : Prop where
  approved : row.status = .approved
  nodeID : row.proposedNodeID = node.id
  publicKey : row.publicKey = node.publicKey
  intime : ∃ verdict, row.verdict = some verdict ∧ verdict.decidedAt < row.expiresAt

structure Tables.Keyed (t : Tables J) : Prop where
  tokenIDs : UniqueBy EnrollmentTokenRecord.id t.tokens
  tokenHashes : UniqueBy EnrollmentTokenRecord.hash t.tokens
  requestIDs : UniqueBy EnrollmentRequestRecord.id t.requests
  requestTokens : UniqueBy EnrollmentRequestRecord.tokenID t.requests
  requestNodes : UniqueBy EnrollmentRequestRecord.proposedNodeID t.requests
  requestKeys : UniqueBy EnrollmentRequestRecord.publicKey t.requests
  nodeIDs : UniqueBy Node.id t.nodes
  nodeKeys : UniqueBy Node.publicKey t.nodes

/-- What holds of the tables. `legacy` are the ids of nodes that were not enrolled through requests. -/
structure Tables.Admitted (legacy : List String) (t : Tables J) : Prop where
  keyed : t.Keyed
  scopes : ∀ row ∈ t.requests, t.Allows lib row row.allowedTags
  nodes : ∀ node ∈ t.nodes, node.id ∈ legacy ∨ ∃ row ∈ t.requests, row.Admits node
  approved : ∀ row ∈ t.requests, row.status = .approved → ∃ node ∈ t.nodes, row.Admits node

/-- The nodes that are new were admitted, with tags that their tokens allow. -/
def Tables.Enrolls (t t' : Tables J) : Prop :=
  ∀ node ∈ t'.nodes, (∀ old ∈ t.nodes, old.id ≠ node.id) → ∃ row ∈ t'.requests, row.Admits node ∧
    ∃ tags, t'.Allows lib row tags ∧ ∀ tag ∈ node.tags, tag ∈ tags

/-- What a mutation has been made from is in the tables. -/
def Mutation.Honest (t : Tables J) : Mutation J → Prop
  | submitEnrollmentRequest tokenHash _ record => ∃ token ∈ t.tokens, token.hash = tokenHash ∧
      ∃ descriptor, lib.unmarshalDescriptor token.scopeJSON = some descriptor ∧ descriptor.allowedTags = record.allowedTags
  | approveEnrollmentRequest enrollmentID _ _ _ tags _ node => ∃ row ∈ t.requests, row.id = enrollmentID ∧
      node.id = row.proposedNodeID ∧ node.publicKey = row.publicKey ∧ node.tags = tags ∧ ∀ tag ∈ tags, tag ∈ row.allowedTags
  | _ => True

variable {lib} {legacy : List String} {t t' : Tables J}

theorem Tables.Allows.grows {row row' : EnrollmentRequestRecord J} {tags : List String} (h : t.Allows lib row tags)
    (hgrows : t.Grows t') (hrow : row.Becomes row') : t'.Allows lib row' tags := by
  obtain ⟨token, htoken, hid, hscope⟩ := h
  obtain ⟨token', htoken', hbecomes⟩ := hgrows.tokens token htoken
  refine ⟨token', htoken', ?_, ?_⟩
  · rw [hbecomes.1, hrow.1]
    exact hid
  · rw [hbecomes.1]
    exact hscope

theorem Mutation.Honest.grows {mutation : Mutation J} (h : mutation.Honest lib t) (hgrows : t.Grows t') :
    mutation.Honest lib t' := by
  cases mutation with
  | submitEnrollmentRequest tokenHash now record =>
    obtain ⟨token, htoken, hhash, hscope⟩ := h
    obtain ⟨token', htoken', hbecomes⟩ := hgrows.tokens token htoken
    refine ⟨token', htoken', ?_, ?_⟩
    · rw [hbecomes.1]
      exact hhash
    · rw [hbecomes.1]
      exact hscope
  | approveEnrollmentRequest enrollmentID actorID operationID reasonCode tags now node =>
    obtain ⟨row, hrow, hhonest⟩ := h
    obtain ⟨row', hrow', hbecomes⟩ := hgrows.requests row hrow
    refine ⟨row', hrow', ?_⟩
    rw [hbecomes.1]
    exact hhonest
  | createEnrollmentToken token => trivial
  | denyEnrollmentRequest enrollmentID actorID operationID reasonCode now => trivial
  | setNodeStatus id status now => trivial
  | updateNodeMetadata id name tags => trivial

theorem EnrollmentRequestRecord.Admits.becomes {row row' : EnrollmentRequestRecord J} {node node' : Node J}
    (h : row.Admits node) (hrow : row.Becomes row') (hnode : node.Becomes node') : row'.Admits node' := by
  have hsame := hrow.2 (by rw [h.approved]; decide)
  rw [hsame]
  exact ⟨h.approved, h.nodeID.trans hnode.1.symm, h.publicKey.trans hnode.2.1.symm, h.intime⟩

theorem Moves.keyed {mutation : Mutation J} (hmoves : Moves t mutation t') (h : t.Keyed) : t'.Keyed := by
  cases hmoves with
  | created hoperation hfresh =>
    exact
      { h with
        tokenIDs := h.tokenIDs.append fun row hrow => (hfresh row hrow).1
        tokenHashes := h.tokenHashes.append fun row hrow => (hfresh row hrow).2 }
  | submitted htoken hfree hparses hnow hkeys hclaim hapart =>
    exact
      { h with
        tokenIDs := h.tokenIDs.map fun row => by split <;> rfl
        tokenHashes := h.tokenHashes.map fun row => by split <;> rfl
        requestIDs := h.requestIDs.append fun row hrow => (hapart row hrow).1
        requestTokens := h.requestTokens.append fun row hrow => (hapart row hrow).2.1
        requestNodes := h.requestNodes.append fun row hrow => (hapart row hrow).2.2.1
        requestKeys := h.requestKeys.append fun row hrow => (hapart row hrow).2.2.2 }
  | approved hrequest hpending hparses hnow howner howns hnode hverdict =>
    exact
      { h with
        requestIDs := h.requestIDs.map fun row => by split <;> rfl
        requestTokens := h.requestTokens.map fun row => by split <;> rfl
        requestNodes := h.requestNodes.map fun row => by split <;> rfl
        requestKeys := h.requestKeys.map fun row => by split <;> rfl
        nodeIDs := h.nodeIDs.append fun row hrow => (hnode row hrow).1
        nodeKeys := h.nodeKeys.append fun row hrow => (hnode row hrow).2 }
  | denied hrequest hpending hverdict =>
    exact
      { h with
        requestIDs := h.requestIDs.map fun row => by split <;> rfl
        requestTokens := h.requestTokens.map fun row => by split <;> rfl
        requestNodes := h.requestNodes.map fun row => by split <;> rfl
        requestKeys := h.requestKeys.map fun row => by split <;> rfl }
  | status hnode hkept =>
    exact
      { h with
        nodeIDs := h.nodeIDs.map fun row => by split <;> rfl
        nodeKeys := h.nodeKeys.map fun row => by split <;> rfl }
  | metadata hnode =>
    exact
      { h with
        nodeIDs := h.nodeIDs.map fun row => by split <;> rfl
        nodeKeys := h.nodeKeys.map fun row => by split <;> rfl }

theorem Tables.Admitted.grown (h : t.Admitted lib legacy) (hgrows : t.Grows t') (hkeyed : t'.Keyed)
    (hscopes : ∀ row ∈ t'.requests, (∀ old ∈ t.requests, old.id ≠ row.id) → t'.Allows lib row row.allowedTags)
    (henrolls : t.Enrolls lib t')
    (happroved : ∀ row ∈ t'.requests, row.status = .approved →
      (∃ old ∈ t.requests, old.id = row.id ∧ old.status = .approved) ∨ ∃ node ∈ t'.nodes, row.Admits node) :
    t'.Admitted lib legacy ∧ t.Grows t' ∧ t.Enrolls lib t' := by
  -- an old row is the row with its id
  have hrows (row : EnrollmentRequestRecord J) (hrow : row ∈ t'.requests) (old : EnrollmentRequestRecord J)
      (hold : old ∈ t.requests) (hid : old.id = row.id) : old.Becomes row := by
    obtain ⟨row', hrow', hbecomes⟩ := hgrows.requests old hold
    have hsame : row' = row := hkeyed.requestIDs.eq hrow' hrow ((congrArg EnrollmentRequestRecord.id hbecomes.1).trans hid)
    exact hsame ▸ hbecomes
  have hnodes (node : Node J) (hnode : node ∈ t'.nodes) (old : Node J) (hold : old ∈ t.nodes) (hid : old.id = node.id) :
      old.Becomes node := by
    obtain ⟨node', hnode', hbecomes⟩ := hgrows.nodes old hold
    have hsame : node' = node := hkeyed.nodeIDs.eq hnode' hnode (hbecomes.1.trans hid)
    exact hsame ▸ hbecomes
  refine ⟨⟨hkeyed, fun row hrow => ?_, fun node hnode => ?_, fun row hrow hstatus => ?_⟩, hgrows, henrolls⟩
  · by_cases hnew : ∀ old ∈ t.requests, old.id ≠ row.id
    · exact hscopes row hrow hnew
    · push Not at hnew
      obtain ⟨old, hold, hid⟩ := hnew
      have hbecomes := hrows row hrow old hold hid
      have hallows := (h.scopes old hold).grows hgrows hbecomes
      rwa [show old.allowedTags = row.allowedTags from (congrArg EnrollmentRequestRecord.allowedTags hbecomes.1).symm]
        at hallows
  · by_cases hnew : ∀ old ∈ t.nodes, old.id ≠ node.id
    · obtain ⟨row, hrow, hadmits, -⟩ := henrolls node hnode hnew
      exact .inr ⟨row, hrow, hadmits⟩
    · push Not at hnew
      obtain ⟨old, hold, hid⟩ := hnew
      rcases h.nodes old hold with hlegacy | ⟨row, hrow, hadmits⟩
      · exact .inl (hid ▸ hlegacy)
      · obtain ⟨row', hrow', hbecomes⟩ := hgrows.requests row hrow
        exact .inr ⟨row', hrow', hadmits.becomes hbecomes (hnodes node hnode old hold hid)⟩
  · rcases happroved row hrow hstatus with ⟨old, hold, hid, happroved⟩ | hadmits
    · obtain ⟨node, hnode, hadmits⟩ := h.approved old hold happroved
      obtain ⟨node', hnode', hbecomes⟩ := hgrows.nodes node hnode
      exact ⟨node', hnode', hadmits.becomes (hrows row hrow old hold hid) hbecomes⟩
    · exact hadmits

theorem enrolls_of_old (hold : ∀ node ∈ t'.nodes, ∃ old ∈ t.nodes, old.id = node.id) : t.Enrolls lib t' := by
  intro node hnode hnew
  obtain ⟨old, hold, hid⟩ := hold node hnode
  exact absurd hid (hnew old hold)

theorem Tables.Admitted.settled (h : t.Admitted lib legacy) (hgrows : t.Grows t') (hkeyed : t'.Keyed)
    (hrequests : t'.requests = t.requests) (hnodes : ∀ node ∈ t'.nodes, ∃ old ∈ t.nodes, old.id = node.id) :
    t'.Admitted lib legacy ∧ t.Grows t' ∧ t.Enrolls lib t' := by
  refine h.grown hgrows hkeyed (fun row hrow hnew => ?_) (enrolls_of_old hnodes) fun row hrow hstatus => ?_
  · exact absurd rfl (hnew row (hrequests ▸ hrow))
  · exact .inl ⟨row, hrequests ▸ hrow, rfl, hstatus⟩

theorem Tables.Admitted.submitted (h : t.Admitted lib legacy) {tokenHash : List UInt8} {now : Instant}
    {record : EnrollmentRequestRecord J} (hhonest : (Mutation.submitEnrollmentRequest tokenHash now record).Honest lib t)
    (hmoves : Moves t (.submitEnrollmentRequest tokenHash now record) t') :
    t'.Admitted lib legacy ∧ t.Grows t' ∧ t.Enrolls lib t' := by
  have hgrows := hmoves.grows h.keyed.nodeIDs
  have hkeyed := hmoves.keyed h.keyed
  obtain ⟨token, htoken, hhash, descriptor, hscope, htags⟩ := hhonest
  cases hmoves with
  | @submitted _ _ _ found hfound hfree hparses hnow hkeys hclaim hapart =>
    refine h.grown hgrows hkeyed (fun row hrow hnew => ?_) (enrolls_of_old fun node hnode => ⟨node, hnode, rfl⟩)
      fun row hrow hstatus => ?_
    · rcases List.mem_append.mp hrow with hold | hadded
      · exact absurd rfl (hnew row hold)
      · -- the token that admits the request is the one whose scope was read
        obtain ⟨hmem, hfound⟩ := of_find hfound
        have hsame : found = token := h.keyed.tokenHashes.eq hmem htoken (hfound.trans hhash.symm)
        rw [List.mem_singleton.mp hadded]
        obtain ⟨token', htoken', hbecomes⟩ := hgrows.tokens token htoken
        refine ⟨token', htoken', ?_, descriptor, ?_, htags⟩
        · rw [hbecomes.1, hsame]
          rfl
        · rw [hbecomes.1]
          exact hscope
    · rcases List.mem_append.mp hrow with hold | hadded
      · exact .inl ⟨row, hold, rfl, hstatus⟩
      · rw [List.mem_singleton.mp hadded] at hstatus
        cases hstatus

theorem Tables.Admitted.approves (h : t.Admitted lib legacy) {enrollmentID actorID operationID reasonCode : String}
    {tags : List String} {now : Instant} {node : Node J}
    (hhonest : (Mutation.approveEnrollmentRequest enrollmentID actorID operationID reasonCode tags now node).Honest lib t)
    (hmoves : Moves t (.approveEnrollmentRequest enrollmentID actorID operationID reasonCode tags now node) t') :
    t'.Admitted lib legacy ∧ t.Grows t' ∧ t.Enrolls lib t' := by
  have hgrows := hmoves.grows h.keyed.nodeIDs
  have hkeyed := hmoves.keyed h.keyed
  obtain ⟨row, hrow, hid, hnodeID, hkey, htags, hallowed⟩ := hhonest
  cases hmoves with
  | @approved _ _ _ _ _ _ _ request _ hrequest hpending hparses hnow howner howns hnode hverdict =>
    -- the request that is approved is the one the node was made from
    obtain ⟨hmem, hfound⟩ := of_find hrequest
    have hsame : request = row := h.keyed.requestIDs.eq hmem hrow (hfound.trans hid.symm)
    subst hsame
    have hadmits : (request.approve ⟨reasonCode, operationID, actorID, now⟩ tags node.id).Admits { node with revokedAt := none } :=
      ⟨rfl, hnodeID.symm, hkey.symm, _, rfl, hnow⟩
    refine h.grown hgrows hkeyed (fun row hrow hnew => ?_) (fun added hadded hnew => ?_) fun row hrow hstatus => ?_
    · obtain ⟨old, hold, rfl⟩ := List.mem_map.mp hrow
      refine absurd ?_ (hnew old hold)
      split <;> rfl
    · rcases List.mem_append.mp hadded with hold | hadded
      · exact absurd rfl (hnew added hold)
      · rw [List.mem_singleton.mp hadded]
        refine ⟨_, List.mem_map.mpr ⟨request, hrow, if_pos ⟨hfound, hpending⟩⟩, hadmits, request.allowedTags, ?_, ?_⟩
        · exact (h.scopes request hrow).grows hgrows ⟨rfl, fun hdecided => absurd hpending hdecided⟩
        · rw [htags]
          exact hallowed
    · obtain ⟨old, hold, rfl⟩ := List.mem_map.mp hrow
      by_cases hchosen : old.id = enrollmentID ∧ old.status = .pending
      · rw [if_pos hchosen]
        have hsame : old = request := h.keyed.requestIDs.eq hold hmem (hchosen.1.trans hfound.symm)
        rw [hsame]
        exact .inr ⟨_, List.mem_append_right _ (List.mem_singleton_self _), hadmits⟩
      · rw [if_neg hchosen] at hstatus ⊢
        exact .inl ⟨old, hold, rfl, hstatus⟩

theorem Tables.Admitted.denies (h : t.Admitted lib legacy) {enrollmentID actorID operationID reasonCode : String}
    {now : Instant} (hmoves : Moves t (.denyEnrollmentRequest enrollmentID actorID operationID reasonCode now) t') :
    t'.Admitted lib legacy ∧ t.Grows t' ∧ t.Enrolls lib t' := by
  have hgrows := hmoves.grows h.keyed.nodeIDs
  have hkeyed := hmoves.keyed h.keyed
  cases hmoves with
  | denied hrequest hpending hverdict =>
    refine h.grown hgrows hkeyed (fun row hrow hnew => ?_) (enrolls_of_old fun node hnode => ⟨node, hnode, rfl⟩)
      fun row hrow hstatus => ?_
    · obtain ⟨old, hold, rfl⟩ := List.mem_map.mp hrow
      refine absurd ?_ (hnew old hold)
      split <;> rfl
    · obtain ⟨old, hold, rfl⟩ := List.mem_map.mp hrow
      split at hstatus
      · cases hstatus
      · exact .inl ⟨old, hold, by rw [if_neg ‹_›], hstatus⟩

theorem Tables.Admitted.moves (h : t.Admitted lib legacy) {mutation : Mutation J} (hhonest : mutation.Honest lib t)
    (hmoves : Moves t mutation t') : t'.Admitted lib legacy ∧ t.Grows t' ∧ t.Enrolls lib t' := by
  have hgrows := hmoves.grows h.keyed.nodeIDs
  have hkeyed := hmoves.keyed h.keyed
  cases mutation with
  | createEnrollmentToken token =>
    cases hmoves with
    | created hoperation hfresh => exact h.settled hgrows hkeyed rfl fun node hnode => ⟨node, hnode, rfl⟩
  | submitEnrollmentRequest tokenHash now record => exact h.submitted hhonest hmoves
  | approveEnrollmentRequest enrollmentID actorID operationID reasonCode tags now node => exact h.approves hhonest hmoves
  | denyEnrollmentRequest enrollmentID actorID operationID reasonCode now => exact h.denies hmoves
  | setNodeStatus id status now =>
    cases hmoves with
    | status hnode hkept =>
      refine h.settled hgrows hkeyed rfl fun node hnode => ?_
      obtain ⟨old, hold, rfl⟩ := List.mem_map.mp hnode
      exact ⟨old, hold, by split <;> rfl⟩
  | updateNodeMetadata id name tags =>
    cases hmoves with
    | metadata hnode =>
      refine h.settled hgrows hkeyed rfl fun node hnode => ?_
      obtain ⟨old, hold, rfl⟩ := List.mem_map.mp hnode
      exact ⟨old, hold, by split <;> rfl⟩

end Invariant

/-! ### Times of verdicts -/

section Dated
variable {J : Type} {t t' : Tables J}

def Tables.Dated (t : Tables J) : Prop := ∀ row ∈ t.requests, ∀ verdict ∈ row.verdict, verdict.decidedAt.Parses

def Mutation.Dated : Mutation J → Prop
  | approveEnrollmentRequest _ _ _ _ _ now _ => now.Parses
  | denyEnrollmentRequest _ _ _ _ now => now.Parses
  | _ => True

theorem Tables.Dated.settle (h : t.Dated) (id : String) {change : EnrollmentRequestRecord J → EnrollmentRequestRecord J}
    (hchange : ∀ row, ∀ verdict ∈ (change row).verdict, verdict.decidedAt.Parses) : (t.settle id change).Dated := by
  intro row hrow
  obtain ⟨old, hold, rfl⟩ := List.mem_map.mp hrow
  split
  · exact hchange old
  · exact h old hold

theorem Moves.dated {mutation : Mutation J} (hmoves : Moves t mutation t') (hm : mutation.Dated) (h : t.Dated) : t'.Dated := by
  cases hmoves with
  | created hoperation hfresh => exact h
  | submitted htoken hfree hparses hnow hkeys hclaim hapart =>
    intro row hrow
    rcases List.mem_append.mp hrow with hold | hadded
    · exact h row hold
    · rw [List.mem_singleton.mp hadded]
      rintro verdict ⟨⟩
  | approved hrequest hpending hparses hnow howner howns hnode hverdict =>
    refine Tables.Dated.settle (t := { t with nodes := _ }) h _ fun row verdict hverdict => ?_
    cases Option.mem_some.mp hverdict
    exact hm
  | denied hrequest hpending hverdict =>
    refine h.settle _ fun row verdict hverdict => ?_
    cases Option.mem_some.mp hverdict
    exact hm
  | status hnode hkept => exact h
  | metadata hnode => exact h

end Dated

end AntiFlock.Enrollment
