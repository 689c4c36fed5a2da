import AntiFlock.Audit.Recovery

set_option autoImplicit false

/-!
# Tampering with the audit tables

The anchor file of a log is kept, and the tables are replaced by any others. If
they verify, their first rows are those of the log, as many as the last anchor
counts, in every field that is hashed: the anchor has the last hash of a chain,
and where no two texts collide that hash determines the chain.
-/
namespace AntiFlock.Audit
open AntiFlock.Go AntiFlock.Effect
open Lines (newline)

section Tamper
variable {service : Service} {w : World} {db : Database}

def SameEntry (service : Service) (row row' : Row) : Prop :=
  ∃ e e', service.scan row = some e ∧ service.scan row' = some e' ∧ SameHashed e e'

/-- SHA-256 tells the texts of the rows of two databases apart. -/
def NoCollision (service : Service) (db db' : Database) : Prop :=
  ∀ row ∈ db.rows, ∀ row' ∈ db'.rows, ∀ e e', service.scan row = some e → service.scan row' = some e' →
    hashDigest e = hashDigest e' → hashPayload e = hashPayload e'

theorem sameEntries {rows rows' : List Row} {es es' : List AuditEntry} (h : service.Reads rows es)
    (h' : service.Reads rows' es') (hsame : List.Forall₂ SameHashed es es') :
    List.Forall₂ (SameEntry service) rows rows' := by
  induction hsame generalizing rows rows' with
  | nil =>
    cases h
    cases h'
    exact .nil
  | cons hee _ ih =>
    cases h with
    | cons hscan hrest =>
      cases h' with
      | cons hscan' hrest' => exact .cons ⟨_, _, hscan, hscan', hee⟩ (ih hrest hrest')

theorem sameHashed_of_head {es es' : List AuditEntry} {head : AuditHead} (hchecks : Checks service "" 0 es)
    (hchecks' : Checks service "" 0 es') (hhead : head ∈ heads es) (hhead' : head ∈ heads es')
    (hcollision : ∀ e ∈ es, ∀ e' ∈ es', hashDigest e = hashDigest e' → hashPayload e = hashPayload e') :
    List.Forall₂ SameHashed (es.take head.count) (es'.take head.count) := by
  obtain ⟨hle, hof⟩ := eq_headOf_take hhead
  obtain ⟨hle', hof'⟩ := eq_headOf_take hhead'
  have hlinked : HashChain.Linked Record.previousHash Record.entryHash "" (es.take head.count) := by
    have h := hchecks.linked
    rw [← List.take_append_drop head.count es] at h
    exact (HashChain.linked_append.mp h).1
  have hlinked' : HashChain.Linked Record.previousHash Record.entryHash "" (es'.take head.count) := by
    have h := hchecks'.linked
    rw [← List.take_append_drop head.count es'] at h
    exact (HashChain.linked_append.mp h).1
  have hlength : (es.take head.count).length = (es'.take head.count).length := by
    rw [List.length_take_of_le hle, List.length_take_of_le hle']
  have htip : HashChain.tip Record.entryHash "" (es.take head.count) =
      HashChain.tip Record.entryHash "" (es'.take head.count) :=
    congrArg AuditHead.hash (hof.symm.trans hof')
  have hquoted : ∀ e ∈ es.take head.count, ∀ e' ∈ es'.take head.count,
      quotedLength e.entryHash = quotedLength e'.entryHash := by
    intro e he e' he'
    rw [(hchecks.authentic e (List.mem_of_mem_take he)).hash, (hchecks'.authentic e' (List.mem_of_mem_take he')).hash,
      quotedLength_hexEncode, quotedLength_hexEncode, hashDigest, hashDigest, Sha256.length_sum256,
      Sha256.length_sum256]
  refine hlinked.agree (R := fun p p' => quotedLength p = quotedLength p') hlinked' hlength htip rfl hquoted ?_
  intro e he e' he' hhash hlink
  have hmem := List.mem_of_mem_take he
  have hmem' := List.mem_of_mem_take he'
  rw [(hchecks.authentic e hmem).hash, (hchecks'.authentic e' hmem').hash] at hhash
  have hsame := sameHashed_of_hashPayload (hcollision e hmem e' hmem' (hexEncode_inj hhash)) hlink
  exact ⟨hsame, hsame.previousHash⟩

theorem wp_verifyLocked_shown {es : List AuditEntry} {anchors : List Anchor} {tail : List UInt8}
    (hchecks : Checks service "" 0 es) (h : AnchorFile service es w.file anchors tail) (hne : anchors ≠ []) :
    wp crashing (fun _ => True) service.verifyLocked.run (fun r _ => r = .ok () → ∃ es', service.Reads w.db.rows es' ∧
      Checks service "" 0 es' ∧ (anchors.getLast hne).head ∈ heads es') w := by
  unfold Service.verifyLocked
  rw [wp_except]
  refine wp_mono (wp_loadAnchor hchecks h hne fun _ _ _ => trivial) ?_
  rintro _ w' - ⟨rfl, rfl⟩
  refine wp_ask.mpr ⟨trivial, fun _ _ => trivial, ?_⟩
  rintro shown w' ⟨rfl, rfl⟩
  cases hchain : service.verifyChain w.db (anchors.getLast hne).head with
  | error err =>
    simp only [run_ofExcept_error]
    exact ⟨trivial, nofun⟩
  | ok missing =>
    simp only [run_ofExcept_ok]
    obtain ⟨es', hreads, hchecks', -, hhead, -⟩ := verifyChain_ok.mp hchain
    refine wp_mono (wp_invariant _ _ trivial (fun _ _ _ _ _ _ => trivial) fun _ _ _ _ _ => trivial) ?_
    intro r w'' _ _ _
    exact ⟨es', hreads, hchecks', hhead⟩

/-- Whatever tables are put beside the anchors of a log: if they verify, they begin with the rows
that were in the log when the last anchor was written. -/
theorem verified_tables_agree {w' : World} (h : Reachable Initial (Step service) w)
    (hverify : Exec crashing service.verifyLocked.run ⟨db, w.file⟩ (some (.ok ())) w')
    (hcollision : NoCollision service w.db db) :
    ∃ a, (service.anchorsOf w.file).getLast? = some a ∧ a.count ≤ w.db.rows.length ∧ a.count ≤ db.rows.length ∧
      List.Forall₂ (SameEntry service) (w.db.rows.take a.count) (db.rows.take a.count) := by
  obtain ⟨es, anchors, tail, hlog, hfile⟩ := sound_of_reachable h
  by_cases hne : anchors = []
  · have htorn : newline ∉ w.file.getD [] := mt hfile.mem_iff.mp (not_not.mpr hne)
    obtain ⟨-, err, herr⟩ := hverify.of_wp (wp_verifyLocked_torn (w := ⟨db, w.file⟩) (C := fun _ => True) htorn trivial)
    cases herr
  · obtain ⟨es', hreads', hchecks', hhead'⟩ :=
      hverify.of_wp (wp_verifyLocked_shown (w := ⟨db, w.file⟩) hlog.checks hfile hne) rfl
    have hhead := (hfile.last hne).1
    have hcollision' : ∀ e ∈ es, ∀ e' ∈ es', hashDigest e = hashDigest e' → hashPayload e = hashPayload e' := by
      intro e he e' he'
      obtain ⟨row, hrow, hscan⟩ := exists_of_forall₂ hlog.reads he
      obtain ⟨row', hrow', hscan'⟩ := exists_of_forall₂ hreads' he'
      exact hcollision row hrow row' hrow' e e' hscan hscan'
    have hsame := sameHashed_of_head hlog.checks hchecks' hhead hhead' hcollision'
    refine ⟨anchors.getLast hne, ?_, ?_, ?_, ?_⟩
    · rw [hfile.anchorsOf_eq, List.getLast?_eq_some_getLast hne]
    · rw [hlog.reads.length_eq]
      exact (eq_headOf_take hhead).1
    · rw [hreads'.length_eq]
      exact (eq_headOf_take hhead').1
    · exact sameEntries (List.forall₂_take _ hlog.reads) (List.forall₂_take _ hreads') hsame

end Tamper
/-! ## A log of one entry -/

def diligent : (q : Request) → World → Answer q × World
  | .commit entry, w =>
    match insertAuditEntry w.db entry with
    | .ok db => (.ok (), ⟨db, w.file⟩)
    | .error err => (.error err, w)
  | q, w => calm q w

theorem crashing_diligent (q : Request) (w : World) : crashing.step q w (diligent q w).1 (diligent q w).2 := by
  cases q with
  | commit entry =>
    cases h : insertAuditEntry w.db entry with
    | ok db =>
      simp only [diligent, h]
      exact .inr ⟨rfl, db, h, rfl⟩
    | error err =>
      simp only [diligent, h]
      exact .inl ⟨⟨err, rfl⟩, rfl⟩
  | _ => exact crashing_calm _ w

theorem run_action_bind {α β : Type} {x : Action α} {k : α → Action β} {a : α} {w w' : World}
    (h : Prog.run (S := auditSig) diligent x.run w = (.ok a, w')) :
    Prog.run (S := auditSig) diligent (x >>= k).run w = Prog.run (S := auditSig) diligent (k a).run w' := by
  have hbind := Prog.run_bind (S := auditSig) diligent x.run (ExceptT.bindCont k) w
  rw [h] at hbind
  exact hbind

theorem run_loadAnchor {service : Service} {es : List AuditEntry} {w : World} {anchors : List Anchor} {tail : List UInt8}
    (hchecks : Checks service "" 0 es) (h : AnchorFile service es w.file anchors tail) (hne : anchors ≠ []) :
    service.loadAnchor.run.run diligent w = (.ok (anchors.getLast hne), ⟨w.db, some (service.codec.text anchors)⟩) := by
  have hexec := Prog.exec_run (H := crashing) crashing_diligent service.loadAnchor.run w
  obtain ⟨hw, hr⟩ := hexec.of_wp (wp_loadAnchor (C := fun _ => True) hchecks h hne fun _ _ _ => trivial)
  exact Prod.ext hr hw

theorem run_anchorEntry_db {service : Service} (entry : AuditEntry) (head : AuditHead) (w : World) :
    (Prog.run (S := auditSig) diligent (service.anchorEntry entry head).run w).2.db = w.db := by
  have hwrite : ∀ head w, wp crashing (fun _ => True) (service.writeAnchor head).run (fun _ w' => w'.db = w.db) w := by
    intro head w
    unfold Service.writeAnchor
    refine wp_ask.mpr ⟨trivial, fun _ _ => trivial, ?_⟩
    rintro now w' ⟨hnow, rfl⟩
    simp only [show Instant.Parses now from hnow, ↓reduceIte]
    refine ⟨trivial, fun _ _ => trivial, ?_⟩
    rintro _ w'' rfl
    exact ⟨trivial, rfl⟩
  have hentry : wp crashing (fun _ => True) (service.anchorEntry entry head).run (fun _ w' => w'.db = w.db) w := by
    unfold Service.anchorEntry
    refine wp_ask.mpr ⟨trivial, fun _ _ => trivial, ?_⟩
    rintro db w' ⟨rfl, rfl⟩
    split
    · exact ⟨trivial, rfl⟩
    split
    · exact ⟨trivial, rfl⟩
    rw [wp_except]
    change wp crashing (fun _ => True) ((service.writeAnchor _).run.bind _) _ w'
    rw [wp_bind]
    refine wp_mono (hwrite _ w') ?_
    rintro r w'' - hdb
    cases r with
    | ok done => exact ⟨trivial, trivial, hdb⟩
    | error err => exact ⟨trivial, trivial, hdb⟩
  exact (Prog.exec_run (H := crashing) crashing_diligent (service.anchorEntry entry head).run w).of_wp hentry

def firstRequest : AppendRequest := ⟨"operator", "operator", "create", "node", "node", "success", some "\x7b\x7d"⟩

noncomputable def openedWorld : World := ((Operation.start.program zeroService).run diligent ⟨emptyDatabase, none⟩).2

noncomputable def firstWorld : World := (((Operation.append firstRequest).program zeroService).run diligent openedWorld).2

theorem openedWorld_eq : openedWorld = ⟨emptyDatabase, some (zeroService.codec.text [zeroService.signedAnchor genesis 0])⟩ := by
  rw [zeroService.codec.text_singleton]
  rfl

theorem reachable_firstWorld : Reachable Initial (Step zeroService) firstWorld := by
  have hopened : Step zeroService ⟨emptyDatabase, none⟩ openedWorld :=
    ⟨.start, _, Prog.exec_run (H := crashing) crashing_diligent _ _⟩
  have hfirst : Step zeroService openedWorld firstWorld :=
    ⟨.append firstRequest, _, Prog.exec_run (H := crashing) crashing_diligent _ _⟩
  exact .next (.next (.start rfl) hopened) hfirst

theorem length_rows_firstWorld : firstWorld.db.rows.length = 1 := by
  have hfile : AnchorFile zeroService [] openedWorld.file [zeroService.signedAnchor genesis 0] [] := by
    rw [openedWorld_eq]
    refine ⟨(List.append_nil _).symm, List.not_mem_nil, ?_, List.prefix_rfl, fun _ => rfl⟩
    intro a ha
    rw [List.mem_singleton.mp ha]
    exact verifyAnchor_signedAnchor genesis 0
  have hchecks : Checks zeroService "" 0 [] := trivial
  have hload := run_loadAnchor hchecks hfile (List.cons_ne_nil _ _)
  have hfind : (firstRequest.fields.find? fun field => !validAuditIdentifier field.2 256) = none := by decide
  have hprogram : firstWorld = ((zeroService.appendWithMutation firstRequest).run.run diligent openedWorld).2 :=
    congrArg Prod.snd (Prog.run_bind (S := auditSig) diligent _ _ openedWorld)
  rw [hprogram, Service.appendWithMutation, hfind]
  dsimp only
  have hlast : ([zeroService.signedAnchor genesis 0].getLast (List.cons_ne_nil _ _)).head = genesis := rfl
  have hhead : getAuditHead emptyDatabase = .ok genesis := rfl
  have hdatabase : openedWorld.db = emptyDatabase := by rw [openedWorld_eq]
  have hshort : ¬ 64 * 1024 < len "\x7b\x7d" := by decide
  rw [run_action_bind hload, hdatabase]
  refine (congrArg (fun r : Except AuditErr AuditEntry × World => r.2.db.rows.length)
    (run_action_bind (x := ask .database) (a := emptyDatabase) rfl)).trans ?_
  simp only [hhead, run_ofExcept_ok, hlast, ne_eq, not_true_eq_false, ↓reduceIte, firstRequest, hshort]
  refine (congrArg (fun db : Database => db.rows.length) (run_anchorEntry_db _ _ _)).trans ?_
  rfl

theorem noCollision_firstWorld : NoCollision zeroService firstWorld.db firstWorld.db := by
  obtain ⟨only, honly⟩ := List.length_eq_one_iff.mp length_rows_firstWorld
  intro row hrow row' hrow' e e' hscan hscan' _
  rw [honly] at hrow hrow'
  rw [List.mem_singleton.mp hrow] at hscan
  rw [List.mem_singleton.mp hrow', hscan, Option.some.injEq] at hscan'
  rw [hscan']

theorem exists_verified_firstWorld :
    ∃ w', Exec crashing zeroService.verifyLocked.run firstWorld (some (.ok ())) w' := by
  obtain ⟨es, anchors, tail, hlog, hfile⟩ := sound_of_reachable reachable_firstWorld
  have hne : anchors ≠ [] := by
    intro hnil
    have hlength := hlog.reads.length_eq
    rw [hfile.begun hnil, length_rows_firstWorld] at hlength
    cases hlength
  have hexec := Prog.exec_run (H := crashing) crashing_diligent zeroService.verifyLocked.run firstWorld
  have hok := (hexec.of_wp (wp_verifyLocked hlog hfile hne)).1
  exact ⟨_, hok ▸ hexec⟩

theorem verified_tables_agree_first : firstWorld.db.rows.length = 1 ∧
    ∃ a, (zeroService.anchorsOf firstWorld.file).getLast? = some a ∧ a.count ≤ firstWorld.db.rows.length ∧
      a.count ≤ firstWorld.db.rows.length ∧
      List.Forall₂ (SameEntry zeroService) (firstWorld.db.rows.take a.count) (firstWorld.db.rows.take a.count) := by
  obtain ⟨w', hverify⟩ := exists_verified_firstWorld
  exact ⟨length_rows_firstWorld, verified_tables_agree reachable_firstWorld hverify noCollision_firstWorld⟩

end AntiFlock.Audit
