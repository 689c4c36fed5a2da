import AntiFlock.Audit.Verify
import Mathlib.Data.List.Chain

set_option autoImplicit false

/-!
# Recovery of the audit service

A process that appends to the log may die between the commit of an entry and the
last byte of its anchor. The log and the anchors then still belong together: the
anchors are those of the first heads of the log, with at most a torn record behind
them. From there, opening the service writes the missing anchors, unless not even
the first record is whole.
-/
namespace AntiFlock.Audit
open AntiFlock.Go AntiFlock.Effect
open Lines (newline)

structure World where
  db : Database
  file : Option (List UInt8)

/-- A machine on which nothing fails, but on which a process may die at any point. A commit may be
refused. -/
def crashing : Handler auditSig World where
  step
    | .stat, w, r, w' => r = w.file.isSome ∧ w' = w
    | .read, w, r, w' => r = w.file ∧ w' = w
    | .truncate length, w, _, w' => w' = ⟨w.db, w.file.map (List.take length)⟩
    | .append content, w, _, w' => w' = ⟨w.db, some (w.file.getD [] ++ content)⟩
    | .database, w, r, w' => r = w.db ∧ w' = w
    | .commit entry, w, r, w' => (∃ err, r = .error err) ∧ w' = w ∨
        r = .ok () ∧ ∃ db, insertAuditEntry w.db entry = .ok db ∧ w' = ⟨db, w.file⟩
    | .clock, w, r, w' => Instant.Parses r ∧ w' = w
    | .newID, w, _, w' => w' = w
  torn
    | .truncate length, w, w' => w' = w ∨ w' = ⟨w.db, w.file.map (List.take length)⟩
    | .append content, w, w' => w' = w ∨ ∃ written, written <+: content ∧
        w' = ⟨w.db, some (w.file.getD [] ++ written)⟩
    | .commit entry, w, w' => w' = w ∨ ∃ db, insertAuditEntry w.db entry = .ok db ∧ w' = ⟨db, w.file⟩
    | _, w, w' => w' = w

section Rules
variable {C : World → Prop} {α : Type}

theorem wp_ask {q : Request} {f : Answer q → Action α} {Q : Except AuditErr α → World → Prop} {w : World} :
    wp crashing C (ask q >>= f).run Q w ↔ C w ∧ (∀ w', crashing.torn q w w' → C w') ∧
      ∀ r w', crashing.step q w r w' → wp crashing C (f r).run Q w' := Iff.rfl

theorem run_ofExcept_ok {a : α} {β : Type} {f : α → Action β} : (ofExcept (.ok a) >>= f).run = (f a).run := rfl

theorem run_ofExcept_error {err : AuditErr} {β : Type} {f : α → Action β} :
    (ofExcept (.error err) >>= f).run = .ret (.error err) := rfl

end Rules

/-! ## Anchors -/

section Anchors
variable {service : Service} {es : List AuditEntry}

theorem verifyAnchor_signedAnchor (head : AuditHead) (now : Instant) :
    service.verifyAnchor (service.signedAnchor head now) = none := by
  obtain ⟨verify, hkey, hverify⟩ := service.own_key
  have hdigest : anchorDigest (service.signedAnchor head now) =
      anchorDigest ⟨anchorVersion, service.keyID, head.count, head.sequence, head.hash, now, ""⟩ := rfl
  simp only [Service.verifyAnchor, hdigest]
  simp only [Service.signedAnchor, ne_eq, not_true_eq_false, if_false, hkey, service.decode_encodeSignature,
    service.length_sign, hverify, if_true]

def Succeeds (h h' : AuditHead) : Prop := h'.count = h.count + 1 ∧ h.sequence < h'.sequence ∧ h'.hash ≠ ""

theorem Authentic.hash_ne {e : AuditEntry} (h : Authentic service e) : e.entryHash ≠ "" := by
  intro hempty
  have hlength := (bytes_hexEncode (hashDigest e)).1
  rw [← h.hash, hempty, hashDigest, Sha256.length_sum256] at hlength
  cases hlength

theorem isChain_headsFrom {previous : String} {sequence : ℤ} (h : Checks service previous sequence es) (count : ℕ) :
    (⟨count, sequence, previous⟩ :: headsFrom count es).IsChain Succeeds := by
  induction es generalizing previous sequence count with
  | nil => exact List.IsChain.singleton _
  | cons e es ih => exact List.isChain_cons_cons.mpr ⟨⟨rfl, h.1.1, h.1.2.2.hash_ne⟩, ih h.2 (count + 1)⟩

theorem readAnchors_chain {anchors : List Anchor} {current : Anchor} {line : ℕ} (hline : line ≠ 0)
    (hverified : ∀ a ∈ anchors, service.verifyAnchor a = none)
    (hchain : (current.head :: anchors.map Anchor.head).IsChain Succeeds) :
    service.readAnchors (line + 1) current (anchors.map service.codec.encode) =
      .ok (anchors.getLastD current) := by
  induction anchors generalizing current line with
  | nil => rfl
  | cons a anchors ih =>
    obtain ⟨⟨hcount, hsequence, hhash⟩, hrest⟩ := List.isChain_cons_cons.mp hchain
    have hfirst : line + 1 ≠ 1 := by omega
    have hgood : ¬ (a.count ≠ current.count + 1 ∨ a.sequence ≤ current.sequence ∨ a.headHash = "") := by
      rintro (h | h | h)
      · exact h hcount
      · exact absurd hsequence (not_lt.mpr h)
      · exact hhash h
    rw [List.map_cons, Service.readAnchors, service.codec.decode_encode]
    simp only [hverified a List.mem_cons_self, hfirst, hgood, if_false]
    rw [ih (Nat.succ_ne_zero line) (fun b hb => hverified b (List.mem_cons_of_mem _ hb)) hrest, List.getLastD_cons]

/-- A file of anchors of the first heads of a log, with a torn record behind them. -/
structure AnchorFile (service : Service) (es : List AuditEntry) (f : Option (List UInt8)) (anchors : List Anchor)
    (tail : List UInt8) : Prop where
  content : f.getD [] = service.codec.text anchors ++ tail
  torn : newline ∉ tail
  verified : ∀ a ∈ anchors, service.verifyAnchor a = none
  aligned : anchors.map Anchor.head <+: heads es
  begun : anchors = [] → es = []

theorem readAnchors_text {f : Option (List UInt8)} {anchors : List Anchor} {tail : List UInt8}
    (h : AnchorFile service es f anchors tail) (hchecks : Checks service "" 0 es) (hne : anchors ≠ []) :
    service.readAnchors 1 .zero (Lines.split newline (service.codec.text anchors)) = .ok (anchors.getLast hne) := by
  obtain ⟨a, rest, rfl⟩ := List.exists_cons_of_ne_nil hne
  obtain ⟨later, hlater⟩ := h.aligned
  have hgenesis : a.head = genesis := (List.cons.inj hlater).1
  have hchain : ((a :: rest).map Anchor.head).IsChain Succeeds := by
    have hall : (heads es).IsChain Succeeds := isChain_headsFrom hchecks 0
    rw [← hlater] at hall
    exact hall.left_of_append
  have hcount : a.count = 0 := congrArg AuditHead.count hgenesis
  have hsequence : a.sequence = 0 := congrArg AuditHead.sequence hgenesis
  have hhash : a.headHash = "" := congrArg AuditHead.hash hgenesis
  rw [service.codec.split_text, List.map_cons, Service.readAnchors, service.codec.decode_encode]
  simp only [h.verified a List.mem_cons_self, hcount, hsequence, hhash, ne_eq, not_true_eq_false, or_self, if_true,
    if_false]
  rw [readAnchors_chain one_ne_zero (fun b hb => h.verified b (List.mem_cons_of_mem _ hb)) hchain]
  rw [List.getLast_eq_getLastD]

theorem AnchorFile.cut {f : Option (List UInt8)} {anchors : List Anchor} {tail : List UInt8}
    (h : AnchorFile service es f anchors tail) :
    AnchorFile service es (some (service.codec.text anchors)) anchors [] :=
  ⟨(List.append_nil _).symm, List.not_mem_nil, h.verified, h.aligned, h.begun⟩

theorem count_of_heads {hs : List AuditHead} {h : AuditHead} (hmem : hs ++ [h] <+: heads es) : h.count = hs.length := by
  induction es using List.reverseRecOn with
  | nil =>
    have heq : hs ++ [h] = [genesis] := by
      rcases List.prefix_concat_iff.mp (show hs ++ [h] <+: [] ++ [genesis] from hmem) with heq | hnil
      · exact heq
      · exact absurd (List.prefix_nil.mp hnil) (by simp)
    cases hs with
    | nil =>
      rw [List.singleton_inj.mp heq]
      rfl
    | cons h' hs => simp at heq
  | append_singleton es e ih =>
    rw [heads_concat] at hmem
    rcases List.prefix_concat_iff.mp hmem with heq | hshort
    · obtain ⟨rfl, hlast⟩ := List.append_inj' heq rfl
      rw [List.singleton_inj.mp hlast, length_heads]
      exact List.length_append
    · exact ih hshort

end Anchors

section Programs
variable {service : Service} {es : List AuditEntry} {C : World → Prop} {w : World} {anchors : List Anchor}
  {tail : List UInt8}

theorem AnchorFile.exists_content {f : Option (List UInt8)} (h : AnchorFile service es f anchors tail)
    (hne : anchors ≠ []) : ∃ content, f = some content ∧ content = service.codec.text anchors ++ tail ∧
      newline ∈ content := by
  have hmem : newline ∈ f.getD [] := by
    rw [h.content]
    exact List.mem_append_left _ (Lines.mem_text (by simpa using hne))
  cases f with
  | none => cases hmem
  | some content => exact ⟨content, rfl, h.content, hmem⟩

theorem wp_loadAnchor (hchecks : Checks service "" 0 es) (h : AnchorFile service es w.file anchors tail)
    (hne : anchors ≠ []) (hC : ∀ f tail, AnchorFile service es f anchors tail → C ⟨w.db, f⟩) :
    wp crashing C service.loadAnchor.run (fun r w' => w' = ⟨w.db, some (service.codec.text anchors)⟩ ∧
      r = .ok (anchors.getLast hne)) w := by
  have hw : C w := hC w.file tail h
  have hread := readAnchors_text h hchecks hne
  have hcut := hC _ _ h.cut
  obtain ⟨content, hfile, hcontent, hmem⟩ := h.exists_content hne
  have hnonempty : content ≠ [] := List.ne_nil_of_mem hmem
  have hlines : anchors.map service.codec.encode ≠ [] := by simpa using hne
  have hlast := Lines.getLast?_text_append hlines h.torn
  unfold Service.loadAnchor
  refine wp_ask.mpr ⟨hw, ?_, ?_⟩
  · rintro w' rfl
    exact hw
  rintro answer w' ⟨rfl, rfl⟩
  simp only [hfile, hnonempty, if_false]
  by_cases htail : tail = []
  · have hwhole : content = service.codec.text anchors := by rw [hcontent, htail, List.append_nil]
    have hend : content.getLast? = some newline := hcontent ▸ hlast.mpr htail
    rw [if_pos hend, hwhole, hread]
    refine ⟨hw, ?_, rfl⟩
    rw [← hwhole, ← hfile]
  · have hend : content.getLast? ≠ some newline := fun hend => htail (hlast.mp (hcontent ▸ hend))
    have hwhole : Lines.complete newline content = service.codec.text anchors :=
      hcontent ▸ service.codec.complete_text anchors h.torn
    have htake : w'.file.map (List.take (Lines.complete newline content).length) = some (service.codec.text anchors) := by
      rw [hwhole, hfile, hcontent, Option.map_some, List.take_left]
    rw [if_neg hend, if_neg (not_not.mpr hmem)]
    refine wp_ask.mpr ⟨hw, ?_, ?_⟩
    · rintro w'' (rfl | rfl)
      · exact hw
      · rw [htake]
        exact hcut
    · rintro _ w'' rfl
      rw [htake, hwhole, hread]
      exact ⟨hcut, rfl, rfl⟩

theorem wp_loadAnchor_torn (hnone : newline ∉ w.file.getD []) (hw : C w) :
    wp crashing C service.loadAnchor.run (fun r w' => w' = w ∧ ∃ err, r = .error err) w := by
  unfold Service.loadAnchor
  refine wp_ask.mpr ⟨hw, ?_, ?_⟩
  · rintro w' rfl
    exact hw
  rintro answer w' ⟨rfl, rfl⟩
  cases hfile : w'.file with
  | none => exact ⟨hw, rfl, _, rfl⟩
  | some content =>
    rw [hfile, Option.getD_some] at hnone
    have hlast : content.getLast? ≠ some newline := fun hlast => hnone (List.mem_of_getLast? hlast)
    by_cases hempty : content = []
    · simp only [hempty, if_true]
      exact ⟨hw, rfl, _, rfl⟩
    · simp only [hempty, hlast, hnone, not_false_eq_true, if_true, if_false]
      exact ⟨hw, rfl, _, rfl⟩

theorem wp_writeAnchor {head : AuditHead} (h : AnchorFile service es w.file anchors [])
    (hhead : anchors.map Anchor.head ++ [head] <+: heads es)
    (hC : ∀ f anchors tail, AnchorFile service es f anchors tail → C ⟨w.db, f⟩) :
    wp crashing C (service.writeAnchor head).run (fun r w' => r = .ok () ∧ w'.db = w.db ∧
      ∃ a, a.head = head ∧ AnchorFile service es w'.file (anchors ++ [a]) []) w := by
  have hw : C w := hC w.file anchors [] h
  unfold Service.writeAnchor
  refine wp_ask.mpr ⟨hw, ?_, ?_⟩
  · rintro w' rfl
    exact hw
  rintro (now : Instant) w' ⟨hnow, rfl⟩
  have hcontent := h.content
  rw [List.append_nil] at hcontent
  have hdone : AnchorFile service es (some (w'.file.getD [] ++
      (service.codec.encode (service.signedAnchor head now) ++ [newline]))) (anchors ++ [service.signedAnchor head now]) [] := by
    refine ⟨?_, List.not_mem_nil, ?_, ?_, fun hnil => absurd hnil (by simp)⟩
    · rw [Option.getD_some, hcontent, service.codec.text_append, service.codec.text_singleton, List.append_nil]
    · intro a ha
      rcases List.mem_append.mp ha with ha | ha
      · exact h.verified a ha
      · rw [List.mem_singleton.mp ha]
        exact verifyAnchor_signedAnchor head now
    · rw [List.map_append]
      exact hhead
  simp only [hnow, ↓reduceIte]
  refine ⟨hw, ?_, ?_⟩
  · rintro w'' (rfl | ⟨written, hwritten, rfl⟩)
    · exact hw
    · rcases Lines.torn_or_whole (service.codec.encode_line _) hwritten with rfl | htorn
      · exact hC _ _ _ hdone
      · refine hC _ anchors written ⟨?_, htorn, h.verified, h.aligned, h.begun⟩
        rw [Option.getD_some, hcontent]
  · rintro answer w'' rfl
    exact ⟨hC _ _ _ hdone, rfl, rfl, _, rfl, hdone⟩

theorem wp_writeAnchors {missing : List AuditHead} (h : AnchorFile service es w.file anchors [])
    (hmissing : anchors.map Anchor.head ++ missing = heads es)
    (hC : ∀ f anchors tail, AnchorFile service es f anchors tail → C ⟨w.db, f⟩) :
    wp crashing C (service.writeAnchors missing).run (fun r w' => r = .ok () ∧ w'.db = w.db ∧
      ∃ all, all.map Anchor.head = heads es ∧ AnchorFile service es w'.file all []) w := by
  induction missing generalizing w anchors with
  | nil =>
    rw [List.append_nil] at hmissing
    exact ⟨hC w.file anchors [] h, rfl, rfl, anchors, hmissing, h⟩
  | cons head missing ih =>
    have hhead : anchors.map Anchor.head ++ [head] <+: heads es := ⟨missing, by rw [← hmissing, List.append_assoc]; rfl⟩
    unfold Service.writeAnchors
    rw [wp_except]
    refine wp_mono (wp_writeAnchor h hhead hC) ?_
    rintro r w' hw' ⟨rfl, hdb, a, ha, hfile⟩
    have hrest : (anchors ++ [a]).map Anchor.head ++ missing = heads es := by
      rw [List.map_append, List.append_assoc, ← hmissing, List.map_singleton, ha]
      rfl
    rw [← hdb] at hC ⊢
    exact ih hfile hrest hC

/-! ## The log -/

structure Log (service : Service) (db : Database) (es : List AuditEntry) : Prop where
  reads : service.Reads db.rows es
  checks : Checks service "" 0 es
  head : getAuditHead db = .ok (headOf es)

def Sound (service : Service) (w : World) : Prop :=
  ∃ es anchors tail, Log service w.db es ∧ AnchorFile service es w.file anchors tail

/-- Every head of the log has its anchor, and nothing is torn. -/
def Complete (service : Service) (w : World) : Prop :=
  ∃ es anchors, Log service w.db es ∧ AnchorFile service es w.file anchors [] ∧ anchors.map Anchor.head = heads es

theorem Complete.sound {w : World} (h : Complete service w) : Sound service w := by
  obtain ⟨es, anchors, hlog, hfile, -⟩ := h
  exact ⟨es, anchors, [], hlog, hfile⟩

theorem AnchorFile.last {f : Option (List UInt8)} (h : AnchorFile service es f anchors tail) (hne : anchors ≠ []) :
    (anchors.getLast hne).head ∈ heads es ∧ anchors.map Anchor.head ++
      (heads es).drop ((anchors.getLast hne).head.count + 1) = heads es := by
  have hsplit : anchors.map Anchor.head = anchors.dropLast.map Anchor.head ++ [(anchors.getLast hne).head] := by
    rw [← List.map_singleton, ← List.map_append, List.dropLast_append_getLast]
  have haligned := h.aligned
  rw [hsplit] at haligned
  have hcount := count_of_heads haligned
  have hlength : (anchors.getLast hne).head.count + 1 = (anchors.map Anchor.head).length := by
    rw [hsplit, List.length_append, hcount]
    rfl
  refine ⟨haligned.subset (by simp), ?_⟩
  rw [hlength]
  obtain ⟨rest, hrest⟩ := h.aligned
  rw [← hrest, List.drop_left]

theorem wp_verifyLocked (hlog : Log service w.db es) (h : AnchorFile service es w.file anchors tail)
    (hne : anchors ≠ []) :
    wp crashing (Sound service) service.verifyLocked.run (fun r w' => r = .ok () ∧ Complete service w') w := by
  have hC : ∀ f anchors tail, AnchorFile service es f anchors tail → Sound service ⟨w.db, f⟩ :=
    fun f anchors tail hfile => ⟨es, anchors, tail, hlog, hfile⟩
  obtain ⟨hlast, hmissing⟩ := h.last hne
  unfold Service.verifyLocked
  rw [wp_except]
  refine wp_mono (wp_loadAnchor hlog.checks h hne fun f tail hf => hC f anchors tail hf) ?_
  rintro r w' hw' ⟨rfl, rfl⟩
  refine wp_ask.mpr ⟨hw', ?_, ?_⟩
  · rintro w' rfl
    exact hw'
  rintro db w' ⟨rfl, rfl⟩
  have hchain : service.verifyChain w.db (anchors.getLast hne).head =
      .ok ((heads es).drop ((anchors.getLast hne).head.count + 1)) :=
    verifyChain_ok.mpr ⟨es, hlog.reads, hlog.checks, hlog.head, hlast, rfl⟩
  simp only [hchain, run_ofExcept_ok]
  refine wp_mono (wp_writeAnchors h.cut hmissing hC) ?_
  rintro r w' - ⟨hr, hdb, all, hall, hfile⟩
  exact ⟨hr, es, all, hdb ▸ hlog, hfile, hall⟩

theorem wp_verifyLocked_torn (hnone : newline ∉ w.file.getD []) (hw : C w) :
    wp crashing C service.verifyLocked.run (fun r w' => w' = w ∧ ∃ err, r = .error err) w := by
  unfold Service.verifyLocked
  rw [wp_except]
  refine wp_mono (wp_loadAnchor_torn hnone hw) ?_
  rintro r w' hw' ⟨rfl, err, rfl⟩
  exact ⟨hw', rfl, err, rfl⟩

theorem wp_initializeLocked_new (hlog : Log service w.db []) (hfile : w.file = none) :
    wp crashing (Sound service) service.initializeLocked.run (fun r w' => r = .ok () ∧ Complete service w') w := by
  have hnew : AnchorFile service [] w.file [] [] := by
    rw [hfile]
    exact ⟨rfl, List.not_mem_nil, nofun, List.nil_prefix, fun _ => rfl⟩
  have hw : Sound service w := ⟨[], [], [], hlog, hnew⟩
  have hC : ∀ f anchors tail, AnchorFile service [] f anchors tail → Sound service ⟨w.db, f⟩ :=
    fun f anchors tail hfile => ⟨[], anchors, tail, hlog, hfile⟩
  unfold Service.initializeLocked
  refine wp_ask.mpr ⟨hw, ?_, ?_⟩
  · rintro w' rfl
    exact hw
  rintro found w' ⟨rfl, rfl⟩
  simp only [hfile, Option.isSome_none, Bool.false_eq_true, ↓reduceIte]
  refine wp_ask.mpr ⟨hw, ?_, ?_⟩
  · rintro w' rfl
    exact hw
  rintro db w'' ⟨rfl, rfl⟩
  simp only [hlog.head, run_ofExcept_ok]
  have hgenesis : ([] : List Anchor).map Anchor.head ++ [genesis] <+: heads [] := List.prefix_rfl
  refine wp_mono (wp_writeAnchor hnew hgenesis hC) ?_
  rintro r w' - ⟨hr, hdb, a, ha, hfile⟩
  refine ⟨hr, [], [a], hdb ▸ hlog, hfile, ?_⟩
  rw [List.map_singleton, ha]
  rfl

theorem wp_initializeLocked_found {Q : Except AuditErr Unit → World → Prop} (hfile : w.file.isSome = true)
    (h : wp crashing C service.verifyLocked.run Q w) : wp crashing C service.initializeLocked.run Q w := by
  have hw := wp_alive h
  unfold Service.initializeLocked
  refine wp_ask.mpr ⟨hw, ?_, ?_⟩
  · rintro w' rfl
    exact hw
  rintro found w' ⟨rfl, rfl⟩
  simp only [hfile, ↓reduceIte]
  exact h

theorem scan_row {e : AuditEntry} (h : e.occurredAt.Parses) (sequence : ℤ) :
    service.scan (AuditEntry.row e sequence) = some { e with sequence := sequence } := by
  have hparse := service.reader.parse_format e.occurredAt h
  simp only [Service.scan, AuditEntry.row, hparse, Option.map_some]

theorem Log.insert {db db' : Database} (hlog : Log service db es) {e : AuditEntry}
    (hinsert : insertAuditEntry db e = .ok db') (hauthentic : Authentic service e)
    (hprevious : e.previousHash = (headOf es).hash) (hparses : e.occurredAt.Parses) :
    Log service db' (es ++ [{ e with sequence := db.nextSequence }]) := by
  obtain ⟨state, hstate, hcount, hsequence, hlast, hhead, hactual⟩ := getAuditHead_ok.mp hlog.head
  have hdetails : e.details ≠ "" := by
    intro hempty
    have hvalid := hauthentic.valid
    rw [hempty, service.invalid_empty] at hvalid
    cases hvalid
  have hdb : db' = db.insertRow ⟨state.entryCount + 1, db.nextSequence, e.entryHash⟩ e := by
    by_cases hkey : e.keyID = ""
    · rw [insertAuditEntry, if_pos hkey] at hinsert
      cases hinsert
    simp only [insertAuditEntry, hkey, hdetails, if_false, hstate] at hinsert
    split at hinsert
    · cases hinsert
    split at hinsert
    · cases hinsert
    exact (Except.ok.inj hinsert).symm
  subst hdb
  have hlastSequence : lastSequence 0 es = db.lastSequence := (hlog.reads.lastSequence_eq 0).symm
  have hnext : lastSequence 0 es < db.nextSequence := by
    rw [hlastSequence, Database.nextSequence]
    omega
  refine ⟨List.rel_append hlog.reads (.cons (scan_row hparses _) .nil), ?_, ?_⟩
  · refine checks_append.mpr ⟨hlog.checks, ⟨hnext, hprevious, ?_⟩, trivial⟩
    exact ⟨hauthentic.valid, hauthentic.hash, hauthentic.signed⟩
  · have hrows : db.rows.length = es.length := congrArg AuditHead.count hactual
    have hstateCount : state.entryCount.toNat = es.length := congrArg AuditHead.count hhead
    have hpositive : 0 ≤ db.nextSequence := by
      rw [Database.nextSequence]
      omega
    have hnew : (db.insertRow ⟨state.entryCount + 1, db.nextSequence, e.entryHash⟩ e).actual =
        headOf (es ++ [{ e with sequence := db.nextSequence }]) := by
      simp [Database.actual, Database.lastSequence, Database.insertRow, headOf, lastSequence, HashChain.tip_concat,
        AuditEntry.row, hrows]
    have hnewLast : (db.insertRow ⟨state.entryCount + 1, db.nextSequence, e.entryHash⟩ e).lastSequence =
        db.nextSequence := by
      simp [Database.lastSequence, Database.insertRow, AuditEntry.row]
    refine getAuditHead_ok.mpr ⟨_, rfl, Int.le_add_one hcount, hpositive, hnewLast ▸ hpositive, ?_, hnew⟩
    have htoNat : (state.entryCount + 1).toNat = es.length + 1 := by omega
    simp [headOf, lastSequence, HashChain.tip_concat, htoNat]

theorem headOf_eq_of_complete {f : Option (List UInt8)} (h : AnchorFile service es f anchors tail) (hne : anchors ≠ [])
    (hhead : (anchors.getLast hne).head = headOf es) : anchors.map Anchor.head = heads es := by
  obtain ⟨-, hmissing⟩ := h.last hne
  have hnone : (heads es).drop ((anchors.getLast hne).head.count + 1) = [] := by
    rw [hhead]
    refine List.drop_of_length_le ?_
    rw [length_heads]
    exact le_rfl
  rw [hnone, List.append_nil] at hmissing
  exact hmissing

theorem authentic_signedEntry {r : AppendRequest} {details id previousHash : String} {now : Instant}
    (hvalid : service.validJSON details = true) :
    Authentic service (service.signedEntry r details id now previousHash) := by
  obtain ⟨verify, hkey, hverify⟩ := service.own_key
  exact ⟨hvalid, rfl, verify, _, hkey, service.decode_encodeSignature _, hverify _⟩

theorem wp_anchorEntry {entry : AuditEntry} {e : AuditEntry} {head : AuditHead} (hlog : Log service w.db (es ++ [e]))
    (h : AnchorFile service (es ++ [e]) w.file anchors []) (hall : anchors.map Anchor.head = heads es) :
    wp crashing (Sound service) (service.anchorEntry entry head).run (fun _ => Sound service) w := by
  have hw : Sound service w := ⟨_, anchors, [], hlog, h⟩
  have hC : ∀ f anchors tail, AnchorFile service (es ++ [e]) f anchors tail → Sound service ⟨w.db, f⟩ :=
    fun f anchors tail hfile => ⟨_, anchors, tail, hlog, hfile⟩
  have hnext : anchors.map Anchor.head ++ [headOf (es ++ [e])] <+: heads (es ++ [e]) := by
    rw [hall, heads_concat]
  unfold Service.anchorEntry
  refine wp_ask.mpr ⟨hw, ?_, ?_⟩
  · rintro w' rfl
    exact hw
  rintro db w' ⟨rfl, rfl⟩
  simp only [hlog.head]
  split
  · exact ⟨hw, hw⟩
  rw [wp_except]
  change wp crashing (Sound service) ((service.writeAnchor (headOf (es ++ [e]))).run.bind _) _ w'
  rw [wp_bind]
  refine wp_mono (wp_writeAnchor h hnext hC) ?_
  rintro r w'' hw'' ⟨rfl, -, -⟩
  exact ⟨hw'', hw'', hw''⟩

theorem wp_appendWithMutation (r : AppendRequest) (hlog : Log service w.db es)
    (h : AnchorFile service es w.file anchors tail) (hne : anchors ≠ []) :
    wp crashing (Sound service) (service.appendWithMutation r).run (fun _ => Sound service) w := by
  have hw : Sound service w := ⟨es, anchors, tail, hlog, h⟩
  unfold Service.appendWithMutation
  split
  · exact ⟨hw, hw⟩
  rw [wp_except]
  refine wp_mono (wp_loadAnchor hlog.checks h hne fun f tail hf => ⟨es, anchors, tail, hlog, hf⟩) ?_
  rintro _ w' hw' ⟨rfl, rfl⟩
  refine wp_ask.mpr ⟨hw', ?_, ?_⟩
  · rintro w' rfl
    exact hw'
  rintro db w' ⟨rfl, rfl⟩
  simp only [hlog.head, run_ofExcept_ok]
  split
  · exact ⟨hw', hw'⟩
  rename_i hmatches
  have hhead := not_not.mp hmatches
  have hall := headOf_eq_of_complete h hne hhead
  split
  · exact ⟨hw', hw'⟩
  rename_i details hdetails
  split
  · exact ⟨hw', hw'⟩
  refine wp_ask.mpr ⟨hw', ?_, ?_⟩
  · rintro w' rfl
    exact hw'
  rintro id w' rfl
  refine wp_ask.mpr ⟨hw', ?_, ?_⟩
  · rintro w' rfl
    exact hw'
  rintro now w' ⟨hnow, rfl⟩
  by_cases hvalid : service.validJSON details = true
  · have hhash : service.hashEntry (service.signedEntry r details id now (anchors.getLast hne).headHash) =
        .ok (hashDigest (service.signedEntry r details id now (anchors.getLast hne).headHash)) := by
      rw [Service.hashEntry]
      exact if_pos hvalid
    have hextends : ∀ db', insertAuditEntry w.db
        (service.signedEntry r details id now (anchors.getLast hne).headHash) = .ok db' →
        ∃ e, Log service db' (es ++ [e]) ∧
          AnchorFile service (es ++ [e]) (some (service.codec.text anchors)) anchors [] := by
      intro db' hinsert
      refine ⟨_, hlog.insert hinsert (authentic_signedEntry hvalid) (congrArg AuditHead.hash hhead) hnow, ?_⟩
      refine ⟨(List.append_nil _).symm, List.not_mem_nil, h.verified, ?_, fun hnil => absurd hnil hne⟩
      rw [heads_concat]
      exact h.aligned.trans (List.prefix_append _ _)
    simp only [hhash, run_ofExcept_ok]
    refine wp_ask.mpr ⟨hw', ?_, ?_⟩
    · rintro w' (rfl | ⟨db', hinsert, rfl⟩)
      · exact hw'
      · obtain ⟨e, hlog', hfile'⟩ := hextends db' hinsert
        exact ⟨_, anchors, [], hlog', hfile'⟩
    · rintro answer w' (⟨⟨err, rfl⟩, rfl⟩ | ⟨rfl, db', hinsert, rfl⟩)
      · exact ⟨hw', hw'⟩
      · obtain ⟨e, hlog', hfile'⟩ := hextends db' hinsert
        exact wp_anchorEntry hlog' hfile' hall
  · have hhash : service.hashEntry (service.signedEntry r details id now (anchors.getLast hne).headHash) =
        .error .encodePayload := by
      rw [Service.hashEntry]
      exact if_neg hvalid
    simp only [hhash, run_ofExcept_error]
    exact ⟨hw', hw'⟩

theorem wp_appendWithMutation_torn (r : AppendRequest) (hnone : newline ∉ w.file.getD []) (hw : C w) :
    wp crashing C (service.appendWithMutation r).run (fun _ => C) w := by
  unfold Service.appendWithMutation
  split
  · exact ⟨hw, hw⟩
  rw [wp_except]
  refine wp_mono (wp_loadAnchor_torn hnone hw) ?_
  rintro _ w' hw' ⟨rfl, err, rfl⟩
  exact ⟨hw', hw'⟩

end Programs

/-! ## Runs -/

section Runs
variable {service : Service} {w : World}

/-- The programs of the service: it is opened, appended to and verified. -/
inductive Operation where
  | start
  | append (r : AppendRequest)
  | verify

def Operation.program (service : Service) : Operation → Prog auditSig (Except AuditErr Unit)
  | .start => service.initializeLocked.run
  | .append r => (service.appendWithMutation r).run.bind fun a => .ret (a.map fun _ => ())
  | .verify => service.verifyLocked.run

/-- A program of the service that runs to its end, or dies. -/
def Step (service : Service) (w w' : World) : Prop :=
  ∃ (operation : Operation) (outcome : Option (Except AuditErr Unit)),
    Exec crashing (operation.program service) w outcome w'

def emptyDatabase : Database := ⟨some ⟨0, 0, ""⟩, [], List.Pairwise.nil⟩

def Initial (w : World) : Prop := w = ⟨emptyDatabase, none⟩

theorem Initial.sound (h : Initial w) : Sound service w := by
  rw [h]
  exact ⟨[], [], [], ⟨.nil, trivial, rfl⟩, rfl, List.not_mem_nil, nofun, List.nil_prefix, fun _ => rfl⟩

theorem AnchorFile.mem_iff {es : List AuditEntry} {f : Option (List UInt8)} {anchors : List Anchor} {tail : List UInt8}
    (h : AnchorFile service es f anchors tail) : newline ∈ f.getD [] ↔ anchors ≠ [] := by
  constructor
  · rintro hmem rfl
    rw [h.content] at hmem
    exact h.torn hmem
  · intro hne
    obtain ⟨content, rfl, -, hmem⟩ := h.exists_content hne
    exact hmem

theorem wp_operation (operation : Operation) (h : Sound service w) :
    wp crashing (Sound service) (operation.program service) (fun _ => Sound service) w := by
  obtain ⟨es, anchors, tail, hlog, hfile⟩ := id h
  have hverify : wp crashing (Sound service) service.verifyLocked.run (fun _ => Sound service) w := by
    by_cases hne : anchors = []
    · refine wp_mono (wp_verifyLocked_torn (mt hfile.mem_iff.mp (not_not.mpr hne)) h) ?_
      rintro _ w' hw' -
      exact hw'
    · refine wp_mono (wp_verifyLocked hlog hfile hne) ?_
      rintro _ w' hw' -
      exact hw'
  cases operation with
  | verify => exact hverify
  | start =>
    cases hfound : w.file with
    | some content => exact wp_initializeLocked_found (by rw [hfound]; rfl) hverify
    | none =>
      have hanchors : anchors = [] := by
        by_contra hne
        obtain ⟨content, hsome, -⟩ := hfile.exists_content hne
        rw [hfound] at hsome
        cases hsome
      have hes := hfile.begun hanchors
      subst hes
      refine wp_mono (wp_initializeLocked_new hlog hfound) ?_
      rintro _ w' hw' -
      exact hw'
  | append r =>
    have happend : wp crashing (Sound service) (service.appendWithMutation r).run (fun _ => Sound service) w := by
      by_cases hne : anchors = []
      · exact wp_appendWithMutation_torn r (mt hfile.mem_iff.mp (not_not.mpr hne)) h
      · exact wp_appendWithMutation r hlog hfile hne
    refine (wp_bind _ _ _ _).mpr (wp_mono happend ?_)
    rintro _ w' hw' -
    exact ⟨hw', hw'⟩

theorem sound_of_reachable (h : Reachable Initial (Step service) w) : Sound service w := by
  refine h.invariant (fun _ => Initial.sound) ?_
  rintro w w' hw ⟨operation, outcome, hexec⟩
  have hend := hexec.of_wp (wp_operation operation hw)
  cases outcome with
  | none => exact hend
  | some r => exact hend

/-- Opening the service anew: it is initialized, then verified. -/
def Service.reopen (service : Service) : Action Unit := do
  service.initializeLocked
  service.verifyLocked

def Service.anchorsOf (service : Service) (f : Option (List UInt8)) : List Anchor :=
  (Lines.split newline (Lines.complete newline (f.getD []))).filterMap service.codec.decode

/-- The last anchor is the head of the database, and behind the first one there is one for each row. -/
structure Aligned (service : Service) (w : World) : Prop where
  last : ∃ head, getAuditHead w.db = .ok head ∧ (service.anchorsOf w.file).getLast?.map Anchor.head = some head
  each : (service.anchorsOf w.file).map (fun a => (a.sequence, a.headHash)) =
    (0, "") :: w.db.rows.map fun row => (row.sequence, row.entryHash)

theorem AnchorFile.anchorsOf_eq {es : List AuditEntry} {f : Option (List UInt8)} {anchors : List Anchor}
    {tail : List UInt8} (h : AnchorFile service es f anchors tail) : service.anchorsOf f = anchors := by
  rw [Service.anchorsOf, h.content, service.codec.complete_text anchors h.torn, service.codec.split_text,
    List.filterMap_map]
  have hdecode : service.codec.decode ∘ service.codec.encode = some := funext service.codec.decode_encode
  rw [hdecode, List.filterMap_some]

theorem map_headsFrom (count : ℕ) (es : List AuditEntry) :
    (headsFrom count es).map (fun h => (h.sequence, h.hash)) = es.map fun e => (e.sequence, e.entryHash) := by
  induction es generalizing count with
  | nil => rfl
  | cons e es ih => rw [headsFrom, List.map_cons, ih, List.map_cons]

theorem Service.Reads.map_eq {rows : List Row} {es : List AuditEntry} (h : service.Reads rows es) :
    rows.map (fun row => (row.sequence, row.entryHash)) = es.map fun e => (e.sequence, e.entryHash) := by
  induction h with
  | nil => rfl
  | @cons row e rows es hscan _ ih =>
    rw [Service.scan, Option.map_eq_some_iff] at hscan
    obtain ⟨t, -, rfl⟩ := hscan
    rw [List.map_cons, List.map_cons, ih]

theorem Complete.aligned (h : Complete service w) : Aligned service w := by
  obtain ⟨es, anchors, hlog, hfile, hall⟩ := h
  have hlast : (heads es).getLast? = some (headOf es) := by
    rcases List.eq_nil_or_concat es with rfl | ⟨front, e, rfl⟩
    · rfl
    · rw [List.concat_eq_append, heads_concat, List.getLast?_concat]
  refine ⟨⟨headOf es, hlog.head, ?_⟩, ?_⟩
  · rw [hfile.anchorsOf_eq, ← List.getLast?_map, hall, hlast]
  · have hmap : anchors.map (fun a => (a.sequence, a.headHash)) = (anchors.map Anchor.head).map fun h =>
        (h.sequence, h.hash) := by
      rw [List.map_map]
      rfl
    rw [hfile.anchorsOf_eq, hmap, hall, heads, List.map_cons, map_headsFrom, hlog.reads.map_eq]
    rfl

/-- A machine that refuses every commit and whose clock stands still. -/
def calm : (q : Request) → World → Answer q × World
  | .stat, w => (w.file.isSome, w)
  | .read, w => (w.file, w)
  | .truncate length, w => ((), ⟨w.db, w.file.map (List.take length)⟩)
  | .append content, w => ((), ⟨w.db, some (w.file.getD [] ++ content)⟩)
  | .database, w => (w.db, w)
  | .commit _, w => (.error .headConflict, w)
  | .clock, w => ((0 : Instant), w)
  | .newID, w => ("audit", w)

theorem crashing_calm (q : Request) (w : World) : crashing.step q w (calm q w).1 (calm q w).2 := by
  cases q with
  | stat => exact ⟨rfl, rfl⟩
  | read => exact ⟨rfl, rfl⟩
  | truncate length => rfl
  | append content => rfl
  | database => exact ⟨rfl, rfl⟩
  | commit entry => exact .inl ⟨⟨_, rfl⟩, rfl⟩
  | clock => exact ⟨show Instant.Parses (0 : Instant) by decide, rfl⟩
  | newID => rfl

end Runs

/-! ## A service -/

instance countableAnchor : Countable Anchor :=
  Function.Injective.countable (β := String × String × ℕ × ℤ × String × ℤ × String)
    (f := fun a => (a.version, a.keyID, a.count, a.sequence, a.headHash, a.updatedAt, a.signature)) (by
    rintro ⟨v, k, c, s, h, u, g⟩ ⟨v', k', c', s', h', u', g'⟩ heq
    simpa using heq)

/-- A service that knows every key, and whose signatures are all zero. -/
noncomputable def zeroService : Service where
  keyID := "audit:0"
  sign _ := List.replicate 64 0
  keyring _ := some fun _ _ => true
  encodeSignature := Lines.byteText
  decodeSignature s := some (Lines.textBytes s)
  codec := .ofCountable newline (show (0 : UInt8) ≠ newline by decide) Anchor.zero
  validJSON s := s != ""
  reader := default
  own_key := ⟨_, rfl, fun _ => rfl⟩
  length_sign _ := List.length_replicate
  decode_encodeSignature signature := congrArg some (Lines.textBytes_byteText signature)
  invalid_empty := rfl

end AntiFlock.Audit
