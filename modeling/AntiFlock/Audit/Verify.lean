import AntiFlock.Audit.Service

set_option autoImplicit false

/-!
# What verification checks

The page loop accepts exactly the tables whose rows, from the first positive
sequence on, are one chain of authentic entries; the anchor is accepted exactly
where it is the head of a part of that chain.
-/
namespace AntiFlock.Audit
open AntiFlock.Go

section Entries
variable (service : Service)

/-- An entry whose hash and signature are those of its fields. -/
structure Authentic (e : AuditEntry) : Prop where
  valid : service.validJSON e.details = true
  hash : e.entryHash = hexEncode (hashDigest e)
  signed : ∃ verify signature, service.keyring e.keyID = some verify ∧
    service.decodeSignature e.signature = some signature ∧ verify (hashDigest e) signature = true

/-- Authentic entries with increasing sequences, each linked to the one before. -/
def Checks : String → ℤ → List AuditEntry → Prop
  | _, _, [] => True
  | previous, sequence, e :: es => (sequence < e.sequence ∧ e.previousHash = previous ∧ Authentic service e) ∧
      Checks e.entryHash e.sequence es

variable {service}

theorem checkEntry_ok {s : Scan} {e : AuditEntry} : service.checkEntry s e = .ok () ↔
    s.afterSequence < e.sequence ∧ e.previousHash = s.previous ∧ Authentic service e := by
  constructor
  · intro h
    refine ⟨service.sequence_of_checkEntry h, ?_⟩
    unfold Service.checkEntry Service.hashEntry at h
    split at h
    · cases h
    split at h
    · cases h
    rename_i hprevious
    cases hkey : service.keyring e.keyID with
    | none => simp [hkey] at h
    | some verify =>
      by_cases hvalid : service.validJSON e.details = true
      · simp only [hkey, hvalid, if_true] at h
        by_cases hhash : hexEncode (hashDigest e) = e.entryHash
        · cases hsignature : service.decodeSignature e.signature with
          | none => simp [hhash, hsignature] at h
          | some signature =>
            simp only [hhash, hsignature, ne_eq, not_true_eq_false, if_false] at h
            by_cases hverify : verify (hashDigest e) signature = true
            · exact ⟨not_not.mp hprevious, hvalid, hhash.symm, verify, signature, hkey, hsignature, hverify⟩
            · simp [hverify] at h
        · simp [hhash] at h
      · simp [hkey, hvalid] at h
  · rintro ⟨hsequence, hprevious, hvalid, hhash, verify, signature, hkey, hsignature, hverify⟩
    simp only [Service.checkEntry, not_le.mpr hsequence, if_false, hprevious, ne_eq, not_true_eq_false, hkey,
      Service.hashEntry, hvalid, if_true, ← hhash, hsignature, hverify]

theorem verifyEntries_ok {trusted : AuditHead} {s s' : Scan} {es : List AuditEntry} :
    service.verifyEntries trusted s es = .ok s' ↔
      s' = es.foldl (Scan.advance trusted) s ∧ Checks service s.previous s.afterSequence es := by
  induction es generalizing s with
  | nil => simp [Service.verifyEntries, Checks, eq_comm]
  | cons e es ih =>
    rw [Service.verifyEntries, Checks, ← checkEntry_ok, List.foldl_cons]
    cases hcheck : service.checkEntry s e with
    | error err => simp
    | ok done =>
      simp only [true_and]
      exact ih

theorem Checks.linked {previous : String} {sequence : ℤ} {es : List AuditEntry} (h : Checks service previous sequence es) :
    HashChain.Linked Record.previousHash Record.entryHash previous es := by
  induction es generalizing previous sequence with
  | nil => trivial
  | cons e es ih => exact ⟨h.1.2.1, ih h.2⟩

theorem Checks.authentic {previous : String} {sequence : ℤ} {es : List AuditEntry}
    (h : Checks service previous sequence es) : ∀ e ∈ es, Authentic service e := by
  induction es generalizing previous sequence with
  | nil => exact nofun
  | cons e es ih =>
    intro e' he'
    rcases List.mem_cons.mp he' with rfl | he'
    · exact h.1.2.2
    · exact ih h.2 e' he'

def lastSequence (sequence : ℤ) (es : List AuditEntry) : ℤ := (es.getLast?.map (·.sequence)).getD sequence

theorem lastSequence_cons (sequence : ℤ) (e : AuditEntry) (es : List AuditEntry) :
    lastSequence sequence (e :: es) = lastSequence e.sequence es := by
  cases es with
  | nil => rfl
  | cons e' es => simp [lastSequence, List.getLast?_cons]

theorem checks_append {previous : String} {sequence : ℤ} {es es' : List AuditEntry} :
    Checks service previous sequence (es ++ es') ↔ Checks service previous sequence es ∧
      Checks service (HashChain.tip Record.entryHash previous es) (lastSequence sequence es) es' := by
  induction es generalizing previous sequence with
  | nil => simp [Checks, HashChain.tip, lastSequence]
  | cons e es ih =>
    rw [List.cons_append, Checks, Checks, ih, HashChain.tip_cons, lastSequence_cons]
    exact and_assoc.symm

theorem Checks.le_lastSequence {previous : String} {sequence : ℤ} {es : List AuditEntry}
    (h : Checks service previous sequence es) : sequence ≤ lastSequence sequence es ∧
      ∀ e ∈ es, sequence < e.sequence ∧ e.sequence ≤ lastSequence sequence es := by
  induction es generalizing previous sequence with
  | nil => exact ⟨le_rfl, nofun⟩
  | cons e es ih =>
    obtain ⟨hle, hall⟩ := ih h.2
    rw [lastSequence_cons]
    refine ⟨h.1.1.le.trans hle, ?_⟩
    intro e' he'
    rcases List.mem_cons.mp he' with rfl | he'
    · exact ⟨h.1.1, hle⟩
    · exact ⟨h.1.1.trans (hall e' he').1, (hall e' he').2⟩

end Entries

/-! ## Scans -/

section Scans
variable (trusted : AuditHead)

def headsFrom : ℕ → List AuditEntry → List AuditHead
  | _, [] => []
  | count, e :: es => ⟨count + 1, e.sequence, e.entryHash⟩ :: headsFrom (count + 1) es

def heads (es : List AuditEntry) : List AuditHead := genesis :: headsFrom 0 es

theorem length_headsFrom (count : ℕ) (es : List AuditEntry) : (headsFrom count es).length = es.length := by
  induction es generalizing count with
  | nil => rfl
  | cons e es ih => rw [headsFrom, List.length_cons, ih, List.length_cons]

theorem foldl_advance (s : Scan) (es : List AuditEntry) :
    (es.foldl (Scan.advance trusted) s).count = s.count + es.length ∧
    (es.foldl (Scan.advance trusted) s).previous = HashChain.tip Record.entryHash s.previous es ∧
    (es.foldl (Scan.advance trusted) s).afterSequence = lastSequence s.afterSequence es := by
  induction es generalizing s with
  | nil => exact ⟨rfl, rfl, rfl⟩
  | cons e es ih =>
    obtain ⟨hcount, hprevious, hsequence⟩ := ih (s.advance trusted e)
    rw [List.foldl_cons, HashChain.tip_cons, lastSequence_cons, hcount, hprevious, hsequence]
    refine ⟨?_, rfl, rfl⟩
    change s.count + 1 + es.length = s.count + (es.length + 1)
    omega

theorem recoveryAnchors_foldl (s : Scan) (es : List AuditEntry) :
    (es.foldl (Scan.advance trusted) s).recoveryAnchors =
      s.recoveryAnchors ++ (headsFrom s.count es).drop (trusted.count - s.count) := by
  induction es generalizing s with
  | nil => simp [headsFrom]
  | cons e es ih =>
    rw [List.foldl_cons, ih, headsFrom]
    by_cases h : trusted.count < s.count + 1
    · have hzero : trusted.count - s.count = 0 := by omega
      have hzero' : trusted.count - (s.count + 1) = 0 := by omega
      simp only [Scan.advance, h, if_true, hzero, hzero', List.drop_zero, List.append_assoc, List.singleton_append]
    · obtain ⟨n, hn⟩ : ∃ n, trusted.count - s.count = n + 1 := ⟨trusted.count - s.count - 1, by omega⟩
      have hn' : trusted.count - (s.count + 1) = n := by omega
      simp only [Scan.advance, h, if_false, hn, hn', List.drop_succ_cons]

theorem count_lt_of_mem_headsFrom {count : ℕ} {es : List AuditEntry} {h : AuditHead} (hmem : h ∈ headsFrom count es) :
    count < h.count ∧ h.count ≤ count + es.length := by
  induction es generalizing count with
  | nil => cases hmem
  | cons e es ih =>
    rw [List.length_cons]
    rcases List.mem_cons.mp hmem with rfl | hmem
    · exact ⟨Nat.lt_succ_self _, by change count + 1 ≤ _; omega⟩
    · have := ih hmem
      omega

theorem prefixMatched_foldl (s : Scan) (es : List AuditEntry) :
    (es.foldl (Scan.advance trusted) s).prefixMatched = true ↔ trusted ∈ headsFrom s.count es ∨
      ¬ (s.count < trusted.count ∧ trusted.count ≤ s.count + es.length) ∧ s.prefixMatched = true := by
  induction es generalizing s with
  | nil => simp [headsFrom]
  | cons e es ih =>
    rw [List.foldl_cons, ih, headsFrom, List.mem_cons, List.length_cons]
    change (trusted ∈ headsFrom (s.count + 1) es ∨ ¬ (s.count + 1 < trusted.count ∧
      trusted.count ≤ s.count + 1 + es.length) ∧ (s.advance trusted e).prefixMatched = true) ↔ _
    by_cases h : s.count + 1 = trusted.count
    · have hlater : trusted ∉ headsFrom (s.count + 1) es := by
        intro hmem
        have := count_lt_of_mem_headsFrom hmem
        omega
      have hhead : trusted = ⟨s.count + 1, e.sequence, e.entryHash⟩ ↔
          e.sequence = trusted.sequence ∧ e.entryHash = trusted.hash := by
        rw [AuditHead.ext_iff]
        exact ⟨fun h => ⟨h.2.1.symm, h.2.2.symm⟩, fun h' => ⟨h.symm, h'.1.symm, h'.2.symm⟩⟩
      have hout : ¬ (s.count + 1 < trusted.count ∧ trusted.count ≤ s.count + 1 + es.length) := by omega
      have hin : s.count < trusted.count ∧ trusted.count ≤ s.count + (es.length + 1) := by omega
      have hmatched : (s.advance trusted e).prefixMatched = true ↔
          e.sequence = trusted.sequence ∧ e.entryHash = trusted.hash := by
        simp [Scan.advance, h]
      simp only [hlater, hout, hin, hhead, hmatched, not_false_eq_true, not_true_eq_false, true_and, false_and, false_or,
        or_false, and_self]
    · have hhead : trusted ≠ ⟨s.count + 1, e.sequence, e.entryHash⟩ := by
        intro heq
        exact h (congrArg AuditHead.count heq).symm
      have hrange : (s.count + 1 < trusted.count ∧ trusted.count ≤ s.count + 1 + es.length) ↔
          (s.count < trusted.count ∧ trusted.count ≤ s.count + (es.length + 1)) := by omega
      simp only [Scan.advance, h, if_false, hhead, false_or, hrange]

end Scans
/-! ## Pages -/

section Pages
variable {service : Service} {db : Database} {trusted : AuditHead}

def Service.Reads (service : Service) : List Row → List AuditEntry → Prop :=
  List.Forall₂ fun row e => service.scan row = some e

theorem mapM_of_forall₂ {α β : Type} {f : α → Option β} {xs : List α} {ys : List β}
    (h : List.Forall₂ (fun x y => f x = some y) xs ys) : xs.mapM f = some ys := by
  induction h with
  | nil => rfl
  | cons hxy _ ih => simp [List.mapM_cons, hxy, ih]

theorem listAuditEntriesAfter_ok {sequence limit : ℤ} {es : List AuditEntry} :
    service.listAuditEntriesAfter db sequence limit = .ok es ↔
      service.Reads ((db.after sequence).take (listLimit limit)) es := by
  unfold Service.listAuditEntriesAfter
  constructor
  · intro h
    cases hscan : ((db.after sequence).take (listLimit limit)).mapM service.scan with
    | none =>
      rw [hscan] at h
      cases h
    | some entries =>
      rw [hscan, Except.ok.injEq] at h
      rw [← h]
      exact forall₂_of_mapM hscan
  · intro h
    rw [mapM_of_forall₂ h]

theorem Service.Reads.lastSequence_eq {rows : List Row} {es : List AuditEntry} (h : service.Reads rows es)
    (sequence : ℤ) : (rows.getLast?.map (·.sequence)).getD sequence = lastSequence sequence es := by
  induction h generalizing sequence with
  | nil => rfl
  | @cons row e rows es hscan _ ih =>
    have hsequence := service.scan_sequence hscan
    rw [lastSequence_cons, ← ih, hsequence]
    cases rows with
    | nil => rfl
    | cons row' rows => simp [List.getLast?_cons]

theorem Database.after_last {sequence : ℤ} {page rest : List Row} {last : Row}
    (h : db.after sequence = page ++ [last] ++ rest) : db.after last.sequence = rest := by
  have hlast : last ∈ db.after sequence := by
    rw [h]
    simp
  have hbefore : sequence < last.sequence := by simpa using (List.mem_filter.mp hlast).2
  have hsorted : (page ++ [last] ++ rest).Pairwise fun r s => r.sequence < s.sequence :=
    h ▸ db.sorted.sublist List.filter_sublist
  obtain ⟨hpage, -, hrest⟩ := List.pairwise_append.mp hsorted
  have hle : ∀ row ∈ page ++ [last], ¬ last.sequence < row.sequence := by
    intro row hrow
    rcases List.mem_append.mp hrow with hrow | hrow
    · exact not_lt.mpr ((List.pairwise_append.mp hpage).2.2 row hrow last List.mem_cons_self).le
    · rw [List.mem_singleton.mp hrow]
      exact lt_irrefl _
  have hafter : db.after last.sequence = (db.after sequence).filter (last.sequence < ·.sequence) := by
    rw [Database.after, Database.after, List.filter_filter]
    refine List.filter_congr fun r _ => ?_
    rw [Bool.eq_iff_iff, Bool.and_eq_true, decide_eq_true_eq, decide_eq_true_eq]
    exact ⟨fun hr => ⟨hr, hbefore.trans hr⟩, And.left⟩
  rw [hafter, h, List.filter_append]
  have hnone : (page ++ [last]).filter (last.sequence < ·.sequence) = [] := by
    refine List.filter_eq_nil_iff.mpr fun row hrow => ?_
    rw [decide_eq_true_eq]
    exact hle row hrow
  have hall : rest.filter (last.sequence < ·.sequence) = rest := by
    refine List.filter_eq_self.mpr fun row hrow => ?_
    rw [decide_eq_true_eq]
    exact hrest last (by simp) row hrow
  rw [hnone, hall, List.nil_append]

theorem after_page {s s' : Scan} {es : List AuditEntry} {n : ℕ}
    (hreads : service.Reads ((db.after s.afterSequence).take n) es) (hne : es ≠ [])
    (h : service.verifyEntries trusted s es = .ok s') : db.after s'.afterSequence = (db.after s.afterSequence).drop n := by
  obtain ⟨rfl, -⟩ := verifyEntries_ok.mp h
  have hsequence := (foldl_advance trusted s es).2.2
  rw [← hreads.lastSequence_eq] at hsequence
  rcases List.eq_nil_or_concat ((db.after s.afterSequence).take n) with hnil | ⟨page, last, hpage⟩
  · rw [hnil] at hreads
    cases hreads
    exact absurd rfl hne
  · have hsplit : db.after s.afterSequence = page ++ [last] ++ (db.after s.afterSequence).drop n := by
      rw [← List.concat_eq_append, ← hpage, List.take_append_drop]
    rw [hpage, List.concat_eq_append, List.getLast?_append_of_ne_nil _ (List.cons_ne_nil _ _), List.getLast?_singleton,
      Option.map_some, Option.getD_some] at hsequence
    rw [hsequence]
    exact Database.after_last hsplit

theorem verifyEntries_append {s : Scan} {es es' : List AuditEntry} {s' : Scan} :
    service.verifyEntries trusted s (es ++ es') = .ok s' ↔ ∃ middle, service.verifyEntries trusted s es = .ok middle ∧
      service.verifyEntries trusted middle es' = .ok s' := by
  induction es generalizing s with
  | nil => simp [Service.verifyEntries]
  | cons e es ih =>
    rw [List.cons_append, Service.verifyEntries, Service.verifyEntries]
    cases service.checkEntry s e with
    | error err => simp
    | ok done => exact ih

theorem verifyPages_nil {s : Scan}
    (hlist : service.listAuditEntriesAfter db s.afterSequence auditVerificationPageSize = .ok []) :
    service.verifyPages db trusted s = .ok s := by
  rw [Service.verifyPages]
  split
  · rename_i herr
    rw [hlist] at herr
    cases herr
  · rfl
  · rename_i hcons
    rw [hlist] at hcons
    cases hcons

theorem verifyPages_page {s middle : Scan} {es : List AuditEntry}
    (hlist : service.listAuditEntriesAfter db s.afterSequence auditVerificationPageSize = .ok es) (hne : es ≠ [])
    (h : service.verifyEntries trusted s es = .ok middle) :
    service.verifyPages db trusted s = service.verifyPages db trusted middle := by
  rw [Service.verifyPages]
  split
  · rename_i herr
    rw [hlist] at herr
    cases herr
  · rename_i hnil
    rw [hlist, Except.ok.injEq] at hnil
    exact absurd hnil hne
  · rename_i hcons
    rw [hlist, Except.ok.injEq] at hcons
    subst hcons
    split
    · rename_i herr
      rw [h] at herr
      cases herr
    · rename_i hok
      rw [h, Except.ok.injEq] at hok
      rw [hok]

theorem verifyPages_ok {s s' : Scan} : service.verifyPages db trusted s = .ok s' ↔
    ∃ es, service.Reads (db.after s.afterSequence) es ∧ service.verifyEntries trusted s es = .ok s' := by
  induction hn : (db.after s.afterSequence).length using Nat.strong_induction_on generalizing s with
  | _ n ih =>
    have hpages : 0 < listLimit auditVerificationPageSize := by decide
    constructor
    · intro h
      rw [Service.verifyPages] at h
      split at h
      · cases h
      · rename_i hlist
        have hreads := listAuditEntriesAfter_ok.mp hlist
        have hnil : db.after s.afterSequence = [] := by
          generalize htake : (db.after s.afterSequence).take (listLimit auditVerificationPageSize) = page at hreads
          cases hreads
          rcases List.take_eq_nil_iff.mp htake with hzero | hnil
          · omega
          · exact hnil
        exact ⟨[], hnil ▸ .nil, h⟩
      · rename_i e es hlist
        have hreads := listAuditEntriesAfter_ok.mp hlist
        split at h
        · cases h
        · rename_i middle hmiddle
          have hdecreases := service.page_decreases hlist (List.cons_ne_nil _ _) hmiddle
          obtain ⟨rest, hrest, hverify⟩ := (ih _ (hn ▸ hdecreases) rfl).mp h
          rw [after_page hreads (List.cons_ne_nil _ _) hmiddle] at hrest
          have hall : service.Reads ((db.after s.afterSequence).take (listLimit auditVerificationPageSize) ++
              (db.after s.afterSequence).drop (listLimit auditVerificationPageSize)) (e :: es ++ rest) :=
            List.rel_append hreads hrest
          rw [List.take_append_drop] at hall
          exact ⟨e :: es ++ rest, hall, verifyEntries_append.mpr ⟨middle, hmiddle, hverify⟩⟩
    · rintro ⟨es, hreads, hverify⟩
      have hpage : service.Reads ((db.after s.afterSequence).take (listLimit auditVerificationPageSize))
          (es.take (listLimit auditVerificationPageSize)) := List.forall₂_take _ hreads
      have hlist := listAuditEntriesAfter_ok.mpr hpage
      by_cases hne : es.take (listLimit auditVerificationPageSize) = []
      · have hes : es = [] := by
          rcases List.take_eq_nil_iff.mp hne with hzero | hnil
          · omega
          · exact hnil
        rw [hne] at hlist
        rw [verifyPages_nil hlist, ← hverify, hes, Service.verifyEntries]
      · rw [← List.take_append_drop (listLimit auditVerificationPageSize) es] at hverify
        obtain ⟨middle, hmiddle, hrest⟩ := verifyEntries_append.mp hverify
        have hdecreases := service.page_decreases hlist hne hmiddle
        have hlater : service.Reads (db.after middle.afterSequence) (es.drop (listLimit auditVerificationPageSize)) := by
          rw [after_page hpage hne hmiddle]
          exact List.forall₂_drop _ hreads
        rw [verifyPages_page hlist hne hmiddle]
        exact (ih _ (hn ▸ hdecreases) rfl).mpr ⟨_, hlater, hrest⟩

end Pages
/-! ## Heads -/

def headOf (es : List AuditEntry) : AuditHead :=
  ⟨es.length, lastSequence 0 es, HashChain.tip Record.entryHash "" es⟩

theorem headsFrom_append (count : ℕ) (es es' : List AuditEntry) :
    headsFrom count (es ++ es') = headsFrom count es ++ headsFrom (count + es.length) es' := by
  induction es generalizing count with
  | nil => rfl
  | cons e es ih =>
    rw [List.cons_append, headsFrom, ih, headsFrom, List.cons_append, List.length_cons]
    congr 3
    omega

theorem heads_concat (es : List AuditEntry) (e : AuditEntry) : heads (es ++ [e]) = heads es ++ [headOf (es ++ [e])] := by
  have hhead : headOf (es ++ [e]) = ⟨0 + es.length + 1, e.sequence, e.entryHash⟩ := by
    rw [headOf, HashChain.tip_concat, List.length_append, Nat.zero_add]
    simp [lastSequence]
  rw [heads, headsFrom_append, hhead]
  rfl

theorem length_heads (es : List AuditEntry) : (heads es).length = es.length + 1 := by
  rw [heads, List.length_cons, length_headsFrom]

theorem eq_headOf_take {es : List AuditEntry} {h : AuditHead} (hmem : h ∈ heads es) :
    h.count ≤ es.length ∧ h = headOf (es.take h.count) := by
  induction es using List.reverseRecOn with
  | nil =>
    rw [List.mem_singleton.mp hmem]
    exact ⟨le_rfl, rfl⟩
  | append_singleton es e ih =>
    rw [heads_concat] at hmem
    rcases List.mem_append.mp hmem with hold | hnew
    · obtain ⟨hle, heq⟩ := ih hold
      rw [List.length_append, List.take_append_of_le_length hle]
      exact ⟨Nat.le_add_right_of_le hle, heq⟩
    · rw [List.mem_singleton.mp hnew]
      change (es ++ [e]).length ≤ _ ∧ _ = headOf ((es ++ [e]).take (es ++ [e]).length)
      rw [List.take_length]
      exact ⟨le_rfl, rfl⟩

theorem headOf_mem_heads (es : List AuditEntry) : headOf es ∈ heads es := by
  rcases List.eq_nil_or_concat es with rfl | ⟨front, e, rfl⟩
  · exact List.mem_cons_self
  · rw [List.concat_eq_append, heads_concat]
    simp

section Chain
variable {service : Service} {db : Database} {trusted : AuditHead}

theorem getAuditHead_ok {head : AuditHead} : getAuditHead db = .ok head ↔ ∃ state, db.state = some state ∧
    0 ≤ state.entryCount ∧ 0 ≤ state.sequence ∧ 0 ≤ db.lastSequence ∧
    ⟨state.entryCount.toNat, state.sequence, state.headHash⟩ = head ∧ db.actual = head := by
  unfold getAuditHead
  cases db.state with
  | none => simp
  | some state =>
    by_cases hnegative : state.entryCount < 0 ∨ state.sequence < 0 ∨ db.lastSequence < 0
    · simp only [hnegative, if_true]
      constructor
      · exact nofun
      · rintro ⟨_, ⟨rfl⟩, hcount, hsequence, hlast, -⟩
        omega
    · simp only [hnegative, if_false, Option.some.injEq, exists_eq_left']
      by_cases heq : db.actual = ⟨state.entryCount.toNat, state.sequence, state.headHash⟩
      · simp only [heq, ne_eq, not_true_eq_false, if_false, Except.ok.injEq, and_self]
        have hpositive : 0 ≤ state.entryCount ∧ 0 ≤ state.sequence ∧ 0 ≤ db.lastSequence := by omega
        exact ⟨fun h => ⟨hpositive.1, hpositive.2.1, hpositive.2.2, h⟩, fun h => h.2.2.2⟩
      · simp only [heq, ne_eq, not_false_eq_true, if_true]
        constructor
        · exact nofun
        · rintro ⟨-, -, -, hhead, hactual⟩
          exact absurd (hactual.trans hhead.symm) heq

theorem getAuditHead_actual {head : AuditHead} (h : getAuditHead db = .ok head) : db.actual = head := by
  obtain ⟨_, -, -, -, -, -, hactual⟩ := getAuditHead_ok.mp h
  exact hactual

theorem Database.after_zero {es : List AuditEntry} (hreads : service.Reads db.rows es) (hchecks : Checks service "" 0 es) :
    db.after 0 = db.rows := by
  refine List.filter_eq_self.mpr fun row hrow => ?_
  obtain ⟨e, he, hscan⟩ := exists_of_forall₂ hreads.flip hrow
  rw [decide_eq_true_eq, ← service.scan_sequence hscan]
  exact (hchecks.le_lastSequence.2 e he).1

/-- Verification accepts the tables that are one chain of authentic entries and have the trusted head
in it, and misses the anchors of the heads behind it. -/
theorem verifyChain_ok {missing : List AuditHead} : service.verifyChain db trusted = .ok missing ↔
    ∃ es, service.Reads db.rows es ∧ Checks service "" 0 es ∧ getAuditHead db = .ok (headOf es) ∧
      trusted ∈ heads es ∧ missing = (heads es).drop (trusted.count + 1) := by
  constructor
  · intro h
    unfold Service.verifyChain at h
    cases hpages : service.verifyPages db trusted (.start trusted) with
    | error err =>
      rw [hpages] at h
      cases h
    | ok s =>
      obtain ⟨es, hreads, hverify⟩ := verifyPages_ok.mp hpages
      obtain ⟨rfl, hchecks⟩ := verifyEntries_ok.mp hverify
      obtain ⟨hcount, hprevious, hsequence⟩ := foldl_advance trusted (.start trusted) es
      have hmatched := prefixMatched_foldl trusted (.start trusted) es
      have hrecovery := recoveryAnchors_foldl trusted (.start trusted) es
      generalize es.foldl (Scan.advance trusted) (.start trusted) = s at *
      have hactual : (⟨s.count, s.afterSequence, s.previous⟩ : AuditHead) = headOf es := by
        rw [hcount, hprevious, hsequence, headOf]
        exact congrArg (AuditHead.mk · _ _) (Nat.zero_add _)
      rw [hpages] at h
      cases hstate : getAuditHead db with
      | error err =>
        simp only [hstate] at h
        cases h
      | ok state =>
        simp only [hstate, hactual] at h
        split at h
        · cases h
        rename_i heq
        have heq := not_not.mp heq
        subst heq
        have hrows : service.Reads db.rows es := by
          have hlength := congrArg AuditHead.count (getAuditHead_actual hstate)
          have hafter : db.after 0 = db.rows :=
            List.filter_sublist.eq_of_length (hreads.length_eq.trans hlength.symm)
          exact hafter ▸ hreads
        refine ⟨es, hrows, hchecks, rfl, ?_⟩
        split at h
        · rename_i htrusted
          rw [Except.ok.injEq] at h
          rw [htrusted]
          refine ⟨headOf_mem_heads es, ?_⟩
          rw [← h, List.drop_of_length_le]
          rw [length_heads]
          exact le_rfl
        split at h
        · rename_i hbehind
          rw [Except.ok.injEq] at h
          refine ⟨?_, ?_⟩
          · rcases hmatched.mp hbehind.2 with hmem | ⟨hnone, hstart⟩
            · exact List.mem_cons_of_mem _ hmem
            · simp only [Scan.start, Bool.and_eq_true, decide_eq_true_eq] at hstart
              obtain ⟨⟨hzero, hsequence⟩, hhash⟩ := hstart
              have hgenesis : trusted = genesis := AuditHead.ext hzero hsequence hhash
              rw [hgenesis]
              exact List.mem_cons_self
          · rw [← h, hrecovery]
            rfl
        · cases h
  · rintro ⟨es, hreads, hchecks, hstate, htrusted, rfl⟩
    have hafter := Database.after_zero hreads hchecks
    obtain ⟨hcount, hprevious, hsequence⟩ := foldl_advance trusted (.start trusted) es
    have hmatched := prefixMatched_foldl trusted (.start trusted) es
    have hrecovery := recoveryAnchors_foldl trusted (.start trusted) es
    have hpages : service.verifyPages db trusted (.start trusted) =
        .ok (es.foldl (Scan.advance trusted) (.start trusted)) := by
      refine verifyPages_ok.mpr ⟨es, ?_, verifyEntries_ok.mpr ⟨rfl, hchecks⟩⟩
      change service.Reads (db.after 0) es
      rw [hafter]
      exact hreads
    generalize es.foldl (Scan.advance trusted) (.start trusted) = s at *
    have hactual : (⟨s.count, s.afterSequence, s.previous⟩ : AuditHead) = headOf es := by
      rw [hcount, hprevious, hsequence, headOf]
      exact congrArg (AuditHead.mk · _ _) (Nat.zero_add _)
    simp only [Service.verifyChain, hpages, hstate, hactual, ne_eq, not_true_eq_false, if_false]
    obtain ⟨hle, htake⟩ := eq_headOf_take htrusted
    by_cases hlast : trusted = headOf es
    · rw [if_pos hlast, List.drop_of_length_le]
      rw [length_heads, hlast]
      exact le_rfl
    · have hbefore : trusted.count < es.length := by
        refine lt_of_le_of_ne hle fun heq => hlast ?_
        rw [htake, heq, List.take_length]
      have hscount : s.count = es.length := hcount.trans (Nat.zero_add _)
      have hstart : s.prefixMatched = true := by
        refine hmatched.mpr ?_
        rcases List.mem_cons.mp htrusted with rfl | hmem
        · exact .inr ⟨fun h => absurd h.1 (lt_irrefl _), rfl⟩
        · exact .inl hmem
      rw [if_neg hlast, if_pos ⟨hscount ▸ hbefore, hstart⟩, hrecovery]
      rfl

end Chain
end AntiFlock.Audit
