import AntiFlock.Effect.Logic
import AntiFlock.Witness.File

set_option autoImplicit false

/-!
# Replaying the witness journal

A journal is sound when it is a text of records that verify and advance, with at
most a torn line behind it. Opening a sound journal succeeds. An append keeps it
sound if it starts at a whole line and its checkpoint advances past what the
file has, which is not what the witness compares it with: the marks in memory
stay behind when an append fails after its bytes are written.
-/
namespace AntiFlock.Witness
open AntiFlock.Go AntiFlock.Effect
open Lines (newline)

theorem validDigest_digest (content : List UInt8) : validDigest (digest content) = true := by
  obtain ⟨hlength, hlower⟩ := lower_hexEncode (Sha256.sum256 content)
  rw [Sha256.length_sum256] at hlength
  simp [validDigest, digest, len, hlength, hlower]

section Receipts
variable {key : Key}

theorem receiptSigningPayload_signature (r : Receipt) (signature : List UInt8) :
    receiptSigningPayload { r with signature := signature } = receiptSigningPayload r := rfl

theorem signReceipt_spec {r r' : Receipt} (h : signReceipt key r = .ok r') :
    r'.checkpointDigest = r.checkpointDigest ∧ verifyReceipt key r' = none := by
  unfold signReceipt at h
  cases hpayload : receiptSigningPayload { r with keyID := key.id } with
  | error err =>
    simp only [hpayload] at h
    cases h
  | ok payload =>
    simp only [hpayload, Except.ok.injEq] at h
    subst h
    have hsigned := (receiptSigningPayload_signature { r with keyID := key.id } (key.sign payload)).trans hpayload
    refine ⟨rfl, ?_⟩
    simp only [verifyReceipt, ne_eq, not_true_eq_false, if_false, key.length_sign, hsigned, key.verify_sign, if_true]

theorem verifyReceiptFor_signReceipt {r r' : Receipt} {c : Checkpoint} (h : signReceipt key r = .ok r')
    (hc : c.validate = none) (hr : r.checkpointDigest = c.digest) : verifyReceiptFor key r' c = none := by
  obtain ⟨hdigest, hverify⟩ := signReceipt_spec h
  simp only [verifyReceiptFor, hc, hdigest, hr, ne_eq, not_true_eq_false, if_false, hverify]

end Receipts

theorem regresses_empty (c : Checkpoint) : regresses ∅ c = false := by
  simp [regresses]

theorem regresses_insert (last : Marks) (c earlier : Checkpoint) :
    regresses (last.insert earlier.deploymentDigest earlier.sequence) c =
      if c.deploymentDigest = earlier.deploymentDigest then decide (c.sequence ≤ earlier.sequence)
      else regresses last c := by
  rw [regresses, Map.lookup_insert_eq_ite]
  by_cases h : c.deploymentDigest = earlier.deploymentDigest
  · rw [if_pos h, if_pos h, Option.any_some]
  · rw [if_neg h, if_neg h, regresses]

/-- Of two checkpoints of one deployment, the second is later. -/
def Advances (earlier later : Checkpoint) : Prop :=
  later.deploymentDigest = earlier.deploymentDigest → earlier.sequence < later.sequence

section Journal
variable (encoding : Encoding) (key : Key)

def recorded (f : File) : List JournalRecord :=
  (Lines.split newline (Lines.complete newline (f.getD []))).filterMap encoding.decode

/-- The sequences of each deployment increase along some records. -/
def Increasing (records : List JournalRecord) : Prop :=
  records.Pairwise fun r s => Advances r.checkpoint s.checkpoint

/-- A record that replay accepts where its checkpoint advances. -/
structure SoundRecord (r : JournalRecord) : Prop where
  version : r.version = journalVersion
  short : (encoding.encode r).length < maxJournalLine
  signed : ∃ signature, encoding.decodeSignature r.receipt.signature = some signature ∧
    verifyReceiptFor key ⟨r.receipt.witnessID, r.receipt.checkpointDigest, r.receipt.witnessedAt, signature,
      r.receipt.keyID⟩ r.checkpoint = none

/-- A file of sound and increasing records, with a torn line behind them. -/
structure SoundFile (f : File) (records : List JournalRecord) (tail : List UInt8) : Prop where
  content : f.getD [] = encoding.text records ++ tail
  torn : newline ∉ tail
  sound : ∀ r ∈ records, SoundRecord encoding key r
  increasing : Increasing records

variable {encoding key}

theorem recorded_append {f : File} {records : List JournalRecord} {tail : List UInt8}
    (hcontent : f.getD [] = encoding.text records ++ tail) (htorn : newline ∉ tail) : recorded encoding f = records := by
  rw [recorded, hcontent, encoding.complete_text records htorn, encoding.split_text, List.filterMap_map]
  have hdecode : encoding.decode ∘ encoding.encode = some := funext encoding.decode_encode
  rw [hdecode, List.filterMap_some]

theorem recorded_text (records : List JournalRecord) : recorded encoding (some (encoding.text records)) = records :=
  recorded_append (List.append_nil _).symm List.not_mem_nil

theorem SoundFile.recorded_eq {f : File} {records : List JournalRecord} {tail : List UInt8}
    (h : SoundFile encoding key f records tail) : recorded encoding f = records :=
  recorded_append h.content h.torn

theorem replayLine_encode {r : JournalRecord} (h : SoundRecord encoding key r) (last : Marks) :
    replayLine encoding key (encoding.encode r) last =
      if regresses last r.checkpoint then .error .regression
      else .ok (last.insert r.checkpoint.deploymentDigest r.checkpoint.sequence) := by
  obtain ⟨signature, hsignature, hverify⟩ := h.signed
  simp only [replayLine, Nat.not_le.mpr h.short, if_false, encoding.decode_encode, h.version, ne_eq,
    not_true_eq_false, hsignature, hverify]

theorem replayLines_encode {records : List JournalRecord} (hsound : ∀ r ∈ records, SoundRecord encoding key r)
    (hincreasing : Increasing records) {last : Marks} (hlast : ∀ r ∈ records, regresses last r.checkpoint = false)
    (index : ℕ) : ∃ last', replayLines encoding key index (records.map encoding.encode) last = .ok last' := by
  induction records generalizing last index with
  | nil => exact ⟨last, rfl⟩
  | cons r records ih =>
    have hcons := List.pairwise_cons.mp hincreasing
    have hline := replayLine_encode (hsound r List.mem_cons_self) last
    rw [hlast r List.mem_cons_self, if_neg Bool.false_ne_true] at hline
    have hnext : ∀ s ∈ records,
        regresses (last.insert r.checkpoint.deploymentDigest r.checkpoint.sequence) s.checkpoint = false := by
      intro s hs
      rw [regresses_insert]
      by_cases hsame : s.checkpoint.deploymentDigest = r.checkpoint.deploymentDigest
      · have hlater := hcons.1 s hs hsame
        rw [if_pos hsame, decide_eq_false_iff_not]
        omega
      · rw [if_neg hsame]
        exact hlast s (List.mem_cons_of_mem _ hs)
    obtain ⟨last', hrest⟩ := ih (fun s hs => hsound s (List.mem_cons_of_mem _ hs)) hcons.2 hnext (index + 1)
    refine ⟨last', ?_⟩
    simp only [List.map_cons, replayLines, hline, hrest]

/-- The next append starts a line, and its checkpoint advances past what the file has. -/
structure Steady (encoding : Encoding) (f : File) (c : Checkpoint) : Prop where
  whole : (f.getD []).getLast?.any (· != newline) = false
  advances : ∀ r ∈ recorded encoding f, Advances r.checkpoint c

def Sound (encoding : Encoding) (key : Key) (f : File) : Prop :=
  ∃ records tail, SoundFile encoding key f records tail

theorem SoundFile.tail_nil {f : File} {records : List JournalRecord} {tail : List UInt8}
    (h : SoundFile encoding key f records tail) (hwhole : (f.getD []).getLast?.any (· != newline) = false) :
    tail = [] := by
  by_contra hne
  rw [h.content, List.getLast?_append_of_ne_nil _ hne, List.getLast?_eq_some_getLast hne, Option.any_some] at hwhole
  have hlast : tail.getLast hne = newline := by simpa using hwhole
  exact h.torn (hlast ▸ List.getLast_mem hne)

theorem text_whole (records : List JournalRecord) :
    (encoding.text records).getLast?.any (· != newline) = false := by
  rcases List.eq_nil_or_concat records with rfl | ⟨front, r, rfl⟩
  · rfl
  · rw [List.concat_eq_append, encoding.text_append, encoding.text_singleton, ← List.append_assoc,
      List.getLast?_append_of_ne_nil _ (List.cons_ne_nil _ _), List.getLast?_singleton, Option.any_some, bne_self_eq_false]

theorem AppendStep.Leaves.written {content : List UInt8} {f f' : File} {failed : AppendStep}
    (h : failed.Leaves content f f') : f' = f ∨ ∃ written, written <+: content ∧ f' = some (f.getD [] ++ written) := by
  cases failed with
  | inspect => exact .inl h
  | openFile => exact .inl h
  | protect => exact .inr ⟨[], List.nil_prefix, by rw [List.append_nil]; exact h⟩
  | write => exact .inr h
  | sync => exact .inr ⟨content, List.prefix_rfl, h⟩
  | close => exact .inr ⟨content, List.prefix_rfl, h⟩
  | syncDirectory =>
    obtain ⟨rfl, hnew⟩ := h
    exact .inr ⟨content, List.prefix_rfl, hnew⟩

theorem Sound.written {f : File} {r : JournalRecord} (h : Sound encoding key f) (hr : SoundRecord encoding key r)
    (hsteady : Steady encoding f r.checkpoint) {written : List UInt8}
    (hwritten : written <+: encoding.encode r ++ [newline]) : Sound encoding key (some (f.getD [] ++ written)) := by
  obtain ⟨records, tail, hf⟩ := h
  have hadvances := hsteady.advances
  rw [hf.recorded_eq] at hadvances
  have hcontent := hf.content
  rw [hf.tail_nil hsteady.whole, List.append_nil] at hcontent
  rcases Lines.torn_or_whole (encoding.encode_line r) hwritten with rfl | htorn
  · refine ⟨records ++ [r], [], ?_, List.not_mem_nil, ?_, ?_⟩
    · rw [encoding.text_append, encoding.text_singleton, List.append_nil, Option.getD_some, hcontent]
    · intro s hs
      rcases List.mem_append.mp hs with hs | hs
      · exact hf.sound s hs
      · rw [List.mem_singleton.mp hs]
        exact hr
    · refine List.pairwise_append.mpr ⟨hf.increasing, List.pairwise_singleton _ _, ?_⟩
      intro s hs t ht
      rw [List.mem_singleton.mp ht]
      exact hadvances s hs
  · refine ⟨records, written, ?_, htorn, hf.sound, hf.increasing⟩
    rw [Option.getD_some, hcontent]

theorem wp_appendRecord {f : File} {r : JournalRecord} (h : Sound encoding key f)
    (hr : (encoding.encode r).length < maxJournalLine → SoundRecord encoding key r)
    (hsteady : Steady encoding f r.checkpoint) :
    wp faultyDisk (Sound encoding key) (appendRecord encoding r) (fun _ => Sound encoding key) f := by
  unfold appendRecord
  by_cases hmarshals : (!r.marshals) = true
  · rw [if_pos hmarshals]
    exact ⟨h, h⟩
  rw [if_neg hmarshals]
  by_cases hlong : maxJournalLine ≤ (encoding.encode r).length
  · rw [if_pos hlong]
    exact ⟨h, h⟩
  rw [if_neg hlong]
  have hsound := hr (Nat.lt_of_not_le hlong)
  have hleaves : ∀ (failed : AppendStep) f', failed.Leaves (encoding.encode r ++ [newline]) f f' →
      Sound encoding key f' := by
    intro failed f' hfailed
    rcases hfailed.written with rfl | ⟨written, hwritten, rfl⟩
    · exact h
    · exact h.written hsound hsteady hwritten
  refine ⟨h, ?_, ?_⟩
  · rintro f' ⟨failed, hfailed⟩
    exact hleaves failed f' hfailed
  · intro answer f' hstep
    cases answer with
    | none =>
      obtain rfl : f' = _ := hstep
      have hdone := h.written hsound hsteady List.prefix_rfl
      exact ⟨hdone, hdone⟩
    | some failed =>
      have hdone := hleaves failed f' hstep
      exact ⟨hdone, hdone⟩

theorem wp_submit {f : File} {last : Marks} {c : Checkpoint} (witnessID : String) (cancelled : Bool) (now : Instant)
    (h : Sound encoding key f) (hsteady : regresses last c = true ∨ Steady encoding f c) :
    wp faultyDisk (Sound encoding key) (submit encoding key witnessID cancelled c now last)
      (fun _ => Sound encoding key) f := by
  unfold submit
  by_cases hcancelled : cancelled = true
  · rw [if_pos hcancelled]
    exact ⟨h, h⟩
  rw [if_neg hcancelled]
  cases hvalidate : c.validate with
  | some err => exact ⟨h, h⟩
  | none =>
    by_cases hregresses : regresses last c = true
    · simp only [hregresses, if_true]
      exact ⟨h, h⟩
    simp only [hregresses]
    cases hsign : signReceipt key ⟨witnessID, c.digest, now, [], ""⟩ with
    | error err => exact ⟨h, h⟩
    | ok receipt =>
      have hverify := verifyReceiptFor_signReceipt hsign hvalidate rfl
      have happend := wp_appendRecord (r := journalRecord encoding c receipt) h
        (fun hshort => ⟨rfl, hshort, receipt.signature, encoding.decode_encodeSignature _, hverify⟩)
        (hsteady.resolve_left hregresses)
      refine (wp_bind _ _ _ _).mpr (wp_mono happend fun answer f' _ hf' => ?_)
      cases answer with
      | error err => exact ⟨hf', hf'⟩
      | ok done => exact ⟨hf', hf'⟩

theorem wp_replay {f : File} (h : Sound encoding key f) :
    wp faultyDisk (Sound encoding key) (replay encoding key)
      (fun r f' => Sound encoding key f' ∧ ((f.getD []).length ≤ maxJournalSize → ∃ last, r = .ok last)) f := by
  refine ⟨h, ?_, ?_⟩
  · rintro f' rfl
    exact h
  rintro answer f' ⟨rfl, rfl⟩
  cases f' with
  | none => exact ⟨h, h, fun _ => ⟨∅, rfl⟩⟩
  | some content =>
    by_cases hsize : maxJournalSize < content.length
    · simp only [hsize, if_true]
      refine ⟨h, h, fun hle => ?_⟩
      exact absurd hle (Nat.not_le.mpr hsize)
    simp only [hsize, if_false]
    obtain ⟨records, tail, hf⟩ := h
    have hcontent : content = encoding.text records ++ tail := hf.content
    have hempty : ∀ r ∈ records, regresses ∅ r.checkpoint = false := fun _ _ => regresses_empty _
    obtain ⟨last, hlast⟩ := replayLines_encode hf.sound hf.increasing hempty 0
    have hcut : SoundFile encoding key (some (encoding.text records)) records [] :=
      ⟨(List.append_nil _).symm, List.not_mem_nil, hf.sound, hf.increasing⟩
    by_cases htorn : content.getLast?.any (· != newline) = true
    · have hcomplete : Lines.complete newline content = encoding.text records :=
        hcontent ▸ encoding.complete_text records hf.torn
      have hend : Sound encoding key ((some content).map (List.take (Lines.complete newline content).length)) := by
        rw [hcomplete, hcontent, Option.map_some, List.take_left]
        exact ⟨records, [], hcut⟩
      simp only [htorn, if_true]
      refine ⟨⟨records, tail, hf⟩, ?_, ?_⟩
      · rintro f' (rfl | rfl)
        · exact ⟨records, tail, hf⟩
        · exact hend
      · rintro _ f' rfl
        exact ⟨hend, hend, fun _ => ⟨last, by rw [hcomplete, encoding.split_text, hlast]⟩⟩
    · simp only [htorn]
      have htail := hf.tail_nil (Bool.eq_false_iff.mpr htorn)
      rw [htail, List.append_nil] at hcontent
      exact ⟨⟨records, tail, hf⟩, ⟨records, tail, hf⟩,
        fun _ => ⟨last, by rw [hcontent, encoding.split_text, hlast]⟩⟩

end Journal

/-- The journal file, and the marks of the witness that has it open. -/
structure State where
  file : File
  last : Option Marks

/-- What must hold before a submission, of the marks, the file and the checkpoint. -/
abbrev Condition := Marks → File → Checkpoint → Prop

section Runs
variable (encoding : Encoding) (key : Key) (witnessID : String)

/-- Submissions that meet a condition, openings, and the process dying inside either. -/
inductive Step (condition : Condition) : State → State → Prop where
  | submitted {f f' : File} {last last' : Marks} {cancelled : Bool} {c : Checkpoint} {now : Instant}
      {r : Except WitnessErr Receipt} (h : condition last f c)
      (hexec : Exec faultyDisk (submit encoding key witnessID cancelled c now last) f (some (r, last')) f') :
      Step condition ⟨f, some last⟩ ⟨f', some last'⟩
  | killed {f f' : File} {last : Marks} {cancelled : Bool} {c : Checkpoint} {now : Instant}
      (h : condition last f c)
      (hexec : Exec faultyDisk (submit encoding key witnessID cancelled c now last) f none f') :
      Step condition ⟨f, some last⟩ ⟨f', none⟩
  | opened {f f' : File} {o : Option (Except ReplayErr Marks)} (running : Option Marks)
      (hexec : Exec faultyDisk (replay encoding key) f o f') :
      Step condition ⟨f, running⟩ ⟨f', o.bind Except.toOption⟩

def Initial (s : State) : Prop := s = ⟨none, none⟩

/-- `Open` can return, and never with an error. -/
def Opens (f : File) : Prop :=
  (∃ last f', Exec faultyDisk (replay encoding key) f (some (.ok last)) f') ∧
    ∀ r f', Exec faultyDisk (replay encoding key) f (some r) f' → ∃ last, r = .ok last

/-- Submissions that the marks refuse, or that go on from the end of the file. -/
def InStep : Condition := fun last f c => regresses last c = true ∨ Steady encoding f c

end Runs

section Runs
variable {encoding : Encoding} {key : Key} {witnessID : String}

def goodDisk : (q : Request) → File → Answer q × File
  | .read, f => (f, f)
  | .append content, f => (none, some (f.getD [] ++ content))
  | .truncate length, f => ((), f.map (List.take length))

theorem faultyDisk_goodDisk (q : Request) (f : File) : faultyDisk.step q f (goodDisk q f).1 (goodDisk q f).2 := by
  cases q with
  | read => exact ⟨rfl, rfl⟩
  | append content => rfl
  | truncate length => rfl

theorem Sound.opens {f : File} (h : Sound encoding key f) (hsize : (f.getD []).length ≤ maxJournalSize) :
    Opens encoding key f := by
  have hall : ∀ r f', Exec faultyDisk (replay encoding key) f (some r) f' → ∃ last, r = .ok last :=
    fun r f' hexec => (hexec.of_wp (wp_replay h)).2 hsize
  have hsome := Prog.exec_run (H := faultyDisk) faultyDisk_goodDisk (replay encoding key) f
  obtain ⟨last, hlast⟩ := hall _ _ hsome
  exact ⟨⟨last, _, hlast ▸ hsome⟩, hall⟩

theorem Step.sound {s t : State} (h : Step encoding key witnessID (InStep encoding) s t)
    (hs : Sound encoding key s.file) : Sound encoding key t.file := by
  cases h with
  | submitted h hexec => exact hexec.of_wp (wp_submit witnessID _ _ hs h)
  | killed h hexec => exact hexec.of_wp (wp_submit witnessID _ _ hs h)
  | @opened f f' o running hexec =>
    have hend := hexec.of_wp (wp_replay hs)
    cases o with
    | none => exact hend
    | some r => exact hend.1

theorem Initial.sound {s : State} (h : Initial s) : Sound encoding key s.file := by
  rw [h]
  exact ⟨[], [], rfl, List.not_mem_nil, nofun, List.Pairwise.nil⟩

/-- As long as every submission goes on from the end of the file, the journal can be opened and its
sequences increase. -/
theorem journal_replayable {s : State}
    (h : Reachable Initial (Step encoding key witnessID (InStep encoding)) s) :
    ((s.file.getD []).length ≤ maxJournalSize → Opens encoding key s.file) ∧
      Increasing (recorded encoding s.file) := by
  have hsound : Sound encoding key s.file :=
    h.invariant (I := fun s => Sound encoding key s.file) (fun _ => Initial.sound) fun _ _ hs hstep => hstep.sound hs
  refine ⟨hsound.opens, ?_⟩
  obtain ⟨records, tail, hf⟩ := hsound
  rw [hf.recorded_eq]
  exact hf.increasing

/-- A checkpoint, its receipt and their record, such that `Submit` gets to the append. -/
structure Recordable (encoding : Encoding) (key : Key) (witnessID : String) (c : Checkpoint) (now : Instant)
    (receipt : Receipt) : Prop where
  valid : c.validate = none
  signed : signReceipt key ⟨witnessID, c.digest, now, [], ""⟩ = .ok receipt
  marshals : (journalRecord encoding c receipt).marshals = true
  short : (encoding.encode (journalRecord encoding c receipt)).length < maxJournalLine

namespace Recordable
variable {c : Checkpoint} {now : Instant} {receipt : Receipt}

theorem sound (h : Recordable encoding key witnessID c now receipt) :
    SoundRecord encoding key (journalRecord encoding c receipt) where
  version := rfl
  short := h.short
  signed := ⟨receipt.signature, encoding.decode_encodeSignature _, verifyReceiptFor_signReceipt h.signed h.valid rfl⟩

theorem submit_eq (h : Recordable encoding key witnessID c now receipt) {last : Marks}
    (hlast : regresses last c = false) :
    submit encoding key witnessID false c now last =
      .call (S := fileSig) (.append (encoding.text [journalRecord encoding c receipt])) fun
        | none => .ret (.ok receipt, last.insert c.deploymentDigest c.sequence)
        | some failed => .ret (.error (.unavailable (.step failed)), last) := by
  rw [encoding.text_singleton]
  simp only [submit, Bool.false_eq_true, if_false, h.valid, hlast, h.signed, appendRecord, h.marshals, Bool.not_true,
    Nat.not_le.mpr h.short]
  refine congrArg (Prog.call (S := fileSig) _) (funext fun answer => ?_)
  cases answer with
  | none => rfl
  | some failed => rfl

theorem retried (h : Recordable encoding key witnessID c now receipt) :
    Reachable Initial (Step encoding key witnessID fun _ _ _ => True)
      ⟨some (encoding.text [journalRecord encoding c receipt, journalRecord encoding c receipt]),
        some ((∅ : Marks).insert c.deploymentDigest c.sequence)⟩ := by
  have hsubmit := h.submit_eq (regresses_empty c)
  have hopen : Exec faultyDisk (replay encoding key) none (some (.ok ∅)) none := .call ⟨rfl, rfl⟩ (.ret _ _)
  have hfirst : Exec faultyDisk (submit encoding key witnessID false c now ∅) none
      (some (.error (.unavailable (.step .sync)), ∅)) (some (encoding.text [journalRecord encoding c receipt])) := by
    have hsync : faultyDisk.step (.append (encoding.text [journalRecord encoding c receipt])) none
        (some AppendStep.sync) (some (encoding.text [journalRecord encoding c receipt])) := rfl
    rw [hsubmit]
    exact .call hsync (.ret _ _)
  have hsecond : Exec faultyDisk (submit encoding key witnessID false c now ∅)
      (some (encoding.text [journalRecord encoding c receipt]))
      (some (.ok receipt, (∅ : Marks).insert c.deploymentDigest c.sequence))
      (some (encoding.text [journalRecord encoding c receipt, journalRecord encoding c receipt])) := by
    have hdone : faultyDisk.step (.append (encoding.text [journalRecord encoding c receipt]))
        (some (encoding.text [journalRecord encoding c receipt])) none
        (some (encoding.text [journalRecord encoding c receipt, journalRecord encoding c receipt])) :=
      congrArg some (encoding.text_append [_] [_])
    rw [hsubmit]
    exact .call hdone (.ret _ _)
  exact .next (.next (.next (.start rfl) (.opened none hopen)) (.submitted trivial hfirst)) (.submitted trivial hsecond)

theorem repeated_not_opens (h : Recordable encoding key witnessID c now receipt)
    (hsize : (encoding.text [journalRecord encoding c receipt, journalRecord encoding c receipt]).length ≤
      maxJournalSize) :
    ¬ Opens encoding key (some (encoding.text [journalRecord encoding c receipt, journalRecord encoding c receipt])) := by
  rintro ⟨-, hall⟩
  have hfirst := replayLine_encode h.sound ∅
  have hsecond := replayLine_encode h.sound ((∅ : Marks).insert c.deploymentDigest c.sequence)
  have hempty : regresses ∅ (journalRecord encoding c receipt).checkpoint = false := regresses_empty _
  have hregresses : regresses ((∅ : Marks).insert c.deploymentDigest c.sequence)
      (journalRecord encoding c receipt).checkpoint = true := by
    refine (regresses_insert ∅ c c).trans ?_
    rw [if_pos rfl, decide_eq_true_eq]
  rw [hempty, if_neg Bool.false_ne_true] at hfirst
  rw [hregresses, if_pos rfl] at hsecond
  have hlines : replayLines encoding key 0
      ([journalRecord encoding c receipt, journalRecord encoding c receipt].map encoding.encode) ∅ =
      .error (.line 2 .regression) := by
    simp only [List.map_cons, List.map_nil, replayLines, hfirst]
    rw [show (journalRecord encoding c receipt).checkpoint = c from rfl, hsecond]
  have hexec := Prog.exec_run (H := faultyDisk) faultyDisk_goodDisk (replay encoding key)
    (some (encoding.text [journalRecord encoding c receipt, journalRecord encoding c receipt]))
  obtain ⟨last, hlast⟩ := hall _ _ hexec
  simp only [replay, Prog.run, goodDisk, Nat.not_lt.mpr hsize, if_false, text_whole, Bool.false_eq_true,
    encoding.split_text, hlines] at hlast
  cases hlast

theorem reached (h : Recordable encoding key witnessID c now receipt) :
    Reachable Initial (Step encoding key witnessID (InStep encoding))
      ⟨some (encoding.text [journalRecord encoding c receipt]),
        some ((∅ : Marks).insert c.deploymentDigest c.sequence)⟩ := by
  have hopen : Exec faultyDisk (replay encoding key) none (some (.ok ∅)) none := .call ⟨rfl, rfl⟩ (.ret _ _)
  have hfirst : Exec faultyDisk (submit encoding key witnessID false c now ∅) none
      (some (.ok receipt, (∅ : Marks).insert c.deploymentDigest c.sequence))
      (some (encoding.text [journalRecord encoding c receipt])) := by
    have hdone : faultyDisk.step (.append (encoding.text [journalRecord encoding c receipt])) none none
        (some (encoding.text [journalRecord encoding c receipt])) := rfl
    rw [h.submit_eq (regresses_empty c)]
    exact .call hdone (.ret _ _)
  have hsteady : InStep encoding ∅ none c := .inr ⟨rfl, nofun⟩
  exact .next (.next (.start rfl) (.opened none hopen)) (.submitted hsteady hfirst)

end Recordable
end Runs

/-! ## A checkpoint and a witness for it -/

theorem length_zeros (_ : List UInt8) : (List.replicate 64 (0 : UInt8)).length = 64 := List.length_replicate

def zeroKey : Key where
  pkix := []
  sign _ := List.replicate 64 0
  verify _ _ := true
  length_sign := length_zeros
  verify_sign _ := rfl

def firstCheckpoint : Checkpoint := ⟨digest [], digest [], 1, 0, ""⟩

def firstReceipt : Receipt := ⟨"witness", firstCheckpoint.digest, 0, List.replicate 64 0, zeroKey.id⟩

instance countableJournalRecord : Countable JournalRecord :=
  Function.Injective.countable (β := String × (String × String × ℕ × ℤ × String) × String × String × ℤ × String × String)
    (f := fun r => (r.version, (r.checkpoint.deploymentDigest, r.checkpoint.auditHeadDigest, r.checkpoint.sequence,
      r.checkpoint.issuedAt, r.checkpoint.nodeCountBucket), r.receipt.witnessID, r.receipt.checkpointDigest,
      r.receipt.witnessedAt, r.receipt.signature, r.receipt.keyID)) (by
    rintro ⟨v, ⟨d, a, n, t, b⟩, w, g, u, s, k⟩ ⟨v', ⟨d', a', n', t', b'⟩, w', g', u', s', k'⟩ h
    simpa using h)

theorem zero_ne_newline : (0 : UInt8) ≠ newline := by decide

theorem decode_byteText (signature : List UInt8) : some (Lines.textBytes (Lines.byteText signature)) = some signature :=
  congrArg some (Lines.textBytes_byteText signature)

noncomputable def shortEncoding : Encoding where
  toCodec := .ofCountable newline zero_ne_newline ⟨journalVersion, firstCheckpoint, "witness",
    firstCheckpoint.digest, 0, Lines.byteText (List.replicate 64 0), zeroKey.id⟩
  encodeSignature := Lines.byteText
  decodeSignature s := some (Lines.textBytes s)
  decode_encodeSignature := decode_byteText

theorem encode_first : shortEncoding.encode (journalRecord shortEncoding firstCheckpoint firstReceipt) = [] :=
  congrArg (List.replicate · 0) (Lines.number_first (journalRecord shortEncoding firstCheckpoint firstReceipt))

theorem validIdentifier_zeroKey : validIdentifier zeroKey.id = true := by
  obtain ⟨hlength, hhex⟩ := bytes_hexEncode (Sha256.sum256 zeroKey.pkix)
  rw [Sha256.length_sum256] at hlength
  have hplain : ∀ b ∈ bytes (hexEncode (Sha256.sum256 zeroKey.pkix)), (printable b && b != 0x20) = true := by
    intro b hb
    have hbyte := List.all_eq_true.mp hhex b hb
    have hrange := toNat_of_hexByte hbyte
    rw [printable_of_hexByte hbyte, Bool.true_and, bne_iff_ne]
    rintro rfl
    exact absurd hrange.1 (by decide)
  have hbytes : bytes zeroKey.id = bytes "witness:" ++ bytes (hexEncode (Sha256.sum256 zeroKey.pkix)) := bytes_append _ _
  have hlen : len zeroKey.id = 72 := by
    rw [len, hbytes, List.length_append, hlength]
    rfl
  have hne : zeroKey.id ≠ "" := by
    intro h
    rw [h] at hlen
    exact absurd hlen (by decide)
  have hall : (bytes zeroKey.id).all (fun b => printable b && b != 0x20) = true := by
    rw [hbytes, List.all_append, Bool.and_eq_true]
    exact ⟨by decide, List.all_eq_true.mpr hplain⟩
  simp [validIdentifier, hne, hlen, maxIdentifierLength, hall]

theorem recordable_first : Recordable shortEncoding zeroKey "witness" firstCheckpoint 0 firstReceipt where
  valid := by
    simp only [Checkpoint.validate, firstCheckpoint, validDigest_digest]
    decide
  signed := by
    have hwitness : validIdentifier "witness" = true := by decide
    have hdigest : validDigest firstCheckpoint.digest = true := validDigest_digest _
    have hnow : Instant.isZero 0 = false := by decide
    simp only [signReceipt, receiptSigningPayload, hwitness, hdigest, hnow, validIdentifier_zeroKey, Bool.not_true,
      Bool.false_eq_true, if_false]
    rfl
  marshals := by
    change (decide (Instant.Parses 0) && decide (Instant.Parses 0)) = true
    decide
  short := by
    rw [encode_first]
    decide

theorem length_text_first (n : ℕ) : (shortEncoding.text
    (List.replicate n (journalRecord shortEncoding firstCheckpoint firstReceipt))).length = n := by
  induction n with
  | zero => rfl
  | succ n ih =>
    rw [List.replicate_succ, ← List.singleton_append, shortEncoding.text_append, shortEncoding.text_singleton,
      encode_first,
      List.length_append, ih]
    exact Nat.add_comm 1 n

theorem journal_replayable_first :
    Reachable Initial (Step shortEncoding zeroKey "witness" (InStep shortEncoding))
      ⟨some (shortEncoding.text [journalRecord shortEncoding firstCheckpoint firstReceipt]),
        some ((∅ : Marks).insert firstCheckpoint.deploymentDigest firstCheckpoint.sequence)⟩ ∧
    Opens shortEncoding zeroKey (some (shortEncoding.text [journalRecord shortEncoding firstCheckpoint firstReceipt])) := by
  have hreached := recordable_first.reached
  refine ⟨hreached, (journal_replayable hreached).1 ?_⟩
  exact (length_text_first 1).trans_le (by decide)

/-- A checkpoint that is written, not synced and submitted again ends the use of the journal. -/
theorem retry_breaks_journal : ∃ s, Reachable Initial (Step shortEncoding zeroKey "witness" fun _ _ _ => True) s ∧
    (s.file.getD []).length ≤ maxJournalSize ∧ ¬ Opens shortEncoding zeroKey s.file ∧
    ¬ Increasing (recorded shortEncoding s.file) := by
  have hsize : (shortEncoding.text [journalRecord shortEncoding firstCheckpoint firstReceipt,
      journalRecord shortEncoding firstCheckpoint firstReceipt]).length ≤ maxJournalSize :=
    (length_text_first 2).trans_le (by decide)
  refine ⟨_, recordable_first.retried, hsize, recordable_first.repeated_not_opens hsize, ?_⟩
  intro hincreasing
  rw [recorded_text] at hincreasing
  have htwice := List.rel_of_pairwise_cons hincreasing List.mem_cons_self rfl
  exact Nat.lt_irrefl _ htwice

end AntiFlock.Witness
