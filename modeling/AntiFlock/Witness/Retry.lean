import AntiFlock.Witness.Journal

set_option autoImplicit false

/-!
# Submitting a checkpoint again

A submission that fails or is cut short may have left its whole line in the journal.
The witness that made it does not know so and takes the checkpoint again; a witness
that opens the journal after it reads the line, and refuses the checkpoint as one that
does not advance.
-/
namespace AntiFlock.Witness
open AntiFlock.Go AntiFlock.Effect
open Lines (newline)

inductive Event where
  | submitted (c : Checkpoint) (answer : Except WitnessErr Receipt)
  /-- The process died in `Submit`. -/
  | killed (c : Checkpoint)
  /-- A witness read some records from its journal. -/
  | opened (records : List JournalRecord)
  /-- `Open` failed, or the process died in it. -/
  | notOpened

/-- A submission of a checkpoint of the deployment that is not an earlier one, but for attempts at this one
that got no receipt. -/
def Event.Later (c : Checkpoint) : Event → Prop
  | .submitted c' answer => c'.deploymentDigest = c.deploymentDigest ∧ c.sequence ≤ c'.sequence ∧
      (c' = c → ∃ receipt, answer = .ok receipt)
  | .killed c' => c'.deploymentDigest = c.deploymentDigest ∧ c.sequence ≤ c'.sequence ∧ c' ≠ c
  | .opened _ => False
  | .notOpened => False

def Event.Unknown (c : Checkpoint) (event : Event) : Prop :=
  event = .killed c ∨ ∃ err, event = .submitted c (.error (.unavailable err))

/-- The records that the witness at the end has read after some records. -/
def readSince (known : List JournalRecord) : List Event → List JournalRecord
  | [] => known
  | .opened records :: events => readSince records events
  | .submitted _ _ :: events => readSince known events
  | .killed _ :: events => readSince known events
  | .notOpened :: events => readSince known events

section Histories
variable (encoding : Encoding) (key : Key) (witnessID : String)

inductive Happens : State → Event → State → Prop where
  | submitted {f f' : File} {last last' : Marks} {cancelled : Bool} {c : Checkpoint} {now : Instant}
      {answer : Except WitnessErr Receipt}
      (hexec : Exec faultyDisk (submit encoding key witnessID cancelled c now last) f (some (answer, last')) f') :
      Happens ⟨f, some last⟩ (.submitted c answer) ⟨f', some last'⟩
  | killed {f f' : File} {last : Marks} {cancelled : Bool} {c : Checkpoint} {now : Instant}
      (hexec : Exec faultyDisk (submit encoding key witnessID cancelled c now last) f none f') :
      Happens ⟨f, some last⟩ (.killed c) ⟨f', none⟩
  | opened {f f' : File} {last : Marks} (running : Option Marks)
      (hexec : Exec faultyDisk (replay encoding key) f (some (.ok last)) f') :
      Happens ⟨f, running⟩ (.opened (recorded encoding f')) ⟨f', some last⟩
  | refused {f f' : File} {err : ReplayErr} (running : Option Marks)
      (hexec : Exec faultyDisk (replay encoding key) f (some (.error err)) f') :
      Happens ⟨f, running⟩ .notOpened ⟨f', none⟩
  | died {f f' : File} (running : Option Marks) (hexec : Exec faultyDisk (replay encoding key) f none f') :
      Happens ⟨f, running⟩ .notOpened ⟨f', none⟩

inductive History : State → List Event → State → Prop where
  | refl (s : State) : History s [] s
  | next {s t u : State} {event : Event} {events : List Event} (h : Happens encoding key witnessID s event t)
      (tail : History t events u) : History s (event :: events) u

end Histories

section Retry
variable {encoding : Encoding} {key : Key} {witnessID : String}

/-! ## What a witness has read -/

theorem regresses_insert_eq_false {last : Marks} {c earlier : Checkpoint} (h : regresses last earlier = false) :
    regresses (last.insert earlier.deploymentDigest earlier.sequence) c = false ↔
      regresses last c = false ∧ Advances earlier c := by
  rw [regresses_insert]
  by_cases hsame : c.deploymentDigest = earlier.deploymentDigest
  · rw [if_pos hsame, decide_eq_false_iff_not]
    constructor
    · intro hnot
      refine ⟨?_, fun _ => Nat.lt_of_not_le hnot⟩
      -- the mark is below the earlier checkpoint, and that one below the later
      rw [regresses, ← hsame] at h
      rw [regresses]
      cases hmark : last.lookup c.deploymentDigest with
      | none => rfl
      | some mark =>
        rw [hmark, Option.any_some, decide_eq_false_iff_not] at h
        rw [Option.any_some, decide_eq_false_iff_not]
        omega
    · rintro ⟨-, hadvances⟩
      exact Nat.not_le_of_lt (hadvances hsame)
  · rw [if_neg hsame]
    exact ⟨fun hlast => ⟨hlast, fun hdeployment => absurd hdeployment hsame⟩, And.left⟩

theorem replayLine_ok {line : List UInt8} {last last' : Marks} (h : replayLine encoding key line last = .ok last') :
    ∃ r, encoding.decode line = some r ∧ regresses last r.checkpoint = false ∧
      last' = last.insert r.checkpoint.deploymentDigest r.checkpoint.sequence := by
  unfold replayLine at h
  split at h
  · cases h
  cases hdecode : encoding.decode line with
  | none =>
    rw [hdecode] at h
    cases h
  | some r =>
    obtain ⟨version, c, receipt⟩ := r
    simp only [hdecode] at h
    split at h
    · cases h
    cases hsignature : encoding.decodeSignature receipt.signature with
    | none =>
      rw [hsignature] at h
      cases h
    | some signature =>
      simp only [hsignature] at h
      split at h
      · cases h
      split at h
      · cases h
      rename_i hregresses
      cases h
      exact ⟨_, rfl, Bool.eq_false_iff.mpr hregresses, rfl⟩

/-- The marks behind some lines let a checkpoint pass where the marks before them do and it advances past
every record of the lines. -/
theorem regresses_replayLines {lines : List (List UInt8)} {last last' : Marks} {index : ℕ}
    (h : replayLines encoding key index lines last = .ok last') (c : Checkpoint) :
    regresses last' c = false ↔
      regresses last c = false ∧ ∀ r ∈ lines.filterMap encoding.decode, Advances r.checkpoint c := by
  induction lines generalizing last index with
  | nil =>
    cases h
    simp
  | cons line rest ih =>
    rw [replayLines] at h
    cases hline : replayLine encoding key line last with
    | error err =>
      rw [hline] at h
      cases h
    | ok behind =>
      rw [hline] at h
      obtain ⟨r, hdecode, hregresses, rfl⟩ := replayLine_ok hline
      rw [ih h, regresses_insert_eq_false hregresses, List.filterMap_cons_some hdecode, List.forall_mem_cons, and_assoc]

theorem wp_replay_marks (f : File) (c : Checkpoint) :
    wp faultyDisk (fun _ => True) (replay encoding key) (fun answer f' => ∀ last, answer = .ok last →
      (regresses last c = false ↔ ∀ r ∈ recorded encoding f', Advances r.checkpoint c)) f := by
  refine ⟨trivial, fun _ _ => trivial, ?_⟩
  rintro answer f' ⟨rfl, rfl⟩
  cases f' with
  | none =>
    refine ⟨trivial, ?_⟩
    rintro last ⟨⟩
    simp [regresses_empty, recorded, Lines.complete, Lines.split]
  | some content =>
    by_cases hsize : maxJournalSize < content.length
    · simp only [hsize, if_true]
      refine ⟨trivial, ?_⟩
      rintro last ⟨⟩
    simp only [hsize, if_false]
    by_cases htorn : content.getLast?.any (· != newline) = true
    · simp only [htorn, if_true]
      refine ⟨trivial, fun _ _ => trivial, ?_⟩
      rintro _ f' rfl
      refine ⟨trivial, fun last hlines => ?_⟩
      rw [regresses_replayLines hlines, recorded, Option.map_some, Option.getD_some, Lines.take_complete,
        Lines.complete_complete]
      simp [regresses_empty]
    · simp only [htorn]
      refine ⟨trivial, fun last hlines => ?_⟩
      rw [regresses_replayLines hlines, recorded, Option.getD_some,
        Lines.complete_of_whole (Bool.eq_false_iff.mpr htorn)]
      simp [regresses_empty]

/-! ## What a submission changes -/

/-- How the marks stand to a checkpoint once a submission has returned. -/
structure Submitted (last : Marks) (c : Checkpoint) (answer : Except WitnessErr Receipt) (last' : Marks) : Prop where
  passed : ∀ receipt, answer = .ok receipt → regresses last c = false ∧
    last' = last.insert c.deploymentDigest c.sequence
  failed : ∀ err, answer = .error err → last' = last
  unavailable : ∀ err, answer = .error (.unavailable err) → regresses last c = false

theorem submitted_refused {last : Marks} {c : Checkpoint} {err : WitnessErr} (h : ∀ e, err ≠ .unavailable e) :
    Submitted last c (.error err) last where
  passed := by rintro receipt ⟨⟩
  failed _ _ := rfl
  unavailable := by
    rintro e ⟨⟩
    exact absurd rfl (h e)

theorem signReceipt_error {r : Receipt} {err : WitnessErr} (h : signReceipt key r = .error err) (e : AppendErr) :
    err ≠ .unavailable e := by
  unfold signReceipt receiptSigningPayload at h
  rintro rfl
  simp only at h
  split_ifs at h <;> cases h

theorem validate_unavailable {c : Checkpoint} {err : WitnessErr} (h : c.validate = some err) (e : AppendErr) :
    err ≠ .unavailable e := by
  unfold Checkpoint.validate at h
  rintro rfl
  split_ifs at h <;> cases h

theorem wp_submit_marks (f : File) (cancelled : Bool) (c : Checkpoint) (now : Instant) (last : Marks) :
    wp faultyDisk (fun _ => True) (submit encoding key witnessID cancelled c now last)
      (fun answer _ => Submitted last c answer.1 answer.2) f := by
  unfold submit
  split
  · exact ⟨trivial, submitted_refused (by rintro e ⟨⟩)⟩
  cases hvalidate : c.validate with
  | some err => exact ⟨trivial, submitted_refused (validate_unavailable hvalidate)⟩
  | none =>
    simp only
    split
    · exact ⟨trivial, submitted_refused (by rintro e ⟨⟩)⟩
    rename_i hregresses
    have hpasses := Bool.eq_false_iff.mpr hregresses
    cases hsign : signReceipt key ⟨witnessID, c.digest, now, [], ""⟩ with
    | error err => exact ⟨trivial, submitted_refused (signReceipt_error hsign)⟩
    | ok receipt =>
      have hany := wp_invariant (H := faultyDisk) (C := fun _ => True)
        (appendRecord encoding (journalRecord encoding c receipt)) f trivial (fun _ _ _ _ _ _ => trivial)
        fun _ _ _ _ _ => trivial
      refine (wp_bind _ _ _ _).mpr (wp_mono hany fun answer f' _ _ => ?_)
      cases answer with
      | error err => exact ⟨trivial, by rintro r ⟨⟩, fun _ _ => rfl, fun _ _ => hpasses⟩
      | ok done => exact ⟨trivial, fun _ _ => ⟨hpasses, rfl⟩, by rintro e ⟨⟩, by rintro e ⟨⟩⟩

/-! ## The retry -/

/-- The open witness lets a checkpoint pass just where it advances past some records. -/
def Agrees (c : Checkpoint) (known : List JournalRecord) (s : State) : Prop :=
  ∀ last, s.last = some last → (regresses last c = false ↔ ∀ r ∈ known, Advances r.checkpoint c)

theorem Happens.agrees {s t : State} {event : Event} {c : Checkpoint}
    (h : Happens encoding key witnessID s event t) (hevent : event.Unknown c) : Agrees c [] t := by
  rcases hevent with rfl | ⟨err, rfl⟩
  · cases h with
    | killed hexec => rintro last ⟨⟩
  · cases h with
    | @submitted f f' last last' cancelled c now answer hexec =>
      have hsubmitted : Submitted last c _ last' := hexec.of_wp (wp_submit_marks f cancelled c now last)
      rintro last'' ⟨⟩
      rw [hsubmitted.failed _ rfl, hsubmitted.unavailable err rfl]
      simp

theorem Agrees.submitted {c c' : Checkpoint} {known : List JournalRecord} {f f' : File} {last last' : Marks}
    {answer : Except WitnessErr Receipt} (h : Agrees c known ⟨f, some last⟩)
    (hsubmitted : Submitted last c' answer last') (hearly : ¬ Event.Later c (.submitted c' answer)) :
    Agrees c known ⟨f', some last'⟩ := by
  rintro last'' ⟨⟩
  rw [← h last rfl]
  cases answer with
  | error err => rw [hsubmitted.failed err rfl]
  | ok receipt =>
    obtain ⟨hpasses, hinsert⟩ := hsubmitted.passed receipt rfl
    have hadvances : Advances c' c := by
      intro hdeployment
      by_contra hnot
      exact hearly ⟨hdeployment.symm, Nat.le_of_not_lt hnot, fun _ => ⟨receipt, rfl⟩⟩
    rw [hinsert, regresses_insert_eq_false hpasses]
    exact ⟨And.left, fun hlast => ⟨hlast, hadvances⟩⟩

theorem Agrees.history {c : Checkpoint} {known : List JournalRecord} {s t : State} {events : List Event}
    (h : Agrees c known s) (hevents : History encoding key witnessID s events t)
    (hearly : ∀ event ∈ events, ¬ event.Later c) : Agrees c (readSince known events) t := by
  induction hevents generalizing known with
  | refl s => exact h
  | next hhappens tail ih =>
    obtain ⟨hfirst, hrest⟩ := List.forall_mem_cons.mp hearly
    cases hhappens with
    | submitted hexec => exact ih (h.submitted (hexec.of_wp (wp_submit_marks _ _ _ _ _)) hfirst) hrest
    | killed hexec => exact ih (by rintro last ⟨⟩) hrest
    | opened running hexec =>
      refine ih ?_ hrest
      rintro last ⟨⟩
      exact hexec.of_wp (wp_replay_marks _ c) _ rfl
    | refused running hexec => exact ih (by rintro last ⟨⟩) hrest
    | died running hexec => exact ih (by rintro last ⟨⟩) hrest

/-- With a disk that works, a submission gets a receipt just where the marks let its checkpoint pass and
its record can be written. -/
theorem submit_good_iff (f : File) (c : Checkpoint) (now : Instant) (last : Marks) :
    (∃ receipt, ((submit encoding key witnessID false c now last).run goodDisk f).1.1 = .ok receipt ∧
      verifyReceiptFor key receipt c = none) ↔
    (∃ receipt, Recordable encoding key witnessID c now receipt) ∧ regresses last c = false := by
  constructor
  · rintro ⟨receipt, hrun, -⟩
    unfold submit at hrun
    rw [if_neg Bool.false_ne_true] at hrun
    cases hvalidate : c.validate with
    | some err =>
      rw [hvalidate] at hrun
      cases hrun
    | none =>
      simp only [hvalidate] at hrun
      split at hrun
      · cases hrun
      rename_i hregresses
      refine ⟨?_, Bool.eq_false_iff.mpr hregresses⟩
      cases hsign : signReceipt key ⟨witnessID, c.digest, now, [], ""⟩ with
      | error err =>
        rw [hsign] at hrun
        cases hrun
      | ok signed =>
        simp only [hsign, appendRecord] at hrun
        split at hrun
        · cases hrun
        rename_i hmarshals
        split at hrun
        · cases hrun
        rename_i hshort
        exact ⟨signed, hvalidate, hsign, by simpa using hmarshals, Nat.lt_of_not_le hshort⟩
  · rintro ⟨⟨receipt, h⟩, hpasses⟩
    refine ⟨receipt, ?_, verifyReceiptFor_signReceipt h.signed h.valid rfl⟩
    rw [h.submit_eq hpasses]
    rfl

/-- A checkpoint whose submission had no outcome is submitted again, before any later one of its
deployment and while the disk works: it gets its receipt just where its record can be written and the
witness has read no record since that it does not advance past. A witness that was not opened again has
read none. -/
theorem retry_iff {between : List Event} {s t u : State} {event : Event} {c : Checkpoint} {last : Marks}
    (hevent : event.Unknown c) (hfailed : Happens encoding key witnessID s event t)
    (hbetween : History encoding key witnessID t between u) (hearly : ∀ event ∈ between, ¬ event.Later c)
    (hopen : u.last = some last) (now : Instant) :
    (∃ receipt, ((submit encoding key witnessID false c now last).run goodDisk u.file).1.1 = .ok receipt ∧
      verifyReceiptFor key receipt c = none) ↔
    (∃ receipt, Recordable encoding key witnessID c now receipt) ∧
      ∀ r ∈ readSince [] between, Advances r.checkpoint c := by
  rw [submit_good_iff, ((hfailed.agrees hevent).history hbetween hearly) last hopen]

/-! ## A line that is written and not synced -/

namespace Recordable
variable {c : Checkpoint} {now : Instant} {receipt : Receipt}

theorem fails (h : Recordable encoding key witnessID c now receipt) {failed : AppendStep} {f : File}
    (hleaves : failed.Leaves (encoding.text [journalRecord encoding c receipt]) none f) :
    Happens encoding key witnessID ⟨none, some ∅⟩ (.submitted c (.error (.unavailable (.step failed)))) ⟨f, some ∅⟩ := by
  have hexec : Exec faultyDisk (submit encoding key witnessID false c now ∅) none
      (some (.error (.unavailable (.step failed)), ∅)) f := by
    have hstep : faultyDisk.step (.append (encoding.text [journalRecord encoding c receipt])) none (some failed) f :=
      hleaves
    rw [h.submit_eq (regresses_empty c)]
    exact .call hstep (.ret _ _)
  exact .submitted hexec

theorem reopens (h : Recordable encoding key witnessID c now receipt)
    (hsize : (encoding.text [journalRecord encoding c receipt]).length ≤ maxJournalSize) (running : Option Marks) :
    Happens encoding key witnessID ⟨some (encoding.text [journalRecord encoding c receipt]), running⟩
      (.opened [journalRecord encoding c receipt]) ⟨some (encoding.text [journalRecord encoding c receipt]),
        some ((∅ : Marks).insert c.deploymentDigest c.sequence)⟩ := by
  have hline := replayLine_encode h.sound ∅
  have hempty : regresses ∅ (journalRecord encoding c receipt).checkpoint = false := regresses_empty _
  rw [hempty, if_neg Bool.false_ne_true] at hline
  have hexec := Prog.exec_run (H := faultyDisk) faultyDisk_goodDisk (replay encoding key)
    (some (encoding.text [journalRecord encoding c receipt]))
  simp only [replay, Prog.run, goodDisk, Nat.not_lt.mpr hsize, if_false, text_whole, Bool.false_eq_true,
    encoding.split_text, List.map_cons, List.map_nil, replayLines, hline] at hexec
  have hopened : Happens encoding key witnessID _ (.opened _) _ := .opened running hexec
  rw [recorded_text] at hopened
  exact hopened

end Recordable
end Retry

/-- A checkpoint is written and not synced. The witness that opens the journal then refuses it. -/
theorem retry_refused : ∃ s t u last,
    Happens shortEncoding zeroKey "witness" ⟨none, none⟩ (.opened []) s ∧
    Happens shortEncoding zeroKey "witness" s (.submitted firstCheckpoint (.error (.unavailable (.step .sync)))) t ∧
    Happens shortEncoding zeroKey "witness" t
      (.opened [journalRecord shortEncoding firstCheckpoint firstReceipt]) u ∧ u.last = some last ∧
    ((submit shortEncoding zeroKey "witness" false firstCheckpoint 0 last).run goodDisk u.file).1.1 =
      .error .sequenceRegression := by
  have hsize : (shortEncoding.text [journalRecord shortEncoding firstCheckpoint firstReceipt]).length ≤ maxJournalSize :=
    (length_text_first 1).trans_le (by decide)
  have hreplay : Exec faultyDisk (replay shortEncoding zeroKey) none (some (.ok ∅)) none := .call ⟨rfl, rfl⟩ (.ret _ _)
  have hnew : recorded shortEncoding none = [] := rfl
  have hopened : Happens shortEncoding zeroKey "witness" ⟨none, none⟩ (.opened []) ⟨none, some ∅⟩ :=
    hnew ▸ .opened none hreplay
  have hregresses : regresses ((∅ : Marks).insert firstCheckpoint.deploymentDigest firstCheckpoint.sequence)
      firstCheckpoint = true := by
    rw [regresses_insert, if_pos rfl, decide_eq_true_eq]
  refine ⟨_, _, _, _, hopened, recordable_first.fails rfl, recordable_first.reopens hsize _, rfl, ?_⟩
  simp only [submit, Bool.false_eq_true, if_false, recordable_first.valid, hregresses, if_true, Prog.run]

theorem retry_iff_first : ∃ receipt,
    ((submit shortEncoding zeroKey "witness" false firstCheckpoint 0 ∅).run goodDisk none).1.1 = .ok receipt ∧
      verifyReceiptFor zeroKey receipt firstCheckpoint = none :=
  (retry_iff (.inr ⟨_, rfl⟩) (recordable_first.fails (show AppendStep.Leaves _ none none .openFile from rfl)) (.refl _)
    (by rintro event ⟨⟩) rfl 0).mpr ⟨⟨firstReceipt, recordable_first⟩, by rintro r ⟨⟩⟩

end AntiFlock.Witness
