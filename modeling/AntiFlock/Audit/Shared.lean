import AntiFlock.Audit.Recovery
import AntiFlock.Effect.Pool
import AntiFlock.Sql.Transaction

set_option autoImplicit false

/-!
# Services that append side by side

Any number of audit services append to one log. Each holds its own mutex and the
lock of the anchor file around an append, hashes its entry against a head it has
read, and commits the entry in one transaction with the mutation it is about. The
transaction compares the head once more: what it finds changed is rolled back.
-/
namespace AntiFlock.Audit
open AntiFlock.Go AntiFlock.Effect

/-- The database: the audit tables, and the others as `D`. -/
structure Tables (D : Type) where
  domain : D
  audit : Database

/-- What a storage-issued mutation does to the tables of its domain, in its transaction. -/
abbrev AuditedMutation (D : Type) := Sql.Tx D AuditErr Unit

/-- A transaction that took effect, and the call that asked for it. -/
structure Made (D : Type) where
  call : ℕ
  mutation : AuditedMutation D
  entry : AuditEntry

structure Shared (D : Type) where
  tables : Tables D
  file : Option (List UInt8)
  mutexes : ℕ → Bool
  anchorLock : Bool
  /-- The transactions that took effect, in order. No program reads it. -/
  made : List (Made D)

inductive SharedRequest (D : Type) where
  | lock (service : ℕ)
  | unlock (service : ℕ)
  | acquire
  | release
  | audit (q : Request)
  | commit (mutation : AuditedMutation D) (entry : AuditEntry)

section
variable {D : Type}

/-- `AuditEntryMutation`: the entry alone. -/
def auditEntryMutation : AuditedMutation D := (pure () : Sql.Tx D AuditErr Unit)

/-- `commitWithAudit`: the statements of the mutation, then the entry, in one transaction. -/
def commitWithAudit (mutation : AuditedMutation D) (entry : AuditEntry) : Sql.Tx (Tables D) AuditErr Unit :=
  fun tables => do
    let (_, domain) ← mutation.run tables.domain
    let audit ← insertAuditEntry tables.audit entry
    pure ((), ⟨domain, audit⟩)

def SharedAnswer : SharedRequest D → Type
  | .lock _ => Unit
  | .unlock _ => Unit
  | .acquire => Except AuditErr Unit
  | .release => Unit
  | .audit q => Answer q
  | .commit _ _ => Except AuditErr Unit

variable (D) in
def sharedSig : Sig := ⟨SharedRequest D, SharedAnswer⟩

/-- The file, the clock and what is read from the database. Reading the file may fail. -/
def auditStep : (q : Request) → Shared D → Answer q → Shared D → Prop
  | .stat, w, r, w' => r = w.file.isSome ∧ w' = w
  | .read, w, r, w' => (r = w.file ∨ r = none) ∧ w' = w
  | .truncate length, w, _, w' => w' = { w with file := w.file.map (List.take length) }
  | .append content, w, _, w' => w' = { w with file := some (w.file.getD [] ++ content) }
  | .database, w, r, w' => r = w.tables.audit ∧ w' = w
  | .commit _, _, _, _ => False
  | .clock, w, _, w' => w' = w
  | .newID, w, _, w' => w' = w

/-- A transaction takes effect as a whole or not at all. It fails by itself, or it is refused, and it
may be reported as failed after it took effect. -/
inductive CommitStep (call : ℕ) (mutation : AuditedMutation D) (entry : AuditEntry) (w : Shared D) :
    Except AuditErr Unit → Shared D → Prop
  | done {tables : Tables D} (h : (commitWithAudit mutation entry).Does w.tables () tables) :
      CommitStep call mutation entry w (.ok ()) { w with tables, made := w.made ++ [⟨call, mutation, entry⟩] }
  | refused (err : AuditErr) : CommitStep call mutation entry w (.error err) w
  | lost {tables : Tables D} (h : (commitWithAudit mutation entry).Does w.tables () tables) (err : AuditErr) :
      CommitStep call mutation entry w (.error err) { w with tables, made := w.made ++ [⟨call, mutation, entry⟩] }

/-- The requests of one call. Locks are taken when they are free; the anchor lock is waited for only
for a time. -/
def sharing (call : ℕ) : Handler (sharedSig D) (Shared D) where
  step
    | .lock service, w, _, w' =>
      w.mutexes service = false ∧ w' = { w with mutexes := Function.update w.mutexes service true }
    | .unlock service, w, _, w' => w' = { w with mutexes := Function.update w.mutexes service false }
    | .acquire, w, r, w' => w.anchorLock = false ∧ r = .ok () ∧ w' = { w with anchorLock := true } ∨
        (∃ err, r = .error err) ∧ w' = w
    | .release, w, _, w' => w' = { w with anchorLock := false }
    | .audit q, w, r, w' => auditStep q w r w'
    | .commit mutation entry, w, r, w' => CommitStep call mutation entry w r w'
  torn _ w w' := w' = w

/-- How the requests of an append are made when it carries a mutation. -/
def share (mutation : AuditedMutation D) (q : auditSig.Req) : Prog (sharedSig D) (auditSig.Ans q) :=
  match (q : Request) with
  | .commit entry => .perform (S := sharedSig D) (.commit mutation entry)
  | q => .perform (S := sharedSig D) (.audit q)

/-- What `AppendWithMutation` does under its locks. -/
def lockedAppend (service : Service) (mutation : Option (AuditedMutation D)) (r : AppendRequest) :
    Prog (sharedSig D) (Except AuditErr AuditEntry) :=
  match mutation with
  | none => .ret (.error (.storage "audit mutation is required"))
  | some mutation => (service.appendWithMutation r).run.via (share mutation)

/-- `AppendWithMutation` on one of the services, with the locks it holds. -/
def sharedAppend (number : ℕ) (service : Service) (mutation : Option (AuditedMutation D)) (r : AppendRequest) :
    Prog (sharedSig D) (Except AuditErr AuditEntry) :=
  .call (S := sharedSig D) (.lock number) fun _ =>
    .call (S := sharedSig D) .acquire fun
      | .error err => .call (S := sharedSig D) (.unlock number) fun _ => .ret (.error err)
      | .ok () => (lockedAppend service mutation r).bind fun result =>
          .call (S := sharedSig D) .release fun _ =>
            .call (S := sharedSig D) (.unlock number) fun _ => .ret result

/-- `Append`. -/
def sharedAppendEntry (number : ℕ) (service : Service) (r : AppendRequest) :
    Prog (sharedSig D) (Except AuditErr AuditEntry) :=
  sharedAppend number service (some auditEntryMutation) r

def Appends (p : Prog (sharedSig D) (Except AuditErr AuditEntry)) : Prop :=
  (∃ number service mutation r, p = sharedAppend number service mutation r) ∨
    ∃ number service r, p = sharedAppendEntry number service r

/-! ## The log -/

/-- One chain of entries, with the state row at its end. -/
structure Linear (db : Database) : Prop where
  state : db.state = some ⟨db.rows.length, db.lastSequence, HashChain.tip (·.entryHash) "" db.rows⟩
  linked : HashChain.Linked (·.previousHash) (·.entryHash) "" db.rows
  unique : ("" :: db.rows.map (·.entryHash)).Nodup
  greatest : ∀ row ∈ db.rows, 0 < row.sequence ∧ row.sequence ≤ db.lastSequence

theorem insertAuditEntry_ok {db db' : Database} {e : AuditEntry} (h : insertAuditEntry db e = .ok db')
    (hdetails : e.details ≠ "") : (∀ row ∈ db.rows, row.entryHash ≠ e.entryHash) ∧ ∃ state, db.state = some state ∧
      state.headHash = e.previousHash ∧ db' = db.insertRow ⟨state.entryCount + 1, db.nextSequence, e.entryHash⟩ e := by
  unfold insertAuditEntry at h
  simp only [hdetails, if_false] at h
  split at h
  · cases h
  split at h
  · cases h
  rename_i hfresh
  have hunique : ∀ row ∈ db.rows, row.entryHash ≠ e.entryHash := by
    intro row hrow heq
    exact hfresh (List.any_eq_true.mpr ⟨row, hrow, by simp [heq]⟩)
  cases hstate : db.state with
  | none => simp [hstate] at h
  | some state =>
    simp only [hstate] at h
    split at h
    · cases h
    rename_i hhead
    cases h
    exact ⟨hunique, state, rfl, not_not.mp hhead, rfl⟩

theorem lastSequence_insertRow (db : Database) (state : AuditState) (e : AuditEntry) :
    (db.insertRow state e).lastSequence = db.nextSequence := by
  simp [Database.lastSequence, Database.insertRow, AuditEntry.row]

theorem Linear.insert {db db' : Database} {e : AuditEntry} (hdb : Linear db) (h : insertAuditEntry db e = .ok db')
    (hdetails : e.details ≠ "") (hhash : e.entryHash ≠ "") :
    Linear db' ∧ db'.rows = db.rows ++ [e.row db.nextSequence] := by
  obtain ⟨hfresh, state, hstate, hhead, rfl⟩ := insertAuditEntry_ok h hdetails
  rw [hdb.state, Option.some.injEq] at hstate
  have htip : e.previousHash = HashChain.tip (·.entryHash) "" db.rows := by rw [← hhead, ← hstate]
  have hrows : (db.insertRow ⟨state.entryCount + 1, db.nextSequence, e.entryHash⟩ e).rows =
      db.rows ++ [e.row db.nextSequence] := rfl
  have hlast := lastSequence_insertRow db ⟨state.entryCount + 1, db.nextSequence, e.entryHash⟩ e
  refine ⟨⟨?_, ?_, ?_, ?_⟩, hrows⟩
  · rw [hlast, hrows, HashChain.tip_concat, List.length_append, List.length_singleton, ← hstate]
    rfl
  · rw [hrows]
    exact HashChain.linked_append.mpr ⟨hdb.linked, htip, trivial⟩
  · rw [hrows, List.map_append, ← List.cons_append]
    refine List.Nodup.append hdb.unique (List.nodup_singleton _) ?_
    rw [List.map_singleton, List.disjoint_singleton, List.mem_cons, not_or]
    refine ⟨hhash, fun hmem => ?_⟩
    obtain ⟨row, hrow, heq⟩ := List.mem_map.mp hmem
    exact hfresh row hrow heq
  · rw [hlast, hrows]
    intro row hrow
    rcases List.mem_append.mp hrow with hold | hnew
    · exact ⟨(hdb.greatest row hold).1, (db.sequence_lt_next hold).le⟩
    · rw [List.mem_singleton.mp hnew]
      refine ⟨?_, le_rfl⟩
      change 0 < max 0 db.lastSequence + 1
      omega

/-! ## The transactions -/

/-- The mutations of some transactions, one after the other. -/
def Replays : D → List (Made D) → D → Prop
  | d, [], d' => d' = d
  | d, t :: ts, d' => ∃ between, t.mutation.Does d () between ∧ Replays between ts d'

theorem replays_concat {d d' : D} {ts : List (Made D)} {t : Made D} : Replays d (ts ++ [t]) d' ↔
    ∃ between, Replays d ts between ∧ t.mutation.Does between () d' := by
  induction ts generalizing d with
  | nil => simp [Replays]
  | cons first ts ih =>
    simp only [List.cons_append, Replays, ih]
    constructor
    · rintro ⟨a, hfirst, b, hts, ht⟩
      exact ⟨b, ⟨a, hfirst, hts⟩, ht⟩
    · rintro ⟨b, ⟨a, hfirst, hts⟩, ht⟩
      exact ⟨a, hfirst, b, hts, ht⟩

theorem commitWithAudit_does {mutation : AuditedMutation D} {entry : AuditEntry} {before after : Tables D}
    (h : (commitWithAudit mutation entry).Does before () after) :
    mutation.Does before.domain () after.domain ∧ insertAuditEntry before.audit entry = .ok after.audit := by
  have hrun : commitWithAudit mutation entry before = .ok ((), after) := h
  unfold commitWithAudit at hrun
  cases hmutation : mutation.run before.domain with
  | error err =>
    rw [hmutation] at hrun
    cases hrun
  | ok result =>
    rw [hmutation] at hrun
    cases hinsert : insertAuditEntry before.audit entry with
    | error err =>
      rw [hinsert] at hrun
      cases hrun
    | ok audit =>
      rw [hinsert] at hrun
      cases hrun
      exact ⟨hmutation, rfl⟩

structure Sealed (e : AuditEntry) : Prop where
  details : e.details ≠ ""
  hash : e.entryHash = hexEncode (hashDigest e)

theorem Sealed.hash_ne {e : AuditEntry} (h : Sealed e) : e.entryHash ≠ "" := by
  intro hempty
  have hlength := (bytes_hexEncode (hashDigest e)).1
  rw [← h.hash, hempty, hashDigest, Sha256.length_sum256] at hlength
  cases hlength

/-- What holds of the tables since they were `start`: the log is one chain, its new rows are the entries
of the transactions that took effect, and the other tables are what their mutations made of them. -/
structure Consistent (start : Tables D) (w : Shared D) : Prop where
  linear : Linear w.tables.audit
  rows : ∃ rows, w.tables.audit.rows = start.audit.rows ++ rows ∧
    List.Forall₂ (fun t row => ∃ sequence, row = t.entry.row sequence) w.made rows
  replays : Replays start.domain w.made w.tables.domain
  sealed : ∀ t ∈ w.made, Sealed t.entry

variable {start : Tables D} {w w' : Shared D}

theorem Consistent.keep (h : Consistent start w) (htables : w'.tables = w.tables) (hmade : w'.made = w.made) :
    Consistent start w' := by
  obtain ⟨hlinear, hrows, hreplays, hsealed⟩ := h
  exact ⟨htables ▸ hlinear, htables ▸ hmade ▸ hrows, htables ▸ hmade ▸ hreplays, hmade ▸ hsealed⟩

theorem Consistent.commit (h : Consistent start w) {call : ℕ} {mutation : AuditedMutation D} {entry : AuditEntry}
    {tables : Tables D} (hentry : Sealed entry) (hdoes : (commitWithAudit mutation entry).Does w.tables () tables) :
    Consistent start { w with tables, made := w.made ++ [⟨call, mutation, entry⟩] } := by
  obtain ⟨hmutation, hinsert⟩ := commitWithAudit_does hdoes
  obtain ⟨hlinear, hrow⟩ := h.linear.insert hinsert hentry.details hentry.hash_ne
  obtain ⟨rows, hrows, hmatch⟩ := h.rows
  refine ⟨hlinear, ⟨rows ++ [entry.row w.tables.audit.nextSequence], ?_, ?_⟩, ?_, ?_⟩
  · simp only [hrow, hrows, List.append_assoc]
  · exact List.rel_append hmatch (.cons ⟨_, rfl⟩ .nil)
  · exact replays_concat.mpr ⟨_, h.replays, hmutation⟩
  · intro t ht
    rcases List.mem_append.mp ht with hold | hnew
    · exact h.sealed t hold
    · rw [List.mem_singleton.mp hnew]
      exact hentry

/-! ## The calls -/

/-- The requests that leave the database alone, and commits of what a service has made. -/
def Proper : SharedRequest D → Prop
  | .commit _ entry => Sealed entry
  | _ => True

def Quiet (q : auditSig.Req) : Prop :=
  match (q : Request) with
  | .commit _ => False
  | _ => True

def Grows (w w' : Shared D) : Prop := w.made <+: w'.made

theorem Grows.trans {u v w : Shared D} (h : Grows u v) (h' : Grows v w) : Grows u w := List.IsPrefix.trans h h'

theorem auditStep_keeps {q : Request} {r : Answer q} (h : auditStep q w r w') :
    w'.tables = w.tables ∧ w'.made = w.made := by
  cases q with
  | commit entry => cases h
  | stat | read | database =>
    rw [h.2]
    exact ⟨rfl, rfl⟩
  | truncate | append | clock | newID =>
    rw [show w' = _ from h]
    exact ⟨rfl, rfl⟩

theorem sharing_keeps {call : ℕ} {q : SharedRequest D} {r : SharedAnswer q} (hq : ∀ mutation entry, q ≠ .commit mutation entry)
    (h : (sharing call).step q w r w') : w'.tables = w.tables ∧ w'.made = w.made := by
  cases q with
  | commit mutation entry => exact absurd rfl (hq mutation entry)
  | audit q => exact auditStep_keeps h
  | lock service =>
    rw [h.2]
    exact ⟨rfl, rfl⟩
  | acquire =>
    rcases h with ⟨-, -, h⟩ | ⟨-, h⟩
    all_goals
      rw [h]
      exact ⟨rfl, rfl⟩
  | unlock | release =>
    rw [show w' = _ from h]
    exact ⟨rfl, rfl⟩

theorem sharing_consistent {call : ℕ} {q : SharedRequest D} {r : SharedAnswer q} (hq : Proper q)
    (hw : Consistent start w) (h : (sharing call).step q w r w') : Grows w w' ∧ Consistent start w' := by
  by_cases hcommit : ∃ mutation entry, q = .commit mutation entry
  · obtain ⟨mutation, entry, rfl⟩ := hcommit
    cases (h : CommitStep call mutation entry w r w') with
    | done hdoes => exact ⟨List.prefix_append _ _, hw.commit hq hdoes⟩
    | refused err => exact ⟨List.prefix_rfl, hw⟩
    | lost hdoes err => exact ⟨List.prefix_append _ _, hw.commit hq hdoes⟩
  · obtain ⟨htables, hmade⟩ := sharing_keeps (fun m e heq => hcommit ⟨m, e, heq⟩) h
    exact ⟨by rw [Grows, hmade], hw.keep htables hmade⟩

/-- The entry that a call returns is one that it committed. -/
def Recorded (call : ℕ) (w : Shared D) (result : Except AuditErr AuditEntry) : Prop :=
  ∀ e, result = .ok e → ∃ t ∈ w.made, t.call = call ∧ e = { t.entry with sequence := e.sequence }

theorem Recorded.grow {call : ℕ} {result : Except AuditErr AuditEntry} (hgrow : Grows w w')
    (h : Recorded call w result) : Recorded call w' result := by
  intro e he
  obtain ⟨t, ht, hcall⟩ := h e he
  exact ⟨t, hgrow.subset ht, hcall⟩

variable (start) in
/-- The program of a call is right from a world it has seen. -/
def Right (call : ℕ) (seen : Shared D) (p : Prog (sharedSig D) (Except AuditErr AuditEntry)) : Prop :=
  Ok (sharing call) (Consistent start) Grows Grows (Recorded call) seen p

variable {call : ℕ} {mutation : AuditedMutation D} {α : Type}

theorem only_via {p : Prog auditSig α} (hp : p.Only Quiet) : (p.via (share mutation)).Only Proper := by
  induction p with
  | ret a => trivial
  | call q k ih =>
    refine .bind ?_ fun r => ih r (hp.2 r)
    cases q with
    | commit entry => exact absurd hp.1 id
    | _ => exact .perform trivial

theorem ok_quiet {A : α → Prop} {K : Shared D → Prop} {seen : Shared D} {p : Prog auditSig α} (hp : p.Only Quiet)
    (hA : p.Returns A) (hK : K seen) (hgrow : ∀ {u v}, Grows u v → K u → K v) :
    Ok (sharing call) (Consistent start) Grows Grows (fun w a => K w ∧ A a) seen (p.via (share mutation)) := by
  refine ok_only (only_via hp) hA.via hK hgrow fun q w r w' hq hw hstep => ?_
  obtain ⟨hg, hw'⟩ := sharing_consistent hq hw hstep
  exact ⟨hg, hw', hgrow hg⟩

theorem Right.quiet {seen : Shared D} {p : Action α} {f : α → Action AuditEntry} (hp : p.run.Only Quiet)
    (hf : ∀ w a, Right start call w ((f a).run.via (share mutation))) :
    Right start call seen ((p >>= f).run.via (share mutation)) := by
  refine Eq.mpr (congrArg (Right start call seen) (Prog.via_except (S := auditSig) (share mutation) p f)) ?_
  refine ok_bind (ok_quiet (K := fun _ => True) hp (Prog.returns_true _) trivial fun _ _ => trivial) ?_
  intro w r _
  cases r with
  | ok a => exact hf w a
  | error err => exact nofun

theorem Right.throw {seen : Shared D} {err : AuditErr} :
    Right start call seen ((throw err : Action AuditEntry).run.via (share mutation)) := nofun

theorem Right.ofExcept {seen : Shared D} {x : Except AuditErr α} {f : α → Action AuditEntry}
    (hf : ∀ a, x = .ok a → Right start call seen ((f a).run.via (share mutation))) :
    Right start call seen ((Audit.ofExcept x >>= f).run.via (share mutation)) := by
  cases x with
  | ok a => exact hf a rfl
  | error err => exact nofun

theorem quiet_ask {q : Request} (hq : Quiet q) : (ask q).run.Only Quiet := ⟨hq, fun _ => .ret _⟩

end
end AntiFlock.Audit
