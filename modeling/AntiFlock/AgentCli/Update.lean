import AntiFlock.Effect.Logic
import AntiFlock.Go.Sha256
import AntiFlock.Go.Text

set_option autoImplicit false

/-!
# Replacing the running binary

`UpdateApply` moves the running binary aside and a verified copy of the candidate into
its place; `UpdateRollback` brings the binary back that was moved aside. Every step on the
file system may fail, and the process may die before and behind each of them. A rename
either happens or does not.
-/
namespace AntiFlock.AgentCli
open AntiFlock.Go AntiFlock.Effect

/-! ## Files -/

inductive Node where
  | regular (content : List UInt8) (mode : ℕ)
  | other

structure FileInfo where
  isRegular : Bool
  size : ℕ
  perm : ℕ

structure Disk where
  files : String → Option Node
  /-- The renames that moved a file, in order. -/
  moves : List (String × String)

inductive FileRequest where
  | lstat (path : String)
  | contents (path : String)
  | remove (path : String)
  | create (path : String) (mode : ℕ)
  | write (path : String) (content : List UInt8)
  | sync (path : String)
  | close (path : String)
  | chmod (path : String) (mode : ℕ)
  | rename (source destination : String)

/-- Where nothing is read, whether the step succeeded. -/
def FileRequest.Answer : FileRequest → Type
  | .lstat _ => Option FileInfo
  | .contents _ => Option (List UInt8)
  | _ => Bool

abbrev fileSig : Sig := ⟨FileRequest, FileRequest.Answer⟩

namespace Disk

def set (d : Disk) (path : String) (node : Option Node) : Disk :=
  { d with files := Function.update d.files path node }

def extend (d : Disk) (path : String) (part : List UInt8) : Disk :=
  match d.files path with
  | some (.regular content mode) => d.set path (some (.regular (content ++ part) mode))
  | _ => d

def remode (d : Disk) (path : String) (mode : ℕ) : Disk :=
  match d.files path with
  | some (.regular content _) => d.set path (some (.regular content mode))
  | _ => d

def move (d : Disk) (source destination : String) : Disk where
  files := Function.update (Function.update d.files destination (d.files source)) source none
  moves := d.moves ++ [(source, destination)]

end Disk

def Describes (info : FileInfo) : Option Node → Prop
  | some (.regular content mode) => info = ⟨true, content.length, mode⟩
  | some .other => info.isRegular = false
  | none => False

/-- What is read behind a node of another kind is not known. -/
def Holds (content : List UInt8) : Option Node → Prop
  | some (.regular content' _) => content = content'
  | some .other => True
  | none => False

/-- A rename between two names of one file leaves both of them. -/
def FileStep : (q : FileRequest) → Disk → q.Answer → Disk → Prop
  | .lstat path, d, answer, d' => d' = d ∧ ∀ info, answer = some info → Describes info (d.files path)
  | .contents path, d, answer, d' => d' = d ∧ ∀ content, answer = some content → Holds content (d.files path)
  | .remove path, d, true, d' => d' = d.set path none
  | .create path mode, d, true, d' => d.files path = none ∧ d' = d.set path (some (.regular [] mode))
  | .write path content, d, true, d' => d' = d.extend path content
  | .write path content, d, false, d' => ∃ part, part <+: content ∧ d' = d.extend path part
  | .chmod path mode, d, true, d' => d' = d.remode path mode
  | .rename source destination, d, true, d' =>
    d.files source ≠ none ∧ (d' = d.move source destination ∨ (d' = d ∧ d.files destination = d.files source))
  | _, d, _, d' => d' = d

def FileTorn : FileRequest → Disk → Disk → Prop
  | .write path content, d, d' => ∃ part, part <+: content ∧ d' = d.extend path part
  | _, _, _ => False

def disk : Handler fileSig Disk := ⟨FileStep, FileTorn⟩

/-! ## The release manifest -/

def releaseManifestSchema : String := "antiflock.release-manifest/v1"
def maximumManifestBytes : ℕ := 256 * 1024
def maximumBinaryBytes : ℕ := 512 * 1024 * 1024
def previousSuffix : String := ".previous"
def stagingSuffix : String := ".staging"
def agentArtifactName : String := "antiflock-agent"

structure ReleaseArtifact where
  name : String
  sha256 : String

structure ReleaseManifest where
  document : String
  version : String
  artifacts : List ReleaseArtifact

def canonicalIdentifier (value : String) (maximum : ℕ) : Bool :=
  !(value = "" || maximum < len value || trimSpace value ≠ value) &&
    value.toList.all fun r => !(r.toNat < 0x21 || 0x7e < r.toNat)

def validSHA256 (value : String) : Bool := len value = 64 && (bytes value).all lowerHexByte

def ReleaseManifest.agentArtifact (manifest : ReleaseManifest) : Option ReleaseArtifact :=
  manifest.artifacts.find? fun artifact => artifact.name = agentArtifactName

section Programs

-- the JSON decoder: the manifest, and whether anything follows it
variable (decode : List UInt8 → Option (ReleaseManifest × Bool))

def parseManifest (content : List UInt8) : Except String ReleaseManifest :=
  match decode content with
  | none => .error "release manifest is not valid JSON"
  | some (manifest, trailing) =>
    if trailing then .error "release manifest contains trailing data"
    else if manifest.document ≠ releaseManifestSchema ∨ canonicalIdentifier manifest.version 64 = false ∨
        manifest.artifacts.length = 0 ∨ 32 < manifest.artifacts.length then
      .error "release manifest document, version, or artifact list is invalid"
    else if manifest.artifacts.all (fun artifact =>
        canonicalIdentifier artifact.name 128 && validSHA256 artifact.sha256) = false then
      .error "release manifest artifact name or sha256 is invalid"
    else .ok manifest

def perform (q : FileRequest) : Prog fileSig q.Answer := Prog.perform (S := fileSig) q

/-- The content of a file that is regular, not empty and not longer than the maximum. -/
def boundedContent (path : String) (maximum : ℕ) : Prog fileSig (Option (Option (List UInt8))) := do
  let answer : Option FileInfo ← perform (.lstat path)
  match answer with
  | none => pure none
  | some info =>
    if info.isRegular = false ∨ info.size = 0 ∨ maximum < info.size then pure none
    else do
      let content : Option (List UInt8) ← perform (.contents path)
      pure (some content)

def loadReleaseManifest (path : String) : Prog fileSig (Except String ReleaseManifest) := do
  let content ← boundedContent path maximumManifestBytes
  match content with
  | none => pure (.error "release manifest must be a bounded regular file")
  | some none => pure (.error "read release manifest")
  | some (some content) => pure (parseManifest decode content)

def digest (content : List UInt8) : String := hexEncode (Sha256.sum256 (content.take (maximumBinaryBytes + 1)))

/-- Without its errors, which nobody reads. -/
def fileSHA256 (path : String) : Prog fileSig (Option String) := do
  let content ← boundedContent path maximumBinaryBytes
  pure (content.join.map digest)

/-! ## Outcomes -/

structure UpdateResult where
  mode : String
  target : String
  runningSHA256 : String := ""
  manifestVersion : String := ""
  manifestSHA256 : String := ""
  candidateSHA256 : String := ""
  upToDate : Bool := false
  applied : Bool := false
  rolledBack : Bool := false
  backupPath : String := ""
  signatureVerified : Bool := false

structure Reason where
  code : String
  message : String

def exitOK : ℕ := 0
def exitFailure : ℕ := 1
def exitVerification : ℕ := 4
def exitRefused : ℕ := 6
def exitDegraded : ℕ := 7

structure Outcome where
  result : UpdateResult
  reason : Reason
  exitCode : ℕ

/-- A program that may return early, with the outcome of the whole command. -/
abbrev Attempt (α : Type) := ExceptT Outcome (Prog fileSig) α

def attempt {α : Type} (p : Prog fileSig α) : Attempt α := ExceptT.lift p

def stop {α : Type} (result : UpdateResult) (code message : String) (exitCode : ℕ) : Attempt α :=
  throw ⟨result, ⟨code, message⟩, exitCode⟩

/-! ## Apply -/

def isRegular (answer : Option FileInfo) : Bool := answer.any (·.isRegular)

/-- Everything up to the first write. -/
def verify (target manifestPath candidate : String) : Attempt (UpdateResult × ℕ × ReleaseArtifact) := do
  let result : UpdateResult := { mode := "apply", target := target }
  let targetInfo : Option FileInfo ← attempt (perform (.lstat target))
  if isRegular targetInfo = false then
    stop result "AF-UPDATE-TARGET-NOT-REGULAR" "running binary is not a regular file; refusing" exitRefused
  else do
  let running ← attempt (fileSHA256 target)
  match running with
  | none => stop result "AF-UPDATE-TARGET-NOT-REGULAR" "running binary could not be hashed; refusing" exitRefused
  | some running => do
  let result := { result with runningSHA256 := running }
  let manifest ← attempt (loadReleaseManifest decode manifestPath)
  match manifest with
  | .error message => stop result "AF-UPDATE-MANIFEST-INVALID" message exitVerification
  | .ok manifest => do
  match manifest.agentArtifact with
  | none =>
    stop result "AF-UPDATE-MANIFEST-NO-AGENT" "release manifest has no antiflock-agent artifact" exitVerification
  | some artifact => do
  let result := { result with manifestVersion := manifest.version, manifestSHA256 := artifact.sha256 }
  let candidateSum ← attempt (fileSHA256 candidate)
  match candidateSum with
  | none =>
    stop result "AF-UPDATE-CANDIDATE-NOT-REGULAR" "candidate file must be a bounded regular file" exitVerification
  | some candidateSum => do
  let result := { result with candidateSHA256 := candidateSum }
  if candidateSum ≠ artifact.sha256 then
    stop result "AF-UPDATE-CHECKSUM-MISMATCH"
      "candidate sha256 does not match the release manifest; nothing was changed" exitVerification
  else if running = candidateSum then
    stop { result with upToDate := true } "AF-UPDATE-CURRENT" "running binary already matches the manifest" exitOK
  else pure (result, (targetInfo.map (·.perm)).getD 0, artifact)

def copyFile (source destination : String) (mode : ℕ) : Prog fileSig Bool := do
  let content : Option (List UInt8) ← perform (.contents source)
  match content with
  | none => pure false
  | some content => do
    let created : Bool ← perform (.create destination mode)
    if created = false then pure false
    else do
      let written : Bool ← perform (.write destination (content.take maximumBinaryBytes))
      if written = false then do
        let _ : Bool ← perform (.close destination)
        pure false
      else do
        let synced : Bool ← perform (.sync destination)
        if synced = false then do
          let _ : Bool ← perform (.close destination)
          pure false
        else do
          let closed : Bool ← perform (.close destination)
          if closed = false then pure false else perform (.chmod destination mode)

def stage (target candidate : String) (result : UpdateResult) (perm : ℕ) (artifact : ReleaseArtifact) : Attempt Unit := do
  let staging := target ++ stagingSuffix
  let _ ← attempt (perform (.remove staging))
  let copied ← attempt (copyFile candidate staging perm)
  if copied = false then do
    let _ ← attempt (perform (.remove staging))
    stop result "AF-UPDATE-STAGE-FAILED" "could not stage the candidate next to the running binary" exitFailure
  else do
    let staged ← attempt (fileSHA256 staging)
    if staged ≠ some artifact.sha256 then do
      let _ ← attempt (perform (.remove staging))
      stop result "AF-UPDATE-CHECKSUM-MISMATCH"
        "staged copy does not match the release manifest; nothing was changed" exitVerification
    else pure ()

def swapIn (target : String) (result : UpdateResult) : Prog fileSig Outcome := do
  let staging := target ++ stagingSuffix
  let backup := target ++ previousSuffix
  let _ : Bool ← perform (.remove backup)
  let aside : Bool ← perform (.rename target backup)
  if aside = false then do
    let _ : Bool ← perform (.remove staging)
    pure ⟨result, ⟨"AF-UPDATE-SWAP-FAILED", "could not move the running binary aside"⟩, exitFailure⟩
  else do
    let installed : Bool ← perform (.rename staging target)
    if installed = false then do
      let _ : Bool ← perform (.rename backup target)
      let _ : Bool ← perform (.remove staging)
      pure ⟨result, ⟨"AF-UPDATE-SWAP-FAILED",
        "could not install the staged binary; previous binary restored"⟩, exitFailure⟩
    else
      pure ⟨{ result with applied := true, backupPath := backup },
        ⟨"AF-UPDATE-APPLIED", "binary replaced; restart the service to run the new version"⟩, exitOK⟩

def outcome (p : Attempt Outcome) : Prog fileSig Outcome := do
  let answer ← p.run
  match answer with
  | .ok outcome => pure outcome
  | .error outcome => pure outcome

def updateApply (target manifestPath candidate : String) : Prog fileSig Outcome := outcome do
  let (result, perm, artifact) ← verify decode target manifestPath candidate
  stage target candidate result perm artifact
  attempt (swapIn target result)

/-! ## Rollback -/

def swapBack (target : String) (result : UpdateResult) : Prog fileSig Outcome := do
  let backup := target ++ previousSuffix
  let swap := target ++ ".rollback"
  let _ : Bool ← perform (.remove swap)
  let aside : Bool ← perform (.rename target swap)
  if aside = false then
    pure ⟨result, ⟨"AF-UPDATE-SWAP-FAILED", "could not move the running binary aside"⟩, exitFailure⟩
  else do
    let restored : Bool ← perform (.rename backup target)
    if restored = false then do
      let _ : Bool ← perform (.rename swap target)
      pure ⟨result, ⟨"AF-UPDATE-SWAP-FAILED",
        "could not restore the previous binary; running binary restored"⟩, exitFailure⟩
    else do
      let kept : Bool ← perform (.rename swap backup)
      if kept = false then
        pure ⟨result, ⟨"AF-UPDATE-ROLLBACK-PARTIAL",
          "previous binary restored but the replaced binary could not be kept as " ++ previousSuffix⟩, exitDegraded⟩
      else do
        let running ← fileSHA256 target
        pure ⟨{ result with runningSHA256 := running.getD "", rolledBack := true, backupPath := backup },
          ⟨"AF-UPDATE-ROLLED-BACK", "previous binary restored; restart the service"⟩, exitOK⟩

def updateRollback (target : String) : Prog fileSig Outcome := do
  let result : UpdateResult := { mode := "rollback", target := target }
  let unavailable : Outcome := ⟨result, ⟨"AF-UPDATE-ROLLBACK-UNAVAILABLE",
    "both the running binary and " ++ previousSuffix ++ " must be regular files"⟩, exitRefused⟩
  let info : Option FileInfo ← perform (.lstat target)
  if isRegular info = false then pure unavailable
  else do
    let info : Option FileInfo ← perform (.lstat (target ++ previousSuffix))
    if isRegular info = false then pure unavailable else swapBack target result

end Programs

/-! ## What the steps leave alone -/

/-- Nothing but the node of this path has changed. -/
def Elsewhere (path : String) (d d' : Disk) : Prop := (∀ p, p ≠ path → d'.files p = d.files p) ∧ d'.moves = d.moves

theorem Elsewhere.refl (path : String) (d : Disk) : Elsewhere path d d := ⟨fun _ _ => rfl, rfl⟩

theorem Elsewhere.trans {path : String} {d₁ d₂ d₃ : Disk} (h : Elsewhere path d₁ d₂) (h' : Elsewhere path d₂ d₃) :
    Elsewhere path d₁ d₃ := ⟨fun p hp => (h'.1 p hp).trans (h.1 p hp), h'.2.trans h.2⟩

theorem elsewhere_set (path : String) (d : Disk) (node : Option Node) : Elsewhere path d (d.set path node) :=
  ⟨fun _ hp => Function.update_of_ne hp _ _, rfl⟩

theorem elsewhere_extend (path : String) (d : Disk) (part : List UInt8) : Elsewhere path d (d.extend path part) := by
  unfold Disk.extend
  split
  · exact elsewhere_set path d _
  · exact .refl path d

theorem elsewhere_remode (path : String) (d : Disk) (mode : ℕ) : Elsewhere path d (d.remode path mode) := by
  unfold Disk.remode
  split
  · exact elsewhere_set path d _
  · exact .refl path d

/-- The requests that change this path at most. -/
def Local (path : String) : FileRequest → Prop
  | .remove p | .create p _ | .write p _ | .chmod p _ => p = path
  | .rename _ _ => False
  | _ => True

theorem local_step {path : String} {q : FileRequest} {d d' : Disk} {r : q.Answer} (hq : Local path q)
    (h : FileStep q d r d') : Elsewhere path d d' := by
  cases q with
  | lstat | contents =>
    rw [h.1]
    exact .refl path d
  | sync | close =>
    rw [show d' = d from h]
    exact .refl path d
  | remove p =>
    cases hq
    cases (r : Bool) with
    | true => exact (show d' = _ from h) ▸ elsewhere_set path d none
    | false => exact (show d' = d from h) ▸ .refl path d
  | create p mode =>
    cases hq
    cases (r : Bool) with
    | true => exact (show d' = _ from h.2) ▸ elsewhere_set path d _
    | false => exact (show d' = d from h) ▸ .refl path d
  | write p content =>
    cases hq
    cases (r : Bool) with
    | true => exact (show d' = _ from h) ▸ elsewhere_extend path d content
    | false =>
      obtain ⟨part, -, hd⟩ := h
      exact hd ▸ elsewhere_extend path d part
  | chmod p mode =>
    cases hq
    cases (r : Bool) with
    | true => exact (show d' = _ from h) ▸ elsewhere_remode path d mode
    | false => exact (show d' = d from h) ▸ .refl path d
  | rename => exact hq.elim

theorem local_torn {path : String} {q : FileRequest} {d d' : Disk} (hq : Local path q) (h : FileTorn q d d') :
    Elsewhere path d d' := by
  cases q with
  | write p content =>
    cases hq
    obtain ⟨part, -, hd⟩ := h
    exact hd ▸ elsewhere_extend path d part
  | _ => exact h.elim

theorem wp_local {α : Type} {path : String} {p : Prog fileSig α} (hp : p.Only (Local path)) (d : Disk) :
    wp disk (Elsewhere path d) p (fun _ d' => Elsewhere path d d') d := by
  refine wp_only hp (Elsewhere.refl path) Elsewhere.trans (fun q d₁ hq hd₁ => ?_) (.refl path d)
  exact ⟨hd₁, fun d₂ ht => hd₁.trans (local_torn hq ht), fun r d₂ hs =>
    ⟨hd₁.trans (local_step hq hs), local_step hq hs⟩⟩

/-! ## What the programs find -/

section Specs
variable {decode : List UInt8 → Option (ReleaseManifest × Bool)} {C : Disk → Prop} {d : Disk}

theorem wp_attempt {α β : Type} {p : Prog fileSig α} {f : α → Attempt β} {Q : Except Outcome β → Disk → Prop} :
    wp disk C (attempt p >>= f).run Q d ↔ wp disk C p (fun a d => wp disk C (f a).run Q d) d := by
  rw [wp_except]
  change wp disk C (p.bind fun a => .ret (Except.ok a)) _ d ↔ _
  rw [wp_bind]
  constructor
  · intro h
    exact wp_mono h fun _ _ _ h => h.2
  · intro h
    exact wp_mono h fun _ _ hC h => ⟨hC, h⟩

theorem boundedContent_spec (path : String) (maximum : ℕ) (hd : C d) :
    wp disk C (boundedContent path maximum) (fun answer d' => d' = d ∧ ∀ content, answer = some (some content) →
      ∃ mode, d.files path = some (.regular content mode) ∧ content.length ≤ maximum) d := by
  refine ⟨hd, fun _ ht => ht.elim, ?_⟩
  rintro info d ⟨rfl, hinfo⟩
  cases (info : Option FileInfo) with
  | none => exact ⟨hd, rfl, by simp⟩
  | some info =>
    have hdescribes := hinfo info rfl
    change wp disk C (if info.isRegular = false ∨ info.size = 0 ∨ maximum < info.size then _ else _) _ _
    split
    · exact ⟨hd, rfl, by simp⟩
    · rename_i hbounded
      refine ⟨hd, fun _ ht => ht.elim, ?_⟩
      rintro content d ⟨rfl, hcontent⟩
      refine ⟨hd, rfl, ?_⟩
      intro content' hsame
      have hholds := hcontent content' (Option.some.inj hsame)
      generalize d.files path = node at hdescribes hholds
      cases node with
      | none => exact hholds.elim
      | some node =>
        cases node with
        | regular content mode =>
          have hsize : info = ⟨true, content.length, mode⟩ := hdescribes
          have hread : content' = content := hholds
          subst hread
          rw [hsize] at hbounded
          exact ⟨mode, rfl, by simpa using fun hlong => hbounded (.inr (.inr hlong))⟩
        | other => exact absurd (.inl hdescribes) hbounded

theorem fileSHA256_spec (path : String) (hd : C d) :
    wp disk C (fileSHA256 path) (fun answer d' => d' = d ∧ ∀ sum, answer = some sum → ∃ content mode,
      d.files path = some (.regular content mode) ∧ content.length ≤ maximumBinaryBytes ∧ sum = digest content) d := by
  refine (wp_bind _ _ _ _).mpr (wp_mono (boundedContent_spec path _ hd) ?_)
  rintro content _ hC ⟨rfl, hcontent⟩
  refine ⟨hC, rfl, ?_⟩
  intro sum hsum
  obtain ⟨found, hfound, hdigest⟩ := Option.map_eq_some_iff.mp hsum
  obtain ⟨mode, hnode, hlength⟩ := hcontent found (by simpa [Option.join_eq_some_iff] using hfound)
  exact ⟨found, mode, hnode, hlength, hdigest.symm⟩

/-- The manifest that a disk holds. -/
def Released (decode : List UInt8 → Option (ReleaseManifest × Bool)) (d : Disk) (path : String)
    (manifest : ReleaseManifest) : Prop :=
  ∃ content mode, d.files path = some (.regular content mode) ∧ parseManifest decode content = .ok manifest

theorem loadReleaseManifest_spec (path : String) (hd : C d) :
    wp disk C (loadReleaseManifest decode path)
      (fun answer d' => d' = d ∧ ∀ manifest, answer = .ok manifest → Released decode d path manifest) d := by
  refine (wp_bind _ _ _ _).mpr (wp_mono (boundedContent_spec path _ hd) ?_)
  rintro content _ hC ⟨rfl, hcontent⟩
  cases content with
  | none => exact ⟨hC, rfl, by simp⟩
  | some content =>
    cases content with
    | none => exact ⟨hC, rfl, by simp⟩
    | some content =>
      refine ⟨hC, rfl, ?_⟩
      intro manifest hparsed
      obtain ⟨mode, hnode, -⟩ := hcontent content rfl
      exact ⟨content, mode, hnode, hparsed⟩

/-- The bytes of the candidate, with the checksum the manifest has for them. -/
def Verified (decode : List UInt8 → Option (ReleaseManifest × Bool)) (d : Disk) (manifestPath candidate : String)
    (content : List UInt8) : Prop :=
  (∃ mode, d.files candidate = some (.regular content mode)) ∧ ∃ manifest artifact,
    Released decode d manifestPath manifest ∧ manifest.agentArtifact = some artifact ∧
      hexEncode (Sha256.sum256 content) = artifact.sha256

theorem verify_spec (target manifestPath candidate : String) (hd : C d) :
    wp disk C (verify decode target manifestPath candidate).run (fun answer d' => d' = d ∧ ∀ found, answer = .ok found →
      ∃ content, Verified decode d manifestPath candidate content ∧ content.length ≤ maximumBinaryBytes) d := by
  have hstop {α : Type} (o : Outcome) (P : α → Prop) :
      d = d ∧ ∀ found : α, (Except.error o : Except Outcome α) = .ok found → P found := ⟨rfl, fun _ h => by cases h⟩
  refine wp_attempt.mpr ⟨hd, fun _ ht => ht.elim, ?_⟩
  rintro info d ⟨rfl, -⟩
  refine ⟨hd, ?_⟩
  change wp disk C (ite _ _ _ : Attempt _).run _ _
  split
  · exact ⟨hd, hstop _ _⟩
  refine wp_attempt.mpr (wp_mono (fileSHA256_spec target hd) ?_)
  rintro running d - ⟨rfl, -⟩
  cases running with
  | none => exact ⟨hd, hstop _ _⟩
  | some running =>
  refine wp_attempt.mpr (wp_mono (loadReleaseManifest_spec manifestPath hd) ?_)
  rintro manifest d - ⟨rfl, hreleased⟩
  cases manifest with
  | error message => exact ⟨hd, hstop _ _⟩
  | ok manifest =>
  have hmanifest := hreleased manifest rfl
  dsimp only
  cases hartifact : manifest.agentArtifact with
  | none => exact ⟨hd, hstop _ _⟩
  | some artifact =>
  refine wp_attempt.mpr (wp_mono (fileSHA256_spec candidate hd) ?_)
  rintro candidateSum d - ⟨rfl, hcandidate⟩
  cases candidateSum with
  | none => exact ⟨hd, hstop _ _⟩
  | some candidateSum =>
  dsimp only
  split
  · exact ⟨hd, hstop _ _⟩
  rename_i hmatches
  split
  · exact ⟨hd, hstop _ _⟩
  refine ⟨hd, rfl, ?_⟩
  intro found _
  obtain ⟨content, mode, hnode, hlength, hsum⟩ := hcandidate candidateSum rfl
  refine ⟨content, ⟨⟨mode, hnode⟩, manifest, artifact, hmanifest, hartifact, ?_⟩, hlength⟩
  rw [digest, List.take_of_length_le (by omega)] at hsum
  rw [← hsum]
  exact not_not.mp hmatches

/-- A copy that succeeds is complete, and was made where nothing was. -/
theorem copyFile_spec (source destination : String) (mode : ℕ) :
    wp disk (fun _ => True) (copyFile source destination mode) (fun done d' => done = true →
      d.files destination = none ∧ ∃ content, Holds content (d.files source) ∧
        d'.files destination = some (.regular (content.take maximumBinaryBytes) mode)) d := by
  have hfailed (d₁ : Disk) (P : Prop) : True ∧ (false = true → P) := ⟨trivial, fun h => by cases h⟩
  refine ⟨trivial, fun _ _ => trivial, ?_⟩
  rintro content d ⟨rfl, hcontent⟩
  cases (content : Option (List UInt8)) with
  | none => exact hfailed d _
  | some content =>
  have hholds := hcontent content rfl
  refine ⟨trivial, fun _ _ => trivial, ?_⟩
  intro created d₁ hcreated
  cases (created : Bool) with
  | false => exact hfailed d _
  | true =>
  obtain ⟨hfree, hd₁⟩ := hcreated
  refine ⟨trivial, fun _ _ => trivial, ?_⟩
  intro written d₂ hwritten
  cases (written : Bool) with
  | false => exact ⟨trivial, fun _ _ => trivial, fun _ _ _ => hfailed d _⟩
  | true =>
  have hd₂ : d₂ = d₁.extend destination (content.take maximumBinaryBytes) := hwritten
  refine ⟨trivial, fun _ _ => trivial, ?_⟩
  intro synced d₃ hsynced
  have hd₃ : d₃ = d₂ := hsynced
  cases (synced : Bool) with
  | false => exact ⟨trivial, fun _ _ => trivial, fun _ _ _ => hfailed d _⟩
  | true =>
  refine ⟨trivial, fun _ _ => trivial, ?_⟩
  intro closed d₄ hclosed
  have hd₄ : d₄ = d₃ := hclosed
  cases (closed : Bool) with
  | false => exact hfailed d _
  | true =>
  refine ⟨trivial, fun _ _ => trivial, ?_⟩
  intro moded d₅ hmoded
  cases (moded : Bool) with
  | false => exact hfailed d _
  | true =>
  have hd₅ : d₅ = d₄.remode destination mode := hmoded
  refine ⟨trivial, fun _ => ⟨hfree, content, hholds, ?_⟩⟩
  have hfile : d₄.files destination = some (.regular (content.take maximumBinaryBytes) mode) := by
    rw [hd₄, hd₃, hd₂, hd₁]
    simp [Disk.extend, Disk.set]
  rw [hd₅, Disk.remode, hfile]
  simp [Disk.set]

theorem only_attempt {α : Type} {P : FileRequest → Prop} {p : Prog fileSig α} (h : p.Only P) :
    (attempt p).run.Only P := h.bind fun _ => .ret _

theorem boundedContent_local (path path' : String) (maximum : ℕ) : (boundedContent path maximum).Only (Local path') := by
  refine .bind (.perform trivial) fun info => ?_
  cases (info : Option FileInfo) with
  | none => exact .ret _
  | some info =>
    change Prog.Only _ (ite _ _ _)
    split
    · exact .ret _
    · exact .bind (.perform trivial) fun _ => .ret _

theorem copyFile_local (source destination : String) (mode : ℕ) :
    (copyFile source destination mode).Only (Local destination) := by
  refine .bind (.perform trivial) fun content => ?_
  cases (content : Option (List UInt8)) with
  | none => exact .ret _
  | some content =>
  refine .bind (.perform rfl) fun created => ?_
  cases (created : Bool) with
  | false => exact .ret _
  | true =>
  refine .bind (.perform rfl) fun written => ?_
  cases (written : Bool) with
  | false => exact .bind (.perform trivial) fun _ => .ret _
  | true =>
  refine .bind (.perform trivial) fun synced => ?_
  cases (synced : Bool) with
  | false => exact .bind (.perform trivial) fun _ => .ret _
  | true =>
  refine .bind (.perform trivial) fun closed => ?_
  cases (closed : Bool) with
  | false => exact .ret _
  | true => exact .perform rfl

theorem stage_local (target candidate : String) (result : UpdateResult) (perm : ℕ) (artifact : ReleaseArtifact) :
    (stage target candidate result perm artifact).run.Only (Local (target ++ stagingSuffix)) := by
  refine .except (only_attempt (.perform rfl)) fun _ => ?_
  refine .except (only_attempt (copyFile_local ..)) fun copied => ?_
  cases copied with
  | false => exact .except (only_attempt (.perform rfl)) fun _ => .ret _
  | true =>
  refine .except (only_attempt (.bind (boundedContent_local ..) fun _ => .ret _)) fun staged => ?_
  split
  · exact .except (only_attempt (.perform rfl)) fun _ => .ret _
  · exact .ret _

theorem stage_spec {target candidate : String} {result : UpdateResult} {perm : ℕ} {artifact : ReleaseArtifact}
    (hC : ∀ d', Elsewhere (target ++ stagingSuffix) d d' → C d') :
    wp disk C (stage target candidate result perm artifact).run (fun answer d' =>
      Elsewhere (target ++ stagingSuffix) d d' ∧ ∀ x, answer = .ok x → ∃ content, Holds content (d.files candidate) ∧
        d'.files (target ++ stagingSuffix) = some (.regular (content.take maximumBinaryBytes) perm)) d := by
  suffices hstaged : wp disk (fun _ => True) (stage target candidate result perm artifact).run (fun answer d' =>
      ∀ x, answer = .ok x → ∃ content, Holds content (d.files candidate) ∧
        d'.files (target ++ stagingSuffix) = some (.regular (content.take maximumBinaryBytes) perm)) d from
    wp_weaken (wp_and (wp_local (stage_local ..) d) hstaged) fun d' h => hC d' h.1
  have hstop {o : Outcome} {P : Disk → Prop} (d₂ : Disk) : wp disk (fun _ => True)
      (attempt (perform (.remove (target ++ stagingSuffix))) >>= fun _ => (throw o : Attempt Unit)).run
      (fun answer d' => ∀ x, answer = .ok x → P d') d₂ :=
    wp_attempt.mpr ⟨trivial, fun _ _ => trivial, fun _ _ _ => ⟨trivial, trivial, fun _ h => by cases h⟩⟩
  refine wp_attempt.mpr ⟨trivial, fun _ _ => trivial, fun removed d₁ hremoved => ⟨trivial, ?_⟩⟩
  have helsewhere : Elsewhere (target ++ stagingSuffix) d d₁ := local_step (q := .remove (target ++ stagingSuffix)) rfl hremoved
  refine wp_attempt.mpr (wp_mono (copyFile_spec ..) fun copied d₂ _ hcopied => ?_)
  cases copied with
  | false => exact hstop d₂
  | true =>
  obtain ⟨hfree, content, hholds, hfile⟩ := hcopied rfl
  have hother : candidate ≠ target ++ stagingSuffix := by
    intro hsame
    rw [hsame, hfree] at hholds
    exact hholds
  rw [helsewhere.1 candidate hother] at hholds
  refine wp_attempt.mpr (wp_mono (fileSHA256_spec _ trivial) ?_)
  rintro staged d₂ - ⟨rfl, -⟩
  split
  · exact hstop d₂
  · exact ⟨trivial, fun _ _ => ⟨content, hholds, hfile⟩⟩

end Specs

/-! ## The binary in its place -/

/-- The last rename that touched the path took its file away. -/
def vacated (path : String) (moves : List (String × String)) : Bool :=
  moves.foldl (fun away move => if move.1 = path then true else if move.2 = path then false else away) false

theorem vacated_concat (path source destination : String) (moves : List (String × String)) :
    vacated path (moves ++ [(source, destination)]) =
      if source = path then true else if destination = path then false else vacated path moves := by
  simp [vacated]

theorem move_files (d : Disk) (source destination p : String) : (d.move source destination).files p =
    if p = source then none else if p = destination then d.files source else d.files p := by
  simp [Disk.move, Function.update_apply]

section Sound
variable (target : String) (old : List UInt8) (good : List UInt8 → Prop)

/-- A complete regular file with the bytes from before or with good ones. -/
def Intact (d : Disk) : Prop := ∃ content mode, d.files target = some (.regular content mode) ∧ (content = old ∨ good content)

/-- Either the binary is in its place or it was moved aside. -/
def Sound (d : Disk) : Prop :=
  (Intact target old good d ∧ vacated target d.moves = false) ∨ (d.files target = none ∧ vacated target d.moves = true)

variable {target old good} {d d' : Disk}

theorem Sound.intact_iff (h : Sound target old good d) : Intact target old good d ↔ vacated target d.moves = false := by
  rcases h with ⟨hintact, hin⟩ | ⟨hnone, hout⟩
  · simp [hintact, hin]
  · simp [Intact, hnone, hout]

theorem Sound.elsewhere {path : String} (h : Sound target old good d) (helse : Elsewhere path d d') (hpath : path ≠ target) :
    Sound target old good d' := by
  have hfile := helse.1 target hpath.symm
  unfold Sound Intact
  rw [hfile, helse.2]
  exact h

/-- A rename onto the target of a file that may stand there. -/
theorem Sound.onto {source : String} {done : Bool} {content : List UInt8} {mode : ℕ} (h : Sound target old good d)
    (hsource : source ≠ target) (hfile : d.files source = some (.regular content mode)) (hcontent : content = old ∨ good content)
    (hstep : FileStep (.rename source target) d done d') : Sound target old good d' := by
  cases done with
  | false => exact (show d' = d from hstep) ▸ h
  | true =>
    rcases hstep.2 with hmoved | ⟨hkept, -⟩
    · refine .inl ⟨⟨content, mode, ?_, hcontent⟩, ?_⟩
      · rw [hmoved, move_files, if_neg hsource.symm, if_pos rfl, hfile]
      · rw [hmoved]
        exact (vacated_concat ..).trans (by simp [hsource])
    · exact hkept ▸ h

/-- A rename of the target, which then stands where it was moved to. -/
theorem Sound.aside {aside : String} {done : Bool} (h : Sound target old good d) (haside : aside ≠ target)
    (hstep : FileStep (.rename target aside) d done d') : Sound target old good d' ∧
      (done = true → d'.files aside = d.files target) ∧ ∀ p, p ≠ target → p ≠ aside → d'.files p = d.files p := by
  cases done with
  | false =>
    have hsame : d' = d := hstep
    exact ⟨hsame ▸ h, fun hdone => absurd hdone (by decide), fun p _ _ => by rw [hsame]⟩
  | true =>
    rcases hstep.2 with hmoved | ⟨hkept, hfiles⟩
    · refine ⟨.inr ⟨?_, ?_⟩, fun _ => ?_, fun p hp hp' => ?_⟩
      · rw [hmoved, move_files, if_pos rfl]
      · rw [hmoved]
        exact (vacated_concat ..).trans (if_pos rfl)
      · rw [hmoved, move_files, if_neg haside, if_pos rfl]
      · rw [hmoved, move_files, if_neg hp, if_neg hp']
    · exact ⟨hkept ▸ h, fun _ => hkept ▸ hfiles, fun p _ _ => by rw [hkept]⟩

theorem Sound.beside {source destination : String} {done : Bool} (h : Sound target old good d) (hsource : source ≠ target)
    (hdestination : destination ≠ target) (hstep : FileStep (.rename source destination) d done d') :
    Sound target old good d' := by
  cases done with
  | false => exact (show d' = d from hstep) ▸ h
  | true =>
    rcases hstep.2 with hmoved | ⟨hkept, -⟩
    · have hfile : d'.files target = d.files target := by
        rw [hmoved, move_files, if_neg hsource.symm, if_neg hdestination.symm]
      have hmoves : vacated target d'.moves = vacated target d.moves := by
        rw [hmoved]
        exact (vacated_concat ..).trans (by simp [hsource, hdestination])
      unfold Sound Intact
      rw [hfile, hmoves]
      exact h
    · exact hkept ▸ h

theorem append_ne_self {s t : String} (h : t ≠ "") : s ++ t ≠ s := fun hsame => h (by simpa using hsame)

theorem append_ne_append {s t t' : String} (h : t ≠ t') : s ++ t ≠ s ++ t' := fun hsame => h (by simpa using hsame)

theorem staging_ne : target ++ stagingSuffix ≠ target := append_ne_self (by decide)
theorem backup_ne : target ++ previousSuffix ≠ target := append_ne_self (by decide)
theorem swap_ne : target ++ ".rollback" ≠ target := append_ne_self (by decide)

theorem swapIn_sound {mode mode' : ℕ} {content : List UInt8} (result : UpdateResult) (h : Sound target old good d)
    (htarget : d.files target = some (.regular old mode)) (hgood : good content)
    (hstaging : d.files (target ++ stagingSuffix) = some (.regular content mode')) :
    wp disk (Sound target old good) (swapIn target result) (fun _ _ => True) d := by
  refine ⟨h, fun _ ht => ht.elim, fun removed d₁ hremoved => ?_⟩
  have helse : Elsewhere (target ++ previousSuffix) d d₁ := local_step (q := .remove (target ++ previousSuffix)) rfl hremoved
  have h₁ := h.elsewhere helse backup_ne
  have htarget₁ := (helse.1 target backup_ne.symm).trans htarget
  have hstaging₁ := (helse.1 _ (append_ne_append (by decide))).trans hstaging
  refine ⟨h₁, fun _ ht => ht.elim, fun aside d₂ haside => ?_⟩
  obtain ⟨h₂, hbackup, hothers⟩ := h₁.aside backup_ne haside
  have hstaging₂ := (hothers _ staging_ne (append_ne_append (by decide))).trans hstaging₁
  cases (aside : Bool) with
  | false =>
    refine ⟨h₂, fun _ ht => ht.elim, fun removed d₃ hremoved => ⟨?_, trivial⟩⟩
    exact h₂.elsewhere (local_step (q := .remove (target ++ stagingSuffix)) rfl hremoved) staging_ne
  | true =>
  refine ⟨h₂, fun _ ht => ht.elim, fun installed d₃ hinstalled => ?_⟩
  have h₃ := h₂.onto staging_ne hstaging₂ (.inr hgood) hinstalled
  cases (installed : Bool) with
  | true => exact ⟨h₃, trivial⟩
  | false =>
  have hsame : d₃ = d₂ := hinstalled
  subst hsame
  refine ⟨h₃, fun _ ht => ht.elim, fun restored d₄ hrestored => ?_⟩
  have h₄ := h₃.onto backup_ne ((hbackup rfl).trans htarget₁) (.inl rfl) hrestored
  refine ⟨h₄, fun _ ht => ht.elim, fun removed d₅ hremoved => ⟨?_, trivial⟩⟩
  exact h₄.elsewhere (local_step (q := .remove (target ++ stagingSuffix)) rfl hremoved) staging_ne

theorem swapBack_sound {mode mode' : ℕ} {content : List UInt8} (result : UpdateResult) (h : Sound target old good d)
    (htarget : d.files target = some (.regular old mode)) (hgood : good content)
    (hbackup : d.files (target ++ previousSuffix) = some (.regular content mode')) :
    wp disk (Sound target old good) (swapBack target result) (fun _ _ => True) d := by
  refine ⟨h, fun _ ht => ht.elim, fun removed d₁ hremoved => ?_⟩
  have helse : Elsewhere (target ++ ".rollback") d d₁ := local_step (q := .remove (target ++ ".rollback")) rfl hremoved
  have h₁ := h.elsewhere helse swap_ne
  have htarget₁ := (helse.1 target swap_ne.symm).trans htarget
  have hbackup₁ := (helse.1 _ (append_ne_append (by decide))).trans hbackup
  refine ⟨h₁, fun _ ht => ht.elim, fun aside d₂ haside => ?_⟩
  obtain ⟨h₂, hswap, hothers⟩ := h₁.aside swap_ne haside
  have hbackup₂ := (hothers _ backup_ne (append_ne_append (by decide))).trans hbackup₁
  cases (aside : Bool) with
  | false => exact ⟨h₂, trivial⟩
  | true =>
  refine ⟨h₂, fun _ ht => ht.elim, fun restored d₃ hrestored => ?_⟩
  have h₃ := h₂.onto backup_ne hbackup₂ (.inr hgood) hrestored
  cases (restored : Bool) with
  | false =>
    have hsame : d₃ = d₂ := hrestored
    subst hsame
    refine ⟨h₃, fun _ ht => ht.elim, fun undone d₄ hundone => ⟨?_, trivial⟩⟩
    exact h₃.onto swap_ne ((hswap rfl).trans htarget₁) (.inl rfl) hundone
  | true =>
  refine ⟨h₃, fun _ ht => ht.elim, fun kept d₄ hkept => ?_⟩
  have h₄ := h₃.beside swap_ne backup_ne hkept
  cases (kept : Bool) with
  | false => exact ⟨h₄, trivial⟩
  | true =>
    refine (wp_bind (fileSHA256 target) _ _ _).mpr (wp_mono (fileSHA256_spec target h₄) ?_)
    rintro running d₄ - ⟨rfl, -⟩
    exact ⟨h₄, trivial⟩

end Sound

/-! ## Every crash -/

theorem updateApply_sound {decode : List UInt8 → Option (ReleaseManifest × Bool)} {target manifestPath candidate : String}
    {old : List UInt8} {mode : ℕ} {d : Disk} (htarget : d.files target = some (.regular old mode)) (hmoves : d.moves = []) :
    wp disk (Sound target old (Verified decode d manifestPath candidate)) (updateApply decode target manifestPath candidate)
      (fun _ _ => True) d := by
  have hsound : Sound target old (Verified decode d manifestPath candidate) d :=
    .inl ⟨⟨old, mode, htarget, .inl rfl⟩, by rw [hmoves]; rfl⟩
  refine (wp_bind _ _ _ _).mpr (wp_mono (Q := fun _ _ => True) ?_ fun answer d' hC _ => ?_)
  swap
  · cases answer with
    | ok outcome => exact ⟨hC, trivial⟩
    | error outcome => exact ⟨hC, trivial⟩
  refine (wp_except _ _ _ _).mpr (wp_mono (verify_spec target manifestPath candidate hsound) ?_)
  rintro answer d₀ - ⟨rfl, hfound⟩
  cases answer with
  | error outcome => exact ⟨hsound, trivial⟩
  | ok found =>
  obtain ⟨content, hverified, hlength⟩ := hfound found rfl
  refine (wp_except _ _ _ _).mpr (wp_mono (stage_spec fun d' helse => hsound.elsewhere helse staging_ne) ?_)
  rintro answer d₁ hC ⟨helse, hstaged⟩
  cases answer with
  | error outcome => exact ⟨hC, trivial⟩
  | ok _ =>
  obtain ⟨copied, hholds, hfile⟩ := hstaged () rfl
  obtain ⟨⟨mode', hcandidate⟩, hartifact⟩ := hverified
  rw [hcandidate] at hholds
  have hcopied : copied = content := hholds
  rw [hcopied, List.take_of_length_le hlength] at hfile
  have htarget₁ := (helse.1 target staging_ne.symm).trans htarget
  have hswap := swapIn_sound found.1 hC htarget₁ ⟨⟨mode', hcandidate⟩, hartifact⟩ hfile
  exact (wp_bind _ _ _ _).mpr (wp_mono hswap fun _ _ hC _ => ⟨hC, trivial⟩)

theorem updateRollback_sound {target : String} {old : List UInt8} {mode : ℕ} {d : Disk}
    (htarget : d.files target = some (.regular old mode)) (hmoves : d.moves = []) :
    wp disk (Sound target old fun content => ∃ mode, d.files (target ++ previousSuffix) = some (.regular content mode))
      (updateRollback target) (fun _ _ => True) d := by
  have hsound : Sound target old (fun content => ∃ mode, d.files (target ++ previousSuffix) = some (.regular content mode)) d :=
    .inl ⟨⟨old, mode, htarget, .inl rfl⟩, by rw [hmoves]; rfl⟩
  refine ⟨hsound, fun _ ht => ht.elim, ?_⟩
  rintro info d ⟨rfl, -⟩
  change wp disk _ (ite _ _ _) _ _
  split
  · exact ⟨hsound, trivial⟩
  refine ⟨hsound, fun _ ht => ht.elim, ?_⟩
  rintro info d ⟨rfl, hinfo⟩
  change wp disk _ (ite _ _ _) _ _
  split
  · exact ⟨hsound, trivial⟩
  rename_i hregular
  cases (info : Option FileInfo) with
  | none => exact absurd rfl hregular
  | some info =>
  have hdescribes := hinfo info rfl
  obtain ⟨node, hnode⟩ : ∃ node, d.files (target ++ previousSuffix) = node := ⟨_, rfl⟩
  rw [hnode] at hdescribes
  cases node with
  | none => exact hdescribes.elim
  | some node =>
  cases node with
  | other =>
    have hother : info.isRegular = false := hdescribes
    exact absurd (by simp [isRegular, hother]) hregular
  | regular content mode' => exact swapBack_sound _ hsound htarget ⟨mode', hnode⟩ hnode

theorem sound_of_exec {α : Type} {C : Disk → Prop} {p : Prog fileSig α} {d d' : Disk} {o : Option α}
    (h : Exec disk p d o d') (hp : wp disk C p (fun _ _ => True) d) : C d' := by
  have hmeets := h.of_wp (wp_mono hp fun _ _ hC _ => hC)
  cases o with
  | none => exact hmeets
  | some a => exact hmeets

/-- Wherever a run dies or returns, the target is whole with its old or its new bytes exactly if the renames so far
have not left it empty. -/
theorem update_intact_iff (decode : List UInt8 → Option (ReleaseManifest × Bool)) {target : String} {old : List UInt8}
    {mode : ℕ} {d : Disk} (htarget : d.files target = some (.regular old mode)) (hmoves : d.moves = []) :
    (∀ manifestPath candidate o d', Exec disk (updateApply decode target manifestPath candidate) d o d' →
      (Intact target old (Verified decode d manifestPath candidate) d' ↔ vacated target d'.moves = false)) ∧
    ∀ o d', Exec disk (updateRollback target) d o d' →
      (Intact target old (fun content => ∃ mode, d.files (target ++ previousSuffix) = some (.regular content mode)) d' ↔
        vacated target d'.moves = false) := by
  constructor
  · intro manifestPath candidate o d' h
    exact (sound_of_exec h (updateApply_sound htarget hmoves)).intact_iff
  · intro o d' h
    exact (sound_of_exec h (updateRollback_sound htarget hmoves)).intact_iff

/-! ## A rollback that is cut off -/

def installed : Disk where
  files path := if path = "agent" then some (.regular [1] 493) else if path = "agent.previous" then some (.regular [2] 493) else none
  moves := []

def movedAside : Disk := installed.move "agent" "agent.rollback"

/-- The steps of a rollback up to its second rename, and what may follow. -/
theorem rollback_aside {o : Option Outcome} {d' : Disk}
    (h : ∀ p : Prog fileSig Outcome, (∃ k, p = .call (.rename "agent.previous" "agent") k) → Exec disk p movedAside o d') :
    Exec disk (updateRollback "agent") installed o d' := by
  have hlstat : ∀ path content, installed.files path = some (.regular content 493) → content.length = 1 →
      disk.step (.lstat path) installed (some ⟨true, 1, 493⟩) installed := by
    intro path content hpath hlength
    refine ⟨rfl, fun info hinfo => ?_⟩
    cases hinfo
    rw [hpath, Describes, hlength]
  have hremove : disk.step (.remove "agent.rollback") installed false installed := rfl
  have hrename : disk.step (.rename "agent" "agent.rollback") installed true movedAside :=
    ⟨Option.some_ne_none _, .inl rfl⟩
  refine .call (hlstat "agent" [1] rfl rfl) (.call (hlstat "agent.previous" [2] rfl rfl) (.call hremove (.call hrename ?_)))
  exact h _ ⟨_, rfl⟩

theorem update_intact_rollback : ∃ d', Exec disk (updateRollback "agent") installed none d' ∧
    Intact "agent" [1] (fun content => ∃ mode, installed.files ("agent" ++ previousSuffix) = some (.regular content mode)) d' := by
  have hexec : Exec disk (updateRollback "agent") installed none (movedAside.move "agent.previous" "agent") := by
    refine rollback_aside fun p hp => ?_
    obtain ⟨k, rfl⟩ := hp
    have hrename : disk.step (.rename "agent.previous" "agent") movedAside true (movedAside.move "agent.previous" "agent") :=
      ⟨Option.some_ne_none _, .inl rfl⟩
    exact .call hrename (.died _ _)
  have htarget : installed.files "agent" = some (.regular [1] 493) := rfl
  refine ⟨_, hexec, ((update_intact_iff (fun _ => none) htarget rfl).2 _ _ hexec).mpr ?_⟩
  decide

/-- Between the two renames the target is missing. -/
theorem target_missing : ∃ d', Exec disk (updateRollback "agent") installed none d' ∧ d'.files "agent" = none :=
  ⟨movedAside, rollback_aside fun p _ => .died p _, rfl⟩

/-! ## Rolling back twice -/

theorem renamed {source destination : String} {d d' : Disk} (hne : source ≠ destination)
    (hstep : FileStep (.rename source destination) d true d') : d'.files destination = d.files source ∧
      ∀ p, p ≠ source → p ≠ destination → d'.files p = d.files p := by
  rcases hstep.2 with hmoved | ⟨hkept, hfiles⟩
  · subst hmoved
    constructor
    · rw [move_files, if_neg hne.symm, if_pos rfl]
    · intro p hp hp'
      rw [move_files, if_neg hp, if_neg hp']
  · subst hkept
    exact ⟨hfiles, fun _ _ _ => rfl⟩

/-- The running binary and the kept one have changed places. -/
def Exchanged (target : String) (d d' : Disk) : Prop :=
  d'.files target = d.files (target ++ previousSuffix) ∧ d'.files (target ++ previousSuffix) = d.files target ∧
    ∀ p, p ≠ target → p ≠ target ++ previousSuffix → p ≠ target ++ ".rollback" → d'.files p = d.files p

theorem Exchanged.twice {target p : String} {d d₁ d₂ : Disk} (h : Exchanged target d d₁) (h' : Exchanged target d₁ d₂)
    (hp : p ≠ target ++ ".rollback") : d₂.files p = d.files p := by
  by_cases htarget : p = target
  · rw [htarget, h'.1, h.2.1]
  by_cases hbackup : p = target ++ previousSuffix
  · rw [hbackup, h'.2.1, h.1]
  · rw [h'.2.2 p htarget hbackup hp, h.2.2 p htarget hbackup hp]

theorem swapBack_exchanged {target : String} {d : Disk} {result : UpdateResult} (hresult : result.rolledBack = false) :
    wp disk (fun _ => True) (swapBack target result) (fun o d' => o.result.rolledBack = true → Exchanged target d d') d := by
  have hswap : target ++ ".rollback" ≠ target ++ previousSuffix := append_ne_append (by decide)
  have hundone (d' : Disk) : result.rolledBack = true → Exchanged target d d' := by simp [hresult]
  refine ⟨trivial, fun _ _ => trivial, fun removed d₁ hremoved => ?_⟩
  have helse : Elsewhere (target ++ ".rollback") d d₁ := local_step (q := .remove (target ++ ".rollback")) rfl hremoved
  refine ⟨trivial, fun _ _ => trivial, fun aside d₂ haside => ?_⟩
  cases (aside : Bool) with
  | false => exact ⟨trivial, hundone d₂⟩
  | true =>
  refine ⟨trivial, fun _ _ => trivial, fun restored d₃ hrestored => ?_⟩
  cases (restored : Bool) with
  | false => exact ⟨trivial, fun _ _ => trivial, fun _ d₄ _ => ⟨trivial, hundone d₄⟩⟩
  | true =>
  refine ⟨trivial, fun _ _ => trivial, fun kept d₄ hkept => ?_⟩
  cases (kept : Bool) with
  | false => exact ⟨trivial, hundone d₄⟩
  | true =>
  obtain ⟨haside₂, hothers₂⟩ := renamed swap_ne.symm haside
  obtain ⟨htarget₃, hothers₃⟩ := renamed backup_ne hrestored
  obtain ⟨hbackup₄, hothers₄⟩ := renamed hswap hkept
  refine (wp_bind (fileSHA256 target) _ _ _).mpr (wp_mono (fileSHA256_spec target trivial) ?_)
  rintro running d₅ - ⟨rfl, -⟩
  refine ⟨trivial, fun _ => ⟨?_, ?_, ?_⟩⟩
  · rw [hothers₄ _ swap_ne.symm backup_ne.symm, htarget₃, hothers₂ _ backup_ne hswap.symm, helse.1 _ hswap.symm]
  · rw [hbackup₄, hothers₃ _ hswap swap_ne, haside₂, helse.1 _ swap_ne.symm]
  · intro p htarget hbackup hp
    rw [hothers₄ p hp hbackup, hothers₃ p hbackup htarget, hothers₂ p htarget hp, helse.1 p hp]

theorem updateRollback_exchanged (target : String) (d : Disk) : wp disk (fun _ => True) (updateRollback target)
    (fun o d' => o.result.rolledBack = true → Exchanged target d d') d := by
  refine ⟨trivial, fun _ _ => trivial, ?_⟩
  rintro info d ⟨rfl, -⟩
  change wp disk _ (ite _ _ _) _ _
  split
  · exact ⟨trivial, by simp⟩
  refine ⟨trivial, fun _ _ => trivial, ?_⟩
  rintro info d ⟨rfl, -⟩
  change wp disk _ (ite _ _ _) _ _
  split
  · exact ⟨trivial, by simp⟩
  · exact swapBack_exchanged rfl

/-- A rollback that is reported done exchanges the two binaries, so that a second one takes the first one back. -/
theorem rollback_twice (target : String) (d : Disk) :
    wp disk (fun _ => True) (updateRollback target) (fun o d' => o.result.rolledBack = true → Exchanged target d d') d ∧
    wp disk (fun _ => True) (updateRollback target >>= fun first => updateRollback target >>= fun second => pure (first, second))
      (fun o d' => o.1.result.rolledBack = true → o.2.result.rolledBack = true →
        ∀ p, p ≠ target ++ ".rollback" → d'.files p = d.files p) d := by
  refine ⟨updateRollback_exchanged target d, (wp_bind _ _ _ _).mpr (wp_mono (updateRollback_exchanged target d) ?_)⟩
  intro first d₁ _ hfirst
  refine (wp_bind _ _ _ _).mpr (wp_mono (updateRollback_exchanged target d₁) ?_)
  intro second d₂ _ hsecond
  exact ⟨trivial, fun h h' p hp => (hfirst h).twice (hsecond h') hp⟩

end AntiFlock.AgentCli
