import SuderraOs.Evidence.MachineRecord
import SuderraOs.Evidence.ProvenanceBinding
import SuderraOs.Lib.Sha256
import SuderraOs.Publish.Publication

/-!
# Creating machine-verification records

`create_record` of `machine-verification-record.py`: the record of the checksums, of the signatures or of the attestations of a release
directory. The validator refuses what the producer lets through: a file without content, a name that is no file name, and a subject that
an attestation names twice (`created_record_valid_iff`).
-/

namespace SuderraOs.Publish.VerificationRecord

open Value Evidence OperatorIngress Attestation MachineRecord Publication

inductive Check where
  | sha256sums
  | cosign
  | attestations
  deriving DecidableEq, Repr

def Check.name : Check → String
  | sha256sums => "sha256sums"
  | cosign => "cosign"
  | attestations => "attestations"

/-- A directory and the names that `iterdir` gives, if it is one. -/
structure Directory where
  path : PosixPath
  listing : Option (List String)
  isName : ∀ name ∈ listing.getD [], IsName name
  nodup : (listing.getD []).Nodup

/-- The arguments that are given and the environment. -/
structure Args where
  check : Check
  releaseDir : Directory
  log : PosixPath
  attestationJsonDir : Option Directory
  identity : Option String
  issuer : Option String
  workflow : Option String
  repository : Option String
  runId : Option String
  runAttempt : Option String
  ref : Option String
  sourceSha : Option String
  environ : String → Option String
  /-- `isoformat` of the time, without its offset. -/
  now : String

/-- A file that a record covers, with its sidecars if they were looked at. -/
structure Found where
  name : String
  bytes : Bytes
  sidecars : Option (String × String)

section

variable (R : Reader) (files : Files)

/-! ## The subjects -/

def Found.sha256 (found : Found) : String := R.hexdigest found.bytes

def Found.fields (found : Found) : Fields :=
  [("name", .str found.name), ("sha256", .str (found.sha256 R)), ("bytes", .int found.bytes.length)] ++
    (found.sidecars.map fun p => [("signature", .str p.1), ("certificate", .str p.2)]).getD []

/-- `line.split(maxsplit=1)`, if it has two parts. -/
def splitLine (line : List Char) : Option (List Char × List Char) :=
  let text := line.dropWhile PyText.isSpace
  let rest := (text.dropWhile fun c => !PyText.isSpace c).dropWhile PyText.isSpace
  if rest = [] then none else some (text.takeWhile fun c => !PyText.isSpace c, rest)

/-- The file of a line of `SHA256SUMS`. -/
def lineFile (dir : Directory) (line : List Char) : Except String Found := do
  let parts ← orError s!"invalid SHA256SUMS line: {String.ofList line}" (splitLine line)
  let name := String.ofList (parts.2.dropWhile (· = '*'))
  let bytes ← orError s!"SHA256SUMS references missing file: {name}" (files (dir.path.join (PosixPath.ofString name)))
  guardError s!"SHA256SUMS digest mismatch for {name}" (R.hexdigest bytes = String.ofList parts.1)
  .ok ⟨name, bytes, none⟩

/-- `sha256sum_subjects`. -/
def sha256sumSubjects (dir : Directory) : Except String (List Found) := do
  let bytes ← orError "FileNotFoundError" (files (dir.path.child "SHA256SUMS"))
  let text ← orError "UnicodeDecodeError" (Utf8.decode bytes)
  let found ← (PyText.splitlines (PyText.universalNewlines text.toList)).mapM (lineFile R files dir)
  guardError "SHA256SUMS contains no subjects" (!found.isEmpty)
  .ok found

/-- `release_files`, without the records and the sidecars. -/
def releaseFiles (dir : Directory) : Except String (List (String × Bytes)) := do
  let names ← orError "OSError" dir.listing
  .ok ((sortNames names).filterMap fun name =>
    if startsWith "machine-verification" name || isSidecar name then none else (files (dir.path.child name)).map (name, ·))

/-- A file whose sidecars are not empty. -/
def signedFile (dir : Directory) (file : String × Bytes) : Except String Found := do
  let sidecar := fun suffix => (files (dir.path.child (file.1 ++ suffix))).any fun bytes => !bytes.isEmpty
  guardError s!"missing signature sidecar for {file.1}" (sidecar ".sig")
  guardError s!"missing certificate sidecar for {file.1}" (sidecar ".cert")
  .ok ⟨file.1, file.2, some (file.1 ++ ".sig", file.1 ++ ".cert")⟩

/-- `signed_subjects`. -/
def signedSubjects (dir : Directory) : Except String (List Found) := do
  let found ← releaseFiles files dir
  let found ← found.mapM (signedFile files dir)
  guardError "no signed release subjects found" (!found.isEmpty)
  .ok found

/-- `attested_subjects`. -/
def attestedSubjects (dir : Directory) : Except String (List Found) := do
  let found ← releaseFiles files dir
  guardError "no attested release subjects found" (!found.isEmpty)
  .ok (found.map fun file => ⟨file.1, file.2, none⟩)

/-- `subjects_for`. -/
def subjectsFor (dir : Directory) : Check → Except String (List Found)
  | .sha256sums => sha256sumSubjects R files dir
  | .cosign => signedSubjects files dir
  | .attestations => attestedSubjects files dir

/-! ## The attestations -/

/-- `sorted(subjects, key=subject_identity)`. -/
def sortIdentities (subjects : List Subject) : List Subject :=
  subjects.insertionSort fun a b => if a.1 = b.1 then nameLe a.2 b.2 = true else nameLe a.1 b.1 = true

/-- `minimal_subjects`. -/
def minimalSubjects (subjects : List Subject) : Value :=
  .list ((sortIdentities subjects).map fun subject => .dict [("name", .str subject.1), ("sha256", .str subject.2)])

/-- An attestation that was read: what it holds, its subjects and the provenance of each statement that has some. -/
structure Loaded where
  name : String
  bytes : Bytes
  subjects : List Subject
  provenance : List Provenance

/-- The subjects of a statement and, if it has some, its provenance. -/
def statementContext (path : PosixPath) (expected : Expected) (statement : Fields) : Except String (List Subject × List Provenance) :=
  if subjectsFromStatement R statement = [] then .ok ([], [])
  else do
    let context ← provenanceContext R statement expected
    guardError (s!"attestation provenance mismatch in {path}: " ++ "; ".intercalate context.2) (context.2 = [])
    .ok (subjectsFromStatement R statement, [context.1])

/-- The statements in the document of a file. -/
def statementsOf (bytes : Bytes) : Except String (List Fields) := do
  let payload ← readDocument R bytes
  iterAttestationStatements R payload

/-- A round of `load_verified_attestation_subjects`. -/
def loadAttestation (expected : Expected) (path : PosixPath) : Except String Loaded := do
  let bytes ← orError s!"attestation JSON is missing or empty: {path}" ((files path).filter (!·.isEmpty))
  let statements ← statementsOf R bytes
  let contexts ← statements.mapM (statementContext R path expected)
  guardError s!"attestation JSON has no DSSE subjects: {path}" (contexts.flatMap (·.1) ≠ [])
  .ok ⟨path.name, bytes, contexts.flatMap (·.1), contexts.flatMap (·.2)⟩

def provenanceFields (provenance : Provenance) : Fields :=
  [("predicate_type", provenance.predicateType), ("builder_id", (provenance.builderId.map str).getD .null),
    ("source_repository", .str provenance.source.repository), ("source_ref", .str provenance.source.ref),
    ("source_run_id", .str provenance.source.runId), ("source_run_attempt", .str provenance.source.runAttempt),
    ("source_sha", .str provenance.source.sourceSha), ("materials", .list (provenance.materials.map dict))]

def Loaded.fields (loaded : Loaded) : Fields :=
  [("path", .str loaded.name), ("sha256", .str (R.hexdigest loaded.bytes)), ("bytes", .int loaded.bytes.length),
    ("subjects", minimalSubjects loaded.subjects), ("provenance", .list (loaded.provenance.map fun p => .dict (provenanceFields p)))]

/-- `attestation_json_dir.glob("*.json")`, in the order of the names. -/
def attestationNames (dir : Directory) : List String := sortNames ((dir.listing.getD []).filter (endsWith ".json"))

/-- What the record of the attestations has beside the others. -/
def attestationFields (dir : Option Directory) (expected : Expected) (subjects : List Found) : Except String Fields := do
  let dir ← orError "attestations record requires --attestation-json-dir" dir
  guardError s!"no attestation JSON files found in {dir.path}" (!(attestationNames dir).isEmpty)
  let loaded ← (attestationNames dir).mapM fun name => loadAttestation R files expected (dir.path.child name)
  let expected := subjects.map fun found => (found.name, found.sha256 R)
  let verified := sortSubjects (loaded.flatMap (·.subjects))
  guardError "attestation DSSE subjects do not match release subjects" (expected.all verified.contains && verified.all expected.contains)
  .ok [("verified_subjects", minimalSubjects verified),
    ("verification_material", .dict [("kind", .str "github-artifact-attestation-dsse"),
      ("files", .list (loaded.map fun loaded => .dict (loaded.fields R)))])]

/-! ## The record -/

/-- `value or os.environ.get(name)`. -/
def Args.given (A : Args) (value : Option String) (name : String) : Option String := (value.filter (· ≠ "")).or (A.environ name)

/-- A value that was collected. -/
def collectedValue (name : String) (value : Option String) : Except String String :=
  orError s!"{name} must be collected before creating machine verification" (value.filter fun s => !isPlaceholder (.str s))

/-- The values that are collected from the arguments and the environment. -/
structure Collected where
  identity : String
  issuer : String
  workflow : String
  source : Expected

def collect (A : Args) : Except String Collected := do
  let identity ← collectedValue "identity" (A.given A.identity "COSIGN_IDENTITY")
  let issuer ← collectedValue "issuer" (some ((A.issuer.filter (· ≠ "")).getD "https://token.actions.githubusercontent.com"))
  let runId ← collectedValue "run_id" (A.given A.runId "GITHUB_RUN_ID")
  let runAttempt ← collectedValue "run_attempt" (A.given A.runAttempt "GITHUB_RUN_ATTEMPT")
  let workflow ← collectedValue "workflow" (A.given A.workflow "GITHUB_WORKFLOW")
  let repository ← collectedValue "repository" (A.given A.repository "GITHUB_REPOSITORY")
  let ref ← collectedValue "ref" (A.given A.ref "GITHUB_REF")
  let sourceSha ← collectedValue "source_sha" (A.given A.sourceSha "GITHUB_SHA")
  .ok ⟨identity, issuer, workflow, repository, ref, runId, runAttempt, sourceSha⟩

def sourceFields (collected : Collected) : Fields :=
  [("repository", .str collected.source.repository), ("workflow", .str collected.workflow), ("run_id", .str collected.source.runId),
    ("run_attempt", .str collected.source.runAttempt), ("ref", .str collected.source.ref), ("source_sha", .str collected.source.sourceSha)]

/-- The fields that every record has. -/
def recordFields (A : Args) (collected : Collected) (log : Bytes) (subjects : List Found) : Fields :=
  [("schema_version", .str schemaVersion), ("name", .str A.check.name), ("status", .str "passed"), ("generated_at", .str (A.now ++ "Z")),
    ("identity", .str collected.identity), ("issuer", .str collected.issuer), ("source", .dict (sourceFields collected)),
    ("log", .dict [("path", .str A.log.name), ("sha256", .str (R.hexdigest log)), ("bytes", .int log.length)]),
    ("subjects", .list (subjects.map fun found => .dict (found.fields R)))]

/-- `create_record`. -/
def createRecord (A : Args) : Except String Fields := do
  let log ← orError s!"machine verification log is missing or empty: {A.log}" ((files A.log).filter (!·.isEmpty))
  let collected ← collect A
  let subjects ← subjectsFor R files A.releaseDir A.check
  let more ← (if A.check = .attestations then attestationFields R files A.attestationJsonDir collected.source subjects else .ok [])
  .ok (recordFields R A collected log subjects ++ more)

/-! ## What the validator asks of the record -/

/-- A name that the validator takes: no placeholder, and the last name of its own path. -/
def IsSafe (name : String) : Prop := isPlaceholder (.str name) = false ∧ (PosixPath.ofString name).name = name

/-- The name on a line of `SHA256SUMS`. -/
def lineName (line : List Char) : Option String := (splitLine line).map fun parts => String.ofList (parts.2.dropWhile (· = '*'))

/-- The names on the lines of `SHA256SUMS`. -/
def sumsNames (dir : Directory) : List String :=
  match (files (dir.path.child "SHA256SUMS")).bind Utf8.decode with
  | some text => (PyText.splitlines (PyText.universalNewlines text.toList)).filterMap lineName
  | none => []

/-- The files that a check covers, by the names that the record gives them. -/
def covered (dir : Directory) : Check → List (String × Bytes)
  | .sha256sums => (sumsNames files dir).filterMap fun name => (files (dir.path.join (PosixPath.ofString name))).map (name, ·)
  | _ => (sortNames (dir.listing.getD [])).filterMap fun name =>
    if startsWith "machine-verification" name || isSidecar name then none else (files (dir.path.child name)).map (name, ·)

/-- A release directory, a log and attestations that the validator has no objection to. -/
structure Clean (A : Args) : Prop where
  log : isPlaceholder (.str A.log.name) = false
  names : ∀ file ∈ covered files A.releaseDir A.check, IsSafe file.1
  contents : ∀ file ∈ covered files A.releaseDir A.check, file.2 ≠ []
  once : ((covered files A.releaseDir A.check).map (·.1)).Nodup
  /-- The statements in an attestation name every subject once. -/
  attested : A.check = .attestations → ∀ dir ∈ A.attestationJsonDir, ∀ name ∈ attestationNames dir, ∀ bytes ∈ files (dir.path.child name),
    ∀ statements, statementsOf R bytes = .ok statements → (statements.flatMap (subjectsFromStatement R)).Nodup

variable {R files}

/-! ## Lists of subjects -/

/-- What the validator compares subjects by. -/
def subjectKey (subject : Subject) : String := subject.1 ++ "@" ++ subject.2

/-- The key of a subject with a digest says which subject it is. -/
theorem subjectKey_inj {a b : Subject} (ha : isHex 64 a.2 = true) (hb : isHex 64 b.2 = true) : subjectKey a = subjectKey b ↔ a = b := by
  refine ⟨fun h => ?_, fun h => h ▸ rfl⟩
  simp only [isHex, Bool.and_eq_true, beq_iff_eq] at ha hb
  have hkey := congrArg String.toList h
  simp only [subjectKey, String.toList_append] at hkey
  obtain ⟨hname, hsha⟩ := List.append_inj' hkey (by rw [ha.1, hb.1])
  exact Prod.ext (String.toList_injective (List.append_cancel_right hname)) (String.toList_injective hsha)

/-- Two ways to name the items of a list that name the same items alike. -/
theorem nodup_map_congr {α β γ : Type} {f : α → β} {g : α → γ} {xs : List α} (h : ∀ x ∈ xs, ∀ y ∈ xs, f x = f y ↔ g x = g y) :
    (xs.map f).Nodup ↔ (xs.map g).Nodup := by
  rw [List.Nodup, List.Nodup, List.pairwise_map, List.pairwise_map]
  exact List.Pairwise.iff_of_mem fun hx hy => not_congr (h _ hx _ hy)

/-- Subjects in a record have no failures where each of them has none and no key is there twice. -/
theorem subjectsFailuresFrom_map {α : Type} {fields : α → Fields} {subject : α → Subject} {path : String}
    (hname : ∀ x, field "name" (fields x) = .str (subject x).1) (hsha : ∀ x, field "sha256" (fields x) = .str (subject x).2)
    (xs : List α) (seen : List String) (idx : Nat) :
    subjectsFailuresFrom R.toPython path seen idx (xs.map fun x => .dict (fields x)) = [] ↔
      (∀ x ∈ xs, IsSafe (subject x).1 ∧ isHex 64 (subject x).2 = true ∧ (lookup "bytes" (fields x)).all (isIntFrom 1) = true) ∧
        (xs.map fun x => subjectKey (subject x)).Nodup ∧ ∀ x ∈ xs, subjectKey (subject x) ∉ seen := by
  induction xs generalizing seen idx with
  | nil => simp [subjectsFailuresFrom]
  | cons x xs ih =>
    rw [List.map_cons, subjectsFailuresFrom]
    by_cases hsafe : IsSafe (subject x).1
    · have hsome : MachineRecord.safeName (fields x) = some (subject x).1 := by
        rw [MachineRecord.safeName, hname]
        exact Option.filter_eq_some_iff.2 ⟨rfl, by simpa [IsSafe] using hsafe⟩
      have hkey : (subject x).1 ++ "@" ++ (Value.str (subject x).2).pyStr R.repr = subjectKey (subject x) := rfl
      rw [List.forall_mem_cons, List.forall_mem_cons]
      simp only [hsome, hsha, hkey, List.append_eq_nil_iff, failUnless_eq_nil, Bool.not_eq_true', List.contains_eq_mem,
        decide_eq_false_iff_not, ih, List.mem_cons, not_or, List.map_cons, List.nodup_cons, List.mem_map, not_exists, not_and, asStr,
        Option.any_some, hsafe, true_and]
      constructor
      · rintro ⟨⟨⟨hseen, hhex⟩, hbytes⟩, hall, hnodup, hnew⟩
        exact ⟨⟨⟨hhex, hbytes⟩, hall⟩, ⟨fun y hy => (hnew y hy).1, hnodup⟩, hseen, fun y hy => (hnew y hy).2⟩
      · rintro ⟨⟨⟨hhex, hbytes⟩, hall⟩, ⟨hne, hnodup⟩, hseen, hnew⟩
        exact ⟨⟨⟨hseen, hhex⟩, hbytes⟩, hall, hnodup, fun y hy => ⟨hne y hy, hnew y hy⟩⟩
    · have hnone : MachineRecord.safeName (fields x) = none := by
        rw [MachineRecord.safeName, hname]
        exact Option.filter_eq_none_iff.2 (by simpa [IsSafe, asStr] using hsafe)
      simp only [hnone]
      exact iff_of_false (List.cons_ne_nil _ _) fun h => hsafe (h.1 x List.mem_cons_self).1

/-- A list of subjects is valid where it has some, each of them is, and none is there twice. -/
theorem validateSubjects_map {α : Type} {fields : α → Fields} (subject : α → Subject) {path : String}
    (hname : ∀ x, field "name" (fields x) = .str (subject x).1) (hsha : ∀ x, field "sha256" (fields x) = .str (subject x).2)
    (xs : List α) :
    validateSubjects R.toPython path (.list (xs.map fun x => .dict (fields x))) = [] ↔
      xs ≠ [] ∧ (∀ x ∈ xs, IsSafe (subject x).1 ∧ isHex 64 (subject x).2 = true ∧ (lookup "bytes" (fields x)).all (isIntFrom 1) = true) ∧
        (xs.map subject).Nodup := by
  cases xs with
  | nil => simp [validateSubjects]
  | cons x xs =>
    rw [List.map_cons, validateSubjects, ← List.map_cons (f := fun x => Value.dict (fields x)), subjectsFailuresFrom_map hname hsha]
    simp only [List.not_mem_nil, not_false_eq_true, implies_true, and_true, ne_eq, reduceCtorEq, true_and]
    refine and_congr_right fun hall => nodup_map_congr fun y hy z hz => subjectKey_inj (hall y hy).2.1 (hall z hz).2.1

/-- The subjects of a record: the validator takes them where their names are safe, their files not empty and no name is there twice. -/
theorem validateSubjects_found (hsha : ∀ bytes, (R.sha256 bytes).length = 32) {path : String} {found : List Found}
    (hsame : ∀ a ∈ found, ∀ b ∈ found, a.name = b.name → a.bytes = b.bytes) :
    validateSubjects R.toPython path (.list (found.map fun f => .dict (f.fields R))) = [] ↔
      found ≠ [] ∧ (∀ f ∈ found, IsSafe f.name ∧ f.bytes ≠ []) ∧ (found.map (·.name)).Nodup := by
  have hfield : ∀ f : Found, field "name" (f.fields R) = .str f.name ∧ field "sha256" (f.fields R) = .str (f.sha256 R) ∧
      lookup "bytes" (f.fields R) = some (.int f.bytes.length) := by
    rintro ⟨name, bytes, _ | sidecars⟩ <;> exact ⟨rfl, rfl, rfl⟩
  have hbytes : ∀ f : Found, (lookup "bytes" (f.fields R)).all (isIntFrom 1) = true ↔ f.bytes ≠ [] := fun f => by
    rw [(hfield f).2.2]
    cases f.bytes with
    | nil => simp [isIntFrom, asInt]
    | cons b bs => simp [isIntFrom, asInt]
  rw [validateSubjects_map (fun f : Found => (f.name, f.sha256 R)) (fun f => (hfield f).1) (fun f => (hfield f).2.1)]
  refine and_congr_right fun _ => and_congr ?_ ?_
  · refine forall₂_congr fun f _ => and_congr_right fun _ => ?_
    rw [hbytes, and_iff_right]
    exact Python.isHex_hexdigest (hsha _)
  · refine nodup_map_congr fun a ha b hb => ⟨fun h => (Prod.mk.inj h).1, fun h => ?_⟩
    rw [Found.sha256, Found.sha256, h, hsame a ha b hb h]

theorem perm_sortIdentities (subjects : List Subject) : (sortIdentities subjects).Perm subjects := List.perm_insertionSort _ _

/-- The subjects of an attestation are valid where each of them is and none is there twice. -/
theorem validateSubjects_minimal {path : String} {subjects : List Subject} :
    validateSubjects R.toPython path (minimalSubjects subjects) = [] ↔
      subjects ≠ [] ∧ (∀ subject ∈ subjects, IsSafe subject.1 ∧ isHex 64 subject.2 = true) ∧ subjects.Nodup := by
  have hperm := perm_sortIdentities subjects
  rw [minimalSubjects, validateSubjects_map id (fun _ => rfl) (fun _ => rfl), List.map_id, hperm.nodup_iff]
  refine and_congr (not_congr ?_) (and_congr_left fun _ => ?_)
  · rw [← List.length_eq_zero_iff, hperm.length_eq, List.length_eq_zero_iff]
  · exact ⟨fun h x hx => ⟨(h x (hperm.mem_iff.2 hx)).1, (h x (hperm.mem_iff.2 hx)).2.1⟩,
      fun h x hx => ⟨(h x (hperm.mem_iff.1 hx)).1, (h x (hperm.mem_iff.1 hx)).2, rfl⟩⟩

/-! ## The files that are covered -/

/-- A name and its file under the name itself. -/
theorem lineFile_ok {dir : Directory} {line : List Char} {found : Found} (h : lineFile R files dir line = .ok found) :
    lineName line = some found.name ∧ files (dir.path.join (PosixPath.ofString found.name)) = some found.bytes := by
  obtain ⟨parts, hparts, h⟩ := orError_bind_ok_iff.1 h
  obtain ⟨bytes, hbytes, h⟩ := orError_bind_ok_iff.1 h
  obtain ⟨-, h⟩ := guardError_bind_ok_iff.1 h
  obtain rfl := Except.ok.inj h
  exact ⟨by rw [lineName, hparts]; rfl, hbytes⟩

/-- Lines that were all read give the names and the files that the lines name. -/
theorem filterMap_lines {dir : Directory} {lines : List (List Char)} {found : List Found} (h : lines.mapM (lineFile R files dir) = .ok found) :
    (lines.filterMap lineName).filterMap (fun name => (files (dir.path.join (PosixPath.ofString name))).map (name, ·)) =
      found.map fun f => (f.name, f.bytes) := by
  have hlines := mapM_ok_iff.1 h
  clear h
  induction hlines with
  | nil => rfl
  | cons hline _ ih =>
    obtain ⟨hname, hfile⟩ := lineFile_ok hline
    rw [List.filterMap_cons_some hname, List.filterMap_cons_some (by rw [hfile]; rfl), ih, List.map_cons]

theorem releaseFiles_eq {dir : Directory} {found : List (String × Bytes)} (h : releaseFiles files dir = .ok found) {check : Check}
    (hcheck : check ≠ .sha256sums) : covered files dir check = found := by
  obtain ⟨names, hnames, h⟩ := orError_bind_ok_iff.1 h
  obtain rfl := Except.ok.inj h
  cases check with
  | sha256sums => exact absurd rfl hcheck
  | _ => simp only [covered, hnames, Option.getD_some]

theorem signedFile_ok {dir : Directory} {file : String × Bytes} {found : Found} (h : signedFile files dir file = .ok found) :
    (found.name, found.bytes) = file := by
  obtain ⟨-, h⟩ := guardError_bind_ok_iff.1 h
  obtain ⟨-, h⟩ := guardError_bind_ok_iff.1 h
  obtain rfl := Except.ok.inj h
  rfl

theorem map_signedFiles {dir : Directory} {released : List (String × Bytes)} {found : List Found}
    (h : List.Forall₂ (fun file f => signedFile files dir file = .ok f) released found) :
    released = found.map fun f => (f.name, f.bytes) := by
  induction h with
  | nil => rfl
  | cons hfile _ ih => rw [List.map_cons, signedFile_ok hfile, ← ih]

/-- The subjects of a record are the files that its check covers, and there are some. -/
theorem subjectsFor_ok {dir : Directory} {check : Check} {found : List Found} (h : subjectsFor R files dir check = .ok found) :
    covered files dir check = found.map (fun f => (f.name, f.bytes)) ∧ found ≠ [] := by
  cases check with
  | sha256sums =>
    obtain ⟨bytes, hbytes, h⟩ := orError_bind_ok_iff.1 h
    obtain ⟨text, htext, h⟩ := orError_bind_ok_iff.1 h
    obtain ⟨lines, hlines, h⟩ := bind_ok_iff.1 h
    obtain ⟨hne, h⟩ := guardError_bind_ok_iff.1 h
    obtain rfl := Except.ok.inj h
    refine ⟨?_, by simpa using hne⟩
    rw [covered, sumsNames, hbytes, Option.bind_some, htext]
    exact filterMap_lines hlines
  | cosign =>
    obtain ⟨released, hreleased, h⟩ := bind_ok_iff.1 h
    obtain ⟨signed, hsigned, h⟩ := bind_ok_iff.1 h
    obtain ⟨hne, h⟩ := guardError_bind_ok_iff.1 h
    obtain rfl := Except.ok.inj h
    refine ⟨?_, by simpa using hne⟩
    rw [releaseFiles_eq hreleased (by decide)]
    exact map_signedFiles (mapM_ok_iff.1 hsigned)
  | attestations =>
    obtain ⟨released, hreleased, h⟩ := bind_ok_iff.1 h
    obtain ⟨hne, h⟩ := guardError_bind_ok_iff.1 h
    obtain rfl := Except.ok.inj h
    rw [releaseFiles_eq hreleased (by decide)]
    refine ⟨?_, by simpa using hne⟩
    rw [List.map_map]
    exact (List.map_id released).symm

/-- A name stands for one file. -/
theorem bytes_of_name {dir : Directory} {check : Check} {found : List Found} (h : subjectsFor R files dir check = .ok found) :
    ∀ a ∈ found, ∀ b ∈ found, a.name = b.name → a.bytes = b.bytes := by
  have hfile : ∃ path : String → PosixPath, ∀ f ∈ found, files (path f.name) = some f.bytes := by
    have hcovered : ∀ f ∈ found, (f.name, f.bytes) ∈ covered files dir check := fun f hf => by
      rw [(subjectsFor_ok h).1]
      exact List.mem_map_of_mem (f := fun f : Found => (f.name, f.bytes)) hf
    cases check with
    | sha256sums =>
      refine ⟨fun name => dir.path.join (PosixPath.ofString name), fun f hf => ?_⟩
      obtain ⟨name, -, hname⟩ := List.mem_filterMap.1 (hcovered f hf)
      obtain ⟨bytes, hbytes, heq⟩ := Option.map_eq_some_iff.1 hname
      cases heq
      exact hbytes
    | _ =>
      refine ⟨fun name => dir.path.child name, fun f hf => ?_⟩
      obtain ⟨name, -, hname⟩ := List.mem_filterMap.1 (hcovered f hf)
      split at hname
      · cases hname
      · obtain ⟨bytes, hbytes, heq⟩ := Option.map_eq_some_iff.1 hname
        cases heq
        exact hbytes
  obtain ⟨path, hpath⟩ := hfile
  intro a ha b hb hname
  exact Option.some.inj ((hpath a ha).symm.trans (by rw [hname]; exact hpath b hb))

/-! ## Texts that are no placeholders -/

/-- A text that ends in a character which is no space keeps it. -/
theorem getLast?_strip {cs : List Char} {c : Char} (h : cs.getLast? = some c) (hc : PyText.isSpace c = false) :
    (PyText.strip cs).getLast? = some c := by
  obtain ⟨init, rfl⟩ := List.getLast?_eq_some_iff.1 h
  have hdrop : ∃ kept, (init ++ [c]).dropWhile PyText.isSpace = kept ++ [c] := by
    rw [List.dropWhile_append]
    split
    · exact ⟨[], by rw [List.dropWhile_cons_of_neg (by simp [hc])]; rfl⟩
    · exact ⟨_, rfl⟩
  obtain ⟨kept, hkept⟩ := hdrop
  rw [PyText.strip, Text.trimMatches, hkept, List.reverse_append, List.reverse_singleton, List.singleton_append,
    List.dropWhile_cons_of_neg (by simp [hc]), List.reverse_cons, List.getLast?_concat]

/-- A text is no placeholder if it ends in a character that neither is a space nor ends one of the placeholders. -/
theorem isPlaceholder_of_getLast? {s : String} {c : Char} (h : s.toList.getLast? = some c) (hspace : PyText.isSpace c = false)
    (hc : some c ∉ placeholders.map fun word => word.toList.getLast?) : isPlaceholder (.str s) = false := by
  rw [Attestation.isPlaceholder, Evidence.isPlaceholder, List.contains_eq_mem, decide_eq_false_iff_not]
  intro hmem
  refine hc (List.mem_map.2 ⟨_, hmem, ?_⟩)
  rw [String.toList_ofList, getLast?_strip h hspace]

theorem isPlaceholder_now (now : String) : isPlaceholder (.str (now ++ "Z")) = false := by
  refine isPlaceholder_of_getLast? (c := 'Z') ?_ (by decide) (by decide)
  rw [String.toList_append]
  exact List.getLast?_concat

theorem isPlaceholder_json {name : String} (h : endsWith ".json" name = true) : isPlaceholder (.str name) = false := by
  obtain ⟨start, hstart⟩ := List.isSuffixOf_iff_suffix.1 h
  refine isPlaceholder_of_getLast? (c := 'n') ?_ (by decide) (by decide)
  rw [← hstart, show ".json".toList = ['.', 'j', 's', 'o'] ++ ['n'] from rfl, ← List.append_assoc]
  exact List.getLast?_concat

/-- A digest is no placeholder: it is longer than all of them. -/
theorem isPlaceholder_hexdigest {bytes : Bytes} (h : (R.sha256 bytes).length = 32) : isPlaceholder (.str (R.hexdigest bytes)) = false := by
  have hex : isHex 64 (R.hexdigest bytes) = true := Python.isHex_hexdigest h
  simp only [isHex, Bool.and_eq_true, beq_iff_eq, List.all_eq_true] at hex
  have hspace : ∀ d < 16, PyText.isSpace (Nat.digitChar d) = false := by decide
  have hstrip : PyText.strip (R.hexdigest bytes).toList = (R.hexdigest bytes).toList := PyText.trimMatches_eq fun c hc => by
    rw [Python.hexdigest, String.toList_ofList] at hc
    obtain ⟨d, hd, rfl⟩ := Hex.mem_encode hc
    exact hspace d hd
  have hshort : ∀ word ∈ placeholders, word.toList.length ≠ 64 := by decide
  rw [Attestation.isPlaceholder, Evidence.isPlaceholder, hstrip, String.ofList_toList, List.contains_eq_mem, decide_eq_false_iff_not]
  exact fun hmem => hshort _ hmem hex.1

/-! ## The material of the attestations -/

/-- Values that were collected. -/
structure Collected.Given (collected : Collected) : Prop where
  identity : isPlaceholder (.str collected.identity) = false
  issuer : isPlaceholder (.str collected.issuer) = false
  workflow : isPlaceholder (.str collected.workflow) = false
  source : ∀ value ∈ collected.source.values, isPlaceholder (.str value) = false

theorem collectedValue_ok {name value : String} {given : Option String} (h : collectedValue name given = .ok value) :
    isPlaceholder (.str value) = false := by
  have := (Option.filter_eq_some_iff.1 (orError_ok_iff.1 h)).2
  simpa using this

theorem collect_ok {A : Args} {collected : Collected} (h : collect A = .ok collected) : collected.Given := by
  obtain ⟨identity, hidentity, h⟩ := bind_ok_iff.1 h
  obtain ⟨issuer, hissuer, h⟩ := bind_ok_iff.1 h
  obtain ⟨runId, hrun, h⟩ := bind_ok_iff.1 h
  obtain ⟨runAttempt, hattempt, h⟩ := bind_ok_iff.1 h
  obtain ⟨workflow, hworkflow, h⟩ := bind_ok_iff.1 h
  obtain ⟨repository, hrepository, h⟩ := bind_ok_iff.1 h
  obtain ⟨ref, href, h⟩ := bind_ok_iff.1 h
  obtain ⟨sourceSha, hsha, h⟩ := bind_ok_iff.1 h
  obtain rfl := Except.ok.inj h
  refine ⟨collectedValue_ok hidentity, collectedValue_ok hissuer, collectedValue_ok hworkflow, ?_⟩
  simp only [Expected.values, List.forall_mem_cons, List.not_mem_nil, false_implies, implies_true, and_true]
  exact ⟨collectedValue_ok hrepository, collectedValue_ok href, collectedValue_ok hrun, collectedValue_ok hattempt, collectedValue_ok hsha⟩

/-- The provenance that was accepted as that of the collected values passes the validator. -/
theorem provenanceFailures_accepted {collected : Collected} (hgiven : collected.Given) {statement : Fields} {provenance : Provenance}
    (h : provenanceContext R statement collected.source = .ok (provenance, [])) (path : String) :
    provenanceFailures R.toPython (some (sourceFields collected)) path (.dict (provenanceFields provenance)) = .ok [] := by
  have hcomplete := (accepts_iff.1 ⟨provenance, h⟩).1
  obtain ⟨-, h⟩ := guardError_bind_ok_iff.1 h
  obtain ⟨rfl, -⟩ := Prod.mk.inj (Except.ok.inj h)
  obtain ⟨id, hid, hbuilder⟩ : ∃ id, firstBuilderId statement = some id ∧ isPlaceholder (.str id) = false := by
    have hany := hcomplete.builder
    cases hid : firstBuilderId statement with
    | none => rw [hid] at hany; cases hany
    | some id => exact ⟨id, rfl, by simpa [hid] using hany⟩
  have hsource := hgiven.source
  simp only [Expected.values, List.forall_mem_cons, List.not_mem_nil, false_implies, implies_true, and_true] at hsource
  obtain ⟨hrepository, href, hrun, hattempt, hsha⟩ := hsource
  have hmaterials : (field "materials" (provenanceFields ⟨field "predicateType" statement, firstBuilderId statement, collected.source,
      collectMaterials R statement⟩)).asList.any (!·.isEmpty) = true := by
    change (some ((collectMaterials R statement).map dict)).any (!·.isEmpty) = true
    simpa using hcomplete.materials
  rw [hid] at hmaterials ⊢
  refine guardError_bind_ok_iff.2 ⟨?_, ?_⟩
  · change (field "predicateType" statement).isHashable = true
    rw [hcomplete.predicateType]
    rfl
  simp only [Except.ok.injEq, List.append_eq_nil_iff, failUnless_eq_nil, Option.toList_some, List.flatMap_singleton,
    MachineRecord.collected, List.flatMap_eq_nil_iff, Bool.not_eq_true']
  refine ⟨⟨⟨?_, ?_⟩, hmaterials⟩, ?_⟩
  · change (field "predicateType" statement).isIn _ = true
    rw [hcomplete.predicateType]
    decide
  · simp only [List.forall_mem_cons, List.not_mem_nil, false_implies, implies_true, and_true]
    exact ⟨hbuilder, hrepository, href, hrun, hattempt, hsha⟩
  · have hsame : ∀ v w : Value, v = w → (w.pyEq .null || decide (v.pyStr R.repr = w.pyStr R.repr)) = true := by
      rintro v _ rfl
      simp
    simp only [MachineRecord.sourceFields, List.forall_mem_cons, List.not_mem_nil, false_implies, implies_true, and_true]
    exact ⟨hsame _ _ rfl, hsame _ _ rfl, hsame _ _ rfl, hsame _ _ rfl, hsame _ _ rfl⟩

/-- A statement in an attestation that was read: its subjects, and a provenance if it has some. -/
theorem statementContext_ok {path : PosixPath} {expected : Expected} {statement : Fields} {context : List Subject × List Provenance}
    (h : statementContext R path expected statement = .ok context) :
    context.1 = subjectsFromStatement R statement ∧ (context.1 ≠ [] → context.2 ≠ []) ∧
      ∀ provenance ∈ context.2, ∃ statement, provenanceContext R statement expected = .ok (provenance, []) := by
  unfold statementContext at h
  split at h
  · next hnone =>
    obtain rfl := Except.ok.inj h
    exact ⟨hnone.symm, fun hne => absurd rfl hne, List.forall_mem_nil _⟩
  · obtain ⟨⟨provenance, failures⟩, hcontext, h⟩ := bind_ok_iff.1 h
    obtain ⟨hnil, h⟩ := guardError_bind_ok_iff.1 h
    obtain rfl := Except.ok.inj h
    obtain rfl : failures = [] := by simpa using hnil
    exact ⟨rfl, fun _ => List.cons_ne_nil _ _, List.forall_mem_singleton.2 ⟨statement, hcontext⟩⟩

theorem flatMap_contexts {path : PosixPath} {expected : Expected} {statements : List Fields}
    {contexts : List (List Subject × List Provenance)}
    (h : List.Forall₂ (fun statement context => statementContext R path expected statement = .ok context) statements contexts) :
    contexts.flatMap (·.1) = statements.flatMap (subjectsFromStatement R) := by
  induction h with
  | nil => rfl
  | cons hcontext _ ih => rw [List.flatMap_cons, List.flatMap_cons, (statementContext_ok hcontext).1, ih]

/-- What was read of an attestation. -/
structure LoadedFrom (R : Reader) (expected : Expected) (bytes : Bytes) (loaded : Loaded) : Prop where
  bytes_eq : loaded.bytes = bytes
  nonempty : bytes ≠ []
  subjects : ∃ statements, statementsOf R bytes = .ok statements ∧ loaded.subjects = statements.flatMap (subjectsFromStatement R)
  some_subjects : loaded.subjects ≠ []
  some_provenance : loaded.provenance ≠ []
  provenance : ∀ provenance ∈ loaded.provenance, ∃ statement, provenanceContext R statement expected = .ok (provenance, [])

theorem loadAttestation_ok {expected : Expected} {path : PosixPath} {loaded : Loaded}
    (h : loadAttestation R files expected path = .ok loaded) :
    loaded.name = path.name ∧ ∃ bytes, files path = some bytes ∧ LoadedFrom R expected bytes loaded := by
  obtain ⟨bytes, hbytes, h⟩ := orError_bind_ok_iff.1 h
  obtain ⟨hfile, hne⟩ := Option.filter_eq_some_iff.1 hbytes
  obtain ⟨statements, hstatements, h⟩ := bind_ok_iff.1 h
  obtain ⟨contexts, hcontexts, h⟩ := bind_ok_iff.1 h
  obtain ⟨hsome, h⟩ := guardError_bind_ok_iff.1 h
  obtain rfl := Except.ok.inj h
  have hcontext : ∀ context ∈ contexts, ∃ statement, statementContext R path expected statement = .ok context := fun context hmem =>
    (mapM_ok_right hcontexts context hmem).imp fun _ h => h.2
  refine ⟨rfl, bytes, hfile, rfl, by simpa using hne, ⟨statements, hstatements, flatMap_contexts (mapM_ok_iff.1 hcontexts)⟩,
    by simpa using hsome, fun hnone => ?_, ?_⟩
  · have hnil : contexts.flatMap (·.1) = [] := List.flatMap_eq_nil_iff.2 fun context hmem => by
      obtain ⟨statement, hstatement⟩ := hcontext context hmem
      by_contra hne
      exact (statementContext_ok hstatement).2.1 hne (List.flatMap_eq_nil_iff.1 hnone context hmem)
    exact absurd hnil (by simpa using hsome)
  · intro provenance hmem
    obtain ⟨context, hcontextMem, hprovenance⟩ := List.mem_flatMap.1 hmem
    obtain ⟨statement, hstatement⟩ := hcontext context hcontextMem
    exact (statementContext_ok hstatement).2.2 provenance hprovenance

/-- Steps whose findings are known, one by one, find something where one of them does. -/
theorem exists_mapM_flatten {ε α β : Type} {f : α → Except ε (List β)} {P : α → Prop} (xs : List α)
    (h : ∀ x ∈ xs, ∃ ys, f x = .ok ys ∧ (ys = [] ↔ P x)) : ∃ yss, xs.mapM f = .ok yss ∧ (yss.flatten = [] ↔ ∀ x ∈ xs, P x) := by
  induction xs with
  | nil => exact ⟨[], rfl, by simp⟩
  | cons x xs ih =>
    rw [List.forall_mem_cons] at h
    obtain ⟨ys, hys, hx⟩ := h.1
    obtain ⟨yss, hyss, hxs⟩ := ih h.2
    refine ⟨ys :: yss, ?_, by rw [List.flatten_cons, List.append_eq_nil_iff, hx, hxs, List.forall_mem_cons]⟩
    rw [List.mapM_cons, hys, ok_bind, hyss]
    rfl

theorem provenancesFailures_loaded {collected : Collected} (hgiven : collected.Given) {bytes : Bytes} {loaded : Loaded}
    (h : LoadedFrom R collected.source bytes loaded) (path : String) :
    provenancesFailures R.toPython (some (sourceFields collected)) path
      (.list (loaded.provenance.map fun p => .dict (provenanceFields p))) = .ok [] := by
  have hprovenance := h.provenance
  obtain ⟨first, rest, heq⟩ := List.exists_cons_of_ne_nil h.some_provenance
  rw [heq] at hprovenance ⊢
  rw [List.map_cons, provenancesFailures, ← List.map_cons (f := fun p => Value.dict (provenanceFields p))]
  obtain ⟨failures, hfailures, hnil⟩ : ∃ failures, ((first :: rest).map fun p => Value.dict (provenanceFields p)).zipIdx.mapM
      (fun p => provenanceFailures R.toPython (some (sourceFields collected)) s!"{path}.provenance[{p.2}]" p.1) = .ok failures ∧
        failures.flatten = [] := exists_mapM_flatten_nil fun p hp => by
      obtain ⟨provenance, hmem, hp⟩ := List.mem_map.1 (List.fst_mem_of_mem_zipIdx hp)
      obtain ⟨statement, hstatement⟩ := hprovenance provenance hmem
      rw [← hp]
      exact provenanceFailures_accepted hgiven hstatement _
  rw [hfailures, ok_bind, hnil]

/-- The failures of a file of the material are those of its subjects. -/
theorem materialFailures_loaded (hsha : ∀ bytes, (R.sha256 bytes).length = 32) {collected : Collected} (hgiven : collected.Given)
    {bytes : Bytes} {loaded : Loaded} (h : LoadedFrom R collected.source bytes loaded) (hname : isPlaceholder (.str loaded.name) = false)
    (path : String) :
    materialFailures R.toPython true (some (sourceFields collected)) path (.dict (loaded.fields R)) =
      .ok (validateSubjects R.toPython s!"{path}.subjects" (minimalSubjects loaded.subjects)) := by
  have hprovenance : provenancesFailures R.toPython (some (sourceFields collected)) path (field "provenance" (loaded.fields R)) = .ok [] :=
    provenancesFailures_loaded hgiven h path
  have hcollected : MachineRecord.collected s!"{path}." ["path", "sha256"] (loaded.fields R) = [] := by
    simp only [MachineRecord.collected, List.flatMap_eq_nil_iff, failUnless_eq_nil, Bool.not_eq_true', List.forall_mem_cons,
      List.not_mem_nil, false_implies, implies_true, and_true]
    exact ⟨hname, isPlaceholder_hexdigest (hsha _)⟩
  have hbytes : isIntFrom 1 (field "bytes" (loaded.fields R)) = true := by
    change isIntFrom 1 (.int loaded.bytes.length) = true
    have := List.length_pos_of_ne_nil (h.bytes_eq ▸ h.nonempty)
    simp only [isIntFrom, asInt, Option.any_some, decide_eq_true_eq]
    omega
  rw [materialFailures, if_pos rfl, hprovenance, ok_bind, hcollected, failUnless_eq_nil.2 hbytes, List.append_nil, List.nil_append]
  rfl

/-- The material of a record has failures exactly where a file names a subject twice. -/
theorem filesFailures_loaded (hsha : ∀ bytes, (R.sha256 bytes).length = 32) {collected : Collected} (hgiven : collected.Given)
    {loaded : List Loaded} (hne : loaded ≠ []) (hloaded : ∀ l ∈ loaded, (∃ bytes, LoadedFrom R collected.source bytes l) ∧
      isPlaceholder (.str l.name) = false ∧ ∀ subject ∈ l.subjects, IsSafe subject.1 ∧ isHex 64 subject.2 = true) :
    ∃ failures, filesFailures R.toPython true (some (sourceFields collected)) (.list (loaded.map fun l => .dict (l.fields R))) = .ok failures ∧
      (failures = [] ↔ ∀ l ∈ loaded, l.subjects.Nodup) := by
  obtain ⟨first, rest, rfl⟩ := List.exists_cons_of_ne_nil hne
  rw [List.map_cons, filesFailures, ← List.map_cons (f := fun l => Value.dict (Loaded.fields R l)), List.zipIdx_map, List.mapM_map]
  obtain ⟨failures, hfailures, hnil⟩ := exists_mapM_flatten (first :: rest).zipIdx (P := fun p => p.1.subjects.Nodup)
    (f := fun p => materialFailures R.toPython true (some (sourceFields collected)) s!"verification_material.files[{p.2}]"
      (.dict (p.1.fields R))) fun p hp => by
      obtain ⟨⟨bytes, hbytes⟩, hname, hsubjects⟩ := hloaded p.1 (List.fst_mem_of_mem_zipIdx hp)
      refine ⟨_, materialFailures_loaded hsha hgiven hbytes hname _, ?_⟩
      rw [validateSubjects_minimal]
      exact ⟨fun h => h.2.2, fun h => ⟨hbytes.some_subjects, hsubjects, h⟩⟩
  refine ⟨failures.flatten, ?_, hnil.trans ⟨fun h l hl => ?_, fun h p hp => h p.1 (List.fst_mem_of_mem_zipIdx hp)⟩⟩
  · exact bind_ok_iff.2 ⟨_, hfailures, rfl⟩
  · obtain ⟨i, hi⟩ := exists_mem_zipIdx hl
    exact h _ hi

/-! ## The record of the attestations -/

theorem mapM_subjectIdentity {α : Type} (fields : α → Fields) (subject : α → Subject)
    (hname : ∀ x, lookup "name" (fields x) = some (.str (subject x).1)) (hsha : ∀ x, lookup "sha256" (fields x) = some (.str (subject x).2))
    (xs : List α) : (xs.map fun x => Value.dict (fields x)).mapM (subjectIdentity R.toPython) = .ok (xs.map subject) := by
  rw [mapM_ok_iff, List.forall₂_map_left_iff, List.forall₂_map_right_iff, List.forall₂_same]
  intro x _
  rw [subjectIdentity, asDict, orError_some, ok_bind, hname, orError_some, ok_bind, hsha]
  rfl

/-- The attestations that were read, and that their subjects are those of the record. -/
structure ReadAll (R : Reader) (files : Files) (expected : Expected) (subjects : List Found) (dir : Directory) (loaded : List Loaded) :
    Prop where
  some_names : attestationNames dir ≠ []
  each : List.Forall₂ (fun name l => loadAttestation R files expected (dir.path.child name) = .ok l) (attestationNames dir) loaded
  verified : ∀ subject, subject ∈ subjects.map (fun f => (f.name, f.sha256 R)) ↔ subject ∈ loaded.flatMap (·.subjects)

theorem mem_sortSubjects {subjects : List Subject} {subject : Subject} : subject ∈ sortSubjects subjects ↔ subject ∈ subjects := by
  rw [sortSubjects, List.mem_insertionSort, List.mem_dedup]

theorem nodup_sortSubjects (subjects : List Subject) : (sortSubjects subjects).Nodup :=
  (List.perm_insertionSort _ _).nodup_iff.2 subjects.nodup_dedup

theorem attestationFields_ok {dir : Option Directory} {expected : Expected} {subjects : List Found} {more : Fields}
    (h : attestationFields R files dir expected subjects = .ok more) :
    ∃ d loaded, dir = some d ∧ ReadAll R files expected subjects d loaded ∧
      more = [("verified_subjects", minimalSubjects (sortSubjects (loaded.flatMap (·.subjects)))),
        ("verification_material", .dict [("kind", .str "github-artifact-attestation-dsse"),
          ("files", .list (loaded.map fun l => .dict (l.fields R)))])] := by
  obtain ⟨d, rfl, h⟩ := orError_bind_ok_iff.1 h
  obtain ⟨hnames, h⟩ := guardError_bind_ok_iff.1 h
  obtain ⟨loaded, hloaded, h⟩ := bind_ok_iff.1 h
  obtain ⟨hsame, h⟩ := guardError_bind_ok_iff.1 h
  simp only [Bool.and_eq_true, List.all_eq_true, List.contains_eq_mem, decide_eq_true_eq] at hsame
  exact ⟨d, loaded, rfl, ⟨by simpa using hnames, mapM_ok_iff.1 hloaded, fun subject =>
    ⟨fun hmem => mem_sortSubjects.1 (hsame.1 subject hmem), fun hmem => hsame.2 subject (mem_sortSubjects.2 hmem)⟩⟩,
    (Except.ok.inj h).symm⟩

/-- Every file of the material was read from an attestation of the directory. -/
theorem ReadAll.exists_loaded {expected : Expected} {subjects : List Found} {dir : Directory} {loaded : List Loaded}
    (h : ReadAll R files expected subjects dir loaded) : ∀ l ∈ loaded, isPlaceholder (.str l.name) = false ∧
      ∃ name ∈ attestationNames dir, ∃ bytes, files (dir.path.child name) = some bytes ∧ LoadedFrom R expected bytes l := by
  intro l hl
  obtain ⟨name, hname, hload⟩ := mapM_ok_right (mapM_ok_iff.2 h.each) l hl
  obtain ⟨hchild, bytes, hbytes, hfrom⟩ := loadAttestation_ok hload
  refine ⟨?_, name, hname, bytes, hbytes, hfrom⟩
  have hjson := (List.mem_filter.1 (mem_sortNames.1 hname)).2
  rw [hchild]
  simpa [PosixPath.name, PosixPath.child] using isPlaceholder_json hjson

/-- The files of the material name every subject once where the attestations do. -/
theorem ReadAll.nodup_iff {expected : Expected} {subjects : List Found} {dir : Directory} {loaded : List Loaded}
    (h : ReadAll R files expected subjects dir loaded) :
    (∀ l ∈ loaded, l.subjects.Nodup) ↔ ∀ name ∈ attestationNames dir, ∀ bytes ∈ files (dir.path.child name),
      ∀ statements, statementsOf R bytes = .ok statements → (statements.flatMap (subjectsFromStatement R)).Nodup := by
  constructor
  · intro hall name hname bytes hbytes statements hstatements
    obtain ⟨l, hl, hload⟩ := mapM_ok_left (mapM_ok_iff.2 h.each) name hname
    obtain ⟨-, bytes', hbytes', hfrom⟩ := loadAttestation_ok hload
    obtain rfl : bytes' = bytes := Option.some.inj (hbytes'.symm.trans hbytes)
    obtain ⟨statements', hstatements', hsubjects⟩ := hfrom.subjects
    obtain rfl : statements' = statements := Except.ok.inj (hstatements'.symm.trans hstatements)
    exact hsubjects ▸ hall l hl
  · intro hall l hl
    obtain ⟨-, name, hname, bytes, hbytes, hfrom⟩ := h.exists_loaded l hl
    obtain ⟨statements, hstatements, hsubjects⟩ := hfrom.subjects
    exact hsubjects ▸ hall name hname bytes hbytes statements hstatements

/-- A record whose subjects are verified has failures exactly where an attestation names a subject twice. -/
theorem attestationFailures_created (hsha : ∀ bytes, (R.sha256 bytes).length = 32) {A : Args} {collected : Collected}
    (hgiven : collected.Given) (log : Bytes) {subjects : List Found} (hsafe : ∀ f ∈ subjects, IsSafe f.name) {dir : Directory}
    {loaded : List Loaded} (h : ReadAll R files collected.source subjects dir loaded) :
    ∃ failures, attestationFailures R.toPython true (recordFields R A collected log subjects ++
      [("verified_subjects", minimalSubjects (sortSubjects (loaded.flatMap (·.subjects)))),
        ("verification_material", .dict [("kind", .str "github-artifact-attestation-dsse"),
          ("files", .list (loaded.map fun l => .dict (l.fields R)))])]) = .ok failures ∧
      (failures = [] ↔ ∀ l ∈ loaded, l.subjects.Nodup) := by
  have hsubject : ∀ subject ∈ loaded.flatMap (·.subjects), IsSafe subject.1 ∧ isHex 64 subject.2 = true := by
    intro subject hmem
    obtain ⟨f, hf, rfl⟩ := List.mem_map.1 ((h.verified subject).2 hmem)
    exact ⟨hsafe f hf, Python.isHex_hexdigest (hsha _)⟩
  have hloadedNe : loaded ≠ [] := by
    rintro rfl
    exact h.some_names (List.forall₂_nil_right_iff.1 h.each)
  have hsome : sortSubjects (loaded.flatMap (·.subjects)) ≠ [] := by
    obtain ⟨first, hfirst⟩ := List.exists_mem_of_ne_nil _ hloadedNe
    obtain ⟨-, -, -, bytes, -, hfrom⟩ := h.exists_loaded first hfirst
    obtain ⟨subject, hmem⟩ := List.exists_mem_of_ne_nil _ hfrom.some_subjects
    exact List.ne_nil_of_mem (mem_sortSubjects.2 (List.mem_flatMap.2 ⟨first, hfirst, hmem⟩))
  have hlist : validateSubjects R.toPython "verified_subjects" (minimalSubjects (sortSubjects (loaded.flatMap (·.subjects)))) = [] :=
    validateSubjects_minimal.2 ⟨hsome, fun subject hmem => hsubject subject (mem_sortSubjects.1 hmem), nodup_sortSubjects _⟩
  have hverified : verifiedFailures R.toPython (.list (subjects.map fun f => .dict (f.fields R)))
      (minimalSubjects (sortSubjects (loaded.flatMap (·.subjects)))) = .ok [] := by
    have hexpected := mapM_subjectIdentity (R := R) (fun f => f.fields R) (fun f : Found => (f.name, f.sha256 R))
      (by rintro ⟨name, bytes, _ | sidecars⟩ <;> rfl) (by rintro ⟨name, bytes, _ | sidecars⟩ <;> rfl) subjects
    have hactual := mapM_subjectIdentity (R := R) (fun s : Subject => [("name", .str s.1), ("sha256", .str s.2)]) id
      (fun _ => rfl) (fun _ => rfl) (sortIdentities (sortSubjects (loaded.flatMap (·.subjects))))
    rw [minimalSubjects, verifiedFailures, hexpected, ok_bind, hactual, ok_bind, Except.ok.injEq, failUnless_eq_nil, List.map_id]
    have hmem : ∀ subject, subject ∈ subjects.map (fun f => (f.name, f.sha256 R)) ↔
        subject ∈ sortIdentities (sortSubjects (loaded.flatMap (·.subjects))) := fun subject => by
      rw [(perm_sortIdentities _).mem_iff, mem_sortSubjects, h.verified]
    simp only [Bool.and_eq_true, List.all_eq_true, List.contains_eq_mem, decide_eq_true_eq]
    exact ⟨fun subject => (hmem subject).1, fun subject => (hmem subject).2⟩
  obtain ⟨failures, hfailures, hnil⟩ := filesFailures_loaded hsha hgiven hloadedNe fun l hl => by
    obtain ⟨hname, -, -, bytes, -, hfrom⟩ := h.exists_loaded l hl
    exact ⟨⟨bytes, hfrom⟩, hname, fun subject hmem => hsubject subject (List.mem_flatMap.2 ⟨l, hl, hmem⟩)⟩
  refine ⟨failures, ?_, hnil⟩
  refine bind_ok_iff.2 ⟨[], hverified, bind_ok_iff.2 ⟨failures, bind_ok_iff.2 ⟨failures, hfailures, rfl⟩, ?_⟩⟩
  change Except.ok (validateSubjects R.toPython "verified_subjects" (minimalSubjects (sortSubjects (loaded.flatMap (·.subjects)))) ++ [] ++
    failures) = _
  rw [hlist, List.nil_append, List.nil_append]

/-! ## The record as a whole -/

/-- Fields of other names do not change what a name stands for. -/
theorem field_append {name : String} {fields more : Fields} (h : name ∉ more.map (·.1)) : field name (fields ++ more) = field name fields := by
  have hnone : more.reverse.find? (fun p => p.1 = name) = none :=
    List.find?_eq_none.2 fun p hp heq => h (List.mem_map.2 ⟨p, List.mem_reverse.1 hp, by simpa using heq⟩)
  rw [field, field, lookup, lookup, List.reverse_append, List.find?_append, hnone, Option.none_or]

/-- What can fail in a record that was created: the name of its log, its subjects and its attestations. -/
theorem validateRecord_created (hsha : ∀ bytes, (R.sha256 bytes).length = 32) {A : Args} {collected : Collected} (hgiven : collected.Given)
    {log : Bytes} (hlog : log ≠ []) {subjects : List Found} {more : Fields} (failures : List String)
    (hmore : more.map (·.1) ⊆ ["verified_subjects", "verification_material"])
    (hattestations : (if (Value.str A.check.name).pyEq (.str "attestations") then
      attestationFailures R.toPython true (recordFields R A collected log subjects ++ more) else .ok []) = .ok failures) :
    validateRecord R.toPython (recordFields R A collected log subjects ++ more) (some A.check.name) =
      .ok (MachineRecord.collected "log." ["path"] [("path", .str A.log.name)] ++
        validateSubjects R.toPython "subjects" (.list (subjects.map fun f => .dict (f.fields R))) ++ failures) := by
  have hfield : ∀ name, name ∉ ["verified_subjects", "verification_material"] →
      field name (recordFields R A collected log subjects ++ more) = field name (recordFields R A collected log subjects) :=
    fun name hname => field_append fun hmem => hname (hmore hmem)
  have hsource := hgiven.source
  simp only [Expected.values, List.forall_mem_cons, List.not_mem_nil, false_implies, implies_true, and_true] at hsource
  obtain ⟨hrepository, href, hrun, hattempt, hsourceSha⟩ := hsource
  have hcollected : MachineRecord.collected "" ["identity", "issuer", "generated_at"] (recordFields R A collected log subjects ++ more) = [] := by
    simp only [MachineRecord.collected, List.flatMap_eq_nil_iff, failUnless_eq_nil, Bool.not_eq_true', List.forall_mem_cons,
      List.not_mem_nil, false_implies, implies_true, and_true]
    rw [hfield _ (by decide), hfield _ (by decide), hfield _ (by decide)]
    exact ⟨hgiven.identity, hgiven.issuer, isPlaceholder_now A.now⟩
  have hsourceFailures : sourceFailures true (.dict (sourceFields collected)) = [] := by
    simp only [sourceFailures, if_true, MachineRecord.collected, List.append_eq_nil_iff, List.flatMap_eq_nil_iff, failUnless_eq_nil,
      Bool.not_eq_true', List.forall_mem_cons, List.not_mem_nil, false_implies, implies_true, and_true]
    exact ⟨⟨hrepository, hgiven.workflow, hrun, hattempt, href⟩, hsourceSha⟩
  have hlogFailures : logFailures (.dict [("path", .str A.log.name), ("sha256", .str (R.hexdigest log)), ("bytes", .int log.length)]) =
      MachineRecord.collected "log." ["path"] [("path", .str A.log.name)] := by
    have hbytes : isIntFrom 1 (.int log.length) = true := by
      have := List.length_pos_of_ne_nil hlog
      simp only [isIntFrom, asInt, Option.any_some, decide_eq_true_eq]
      omega
    have hdigest : (!isPlaceholder (.str (R.hexdigest log))) = true := by rw [isPlaceholder_hexdigest (hsha _), Bool.not_false]
    have hpath : field "path" [("path", .str A.log.name), ("sha256", .str (R.hexdigest log)), ("bytes", .int log.length)] =
        field "path" [("path", .str A.log.name)] := rfl
    have hsha256 : field "sha256" [("path", .str A.log.name), ("sha256", .str (R.hexdigest log)), ("bytes", .int log.length)] =
        .str (R.hexdigest log) := rfl
    have hlength : field "bytes" [("path", .str A.log.name), ("sha256", .str (R.hexdigest log)), ("bytes", .int log.length)] =
        .int log.length := rfl
    rw [logFailures, MachineRecord.collected, MachineRecord.collected, List.flatMap_cons, hpath, List.flatMap_singleton, hsha256,
      failUnless_eq_nil.2 hdigest, hlength, failUnless_eq_nil.2 hbytes, List.append_nil, List.append_nil, List.flatMap_singleton]

  have hversion : field "schema_version" (recordFields R A collected log subjects) = .str schemaVersion := rfl
  have hname : field "name" (recordFields R A collected log subjects) = .str A.check.name := rfl
  have hstatus : field "status" (recordFields R A collected log subjects) = .str "passed" := rfl
  have hsourceField : field "source" (recordFields R A collected log subjects) = .dict (sourceFields collected) := rfl
  have hlogField : field "log" (recordFields R A collected log subjects) =
      .dict [("path", .str A.log.name), ("sha256", .str (R.hexdigest log)), ("bytes", .int log.length)] := rfl
  have hsubjects : field "subjects" (recordFields R A collected log subjects) = .list (subjects.map fun f => .dict (f.fields R)) := rfl
  have hknown : (Value.str schemaVersion).isIn ((schemaVersion :: legacySchemaVersions).map .str) = true := by decide
  have hcurrent : (Value.str schemaVersion).pyEq (.str schemaVersion) = true := by rw [pyEq_str, beq_self_eq_true]
  have hsame : (Value.str A.check.name).pyEq (.str A.check.name) = true := by rw [pyEq_str, beq_self_eq_true]
  have hpassed : (Value.str "passed").pyEq (.str "passed") = true := by rw [pyEq_str, beq_self_eq_true]
  rw [validateRecord, hfield "schema_version" (by decide), hfield "name" (by decide), hfield "status" (by decide),
    hfield "source" (by decide), hfield "log" (by decide), hfield "subjects" (by decide), hcollected, hversion, hname, hstatus,
    hsourceField, hlogField, hsubjects, hcurrent, hsourceFailures, hlogFailures, hattestations]
  simp only [isHashable, expectText, Option.toList_some, List.flatMap_singleton, failUnless_eq_nil.2 hknown, failUnless_eq_nil.2 hsame,
    failUnless_eq_nil.2 hpassed, List.nil_append, List.append_nil]
  rfl

theorem validateSubjects_of_accepted {Γ : Python} {payload : Fields} {name : String} (h : validateRecord Γ payload (some name) = .ok []) :
    validateSubjects Γ "subjects" (field "subjects" payload) = [] := by
  obtain ⟨-, h⟩ := guardError_bind_ok_iff.1 h
  obtain ⟨attestations, -, h⟩ := bind_ok_iff.1 h
  exact (List.append_eq_nil_iff.1 (List.append_eq_nil_iff.1 (Except.ok.inj h)).1).2

theorem collected_path {name : String} :
    MachineRecord.collected "log." ["path"] [("path", .str name)] = [] ↔ isPlaceholder (.str name) = false := by
  have hpath : field "path" [("path", .str name)] = .str name := rfl
  rw [MachineRecord.collected, List.flatMap_singleton, hpath, failUnless_eq_nil, Bool.not_eq_true']

/-- What a record was created from. -/
theorem createRecord_ok {A : Args} {record : Fields} (h : createRecord R files A = .ok record) :
    ∃ log collected subjects more, log ≠ [] ∧ collected.Given ∧ subjectsFor R files A.releaseDir A.check = .ok subjects ∧
      (if A.check = .attestations then attestationFields R files A.attestationJsonDir collected.source subjects else .ok []) = .ok more ∧
      record = recordFields R A collected log subjects ++ more := by
  obtain ⟨log, hlog, h⟩ := orError_bind_ok_iff.1 h
  obtain ⟨collected, hcollected, h⟩ := bind_ok_iff.1 h
  obtain ⟨subjects, hsubjects, h⟩ := bind_ok_iff.1 h
  obtain ⟨more, hmore, h⟩ := bind_ok_iff.1 h
  have hne := (Option.filter_eq_some_iff.1 hlog).2
  exact ⟨log, collected, subjects, more, by simpa using hne, collect_ok hcollected, hsubjects, hmore, (Except.ok.inj h).symm⟩

/-- The subjects of a record are valid where the files that its check covers are. -/
theorem validateSubjects_created (hsha : ∀ bytes, (R.sha256 bytes).length = 32) {dir : Directory} {check : Check} {subjects : List Found}
    (h : subjectsFor R files dir check = .ok subjects) (path : String) :
    validateSubjects R.toPython path (.list (subjects.map fun f => .dict (f.fields R))) = [] ↔
      (∀ file ∈ covered files dir check, IsSafe file.1 ∧ file.2 ≠ []) ∧ ((covered files dir check).map (·.1)).Nodup := by
  obtain ⟨hcovered, hne⟩ := subjectsFor_ok h
  rw [validateSubjects_found hsha (bytes_of_name h), hcovered, List.forall_mem_map, List.map_map]
  exact and_iff_right hne

/-- What the validator makes of a record that was created, part by part. -/
theorem accepted_iff (hsha : ∀ bytes, (R.sha256 bytes).length = 32) {A : Args} {record : Fields} (h : createRecord R files A = .ok record) :
    validateRecord R.toPython record (some A.check.name) = .ok [] ↔
      isPlaceholder (.str A.log.name) = false ∧
      ((∀ file ∈ covered files A.releaseDir A.check, IsSafe file.1 ∧ file.2 ≠ []) ∧
        ((covered files A.releaseDir A.check).map (·.1)).Nodup) ∧
      (A.check = .attestations → ∀ dir ∈ A.attestationJsonDir, ∀ name ∈ attestationNames dir, ∀ bytes ∈ files (dir.path.child name),
        ∀ statements, statementsOf R bytes = .ok statements → (statements.flatMap (subjectsFromStatement R)).Nodup) := by
  obtain ⟨log, collected, subjects, more, hlog, hgiven, hsubjects, hmore, rfl⟩ := createRecord_ok h
  rw [← validateSubjects_created hsha hsubjects "subjects"]
  by_cases hcheck : A.check = .attestations
  · rw [if_pos hcheck] at hmore
    obtain ⟨dir, loaded, hdir, hread, rfl⟩ := attestationFields_ok hmore
    by_cases hvalid : validateSubjects R.toPython "subjects" (.list (subjects.map fun f => .dict (f.fields R))) = []
    · have hsafe : ∀ f ∈ subjects, IsSafe f.name := fun f hf =>
        (((validateSubjects_found hsha (bytes_of_name hsubjects)).1 hvalid).2.1 f hf).1
      obtain ⟨failures, hfailures, hnil⟩ := attestationFailures_created (A := A) hsha hgiven log hsafe hread
      rw [validateRecord_created hsha hgiven hlog failures (List.Subset.refl _) (by rw [hcheck]; exact hfailures), hdir]
      simp only [Except.ok.injEq, List.append_eq_nil_iff, collected_path, hvalid, hnil, hcheck, true_and,
        and_true, forall_const, Option.mem_def, Option.some.injEq, forall_eq', hread.nodup_iff]
    · exact iff_of_false (fun haccepted => hvalid (validateSubjects_of_accepted haccepted)) fun hclean => hvalid hclean.2.1
  · rw [if_neg hcheck] at hmore
    obtain rfl := Except.ok.inj hmore
    have hname : (Value.str A.check.name).pyEq (.str "attestations") = false := by
      cases hc : A.check with
      | attestations => exact absurd hc hcheck
      | _ => decide
    rw [validateRecord_created hsha hgiven hlog [] (by simp) (by rw [hname]; rfl)]
    simp only [Except.ok.injEq, List.append_eq_nil_iff, collected_path, hcheck, false_implies, and_true]

/-- A record that was created is accepted by the validator exactly where the release, the log and the attestations are clean. -/
theorem created_record_valid_iff (hsha : ∀ bytes, (R.sha256 bytes).length = 32) {A : Args} {record : Fields}
    (h : createRecord R files A = .ok record) : validateRecord R.toPython record (some A.check.name) = .ok [] ↔ Clean R files A := by
  rw [accepted_iff hsha h]
  exact ⟨fun ⟨hlog, ⟨hfiles, honce⟩, hattested⟩ =>
      ⟨hlog, fun file hfile => (hfiles file hfile).1, fun file hfile => (hfiles file hfile).2, honce, hattested⟩,
    fun c => ⟨c.log, ⟨fun file hfile => ⟨c.names file hfile, c.contents file hfile⟩, c.once⟩, c.attested⟩⟩

end

/-! ### The attestation of an archive -/

/-- The statement of the archive as the payload of an envelope. -/
def payload : String :=
    "eyJfdHlwZSI6Imh0dHBzOi8vaW4tdG90by5pby9TdGF0ZW1lbnQvdjEiLCJwcmVkaWNhdGVUeXBlIjoiaHR0cHM6Ly9zbHNhLmRldi9wcm92ZW5hbmNl" ++
    "L3YxIiwic3ViamVjdCI6W3sibmFtZSI6InJlbGVhc2UtZXZpZGVuY2UtdjEuMC4wLnRhci56c3QiLCJkaWdlc3QiOnsic2hhMjU2IjoiY2E5NzgxMTJj" ++
    "YTFiYmRjYWZhYzIzMWIzOWEyM2RjNGRhNzg2ZWZmODE0N2M0ZTcyYjk4MDc3ODVhZmVlNDhiYiJ9fV0sInByZWRpY2F0ZSI6eyJidWlsZGVyIjp7Imlk" ++
    "IjoiaHR0cHM6Ly9naXRodWIuY29tL2FjdGlvbnMvcnVubmVyIn0sIm1hdGVyaWFscyI6W3sidXJpIjoiZ2l0K2h0dHBzOi8vZ2l0aHViLmNvbS9zdWRl" ++
    "cnJhL29zIn1dLCJyZXBvc2l0b3J5Ijoic3VkZXJyYS9vcyIsInJlZiI6InJlZnMvdGFncy92MS4wLjAiLCJydW4iOiI3LzEiLCJjb21taXQiOiIwMTIz" ++
    "NDU2Nzg5YWJjZGVmMDEyMzQ1Njc4OWFiY2RlZjAxMjM0NTY3In19"

def recordReader : Reader :=
  { sampleReader with sha256 := Sha256.digest, b64decode := fun s => if s = payload then some (sampleText sampleStatement) else none }

def envelope : Fields :=
  [("payloadType", .str "application/vnd.in-toto+json"), ("payload", .str payload), ("signatures", .list [.dict [("sig", .str "MEUCIQ==")]])]

def bundle : Fields := [("mediaType", .str "application/vnd.dev.sigstore.bundle.v0.3+json"), ("dsseEnvelope", .dict envelope)]

/-- What the verifier prints of an attestation: the statement that it checked and, if asked for, the bundle that holds it. -/
def verification (withBundle : Bool) : Fields :=
  (if withBundle then [("attestation", .dict [("bundle", .dict bundle)])] else []) ++
    [("verificationResult", .dict [("mediaType", .str "application/vnd.dev.sigstore.verificationresult+json;version=0.1"),
      ("statement", .dict sampleStatement)])]

def verificationText (withBundle : Bool) : Bytes :=
  Utf8.encode (String.ofList (JsonText.write (JsonText.compactAscii fun _ => []) 0 (.list [.dict (verification withBundle)])))

def releaseDirectory : Directory where
  path := ⟨"", ["release"]⟩
  listing := some [sampleArchive, sampleArchive ++ ".sig", sampleArchive ++ ".cert"]
  isName := by decide
  nodup := by decide

def attestationDirectory : Directory where
  path := ⟨"", ["attestations"]⟩
  listing := some [sampleArchive ++ ".json"]
  isName := by decide
  nodup := by decide

def recordFiles (withBundle : Bool) : Files := fun path =>
  if path = ⟨"", ["attestations", sampleArchive ++ ".json"]⟩ then some (verificationText withBundle)
  else ([(sampleArchive, [0x61]), (sampleArchive ++ ".sig", [0x62]), (sampleArchive ++ ".cert", [0x63]), ("verify.log", [0x64])].find? fun p =>
    path = ⟨"", ["release", p.1]⟩).map (·.2)

def recordArgs : Args where
  check := .attestations
  releaseDir := releaseDirectory
  log := ⟨"", ["release", "verify.log"]⟩
  attestationJsonDir := some attestationDirectory
  identity := some "https://github.com/suderra/os/.github/workflows/release.yml@refs/tags/v1.0.0"
  issuer := none
  workflow := some "Release"
  repository := some "suderra/os"
  runId := some "7"
  runAttempt := some "1"
  ref := some "refs/tags/v1.0.0"
  sourceSha := some "0123456789abcdef0123456789abcdef01234567"
  environ := fun _ => none
  now := "2026-01-01T00:00:00"

theorem plain_verification : ∀ withBundle, (Value.list [.dict (verification withBundle)]).plain = true := by decide +kernel

theorem decodeDssePayload_payload : decodeDssePayload recordReader payload = some (.dict sampleStatement) := by
  have hdecode : recordReader.b64decode payload = some (sampleText sampleStatement) := by
    dsimp only [recordReader]
    exact if_pos rfl
  have hloads : loads recordReader (String.ofList (JsonText.write (JsonText.compactAscii fun _ => []) 0 (.dict sampleStatement))) =
      some (.dict sampleStatement) := by
    have hunique : (Value.dict sampleStatement).unique = .dict sampleStatement := rfl
    have hread : recordReader.loads = JsonText.read := rfl
    rw [loads, hread, String.toList_ofList, JsonText.read_write (JsonText.compactAscii_lawful _) plain_sample.1, Option.map_some, hunique]
  rw [decodeDssePayload, hdecode, Option.bind_some, sampleText, Utf8.decode_encode, Option.bind_some, hloads]
  rfl

theorem statementsIn_statement (n : Nat) : statementsIn recordReader (n + 1) (.dict sampleStatement) = .ok [sampleStatement] := rfl

theorem inside_payload {R : Reader} {fields : Fields} {text : String} {v : Value} (htext : (field "payload" fields).asStr = some text)
    (hother : (field "dssePayload" fields).asStr = none) (hnested : nestedKeys.filterMap (fun key => lookup key fields) = [])
    (h : decodeDssePayload R text = some v) : inside R fields = [v] := by
  simp only [inside, payloadKeys, List.filterMap_cons, List.filterMap_nil, htext, hother, Option.bind_some, Option.bind_none, h, hnested,
    List.append_nil]

theorem statementsIn_envelope (n : Nat) : statementsIn recordReader (n + 2) (.dict envelope) = .ok [sampleStatement] := by
  have hno : isStatement envelope = false := rfl
  rw [statementsIn, inside_payload rfl rfl rfl decodeDssePayload_payload, List.mapM_cons, statementsIn_statement, hno]
  rfl

theorem statementsIn_verification (n : Nat) (withBundle : Bool) :
    statementsIn recordReader (n + 6) (.list [.dict (verification withBundle)]) =
      .ok (if withBundle then [sampleStatement, sampleStatement] else [sampleStatement]) := by
  have hbundle : statementsIn recordReader (n + 3) (.dict bundle) = .ok [sampleStatement] := by
    have hinside : inside recordReader bundle = [.dict envelope] := rfl
    rw [statementsIn, hinside, List.mapM_cons, statementsIn_envelope]
    rfl
  have hattestation : statementsIn recordReader (n + 4) (.dict [("bundle", .dict bundle)]) = .ok [sampleStatement] := by
    have hinside : inside recordReader [("bundle", .dict bundle)] = [.dict bundle] := rfl
    rw [statementsIn, hinside, List.mapM_cons, hbundle]
    rfl
  have hresult : statementsIn recordReader (n + 4) (.dict [("mediaType",
      .str "application/vnd.dev.sigstore.verificationresult+json;version=0.1"), ("statement", .dict sampleStatement)]) =
      .ok [sampleStatement] := rfl
  cases withBundle with
  | false => rfl
  | true =>
    have hinside : inside recordReader (verification true) = [.dict [("bundle", .dict bundle)],
      .dict [("mediaType", .str "application/vnd.dev.sigstore.verificationresult+json;version=0.1"),
        ("statement", .dict sampleStatement)]] := rfl
    have hverification : statementsIn recordReader (n + 5) (.dict (verification true)) = .ok [sampleStatement, sampleStatement] := by
      rw [statementsIn, hinside, List.mapM_cons, hattestation, List.mapM_cons, hresult]
      rfl
    rw [statementsIn, List.mapM_cons, hverification]
    rfl

theorem statementsOf_verification (withBundle : Bool) : statementsOf recordReader (verificationText withBundle) =
    .ok (if withBundle then [sampleStatement, sampleStatement] else [sampleStatement]) := by
  have hread : readDocument recordReader (verificationText withBundle) = .ok (.list [.dict (verification withBundle)]) := by
    have hplain := plain_verification withBundle
    cases withBundle <;>
      exact readDocument_write (JsonText.compactAscii_lawful _) (JsonText.compactAscii_noReturn _) hplain rfl rfl
  rw [statementsOf, hread, ok_bind]
  exact statementsIn_verification 994 withBundle

def recordCollected : Collected where
  identity := "https://github.com/suderra/os/.github/workflows/release.yml@refs/tags/v1.0.0"
  issuer := "https://token.actions.githubusercontent.com"
  workflow := "Release"
  source := ⟨"suderra/os", "refs/tags/v1.0.0", "7", "1", "0123456789abcdef0123456789abcdef01234567"⟩

/-- The digest of the archive. -/
def archiveSubject : Subject := (sampleArchive, "ca978112ca1bbdcafac231b39a23dc4da786eff8147c4e72b9807785afee48bb")

/-- What the record of the archive is made of. -/
theorem parts_record : subjectsFromStatement recordReader sampleStatement = [archiveSubject] ∧
    attestationNames attestationDirectory = [sampleArchive ++ ".json"] ∧ recordReader.hexdigest [0x61] = archiveSubject.2 ∧
    (∀ withBundle : Bool, sortSubjects (if withBundle then [archiveSubject, archiveSubject] else [archiveSubject]) = [archiveSubject]) ∧
    ∀ value ∈ recordCollected.source.values, containsText recordReader (field "predicate" sampleStatement) value = true := by decide +kernel

theorem statementContext_record (path : PosixPath) : ∃ provenance,
    statementContext recordReader path recordCollected.source sampleStatement = .ok ([archiveSubject], [provenance]) := by
  obtain ⟨hsubject, _, _, _, hvalues⟩ := parts_record
  have hcomplete : Complete recordReader sampleStatement := ⟨rfl, by decide, fun h => absurd (congrArg List.length h) (by decide)⟩
  obtain ⟨provenance, hprovenance⟩ : Accepts recordReader sampleStatement recordCollected.source :=
    accepts_iff.2 ⟨hcomplete, hvalues⟩
  refine ⟨provenance, ?_⟩
  rw [statementContext, if_neg (by rw [hsubject]; exact List.cons_ne_nil _ _), hprovenance, hsubject]
  rfl

/-- The path of the attestation of the archive. -/
def attestationPath : PosixPath := attestationDirectory.path.child (sampleArchive ++ ".json")

theorem recordFiles_attestation (withBundle : Bool) : recordFiles withBundle attestationPath = some (verificationText withBundle) := if_pos rfl

theorem verificationText_ne_nil (withBundle : Bool) : verificationText withBundle ≠ [] := by
  rw [verificationText, JsonText.write, Utf8.encode_ofList]
  exact List.cons_ne_nil _ _

theorem loadAttestation_record (withBundle : Bool) : ∃ loaded,
    loadAttestation recordReader (recordFiles withBundle) recordCollected.source attestationPath = .ok loaded ∧
      loaded.subjects = if withBundle then [archiveSubject, archiveSubject] else [archiveSubject] := by
  obtain ⟨provenance, hcontext⟩ := statementContext_record attestationPath
  have hfile : (recordFiles withBundle attestationPath).filter (!·.isEmpty) = some (verificationText withBundle) := by
    rw [recordFiles_attestation]
    exact Option.filter_eq_some_iff.2 ⟨rfl, by simpa using verificationText_ne_nil withBundle⟩
  rw [loadAttestation, hfile, orError_some, ok_bind, statementsOf_verification, ok_bind]
  cases withBundle with
  | false =>
    rw [if_neg (by decide), List.mapM_cons, hcontext]
    exact ⟨_, rfl, rfl⟩
  | true =>
    rw [if_pos rfl, List.mapM_cons, hcontext, ok_bind, List.mapM_cons, hcontext]
    exact ⟨_, rfl, rfl⟩

theorem createRecord_record (withBundle : Bool) : ∃ record, createRecord recordReader (recordFiles withBundle) recordArgs = .ok record := by
  obtain ⟨loaded, hloaded, hsubjects⟩ := loadAttestation_record withBundle
  have hlog : (recordFiles withBundle recordArgs.log).filter (!·.isEmpty) = some [0x64] := rfl
  have hcollect : collect recordArgs = .ok recordCollected := rfl
  have hfound : subjectsFor recordReader (recordFiles withBundle) releaseDirectory .attestations = .ok [⟨sampleArchive, [0x61], none⟩] := rfl
  obtain ⟨_, hnames, hdigest, hsort, _⟩ := parts_record
  have hsorted : sortSubjects loaded.subjects = [archiveSubject] := hsubjects ▸ hsort withBundle
  have hmore : ∃ more, attestationFields recordReader (recordFiles withBundle) (some attestationDirectory) recordCollected.source
      [⟨sampleArchive, [0x61], none⟩] = .ok more := by
    have hload : (attestationNames attestationDirectory).mapM (fun name => loadAttestation recordReader (recordFiles withBundle)
        recordCollected.source (attestationDirectory.path.child name)) = .ok [loaded] := by
      rw [hnames]
      exact mapM_ok_iff.2 (.cons hloaded .nil)
    refine ⟨_, orError_bind_ok_iff.2 ⟨_, rfl, guardError_bind_ok_iff.2 ⟨?_, bind_ok_iff.2 ⟨_, hload, guardError_bind_ok_iff.2 ⟨?_, rfl⟩⟩⟩⟩⟩
    · rw [hnames]
      rfl
    · rw [List.flatMap_singleton, hsorted, List.map_singleton]
      have hsame : ((sampleArchive, Found.sha256 recordReader ⟨sampleArchive, [0x61], none⟩) : Subject) = archiveSubject := Prod.ext rfl hdigest
      simp only [hsame, List.all_cons, List.all_nil, List.contains_cons, beq_self_eq_true, Bool.true_or, Bool.and_self]
  obtain ⟨more, hmore⟩ := hmore
  exact ⟨_, orError_bind_ok_iff.2 ⟨_, hlog, bind_ok_iff.2 ⟨_, hcollect, bind_ok_iff.2 ⟨_, hfound, bind_ok_iff.2 ⟨more, hmore, rfl⟩⟩⟩⟩⟩

/-- Without the bundle, the record of the archive is accepted. -/
theorem validate_created_record : ∃ record, createRecord recordReader (recordFiles false) recordArgs = .ok record ∧
    validateRecord recordReader.toPython record (some "attestations") = .ok [] := by
  obtain ⟨record, hrecord⟩ := createRecord_record false
  refine ⟨record, hrecord, (created_record_valid_iff (fun _ => Sha256.length_digest _) hrecord).2 ?_⟩
  have hcovered : covered (recordFiles false) releaseDirectory .attestations = [(sampleArchive, [0x61])] := rfl
  obtain ⟨hsubject, hnames, _⟩ := parts_record
  refine ⟨by decide, ?_, ?_, ?_, ?_⟩
  · change ∀ file ∈ covered (recordFiles false) releaseDirectory .attestations, _
    rw [hcovered, List.forall_mem_singleton]
    exact ⟨by decide, by decide⟩
  · change ∀ file ∈ covered (recordFiles false) releaseDirectory .attestations, _
    rw [hcovered, List.forall_mem_singleton]
    exact List.cons_ne_nil _ _
  · change ((covered (recordFiles false) releaseDirectory .attestations).map (·.1)).Nodup
    rw [hcovered]
    exact List.nodup_singleton _
  · rintro - _ ⟨⟩ name hname bytes hbytes statements hstatements
    rw [hnames, List.mem_singleton] at hname
    subst hname
    obtain rfl : verificationText false = bytes := Option.some.inj ((recordFiles_attestation false).symm.trans hbytes)
    obtain rfl : [sampleStatement] = statements := Except.ok.inj ((statementsOf_verification false).symm.trans hstatements)
    rw [List.flatMap_singleton, hsubject]
    exact List.nodup_singleton _

/-- With the bundle the statement is met twice, and the record that was created is refused. -/
theorem refused_record : ∃ record, createRecord recordReader (recordFiles true) recordArgs = .ok record ∧
    validateRecord recordReader.toPython record (some "attestations") ≠ .ok [] := by
  obtain ⟨record, hrecord⟩ := createRecord_record true
  refine ⟨record, hrecord, fun haccepted => ?_⟩
  obtain ⟨hsubject, hnames, _⟩ := parts_record
  have honce := ((accepted_iff (fun _ => Sha256.length_digest _) hrecord).1 haccepted).2.2 rfl attestationDirectory rfl
    (sampleArchive ++ ".json") (hnames ▸ List.mem_cons_self) _ (recordFiles_attestation true) _ (statementsOf_verification true)
  have htwice : [sampleStatement, sampleStatement].flatMap (subjectsFromStatement recordReader) = [archiveSubject, archiveSubject] := by
    rw [List.flatMap_cons, List.flatMap_singleton, hsubject]
    rfl
  rw [if_pos rfl, htwice, List.nodup_cons] at honce
  exact honce.1 List.mem_cons_self

end SuderraOs.Publish.VerificationRecord
