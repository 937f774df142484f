import SuderraOs.Evidence.Attestation
import SuderraOs.Publish.ReleaseDir

/-!
# The published files

`validate_manifest` of `release-publication-manifest.py` and `create_record` of `post-publication-verification.py`: the manifest lists
the files of the release directory, and the record verifies each listed file that is no signature and no certificate. A file that a
record covers is one of these, or lies beside one (`covered_iff`).
-/

namespace SuderraOs.Publish.Publication

open Value Evidence Attestation

def manifestName : String := "release-publication-manifest.json"

def selfSidecars : List String := ["release-publication-manifest.json.sig", "release-publication-manifest.json.cert"]

/-- `name.endswith((".sig", ".cert"))`. -/
def isSidecar (name : String) : Bool := endsWith ".sig" name || endsWith ".cert" name

/-- `value is False`. -/
def isFalse : Value → Bool
  | .bool b => !b
  | _ => false

/-- A document that is read from a text file. -/
def readDocument (R : Reader) (bytes : Bytes) : Except String Value := do
  let text ← orError "UnicodeDecodeError" (Utf8.decode bytes)
  orError "JSONDecodeError" (loads R (String.ofList (PyText.universalNewlines text.toList)))

section

variable (R : Reader) (D : ReleaseDir)

/-! ## The manifest -/

/-- `read_manifest`; nothing where it raises. -/
def readManifest : Option Fields := ((D.file manifestName).bind fun bytes => (readDocument R bytes).toOption).bind asDict

/-- Whether a value sorts to the given names. A list that cannot be sorted raises, which no caller catches; here it is not equal. -/
def sortsTo (names : List String) : Value → Bool
  | .list items => (items.all (·.asStr.isSome)) && sortNames (items.filterMap asStr) == sortNames names
  | .dict fields => sortNames (fields.map (·.1)) == sortNames names
  | _ => false

def headerFailures (manifest : Fields) (expectedVersion : Value) : List String :=
  failUnless "schema_version must be suderra.release-publication-manifest.v1"
    ((field "schema_version" manifest).pyEq (.str "suderra.release-publication-manifest.v1")) ++
  failUnless s!"version must be {expectedVersion.pyStr R.repr}"
    (expectedVersion.pyEq .null || (field "version" manifest).pyEq expectedVersion) ++
  failUnless "classifier_version must be suderra.release-asset-classifier.v2"
    ((field "classifier_version" manifest).pyEq (.str "suderra.release-asset-classifier.v2")) ++
  (match field "source" manifest with
    | .dict source => ["repository", "workflow", "run_id", "run_attempt"].flatMap fun name =>
      failUnless s!"source.{name} must be a non-placeholder string" (!isPlaceholder (field name source))
    | _ => ["source must be an object"]) ++
  match field "scope" manifest with
  | .dict scope =>
    failUnless "scope.self_included must be false" (isFalse (field "self_included" scope)) ++
    failUnless "scope.self_sidecars_included must be false" (isFalse (field "self_sidecars_included" scope)) ++
    failUnless "scope.self_sidecars must list the publication manifest signature sidecars"
      (sortsTo selfSidecars ((lookup "self_sidecars" scope).getD (.list [])))
  | _ => ["scope must be an object"]

/-- A name that is a file name: no path, and not blank. -/
def safeName : Value → Option String
  | .str name => if !isBlank name && (PosixPath.ofString name).name == name then some name else none
  | _ => none

/-- The checks of a listed file; `seen` are the names listed before. -/
def itemFailures (assetSidecars : Bool) (path : String) (seen : List String) (name : String) (item : Fields) : List String :=
  failUnless s!"{path}.name is duplicated: {name}" (!seen.contains name) ++
  failUnless s!"{path}.name must not include manifest self files: {name}" (!(name == manifestName || selfSidecars.contains name)) ++
  match D.at name with
  | none => [s!"{path}.name references missing file: {name}"]
  | some bytes =>
    (if assetSidecars && !isSidecar name then
      [".sig", ".cert"].flatMap fun suffix =>
        failUnless s!"{path}.name missing non-empty sidecar: {name}{suffix}" ((D.at (name ++ suffix)).any (!·.isEmpty))
    else []) ++
    failUnless s!"{path}.role does not match release asset classifier for {name}"
      ((field "role" item).pyEq (.str (classifyReleaseAsset name).text)) ++
    failUnless s!"{path}.bytes does not match {name}" ((field "bytes" item).pyEq (.int bytes.length)) ++
    failUnless s!"{path}.sha256 does not match {name}" ((field "sha256" item).pyEq (.str (R.hexdigest bytes)))

def itemsFailures (assetSidecars : Bool) : Nat → List String → List Value → List String
  | _, _, [] => []
  | index, seen, .dict item :: items =>
    match safeName (field "name" item) with
    | none => s!"files[{index}].name must be a safe file name" :: itemsFailures assetSidecars (index + 1) seen items
    | some name =>
      itemFailures R D assetSidecars s!"files[{index}]" seen name item ++ itemsFailures assetSidecars (index + 1) (name :: seen) items
  | index, seen, _ :: items => s!"files[{index}] must be an object" :: itemsFailures assetSidecars (index + 1) seen items

/-- The names that a manifest lists. -/
def listedNames (items : List Value) : List String := (items.filterMap asDict).filterMap fun item => safeName (field "name" item)

/-- The files of the directory that a manifest must list. -/
def publicNames : List String := D.fileNames.filter fun name => name ≠ manifestName && !selfSidecars.contains name

/-- The final evidence of a version. -/
def evidenceNames (version : String) : List String :=
  [s!"release-evidence-{version}.tar.zst", s!"release-evidence-{version}.tar.zst.sig", s!"release-evidence-{version}.tar.zst.cert"]

/-- The checks of the listed names as a whole. -/
def namesFailures (selfRequired : Bool) (version : String) (listed : List String) : List String :=
  failUnless "manifest is missing release files" ((publicNames D).all listed.contains) ++
  failUnless "manifest references extra release files" (listed.all (publicNames D).contains) ++
  (if selfRequired then
    selfSidecars.flatMap fun name => failUnless s!"missing non-empty publication manifest sidecar: {name}" ((D.at name).any (!·.isEmpty))
  else []) ++
  failUnless "publication manifest missing final evidence bytes" ((evidenceNames version).all listed.contains)

/-- `validate_manifest`. -/
def validateManifest (expectedVersion : Value) (selfRequired assetSidecars : Bool) : Except String (List String) :=
  match readManifest R D with
  | none => .ok ["cannot read publication manifest"]
  | some manifest =>
    match field "files" manifest with
    | .list (item :: items) => do
      guardError "OSError" D.listing.isSome
      .ok (headerFailures R manifest expectedVersion ++ itemsFailures R D assetSidecars 0 [] (item :: items) ++
        namesFailures D selfRequired (((lookup "version" manifest).getD (.str "")).pyStr R.repr) (listedNames (item :: items)))
    | _ => .ok (headerFailures R manifest expectedVersion ++ ["files must be a non-empty list"])

/-! ## The record -/

/-- The arguments that are given and the environment; `null` is one that is missing. -/
structure Args where
  version : Value
  attestationDir : PosixPath
  identity : Value
  issuer : Value
  repository : Value
  workflow : Value
  runId : Value
  runAttempt : Value
  ref : Value
  sourceSha : Value
  environ : String → Value
  now : String

structure FileRef where
  path : String
  sha256 : String
  bytes : Nat

structure Asset where
  name : String
  role : Value
  sha256 : String
  bytes : Nat
  signature : FileRef
  certificate : FileRef
  attestation : FileRef
  subjects : List Subject
  provenance : List Provenance

structure Source where
  repository : Value
  workflow : Value
  runId : Value
  runAttempt : Value
  ref : Value
  sourceSha : Value

structure Record where
  version : Value
  generatedAt : String
  identity : Value
  issuer : Value
  source : Source
  publicationManifest : FileRef
  assetSetSha256 : String
  assets : List Asset

def Args.source (A : Args) : Source where
  repository := A.repository.orElse (A.environ "GITHUB_REPOSITORY")
  workflow := A.workflow.orElse (A.environ "GITHUB_WORKFLOW")
  runId := A.runId.orElse (A.environ "GITHUB_RUN_ID")
  runAttempt := A.runAttempt.orElse (A.environ "GITHUB_RUN_ATTEMPT")
  ref := A.ref.orElse (A.environ "GITHUB_REF")
  sourceSha := A.sourceSha.orElse (A.environ "GITHUB_SHA")

/-- What a provenance must bind. -/
def Source.expected (source : Source) : Expected where
  repository := source.repository.pyStr R.repr
  ref := source.ref.pyStr R.repr
  runId := source.runId.pyStr R.repr
  runAttempt := source.runAttempt.pyStr R.repr
  sourceSha := source.sourceSha.pyStr R.repr

/-- The path, the digest and the size of a file. -/
def fileRef (path : PosixPath) (bytes : Bytes) : FileRef := ⟨path.name, R.hexdigest bytes, bytes.length⟩

/-- What a file that must not be empty holds. -/
def material (path : PosixPath) : Except String Bytes :=
  orError s!"published verification material is missing or empty: {path}" ((D.files path).filter (!·.isEmpty))

/-- The subjects of a statement and, if it has some, its provenance. -/
def statementContext (name : String) (expected : Expected) (statement : Fields) : Except String (List Subject × List Provenance) :=
  if subjectsFromStatement R statement = [] then .ok ([], [])
  else do
    let context ← provenanceContext R statement expected
    guardError (s!"attestation provenance for {name} does not match publication context: " ++ "; ".intercalate context.2) (context.2 = [])
    .ok (subjectsFromStatement R statement, [context.1])

/-- One subject for each name and digest, in order. -/
def sortSubjects (subjects : List Subject) : List Subject :=
  subjects.dedup.insertionSort fun a b => if a.1 = b.1 then nameLe a.2 b.2 = true else nameLe a.1 b.1 = true

/-- The path of the attestation of an asset. -/
def Args.attestationPath (A : Args) (name : String) : PosixPath := A.attestationDir.join (PosixPath.ofString (name ++ ".json"))

/-- The asset of a name. -/
def assetOf (A : Args) (role : Value) (name : String) : Except String Asset := do
  let bytes ← orError s!"published asset is missing: {name}" (D.at name)
  let sigPath := D.path.join (PosixPath.ofString (name ++ ".sig"))
  let certPath := D.path.join (PosixPath.ofString (name ++ ".cert"))
  let sig ← material D sigPath
  let cert ← material D certPath
  let attestation ← material D (A.attestationPath name)
  let payload ← readDocument R attestation
  let statements ← iterAttestationStatements R payload
  let contexts ← statements.mapM (statementContext R name (A.source.expected R))
  let subjects := contexts.flatMap (·.1)
  guardError s!"attestation subjects for {name} do not include published digest" (subjects.contains (name, R.hexdigest bytes))
  .ok ⟨name, role, R.hexdigest bytes, bytes.length, fileRef R sigPath sig, fileRef R certPath cert,
    fileRef R (A.attestationPath name) attestation, sortSubjects subjects, contexts.flatMap (·.2)⟩

/-- A listed file: an asset unless it is a signature or a certificate. -/
def itemAsset (A : Args) (item : Value) : Except String (Option Asset) :=
  match item with
  | .dict item =>
    match field "name" item with
    | .str name => if isSidecar name then .ok none else (assetOf R D A (field "role" item) name).map some
    | _ => .ok none
  | _ => .ok none

/-- The digest of the names and digests of the assets. -/
def assetSetSha256 (assets : List Asset) : String :=
  let sorted := assets.insertionSort fun a b => nameLe a.name b.name = true
  R.hexdigest (Utf8.encode ("\n".intercalate (sorted.map fun asset => s!"{asset.name} {asset.sha256}")))

/-- The first value that was not collected. -/
def placeholderField (identity issuer : Value) (source : Source) : Option String :=
  ([("identity", identity), ("issuer", issuer), ("repository", source.repository), ("workflow", source.workflow),
    ("run_id", source.runId), ("run_attempt", source.runAttempt), ("ref", source.ref), ("source_sha", source.sourceSha)].find?
    fun p => isPlaceholder p.2).map (·.1)

/-- `create_record`. -/
def createRecord (A : Args) : Except String Record := do
  let failures ← validateManifest R D A.version true true
  guardError ("; ".intercalate failures) (failures = [])
  let bytes ← orError "OSError" (D.file manifestName)
  let manifest ← readDocument R bytes
  let manifest ← orError "top-level JSON value must be an object" manifest.asDict
  let identity := A.identity.orElse (A.environ "COSIGN_IDENTITY")
  let issuer := A.issuer.orElse (.str "https://token.actions.githubusercontent.com")
  guardError s!"{orEmpty (placeholderField identity issuer A.source)} must be collected before creating post-publication verification"
    (placeholderField identity issuer A.source).isNone
  let items ← orError "TypeError" ((lookup "files" manifest).getD (.list [])).asList
  let assets ← items.mapM (itemAsset R D A)
  let assets := assets.filterMap id
  guardError "post-publication verification found no public assets" (assets.length ≠ 0)
  .ok ⟨A.version, A.now, identity, issuer, A.source, fileRef R (D.path.child manifestName) bytes, assetSetSha256 R assets, assets⟩

/-! ## What is covered -/

/-- An asset of a record is what is on disk, and its attestation names it. -/
structure Verified (A : Args) (asset : Asset) : Prop where
  bytes : ∃ bytes, D.file asset.name = some bytes ∧ asset.sha256 = R.hexdigest bytes ∧ asset.bytes = bytes.length
  signature : ∃ bytes, D.file (asset.name ++ ".sig") = some bytes ∧
    asset.signature = ⟨asset.name ++ ".sig", R.hexdigest bytes, bytes.length⟩
  certificate : ∃ bytes, D.file (asset.name ++ ".cert") = some bytes ∧
    asset.certificate = ⟨asset.name ++ ".cert", R.hexdigest bytes, bytes.length⟩
  attestation : ∃ bytes payload statements, D.files (A.attestationPath asset.name) = some bytes ∧
    asset.attestation = fileRef R (A.attestationPath asset.name) bytes ∧ readDocument R bytes = .ok payload ∧
    iterAttestationStatements R payload = .ok statements ∧ (asset.name, asset.sha256) ∈ statements.flatMap (subjectsFromStatement R)

/-- A file is a verified asset, the signature or the certificate of one, the manifest or one of its sidecars. -/
def Covered (A : Args) (record : Record) (name : String) : Prop :=
  (∃ asset ∈ record.assets, Verified R D A asset ∧
    (name = asset.name ∨ name = asset.name ++ ".sig" ∨ name = asset.name ++ ".cert")) ∨
  name = manifestName ∨ name ∈ selfSidecars

/-- Every signature and every certificate lies beside the file it is named after. -/
def SidecarsHaveBase : Prop :=
  ∀ name ∈ D.fileNames, isSidecar name = true → name ∈ selfSidecars ∨
    ∃ base ∈ D.fileNames, isSidecar base = false ∧ (name = base ++ ".sig" ∨ name = base ++ ".cert")

variable {R D}

/-- A safe name is one component of a path. -/
theorem safeName_eq_some {v : Value} {name : String} (h : safeName v = some name) :
    v = .str name ∧ name ≠ "" ∧ name ≠ "." ∧ '/' ∉ name.toList := by
  cases v with
  | str s =>
    simp only [safeName, Option.ite_none_right_eq_some, Option.some.injEq, Bool.and_eq_true, Bool.not_eq_true', beq_iff_eq] at h
    obtain ⟨⟨hblank, hname⟩, rfl⟩ := h
    refine ⟨rfl, ?_⟩
    cases hlast : (PosixPath.ofString s).names.getLast? with
    | none =>
      rw [PosixPath.name, hlast] at hname
      rw [← hname] at hblank
      exact absurd hblank (by decide)
    | some last =>
      rw [PosixPath.name, hlast] at hname
      obtain rfl : last = s := hname
      exact PosixPath.mem_names_ofString (List.mem_of_getLast? hlast)
  | _ => cases h

/-- A name with a suffix is one component of a path as well. -/
theorem at_append {name : String} (h : name ≠ "" ∧ name ≠ "." ∧ '/' ∉ name.toList) {suffix : String} (hsuffix : suffix ∈ [".sig", ".cert"]) :
    PosixPath.ofString (name ++ suffix) = ⟨"", [name ++ suffix]⟩ := by
  have hlong : 1 < (name ++ suffix).toList.length := by
    rcases List.mem_pair.1 hsuffix with rfl | rfl <;> simp
  refine PosixPath.ofString_of_name ⟨?_, ?_, ?_⟩
  · rintro hempty
    simp [hempty] at hlong
  · rintro hdot
    simp [hdot] at hlong
  · rw [String.toList_append, List.mem_append, not_or]
    refine ⟨h.2.2, ?_⟩
    rcases List.mem_pair.1 hsuffix with rfl | rfl <;> decide

theorem itemsFailures_eq_nil {assetSidecars : Bool} {index : Nat} {seen : List String} {items : List Value}
    (h : itemsFailures R D assetSidecars index seen items = []) :
    ∀ item ∈ items, ∃ fields name, item = .dict fields ∧ safeName (field "name" fields) = some name := by
  induction items generalizing index seen with
  | nil => simp
  | cons item items ih =>
    cases item with
    | dict fields =>
      rw [itemsFailures] at h
      cases hname : safeName (field "name" fields) with
      | none =>
        rw [hname] at h
        cases h
      | some name =>
        rw [hname] at h
        exact List.forall_mem_cons.2 ⟨⟨fields, name, rfl, hname⟩, ih (List.append_eq_nil_iff.1 h).2⟩
    | _ => cases h

theorem mem_listedNames {items : List Value} {name : String} :
    name ∈ listedNames items ↔ ∃ fields, .dict fields ∈ items ∧ safeName (field "name" fields) = some name := by
  simp only [listedNames, List.mem_filterMap, asDict_eq_some]
  constructor
  · rintro ⟨fields, ⟨_, hitem, rfl⟩, hname⟩
    exact ⟨fields, hitem, hname⟩
  · rintro ⟨fields, hitem, hname⟩
    exact ⟨fields, ⟨_, hitem, rfl⟩, hname⟩

/-- A manifest that is accepted lists the public files, and no other. -/
theorem validateManifest_eq_nil {v : Value} {selfRequired assetSidecars : Bool}
    (h : validateManifest R D v selfRequired assetSidecars = .ok []) :
    ∃ manifest items, readManifest R D = some manifest ∧ field "files" manifest = .list items ∧
      (∀ item ∈ items, ∃ fields name, item = .dict fields ∧ safeName (field "name" fields) = some name) ∧
      ∀ name, name ∈ listedNames items ↔ name ∈ publicNames D := by
  cases hread : readManifest R D with
  | none => simp [validateManifest, hread] at h
  | some manifest =>
    rw [validateManifest, hread] at h
    cases hfiles : field "files" manifest with
    | list items =>
      cases items with
      | nil => simp [hfiles] at h
      | cons item items =>
        simp only [hfiles] at h
        obtain ⟨-, h⟩ := guardError_bind_ok_iff.1 h
        simp only [Except.ok.injEq, List.append_eq_nil_iff, namesFailures, failUnless_eq_nil] at h
        obtain ⟨⟨-, hitems⟩, ⟨⟨hmissing, hextra⟩, -⟩, -⟩ := h
        refine ⟨manifest, item :: items, rfl, hfiles, itemsFailures_eq_nil hitems, fun name => ⟨fun hname => ?_, fun hname => ?_⟩⟩
        · simpa using List.all_eq_true.1 hextra name hname
        · simpa using List.all_eq_true.1 hmissing name hname
    | _ => simp [hfiles] at h

theorem mem_publicNames {name : String} :
    name ∈ publicNames D ↔ name ∈ D.fileNames ∧ name ≠ manifestName ∧ name ∉ selfSidecars := by
  simp [publicNames, List.mem_filter]

theorem material_eq_ok {path : PosixPath} {bytes : Bytes} (h : material D path = .ok bytes) : D.files path = some bytes :=
  (Option.filter_eq_some_iff.1 (orError_ok_iff.1 h)).1

/-- The subjects that a statement adds are its own. -/
theorem mem_of_statementContext {name : String} {expected : Expected} {statement : Fields} {context : List Subject × List Provenance}
    (h : statementContext R name expected statement = .ok context) {subject : Subject} (hsubject : subject ∈ context.1) :
    subject ∈ subjectsFromStatement R statement := by
  rw [statementContext] at h
  split at h
  · obtain rfl := Except.ok.inj h
    cases hsubject
  · obtain ⟨_, -, h⟩ := bind_ok_iff.1 h
    obtain ⟨-, h⟩ := guardError_bind_ok_iff.1 h
    obtain rfl := Except.ok.inj h
    exact hsubject

/-- An asset that a record gets is verified. -/
theorem verified_of_assetOf {A : Args} {role : Value} {name : String} {asset : Asset} (h : assetOf R D A role name = .ok asset)
    (hname : name ≠ "" ∧ name ≠ "." ∧ '/' ∉ name.toList) : asset.name = name ∧ Verified R D A asset := by
  obtain ⟨bytes, hbytes, h⟩ := orError_bind_ok_iff.1 h
  obtain ⟨sig, hsig, h⟩ := bind_ok_iff.1 h
  obtain ⟨cert, hcert, h⟩ := bind_ok_iff.1 h
  obtain ⟨attestation, hattestation, h⟩ := bind_ok_iff.1 h
  obtain ⟨payload, hpayload, h⟩ := bind_ok_iff.1 h
  obtain ⟨statements, hstatements, h⟩ := bind_ok_iff.1 h
  obtain ⟨contexts, hcontexts, h⟩ := bind_ok_iff.1 h
  obtain ⟨hsubject, h⟩ := guardError_bind_ok_iff.1 h
  obtain rfl := Except.ok.inj h
  have hpath {suffix : String} (hsuffix : suffix ∈ [".sig", ".cert"]) :
      D.path.join (PosixPath.ofString (name ++ suffix)) = D.path.child (name ++ suffix) := by
    rw [at_append hname hsuffix]
    rfl
  rw [hpath (by simp)] at hsig hcert
  refine ⟨rfl, ⟨bytes, (D.at_eq_file (PosixPath.ofString_of_name hname)).symm.trans hbytes, rfl, rfl⟩, ⟨sig, material_eq_ok hsig, ?_⟩,
    ⟨cert, material_eq_ok hcert, ?_⟩, attestation, payload, statements, material_eq_ok hattestation, rfl, hpayload, hstatements, ?_⟩
  · simp [hpath, fileRef, PosixPath.child, PosixPath.name]
  · simp [hpath, fileRef, PosixPath.child, PosixPath.name]
  · obtain ⟨context, hcontext, hmem⟩ := List.mem_flatMap.1 (List.contains_iff_mem.1 hsubject)
    obtain ⟨statement, hstatement, hrun⟩ := mapM_ok_right hcontexts context hcontext
    exact List.mem_flatMap.2 ⟨statement, hstatement, mem_of_statementContext hrun hmem⟩

theorem itemAsset_eq_some {A : Args} {item : Value} {asset : Asset} (h : itemAsset R D A item = .ok (some asset)) :
    ∃ fields name, item = .dict fields ∧ field "name" fields = .str name ∧ isSidecar name = false ∧
      assetOf R D A (field "role" fields) name = .ok asset := by
  cases item with
  | dict fields =>
    rw [itemAsset] at h
    cases hname : field "name" fields with
    | str name =>
      simp only [hname] at h
      split at h
      · cases h
      · rename_i hsidecar
        cases hasset : assetOf R D A (field "role" fields) name with
        | ok asset' =>
          rw [hasset] at h
          cases h
          exact ⟨fields, name, rfl, hname, by simpa using hsidecar, hasset⟩
        | error e =>
          rw [hasset] at h
          cases h
    | _ => simp [hname] at h
  | _ => cases h

/-- The assets of a record are the public files that are neither signatures nor certificates. -/
theorem assets_of_createRecord {A : Args} {record : Record} (h : createRecord R D A = .ok record) :
    (∀ asset ∈ record.assets, isSidecar asset.name = false ∧ asset.name ∈ publicNames D) ∧
      ∀ name ∈ publicNames D, isSidecar name = false → ∃ asset ∈ record.assets, asset.name = name ∧ Verified R D A asset := by
  obtain ⟨failures, hfailures, h⟩ := bind_ok_iff.1 h
  obtain ⟨hnil, h⟩ := guardError_bind_ok_iff.1 h
  obtain ⟨bytes, hbytes, h⟩ := orError_bind_ok_iff.1 h
  obtain ⟨document, hdocument, h⟩ := bind_ok_iff.1 h
  obtain ⟨manifest, hmanifest, h⟩ := orError_bind_ok_iff.1 h
  obtain ⟨-, h⟩ := guardError_bind_ok_iff.1 h
  obtain ⟨items, hitems, h⟩ := orError_bind_ok_iff.1 h
  obtain ⟨assets, hassets, h⟩ := bind_ok_iff.1 h
  obtain ⟨-, h⟩ := guardError_bind_ok_iff.1 h
  obtain rfl := Except.ok.inj h
  obtain rfl : failures = [] := by simpa using hnil
  obtain ⟨manifest', items', hread, hfiles, hnamed, hlisted⟩ := validateManifest_eq_nil hfailures
  obtain rfl : manifest = manifest' := by
    rw [readManifest, hbytes, Option.bind_some, hdocument] at hread
    exact Option.some.inj (hmanifest.symm.trans hread)
  obtain rfl : items = items' := by
    cases hlookup : lookup "files" manifest with
    | none => simp [field, hlookup] at hfiles
    | some v =>
      simp only [field, hlookup, Option.getD_some] at hfiles hitems
      rw [hfiles] at hitems
      exact (Option.some.inj hitems).symm
  constructor
  · intro asset hasset
    obtain ⟨found, hfound, rfl⟩ := List.mem_filterMap.1 hasset
    obtain ⟨item, hitem, hrun⟩ := mapM_ok_right hassets _ hfound
    obtain ⟨fields, name, rfl, hname, hsidecar, hrun⟩ := itemAsset_eq_some hrun
    obtain ⟨fields', name', hfields, hsafe⟩ := hnamed _ hitem
    obtain rfl := Value.dict.inj hfields
    obtain ⟨hstr, hparts⟩ := safeName_eq_some hsafe
    obtain rfl := Value.str.inj (hname.symm.trans hstr)
    rw [(verified_of_assetOf hrun hparts).1]
    exact ⟨hsidecar, (hlisted name).1 (mem_listedNames.2 ⟨fields, hitem, hsafe⟩)⟩
  · intro name hpublic hsidecar
    obtain ⟨fields, hitem, hsafe⟩ := mem_listedNames.1 ((hlisted name).2 hpublic)
    obtain ⟨hstr, hparts⟩ := safeName_eq_some hsafe
    obtain ⟨found, hfound, hrun⟩ := mapM_ok_left hassets _ hitem
    simp only [itemAsset, hstr, hsidecar, Bool.false_eq_true, if_false] at hrun
    cases hasset : assetOf R D A (field "role" fields) name with
    | ok asset =>
      rw [hasset] at hrun
      cases hrun
      exact ⟨asset, List.mem_filterMap.2 ⟨_, hfound, rfl⟩, verified_of_assetOf hasset hparts⟩
    | error e =>
      rw [hasset] at hrun
      cases hrun

/-- Every published file is covered exactly where no signature or certificate lies beside nothing. -/
theorem covered_iff {A : Args} {record : Record} (h : createRecord R D A = .ok record) :
    (∀ name ∈ D.fileNames, Covered R D A record name) ↔ SidecarsHaveBase D := by
  obtain ⟨hassets, hverified⟩ := assets_of_createRecord h
  constructor
  · intro hcovered name hname hsidecar
    rcases hcovered name hname with ⟨asset, hasset, -, rfl | hname⟩ | rfl | hself
    · rw [(hassets asset hasset).1] at hsidecar
      cases hsidecar
    · exact Or.inr ⟨asset.name, (mem_publicNames.1 (hassets asset hasset).2).1, (hassets asset hasset).1, hname⟩
    · exact absurd hsidecar (by decide)
    · exact Or.inl hself
  · intro hbase name hname
    by_cases hpublic : name ∈ publicNames D
    · cases hsidecar : isSidecar name with
      | false =>
        obtain ⟨asset, hasset, rfl, hverify⟩ := hverified name hpublic hsidecar
        exact Or.inl ⟨asset, hasset, hverify, Or.inl rfl⟩
      | true =>
        rcases hbase name hname hsidecar with hself | ⟨base, hbase, hplain, hsuffix⟩
        · exact Or.inr (Or.inr hself)
        · by_cases hmanifest : base = manifestName
          · subst hmanifest
            right; right
            rcases hsuffix with rfl | rfl <;> decide
          · have hpublicBase : base ∈ publicNames D := mem_publicNames.2 ⟨hbase, hmanifest, fun hself => by
              rcases List.mem_pair.1 hself with rfl | rfl <;> exact absurd hplain (by decide)⟩
            obtain ⟨asset, hasset, rfl, hverify⟩ := hverified base hpublicBase hplain
            exact Or.inl ⟨asset, hasset, hverify, Or.inr hsuffix⟩
    · rw [mem_publicNames, not_and, not_and, not_not] at hpublic
      by_cases hmanifest : name = manifestName
      · exact Or.inr (Or.inl hmanifest)
      · exact Or.inr (Or.inr (hpublic hname hmanifest))

/-! ### One publication

The final evidence of a version, and beside it, or not, the signature of a payload manifest that is not there.
-/

/-- The text of a document is read back. -/
theorem readDocument_write {style : JsonText.Style} {v : Value} (hstyle : style.Lawful) (hreturn : style.NoReturn) (hplain : v.plain = true)
    (hunique : v.unique = v) (hloads : R.loads = JsonText.read) :
    readDocument R (Utf8.encode (String.ofList (JsonText.write style 0 v))) = .ok v := by
  rw [readDocument, Utf8.decode_encode, orError_some, ok_bind, String.toList_ofList, PyText.universalNewlines_eq (hreturn.write v 0 hplain),
    loads, hloads, String.toList_ofList, JsonText.read_write hstyle hplain, Option.map_some, hunique, orError_some]

theorem material_eq {path : PosixPath} {bytes : Bytes} (h : D.files path = some bytes) (hne : bytes ≠ []) : material D path = .ok bytes := by
  rw [material, h, Option.filter_some, if_pos (by simpa using hne), orError_some]

theorem validateManifest_eq {v : Value} {manifest : Fields} {item : Value} {items : List Value} {version : String}
    {selfRequired assetSidecars : Bool} (hread : readManifest R D = some manifest) (hfiles : field "files" manifest = .list (item :: items))
    (hversion : ((lookup "version" manifest).getD (.str "")).pyStr R.repr = version) (hlisting : D.listing.isSome = true)
    (hheader : headerFailures R manifest v = []) (hitems : itemsFailures R D assetSidecars 0 [] (item :: items) = [])
    (hnames : namesFailures D selfRequired version (listedNames (item :: items)) = []) :
    validateManifest R D v selfRequired assetSidecars = .ok [] := by
  simp only [validateManifest, hread, hfiles, hversion, hlisting, guardError, hheader, hitems, hnames, if_true, ok_bind, List.append_nil]

theorem assetOf_eq {A : Args} {role : Value} {name : String} {bytes sig cert attestation : Bytes} {payload : Value} {statement : Fields}
    {context : List Subject × List Provenance} (hbytes : D.at name = some bytes)
    (hsig : material D (D.path.join (PosixPath.ofString (name ++ ".sig"))) = .ok sig)
    (hcert : material D (D.path.join (PosixPath.ofString (name ++ ".cert"))) = .ok cert)
    (hattestation : material D (A.attestationPath name) = .ok attestation) (hread : readDocument R attestation = .ok payload)
    (hstatements : iterAttestationStatements R payload = .ok [statement])
    (hcontext : statementContext R name (A.source.expected R) statement = .ok context)
    (hsubject : context.1.contains (name, R.hexdigest bytes) = true) : ∃ asset, assetOf R D A role name = .ok asset := by
  have hcontexts : [statement].mapM (statementContext R name (A.source.expected R)) = .ok [context] :=
    mapM_ok_iff.2 (.cons hcontext .nil)
  have hguard : ([context].flatMap (·.1)).contains (name, R.hexdigest bytes) = true := by simpa using hsubject
  simp only [assetOf, hbytes, orError_some, hsig, hcert, hattestation, hread, hstatements, hcontexts, ok_bind, guardError, hguard, if_true]
  exact ⟨_, rfl⟩

theorem itemAsset_sidecar {A : Args} {fields : Fields} {name : String} (hname : field "name" fields = .str name)
    (hsidecar : isSidecar name = true) : itemAsset R D A (.dict fields) = .ok none := by
  simp only [itemAsset, hname, hsidecar, if_true]

theorem itemAsset_asset {A : Args} {fields : Fields} {name : String} {asset : Asset} (hname : field "name" fields = .str name)
    (hsidecar : isSidecar name = false) (hasset : assetOf R D A (field "role" fields) name = .ok asset) :
    itemAsset R D A (.dict fields) = .ok (some asset) := by
  simp only [itemAsset, hname, hsidecar, hasset, Bool.false_eq_true, if_false]
  rfl

theorem createRecord_eq {A : Args} {bytes : Bytes} {manifest : Fields} {items : List Value} {assets : List (Option Asset)}
    (hvalid : validateManifest R D A.version true true = .ok []) (hbytes : D.file manifestName = some bytes)
    (hread : readDocument R bytes = .ok (.dict manifest))
    (hplaceholder : placeholderField (A.identity.orElse (A.environ "COSIGN_IDENTITY"))
      (A.issuer.orElse (.str "https://token.actions.githubusercontent.com")) A.source = none)
    (hitems : (lookup "files" manifest).getD (.list []) = .list items) (hassets : items.mapM (itemAsset R D A) = .ok assets)
    (hne : (assets.filterMap id).length ≠ 0) : ∃ record, createRecord R D A = .ok record := by
  have hnonempty : decide ((assets.filterMap id).length ≠ 0) = true := decide_eq_true hne
  simp only [createRecord, hvalid, guardError, hbytes, hread, hplaceholder, hitems, hassets, asDict, asList, orError_some, ok_bind,
    Option.isNone_none, hnonempty, decide_true, if_true]
  exact ⟨_, rfl⟩

def sampleArchive : String := "release-evidence-v1.0.0.tar.zst"

def sampleStray : String := "suderra-x86_64-target.payload-manifest.sig"

/-- The text of a document without spaces. -/
def sampleText (fields : Fields) : Bytes := Utf8.encode (String.ofList (JsonText.write (JsonText.compactAscii fun _ => []) 0 (.dict fields)))

def sampleItem (name role sha256 : String) : Value :=
  .dict [("name", .str name), ("role", .str role), ("bytes", .int 1), ("sha256", .str sha256)]

def sampleItems (stray : Bool) : List Value :=
  [sampleItem sampleArchive "evidence" "ca978112ca1bbdcafac231b39a23dc4da786eff8147c4e72b9807785afee48bb",
    sampleItem (sampleArchive ++ ".sig") "signature" "3e23e8160039594a33894f6564e1b1348bbd7a0088d42c4acb73eeaed59c009d",
    sampleItem (sampleArchive ++ ".cert") "certificate" "2e7d2c03a9507ae265ecf5b5356885a53393a2029d241394997265a1a25aefc6"] ++
  if stray then [sampleItem sampleStray "payload-signature" "18ac3e7343f016890c510e93f935261169d9e3f565436429830faf0934f4f8e4"] else []

def sampleManifest (stray : Bool) : Fields :=
  [("schema_version", .str "suderra.release-publication-manifest.v1"), ("version", .str "v1.0.0"),
    ("classifier_version", .str "suderra.release-asset-classifier.v2"),
    ("source", .dict [("repository", .str "suderra/os"), ("workflow", .str "Release"), ("run_id", .str "7"), ("run_attempt", .str "1")]),
    ("scope", .dict [("self_included", .bool false), ("self_sidecars_included", .bool false),
      ("self_sidecars", .list [.str "release-publication-manifest.json.cert", .str "release-publication-manifest.json.sig"])]),
    ("files", .list (sampleItems stray))]

def sampleStatement : Fields :=
  [("_type", .str "https://in-toto.io/Statement/v1"), ("predicateType", .str "https://slsa.dev/provenance/v1"),
    ("subject", .list [.dict [("name", .str sampleArchive),
      ("digest", .dict [("sha256", .str "ca978112ca1bbdcafac231b39a23dc4da786eff8147c4e72b9807785afee48bb")])]]),
    ("predicate", .dict [("builder", .dict [("id", .str "https://github.com/actions/runner")]),
      ("materials", .list [.dict [("uri", .str "git+https://github.com/suderra/os")]]), ("repository", .str "suderra/os"),
      ("ref", .str "refs/tags/v1.0.0"), ("run", .str "7/1"), ("commit", .str "0123456789abcdef0123456789abcdef01234567")])]

def hexBytes (digits : String) : Bytes := (Hex.decode (digits.toList.map fun c => UInt8.ofNat c.toNat)).getD []

/-- The digests of the files and of the text of the one asset. -/
def sampleSha256 (bytes : Bytes) : Bytes :=
  if bytes = [0x61] then hexBytes "ca978112ca1bbdcafac231b39a23dc4da786eff8147c4e72b9807785afee48bb"
  else if bytes = [0x62] then hexBytes "3e23e8160039594a33894f6564e1b1348bbd7a0088d42c4acb73eeaed59c009d"
  else if bytes = [0x63] then hexBytes "2e7d2c03a9507ae265ecf5b5356885a53393a2029d241394997265a1a25aefc6"
  else if bytes = [0x64] then hexBytes "18ac3e7343f016890c510e93f935261169d9e3f565436429830faf0934f4f8e4"
  else if bytes = sampleText (sampleManifest true) then hexBytes "51f76be3eedd7a64bc807d72ec75dd8cb974b2de3f782242aba02afd3d06bfe4"
  else if bytes = sampleText (sampleManifest false) then hexBytes "03f5d5cb756ba0db24cfe8a0e23a2959d1c47ec46d726bd5aa13b42edb5d72f3"
  else if bytes = sampleText sampleStatement then hexBytes "ec7a67094d60854caddf5b0c0a40880f86e3f8a590cd2ac421f3a506c0a22206"
  else hexBytes "8c3823ed5fe968c9b51c306df56d127522ca5d6d429453421cd642da3ba5a207"

def sampleReader : Reader where
  sha256 := sampleSha256
  loads := JsonText.read
  repr := fun _ => ""
  b64decode := fun _ => none
  lower := fun s => String.ofList (s.toList.map Char.toLower)
  float := fun _ => []
  depth := 1000

/-- What the files of the release directory hold. -/
def sampleContents (stray : Bool) : List (String × Bytes) :=
  [(sampleArchive, [0x61]), (sampleArchive ++ ".sig", [0x62]), (sampleArchive ++ ".cert", [0x63]),
    (manifestName, sampleText (sampleManifest stray)), ("release-publication-manifest.json.sig", [0x62]),
    ("release-publication-manifest.json.cert", [0x63])] ++ if stray then [(sampleStray, [0x64])] else []

def sampleDir (stray : Bool) : ReleaseDir where
  path := ⟨"", ["release"]⟩
  listing := some ((sampleContents stray).map (·.1))
  files := fun path =>
    if path = ⟨"", ["attestations", sampleArchive ++ ".json"]⟩ then some (sampleText sampleStatement)
    else ((sampleContents stray).find? fun p => path = ⟨"", ["release", p.1]⟩).map (·.2)
  isName := by cases stray <;> decide +kernel

def sampleArgs : Args where
  version := .str "v1.0.0"
  attestationDir := ⟨"", ["attestations"]⟩
  identity := .str "https://github.com/suderra/os/.github/workflows/release.yml@refs/tags/v1.0.0"
  issuer := .null
  repository := .str "suderra/os"
  workflow := .str "Release"
  runId := .str "7"
  runAttempt := .str "1"
  ref := .str "refs/tags/v1.0.0"
  sourceSha := .str "0123456789abcdef0123456789abcdef01234567"
  environ := fun _ => .null
  now := "2026-01-01T00:00:00Z"

theorem readDocument_sampleText {fields : Fields} (hplain : (Value.dict fields).plain = true) (hunique : (Value.dict fields).unique = .dict fields) :
    readDocument sampleReader (sampleText fields) = .ok (.dict fields) :=
  readDocument_write (JsonText.compactAscii_lawful _) (JsonText.compactAscii_noReturn _) hplain hunique rfl

theorem plain_sample : (Value.dict sampleStatement).plain = true ∧ ∀ stray, (Value.dict (sampleManifest stray)).plain = true := by
  decide +kernel

theorem readManifest_sample (stray : Bool) : readDocument sampleReader (sampleText (sampleManifest stray)) = .ok (.dict (sampleManifest stray)) := by
  have hplain := plain_sample.2 stray
  cases stray
  · exact readDocument_sampleText hplain rfl
  · exact readDocument_sampleText hplain rfl

theorem manifestFile_sample (stray : Bool) : (sampleDir stray).file manifestName = some (sampleText (sampleManifest stray)) := by
  cases stray <;> rfl

/-- The parts of the manifest have no failures. -/
theorem failures_sample : ∀ stray, headerFailures sampleReader (sampleManifest stray) (.str "v1.0.0") = [] ∧
    itemsFailures sampleReader (sampleDir stray) true 0 [] (sampleItems stray) = [] ∧
    namesFailures (sampleDir stray) true "v1.0.0" (listedNames (sampleItems stray)) = [] := by
  decide +kernel

theorem validateManifest_sample (stray : Bool) : validateManifest sampleReader (sampleDir stray) (.str "v1.0.0") true true = .ok [] := by
  have hread : readManifest sampleReader (sampleDir stray) = some (sampleManifest stray) := by
    rw [readManifest, manifestFile_sample, Option.bind_some, readManifest_sample]
    rfl
  have hversion : ((lookup "version" (sampleManifest stray)).getD (.str "")).pyStr sampleReader.repr = "v1.0.0" := rfl
  obtain ⟨hheader, hitems, hnames⟩ := failures_sample stray
  exact validateManifest_eq hread rfl hversion rfl hheader hitems hnames

/-- The statement of the sample names the archive and comes from the run. -/
theorem statement_sample :
    (subjectsFromStatement sampleReader sampleStatement).contains (sampleArchive, sampleReader.hexdigest [0x61]) = true ∧
      (provenanceContext sampleReader sampleStatement (sampleArgs.source.expected sampleReader)).map (·.2) = .ok [] := by
  decide +kernel

/-- The statement of the sample and its provenance. -/
theorem statementContext_sample : ∃ context, statementContext sampleReader sampleArchive (sampleArgs.source.expected sampleReader) sampleStatement =
    .ok context ∧ context.1.contains (sampleArchive, sampleReader.hexdigest [0x61]) = true := by
  obtain ⟨hcontains, hfailures⟩ := statement_sample
  have hprovenance : ∃ provenance, provenanceContext sampleReader sampleStatement (sampleArgs.source.expected sampleReader) =
      .ok (provenance, []) := by
    cases hrun : provenanceContext sampleReader sampleStatement (sampleArgs.source.expected sampleReader) with
    | ok context =>
      rw [hrun] at hfailures
      exact ⟨context.1, congrArg _ (Prod.ext rfl (Except.ok.inj hfailures))⟩
    | error e =>
      rw [hrun] at hfailures
      cases hfailures
  obtain ⟨provenance, hprovenance⟩ := hprovenance
  refine ⟨(_, [provenance]), ?_, hcontains⟩
  have hne : subjectsFromStatement sampleReader sampleStatement ≠ [] := fun h => by rw [h] at hcontains; cases hcontains
  rw [statementContext, if_neg hne, hprovenance]
  rfl

theorem sampleText_ne_nil (p : String × Value) (fields : Fields) : sampleText (p :: fields) ≠ [] := by
  obtain ⟨name, value⟩ := p
  rw [sampleText, JsonText.write, Utf8.encode_ofList]
  exact List.cons_ne_nil _ _

/-- The files of the release directory, of which one may be the signature of a payload manifest that is not there. -/
theorem files_sample : (∀ stray, (sampleDir stray).at sampleArchive = some [0x61]) ∧
    sampleArgs.attestationPath sampleArchive = ⟨"", ["attestations", sampleArchive ++ ".json"]⟩ ∧ isSidecar sampleArchive = false ∧
    (∀ name ∈ [sampleArchive ++ ".sig", sampleArchive ++ ".cert", sampleStray], isSidecar name = true) ∧
    sampleStray ∈ (sampleDir true).fileNames ∧
    (∀ base ∈ (sampleDir true).fileNames, ¬(sampleStray = base ++ ".sig" ∨ sampleStray = base ++ ".cert")) ∧
    SidecarsHaveBase (sampleDir false) := by
  rw [SidecarsHaveBase]
  decide +kernel

theorem createRecord_sample (stray : Bool) : ∃ record, createRecord sampleReader (sampleDir stray) sampleArgs = .ok record := by
  obtain ⟨hat, hpath, hplain, hsidecars, _⟩ := files_sample
  have hasset : ∃ asset, assetOf sampleReader (sampleDir stray) sampleArgs (.str "evidence") sampleArchive = .ok asset := by
    have hread := readDocument_sampleText plain_sample.1 rfl
    obtain ⟨context, hcontext, hsubject⟩ := statementContext_sample
    have hsig : material (sampleDir stray) ((sampleDir stray).path.join (PosixPath.ofString (sampleArchive ++ ".sig"))) = .ok [0x62] := by
      cases stray <;> rfl
    have hcert : material (sampleDir stray) ((sampleDir stray).path.join (PosixPath.ofString (sampleArchive ++ ".cert"))) = .ok [0x63] := by
      cases stray <;> rfl
    refine assetOf_eq (hat stray) hsig hcert ?_ hread rfl hcontext hsubject
    · have hattestation : (sampleDir stray).files (sampleArgs.attestationPath sampleArchive) = some (sampleText sampleStatement) := by
        rw [hpath]
        dsimp only [sampleDir]
        exact if_pos rfl
      exact material_eq hattestation (sampleText_ne_nil _ _)
  obtain ⟨asset, hasset⟩ := hasset
  have hassets : (sampleItems stray).mapM (itemAsset sampleReader (sampleDir stray) sampleArgs) =
      .ok ([some asset, none, none] ++ if stray then [none] else []) := by
    simp only [List.forall_mem_cons, List.not_mem_nil, false_implies, implies_true, and_true] at hsidecars
    obtain ⟨hsig, hcert, hstray⟩ := hsidecars
    rw [mapM_ok_iff]
    have htail : List.Forall₂ (fun item found => itemAsset sampleReader (sampleDir stray) sampleArgs item = .ok found)
        (if stray then [sampleItem sampleStray "payload-signature" "18ac3e7343f016890c510e93f935261169d9e3f565436429830faf0934f4f8e4"] else [])
        (if stray then [none] else []) := by
      cases stray
      · exact .nil
      · exact .cons (itemAsset_sidecar rfl hstray) .nil
    exact .cons (itemAsset_asset rfl hplain hasset) (.cons (itemAsset_sidecar rfl hsig) (.cons (itemAsset_sidecar rfl hcert) htail))
  refine createRecord_eq (validateManifest_sample stray) (manifestFile_sample stray) (readManifest_sample stray) (by decide) rfl hassets ?_
  cases stray <;> exact Nat.one_ne_zero

/-- Without the signature that lies beside nothing, all files are covered. -/
theorem covered_sample : ∃ record, createRecord sampleReader (sampleDir false) sampleArgs = .ok record ∧
    ∀ name ∈ (sampleDir false).fileNames, Covered sampleReader (sampleDir false) sampleArgs record name := by
  obtain ⟨_, _, _, _, _, _, hbase⟩ := files_sample
  obtain ⟨record, h⟩ := createRecord_sample false
  exact ⟨record, h, (covered_iff h).2 hbase⟩

/-- The signature of a payload manifest is listed and not verified. -/
theorem not_covered_sample : ¬∀ (R : Reader) (D : ReleaseDir) (A : Args) (record : Record), createRecord R D A = .ok record →
    ∀ name ∈ D.fileNames, Covered R D A record name := by
  intro hall
  obtain ⟨record, h⟩ := createRecord_sample true
  obtain ⟨_, _, _, hsidecars, hname, hbase, _⟩ := files_sample
  have hsidecar := hsidecars sampleStray (List.mem_of_getElem? (i := 2) rfl)
  rcases hall _ _ _ record h sampleStray hname with ⟨asset, hasset, -, hname⟩ | hname | hname
  · obtain ⟨hplain, hpublic⟩ := (assets_of_createRecord h).1 asset hasset
    rcases hname with hname | hname
    · rw [← hname, hsidecar] at hplain
      cases hplain
    · exact hbase asset.name (mem_publicNames.1 hpublic).1 hname
  · exact absurd hname (by decide)
  · exact absurd hname (by decide)

end

end SuderraOs.Publish.Publication
