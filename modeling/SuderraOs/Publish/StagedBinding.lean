import SuderraOs.Evidence.Contract
import SuderraOs.Publish.ReleaseDir

/-!
# The staged files

`validate-release-artifact-binding.py`: the release directory against the binding of the Image Build run and the rows of the build
matrix. Every name that a release row or an installer is staged under is checked, and of the other files only those that look like an
image of Suderra. What it accepts is bound exactly when no other file is named outside of these (`bound_iff`).
-/

namespace SuderraOs.Publish.Staged

open Value Evidence

variable (Γ : Python)

/-! ## The binding -/

/-- `binding_index` and `installer_index`: the entries of a list under two of their fields; a later entry takes the place of an
earlier one. -/
def entryIndex (first second : String) (entries : Value) : List ((String × String) × Fields) :=
  ((entries.asList.getD []).filterMap asDict).filterMap fun item =>
    match field first item, field second item with
    | .str a, .str b => some ((a, b), item)
    | _, _ => none

def indexGet (index : List ((String × String) × Fields)) (key : String × String) : Option Fields :=
  (index.reverse.find? fun p => p.1 = key).map (·.2)

def bindingIndex (binding : Fields) : List ((String × String) × Fields) := entryIndex "defconfig" "artifact" (field "artifacts" binding)

def installerIndex (binding : Fields) : List ((String × String) × Fields) := entryIndex "arch" "artifact" (field "installers" binding)

/-! ## Names -/

def releaseRenameBase (releaseArtifact : String) : String :=
  if endsWith ".xz" releaseArtifact then dropSuffix ".xz" releaseArtifact else releaseArtifact

def sbomBase (releaseArtifact : String) : String :=
  if endsWith ".img.xz" releaseArtifact then dropSuffix ".img.xz" releaseArtifact else releaseRenameBase releaseArtifact

def payloadManifestBase (releaseArtifact : String) : String := sbomBase releaseArtifact

def expectedArtifacts (row : Fields) : List String := ((field "expected_artifacts" row).asList.getD []).map (·.pyStr Γ.repr)

/-- `str(row[name])`. -/
def rowText (name : String) (row : Fields) : Except String String := do
  let v ← orError "KeyError" (lookup name row)
  .ok (v.pyStr Γ.repr)

def stagedName (releaseArtifact sourceArtifact artifact : String) : Option String :=
  if artifact = sourceArtifact ++ ".xz" then some releaseArtifact
  else if artifact = "MANIFEST.txt" then some (releaseRenameBase releaseArtifact ++ ".manifest.txt")
  else if artifact = "manifest.json" then some (payloadManifestBase releaseArtifact ++ ".payload-manifest.json")
  else if artifact = "manifest.sig" then some (payloadManifestBase releaseArtifact ++ ".payload-manifest.sig")
  else none

def stagedNameForArtifact (row : Fields) (artifact : String) : Except String (Option String) := do
  let releaseArtifact ← rowText Γ "release_artifact" row
  let sourceArtifact ← rowText Γ "artifact" row
  .ok (stagedName releaseArtifact sourceArtifact artifact)

/-! ## The checks -/

/-- The checks of the header of the binding. -/
def headerFailures (binding : Fields) : List String :=
  failUnless "binding schema_version must be suderra.release-input-binding.v2"
    ((field "schema_version" binding).pyEq (.str "suderra.release-input-binding.v2")) ++
  failUnless "binding build_workflow_name must be Image Build" ((field "build_workflow_name" binding).pyEq (.str "Image Build")) ++
  failUnless "binding build_workflow_path must be .github/workflows/image-build.yml"
    ((field "build_workflow_path" binding).pyEq (.str ".github/workflows/image-build.yml")) ++
  match field "image_build_contract" binding with
  | .dict contract =>
    failUnless "binding image_build_contract role must be image-build-contract"
      ((field "role" contract).pyEq (.str "image-build-contract")) ++
    failUnless "binding image_build_contract must have a non-zero sha256" (isDigest (field "sha256" contract)) ++
    failUnless "binding image_build_contract must have positive byte size" ((field "bytes" contract).asInt.any (0 < ·)) ++
    failUnless "binding image_build_contract path must be relative"
      ((field "path" contract).asStr.any fun rel => !(PosixPath.ofString rel).isAbsolute && !(PosixPath.ofString rel).hasParent)
  | _ => ["binding image_build_contract must be an object"]

/-- How the messages name what is bound and what is staged. -/
structure Texts where
  bound : String
  invalid : String
  staged : String
  mismatch : String

def artifactTexts : Texts := ⟨"staged source artifact", "artifact", "release file", "release file sha"⟩

def installerTexts : Texts := ⟨"installer artifact", "installer", "installer file", "installer sha"⟩

/-- The checks of one file that is staged from a bound entry. -/
def stagedFailures (D : ReleaseDir) (T : Texts) (label staged : String) (bound : Option Fields) : List String :=
  match bound with
  | none => [s!"binding missing {T.bound}: {label}"]
  | some entry =>
    if isDigest (field "sha256" entry) then
      match D.at staged with
      | none => [s!"staged {T.staged} missing or empty: {staged}"]
      | some bytes =>
        if bytes.isEmpty then [s!"staged {T.staged} missing or empty: {staged}"]
        else
          failUnless (s!"staged {T.mismatch} mismatch for {staged}: expected bound " ++ (field "sha256" entry).pyStr Γ.repr ++
            s!", got {Γ.hexdigest bytes}")
            ((field "sha256" entry).pyEq (.str (Γ.hexdigest bytes)))
    else [s!"binding {T.invalid} has invalid sha256: {label}"]

/-- An artifact of a row: the name that is tracked, if it is staged, and the failures. -/
def artifactFailures (D : ReleaseDir) (index : List ((String × String) × Fields)) (row : Fields) (defconfig artifact : String) :
    Except String (Option String × List String) := do
  let staged ← stagedNameForArtifact Γ row artifact
  .ok (staged, match staged with
    | none => []
    | some name => stagedFailures Γ D artifactTexts s!"{defconfig}:{artifact}" name (indexGet index (defconfig, artifact)))

/-- A release row: what its artifacts say. -/
def rowFailures (D : ReleaseDir) (index : List ((String × String) × Fields)) (row : Fields) :
    Except String (List (Option String × List String)) := do
  let defconfig ← rowText Γ "name" row
  (expectedArtifacts Γ row).mapM (artifactFailures Γ D index row defconfig)

/-- The rows whose `release` counts as true. -/
def releaseRows (M : Matrix) : List Fields := (M.defconfigs.filterMap asDict).filter fun row => (field "release" row).truthy

def imageSuffixes : List String := [".img.xz", ".manifest.txt", ".payload-manifest.json", ".payload-manifest.sig"]

/-- The files that look like an image and that no row tracks. -/
def strayFailures (D : ReleaseDir) (tracked : List String) : List String :=
  (D.fileNames.filter fun name => imageSuffixes.any (endsWith · name) && startsWith "suderra-" name && !tracked.contains name).map
    fun name => s!"unexpected staged release image contract file: {name}"

def arches : List String := ["x86_64", "aarch64"]

/-- The name of an installer in the release. -/
def installerName (version arch : String) : String := "suderra-installer-" ++ (version ++ ("-" ++ arch))

/-- The installers are checked where the binding has a version. -/
def installerFailures (D : ReleaseDir) (binding : Fields) : List String :=
  match field "version" binding with
  | .str version => arches.flatMap fun arch =>
    stagedFailures Γ D installerTexts s!"{arch}:suderra-installer-{arch}" (installerName version arch)
      (indexGet (installerIndex binding) (arch, "suderra-installer-" ++ arch))
  | _ => []

/-- `validate`, of a binding that was read. -/
def validate (binding : Value) (D : ReleaseDir) (M : Matrix) : Except String (List String) :=
  match binding with
  | .dict binding => do
    let rows ← (releaseRows M).mapM (rowFailures Γ D (bindingIndex binding))
    .ok (headerFailures binding ++ rows.flatten.flatMap (·.2) ++ strayFailures D (rows.flatten.filterMap (·.1)) ++
      installerFailures Γ D binding)
  | _ => .ok ["binding manifest must be a JSON object"]

/-! ## What is bound -/

/-- The name that an artifact of a release row is staged under. -/
def StagedFrom (M : Matrix) (name defconfig artifact : String) : Prop :=
  ∃ row ∈ releaseRows M, rowText Γ "name" row = .ok defconfig ∧ artifact ∈ expectedArtifacts Γ row ∧
    stagedNameForArtifact Γ row artifact = .ok (some name)

/-- A name that the release expects: of a release row or of an installer. -/
def Expected (binding : Fields) (M : Matrix) (name : String) : Prop :=
  (∃ defconfig artifact, StagedFrom Γ M name defconfig artifact) ∨
    ∃ version, field "version" binding = .str version ∧ ∃ arch ∈ arches, name = installerName version arch

/-- An entry of the binding under two of its fields. -/
def HasEntry (first second : String) (entries : Value) (key : String × String) (sha256 : String) : Prop :=
  ∃ items entry, entries = .list items ∧ .dict entry ∈ items ∧ field first entry = .str key.1 ∧ field second entry = .str key.2 ∧
    field "sha256" entry = .str sha256

/-- A file is bound: the binding has its digest for the release row or for the architecture that it is named after. -/
def Bound (binding : Fields) (M : Matrix) (name : String) (bytes : Bytes) : Prop :=
  (∃ defconfig artifact, StagedFrom Γ M name defconfig artifact ∧
    HasEntry "defconfig" "artifact" (field "artifacts" binding) (defconfig, artifact) (Γ.hexdigest bytes)) ∨
  ∃ version, field "version" binding = .str version ∧ ∃ arch ∈ arches, name = installerName version arch ∧
    HasEntry "arch" "artifact" (field "installers" binding) (arch, "suderra-installer-" ++ arch) (Γ.hexdigest bytes)

/-- The files that must be bound: the release's own manifest is none of them. -/
def MustBeBound (name : String) : Prop :=
  classifyReleaseAsset name ∈ [AssetRole.releaseImage, .manifest, .payloadSignature, .installer] ∧ name ≠ "manifest.json"

/-- No two release rows stage a file of one name. -/
def RowsDistinct (M : Matrix) : Prop :=
  (releaseRows M).Pairwise fun row row' => ∀ artifact ∈ expectedArtifacts Γ row, ∀ artifact' ∈ expectedArtifacts Γ row', ∀ name,
    stagedNameForArtifact Γ row artifact = .ok (some name) → stagedNameForArtifact Γ row' artifact' ≠ .ok (some name)

variable {Γ}

theorem hasEntry_of_indexGet {first second : String} {entries : Value} {key : String × String} {entry : Fields} {sha256 : String}
    (h : indexGet (entryIndex first second entries) key = some entry) (hsha : field "sha256" entry = .str sha256) :
    HasEntry first second entries key sha256 := by
  obtain ⟨p, hp, rfl⟩ := Option.map_eq_some_iff.1 h
  have hkey : p.1 = key := by simpa using List.find?_some hp
  have hmem := List.mem_reverse.1 (List.mem_of_find?_eq_some hp)
  obtain ⟨item, hitem, hindex⟩ := List.mem_filterMap.1 hmem
  obtain ⟨v, hv, hdict⟩ := List.mem_filterMap.1 hitem
  obtain rfl := asDict_eq_some.1 hdict
  cases hlist : entries with
  | list items =>
    rw [hlist] at hv
    refine ⟨items, item, rfl, hv, ?_⟩
    cases hfirst : field first item with
    | str a =>
      cases hsecond : field second item with
      | str b =>
        simp only [hfirst, hsecond, Option.some.injEq] at hindex
        subst hindex
        exact ⟨by rw [← hkey], by rw [← hkey], hsha⟩
      | _ => simp [hfirst, hsecond] at hindex
    | _ => simp [hfirst] at hindex
  | _ => simp [hlist, asList] at hv

/-- A staged file without failures has the digest of its entry. -/
theorem stagedFailures_eq_nil {D : ReleaseDir} {T : Texts} {label staged : String} {bound : Option Fields}
    (h : stagedFailures Γ D T label staged bound = []) :
    ∃ entry bytes, bound = some entry ∧ D.at staged = some bytes ∧ field "sha256" entry = .str (Γ.hexdigest bytes) := by
  unfold stagedFailures at h
  cases bound with
  | none => simp at h
  | some entry =>
    cases hfile : D.at staged with
    | none =>
      simp only [hfile] at h
      split at h <;> simp at h
    | some bytes =>
      simp only [hfile] at h
      split_ifs at h
      rw [failUnless_eq_nil, pyEq_str_iff] at h
      exact ⟨entry, bytes, rfl, rfl, h⟩

/-- What an accepted binding says of the rows, of the other files and of the installers. -/
structure Accepted (Γ : Python) (binding : Fields) (D : ReleaseDir) (M : Matrix) : Prop where
  row : ∀ name defconfig artifact, StagedFrom Γ M name defconfig artifact →
    stagedFailures Γ D artifactTexts s!"{defconfig}:{artifact}" name (indexGet (bindingIndex binding) (defconfig, artifact)) = []
  stray : ∀ name ∈ D.fileNames, imageSuffixes.any (endsWith · name) = true → startsWith "suderra-" name = true →
    ∃ defconfig artifact, StagedFrom Γ M name defconfig artifact
  installer : ∀ version, field "version" binding = .str version → ∀ arch ∈ arches,
    stagedFailures Γ D installerTexts s!"{arch}:suderra-installer-{arch}" (installerName version arch)
      (indexGet (installerIndex binding) (arch, "suderra-installer-" ++ arch)) = []

variable {binding : Fields} {D : ReleaseDir} {M : Matrix}

theorem accepted_of_validate (h : validate Γ (.dict binding) D M = .ok []) : Accepted Γ binding D M := by
  obtain ⟨rows, hrows, h⟩ := bind_ok_iff.1 h
  simp only [Except.ok.injEq, List.append_eq_nil_iff] at h
  obtain ⟨⟨⟨-, hfail⟩, hstray⟩, hinstaller⟩ := h
  -- what the loops made of the rows is what each row and each of its artifacts says
  have hpair (name defconfig artifact : String) (hstaged : StagedFrom Γ M name defconfig artifact) :
      (some name, stagedFailures Γ D artifactTexts s!"{defconfig}:{artifact}" name
        (indexGet (bindingIndex binding) (defconfig, artifact))) ∈ rows.flatten := by
    obtain ⟨row, hrow, hname, hartifact, hfrom⟩ := hstaged
    obtain ⟨pairs, hpairs, hrow⟩ := mapM_ok_left hrows row hrow
    obtain ⟨_, hdefconfig, hrow⟩ := bind_ok_iff.1 hrow
    obtain rfl := Except.ok.inj (hname.symm.trans hdefconfig)
    obtain ⟨pair, hpair, hart⟩ := mapM_ok_left hrow artifact hartifact
    rw [artifactFailures, hfrom, ok_bind] at hart
    exact List.mem_flatten.2 ⟨pairs, hpairs, Except.ok.inj hart ▸ hpair⟩
  refine ⟨fun name defconfig artifact hstaged => ?_, fun name hname himage hstart => ?_, fun version hversion arch harch => ?_⟩
  · exact List.flatMap_eq_nil_iff.1 hfail _ (hpair name defconfig artifact hstaged)
  · have htracked : name ∈ rows.flatten.filterMap (·.1) := by
      by_contra hnot
      rw [strayFailures, List.map_eq_nil_iff, List.filter_eq_nil_iff] at hstray
      have hcontains : (rows.flatten.filterMap (·.1)).contains name = false := by simpa using hnot
      refine hstray name hname ?_
      rw [himage, hstart, hcontains]
      rfl
    obtain ⟨pair, hpair, hfst⟩ := List.mem_filterMap.1 htracked
    obtain ⟨pairs, hpairs, hpair⟩ := List.mem_flatten.1 hpair
    obtain ⟨row, hrow, hpairsOf⟩ := mapM_ok_right hrows pairs hpairs
    obtain ⟨defconfig, hdefconfig, hpairsOf⟩ := bind_ok_iff.1 hpairsOf
    obtain ⟨artifact, hartifact, hart⟩ := mapM_ok_right hpairsOf pair hpair
    obtain ⟨staged, hstaged, hart⟩ := bind_ok_iff.1 hart
    obtain rfl := Except.ok.inj hart
    exact ⟨defconfig, artifact, row, hrow, hdefconfig, hartifact, by rw [hstaged]; exact congrArg _ hfst⟩
  · rw [installerFailures, hversion] at hinstaller
    exact List.flatMap_eq_nil_iff.1 hinstaller arch harch

/-- A file that the release expects under its name is bound. -/
theorem Accepted.bound (h : Accepted Γ binding D M) {name : String} {bytes : Bytes} (hname : name ∈ D.fileNames)
    (hbytes : D.file name = some bytes) (hexpected : Expected Γ binding M name) : Bound Γ binding M name bytes := by
  have hat : D.at name = some bytes := by rw [D.at_eq_file (PosixPath.ofString_of_isName (D.isName name (ReleaseDir.mem_fileNames.1 hname).1)), hbytes]
  rcases hexpected with ⟨defconfig, artifact, hstaged⟩ | ⟨version, hversion, arch, harch, rfl⟩
  · obtain ⟨entry, found, hentry, hfile, hsha⟩ := stagedFailures_eq_nil (h.row name defconfig artifact hstaged)
    obtain rfl := Option.some.inj (hat.symm.trans hfile)
    exact Or.inl ⟨defconfig, artifact, hstaged, hasEntry_of_indexGet hentry hsha⟩
  · obtain ⟨entry, found, hentry, hfile, hsha⟩ := stagedFailures_eq_nil (h.installer version hversion arch harch)
    obtain rfl := Option.some.inj (hat.symm.trans hfile)
    exact Or.inr ⟨version, hversion, arch, harch, rfl, hasEntry_of_indexGet hentry hsha⟩

/-- A file with the role of an image looks like one. -/
theorem imageSuffix_of_mustBeBound {name : String} (h : MustBeBound name) (hrole : classifyReleaseAsset name ≠ .installer) :
    imageSuffixes.any (endsWith · name) = true := by
  obtain ⟨hroles, hne⟩ := h
  obtain ⟨role, hclass⟩ : ∃ role, classifyReleaseAsset name = role := ⟨_, rfl⟩
  rw [hclass] at hroles hrole
  simp only [imageSuffixes, List.any_cons, List.any_nil, Bool.or_false, Bool.or_eq_true]
  unfold classifyReleaseAsset at hclass
  by_cases himage : endsWith ".img.xz" name = true
  · exact Or.inl himage
  rw [if_neg himage] at hclass
  split at hclass
  · exact absurd hroles (hclass ▸ by decide)
  split at hclass
  case isTrue hmanifest =>
    simp only [Bool.or_eq_true, beq_iff_eq] at hmanifest
    rcases hmanifest with (hmanifest | hmanifest) | hmanifest
    · exact Or.inr (Or.inl hmanifest)
    · exact Or.inr (Or.inr (Or.inl hmanifest))
    · exact absurd hmanifest hne
  by_cases hsignature : endsWith ".payload-manifest.sig" name = true
  · exact Or.inr (Or.inr (Or.inr hsignature))
  rw [if_neg hsignature] at hclass
  iterate 5
    split at hclass
    · exact absurd hroles (hclass ▸ by decide)
  split at hclass
  · exact absurd hclass.symm hrole
  · exact absurd hroles (hclass ▸ by decide)

/-- What is accepted is bound, and no two rows share a name, exactly when every installer and every other file that does not start
as one of Suderra has the name of a staged file, and no two rows share a name. -/
theorem bound_iff (h : validate Γ (.dict binding) D M = .ok []) :
    ((∀ name ∈ D.fileNames, MustBeBound name → ∀ bytes, D.file name = some bytes → Bound Γ binding M name bytes) ∧ RowsDistinct Γ M) ↔
      (∀ name ∈ D.fileNames, MustBeBound name → (classifyReleaseAsset name = .installer ∨ startsWith "suderra-" name = false) →
        Expected Γ binding M name) ∧ RowsDistinct Γ M := by
  have haccepted := accepted_of_validate h
  refine and_congr_left fun _ => ⟨fun hbound name hname hmust _ => ?_, fun hnamed name hname hmust bytes hbytes => ?_⟩
  · obtain ⟨bytes, hbytes⟩ := Option.isSome_iff_exists.1 (ReleaseDir.mem_fileNames.1 hname).2
    rcases hbound name hname hmust bytes hbytes with ⟨defconfig, artifact, hstaged, -⟩ | ⟨version, hversion, arch, harch, hname, -⟩
    · exact Or.inl ⟨defconfig, artifact, hstaged⟩
    · exact Or.inr ⟨version, hversion, arch, harch, hname⟩
  · refine haccepted.bound hname hbytes ?_
    by_cases hother : classifyReleaseAsset name = .installer ∨ startsWith "suderra-" name = false
    · exact hnamed name hname hmust hother
    · rw [not_or, Bool.not_eq_false] at hother
      exact Or.inl (haccepted.stray name hname (imageSuffix_of_mustBeBound hmust hother.1) hother.2)

/-! ## A release of one image -/

def imageBytes : Bytes := [105, 109, 97, 103, 101, 10]

def installerBytes (arch : String) : Bytes :=
  if arch = "x86_64" then [120, 56, 54, 95, 54, 52, 10] else [97, 97, 114, 99, 104, 54, 52, 10]

/-- SHA-256 of the three files. -/
def samplePython : Python where
  sha256 := fun bytes =>
    if bytes = imageBytes then
      [37, 78, 221, 241, 93, 149, 52, 227, 178, 12, 85, 70, 144, 119, 170, 47, 36, 241, 103, 170, 75, 137, 122, 54, 56, 29, 62, 37, 30, 72, 41, 194]
    else if bytes = installerBytes "x86_64" then
      [170, 246, 49, 105, 138, 229, 22, 12, 235, 4, 169, 118, 129, 161, 72, 135, 253, 202, 180, 124, 214, 224, 241, 99, 200, 116, 133, 179, 177, 52, 11, 98]
    else
      [81, 33, 174, 89, 49, 74, 132, 218, 123, 77, 149, 135, 55, 67, 152, 241, 175, 162, 0, 11, 36, 59, 62, 84, 244, 145, 173, 239, 170, 197, 79, 146]
  loads := fun _ => none
  repr := fun _ => ""

def sampleInstaller (arch sha256 : String) : Value :=
  .dict [("arch", .str arch), ("artifact", .str ("suderra-installer-" ++ arch)), ("sha256", .str sha256)]

def sampleBinding : Fields :=
  [("schema_version", .str "suderra.release-input-binding.v2"), ("version", .str "v1.0.0"), ("build_workflow_name", .str "Image Build"),
    ("build_workflow_path", .str ".github/workflows/image-build.yml"),
    ("artifacts", .list [.dict [("defconfig", .str "suderra_x86_64_defconfig"), ("artifact", .str "disk.img.xz"),
      ("sha256", .str "254eddf15d9534e3b20c55469077aa2f24f167aa4b897a36381d3e251e4829c2")]]),
    ("installers", .list [
      sampleInstaller "x86_64" "aaf631698ae5160ceb04a97681a14887fdcab47cd6e0f163c87485b3b1340b62",
      sampleInstaller "aarch64" "5121ae59314a84da7b4d9587374398f1afa2000b243b3e54f491adefaac54f92"]),
    ("image_build_contract", .dict [("role", .str "image-build-contract"), ("path", .str "image-build-contract/image-build-contract.json"),
      ("bytes", .int 20),
      ("sha256", .str "b9442e935ed1c008e23d8b90b7253ac17fe4ba62aca7c9a6322511501c080827")])]

def sampleRow : Fields :=
  [("name", .str "suderra_x86_64_defconfig"), ("artifact", .str "disk.img"), ("release_artifact", .str "suderra-x86_64-target.img.xz"),
    ("release", .bool true), ("expected_artifacts", .list [.str "disk.img", .str "disk.img.xz"])]

def sampleMatrix : Matrix where
  defconfigs := [.dict sampleRow]
  securityScans := []

def sampleNames : List String :=
  ["suderra-x86_64-target.img.xz", "suderra-installer-v1.0.0-x86_64", "suderra-installer-v1.0.0-aarch64"]

/-- The staged files and one more installer, which holds what that of aarch64 does. -/
def sampleDir (more : String) (hmore : IsName more) : ReleaseDir where
  path := ⟨"", ["release"]⟩
  listing := some (sampleNames ++ [more])
  files := fun path =>
    if path = ⟨"", ["release", "suderra-x86_64-target.img.xz"]⟩ then some imageBytes
    else if path = ⟨"", ["release", "suderra-installer-v1.0.0-x86_64"]⟩ then some (installerBytes "x86_64")
    else if path = ⟨"", ["release", "suderra-installer-v1.0.0-aarch64"]⟩ then some (installerBytes "aarch64")
    else if path = ⟨"", ["release", more]⟩ then some (installerBytes "aarch64")
    else none
  isName := by
    simp only [Option.getD_some, sampleNames, List.forall_mem_append, List.forall_mem_cons, List.not_mem_nil, false_implies,
      implies_true, and_true]
    exact ⟨⟨by decide, by decide, by decide⟩, hmore⟩

/-- The sample is accepted with either of the two names beside the staged ones. -/
theorem validate_samples :
    validate samplePython (.dict sampleBinding) (sampleDir "suderra-installer-v1.0.0-riscv64" (by decide)) sampleMatrix = .ok [] ∧
      validate samplePython (.dict sampleBinding) (sampleDir "SHA256SUMS" (by decide)) sampleMatrix = .ok [] := by
  decide +kernel

theorem releaseRows_sample : releaseRows sampleMatrix = [sampleRow] := rfl

theorem rowsDistinct_sample : RowsDistinct samplePython sampleMatrix := by
  rw [RowsDistinct, releaseRows_sample]
  exact List.pairwise_singleton _ _

/-- The names that the sample release stages. -/
theorem expected_sample {name : String} (h : name ∈ sampleNames) : Expected samplePython sampleBinding sampleMatrix name := by
  simp only [sampleNames, List.mem_cons, List.not_mem_nil, or_false] at h
  rcases h with rfl | rfl | rfl
  · exact Or.inl ⟨"suderra_x86_64_defconfig", "disk.img.xz", sampleRow, List.mem_singleton.2 rfl, rfl, by decide, rfl⟩
  · exact Or.inr ⟨"v1.0.0", rfl, "x86_64", by decide, by decide⟩
  · exact Or.inr ⟨"v1.0.0", rfl, "aarch64", by decide, by decide⟩

theorem bound_sample : Bound samplePython sampleBinding sampleMatrix "suderra-x86_64-target.img.xz" imageBytes := by
  have hnames : ∀ name ∈ (sampleDir "SHA256SUMS" (by decide)).fileNames, MustBeBound name → name ∈ sampleNames := by
    intro name hname hmust
    rcases List.mem_append.1 (ReleaseDir.mem_fileNames.1 hname).1 with hname | hname
    · exact hname
    · obtain rfl := List.mem_singleton.1 hname
      exact absurd hmust.1 (by decide)
  have hbound := ((bound_iff validate_samples.2).2 ⟨fun name hname hmust _ => expected_sample (hnames name hname hmust),
    rowsDistinct_sample⟩).1
  exact hbound _ (ReleaseDir.mem_fileNames.2 ⟨List.mem_cons_self, rfl⟩) ⟨by decide, by decide⟩ imageBytes rfl

/-- An installer that nothing binds is accepted. -/
theorem not_bound_sample :
    ¬∀ (Γ : Python) (binding : Fields) (D : ReleaseDir) (M : Matrix), validate Γ (.dict binding) D M = .ok [] →
      (∀ name ∈ D.fileNames, MustBeBound name → ∀ bytes, D.file name = some bytes → Bound Γ binding M name bytes) ∧
        RowsDistinct Γ M := by
  intro h
  have hname : "suderra-installer-v1.0.0-riscv64" ∈ (sampleDir "suderra-installer-v1.0.0-riscv64" (by decide)).fileNames := by
    decide
  have hmust : MustBeBound "suderra-installer-v1.0.0-riscv64" := ⟨by decide, by decide⟩
  have hbound := (h samplePython sampleBinding _ sampleMatrix validate_samples.1).1 _ hname hmust (installerBytes "aarch64") (by decide)
  rcases hbound with ⟨defconfig, artifact, ⟨row, hrow, -, hartifact, hstaged⟩, -⟩ | ⟨version, hversion, arch, harch, hname, -⟩
  · obtain rfl := List.mem_singleton.1 hrow
    have hartifact : artifact = "disk.img" ∨ artifact = "disk.img.xz" := List.mem_pair.1 hartifact
    revert hstaged
    rcases hartifact with rfl | rfl <;> decide
  · obtain rfl : "v1.0.0" = version := Value.str.inj hversion
    revert hname
    rcases List.mem_pair.1 harch with rfl | rfl <;> decide

end SuderraOs.Publish.Staged
