import SuderraOs.Evidence.OperatorCreate

/-!
# An accepted operator tree is the recorded one

The three loops of `validate_manifest` together: the records, the scan of the trees and the two differences of sets. What comes out
is a bijection between the records and the files (`accepted_exact`). A version scopes a file by the second name of its path, so a
file may stand where the directory of the version would (`accepts_file_at_version`).
-/

namespace SuderraOs.Evidence.OperatorIngress

open Value

section Exact

variable {L : Libraries} {C : Contract} {T : FileTree} {A : Args} {now : Int}

/-- What an accepted manifest says of a file of the operator: its record, its bytes and where it stands. -/
structure FileExact (L : Libraries) (T : FileTree) (inputRoot : List String) (version : String) (item : Value) (names : List String)
    (bytes : Bytes) : Prop where
  record : ∃ fields, item = .dict fields ∧ (field "bytes" fields).pyEq (.int bytes.length) = true ∧
    field "sha256" fields = .str (L.hexdigest bytes)
  nonempty : bytes ≠ []
  scope : names[1]? = some version
  real : T.resolve (inputRoot ++ names) = some (inputRoot ++ names)

/-- The records of a manifest and the files of the operator are in bijection, by their normalized paths. -/
structure Exact (L : Libraries) (C : Contract) (T : FileTree) (A : Args) (inputRoot : List String) (manifest : Fields) : Prop where
  records_nodup : ((filesOf manifest).map recordRel).Nodup
  record_file : ∀ item ∈ filesOf manifest, ∃ names bytes, recordRel item = some ⟨"", names⟩ ∧
    IsOperatorFile C T inputRoot names bytes ∧ FileExact L T inputRoot (versionOf L manifest) item names bytes
  file_record : ∀ names bytes, IsOperatorFile C T inputRoot names bytes → ∃ item ∈ filesOf manifest,
    recordRel item = some ⟨"", names⟩
  required : ∃ required, operatorRequiredEvidencePaths L.toPython C (versionOf L manifest) A.matrix = .ok required ∧
    ∀ path ∈ required, ∃ item ∈ filesOf manifest, (recordRel item).map toString = some path

/-- Records that are checked against a tree whose scan has no failures and finds the same paths are in bijection with its files. -/
theorem exact_of_treeFailures {manifest : Fields} {inputRoot : List String} (hroot : A.inputRoot = some inputRoot)
    (hrecords : recordsFailures L C T A (versionOf L manifest) [] 0 (filesOf manifest) = .ok [])
    (hrequired : requiredPathsFailures L C A manifest = .ok []) (htree : treeFailures L C T A manifest inputRoot = .ok []) :
    Exact L C T A inputRoot manifest := by
  obtain ⟨hrecord, hnodup, _⟩ := (recordsFailures_eq_nil hroot).1 hrecords
  obtain ⟨core, _, htree⟩ := bind_ok_iff.1 htree
  simp only [Except.ok.injEq, List.append_eq_nil_iff, failUnless_eq_nil, List.isEmpty_iff, sortedDiff_eq_nil] at htree
  obtain ⟨⟨⟨⟨hscan, homitted⟩, hmissing⟩, _⟩, _⟩ := htree
  -- the records are listed once by their text, so they are by their path
  have hrelNodup : ((filesOf manifest).map recordRel).Nodup := by
    rw [funext recordPath_eq] at hnodup
    exact List.Nodup.of_map (Option.map toString) (by rw [List.map_map]; exact hnodup)
  refine ⟨hrelNodup, ?_, ?_, ?_⟩
  · intro item hitem
    obtain ⟨rel, hitemRecord⟩ := hrecord item hitem
    obtain ⟨first, rest, rfl, hnames⟩ := hitemRecord.scoped_path
    have hseen := List.mem_filterMap.2 ⟨_, hitem, (recordPath_eq _).trans (congrArg _ hitemRecord.path)⟩
    obtain ⟨names', bytes, hfile, htext⟩ := (mem_scannedPaths hscan).1 (hmissing _ hseen)
    obtain rfl := eq_of_toString_eq (by simp) hfile.names_ne_nil hnames hfile.isName htext
    -- the file that the record names through links is the one that stands there
    obtain ⟨fields, rfl, _, hmatches⟩ := hitemRecord.record
    obtain ⟨bytes', hmatch⟩ := hmatches.file
    obtain rfl : bytes = bytes' := Option.some.inj (hfile.read.symm.trans hmatch.read)
    exact ⟨_, bytes, hitemRecord.path, hfile, ⟨fields, rfl, hmatch.size, hmatch.sha256⟩, hmatch.nonempty, rfl,
      FileTree.resolve_eq rfl hfile.lstat⟩
  · intro names bytes hfile
    have hmem := homitted _ ((mem_scannedPaths hscan).2 ⟨names, bytes, hfile, rfl⟩)
    obtain ⟨item, hitem, hpath⟩ := List.mem_filterMap.1 hmem
    obtain ⟨rel, hitemRecord⟩ := hrecord item hitem
    obtain ⟨first, rest, rfl, hnames⟩ := hitemRecord.scoped_path
    simp only [recordPath_eq, hitemRecord.path, Option.map_some, Option.some.injEq] at hpath
    obtain rfl := eq_of_toString_eq (by simp) hfile.names_ne_nil hnames hfile.isName hpath
    exact ⟨_, hitem, hitemRecord.path⟩
  · unfold requiredPathsFailures at hrequired
    split at hrequired
    · obtain ⟨required, hpaths, hrequired⟩ := bind_ok_iff.1 hrequired
      simp only [Except.ok.injEq, List.append_eq_nil_iff, failUnless_eq_nil, List.isEmpty_iff, sortedDiff_eq_nil] at hrequired
      refine ⟨required, hpaths, fun path hpath => ?_⟩
      obtain ⟨item, hitem, hrecord⟩ := List.mem_filterMap.1 (hrequired.2 path hpath)
      exact ⟨item, hitem, by rw [← hrecord, recordPath_eq]⟩
    · cases hrequired

/-- What the acceptance of a manifest says of the tree it is replayed on. -/
structure Replayed (L : Libraries) (C : Contract) (T : FileTree) (A : Args) (inputRoot : List String) (manifest : Fields) : Prop where
  manifest_eq : readJson L.toPython (treeFiles T) A.manifest = .ok (some (.dict manifest))
  identity : identityFailures L A manifest = []
  scan : scanEvidenceFailures L C T inputRoot (versionOf L manifest) = []
  exact : Exact L C T A inputRoot manifest

theorem replayed_of_validateManifest {inputRoot : List String} (hroot : A.inputRoot = some inputRoot)
    (h : validateManifest L C T A now = .ok []) : ∃ manifest, Replayed L C T A inputRoot manifest := by
  obtain ⟨document, hdocument, h⟩ := bind_ok_iff.1 h
  split at h
  · cases h
  · next manifest =>
    obtain ⟨bundle, _, h⟩ := bind_ok_iff.1 h
    obtain ⟨records, hrecords, h⟩ := bind_ok_iff.1 h
    obtain ⟨required, hrequired, h⟩ := bind_ok_iff.1 h
    obtain ⟨tree, htree, h⟩ := bind_ok_iff.1 h
    simp only [Except.ok.injEq, List.append_eq_nil_iff] at h
    obtain ⟨⟨⟨⟨⟨⟨⟨⟨_, _⟩, hidentity⟩, _⟩, _⟩, _⟩, rfl⟩, rfl⟩, rfl⟩ := h.1
    rw [hroot, Option.map_some, Option.getD_some] at htree
    have hexact := exact_of_treeFailures hroot hrecords hrequired htree
    obtain ⟨core, _, htree⟩ := bind_ok_iff.1 htree
    simp only [Except.ok.injEq, List.append_eq_nil_iff] at htree
    exact ⟨manifest, hdocument, hidentity, htree.1.1.1.1, hexact⟩
  · cases h

/-- The records of a manifest that the validator accepts with a tree are in bijection with the files of the operator in it. -/
theorem accepted_exact {inputRoot : List String} (hroot : A.inputRoot = some inputRoot)
    (h : validateManifest L C T A now = .ok []) :
    ∃ manifest, readJson L.toPython (treeFiles T) A.manifest = .ok (some (.dict manifest)) ∧ Exact L C T A inputRoot manifest := by
  obtain ⟨manifest, hreplayed⟩ := replayed_of_validateManifest hroot h
  exact ⟨manifest, hreplayed.manifest_eq, hreplayed.exact⟩

end Exact

theorem accepted_exact_candidate :
    ∃ manifest, readJson sampleLibraries.toPython (treeFiles candidate.written) manifestPath = .ok (some (.dict manifest)) ∧
      Exact sampleLibraries evidenceContract candidate.written (sampleArgs.validateArgs manifestPath false) ["in"] manifest :=
  accepted_exact (A := sampleArgs.validateArgs manifestPath false) rfl (candidate_clean.validateManifest_eq_nil.2 candidate_agrees)

/-- A file where the directory of the version would stand. -/
def candidateAtVersion : Sample :=
  ⟨[(["in", "release-ota", sampleVersion], textBytes "x".toList)], [], by decide +kernel⟩

theorem candidateAtVersion_scanned : candidateAtVersion.Scanned := by decide +kernel

theorem candidateAtVersion_clean : candidateAtVersion.Clean :=
  ⟨by simp [candidateAtVersion], candidateAtVersion_scanned.1, candidateAtVersion_scanned.2⟩

/-- A tree is accepted though one of its files stands at the version of a root and not below it. -/
theorem accepts_file_at_version :
    validateManifest sampleLibraries evidenceContract candidateAtVersion.written (sampleArgs.validateArgs manifestPath false)
        sampleNow = .ok [] ∧
      ∃ names bytes, IsOperatorFile evidenceContract candidateAtVersion.written ["in"] names bytes ∧
        ¬ ∃ root rest, rest ≠ [] ∧ names = root :: sampleVersion :: rest := by
  refine ⟨candidateAtVersion_clean.validateManifest_eq_nil.2 (candidateAtVersion_clean.agrees ?_ (by decide +kernel) (by decide +kernel)),
    ["release-ota", sampleVersion], textBytes "x".toList, candidateAtVersion_clean.isOperatorFile_iff.2
      ⟨⟨_, _, rfl, by simp, by decide⟩, List.mem_append_right _ List.mem_cons_self⟩, ?_⟩
  · simp only [candidateAtVersion, List.mem_singleton, forall_eq]
    decide
  · rintro ⟨root, rest, hne, heq⟩
    exact hne (by simpa using (List.cons.inj (List.cons.inj heq).2).2.symm)

end SuderraOs.Evidence.OperatorIngress
