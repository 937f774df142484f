import SuderraOs.Evidence.IngressRecords
import SuderraOs.Evidence.OperatorExact

/-!
# The tree of a release ingress

Two input trees on which one manifest is accepted hold the same files where a record names them or the operator supplies them. Below the
other roots nothing rules out a file that no record names, so the trees are the same exactly when they agree on those
(`same_inputs_iff`).
-/

namespace SuderraOs.Evidence.ReleaseIngress

open Value OperatorIngress BuildrootIdentity

/-- The names of a place below one of the roots of the inputs of a profile. -/
structure IsInput (C : Contract) (profile : String) (names : List String) : Prop where
  below : ∃ roots root rest, C.preflightInputRoots profile = .ok roots ∧ root ∈ roots ∧ names = root :: rest ∧ rest ≠ []
  names : ∀ name ∈ names, IsName name

/-- The places of the manifest and of the sidecars of its signature. -/
def selfPlaces (A : Args) : List (List String) :=
  A.manifest.names :: [".sig", ".cert"].map fun ext => A.manifest.names.dropLast ++ [A.manifest.name ++ ext]

/-- Two trees hold the same file at a place, or none, unless it is the manifest or its signature. -/
def SameAt (A : Args) (T T' : FileTree) (inputRoot names : List String) : Prop :=
  inputRoot ++ names ∉ selfPlaces A → T.read (inputRoot ++ names) = T'.read (inputRoot ++ names)

/-- A place that the operator does not supply and that no record of an input names. -/
structure Unrecorded (C : Contract) (manifest : Fields) (names : List String) : Prop where
  root : ∀ root ∈ names.head?, root ∉ C.operatorIngressAllowedRoots
  record : ∀ item, .dict item ∈ filesOf manifest → isPreflightInput item = true → pathOf item ≠ some ⟨"", names⟩

/-- No two files at one place of the trees have the same digest by accident. -/
def NoCollision (L : BuildrootIdentity.Libraries) (T T' : FileTree) (inputRoot : List String) : Prop :=
  ∀ names bytes bytes', (∀ name ∈ names, IsName name) → T.read (inputRoot ++ names) = some bytes →
    T'.read (inputRoot ++ names) = some bytes' → L.hexdigest bytes = L.hexdigest bytes' → bytes = bytes'

section

variable {L : BuildrootIdentity.Libraries} {C : Contract} {T T' : FileTree} {M : Matrix} {A : Args} {now now' : Int}
  {inputRoot : List String} {manifest : Fields}

theorem NoCollision.symm (h : NoCollision L T T' inputRoot) : NoCollision L T' T inputRoot :=
  fun names bytes bytes' hnames hread hread' hsha => (h names bytes' bytes hnames hread' hread hsha.symm).symm

/-- A version that the operator's manifest may have is the name of a directory. -/
theorem isName_of_isSemver {version : String} (h : isSemver version = true) : IsName version := by
  have hmem := mem_of_isSemver h
  refine ⟨fun hempty => by simp [hempty] at hmem, fun hdot => by simp [hdot] at hmem, fun hparent => by simp [hparent] at hmem, ?_⟩
  unfold isSemver at h
  simp only at h
  split at h
  · next cs hcs =>
    obtain ⟨hcore, htail⟩ := Bool.and_eq_true_iff.1 h
    rw [hcs, ← List.takeWhile_append_dropWhile (p := (· ≠ '-')) (l := cs), List.mem_cons, List.mem_append]
    rintro (heq | hmem | hmem)
    · exact absurd heq (by decide)
    · split at hcore
      · next major minor patch hsplit =>
        have hjoin : ['.'].intercalate ((cs.takeWhile (· ≠ '-')).splitOn '.') = cs.takeWhile (· ≠ '-') := List.intercalate_splitOn '.'
        rw [hsplit] at hjoin
        rw [← hjoin] at hmem
        simp only [Bool.and_eq_true, List.all_eq_true] at hcore
        have hdigit : ∀ cs : List Char, (∀ c ∈ cs, c.isDigit = true) → '/' ∉ cs := fun cs h hslash => absurd (h _ hslash) (by decide)
        have hmajor := hdigit major hcore.1.1.2
        have hminor := hdigit minor hcore.1.2.2
        have hpatch := hdigit patch hcore.2.2
        simp [List.intercalate_cons_cons, hmajor, hminor, hpatch] at hmem
      · cases hcore
    · split at htail
      · next hnil =>
        rw [hnil] at hmem
        cases hmem
      · cases htail
      · next c c' rest hrest =>
        simp only [Bool.and_eq_true, List.all_eq_true] at htail
        have hdash := List.head?_dropWhile_not (· ≠ '-') cs
        rw [hrest, List.head?_cons] at hdash
        rw [hrest] at hmem
        rcases List.mem_cons.1 hmem with rfl | hmem
        · exact absurd hdash (by decide)
        rcases List.mem_cons.1 hmem with rfl | hmem
        · exact absurd htail.1 (by decide)
        · exact absurd (htail.2 _ hmem) (by decide)
  · cases h

/-- What the acceptance of a manifest of a strict profile has replayed. -/
theorem operator_of_strict {binding : Option Value} {version : String} (hversion : version = textField L.toPython "version" manifest)
    (hroot : A.inputRoot = some inputRoot) (hstrict : isStrict C manifest = true)
    (h : strictFailures L C T M A now manifest binding = .ok []) :
    (preflightRecords manifest s!"release-ingress/{version}/{evidenceIngressManifest}").length = 1 ∧
      OperatorIngress.validateManifest L.toLibraries C T (operatorArgs L M A manifest inputRoot) now = .ok [] := by
  subst hversion
  rw [strictFailures, if_pos hstrict] at h
  obtain ⟨operator, hoperator, h⟩ := bind_ok_iff.1 h
  simp only [Except.ok.injEq, List.append_eq_nil_iff, failUnless_eq_nil, decide_eq_true_eq] at h
  obtain ⟨⟨⟨⟨honce, _⟩, _⟩, rfl⟩, _⟩ := h
  rw [hroot, Option.filter_some, if_pos (decide_eq_true honce), Option.map_some, Option.getD_some] at hoperator
  obtain ⟨failures, hfailures, hnil⟩ := bind_ok_iff.1 hoperator
  obtain rfl : failures = [] := List.map_eq_nil_iff.1 (Except.ok.inj hnil)
  exact ⟨honce, hfailures⟩

/-- A record of an input is of the file that both trees hold. -/
theorem read_eq_of_record {binding binding' : Option Value} (hroot : A.inputRoot = some inputRoot)
    (h : Accepted L C T M A now manifest binding) (h' : Accepted L C T' M A now' manifest binding')
    (hsha : NoCollision L T T' inputRoot) {item : Fields} {names : List String} (hitem : .dict item ∈ filesOf manifest)
    (hinput : isPreflightInput item = true) (hpath : pathOf item = some ⟨"", names⟩) :
    T.read (inputRoot ++ names) = T'.read (inputRoot ++ names) := by
  have hfile {T : FileTree} {now : Int} {binding : Option Value} (h : Accepted L C T M A now manifest binding) :
      ∃ bytes, T.read (inputRoot ++ names) = some bytes ∧ field "sha256" item = .str (L.hexdigest bytes) := by
    obtain ⟨fields, rel, heq, hrecord⟩ := h.isRecord _ hitem
    obtain rfl := Value.dict.inj heq
    obtain rfl : rel = ⟨"", names⟩ := Option.some.inj (hrecord.path.symm.trans hpath)
    obtain ⟨bytes, hread, _, _, hdigest⟩ := hrecord.file inputRoot (by rw [recordRoot, if_pos hinput, hroot])
    exact ⟨bytes, hread, hdigest⟩
  obtain ⟨bytes, hread, hdigest⟩ := hfile h
  obtain ⟨bytes', hread', hdigest'⟩ := hfile h'
  rw [hread, hread', hsha names bytes bytes' (relativePath_spec hpath).2 hread hread' (Value.str.inj (hdigest.symm.trans hdigest'))]

/-- Where the manifest of the operator stands. -/
theorem operatorManifest_place {replayed : Fields}
    (h : Replayed L.toLibraries C T (operatorArgs L M A manifest inputRoot) inputRoot replayed) :
    (operatorArgs L M A manifest inputRoot).manifest =
        placeOf inputRoot ⟨"", ["release-ingress", textField L.toPython "version" manifest, evidenceIngressManifest]⟩ ∧
      IsName (textField L.toPython "version" manifest) := by
  have hidentity := h.identity
  have hexpected : (operatorArgs L M A manifest inputRoot).expectedVersion = some (textField L.toPython "version" manifest) := rfl
  simp only [identityFailures, hexpected, expectText, Option.toList_some, List.flatMap_cons, List.flatMap_nil, List.append_nil,
    List.append_eq_nil_iff, failUnless_eq_nil, pyEq_str_iff] at hidentity
  have hsource := hidentity.1.1.1.1.1.1
  have hversion := hidentity.1.1.1.1.1.2
  rw [hversion] at hsource
  have hname : IsName (textField L.toPython "version" manifest) := by
    split at hsource
    · next version sourceSha heq _ =>
      obtain rfl := Value.str.inj heq
      exact isName_of_isSemver (failUnless_eq_nil.1 (List.append_eq_nil_iff.1 hsource).1)
    · cases hsource
  refine ⟨?_, hname⟩
  have hplace : (operatorArgs L M A manifest inputRoot).manifest =
      versionedPath inputRoot "release-ingress" (textField L.toPython "version" manifest) evidenceIngressManifest := rfl
  rw [hplace, versionedPath, PosixPath.ofString_of_isName hname]
  simp [placeOf, PosixPath.join, PosixPath.isAbsolute, PosixPath.child]

/-- A path with the text of the place of the manifest of the operator is that place. -/
theorem eq_manifestPath {v : Value} {rel : PosixPath} {version : String} (hrel : relativePath v = some rel) (hname : IsName version)
    (htext : toString rel = s!"release-ingress/{version}/{evidenceIngressManifest}") :
    rel = ⟨"", ["release-ingress", version, evidenceIngressManifest]⟩ := by
  obtain ⟨root, names⟩ := rel
  obtain ⟨hnoRoot, hnames⟩ := relativePath_spec hrel
  obtain rfl : root = "" := hnoRoot
  have hplaceNames : ∀ name ∈ ["release-ingress", version, evidenceIngressManifest], IsName name := by
    simp only [List.forall_mem_cons]
    exact ⟨by decide, hname, by decide, by simp⟩
  have hplace : toString (⟨"", ["release-ingress", version, evidenceIngressManifest]⟩ : PosixPath) =
      s!"release-ingress/{version}/{evidenceIngressManifest}" := by
    rw [← String.toList_inj, PosixPath.toList_toString (by simp)]
    simp [String.toList_append, toString]
  have hne : names ≠ [] := by
    rintro rfl
    have hempty : PosixPath.ofString (toString (⟨"", []⟩ : PosixPath)) = ⟨"", []⟩ := by decide
    have hread := PosixPath.ofString_toString (by simp) fun name hmem =>
      ⟨(hplaceNames name hmem).ne_empty, (hplaceNames name hmem).ne_dot, (hplaceNames name hmem).no_slash⟩
    rw [hplace, ← htext, hempty] at hread
    cases hread
  rw [eq_of_toString_eq hne (by simp) hnames hplaceNames (htext.trans hplace.symm)]

/-- Both trees have the same manifest of the operator. -/
theorem replayed_eq {binding binding' : Option Value} (hroot : A.inputRoot = some inputRoot) (hstrict : isStrict C manifest = true)
    (h : Accepted L C T M A now manifest binding) (h' : Accepted L C T' M A now' manifest binding')
    (hsha : NoCollision L T T' inputRoot) : ∃ replayed,
      Replayed L.toLibraries C T (operatorArgs L M A manifest inputRoot) inputRoot replayed ∧
        Replayed L.toLibraries C T' (operatorArgs L M A manifest inputRoot) inputRoot replayed := by
  obtain ⟨honce, hoperator⟩ := operator_of_strict rfl hroot hstrict h.strict
  obtain ⟨_, hoperator'⟩ := operator_of_strict rfl hroot hstrict h'.strict
  obtain ⟨replayed, hreplayed⟩ := replayed_of_validateManifest rfl hoperator
  obtain ⟨replayed', hreplayed'⟩ := replayed_of_validateManifest rfl hoperator'
  obtain ⟨hplace, hname⟩ := operatorManifest_place hreplayed
  obtain ⟨item, hsingle⟩ := List.length_eq_one_iff.1 honce
  have hmem := List.mem_singleton.2 (rfl : item = item)
  rw [← hsingle] at hmem
  obtain ⟨hdict, hkeep⟩ := List.mem_filter.1 hmem
  simp only [Bool.and_eq_true, decide_eq_true_eq] at hkeep
  obtain ⟨v, hv, hasDict⟩ := List.mem_filterMap.1 hdict
  obtain rfl := asDict_eq_some.1 hasDict
  obtain ⟨rel, hrel, htext⟩ := Option.map_eq_some_iff.1 hkeep.2
  have hrel' := eq_manifestPath hrel hname htext
  have hread := read_eq_of_record hroot h h' hsha hv hkeep.1 (hrel' ▸ hrel)
  have hsame : readJson L.toPython (treeFiles T) (operatorArgs L M A manifest inputRoot).manifest =
      readJson L.toPython (treeFiles T') (operatorArgs L M A manifest inputRoot).manifest := by
    have hbytes : treeFiles T (operatorArgs L M A manifest inputRoot).manifest =
        treeFiles T' (operatorArgs L M A manifest inputRoot).manifest := by
      rw [hplace]
      simpa [treeFiles, placeOf, PosixPath.join, PosixPath.isAbsolute] using hread
    rw [readJson, readJson, hbytes]
  obtain rfl : replayed = replayed' := by simpa using hreplayed.manifest_eq.symm.trans (hsame.trans hreplayed'.manifest_eq)
  exact ⟨replayed, hreplayed, hreplayed'⟩

/-- Below a root whose scan has no failures there are no links. -/
theorem noLinks_of_scan {version root : String} (h : (scanRoot L.toLibraries C T inputRoot version root).2 = [])
    (hstat : T.stat (inputRoot ++ [root]) ≠ none) : T.lstat (inputRoot ++ [root]) = some .dir ∧
      ∀ below node, below ≠ [] → T.lstat (inputRoot ++ [root] ++ below) = some node → node.isLink = false := by
  have hsome : (T.stat (inputRoot ++ [root])).isNone = false := by simpa [Option.isSome_iff_ne_none] using hstat
  simp only [scanRoot, hsome, Bool.false_eq_true, if_false] at h
  split at h
  · cases h
  · next hdir =>
    refine ⟨not_not.1 hdir, fun below node hne hlstat => ?_⟩
    have hmem : (inputRoot ++ [root] ++ below, node) ∈ T.rglob (inputRoot ++ [root]) :=
      FileTree.mem_rglob.2 ⟨(FileTree.lstat_eq_some (by simp)).1 hlstat, ⟨below, rfl⟩, by simpa using hne⟩
    have hnode := List.flatMap_eq_nil_iff.1 h _ hmem
    cases node with
    | link target => cases hnode
    | _ => rfl

/-- A file that the operator supplies to one of the trees is in the other. -/
theorem read_of_operator {replayed : Fields} (h : Replayed L.toLibraries C T (operatorArgs L M A manifest inputRoot) inputRoot replayed)
    (h' : Replayed L.toLibraries C T' (operatorArgs L M A manifest inputRoot) inputRoot replayed) (hsha : NoCollision L T T' inputRoot)
    {root : String} {rest : List String} (hrest : rest ≠ []) (hnames : ∀ name ∈ root :: rest, IsName name)
    (hmem : root ∈ C.operatorIngressAllowedRoots) {bytes : Bytes} (hread : T.read (inputRoot ++ root :: rest) = some bytes) :
    T'.read (inputRoot ++ root :: rest) = some bytes := by
  have hassoc : inputRoot ++ root :: rest = inputRoot ++ [root] ++ rest := by simp
  have hscan := List.flatMap_eq_nil_iff.1 h.scan root hmem
  have hparent : ".." ∉ rest := fun hmem => (hnames _ (List.mem_cons_of_mem _ hmem)).ne_parent rfl
  have hlstat : T.lstat (inputRoot ++ root :: rest) = some (.file bytes) := by
    rw [hassoc] at hread ⊢
    exact FileTree.lstat_of_read hrest hparent (fun hstat => noLinks_of_scan hscan hstat) hread
  have hfile : IsOperatorFile C T inputRoot (root :: rest) bytes := ⟨⟨root, rest, rfl, hrest, hmem⟩, hlstat⟩
  obtain ⟨item, hitem, hrel⟩ := h.exact.file_record _ _ hfile
  have hrecorded {T : FileTree} (h : Replayed L.toLibraries C T (operatorArgs L M A manifest inputRoot) inputRoot replayed) :
      ∃ bytes fields, IsOperatorFile C T inputRoot (root :: rest) bytes ∧ item = .dict fields ∧
        field "sha256" fields = .str (L.hexdigest bytes) := by
    obtain ⟨names, bytes, hrel', hfile, ⟨fields, hitem, _, hdigest⟩, _⟩ := h.exact.record_file item hitem
    rw [hrel] at hrel'
    obtain rfl : root :: rest = names := (PosixPath.mk.inj (Option.some.inj hrel')).2
    exact ⟨bytes, fields, hfile, hitem, hdigest⟩
  obtain ⟨bytes₁, fields, hfile₁, rfl, hdigest⟩ := hrecorded h
  obtain ⟨bytes₂, fields', hfile₂, heq, hdigest'⟩ := hrecorded h'
  obtain rfl := Value.dict.inj heq
  obtain rfl : bytes = bytes₁ := by simpa using hlstat.symm.trans hfile₁.lstat
  have hread' := FileTree.read_eq hfile₂.lstat
  rw [hread', hsha _ bytes bytes₂ hnames hread hread' (Value.str.inj (hdigest.symm.trans hdigest'))]

/-- Two trees that a manifest is accepted on hold the same inputs exactly when they agree on what no record names. -/
theorem same_inputs_iff (hroot : A.inputRoot = some inputRoot)
    (hmanifest : readJson L.toPython (treeFiles T) A.manifest = .ok (some (.dict manifest)))
    (hmanifest' : readJson L.toPython (treeFiles T') A.manifest = .ok (some (.dict manifest))) (hstrict : isStrict C manifest = true)
    (hsha : NoCollision L T T' inputRoot) (h : validateManifest L C T M A now = .ok []) (h' : validateManifest L C T' M A now' = .ok []) :
    (∀ names, IsInput C (textField L.toPython "profile" manifest) names → SameAt A T T' inputRoot names) ↔
      ∀ names, IsInput C (textField L.toPython "profile" manifest) names → Unrecorded C manifest names → SameAt A T T' inputRoot names := by
  obtain ⟨document, binding, haccepted⟩ := accepted_of_validateManifest h
  obtain ⟨document', binding', haccepted'⟩ := accepted_of_validateManifest h'
  obtain rfl : manifest = document := by simpa using hmanifest.symm.trans haccepted.manifest_eq
  obtain rfl : manifest = document' := by simpa using hmanifest'.symm.trans haccepted'.manifest_eq
  refine ⟨fun hsame names hinput _ => hsame names hinput, fun hsame names hinput => ?_⟩
  by_cases hrecord : ∃ item, .dict item ∈ filesOf manifest ∧ isPreflightInput item = true ∧ pathOf item = some ⟨"", names⟩
  · obtain ⟨item, hitem, hpreflight, hpath⟩ := hrecord
    exact fun _ => read_eq_of_record hroot haccepted haccepted' hsha hitem hpreflight hpath
  · obtain ⟨⟨roots, root, rest, hroots, hroot', rfl, hrest⟩, hnames⟩ := hinput
    by_cases hmem : root ∈ C.operatorIngressAllowedRoots
    · obtain ⟨replayed, hreplayed, hreplayed'⟩ := replayed_eq hroot hstrict haccepted haccepted' hsha
      intro _
      cases hread : T.read (inputRoot ++ root :: rest) with
      | some bytes => exact (read_of_operator hreplayed hreplayed' hsha hrest hnames hmem hread).symm
      | none =>
        cases hread' : T'.read (inputRoot ++ root :: rest) with
        | none => rfl
        | some bytes =>
          have hback := read_of_operator hreplayed' hreplayed hsha.symm hrest hnames hmem hread'
          rw [hread] at hback
          cases hback
    · refine hsame _ ⟨⟨roots, root, rest, hroots, hroot', rfl, hrest⟩, hnames⟩ ⟨by simpa using hmem, fun item hitem hpreflight hpath => ?_⟩
      exact hrecord ⟨item, hitem, hpreflight, hpath⟩

end

/-! ## An ingress of a release candidate -/

/-- The manifest of the operator and the sidecars of its signature. -/
def operatorFiles : List (String × Bytes) :=
  [(evidenceIngressManifest, textBytes candidate.text), ("evidence-ingress-manifest.json.sig", textBytes "signature".toList),
    ("evidence-ingress-manifest.json.cert", textBytes "certificate".toList)]

/-- The record of a file that the operator supplies beside the evidence. -/
def operatorRecord (p : String × Bytes) : Fields :=
  ingressRecord "preflight-input" (if p.1 = evidenceIngressManifest then "evidence-ingress" else "evidence-ingress-signature")
    ["release-ingress", sampleVersion, p.1] p.2

def sealedManifest : Fields := sampleIngress "release-candidate" (contractRecord :: operatorFiles.map operatorRecord)

/-- What stands beside the evidence of the candidate when its ingress is accepted. -/
def sealedFiles : List (List String × Bytes) :=
  [(["in", "release-ingress", sampleVersion, "evidence-ingress-manifest.json.sig"], textBytes "signature".toList),
    (["in", "release-ingress", sampleVersion, "evidence-ingress-manifest.json.cert"], textBytes "certificate".toList),
    (["artifacts", "image-build-contract.json"], contractBytes), (["run", "ingress-manifest.json"], documentBytes sealedManifest)]

/-- The candidate with its ingress. -/
def sealed : Sample := ⟨[], sealedFiles, by decide +kernel⟩

/-- A subject graph that no record names. -/
def graphPlace : List String := ["release-subject-graph", sampleVersion, "release-subject-graph.json"]

/-- The candidate with its ingress and a subject graph. -/
def sealedWithGraph : Sample := ⟨[], ("in" :: graphPlace, textBytes "x".toList) :: sealedFiles, by decide +kernel⟩

def sealedArgs : Args := { dryRunArgs with inputRoot := some ["in"], bindingManifest := none }

/-- Both samples are scanned without failures, and nothing that is not the operator's stands below a root of the operator. -/
theorem scanned_sealed : ∀ S ∈ [sealed, sealedWithGraph], S.Scanned ∧
    ∀ p ∈ S.others, ∀ root ∈ evidenceContract.operatorIngressAllowedRoots, ¬["in", root] <+: p.1 := by decide +kernel

theorem clean_of_mem {S : Sample} (hS : S ∈ [sealed, sealedWithGraph]) : S.Clean := by
  obtain ⟨⟨hbefore, hafter⟩, hothers⟩ := scanned_sealed S hS
  exact ⟨hothers, hbefore, hafter⟩

theorem sealed_clean : sealed.Clean := clean_of_mem List.mem_cons_self

theorem sealedWithGraph_clean : sealedWithGraph.Clean := clean_of_mem (List.mem_cons_of_mem _ List.mem_cons_self)

/-- The manifest is strict, names each file of the operator once, names the contract of the build, and has no record of a dry run. -/
theorem records_of_sealedManifest : isStrict evidenceContract sealedManifest = true ∧
    (∀ name ∈ evidenceIngressManifest :: evidenceIngressSignatureSidecars,
      (preflightRecords sealedManifest s!"release-ingress/{sampleVersion}/{name}").length = 1) ∧
    hasImageBuildContract sealedManifest = true ∧ dryRunRecords sealedManifest = [] ∧
    (evidenceContract.preflightInputRoots "release-candidate").toOption.any
      (fun roots => ["release-ingress", "release-subject-graph"].all roots.contains) = true := by decide +kernel

/-- The ingress and the subject graph of a release candidate are among its inputs. -/
theorem roots_of_candidate : ∃ roots, evidenceContract.preflightInputRoots "release-candidate" = .ok roots ∧
    ∀ root ∈ ["release-ingress", "release-subject-graph"], root ∈ roots := by
  obtain ⟨-, -, -, -, hroots⟩ := records_of_sealedManifest
  cases hprofile : evidenceContract.preflightInputRoots "release-candidate" with
  | ok roots =>
    rw [hprofile] at hroots
    exact ⟨roots, rfl, by simpa [Except.toOption] using hroots⟩
  | error message =>
    rw [hprofile] at hroots
    cases hroots

section

variable {S : Sample}

/-- What the operator's manifest of a sample says does not depend on the files that are not the operator's. -/
theorem text_sealed (h : S.Clean) (hextra : S.extra = []) : S.text = candidate.text := by
  have hrecords : scannedRecords sampleLibraries evidenceContract S.written ["in"] sampleVersion =
      scannedRecords sampleLibraries evidenceContract candidate.written ["in"] sampleVersion := by
    refine scannedRecords_congr h.after candidate_clean.after fun names bytes => ?_
    rw [Sample.written, Sample.written, h.isOperatorFile_iff, candidate_clean.isOperatorFile_iff, hextra]
    rfl
  have hmanifest : S.manifest = candidate.manifest := by
    rw [h.manifest_eq, candidate_clean.manifest_eq]
    exact congrArg _ hrecords
  rw [Sample.text, Sample.text, hmanifest]

/-- A file that stands beside the evidence is read. -/
theorem read_others {p : List String × Bytes} (hp : p ∈ S.others) : S.written.read p.1 = some p.2 :=
  FileTree.read_eq (FileTree.lstat_ofFiles (h := S.compatible _) (List.mem_append_right _ (List.mem_cons_of_mem _ hp)))

/-- The files of the operator's manifest are read. -/
theorem read_operatorFiles (h : S.Clean) (hextra : S.extra = []) (hothers : ∀ p ∈ sealedFiles, p ∈ S.others) :
    ∀ p ∈ operatorFiles, S.written.read ["in", "release-ingress", sampleVersion, p.1] = some p.2 := by
  have hmanifest : S.written.read manifestPath.names = some (textBytes candidate.text) := by
    rw [← text_sealed h hextra]
    exact FileTree.read_eq (FileTree.lstat_ofFiles (h := S.compatible _) (List.mem_append_right _ List.mem_cons_self))
  have hfiles : ∀ p ∈ sealedFiles, S.written.read p.1 = some p.2 := fun p hp => read_others (hothers p hp)
  simp only [sealedFiles, List.forall_mem_cons] at hfiles
  simp only [operatorFiles, List.forall_mem_cons]
  exact ⟨hmanifest, hfiles.1, hfiles.2.1, by simp⟩

/-- The records of the ingress are those of files that stand in the tree. -/
theorem sealed_records (h : S.Clean) (hextra : S.extra = []) (hothers : ∀ p ∈ sealedFiles, p ∈ S.others) :
    recordsFailures ingressLibraries evidenceContract S.written sealedArgs "release-candidate" [] 0
      ((contractRecord :: operatorFiles.map operatorRecord).map .dict) = .ok [] := by
  have hnames : ∀ p ∈ operatorFiles, (∀ name ∈ ["release-ingress", sampleVersion, p.1], IsName name) ∧
      isString (.str p.1) = true ∧ isString (.str (toString (⟨"", ["release-ingress", sampleVersion, p.1]⟩ : PosixPath))) = true := by
    decide +kernel
  have hrole : ∀ p ∈ operatorFiles, (if p.1 = evidenceIngressManifest then "evidence-ingress" else "evidence-ingress-signature") =
      preflightInputRoleForPath evidenceContract ⟨"", ["release-ingress", sampleVersion, p.1]⟩ := by decide
  have hroles : ∀ p ∈ operatorFiles,
      isString (.str (if p.1 = evidenceIngressManifest then "evidence-ingress" else "evidence-ingress-signature")) = true := by
    decide
  obtain ⟨roots, hroots, hroot⟩ := roots_of_candidate
  have hnonempty : ∀ p ∈ operatorFiles, p.2 ≠ [] := by
    simp only [operatorFiles, List.forall_mem_cons]
    refine ⟨?_, by decide, by decide, by simp⟩
    simp [Sample.text, textBytes, String.utf8EncodeChar]
  have hoperator : ∀ p ∈ operatorFiles, IsRecord ingressLibraries evidenceContract S.written sealedArgs "release-candidate"
      (operatorRecord p) ⟨"", ["release-ingress", sampleVersion, p.1]⟩ := by
    intro p hp
    obtain ⟨hisName, hname, hpath⟩ := hnames p hp
    refine isRecord_ingressRecord hisName (by simp) (hnonempty p hp) (hroles p hp) hname hpath (by simp) (fun root hroot => ?_) fun _ => ?_
    · obtain rfl : ["in"] = root := Option.some.inj hroot
      exact read_operatorFiles h hextra hothers p hp
    · exact ⟨roots, hroots, by simpa using hroot "release-ingress" (by simp), hrole p hp⟩
  have hcontract : IsRecord ingressLibraries evidenceContract S.written sealedArgs "release-candidate" contractRecord
      ⟨"", ["image-build-contract.json"]⟩ := by
    refine isRecord_ingressRecord (by decide) (by simp) (by decide) (by decide) (by decide)
      (by decide) (by simp) (fun root hroot => ?_) (by simp)
    obtain rfl : ["artifacts"] = root := Option.some.inj hroot
    have hfiles : ∀ p ∈ sealedFiles, S.written.read p.1 = some p.2 := fun p hp => read_others (hothers p hp)
    simp only [sealedFiles, List.forall_mem_cons] at hfiles
    exact hfiles.2.2.1
  refine recordsFailures_eq_nil.2 ⟨?_, ?_, by simp⟩
  · rw [List.map_cons, List.forall_mem_cons, List.map_map]
    refine ⟨⟨_, _, rfl, hcontract⟩, fun item hitem => ?_⟩
    obtain ⟨p, hp, rfl⟩ := List.mem_map.1 hitem
    exact ⟨_, _, rfl, hoperator p hp⟩
  · have hpaths : ((contractRecord :: operatorFiles.map operatorRecord).map .dict).map pathText =
        some (toString (⟨"", ["image-build-contract.json"]⟩ : PosixPath)) :: operatorFiles.map fun p =>
          some (toString (⟨"", ["release-ingress", sampleVersion, p.1]⟩ : PosixPath)) := by
      rw [List.map_cons, List.map_cons, List.map_map, List.map_map]
      refine congrArg₂ List.cons (congrArg (Option.map toString) hcontract.path) (List.map_congr_left fun p hp => ?_)
      exact congrArg (Option.map toString) (hoperator p hp).path
    rw [hpaths]
    decide

/-- The operator's manifest is replayed with the arguments that it was created with. -/
theorem operatorArgs_sealed :
    operatorArgs ingressLibraries buildMatrix sealedArgs sealedManifest ["in"] = sampleArgs.validateArgs manifestPath true := by
  have hversion : textField ingressLibraries.toPython "version" sealedManifest = sampleVersion := rfl
  have hread : PosixPath.ofString sampleVersion = ⟨"", [sampleVersion]⟩ := by decide
  have hplace : (operatorArgs ingressLibraries buildMatrix sealedArgs sealedManifest ["in"]).manifest = manifestPath := by
    simp only [operatorArgs, hversion, versionedPath, hread]
    rfl
  exact congrArg (fun path => ({ sampleArgs.validateArgs manifestPath true with manifest := path } : OperatorIngress.Args)) hplace

theorem sealed_strict (h : S.Clean) (hextra : S.extra = []) :
    strictFailures ingressLibraries evidenceContract S.written buildMatrix sealedArgs sampleNow sealedManifest none = .ok [] := by
  obtain ⟨hstrict, honce, -⟩ := records_of_sealedManifest
  have hversion : textField ingressLibraries.toPython "version" sealedManifest = sampleVersion := rfl
  have hagrees : Agrees sampleLibraries evidenceContract S.written sampleArgs true := h.agrees (by simp [hextra]) (by simp) (by simp)
  have hoperator : validateOperatorEvidenceIngress ingressLibraries evidenceContract S.written buildMatrix sealedArgs sampleNow sealedManifest
      ["in"] = .ok [] := by
    rw [validateOperatorEvidenceIngress, operatorArgs_sealed]
    exact bind_ok_iff.2 ⟨[], h.validateManifest_eq_nil.2 hagrees, rfl⟩
  have hroot : sealedArgs.inputRoot = some ["in"] := rfl
  have hprofile : (field "profile" sealedManifest).pyEq (.str "production-candidate") = false := by decide
  simp only [evidenceIngressSignatureSidecars, List.forall_mem_cons] at honce
  obtain ⟨hmanifest, hsignature, hcertificate, _⟩ := honce
  rw [strictFailures, if_pos hstrict]
  simp only [operatorFailures, hversion, hmanifest, hroot, decide_true, Option.filter_some, if_true, Option.map_some, Option.getD_some,
    hoperator, ok_bind, hprofile, Bool.false_eq_true, if_false, evidenceIngressSignatureSidecars, List.map_cons, List.map_nil,
    List.flatMap_cons, List.flatMap_nil, hsignature, hcertificate, failUnless, Option.isSome_some, List.append_nil]

/-- The ingress is accepted on every tree that holds its files beside the evidence. -/
theorem sealed_accepted (h : S.Clean) (hextra : S.extra = []) (hothers : ∀ p ∈ sealedFiles, p ∈ S.others) :
    readJson ingressLibraries.toPython (treeFiles S.written) sealedArgs.manifest = .ok (some (.dict sealedManifest)) ∧
      validateManifest ingressLibraries evidenceContract S.written buildMatrix sealedArgs sampleNow = .ok [] := by
  obtain ⟨-, -, hcontract, hdry, -⟩ := records_of_sealedManifest
  have hfiles : ∀ p ∈ sealedFiles, S.written.read p.1 = some p.2 := fun p hp => read_others (hothers p hp)
  simp only [sealedFiles, List.forall_mem_cons] at hfiles
  have hmanifest : readJson ingressLibraries.toPython (treeFiles S.written) sealedArgs.manifest = .ok (some (.dict sealedManifest)) :=
    readJson_documentBytes rfl (by decide) hfiles.2.2.2.1
  have hbinding : readBinding ingressLibraries S.written sealedArgs = .ok ((none : Option Fields).map .dict) := rfl
  exact ⟨hmanifest, validateManifest_sample (by simp) rfl rfl rfl hmanifest hbinding (by simp [sealedArgs]) (by simp)
    (sealed_records h hextra hothers) hcontract hdry (sealed_strict h hextra)⟩

/-- The file that a sample holds at a place is one of its files. -/
theorem mem_files_of_read (h : S.Clean) (hextra : S.extra = []) (hdir : S.written.lstat ["in"] = some .dir) {names : List String}
    {bytes : Bytes} (hne : names ≠ []) (hnames : ∀ name ∈ names, IsName name) (hread : S.written.read ("in" :: names) = some bytes) :
    ("in" :: names, bytes) ∈ S.files (textBytes candidate.text) := by
  have hparent : ".." ∉ names := fun hmem => (hnames _ hmem).ne_parent rfl
  rw [← text_sealed h hextra]
  exact FileTree.mem_of_lstat_ofFiles (h := S.compatible _) (by simp)
    (@FileTree.lstat_of_read_ofFiles _ _ ["in"] names bytes hdir hne hparent hread)

end

theorem sealed_both : ∀ S ∈ [sealed, sealedWithGraph], readJson ingressLibraries.toPython (treeFiles S.written) sealedArgs.manifest =
    .ok (some (.dict sealedManifest)) ∧
      validateManifest ingressLibraries evidenceContract S.written buildMatrix sealedArgs sampleNow = .ok [] := by
  simp only [List.forall_mem_cons]
  exact ⟨sealed_accepted sealed_clean rfl fun _ hp => hp, sealed_accepted sealedWithGraph_clean rfl fun _ hp => List.mem_cons_of_mem _ hp,
    by simp⟩

theorem graph_isInput : IsInput evidenceContract "release-candidate" graphPlace := by
  obtain ⟨roots, hroots, hmem⟩ := roots_of_candidate
  exact ⟨⟨roots, _, _, hroots, hmem _ (by simp), rfl, by simp⟩, by decide⟩

theorem noCollision_sealed : NoCollision ingressLibraries sealed.written sealedWithGraph.written ["in"] := by
  intro names bytes bytes' hnames hread hread' _
  by_cases hne : names = []
  · have hnone : (sealed.written.read (["in"] ++ [])).isNone = true := by decide
    rw [hne] at hread
    rw [hread] at hnone
    cases hnone
  have hdir : sealed.written.lstat ["in"] = some .dir := by decide
  have hdir' : sealedWithGraph.written.lstat ["in"] = some .dir := by decide
  have hmem := mem_files_of_read sealed_clean rfl hdir hne hnames hread
  have hmem' := mem_files_of_read sealedWithGraph_clean rfl hdir' hne hnames hread'
  have hboth : ("in" :: names, bytes) ∈ sealedWithGraph.files (textBytes candidate.text) := by
    rcases List.mem_append.1 hmem with hmem | hmem
    · exact List.mem_append_left _ hmem
    · rcases List.mem_cons.1 hmem with heq | hmem
      · exact List.mem_append_right _ (List.mem_cons.2 (.inl heq))
      · exact List.mem_append_right _ (List.mem_cons_of_mem _ (List.mem_cons_of_mem _ hmem))
  have hlstat := FileTree.lstat_ofFiles (h := sealedWithGraph.compatible _) hboth
  have hlstat' := FileTree.lstat_ofFiles (h := sealedWithGraph.compatible _) hmem'
  simpa using hlstat.symm.trans hlstat'

theorem same_inputs_iff_sealed :
    (∀ names, IsInput evidenceContract (textField ingressLibraries.toPython "profile" sealedManifest) names →
      SameAt sealedArgs sealed.written sealedWithGraph.written ["in"] names) ↔
      ∀ names, IsInput evidenceContract (textField ingressLibraries.toPython "profile" sealedManifest) names →
        Unrecorded evidenceContract sealedManifest names → SameAt sealedArgs sealed.written sealedWithGraph.written ["in"] names := by
  obtain ⟨hmanifest, haccepted⟩ := sealed_both sealed (by simp)
  obtain ⟨hmanifest', haccepted'⟩ := sealed_both sealedWithGraph (by simp)
  exact same_inputs_iff rfl hmanifest hmanifest' (by decide) noCollision_sealed haccepted haccepted'

/-- One ingress is accepted on two trees of which only one holds a subject graph. -/
theorem accepts_other_tree :
    (∀ S ∈ [sealed, sealedWithGraph], readJson ingressLibraries.toPython (treeFiles S.written) sealedArgs.manifest =
      .ok (some (.dict sealedManifest)) ∧
        validateManifest ingressLibraries evidenceContract S.written buildMatrix sealedArgs sampleNow = .ok []) ∧
      isStrict evidenceContract sealedManifest = true ∧
      ∃ names, IsInput evidenceContract (textField ingressLibraries.toPython "profile" sealedManifest) names ∧
        ¬ SameAt sealedArgs sealed.written sealedWithGraph.written ["in"] names := by
  have hnone : (sealed.written.read (["in"] ++ graphPlace)).isNone = true := by decide
  have hsome : sealedWithGraph.written.read (["in"] ++ graphPlace) = some (textBytes "x".toList) :=
    read_others (S := sealedWithGraph) List.mem_cons_self
  refine ⟨sealed_both, by decide, graphPlace, graph_isInput, fun hsame => ?_⟩
  rw [hsame (by decide), hsome] at hnone
  cases hnone

end SuderraOs.Evidence.ReleaseIngress
