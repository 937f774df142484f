import SuderraOs.Evidence.OperatorCreate
import SuderraOs.Lib.FileChange

/-!
# Staging an operator bundle

`stage` of `operator-evidence-ingress.py`: the bundle is extracted aside, its evidence trees are copied one by one into the output
root, and the manifest of what is there is written. Nothing is taken back. So a staging that fails leaves the output root as it was
exactly when it fails before its first copy and writes no other manifest than the one that was there (`stage_unchanged_iff`).
-/

namespace SuderraOs.Evidence.OperatorIngress

open Value

/-! ## The bundle -/

/-- The arguments of `stage`: those of the creation, whose input root is the output root here, and where the bundle, its signature and
its certificate stand. -/
structure StageArgs extends CreateArgs where
  bundle : List String
  bundleSignature : List String
  bundleCertificate : List String

inductive MemberKind where
  | file
  | dir
  | symlink
  | link
  | other
  deriving DecidableEq, Repr

structure Member where
  name : String
  kind : MemberKind
  deriving DecidableEq, Repr

/-- What the script asks of `tarfile`. -/
structure Tarfile where
  /-- The text of the `TarError` that opening raises. -/
  openError : Bytes → Option String
  /-- `none` where it raises. -/
  getmembers : Bytes → Option (List Member)
  /-- What is extracted, below the directory it is extracted to; `none` where it raises. -/
  extractall : Bytes → Option FileTree

/-- The text of the `RuntimeError` that a member raises. -/
def memberFailure (member : Member) : Option String :=
  if (safeRelativePath (.str member.name)).isNone then some s!"unsafe bundle member path: {member.name}"
  else if member.kind = .symlink ∨ member.kind = .link then some s!"bundle member links are not allowed: {member.name}"
  else if member.kind ≠ .dir ∧ member.kind ≠ .file then some s!"bundle member type is not allowed: {member.name}"
  else none

/-- `safe_extract`: what was extracted or the text of a `RuntimeError`. -/
def safeExtract (tar : Tarfile) (bundle : Bytes) : Except String (Except String FileTree) :=
  match tar.openError bundle with
  | some text => .ok (.error s!"operator bundle must be a tar archive readable by Python tarfile: {text}")
  | none => do
    let members ← orError "tarfile.ReadError" (tar.getmembers bundle)
    match members.findSome? memberFailure with
    | some text => .ok (.error text)
    | none => (orError "OSError" (tar.extractall bundle)).map .ok

section Stage

variable (L : Libraries) (C : Contract) (tar : Tarfile) (S T : FileTree) (P : StageArgs) (now : Int)

/-- The failures of the three files and of their digests. -/
def bundleFailures : List String :=
  let files := [("operator bundle", P.bundle), ("operator bundle signature", P.bundleSignature),
    ("operator bundle certificate", P.bundleCertificate)]
  let missing := files.flatMap fun p =>
    failUnless (s!"{p.1} must be a non-empty file: " ++ toString (⟨"/", p.2⟩ : PosixPath)) ((T.read p.2).any (· ≠ []))
  if missing ≠ [] then missing
  else
    let digests := [("--bundle-sha256 does not match staged operator bundle bytes", P.bundle, P.bundleSha256),
      ("--bundle-signature-sha256 does not match staged operator bundle signature bytes", P.bundleSignature, P.bundleSignatureSha256),
      ("--bundle-certificate-sha256 does not match staged operator bundle certificate bytes", P.bundleCertificate,
        P.bundleCertificateSha256)]
    digests.flatMap fun p => failUnless p.1 (L.hexdigest ((T.read p.2.1).getD []) == p.2.2)

/-! ## The trees of the bundle -/

/-- `(root / dirname).exists()` of an extracted bundle. -/
def hasTree (root : List String) (dirname : String) : Bool := (S.stat (root ++ [dirname])).isSome

/-- `find_payload_root`. -/
def findPayloadRoot : List String :=
  if C.operatorIngressAllowedRoots.any (hasTree S []) then []
  else
    match S.entries.filterMap fun p => if p.1.length = 1 ∧ S.stat p.1 = some .dir then some p.1 else none with
    | [child] => if C.operatorIngressAllowedRoots.any (hasTree S child) then child else []
    | _ => []

/-- The failures of the trees that must not come from the operator. -/
def bundleForbiddenFailures (root : List String) : List String :=
  ((forbiddenInputDirs C).filter (hasTree S root)).map fun dirname => s!"{dirname}: must not be present in operator evidence bundle"

/-- The failures of an evidence tree that is there. -/
def copyFailures (root output : List String) (dirname : String) : List String :=
  let source := root ++ [dirname]
  if (S.lstat source).any (·.isLink) ∨ S.stat source ≠ some .dir then [s!"{dirname}: must be a directory and must not be a symlink"]
  else if (T.stat (output ++ [dirname])).isSome then [s!"{dirname}: output tree already exists; refusing to merge evidence"]
  else ((S.rglob source).filter (·.2.isLink)).map fun p => s!"{relativeTo root p.1}: symlinks are not allowed"

/-- What `copytree` does with one of the things below the source: an error is kept and the rest is copied all the same. -/
def copyEntry (source dest : List String) (state : Bool × FileTree) (entry : List String × Node) : Bool × FileTree :=
  let place := dest ++ entry.1.drop source.length
  let copied := match entry.2 with
    | .dir => state.2.mkdir place
    | .file bytes => state.2.write place bytes
    | _ => none
  (state.1 && copied.isSome, copied.getD state.2)

/-- `shutil.copytree(source, destination)`, and whether it did not raise. -/
def copytree (source dest : List String) : Bool × FileTree :=
  let made := FileTree.makeDirs (FileTree.dirsTo dest) T
  if made.1 then (S.rglob source).foldl (copyEntry source dest) made else made

/-- How far a command has come: the failures or an exception, and the tree. -/
abbrev Progress := Except String (List String) × FileTree

/-- One turn of the loop of `copy_allowed_trees`. -/
def copyStep (root output : List String) (state : Progress) (dirname : String) : Progress :=
  match state.1 with
  | .error _ => state
  | .ok failures =>
    if hasTree S root dirname then
      let failures := failures ++ copyFailures S state.2 root output dirname
      if failures ≠ [] then (.ok failures, state.2)
      else
        let copied := copytree S state.2 (root ++ [dirname]) (output ++ [dirname])
        (if copied.1 then .ok [] else .error "shutil.Error", copied.2)
    else state

/-- Whether one of the evidence trees is a directory of the output root. -/
def hasOutput (output : List String) : Bool := C.operatorIngressAllowedRoots.any fun dirname => T.stat (output ++ [dirname]) = some .dir

/-- `copy_allowed_trees`. -/
def copyAllowedTrees (root output : List String) : Progress :=
  let copied := C.operatorIngressAllowedRoots.foldl (copyStep S root output) (.ok (bundleForbiddenFailures C S root), T)
  (copied.1.map fun failures =>
    failures ++ failUnless "operator evidence bundle did not contain any allowed evidence trees" (hasOutput C copied.2 output), copied.2)

/-! ## The manifest -/

/-- Where the manifest is written. -/
def stagedManifest (P : CreateArgs) : List String :=
  (versionedPath P.inputRoot "release-ingress" P.version "evidence-ingress-manifest.json").names

/-- `json.dumps(manifest, indent=2, sort_keys=True) + "\n"`. -/
def manifestBytes (manifest : Fields) : Bytes :=
  Utf8.encode (String.ofList (JsonText.write (JsonText.indented fun _ => []) 0 (Value.dict manifest).sortKeys ++ ['\n']))

/-- `create_command` with the manifest in the output root. -/
def createCommand (P : CreateArgs) : Progress :=
  match createManifest L C T P now with
  | .error text => (.error text, T)
  | .ok (manifest, failures) =>
    let saved := T.save (stagedManifest P) (manifestBytes manifest)
    (if saved.1 then .ok failures else .error "OSError", saved.2)

/-- `stage_command`: the failures it prints, of which there are none when it succeeds, or an exception; and the tree afterwards. -/
def stage : Progress :=
  let failures := bundleFailures L T P
  if failures ≠ [] then (.ok failures, T)
  else
    match safeExtract tar ((T.read P.bundle).getD []) with
    | .error text => (.error text, T)
    | .ok (.error text) => (.ok [text], T)
    | .ok (.ok S) =>
      let copied := copyAllowedTrees C S T (findPayloadRoot C S) P.inputRoot
      if copied.1 = .ok [] then createCommand L C copied.2 now P.toCreateArgs else copied

variable {L C tar S T P now}

/-! ## What copying leaves -/

theorem keepsDirs_copyEntry (source dest : List String) (state : Bool × FileTree) (entry : List String × Node) :
    state.2.KeepsDirs (copyEntry source dest state entry).2 := by
  obtain ⟨place, node⟩ := entry
  have hkeeps {copied : Option FileTree} (h : ∀ T' ∈ copied, state.2.KeepsDirs T') : state.2.KeepsDirs (copied.getD state.2) := by
    cases copied with
    | none => exact .refl _
    | some T' => exact h T' rfl
  cases node with
  | dir => exact hkeeps fun T' hmade => (FileTree.extends_mkdir hmade).keepsDirs
  | file bytes => exact hkeeps fun T' hwritten => FileTree.keepsDirs_write hwritten
  | _ => exact .refl _

theorem keepsDirs_copyEntries (source dest : List String) : ∀ (entries : List (List String × Node)) (state : Bool × FileTree),
    state.2.KeepsDirs (entries.foldl (copyEntry source dest) state).2
  | [], _ => .refl _
  | entry :: entries, state =>
    (keepsDirs_copyEntry source dest state entry).trans (keepsDirs_copyEntries source dest entries (copyEntry source dest state entry))

theorem makeDirs_keepsDirs_copytree (S T : FileTree) (source dest : List String) :
    (FileTree.makeDirs (FileTree.dirsTo dest) T).2.KeepsDirs (copytree S T source dest).2 := by
  rw [copytree]
  split_ifs
  · exact keepsDirs_copyEntries source dest _ _
  · exact .refl _

/-- A tree that is copied to where nothing is either is not begun or leaves a directory. -/
theorem copytree_cases (source : List String) {dest : List String} (hdest : dest ≠ []) (hnone : T.stat dest = none) :
    T.Blocked (FileTree.dirsTo dest) ∧ copytree S T source dest = (false, T) ∨
      ¬ T.Blocked (FileTree.dirsTo dest) ∧ T.Grows (copytree S T source dest).2 := by
  rcases FileTree.makeDirs_cases (FileTree.dirsTo dest) T with ⟨hall, _⟩ | ⟨hblocked, hrun⟩ | ⟨_, hblocked, hgrows⟩
  · have hdir := hall dest (FileTree.mem_dirsTo_self hdest)
    rw [hnone] at hdir
    cases hdir
  · exact .inl ⟨hblocked, by rw [copytree, hrun, if_neg Bool.false_ne_true]⟩
  · exact .inr ⟨hblocked, hgrows.trans_keepsDirs (makeDirs_keepsDirs_copytree S T source dest)⟩

theorem keepsDirs_copyStep (root output : List String) (state : Progress) (dirname : String) :
    state.2.KeepsDirs (copyStep S root output state dirname).2 := by
  obtain ⟨result, T⟩ := state
  cases result with
  | error text => exact .refl T
  | ok failures =>
    simp only [copyStep]
    by_cases htree : hasTree S root dirname = true
    · rw [if_pos htree]
      by_cases hfailures : failures ++ copyFailures S T root output dirname = []
      · rw [if_neg (not_not_intro hfailures)]
        exact (FileTree.keepsDirs_makeDirs _ T).trans (makeDirs_keepsDirs_copytree S T _ _)
      · rw [if_pos hfailures]
        exact .refl T
    · rw [if_neg htree]
      exact .refl T

theorem keepsDirs_copySteps (root output : List String) : ∀ (dirnames : List String) (state : Progress),
    state.2.KeepsDirs (dirnames.foldl (copyStep S root output) state).2
  | [], _ => .refl _
  | dirname :: dirnames, state =>
    (keepsDirs_copyStep root output state dirname).trans (keepsDirs_copySteps root output dirnames _)

/-- After a failure or an exception nothing is copied. -/
theorem copySteps_of_failed (root output : List String) : ∀ {dirnames : List String} {state : Progress}, state.1 ≠ .ok [] →
    (dirnames.foldl (copyStep S root output) state).1 ≠ .ok [] ∧ (dirnames.foldl (copyStep S root output) state).2 = state.2
  | [], state, h => ⟨h, rfl⟩
  | dirname :: dirnames, (result, T), h => by
    have hstep : (copyStep S root output (result, T) dirname).1 ≠ .ok [] ∧ (copyStep S root output (result, T) dirname).2 = T := by
      cases result with
      | error text => exact ⟨by simp [copyStep], rfl⟩
      | ok failures =>
        have hfailures : failures ≠ [] := fun heq => h (by rw [heq])
        by_cases htree : hasTree S root dirname = true <;> simp [copyStep, htree, hfailures]
    obtain ⟨hfailed, hsame⟩ := copySteps_of_failed root output hstep.1
    exact ⟨hfailed, hsame.trans hstep.2⟩

/-- The first evidence tree of the bundle cannot be copied: something is wrong with it, or no directory can be made for it. -/
def Refused (S T : FileTree) (root output : List String) (dirname : String) : Prop :=
  copyFailures S T root output dirname ≠ [] ∨ T.Blocked (FileTree.dirsTo (output ++ [dirname]))

/-- The loop copies nothing when there is no tree, and stops before it copied anything when the first tree is refused; else it leaves
a directory. -/
theorem copySteps_cases (S T : FileTree) (root output : List String) : ∀ (dirnames : List String),
    dirnames.find? (hasTree S root) = none ∧ dirnames.foldl (copyStep S root output) (.ok [], T) = (.ok [], T) ∨
      (∃ dirname, dirnames.find? (hasTree S root) = some dirname ∧ Refused S T root output dirname) ∧
          (dirnames.foldl (copyStep S root output) (.ok [], T)).1 ≠ .ok [] ∧
          (dirnames.foldl (copyStep S root output) (.ok [], T)).2 = T ∨
        (∃ dirname, dirnames.find? (hasTree S root) = some dirname ∧ ¬ Refused S T root output dirname) ∧
          T.Grows (dirnames.foldl (copyStep S root output) (.ok [], T)).2
  | [] => .inl ⟨rfl, rfl⟩
  | dirname :: dirnames => by
    rw [List.find?_cons, List.foldl_cons]
    by_cases htree : hasTree S root dirname = true
    · rw [htree]
      simp only [Option.some.injEq, exists_eq_left', reduceCtorEq, false_and, false_or]
      by_cases hfailures : copyFailures S T root output dirname = []
      · have hstep : copyStep S root output (.ok [], T) dirname =
            (if (copytree S T (root ++ [dirname]) (output ++ [dirname])).1 then .ok [] else .error "shutil.Error",
              (copytree S T (root ++ [dirname]) (output ++ [dirname])).2) := by
          simp [copyStep, htree, hfailures]
        have hnone : T.stat (output ++ [dirname]) = none := by
          by_contra hsome
          simp only [copyFailures, if_pos (Option.isSome_iff_ne_none.2 hsome)] at hfailures
          split_ifs at hfailures
        rcases copytree_cases (S := S) (root ++ [dirname]) (by simp) hnone with ⟨hblocked, hrun⟩ | ⟨hblocked, hgrows⟩
        · rw [hstep, hrun]
          exact .inl ⟨.inr hblocked, copySteps_of_failed root output (by simp)⟩
        · have hgrows : T.Grows (copyStep S root output (.ok [], T) dirname).2 := by
            rw [hstep]
            exact hgrows
          exact .inr ⟨fun hrefused => hrefused.elim (· hfailures) hblocked, hgrows.trans_keepsDirs (keepsDirs_copySteps root output _ _)⟩
      · have hstep : copyStep S root output (.ok [], T) dirname = (.ok (copyFailures S T root output dirname), T) := by
          simp [copyStep, htree, hfailures]
        rw [hstep]
        exact .inl ⟨.inl hfailures, copySteps_of_failed root output (by simpa using hfailures)⟩
    · have hstep : copyStep S root output (.ok [], T) dirname = (.ok [], T) := by simp [copyStep, htree]
      rw [hstep, Bool.eq_false_iff.2 htree]
      exact copySteps_cases S T root output dirnames

theorem copyAllowedTrees_eq_nil (root output : List String) : (copyAllowedTrees C S T root output).1 = .ok [] ↔
    (C.operatorIngressAllowedRoots.foldl (copyStep S root output) (.ok (bundleForbiddenFailures C S root), T)).1 = .ok [] ∧
      hasOutput C (copyAllowedTrees C S T root output).2 output = true := by
  rw [copyAllowedTrees]
  generalize C.operatorIngressAllowedRoots.foldl (copyStep S root output) (.ok (bundleForbiddenFailures C S root), T) = copied
  obtain ⟨result, T'⟩ := copied
  cases result with
  | error text => simp [Except.map]
  | ok failures => simp [Except.map, failUnless_eq_nil]

/-! ## When a staging leaves the tree -/

theorem keepsDirs_createCommand (T : FileTree) (P : CreateArgs) : T.KeepsDirs (createCommand L C T now P).2 := by
  rw [createCommand]
  split
  · exact .refl T
  · exact FileTree.keepsDirs_save T _ _

/-- A creation leaves the tree when it raises before the manifest is written, or when writing it changes nothing. -/
theorem same_createCommand_iff {P : CreateArgs} : T.Same (createCommand L C T now P).2 ↔
    ∀ manifest failures, createManifest L C T P now = .ok (manifest, failures) → T.Settled (stagedManifest P) (manifestBytes manifest) := by
  rw [createCommand]
  split
  · next hraised => simp [hraised, FileTree.Same.refl]
  · next manifest failures hcreated =>
    rw [FileTree.same_save_iff]
    refine ⟨fun hsettled manifest' failures' hcreated' => ?_, fun hsettled => hsettled manifest failures hcreated⟩
    obtain ⟨rfl, rfl⟩ := Prod.mk.inj (Except.ok.inj (hcreated.symm.trans hcreated'))
    exact hsettled

variable (L C tar T P now)

/-- What is extracted of a bundle whose three files are as they were announced. -/
def extracted : Option FileTree :=
  if bundleFailures L T P ≠ [] then none
  else
    match safeExtract tar ((T.read P.bundle).getD []) with
    | .ok (.ok S) => some S
    | _ => none

/-- A staging changes nothing: nothing is extracted, or a forbidden tree is; or the first evidence tree of the bundle is refused; or
there is no such tree, and no manifest is created of what the output root holds or writing it changes nothing. -/
structure Untouched : Prop where
  trees : ∀ S ∈ extracted L tar T P, bundleForbiddenFailures C S (findPayloadRoot C S) = [] →
    ∀ dirname ∈ C.operatorIngressAllowedRoots.find? (hasTree S (findPayloadRoot C S)),
      Refused S T (findPayloadRoot C S) P.inputRoot dirname
  manifest : ∀ S ∈ extracted L tar T P, bundleForbiddenFailures C S (findPayloadRoot C S) = [] →
    C.operatorIngressAllowedRoots.find? (hasTree S (findPayloadRoot C S)) = none → hasOutput C T P.inputRoot = true →
      ∀ manifest failures, createManifest L C T P.toCreateArgs now = .ok (manifest, failures) →
        T.Settled (stagedManifest P.toCreateArgs) (manifestBytes manifest)

variable {L C tar T P now}

theorem stage_of_extracted_none (h : extracted L tar T P = none) : (stage L C tar T P now).2 = T := by
  rw [extracted] at h
  rw [stage]
  by_cases hbundle : bundleFailures L T P = []
  · simp only [hbundle, ne_eq, not_true_eq_false, if_false] at h ⊢
    cases hextract : safeExtract tar ((T.read P.bundle).getD []) with
    | error text => rfl
    | ok extracted =>
      cases extracted with
      | error text => rfl
      | ok S =>
        rw [hextract] at h
        cases h
  · simp [hbundle]

theorem stage_of_extracted {S : FileTree} (h : extracted L tar T P = some S) :
    stage L C tar T P now =
      if (copyAllowedTrees C S T (findPayloadRoot C S) P.inputRoot).1 = .ok [] then
        createCommand L C (copyAllowedTrees C S T (findPayloadRoot C S) P.inputRoot).2 now P.toCreateArgs
      else copyAllowedTrees C S T (findPayloadRoot C S) P.inputRoot := by
  rw [extracted] at h
  rw [stage]
  by_cases hbundle : bundleFailures L T P = []
  · simp only [hbundle, ne_eq, not_true_eq_false, if_false] at h ⊢
    split at h
    · next hextract =>
      obtain rfl := Option.some.inj h
      rw [hextract]
    · cases h
  · simp [hbundle] at h

/-- A staging whose copying fails ends with what was copied. -/
theorem stage_of_copy_failed {S : FileTree} (h : extracted L tar T P = some S)
    (hcopied : (copyAllowedTrees C S T (findPayloadRoot C S) P.inputRoot).1 ≠ .ok []) :
    stage L C tar T P now = copyAllowedTrees C S T (findPayloadRoot C S) P.inputRoot := by
  rw [stage_of_extracted h, if_neg hcopied]

/-- What a copied tree leaves is there at the end. -/
theorem keepsDirs_stage (now : Int) {S : FileTree} (h : extracted L tar T P = some S) :
    (copyAllowedTrees C S T (findPayloadRoot C S) P.inputRoot).2.KeepsDirs (stage L C tar T P now).2 := by
  rw [stage_of_extracted h]
  split_ifs
  · exact keepsDirs_createCommand _ _
  · exact .refl _

theorem untouched_iff {S : FileTree} (h : extracted L tar T P = some S) : Untouched L C tar T P now ↔
    (bundleForbiddenFailures C S (findPayloadRoot C S) = [] →
      (∀ dirname ∈ C.operatorIngressAllowedRoots.find? (hasTree S (findPayloadRoot C S)),
        Refused S T (findPayloadRoot C S) P.inputRoot dirname) ∧
      (C.operatorIngressAllowedRoots.find? (hasTree S (findPayloadRoot C S)) = none → hasOutput C T P.inputRoot = true →
        T.Same (createCommand L C T now P.toCreateArgs).2)) := by
  simp only [same_createCommand_iff]
  refine ⟨fun huntouched hforbidden => ⟨huntouched.trees S h hforbidden, huntouched.manifest S h hforbidden⟩, fun hcases => ⟨?_, ?_⟩⟩
  · intro S' hS' hforbidden
    obtain rfl : S = S' := Option.some.inj (h.symm.trans hS')
    exact (hcases hforbidden).1
  · intro S' hS' hforbidden
    obtain rfl : S = S' := Option.some.inj (h.symm.trans hS')
    exact (hcases hforbidden).2

/-- A staging leaves the output root as it was exactly when it is stopped before its first copy and its manifest changes nothing. -/
theorem same_stage_iff : T.Same (stage L C tar T P now).2 ↔ Untouched L C tar T P now := by
  cases hextracted : extracted L tar T P with
  | none =>
    rw [stage_of_extracted_none hextracted]
    exact iff_of_true (.refl T) ⟨by simp [hextracted], by simp [hextracted]⟩
  | some S =>
    rw [untouched_iff hextracted]
    have hnil := copyAllowedTrees_eq_nil (C := C) (S := S) (T := T) (findPayloadRoot C S) P.inputRoot
    have hkeeps := keepsDirs_stage (C := C) now hextracted
    by_cases hforbidden : bundleForbiddenFailures C S (findPayloadRoot C S) = []
    · have hcopied : (copyAllowedTrees C S T (findPayloadRoot C S) P.inputRoot).2 =
          (C.operatorIngressAllowedRoots.foldl (copyStep S (findPayloadRoot C S) P.inputRoot) (.ok [], T)).2 := by
        rw [copyAllowedTrees, hforbidden]
      rw [hforbidden] at hnil
      rw [imp_iff_right hforbidden]
      rcases copySteps_cases S T (findPayloadRoot C S) P.inputRoot C.operatorIngressAllowedRoots with
        ⟨hfirst, hrun⟩ | ⟨⟨dirname, hfirst, hrefused⟩, hfailed, hrun⟩ | ⟨⟨dirname, hfirst, hrefused⟩, hgrows⟩
      · rw [hrun] at hcopied hnil
        rw [hcopied] at hnil
        by_cases houtput : hasOutput C T P.inputRoot = true
        · rw [stage_of_extracted hextracted, if_pos (hnil.2 ⟨rfl, houtput⟩), hcopied]
          simp [hfirst, houtput]
        · rw [stage_of_copy_failed hextracted fun hok => houtput (hnil.1 hok).2, hcopied]
          simp [hfirst, houtput, FileTree.Same.refl]
      · rw [stage_of_copy_failed hextracted fun hok => hfailed (hnil.1 hok).1, hcopied, hrun]
        simpa [hfirst, FileTree.Same.refl] using hrefused
      · have hmade : T.Grows (stage L C tar T P now).2 := (hcopied ▸ hgrows).trans_keepsDirs hkeeps
        exact iff_of_false hmade.not_same fun hcases => hrefused (hcases.1 dirname hfirst)
    · have hstart : ((.ok (bundleForbiddenFailures C S (findPayloadRoot C S)), T) : Progress).1 ≠ .ok [] := by simpa using hforbidden
      obtain ⟨hfailed, hrun⟩ : (C.operatorIngressAllowedRoots.foldl (copyStep S (findPayloadRoot C S) P.inputRoot)
            (.ok (bundleForbiddenFailures C S (findPayloadRoot C S)), T)).1 ≠ .ok [] ∧
          (copyAllowedTrees C S T (findPayloadRoot C S) P.inputRoot).2 = T := copySteps_of_failed _ _ hstart
      rw [stage_of_copy_failed hextracted fun hok => hfailed (hnil.1 hok).1]
      exact iff_of_true (hrun.symm ▸ .refl T) fun h => absurd h hforbidden

/-- A staging that fails leaves the output root as it was exactly when it is stopped before its first copy and its manifest changes
nothing. -/
theorem stage_unchanged_iff (_ : (stage L C tar T P now).1 ≠ .ok []) : T.Same (stage L C tar T P now).2 ↔ Untouched L C tar T P now :=
  same_stage_iff

end Stage

/-! ## A bundle with a tree that is there already -/

/-- A file of an archive: the header with the size and the checksum in octal, and the content, filled up to a block each. -/
def archived (name size checksum : String) (content : Bytes) : Bytes :=
  let text := fun (n : Nat) (s : String) => textBytes s.toList ++ List.replicate (n - s.length) 0
  text 100 name ++ text 8 "0000644" ++ text 8 "0000000" ++ text 8 "0000000" ++ text 12 size ++ text 12 "00000000000" ++
    text 7 checksum ++ text 1 " " ++ text 1 "0" ++ text 100 "" ++ text 6 "ustar" ++ text 249 "00" ++ content ++
    List.replicate (512 - content.length) 0

def sampleApproval : Bytes := documentBytes (schemaDocument "suderra.release-approval.v2")

def sampleRegistry : Bytes := documentBytes (schemaDocument "suderra.lab-station-registry.v1")

/-- An approval and a station registry. -/
def sampleBundle : Bytes :=
  archived "release-approvals/v1.0.0-rc.1/rpi4.json" "00000000060" "014522" sampleApproval ++
    archived "release-governance/v1.0.0-rc.1/station-registry.json" "00000000064" "017317" sampleRegistry ++ List.replicate 1024 0

/-- What `tarfile` makes of the bundle. -/
def sampleTarfile : Tarfile where
  openError bundle := if bundle = sampleBundle then none else some "file could not be opened successfully"
  getmembers bundle :=
    if bundle = sampleBundle then
      some [⟨"release-approvals/v1.0.0-rc.1/rpi4.json", .file⟩, ⟨"release-governance/v1.0.0-rc.1/station-registry.json", .file⟩]
    else none
  extractall bundle :=
    if bundle = sampleBundle then
      some (.ofFiles [(["release-approvals", sampleVersion, "rpi4.json"], sampleApproval),
        (["release-governance", sampleVersion, "station-registry.json"], sampleRegistry)] (by decide))
    else none

/-- The digest of the bundle is known too. -/
def stageLibraries : Libraries :=
  { sampleLibraries with
    sha256 := fun bytes =>
      if bytes = sampleBundle then digestBytes 0x07fd327a83ae6c53af401a91e17829b15b101beece3e93a8ed4655779fbdd558
      else sampleSha256 bytes }

/-- The bundle, and an output root with an audit log of an earlier bundle. -/
def stageTree : FileTree :=
  .ofFiles [(["bundle.tar"], sampleBundle), (["bundle.tar.sig"], textBytes "signature".toList),
    (["bundle.tar.pem"], textBytes "certificate".toList),
    (["in", "release-governance", sampleVersion, "audit-log.json"], documentBytes sampleAudit)] (by decide)

def stageArgs : StageArgs where
  toCreateArgs := { sampleArgs with bundleSha256 := "07fd327a83ae6c53af401a91e17829b15b101beece3e93a8ed4655779fbdd558" }
  bundle := ["bundle.tar"]
  bundleSignature := ["bundle.tar.sig"]
  bundleCertificate := ["bundle.tar.pem"]

/-- A bundle with the digest of another one is not staged, and where the digest is its own the approval is copied and the governance
tree is refused. -/
theorem stages_sample :
    (stage stageLibraries evidenceContract sampleTarfile stageTree { stageArgs with bundleSha256 := "00" } sampleNow).1 ≠ .ok [] ∧
    (stage stageLibraries evidenceContract sampleTarfile stageTree stageArgs sampleNow).1 =
        .ok ["release-governance: output tree already exists; refusing to merge evidence"] ∧
      stageTree.lstat ["in", "release-approvals", sampleVersion, "rpi4.json"] = none ∧
      (stage stageLibraries evidenceContract sampleTarfile stageTree stageArgs sampleNow).2.lstat
        ["in", "release-approvals", sampleVersion, "rpi4.json"] = some (.file sampleApproval) := by
  decide +kernel

theorem stage_unchanged_iff_digest :
    stageTree.Same (stage stageLibraries evidenceContract sampleTarfile stageTree { stageArgs with bundleSha256 := "00" } sampleNow).2 ↔
      Untouched stageLibraries evidenceContract sampleTarfile stageTree { stageArgs with bundleSha256 := "00" } sampleNow :=
  stage_unchanged_iff stages_sample.1

/-- The approval is copied, the governance tree is refused, and the approval stays. -/
theorem stage_leaves_copy :
    (stage stageLibraries evidenceContract sampleTarfile stageTree stageArgs sampleNow).1 =
        .ok ["release-governance: output tree already exists; refusing to merge evidence"] ∧
      stageTree.lstat ["in", "release-approvals", sampleVersion, "rpi4.json"] = none ∧
      (stage stageLibraries evidenceContract sampleTarfile stageTree stageArgs sampleNow).2.lstat
        ["in", "release-approvals", sampleVersion, "rpi4.json"] = some (.file sampleApproval) :=
  stages_sample.2

end SuderraOs.Evidence.OperatorIngress
