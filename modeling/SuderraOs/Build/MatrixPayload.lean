import SuderraOs.Build.MatrixJobs
import SuderraOs.Build.PayloadInputsRead
import SuderraOs.Lib.Shell

/-!
# The images of a payload job

The step `Materialize payload image contracts` of `image-build.yml`: the images of the prebuilds of a job are copied to where a build
would have left them and are checked, and the exports of the job become the inputs of `payload-inputs-manifest.py create`. The shell reads
both lists back from one text each. For a job of a matrix that `validate` accepts no export is missing once the prebuilds are there, and
what `create` then refuses is an empty image, an image that is named twice, or a job without exports (`materialized_inputs_created`).
-/

namespace SuderraOs.Build

open PyText Value Evidence

section Step

variable (H : Host)

/-- The text of a job that the step is given in its environment. -/
def jobText (key : String) (job : Fields) : String := ((field key job).asStr).getD ""

/-- `read -r -a`. -/
def readWords (text : String) : List String := (Shell.readWords text.toList).map String.ofList

/-- The directory of the images of a configuration, under `SUDERRA_HOST_OUTPUT_DIR`. -/
def imagesDir (host defconfig : String) : String := host ++ "/" ++ defconfig ++ "/images"

/-- `cp -a dir/. to/`: what the tree holds stands below the directory, and the rest is as it was. -/
def copyInto (tree files : Files) (dir : PosixPath) : Files := fun path =>
  if path.root = dir.root ∧ dir.names.isPrefixOf path.names then (tree ⟨"", path.names.drop dir.names.length⟩).or (files path) else files path

/-- The loop over the prebuilds: the downloaded images of one are copied, and `verify-artifacts` must pass. -/
def materializePrebuild (rows : List Fields) (downloads : String → Option Files) (host : String) (files : Files) (defconfig : String) :
    Except String Files := do
  let tree ← orError s!"::error::Missing upstream payload artifact {host}/payload-inputs/{defconfig}-image" (downloads defconfig)
  let dir := PosixPath.ofString (imagesDir host defconfig)
  let files := copyInto tree files dir
  let missing ← verifyArtifacts H files rows defconfig (some dir)
  guardError s!"ERROR: {defconfig} missing expected image artifacts" missing.isEmpty
  .ok files

/-- An entry of the exports as the step cuts it: the configuration and the artifact. -/
def cutExport (entry : String) : String × String :=
  let spec := Shell.afterFirst '=' entry.toList
  (String.ofList (Shell.beforeFirst ':' spec), String.ofList (Shell.afterFirst ':' spec))

/-- The loop over the exports: the argument of one. -/
def inputArgument (host : String) (files : Files) (entry : String) : Except String String := do
  let (defconfig, artifact) := cutExport entry
  let path := imagesDir host defconfig ++ "/" ++ artifact
  guardError s!"::error::Payload image contract missing {path}" (files (PosixPath.ofString path)).isSome
  .ok (defconfig ++ ":" ++ artifact ++ ":" ++ path)

/-- The loop over the prebuilds of a job. -/
def materialize (rows : List Fields) (downloads : String → Option Files) (host : String) (job : Fields) (files : Files) : Except String Files :=
  (readWords (jobText "prebuild_defconfigs" job)).foldlM (materializePrebuild H rows downloads host) files

/-- The loop over the exports of a job. -/
def inputArguments (host : String) (job : Fields) (files : Files) : Except String (List String) :=
  (readWords (jobText "payload_image_exports" job)).mapM (inputArgument host files)

end Step

/-! ## The words of a job -/

/-- A text that the shell reads as one word. -/
def IsWord (text : String) : Prop := text ≠ "" ∧ ∀ c ∈ text.toList, c ∉ Shell.defaultIfs

theorem readWords_intercalate {words : List String} (h : ∀ word ∈ words, IsWord word) : readWords (" ".intercalate words) = words := by
  have hwords : ∀ word ∈ words.map String.toList, word ≠ [] ∧ ∀ c ∈ word, c ∉ Shell.defaultIfs := by
    intro word hword
    obtain ⟨text, htext, rfl⟩ := List.mem_map.1 hword
    exact ⟨by simpa using (h text htext).1, (h text htext).2⟩
  rw [readWords, String.toList_intercalate, show " ".toList = [' '] from rfl, Shell.readWords_intercalate hwords, List.map_map,
    show String.ofList ∘ String.toList = id from funext fun _ => String.ofList_toList, List.map_id]

/-- The characters that divide the words and the parts of an entry and of an argument. -/
def separators : List Char := [' ', '\t', '\n', ':', '/', '=']

theorem noSeparator_of_isDefconfig {s : String} (h : isDefconfig s = true) : ∀ c ∈ s.toList, c ∉ separators := by
  rw [isDefconfig, Bool.and_eq_true, Bool.and_eq_true] at h
  intro c hc hmem
  have hchar := List.all_eq_true.1 h.1.1 c hc
  have hnone : ∀ c ∈ separators, (c.isAlphanum || c = '_' || c = '+' || c = '-') = false := by decide
  rw [hnone c hmem] at hchar
  cases hchar

theorem noSeparator_of_isArtifact {s : String} (h : isArtifact s = true) : ∀ c ∈ s.toList, c ∉ separators := by
  unfold isArtifact at h
  cases hlist : s.toList with
  | nil => simp
  | cons d cs =>
    rw [hlist, Bool.and_eq_true] at h
    have hnone : ∀ c ∈ separators, c.isAlphanum = false ∧ (c.isAlphanum || c = '.' || c = '_' || c = '+' || c = '-') = false := by decide
    intro c hc hmem
    rcases List.mem_cons.1 hc with rfl | hc
    · exact Bool.false_ne_true ((hnone c hmem).1.symm.trans h.1)
    · exact Bool.false_ne_true ((hnone c hmem).2.symm.trans (List.all_eq_true.1 h.2 c hc))

/-- An artifact is a name in a directory. -/
theorem name_of_isArtifact {s : String} (h : isArtifact s = true) : s ≠ "" ∧ s ≠ "." ∧ '/' ∉ s.toList := by
  refine ⟨?_, ?_, fun hmem => noSeparator_of_isArtifact h _ hmem (by decide)⟩
  · rintro rfl
    revert h
    decide
  · rintro rfl
    revert h
    decide

theorem isWord_of_isDefconfig {s : String} (h : isDefconfig s = true) : IsWord s := by
  refine ⟨?_, fun c hc hmem => noSeparator_of_isDefconfig h c hc ?_⟩
  · rintro rfl
    revert h
    decide
  · have hsub : ∀ c ∈ Shell.defaultIfs, c ∈ separators := by decide
    exact hsub c hmem

/-- An export is cut by the shell as the check of the matrix cuts it. -/
theorem cutExport_eq {text env defconfig artifact : String} (h : parseExport text = some (env, defconfig, artifact)) :
    cutExport text = (defconfig, artifact) := by
  obtain ⟨p, hp, h⟩ := Option.bind_eq_some_iff.1 h
  obtain ⟨q, hq, h⟩ := Option.bind_eq_some_iff.1 h
  split at h
  · obtain ⟨-, hdefconfig, hartifact⟩ : _ ∧ String.ofList q.1 = defconfig ∧ String.ofList q.2 = artifact := by simpa using h
    simp only [cutExport, Shell.afterFirst, Shell.beforeFirst, hp, Option.map_some, Option.getD_some, hq, hdefconfig, hartifact]
  · cases h

/-- An export of safe names is one word. -/
theorem isWord_of_parseExport {text env defconfig artifact : String} (h : parseExport text = some (env, defconfig, artifact))
    (hdefconfig : isDefconfig defconfig = true) (hartifact : isArtifact artifact = true) : IsWord text := by
  obtain ⟨p, hp, h⟩ := Option.bind_eq_some_iff.1 h
  obtain ⟨q, hq, h⟩ := Option.bind_eq_some_iff.1 h
  obtain ⟨htext, -⟩ := Text.splitOnce_eq_some hp
  obtain ⟨hspec, -⟩ := Text.splitOnce_eq_some hq
  split at h
  · next hsafe =>
    obtain ⟨-, rfl, rfl⟩ : _ ∧ String.ofList q.1 = defconfig ∧ String.ofList q.2 = artifact := by simpa using h
    have hupper : ∀ c ∈ p.1, (c.isUpper || c.isDigit || c = '_') = true := by
      simp only [Bool.and_eq_true, List.all_eq_true] at hsafe
      exact hsafe.1.1.1.1.2
    have hnone : ∀ c ∈ Shell.defaultIfs, (c.isUpper || c.isDigit || c = '_') = false ∧ c ≠ '=' ∧ c ≠ ':' ∧ c ∈ separators := by decide
    refine ⟨fun hempty => by simp [hempty] at htext, fun c hc hmem => ?_⟩
    rw [htext, hspec] at hc
    simp only [List.mem_append, List.mem_cons] at hc
    rcases hc with hc | rfl | hc | rfl | hc
    · exact Bool.false_ne_true ((hnone c hmem).1.symm.trans (hupper c hc))
    · exact (hnone _ hmem).2.1 rfl
    · exact noSeparator_of_isDefconfig hdefconfig c (by simpa using hc) (hnone c hmem).2.2.2
    · exact (hnone _ hmem).2.2.1 rfl
    · exact noSeparator_of_isArtifact hartifact c (by simpa using hc) (hnone c hmem).2.2.2
  · cases h

/-! ## The run of the step -/

section Run

variable {H : Host} {J : JoinContract} {files : Files} {strict : Bool} {defconfigs : List Value} {rows : List Fields}
  {downloads : String → Option Files} {host : String}

/-- An argument as `create` reads it. -/
theorem parseInput_argument {defconfig artifact : String} (hdefconfig : isDefconfig defconfig = true) (hartifact : isArtifact artifact = true)
    (path : String) :
    PayloadInputs.parseInput (defconfig ++ ":" ++ artifact ++ ":" ++ path) = .ok ⟨defconfig, artifact, PosixPath.ofString path⟩ := by
  have hcolon : ':' ∉ defconfig.toList := fun hmem => noSeparator_of_isDefconfig hdefconfig _ hmem (by decide)
  have hcolon' : ':' ∉ artifact.toList := fun hmem => noSeparator_of_isArtifact hartifact _ hmem (by decide)
  have hsplit : PayloadInputs.splitInput (defconfig ++ ":" ++ artifact ++ ":" ++ path) = some (defconfig, artifact, path) := by
    have htext : (defconfig ++ ":" ++ artifact ++ ":" ++ path).toList = defconfig.toList ++ ':' :: (artifact.toList ++ ':' :: path.toList) := by
      simp
    rw [PayloadInputs.splitInput, htext, Text.splitOnce_append hcolon, Option.bind_some, Text.splitOnce_append hcolon']
    simp
  rw [PayloadInputs.parseInput, hsplit, orError_some, ok_bind]
  simp only [hdefconfig, hartifact, guardError, if_true, ok_bind]

/-- The path of an image is the name below the directory. -/
theorem ofString_image {defconfig artifact : String} (hartifact : isArtifact artifact = true) :
    PosixPath.ofString (imagesDir host defconfig ++ "/" ++ artifact) =
      (PosixPath.ofString (imagesDir host defconfig)).join (PosixPath.ofString artifact) := by
  have hname := name_of_isArtifact hartifact
  have hlong : 2 < (imagesDir host defconfig).toList.length := by
    simp only [imagesDir, String.toList_append, List.length_append]
    have : "/images".toList.length = 7 := rfl
    omega
  rw [PosixPath.ofString_append_name hlong hname, PosixPath.ofString_of_name hname]
  rfl

/-- The images that a configuration must have stand in its directory. -/
def Held (H : Host) (rows : List Fields) (host : String) (files : Files) (defconfig : String) : Prop :=
  ∃ row ∈ rows, nameOf H row = defconfig ∧ ∀ artifact ∈ expectedArtifacts H row,
    (files ((PosixPath.ofString (imagesDir host defconfig)).join (PosixPath.ofString artifact))).isSome = true

/-- A file that is there stays there. -/
def Grows (files files' : Files) : Prop := ∀ path, (files path).isSome = true → (files' path).isSome = true

theorem Held.grows {files files' : Files} {defconfig : String} (h : Held H rows host files defconfig) (hgrows : Grows files files') :
    Held H rows host files' defconfig := by
  obtain ⟨row, hrow, hname, hheld⟩ := h
  exact ⟨row, hrow, hname, fun artifact hartifact => hgrows _ (hheld artifact hartifact)⟩

theorem copyInto_grows (tree files : Files) (dir : PosixPath) : Grows files (copyInto tree files dir) := by
  intro path hpath
  unfold copyInto
  split
  · rw [Option.isSome_or, hpath, Bool.or_true]
  · exact hpath

/-- One prebuild: nothing goes away, and what `verify-artifacts` asks for is there. -/
theorem materializePrebuild_ok {files' : Files} {defconfig : String}
    (h : materializePrebuild H rows downloads host files defconfig = .ok files') : Grows files files' ∧ Held H rows host files' defconfig := by
  obtain ⟨tree, -, h⟩ := orError_bind_ok_iff.1 h
  obtain ⟨missing, hmissing, h⟩ := bind_ok_iff.1 h
  obtain ⟨hnone, h⟩ := guardError_bind_ok_iff.1 h
  obtain rfl := Except.ok.inj h
  obtain ⟨row, hrow, hmissing⟩ := orError_bind_ok_iff.1 hmissing
  rw [targetByDefconfig] at hrow
  have hname : (field "name" row).pyEq (.str defconfig) = true := by simpa using List.find?_some hrow
  refine ⟨copyInto_grows _ _ _, row, List.mem_of_find?_eq_some hrow, textField_eq (pyEq_str_iff.1 hname), ?_⟩
  rw [← Except.ok.inj hmissing, List.isEmpty_iff, List.filter_eq_nil_iff] at hnone
  intro artifact hartifact
  simpa [Option.isSome_iff_ne_none] using hnone _ (List.mem_map_of_mem hartifact)

/-- All prebuilds: each was checked, and later copies take nothing away. -/
theorem materialize_ok {names : List String} {files' : Files} (h : names.foldlM (materializePrebuild H rows downloads host) files = .ok files') :
    Grows files files' ∧ ∀ name ∈ names, Held H rows host files' name := by
  induction names generalizing files with
  | nil =>
    obtain rfl := Except.ok.inj h
    exact ⟨fun _ hpath => hpath, by simp⟩
  | cons name names ih =>
    obtain ⟨files'', hstep, h⟩ := bind_ok_iff.1 h
    obtain ⟨hgrows, hheld⟩ := materializePrebuild_ok hstep
    obtain ⟨hrest, hnames⟩ := ih h
    exact ⟨fun path hpath => hrest path (hgrows path hpath), List.forall_mem_cons.2 ⟨hheld.grows hrest, hnames⟩⟩

theorem targetByName_some {name : String} {target : Fields} (h : targetByName H rows name = some target) :
    target ∈ rows ∧ nameOf H target = name := by
  unfold targetByName at h
  split at h
  · cases h
  · exact ⟨List.mem_reverse.1 (List.mem_of_find?_eq_some h), by simpa using List.find?_some h⟩

/-- The input of an export. -/
def exportInput (host entry : String) : PayloadInputs.Input where
  defconfig := (cutExport entry).1
  artifact := (cutExport entry).2
  path := PosixPath.ofString (imagesDir host (cutExport entry).1 ++ "/" ++ (cutExport entry).2)

/-- What an export of an accepted row comes from: a row that is not this one, among whose artifacts it is. -/
structure Exported (H : Host) (rows : List Fields) (row : Fields) (input : PayloadInputs.Input) : Prop where
  safe : isArtifact input.artifact = true
  other : input.defconfig ≠ nameOf H row
  made : ∃ target ∈ rows, nameOf H target = input.defconfig ∧ input.artifact ∈ expectedArtifacts H target

variable (host) in
theorem exported_of_sound (hmatrix : MatrixAccepted H J files strict defconfigs rows) {row : Fields} {prebuilds exports : List String}
    (hsound : RowSound H rows row prebuilds exports) {text : String} (htext : text ∈ exports) :
    Exported H rows row (exportInput host text) ∧ (exportInput host text).defconfig ∈ prebuilds ∧ ∃ env defconfig artifact,
      parseExport text = some (env, defconfig, artifact) := by
  obtain ⟨env, defconfig, artifact, hparse, hprebuild, hmade⟩ := hsound.built text htext
  obtain ⟨hother, target, htarget⟩ := hsound.known defconfig hprebuild
  obtain ⟨hmem, hname⟩ := targetByName_some htarget
  obtain ⟨_, _, htargetSound⟩ := (hmatrix.accepted target hmem).sound
  have hcut := cutExport_eq hparse
  refine ⟨⟨?_, ?_, target, hmem, ?_, ?_⟩, ?_, env, defconfig, artifact, hparse⟩
  · simpa only [exportInput, hcut] using htargetSound.safe artifact (hmade target htarget)
  · simpa only [exportInput, hcut] using hother
  · simpa only [exportInput, hcut] using hname
  · simpa only [exportInput, hcut] using hmade target htarget
  · simpa only [exportInput, hcut] using hprebuild

/-- The image of an export is there once the configuration it comes from was checked. -/
theorem Exported.image_held (hmatrix : MatrixAccepted H J files strict defconfigs rows) {row : Fields} {files' : Files} {text : String}
    (h : Exported H rows row (exportInput host text)) (hheld : Held H rows host files' (exportInput host text).defconfig) :
    (files' (exportInput host text).path).isSome = true := by
  obtain ⟨target, htarget, hname, hmade⟩ := h.made
  obtain ⟨other, hother, hsame, hfiles⟩ := hheld
  obtain rfl : other = target := List.inj_on_of_nodup_map hmatrix.names hother htarget (hsame.trans hname.symm)
  have hpath : (exportInput host text).path = (PosixPath.ofString (imagesDir host (exportInput host text).defconfig)).join
      (PosixPath.ofString (exportInput host text).artifact) := ofString_image h.safe
  rw [hpath]
  exact hfiles _ hmade

theorem jobText_eq {key text : String} {row job : Fields} {prebuilds exports : List String} (h : IsJob row job prebuilds exports)
    (hmem : (key, .str text) ∈ job) : jobText key job = text := by
  rw [jobText, field, (lookup_eq_some_iff h.names).2 hmem]
  rfl

theorem mapM_map_ok {α β γ : Type} {f : β → Except String γ} {g : α → β} {k : α → γ} {xs : List α} (h : ∀ x ∈ xs, f (g x) = .ok (k x)) :
    (xs.map g).mapM f = .ok (xs.map k) := by
  rw [mapM_ok_iff, List.forall₂_map_left_iff, List.forall₂_map_right_iff, List.forall₂_same]
  exact h

/-- The argument of an export. -/
def exportArgument (host entry : String) : String :=
  (cutExport entry).1 ++ ":" ++ (cutExport entry).2 ++ ":" ++ (imagesDir host (cutExport entry).1 ++ "/" ++ (cutExport entry).2)

/-- In a job of a matrix that is accepted no export is missing once its prebuilds are copied and checked, as long as these have the names of
configurations. Each export is then an input from another row, where it is an artifact, and `create` makes a manifest of them unless there
are none, one is named twice or an image is empty. -/
theorem materialized_inputs_created {checkout : Files} (h : validate H J checkout strict defconfigs = .ok []) :
    ∃ rows, defconfigs = rows.map .dict ∧ ∀ row ∈ rows, ∀ job, githubJob H row = .ok job → (∀ name ∈ prebuildsOf H row, isDefconfig name = true) →
      ∀ downloads host files files', materialize H rows downloads host job files = .ok files' →
        ∃ args inputs, inputArguments host job files' = .ok args ∧ args.mapM PayloadInputs.parseInput = .ok inputs ∧
          (∀ input ∈ inputs, Exported H rows row input ∧ (files' input.path).isSome = true) ∧
          ∀ (T : Tools) (A : PayloadInputs.CreateArgs), A.inputs = args → ((∃ payload, PayloadInputs.create T A files' = .ok payload) ↔
            isDefconfig A.defconfig = true ∧ isHex 40 A.sourceSha = true ∧ inputs ≠ [] ∧ (inputs.map PayloadInputs.Input.key).Nodup ∧
              ∀ input ∈ inputs, files' input.path ≠ some []) := by
  obtain ⟨rows, hmatrix⟩ := accepted_of_validate h
  refine ⟨rows, hmatrix.objects, fun row hrow job hjob hnames downloads host files files' hrun => ?_⟩
  obtain ⟨prebuilds, exports, hsound⟩ := (hmatrix.accepted row hrow).sound
  obtain rfl : jobOf H row = job := Except.ok.inj ((githubJob_eq (hmatrix.accepted row hrow)).symm.trans hjob)
  have hisJob := isJob_jobOf (hmatrix.accepted row hrow) hsound
  rw [show prebuildsOf H row = prebuilds by rw [prebuildsOf, hsound.listed]; rfl] at hnames
  rw [materialize, jobText_eq hisJob hisJob.prebuilds, readWords_intercalate fun name hname => isWord_of_isDefconfig (hnames name hname)] at hrun
  obtain ⟨-, hheld⟩ := materialize_ok hrun
  have hexported : ∀ text ∈ exports, Exported H rows row (exportInput host text) ∧ isDefconfig (exportInput host text).defconfig = true ∧
      (files' (exportInput host text).path).isSome = true ∧ IsWord text := by
    intro text htext
    obtain ⟨hfrom, hprebuild, env, defconfig, artifact, hparse⟩ := exported_of_sound host hmatrix hsound htext
    have hcut := cutExport_eq hparse
    have hdefconfig := hnames _ hprebuild
    refine ⟨hfrom, hdefconfig, hfrom.image_held hmatrix (hheld _ hprebuild), isWord_of_parseExport hparse ?_ ?_⟩
    · simpa only [exportInput, hcut] using hdefconfig
    · simpa only [exportInput, hcut] using hfrom.safe
  have hargs : inputArguments host (jobOf H row) files' = .ok (exports.map (exportArgument host)) := by
    rw [inputArguments, jobText_eq hisJob hisJob.exports, readWords_intercalate fun text htext => (hexported text htext).2.2.2]
    have heach : ∀ text ∈ exports, inputArgument host files' text = .ok (exportArgument host text) := by
      intro text htext
      have hthere : (files' (PosixPath.ofString (imagesDir host (cutExport text).1 ++ "/" ++ (cutExport text).2))).isSome = true :=
        (hexported text htext).2.2.1
      simp only [inputArgument, hthere, guardError, if_true, ok_bind, exportArgument]
    simpa using mapM_map_ok (g := id) heach
  have hinputs : (exports.map (exportArgument host)).mapM PayloadInputs.parseInput = .ok (exports.map (exportInput host)) :=
    mapM_map_ok fun text htext => parseInput_argument (hexported text htext).2.1 (hexported text htext).1.safe _
  refine ⟨_, _, hargs, hinputs, ?_, ?_⟩
  · exact List.forall_mem_map.2 fun text htext => ⟨(hexported text htext).1, (hexported text htext).2.2.1⟩
  · intro T A hA
    rw [← hA] at hinputs
    rw [PayloadInputs.create_ok_iff hinputs]
    refine and_congr_right' (and_congr_right' (and_congr_right' (and_congr_right' ?_)))
    refine forall₂_congr fun input hinput => ?_
    obtain ⟨text, htext, rfl⟩ := List.mem_map.1 hinput
    obtain ⟨bytes, hbytes⟩ := Option.isSome_iff_exists.1 (hexported text htext).2.2.1
    simp [hbytes]

end Run

/-! ## A stick with one image -/

/-- What the job of the board has left. -/
def sampleDownloads : String → Option Files := fun name =>
  if name = "suderra_rpi4_defconfig" then
    some fun path => if path.names = ["disk.img"] ∨ path.names = ["disk.img.xz"] then some [1] else none
  else none

theorem githubJob_sampleStick : githubJob sampleHost sampleStick = .ok (jobOf sampleHost sampleStick) := by
  have hok : (githubJob sampleHost sampleStick).isOk = true := by decide +kernel
  rw [jobOf]
  cases hjob : githubJob sampleHost sampleStick with
  | error e => simp [hjob, Except.isOk, Except.toBool] at hok
  | ok job => rfl

theorem materialize_sampleStick : ∃ files', materialize sampleHost [sampleBoard, sampleStick] sampleDownloads "/out"
    (jobOf sampleHost sampleStick) (fun _ => none) = .ok files' := by
  have hok : (materialize sampleHost [sampleBoard, sampleStick] sampleDownloads "/out" (jobOf sampleHost sampleStick) fun _ => none).isOk =
      true := by
    decide +kernel
  cases hrun : materialize sampleHost [sampleBoard, sampleStick] sampleDownloads "/out" (jobOf sampleHost sampleStick) fun _ => none with
  | error e => simp [hrun, Except.isOk, Except.toBool] at hok
  | ok files' => exact ⟨files', rfl⟩

theorem materialized_inputs_created_sample : ∃ files' args input, inputArguments "/out" (jobOf sampleHost sampleStick) files' = .ok args ∧
    args.mapM PayloadInputs.parseInput = .ok [input] ∧ (files' input.path).isSome = true := by
  obtain ⟨rows, hrows, hruns⟩ := materialized_inputs_created sample_validated
  obtain rfl : [sampleBoard, sampleStick] = rows := List.map_injective_iff.2 (fun _ _ hdict => Value.dict.inj hdict) hrows
  obtain ⟨files', hrun⟩ := materialize_sampleStick
  have hnames : ∀ name ∈ prebuildsOf sampleHost sampleStick, isDefconfig name = true := by decide +kernel
  obtain ⟨args, inputs, hargs, hinputs, hheld, -⟩ :=
    hruns sampleStick (by simp) _ githubJob_sampleStick hnames sampleDownloads "/out" _ files' hrun
  have hlength : inputs.length = 1 := by
    have hwords : (readWords (jobText "payload_image_exports" (jobOf sampleHost sampleStick))).length = 1 := by decide +kernel
    rw [← (mapM_ok_iff.1 hinputs).length_eq, ← (mapM_ok_iff.1 hargs).length_eq, hwords]
  obtain ⟨input, rfl⟩ := List.length_eq_one_iff.1 hlength
  exact ⟨files', args, input, hargs, hinputs, (hheld input List.mem_cons_self).2⟩

end SuderraOs.Build
