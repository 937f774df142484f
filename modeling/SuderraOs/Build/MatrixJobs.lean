import SuderraOs.Build.MatrixAccepted
import SuderraOs.Build.PayloadInputsRead

/-!
# The jobs of the build matrix

What the workflows ask `validate-build-matrix.py` for: the jobs of a selector (`github-matrix`), whether the images of a row are there
(`verify-artifacts`), and whether a release may go on (`production-readiness`, `candidate-readiness`). Over a matrix that `validate`
accepts the jobs of a base and of a payload share out the jobs of a selector (`jobs_shared_out`).
-/

namespace SuderraOs.Build

open PyText Value Evidence

/-- `BOOLEAN_SELECTORS`. -/
def booleanSelectors : List String :=
  ["ci_build", "fast_required", "image_build", "release_source", "payload_base_required", "qemu_test", "release", "production_required"]

/-- The selectors that divide a boolean one by the prebuilds of a row: whether they ask for some. -/
def dividedSelectors : List (String × String × Bool) :=
  [("ci_build_base", "ci_build", false), ("ci_build_payload", "ci_build", true), ("image_build_base", "image_build", false),
    ("image_build_payload", "image_build", true), ("release_base", "release", false), ("release_payload", "release", true)]

/-- `MATRIX_SELECTORS`. -/
def matrixSelectors : List String := booleanSelectors ++ dividedSelectors.map (·.1) ++ ["image_build_qemu"]

section Jobs

variable (H : Host)

/-- `target[key]`. -/
def subscript (row : Fields) (key : String) : Except String Value := orError s!"KeyError: {key}" (lookup key row)

/-- `target_matches_selector`, for the selectors that the command line lets through. -/
def targetMatchesSelector (row : Fields) (selector : String) : Except String Bool := do
  let prebuilds ← listField H (shownName H row) "prebuild_defconfigs" row
  if booleanSelectors.contains selector then .ok (field selector row).truthy
  else if selector = "image_build_qemu" then .ok ((field "image_build" row).truthy && (field "qemu_test" row).truthy)
  else
    match dividedSelectors.lookup selector with
    | some (key, payload) => .ok ((field key row).truthy && prebuilds.isEmpty != payload)
    | none => .error s!"unsupported selector: {selector}"

/-- Fields of a job that are copied from the row. -/
def copied (row : Fields) (keys : List (String × String)) : Except String Fields :=
  keys.mapM fun p => do
    let value ← subscript row p.2
    .ok (p.1, value)

/-- The name of an artifact without `.xz`. -/
def releaseRenameBase (artifact : String) : String :=
  if ".xz".toList.isSuffixOf artifact.toList then String.ofList (artifact.toList.dropLast.dropLast.dropLast) else artifact

/-- The fields of a job before its release artifact, with the fields of the row that they are. -/
def headKeys : List (String × String) :=
  [("name", "target"), ("target", "target"), ("defconfig", "name"), ("arch", "arch"), ("artifact", "artifact")]

def middleKeys : List (String × String) :=
  ["signing", "fast_required", "image_build", "release_source", "payload_base_required", "timeout_minutes", "build_step_timeout_minutes",
    "min_disk_gib", "min_mem_gib", "min_vcpu", "build_jlevel"].map fun key => (key, key)

def tailKeys : List (String × String) := [("profile", "profile"), ("boot_mode", "boot_mode")]

/-- The job of a row. -/
def githubJob (row : Fields) : Except String Fields := do
  let artifact ← subscript row "release_artifact"
  let releaseArtifact := artifact.pyStr H.repr
  let head ← copied row headKeys
  let middle ← copied row middleKeys
  let prebuilds ← listField H (shownName H row) "prebuild_defconfigs" row
  let exports ← listField H (shownName H row) "payload_image_exports" row
  let tail ← copied row tailKeys
  .ok (head ++ [("release", .str (releaseRenameBase releaseArtifact)), ("release_artifact", .str releaseArtifact)] ++ middle ++
    [("prebuild_defconfigs", .str (" ".intercalate prebuilds)), ("payload_image_exports", .str (" ".intercalate exports)),
      ("expected_artifacts", .str (" ".intercalate (expectedArtifacts H row)))] ++ tail)

/-- `github_matrix`: the jobs that are included. -/
def githubMatrix (rows : List Fields) (selector : String) : Except String (List Fields) := do
  let jobs ← rows.mapM fun row => do
    let selected ← targetMatchesSelector H row selector
    if selected then (githubJob H row).map fun job => [job] else .ok []
  .ok jobs.flatten

/-- `target_by_defconfig`. -/
def targetByDefconfig (rows : List Fields) (defconfig : String) : Option Fields :=
  rows.find? fun row => (field "name" row).pyEq (.str defconfig)

/-- `verify_artifacts`: the artifacts that are missing. -/
def verifyArtifacts (files : Files) (rows : List Fields) (defconfig : String) (imagesDir : Option PosixPath) : Except String (List PosixPath) := do
  let row ← orError s!"ERROR: unknown defconfig in matrix: {defconfig}" (targetByDefconfig rows defconfig)
  let dir := imagesDir.getD (((H.root.child "output").join (PosixPath.ofString defconfig)).child "images")
  .ok (((expectedArtifacts H row).map fun artifact => dir.join (PosixPath.ofString artifact)).filter fun path => (files path).isNone)

variable (J : JoinContract)

/-- `bool(policy.get("production_gate", bool(target.get("production_required"))))`, and the row is not ready. -/
def isBlocker (row : Fields) : Bool :=
  (match J.targetPolicy ((field "target" row).pyStr H.repr) with
    | some policy => policy.productionGate
    | none => (field "production_required" row).truthy) && !(field "production_ready" row).truthy

/-- The line of a blocker: its `name` and its `blocker`. -/
def blockerLine (row : Fields) : Except String String := do
  let name ← subscript row "name"
  let reason ← subscript row "blocker"
  .ok s!"- {name.pyStr H.repr}: {reason.pyStr H.repr}"

/-- `production_readiness`: its exit code, and the blockers that it prints. -/
def productionReadiness (rows : List Fields) : Except String (Int × List String) := do
  let lines ← (rows.filter (isBlocker H J)).mapM (blockerLine H)
  .ok (if lines.isEmpty then 0 else 1, lines)

/-- A release row that production needs, that is not ready and says no reason. -/
def missesRationale (row : Fields) : Bool :=
  (field "release" row).truthy && (field "production_required" row).truthy && !(field "production_ready" row).truthy &&
    isBlank (textField H.toPython "blocker" row)

/-- The line of a target without a reason. -/
def rationaleLine (row : Fields) : Except String String := do
  let name ← subscript row "name"
  .ok s!"- {name.pyStr H.repr}"

/-- `candidate_readiness`: its exit code and the targets that it prints, from the exit code of the validation of the inputs, where they are
required. -/
def candidateReadiness (rows : List Fields) (tag : String) (inputs : Option Int) : Except String (Int × List String) := do
  if tag = "" then .ok (2, [])
  else if !tag.toList.contains '-' then productionReadiness H J rows
  else if rows.any (missesRationale H) then do
    let lines ← (rows.filter (missesRationale H)).mapM (rationaleLine H)
    .ok (1, lines)
  else do
    let lines ← (rows.filter (isBlocker H J)).mapM (blockerLine H)
    .ok (inputs.getD 0, lines)

end Jobs

/-! ## The jobs of an accepted matrix -/

section Accepted

variable {H : Host} {J : JoinContract} {files : Files} {strict : Bool} {defconfigs : List Value}

/-- The job of a row, where it has all that a job needs. -/
def jobOf (H : Host) (row : Fields) : Fields := (githubJob H row).toOption.getD []

theorem copied_isOk {row : Fields} (h : missingFields row = []) {keys : List (String × String)} (hkeys : ∀ p ∈ keys, p.2 ∈ targetFields) :
    ∃ members, copied row keys = .ok members := by
  refine exists_mapM fun p hp => ?_
  obtain ⟨v, hv⟩ := lookup_of_complete h (hkeys p hp)
  exact ⟨(p.1, v), by rw [subscript, hv, orError_some, ok_bind]⟩

theorem githubJob_eq {rows : List Fields} {row : Fields} (h : RowAccepted H files strict rows row) : githubJob H row = .ok (jobOf H row) := by
  obtain ⟨prebuilds, exports, hsound⟩ := h.sound
  have hartifact : ∃ v, lookup "release_artifact" row = some v := lookup_of_complete h.complete (by decide)
  have hhead : ∃ members, copied row headKeys = .ok members := copied_isOk h.complete (by decide)
  have hmiddle : ∃ members, copied row middleKeys = .ok members := copied_isOk h.complete (by decide)
  have htail : ∃ members, copied row tailKeys = .ok members := copied_isOk h.complete (by decide)
  obtain ⟨_, hartifact⟩ := hartifact
  obtain ⟨_, hhead⟩ := hhead
  obtain ⟨_, hmiddle⟩ := hmiddle
  obtain ⟨_, htail⟩ := htail
  have hjob : ∃ job, githubJob H row = .ok job := by
    rw [githubJob, subscript, hartifact, orError_some, ok_bind, hhead, ok_bind, hmiddle, ok_bind, hsound.listed, ok_bind, hsound.exported, ok_bind,
      htail, ok_bind]
    exact ⟨_, rfl⟩
  obtain ⟨job, hjob⟩ := hjob
  rw [jobOf, hjob]
  rfl

/-- What a selector asks of the fields of a row and of its prebuilds. -/
def selectorHolds (row : Fields) (prebuilds : List String) (selector : String) : Bool :=
  if booleanSelectors.contains selector then (field selector row).truthy
  else if selector = "image_build_qemu" then (field "image_build" row).truthy && (field "qemu_test" row).truthy
  else (dividedSelectors.lookup selector).any fun p => (field p.1 row).truthy && prebuilds.isEmpty != p.2

theorem targetMatchesSelector_eq {rows : List Fields} {row : Fields} {prebuilds exports : List String}
    (h : RowSound H rows row prebuilds exports) {selector : String} (hselector : selector ∈ matrixSelectors) :
    targetMatchesSelector H row selector = .ok (selectorHolds row prebuilds selector) := by
  rw [targetMatchesSelector, h.listed, ok_bind, selectorHolds]
  by_cases hboolean : booleanSelectors.contains selector = true
  · rw [if_pos hboolean, if_pos hboolean]
  rw [if_neg hboolean, if_neg hboolean]
  by_cases hqemu : selector = "image_build_qemu"
  · rw [if_pos hqemu, if_pos hqemu]
  rw [if_neg hqemu, if_neg hqemu]
  have hdivided : selector ∈ dividedSelectors.map (·.1) := by
    simpa [matrixSelectors, hqemu, show selector ∉ booleanSelectors by simpa using hboolean] using hselector
  obtain ⟨p, hp⟩ : ∃ p, dividedSelectors.lookup selector = some p := by
    obtain ⟨q, hq, rfl⟩ := List.mem_map.1 hdivided
    have hlisted : ∀ p ∈ dividedSelectors, (dividedSelectors.lookup p.1).isSome = true := by decide
    exact Option.isSome_iff_exists.1 (hlisted q hq)
  rw [hp, Option.any_some]

/-- The prebuilds of a row, where they are a list. -/
def prebuildsOf (H : Host) (row : Fields) : List String := (listField H (shownName H row) "prebuild_defconfigs" row).toOption.getD []

/-- The jobs of a selector, of rows that are accepted. -/
def jobsOf (H : Host) (rows : List Fields) (selector : String) : List Fields :=
  (rows.filter fun row => selectorHolds row (prebuildsOf H row) selector).map (jobOf H)

theorem githubMatrix_eq {all rows : List Fields} (h : ∀ row ∈ rows, RowAccepted H files strict all row) {selector : String}
    (hselector : selector ∈ matrixSelectors) : githubMatrix H rows selector = .ok (jobsOf H rows selector) := by
  induction rows with
  | nil => rfl
  | cons row rows ih =>
    obtain ⟨haccepted, hrest⟩ := List.forall_mem_cons.1 h
    obtain ⟨prebuilds, exports, hsound⟩ := haccepted.sound
    have hprebuilds : prebuildsOf H row = prebuilds := by
      rw [prebuildsOf, hsound.listed]
      rfl
    obtain ⟨jobs, hjobs, heq⟩ := bind_ok_iff.1 (ih hrest)
    rw [githubMatrix, List.mapM_cons, targetMatchesSelector_eq hsound hselector, ok_bind, githubJob_eq haccepted, hjobs]
    rw [Except.ok.injEq] at heq
    rw [jobsOf, List.filter_cons, hprebuilds]
    cases hholds : selectorHolds row prebuilds selector with
    | true =>
      rw [if_pos rfl, if_pos rfl, List.map_cons, ← jobsOf, ← heq]
      rfl
    | false =>
      rw [if_neg Bool.false_ne_true, if_neg Bool.false_ne_true, ← jobsOf, ← heq]
      rfl

/-- What is selected by less is a part of what is selected by more. -/
theorem jobsOf_sublist {rows : List Fields} {less more : String}
    (h : ∀ row ∈ rows, selectorHolds row (prebuildsOf H row) less = true → selectorHolds row (prebuildsOf H row) more = true) :
    (jobsOf H rows less).Sublist (jobsOf H rows more) := by
  refine List.Sublist.map _ ?_
  have hfilter : rows.filter (fun row => selectorHolds row (prebuildsOf H row) less) =
      (rows.filter fun row => selectorHolds row (prebuildsOf H row) more).filter fun row => selectorHolds row (prebuildsOf H row) less := by
    rw [List.filter_filter]
    refine List.filter_congr fun row hrow => ?_
    cases hless : selectorHolds row (prebuildsOf H row) less with
    | true => rw [h row hrow hless]; rfl
    | false => rfl
  rw [hfilter]
  exact List.filter_sublist

theorem selectorHolds_divided (row : Fields) (prebuilds : List String) {p : String × String × Bool} (hp : p ∈ dividedSelectors) :
    selectorHolds row prebuilds p.1 = (selectorHolds row prebuilds p.2.1 && (prebuilds.isEmpty != p.2.2)) := by
  have hdivided : ∀ p ∈ dividedSelectors, booleanSelectors.contains p.1 = false ∧ p.1 ≠ "image_build_qemu" ∧
      dividedSelectors.lookup p.1 = some p.2 ∧ booleanSelectors.contains p.2.1 = true := by
    decide
  obtain ⟨hnot, hqemu, hlookup, hboolean⟩ := hdivided p hp
  rw [selectorHolds, hnot, if_neg Bool.false_ne_true, if_neg hqemu, hlookup, Option.any_some, selectorHolds, if_pos hboolean]

/-- The jobs of a base and the jobs of a payload are the jobs of the selector that they divide. -/
theorem jobsOf_divided_perm (rows : List Fields) {base payload selector : String} (hbase : (base, selector, false) ∈ dividedSelectors)
    (hpayload : (payload, selector, true) ∈ dividedSelectors) :
    (jobsOf H rows base ++ jobsOf H rows payload).Perm (jobsOf H rows selector) := by
  rw [jobsOf, jobsOf, jobsOf, ← List.map_append]
  refine List.Perm.map _ ?_
  have hparts := List.filter_append_perm (fun row => (prebuildsOf H row).isEmpty)
    (rows.filter fun row => selectorHolds row (prebuildsOf H row) selector)
  have hbase := fun row => selectorHolds_divided row (prebuildsOf H row) hbase
  have hpayload := fun row => selectorHolds_divided row (prebuildsOf H row) hpayload
  simp only [Bool.bne_false, Bool.bne_true] at hbase hpayload
  simp only [List.filter_filter] at hparts
  simpa only [hbase, hpayload, Bool.and_comm] using hparts

/-- What a job says of its row. -/
structure IsJob (row job : Fields) (prebuilds exports : List String) : Prop where
  names : (job.map (·.1)).Nodup
  copied : ∀ p ∈ headKeys ++ middleKeys ++ tailKeys, ∃ v, lookup p.2 row = some v ∧ (p.1, v) ∈ job
  prebuilds : ("prebuild_defconfigs", .str (" ".intercalate prebuilds)) ∈ job
  exports : ("payload_image_exports", .str (" ".intercalate exports)) ∈ job

theorem names_copied {row members : Fields} {keys : List (String × String)} (h : copied row keys = .ok members) :
    members.map (·.1) = keys.map (·.1) := by
  rw [copied, mapM_ok_iff] at h
  induction h with
  | nil => rfl
  | cons hp _ ih =>
    obtain ⟨v, -, hp⟩ := bind_ok_iff.1 hp
    rw [List.map_cons, List.map_cons, ih, ← Except.ok.inj hp]

theorem mem_copied {row members : Fields} {keys : List (String × String)} (h : copied row keys = .ok members) :
    ∀ p ∈ keys, ∃ v, lookup p.2 row = some v ∧ (p.1, v) ∈ members := by
  intro p hp
  obtain ⟨q, hq, hmap⟩ := mapM_ok_left h p hp
  obtain ⟨v, hv, hmap⟩ := bind_ok_iff.1 hmap
  exact ⟨v, orError_ok_iff.1 hv, Except.ok.inj hmap ▸ hq⟩

theorem isJob_jobOf {rows : List Fields} {row : Fields} {prebuilds exports : List String} (h : RowAccepted H files strict rows row)
    (hsound : RowSound H rows row prebuilds exports) : IsJob row (jobOf H row) prebuilds exports := by
  have hjob := githubJob_eq h
  obtain ⟨artifact, -, hjob⟩ := bind_ok_iff.1 hjob
  obtain ⟨head, hhead, hjob⟩ := bind_ok_iff.1 hjob
  obtain ⟨middle, hmiddle, hjob⟩ := bind_ok_iff.1 hjob
  rw [hsound.listed, ok_bind, hsound.exported, ok_bind] at hjob
  obtain ⟨tail, htail, hjob⟩ := bind_ok_iff.1 hjob
  rw [← Except.ok.inj hjob]
  refine ⟨?_, ?_, by simp, by simp⟩
  · simp only [List.map_append, names_copied hhead, names_copied hmiddle, names_copied htail, List.map_cons, List.map_nil]
    decide
  · intro p hp
    rcases List.mem_append.1 hp with hp | hp
    · rcases List.mem_append.1 hp with hp | hp
      · obtain ⟨v, hv, hmem⟩ := mem_copied hhead p hp
        exact ⟨v, hv, by simp [hmem]⟩
      · obtain ⟨v, hv, hmem⟩ := mem_copied hmiddle p hp
        exact ⟨v, hv, by simp [hmem]⟩
    · obtain ⟨v, hv, hmem⟩ := mem_copied htail p hp
      exact ⟨v, hv, by simp [hmem]⟩

/-- A field of a job that is copied. -/
theorem IsJob.field_eq {row job : Fields} {prebuilds exports : List String} (h : IsJob row job prebuilds exports) {p : String × String}
    (hp : p ∈ headKeys ++ middleKeys ++ tailKeys) : field p.1 job = field p.2 row := by
  obtain ⟨v, hv, hmem⟩ := h.copied p hp
  rw [field, field, hv, (lookup_eq_some_iff h.names).2 hmem]

/-- A field that differs as a text in all rows differs in all jobs. -/
theorem nodup_jobsOf {all rows : List Fields} (h : ∀ row ∈ rows, RowAccepted H files strict all row) {p : String × String}
    (hp : p ∈ headKeys ++ middleKeys ++ tailKeys) (hnodup : (rows.map (textField H.toPython p.2)).Nodup) (selector : String) :
    ((jobsOf H rows selector).map (field p.1)).Nodup := by
  have htexts : rows.map (textField H.toPython p.2) = (rows.map (field p.2)).map (Value.pyStr H.repr) := by
    rw [List.map_map]
    refine List.map_congr_left fun row hrow => ?_
    obtain ⟨prebuilds, exports, hsound⟩ := (h row hrow).sound
    obtain ⟨v, hv, -⟩ := (isJob_jobOf (h row hrow) hsound).copied p hp
    rw [textField, Function.comp_apply, field, hv, Option.getD_some, Option.getD_some]
  have hfields : ((rows.map (jobOf H)).map (field p.1)) = rows.map (field p.2) := by
    rw [List.map_map]
    refine List.map_congr_left fun row hrow => ?_
    obtain ⟨prebuilds, exports, hsound⟩ := (h row hrow).sound
    exact (isJob_jobOf (h row hrow) hsound).field_eq hp
  rw [htexts] at hnodup
  have hjobs : ((rows.map (jobOf H)).map (field p.1)).Nodup := hfields ▸ hnodup.of_map
  exact hjobs.sublist ((List.filter_sublist.map _).map _)

/-- Of a matrix that is accepted every selector has jobs. The jobs of a base and the jobs of a payload are together the jobs of the
selector, what is released is built from an image that is built, and no two jobs of a selector are of one configuration or of one target. -/
theorem jobs_shared_out (h : validate H J files strict defconfigs = .ok []) :
    ∃ (rows : List Fields) (jobs : String → List Fields), defconfigs = rows.map .dict ∧
      (∀ selector ∈ matrixSelectors, githubMatrix H rows selector = .ok (jobs selector)) ∧
      (∀ selector ∈ ["ci_build", "image_build", "release"],
        (jobs (selector ++ "_base") ++ jobs (selector ++ "_payload")).Perm (jobs selector)) ∧
      (jobs "release").Sublist (jobs "release_source") ∧ (jobs "release_source").Sublist (jobs "image_build") ∧
      (jobs "image_build_qemu").Sublist (jobs "image_build") ∧
      ∀ selector ∈ matrixSelectors, ((jobs selector).map (field "defconfig")).Nodup ∧ ((jobs selector).map (field "target")).Nodup := by
  obtain ⟨rows, hmatrix⟩ := accepted_of_validate h
  refine ⟨rows, jobsOf H rows, hmatrix.objects, fun selector hselector => githubMatrix_eq hmatrix.accepted hselector, ?_, ?_, ?_, ?_, ?_⟩
  · intro selector hselector
    simp only [List.mem_cons, List.not_mem_nil, or_false] at hselector
    rcases hselector with rfl | rfl | rfl
    · exact jobsOf_divided_perm rows (by decide) (by decide)
    · exact jobsOf_divided_perm rows (by decide) (by decide)
    · exact jobsOf_divided_perm rows (by decide) (by decide)
  · refine jobsOf_sublist fun row hrow hholds => ?_
    obtain ⟨prebuilds, exports, hsound⟩ := (hmatrix.accepted row hrow).sound
    exact hsound.release_source hholds
  · refine jobsOf_sublist fun row hrow hholds => ?_
    obtain ⟨prebuilds, exports, hsound⟩ := (hmatrix.accepted row hrow).sound
    exact hsound.image_build hholds
  · exact jobsOf_sublist fun row _ hholds => (Bool.and_eq_true_iff.1 hholds).1
  · exact fun selector _ => ⟨nodup_jobsOf hmatrix.accepted (p := ("defconfig", "name")) (by decide) hmatrix.names selector,
      nodup_jobsOf hmatrix.accepted (p := ("target", "target")) (by decide) hmatrix.targets selector⟩

end Accepted

/-! ## A matrix of two rows -/

def sampleHost : Host where
  toPython := PayloadInputs.sampleTools.toPython
  quoted v := v.pyStr fun _ => "None"
  display := toString
  root := ⟨"/", ["os"]⟩

/-- A board that is released and not ready, and the stick that installs it. -/
def sampleRow (name target : String) (release : Bool) (prebuilds exports : List String) (artifacts : List String) : Fields :=
  [("name", .str name), ("target", .str target), ("arch", .str "aarch64"), ("artifact", .str "disk.img"),
    ("release_artifact", .str s!"{target}.img.xz"), ("expected_artifacts", .list (artifacts.map .str)), ("qemu_test", .bool false),
    ("ci_build", .bool true), ("fast_required", .bool false), ("image_build", .bool true), ("release_source", .bool release),
    ("payload_base_required", .bool !prebuilds.isEmpty), ("release", .bool release), ("timeout_minutes", .int 300),
    ("build_step_timeout_minutes", .int 285), ("min_disk_gib", .int 30), ("min_mem_gib", .int 6), ("min_vcpu", .int 4),
    ("build_jlevel", .int 4), ("prebuild_defconfigs", .list (prebuilds.map .str)), ("payload_image_exports", .list (exports.map .str)),
    ("production_required", .bool release), ("production_ready", .bool false), ("profile", .str "provisioning"),
    ("boot_mode", .str "rpi-firmware"), ("partition_table", .str "gpt"), ("root_partition", .str "rootfs"),
    ("root_identity", .str "gpt-label-rootfs"), ("genimage", .str "board/disk.cfg"), ("post_image_arg", .str target),
    ("signing", .str "unsigned-lab"), ("acceptance", .str "lab"), ("blocker", .str "no-signing-keys"), ("description", .str "")]

def sampleBoard : Fields := sampleRow "suderra_rpi4_defconfig" "rpi4" true [] [] ["disk.img", "disk.img.xz"]

def sampleStick : Fields :=
  sampleRow "suderra_usb_defconfig" "usb" false ["suderra_rpi4_defconfig"] ["SUDERRA_RPI4_TARGET_IMAGE_XZ=suderra_rpi4_defconfig:disk.img.xz"]
    ["disk.img"]

def sampleMatrix : List Value := [sampleBoard, sampleStick].map .dict

def sampleJoin : JoinContract where
  toContract := { evidenceContract with
    targets := [("rpi4", {
      hardwareRequired := false, otaCapable := false, productionGate := true, releaseImageScanRequired := false, releasePublic := true,
      runtimeRequired := false, signingRequired := false })] }
  hardwareBoards := []
  hardwareRequiredFields := []
  roleBindings := []
  otaTargets := []

def sampleConfig (arg : String) : Bytes :=
  Utf8.encode ("BR2_JLEVEL=4\nBR2_CCACHE=y\nBR2_PACKAGE_SUDERRA_VARIANT_DEV=y\nBR2_PACKAGE_HOST_GENIMAGE=y\n" ++
    "BR2_ROOTFS_POST_SCRIPT_ARGS=\"" ++ arg ++ "\"\n")

def sampleCheckout : Files := fun path =>
  if path = ⟨"/", ["os", "configs", "suderra_rpi4_defconfig"]⟩ then some (sampleConfig "rpi4")
  else if path = ⟨"/", ["os", "configs", "suderra_usb_defconfig"]⟩ then some (sampleConfig "usb")
  else if path = ⟨"/", ["os", "board", "disk.cfg"]⟩ then some (Utf8.encode "hdimage \x7b\n  partition-table-type = \"gpt\"\n\x7d\n")
  else none

theorem sample_validated : validate sampleHost sampleJoin sampleCheckout false sampleMatrix = .ok [] := by decide +kernel

theorem jobs_shared_out_sample : ∃ (rows : List Fields) (jobs : String → List Fields), sampleMatrix = rows.map .dict ∧
    githubMatrix sampleHost rows "image_build" = .ok (jobs "image_build") ∧
    (jobs "image_build_base" ++ jobs "image_build_payload").Perm (jobs "image_build") := by
  obtain ⟨rows, jobs, hrows, hjobs, hdivided, -⟩ := jobs_shared_out sample_validated
  exact ⟨rows, jobs, hrows, hjobs _ (by decide), hdivided "image_build" (by decide)⟩

end SuderraOs.Build
