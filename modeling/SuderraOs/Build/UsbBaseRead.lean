import SuderraOs.Build.PayloadInputsPackage
import SuderraOs.Build.UsbBase

/-!
# Base manifests that are accepted

What `validate` asks of a manifest and of the files beside it (`validate_ok_iff`). From it: a manifest that was created is accepted exactly
where its files are unchanged (`created_base_accepted_iff`), and two bases that were accepted under one identity are one base, or two
texts or two files collide (`one_base_of_one_identity`).
-/

namespace SuderraOs.Build.UsbBase

open Value Evidence Install

variable {T : Tools} {V : ValidateArgs} {files : Files} {payload : Fields}

/-! ## What is accepted -/

/-- A text of digits that is a positive number. -/
def IsPositive (T : Tools) (s : String) : Prop := T.isDigits s = true ∧ ∃ n, PyText.parseInt T.unicode s.toList = some n ∧ 0 < n

/-- A file has the size and the digest of a record. -/
def Matches (T : Tools) (files : Files) (path : PosixPath) (size : Int) (digest : String) : Prop :=
  ∃ bytes, files path = some bytes ∧ (bytes.length : Int) = size ∧ T.hexdigest bytes = digest

/-- A file has this digest. -/
def HasDigest (T : Tools) (files : Files) (path : PosixPath) (digest : String) : Prop :=
  ∃ bytes, files path = some bytes ∧ T.hexdigest bytes = digest

/-- The record of a role, and the file of the base directory that it stands for. -/
structure RoleAccepted (T : Tools) (V : ValidateArgs) (files : Files) (items : List Value) (role name : String) (size : Int) (digest : String) :
    Prop where
  item : ∃ item, Usb.lastWith "role" role items = some item ∧ field "path" item = .str name ∧ field "sha256" item = .str digest ∧
    (field "bytes" item).asInt = some size
  hex : isHex 64 digest = true
  positive : 0 < size
  file : ∀ dir, V.baseDir = some dir → Matches T files (dir.child name) size digest

/-- What `validate_payload` asks. -/
structure Accepted (T : Tools) (V : ValidateArgs) (files : Files) (payload : Fields) : Prop where
  schema : field "schema_version" payload = .str schemaVersion
  identity : ∃ identity, field "identity_digest" payload = .str identity ∧ isHex 64 identity = true ∧ identityDigest T payload = identity
  sourceSha : ∃ sha, field "source_sha" payload = .str sha ∧ isHex 40 sha = true
  expected : ∀ sha, given V.expectSourceSha = some sha → field "source_sha" payload = .str sha
  workflow : ∃ workflow, field "workflow" payload = .dict workflow ∧
    (∀ path, given V.workflowPath = some path → field "path" workflow = .str path) ∧
    ∀ name ∈ ["run_id", "run_attempt"], ∃ s, field name workflow = .str s ∧ IsPositive T s
  roles : ∃ items, field "files" payload = .list items ∧ (∀ item ∈ items.filterMap asDict, (field "role" item).isHashable = true) ∧
    ∀ p ∈ expectedRoles, ∃ size digest, RoleAccepted T V files items p.1 p.2 size digest
  key : ∃ digest, field "sha256" ((field "installer_payload_public_key" payload).asDict.getD []) = .str digest ∧
    ∀ path, V.publicKey = some path → HasDigest T files path digest
  sourceIdentity : ∀ path, V.sourceIdentity = some path → ∃ identity digest, field "buildroot_source_identity" payload = .dict identity ∧
    field "sha256" identity = .str digest ∧ HasDigest T files path digest

theorem identityFailures_eq_nil : identityFailures T payload = [] ↔
    ∃ identity, field "identity_digest" payload = .str identity ∧ isHex 64 identity = true ∧ identityDigest T payload = identity := by
  unfold identityFailures
  split
  · next identity heq =>
    rw [heq]
    by_cases hhex : isHex 64 identity = true
    · rw [if_pos hhex, failUnless_eq_nil, decide_eq_true_eq]
      constructor
      · intro h
        exact ⟨identity, rfl, hhex, h⟩
      · rintro ⟨identity', heq', -, h⟩
        exact Value.str.inj heq' ▸ h
    · rw [if_neg hhex]
      refine iff_of_false (by simp) ?_
      rintro ⟨identity', heq', hhex', -⟩
      exact hhex (Value.str.inj heq' ▸ hhex')
  · next hne =>
    refine iff_of_false (by simp) ?_
    rintro ⟨identity, heq, -⟩
    exact hne identity heq

theorem asStr_any {v : Value} {p : String → Bool} : v.asStr.any p = true ↔ ∃ s, v = .str s ∧ p s = true := by
  cases v <;> simp [asStr]

theorem given_all {option : Option String} {v : Value} :
    ((given option).all fun s => v.pyEq (.str s)) = true ↔ ∀ s, given option = some s → v = .str s := by
  cases given option <;> simp [pyEq_str_iff]

theorem headFailures_eq_nil : headFailures T V payload = [] ↔
    field "schema_version" payload = .str schemaVersion ∧
      (∃ identity, field "identity_digest" payload = .str identity ∧ isHex 64 identity = true ∧ identityDigest T payload = identity) ∧
      (∃ sha, field "source_sha" payload = .str sha ∧ isHex 40 sha = true) ∧
      ∀ sha, given V.expectSourceSha = some sha → field "source_sha" payload = .str sha := by
  simp only [headFailures, List.append_eq_nil_iff, failUnless_eq_nil, identityFailures_eq_nil, pyEq_str_iff, asStr_any, given_all, and_assoc]

theorem isPositiveText_iff {v : Value} : isPositiveText T v = .ok true ↔ ∃ s, v = .str s ∧ IsPositive T s := by
  cases v with
  | str s =>
    simp only [isPositiveText, IsPositive, str.injEq, exists_eq_left']
    by_cases hdigits : T.isDigits s = true
    · rw [if_pos hdigits]
      cases PyText.parseInt T.unicode s.toList <;> simp [orError, Except.map, hdigits]
    · simp [hdigits]
  | _ => simp [isPositiveText]

theorem workflowFailures_eq_nil : workflowFailures T V payload = .ok [] ↔ ∃ workflow, field "workflow" payload = .dict workflow ∧
    (∀ path, given V.workflowPath = some path → field "path" workflow = .str path) ∧
    ∀ name ∈ ["run_id", "run_attempt"], ∃ s, field name workflow = .str s ∧ IsPositive T s := by
  unfold workflowFailures
  split
  · next workflow heq =>
    have hnumber (name : String) : (isPositiveText T (field name workflow) >>= fun positive =>
        Except.ok (failUnless s!"workflow.{name} must be a positive integer string" positive)) = .ok [] ↔
          ∃ s, field name workflow = .str s ∧ IsPositive T s := by
      rw [← isPositiveText_iff, bind_ok_iff]
      simp
    simp only [heq, bind_ok_iff, Except.ok.injEq, List.append_eq_nil_iff, failUnless_eq_nil, given_all, dict.injEq, exists_eq_left']
    constructor
    · rintro ⟨numbers, hnumbers, hpath, hnil⟩
      refine ⟨hpath, fun name hname => ?_⟩
      obtain ⟨failures, hmem, hfailures⟩ := mapM_ok_left hnumbers name hname
      rw [List.flatten_eq_nil_iff.1 hnil failures hmem] at hfailures
      exact (hnumber name).1 hfailures
    · rintro ⟨hpath, hnumbers⟩
      refine ⟨[[], []], mapM_ok_iff.2 ?_, hpath, rfl⟩
      exact .cons ((hnumber _).2 (hnumbers _ (by simp))) (.cons ((hnumber _).2 (hnumbers _ (by simp))) .nil)
  · next hne =>
    refine iff_of_false (by simp) ?_
    rintro ⟨workflow, heq, -⟩
    exact hne workflow heq

theorem int_pyEq_iff {v : Value} {n size : Int} (h : v.asInt = some size) : (Value.int n).pyEq v = true ↔ n = size := by
  cases v with
  | int m =>
    rw [asInt, Option.some.injEq] at h
    rw [pyEq_int, beq_iff_eq, h]
  | bool b =>
    rw [asInt, Option.some.injEq] at h
    subst h
    cases b <;> simp [pyEq, unique, eqUnique, number, eqNumber]
  | _ => simp [asInt] at h

theorem candidateFailures_eq_nil {item : Fields} {candidate : PosixPath} {size : Int} {digest : String}
    (hsize : (field "bytes" item).asInt = some size) (hdigest : field "sha256" item = .str digest) :
    candidateFailures T files item candidate = [] ↔ Matches T files candidate size digest := by
  unfold candidateFailures Matches
  cases files candidate with
  | none => simp
  | some bytes => simp [failUnless_eq_nil, int_pyEq_iff hsize, hdigest, asStr]

theorem roleFailures_eq_nil {items : List Value} {role name : String} :
    roleFailures T V files items role name = [] ↔ ∃ size digest, RoleAccepted T V files items role name size digest := by
  unfold roleFailures
  cases hitem : Usb.lastWith "role" role items with
  | none =>
    refine iff_of_false (by simp) ?_
    rintro ⟨size, digest, h⟩
    obtain ⟨item, heq, -⟩ := h.item
    rw [hitem] at heq
    cases heq
  | some item =>
    simp only [List.append_eq_nil_iff, failUnless_eq_nil, pyEq_str_iff, asStr_any, and_assoc]
    constructor
    · rintro ⟨hpath, ⟨digest, hdigest, hhex⟩, hpos, hfile⟩
      obtain ⟨size, hsize, hpos⟩ := (Option.any_eq_true _ _).1 hpos
      refine ⟨size, digest, ⟨item, hitem, hpath, hdigest, hsize⟩, hhex, by simpa using hpos, fun dir hdir => ?_⟩
      rw [hdir] at hfile
      exact (candidateFailures_eq_nil hsize hdigest).1 (by simpa using hfile)
    · rintro ⟨size, digest, h⟩
      obtain ⟨item', heq, hpath, hdigest, hsize⟩ := h.item
      rw [hitem] at heq
      obtain rfl := Option.some.inj heq
      refine ⟨hpath, ⟨digest, hdigest, h.hex⟩, by simpa [hsize] using h.positive, ?_⟩
      cases hdir : V.baseDir with
      | none => rfl
      | some dir => simpa using (candidateFailures_eq_nil hsize hdigest).2 (h.file dir hdir)

theorem filesFailures_eq_nil : filesFailures T V files payload = .ok [] ↔ ∃ items, field "files" payload = .list items ∧
    (∀ item ∈ items.filterMap asDict, (field "role" item).isHashable = true) ∧
    ∀ p ∈ expectedRoles, ∃ size digest, RoleAccepted T V files items p.1 p.2 size digest := by
  unfold filesFailures
  split
  · next items heq =>
    simp only [heq, guardError_bind_ok_iff, Except.ok.injEq, List.flatMap_eq_nil_iff, roleFailures_eq_nil, List.all_eq_true, list.injEq,
      exists_eq_left']
  · next hne =>
    refine iff_of_false (by simp) ?_
    rintro ⟨items, heq, -⟩
    exact hne items heq

theorem sha256File_ok_iff {path : PosixPath} {digest : String} : sha256File T files path = .ok digest ↔ HasDigest T files path digest := by
  simp only [sha256File, orError_bind_ok_iff, Except.ok.injEq, HasDigest]

theorem keyFailures_eq_nil : keyFailures T V files payload = .ok [] ↔
    ∃ digest, field "sha256" ((field "installer_payload_public_key" payload).asDict.getD []) = .str digest ∧
      ∀ path, V.publicKey = some path → HasDigest T files path digest := by
  unfold keyFailures
  split
  · next digest heq =>
    rw [heq]
    cases V.publicKey with
    | none => simp
    | some path => simp [bind_ok_iff, sha256File_ok_iff]
  · next hne =>
    refine iff_of_false (by simp) ?_
    rintro ⟨digest, heq, -⟩
    exact hne digest heq

theorem sourceIdentityFailures_eq_nil : sourceIdentityFailures T V files payload = .ok [] ↔
    ∀ path, V.sourceIdentity = some path → ∃ identity digest, field "buildroot_source_identity" payload = .dict identity ∧
      field "sha256" identity = .str digest ∧ HasDigest T files path digest := by
  unfold sourceIdentityFailures
  cases V.sourceIdentity with
  | none => simp
  | some path =>
    cases hidentity : field "buildroot_source_identity" payload with
    | dict identity =>
      simp only [bind_ok_iff, sha256File_ok_iff, Except.ok.injEq, failUnless_eq_nil, str_pyEq_iff, Option.some.injEq, forall_eq', dict.injEq]
      constructor
      · rintro ⟨digest, hfile, hdigest⟩
        exact ⟨identity, digest, rfl, hdigest, hfile⟩
      · rintro ⟨_, digest, rfl, hdigest, hfile⟩
        exact ⟨digest, hfile, hdigest⟩
    | _ => simp

theorem validatePayload_eq_nil : validatePayload T V files payload = .ok [] ↔ Accepted T V files payload := by
  simp only [validatePayload, bind_ok_iff, Except.ok.injEq, List.append_eq_nil_iff, and_assoc]
  constructor
  · rintro ⟨_, hworkflow, _, hfiles, _, hkey, _, hidentity, hhead, rfl, rfl, rfl, rfl⟩
    obtain ⟨hschema, hseal, hsha, hexpected⟩ := headFailures_eq_nil.1 hhead
    exact ⟨hschema, hseal, hsha, hexpected, workflowFailures_eq_nil.1 hworkflow, filesFailures_eq_nil.1 hfiles, keyFailures_eq_nil.1 hkey,
      sourceIdentityFailures_eq_nil.1 hidentity⟩
  · intro h
    exact ⟨[], workflowFailures_eq_nil.2 h.workflow, [], filesFailures_eq_nil.2 h.roles, [], keyFailures_eq_nil.2 h.key, [],
      sourceIdentityFailures_eq_nil.2 h.sourceIdentity, headFailures_eq_nil.2 ⟨h.schema, h.identity, h.sourceSha, h.expected⟩, rfl, rfl, rfl, rfl⟩

/-- A manifest is accepted, and this identity printed. -/
theorem validate_ok_iff {identity : String} : validate T V files = .ok identity ↔
    ∃ payload, readJson T.toPython files V.manifest = .ok (some (.dict payload)) ∧ Accepted T V files payload ∧
      field "identity_digest" payload = .str identity := by
  simp only [validate, bind_ok_iff, orError_ok_iff, guardError_ok_iff, Except.ok.injEq, List.isEmpty_iff]
  constructor
  · rintro ⟨_, hread, v, rfl, payload, hdict, failures, hfailures, -, rfl, hprint⟩
    obtain rfl := asDict_eq_some.1 hdict
    have haccepted := validatePayload_eq_nil.1 hfailures
    obtain ⟨printed, hprinted, -⟩ := haccepted.identity
    rw [hprinted] at hprint
    exact ⟨payload, hread, haccepted, hprinted.trans (congrArg Value.str hprint)⟩
  · rintro ⟨payload, hread, haccepted, hidentity⟩
    exact ⟨_, hread, _, rfl, payload, rfl, [], validatePayload_eq_nil.2 haccepted, (), rfl, by rw [hidentity]; rfl⟩

/-! ## What is created -/

/-- What the files hold that `create` reads. -/
structure Sources where
  sourceIdentity : Bytes
  matrix : Bytes
  genimage : Bytes
  publicKey : Bytes
  buildEvidence : Bytes
  boot : Bytes
  rootfs : Bytes

/-- The manifest without its identity, of what the files hold. -/
def sourceFields (T : Tools) (A : CreateArgs) (S : Sources) : Fields :=
  manifestFields A ⟨T.hexdigest S.matrix, T.hexdigest S.sourceIdentity, T.hexdigest S.genimage, T.hexdigest S.publicKey, T.hexdigest S.buildEvidence⟩
    [recordOf T "boot-vfat" "boot.vfat" S.boot, recordOf T "rootfs-ext4" "rootfs.ext4" S.rootfs]

/-- What a creation that succeeds has read and written. -/
structure Created (T : Tools) (A : CreateArgs) (files : Files) (payload : Fields) (S : Sources) : Prop where
  sourceSha : isHex 40 A.sourceSha = true
  boot : files (A.baseDir.child "boot.vfat") = some S.boot
  rootfs : files (A.baseDir.child "rootfs.ext4") = some S.rootfs
  boot_nonempty : S.boot ≠ []
  rootfs_nonempty : S.rootfs ≠ []
  publicKey : files A.publicKey = some S.publicKey
  sourceIdentity : files A.sourceIdentity = some S.sourceIdentity
  payload : payload = CanonicalJson.sealWith (digest T) "identity_digest" (sourceFields T A S)

theorem name_child (path : PosixPath) (name : String) : (path.child name).name = name := by
  simp [PosixPath.name, PosixPath.child]

theorem fileRecord_ok {path : PosixPath} {role : String} {record : Fields} (h : fileRecord T files path role = .ok record) :
    ∃ bytes, files path = some bytes ∧ bytes ≠ [] ∧ record = recordOf T role path.name bytes := by
  rw [fileRecord] at h
  obtain ⟨bytes, hbytes, h⟩ := orError_bind_ok_iff.1 h
  obtain ⟨hfile, hne⟩ := Option.filter_eq_some_iff.1 hbytes
  exact ⟨bytes, hfile, by simpa using hne, (Except.ok.inj h).symm⟩

theorem created_of_create {A : CreateArgs} {line : Option String} (h : create T A files = .ok (payload, line)) :
    ∃ S, Created T A files payload S := by
  rw [create] at h
  obtain ⟨hsha, h⟩ := guardError_bind_ok_iff.1 h
  obtain ⟨_, hsourceDigest, h⟩ := bind_ok_iff.1 h
  obtain ⟨_, hmatrixDigest, h⟩ := bind_ok_iff.1 h
  obtain ⟨_, hgenimageDigest, h⟩ := bind_ok_iff.1 h
  obtain ⟨_, hkeyDigest, h⟩ := bind_ok_iff.1 h
  obtain ⟨_, hevidenceDigest, h⟩ := bind_ok_iff.1 h
  obtain ⟨_, hbootRecord, h⟩ := bind_ok_iff.1 h
  obtain ⟨_, hrootfsRecord, h⟩ := bind_ok_iff.1 h
  obtain ⟨sourceIdentity, hsource, rfl⟩ := sha256File_ok_iff.1 hsourceDigest
  obtain ⟨matrix, -, rfl⟩ := sha256File_ok_iff.1 hmatrixDigest
  obtain ⟨genimage, -, rfl⟩ := sha256File_ok_iff.1 hgenimageDigest
  obtain ⟨publicKey, hkey, rfl⟩ := sha256File_ok_iff.1 hkeyDigest
  obtain ⟨buildEvidence, -, rfl⟩ := sha256File_ok_iff.1 hevidenceDigest
  obtain ⟨boot, hboot, hbootNe, rfl⟩ := fileRecord_ok hbootRecord
  obtain ⟨rootfs, hrootfs, hrootfsNe, rfl⟩ := fileRecord_ok hrootfsRecord
  rw [name_child, name_child] at h
  exact ⟨⟨sourceIdentity, matrix, genimage, publicKey, buildEvidence, boot, rootfs⟩, hsha, hboot, hrootfs, hbootNe, hrootfsNe, hkey, hsource,
    (Prod.mk.inj (Except.ok.inj h)).1.symm⟩

section Created

variable {A : CreateArgs} {S : Sources}

/-- The manifest, its identity last. -/
theorem Created.payload_eq (h : Created T A files payload S) :
    payload = sourceFields T A S ++ [("identity_digest", .str (identityDigest T (sourceFields T A S)))] := h.payload

theorem uniqueNames_recordOf (role name : String) (bytes : Bytes) : (Value.dict (recordOf T role name bytes)).UniqueNames := by
  have hnames : (recordOf T role name bytes).map (·.1) = ["role", "path", "bytes", "sha256"] := rfl
  refine ⟨hnames ▸ by decide, uniqueNamesFields_iff.2 ?_⟩
  simp [recordOf, UniqueNames]

theorem Created.unique (h : Created T A files payload S) : (Value.dict payload).UniqueNames := by
  have hnames : payload.map (·.1) = ["schema_version", "defconfig", "target", "source_sha", "workflow", "matrix", "builder", "source_date_epoch",
      "buildroot_source_identity", "genimage_base", "installer_payload_public_key", "build_evidence", "files", "generated_at",
      "identity_digest"] := by
    rw [h.payload_eq]
    rfl
  refine ⟨hnames ▸ by decide, uniqueNamesFields_iff.2 ?_⟩
  rw [h.payload_eq]
  simp [sourceFields, manifestFields, named, recordOf, UniqueNames, UniqueNamesFields, UniqueNamesItems]

theorem Created.plain (h : Created T A files payload S) : (Value.dict payload).plain = true := by
  simp [h.payload_eq, sourceFields, manifestFields, named, recordOf, Value.plain, plainFields, plainItems]

/-- A member of the manifest that is read back. -/
theorem Created.field_sorted (h : Created T A files payload S) (name : String) : field name (sorted payload) = (field name payload).sortKeys :=
  Value.field_sorted h.unique.1 name

theorem field_recordOf (field' role name : String) (bytes : Bytes) :
    field field' (sorted (recordOf T role name bytes)) = (field field' (recordOf T role name bytes)).sortKeys :=
  Value.field_sorted (uniqueNames_recordOf role name bytes).1 field'

/-- The records that are read back. -/
def readItems (T : Tools) (S : Sources) : List Value :=
  [.dict (sorted (recordOf T "boot-vfat" "boot.vfat" S.boot)), .dict (sorted (recordOf T "rootfs-ext4" "rootfs.ext4" S.rootfs))]

theorem Created.files_sorted (h : Created T A files payload S) : field "files" (sorted payload) = .list (readItems T S) := by
  rw [h.field_sorted, h.payload_eq]
  rfl

theorem isHashable_readItems : ∀ item ∈ (readItems T S).filterMap asDict, (field "role" item).isHashable = true := by
  have hrole (role name : String) (bytes : Bytes) : (field "role" (sorted (recordOf T role name bytes))).isHashable = true := by
    rw [field_recordOf]
    rfl
  simp [readItems, asDict, hrole]

/-- The record that is found for a role. -/
theorem lastWith_readItems : Usb.lastWith "role" "boot-vfat" (readItems T S) = some (sorted (recordOf T "boot-vfat" "boot.vfat" S.boot)) ∧
    Usb.lastWith "role" "rootfs-ext4" (readItems T S) = some (sorted (recordOf T "rootfs-ext4" "rootfs.ext4" S.rootfs)) := by
  have hrole (role name : String) (bytes : Bytes) : field "role" (sorted (recordOf T role name bytes)) = .str role :=
    field_recordOf "role" role name bytes
  constructor <;> simp [Usb.lastWith, readItems, asDict, hrole]

/-- A role of a manifest that was created is accepted where its file still has the size and the digest. -/
theorem exists_roleAccepted_iff {items : List Value} {role name : String} {bytes : Bytes} (hdigest : ∀ bytes, (T.sha256 bytes).length = 32)
    (hne : bytes ≠ []) (hitem : Usb.lastWith "role" role items = some (sorted (recordOf T role name bytes))) :
    (∃ size digest, RoleAccepted T V files items role name size digest) ↔
      ∀ dir, V.baseDir = some dir → Matches T files (dir.child name) bytes.length (T.hexdigest bytes) := by
  have hpath : field "path" (sorted (recordOf T role name bytes)) = .str name := field_recordOf "path" role name bytes
  have hsha : field "sha256" (sorted (recordOf T role name bytes)) = .str (T.hexdigest bytes) := field_recordOf "sha256" role name bytes
  have hbytes : field "bytes" (sorted (recordOf T role name bytes)) = .int bytes.length := field_recordOf "bytes" role name bytes
  constructor
  · rintro ⟨size, digest, h⟩
    obtain ⟨item, heq, -, hd, hs⟩ := h.item
    obtain rfl := Option.some.inj (hitem.symm.trans heq)
    rw [hsha] at hd
    rw [hbytes] at hs
    rw [Value.str.inj hd, Option.some.inj hs]
    exact h.file
  · intro hfile
    exact ⟨bytes.length, T.hexdigest bytes, ⟨_, hitem, hpath, hsha, by rw [hbytes]; rfl⟩, Python.isHex_hexdigest (hdigest bytes),
      by exact_mod_cast List.length_pos_of_ne_nil hne, hfile⟩

/-- The identity of a manifest that was created is that of the manifest that is read back. -/
theorem Created.identity_sorted (h : Created T A files payload S) :
    field "identity_digest" (sorted payload) = .str (identityDigest T (sorted payload)) := by
  have hmembers : ∀ v w : Value, v.UniqueNames → SameMembers v w → digest T v = digest T w := fun v w hv hvw => by
    rw [digest, digest, CanonicalJson.SameMembers.bytes_eq hv hvw]
  have hholds := CanonicalJson.holds_sealWith (digest T) "identity_digest" (sourceFields T A S)
  rw [← h.payload] at hholds
  exact (CanonicalJson.holds_sorted hmembers h.unique).2 hholds

theorem Created.identity_eq (h : Created T A files payload S) :
    field "identity_digest" (sorted payload) = field "identity_digest" payload := by
  rw [h.field_sorted, h.payload_eq]
  rfl

/-- The files at two paths have one size and one digest. -/
def SameFile (T : Tools) (files files' : Files) (path path' : PosixPath) : Prop :=
  ∃ bytes, files path = some bytes ∧ Matches T files' path' bytes.length (T.hexdigest bytes)

/-- The files at two paths have one digest. -/
def SameDigest (T : Tools) (files files' : Files) (path path' : PosixPath) : Prop :=
  ∃ bytes, files path = some bytes ∧ HasDigest T files' path' (T.hexdigest bytes)

/-- What a validation asks for is what the creation was given: its source, its workflow and the files that it has read. -/
structure Unchanged (T : Tools) (A : CreateArgs) (files : Files) (V : ValidateArgs) (files' : Files) : Prop where
  expected : ∀ sha, given V.expectSourceSha = some sha → sha = A.sourceSha
  workflowPath : ∀ path, given V.workflowPath = some path → path = A.workflowPath
  runId : IsPositive T A.runId
  runAttempt : IsPositive T A.runAttempt
  base : ∀ dir, V.baseDir = some dir → ∀ p ∈ expectedRoles, SameFile T files files' (A.baseDir.child p.2) (dir.child p.2)
  publicKey : ∀ path, V.publicKey = some path → SameDigest T files files' A.publicKey path
  sourceIdentity : ∀ path, V.sourceIdentity = some path → SameDigest T files files' A.sourceIdentity path

variable {files' : Files}

/-- The workflow of the manifest that is read back. -/
def workflowFields (A : CreateArgs) : Fields :=
  [("name", .str A.workflowName), ("path", .str A.workflowPath), ("ref", .str A.workflowRef), ("run_id", .str A.runId),
    ("run_attempt", .str A.runAttempt)]

theorem field_workflowFields (name : String) : field name (sorted (workflowFields A)) = (field name (workflowFields A)).sortKeys := by
  have hnames : (workflowFields A).map (·.1) = ["name", "path", "ref", "run_id", "run_attempt"] := rfl
  exact Value.field_sorted (hnames ▸ by decide) name

theorem Created.workflow_sorted (h : Created T A files payload S) : field "workflow" (sorted payload) = .dict (sorted (workflowFields A)) := by
  rw [h.field_sorted, h.payload_eq]
  rfl

theorem sortKeys_named (path digest : String) : ∃ fields, (named path digest).sortKeys = .dict fields ∧ field "sha256" fields = .str digest := by
  have hnames : [("path", Value.str path), ("sha256", Value.str digest)].map (·.1) = ["path", "sha256"] := rfl
  exact ⟨_, rfl, Value.field_sorted (hnames ▸ by decide) "sha256"⟩

/-- A manifest that was created and read back is accepted where nothing that is asked for has changed. -/
theorem Created.accepted_iff (h : Created T A files payload S) (hdigest : ∀ bytes, (T.sha256 bytes).length = 32) :
    Accepted T V files' (sorted payload) ↔ Unchanged T A files V files' := by
  have hsha : field "source_sha" (sorted payload) = .str A.sourceSha := by rw [h.field_sorted, h.payload_eq]; rfl
  have hpath : field "path" (sorted (workflowFields A)) = .str A.workflowPath := field_workflowFields "path"
  have hrun : field "run_id" (sorted (workflowFields A)) = .str A.runId := field_workflowFields "run_id"
  have hattempt : field "run_attempt" (sorted (workflowFields A)) = .str A.runAttempt := field_workflowFields "run_attempt"
  have hkey : field "sha256" ((field "installer_payload_public_key" (sorted payload)).asDict.getD []) = .str (T.hexdigest S.publicKey) := by
    obtain ⟨key, hnamed, hkey⟩ := sortKeys_named A.publicKey.name (T.hexdigest S.publicKey)
    have hfield : field "installer_payload_public_key" payload = named A.publicKey.name (T.hexdigest S.publicKey) := by rw [h.payload_eq]; rfl
    rw [h.field_sorted, hfield, hnamed]
    exact hkey
  obtain ⟨identity, hidentity, hidentitySha⟩ : ∃ identity, field "buildroot_source_identity" (sorted payload) = .dict identity ∧
      field "sha256" identity = .str (T.hexdigest S.sourceIdentity) := by
    have hfield : field "buildroot_source_identity" payload = named A.sourceIdentity.name (T.hexdigest S.sourceIdentity) := by
      rw [h.payload_eq]
      rfl
    rw [h.field_sorted, hfield]
    exact sortKeys_named A.sourceIdentity.name (T.hexdigest S.sourceIdentity)
  obtain ⟨hboot, hrootfs⟩ := lastWith_readItems (T := T) (S := S)
  constructor
  · intro ha
    obtain ⟨workflow, hworkflow, hworkflowPath, hnumbers⟩ := ha.workflow
    obtain rfl := Value.dict.inj (h.workflow_sorted.symm.trans hworkflow)
    obtain ⟨items, hitems, -, hroles⟩ := ha.roles
    obtain rfl := Value.list.inj (h.files_sorted.symm.trans hitems)
    obtain ⟨digest, hkeyDigest, hkeyFile⟩ := ha.key
    obtain rfl := Value.str.inj (hkey.symm.trans hkeyDigest)
    refine ⟨fun sha hgiven => (Value.str.inj (hsha.symm.trans (ha.expected sha hgiven))).symm,
      fun path hgiven => (Value.str.inj (hpath.symm.trans (hworkflowPath path hgiven))).symm, ?_, ?_, ?_, ?_, ?_⟩
    · obtain ⟨s, hs, hpositive⟩ := hnumbers "run_id" (by simp)
      exact Value.str.inj (hrun.symm.trans hs) ▸ hpositive
    · obtain ⟨s, hs, hpositive⟩ := hnumbers "run_attempt" (by simp)
      exact Value.str.inj (hattempt.symm.trans hs) ▸ hpositive
    · intro dir hdir
      simp only [expectedRoles, List.forall_mem_cons] at hroles ⊢
      exact ⟨⟨S.boot, h.boot, (exists_roleAccepted_iff hdigest h.boot_nonempty hboot).1 hroles.1 dir hdir⟩,
        ⟨S.rootfs, h.rootfs, (exists_roleAccepted_iff hdigest h.rootfs_nonempty hrootfs).1 hroles.2.1 dir hdir⟩, by simp⟩
    · exact fun path hgiven => ⟨S.publicKey, h.publicKey, hkeyFile path hgiven⟩
    · intro path hgiven
      obtain ⟨identity', digest, hidentity', hidentityDigest, hfile⟩ := ha.sourceIdentity path hgiven
      obtain rfl := Value.dict.inj (hidentity.symm.trans hidentity')
      obtain rfl := Value.str.inj (hidentitySha.symm.trans hidentityDigest)
      exact ⟨S.sourceIdentity, h.sourceIdentity, hfile⟩
  · intro hu
    refine ⟨?_, ⟨_, h.identity_sorted, Python.isHex_hexdigest (hdigest _), rfl⟩, ⟨_, hsha, h.sourceSha⟩, ?_, ?_, ?_, ?_, ?_⟩
    · rw [h.field_sorted, h.payload_eq]
      rfl
    · exact fun sha hgiven => (hu.expected sha hgiven) ▸ hsha
    · refine ⟨_, h.workflow_sorted, fun path hgiven => (hu.workflowPath path hgiven) ▸ hpath, ?_⟩
      simp only [List.forall_mem_cons]
      exact ⟨⟨_, hrun, hu.runId⟩, ⟨_, hattempt, hu.runAttempt⟩, by simp⟩
    · refine ⟨_, h.files_sorted, isHashable_readItems, ?_⟩
      simp only [expectedRoles, List.forall_mem_cons]
      refine ⟨(exists_roleAccepted_iff hdigest h.boot_nonempty hboot).2 fun dir hdir => ?_,
        (exists_roleAccepted_iff hdigest h.rootfs_nonempty hrootfs).2 fun dir hdir => ?_, by simp⟩
      · obtain ⟨bytes, hbytes, hmatches⟩ := hu.base dir hdir _ List.mem_cons_self
        exact Option.some.inj (h.boot.symm.trans hbytes) ▸ hmatches
      · obtain ⟨bytes, hbytes, hmatches⟩ := hu.base dir hdir _ (List.mem_cons_of_mem _ List.mem_cons_self)
        exact Option.some.inj (h.rootfs.symm.trans hbytes) ▸ hmatches
    · refine ⟨_, hkey, fun path hgiven => ?_⟩
      obtain ⟨bytes, hbytes, hhas⟩ := hu.publicKey path hgiven
      exact Option.some.inj (h.publicKey.symm.trans hbytes) ▸ hhas
    · intro path hgiven
      obtain ⟨bytes, hbytes, hhas⟩ := hu.sourceIdentity path hgiven
      exact ⟨identity, _, hidentity, hidentitySha, Option.some.inj (h.sourceIdentity.symm.trans hbytes) ▸ hhas⟩

/-- A manifest that was created is accepted, and its identity printed, exactly when nothing that is asked for has changed. -/
theorem created_base_accepted_iff {line : Option String} {identity : String} (hcreate : create T A files = .ok (payload, line))
    (hloads : CanonicalJson.Loads T.loads) (hdigest : ∀ bytes, (T.sha256 bytes).length = 32)
    (hfile : files' V.manifest = some (CanonicalJson.fileBytes T.float (.dict payload))) :
    validate T V files' = .ok identity ↔ field "identity_digest" payload = .str identity ∧ Unchanged T A files V files' := by
  obtain ⟨S, h⟩ := created_of_create hcreate
  have hread := T.readJson_fileBytes hloads h.unique h.plain hfile
  rw [validate_ok_iff, hread, ← h.identity_eq]
  constructor
  · rintro ⟨payload', hpayload, haccepted, hidentity⟩
    obtain rfl := Value.dict.inj (Option.some.inj (Except.ok.inj hpayload))
    exact ⟨hidentity, (h.accepted_iff hdigest).1 haccepted⟩
  · rintro ⟨hidentity, hunchanged⟩
    exact ⟨_, rfl, (h.accepted_iff hdigest).2 hunchanged, hidentity⟩

/-! ## A base -/

def sampleArgs : CreateArgs where
  defconfig := "suderra_usb_defconfig"
  target := "usb"
  sourceSha := "0123456789abcdef0123456789abcdef01234567"
  workflowName := "Image Build"
  workflowPath := ".github/workflows/image-build.yml"
  workflowRef := "refs/heads/main"
  runId := "42"
  runAttempt := "1"
  matrixPath := ⟨"", ["matrix.yml"]⟩
  builderImage := "suderra-builder:latest"
  sourceDateEpoch := "1767225600"
  sourceIdentity := ⟨"", ["identity.json"]⟩
  genimageCfg := ⟨"", ["genimage.cfg"]⟩
  publicKey := ⟨"", ["key.pem"]⟩
  buildEvidence := ⟨"", ["build.json"]⟩
  baseDir := ⟨"", ["base"]⟩
  digestOutput := true
  now := "2026-01-01T00:00:00Z"

/-- The files of a build, with a copy of the base. -/
def sampleHeld : List (List String × Bytes) :=
  [(["identity.json"], [1]), (["matrix.yml"], [2]), (["genimage.cfg"], [3]), (["key.pem"], [4]), (["build.json"], [5]),
    (["base", "boot.vfat"], [6]), (["base", "rootfs.ext4"], [7]), (["copy", "boot.vfat"], [6]), (["copy", "rootfs.ext4"], [7])]

def sampleFiles (manifest : Bytes) : Files := fun path =>
  if path.names = ["manifest.json"] then some manifest else sampleHeld.lookup path.names

def sampleValidate (baseDir : String) : ValidateArgs where
  manifest := ⟨"", ["manifest.json"]⟩
  baseDir := some ⟨"", [baseDir]⟩
  publicKey := some ⟨"", ["key.pem"]⟩
  sourceIdentity := some ⟨"", ["identity.json"]⟩
  expectSourceSha := some "0123456789abcdef0123456789abcdef01234567"
  workflowPath := some ""

def sampleTools : Tools := PayloadInputs.sampleTools

theorem sample_created : ∃ payload line, create sampleTools sampleArgs (sampleFiles []) = .ok (payload, line) := by
  have hok : (create sampleTools sampleArgs (sampleFiles [])).isOk = true := by decide +kernel
  cases hcreate : create sampleTools sampleArgs (sampleFiles []) with
  | error e => simp [hcreate, Except.isOk, Except.toBool] at hok
  | ok p => exact ⟨p.1, p.2, rfl⟩

theorem sample_unchanged (manifest : Bytes) (baseDir : String) (hdir : baseDir = "base" ∨ baseDir = "copy") :
    Unchanged sampleTools sampleArgs (sampleFiles []) (sampleValidate baseDir) (sampleFiles manifest) := by
  have hrun : IsPositive sampleTools "42" := ⟨by decide, 42, by decide, by decide⟩
  have hattempt : IsPositive sampleTools "1" := ⟨by decide, 1, by decide, by decide⟩
  refine ⟨?_, ?_, hrun, hattempt, ?_, ?_, ?_⟩
  · rintro sha hsha
    exact (Option.some.inj hsha).symm
  · rintro path hpath
    cases hpath
  · rintro dir hgiven
    obtain rfl := Option.some.inj hgiven
    simp only [expectedRoles, List.forall_mem_cons]
    rcases hdir with rfl | rfl
    · exact ⟨⟨[6], rfl, [6], rfl, rfl, rfl⟩, ⟨[7], rfl, [7], rfl, rfl, rfl⟩, by simp⟩
    · exact ⟨⟨[6], rfl, [6], rfl, rfl, rfl⟩, ⟨[7], rfl, [7], rfl, rfl, rfl⟩, by simp⟩
  · rintro path hgiven
    obtain rfl := Option.some.inj hgiven
    exact ⟨[4], rfl, [4], rfl, rfl⟩
  · rintro path hgiven
    obtain rfl := Option.some.inj hgiven
    exact ⟨[1], rfl, [1], rfl, rfl⟩

/-- A base is accepted where its files are, and where they were copied to. -/
theorem created_base_accepted_iff_sample : ∃ payload line identity, create sampleTools sampleArgs (sampleFiles []) = .ok (payload, line) ∧
    validate sampleTools (sampleValidate "copy") (sampleFiles (CanonicalJson.fileBytes sampleTools.float (.dict payload))) = .ok identity := by
  obtain ⟨payload, line, hcreate⟩ := sample_created
  obtain ⟨S, h⟩ := created_of_create hcreate
  refine ⟨payload, line, identityDigest sampleTools (sourceFields sampleTools sampleArgs S), hcreate,
    (created_base_accepted_iff hcreate CanonicalJson.loads_unique Sha256.length_digest rfl).2 ⟨?_, sample_unchanged _ "copy" (.inr rfl)⟩⟩
  rw [h.payload_eq]
  rfl

end Created

end SuderraOs.Build.UsbBase
