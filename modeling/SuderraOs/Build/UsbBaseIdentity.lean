import SuderraOs.Build.UsbBaseRead

/-!
# The identity of a base

The digest that seals a base manifest stands for the base: two manifests that were accepted under one identity are one manifest, and the
files of their base directories are the same files, or SHA-256 has a collision on the texts or the files at hand
(`one_base_of_one_identity`). The packager, which does not look at the seal, takes a manifest that was created exactly when its files and
its key are those of the manifest (`created_base_packaged_iff`).
-/

namespace SuderraOs.Build.UsbBase

open Value Evidence Install

variable {T : Tools}

/-! ## One identity -/

/-- Two files are the same, or they collide. -/
def SameOrCollide (T : Tools) (a b : Bytes) : Prop := a = b ∨ CanonicalJson.Collides T.sha256 a b

theorem sameOrCollide {a b : Bytes} {digest : String} (ha : T.hexdigest a = digest) (hb : T.hexdigest b = digest) : SameOrCollide T a b := by
  by_cases heq : a = b
  · exact .inl heq
  · exact .inr ⟨heq, Hex.encode_injective (String.ofList_injective (ha.trans hb.symm))⟩

/-- What is found in sorted objects is what is found in the objects, sorted. -/
theorem find_sorted {objects : List Fields} (hnodup : ∀ fields ∈ objects, (fields.map (·.1)).Nodup) (name key : String) :
    (objects.map sorted).find? (fun fields => (field name fields).pyEq (.str key)) =
      (objects.find? fun fields => (field name fields).pyEq (.str key)).map sorted := by
  induction objects with
  | nil => rfl
  | cons fields objects ih =>
    obtain ⟨hfields, hobjects⟩ := List.forall_mem_cons.1 hnodup
    have hstr : (field name (sorted fields)).pyEq (.str key) = (field name fields).pyEq (.str key) := by
      rw [field_sorted hfields, Bool.eq_iff_iff, pyEq_str_iff, pyEq_str_iff]
      cases field name fields <;> simp [sortKeys]
    rw [List.map_cons, List.find?_cons, List.find?_cons, hstr, ih hobjects]
    cases (field name fields).pyEq (.str key) <;> rfl

/-- What is found in sorted records is what is found in the records, sorted. -/
theorem lastWith_sortKeys {items : List Value} (hunique : ∀ item ∈ items, item.UniqueNames) (name key : String) :
    Usb.lastWith name key (items.map sortKeys) = (Usb.lastWith name key items).map sorted := by
  have hobjects : (items.map sortKeys).filterMap asDict = (items.filterMap asDict).map sorted := by
    rw [List.filterMap_map, List.map_filterMap]
    refine List.filterMap_congr fun item _ => ?_
    cases item <;> rfl
  have hnodup : ∀ fields ∈ (items.filterMap asDict).reverse, (fields.map (·.1)).Nodup := by
    intro fields hfields
    obtain ⟨item, hitem, hdict⟩ := List.mem_filterMap.1 (List.mem_reverse.1 hfields)
    have hfieldsUnique : (Value.dict fields).UniqueNames := (asDict_eq_some.1 hdict) ▸ hunique item hitem
    exact hfieldsUnique.1
  rw [Usb.lastWith, Usb.lastWith, hobjects, ← List.map_reverse]
  exact find_sorted hnodup name key

section Identity

variable {V V' : ValidateArgs} {files files' : Files} {payload payload' : Fields}

/-- The record of a role, sorted, is found in the sorted manifest. -/
theorem role_sorted (hunique : (Value.dict payload).UniqueNames) {items : List Value} (hitems : field "files" payload = .list items)
    {role name : String} {size : Int} {digest : String} (h : RoleAccepted T V files items role name size digest) :
    ∃ item, Usb.lastWith "role" role (items.map sortKeys) = some item ∧ field "sha256" item = .str digest ∧ (field "bytes" item).asInt = some size := by
  obtain ⟨item, hitem, -, hdigest, hsize⟩ := h.item
  have hlist : (Value.list items).UniqueNames := hitems ▸ CanonicalJson.uniqueNames_field hunique "files"
  have hnodup : (item.map (·.1)).Nodup := by
    obtain ⟨v, hv, hdict⟩ := List.mem_filterMap.1 (List.mem_reverse.1 (List.mem_of_find?_eq_some hitem))
    have hitemUnique : (Value.dict item).UniqueNames := (asDict_eq_some.1 hdict) ▸ uniqueNamesItems_iff.1 hlist v hv
    exact hitemUnique.1
  refine ⟨sorted item, by rw [lastWith_sortKeys (uniqueNamesItems_iff.1 hlist), hitem]; rfl, ?_, ?_⟩
  · rw [field_sorted hnodup, hdigest]
    rfl
  · rw [field_sorted hnodup, ← hsize]
    cases field "bytes" item <;> rfl

/-- The records of a role in two manifests that are the same. -/
theorem same_role (hunique : (Value.dict payload).UniqueNames) (hunique' : (Value.dict payload').UniqueNames)
    (hsame : SameMembers (.dict payload) (.dict payload')) {items items' : List Value} (hitems : field "files" payload = .list items)
    (hitems' : field "files" payload' = .list items') {role name : String} {size size' : Int} {digest digest' : String}
    (h : RoleAccepted T V files items role name size digest) (h' : RoleAccepted T V' files' items' role name size' digest') :
    size = size' ∧ digest = digest' := by
  have hsorted := CanonicalJson.sortKeys_field_eq hunique hsame "files"
  rw [hitems, hitems', sortKeys, sortKeys, sortKeysItems_eq_map, sortKeysItems_eq_map] at hsorted
  obtain ⟨item, hitem, hdigest, hsize⟩ := role_sorted hunique hitems h
  obtain ⟨item', hitem', hdigest', hsize'⟩ := role_sorted hunique' hitems' h'
  rw [Value.list.inj hsorted] at hitem
  obtain rfl := Option.some.inj (hitem.symm.trans hitem')
  exact ⟨Option.some.inj (hsize.symm.trans hsize'), Value.str.inj (hdigest.symm.trans hdigest')⟩

/-- The digests of the key in two manifests that are the same. -/
theorem same_key (hunique : (Value.dict payload).UniqueNames) (hsame : SameMembers (.dict payload) (.dict payload')) {digest digest' : String}
    (h : field "sha256" ((field "installer_payload_public_key" payload).asDict.getD []) = .str digest)
    (h' : field "sha256" ((field "installer_payload_public_key" payload').asDict.getD []) = .str digest') : digest = digest' := by
  have hunique' := (hsame.sortKeys_eq hunique).1
  have hread {members : Fields} {digest : String} (hmembers : (Value.dict members).UniqueNames)
      (h : field "sha256" ((field "installer_payload_public_key" members).asDict.getD []) = .str digest) :
      field "sha256" ((field "installer_payload_public_key" members).sortKeys.asDict.getD []) = .str digest := by
    have hkey := CanonicalJson.uniqueNames_field hmembers "installer_payload_public_key"
    cases hfield : field "installer_payload_public_key" members with
    | dict key =>
      rw [hfield] at h hkey
      rw [sortKeys_dict]
      change field "sha256" (sorted key) = _
      rw [field_sorted hkey.1]
      change field "sha256" key = _ at h
      rw [h]
      rfl
    | _ => rw [hfield] at h; cases h
  have heq := hread hunique h
  rw [CanonicalJson.sortKeys_field_eq hunique hsame, hread hunique' h'] at heq
  exact (Value.str.inj heq).symm

/-- What is read has no name twice. -/
theorem uniqueNames_of_readJson (hloads : CanonicalJson.Loads T.loads) {path : PosixPath} {v : Value}
    (hread : readJson T.toPython files path = .ok (some v)) : v.UniqueNames := by
  unfold readJson at hread
  cases hfile : files path with
  | none => simp [hfile] at hread
  | some bytes =>
    rw [hfile] at hread
    obtain ⟨text, -, htext⟩ := orError_bind_ok_iff.1 hread
    exact hloads.unique (Except.ok.inj htext)

/-- The seal of an accepted manifest. -/
theorem Accepted.sealed (h : Accepted T V files payload) (hunique : (Value.dict payload).UniqueNames) {identity : String}
    (hidentity : field "identity_digest" payload = .str identity) :
    ("identity_digest", Value.str identity) ∈ payload ∧
      CanonicalJson.hexdigest T.float T.sha256 (.dict (CanonicalJson.without "identity_digest" payload)) = identity := by
  obtain ⟨identity', heq, -, hdigest⟩ := h.identity
  obtain rfl := Value.str.inj (hidentity.symm.trans heq)
  refine ⟨(lookup_eq_some_iff hunique.1).1 ?_, hdigest⟩
  rw [field] at hidentity
  cases hlookup : lookup "identity_digest" payload with
  | none => simp [hlookup] at hidentity
  | some v => rw [hlookup] at hidentity; exact congrArg some hidentity

/-- Two bases that have one manifest: their boots, their roots and their keys are the same, or collide. -/
structure SameBase (T : Tools) (V V' : ValidateArgs) (files files' : Files) (payload payload' : Fields) : Prop where
  manifest : SameMembers (.dict payload) (.dict payload')
  base : ∀ dir dir', V.baseDir = some dir → V'.baseDir = some dir' → ∀ p ∈ expectedRoles, ∃ bytes bytes',
    files (dir.child p.2) = some bytes ∧ files' (dir'.child p.2) = some bytes' ∧ bytes.length = bytes'.length ∧ SameOrCollide T bytes bytes'
  key : ∀ key key', V.publicKey = some key → V'.publicKey = some key' → ∃ bytes bytes',
    files key = some bytes ∧ files' key' = some bytes' ∧ SameOrCollide T bytes bytes'

/-- Two bases that were accepted under one identity are one base, or their manifests collide. -/
theorem one_base_of_one_identity {identity : String} (hloads : CanonicalJson.Loads T.loads)
    (h : validate T V files = .ok identity) (h' : validate T V' files' = .ok identity)
    (hread : readJson T.toPython files V.manifest = .ok (some (.dict payload))) (hplain : (Value.dict payload).plain = true)
    (hread' : readJson T.toPython files' V'.manifest = .ok (some (.dict payload'))) (hplain' : (Value.dict payload').plain = true) :
    SameBase T V V' files files' payload payload' ∨ CanonicalJson.Collides T.sha256 (canonicalPayload T payload) (canonicalPayload T payload') := by
  obtain ⟨_, hpayload, ha, hidentity⟩ := validate_ok_iff.1 h
  obtain rfl := Value.dict.inj (Option.some.inj (Except.ok.inj (hread.symm.trans hpayload)))
  obtain ⟨_, hpayload', ha', hidentity'⟩ := validate_ok_iff.1 h'
  obtain rfl := Value.dict.inj (Option.some.inj (Except.ok.inj (hread'.symm.trans hpayload')))
  have hunique := uniqueNames_of_readJson hloads hread
  have hunique' := uniqueNames_of_readJson hloads hread'
  obtain ⟨hseal, hdigest⟩ := ha.sealed hunique hidentity
  obtain ⟨hseal', hdigest'⟩ := ha'.sealed hunique' hidentity'
  refine (CanonicalJson.same_of_seals hunique hunique' hplain hplain' hseal hseal' hdigest hdigest').imp_left fun hsame => ⟨hsame, ?_, ?_⟩
  · intro dir dir' hdir hdir' p hp
    obtain ⟨items, hitems, -, hroles⟩ := ha.roles
    obtain ⟨items', hitems', -, hroles'⟩ := ha'.roles
    obtain ⟨size, digest, hrole⟩ := hroles p hp
    obtain ⟨size', digest', hrole'⟩ := hroles' p hp
    obtain ⟨rfl, rfl⟩ := same_role hunique hunique' hsame hitems hitems' hrole hrole'
    obtain ⟨bytes, hbytes, hlength, hhex⟩ := hrole.file dir hdir
    obtain ⟨bytes', hbytes', hlength', hhex'⟩ := hrole'.file dir' hdir'
    exact ⟨bytes, bytes', hbytes, hbytes', by exact_mod_cast hlength.trans hlength'.symm, sameOrCollide hhex hhex'⟩
  · intro key key' hkey hkey'
    obtain ⟨digest, hfield, hfile⟩ := ha.key
    obtain ⟨digest', hfield', hfile'⟩ := ha'.key
    obtain rfl := same_key hunique hsame hfield hfield'
    obtain ⟨bytes, hbytes, hhex⟩ := hfile key hkey
    obtain ⟨bytes', hbytes', hhex'⟩ := hfile' key' hkey'
    exact ⟨bytes, bytes', hbytes, hbytes', sameOrCollide hhex hhex'⟩

/-- A base and its copy. -/
theorem one_base_of_one_identity_sample : ∃ payload manifest,
    SameBase sampleTools (sampleValidate "base") (sampleValidate "copy") (sampleFiles manifest) (sampleFiles manifest) payload payload ∨
      CanonicalJson.Collides sampleTools.sha256 (canonicalPayload sampleTools payload) (canonicalPayload sampleTools payload) := by
  obtain ⟨payload, line, hcreate⟩ := sample_created
  obtain ⟨S, hcreated⟩ := created_of_create hcreate
  have hread : readJson sampleTools.toPython (sampleFiles (CanonicalJson.fileBytes sampleTools.float (.dict payload))) ⟨"", ["manifest.json"]⟩ =
      .ok (some (.dict (sorted payload))) :=
    sampleTools.readJson_fileBytes CanonicalJson.loads_unique hcreated.unique hcreated.plain rfl
  have hvalid (baseDir : String) (hdir : baseDir = "base" ∨ baseDir = "copy") : validate sampleTools (sampleValidate baseDir)
      (sampleFiles (CanonicalJson.fileBytes sampleTools.float (.dict payload))) =
        .ok (identityDigest sampleTools (sorted payload)) :=
    validate_ok_iff.2 ⟨_, hread, (hcreated.accepted_iff Sha256.length_digest).2 (sample_unchanged _ baseDir hdir), hcreated.identity_sorted⟩
  exact ⟨_, _, one_base_of_one_identity CanonicalJson.loads_unique (hvalid "base" (.inl rfl)) (hvalid "copy" (.inr rfl)) hread
    (plain_sortKeys hcreated.plain) hread (plain_sortKeys hcreated.plain)⟩

end Identity

/-! ## What the packager takes -/

section Packaged

open PayloadInputs

variable {P : Usb.Python} {A : CreateArgs} {files : Files} {payload : Fields} {S : Sources}

/-- A file that the packager is given has the size and the digest of a file that `create` has read. -/
def SameInput (T : Tools) (files : Files) (path : PosixPath) (input : Option Bytes) : Prop :=
  ∃ bytes, files path = some bytes ∧ ∃ given, input = some given ∧ given.length = bytes.length ∧ T.hexdigest given = T.hexdigest bytes

theorem recordsFile_recordOf_iff (hP : Shares P T) (role name : String) (bytes given : Bytes) :
    Usb.recordsFile P (sorted (recordOf T role name bytes)) given = true ↔ given.length = bytes.length ∧ T.hexdigest given = T.hexdigest bytes := by
  have hbytes : field "bytes" (sorted (recordOf T role name bytes)) = .int bytes.length := field_recordOf "bytes" role name bytes
  have hsha : field "sha256" (sorted (recordOf T role name bytes)) = .str (T.hexdigest bytes) := field_recordOf "sha256" role name bytes
  have hhex : Usb.hexdigest P.sha256 given = T.hexdigest given := by rw [hP.sha256]; rfl
  rw [Usb.recordsFile, hbytes, hsha, hhex, Bool.and_eq_true, pyEq_int, pyEq_str, beq_iff_eq, beq_iff_eq, Int.natCast_inj, eq_comm,
    eq_comm (a := T.hexdigest bytes)]

/-- The packager takes a file where it is the one that `create` has read. -/
theorem exists_nonEmpty_iff (hP : Shares P T) {path : PosixPath} {bytes : Bytes} (hbytes : files path = some bytes) (hne : bytes ≠ [])
    (role name : String) (input : Option Bytes) :
    (∃ given, Usb.nonEmpty input = some given ∧ Usb.recordsFile P (sorted (recordOf T role name bytes)) given = true) ↔
      SameInput T files path input := by
  simp only [recordsFile_recordOf_iff hP, Usb.nonEmpty, Option.filter_eq_some_iff, SameInput, hbytes, Option.some.injEq, exists_eq_left', decide_eq_true_eq]
  refine exists_congr fun given => ?_
  constructor
  · rintro ⟨⟨hgiven, -⟩, h⟩
    exact ⟨hgiven, h⟩
  · rintro ⟨hgiven, h⟩
    refine ⟨⟨hgiven, ?_⟩, h⟩
    rintro rfl
    exact hne (List.length_eq_zero_iff.1 h.1.symm)

/-- The packager takes a manifest that was created exactly when its boot, its root and its key are those of the manifest. -/
theorem created_base_packaged_iff {args : Usb.Args} {line : Option String} {publicKey : Bytes} (hcreate : create T A files = .ok (payload, line))
    (hP : Shares P T) (hloads : CanonicalJson.Loads T.loads)
    (hfile : args.baseManifest = some (CanonicalJson.fileBytes T.float (.dict payload))) :
    Usb.loadBaseManifest P args publicKey = some () ↔ SameInput T files (A.baseDir.child "boot.vfat") args.baseBoot ∧
      SameInput T files (A.baseDir.child "rootfs.ext4") args.baseRootfs ∧ ∃ bytes, files A.publicKey = some bytes ∧
        T.hexdigest publicKey = T.hexdigest bytes := by
  obtain ⟨S, h⟩ := created_of_create hcreate
  have hschema : field "schema_version" (sorted payload) = .str "suderra.usb-installer-base.v1" := by
    rw [h.field_sorted, h.payload_eq]
    rfl
  obtain ⟨key, hkey, hkeySha⟩ : ∃ key, field "installer_payload_public_key" (sorted payload) = .dict key ∧
      field "sha256" key = .str (T.hexdigest S.publicKey) := by
    have hfield : field "installer_payload_public_key" payload = named A.publicKey.name (T.hexdigest S.publicKey) := by rw [h.payload_eq]; rfl
    rw [h.field_sorted, hfield]
    exact sortKeys_named A.publicKey.name (T.hexdigest S.publicKey)
  obtain ⟨hboot, hrootfs⟩ := lastWith_readItems (T := T) (S := S)
  have hhex : Usb.hexdigest P.sha256 publicKey = T.hexdigest publicKey := by rw [hP.sha256]; rfl
  have hroles : (((readItems T S).filterMap asDict).all fun item => (field "role" item).isHashable) = true :=
    List.all_eq_true.2 isHashable_readItems
  rw [← exists_nonEmpty_iff hP h.boot h.boot_nonempty "boot-vfat" "boot.vfat", ← exists_nonEmpty_iff hP h.rootfs h.rootfs_nonempty "rootfs-ext4" "rootfs.ext4",
    Usb.loadBaseManifest, hfile, loadSchema_fileBytes hP hloads h.unique h.plain hschema]
  simp only [Option.bind_eq_bind, Option.bind_some, h.files_sorted, asList, Option.bind_eq_some_iff, Option.guard_eq_some', hroles, hboot, hrootfs,
    hkey, asDict, hkeySha, hhex, pyEq_str, beq_iff_eq, h.publicKey, Option.some.injEq, exists_eq_left', eq_comm (a := T.hexdigest S.publicKey)]
  constructor
  · rintro ⟨-, -, boot, hbootGiven, -, hbootRecord, rootfs, hrootfsGiven, -, hrootfsRecord, hdigest⟩
    exact ⟨⟨boot, hbootGiven, hbootRecord⟩, ⟨rootfs, hrootfsGiven, hrootfsRecord⟩, hdigest⟩
  · rintro ⟨⟨boot, hbootGiven, hbootRecord⟩, ⟨rootfs, hrootfsGiven, hrootfsRecord⟩, hdigest⟩
    exact ⟨(), trivial, boot, hbootGiven, (), hbootRecord, rootfs, hrootfsGiven, (), hrootfsRecord, hdigest⟩

def samplePackagerArgs (manifest : Bytes) : Usb.Args :=
  { PayloadInputs.samplePackagerArgs [] with baseManifest := some manifest, baseBoot := some [6], baseRootfs := some [7] }

theorem created_base_packaged_iff_sample : ∃ payload line, create sampleTools sampleArgs (sampleFiles []) = .ok (payload, line) ∧
    Usb.loadBaseManifest samplePackager (samplePackagerArgs (CanonicalJson.fileBytes sampleTools.float (.dict payload))) [4] = some () := by
  obtain ⟨payload, line, hcreate⟩ := UsbBase.sample_created
  refine ⟨payload, line, hcreate, (created_base_packaged_iff hcreate ⟨rfl, rfl⟩ CanonicalJson.loads_unique rfl).2 ⟨?_, ?_, [4], rfl, rfl⟩⟩
  · exact ⟨[6], rfl, [6], rfl, rfl, rfl⟩
  · exact ⟨[7], rfl, [7], rfl, rfl, rfl⟩

end Packaged

end SuderraOs.Build.UsbBase
