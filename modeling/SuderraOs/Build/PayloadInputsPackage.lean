import SuderraOs.Build.PayloadInputsRead
import SuderraOs.Install.UsbPackage

/-!
# Payload manifests that are packaged

The packager of the USB installer finds the inputs of a manifest by their artifact alone, where `create` tells them apart by defconfig and
artifact. So it takes a manifest that was created exactly when, of the inputs of each image, the one whose defconfig comes last is the
image (`created_inputs_packaged_iff`).
-/

namespace SuderraOs.Build.PayloadInputs

open Value Evidence Install

/-- The input of an artifact whose defconfig comes last. -/
def IsLast (inputs : List Input) (artifact : String) (input : Input) : Prop :=
  input ∈ inputs ∧ input.artifact = artifact ∧ ∀ other ∈ inputs, other.artifact = artifact → nameLe other.defconfig input.defconfig = true

/-- An input has the size and the digest of an image. -/
def SameFile (T : Tools) (files : Files) (input : Input) (image : Bytes) : Prop :=
  ∃ bytes, files input.path = some bytes ∧ bytes.length = image.length ∧ T.hexdigest bytes = T.hexdigest image

/-- The packager reads its documents as the build scripts write them. -/
structure Shares (P : Usb.Python) (T : Tools) : Prop where
  sha256 : P.sha256 = T.sha256
  loads : P.loads = fun bytes => (Utf8.decode bytes).bind fun text => T.loads (PyText.universalNewlines text.toList)

variable {T : Tools} {P : Usb.Python} {files : Files}

theorem loads_fileBytes (hP : Shares P T) (hloads : CanonicalJson.Loads T.loads) {v : Value} (hunique : v.UniqueNames) (hplain : v.plain = true) :
    P.loads (CanonicalJson.fileBytes T.float v) = some v.sortKeys := by
  obtain ⟨text, htext, hread⟩ := hloads.fileBytes T.float hunique hplain
  rw [hP.loads]
  simp only [htext, Option.bind_some, hread]

/-- The packager reads a file that `create` has written, if its schema is the one it asks for. -/
theorem loadSchema_fileBytes (hP : Shares P T) (hloads : CanonicalJson.Loads T.loads) {fields : Fields} {schema : String}
    (hunique : (Value.dict fields).UniqueNames) (hplain : (Value.dict fields).plain = true) (hschema : field "schema_version" (sorted fields) = .str schema) :
    Usb.loadSchema P schema (some (CanonicalJson.fileBytes T.float (.dict fields))) = some (sorted fields) := by
  simp only [Usb.loadSchema, Option.bind_eq_bind, Option.bind_some, loads_fileBytes hP hloads hunique hplain, sortKeys_dict, asDict, hschema, pyEq_str,
    beq_self_eq_true, guard_true]
  rfl

/-- The input that the packager finds for an artifact. -/
theorem lastWith_sorted (packed : List (Input × Bytes)) (artifact : String) :
    Usb.lastWith "artifact" artifact (packed.map fun p => .dict (sorted (inputRecord T p.1 p.2))) =
      (packed.reverse.find? fun p => p.1.artifact = artifact).map fun p => sorted (inputRecord T p.1 p.2) := by
  have hobjects : (packed.map fun p => Value.dict (sorted (inputRecord T p.1 p.2))).filterMap asDict =
      packed.map fun p => sorted (inputRecord T p.1 p.2) := by
    rw [List.filterMap_map]
    exact congrFun List.filterMap_eq_map _
  have hartifact (p : Input × Bytes) : field "artifact" (sorted (inputRecord T p.1 p.2)) = .str p.1.artifact := field_inputRecord "artifact" p
  rw [Usb.lastWith, hobjects, ← List.map_reverse, List.find?_map]
  refine congrArg (Option.map _) (congrArg (List.find? · _) (funext fun p => ?_))
  simp [hartifact, BEq.beq]

theorem recordsFile_sorted_iff (hP : Shares P T) (p : Input × Bytes) (image : Bytes) :
    Usb.recordsFile P (sorted (inputRecord T p.1 p.2)) image = true ↔ p.2.length = image.length ∧ T.hexdigest p.2 = T.hexdigest image := by
  have hbytes : field "bytes" (sorted (inputRecord T p.1 p.2)) = .int p.2.length := field_inputRecord "bytes" p
  have hsha : field "sha256" (sorted (inputRecord T p.1 p.2)) = .str (T.hexdigest p.2) := field_inputRecord "sha256" p
  have hhex : Usb.hexdigest P.sha256 image = T.hexdigest image := by rw [hP.sha256]; rfl
  rw [Usb.recordsFile, hbytes, hsha, hhex, Bool.and_eq_true, pyEq_int, pyEq_str, beq_iff_eq, beq_iff_eq, Int.natCast_inj]

section Packaged

variable {A : CreateArgs} {payload : Fields} {packed : List (Input × Bytes)}

/-- Of two inputs in order, the later one has the later key. -/
theorem Created.keyLe_of_append (h : Created T A files payload packed) {before after : List (Input × Bytes)} {p q : Input × Bytes}
    (hpacked : packed = before ++ p :: after) (hq : q ∈ before) : keyLe q.1.key p.1.key = true := by
  have htotal : Std.Total fun a b : Input × Bytes => keyLe a.1.key b.1.key = true := ⟨fun a b => keyLe_total a.1.key b.1.key⟩
  have htrans : IsTrans (Input × Bytes) fun a b => keyLe a.1.key b.1.key = true := ⟨fun _ _ _ => keyLe_trans⟩
  have hsorted := List.pairwise_insertionSort (fun a b : Input × Bytes => keyLe a.1.key b.1.key = true) packed
  have hordered : packed.insertionSort (fun a b => keyLe a.1.key b.1.key = true) = packed := h.ordered
  rw [hordered, hpacked, List.pairwise_append] at hsorted
  exact hsorted.2.2 q hq p List.mem_cons_self

/-- The input that is found is the one whose defconfig comes last. -/
theorem Created.isLast_of_find (h : Created T A files payload packed) {artifact : String} {p : Input × Bytes}
    (hfind : (packed.reverse.find? fun p => p.1.artifact = artifact) = some p) :
    p ∈ packed ∧ IsLast (packed.map (·.1)) artifact p.1 := by
  obtain ⟨hartifact, after, before, hsplit, hafter⟩ := List.find?_eq_some_iff_append.1 hfind
  have hpacked : packed = before.reverse ++ p :: after.reverse := by
    rw [← List.reverse_reverse packed, hsplit]
    simp
  have hmem : p ∈ packed := by
    rw [hpacked]
    simp
  rw [decide_eq_true_eq] at hartifact
  refine ⟨hmem, List.mem_map_of_mem hmem, hartifact, ?_⟩
  simp only [List.forall_mem_map]
  intro q hq hother
  rw [hpacked, List.mem_append, List.mem_cons] at hq
  rcases hq with hq | rfl | hq
  · have hle := h.keyLe_of_append hpacked hq
    unfold keyLe at hle
    split_ifs at hle with hsame
    · have hdefconfig : q.1.defconfig = p.1.defconfig := hsame
      exact (nameLe_total _ _).elim (fun hle => hdefconfig ▸ hle) (fun hle => hdefconfig ▸ hle)
    · exact hle
  · exact (nameLe_total _ _).elim id id
  · have hnone := hafter q (List.mem_reverse.1 hq)
    simp [hother] at hnone

/-- An image is found in a manifest exactly when the last input of its name is the image. -/
theorem Created.found_iff (h : Created T A files payload packed) (hP : Shares P T) (artifact : String) (image : Bytes) :
    (∃ item, Usb.lastWith "artifact" artifact (packed.map fun p => .dict (sorted (inputRecord T p.1 p.2))) = some item ∧
        Usb.recordsFile P item image = true) ↔
      ∃ input, IsLast (packed.map (·.1)) artifact input ∧ SameFile T files input image := by
  simp only [lastWith_sorted, Option.map_eq_some_iff]
  constructor
  · rintro ⟨-, ⟨p, hfind, rfl⟩, hrecords⟩
    obtain ⟨hp, hlast⟩ := h.isLast_of_find hfind
    exact ⟨p.1, hlast, p.2, h.sound.held p hp, (recordsFile_sorted_iff hP p image).1 hrecords⟩
  · rintro ⟨input, ⟨hinput, hartifact, hlast⟩, bytes, hbytes, hsame⟩
    obtain ⟨p, hp, rfl⟩ := List.mem_map.1 hinput
    obtain ⟨q, hfind⟩ : ∃ q, (packed.reverse.find? fun p => p.1.artifact = artifact) = some q := by
      rw [← Option.isSome_iff_exists, List.find?_isSome]
      exact ⟨p, List.mem_reverse.2 hp, by simpa using hartifact⟩
    obtain ⟨hq, -, hqartifact, hqlast⟩ := h.isLast_of_find hfind
    have hkey : q.1.key = p.1.key :=
      Prod.ext (nameLe_antisymm (hlast q.1 (List.mem_map_of_mem hq) hqartifact) (hqlast p.1 hinput hartifact)) (hqartifact.trans hartifact.symm)
    obtain rfl := List.inj_on_of_nodup_map h.sound.distinct hq hp hkey
    obtain rfl := Option.some.inj ((h.sound.held q hq).symm.trans hbytes)
    exact ⟨_, ⟨q, hfind, rfl⟩, (recordsFile_sorted_iff hP q image).2 hsame⟩

theorem isLast_perm {inputs inputs' : List Input} (h : inputs.Perm inputs') (artifact : String) (input : Input) :
    IsLast inputs artifact input ↔ IsLast inputs' artifact input := by
  simp only [IsLast, h.mem_iff]

/-- The packager takes a manifest that was created exactly when the last input of each image is the image. -/
theorem created_inputs_packaged_iff {args : Usb.Args} {inputs : List Input} {rpi4 revpi4 : Bytes} (hcreate : create T A files = .ok payload)
    (hinputs : A.inputs.mapM parseInput = .ok inputs) (hP : Shares P T)
    (hloads : CanonicalJson.Loads T.loads) (hfile : args.payloadInputsManifest = some (CanonicalJson.fileBytes T.float (.dict payload))) :
    Usb.loadPayloadInputsManifest P args rpi4 revpi4 = some () ↔
      (∃ input, IsLast inputs Usb.rpi4ImageName input ∧ SameFile T files input rpi4) ∧
        ∃ input, IsLast inputs Usb.revpi4ImageName input ∧ SameFile T files input revpi4 := by
  obtain ⟨packed, h⟩ := created_of_create hcreate
  obtain ⟨inputs', hinputs', hperm⟩ := h.inputs
  obtain rfl := Except.ok.inj (hinputs.symm.trans hinputs')
  have hne : (packed.map fun p => Value.dict (sorted (inputRecord T p.1 p.2))) ≠ [] := by simpa using h.nonempty
  simp only [← isLast_perm hperm, ← h.found_iff hP]
  have hschema : field "schema_version" (sorted payload) = .str "suderra.payload-inputs.v1" := h.text_sorted rfl
  rw [Usb.loadPayloadInputsManifest, hfile, loadSchema_fileBytes hP hloads h.unique h.plain hschema]
  simp only [Option.bind_eq_bind, Option.bind_some, h.inputs_sorted, asList, Option.bind_eq_some_iff, Option.guard_eq_some']
  constructor
  · rintro ⟨-, -, rpi4Item, hrpi4, -, hrpi4Record, revpi4Item, hrevpi4, hrevpi4Record⟩
    exact ⟨⟨rpi4Item, hrpi4, hrpi4Record⟩, revpi4Item, hrevpi4, hrevpi4Record⟩
  · rintro ⟨⟨rpi4Item, hrpi4, hrpi4Record⟩, revpi4Item, hrevpi4, hrevpi4Record⟩
    exact ⟨(), hne, rpi4Item, hrpi4, (), hrpi4Record, revpi4Item, hrevpi4, hrevpi4Record⟩

def samplePackager : Usb.Python where
  sha256 := Sha256.digest
  lzma _ := none
  loads bytes := (Utf8.decode bytes).bind fun text => sampleTools.loads (PyText.universalNewlines text.toList)
  fromIsoformat _ := false
  timestamp _ := none
  sign _ _ := none
  verify _ _ _ := false
  repr _ := []

def samplePackagerArgs (manifest : Bytes) : Usb.Args where
  baseBoot := none
  baseRootfs := none
  baseManifest := none
  payloadInputsManifest := some manifest
  genimageCfg := none
  rpi4Image := some [4]
  revpi4Image := some [5]
  signKey := none
  publicKey := none
  expiresAt := ""
  keyEpoch := 1
  sourceDateEpoch := none
  rollbackFloor := ""
  imagesMade := true

/-- The image of the lab has the name of another one, and is not compared with anything. -/
theorem created_inputs_packaged_iff_sample : ∃ payload, create sampleTools sampleArgs sampleFiles = .ok payload ∧
    Usb.loadPayloadInputsManifest samplePackager (samplePackagerArgs (CanonicalJson.fileBytes sampleTools.float (.dict payload))) [4] [5] = some () := by
  obtain ⟨payload, hcreate⟩ := sample_created
  have hinputs : sampleInputs.mapM parseInput = .ok [⟨"suderra_rpi4_defconfig", Usb.rpi4ImageName, ⟨"/", ["rpi4.xz"]⟩⟩,
      ⟨"suderra_revpi4_defconfig", Usb.revpi4ImageName, ⟨"/", ["revpi4.xz"]⟩⟩, ⟨"suderra_lab_defconfig", Usb.rpi4ImageName, ⟨"/", ["lab.xz"]⟩⟩] := by
    rfl
  refine ⟨payload, hcreate, (created_inputs_packaged_iff hcreate hinputs ⟨rfl, rfl⟩ CanonicalJson.loads_unique rfl).2 ⟨⟨_, ⟨List.mem_cons_self, rfl, ?_⟩, [4], rfl, rfl, rfl⟩,
    ⟨_, ⟨List.mem_cons_of_mem _ List.mem_cons_self, rfl, ?_⟩, [5], rfl, rfl, rfl⟩⟩⟩
  · decide
  · decide

end Packaged

end SuderraOs.Build.PayloadInputs
