import SuderraOs.Build.PayloadInputs
import SuderraOs.Lib.Sha256

/-!
# Payload manifests that were created

What `create` writes, read back: `validate` accepts it exactly when its run is numbered with digits (`created_inputs_accepted_iff`).
-/

namespace SuderraOs.Build.PayloadInputs

open Value Evidence

/-! ## Sorting -/

theorem keyLe_total (a b : String × String) : keyLe a b = true ∨ keyLe b a = true := by
  unfold keyLe
  by_cases h : a.1 = b.1
  · rw [if_pos h, if_pos h.symm]
    exact nameLe_total _ _
  · rw [if_neg h, if_neg (Ne.symm h)]
    exact nameLe_total _ _

theorem keyLe_trans {a b c : String × String} (hab : keyLe a b = true) (hbc : keyLe b c = true) : keyLe a c = true := by
  unfold keyLe at *
  by_cases h₁ : a.1 = b.1
  · rw [if_pos h₁] at hab
    by_cases h₂ : b.1 = c.1
    · rw [if_pos h₂] at hbc
      rw [if_pos (h₁.trans h₂)]
      exact nameLe_trans hab hbc
    · rw [if_neg h₂] at hbc
      rw [if_neg (h₁ ▸ h₂), h₁]
      exact hbc
  · rw [if_neg h₁] at hab
    by_cases h₂ : b.1 = c.1
    · rw [if_neg (h₂ ▸ h₁), ← h₂]
      exact hab
    · rw [if_neg h₂] at hbc
      have hne : a.1 ≠ c.1 := fun h => h₁ (nameLe_antisymm hab (h ▸ hbc))
      rw [if_neg hne]
      exact nameLe_trans hab hbc

variable {α : Type}

/-- A list in the order of its keys. -/
def sortByKey (key : α → String × String) (items : List α) : List α := items.insertionSort fun a b => keyLe (key a) (key b) = true

theorem sortByKey_sortByKey (key : α → String × String) (items : List α) : sortByKey key (sortByKey key items) = sortByKey key items := by
  have htotal : Std.Total fun a b : α => keyLe (key a) (key b) = true := ⟨fun a b => keyLe_total (key a) (key b)⟩
  have htrans : IsTrans α fun a b : α => keyLe (key a) (key b) = true := ⟨fun _ _ _ => keyLe_trans⟩
  exact (List.pairwise_insertionSort _ items).insertionSort_eq

theorem perm_sortByKey (key : α → String × String) (items : List α) : (sortByKey key items).Perm items := List.perm_insertionSort _ _

variable {T : Tools}

/-- Inputs that are made of something are sorted as it is. -/
theorem sortInputs_map {key : α → String × String} {record : α → Fields} (hkey : ∀ a, inputKey (record a) = some (key a)) (items : List α) :
    sortInputs T (items.map record) = .ok ((sortByKey key items).map record) := by
  have hkeyed : (items.map record).mapM (fun item => (inputKey item).map (·, item)) = some (items.map fun a => (key a, record a)) := by
    induction items with
    | nil => rfl
    | cons a items ih => simp [List.mapM_cons, ih, hkey a]
  rw [sortInputs, hkeyed]
  refine congrArg Except.ok ?_
  rw [sortByKey, ← List.map_insertionSort (fun a b => keyLe (key a) (key b) = true) _ (fun a => (key a, record a)) _ (fun _ _ _ _ => Iff.rfl),
    List.map_map]
  rfl

/-! ## What is created -/

/-- Inputs whose names are safe and all differ, with the bytes of their files. -/
structure Packed (files : Files) (packed : List (Input × Bytes)) : Prop where
  distinct : (packed.map (·.1.key)).Nodup
  defconfigs : ∀ p ∈ packed, isDefconfig p.1.defconfig = true
  artifacts : ∀ p ∈ packed, isArtifact p.1.artifact = true
  held : ∀ p ∈ packed, files p.1.path = some p.2
  nonempty : ∀ p ∈ packed, p.2 ≠ []

theorem safe_of_parseInput {value : String} {input : Input} (h : parseInput value = .ok input) :
    isDefconfig input.defconfig = true ∧ isArtifact input.artifact = true := by
  rw [parseInput] at h
  obtain ⟨⟨defconfig, artifact, path⟩, -, h⟩ := orError_bind_ok_iff.1 h
  obtain ⟨hdefconfig, h⟩ := guardError_bind_ok_iff.1 h
  obtain ⟨hartifact, h⟩ := guardError_bind_ok_iff.1 h
  rw [← Except.ok.inj h]
  exact ⟨hdefconfig, hartifact⟩

variable {files : Files}

/-- The loop of `create` packs its inputs. -/
theorem packed_of_createInputs {inputs : List Input} (hsafe : ∀ input ∈ inputs, isDefconfig input.defconfig = true ∧ isArtifact input.artifact = true)
    {seen : List (String × String)} {records : List Fields} (h : createInputs T files seen inputs = .ok records) :
    ∃ packed, Packed files packed ∧ packed.map (·.1) = inputs ∧ records = packed.map (fun p => inputRecord T p.1 p.2) ∧
      ∀ p ∈ packed, p.1.key ∉ seen := by
  induction inputs generalizing seen records with
  | nil => exact ⟨[], ⟨by simp, by simp, by simp, by simp, by simp⟩, rfl, (Except.ok.inj h).symm, by simp⟩
  | cons input inputs ih =>
    rw [createInputs] at h
    obtain ⟨hseen, h⟩ := guardError_bind_ok_iff.1 h
    obtain ⟨bytes, hbytes, h⟩ := orError_bind_ok_iff.1 h
    obtain ⟨hempty, h⟩ := guardError_bind_ok_iff.1 h
    obtain ⟨records', hrecords, h⟩ := bind_ok_iff.1 h
    obtain ⟨packed, hpacked, hinputs, rfl, hunseen⟩ := ih (fun i hi => hsafe i (List.mem_cons_of_mem _ hi)) hrecords
    obtain ⟨hdefconfig, hartifact⟩ := hsafe input List.mem_cons_self
    have hnew : input.key ∉ packed.map (·.1.key) := by
      rintro hmem
      obtain ⟨p, hp, hkey⟩ := List.mem_map.1 hmem
      exact hunseen p hp (hkey ▸ List.mem_cons_self)
    refine ⟨(input, bytes) :: packed, ⟨?_, ?_, ?_, ?_, ?_⟩, by simp [hinputs], (Except.ok.inj h).symm, ?_⟩
    · exact List.nodup_cons.2 ⟨hnew, hpacked.distinct⟩
    · exact List.forall_mem_cons.2 ⟨hdefconfig, hpacked.defconfigs⟩
    · exact List.forall_mem_cons.2 ⟨hartifact, hpacked.artifacts⟩
    · exact List.forall_mem_cons.2 ⟨hbytes, hpacked.held⟩
    · exact List.forall_mem_cons.2 ⟨by simpa using hempty, hpacked.nonempty⟩
    · exact List.forall_mem_cons.2 ⟨by simpa using hseen, fun p hp hmem => hunseen p hp (List.mem_cons_of_mem _ hmem)⟩

/-- The loop of `create` comes to its end where the inputs differ from each other and from those seen, and each has a file that holds
something. -/
theorem createInputs_ok_iff {inputs : List Input} {seen : List (String × String)} : (∃ records, createInputs T files seen inputs = .ok records) ↔
    (inputs.map Input.key).Nodup ∧ (∀ input ∈ inputs, input.key ∉ seen) ∧
      ∀ input ∈ inputs, ∃ bytes, files input.path = some bytes ∧ bytes ≠ [] := by
  induction inputs generalizing seen with
  | nil => simp [createInputs]
  | cons input inputs ih =>
    constructor
    · rintro ⟨_, h⟩
      obtain ⟨hseen, h⟩ := guardError_bind_ok_iff.1 h
      obtain ⟨bytes, hbytes, h⟩ := orError_bind_ok_iff.1 h
      obtain ⟨hempty, h⟩ := guardError_bind_ok_iff.1 h
      obtain ⟨records, hrecords, -⟩ := bind_ok_iff.1 h
      obtain ⟨hnodup, hunseen, hheld⟩ := ih.1 ⟨records, hrecords⟩
      refine ⟨?_, ?_, ?_⟩
      · refine List.nodup_cons.2 ⟨fun hmem => ?_, hnodup⟩
        obtain ⟨other, hother, hkey⟩ := List.mem_map.1 hmem
        exact hunseen other hother (hkey ▸ List.mem_cons_self)
      · exact List.forall_mem_cons.2 ⟨by simpa using hseen, fun other hother hmem => hunseen other hother (List.mem_cons_of_mem _ hmem)⟩
      · exact List.forall_mem_cons.2 ⟨⟨bytes, hbytes, by simpa using hempty⟩, hheld⟩
    · rintro ⟨hnodup, hunseen, hheld⟩
      rw [List.map_cons, List.nodup_cons] at hnodup
      obtain ⟨hseen, hunseen⟩ := List.forall_mem_cons.1 hunseen
      obtain ⟨⟨bytes, hbytes, hempty⟩, hheld⟩ := List.forall_mem_cons.1 hheld
      have hrest : ∀ other ∈ inputs, other.key ∉ input.key :: seen := by
        intro other hother hmem
        rcases List.mem_cons.1 hmem with hkey | hmem
        · exact hnodup.1 (hkey ▸ List.mem_map_of_mem hother)
        · exact hunseen other hother hmem
      obtain ⟨records, hrecords⟩ := ih.2 ⟨hnodup.2, hrest, hheld⟩
      exact ⟨_, guardError_bind_ok_iff.2 ⟨by simpa using hseen, orError_bind_ok_iff.2 ⟨bytes, hbytes,
        guardError_bind_ok_iff.2 ⟨by simpa using hempty, bind_ok_iff.2 ⟨records, hrecords, rfl⟩⟩⟩⟩⟩

/-- The order of the inputs does not matter. -/
theorem Packed.perm {packed packed' : List (Input × Bytes)} (h : Packed files packed) (hperm : packed'.Perm packed) : Packed files packed' where
  distinct := ((hperm.map _).nodup_iff).2 h.distinct
  defconfigs p hp := h.defconfigs p (hperm.mem_iff.1 hp)
  artifacts p hp := h.artifacts p (hperm.mem_iff.1 hp)
  held p hp := h.held p (hperm.mem_iff.1 hp)
  nonempty p hp := h.nonempty p (hperm.mem_iff.1 hp)

variable (T) in
/-- The inputs of a manifest. -/
def records (packed : List (Input × Bytes)) : List Fields := packed.map fun p => inputRecord T p.1 p.2

variable (T) in
/-- The digest of inputs in the order they stand in. -/
def recordsDigest (packed : List (Input × Bytes)) : String :=
  T.hexdigest (CanonicalJson.bytes T.float (.list ((records T packed).map .dict)))

/-- What a creation that succeeds writes. -/
structure Created (T : Tools) (A : CreateArgs) (files : Files) (payload : Fields) (packed : List (Input × Bytes)) : Prop where
  sound : Packed files packed
  nonempty : packed ≠ []
  ordered : sortByKey (·.1.key) packed = packed
  inputs : ∃ inputs, A.inputs.mapM parseInput = .ok inputs ∧ (packed.map (·.1)).Perm inputs
  defconfig : isDefconfig A.defconfig = true
  sourceSha : isHex 40 A.sourceSha = true
  payload : payload = manifestFields A (records T packed) ++ [("inputs_sha256", .str (recordsDigest T packed))]

theorem inputKey_inputRecord (p : Input × Bytes) : inputKey (inputRecord T p.1 p.2) = some p.1.key := rfl

theorem created_of_create {A : CreateArgs} {payload : Fields} (h : create T A files = .ok payload) : ∃ packed, Created T A files payload packed := by
  rw [create] at h
  obtain ⟨inputs, hinputs, h⟩ := bind_ok_iff.1 h
  obtain ⟨hdefconfig, h⟩ := guardError_bind_ok_iff.1 h
  obtain ⟨hsha, h⟩ := guardError_bind_ok_iff.1 h
  obtain ⟨hnonempty, h⟩ := guardError_bind_ok_iff.1 h
  obtain ⟨written, hwritten, h⟩ := bind_ok_iff.1 h
  have hsafe : ∀ input ∈ inputs, isDefconfig input.defconfig = true ∧ isArtifact input.artifact = true := by
    intro input hinput
    obtain ⟨value, -, hvalue⟩ := mapM_ok_right hinputs input hinput
    exact safe_of_parseInput hvalue
  obtain ⟨packed, hpacked, rfl, rfl, -⟩ := packed_of_createInputs hsafe hwritten
  have hperm := perm_sortByKey (·.1.key) packed
  have hordered := sortByKey_sortByKey (·.1.key) packed
  obtain ⟨items, hitems, h⟩ := bind_ok_iff.1 h
  rw [sortInputs_map inputKey_inputRecord] at hitems
  obtain rfl := Except.ok.inj hitems
  rw [canonicalDigest, sortInputs_map inputKey_inputRecord, hordered] at h
  refine ⟨sortByKey (·.1.key) packed, hpacked.perm hperm, ?_, hordered, ⟨_, hinputs, hperm.map _⟩, hdefconfig, hsha, (Except.ok.inj h).symm⟩
  intro hnil
  rw [hnil] at hperm
  simp [hperm.nil_eq.symm] at hnonempty

/-! ## What is read back -/

/-- When inputs that could be read are made a manifest of. -/
theorem create_ok_iff {A : CreateArgs} {inputs : List Input} (hinputs : A.inputs.mapM parseInput = .ok inputs) :
    (∃ payload, create T A files = .ok payload) ↔ isDefconfig A.defconfig = true ∧ isHex 40 A.sourceSha = true ∧ inputs ≠ [] ∧
      (inputs.map Input.key).Nodup ∧ ∀ input ∈ inputs, ∃ bytes, files input.path = some bytes ∧ bytes ≠ [] := by
  constructor
  · rintro ⟨payload, h⟩
    rw [create, hinputs, ok_bind] at h
    obtain ⟨hdefconfig, h⟩ := guardError_bind_ok_iff.1 h
    obtain ⟨hsha, h⟩ := guardError_bind_ok_iff.1 h
    obtain ⟨hnonempty, h⟩ := guardError_bind_ok_iff.1 h
    obtain ⟨records, hrecords, -⟩ := bind_ok_iff.1 h
    obtain ⟨hnodup, -, hheld⟩ := createInputs_ok_iff.1 ⟨records, hrecords⟩
    exact ⟨hdefconfig, hsha, by simpa using hnonempty, hnodup, hheld⟩
  · rintro ⟨hdefconfig, hsha, hnonempty, hnodup, hheld⟩
    obtain ⟨records, hrecords⟩ := (createInputs_ok_iff (T := T)).2 ⟨hnodup, fun _ _ => List.not_mem_nil, hheld⟩
    have hsafe : ∀ input ∈ inputs, isDefconfig input.defconfig = true ∧ isArtifact input.artifact = true := by
      intro input hinput
      obtain ⟨value, -, hvalue⟩ := mapM_ok_right hinputs input hinput
      exact safe_of_parseInput hvalue
    obtain ⟨packed, -, -, rfl, -⟩ := packed_of_createInputs hsafe hrecords
    rw [create, hinputs, ok_bind, hdefconfig, hsha, show inputs.isEmpty = false by simpa using hnonempty, hrecords]
    simp only [guardError, if_true, Bool.not_false, ok_bind, sortInputs_map inputKey_inputRecord, canonicalDigest]
    exact ⟨_, rfl⟩

theorem uniqueNames_inputRecord (p : Input × Bytes) : (Value.dict (inputRecord T p.1 p.2)).UniqueNames := by
  have hnames : (inputRecord T p.1 p.2).map (·.1) = ["source_defconfig", "source_artifact_name", "artifact", "artifact_path", "sha256", "bytes"] := rfl
  refine ⟨hnames ▸ by decide, uniqueNamesFields_iff.2 ?_⟩
  simp [inputRecord, UniqueNames]

theorem plain_records (packed : List (Input × Bytes)) : (Value.list ((records T packed).map .dict)).plain = true := by
  induction packed with
  | nil => rfl
  | cons p packed ih => simpa [records, inputRecord, plain, plainItems, plainFields] using ih

theorem uniqueNames_records (packed : List (Input × Bytes)) : (Value.list ((records T packed).map .dict)).UniqueNames := by
  refine uniqueNamesItems_iff.2 ?_
  simp only [records, List.map_map, List.forall_mem_map]
  exact fun p _ => uniqueNames_inputRecord p

theorem sortKeys_records (packed : List (Input × Bytes)) :
    (Value.list ((records T packed).map .dict)).sortKeys = .list (packed.map fun p => .dict (sorted (inputRecord T p.1 p.2))) := by
  rw [sortKeys, sortKeysItems_eq_map, records, List.map_map, List.map_map]
  rfl

/-- A member of an input that is read back. -/
theorem field_inputRecord (name : String) (p : Input × Bytes) :
    field name (sorted (inputRecord T p.1 p.2)) = (field name (inputRecord T p.1 p.2)).sortKeys :=
  field_sorted (uniqueNames_inputRecord p).1 name

theorem inputKey_sorted (p : Input × Bytes) : inputKey (sorted (inputRecord T p.1 p.2)) = some p.1.key := by
  rw [inputKey, field_inputRecord, field_inputRecord]
  rfl

/-- An input that is read back fails only where its key was seen before. -/
theorem itemFailures_sorted {packed : List (Input × Bytes)} (h : Packed files packed) (hdigest : ∀ bytes, (T.sha256 bytes).length = 32)
    {p : Input × Bytes} (hp : p ∈ packed) (pre : String) (seen : List (String × String)) :
    itemFailures T pre seen (sorted (inputRecord T p.1 p.2)) =
      failUnless s!"{pre} duplicates {p.1.defconfig}:{p.1.artifact}" (!seen.contains p.1.key) := by
  have hdefconfig : textField T.toPython "source_defconfig" (sorted (inputRecord T p.1 p.2)) = p.1.defconfig :=
    textField_eq (field_inputRecord "source_defconfig" p)
  have hartifact : textField T.toPython "artifact" (sorted (inputRecord T p.1 p.2)) = p.1.artifact :=
    textField_eq (field_inputRecord "artifact" p)
  have hsha : textField T.toPython "sha256" (sorted (inputRecord T p.1 p.2)) = T.hexdigest p.2 := textField_eq (field_inputRecord "sha256" p)
  have hbytes : field "bytes" (sorted (inputRecord T p.1 p.2)) = .int p.2.length := field_inputRecord "bytes" p
  have hname : field "source_artifact_name" (sorted (inputRecord T p.1 p.2)) = .str s!"{p.1.defconfig}-image" :=
    field_inputRecord "source_artifact_name" p
  have hpath : field "artifact_path" (sorted (inputRecord T p.1 p.2)) = .str s!"{p.1.defconfig}-image/{p.1.artifact}" :=
    field_inputRecord "artifact_path" p
  have hpos : (0 : Int) < p.2.length := by exact_mod_cast List.length_pos_of_ne_nil (h.nonempty p hp)
  simp only [itemFailures, hdefconfig, hartifact, hsha, hbytes, hname, hpath, h.defconfigs p hp, h.artifacts p hp, pyEq_str, beq_self_eq_true,
    Python.isHex_hexdigest (hdigest p.2), asInt, Option.any_some, hpos, decide_true, failUnless, if_true, List.nil_append, List.append_nil]
  rfl

theorem itemsFailures_sorted {packed : List (Input × Bytes)} (h : Packed files packed) (hdigest : ∀ bytes, (T.sha256 bytes).length = 32)
    (idx : Nat) {seen : List (String × String)} (hseen : ∀ p ∈ packed, p.1.key ∉ seen) :
    itemsFailures T idx seen (packed.map fun p => .dict (sorted (inputRecord T p.1 p.2))) = [] := by
  induction packed generalizing idx seen with
  | nil => rfl
  | cons p packed ih =>
    have hdefconfig : textField T.toPython "source_defconfig" (sorted (inputRecord T p.1 p.2)) = p.1.defconfig :=
      textField_eq (field_inputRecord "source_defconfig" p)
    have hartifact : textField T.toPython "artifact" (sorted (inputRecord T p.1 p.2)) = p.1.artifact :=
      textField_eq (field_inputRecord "artifact" p)
    have hkey : (textField T.toPython "source_defconfig" (sorted (inputRecord T p.1 p.2)),
        textField T.toPython "artifact" (sorted (inputRecord T p.1 p.2))) = p.1.key := by
      rw [hdefconfig, hartifact]
      rfl
    obtain ⟨hnew, hdistinct⟩ := List.nodup_cons.1 h.distinct
    rw [List.map_cons, itemsFailures, itemFailures_sorted h hdigest List.mem_cons_self, hkey]
    refine List.append_eq_nil_iff.2 ⟨by simpa using hseen p List.mem_cons_self, ?_⟩
    refine ih ⟨hdistinct, ?_, ?_, ?_, ?_⟩ (idx + 1) ?_
    · exact fun q hq => h.defconfigs q (List.mem_cons_of_mem _ hq)
    · exact fun q hq => h.artifacts q (List.mem_cons_of_mem _ hq)
    · exact fun q hq => h.held q (List.mem_cons_of_mem _ hq)
    · exact fun q hq => h.nonempty q (List.mem_cons_of_mem _ hq)
    · intro q hq hmem
      rcases List.mem_cons.1 hmem with hmem | hmem
      · exact hnew (List.mem_map.2 ⟨q, hq, hmem⟩)
      · exact hseen q (List.mem_cons_of_mem _ hq) hmem

/-- The digest of the inputs that are read back is that of the inputs. -/
theorem canonicalDigest_sorted {packed : List (Input × Bytes)} (hordered : sortByKey (·.1.key) packed = packed) :
    canonicalDigest T (packed.map fun p => sorted (inputRecord T p.1 p.2)) = .ok (recordsDigest T packed) := by
  have hsorted : sortInputs T (packed.map fun p => sorted (inputRecord T p.1 p.2)) = .ok (packed.map fun p => sorted (inputRecord T p.1 p.2)) := by
    rw [sortInputs_map inputKey_sorted, hordered]
  rw [canonicalDigest, hsorted, ok_bind, recordsDigest, ← CanonicalJson.bytes_sortKeys (uniqueNames_records packed), sortKeys_records, List.map_map]
  rfl

section Accepted

variable {A : CreateArgs} {payload : Fields} {packed : List (Input × Bytes)}

theorem Created.unique (h : Created T A files payload packed) : (Value.dict payload).UniqueNames := by
  rw [h.payload]
  refine ⟨?_, uniqueNamesFields_iff.2 ?_⟩
  · have hnames : (manifestFields A (records T packed) ++ [("inputs_sha256", Value.str (recordsDigest T packed))]).map (·.1) =
        ["schema_version", "defconfig", "source_sha", "source_run_id", "source_run_attempt", "generated_at", "inputs", "inputs_sha256"] := rfl
    rw [hnames]
    decide
  · intro q hq
    simp only [manifestFields, List.cons_append, List.nil_append, List.mem_cons, List.not_mem_nil, or_false] at hq
    rcases hq with rfl | rfl | rfl | rfl | rfl | rfl | rfl | rfl
    case inr.inr.inr.inr.inr.inr.inl => exact uniqueNames_records packed
    all_goals trivial

theorem Created.plain (h : Created T A files payload packed) : (Value.dict payload).plain = true := by
  have hinputs := plain_records (T := T) packed
  rw [Value.plain] at hinputs
  simp [h.payload, manifestFields, Value.plain, plainFields, hinputs]

theorem Created.inputs_sorted (h : Created T A files payload packed) :
    field "inputs" (sorted payload) = .list (packed.map fun p => .dict (sorted (inputRecord T p.1 p.2))) := by
  rw [field_sorted h.unique.1, h.payload]
  exact sortKeys_records packed

/-- A text of the manifest is read back. -/
theorem Created.text_sorted (h : Created T A files payload packed) {name s : String}
    (hname : field name (manifestFields A (records T packed) ++ [("inputs_sha256", .str (recordsDigest T packed))]) = .str s) :
    field name (sorted payload) = .str s := by
  rw [field_sorted h.unique.1, h.payload, hname]
  rfl

theorem Created.headFailures_sorted (h : Created T A files payload packed) :
    headFailures T (sorted payload) = failUnless "source_run_id must be numeric" (T.isDigits A.runId) ++
      failUnless "source_run_attempt must be numeric" (T.isDigits A.runAttempt) := by
  have hschema : field "schema_version" (sorted payload) = .str schemaVersion := h.text_sorted rfl
  have hdefconfig : textField T.toPython "defconfig" (sorted payload) = A.defconfig := textField_eq (h.text_sorted rfl)
  have hsha : textField T.toPython "source_sha" (sorted payload) = A.sourceSha := textField_eq (h.text_sorted rfl)
  have hrun : textField T.toPython "source_run_id" (sorted payload) = A.runId := textField_eq (h.text_sorted rfl)
  have hattempt : textField T.toPython "source_run_attempt" (sorted payload) = A.runAttempt := textField_eq (h.text_sorted rfl)
  simp only [headFailures, hschema, hdefconfig, hsha, hrun, hattempt, h.defconfig, h.sourceSha, pyEq_str, beq_self_eq_true]
  rfl

theorem readJson_created {files' : Files} {path : PosixPath} (h : Created T A files payload packed) (hloads : CanonicalJson.Loads T.loads)
    (hfile : files' path = some (CanonicalJson.fileBytes T.float (.dict payload))) :
    readJson T.toPython files' path = .ok (some (.dict (sorted payload))) :=
  T.readJson_fileBytes hloads h.unique h.plain hfile

/-- A manifest that was created is accepted exactly when its run and its attempt are numbered with digits. -/
theorem created_inputs_accepted_iff {files' : Files} {path : PosixPath} (hcreate : create T A files = .ok payload)
    (hloads : CanonicalJson.Loads T.loads) (hdigest : ∀ bytes, (T.sha256 bytes).length = 32)
    (hfile : files' path = some (CanonicalJson.fileBytes T.float (.dict payload))) :
    validatePayload T files' path = .ok [] ↔ T.isDigits A.runId = true ∧ T.isDigits A.runAttempt = true := by
  obtain ⟨packed, h⟩ := created_of_create hcreate
  obtain ⟨p, rest, rfl⟩ := List.exists_cons_of_ne_nil h.nonempty
  have hitems : itemsFailures T 0 [] ((p :: rest).map fun p => .dict (sorted (inputRecord T p.1 p.2))) = [] :=
    itemsFailures_sorted h.sound hdigest 0 (by simp)
  have hsum : field "inputs_sha256" (sorted payload) = .str (recordsDigest T (p :: rest)) := h.text_sorted rfl
  rw [validatePayload, readJson_created h hloads hfile, ok_bind]
  simp only [h.inputs_sorted, List.map_cons, h.headFailures_sorted]
  rw [List.map_cons] at hitems
  rw [hitems, List.append_nil]
  by_cases hdigits : T.isDigits A.runId = true ∧ T.isDigits A.runAttempt = true
  · have hobjects : (Value.dict (sorted (inputRecord T p.1 p.2)) :: rest.map fun p => .dict (sorted (inputRecord T p.1 p.2))).filterMap asDict =
        (p :: rest).map fun p => sorted (inputRecord T p.1 p.2) := by
      rw [← List.map_cons (f := fun p : Input × Bytes => Value.dict (sorted (inputRecord T p.1 p.2))), List.filterMap_map]
      exact congrFun List.filterMap_eq_map _
    refine iff_of_true ?_ hdigits
    rw [hdigits.1, hdigits.2, hobjects, canonicalDigest_sorted h.ordered, hsum]
    change Except.ok (failUnless _ (pyEq (.str _) (.str _))) = _
    rw [pyEq_str, beq_self_eq_true]
    rfl
  · refine iff_of_false ?_ hdigits
    split_ifs with hempty
    · simp only [List.isEmpty_iff, List.append_eq_nil_iff, failUnless_eq_nil] at hempty
      exact absurd hempty hdigits
    · simpa using hempty

/-! ## An inputs manifest -/

def sampleTools : Tools where
  sha256 := Sha256.digest
  loads text := (JsonText.read text).map unique
  repr _ := "None"
  float _ := []
  isdigit := Char.isDigit
  unicode := ⟨fun _ => none, id⟩
  message _ := "Expecting value: line 1 column 1 (char 0)"
  sortMixed _ := .error "TypeError"

/-- Two targets make an image of one name. -/
def sampleInputs : List String :=
  ["suderra_rpi4_defconfig:suderra-rpi4-target.img.xz:/rpi4.xz", "suderra_revpi4_defconfig:suderra-revpi4-target.img.xz:/revpi4.xz",
    "suderra_lab_defconfig:suderra-rpi4-target.img.xz:/lab.xz"]

def sampleArgs : CreateArgs where
  defconfig := "suderra_usb_defconfig"
  sourceSha := "0123456789abcdef0123456789abcdef01234567"
  runId := "42"
  runAttempt := "1"
  inputs := sampleInputs
  now := "2026-01-01T00:00:00Z"

def sampleFiles : Files := fun path =>
  if path = ⟨"/", ["rpi4.xz"]⟩ then some [4] else if path = ⟨"/", ["revpi4.xz"]⟩ then some [5] else if path = ⟨"/", ["lab.xz"]⟩ then some [6] else none

theorem sample_created : ∃ payload, create sampleTools sampleArgs sampleFiles = .ok payload := by
  have hok : (create sampleTools sampleArgs sampleFiles).isOk = true := by decide +kernel
  cases hcreate : create sampleTools sampleArgs sampleFiles with
  | error e => simp [hcreate, Except.isOk, Except.toBool] at hok
  | ok payload => exact ⟨payload, rfl⟩

theorem created_inputs_accepted_iff_sample : ∃ payload, create sampleTools sampleArgs sampleFiles = .ok payload ∧
    validatePayload sampleTools (fun _ => some (CanonicalJson.fileBytes sampleTools.float (.dict payload))) ⟨"/", ["inputs.json"]⟩ = .ok [] := by
  obtain ⟨payload, hcreate⟩ := sample_created
  exact ⟨payload, hcreate, (created_inputs_accepted_iff hcreate CanonicalJson.loads_unique Sha256.length_digest rfl).2 (by decide)⟩

end Accepted

end SuderraOs.Build.PayloadInputs
