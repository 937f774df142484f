import SuderraOs.Evidence.Attestation
import SuderraOs.Evidence.OperatorIngress

/-!
# Machine-verification records

`validate_record` of `machine-verification-record.py`: the record of one of the three checks of a release. It compares what the record
says with itself: the verified subjects with the subjects, and the provenance of each attestation with the source of the record
(`recorded_of_validateRecord`).
-/

namespace SuderraOs.Evidence.MachineRecord

open Value OperatorIngress Attestation

def schemaVersion : String := "suderra.machine-verification.v3"

def legacySchemaVersions : List String := ["suderra.machine-verification.v2"]

/-- The failures of fields that must be collected. -/
def collected (prefixPath : String) (names : List String) (fields : Fields) : List String :=
  names.flatMap fun name => failUnless s!"{prefixPath}{name} must be non-placeholder" (!Attestation.isPlaceholder (field name fields))

section

variable (Γ : Python)

/-- The name of a subject, if it is that of a file. -/
def safeName (subject : Fields) : Option String :=
  (field "name" subject).asStr.filter fun name =>
    !Attestation.isPlaceholder (.str name) && (PosixPath.ofString name).name = name

/-- The failures of the subjects from a place on, after the keys before it. -/
def subjectsFailuresFrom (path : String) (seen : List String) (idx : Nat) : List Value → List String
  | [] => []
  | .dict subject :: items =>
    match safeName subject with
    | none => s!"{path}[{idx}].name must be a safe file name" :: subjectsFailuresFrom path seen (idx + 1) items
    | some name =>
      let key := name ++ "@" ++ (field "sha256" subject).pyStr Γ.repr
      failUnless s!"{path}[{idx}] is duplicated" (!seen.contains key) ++
        failUnless s!"{path}[{idx}].sha256 must be lowercase sha256" ((field "sha256" subject).asStr.any (isHex 64)) ++
        failUnless s!"{path}[{idx}].bytes must be positive" ((lookup "bytes" subject).all (isIntFrom 1)) ++
        subjectsFailuresFrom path (key :: seen) (idx + 1) items
  | _ :: items => s!"{path}[{idx}] must be an object" :: subjectsFailuresFrom path seen (idx + 1) items

/-- `validate_subjects`. -/
def validateSubjects (path : String) : Value → List String
  | .list (item :: items) => subjectsFailuresFrom Γ path [] 0 (item :: items)
  | _ => [s!"{path} must be a non-empty list"]

/-- `subject_identity`. -/
def subjectIdentity (item : Value) : Except String Subject := do
  let subject ← orError "TypeError" item.asDict
  let name ← orError "KeyError" (lookup "name" subject)
  let sha256 ← orError "KeyError" (lookup "sha256" subject)
  .ok (name.pyStr Γ.repr, sha256.pyStr Γ.repr)

/-- The failure of verified subjects that are not the subjects. -/
def verifiedFailures (subjects verified : Value) : Except String (List String) :=
  match subjects, verified with
  | .list subjects, .list verified => do
    let expected ← subjects.mapM (subjectIdentity Γ)
    let actual ← verified.mapM (subjectIdentity Γ)
    .ok (failUnless "verified_subjects must exactly match attested release subjects"
      (expected.all actual.contains && actual.all expected.contains))
  | _, _ => .ok []

/-- The fields of the provenance that must be those of the source of the record. -/
def sourceFields : List (String × String) :=
  [("source_repository", "repository"), ("source_ref", "ref"), ("source_run_id", "run_id"), ("source_run_attempt", "run_attempt"),
    ("source_sha", "source_sha")]

/-- The failures of a provenance. A predicate type that cannot be hashed raises. -/
def provenanceFailures (source : Option Fields) (path : String) : Value → Except String (List String)
  | .dict prov => do
    guardError "TypeError" (field "predicate_type" prov).isHashable
    .ok (failUnless s!"{path}.predicate_type must be a supported predicate type"
        ((field "predicate_type" prov).isIn (allowedPredicateTypes.map .str)) ++
      collected s!"{path}."
        ["builder_id", "source_repository", "source_ref", "source_run_id", "source_run_attempt", "source_sha"] prov ++
      failUnless s!"{path}.materials must be a non-empty list" ((field "materials" prov).asList.any (!·.isEmpty)) ++
      source.toList.flatMap fun source => sourceFields.flatMap fun p =>
        failUnless s!"{path}.{p.1} must match record source"
          ((field p.2 source).pyEq .null || (field p.1 prov).pyStr Γ.repr = (field p.2 source).pyStr Γ.repr))
  | _ => .ok [s!"{path} must be an object"]

/-- The failures of the provenances of a file. -/
def provenancesFailures (source : Option Fields) (path : String) : Value → Except String (List String)
  | .list (item :: items) => do
    let failures ← (item :: items).zipIdx.mapM fun p => provenanceFailures Γ source s!"{path}.provenance[{p.2}]" p.1
    .ok failures.flatten
  | _ => .ok [s!"{path}.provenance must be a non-empty list"]

/-- The failures of a file of the material. -/
def materialFailures (current : Bool) (source : Option Fields) (path : String) : Value → Except String (List String)
  | .dict item => do
    let provenance ← (if current then provenancesFailures Γ source path (field "provenance" item) else .ok [])
    .ok (collected s!"{path}." ["path", "sha256"] item ++
      failUnless s!"{path}.bytes must be positive" (isIntFrom 1 (field "bytes" item)) ++
      validateSubjects Γ s!"{path}.subjects" (field "subjects" item) ++ provenance)
  | _ => .ok [s!"{path} must be an object"]

/-- The failures of the files of the material. -/
def filesFailures (current : Bool) (source : Option Fields) : Value → Except String (List String)
  | .list (item :: items) => do
    let failures ← (item :: items).zipIdx.mapM fun p =>
      materialFailures Γ current source s!"verification_material.files[{p.2}]" p.1
    .ok failures.flatten
  | _ => .ok ["verification_material.files must be a non-empty list"]

/-- The failures of the material of a record. -/
def verificationMaterialFailures (current : Bool) (source : Option Fields) : Value → Except String (List String)
  | .dict material => do
    let files ← filesFailures Γ current source (field "files" material)
    .ok (failUnless "verification_material.kind must be github-artifact-attestation-dsse"
      ((field "kind" material).pyEq (.str "github-artifact-attestation-dsse")) ++ files)
  | _ => .ok ["verification_material must be an object"]

/-- The failures of a record of the attestations. -/
def attestationFailures (current : Bool) (payload : Fields) : Except String (List String) := do
  let verified ← verifiedFailures Γ (field "subjects" payload) (field "verified_subjects" payload)
  let material ← verificationMaterialFailures Γ current (field "source" payload).asDict (field "verification_material" payload)
  .ok (validateSubjects Γ "verified_subjects" (field "verified_subjects" payload) ++ verified ++ material)

/-- The failures of the source of a record. -/
def sourceFailures (current : Bool) : Value → List String
  | .dict source =>
    collected "source." ["repository", "workflow", "run_id", "run_attempt", "ref"] source ++
      if current then collected "source." ["source_sha"] source else []
  | _ => ["source must be an object"]

/-- The failures of the log of a record. -/
def logFailures : Value → List String
  | .dict log => collected "log." ["path", "sha256"] log ++ failUnless "log.bytes must be positive" (isIntFrom 1 (field "bytes" log))
  | _ => ["log must be an object"]

/-- `validate_record`. -/
def validateRecord (payload : Fields) (expectedName : Option String) : Except String (List String) := do
  let version := field "schema_version" payload
  let current := version.pyEq (.str schemaVersion)
  guardError "TypeError" version.isHashable
  let attestations ←
    (if (field "name" payload).pyEq (.str "attestations") then attestationFailures Γ current payload else .ok [])
  .ok (failUnless s!"schema_version must be {schemaVersion}" (version.isIn ((schemaVersion :: legacySchemaVersions).map .str)) ++
    expectText s!"name must be {orEmpty expectedName}" (field "name" payload) expectedName ++
    failUnless "status must be passed" ((field "status" payload).pyEq (.str "passed")) ++
    collected "" ["identity", "issuer", "generated_at"] payload ++
    sourceFailures current (field "source" payload) ++ logFailures (field "log" payload) ++
    validateSubjects Γ "subjects" (field "subjects" payload) ++ attestations)

/-! ## What an accepted record says -/

/-- A provenance names the source of its record, where the record has one. -/
def NamesSource (source : Fields) (prov : Value) : Prop :=
  ∃ fields, prov = .dict fields ∧
    ∀ p ∈ sourceFields, field p.2 source = .null ∨ (field p.1 fields).pyStr Γ.repr = (field p.2 source).pyStr Γ.repr

/-- A file of the material has a provenance, and each one names the source. -/
def Provenanced (source : Fields) (item : Value) : Prop :=
  ∃ fields provs, item = .dict fields ∧ field "provenance" fields = .list provs ∧ provs ≠ [] ∧ ∀ prov ∈ provs, NamesSource Γ source prov

/-- A record of the attestations verifies its own subjects, by material that names its own source. -/
structure Attested (payload : Fields) : Prop where
  verified : ∃ subjects verified expected actual, field "subjects" payload = .list subjects ∧
    field "verified_subjects" payload = .list verified ∧ subjects.mapM (subjectIdentity Γ) = .ok expected ∧
    verified.mapM (subjectIdentity Γ) = .ok actual ∧ ∀ subject, subject ∈ expected ↔ subject ∈ actual
  material : ∃ source material files, field "source" payload = .dict source ∧ field "verification_material" payload = .dict material ∧
    field "files" material = .list files ∧ files ≠ [] ∧ ∀ item ∈ files, Provenanced Γ source item

/-- A record of a check that passed, with all that its source must have. -/
structure Recorded (name : String) (payload : Fields) : Prop where
  name_eq : field "name" payload = .str name
  passed : field "status" payload = .str "passed"
  source : ∃ source, field "source" payload = .dict source ∧ Attestation.isPlaceholder (field "source_sha" source) = false
  attested : name = "attestations" → Attested Γ payload

variable {Γ}

/-- A list of subjects without failures is one. -/
theorem list_of_validateSubjects {path : String} {v : Value} (h : validateSubjects Γ path v = []) : ∃ items, v = .list items := by
  unfold validateSubjects at h
  split at h
  · exact ⟨_, rfl⟩
  · cases h

theorem namesSource_of_provenanceFailures {source : Fields} {path : String} {prov : Value}
    (h : provenanceFailures Γ (some source) path prov = .ok []) : NamesSource Γ source prov := by
  unfold provenanceFailures at h
  split at h
  · next fields =>
    obtain ⟨_, h⟩ := guardError_bind_ok_iff.1 h
    simp only [Except.ok.injEq, List.append_eq_nil_iff, Option.toList_some, List.flatMap_singleton, List.flatMap_eq_nil_iff,
      failUnless_eq_nil, Bool.or_eq_true, pyEq_null_iff, decide_eq_true_eq] at h
    exact ⟨fields, rfl, h.2⟩
  · cases h

theorem provenanced_of_materialFailures {source : Fields} {path : String} {item : Value}
    (h : materialFailures Γ true (some source) path item = .ok []) : Provenanced Γ source item := by
  unfold materialFailures at h
  split at h
  · next fields =>
    obtain ⟨provenance, hprovenance, h⟩ := bind_ok_iff.1 h
    obtain rfl : provenance = [] := (List.append_eq_nil_iff.1 (Except.ok.inj h)).2
    rw [if_pos rfl] at hprovenance
    unfold provenancesFailures at hprovenance
    split at hprovenance
    · next prov provs hprovs =>
      obtain ⟨found, hfound, hnil⟩ := bind_ok_iff.1 hprovenance
      refine ⟨fields, _, rfl, hprovs, List.cons_ne_nil _ _, fun p hp => ?_⟩
      obtain ⟨i, hi⟩ := exists_mem_zipIdx hp
      exact namesSource_of_provenanceFailures (mapM_flatten_eq_nil hfound (Except.ok.inj hnil) _ hi)
    · cases hprovenance
  · cases h

/-- An accepted record of the current schema is of its check, and its material of its source. -/
theorem recorded_of_validateRecord {name : String} {payload : Fields} (hcurrent : field "schema_version" payload = .str schemaVersion)
    (h : validateRecord Γ payload (some name) = .ok []) : Recorded Γ name payload := by
  obtain ⟨_, h⟩ := guardError_bind_ok_iff.1 h
  obtain ⟨attestations, hattestations, h⟩ := bind_ok_iff.1 h
  simp only [hcurrent, pyEq_str, beq_self_eq_true, Except.ok.injEq, List.append_eq_nil_iff, failUnless_eq_nil, expectText,
    Option.toList_some, List.flatMap_singleton, pyEq_str_iff] at h hattestations
  obtain ⟨⟨⟨⟨⟨⟨⟨_, hname⟩, hpassed⟩, _⟩, hsource⟩, _⟩, hsubjects⟩, rfl⟩ := h
  obtain ⟨source, hsourceEq, hcollected⟩ : ∃ source, field "source" payload = .dict source ∧
      Attestation.isPlaceholder (field "source_sha" source) = false := by
    unfold sourceFailures at hsource
    split at hsource
    · next source heq =>
      simp only [if_true, List.append_eq_nil_iff, collected, List.flatMap_singleton, failUnless_eq_nil, Bool.not_eq_true'] at hsource
      exact ⟨source, heq, hsource.2⟩
    · cases hsource
  refine ⟨hname, hpassed, ⟨source, hsourceEq, hcollected⟩, ?_⟩
  rintro rfl
  rw [hname, pyEq_str, beq_self_eq_true, if_pos rfl] at hattestations
  obtain ⟨verified, hverified, hattestations⟩ := bind_ok_iff.1 hattestations
  obtain ⟨material, hmaterial, hattestations⟩ := bind_ok_iff.1 hattestations
  simp only [Except.ok.injEq, List.append_eq_nil_iff] at hattestations
  obtain ⟨⟨hlist, rfl⟩, rfl⟩ := hattestations
  constructor
  · obtain ⟨subjects, hsubjects⟩ := list_of_validateSubjects hsubjects
    obtain ⟨verified, hlist⟩ := list_of_validateSubjects hlist
    rw [hsubjects, hlist] at hverified
    obtain ⟨expected, hexpected, hverified⟩ := bind_ok_iff.1 hverified
    obtain ⟨actual, hactual, hverified⟩ := bind_ok_iff.1 hverified
    simp only [Except.ok.injEq, failUnless_eq_nil, Bool.and_eq_true, List.all_eq_true, List.contains_eq_mem, decide_eq_true_eq] at hverified
    exact ⟨_, _, expected, actual, hsubjects, hlist, hexpected, hactual, fun subject => ⟨hverified.1 subject, hverified.2 subject⟩⟩
  · unfold verificationMaterialFailures at hmaterial
    split at hmaterial
    · next material hmaterialEq =>
      obtain ⟨files, hfiles, hmaterial⟩ := bind_ok_iff.1 hmaterial
      obtain rfl : files = [] := (List.append_eq_nil_iff.1 (Except.ok.inj hmaterial)).2
      unfold filesFailures at hfiles
      split at hfiles
      · next item items hitems =>
        obtain ⟨found, hfound, hnil⟩ := bind_ok_iff.1 hfiles
        refine ⟨source, material, _, hsourceEq, hmaterialEq, hitems, List.cons_ne_nil _ _, fun item hitem => ?_⟩
        obtain ⟨i, hi⟩ := exists_mem_zipIdx hitem
        have := mapM_flatten_eq_nil hfound (Except.ok.inj hnil) _ hi
        rw [hsourceEq] at this
        exact provenanced_of_materialFailures this
      · cases hfiles
    · cases hmaterial

end

end SuderraOs.Evidence.MachineRecord
