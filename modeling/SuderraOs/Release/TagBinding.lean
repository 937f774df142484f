import SuderraOs.Lib.Effect
import SuderraOs.Lib.JsonText
import SuderraOs.Lib.PyText

/-!
# The release tag binding

Two parsers of the annotation of a release tag: `parse` of `validate-release-tag-binding.py`, the authoritative gate, and
`tag-binding parse` of `release-core`, its shadow in Rust. They scan the lines in the same way (`scanAnnotation`) over tables that
differ: the gate requires `Suderra-Preflight-Profile`, the shadow does not know it.
-/

namespace SuderraOs.Release

open JsonText

def releaseTagBindingSchema : String := "suderra.release-tag-binding.v1"

/-- What a `git` command printed and whether it succeeded. -/
structure GitOutput where
  success : Bool
  stdout : String
  stderr : String

/-- What one run of either parser finds: its arguments, the text of the annotation and of the fingerprint file (`none` where it
cannot be read) and the answers of `git cat-file -t`, `git cat-file tag` and `git verify-tag --raw`. -/
structure TagInput where
  version : String
  sourceSha : String
  annotation : Option String
  trustedFingerprints : Option String
  trustedFingerprintsFile : Option (Option String)
  objectType : GitOutput
  tagObject : GitOutput
  verifyTag : GitOutput

/-! ## The annotation -/

/-- One line of an annotation: a marker is counted, a field of the table is kept. The state is the number of markers and the
fields, each with its value, in the order they were found. -/
def scanLine (fields : List (String × String)) (strip : List Char → List Char) (st : Nat × List (String × String))
    (line : List Char) : Except String (Nat × List (String × String)) :=
  match Text.splitOnce ':' line with
  | none => .ok st
  | some (rawKey, rawValue) =>
    let key := String.ofList (strip rawKey)
    let value := String.ofList (strip rawValue)
    if key = "Suderra-Release-Binding" then
      if value = "v1" then .ok (st.1 + 1, st.2) else .error "Suderra-Release-Binding must be v1"
    else
      match fields.find? (·.2 = key) with
      | none => .ok st
      | some (field, annotationKey) =>
        if st.2.any (·.1 = field) then .error s!"duplicate tag binding field: {annotationKey}"
        else .ok (st.1, st.2 ++ [(field, value)])

/-- The fields of an annotation. `order` is the order in which the missing ones are reported. -/
def scanAnnotation (fields : List (String × String)) (strip : List Char → List Char) (order : List String → List String)
    (lines : List (List Char)) : Except String (List (String × String)) := do
  let st ← lines.foldlM (scanLine fields strip) (0, [])
  guardError "annotated release tag must include exactly one Suderra-Release-Binding: v1 line" (st.1 == 1)
  let missing := fields.filter fun p => !st.2.any (·.1 = p.1)
  guardError ("annotated release tag is missing binding fields: " ++ ", ".intercalate (order (missing.map (·.2)))) missing.isEmpty
  .ok st.2

/-- A text of `n` lower case hexadecimal digits. -/
def isLowerHex (value : String) (n : Nat) : Bool :=
  value.toList.length == n && value.toList.all fun c => c.isDigit || ('a' ≤ c && c ≤ 'f')

/-- The fields of a binding whose value must be a positive integer. -/
def positiveFields : List String :=
  ["source_build_run_id", "source_build_run_attempt", "preflight_run_id", "preflight_run_attempt", "preflight_artifact_id"]

/-! ## The gate -/

namespace Gate

/-- `REQUIRED_FIELDS`. -/
def requiredFields : List (String × String) :=
  [("version", "Suderra-Version"), ("source_sha", "Suderra-Source-SHA"), ("source_build_run_id", "Suderra-Source-Build-Run-ID"),
    ("source_build_run_attempt", "Suderra-Source-Build-Run-Attempt"), ("preflight_run_id", "Suderra-Preflight-Run-ID"),
    ("preflight_run_attempt", "Suderra-Preflight-Run-Attempt"), ("preflight_artifact_id", "Suderra-Preflight-Artifact-ID"),
    ("ingress_manifest_sha256", "Suderra-Ingress-Manifest-SHA256"), ("preflight_profile", "Suderra-Preflight-Profile")]

/-- The standard output of a `git` command in text mode, stripped. -/
def git (what : String) (answer : GitOutput) : Except String String :=
  let stdout := PyText.strip (PyText.universalNewlines answer.stdout.toList)
  let stderr := PyText.strip (PyText.universalNewlines answer.stderr.toList)
  if answer.success then .ok (String.ofList stdout)
  else .error (if stderr = [] then s!"git {what} failed" else String.ofList stderr)

def parseAnnotation (text : String) : Except String (List (String × String)) :=
  scanAnnotation requiredFields PyText.strip (fun names => names.insertionSort fun a b => Value.nameLe a b = true)
    (PyText.splitlines (PyText.universalNewlines text.toList))

def checkPositiveInt (U : PyText.Unicode) (name value : String) : Except String Unit :=
  guardError s!"{name} must be a positive integer" ((PyText.parseInt U value.toList).any fun n => 0 < n)

def normalizeFingerprints (U : PyText.Unicode) : Option String → List (List Char)
  | none => []
  | some value =>
    (((PyText.strip value.toList).splitOnP fun c => PyText.isSpace c || c = ',').filter (· ≠ [])).map U.upper

/-- The fingerprint that a line of the signature report names. -/
def validSig (U : PyText.Unicode) (line : List Char) : Option (List Char) :=
  (Text.breakOn "[GNUPG:] VALIDSIG ".toList line).bind fun p => ((PyText.splitSpace p.2).head?).map U.upper

def verifyTagSignature (U : PyText.Unicode) (input : TagInput) (trusted : List (List Char)) : Except String String := do
  guardError "trusted release tag signing fingerprint policy is required" !trusted.isEmpty
  let stdout := PyText.universalNewlines input.verifyTag.stdout.toList
  let stderr := PyText.universalNewlines input.verifyTag.stderr.toList
  let report := PyText.strip (if stderr = [] then stdout else stderr)
  guardError (if report = [] then s!"git verify-tag failed for {input.version}" else String.ofList report) input.verifyTag.success
  let valid := (PyText.splitlines (stdout ++ '\n' :: stderr)).filterMap (validSig U)
  guardError "release tag signature did not report a VALIDSIG fingerprint" !valid.isEmpty
  let signer ← orError ("release tag signer fingerprint is not trusted: " ++ String.ofList (", ".toList.intercalate valid))
    (valid.find? (· ∈ trusted))
  .ok (String.ofList signer)

/-- The fingerprints of the file, where one is named. -/
def fileFingerprints (U : PyText.Unicode) : Option (Option String) → Except String (List (List Char))
  | none => .ok []
  | some none => .error "cannot read the trusted fingerprints file"
  | some (some text) => .ok (normalizeFingerprints U (some (String.ofList (PyText.universalNewlines text.toList))))

/-- The binding that `parse` makes of an annotated tag, with its signer. -/
def parseBinding (U : PyText.Unicode) (input : TagInput) : Except String (List (String × String)) := do
  let objectType ← git s!"cat-file -t refs/tags/{input.version}" input.objectType
  guardError s!"release tag {input.version} must be an annotated tag object, got {objectType}" (objectType = "tag")
  let tagObject ← git s!"cat-file tag refs/tags/{input.version}" input.tagObject
  guardError s!"release tag {input.version} must include an embedded GPG signature"
    (Text.contains "\ngpgsig ".toList tagObject.toList || "gpgsig ".toList.isPrefixOf tagObject.toList)
  let fromFile ← fileFingerprints U input.trustedFingerprintsFile
  let signer ← verifyTagSignature U input (normalizeFingerprints U input.trustedFingerprints ++ fromFile)
  let annotation ← orError "cannot read the annotation" input.annotation
  let binding ← parseAnnotation annotation
  let field (name : String) : String := (binding.lookup name).getD ""
  guardError ("Suderra-Version " ++ field "version" ++ " does not match tag " ++ input.version) (field "version" = input.version)
  guardError "Suderra-Source-SHA does not match resolved tag commit" (field "source_sha" = input.sourceSha)
  guardError "Suderra-Source-SHA must be a lowercase git commit sha" (isLowerHex (field "source_sha") 40)
  guardError "Suderra-Ingress-Manifest-SHA256 must be a lowercase sha256" (isLowerHex (field "ingress_manifest_sha256") 64)
  positiveFields.forM fun name => checkPositiveInt U name (field name)
  .ok (binding ++ [("tag_signer_fingerprint", signer)])

/-- The document that `write_outputs` writes. -/
def payload (binding : List (String × String)) : Value :=
  .dict (("schema_version", .str releaseTagBindingSchema) :: binding.map fun p => (p.1, .str p.2))

/-- The text of the JSON that `parse` writes. -/
def parseCommand (U : PyText.Unicode) (input : TagInput) : Except String String :=
  (parseBinding U input).map fun binding =>
    String.ofList (write (indented fun _ => []) 0 (payload binding).sortKeys ++ ['\n'])

end Gate

/-! ## The shadow -/

namespace Core

/-- `REQUIRED_TAG_FIELDS`. -/
def requiredTagFields : List (String × String) :=
  [("version", "Suderra-Version"), ("source_sha", "Suderra-Source-SHA"), ("source_build_run_id", "Suderra-Source-Build-Run-ID"),
    ("source_build_run_attempt", "Suderra-Source-Build-Run-Attempt"), ("preflight_run_id", "Suderra-Preflight-Run-ID"),
    ("preflight_run_attempt", "Suderra-Preflight-Run-Attempt"), ("preflight_artifact_id", "Suderra-Preflight-Artifact-ID"),
    ("ingress_manifest_sha256", "Suderra-Ingress-Manifest-SHA256")]

def versionMessage : String := "version must be a SemVer tag such as v0.1.0-rc.1"

/-- Whether a text is the prerelease of a version: letters, digits, dots and hyphens after a letter or digit. -/
def isPrerelease : List Char → Bool
  | [] => false
  | c :: cs => c.isAlphanum && cs.all fun d => d.isAlphanum || d = '.' || d = '-'

def validateVersion (version : String) : Except String Unit :=
  match Text.stripPrefix ['v'] version.toList with
  | none => .error versionMessage
  | some rest =>
    let (core, pre) := match Text.splitOnce '-' rest with
      | some (core, pre) => (core, some pre)
      | none => (rest, none)
    let parts := core.splitOn '.'
    if parts.length ≠ 3 ∨ parts.any fun part => part.isEmpty || !part.all Char.isDigit then .error versionMessage
    else guardError versionMessage (pre.all isPrerelease)

def validateGitSha (value field : String) : Except String Unit :=
  guardError s!"{field}: must be a lowercase git commit sha" (isLowerHex value 40)

def validateSha256 (value field : String) : Except String Unit := do
  guardError s!"{field}: must be a lowercase sha256 digest" (isLowerHex value 64)
  guardError s!"{field}: must not be the all-zero sha256 digest" !(value.toList.all (· = '0'))

/-- `parse_positive_int`: the normalized text of a positive 64-bit integer of ASCII digits. -/
def parsePositiveInt (value field : String) : Except String String := do
  let message := s!"{field}: must be a positive integer"
  guardError message (!value.toList.isEmpty && value.toList.all Char.isDigit)
  let n ← orError message (Text.parseU64 value.toList)
  guardError message (0 < n)
  .ok (toString n)

/-- `string_field`: a member that is a non-empty string. -/
def stringField (object : List (String × Value)) (field : String) : Except String String :=
  match Value.lookup field object with
  | some (.str s) => if s = "" then .error s!"$.{field}: must be a non-empty string" else .ok s
  | _ => .error s!"$.{field}: must be a non-empty string"

def requireSchema (object : List (String × Value)) (expected : String) : Except String Unit :=
  match Value.lookup "schema_version" object with
  | some (.str s) => guardError s!"$.schema_version: must be {expected}" (s = expected)
  | _ => .error s!"$.schema_version: must be {expected}"

def validateBindingObject (binding : List (String × Value)) : Except String Unit := do
  requireSchema binding releaseTagBindingSchema
  validateVersion (← stringField binding "version")
  validateGitSha (← stringField binding "source_sha") "$.source_sha"
  validateSha256 (← stringField binding "ingress_manifest_sha256") "$.ingress_manifest_sha256"
  positiveFields.forM fun field => do
    let _ ← parsePositiveInt (← stringField binding field) field

def parseAnnotation ( annotation : String) : Except String (List (String × Value)) := do
  let fields ← scanAnnotation requiredTagFields Text.trimChars id (Text.lines annotation.toList)
  .ok (("schema_version", .str releaseTagBindingSchema) :: fields.map fun p => (p.1, .str p.2))

def extendFingerprints (raw : String) : List (List Char) :=
  (((raw.toList.splitOnP fun c => Text.isWhitespace c || c = ',').map Text.trimChars).filter (· ≠ [])).map
    fun item => item.map Char.toUpper

def trustedFingerprints (raw : Option String) (file : Option (Option String)) : Except String (List (List Char)) := do
  let fromFile ← match file with
    | none => .ok []
    | some none => .error "cannot read the trusted fingerprints file"
    | some (some text) => .ok (extendFingerprints text)
  .ok ((raw.map extendFingerprints).getD [] ++ fromFile)

/-- The fingerprint that a line of the signature report names: `split(marker).nth(1)` ends at the next marker. -/
def validSig (line : List Char) : Option (List Char) :=
  let marker := "[GNUPG:] VALIDSIG ".toList
  (Text.breakOn marker line).bind fun p =>
    let rest := ((Text.breakOn marker p.2).map (·.1)).getD p.2
    ((Text.splitWhitespace rest).head?).map fun word => word.map Char.toUpper

def verifyTagSignature (input : TagInput) (trusted : List (List Char)) : Except String String := do
  let stdout := input.verifyTag.stdout.toList
  let stderr := input.verifyTag.stderr.toList
  let report := if Text.trimChars stderr = [] then Text.trimChars stdout else Text.trimChars stderr
  guardError (String.ofList report) input.verifyTag.success
  let valid := (Text.lines (stdout ++ '\n' :: stderr)).filterMap validSig
  guardError "release tag signature did not report a VALIDSIG fingerprint" !valid.isEmpty
  let signer ← orError ("release tag signer fingerprint is not trusted: " ++ String.ofList (", ".toList.intercalate valid))
    (valid.find? (· ∈ trusted))
  .ok (String.ofList signer)

/-- The binding that `tag-binding parse` makes of an annotation. The signature is checked only under a fingerprint policy. -/
def parseBinding (input : TagInput) : Except String (List (String × Value)) := do
  validateVersion input.version
  validateGitSha input.sourceSha "--source-sha"
  let annotation ← orError "cannot read the annotation" input.annotation
  let binding ← parseAnnotation annotation
  let version ← stringField binding "version"
  let sourceSha ← stringField binding "source_sha"
  guardError "Suderra-Version does not match --version" (version = input.version)
  guardError "Suderra-Source-SHA does not match --source-sha" (sourceSha = input.sourceSha)
  validateBindingObject binding
  let trusted ← trustedFingerprints input.trustedFingerprints input.trustedFingerprintsFile
  if trusted.isEmpty then .ok binding
  else
    let signer ← verifyTagSignature input trusted
    .ok (Value.setField binding ("tag_signer_fingerprint", .str signer))

/-- The text of the JSON that `tag-binding parse` writes or prints. -/
def parseTagBinding (input : TagInput) : Except String String :=
  (parseBinding input).map fun binding => String.ofList (write (pretty fun _ => []) 0 (Value.dict binding).sortKeys ++ ['\n'])

end Core

/-! ## The two outputs -/

/-- A line adds no field that the table does not name. -/
theorem scanLine_names {fields : List (String × String)} {strip : List Char → List Char} {st st' : Nat × List (String × String)}
    {line : List Char} (h : scanLine fields strip st line = .ok st')
    (hst : ∀ name ∈ st.2.map (·.1), name ∈ fields.map (·.1)) : ∀ name ∈ st'.2.map (·.1), name ∈ fields.map (·.1) := by
  unfold scanLine at h
  split at h
  · cases h
    exact hst
  · simp only at h
    split_ifs at h
    · cases h
      exact hst
    · split at h
      · cases h
        exact hst
      · next field annotationKey hfield =>
        split_ifs at h
        cases h
        intro name hname
        simp only [List.map_append, List.mem_append, List.map_cons, List.map_nil, List.mem_singleton] at hname
        rcases hname with hname | rfl
        · exact hst name hname
        · exact List.mem_map.2 ⟨_, List.mem_of_find?_eq_some hfield, rfl⟩

theorem scanLines_names {fields : List (String × String)} {strip : List Char → List Char} (lines : List (List Char))
    {st st' : Nat × List (String × String)} (h : lines.foldlM (scanLine fields strip) st = .ok st')
    (hst : ∀ name ∈ st.2.map (·.1), name ∈ fields.map (·.1)) : ∀ name ∈ st'.2.map (·.1), name ∈ fields.map (·.1) := by
  induction lines generalizing st with
  | nil =>
    cases h
    exact hst
  | cons line lines ih =>
    rw [List.foldlM_cons] at h
    obtain ⟨mid, hline, hlines⟩ := bind_ok_iff.1 h
    exact ih hlines (scanLine_names hline hst)

/-- The fields of a scanned annotation are those of the table. -/
theorem scanAnnotation_names {fields : List (String × String)} {strip : List Char → List Char} {order : List String → List String}
    {lines : List (List Char)} {values : List (String × String)} (h : scanAnnotation fields strip order lines = .ok values)
    (name : String) : name ∈ values.map (·.1) ↔ name ∈ fields.map (·.1) := by
  obtain ⟨st, hscan, h⟩ := bind_ok_iff.1 h
  obtain ⟨_, _, h⟩ := bind_ok_iff.1 h
  obtain ⟨_, hmissing, h⟩ := bind_ok_iff.1 h
  cases h
  refine ⟨scanLines_names lines hscan (by simp) name, fun hname => ?_⟩
  obtain ⟨p, hp, rfl⟩ := List.mem_map.1 hname
  have hnone := List.isEmpty_iff.1 (guardError_ok_iff.1 hmissing)
  by_contra hp'
  have : p ∈ fields.filter fun p => !st.2.any (·.1 = p.1) := by
    simp only [List.mem_filter, hp, true_and, Bool.not_eq_true', List.any_eq_false, decide_eq_true_eq]
    intro q hq heq
    exact hp' (List.mem_map.2 ⟨q, hq, heq⟩)
  rw [hnone] at this
  cases this

/-- The members of what the gate writes include the profile. -/
theorem gate_names {U : PyText.Unicode} {input : TagInput} {binding : List (String × String)}
    (h : Gate.parseBinding U input = .ok binding) : "preflight_profile" ∈ (Gate.payload binding).sortKeys.names := by
  have hfields : ∃ values signer, scanAnnotation Gate.requiredFields PyText.strip
      (fun names => names.insertionSort fun a b => Value.nameLe a b = true)
      (PyText.splitlines (PyText.universalNewlines (input.annotation.getD "").toList)) = .ok values ∧
        binding = values ++ [("tag_signer_fingerprint", signer)] := by
    obtain ⟨_, _, h⟩ := bind_ok_iff.1 h
    obtain ⟨_, _, h⟩ := bind_ok_iff.1 h
    obtain ⟨_, _, h⟩ := bind_ok_iff.1 h
    obtain ⟨_, _, h⟩ := bind_ok_iff.1 h
    obtain ⟨_, _, h⟩ := bind_ok_iff.1 h
    obtain ⟨signer, _, h⟩ := bind_ok_iff.1 h
    obtain ⟨ annotation, hannotation, h⟩ := bind_ok_iff.1 h
    obtain ⟨values, hvalues, h⟩ := bind_ok_iff.1 h
    obtain ⟨_, _, h⟩ := bind_ok_iff.1 h
    obtain ⟨_, _, h⟩ := bind_ok_iff.1 h
    obtain ⟨_, _, h⟩ := bind_ok_iff.1 h
    obtain ⟨_, _, h⟩ := bind_ok_iff.1 h
    obtain ⟨_, _, h⟩ := bind_ok_iff.1 h
    rw [orError_ok_iff.1 hannotation]
    exact ⟨values, signer, hvalues, (Except.ok.inj h).symm⟩
  obtain ⟨values, signer, hvalues, rfl⟩ := hfields
  have hprofile := (scanAnnotation_names hvalues "preflight_profile").2 (by decide)
  rw [Gate.payload, Value.mem_names_sortKeys]
  simp only [List.map_cons, List.map_append, List.map_map, List.mem_cons, List.mem_append]
  exact .inr (.inl hprofile)

/-- The members of what the shadow writes: the schema, its eight fields and the signer, all of them texts. -/
theorem core_fields {input : TagInput} {binding : List (String × Value)} (h : Core.parseBinding input = .ok binding) :
    ∀ p ∈ binding, p.2.plain = true ∧
      p.1 ∈ "schema_version" :: "tag_signer_fingerprint" :: Core.requiredTagFields.map (·.1) := by
  obtain ⟨_, _, h⟩ := bind_ok_iff.1 h
  obtain ⟨_, _, h⟩ := bind_ok_iff.1 h
  obtain ⟨ annotation, _, h⟩ := bind_ok_iff.1 h
  obtain ⟨parsed, hparsed, h⟩ := bind_ok_iff.1 h
  obtain ⟨_, _, h⟩ := bind_ok_iff.1 h
  obtain ⟨_, _, h⟩ := bind_ok_iff.1 h
  obtain ⟨_, _, h⟩ := bind_ok_iff.1 h
  obtain ⟨_, _, h⟩ := bind_ok_iff.1 h
  obtain ⟨_, _, h⟩ := bind_ok_iff.1 h
  obtain ⟨trusted, _, h⟩ := bind_ok_iff.1 h
  obtain ⟨values, hvalues, hparsed⟩ := bind_ok_iff.1 hparsed
  have hbase : ∀ p ∈ parsed, p.2.plain = true ∧
      p.1 ∈ "schema_version" :: "tag_signer_fingerprint" :: Core.requiredTagFields.map (·.1) := by
    cases hparsed
    intro p hp
    rcases List.mem_cons.1 hp with rfl | hp
    · exact ⟨rfl, by simp⟩
    · obtain ⟨q, hq, rfl⟩ := List.mem_map.1 hp
      have hname := (scanAnnotation_names hvalues q.1).1 (List.mem_map_of_mem hq)
      exact ⟨rfl, by simp only [List.mem_cons, hname, or_true]⟩
  split_ifs at h
  · cases h
    exact hbase
  · obtain ⟨signer, _, h⟩ := bind_ok_iff.1 h
    cases h
    intro p hp
    rcases Value.mem_setField hp with rfl | hp
    · exact ⟨rfl, by simp⟩
    · exact hbase p hp

theorem read_output {st : Style} (hst : st.Lawful) {fields : List (String × Value)} (h : ∀ p ∈ fields, p.2.plain = true) :
    read (String.ofList (write st 0 (Value.dict fields).sortKeys ++ ['\n'])).toList = some (Value.dict fields).sortKeys := by
  rw [String.toList_ofList]
  refine read_append hst (Value.plain_sortKeys ?_) (by simp [isSpace])
  rw [Value.plain, Value.plainFields_iff]
  exact h

theorem payload_plain (binding : List (String × String)) :
    ∀ p ∈ ("schema_version", Value.str releaseTagBindingSchema) :: binding.map fun p => (p.1, Value.str p.2),
      p.2.plain = true := by
  intro p hp
  rcases List.mem_cons.1 hp with rfl | hp
  · rfl
  · obtain ⟨q, _, rfl⟩ := List.mem_map.1 hp
    rfl

/-! ## One annotation

An annotation with every field that the shadow requires, on a tag whose signer is trusted.
-/

def sampleFingerprint : String := "0123456789ABCDEF0123456789ABCDEF01234567"

def sampleText : List Char :=
  ["Suderra OS v1.2.0", "", "Suderra-Release-Binding: v1", "Suderra-Version: v1.2.0",
    "Suderra-Source-SHA: 0123456789abcdef0123456789abcdef01234567", "Suderra-Source-Build-Run-ID: 11",
    "Suderra-Source-Build-Run-Attempt: 1", "Suderra-Preflight-Run-ID: 12", "Suderra-Preflight-Run-Attempt: 1",
    "Suderra-Preflight-Artifact-ID: 13",
    "Suderra-Ingress-Manifest-SHA256: 60f9c569bed02a8072d1ba18262492462d7266be67bcddf9b5ea5a32ae025d5a"].flatMap
      fun line => line.toList ++ ['\n']

def sampleAnnotation : String := String.ofList sampleText

theorem sampleAnnotation_toList : sampleAnnotation.toList = sampleText := String.toList_ofList

def sampleTag : TagInput where
  version := "v1.2.0"
  sourceSha := "0123456789abcdef0123456789abcdef01234567"
  annotation := some sampleAnnotation
  trustedFingerprints := some sampleFingerprint
  trustedFingerprintsFile := none
  objectType := ⟨true, "tag\n", ""⟩
  tagObject := ⟨true, "gpgsig -----BEGIN PGP SIGNATURE-----\n", ""⟩
  verifyTag := ⟨true, "", "[GNUPG:] VALIDSIG 0123456789ABCDEF0123456789ABCDEF01234567 2026-01-01\n"⟩

/-- The letters of ASCII, which are all that the sample's fingerprints hold. -/
def asciiUnicode : PyText.Unicode where
  decimal := fun _ => none
  upper := fun cs => cs.map Char.toUpper
/-- The fields of the sample. -/
def sampleFields : List (String × String) :=
  [("version", "v1.2.0"), ("source_sha", "0123456789abcdef0123456789abcdef01234567"), ("source_build_run_id", "11"),
    ("source_build_run_attempt", "1"), ("preflight_run_id", "12"), ("preflight_run_attempt", "1"),
    ("preflight_artifact_id", "13"),
    ("ingress_manifest_sha256", "60f9c569bed02a8072d1ba18262492462d7266be67bcddf9b5ea5a32ae025d5a")]

/-- What the shadow and the gate make of the lines of the annotation. -/
theorem annotation_sample :
    scanAnnotation Core.requiredTagFields Text.trimChars id (Text.lines sampleAnnotation.toList) = .ok sampleFields ∧
      Gate.parseAnnotation sampleAnnotation =
        .error "annotated release tag is missing binding fields: Suderra-Preflight-Profile" := by
  rw [Gate.parseAnnotation, sampleAnnotation_toList]
  decide +kernel

/-- What the shadow makes of the annotation. -/
def sampleBinding : List (String × Value) :=
  ("schema_version", .str releaseTagBindingSchema) :: sampleFields.map fun p => (p.1, .str p.2)

theorem core_parseAnnotation_sample : Core.parseAnnotation sampleAnnotation = .ok sampleBinding := by
  rw [Core.parseAnnotation, annotation_sample.1]
  rfl

/-- The shadow's run under a fingerprint policy, step by step. -/
theorem core_parseBinding_eq {input : TagInput} { annotation signer : String} {binding : List (String × Value)}
    {fingerprint : List Char} {fingerprints : List (List Char)} (hversion : Core.validateVersion input.version = .ok ())
    (hsha : Core.validateGitSha input.sourceSha "--source-sha" = .ok ()) ( hannotation : input.annotation = some annotation)
    (hparse : Core.parseAnnotation annotation = .ok binding) (hfield : Core.stringField binding "version" = .ok input.version)
    (hfield' : Core.stringField binding "source_sha" = .ok input.sourceSha) (hobject : Core.validateBindingObject binding = .ok ())
    (htrusted : Core.trustedFingerprints input.trustedFingerprints input.trustedFingerprintsFile =
      .ok (fingerprint :: fingerprints))
    (hsigner : Core.verifyTagSignature input (fingerprint :: fingerprints) = .ok signer) :
    Core.parseBinding input = .ok (Value.setField binding ("tag_signer_fingerprint", .str signer)) := by
  simp [Core.parseBinding, hversion, hsha, hannotation, hparse, hfield, hfield', hobject, htrusted, hsigner, guardError, bind,
    Except.bind]

theorem core_parseBinding_sample : Core.parseBinding sampleTag =
    .ok (Value.setField sampleBinding ("tag_signer_fingerprint", .str sampleFingerprint)) :=
  core_parseBinding_eq (by decide +kernel) (by decide +kernel) rfl core_parseAnnotation_sample (by decide +kernel)
    (by decide +kernel) (by decide +kernel)
    (show Core.trustedFingerprints (some sampleFingerprint) none = .ok [sampleFingerprint.toList] by decide +kernel)
    (by decide +kernel)

/-- The gate's run up to an annotation that it refuses. -/
theorem gate_parseBinding_error {U : PyText.Unicode} {input : TagInput} { annotation signer tagObject e : String}
    {fromFile : List (List Char)} (htype : Gate.git s!"cat-file -t refs/tags/{input.version}" input.objectType = .ok "tag")
    (hobject : Gate.git s!"cat-file tag refs/tags/{input.version}" input.tagObject = .ok tagObject)
    (hgpgsig : (Text.contains "\ngpgsig ".toList tagObject.toList || "gpgsig ".toList.isPrefixOf tagObject.toList) = true)
    (hfile : Gate.fileFingerprints U input.trustedFingerprintsFile = .ok fromFile)
    (hsigner : Gate.verifyTagSignature U input (Gate.normalizeFingerprints U input.trustedFingerprints ++ fromFile) = .ok signer)
    ( hannotation : input.annotation = some annotation) (hparse : Gate.parseAnnotation annotation = .error e) :
    Gate.parseBinding U input = .error e := by
  simp only [Gate.parseBinding, htype, hobject, hgpgsig, hfile, hsigner, hannotation, hparse, guardError, bind, Except.bind,
    orError_some, decide_true, if_true]

theorem gate_parseBinding_sample : Gate.parseBinding asciiUnicode sampleTag =
    .error "annotated release tag is missing binding fields: Suderra-Preflight-Profile" := by
  have htype : Gate.git s!"cat-file -t refs/tags/{sampleTag.version}" sampleTag.objectType = .ok "tag" := by decide +kernel
  have hobject : Gate.git s!"cat-file tag refs/tags/{sampleTag.version}" sampleTag.tagObject =
      .ok "gpgsig -----BEGIN PGP SIGNATURE-----" := by decide +kernel
  have hsigner : Gate.verifyTagSignature asciiUnicode sampleTag
      (Gate.normalizeFingerprints asciiUnicode sampleTag.trustedFingerprints ++ []) = .ok sampleFingerprint := by decide +kernel
  exact gate_parseBinding_error htype hobject (by decide +kernel) rfl hsigner rfl annotation_sample.2

theorem core_parseTagBinding_eq {input : TagInput} {binding : List (String × Value)} (h : Core.parseBinding input = .ok binding) :
    Core.parseTagBinding input =
      .ok (String.ofList (write (pretty fun _ => []) 0 (Value.dict binding).sortKeys ++ ['\n'])) := by
  rw [Core.parseTagBinding, h]
  rfl

theorem gate_parseCommand_error {U : PyText.Unicode} {input : TagInput} {e : String}
    (h : Gate.parseBinding U input = .error e) : Gate.parseCommand U input = .error e := by
  rw [Gate.parseCommand, h]
  rfl

/-! ## The migration contract -/

/-- Whatever the shadow accepts, the gate does not write the same text: it refuses, or its text has a member that the shadow's
never has. -/
theorem gate_never_writes_shadow (U : PyText.Unicode) {input : TagInput} {text : String}
    (h : Core.parseTagBinding input = .ok text) : Gate.parseCommand U input ≠ .ok text := by
  intro hgate
  cases hcore : Core.parseBinding input with
  | error e => simp [Core.parseTagBinding, hcore, Except.map] at h
  | ok shadow =>
    cases hbinding : Gate.parseBinding U input with
    | error e => simp [Gate.parseCommand, hbinding, Except.map] at hgate
    | ok binding =>
      have hshadow := core_fields hcore
      have hprofile := gate_names hbinding
      simp only [Core.parseTagBinding, hcore, Except.map, Except.ok.injEq] at h
      simp only [Gate.parseCommand, hbinding, Except.map, Except.ok.injEq] at hgate
      have hread := read_output (pretty_lawful fun _ => []) (fun p hp => (hshadow p hp).1)
      rw [h, ← hgate, Gate.payload, read_output (indented_lawful fun _ => []) (payload_plain binding), Option.some.injEq] at hread
      rw [Gate.payload, hread, Value.mem_names_sortKeys] at hprofile
      obtain ⟨p, hp, hname⟩ := List.mem_map.1 hprofile
      have hmem := (hshadow p hp).2
      rw [hname] at hmem
      exact absurd hmem (by decide)

theorem gate_never_writes_sample :
    ∃ text, Core.parseTagBinding sampleTag = .ok text ∧ Gate.parseCommand asciiUnicode sampleTag ≠ .ok text :=
  have hcore := core_parseTagBinding_eq core_parseBinding_sample
  ⟨_, hcore, gate_never_writes_shadow asciiUnicode hcore⟩

/-- The shadow accepts the sample; the gate misses the profile. -/
theorem shadow_accepts_without_profile :
    (∃ text, Core.parseTagBinding sampleTag = .ok text) ∧ Gate.parseCommand asciiUnicode sampleTag =
      .error "annotated release tag is missing binding fields: Suderra-Preflight-Profile" :=
  ⟨⟨_, core_parseTagBinding_eq core_parseBinding_sample⟩, gate_parseCommand_error gate_parseBinding_sample⟩

end SuderraOs.Release
