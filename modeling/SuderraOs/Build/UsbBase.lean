import SuderraOs.Build.PayloadInputs
import SuderraOs.Install.UsbPackage

/-!
# The base of the USB installer

`usb-installer-base-manifest.py`: the manifest of the boot and the root file system that every USB installer is made from. The manifest
is sealed with the digest of all its other members, the identity of the base.
-/

namespace SuderraOs.Build.UsbBase

open Value Evidence Install

def schemaVersion : String := "suderra.usb-installer-base.v1"

/-- The roles of the files and their names: `expected_roles`. -/
def expectedRoles : List (String × String) := [("boot-vfat", "boot.vfat"), ("rootfs-ext4", "rootfs.ext4")]

/-- The arguments of `create`, and the time. -/
structure CreateArgs where
  defconfig : String
  target : String
  sourceSha : String
  workflowName : String
  workflowPath : String
  workflowRef : String
  runId : String
  runAttempt : String
  matrixPath : PosixPath
  builderImage : String
  sourceDateEpoch : String
  sourceIdentity : PosixPath
  genimageCfg : PosixPath
  publicKey : PosixPath
  buildEvidence : PosixPath
  baseDir : PosixPath
  digestOutput : Bool
  now : String

/-- The arguments of `validate`. -/
structure ValidateArgs where
  manifest : PosixPath
  baseDir : Option PosixPath
  publicKey : Option PosixPath
  sourceIdentity : Option PosixPath
  expectSourceSha : Option String
  workflowPath : Option String

/-- The digests of the files that a manifest names by a path. -/
structure Digests where
  matrix : String
  sourceIdentity : String
  genimage : String
  publicKey : String
  buildEvidence : String

section

variable (T : Tools)

/-- `sha256_file`: it raises where there is no file. -/
def sha256File (files : Files) (path : PosixPath) : Except String String := do
  let bytes ← orError "FileNotFoundError" (files path)
  .ok (T.hexdigest bytes)

/-- The record of a file. -/
def recordOf (role name : String) (bytes : Bytes) : Fields :=
  [("role", .str role), ("path", .str name), ("bytes", .int bytes.length), ("sha256", .str (T.hexdigest bytes))]

/-- `file_record`. -/
def fileRecord (files : Files) (path : PosixPath) (role : String) : Except String Fields := do
  let bytes ← orError s!"required {role} file missing or empty: {path}" ((files path).filter (!·.isEmpty))
  .ok (recordOf T role path.name bytes)

/-- The digest of a document. -/
def digest (v : Value) : String := T.hexdigest (CanonicalJson.bytes T.float v)

/-- `canonical_payload`. -/
def canonicalPayload (payload : Fields) : Bytes := CanonicalJson.bytes T.float (.dict (CanonicalJson.without "identity_digest" payload))

/-- `identity_digest`. -/
def identityDigest (payload : Fields) : String := T.hexdigest (canonicalPayload T payload)

def named (path digest : String) : Value := .dict [("path", .str path), ("sha256", .str digest)]

/-- The manifest without its identity. -/
def manifestFields (A : CreateArgs) (D : Digests) (records : List Fields) : Fields :=
  [("schema_version", .str schemaVersion), ("defconfig", .str A.defconfig), ("target", .str A.target), ("source_sha", .str A.sourceSha),
    ("workflow", .dict [("name", .str A.workflowName), ("path", .str A.workflowPath), ("ref", .str A.workflowRef), ("run_id", .str A.runId),
      ("run_attempt", .str A.runAttempt)]),
    ("matrix", named s!"{A.matrixPath}" D.matrix), ("builder", .dict [("image", .str A.builderImage)]),
    ("source_date_epoch", .str A.sourceDateEpoch), ("buildroot_source_identity", named A.sourceIdentity.name D.sourceIdentity),
    ("genimage_base", named s!"{A.genimageCfg}" D.genimage), ("installer_payload_public_key", named A.publicKey.name D.publicKey),
    ("build_evidence", named A.buildEvidence.name D.buildEvidence), ("files", .list (records.map .dict)), ("generated_at", .str A.now)]

/-- `create`: the manifest that is written, and the line for the file of its identity. -/
def create (A : CreateArgs) (files : Files) : Except String (Fields × Option String) := do
  guardError "--source-sha must be a lowercase 40-character git SHA" (isHex 40 A.sourceSha)
  let sourceIdentity ← sha256File T files A.sourceIdentity
  let matrix ← sha256File T files A.matrixPath
  let genimage ← sha256File T files A.genimageCfg
  let publicKey ← sha256File T files A.publicKey
  let buildEvidence ← sha256File T files A.buildEvidence
  let boot ← fileRecord T files (A.baseDir.child "boot.vfat") "boot-vfat"
  let rootfs ← fileRecord T files (A.baseDir.child "rootfs.ext4") "rootfs-ext4"
  let fields := manifestFields A ⟨matrix, sourceIdentity, genimage, publicKey, buildEvidence⟩ [boot, rootfs]
  .ok (CanonicalJson.sealWith (digest T) "identity_digest" fields,
    if A.digestOutput then some (identityDigest T fields ++ "\n") else none)

/-- `key`: what is printed. -/
def key (files : Files) (publicKey : PosixPath) : Except String String := sha256File T files publicKey

/-- An option that is given and not empty. -/
def given (option : Option String) : Option String := option.filter (· ≠ "")

def identityFailures (payload : Fields) : List String :=
  match field "identity_digest" payload with
  | .str digest =>
    if isHex 64 digest then failUnless "identity_digest does not match canonical manifest" (identityDigest T payload = digest)
    else ["identity_digest must be a sha256"]
  | _ => ["identity_digest must be a sha256"]

def headFailures (V : ValidateArgs) (payload : Fields) : List String :=
  failUnless s!"schema_version must be {schemaVersion}" ((field "schema_version" payload).pyEq (.str schemaVersion)) ++
    identityFailures T payload ++
    failUnless "source_sha must be a lowercase git SHA" ((field "source_sha" payload).asStr.any (isHex 40)) ++
    failUnless "source_sha does not match expected source" ((given V.expectSourceSha).all fun s => (field "source_sha" payload).pyEq (.str s))

/-- A text of digits whose number is positive; `int` raises where a digit is no decimal. -/
def isPositiveText : Value → Except String Bool
  | .str s => if T.isDigits s then (orError "ValueError" (PyText.parseInt T.unicode s.toList)).map (0 < ·) else .ok false
  | _ => .ok false

def workflowFailures (V : ValidateArgs) (payload : Fields) : Except String (List String) :=
  match field "workflow" payload with
  | .dict workflow => do
    let numbers ← ["run_id", "run_attempt"].mapM fun name => do
      let positive ← isPositiveText T (field name workflow)
      .ok (failUnless s!"workflow.{name} must be a positive integer string" positive)
    .ok (failUnless "workflow.path does not match expected workflow"
      ((given V.workflowPath).all fun p => (field "path" workflow).pyEq (.str p)) ++ numbers.flatten)
  | _ => .ok ["workflow must be an object"]

/-- The failures of a file of the base directory. -/
def candidateFailures (files : Files) (item : Fields) (candidate : PosixPath) : List String :=
  match files candidate with
  | none => [s!"base file missing: {candidate}"]
  | some bytes =>
    failUnless s!"base file size mismatch: {candidate}" ((Value.int bytes.length).pyEq (field "bytes" item)) ++
      failUnless s!"base file sha mismatch: {candidate}" ((field "sha256" item).asStr.all (T.hexdigest bytes = ·))

def roleFailures (V : ValidateArgs) (files : Files) (items : List Value) (role name : String) : List String :=
  match Usb.lastWith "role" role items with
  | none => [s!"files missing {role}"]
  | some item =>
    failUnless s!"{role}.path must be {name}" ((field "path" item).pyEq (.str name)) ++
      failUnless s!"{role}.sha256 must be a sha256" ((field "sha256" item).asStr.any (isHex 64)) ++
      failUnless s!"{role}.bytes must be positive" ((field "bytes" item).asInt.any (0 < ·)) ++
      V.baseDir.toList.flatMap fun dir => candidateFailures T files item (dir.child name)

/-- The failures of the files; an object whose role is a list or an object raises. -/
def filesFailures (V : ValidateArgs) (files : Files) (payload : Fields) : Except String (List String) :=
  match field "files" payload with
  | .list items => do
    guardError "TypeError" ((items.filterMap asDict).all fun item => (field "role" item).isHashable)
    .ok (expectedRoles.flatMap fun p => roleFailures T V files items p.1 p.2)
  | _ => .ok ["files must be a list"]

def keyFailures (V : ValidateArgs) (files : Files) (payload : Fields) : Except String (List String) :=
  match field "sha256" ((field "installer_payload_public_key" payload).asDict.getD []) with
  | .str digest =>
    match V.publicKey with
    | none => .ok []
    | some path => do
      let actual ← sha256File T files path
      .ok (failUnless "installer payload public key does not match base manifest" (actual = digest))
  | _ => .ok ["installer_payload_public_key.sha256 is required"]

def sourceIdentityFailures (V : ValidateArgs) (files : Files) (payload : Fields) : Except String (List String) :=
  match V.sourceIdentity, field "buildroot_source_identity" payload with
  | none, _ => .ok []
  | some path, .dict identity => do
    let actual ← sha256File T files path
    .ok (failUnless "Buildroot source identity does not match base manifest" ((Value.str actual).pyEq (field "sha256" identity)))
  | some _, _ => .ok ["Buildroot source identity does not match base manifest"]

/-- `validate_payload`. -/
def validatePayload (V : ValidateArgs) (files : Files) (payload : Fields) : Except String (List String) := do
  let workflow ← workflowFailures T V payload
  let items ← filesFailures T V files payload
  let key ← keyFailures T V files payload
  let identity ← sourceIdentityFailures T V files payload
  .ok (headFailures T V payload ++ workflow ++ items ++ key ++ identity)

/-- `validate`: what is printed. -/
def validate (V : ValidateArgs) (files : Files) : Except String String := do
  let document ← readJson T.toPython files V.manifest
  let payload ← orError s!"invalid base manifest JSON: {T.message V.manifest}" document
  let payload ← orError "base manifest must be a JSON object" payload.asDict
  let failures ← validatePayload T V files payload
  guardError ("\n".intercalate failures) failures.isEmpty
  .ok ((field "identity_digest" payload).pyStr T.repr)

end

end SuderraOs.Build.UsbBase
