import SuderraOs.Install.EdgeVersion
import SuderraOs.Lib.Hex
import SuderraOs.Lib.JsonAscii
import SuderraOs.Lib.PosixPath
import SuderraOs.Lib.PyValue
import SuderraOs.Lib.ValueOrder
import SuderraOs.Ota.ManifestTool

/-!
# The payload of the USB installer

`package-usb-installer-payload.py` signs Python's text of an index, and `suderra-installer` verifies the signature over the text that it
makes itself of the index it has read from `manifest.json`. The two texts are the same, and the payload is accepted for both boards,
exactly when the index fits into what the installer reads (`package_agrees_iff`).
-/

namespace SuderraOs.Install.Usb

open Text JsonText

abbrev Bytes := List UInt8

abbrev Fields := List (String × Value)

/-- `chrono`'s times: what it reads from a text, the text that it writes, and whether a time is before another one. -/
structure Chrono where
  Time : Type
  parse : String → Option Time
  format : Time → String
  before : Time → Time → Bool

/-! ## The packager -/

/-- What the packager asks of Python and of the programs it runs. -/
structure Python where
  sha256 : Bytes → Bytes
  /-- All that `lzma.open` reads. -/
  lzma : Bytes → Option Bytes
  loads : Bytes → Option Value
  fromIsoformat : String → Bool
  /-- `timestamp_from_epoch`; nothing when it raises. -/
  timestamp : Option String → Option String
  /-- `openssl pkeyutl -sign -rawin` with the contents of a key file. -/
  sign : Bytes → Bytes → Option Bytes
  /-- `openssl pkeyutl -verify -rawin -pubin` with the contents of a key file. -/
  verify : Bytes → Bytes → Bytes → Bool
  repr : Double → List Char

/-- The arguments, a path by the contents of the regular file it names; and whether `genimage` and `xz` make their images. -/
structure Args where
  baseBoot : Option Bytes
  baseRootfs : Option Bytes
  baseManifest : Option Bytes
  payloadInputsManifest : Option Bytes
  genimageCfg : Option Bytes
  rpi4Image : Option Bytes
  revpi4Image : Option Bytes
  signKey : Option Bytes
  publicKey : Option Bytes
  expiresAt : String
  keyEpoch : Int
  sourceDateEpoch : Option String
  rollbackFloor : String
  imagesMade : Bool

/-- The directory of the payload, and the bytes that were signed. -/
structure Package where
  rpi4Image : Bytes
  revpi4Image : Bytes
  manifestJson : Bytes
  manifestSig : Bytes
  signed : Bytes

section Packager

variable (P : Python)

def hexdigest (sha256 : Bytes → Bytes) (bytes : Bytes) : String := String.ofList (Hex.encode (sha256 bytes))

/-- `validate_iso8601_z` passes. -/
def validateIso8601Z (value : String) : Bool :=
  match value.toList.getLast? with
  | some 'Z' => P.fromIsoformat (String.ofList value.toList.dropLast ++ "+00:00")
  | _ => false

/-- The last object of a list whose field has this value. -/
def lastWith (name key : String) (items : List Value) : Option Fields :=
  (items.filterMap Value.asDict).reverse.find? fun fields => (Value.field name fields).pyEq (.str key)

/-- The record of a file has its size and its digest. -/
def recordsFile (record : Fields) (bytes : Bytes) : Bool :=
  (Value.field "bytes" record).pyEq (.int bytes.length) && (Value.field "sha256" record).pyEq (.str (hexdigest P.sha256 bytes))

/-- A document of a schema. -/
def loadSchema (schema : String) (file : Option Bytes) : Option Fields := do
  let fields ← (← P.loads (← file)).asDict
  guard ((Value.field "schema_version" fields).pyEq (.str schema) = true)
  some fields

def nonEmpty (file : Option Bytes) : Option Bytes := file.filter (· ≠ [])

/-- `load_base_manifest`; nothing when it raises. -/
def loadBaseManifest (A : Args) (publicKey : Bytes) : Option Unit := do
  let payload ← loadSchema P "suderra.usb-installer-base.v1" A.baseManifest
  let files ← (Value.field "files" payload).asList
  guard ((files.filterMap Value.asDict).all (fun item => (Value.field "role" item).isHashable) = true)
  let boot ← lastWith "role" "boot-vfat" files
  guard (recordsFile P boot (← nonEmpty A.baseBoot) = true)
  let rootfs ← lastWith "role" "rootfs-ext4" files
  guard (recordsFile P rootfs (← nonEmpty A.baseRootfs) = true)
  let key ← (Value.field "installer_payload_public_key" payload).asDict
  guard ((Value.field "sha256" key).pyEq (.str (hexdigest P.sha256 publicKey)) = true)

/-- `load_payload_inputs_manifest`; nothing when it raises. -/
def loadPayloadInputsManifest (A : Args) (rpi4Image revpi4Image : Bytes) : Option Unit := do
  let payload ← loadSchema P "suderra.payload-inputs.v1" A.payloadInputsManifest
  let inputs ← (Value.field "inputs" payload).asList
  guard (inputs ≠ [])
  let rpi4 ← lastWith "artifact" "suderra-rpi4-target.img.xz" inputs
  guard (recordsFile P rpi4 rpi4Image = true)
  let revpi4 ← lastWith "artifact" "suderra-revpi4-target.img.xz" inputs
  guard (recordsFile P revpi4 revpi4Image = true)

/-- `payload_entry`, with what `xz_uncompressed_identity` has read. -/
def payloadEntry (name imagePath : String) (source raw : Bytes) (rollbackFloor : String) : Value :=
  .dict [("name", .str name), ("board_family", .str name), ("compatible_models", .list [.str name]), ("arch", .str "aarch64"),
    ("image_path", .str imagePath), ("compressed_sha256", .str (hexdigest P.sha256 source)),
    ("compressed_size_bytes", .int source.length), ("uncompressed_sha256", .str (hexdigest P.sha256 raw)),
    ("uncompressed_size_bytes", .int raw.length), ("min_storage_bytes", .int 8589934592), ("rollback_floor", .str rollbackFloor)]

def rpi4ImageName : String := "suderra-rpi4-target.img.xz"

def revpi4ImageName : String := "suderra-revpi4-target.img.xz"

/-- The index, its members in the order of the source. -/
def manifest (A : Args) (rpi4 rpi4Raw revpi4 revpi4Raw : Bytes) (createdAt : String) : Value :=
  .dict [("schema_version", .int 1), ("kind", .str "suderra.usb-payload-index.v1"), ("board_family", .str "pi-cm4-revpi"),
    ("compatible_models", .list [.str "rpi4-cm4", .str "revpi4"]),
    ("payloads", .list [payloadEntry P "rpi4-cm4" rpi4ImageName rpi4 rpi4Raw A.rollbackFloor,
      payloadEntry P "revpi4" revpi4ImageName revpi4 revpi4Raw A.rollbackFloor]),
    ("created_at", .str createdAt), ("expires_at", .str A.expiresAt), ("key_epoch", .int A.keyEpoch)]

/-- `json.dumps(manifest, indent=2, sort_keys=True) + "\n"`. -/
def manifestText (index : Value) : Bytes := Utf8.encode (String.ofList (write (indented P.repr) 0 index.sortKeys ++ ['\n']))

/-- `json.dumps(manifest, sort_keys=True, separators=(",", ":"))`. -/
def signedText (index : Value) : Bytes := Utf8.encode (String.ofList (write (compactAscii P.repr) 0 index.sortKeys))

/-- `assemble`; nothing when it raises. -/
def assemble (A : Args) : Option Package := do
  guard (0 < A.keyEpoch)
  guard (validateIso8601Z P A.expiresAt = true)
  let _ ← nonEmpty A.baseBoot
  let _ ← nonEmpty A.baseRootfs
  let rpi4 ← nonEmpty A.rpi4Image
  let revpi4 ← nonEmpty A.revpi4Image
  let signKey ← nonEmpty A.signKey
  let publicKey ← nonEmpty A.publicKey
  guard (A.genimageCfg.isSome = true)
  loadBaseManifest P A publicKey
  loadPayloadInputsManifest P A rpi4 revpi4
  let rpi4Raw ← P.lzma rpi4
  let revpi4Raw ← P.lzma revpi4
  let createdAt ← P.timestamp A.sourceDateEpoch
  let index := manifest P A rpi4 rpi4Raw revpi4 revpi4Raw createdAt
  let signature ← P.sign signKey (signedText P index)
  guard (P.verify publicKey (signedText P index) signature = true)
  guard (A.imagesMade = true)
  some ⟨rpi4, revpi4, manifestText P index, signature, signedText P index⟩

end Packager

/-- The directory of the payload. -/
def Package.files (package : Package) (name : String) : Option Bytes :=
  if name = rpi4ImageName then some package.rpi4Image
  else if name = revpi4ImageName then some package.revpi4Image
  else if name = "manifest.json" then some package.manifestJson
  else if name = "manifest.sig" then some package.manifestSig
  else none

/-! ## The installer -/

/-- What the installer asks of other packages and of `xz -dc`. -/
structure Crates where
  sha256 : Bytes → Bytes
  xz : Bytes → Option Bytes
  base64 : List Char → Option Bytes
  validKey : Bytes → Bool
  verify : (key message signature : Bytes) → Bool
  chrono : Chrono

structure UsbImagePayload where
  name : String
  boardFamily : String
  compatibleModels : List String
  arch : String
  imagePath : String
  compressedSha256 : String
  compressedSizeBytes : Nat
  uncompressedSha256 : String
  uncompressedSizeBytes : Nat
  minStorageBytes : Nat
  rollbackFloor : Option String

structure UsbPayloadIndex (C : Chrono) where
  schemaVersion : Nat
  kind : String
  boardFamily : String
  compatibleModels : List String
  payloads : List UsbImagePayload
  createdAt : C.Time
  expiresAt : C.Time
  keyEpoch : Nat

section Reading

open Ota

def u32Field (v : Option Value) : Option Nat := (u64Field v).filter (· < UInt32.size)

def textsField (v : Option Value) : Option (List String) := (v.bind Value.asList).bind fun items => items.mapM Value.asStr

def UsbImagePayload.names : List String :=
  ["name", "board_family", "compatible_models", "arch", "image_path", "compressed_sha256", "compressed_size_bytes",
    "uncompressed_sha256", "uncompressed_size_bytes", "min_storage_bytes", "rollback_floor"]

def UsbImagePayload.ofValue (v : Value) : Option UsbImagePayload := do
  let fields ← structFields UsbImagePayload.names id v
  let name ← textField (Value.lookup "name" fields)
  let boardFamily ← textField (Value.lookup "board_family" fields)
  let compatibleModels ← textsField (Value.lookup "compatible_models" fields)
  let arch ← textField (Value.lookup "arch" fields)
  let imagePath ← textField (Value.lookup "image_path" fields)
  let compressedSha256 ← textField (Value.lookup "compressed_sha256" fields)
  let compressedSizeBytes ← u64Field (Value.lookup "compressed_size_bytes" fields)
  let uncompressedSha256 ← textField (Value.lookup "uncompressed_sha256" fields)
  let uncompressedSizeBytes ← u64Field (Value.lookup "uncompressed_size_bytes" fields)
  let minStorageBytes ← u64Field (Value.lookup "min_storage_bytes" fields)
  let rollbackFloor ← optionalField (fun v => textField (some v)) (Value.lookup "rollback_floor" fields)
  some ⟨name, boardFamily, compatibleModels, arch, imagePath, compressedSha256, compressedSizeBytes, uncompressedSha256,
    uncompressedSizeBytes, minStorageBytes, rollbackFloor⟩

def UsbPayloadIndex.names : List String :=
  ["schema_version", "kind", "board_family", "compatible_models", "payloads", "created_at", "expires_at", "key_epoch"]

def UsbPayloadIndex.ofValue (C : Chrono) (v : Value) : Option (UsbPayloadIndex C) := do
  let fields ← structFields UsbPayloadIndex.names id v
  let schemaVersion ← u32Field (Value.lookup "schema_version" fields)
  let kind ← textField (Value.lookup "kind" fields)
  let boardFamily ← textField (Value.lookup "board_family" fields)
  let compatibleModels ← textsField (Value.lookup "compatible_models" fields)
  let payloads ← ((Value.lookup "payloads" fields).bind Value.asList).bind fun items => items.mapM UsbImagePayload.ofValue
  let createdAt ← (textField (Value.lookup "created_at" fields)).bind C.parse
  let expiresAt ← (textField (Value.lookup "expires_at" fields)).bind C.parse
  let keyEpoch ← u32Field (Value.lookup "key_epoch" fields)
  some ⟨schemaVersion, kind, boardFamily, compatibleModels, payloads, createdAt, expiresAt, keyEpoch⟩

/-- `serde_json::from_slice`. -/
def parseIndex (C : Chrono) (bytes : Bytes) : Option (UsbPayloadIndex C) :=
  (Utf8.decode bytes).bind fun text => (JsonText.read text.toList).bind (UsbPayloadIndex.ofValue C)

end Reading

def UsbImagePayload.toValue (payload : UsbImagePayload) : Value :=
  .dict [("name", .str payload.name), ("board_family", .str payload.boardFamily),
    ("compatible_models", .list (payload.compatibleModels.map .str)), ("arch", .str payload.arch), ("image_path", .str payload.imagePath),
    ("compressed_sha256", .str payload.compressedSha256), ("compressed_size_bytes", .int payload.compressedSizeBytes),
    ("uncompressed_sha256", .str payload.uncompressedSha256), ("uncompressed_size_bytes", .int payload.uncompressedSizeBytes),
    ("min_storage_bytes", .int payload.minStorageBytes), ("rollback_floor", (payload.rollbackFloor.map Value.str).getD .null)]

/-- `serde_json::to_value`. -/
def UsbPayloadIndex.toValue {C : Chrono} (index : UsbPayloadIndex C) : Value :=
  .dict [("schema_version", .int index.schemaVersion), ("kind", .str index.kind), ("board_family", .str index.boardFamily),
    ("compatible_models", .list (index.compatibleModels.map .str)), ("payloads", .list (index.payloads.map UsbImagePayload.toValue)),
    ("created_at", .str (C.format index.createdAt)), ("expires_at", .str (C.format index.expiresAt)), ("key_epoch", .int index.keyEpoch)]

/-- `canonical_json_bytes`; the index has no double. -/
def canonicalJsonBytes {C : Chrono} (index : UsbPayloadIndex C) : Bytes :=
  Utf8.encode (String.ofList (write (compact fun _ => []) 0 index.toValue.sortKeys))

section Verifier

variable (V : Crates)

def ed25519SpkiPrefix : Bytes := [0x30, 0x2a, 0x30, 0x05, 0x06, 0x03, 0x2b, 0x65, 0x70, 0x03, 0x21, 0x00]

/-- `parse_ed25519_public_key_pem`. -/
def parsePublicKeyPem (bytes : Bytes) : Except String Bytes := do
  let text ← orError "public key PEM is not UTF-8" (Utf8.decode bytes)
  let lines := (Text.lines text.toList).filter fun line => !"-----".toList.isPrefixOf line
  let der ← orError "public key PEM base64 decode failed" (V.base64 (lines.map trimChars).flatten)
  guardError "public key PEM is not an Ed25519 SubjectPublicKeyInfo"
    (der.length = ed25519SpkiPrefix.length + 32 && ed25519SpkiPrefix.isPrefixOf der)
  .ok (der.drop ed25519SpkiPrefix.length)

/-- `decode_hex_array` of a text without the white space around it. -/
def decodeHexArray (n : Nat) (text : String) (label : String) : Except String Bytes := do
  let decoded ← orError s!"{label} is not valid hex" (Hex.decode (Utf8.encode (trim text)))
  guardError s!"{label} must decode to {n} bytes" (decoded.length = n)
  .ok decoded

/-- The key of a file: in PEM or as hexadecimal digits. -/
def publicKeyBytes (bytes : Bytes) : Except String Bytes :=
  if (Utf8.encode "-----BEGIN PUBLIC KEY-----").isPrefixOf bytes then parsePublicKeyPem V bytes
  else (orError "invalid utf-8 sequence" (Utf8.decode bytes)).bind fun text => decodeHexArray 32 text "public key"

def readPublicKey (file : Option Bytes) : Except String Bytes := do
  let bytes ← orError "public key not readable" file
  let raw ← publicKeyBytes V bytes
  guardError "invalid Ed25519 public key" (V.validKey raw)
  .ok raw

def readSignature (file : Option Bytes) : Except String Bytes := do
  let bytes ← orError "signature not readable" file
  if bytes.length = 64 then .ok bytes
  else (orError "signature must be raw 64 bytes or hex text" (Utf8.decode bytes)).bind fun text => decodeHexArray 64 text "signature"

def ensureNonempty (field value : String) : Except String Unit := guardError s!"{field} is required" (trim value ≠ "")

def ensureNonemptyVec {α : Type} (field : String) (value : List α) : Except String Unit :=
  guardError s!"{field} must not be empty" !value.isEmpty

def ensureSha256 (value field : String) : Except String Unit :=
  guardError s!"{field} must be a 64-character hex SHA256 digest"
    ((Utf8.encode value).length = 64 && (Utf8.encode value).all fun b => (Hex.digitValue b.toNat).isSome)

def validatePayloadMetadata (payload : UsbImagePayload) : Except String Unit := do
  ensureNonempty "payload.name" payload.name
  ensureNonempty "payload.board_family" payload.boardFamily
  ensureNonemptyVec "payload.compatible_models" payload.compatibleModels
  ensureNonempty "payload.arch" payload.arch
  ensureNonempty "payload.image_path" payload.imagePath
  ensureSha256 payload.compressedSha256 "payload.compressed_sha256"
  ensureSha256 payload.uncompressedSha256 "payload.uncompressed_sha256"
  guardError "payload.compressed_size_bytes must be greater than zero" (payload.compressedSizeBytes ≠ 0)
  guardError "payload.uncompressed_size_bytes must be greater than zero" (payload.uncompressedSizeBytes ≠ 0)
  guardError "payload.min_storage_bytes is smaller than the image" (payload.uncompressedSizeBytes ≤ payload.minStorageBytes)

def ensureVersionFloorAtLeast (actual required label : String) : Except String Unit := do
  ensureNonempty label actual
  ensureNonempty "required rollback floor" required
  let order ← compareVersions actual.toList required.toList
  guardError s!"{label} {actual} is below required floor {required}" (order ≠ .lt)

def ensureRollbackFloorAtLeast (payload : UsbImagePayload) (required : String) : Except String Unit := do
  let floor ← orError "payload.rollback_floor is required" payload.rollbackFloor
  ensureNonempty "payload.rollback_floor" floor
  ensureVersionFloorAtLeast floor required "payload.rollback_floor"

/-- `safe_join`: the name of a file below the directory. -/
def safeJoin (relative : String) : Except String String := do
  let path := PosixPath.ofString relative
  guardError "manifest image_path must be relative" !path.isAbsolute
  guardError s!"manifest image_path contains unsafe component: {relative}" (!path.hasParent && relative ≠ "." && !"./".toList.isPrefixOf relative.toList)
  .ok ("/".intercalate path.names)

/-- Two texts that differ at most in the case of ASCII letters. -/
def eqIgnoreAsciiCase (a b : String) : Bool := a.toList.map Char.toLower = b.toList.map Char.toLower

def verifyImage (files : String → Option Bytes) (payload : UsbImagePayload) : Except String Unit := do
  let path ← safeJoin payload.imagePath
  let bytes ← orError "compressed payload not readable" (files path)
  guardError "compressed payload size mismatch" (bytes.length = payload.compressedSizeBytes)
  guardError "compressed payload SHA256 mismatch" (eqIgnoreAsciiCase (hexdigest V.sha256 bytes) payload.compressedSha256)
  let raw ← orError "xz payload decompression failed" (V.xz bytes)
  guardError "uncompressed payload size mismatch" (raw.length = payload.uncompressedSizeBytes)
  guardError "uncompressed payload SHA256 mismatch" (eqIgnoreAsciiCase (hexdigest V.sha256 raw) payload.uncompressedSha256)

/-- What the device asks of a payload. -/
structure VerifyArgs where
  publicKey : Option Bytes
  minKeyEpoch : Nat
  minRollbackFloor : String
  targetBoard : String
  targetArch : String
  now : V.chrono.Time

/-- Whether a payload is one for a board. -/
def UsbImagePayload.fits (board : String) (payload : UsbImagePayload) : Bool :=
  payload.boardFamily = board || payload.compatibleModels.contains board

/-- `verify_usb_payload`: the payload for the board. -/
def verifyUsbPayload (files : String → Option Bytes) (args : VerifyArgs V) : Except String UsbImagePayload := do
  let manifestBytes ← orError "USB payload manifest missing" (files "manifest.json")
  let index ← orError "USB payload manifest JSON is invalid" (parseIndex V.chrono manifestBytes)
  guardError s!"unsupported schema_version: {index.schemaVersion}" (index.schemaVersion = 1)
  guardError s!"unsupported manifest kind: {index.kind}" (index.kind = "suderra.usb-payload-index.v1")
  let sig ← readSignature (files "manifest.sig")
  let key ← readPublicKey V args.publicKey
  guardError "USB payload manifest signature verification failed" (V.verify key (canonicalJsonBytes index) sig)
  guardError s!"USB payload manifest expired at {V.chrono.format index.expiresAt}" !(V.chrono.before index.expiresAt args.now)
  guardError s!"USB payload manifest key_epoch {index.keyEpoch} is below required epoch {args.minKeyEpoch}"
    (args.minKeyEpoch ≤ index.keyEpoch)
  ensureNonempty "board_family" index.boardFamily
  ensureNonemptyVec "compatible_models" index.compatibleModels
  ensureNonemptyVec "payloads" index.payloads
  guardError s!"target board '{args.targetBoard}' is not compatible with USB payload index '{index.boardFamily}'"
    (index.compatibleModels.contains args.targetBoard)
  let payload ← orError s!"no payload entry matches target board '{args.targetBoard}'"
    (index.payloads.find? (UsbImagePayload.fits args.targetBoard))
  validatePayloadMetadata payload
  guardError s!"payload arch '{payload.arch}' does not match target arch '{args.targetArch}'" (payload.arch = args.targetArch)
  ensureRollbackFloorAtLeast payload args.minRollbackFloor
  verifyImage V files payload
  .ok payload

end Verifier

/-! ## What was packed -/

section Packed

variable {P : Python} {A : Args} {package : Package}

/-- What a successful `assemble` has packed. -/
structure Packed (P : Python) (A : Args) (package : Package) (rpi4Raw revpi4Raw : Bytes) (createdAt : String) : Prop where
  epoch : 0 < A.keyEpoch
  rpi4 : package.rpi4Image ≠ [] ∧ P.lzma package.rpi4Image = some rpi4Raw
  revpi4 : package.revpi4Image ≠ [] ∧ P.lzma package.revpi4Image = some revpi4Raw
  images : A.rpi4Image = some package.rpi4Image ∧ A.revpi4Image = some package.revpi4Image
  created : P.timestamp A.sourceDateEpoch = some createdAt
  text : package.manifestJson = manifestText P (manifest P A package.rpi4Image rpi4Raw package.revpi4Image revpi4Raw createdAt)
  signed : package.signed = signedText P (manifest P A package.rpi4Image rpi4Raw package.revpi4Image revpi4Raw createdAt)
  signature : ∃ publicKey, A.publicKey = some publicKey ∧ P.verify publicKey package.signed package.manifestSig = true

theorem nonEmpty_eq_some {file : Option Bytes} {bytes : Bytes} (h : nonEmpty file = some bytes) : file = some bytes ∧ bytes ≠ [] := by
  obtain ⟨hfile, hne⟩ := Option.filter_eq_some_iff.1 h
  exact ⟨hfile, by simpa using hne⟩

theorem packed_of_assemble (h : assemble P A = some package) : ∃ rpi4Raw revpi4Raw createdAt, Packed P A package rpi4Raw revpi4Raw createdAt := by
  simp only [assemble, Option.bind_eq_bind, Option.bind_eq_some_iff, Option.guard_eq_some'] at h
  obtain ⟨_, hepoch, _, _, _, _, _, _, rpi4, hrpi4, revpi4, hrevpi4, _, _, publicKey, hkey, _, _, _, _, _, _, h⟩ := h
  obtain ⟨rpi4Raw, hrpi4Raw, revpi4Raw, hrevpi4Raw, createdAt, hcreated, signature, _, _, hverify, _, _, heq⟩ := h
  cases heq
  obtain ⟨hrpi4, hrpi4Ne⟩ := nonEmpty_eq_some hrpi4
  obtain ⟨hrevpi4, hrevpi4Ne⟩ := nonEmpty_eq_some hrevpi4
  exact ⟨rpi4Raw, revpi4Raw, createdAt, hepoch, ⟨hrpi4Ne, hrpi4Raw⟩, ⟨hrevpi4Ne, hrevpi4Raw⟩, ⟨hrpi4, hrevpi4⟩, hcreated, rfl, rfl,
    publicKey, (nonEmpty_eq_some hkey).1, hverify⟩

/-! ## The index in the order of its names -/

/-- `payloadEntry` with its members sorted. -/
def sortedEntry (P : Python) (name imagePath : String) (source raw : Bytes) (rollbackFloor : String) : Value :=
  .dict [("arch", .str "aarch64"), ("board_family", .str name), ("compatible_models", .list [.str name]),
    ("compressed_sha256", .str (hexdigest P.sha256 source)), ("compressed_size_bytes", .int source.length), ("image_path", .str imagePath),
    ("min_storage_bytes", .int 8589934592), ("name", .str name), ("rollback_floor", .str rollbackFloor),
    ("uncompressed_sha256", .str (hexdigest P.sha256 raw)), ("uncompressed_size_bytes", .int raw.length)]

/-- The two entries of the index. -/
def sortedEntries (P : Python) (package : Package) (rpi4Raw revpi4Raw : Bytes) (rollbackFloor : String) : Value :=
  .list [sortedEntry P "rpi4-cm4" rpi4ImageName package.rpi4Image rpi4Raw rollbackFloor,
    sortedEntry P "revpi4" revpi4ImageName package.revpi4Image revpi4Raw rollbackFloor]

/-- The index with its members sorted. -/
def sortedIndex (payloads : Value) (createdAt expiresAt : String) (keyEpoch : Int) : Value :=
  .dict [("board_family", .str "pi-cm4-revpi"), ("compatible_models", .list [.str "rpi4-cm4", .str "revpi4"]), ("created_at", .str createdAt),
    ("expires_at", .str expiresAt), ("key_epoch", .int keyEpoch), ("kind", .str "suderra.usb-payload-index.v1"), ("payloads", payloads),
    ("schema_version", .int 1)]

theorem sortKeys_payloadEntry (name imagePath : String) (source raw : Bytes) (rollbackFloor : String) :
    (payloadEntry P name imagePath source raw rollbackFloor).sortKeys = sortedEntry P name imagePath source raw rollbackFloor := by
  simp +decide [payloadEntry, sortedEntry, Value.sortKeys, Value.sortKeysFields, Value.sortKeysItems, List.insertionSort, List.orderedInsert]

theorem sortKeys_manifest (rpi4Raw revpi4Raw : Bytes) (createdAt : String) :
    (manifest P A package.rpi4Image rpi4Raw package.revpi4Image revpi4Raw createdAt).sortKeys =
      sortedIndex (sortedEntries P package rpi4Raw revpi4Raw A.rollbackFloor) createdAt A.expiresAt A.keyEpoch := by
  simp +decide [manifest, sortedIndex, sortedEntries, Value.sortKeys, Value.sortKeysFields, Value.sortKeysItems, sortKeys_payloadEntry,
    List.insertionSort, List.orderedInsert]

theorem plain_sortedIndex (P : Python) (package : Package) (rpi4Raw revpi4Raw : Bytes) (floor createdAt expiresAt : String) (keyEpoch : Int) :
    (sortedIndex (sortedEntries P package rpi4Raw revpi4Raw floor) createdAt expiresAt keyEpoch).plain = true := by
  simp [sortedIndex, sortedEntries, sortedEntry, Value.plain, Value.plainFields, Value.plainItems]

theorem digitChar_ascii : ∀ d < 16, (Nat.digitChar d).toNat ≤ 0x7E ∧ (Nat.digitChar d).toLower = Nat.digitChar d ∧
    String.utf8EncodeChar (Nat.digitChar d) = [UInt8.ofNat (Nat.digitChar d).toNat] ∧ (Nat.digitChar d).toNat < 256 := by decide

theorem isAscii_hexdigest (sha256 : Bytes → Bytes) (bytes : Bytes) : IsAscii (hexdigest sha256 bytes) := by
  intro c hc
  rw [hexdigest, String.toList_ofList] at hc
  obtain ⟨d, hd, rfl⟩ := Hex.mem_encode hc
  exact (digitChar_ascii d hd).1

/-- Of the strings of the index, the packager fixes or computes all but three. -/
theorem isAscii_sortedIndex_iff (rpi4Raw revpi4Raw : Bytes) (floor createdAt expiresAt : String) (keyEpoch : Int) :
    (∀ s ∈ strings (sortedIndex (sortedEntries P package rpi4Raw revpi4Raw floor) createdAt expiresAt keyEpoch), IsAscii s) ↔
      IsAscii createdAt ∧ IsAscii expiresAt ∧ IsAscii floor := by
  have hconst : ∀ s ∈ ["board_family", "pi-cm4-revpi", "compatible_models", "rpi4-cm4", "revpi4", "created_at", "expires_at", "key_epoch",
      "kind", "suderra.usb-payload-index.v1", "payloads", "schema_version", "arch", "aarch64", "compressed_sha256",
      "compressed_size_bytes", "image_path", "min_storage_bytes", "name", "rollback_floor", "uncompressed_sha256",
      "uncompressed_size_bytes", rpi4ImageName, revpi4ImageName], IsAscii s := by
    unfold IsAscii
    decide +kernel
  simp only [List.forall_mem_cons, List.not_mem_nil, false_implies, implies_true, and_true] at hconst
  simp only [sortedIndex, sortedEntries, sortedEntry, strings, fieldStrings, itemStrings, List.forall_mem_cons, List.forall_mem_append,
    List.not_mem_nil, false_implies, implies_true, and_true, hconst, isAscii_hexdigest, true_and]
  tauto

/-! ## The index as the installer reads it -/

/-- The record of an entry. -/
def readEntry (P : Python) (name imagePath : String) (source raw : Bytes) (rollbackFloor : String) : UsbImagePayload where
  name := name
  boardFamily := name
  compatibleModels := [name]
  arch := "aarch64"
  imagePath := imagePath
  compressedSha256 := hexdigest P.sha256 source
  compressedSizeBytes := source.length
  uncompressedSha256 := hexdigest P.sha256 raw
  uncompressedSizeBytes := raw.length
  minStorageBytes := 8589934592
  rollbackFloor := some rollbackFloor

/-- The record of the index. -/
def readIndex (P : Python) {C : Chrono} (package : Package) (rpi4Raw revpi4Raw : Bytes) (rollbackFloor : String) (created expires : C.Time)
    (keyEpoch : Int) : UsbPayloadIndex C where
  schemaVersion := 1
  kind := "suderra.usb-payload-index.v1"
  boardFamily := "pi-cm4-revpi"
  compatibleModels := ["rpi4-cm4", "revpi4"]
  payloads := [readEntry P "rpi4-cm4" rpi4ImageName package.rpi4Image rpi4Raw rollbackFloor,
    readEntry P "revpi4" revpi4ImageName package.revpi4Image revpi4Raw rollbackFloor]
  createdAt := created
  expiresAt := expires
  keyEpoch := keyEpoch.toNat

theorem u64Field_natCast (n : Nat) : Ota.u64Field (some (.int n)) = if n < UInt64.size then some n else none := by
  simp [Ota.u64Field]

theorem u32Field_int {n : Int} (h : 0 ≤ n) : u32Field (some (.int n)) = if n < UInt32.size then some n.toNat else none := by
  have h32 : UInt32.size < UInt64.size := by decide
  have hlt : n < UInt32.size ↔ n.toNat < UInt32.size := (Int.toNat_lt h).symm
  by_cases hn : n.toNat < UInt32.size
  · rw [if_pos (hlt.2 hn), u32Field, Ota.u64Field, if_pos ⟨h, by omega⟩]
    simp [Option.filter, hn]
  · rw [if_neg (fun hlarge => hn (hlt.1 hlarge)), u32Field, Ota.u64Field]
    split_ifs <;> simp [Option.filter, hn]

theorem ofValue_sortedEntry (name imagePath : String) (source raw : Bytes) (floor : String) :
    UsbImagePayload.ofValue (sortedEntry P name imagePath source raw floor) =
      if source.length < UInt64.size ∧ raw.length < UInt64.size then some (readEntry P name imagePath source raw floor) else none := by
  have hstorage : Ota.u64Field (some (.int 8589934592)) = some 8589934592 := rfl
  have hmodels : textsField (some (.list [.str name])) = some [name] := rfl
  have hfloor : Ota.optionalField (fun v => Ota.textField (some v)) (some (.str floor)) = some (some floor) := rfl
  obtain ⟨fields, heq⟩ : ∃ fields, sortedEntry P name imagePath source raw floor = .dict fields := ⟨_, rfl⟩
  have hfields : Ota.structFields UsbImagePayload.names id (.dict fields) = some fields := by
    rw [← Value.dict.inj heq]
    simp [Ota.structFields, UsbImagePayload.names]
  have hnodup : (fields.map (·.1)).Nodup := by
    rw [← Value.dict.inj heq]
    exact show ["arch", "board_family", "compatible_models", "compressed_sha256", "compressed_size_bytes", "image_path", "min_storage_bytes",
      "name", "rollback_floor", "uncompressed_sha256", "uncompressed_size_bytes"].Nodup by decide
  have hlookup : ∀ p ∈ fields, Value.lookup p.1 fields = some p.2 := fun p hp => (Value.lookup_eq_some_iff hnodup).2 hp
  rw [heq, UsbImagePayload.ofValue, hfields]
  nth_rewrite 1 [← Value.dict.inj heq] at hlookup
  simp only [List.forall_mem_cons] at hlookup
  obtain ⟨harch, hfamily, hcompatible, hsha, hsize, hpath, hminimum, hname, hnoted, hrawSha, hrawSize, _⟩ := hlookup
  simp only [harch, hfamily, hcompatible, hsha, hsize, hpath, hminimum, hname, hnoted, hrawSha, hrawSize, Ota.textField_str, hmodels, hfloor,
    hstorage, u64Field_natCast, Option.bind_eq_bind, Option.bind_some]
  by_cases hsource : source.length < UInt64.size
  · by_cases hraw : raw.length < UInt64.size
    · rw [if_pos hsource, if_pos hraw, if_pos ⟨hsource, hraw⟩]
      rfl
    · have hand : ¬(source.length < UInt64.size ∧ raw.length < UInt64.size) := fun h => hraw h.2
      rw [if_pos hsource, if_neg hraw, if_neg hand]
      rfl
  · have hand : ¬(source.length < UInt64.size ∧ raw.length < UInt64.size) := fun h => hsource h.1
    rw [if_neg hsource, if_neg hand]
    rfl

/-- What the sizes of the two images are for the installer to read them. -/
def Sized (package : Package) (rpi4Raw revpi4Raw : Bytes) : Prop :=
  (package.rpi4Image.length < UInt64.size ∧ rpi4Raw.length < UInt64.size) ∧
    (package.revpi4Image.length < UInt64.size ∧ revpi4Raw.length < UInt64.size)

theorem ofValue_sortedEntries_iff {rpi4Raw revpi4Raw : Bytes} {floor : String} {payloads : List UsbImagePayload} :
    ((sortedEntries P package rpi4Raw revpi4Raw floor).asList.bind fun items => items.mapM UsbImagePayload.ofValue) = some payloads ↔
      Sized package rpi4Raw revpi4Raw ∧ payloads = [readEntry P "rpi4-cm4" rpi4ImageName package.rpi4Image rpi4Raw floor,
        readEntry P "revpi4" revpi4ImageName package.revpi4Image revpi4Raw floor] := by
  simp only [sortedEntries, Value.asList, Option.bind_some, List.mapM_cons, List.mapM_nil, ofValue_sortedEntry, Sized]
  by_cases hrpi4 : package.rpi4Image.length < UInt64.size ∧ rpi4Raw.length < UInt64.size
  · by_cases hrevpi4 : package.revpi4Image.length < UInt64.size ∧ revpi4Raw.length < UInt64.size
    · rw [if_pos hrpi4, if_pos hrevpi4]
      simp [hrpi4, hrevpi4, eq_comm]
    · rw [if_neg hrevpi4]
      simp [hrevpi4]
  · rw [if_neg hrpi4]
    simp [hrpi4]

theorem ofValue_sortedIndex_iff {C : Chrono} {rpi4Raw revpi4Raw : Bytes} {floor createdAt expiresAt : String} {keyEpoch : Int}
    (hepoch : 0 < keyEpoch) {index : UsbPayloadIndex C} :
    UsbPayloadIndex.ofValue C (sortedIndex (sortedEntries P package rpi4Raw revpi4Raw floor) createdAt expiresAt keyEpoch) = some index ↔
      Sized package rpi4Raw revpi4Raw ∧ keyEpoch < UInt32.size ∧ ∃ created expires, C.parse createdAt = some created ∧
        C.parse expiresAt = some expires ∧ index = readIndex P package rpi4Raw revpi4Raw floor created expires keyEpoch := by
  have hschema : u32Field (some (.int 1)) = some 1 := rfl
  have hmodels : textsField (some (.list [.str "rpi4-cm4", .str "revpi4"])) = some ["rpi4-cm4", "revpi4"] := rfl
  have hfields : Ota.structFields UsbPayloadIndex.names id
      (sortedIndex (sortedEntries P package rpi4Raw revpi4Raw floor) createdAt expiresAt keyEpoch) =
      (sortedIndex (sortedEntries P package rpi4Raw revpi4Raw floor) createdAt expiresAt keyEpoch).asDict := by
    simp [sortedIndex, Ota.structFields, UsbPayloadIndex.names, Value.asDict]
  unfold UsbPayloadIndex.ofValue
  rw [hfields]
  simp only [sortedIndex, Value.asDict, Value.lookup, List.reverse_cons, List.reverse_nil, List.nil_append, List.cons_append,
    List.find?_cons, Option.bind_eq_bind, Option.bind_some]
  simp only [String.reduceEq, decide_false, decide_true, Option.map_some, Ota.textField_str, Option.bind_some, hschema, hmodels,
    u32Field_int hepoch.le]
  rw [Option.bind_eq_some_iff]
  simp only [ofValue_sortedEntries_iff]
  simp only [Option.bind_eq_some_iff]
  constructor
  · rintro ⟨_, ⟨hsized, rfl⟩, created, hcreated, expires, hexpires, n, hn, heq⟩
    obtain ⟨hsmall, hn⟩ := Option.ite_none_right_eq_some.1 hn
    cases hn
    cases heq
    exact ⟨hsized, hsmall, created, expires, hcreated, hexpires, rfl⟩
  · rintro ⟨hsized, hsmall, created, expires, hcreated, hexpires, rfl⟩
    exact ⟨_, ⟨hsized, rfl⟩, created, hcreated, expires, hexpires, _, if_pos hsmall, rfl⟩

theorem parseIndex_manifestText_iff {C : Chrono} {rpi4Raw revpi4Raw : Bytes} {createdAt : String} (hepoch : 0 < A.keyEpoch)
    {index : UsbPayloadIndex C} :
    parseIndex C (manifestText P (manifest P A package.rpi4Image rpi4Raw package.revpi4Image revpi4Raw createdAt)) = some index ↔
      Sized package rpi4Raw revpi4Raw ∧ A.keyEpoch < UInt32.size ∧ ∃ created expires, C.parse createdAt = some created ∧
        C.parse A.expiresAt = some expires ∧ index = readIndex P package rpi4Raw revpi4Raw A.rollbackFloor created expires A.keyEpoch := by
  have hspace : ∀ c ∈ ['\n'], isSpace c = true := by simp [isSpace]
  have hread := read_append (indented_lawful P.repr)
    (plain_sortedIndex P package rpi4Raw revpi4Raw A.rollbackFloor createdAt A.expiresAt A.keyEpoch) hspace
  rw [parseIndex, manifestText, sortKeys_manifest, Utf8.decode_encode, Option.bind_some, String.toList_ofList, hread, Option.bind_some]
  exact ofValue_sortedIndex_iff hepoch

theorem toValue_readEntry (name imagePath : String) (source raw : Bytes) (floor : String) :
    (readEntry P name imagePath source raw floor).toValue.sortKeys = sortedEntry P name imagePath source raw floor := by
  simp +decide [readEntry, UsbImagePayload.toValue, sortedEntry, Value.sortKeys, Value.sortKeysFields, Value.sortKeysItems,
    List.insertionSort, List.orderedInsert]

theorem toValue_readIndex {C : Chrono} {rpi4Raw revpi4Raw : Bytes} {floor : String} {created expires : C.Time} {keyEpoch : Int}
    (hepoch : 0 < keyEpoch) :
    (readIndex P package rpi4Raw revpi4Raw floor created expires keyEpoch).toValue.sortKeys =
      sortedIndex (sortedEntries P package rpi4Raw revpi4Raw floor) (C.format created) (C.format expires) keyEpoch := by
  simp +decide [readIndex, UsbPayloadIndex.toValue, sortedIndex, sortedEntries, Value.sortKeys, Value.sortKeysFields, Value.sortKeysItems,
    toValue_readEntry, List.insertionSort, List.orderedInsert, Int.toNat_of_nonneg hepoch.le]

/-- The installer's text of the record is what was signed exactly when `chrono` writes the times back and nothing needs an escape. -/
theorem canonicalJsonBytes_eq_iff {C : Chrono} {rpi4Raw revpi4Raw : Bytes} {createdAt : String} {created expires : C.Time}
    (hepoch : 0 < A.keyEpoch) :
    canonicalJsonBytes (readIndex P package rpi4Raw revpi4Raw A.rollbackFloor created expires A.keyEpoch) =
        signedText P (manifest P A package.rpi4Image rpi4Raw package.revpi4Image revpi4Raw createdAt) ↔
      C.format created = createdAt ∧ C.format expires = A.expiresAt ∧ IsAscii createdAt ∧ IsAscii A.expiresAt ∧ IsAscii A.rollbackFloor := by
  rw [canonicalJsonBytes, signedText, sortKeys_manifest, toValue_readIndex hepoch]
  constructor
  · intro h
    have htext := String.ofList_injective (Utf8.encode_injective h)
    have hsame := congrArg read htext
    rw [read_write (compact_lawful _) (plain_sortedIndex ..), read_write (compactAscii_lawful _) (plain_sortedIndex ..)] at hsame
    have htimes : C.format created = createdAt ∧ C.format expires = A.expiresAt := by
      simpa [sortedIndex] using hsame
    rw [htimes.1, htimes.2] at htext
    exact ⟨htimes.1, htimes.2, (isAscii_sortedIndex_iff ..).1 ((write_compact_eq_iff _ _ (plain_sortedIndex ..) 0).1 htext)⟩
  · rintro ⟨hcreated, hexpires, hascii⟩
    rw [hcreated, hexpires, (write_compact_eq_iff _ P.repr (plain_sortedIndex ..) 0).2 ((isAscii_sortedIndex_iff ..).2 hascii)]

end Packed

/-! ## What the installer accepts -/

section Accepted

theorem encode_hexdigest (sha256 : Bytes → Bytes) (bytes : Bytes) :
    Utf8.encode (hexdigest sha256 bytes) = (Hex.encode (sha256 bytes)).map fun c => UInt8.ofNat c.toNat := by
  have hchars : ∀ cs : List Char, (∀ c ∈ cs, c ∈ Hex.encode (sha256 bytes)) →
      cs.flatMap String.utf8EncodeChar = cs.map fun c => UInt8.ofNat c.toNat := by
    intro cs hcs
    rw [List.map_eq_flatMap]
    refine List.flatMap_congr fun c hc => ?_
    obtain ⟨d, hd, rfl⟩ := Hex.mem_encode (hcs c hc)
    exact (digitChar_ascii d hd).2.2.1
  rw [hexdigest, Utf8.encode_ofList]
  exact hchars _ fun _ h => h

theorem ensureSha256_hexdigest {sha256 : Bytes → Bytes} {bytes : Bytes} (h : (sha256 bytes).length = 32) (field : String) :
    ensureSha256 (hexdigest sha256 bytes) field = .ok () := by
  have hlength : (Utf8.encode (hexdigest sha256 bytes)).length = 64 := by
    rw [encode_hexdigest, List.length_map, Hex.length_encode, h]
  have hdigits : ((Utf8.encode (hexdigest sha256 bytes)).all fun b => (Hex.digitValue b.toNat).isSome) = true := by
    rw [encode_hexdigest, List.all_map, List.all_eq_true]
    intro c hc
    obtain ⟨d, hd, rfl⟩ := Hex.mem_encode hc
    have hcode : (UInt8.ofNat (Nat.digitChar d).toNat).toNat = (Nat.digitChar d).toNat :=
      UInt8.toNat_ofNat_of_lt' (digitChar_ascii d hd).2.2.2
    simp [hcode, Hex.digitValue_digitChar d hd]
  rw [ensureSha256, hlength, hdigits]
  rfl

/-- Two digests differ in the case of no letter. -/
theorem eqIgnoreAsciiCase_hexdigest (sha256 : Bytes → Bytes) (a b : Bytes) :
    eqIgnoreAsciiCase (hexdigest sha256 a) (hexdigest sha256 b) = true ↔ hexdigest sha256 a = hexdigest sha256 b := by
  have hlower : ∀ bytes, (hexdigest sha256 bytes).toList.map Char.toLower = (hexdigest sha256 bytes).toList := by
    intro bytes
    rw [hexdigest, String.toList_ofList]
    conv => rhs; rw [← List.map_id (Hex.encode (sha256 bytes))]
    refine List.map_congr_left fun c hc => ?_
    obtain ⟨d, hd, rfl⟩ := Hex.mem_encode hc
    exact (digitChar_ascii d hd).2.1
  rw [eqIgnoreAsciiCase, decide_eq_true_iff, hlower, hlower, String.toList_inj]

theorem comparePrereleaseSegments_self (segments : List (List Char)) : comparePrereleaseSegments segments segments = .eq := by
  induction segments with
  | nil => rfl
  | cons segment segments ih =>
    have hself : compareSegment segment segment = .eq := by
      unfold compareSegment
      cases parseU64 segment <;> simp
    rw [comparePrereleaseSegments, hself, ih]
    rfl

theorem compareVersions_self {version : List Char} {v : ParsedVersion} (h : parseVersion version = .ok v) :
    compareVersions version version = .ok .eq := by
  have hpre : comparePrerelease v.pre v.pre = .eq := by
    unfold comparePrerelease
    cases v.pre with
    | none => rfl
    | some pre => exact comparePrereleaseSegments_self _
  have hcore : v.compareCore v = .eq := by simp [ParsedVersion.compareCore]
  simp only [compareVersions, h, bind, Except.bind, hcore, hpre]
  rfl

theorem trim_ne_of_parseVersion {version : String} {v : ParsedVersion} (h : parseVersion version.toList = .ok v) : trim version ≠ "" := by
  intro hblank
  have hchars : trimChars version.toList = [] := String.ofList_injective hblank
  rw [parseVersion, hchars] at h
  cases h

/-- The floor that meets a minimum is a version, and a version meets itself. -/
theorem ensureVersionFloorAtLeast_self {floor : String} (label : String) :
    ensureVersionFloorAtLeast floor floor label = .ok () ↔ ∃ v, parseVersion floor.toList = .ok v := by
  constructor
  · intro h
    obtain ⟨_, _, h⟩ := bind_ok_iff.1 h
    obtain ⟨_, _, h⟩ := bind_ok_iff.1 h
    obtain ⟨_, hcompare, _⟩ := bind_ok_iff.1 h
    obtain ⟨v, hv, _⟩ := bind_ok_iff.1 hcompare
    exact ⟨v, hv⟩
  · rintro ⟨v, hv⟩
    have hblank := trim_ne_of_parseVersion hv
    simp [ensureVersionFloorAtLeast, ensureNonempty, guardError, hblank, compareVersions_self hv, bind, Except.bind]

theorem parseVersion_of_ensure {floor required label : String} (h : ensureVersionFloorAtLeast floor required label = .ok ()) :
    ∃ v, parseVersion floor.toList = .ok v := by
  obtain ⟨_, _, h⟩ := bind_ok_iff.1 h
  obtain ⟨_, _, h⟩ := bind_ok_iff.1 h
  obtain ⟨_, hcompare, _⟩ := bind_ok_iff.1 h
  obtain ⟨v, hv, _⟩ := bind_ok_iff.1 hcompare
  exact ⟨v, hv⟩

variable {P : Python} {V : Crates}

/-- `xz_uncompressed_identity`, of the bytes that were read. -/
def identity (sha256 : Bytes → Bytes) (raw : Bytes) : String × Nat := (hexdigest sha256 raw, raw.length)

/-- An image is for the installer what it was for the packager, and it fits into the storage. -/
def ImageFits (P : Python) (V : Crates) (source raw : Bytes) : Prop :=
  (∃ unpacked, V.xz source = some unpacked ∧ identity P.sha256 unpacked = identity P.sha256 raw) ∧ raw ≠ [] ∧ raw.length ≤ 8589934592

theorem verifyImage_ok_iff (hsha : V.sha256 = P.sha256) {files : String → Option Bytes} {name path floor : String} {source raw : Bytes}
    (hpath : safeJoin path = .ok path) (hfile : files path = some source) :
    verifyImage V files (readEntry P name path source raw floor) = .ok () ↔
      ∃ unpacked, V.xz source = some unpacked ∧ identity P.sha256 unpacked = identity P.sha256 raw := by
  have hcompressed := (eqIgnoreAsciiCase_hexdigest P.sha256 source source).2 rfl
  have hjoin : safeJoin (readEntry P name path source raw floor).imagePath = .ok path := hpath
  rw [verifyImage, hjoin, ok_bind, hfile, orError_some, ok_bind]
  simp only [guardError_bind_ok_iff, orError_bind_ok_iff, guardError_ok_iff, decide_eq_true_eq]
  simp only [readEntry, hsha, hcompressed, eqIgnoreAsciiCase_hexdigest, true_and, identity, Prod.mk.injEq]
  exact exists_congr fun unpacked => and_congr_right fun _ => and_comm

theorem validatePayloadMetadata_ok_iff (h32 : ∀ bytes, (P.sha256 bytes).length = 32) {name path floor : String} {source raw : Bytes}
    (hname : trim name ≠ "") (hpath : trim path ≠ "") (hsource : source ≠ []) :
    validatePayloadMetadata (readEntry P name path source raw floor) = .ok () ↔ raw ≠ [] ∧ raw.length ≤ 8589934592 := by
  have harch : trim "aarch64" ≠ "" := by decide
  have hlength : source.length ≠ 0 := fun h => hsource (List.eq_nil_of_length_eq_zero h)
  have hcompressed : ensureSha256 (readEntry P name path source raw floor).compressedSha256 "payload.compressed_sha256" = .ok () :=
    ensureSha256_hexdigest (h32 source) _
  have huncompressed : ensureSha256 (readEntry P name path source raw floor).uncompressedSha256 "payload.uncompressed_sha256" = .ok () :=
    ensureSha256_hexdigest (h32 raw) _
  simp only [validatePayloadMetadata, ensureNonempty, ensureNonemptyVec, guardError_bind_ok_iff, guardError_ok_iff, ne_eq, decide_not,
    Bool.not_eq_true', decide_eq_false_iff_not, decide_eq_true_eq, hcompressed, huncompressed, ok_bind]
  simp only [readEntry, hname, hpath, harch, hlength, true_and, List.isEmpty_cons, not_false_eq_true, List.length_eq_zero_iff]

/-- Of an index that the device can read and whose signature verifies, the entry of the board decides. -/
theorem verifyUsbPayload_ok_iff {files : String → Option Bytes} {args : VerifyArgs V} {bytes key sig : Bytes} {index : UsbPayloadIndex V.chrono}
    {payload : UsbImagePayload} (hfile : files "manifest.json" = some bytes) (hparse : parseIndex V.chrono bytes = some index)
    (hsig : readSignature (files "manifest.sig") = .ok sig) (hkey : readPublicKey V args.publicKey = .ok key)
    (hverify : V.verify key (canonicalJsonBytes index) sig = true) (hschema : index.schemaVersion = 1)
    (hkind : index.kind = "suderra.usb-payload-index.v1") (hfuture : V.chrono.before index.expiresAt args.now = false)
    (hepoch : args.minKeyEpoch ≤ index.keyEpoch) (hfamily : trim index.boardFamily ≠ "")
    (hmodel : index.compatibleModels.contains args.targetBoard = true)
    (hpayload : index.payloads.find? (UsbImagePayload.fits args.targetBoard) = some payload) (harch : payload.arch = args.targetArch)
    (hfloor : ensureRollbackFloorAtLeast payload args.minRollbackFloor = .ok ()) :
    (∃ r, verifyUsbPayload V files args = .ok r) ↔ validatePayloadMetadata payload = .ok () ∧ verifyImage V files payload = .ok () := by
  have hmodels : index.compatibleModels.isEmpty = false := by
    cases hlist : index.compatibleModels with
    | nil => simp [hlist] at hmodel
    | cons => rfl
  have hpayloads : index.payloads.isEmpty = false := by
    cases hlist : index.payloads with
    | nil => simp [hlist] at hpayload
    | cons => rfl
  simp only [verifyUsbPayload, hfile, hparse, hsig, hkey, hpayload, ok_bind, orError_some, guardError_bind_ok_iff, ensureNonempty,
    ensureNonemptyVec, hschema, hkind, hverify, hfuture, hepoch, hmodel, harch, hfloor, hmodels, hpayloads, decide_true, Bool.not_false,
    true_and, ne_eq, hfamily, not_false_eq_true]
  constructor
  · rintro ⟨r, h⟩
    obtain ⟨_, hmetadata, h⟩ := bind_ok_iff.1 h
    obtain ⟨_, h⟩ := guardError_bind_ok_iff.1 h
    obtain ⟨_, himage, _⟩ := bind_ok_iff.1 h
    exact ⟨hmetadata, himage⟩
  · rintro ⟨hmetadata, himage⟩
    exact ⟨payload, by simp only [hmetadata, himage, ok_bind, guardError_bind_ok_iff, and_self]⟩

end Accepted

/-! ## The packager and the installer -/

section Agreement

variable {P : Python} {V : Crates} {A : Args} {package : Package} {deviceKey : Option Bytes} {now : V.chrono.Time}

/-- What was signed is what the installer makes of the index, and the payload is accepted for both boards by every device whose minimums the
arguments meet. -/
def Agrees (V : Crates) (A : Args) (package : Package) (deviceKey : Option Bytes) (now : V.chrono.Time) : Prop :=
  (∃ index, parseIndex V.chrono package.manifestJson = some index ∧ canonicalJsonBytes index = package.signed) ∧
    ∀ board ∈ ["rpi4-cm4", "revpi4"], ∀ (minKeyEpoch : Nat) (minRollbackFloor : String), (minKeyEpoch : Int) ≤ A.keyEpoch →
      ensureVersionFloorAtLeast A.rollbackFloor minRollbackFloor "payload.rollback_floor" = .ok () →
      ∃ payload, verifyUsbPayload V package.files ⟨deviceKey, minKeyEpoch, minRollbackFloor, board, "aarch64", now⟩ = .ok payload

/-- An image of the arguments. -/
def Args.HasImage (A : Args) (image : Bytes) : Prop := A.rpi4Image = some image ∨ A.revpi4Image = some image

/-- The arguments fit into what the installer reads: the expiry is spelled as `chrono` spells it, no text needs an escape, the numbers are
in their ranges, and if the rollback floor is a version, the images are the same for `xz` and fit into the storage. -/
structure Fits (P : Python) (V : Crates) (A : Args) : Prop where
  expires : (V.chrono.parse A.expiresAt).map V.chrono.format = some A.expiresAt
  ascii : IsAscii A.expiresAt ∧ IsAscii A.rollbackFloor
  epoch : A.keyEpoch < UInt32.size
  sizes : ∀ image raw, A.HasImage image → P.lzma image = some raw → image.length < UInt64.size ∧ raw.length < UInt64.size
  images : (∃ v, parseVersion A.rollbackFloor.toList = .ok v) → ∀ image raw, A.HasImage image → P.lzma image = some raw → ImageFits P V image raw

theorem forall_hasImage_iff {rpi4Raw revpi4Raw : Bytes} {createdAt : String} (h : Packed P A package rpi4Raw revpi4Raw createdAt)
    {p : Bytes → Bytes → Prop} : (∀ image raw, A.HasImage image → P.lzma image = some raw → p image raw) ↔
      p package.rpi4Image rpi4Raw ∧ p package.revpi4Image revpi4Raw := by
  constructor
  · intro hall
    exact ⟨hall _ _ (.inl h.images.1) h.rpi4.2, hall _ _ (.inr h.images.2) h.revpi4.2⟩
  · rintro ⟨hrpi4, hrevpi4⟩ image raw himage hraw
    rcases himage with himage | himage
    · rw [h.images.1] at himage
      cases himage
      rw [h.rpi4.2] at hraw
      cases hraw
      exact hrpi4
    · rw [h.images.2] at himage
      cases himage
      rw [h.revpi4.2] at hraw
      cases hraw
      exact hrevpi4

theorem readSignature_of_length {sig : Bytes} (h : sig.length = 64) : readSignature (some sig) = .ok sig := by
  simp [readSignature, bind, Except.bind, h]

/-- The installer takes an entry of an index that it has read and that verifies exactly when the image fits. -/
theorem accepts_iff {rpi4Raw revpi4Raw key : Bytes} {created expires : V.chrono.Time} (hsha : V.sha256 = P.sha256)
    (h32 : ∀ bytes, (P.sha256 bytes).length = 32)
    (hparse : parseIndex V.chrono package.manifestJson =
      some (readIndex P package rpi4Raw revpi4Raw A.rollbackFloor created expires A.keyEpoch))
    (hsigned : canonicalJsonBytes (readIndex P package rpi4Raw revpi4Raw A.rollbackFloor created expires A.keyEpoch) = package.signed)
    (hkey : readPublicKey V deviceKey = .ok key)
    (hverify : package.manifestSig.length = 64 ∧ V.verify key package.signed package.manifestSig = true)
    (hfuture : V.chrono.before expires now = false) {board path : String} {source raw : Bytes} {minKeyEpoch : Nat} {minRollbackFloor : String}
    (hepoch : (minKeyEpoch : Int) ≤ A.keyEpoch)
    (hfloor : ensureVersionFloorAtLeast A.rollbackFloor minRollbackFloor "payload.rollback_floor" = .ok ())
    (hmodel : ["rpi4-cm4", "revpi4"].contains board = true) (hboard : trim board ≠ "") (hpath : trim path ≠ "")
    (hjoin : safeJoin path = .ok path) (hfile : package.files path = some source) (hsource : source ≠ [])
    (hentry : (readIndex P package rpi4Raw revpi4Raw A.rollbackFloor created expires A.keyEpoch).payloads.find?
      (UsbImagePayload.fits board) = some (readEntry P board path source raw A.rollbackFloor)) :
    (∃ payload, verifyUsbPayload V package.files ⟨deviceKey, minKeyEpoch, minRollbackFloor, board, "aarch64", now⟩ = .ok payload) ↔
      ImageFits P V source raw := by
  have hfamily : trim "pi-cm4-revpi" ≠ "" := by decide
  have hfloor' : ensureRollbackFloorAtLeast (readEntry P board path source raw A.rollbackFloor) minRollbackFloor = .ok () := by
    obtain ⟨v, hv⟩ := parseVersion_of_ensure hfloor
    have hblank : ensureNonempty "payload.rollback_floor" A.rollbackFloor = .ok () :=
      guardError_ok_iff.2 (decide_eq_true (trim_ne_of_parseVersion hv))
    simp only [ensureRollbackFloorAtLeast, readEntry, orError_some, ok_bind, hblank, hfloor]
  have hmanifest : package.files "manifest.json" = some package.manifestJson := rfl
  have hsig : readSignature (package.files "manifest.sig") = .ok package.manifestSig := readSignature_of_length hverify.1
  let args : VerifyArgs V := ⟨deviceKey, minKeyEpoch, minRollbackFloor, board, "aarch64", now⟩
  have hiff := @verifyUsbPayload_ok_iff _ _ args _ _ _ _ _ hmanifest hparse hsig hkey (hsigned ▸ hverify.2) rfl rfl hfuture
    (by simp only [readIndex, args]; omega) hfamily hmodel hentry rfl hfloor'
  rw [hiff, validatePayloadMetadata_ok_iff h32 hboard hpath hsource, verifyImage_ok_iff hsha hjoin hfile, and_comm, ImageFits]

theorem findRpi4 (rpi4Raw revpi4Raw : Bytes) (floor : String) (created expires : V.chrono.Time) (keyEpoch : Int) :
    (readIndex P package rpi4Raw revpi4Raw floor created expires keyEpoch).payloads.find? (UsbImagePayload.fits "rpi4-cm4") =
      some (readEntry P "rpi4-cm4" rpi4ImageName package.rpi4Image rpi4Raw floor) := rfl

theorem findRevpi4 (rpi4Raw revpi4Raw : Bytes) (floor : String) (created expires : V.chrono.Time) (keyEpoch : Int) :
    (readIndex P package rpi4Raw revpi4Raw floor created expires keyEpoch).payloads.find? (UsbImagePayload.fits "revpi4") =
      some (readEntry P "revpi4" revpi4ImageName package.revpi4Image revpi4Raw floor) := rfl

/-- What is signed is what the installer makes of the index exactly when the texts and the numbers of the arguments fit. -/
theorem signed_iff {rpi4Raw revpi4Raw : Bytes} {createdAt : String} {created : V.chrono.Time}
    (hpacked : Packed P A package rpi4Raw revpi4Raw createdAt) (hascii : IsAscii createdAt)
    (hparse : V.chrono.parse createdAt = some created) (hformat : V.chrono.format created = createdAt) :
    (∃ index, parseIndex V.chrono package.manifestJson = some index ∧ canonicalJsonBytes index = package.signed) ↔
      Sized package rpi4Raw revpi4Raw ∧ A.keyEpoch < UInt32.size ∧
        (V.chrono.parse A.expiresAt).map V.chrono.format = some A.expiresAt ∧ IsAscii A.expiresAt ∧ IsAscii A.rollbackFloor := by
  rw [hpacked.text, hpacked.signed]
  constructor
  · rintro ⟨index, hindex, hcanonical⟩
    obtain ⟨hsized, hepoch, created', expires, _, hexpires, rfl⟩ := (parseIndex_manifestText_iff hpacked.epoch).1 hindex
    obtain ⟨_, hexpiresFormat, _, hexpiresAscii, hfloorAscii⟩ := (canonicalJsonBytes_eq_iff hpacked.epoch).1 hcanonical
    exact ⟨hsized, hepoch, Option.map_eq_some_iff.2 ⟨expires, hexpires, hexpiresFormat⟩, hexpiresAscii, hfloorAscii⟩
  · rintro ⟨hsized, hepoch, hexpires, hexpiresAscii, hfloorAscii⟩
    obtain ⟨expires, hexpires, hexpiresFormat⟩ := Option.map_eq_some_iff.1 hexpires
    exact ⟨_, (parseIndex_manifestText_iff hpacked.epoch).2 ⟨hsized, hepoch, created, expires, hparse, hexpires, rfl⟩,
      (canonicalJsonBytes_eq_iff hpacked.epoch).2 ⟨hformat, hexpiresFormat, hascii, hexpiresAscii, hfloorAscii⟩⟩

/-! ### One payload

The images of `rpi4-cm4\n` and `revpi4\n`, signed with the key of the sample manifests.
-/

def hexBytes (text : String) : Bytes := (Hex.decode (Ota.ascii text)).getD []

def sampleBoot : Bytes := Ota.ascii "boot\n"

def sampleRootfs : Bytes := Ota.ascii "rootfs\n"

def sampleRpi4 : Bytes :=
  [0xfd, 0x37, 0x7a, 0x58, 0x5a, 0x00, 0x00, 0x04, 0xe6, 0xd6, 0xb4, 0x46, 0x02, 0x00, 0x21, 0x01, 0x16, 0x00, 0x00, 0x00,
    0x74, 0x2f, 0xe5, 0xa3, 0x01, 0x00, 0x08, 0x72, 0x70, 0x69, 0x34, 0x2d, 0x63, 0x6d, 0x34, 0x0a, 0x00, 0x00, 0x00, 0x00,
    0x84, 0x9d, 0xc5, 0xf4, 0x9c, 0x4b, 0x83, 0x7a, 0x00, 0x01, 0x21, 0x09, 0x6c, 0x18, 0xc5, 0xd5, 0x1f, 0xb6, 0xf3, 0x7d,
    0x01, 0x00, 0x00, 0x00, 0x00, 0x04, 0x59, 0x5a]

def sampleRevpi4 : Bytes :=
  [0xfd, 0x37, 0x7a, 0x58, 0x5a, 0x00, 0x00, 0x04, 0xe6, 0xd6, 0xb4, 0x46, 0x02, 0x00, 0x21, 0x01, 0x16, 0x00, 0x00, 0x00,
    0x74, 0x2f, 0xe5, 0xa3, 0x01, 0x00, 0x06, 0x72, 0x65, 0x76, 0x70, 0x69, 0x34, 0x0a, 0x00, 0x00, 0xb6, 0x45, 0x05, 0x57,
    0xcf, 0x81, 0xf1, 0xb3, 0x00, 0x01, 0x1f, 0x07, 0x16, 0x2e, 0xb8, 0x73, 0x1f, 0xb6, 0xf3, 0x7d, 0x01, 0x00, 0x00, 0x00,
    0x00, 0x04, 0x59, 0x5a]

def sampleUnpack (bytes : Bytes) : Option Bytes :=
  if bytes = sampleRpi4 then some (Ota.ascii "rpi4-cm4\n")
  else if bytes = sampleRevpi4 then some (Ota.ascii "revpi4\n")
  else none

def sampleSha256 (bytes : Bytes) : Bytes :=
  if bytes = sampleBoot then hexBytes "deb055d836e44a1dcf0317b0cacac2dbdd36301f82abf787f7849d3f5b916750"
  else if bytes = sampleRootfs then hexBytes "f8a581d4bce57f792444b2230b5706a6f902fbac19a374e76f6a56f030d35cf2"
  else if bytes = Ota.samplePublicPem then hexBytes "c38bd1e7d6607bf7785929b0cdf8e2d20d33583e8a8f6cde37b9b6f412583978"
  else if bytes = sampleRpi4 then hexBytes "dd96d5423e0688754c0078acd2bbeaea469aef4c4245ed5555b5d6d29a16e5b2"
  else if bytes = sampleRevpi4 then hexBytes "33591f003f5ccd078dee40f787dc09e0dd6365a2f3a39b2127b4cad7e6a7ecce"
  else if bytes = Ota.ascii "rpi4-cm4\n" then hexBytes "74f181983210894dc0cf0d1f388830bc0232d73236b9b7b40cb3240be12a963e"
  else if bytes = Ota.ascii "revpi4\n" then hexBytes "5459a01f9a21f13d046d19f8da294110d2b75fe54c498b3a84e98c602d9899f7"
  else List.replicate 32 0

def sampleRecord (name value : String) (bytes : Bytes) : Value :=
  .dict [(name, .str value), ("bytes", .int bytes.length), ("sha256", .str (hexdigest sampleSha256 bytes))]

/-- What Python makes of the two documents. -/
def sampleLoads (bytes : Bytes) : Option Value :=
  if bytes = Ota.ascii "base" then
    some (.dict [("schema_version", .str "suderra.usb-installer-base.v1"),
      ("files", .list [sampleRecord "role" "boot-vfat" sampleBoot, sampleRecord "role" "rootfs-ext4" sampleRootfs]),
      ("installer_payload_public_key", .dict [("sha256", .str (hexdigest sampleSha256 Ota.samplePublicPem))])])
  else if bytes = Ota.ascii "inputs" then
    some (.dict [("schema_version", .str "suderra.payload-inputs.v1"),
      ("inputs", .list [sampleRecord "artifact" rpi4ImageName sampleRpi4, sampleRecord "artifact" revpi4ImageName sampleRevpi4])])
  else none

/-- The programs of a build, of which `openssl` makes and takes one signature. -/
def samplePython (message signature : Bytes) : Python where
  sha256 := sampleSha256
  lzma := sampleUnpack
  loads := sampleLoads
  fromIsoformat := fun text => text == "2099-01-01T00:00:00+00:00" || text == "2099-01-01T00:00:00.000+00:00"
  timestamp := fun epoch => if epoch = some "1767225600" then some "2026-01-01T00:00:00Z" else none
  sign := fun pem bytes => if pem = Ota.sampleSecretPem ∧ bytes = message then some signature else none
  verify := fun pem bytes sig => decide (pem = Ota.samplePublicPem ∧ bytes = message ∧ sig = signature)
  repr := fun _ => []

def sampleArgs (expiresAt : String) : Args where
  baseBoot := some sampleBoot
  baseRootfs := some sampleRootfs
  baseManifest := some (Ota.ascii "base")
  payloadInputsManifest := some (Ota.ascii "inputs")
  genimageCfg := some []
  rpi4Image := some sampleRpi4
  revpi4Image := some sampleRevpi4
  signKey := some Ota.sampleSecretPem
  publicKey := some Ota.samplePublicPem
  expiresAt := expiresAt
  keyEpoch := 1
  sourceDateEpoch := some "1767225600"
  rollbackFloor := "v0.0.0"
  imagesMade := true

def sampleIndex (expiresAt : String) : Value :=
  manifest (samplePython [] []) (sampleArgs expiresAt) sampleRpi4 (Ota.ascii "rpi4-cm4\n") sampleRevpi4 (Ota.ascii "revpi4\n")
    "2026-01-01T00:00:00Z"

def sampleMessage (expiresAt : String) : Bytes := signedText (samplePython [] []) (sampleIndex expiresAt)

/-- The signature of the index that expires at the time as `chrono` spells it, and of the one that spells out no milliseconds. -/
def sampleSignature (expiresAt : String) : Bytes :=
  if expiresAt = "2099-01-01T00:00:00Z" then
    hexBytes ("ccbde48ce3341b17ee00e4da67721ead0f69891ce0a38b8619f0b522a211b521" ++
      "45f8b1a03bb254681e627c432a29b8a981ada3969f50790834f56b39e310f203")
  else
    hexBytes ("7c4328093f0fc8b466fa179ad56f39303e690b080c28d180338468b0102c9de3" ++
      "da38ad60ad186e0945fcff135b37e2cf944c9cccc8459e4f598f0368e5cce70e")

/-- The programs of the build that expires at a time. -/
def sampleBuild (expiresAt : String) : Python := samplePython (sampleMessage expiresAt) (sampleSignature expiresAt)

def samplePackage (expiresAt : String) : Package where
  rpi4Image := sampleRpi4
  revpi4Image := sampleRevpi4
  manifestJson := manifestText (sampleBuild expiresAt) (sampleIndex expiresAt)
  manifestSig := sampleSignature expiresAt
  signed := sampleMessage expiresAt

/-- Seconds since 1970, of the two times that the sample has. -/
def sampleChrono : Chrono where
  Time := Nat
  parse := fun text =>
    if text = "2026-01-01T00:00:00Z" then some 1767225600
    else if text = "2099-01-01T00:00:00Z" ∨ text = "2099-01-01T00:00:00.000Z" then some 4070908800
    else none
  format := fun time => if time = 1767225600 then "2026-01-01T00:00:00Z" else "2099-01-01T00:00:00Z"
  before := fun a b => decide (a < b)

def sampleCrates (expiresAt : String) : Crates where
  sha256 := sampleSha256
  xz := sampleUnpack
  base64 := fun _ => none
  validKey := fun key => key == Ota.sampleKey
  verify := fun key message signature =>
    decide (key = Ota.sampleKey ∧ message = sampleMessage expiresAt ∧ signature = sampleSignature expiresAt)
  chrono := sampleChrono

/-- The key file of the device, in hexadecimal digits. -/
def sampleDeviceKey : Option Bytes := some (Utf8.encode (String.ofList (Hex.encode Ota.sampleKey)))

/-- Hexadecimal digits of as many bytes as are asked for are read. -/
theorem decodeHexArray_encode {n : Nat} {bytes : Bytes} (h : bytes.length = n) (label : String) :
    decodeHexArray n (String.ofList (Hex.encode bytes)) label = .ok bytes := by
  have hspace : ∀ d < 16, Text.isWhitespace (Nat.digitChar d) = false := by decide
  have htrim : trim (String.ofList (Hex.encode bytes)) = String.ofList (Hex.encode bytes) := by
    rw [trim, String.toList_ofList, trimChars, PyText.trimMatches_eq]
    intro c hc
    obtain ⟨d, hd, rfl⟩ := Hex.mem_encode hc
    exact hspace d hd
  have hascii : Utf8.encode (String.ofList (Hex.encode bytes)) = (Hex.encode bytes).map fun c => UInt8.ofNat c.toNat := by
    rw [Utf8.encode_ofList, List.map_eq_flatMap]
    refine List.flatMap_congr fun c hc => ?_
    obtain ⟨d, hd, rfl⟩ := Hex.mem_encode hc
    exact Utf8.utf8EncodeChar_of_lt (Hex.digitChar_lt d hd)
  rw [decodeHexArray, htrim, hascii, Hex.decode_encode, orError_some, ok_bind, guardError_bind_ok_iff]
  exact ⟨decide_eq_true h, rfl⟩

/-- The key of the device is read wherever it is a valid one. -/
theorem readPublicKey_sample {V : Crates} (hvalid : V.validKey Ota.sampleKey = true) :
    readPublicKey V sampleDeviceKey = .ok Ota.sampleKey := by
  have hpem : (Utf8.encode "-----BEGIN PUBLIC KEY-----").isPrefixOf (Utf8.encode (String.ofList (Hex.encode Ota.sampleKey))) = false := by
    rw [Utf8.encode_ofList, Utf8.encode_ofList]
    decide
  have hbytes : publicKeyBytes V (Utf8.encode (String.ofList (Hex.encode Ota.sampleKey))) = .ok Ota.sampleKey := by
    rw [publicKeyBytes, hpem, if_neg Bool.false_ne_true, Utf8.decode_encode, orError_some]
    exact decodeHexArray_encode rfl "public key"
  simp only [readPublicKey, sampleDeviceKey, orError_some, ok_bind, hbytes, hvalid, guardError, if_true]

theorem ascii_ofList (cs : List Char) : Ota.ascii (String.ofList cs) = cs.map fun c => UInt8.ofNat c.toNat := by
  rw [Ota.ascii, String.toList_ofList]

theorem length_hexBytes {digits : List Char} {n : Nat} (h : ((Hex.decode (digits.map fun c => UInt8.ofNat c.toNat)).getD []).length = n) :
    (hexBytes (String.ofList digits)).length = n := by
  rw [hexBytes, ascii_ofList]
  exact h

theorem length_sampleSha256 (bytes : Bytes) : (sampleSha256 bytes).length = 32 := by
  unfold sampleSha256
  split_ifs
  case neg => exact List.length_replicate
  all_goals exact length_hexBytes (by decide +kernel)

theorem ascii_ne_nil {text : String} (h : text ≠ "") : Ota.ascii text ≠ [] := by
  rw [Ota.ascii, ne_eq, List.map_eq_nil_iff, String.toList_eq_nil_iff]
  exact h

theorem nonEmpty_some {bytes : Bytes} (h : bytes ≠ []) : nonEmpty (some bytes) = some bytes := by simp [nonEmpty, h]

/-- A document of the base with the records of its files and of the key is taken. -/
theorem loadBaseManifest_eq {P : Python} {A : Args} {text publicKey boot rootfs : Bytes} (htext : A.baseManifest = some text)
    (hboot : nonEmpty A.baseBoot = some boot) (hrootfs : nonEmpty A.baseRootfs = some rootfs)
    (hloads : P.loads text = some (.dict [("schema_version", .str "suderra.usb-installer-base.v1"),
      ("files", .list [.dict [("role", .str "boot-vfat"), ("bytes", .int boot.length), ("sha256", .str (hexdigest P.sha256 boot))],
        .dict [("role", .str "rootfs-ext4"), ("bytes", .int rootfs.length), ("sha256", .str (hexdigest P.sha256 rootfs))]]),
      ("installer_payload_public_key", .dict [("sha256", .str (hexdigest P.sha256 publicKey))])])) :
    loadBaseManifest P A publicKey = some () := by
  simp [loadBaseManifest, loadSchema, htext, hloads, hboot, hrootfs, lastWith, Value.asDict, Value.asList, Value.field, Value.lookup,
    Value.isHashable, recordsFile, Value.pyEq_int, guard]

/-- A document with the records of both images is taken. -/
theorem loadPayloadInputsManifest_eq {P : Python} {A : Args} {text rpi4 revpi4 : Bytes} (htext : A.payloadInputsManifest = some text)
    (hloads : P.loads text = some (.dict [("schema_version", .str "suderra.payload-inputs.v1"),
      ("inputs", .list [.dict [("artifact", .str rpi4ImageName), ("bytes", .int rpi4.length), ("sha256", .str (hexdigest P.sha256 rpi4))],
        .dict [("artifact", .str revpi4ImageName), ("bytes", .int revpi4.length), ("sha256", .str (hexdigest P.sha256 revpi4))]])])) :
    loadPayloadInputsManifest P A rpi4 revpi4 = some () := by
  simp [loadPayloadInputsManifest, loadSchema, htext, hloads, lastWith, Value.asDict, Value.asList, Value.field, Value.lookup, recordsFile,
    Value.pyEq_int, guard, rpi4ImageName, revpi4ImageName]

theorem assemble_sample {expiresAt : String} (h : validateIso8601Z (sampleBuild expiresAt) expiresAt = true) :
    assemble (sampleBuild expiresAt) (sampleArgs expiresAt) = some (samplePackage expiresAt) := by
  have hboot : sampleBoot ≠ [] := ascii_ne_nil (by decide)
  have hrootfs : sampleRootfs ≠ [] := ascii_ne_nil (by decide)
  have himage : sampleRpi4 ≠ [] := List.cons_ne_nil _ _
  have himage' : sampleRevpi4 ≠ [] := List.cons_ne_nil _ _
  have hsecret : Ota.sampleSecretPem ≠ [] := ascii_ne_nil (by simp)
  have hpublic : Ota.samplePublicPem ≠ [] := ascii_ne_nil (by simp)
  have hinputs : Ota.ascii "inputs" ≠ Ota.ascii "base" := by decide
  have hbase : loadBaseManifest (sampleBuild expiresAt) (sampleArgs expiresAt) Ota.samplePublicPem = some () :=
    loadBaseManifest_eq rfl (nonEmpty_some hboot) (nonEmpty_some hrootfs) (show sampleLoads (Ota.ascii "base") = _ from if_pos rfl)
  have hinputs : loadPayloadInputsManifest (sampleBuild expiresAt) (sampleArgs expiresAt) sampleRpi4 sampleRevpi4 = some () :=
    loadPayloadInputsManifest_eq rfl (show sampleLoads (Ota.ascii "inputs") = _ from (if_neg hinputs).trans (if_pos rfl))
  have hrpi4 : (sampleBuild expiresAt).lzma sampleRpi4 = some (Ota.ascii "rpi4-cm4\n") := by
    simp [sampleBuild, samplePython, sampleUnpack]
  have hrevpi4 : (sampleBuild expiresAt).lzma sampleRevpi4 = some (Ota.ascii "revpi4\n") := by
    have hother : sampleRevpi4 ≠ sampleRpi4 := by decide
    simp [sampleBuild, samplePython, sampleUnpack, hother]
  have htimestamp : (sampleBuild expiresAt).timestamp (sampleArgs expiresAt).sourceDateEpoch = some "2026-01-01T00:00:00Z" := by
    simp [sampleBuild, samplePython, sampleArgs]
  have hsign : (sampleBuild expiresAt).sign Ota.sampleSecretPem (sampleMessage expiresAt) = some (sampleSignature expiresAt) := by
    simp [sampleBuild, samplePython]
  have hverify : (sampleBuild expiresAt).verify Ota.samplePublicPem (sampleMessage expiresAt) (sampleSignature expiresAt) = true := by
    simp [sampleBuild, samplePython]
  have hindex : manifest (sampleBuild expiresAt) (sampleArgs expiresAt) sampleRpi4 (Ota.ascii "rpi4-cm4\n") sampleRevpi4
      (Ota.ascii "revpi4\n") "2026-01-01T00:00:00Z" = sampleIndex expiresAt := by
    simp only [sampleIndex, manifest, payloadEntry, sampleBuild, samplePython]
  have hsigned : signedText (sampleBuild expiresAt) (sampleIndex expiresAt) = sampleMessage expiresAt := by
    simp only [signedText, sampleMessage, sampleBuild, samplePython]
  have hepoch : 0 < (sampleArgs expiresAt).keyEpoch := Int.one_pos
  have hboot' : nonEmpty (sampleArgs expiresAt).baseBoot = some sampleBoot := nonEmpty_some hboot
  have hrootfs' : nonEmpty (sampleArgs expiresAt).baseRootfs = some sampleRootfs := nonEmpty_some hrootfs
  have hrpi4' : nonEmpty (sampleArgs expiresAt).rpi4Image = some sampleRpi4 := nonEmpty_some himage
  have hrevpi4' : nonEmpty (sampleArgs expiresAt).revpi4Image = some sampleRevpi4 := nonEmpty_some himage'
  have hsecret' : nonEmpty (sampleArgs expiresAt).signKey = some Ota.sampleSecretPem := nonEmpty_some hsecret
  have hpublic' : nonEmpty (sampleArgs expiresAt).publicKey = some Ota.samplePublicPem := nonEmpty_some hpublic
  simp only [assemble, Option.bind_eq_bind, Option.bind_eq_some_iff, Option.guard_eq_some']
  refine ⟨(), hepoch, (), h, _, hboot', _, hrootfs', _, hrpi4', _, hrevpi4', _, hsecret', _, hpublic', (), rfl, (), hbase, (), hinputs, _,
    hrpi4, _, hrevpi4, _, htimestamp, ?_⟩
  rw [hindex, hsigned]
  exact ⟨_, hsign, (), hverify, (), rfl, rfl⟩

/-- A time with milliseconds is one that the packager takes, and the installer's text of the index has it without them. -/
theorem package_disagrees_at_milliseconds :
    assemble (sampleBuild "2099-01-01T00:00:00.000Z") (sampleArgs "2099-01-01T00:00:00.000Z") =
        some (samplePackage "2099-01-01T00:00:00.000Z") ∧
      ¬Agrees (sampleCrates "2099-01-01T00:00:00.000Z") (sampleArgs "2099-01-01T00:00:00.000Z")
        (samplePackage "2099-01-01T00:00:00.000Z") sampleDeviceKey (1767225600 : Nat) := by
  have hvalid : validateIso8601Z (sampleBuild "2099-01-01T00:00:00.000Z") "2099-01-01T00:00:00.000Z" = true := by decide
  have hassemble := assemble_sample hvalid
  refine ⟨hassemble, fun h => ?_⟩
  obtain ⟨rpi4Raw, revpi4Raw, createdAt, hpacked⟩ := packed_of_assemble hassemble
  have hcreated : "2026-01-01T00:00:00Z" = createdAt := Option.some.inj hpacked.created
  have hascii : IsAscii createdAt := by
    rw [← hcreated]
    unfold IsAscii
    decide
  have hparse : sampleChrono.parse createdAt = some (1767225600 : Nat) := by
    rw [← hcreated]
    rfl
  have hsigned := (signed_iff (V := sampleCrates "2099-01-01T00:00:00.000Z") hpacked hascii hparse hcreated).1 h.1
  have hexpires := hsigned.2.2.1
  have hwritten : (sampleChrono.parse "2099-01-01T00:00:00.000Z").map sampleChrono.format = some "2099-01-01T00:00:00Z" := rfl
  exact absurd (Option.some.inj (hwritten.symm.trans hexpires)) (by decide)

/-- The packager and the installer agree exactly when the arguments fit. -/
theorem package_agrees_iff (hsha : V.sha256 = P.sha256) (h32 : ∀ bytes, (P.sha256 bytes).length = 32)
    (hcreated : ∀ text, P.timestamp A.sourceDateEpoch = some text → IsAscii text ∧ (V.chrono.parse text).map V.chrono.format = some text)
    {key : Bytes} (hkey : readPublicKey V deviceKey = .ok key)
    (hverify : ∀ publicKey message signature, A.publicKey = some publicKey → P.verify publicKey message signature = true →
      signature.length = 64 ∧ V.verify key message signature = true)
    (hfuture : ∀ expires, V.chrono.parse A.expiresAt = some expires → V.chrono.before expires now = false)
    (h : assemble P A = some package) : Agrees V A package deviceKey now ↔ Fits P V A := by
  obtain ⟨rpi4Raw, revpi4Raw, createdAt, hpacked⟩ := packed_of_assemble h
  obtain ⟨hcreatedAscii, hcreatedTime⟩ := hcreated createdAt hpacked.created
  obtain ⟨created, hcreatedParse, hcreatedFormat⟩ := Option.map_eq_some_iff.1 hcreatedTime
  obtain ⟨publicKey, hpublic, hsignature⟩ := hpacked.signature
  have hsig := hverify publicKey _ _ hpublic hsignature
  have hsigned := signed_iff hpacked hcreatedAscii hcreatedParse hcreatedFormat
  have haccept : (∃ index, parseIndex V.chrono package.manifestJson = some index ∧ canonicalJsonBytes index = package.signed) →
      ∀ {minKeyEpoch : Nat} {minRollbackFloor : String}, (minKeyEpoch : Int) ≤ A.keyEpoch →
        ensureVersionFloorAtLeast A.rollbackFloor minRollbackFloor "payload.rollback_floor" = .ok () →
        ((∃ payload, verifyUsbPayload V package.files ⟨deviceKey, minKeyEpoch, minRollbackFloor, "rpi4-cm4", "aarch64", now⟩ = .ok payload) ↔
          ImageFits P V package.rpi4Image rpi4Raw) ∧
        ((∃ payload, verifyUsbPayload V package.files ⟨deviceKey, minKeyEpoch, minRollbackFloor, "revpi4", "aarch64", now⟩ = .ok payload) ↔
          ImageFits P V package.revpi4Image revpi4Raw) := by
    rintro ⟨index, hindex, hcanonical⟩ minKeyEpoch minRollbackFloor hepoch hfloor
    obtain ⟨_, _, created', expires, _, hexpires, rfl⟩ := (parseIndex_manifestText_iff hpacked.epoch).1 (hpacked.text ▸ hindex)
    have hnow := hfuture expires hexpires
    exact ⟨accepts_iff hsha h32 hindex hcanonical hkey hsig hnow hepoch hfloor (by decide) (by decide) (by decide) (by decide)
        rfl hpacked.rpi4.1 (findRpi4 ..),
      accepts_iff hsha h32 hindex hcanonical hkey hsig hnow hepoch hfloor (by decide) (by decide) (by decide) (by decide)
        rfl hpacked.revpi4.1 (findRevpi4 ..)⟩
  constructor
  · rintro ⟨hindex, hboards⟩
    obtain ⟨hsized, hepoch, hexpires, hascii⟩ := hsigned.1 hindex
    refine ⟨hexpires, hascii, hepoch, (forall_hasImage_iff hpacked).2 hsized, fun hversion => (forall_hasImage_iff hpacked).2 ?_⟩
    have hself := (ensureVersionFloorAtLeast_self "payload.rollback_floor").2 hversion
    have hzero : ((0 : Nat) : Int) ≤ A.keyEpoch := hpacked.epoch.le
    obtain ⟨hrpi4, hrevpi4⟩ := haccept hindex hzero hself
    exact ⟨hrpi4.1 (hboards _ (by simp) 0 _ hzero hself), hrevpi4.1 (hboards _ (by simp) 0 _ hzero hself)⟩
  · rintro ⟨hexpires, hascii, hepoch, hsizes, himages⟩
    have hindex := hsigned.2 ⟨(forall_hasImage_iff hpacked).1 hsizes, hepoch, hexpires, hascii⟩
    refine ⟨hindex, fun board hboard minKeyEpoch minRollbackFloor hmin hfloor => ?_⟩
    obtain ⟨hrpi4, hrevpi4⟩ := haccept hindex hmin hfloor
    obtain ⟨hrpi4Fits, hrevpi4Fits⟩ := (forall_hasImage_iff hpacked).1 (himages (parseVersion_of_ensure hfloor))
    simp only [List.mem_cons, List.not_mem_nil, or_false] at hboard
    rcases hboard with rfl | rfl
    · exact hrpi4.2 hrpi4Fits
    · exact hrevpi4.2 hrevpi4Fits

theorem package_agrees_sample :
    Agrees (sampleCrates "2099-01-01T00:00:00Z") (sampleArgs "2099-01-01T00:00:00Z") (samplePackage "2099-01-01T00:00:00Z") sampleDeviceKey
        (1767225600 : Nat) ↔
      Fits (sampleBuild "2099-01-01T00:00:00Z") (sampleCrates "2099-01-01T00:00:00Z") (sampleArgs "2099-01-01T00:00:00Z") := by
  have hkey : readPublicKey (sampleCrates "2099-01-01T00:00:00Z") sampleDeviceKey = .ok Ota.sampleKey :=
    readPublicKey_sample (by simp [sampleCrates])
  refine package_agrees_iff rfl length_sampleSha256 ?_ hkey ?_ ?_ (assemble_sample (by decide))
  · intro text htext
    have htext : "2026-01-01T00:00:00Z" = text := Option.some.inj htext
    rw [← htext]
    refine ⟨?_, rfl⟩
    unfold IsAscii
    decide
  · intro publicKey message signature _ hverify
    obtain ⟨_, hmessage, hsignature⟩ := of_decide_eq_true hverify
    rw [hmessage, hsignature]
    exact ⟨by decide +kernel, decide_eq_true ⟨rfl, rfl, rfl⟩⟩
  · intro expires hexpires
    have hexpires : (4070908800 : Nat) = expires := Option.some.inj hexpires
    rw [← hexpires]
    rfl

end Agreement

end SuderraOs.Install.Usb
