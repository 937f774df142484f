import SuderraOs.Install.Canonical
import SuderraOs.Install.VersionOrder

/-!
# The floor of an Edge manifest

`verify_edge_manifest_common` of `suderra-installer`. It compares the rollback floor that the manifest declares with the floor of the
device and never the version, which `verify_manifest_policy` of `suderra-ota` compares with both. So a manifest is accepted only where
its version is at or above the floor exactly when its version is at or above the floor it declares itself
(`accepted_above_floor_iff`).
-/

namespace SuderraOs.Install.Canonical

open Ota Usb

/-! ## Reading the manifest -/

/-- A unit variant is a text, or an object of the text and null. -/
def variantName : Value → Option String
  | .str name => some name
  | .dict [(name, .null)] => some name
  | _ => none

def EdgeArtifactFormat.ofName (name : String) : Option EdgeArtifactFormat :=
  if name = "tar.gz" then some .tarGz
  else if name = "tgz" then some .tgz
  else if name = "raw" then some .raw
  else if name = "bin" then some .bin
  else none

def EdgeArtifact.ofValue (v : Value) : Option EdgeArtifact := do
  let fields ← structFields ["url", "sha256", "size_bytes", "signature", "binary_name", "format"] id v
  let url ← textField (Value.lookup "url" fields)
  let sha256 ← textField (Value.lookup "sha256" fields)
  let sizeBytes ← u64Field (Value.lookup "size_bytes" fields)
  let signature ← textField (Value.lookup "signature" fields)
  let binaryName ← textField (Value.lookup "binary_name" fields)
  let format ← ((Value.lookup "format" fields).bind variantName).bind EdgeArtifactFormat.ofName
  some ⟨url, sha256, sizeBytes, signature, binaryName, format⟩

def EdgeConfigPayload.ofValue (v : Value) : Option EdgeConfigPayload := do
  let fields ← structFields ["sha256", "payload"] id v
  let sha256 ← textField (Value.lookup "sha256" fields)
  let payload ← textField (Value.lookup "payload" fields)
  some ⟨sha256, payload⟩

def EdgeProvisioningManifest.names : List String :=
  ["schema_version", "kind", "device_id", "device_code", "tenant_id", "version", "board", "arch", "artifact", "config", "not_before",
    "expires_at", "rollback_floor", "key_epoch", "signature"]

def EdgeProvisioningManifest.ofValue (C : Chrono) (v : Value) : Option (EdgeProvisioningManifest C) := do
  let fields ← structFields EdgeProvisioningManifest.names id v
  let schemaVersion ← u32Field (Value.lookup "schema_version" fields)
  let kind ← textField (Value.lookup "kind" fields)
  let deviceId ← textField (Value.lookup "device_id" fields)
  let deviceCode ← textField (Value.lookup "device_code" fields)
  let tenantId ← textField (Value.lookup "tenant_id" fields)
  let version ← textField (Value.lookup "version" fields)
  let board ← textField (Value.lookup "board" fields)
  let arch ← textField (Value.lookup "arch" fields)
  let artifact ← (Value.lookup "artifact" fields).bind EdgeArtifact.ofValue
  let config ← optionalField EdgeConfigPayload.ofValue (Value.lookup "config" fields)
  let notBefore ← (textField (Value.lookup "not_before" fields)).bind C.parse
  let expiresAt ← (textField (Value.lookup "expires_at" fields)).bind C.parse
  let rollbackFloor ← textField (Value.lookup "rollback_floor" fields)
  let keyEpoch ← u32Field (Value.lookup "key_epoch" fields)
  let signature ← textField (Value.lookup "signature" fields)
  some ⟨schemaVersion, kind, deviceId, deviceCode, tenantId, version, board, arch, artifact, config, notBefore, expiresAt, rollbackFloor,
    keyEpoch, signature⟩

/-! ## Verifying it -/

section Verifier

variable (V : Crates) (display : V.chrono.Time → String)

/-- The arguments but for the floor: the files and the key epoch, and the time. -/
structure EdgeManifestArgs where
  manifest : Option Bytes
  publicKey : Option Bytes
  minKeyEpoch : Nat
  now : V.chrono.Time

def ensureSchema (version : Nat) (kind expectedKind : String) : Except String Unit := do
  guardError s!"unsupported schema_version: {version}" (version = 1)
  guardError s!"unsupported manifest kind: {kind}" (kind = expectedKind)

def ensureUrlHttps (url : String) : Except String Unit :=
  guardError "artifact.url must use https" ("https://".toList.isPrefixOf url.toList)

def ensureKeyEpochAtLeast (actual minimum : Nat) (label : String) : Except String Unit :=
  guardError s!"{label} key_epoch {actual} is below required epoch {minimum}" (minimum ≤ actual)

def ensureNowInWindow (notBefore expiresAt now : V.chrono.Time) (label : String) : Except String Unit := do
  guardError s!"{label} is not valid before {display notBefore}" !(V.chrono.before now notBefore)
  guardError s!"{label} expired at {display expiresAt}" !(V.chrono.before expiresAt now)

def decodeSignatureValue (value : String) : Except String Bytes := decodeHexArray 64 value "signature"

/-- The fields, the times and the epoch. -/
def checkEdgeFields (manifest : EdgeProvisioningManifest V.chrono) (minKeyEpoch : Nat) (now : V.chrono.Time) : Except String Unit := do
  ensureNonempty "device_id" manifest.deviceId
  ensureNonempty "device_code" manifest.deviceCode
  ensureNonempty "tenant_id" manifest.tenantId
  ensureNonempty "version" manifest.version
  ensureNonempty "board" manifest.board
  ensureNonempty "arch" manifest.arch
  ensureSha256 manifest.artifact.sha256 "artifact.sha256"
  ensureUrlHttps manifest.artifact.url
  ensureNonempty "artifact.binary_name" manifest.artifact.binaryName
  ensureNowInWindow V display manifest.notBefore manifest.expiresAt now "edge provisioning manifest"
  ensureKeyEpochAtLeast manifest.keyEpoch minKeyEpoch "edge provisioning manifest"

/-- What `verify_edge_manifest_common` does before it looks at the floor. -/
def readEdgeManifest (args : EdgeManifestArgs V) : Except String (EdgeProvisioningManifest V.chrono) := do
  let bytes ← orError "edge manifest not readable" args.manifest
  let manifest ← orError "edge provisioning manifest JSON is invalid" ((parse bytes).bind (EdgeProvisioningManifest.ofValue V.chrono))
  ensureSchema manifest.schemaVersion manifest.kind "suderra.edge-provisioning.v1"
  let sig ← decodeSignatureValue manifest.signature
  let key ← readPublicKey V args.publicKey
  guardError "edge provisioning manifest signature verification failed"
    (V.verify key (canonicalWithoutSignature (fun _ => []) manifest) sig)
  checkEdgeFields V display manifest args.minKeyEpoch args.now
  .ok manifest

/-- The payload of the configuration, where there is one, has its digest. -/
def ensureConfig : Option EdgeConfigPayload → Except String Unit
  | none => .ok ()
  | some config => do
    ensureSha256 config.sha256 "config.sha256"
    guardError "edge config payload digest mismatch" (hexdigest V.sha256 (Utf8.encode config.payload) = config.sha256)

/-- `verify_edge_manifest_common`. -/
def verifyEdgeManifestCommon (args : EdgeManifestArgs V) (minRollbackFloor : String) :
    Except String (EdgeProvisioningManifest V.chrono) := do
  let manifest ← readEdgeManifest V display args
  ensureVersionFloorAtLeast manifest.rollbackFloor minRollbackFloor "edge provisioning manifest rollback_floor"
  ensureConfig V manifest.config
  .ok manifest

variable {V display} {args : EdgeManifestArgs V} {floor : String} {manifest : EdgeProvisioningManifest V.chrono}

theorem verifyEdgeManifestCommon_ok_iff : verifyEdgeManifestCommon V display args floor = .ok manifest ↔
    readEdgeManifest V display args = .ok manifest ∧
      ensureVersionFloorAtLeast manifest.rollbackFloor floor "edge provisioning manifest rollback_floor" = .ok () ∧
      ensureConfig V manifest.config = .ok () := by
  rw [verifyEdgeManifestCommon]
  constructor
  · intro h
    obtain ⟨read, hread, h⟩ := bind_ok_iff.1 h
    obtain ⟨_, hfloor, h⟩ := bind_ok_iff.1 h
    obtain ⟨_, hconfig, h⟩ := bind_ok_iff.1 h
    obtain rfl : read = manifest := Except.ok.inj h
    exact ⟨hread, hfloor, hconfig⟩
  · rintro ⟨hread, hfloor, hconfig⟩
    rw [hread, ok_bind, hfloor, ok_bind, hconfig, ok_bind]

theorem readEdgeManifest_ok_iff : readEdgeManifest V display args = .ok manifest ↔
    ∃ bytes sig key, args.manifest = some bytes ∧ (parse bytes).bind (EdgeProvisioningManifest.ofValue V.chrono) = some manifest ∧
      ensureSchema manifest.schemaVersion manifest.kind "suderra.edge-provisioning.v1" = .ok () ∧
      decodeSignatureValue manifest.signature = .ok sig ∧ readPublicKey V args.publicKey = .ok key ∧
      V.verify key (canonicalWithoutSignature (fun _ => []) manifest) sig = true ∧
      checkEdgeFields V display manifest args.minKeyEpoch args.now = .ok () := by
  constructor
  · intro h
    obtain ⟨bytes, hbytes, h⟩ := orError_bind_ok_iff.1 h
    obtain ⟨read, hread, h⟩ := orError_bind_ok_iff.1 h
    obtain ⟨_, hschema, h⟩ := bind_ok_iff.1 h
    obtain ⟨sig, hsig, h⟩ := bind_ok_iff.1 h
    obtain ⟨key, hkey, h⟩ := bind_ok_iff.1 h
    obtain ⟨hverify, h⟩ := guardError_bind_ok_iff.1 h
    obtain ⟨_, hfields, h⟩ := bind_ok_iff.1 h
    obtain rfl : read = manifest := Except.ok.inj h
    exact ⟨bytes, sig, key, hbytes, hread, hschema, hsig, hkey, hverify, hfields⟩
  · rintro ⟨bytes, sig, key, hbytes, hread, hschema, hsig, hkey, hverify, hfields⟩
    simp only [readEdgeManifest, hbytes, hread, orError_some, ok_bind, hschema, hsig, hkey, guardError, hverify, if_true, hfields]

/-- A floor that is met is one that the declared floor is at or above. -/
theorem atLeast_of_ensure {actual required label : String} (h : ensureVersionFloorAtLeast actual required label = .ok ()) :
    AtLeast actual.toList required.toList := by
  obtain ⟨_, _, h⟩ := bind_ok_iff.1 h
  obtain ⟨_, _, h⟩ := bind_ok_iff.1 h
  obtain ⟨order, hcompare, h⟩ := bind_ok_iff.1 h
  exact ⟨order, hcompare, by simpa using guardError_ok_iff.1 h⟩

/-- A manifest that is accepted with some floor is accepted with the floor that it declares. -/
theorem accepted_own_floor (h : verifyEdgeManifestCommon V display args floor = .ok manifest) :
    verifyEdgeManifestCommon V display args manifest.rollbackFloor = .ok manifest := by
  obtain ⟨hread, hfloor, hconfig⟩ := verifyEdgeManifestCommon_ok_iff.1 h
  exact verifyEdgeManifestCommon_ok_iff.2 ⟨hread, (ensureVersionFloorAtLeast_self _).2 (parseVersion_of_ensure hfloor), hconfig⟩

/-- A manifest that is accepted is nowhere accepted below the floor of a device exactly when its version is not below the floor that it
declares. -/
theorem accepted_above_floor_iff (h : verifyEdgeManifestCommon V display args floor = .ok manifest) :
    (∀ args floor, verifyEdgeManifestCommon V display args floor = .ok manifest → AtLeast manifest.version.toList floor.toList) ↔
      AtLeast manifest.version.toList manifest.rollbackFloor.toList := by
  constructor
  · exact fun habove => habove args manifest.rollbackFloor (accepted_own_floor h)
  · intro hown args floor haccepted
    exact hown.trans (atLeast_of_ensure (verifyEdgeManifestCommon_ok_iff.1 haccepted).2.1)

end Verifier

/-! ## A signed manifest below its own floor -/

/-- The signature of the manifest by the key of the sample. -/
def edgeSignature : Bytes :=
  hexBytes ("27c9e662817e3f2b54ff020ebe4b4e7599cc42c239f5fd7dd9b6e4bf4e754c13" ++
    "91e2955873f335cae2fdbcc41d0f8506806b0da9f96fdbcc440d218967c1f90b")

/-- Version 0.9.0 above a declared floor of 1.0.0. -/
def edgeManifest : EdgeProvisioningManifest Usb.sampleChrono where
  schemaVersion := 1
  kind := "suderra.edge-provisioning.v1"
  deviceId := "device-1"
  deviceCode := "D1"
  tenantId := "tenant-1"
  version := "v0.9.0"
  board := "revpi4"
  arch := "aarch64"
  artifact := ⟨"https://updates.suderra.example/edge.tar.gz",
    "7f8518f7db5e9a55049f49c4ea6d6e8f509695231e60cbd607bcb36c88a75a14", 9, "00", "suderra-edge", .tarGz⟩
  config := none
  notBefore := (1767225600 : Nat)
  expiresAt := (4070908800 : Nat)
  rollbackFloor := "v1.0.0"
  keyEpoch := 1
  signature := String.ofList (Hex.encode edgeSignature)

def edgeCrates : Crates where
  sha256 := Usb.sampleSha256
  xz := fun _ => none
  base64 := fun _ => none
  validKey := fun key => key == Ota.sampleKey
  verify := fun key message signature =>
    decide (key = Ota.sampleKey ∧ message = canonicalWithoutSignature (fun _ => []) edgeManifest ∧ signature = edgeSignature)
  chrono := Usb.sampleChrono

/-- The manifest as a file, and the key of the device, in the first second of 2026. -/
def edgeArgs : EdgeManifestArgs edgeCrates where
  manifest := some (canonicalValueBytes (fun _ => []) (.dict edgeManifest.fields))
  publicKey := sampleDeviceKey
  minKeyEpoch := 1
  now := (1767225600 : Nat)

theorem parse_edgeManifest : (parse (canonicalValueBytes (fun _ => []) (.dict edgeManifest.fields))).bind
    (EdgeProvisioningManifest.ofValue edgeCrates.chrono) = some edgeManifest := by
  have hplain : (Value.dict edgeManifest.fields).plain = true := by rfl
  rw [parse_canonicalValueBytes _ hplain]
  rfl

theorem length_hexBytes_append {digits more : List Char} {n : Nat}
    (h : ((Hex.decode ((digits ++ more).map fun c => UInt8.ofNat c.toNat)).getD []).length = n) :
    (hexBytes (String.ofList digits ++ String.ofList more)).length = n := by
  rw [← String.ofList_append]
  exact length_hexBytes h

theorem decodeSignature_edgeManifest : decodeSignatureValue edgeManifest.signature = .ok edgeSignature := by
  exact decodeHexArray_encode (length_hexBytes_append (by decide +kernel)) "signature"

theorem checkEdgeFields_edgeManifest (display : Usb.sampleChrono.Time → String) :
    checkEdgeFields edgeCrates display edgeManifest 1 (1767225600 : Nat) = .ok () := by
  have htexts : ∀ text ∈ [edgeManifest.deviceId, edgeManifest.deviceCode, edgeManifest.tenantId, edgeManifest.version, edgeManifest.board,
      edgeManifest.arch, edgeManifest.artifact.binaryName], Text.trim text ≠ "" := by decide
  simp only [List.forall_mem_cons, List.not_mem_nil, false_implies, implies_true, and_true] at htexts
  obtain ⟨hdevice, hcode, htenant, hversion, hboard, harch, hbinary⟩ := htexts
  have hsha : ensureSha256 edgeManifest.artifact.sha256 "artifact.sha256" = .ok () := by
    rw [ensureSha256]
    decide +kernel
  have hurl : ensureUrlHttps edgeManifest.artifact.url = .ok () := by decide
  have hwindow : ensureNowInWindow edgeCrates display edgeManifest.notBefore edgeManifest.expiresAt (1767225600 : Nat)
      "edge provisioning manifest" = .ok () := rfl
  have hepoch : ensureKeyEpochAtLeast edgeManifest.keyEpoch 1 "edge provisioning manifest" = .ok () := rfl
  simp [checkEdgeFields, ensureNonempty, guardError, hdevice, hcode, htenant, hversion, hboard, harch, hbinary, hsha, hurl, hwindow, hepoch,
    bind, Except.bind]

/-- The manifest is accepted where the floor of the device is 1.0.0. -/
theorem edgeManifest_accepted (display : Usb.sampleChrono.Time → String) :
    verifyEdgeManifestCommon edgeCrates display edgeArgs "v1.0.0" = .ok edgeManifest := by
  have hschema : ensureSchema edgeManifest.schemaVersion edgeManifest.kind "suderra.edge-provisioning.v1" = .ok () := by decide
  have hkey : readPublicKey edgeCrates sampleDeviceKey = .ok Ota.sampleKey := readPublicKey_sample (by simp [edgeCrates])
  have hverify : edgeCrates.verify Ota.sampleKey (canonicalWithoutSignature (fun _ => []) edgeManifest) edgeSignature = true :=
    decide_eq_true ⟨rfl, rfl, rfl⟩
  have hread : readEdgeManifest edgeCrates display edgeArgs = .ok edgeManifest :=
    readEdgeManifest_ok_iff.2 ⟨_, _, _, rfl, parse_edgeManifest, hschema, decodeSignature_edgeManifest, hkey, hverify,
      checkEdgeFields_edgeManifest display⟩
  exact verifyEdgeManifestCommon_ok_iff.2 ⟨hread, by decide, rfl⟩

/-- Version 0.9.0 is below the floor. -/
theorem accepted_below_floor : ∃ (V : Crates) (display : V.chrono.Time → String) (args : EdgeManifestArgs V) (floor : String)
    (manifest : EdgeProvisioningManifest V.chrono), verifyEdgeManifestCommon V display args floor = .ok manifest ∧
      compareVersions manifest.version.toList floor.toList = .ok .lt :=
  ⟨edgeCrates, Usb.sampleChrono.format, edgeArgs, "v1.0.0", edgeManifest, edgeManifest_accepted _, by decide⟩

theorem accepted_above_floor_iff_sample :
    (∀ args floor, verifyEdgeManifestCommon edgeCrates Usb.sampleChrono.format args floor = .ok edgeManifest →
        AtLeast edgeManifest.version.toList floor.toList) ↔
      AtLeast edgeManifest.version.toList edgeManifest.rollbackFloor.toList :=
  accepted_above_floor_iff (edgeManifest_accepted _)

end SuderraOs.Install.Canonical
