import SuderraOs.Lib.Hex
import SuderraOs.Ota.State

/-!
# Manifests

The checks `install` makes before it hands a bundle to RAUC: the manifest's schema, its Ed25519 signature over the compact JSON
of its unsigned form, the policy (target, key epoch, expiry, four version comparisons, digest) and the bundle file.
-/

namespace SuderraOs.Ota

open Text

def loadManifest (io : Io) (path : String) : Except Error SignedManifest :=
  match io.manifest with
  | .unreadable => .error s!"cannot read update manifest: {path}"
  | .malformed => .error s!"invalid update manifest JSON: {path}"
  | .parsed manifest =>
    if manifest.schemaVersion ≠ manifestSchema then
      .error s!"manifest schema_version must be {manifestSchema}, got {manifest.schemaVersion}"
    else .ok manifest

/-! ## The signature -/

/-- The unsigned manifest as JSON, its fields in the order of the struct; `release_notes` is written even when absent. -/
def SignedManifest.unsignedJson (manifest : SignedManifest) : Json :=
  .obj [("schema_version", .str manifest.schemaVersion), ("version", .str manifest.version),
    ("target", .str manifest.target), ("artifact_sha256", .str manifest.artifactSha256),
    ("bundle", .obj [("name", .str manifest.bundle.name), ("sha256", .str manifest.bundle.sha256),
      ("bytes", .num manifest.bundle.bytes)]),
    ("key_epoch", .num manifest.keyEpoch), ("expires_at", .str manifest.expiresAt),
    ("min_current_version", .str manifest.minCurrentVersion), ("rollback_floor", .str manifest.rollbackFloor),
    ("release_notes", (manifest.releaseNotes.map Json.str).getD .null)]

def manifestSigningBytes (manifest : SignedManifest) : List UInt8 :=
  (String.ofList manifest.unsignedJson.render).toUTF8.toList

def decodeFixedHex (n : Nat) (value field : String) : Except Error (List UInt8) :=
  match Hex.decode value.toUTF8.toList with
  | none => .error s!"{field} must be lowercase hex"
  | some bytes => if bytes.length ≠ n then .error s!"{field} must decode to {n} bytes" else .ok bytes

/-- The text of a key file that holds 64 hexadecimal digits. A file that is not UTF-8 has a replacement character in its lossy
text, which is no digit. -/
def hexKeyText (raw : List UInt8) : Option String :=
  ((String.fromUTF8? ⟨raw.toArray⟩).map trim).filter fun text =>
    text.toList.length = 64 ∧ text.toList.all fun c => (Hex.digitValue c.toNat).isSome

def readPublicKey (Γ : Ctx) (io : Io) (path : String) : Except Error (List UInt8) := do
  let raw ← match io.publicKey path with
    | none => .error s!"cannot read manifest public key: {path}"
    | some raw => .ok raw
  let bytes ← match hexKeyText raw with
    | some digits => decodeFixedHex 32 digits "public key"
    | none =>
      if raw.length ≠ 32 then .error "manifest public key must be 32 raw bytes or 64 hex characters" else .ok raw
  if Γ.validKey bytes then .ok bytes else .error "invalid manifest Ed25519 public key"

/-- The key file: the argument, else the environment, else the default. -/
def manifestKeyPath (env : Env) (keyPath : Option String) : String :=
  (keyPath.or (env "SUDERRA_OTA_MANIFEST_PUBKEY")).getD "/etc/suderra/os-update-manifest.ed25519.pub"

def verifyManifestSignature (Γ : Ctx) (io : Io) (manifest : SignedManifest) (keyPath : Option String) :
    Except Error Unit := do
  let signature ← match manifest.signature with
    | none => .error "OS update manifest must carry an Ed25519 signature"
    | some signature => .ok signature
  if signature.algorithm ≠ "ed25519-suderra-os-update-manifest-v1" then
    .error s!"unsupported manifest signature algorithm: {signature.algorithm}"
  else if trim signature.keyId = "" then .error "manifest signature key_id must be non-empty"
  else
    let publicKey ← readPublicKey Γ io (manifestKeyPath io.env keyPath)
    if signature.publicKeySha256 ≠ String.ofList (Hex.encode (Γ.sha256 publicKey)) then
      .error "manifest public_key_sha256 does not match configured key"
    else
      let signatureBytes ← decodeFixedHex 64 signature.signatureHex "signature_hex"
      if Γ.verify publicKey (manifestSigningBytes manifest) signatureBytes then .ok ()
      else .error "manifest signature verification failed"

/-! ## The policy -/

/-- The required key epoch: the environment may raise it, and in production not lower it below 1. -/
def minimumEpoch (env : Env) : Nat :=
  let epoch := ((env "SUDERRA_OTA_MIN_KEY_EPOCH").bind fun value => parseU64 value.toList).getD 1
  if isProduction env then max epoch 1 else epoch

/-- A version comparison of the policy: `a` below `b` is refused with `message`. -/
def refuseBelow (a b message : String) : Except Error Unit :=
  match compareVersions a b with
  | .error e => .error e
  | .ok .lt => .error message
  | .ok _ => .ok ()

def checkExpiry (Γ : Ctx) (io : Io) (manifest : SignedManifest) : Except Error Unit :=
  match Γ.rfc3339 manifest.expiresAt with
  | none => .error s!"invalid expires_at {manifest.expiresAt}"
  | some expiresAt =>
    match nowUtc Γ io with
    | .error e => .error e
    | .ok now => if expiresAt ≤ now then .error s!"manifest expired at {manifest.expiresAt}" else .ok ()

/-- The four version comparisons of the policy. -/
def checkVersions (manifest : SignedManifest) (state : OtaState) : Except Error Unit := do
  refuseBelow state.currentVersion manifest.minCurrentVersion
    s!"current version {state.currentVersion} is below manifest minimum {manifest.minCurrentVersion}"
  refuseBelow manifest.version state.rollbackFloor
    s!"refusing downgrade: manifest version {manifest.version} is below rollback floor {state.rollbackFloor}"
  refuseBelow manifest.version manifest.rollbackFloor
    s!"manifest version {manifest.version} is below its rollback_floor {manifest.rollbackFloor}"
  refuseBelow manifest.rollbackFloor state.rollbackFloor
    s!"manifest rollback_floor {manifest.rollbackFloor} is below device rollback floor {state.rollbackFloor}"

def verifyManifestPolicy (Γ : Ctx) (io : Io) (manifest : SignedManifest) (state : OtaState) : Except Error Unit := do
  if manifest.target ≠ deviceTarget io.env then
    .error s!"manifest target {manifest.target} does not match device target {deviceTarget io.env}"
  else if manifest.keyEpoch < minimumEpoch io.env then
    .error s!"manifest key_epoch {manifest.keyEpoch} is below required epoch {minimumEpoch io.env}"
  else
    checkExpiry Γ io manifest
    checkVersions manifest state
    if manifest.artifactSha256 ≠ manifest.bundle.sha256 then
      .error "manifest artifact_sha256 must match bundle.sha256"
    else .ok ()

/-! ## The bundle -/

def verifyBundle (io : Io) (manifest : SignedManifest) (path : String) : Except Error Unit :=
  match io.bundle with
  | none => .error s!"bundle missing: {path}"
  | some file =>
    if !file.isFile || file.len == 0 then .error s!"bundle is missing or empty: {path}"
    else if file.len ≠ manifest.bundle.bytes then
      .error s!"bundle byte count mismatch: manifest {manifest.bundle.bytes}, actual {file.len}"
    else if fileName path ≠ some manifest.bundle.name then
      .error s!"bundle filename mismatch: manifest {manifest.bundle.name}, actual {path}"
    else
      match file.sha256 with
      | .error e => .error e
      | .ok digest =>
        if digest ≠ manifest.bundle.sha256 then
          .error s!"bundle sha256 mismatch: manifest {manifest.bundle.sha256}, actual {digest}"
        else .ok ()

/-! ## What the policy accepts -/

theorem refuseBelow_ok {a b message : String} (h : refuseBelow a b message = .ok ()) : VersionLe b a := by
  unfold refuseBelow at h
  cases hc : compareVersions a b with
  | error e => rw [hc] at h; cases h
  | ok o =>
    rw [hc] at h
    cases o with
    | lt => cases h
    | eq => exact versionLe_of_not_lt hc (by decide)
    | gt => exact versionLe_of_not_lt hc (by decide)

/-- An accepted manifest is at or above the device's floor with its version and with its own floor. -/
theorem checkVersions_ok {manifest : SignedManifest} {state : OtaState} (h : checkVersions manifest state = .ok ()) :
    VersionLe state.rollbackFloor manifest.version ∧ VersionLe state.rollbackFloor manifest.rollbackFloor := by
  obtain ⟨_, _, h⟩ := bind_ok_iff.1 h
  obtain ⟨_, hversion, h⟩ := bind_ok_iff.1 h
  obtain ⟨_, _, hfloor⟩ := bind_ok_iff.1 h
  exact ⟨refuseBelow_ok hversion, refuseBelow_ok hfloor⟩

/-- The policy accepts a manifest only if its version comparisons do. -/
theorem verifyManifestPolicy_ok {Γ : Ctx} {io : Io} {manifest : SignedManifest} {state : OtaState}
    (h : verifyManifestPolicy Γ io manifest state = .ok ()) : checkVersions manifest state = .ok () := by
  unfold verifyManifestPolicy at h
  split at h
  · cases h
  · split at h
    · cases h
    · obtain ⟨_, _, h⟩ := bind_ok_iff.1 h
      obtain ⟨_, hversions, _⟩ := bind_ok_iff.1 h
      exact hversions

/-! ## Two signed manifests

Real values for the statements about fixed inputs: a key, its digest, and two manifests with their Ed25519 signatures. `sampleCtx`
behaves on them as the packages do.
-/

def sampleKey : List UInt8 :=
  [0x3b, 0x6a, 0x27, 0xbc, 0xce, 0xb6, 0xa4, 0x2d, 0x62, 0xa3, 0xa8, 0xd0, 0x2a, 0x6f, 0x0d, 0x73,
    0x65, 0x32, 0x15, 0x77, 0x1d, 0xe2, 0x43, 0xa6, 0x3a, 0xc0, 0x48, 0xa1, 0x8b, 0x59, 0xda, 0x29]

def sampleKeySha256 : String := "139e3940e64b5491722088d9a0d741628fc826e09475d341a780acde3c4b8070"

def sampleManifest (version digest signature : String) : SignedManifest where
  schemaVersion := manifestSchema
  version := version
  target := "x86_64"
  artifactSha256 := digest
  bundle := ⟨"suderra-os-" ++ version ++ ".raucb", digest, 18⟩
  keyEpoch := 1
  expiresAt := "2099-01-01T00:00:00Z"
  minCurrentVersion := "v0.1.0-alpha"
  rollbackFloor := "v1.0.0"
  releaseNotes := none
  signature := some ⟨"ed25519-suderra-os-update-manifest-v1", "os-update-1", sampleKeySha256, signature⟩

def manifest11 : SignedManifest :=
  sampleManifest "v1.1.0" "4cde3014b0e25c1125c5b5f19e1db92fa5ad3c37d8af97b094c3e38f92dc1bb2"
    ("27f0e7b59775e01c515ce02025fc07c28551d15cbc712f3c237e740a1bce8244" ++
      "f57a8060bacdeb038de87310ae79d3d53ca9688c3e6ee7e4def1cebc23c5580e")

def manifest12 : SignedManifest :=
  sampleManifest "v1.2.0" "60f9c569bed02a8072d1ba18262492462d7266be67bcddf9b5ea5a32ae025d5a"
    ("dfdd9dd9b4545275f750fcead12e9bd126b11e69b3d76b165ef2582d95030237" ++
      "cdaaa27158f0cff8931133b2d5ca6088a5f06897f251651919ba0240b19e3b00")

def sampleCtx : Ctx where
  rfc3339 := fun text => if text = "2099-01-01T00:00:00Z" then some 4070908800 else none
  sha256 := fun bytes => if bytes = sampleKey then (Hex.decode sampleKeySha256.toUTF8.toList).getD [] else []
  validKey := fun key => key == sampleKey
  verify := fun key _ signature =>
    key == sampleKey && [manifest11, manifest12].any fun manifest =>
      manifest.signature.any fun s => s.signatureHex == String.ofList (Hex.encode signature)

/-- An invocation that finds a manifest and its bundle on a device that runs slot `A`; RAUC's status is `status`. -/
def Io.offering (manifest : SignedManifest) (status : Parsed Json) : Io :=
  { Io.ordinary "rauc.slot=A" with
    manifest := .parsed manifest
    publicKey := fun _ => some sampleKey
    bundle := some ⟨true, 18, .ok manifest.bundle.sha256⟩
    raucStatus := status }

end SuderraOs.Ota
