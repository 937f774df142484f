import SuderraOs.Evidence.OperatorCreate
import SuderraOs.Evidence.SecurityReport
import SuderraOs.Lib.Sha256

/-!
# Signing sessions of an HSM

`validate` of `validate-hsm-signing-evidence.py`. The signatures are verified again only where the rest of the evidence has no failures,
for a challenge that is an object and for the artifacts that are objects. Evidence of the second version is asked for both before
(`replayable_of_current`), evidence of the first version is not: what it was replayed for is in `verified_iff`.
-/

namespace SuderraOs.Evidence.HsmSession

open Value OperatorIngress SecurityReport

/-! ## What the script asks of its surroundings -/

/-- What the evidence contract says of signing. -/
structure Policy where
  schemaVersion : String
  /-- The names in lower case. -/
  approvedProviderAllowlist : List String
  allowlistEnforced : Bool

structure Libraries extends OperatorIngress.Libraries where
  /-- `datetime.fromisoformat` of a text with the offset of UTC: the instant, and `none` where it raises `ValueError`. -/
  instant : String → Option Int
  /-- `openssl x509 -pubkey`: the public key of a certificate. -/
  publicKey : Bytes → Except String Bytes
  /-- `openssl pkeyutl -verify -rawin`, or `openssl dgst -sha256 -verify`, with a public key, a file and its signature: what it
  complains of. -/
  verify : (raw : Bool) → (key data signature : Bytes) → Option String

/-- The arguments of `validate`. -/
structure Args where
  evidencePath : PosixPath
  pkcs11Uri : String
  certificate : PosixPath
  requireProduction : Bool
  replayCrypto : Bool
  artifactRole : Option String
  artifactSha256 : Option String

def legacySchemaVersion : String := "suderra.hsm-signing-session.v1"

def softhsmMarkers : List String :=
  ["softhsm", "soft-hsm", "software hsm", "software token", "file-backed", "file backed", "filehsm"]

/-- A match of `^pkcs11:.*(?:object|id)=`. -/
def isKeyUri (uri : String) : Bool :=
  let line := (uri.toList.drop 7).takeWhile (· ≠ '\n')
  "pkcs11:".toList.isPrefixOf uri.toList && (Text.contains "object=".toList line || Text.contains "id=".toList line)

section Validator

variable (P : Policy) (L : Libraries) (files : Files) (A : Args)

/-- `parse_utc`. -/
def parseUtc (v : Value) : Option Int :=
  (v.asStr.filter fun s => s.toList.getLast? = some 'Z').bind fun s =>
    L.instant (String.ofList (s.toList.dropLast ++ "+00:00".toList))

/-- Whether a text names a token that is no hardware. -/
def isSoftHsm (s : String) : Bool := softhsmMarkers.any fun marker => Text.contains marker.toList s.toList

/-- `str(fields.get(name, ""))`. -/
def textOf (name : String) (fields : Fields) : String := ((lookup name fields).getD (.str "")).pyStr L.repr

/-! ## The fields of a session -/

/-- The failures of the certificate. -/
def certificateFailures (payload : Fields) : List String :=
  match (files A.certificate).filter fun bytes => !bytes.isEmpty with
  | none => [s!"certificate is missing or empty: {A.certificate}"]
  | some bytes => failUnless "certificate_sha256 must match SUDERRA_RAUC_SIGNING_CERT"
      ((field "certificate_sha256" payload).pyEq (.str (L.hexdigest bytes)))

/-- The failures of an order of two instants, where both are known. -/
def orderFailures (message : String) : Option Int → Option Int → List String
  | some a, some b => failUnless message (a ≤ b)
  | _, _ => []

/-- The failures of the times. -/
def timeFailures (payload : Fields) : List String :=
  let time (name : String) : Option Int := parseUtc L (field name payload)
  (["started_at", "signed_at", "expires_at"].flatMap fun name =>
      failUnless s!"{name} must be an ISO-8601 UTC timestamp" (time name).isSome) ++
    orderFailures "signed_at must be at or after started_at" (time "started_at") (time "signed_at") ++
    orderFailures "signed_at must be at or before expires_at" (time "signed_at") (time "expires_at") ++
    failUnless "production HSM evidence must preserve signed_at for historical replay"
      (!A.requireProduction || (time "signed_at").isSome)

/-- The failures of the provider. -/
def providerFailures (payload : Fields) : List String :=
  let provider := L.lower (textOf L "provider" payload)
  let token := (field "token" payload).asDict.getD []
  let identity := L.lower (" ".intercalate (provider :: ["manufacturer", "model", "label"].map fun name => textOf L name token))
  failUnless "production HSM evidence must not use SoftHSM or software tokens" (!A.requireProduction || !isSoftHsm provider) ++
    failUnless ("production HSM provider/model is not in the approved allowlist " ++
        "(evidence-contract.yml signing.replay_requirements.approved_provider_allowlist)")
      (!(A.requireProduction && P.allowlistEnforced && !P.approvedProviderAllowlist.isEmpty) ||
        P.approvedProviderAllowlist.any fun approved => Text.contains approved.toList identity.toList)

/-- The failures of the fields that both versions have. -/
def sharedFailures (payload : Fields) : List String :=
  let version := field "schema_version" payload
  failUnless s!"schema_version must be {P.schemaVersion}" (version.isIn [.str legacySchemaVersion, .str P.schemaVersion]) ++
    failUnless s!"production HSM evidence requires {P.schemaVersion}" (!A.requireProduction || version.pyEq (.str P.schemaVersion)) ++
    failUnless "pkcs11_uri must be a pkcs11: key URI containing object= or id=" (isKeyUri A.pkcs11Uri) ++
    failUnless "pkcs11_uri must match requested signing key URI" ((field "pkcs11_uri" payload).pyEq (.str A.pkcs11Uri)) ++
    certificateFailures L files A payload ++
    checkCollected "" "non-placeholder" ["provider", "hsm_serial", "key_label", "key_id", "ceremony_id", "operator", "issuer",
      "started_at", "signed_at", "expires_at"] payload ++
    timeFailures L A payload ++ failUnless "hardware_backed must be true" (field "hardware_backed" payload).isTrue ++
    providerFailures P L A payload ++
    failUnless "mode must be production" (!A.requireProduction || (field "mode" payload).pyEq (.str "production")) ++
    objectFailures (field "audit" payload) "audit must be an object" fun audit =>
      ["log_sha256", "transcript_sha256"].flatMap fun name => checkDigest s!"audit.{name}" (field name audit)

/-- The failures of the token. -/
def tokenFailures (payload token : Fields) : List String :=
  let provider := L.lower (" ".intercalate (["label", "manufacturer", "model"].map fun name => textOf L name token))
  checkCollected "token." "non-placeholder" ["label", "manufacturer", "model", "serial"] token ++
    checkDigest "token.module_sha256" (field "module_sha256" token) ++
    failUnless "production HSM token metadata must not identify SoftHSM" (!A.requireProduction || !isSoftHsm provider) ++
    failUnless "token.serial must match hsm_serial" ((field "serial" token).pyEq (field "hsm_serial" payload))

/-- The failures of the key. -/
def keyFailures (payload key : Fields) : List String :=
  failUnless "key.uri must match requested signing key URI" ((field "uri" key).pyEq (.str A.pkcs11Uri)) ++
    failUnless "key.id must match key_id" ((field "id" key).pyEq (field "key_id" payload)) ++
    checkCollected "key." "non-placeholder" ["label", "id", "type"] key ++
    failUnless "key.extractable must be false" (isFalse (field "extractable" key)) ++
    failUnless "key.private must be true" (field "private" key).isTrue ++
    failUnless "key.usages must include sign" ((field "usages" key).asList.any fun usages => usages.any (·.pyEq (.str "sign")))

/-- The failures of paths that a production replay follows. -/
def pathFailures (path : String) (names : List String) (fields : Fields) : List String :=
  if A.requireProduction then
    names.flatMap fun name =>
      failUnless s!"{path}.{name} must be a safe relative path for production replay" (safeRelativePath (field name fields)).isSome
  else []

/-- The failures of the challenge. -/
def challengeFailures (challenge : Fields) : List String :=
  checkCollected "challenge." "non-placeholder" ["nonce"] challenge ++
    (["request_sha256", "signature_sha256", "transcript_sha256"].flatMap fun name =>
      checkDigest s!"challenge.{name}" (field name challenge)) ++
    checkCollected "challenge." "non-placeholder" ["algorithm"] challenge ++
    pathFailures A "challenge" ["request_path", "signature_path", "transcript_path"] challenge

/-- The digest of the signature of an artifact. -/
def signatureSha256 (artifact : Fields) : Value := (field "signature_sha256" artifact).orElse (field "artifact_signature_sha256" artifact)

/-- The failures of an artifact. -/
def artifactFailures (path : String) (artifact : Fields) : List String :=
  checkCollected s!"{path}." "non-placeholder" ["role", "name"] artifact ++ checkDigest s!"{path}.sha256" (field "sha256" artifact) ++
    failUnless s!"{path}.bytes must be positive" (isIntFrom 1 (field "bytes" artifact)) ++
    pathFailures A path ["path", "signature_path"] artifact ++
    if A.requireProduction then checkDigest s!"{path}.signature_sha256" (signatureSha256 artifact) else []

/-- The failures of what was asked for among the artifacts. -/
def matchingFailures (artifacts : List Fields) : List String :=
  let hasRole (role : String) (artifact : Fields) : Bool := (field "role" artifact).pyEq (.str role)
  let hasSha256 (sha : String) (artifact : Fields) : Bool := (field "sha256" artifact).pyEq (.str sha)
  (A.artifactRole.toList.flatMap fun role => failUnless s!"artifacts must include requested role {role}" (artifacts.any (hasRole role))) ++
    (A.artifactSha256.toList.flatMap fun sha => failUnless "artifacts must include requested artifact sha256"
      (artifacts.any fun artifact => hasSha256 sha artifact && isDigest (field "sha256" artifact))) ++
    A.artifactRole.toList.flatMap fun role => A.artifactSha256.toList.flatMap fun sha =>
      failUnless "artifacts must bind requested role to requested artifact sha256 in the same record"
        (artifacts.any fun artifact => hasRole role artifact && hasSha256 sha artifact)

/-- The failures of the artifacts. -/
def artifactsFailures (payload : Fields) : List String :=
  match field "artifacts" payload with
  | .list (item :: items) =>
    ((item :: items).zipIdx.flatMap fun p =>
      objectFailures p.1 s!"artifacts[{p.2}] must be an object" (artifactFailures A s!"artifacts[{p.2}]")) ++
      matchingFailures A ((item :: items).filterMap asDict)
  | _ => ["artifacts must be a non-empty list"]

/-- The failures of the fields of the second version. -/
def currentFailures (payload : Fields) : List String :=
  objectFailures (field "token" payload) "token must be an object" (tokenFailures L A payload) ++
    objectFailures (field "key" payload) "key must be an object" (keyFailures A payload) ++
    objectFailures (field "challenge" payload) "challenge must be an object" (challengeFailures A) ++ artifactsFailures A payload

/-! ## The replay -/

/-- `resolve_ref`, from the directory of the evidence. -/
def resolveRef (v : Value) : Option PosixPath :=
  (safeRelativePath v).map (⟨A.evidencePath.root, A.evidencePath.names.dropLast⟩ : PosixPath).join

/-- The failures of `require_digest_bound_file`. -/
def digestBoundFailures (path : String) (v sha size : Value) : List String :=
  match resolveRef A v with
  | none => [s!"{path} must be a safe relative path"]
  | some actual =>
    match (files actual).filter fun bytes => !bytes.isEmpty with
    | none => [s!"{path} is missing or empty: {actual}"]
    | some bytes =>
      (if isDigest sha then failUnless s!"{path}_sha256 must match referenced file" (sha.pyEq (.str (L.hexdigest bytes)))
        else [s!"{path}_sha256 must be a non-zero sha256"]) ++
        if size.pyEq .null then []
        else if isIntFrom 1 size then failUnless s!"{path}_bytes must match referenced file" (size.pyEq (.int bytes.length))
        else [s!"{path}_bytes must be positive"]

/-- The file that a field names. -/
def fileOf (v : Value) : Option Bytes := (resolveRef A v).bind files

/-- Whether `verify_signature` takes the command for raw signatures. -/
def isRaw (algorithm : String) : Bool :=
  Text.contains "ed25519".toList (L.lower algorithm).toList || Text.contains "raw".toList (L.lower algorithm).toList

/-- The failure of a signature of a file, where both files are there. -/
def signatureFailures (label algorithm : String) (key : Bytes) (data signature : Value) : List String :=
  match fileOf files A data, fileOf files A signature with
  | some data, some signature =>
    (L.verify (isRaw L algorithm) key data signature).toList.map fun message => s!"{label} signature replay failed: {message}"
  | _, _ => []

/-- The algorithm of the challenge. -/
def challengeAlgorithm (challenge : Fields) : String :=
  ((lookup "algorithm" challenge).getD (.str "openssl-dgst-sha256")).pyStr L.repr

/-- The failures of the replay of the challenge. -/
def challengeReplayFailures (key : Bytes) (payload challenge : Fields) : List String :=
  (["request", "signature", "transcript"].flatMap fun name =>
      digestBoundFailures L files A s!"challenge.{name}_path" (field s!"{name}_path" challenge) (field s!"{name}_sha256" challenge) .null) ++
    signatureFailures L files A "challenge" (challengeAlgorithm L challenge) key (field "request_path" challenge)
      (field "signature_path" challenge) ++
    failUnless "audit.transcript_sha256 must match challenge transcript replay"
      (!((fileOf files A (field "transcript_path" challenge)).isSome && (field "transcript_sha256" challenge).asStr.isSome) ||
        (field "transcript_sha256" ((field "audit" payload).asDict.getD [])).pyEq (field "transcript_sha256" challenge))

/-- The failures of the replay of an artifact. -/
def artifactReplayFailures (key : Bytes) (algorithm path : String) (artifact : Fields) : List String :=
  digestBoundFailures L files A s!"{path}.path" (field "path" artifact) (field "sha256" artifact) (field "bytes" artifact) ++
    digestBoundFailures L files A s!"{path}.signature_path" (field "signature_path" artifact) (signatureSha256 artifact) .null ++
    signatureFailures L files A path (((lookup "signature_algorithm" artifact).getD (.str algorithm)).pyStr L.repr) key
      (field "path" artifact) (field "signature_path" artifact)

/-- `validate_crypto_replay`. -/
def validateCryptoReplay (payload : Fields) : List String :=
  match L.publicKey ((files A.certificate).getD []) with
  | .error message => [s!"certificate public key replay failed: {message}"]
  | .ok key =>
    match field "challenge" payload with
    | .dict challenge =>
      challengeReplayFailures L files A key payload challenge ++
        ((field "artifacts" payload).asList.getD []).zipIdx.flatMap fun p => p.1.asDict.toList.flatMap
          (artifactReplayFailures L files A key (challengeAlgorithm L challenge) s!"artifacts[{p.2}]")
    | _ => []

/-- The failures before the replay. -/
def recordFailures (payload : Fields) : List String :=
  sharedFailures P L files A payload ++
    if (field "schema_version" payload).pyEq (.str P.schemaVersion) then currentFailures L A payload else []

/-- `validate`. A schema version that cannot be hashed raises. -/
def validate (payload : Fields) : Except String (List String) := do
  guardError "TypeError" (field "schema_version" payload).isHashable
  let failures := recordFailures P L files A payload
  .ok (failures ++ if (A.requireProduction || A.replayCrypto) && failures.isEmpty then validateCryptoReplay L files A payload else [])

/-! ## What was verified -/

/-- A field names a file with the recorded digest and, where one is recorded, the recorded size. -/
structure FileBound (v sha size : Value) (bytes : Bytes) : Prop where
  file : fileOf files A v = some bytes
  digest : sha = .str (L.hexdigest bytes)
  size : size ≠ .null → size.pyEq (.int bytes.length) = true

/-- A file and its signature are the recorded ones, and the signature is one of the key. -/
def Signed (key : Bytes) (algorithm : String) (data sha size signature signatureSha : Value) : Prop :=
  ∃ bytes signed, FileBound L files A data sha size bytes ∧ FileBound L files A signature signatureSha .null signed ∧
    L.verify (isRaw L algorithm) key bytes signed = none

/-- An item of the artifacts is an object, signed with the key. -/
def ArtifactSigned (key : Bytes) (algorithm : String) (item : Value) : Prop :=
  ∃ artifact, item = .dict artifact ∧
    Signed L files A key (((lookup "signature_algorithm" artifact).getD (.str algorithm)).pyStr L.repr) (field "path" artifact)
      (field "sha256" artifact) (field "bytes" artifact) (field "signature_path" artifact) (signatureSha256 artifact)

/-- The challenge and all artifacts of a session are signed with the key of the certificate. -/
def Verified (payload : Fields) : Prop :=
  ∃ certificate key challenge, files A.certificate = some certificate ∧ L.publicKey certificate = .ok key ∧
    field "challenge" payload = .dict challenge ∧
    Signed L files A key (challengeAlgorithm L challenge) (field "request_path" challenge) (field "request_sha256" challenge) .null
      (field "signature_path" challenge) (field "signature_sha256" challenge) ∧
    ∀ items, field "artifacts" payload = .list items → ∀ item ∈ items, ArtifactSigned L files A key (challengeAlgorithm L challenge) item

/-- A session whose challenge is an object, as are all its artifacts. -/
def Replayable (payload : Fields) : Prop :=
  (field "challenge" payload).asDict.isSome = true ∧
    ∀ items, field "artifacts" payload = .list items → ∀ item ∈ items, item.asDict.isSome = true

variable {P L files A}

theorem fileBound_of_digestBoundFailures {path : String} {v sha size : Value} (h : digestBoundFailures L files A path v sha size = []) :
    ∃ bytes, FileBound L files A v sha size bytes := by
  unfold digestBoundFailures at h
  split at h
  · cases h
  · next actual hactual =>
    split at h
    · cases h
    · next bytes hbytes =>
      obtain ⟨hfile, _⟩ := Option.filter_eq_some_iff.1 hbytes
      obtain ⟨hdigest, hsize⟩ := List.append_eq_nil_iff.1 h
      refine ⟨bytes, by rw [fileOf, hactual, Option.bind_some, hfile], ?_, fun hne => ?_⟩
      · split at hdigest
        · exact pyEq_str_iff.1 (failUnless_eq_nil.1 hdigest)
        · cases hdigest
      · rw [if_neg fun hnull => hne (pyEq_null_iff.1 hnull)] at hsize
        split at hsize
        · exact failUnless_eq_nil.1 hsize
        · cases hsize

/-- What is replayed without failures is signed. -/
theorem signed_of_failures {key : Bytes} {label algorithm path path' : String} {data sha size signature signatureSha : Value}
    (hdata : digestBoundFailures L files A path data sha size = [])
    (hsignature : digestBoundFailures L files A path' signature signatureSha .null = [])
    (h : signatureFailures L files A label algorithm key data signature = []) :
    Signed L files A key algorithm data sha size signature signatureSha := by
  obtain ⟨bytes, hbytes⟩ := fileBound_of_digestBoundFailures hdata
  obtain ⟨signed, hsigned⟩ := fileBound_of_digestBoundFailures hsignature
  simp only [signatureFailures, hbytes.file, hsigned.file, List.map_eq_nil_iff, Option.toList_eq_nil_iff] at h
  exact ⟨bytes, signed, hbytes, hsigned, h⟩

theorem certificate_of_failures {payload : Fields} (h : certificateFailures L files A payload = []) :
    ∃ certificate, files A.certificate = some certificate := by
  unfold certificateFailures at h
  split at h
  · cases h
  · next bytes hbytes => exact ⟨bytes, (Option.filter_eq_some_iff.1 hbytes).1⟩

/-- A requested replay of an accepted session verified all that it has signed, exactly when its challenge and its artifacts are
objects. -/
theorem verified_iff {payload : Fields} (hreplay : A.requireProduction = true ∨ A.replayCrypto = true)
    (h : validate P L files A payload = .ok []) : Verified L files A payload ↔ Replayable payload := by
  obtain ⟨_, h⟩ := guardError_bind_ok_iff.1 h
  simp only [Except.ok.injEq, List.append_eq_nil_iff] at h
  obtain ⟨hrecord, h⟩ := h
  rw [hrecord, List.isEmpty_nil, Bool.and_true, if_pos (Bool.or_eq_true_iff.2 hreplay)] at h
  constructor
  · rintro ⟨_, _, challenge, _, _, hchallenge, _, hartifacts⟩
    refine ⟨by rw [hchallenge]; rfl, fun items hitems item hitem => ?_⟩
    obtain ⟨artifact, rfl, _⟩ := hartifacts items hitems item hitem
    rfl
  · rintro ⟨hchallenge, hartifacts⟩
    have hshared := (List.append_eq_nil_iff.1 hrecord).1
    simp only [sharedFailures, List.append_eq_nil_iff] at hshared
    obtain ⟨⟨⟨⟨⟨⟨⟨_, hcertificate⟩, _⟩, _⟩, _⟩, _⟩, _⟩, _⟩ := hshared
    obtain ⟨certificate, hcertificate⟩ := certificate_of_failures hcertificate
    rw [validateCryptoReplay, hcertificate, Option.getD_some] at h
    cases hkey : L.publicKey certificate with
    | error message => simp [hkey] at h
    | ok key =>
      cases hfield : field "challenge" payload with
      | dict challenge =>
        simp only [hkey, hfield, List.append_eq_nil_iff, challengeReplayFailures, List.flatMap_cons, List.flatMap_nil,
          List.append_nil] at h
        obtain ⟨⟨⟨⟨hrequest, hsignature, _⟩, hverify⟩, _⟩, hitems⟩ := h
        refine ⟨certificate, key, challenge, hcertificate, hkey, hfield, signed_of_failures hrequest hsignature hverify, ?_⟩
        intro items hlist item hitem
        obtain ⟨artifact, hartifact⟩ := Option.isSome_iff_exists.1 (hartifacts items hlist item hitem)
        obtain ⟨i, hi⟩ := exists_mem_zipIdx hitem
        rw [hlist] at hitems
        have hreplayed := List.flatMap_eq_nil_iff.1 hitems (item, i) hi
        simp only [hartifact, Option.toList_some, List.flatMap_singleton, artifactReplayFailures, List.append_eq_nil_iff] at hreplayed
        exact ⟨artifact, asDict_eq_some.1 hartifact, signed_of_failures hreplayed.1.1 hreplayed.1.2 hreplayed.2⟩
      | _ => simp [hfield, asDict] at hchallenge

/-- Evidence of the second version without failures can be replayed. -/
theorem replayable_of_current {payload : Fields} (hversion : field "schema_version" payload = .str P.schemaVersion)
    (h : validate P L files A payload = .ok []) : Replayable payload := by
  obtain ⟨_, h⟩ := guardError_bind_ok_iff.1 h
  simp only [Except.ok.injEq, List.append_eq_nil_iff, recordFailures, pyEq_str_iff.2 hversion, if_true, currentFailures] at h
  obtain ⟨⟨_, ⟨_, hchallenge⟩, hartifacts⟩, _⟩ := h
  constructor
  · cases hfield : field "challenge" payload with
    | dict challenge => rfl
    | _ => simp [hfield, objectFailures] at hchallenge
  · intro items hitems item hitem
    cases items with
    | nil => cases hitem
    | cons first items =>
      simp only [artifactsFailures, hitems, List.append_eq_nil_iff, List.flatMap_eq_nil_iff] at hartifacts
      obtain ⟨i, hi⟩ := exists_mem_zipIdx hitem
      have hobject := hartifacts.1 _ hi
      cases item with
      | dict artifact => rfl
      | _ => simp [objectFailures] at hobject

end Validator

/-! ### Samples -/

def samplePolicy : Policy where
  schemaVersion := "suderra.hsm-signing-session.v2"
  approvedProviderAllowlist := ["yubihsm", "thales luna"]
  allowlistEnforced := true

def sampleKey : Bytes := [0x30]

/-- A key that signed two files. -/
def sampleLibraries : Libraries :=
  { OperatorIngress.sampleLibraries with
    sha256 := Sha256.digest
    instant := fun s => [("2026-07-01T08:00:00+00:00", 1782892800), ("2026-07-01T09:00:00+00:00", 1782896400),
      ("2026-07-08T08:00:00+00:00", 1783497600)].lookup s
    publicKey := fun _ => .ok sampleKey
    verify := fun raw key data signature =>
      if !raw && key = sampleKey && (data, signature) ∈ [([1], [2]), ([4], [5, 5])] then none else some "Verification failure" }

/-- The files beside the session. -/
def sampleFiles : Files := fun path =>
  match path.names with
  | ["in", "cert.pem"] => some [0]
  | ["in", "request.bin"] => some [1]
  | ["in", "request.sig"] => some [2]
  | ["in", "transcript.txt"] => some [3]
  | ["in", "bundle.raucb"] => some [4]
  | ["in", "bundle.sig"] => some [5, 5]
  | _ => none

def sampleArgs (requireProduction : Bool) : Args where
  evidencePath := ⟨"/", ["in", "session.json"]⟩
  pkcs11Uri := "pkcs11:token=suderra;object=release"
  certificate := ⟨"/", ["in", "cert.pem"]⟩
  requireProduction := requireProduction
  replayCrypto := true
  artifactRole := none
  artifactSha256 := none

def transcriptSha256 : String := "084fed08b978af4d7d196a7446a86b58009e636b611db16211b65a9aadff29c5"

/-- What a session of either version says. -/
def sharedSample (version : String) : Fields :=
  [("schema_version", .str version), ("pkcs11_uri", .str "pkcs11:token=suderra;object=release"),
    ("certificate_sha256", .str "6e340b9cffb37a989ca544e6bb780a2c78901d3fb33738768511a30617afa01d"), ("provider", .str "YubiHSM 2"),
    ("hsm_serial", .str "0012345"), ("key_label", .str "release"), ("key_id", .str "01"), ("ceremony_id", .str "2026-07"),
    ("operator", .str "signing-operator"), ("issuer", .str "suderra"), ("started_at", .str "2026-07-01T08:00:00Z"),
    ("signed_at", .str "2026-07-01T09:00:00Z"), ("expires_at", .str "2026-07-08T08:00:00Z"), ("hardware_backed", .bool true),
    ("mode", .str "production"),
    ("audit", .dict [("log_sha256", .str transcriptSha256), ("transcript_sha256", .str transcriptSha256)])]

def currentSample : Fields :=
  sharedSample "suderra.hsm-signing-session.v2" ++
  [("token", .dict [("label", .str "suderra"), ("manufacturer", .str "Yubico"), ("model", .str "YubiHSM 2"), ("serial", .str "0012345"),
      ("module_sha256", .str transcriptSha256)]),
    ("key", .dict [("uri", .str "pkcs11:token=suderra;object=release"), ("id", .str "01"), ("label", .str "release"), ("type", .str "rsa"),
      ("extractable", .bool false), ("private", .bool true), ("usages", .list [.str "sign"])]),
    ("challenge", .dict [("nonce", .str "a1b2"), ("algorithm", .str "openssl-dgst-sha256"), ("request_path", .str "request.bin"),
      ("request_sha256", .str "4bf5122f344554c53bde2ebb8cd2b7e3d1600ad631c385a5d7cce23c7785459a"),
      ("signature_path", .str "request.sig"),
      ("signature_sha256", .str "dbc1b4c900ffe48d575b5da5c638040125f65db0fe3e24494b76ea986457d986"),
      ("transcript_path", .str "transcript.txt"), ("transcript_sha256", .str transcriptSha256)]),
    ("artifacts", .list [.dict [("role", .str "rauc-bundle"), ("name", .str "bundle.raucb"), ("path", .str "bundle.raucb"),
      ("sha256", .str "e52d9c508c502347344d8c07ad91cbd6068afc75ff6292f062a09ca381c89e71"), ("bytes", .int 1),
      ("signature_path", .str "bundle.sig"),
      ("signature_sha256", .str "4a35ad75f928b2364bae7003666ba0abff28135cb574fb49eeed9e68a1c418e6")]])]

/-- The sessions of both versions are accepted. -/
theorem samples_validated : validate samplePolicy sampleLibraries sampleFiles (sampleArgs true) currentSample = .ok [] ∧
    validate samplePolicy sampleLibraries sampleFiles (sampleArgs false) (sharedSample legacySchemaVersion) = .ok [] := by
  decide +kernel

theorem verified_currentSample : Verified sampleLibraries sampleFiles (sampleArgs true) currentSample ↔ Replayable currentSample :=
  verified_iff (P := samplePolicy) (.inl rfl) samples_validated.1

/-- A session of the first version without a challenge is accepted with a replay that verifies nothing. -/
theorem legacy_not_replayed :
    validate samplePolicy sampleLibraries sampleFiles (sampleArgs false) (sharedSample legacySchemaVersion) = .ok [] ∧
      ¬Verified sampleLibraries sampleFiles (sampleArgs false) (sharedSample legacySchemaVersion) := by
  refine ⟨samples_validated.2, ?_⟩
  rintro ⟨_, _, challenge, _, _, hchallenge, _⟩
  cases hchallenge

end SuderraOs.Evidence.HsmSession
