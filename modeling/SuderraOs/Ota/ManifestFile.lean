import SuderraOs.Lib.JsonText
import SuderraOs.Lib.Utf8
import SuderraOs.Ota.Manifest

/-!
# The manifest file as the device reads it

What serde's derived deserializers make of a document: a struct is an object whose known members stand once each, in any order, or
an array of its values in the order of the struct; other members are passed over. `parseManifest` is the first half of
`load_manifest`, from the bytes of the file to the record.
-/

namespace SuderraOs.Ota

/-- The members of a struct with these names. -/
def structFields (names : List String) (rename : String → String) : Value → Option (List (String × Value))
  | .dict fields =>
    let known := (fields.map fun p => (rename p.1, p.2)).filter fun p => p.1 ∈ names
    if (known.map (·.1)).Nodup then some known else none
  | .list items => if items.length ≤ names.length then some (names.zip items) else none
  | _ => none

def textField : Option Value → Option String
  | some (.str s) => some s
  | _ => none

def u64Field : Option Value → Option Nat
  | some (.int n) => if 0 ≤ n ∧ n.toNat < UInt64.size then some n.toNat else none
  | _ => none

/-- A field with `#[serde(default)]` of an optional type. -/
def optionalField {α : Type} (f : Value → Option α) : Option Value → Option (Option α)
  | none => some none
  | some .null => some none
  | some v => (f v).map some

def BundleRef.ofValue (v : Value) : Option BundleRef := do
  let fields ← structFields ["name", "sha256", "bytes"] id v
  let name ← textField (Value.lookup "name" fields)
  let sha256 ← textField (Value.lookup "sha256" fields)
  let bytes ← u64Field (Value.lookup "bytes" fields)
  some ⟨name, sha256, bytes⟩

def ManifestSignature.ofValue (v : Value) : Option ManifestSignature := do
  let fields ← structFields ["algorithm", "key_id", "public_key_sha256", "signature_hex"] id v
  let algorithm ← textField (Value.lookup "algorithm" fields)
  let keyId ← textField (Value.lookup "key_id" fields)
  let publicKeySha256 ← textField (Value.lookup "public_key_sha256" fields)
  let signatureHex ← textField (Value.lookup "signature_hex" fields)
  some ⟨algorithm, keyId, publicKeySha256, signatureHex⟩

def signedManifestNames : List String :=
  ["schema_version", "version", "target", "artifact_sha256", "bundle", "key_epoch", "expires_at", "min_current_version",
    "rollback_floor", "release_notes", "signature"]

/-- `#[serde(alias = "minimum_current_version")]`. -/
def signedManifestRename (name : String) : String :=
  if name = "minimum_current_version" then "min_current_version" else name

def SignedManifest.ofValue (v : Value) : Option SignedManifest := do
  let fields ← structFields signedManifestNames signedManifestRename v
  let schemaVersion ← textField (Value.lookup "schema_version" fields)
  let version ← textField (Value.lookup "version" fields)
  let target ← textField (Value.lookup "target" fields)
  let artifactSha256 ← textField (Value.lookup "artifact_sha256" fields)
  let bundle ← (Value.lookup "bundle" fields).bind BundleRef.ofValue
  let keyEpoch ← u64Field (Value.lookup "key_epoch" fields)
  let expiresAt ← textField (Value.lookup "expires_at" fields)
  let minCurrentVersion ← textField (Value.lookup "min_current_version" fields)
  let rollbackFloor ← textField (Value.lookup "rollback_floor" fields)
  let releaseNotes ← optionalField (fun v => textField (some v)) (Value.lookup "release_notes" fields)
  let signature ← optionalField ManifestSignature.ofValue (Value.lookup "signature" fields)
  some ⟨schemaVersion, version, target, artifactSha256, bundle, keyEpoch, expiresAt, minCurrentVersion, rollbackFloor,
    releaseNotes, signature⟩

/-- The manifest that a file of these bytes holds. -/
def parseManifest (bytes : List UInt8) : Parsed SignedManifest :=
  match Utf8.decode bytes with
  | none => .unreadable
  | some text =>
    match (JsonText.read text.toList).bind SignedManifest.ofValue with
    | none => .malformed
    | some manifest => .parsed manifest

end SuderraOs.Ota
