import SuderraOs.Evidence.Common

/-!
# The release directory

The directory of the files that are signed and published, and the role that `classify_release_asset` gives a file by its name.
-/

namespace SuderraOs.Publish

open Evidence

/-- A directory as the scripts see it: its path, the names that `iterdir` gives if it is one, and what the files hold; links are
followed. -/
structure ReleaseDir where
  path : PosixPath
  listing : Option (List String)
  files : Files
  isName : ∀ name ∈ listing.getD [], IsName name

/-- What the file of a name holds, if it is a regular file. -/
def ReleaseDir.file (D : ReleaseDir) (name : String) : Option Bytes := D.files (D.path.child name)

/-- `release_dir / name`, for a name that may be a path. -/
def ReleaseDir.at (D : ReleaseDir) (name : String) : Option Bytes := D.files (D.path.join (PosixPath.ofString name))

/-- The names of the regular files in the directory; none where it is not one. -/
def ReleaseDir.fileNames (D : ReleaseDir) : List String := (D.listing.getD []).filter fun name => (D.file name).isSome

/-- `name.endswith(suffix)`. -/
def endsWith (suffix name : String) : Bool := suffix.toList.isSuffixOf name.toList

/-- `name.startswith(prefix)`. -/
def startsWith (start name : String) : Bool := start.toList.isPrefixOf name.toList

/-- `name[: -len(suffix)]`, where the name ends with the suffix. -/
def dropSuffix (suffix name : String) : String := String.ofList (name.toList.take (name.toList.length - suffix.toList.length))

inductive AssetRole where
  | releaseImage
  | checksum
  | manifest
  | payloadSignature
  | sbom
  | attestation
  | evidence
  | signature
  | certificate
  | installer
  | releaseControl
  deriving DecidableEq, Repr

def AssetRole.text : AssetRole → String
  | releaseImage => "release-image"
  | checksum => "checksum"
  | manifest => "manifest"
  | payloadSignature => "payload-signature"
  | sbom => "sbom"
  | attestation => "attestation"
  | evidence => "evidence"
  | signature => "signature"
  | certificate => "certificate"
  | installer => "installer"
  | releaseControl => "release-control"

def classifyReleaseAsset (name : String) : AssetRole :=
  if endsWith ".img.xz" name then .releaseImage
  else if endsWith ".sha256" name || name == "SHA256SUMS" then .checksum
  else if endsWith ".manifest.txt" name || endsWith ".payload-manifest.json" name || name == "manifest.json" then .manifest
  else if endsWith ".payload-manifest.sig" name then .payloadSignature
  else if endsWith ".cyclonedx.json" name then .sbom
  else if endsWith ".intoto.jsonl" name || endsWith ".attestation.json" name then .attestation
  else if startsWith "release-evidence-" name && (endsWith ".tar.zst" name || endsWith ".tar.gz" name) then .evidence
  else if endsWith ".sig" name then .signature
  else if endsWith ".cert" name then .certificate
  else if startsWith "suderra-installer-" name then .installer
  else .releaseControl

/-- What a file name leads to is in the directory. -/
theorem ReleaseDir.at_eq_file (D : ReleaseDir) {name : String} (h : PosixPath.ofString name = ⟨"", [name]⟩) : D.at name = D.file name := by
  rw [ReleaseDir.at, ReleaseDir.file, h]
  rfl

theorem ReleaseDir.mem_fileNames {D : ReleaseDir} {name : String} :
    name ∈ D.fileNames ↔ name ∈ D.listing.getD [] ∧ (D.file name).isSome = true := by
  rw [ReleaseDir.fileNames, List.mem_filter]

end SuderraOs.Publish
