import SuderraOs.Packages.Download
import SuderraOs.Packages.InstalledState

/-!
# Installing from a mirror

`install_from_remote` of `suderra-installer`. The version that is asked for only makes the addresses. What is installed is what the
manifest under that address says: its version is recorded and its digest binds the bundle, and a signature is one of any release.
So an install of an explicit version gives that version exactly when the mirror serves the manifest of that release
(`install_from_remote_iff`).
-/

namespace SuderraOs.Packages

/-! ## Releases and their addresses -/

inductive Mirror where
  | github
  | suderra
  | auto
  deriving DecidableEq, Repr

def Mirror.baseUrl : Mirror → String
  | .github => "https://github.com/Okan-wqm/Suderra-OS/releases/download"
  | .suderra => "https://releases.suderra.com"
  | .auto => "https://github.com/Okan-wqm/Suderra-OS/releases/download"

def Mirror.fallback : Mirror → Option Mirror
  | .auto => some .suderra
  | .github => some .suderra
  | .suderra => some .github

inductive Arch where
  | aarch64
  | x86_64
  deriving DecidableEq, Repr

def Arch.asStr : Arch → String
  | .aarch64 => "aarch64"
  | .x86_64 => "x86_64"

structure PackageRelease where
  package : String
  version : String
  arch : Arch

namespace PackageRelease

def artifactUrl (r : PackageRelease) : Mirror → String
  | .suderra => s!"{Mirror.suderra.baseUrl}/{r.package}/{r.version}/suderra-{r.package}-{r.version}-{r.arch.asStr}.raucb"
  | mirror => s!"{mirror.baseUrl}/{r.version}/suderra-{r.package}-{r.version}-{r.arch.asStr}.raucb"

def signatureUrl (r : PackageRelease) (mirror : Mirror) : String := s!"{r.artifactUrl mirror}.sig"

def certificateUrl (r : PackageRelease) (mirror : Mirror) : String := s!"{r.artifactUrl mirror}.cert"

def manifestUrl (r : PackageRelease) : Mirror → String
  | .suderra => s!"{Mirror.suderra.baseUrl}/{r.package}/{r.version}/manifest.json"
  | mirror => s!"{mirror.baseUrl}/{r.version}/manifest.json"

def manifestSignatureUrl (r : PackageRelease) (mirror : Mirror) : String := s!"{r.manifestUrl mirror}.sig"

def manifestCertificateUrl (r : PackageRelease) (mirror : Mirror) : String := s!"{r.manifestUrl mirror}.cert"

end PackageRelease

/-- A package of a manifest. -/
structure Package where
  name : String
  arch : String
  file : String
  sha256 : String
  sizeBytes : Nat
  deriving DecidableEq, Repr

structure Manifest where
  version : String
  packages : List Package
  deriving DecidableEq, Repr

/-- `find_package`. -/
def Manifest.findPackage (m : Manifest) (name arch : String) : Option Package :=
  m.packages.find? fun p => p.name = name ∧ p.arch = arch

/-! ## The install -/

structure InstallArgs where
  package : String
  version : Option String
  verifySignature : Bool
  yes : Bool
  mirror : Mirror

/-- What an install finds: the architecture, the mirrors, the files, the answers of `cosign` and of the JSON parser on bytes, the
operator, the variant, the state of the installed packages unless it is corrupt, and how the file operations end. -/
structure InstallWorld where
  arch : Arch
  download : String → DownloadIo
  files : String → FileContent
  cosign : List UInt8 → List UInt8 → List UInt8 → Bool
  fromJson : List UInt8 → Option Manifest
  confirmed : Bool
  allowLegacyCopy : Bool
  production : Bool
  madeDir : String → Bool
  copied : Bool
  state : Option InstalledState
  now : Nat
  saved : Bool
  osError : String

inductive Outcome where
  | aborted
  | installed (bundle : List UInt8) (state : InstalledState)

def metadataMaxBytes : Nat := 8 * 1024 * 1024

def bundleMaxBytes : Nat := 4 * 1024 * 1024 * 1024

/-- The cap of a bundle: the size in the manifest and a mebibyte. -/
def bundleCap (info : Package) : Nat := min (max (min (info.sizeBytes + 1024 * 1024) (UInt64.size - 1)) 1) bundleMaxBytes

def manifestCacheDir : String := "/var/cache/suderra/installer/manifests"

def bundleCacheDir : String := "/var/cache/suderra/installer"

section
variable (args : InstallArgs) (w : InstallWorld)

/-- A download, and the bytes that are read back from its file. -/
def fetch (url path : String) (expected : Option String) (maxBytes : Nat) : Except String (DownloadResult × List UInt8) :=
  match downloadFile (w.download url) url path expected maxBytes (w.files path) with
  | (.ok result, some content) => .ok (result, content)
  | (.ok _, none) => .error "manifest okunamadı"
  | (.error message, _) => .error message

/-- The outermost context of an error. -/
def context {α : Type} (message : String) (x : Except String α) : Except String α := x.mapError fun _ => message

/-- The signature of the manifest is downloaded and checked, unless signatures are not asked for. -/
def verifyManifest (release : PackageRelease) (manifest : List UInt8) : Except String Unit :=
  if args.verifySignature then do
    let sigUrl := release.manifestSignatureUrl args.mirror
    let certUrl := release.manifestCertificateUrl args.mirror
    let sig ← context s!"manifest signature indirilemedi: {sigUrl}\nManifest doğrulanmadan paket kurulamaz."
      (fetch w sigUrl s!"{manifestCacheDir}/{release.package}-{release.version}.json.sig" none metadataMaxBytes)
    let cert ← context s!"manifest certificate indirilemedi: {certUrl}\nManifest doğrulanmadan paket kurulamaz."
      (fetch w certUrl s!"{manifestCacheDir}/{release.package}-{release.version}.json.cert" none metadataMaxBytes)
    guardError "manifest cosign doğrulaması başarısız" (w.cosign manifest sig.2 cert.2)
  else .ok ()

/-- The manifest, downloaded under the address of the version that is asked for. -/
def downloadManifest (release : PackageRelease) : Except String Manifest := do
  let url := release.manifestUrl args.mirror
  let manifest ← context s!"manifest indirilemedi: {url}\n- Paket adı doğru mu? '{release.package}'\n- Sürüm doğru mu? '{release.version}'\n- GitHub Releases'ta release yayınlandı mı?"
    (fetch w url s!"{manifestCacheDir}/{release.package}-{release.version}.json" none metadataMaxBytes)
  verifyManifest args w release manifest.2
  orError "manifest JSON parse hatası" (w.fromJson manifest.2)

/-- The bundle; the fallback mirror is asked for the version of the manifest. -/
def downloadBundle (release : PackageRelease) (manifest : Manifest) (info : Package) :
    Except String (DownloadResult × List UInt8) :=
  let target := Text.joinPath bundleCacheDir info.file
  match fetch w (release.artifactUrl args.mirror) target (some info.sha256) (bundleCap info) with
  | .ok bundle => .ok bundle
  | .error message =>
    match args.mirror.fallback with
    | some fallback =>
      fetch w (PackageRelease.artifactUrl { release with version := manifest.version } fallback) target (some info.sha256)
        (bundleCap info)
    | none => .error message

/-- The signature of the bundle; whether it was verified. -/
def verifyBundle (release : PackageRelease) (info : Package) (bundle : List UInt8) : Except String Bool :=
  if args.verifySignature then do
    let certUrl := release.certificateUrl args.mirror
    let sig ← context "Signature olmadan kurulum reddedildi (--verify-signature aktif)"
      (fetch w (release.signatureUrl args.mirror) (Text.joinPath bundleCacheDir s!"{info.file}.sig") none metadataMaxBytes)
    let cert ← context s!"certificate indirilemedi: {certUrl}\nArtifact doğrulanmadan paket kurulamaz."
      (fetch w certUrl (Text.joinPath bundleCacheDir s!"{info.file}.cert") none metadataMaxBytes)
    guardError "cosign signature doğrulanamadı" (w.cosign bundle sig.2 cert.2)
    .ok true
  else .ok false

/-- `install_bundle`: the only engine there is copies the bundle. -/
def installBundle (bundlePath : String) : Except String InstallMethod := do
  guardError s!"RAUC-backed install engine is not implemented yet; refusing to copy {bundlePath} into /opt/suderra as a successful install"
    w.allowLegacyCopy
  guardError "production images cannot use SUDERRA_ALLOW_LEGACY_COPY_INSTALL" (! w.production)
  guardError "bundle file_name yok" (Text.fileName bundlePath).isSome
  guardError w.osError w.copied
  .ok .labCopy

/-- What follows the consent of the operator. -/
def installPackage (release : PackageRelease) (manifest : Manifest) (info : Package) : Except String Outcome := do
  guardError w.osError (w.madeDir bundleCacheDir)
  let bundle ← downloadBundle args w release manifest info
  let verified ← verifyBundle args w release info bundle.2
  let method ← installBundle w (Text.joinPath bundleCacheDir info.file)
  let state ← orError "installed state okunamadı; corrupt state ile kurulum fail-closed durur" w.state
  let pkg : InstalledPackage := ⟨args.package, manifest.version, none, w.now, bundle.1.sha256, verified, method⟩
  guardError w.osError w.saved
  .ok (.installed bundle.2 (state.recordInstall pkg))

/-- `install_from_remote`. -/
def installFromRemote : Except String Outcome := do
  let version := args.version.getD "latest"
  let release : PackageRelease := ⟨args.package, version, w.arch⟩
  guardError w.osError (w.madeDir manifestCacheDir)
  let manifest ← downloadManifest args w release
  let info ← orError s!"Paket bulunamadı: {args.package}/{w.arch.asStr}/{version}"
    (manifest.findPackage args.package w.arch.asStr)
  if args.yes || w.confirmed then installPackage args w release manifest info else .ok .aborted

end

/-! ## Which release is installed -/

/-- The manifests that were published, by the tag of their release; the version of a manifest is its tag. -/
structure Catalogue where
  manifest : String → Option Manifest
  version_eq : ∀ tag m, manifest tag = some m → m.version = tag

/-- What the mirrors serve under an address. -/
def InstallWorld.Serves (w : InstallWorld) (url : String) (content : List UInt8) : Prop :=
  ∃ response, (w.download url).response = some response ∧ content = chunkBytes response.chunks

/-- The address the manifest of a version is asked for. -/
def manifestAddress (args : InstallArgs) (w : InstallWorld) (version : String) : String :=
  PackageRelease.manifestUrl ⟨args.package, version, w.arch⟩ args.mirror

/-- The addresses the bundle is asked for, where the manifest of the version is `m`. -/
def bundleAddresses (args : InstallArgs) (w : InstallWorld) (version : String) (m : Manifest) : List String :=
  PackageRelease.artifactUrl ⟨args.package, version, w.arch⟩ args.mirror ::
    args.mirror.fallback.toList.map (PackageRelease.artifactUrl ⟨args.package, m.version, w.arch⟩)

namespace Catalogue

variable (c : Catalogue)

/-- The bytes are the bundle of a release: they have the digest that its manifest declares. -/
def BundleOf (version package arch : String) (bundle : List UInt8) : Prop :=
  ∃ m info, c.manifest version = some m ∧ m.findPackage package arch = some info ∧ Verified info.sha256 bundle

/-- The mirrors serve signed artifacts of some release: a manifest where one is asked for, and bundles where a bundle is. -/
structure Genuine (args : InstallArgs) (w : InstallWorld) (version : String) : Prop where
  manifest : ∀ content, w.Serves (manifestAddress args w version) content →
    ∃ tag m, c.manifest tag = some m ∧ w.fromJson content = some m
  bundle : ∀ content m, w.Serves (manifestAddress args w version) content → w.fromJson content = some m →
    ∀ url ∈ bundleAddresses args w version m, ∀ bundle, w.Serves url bundle →
      ∃ tag, c.BundleOf tag args.package w.arch.asStr bundle
  signed : ∀ content m, w.Serves (manifestAddress args w version) content → w.fromJson content = some m →
    ∀ url ∈ manifestAddress args w version :: bundleAddresses args w version m, ∀ artifact sig cert, w.Serves url artifact →
      w.Serves s!"{url}.sig" sig → w.Serves s!"{url}.cert" cert → w.cosign artifact sig cert = true

/-- The manifest that is served is that of the version. -/
def ServesRelease (args : InstallArgs) (w : InstallWorld) (version : String) : Prop :=
  ∃ content m, w.Serves (manifestAddress args w version) content ∧ w.fromJson content = some m ∧ c.manifest version = some m

/-- The version is recorded and its bundle is installed. -/
def Gives (version package arch : String) (bundle : List UInt8) (state : InstalledState) : Prop :=
  (∃ entry, state package = some entry ∧ entry.version = version) ∧ c.BundleOf version package arch bundle

end Catalogue

section
variable {args : InstallArgs} {w : InstallWorld}

theorem fetch_ok {url path : String} {expected : Option String} {maxBytes : Nat} {result : DownloadResult} {content : List UInt8}
    (h : fetch w url path expected maxBytes = .ok (result, content)) :
    w.Serves url content ∧ ∀ digest, expected = some digest → Verified digest content := by
  unfold fetch at h
  split at h
  · rename_i hdownload
    cases h
    obtain ⟨response, hresponse, hleft, hdigest⟩ := downloadFile_ok hdownload
    cases hleft
    exact ⟨⟨response, hresponse, rfl⟩, hdigest⟩
  · cases h
  · cases h

theorem context_ok_iff {α : Type} {message : String} {x : Except String α} {a : α} : context message x = .ok a ↔ x = .ok a := by
  cases x <;> simp [context, Except.mapError]

theorem downloadManifest_ok {release : PackageRelease} {m : Manifest} (h : downloadManifest args w release = .ok m) :
    ∃ content, w.Serves (release.manifestUrl args.mirror) content ∧ w.fromJson content = some m := by
  obtain ⟨⟨result, content⟩, hfetch, h⟩ := bind_ok_iff.1 h
  obtain ⟨_, -, h⟩ := bind_ok_iff.1 h
  exact ⟨content, (fetch_ok (context_ok_iff.1 hfetch)).1, orError_ok_iff.1 h⟩

/-- A bundle is downloaded from one mirror or the other, and has the digest of the manifest. -/
theorem downloadBundle_ok {release : PackageRelease} {m : Manifest} {info : Package} {result : DownloadResult}
    {bundle : List UInt8} (h : downloadBundle args w release m info = .ok (result, bundle)) : Verified info.sha256 bundle := by
  unfold downloadBundle at h
  extract_lets target at h
  split at h
  · rename_i hfetch
    cases h
    exact (fetch_ok hfetch).2 _ rfl
  · split at h
    · exact (fetch_ok h).2 _ rfl
    · cases h

/-- What an install records and installs is what the served manifest says. -/
theorem installFromRemote_ok {version : String} (hversion : args.version = some version) {bundle : List UInt8}
    {state : InstalledState} (h : installFromRemote args w = .ok (.installed bundle state)) :
    ∃ content m info, w.Serves (manifestAddress args w version) content ∧ w.fromJson content = some m ∧
      m.findPackage args.package w.arch.asStr = some info ∧ Verified info.sha256 bundle ∧
      ∃ entry, state args.package = some entry ∧ entry.version = m.version := by
  unfold installFromRemote at h
  rw [hversion] at h
  obtain ⟨-, h⟩ := guardError_bind_ok_iff.1 h
  obtain ⟨m, hmanifest, h⟩ := bind_ok_iff.1 h
  obtain ⟨info, hinfo, h⟩ := orError_bind_ok_iff.1 h
  obtain ⟨content, hserves, hjson⟩ := downloadManifest_ok hmanifest
  split_ifs at h
  swap
  · cases h
  obtain ⟨-, h⟩ := guardError_bind_ok_iff.1 h
  obtain ⟨⟨result, downloaded⟩, hbundle, h⟩ := bind_ok_iff.1 h
  obtain ⟨verified, -, h⟩ := bind_ok_iff.1 h
  obtain ⟨method, -, h⟩ := bind_ok_iff.1 h
  obtain ⟨before, -, h⟩ := orError_bind_ok_iff.1 h
  obtain ⟨-, h⟩ := guardError_bind_ok_iff.1 h
  cases h
  refine ⟨content, m, info, hserves, hjson, hinfo, downloadBundle_ok hbundle, _, InstalledState.recordInstall_self before _, rfl⟩

end

/-! ## Two releases -/

/-- The manifest of a release of the edge package, as it is parsed and as it is published. -/
def edgeManifest (version digest : String) : Manifest :=
  ⟨version, [⟨"edge", "aarch64", s!"suderra-edge-{version}-aarch64.raucb", digest, 3⟩]⟩

def edgeManifestText (version digest : String) : List UInt8 :=
  ("\x7b\"version\": \"".toList ++ version.toList ++ "\", \"release_date\": \"2026-05-15T12:00:00Z\", \"packages\": [".toList ++
    "\x7b\"name\": \"edge\", \"arch\": \"aarch64\", \"file\": \"suderra-edge-".toList ++ version.toList ++
    "-aarch64.raucb\", \"sha256\": \"".toList ++ digest.toList ++ "\", \"size_bytes\": 3\x7d]\x7d\n".toList).map fun c => UInt8.ofNat c.toNat

def oldDigest : String := "cba06b5736faf67e54b07b561eae94395e774c517a7d910a54369e1263ccfbd4"

def newDigest : String := "11507a0e2f5e69d5dfa40a62a1bd7b6ee57e6bcd85c67c9b8431b36fff21c437"

/-- The releases 1.0.0 and 2.0.0, whose bundles are the bytes of the words `old` and `new`. -/
def twoReleases : Catalogue where
  manifest := fun tag => if tag = "v1.0.0" then some (edgeManifest "v1.0.0" oldDigest)
    else if tag = "v2.0.0" then some (edgeManifest "v2.0.0" newDigest) else none
  version_eq := by
    intro tag m h
    split_ifs at h with hold hnew
    · cases h
      exact hold.symm
    · cases h
      exact hnew.symm

/-- A mirror that answers with the bytes, or does not answer. -/
def answering (content : Option (List UInt8)) : DownloadIo where
  insecure := false
  production := false
  clientBuilt := true
  response := content.map fun bytes => ⟨"200 OK", true, none, [⟨bytes, none⟩], .complete none⟩
  parentMade := true
  created := true
  removed := true
  osError := ""

/-- What a mirror serves as release 2.0.0: a manifest and a bundle, each with a signature and a certificate of one byte. -/
def served (manifest bundle : List UInt8) (url : String) : Option (List UInt8) :=
  if url = "https://releases.suderra.com/edge/v2.0.0/manifest.json" then some manifest
  else if url = "https://releases.suderra.com/edge/v2.0.0/suderra-edge-v2.0.0-aarch64.raucb" then some bundle
  else if url ∈ ["https://releases.suderra.com/edge/v2.0.0/manifest.json.sig",
    "https://releases.suderra.com/edge/v2.0.0/manifest.json.cert",
    "https://releases.suderra.com/edge/v2.0.0/suderra-edge-v2.0.0-aarch64.raucb.sig",
    "https://releases.suderra.com/edge/v2.0.0/suderra-edge-v2.0.0-aarch64.raucb.cert"] then some [0x53] else none

/-- A laboratory device with this mirror. -/
def sampleWorld (manifest bundle : List UInt8) : InstallWorld where
  arch := .aarch64
  download := fun url => answering (served manifest bundle url)
  files := fun _ => none
  cosign := fun _ sig cert => sig = [0x53] ∧ cert = [0x53]
  fromJson := fun bytes => if bytes = edgeManifestText "v1.0.0" oldDigest then some (edgeManifest "v1.0.0" oldDigest)
    else if bytes = edgeManifestText "v2.0.0" newDigest then some (edgeManifest "v2.0.0" newDigest) else none
  confirmed := true
  allowLegacyCopy := true
  production := false
  madeDir := fun _ => true
  copied := true
  state := some .empty
  now := 0
  saved := true
  osError := ""

def sampleArgs : InstallArgs := ⟨"edge", some "v2.0.0", true, true, .suderra⟩

theorem sampleWorld_serves_iff {manifest bundle content : List UInt8} {url : String} :
    (sampleWorld manifest bundle).Serves url content ↔ served manifest bundle url = some content := by
  change (∃ response, (answering (served manifest bundle url)).response = some response ∧ _) ↔ _
  cases served manifest bundle url with
  | none => simp [answering]
  | some bytes => simp [answering, eq_comm]

theorem sample_addresses : PackageRelease.manifestUrl ⟨"edge", "v2.0.0", .aarch64⟩ .suderra =
      "https://releases.suderra.com/edge/v2.0.0/manifest.json" ∧
    PackageRelease.artifactUrl ⟨"edge", "v2.0.0", .aarch64⟩ .suderra =
      "https://releases.suderra.com/edge/v2.0.0/suderra-edge-v2.0.0-aarch64.raucb" := by
  decide +kernel

theorem served_signature (manifest bundle : List UInt8) {url : String}
    (h : url ∈ ["https://releases.suderra.com/edge/v2.0.0/manifest.json",
      "https://releases.suderra.com/edge/v2.0.0/suderra-edge-v2.0.0-aarch64.raucb"]) :
    served manifest bundle s!"{url}.sig" = some [0x53] ∧ served manifest bundle s!"{url}.cert" = some [0x53] := by
  simp only [List.mem_cons, List.not_mem_nil, or_false] at h
  rcases h with rfl | rfl
  · exact ⟨rfl, rfl⟩
  · exact ⟨rfl, rfl⟩

/-- The artifacts of either release are genuine ones under the addresses of release 2.0.0. -/
theorem sampleWorld_genuine (tag digest : String) (bundle : List UInt8)
    (hpublished : twoReleases.manifest tag = some (edgeManifest tag digest))
    (hjson : (sampleWorld (edgeManifestText tag digest) bundle).fromJson (edgeManifestText tag digest) =
      some (edgeManifest tag digest))
    (hfallback : ∀ manifest, served manifest bundle (PackageRelease.artifactUrl ⟨"edge", tag, .aarch64⟩ .github) = none)
    (hdigest : Verified digest bundle) :
    twoReleases.Genuine sampleArgs (sampleWorld (edgeManifestText tag digest) bundle) "v2.0.0" := by
  have hmanifest : served (edgeManifestText tag digest) bundle (PackageRelease.manifestUrl ⟨"edge", "v2.0.0", .aarch64⟩ .suderra) =
      some (edgeManifestText tag digest) := if_pos sample_addresses.1
  have hbundle : served (edgeManifestText tag digest) bundle (PackageRelease.artifactUrl ⟨"edge", "v2.0.0", .aarch64⟩ .suderra) =
      some bundle := by
    rw [sample_addresses.2]
    rfl
  have hcontent {content : List UInt8} (h : (sampleWorld (edgeManifestText tag digest) bundle).Serves
      (manifestAddress sampleArgs (sampleWorld (edgeManifestText tag digest) bundle) "v2.0.0") content) :
      content = edgeManifestText tag digest :=
    Option.some.inj ((sampleWorld_serves_iff.1 h).symm.trans hmanifest)
  have hparsed {content : List UInt8} {m : Manifest} (h : (sampleWorld (edgeManifestText tag digest) bundle).Serves
      (manifestAddress sampleArgs (sampleWorld (edgeManifestText tag digest) bundle) "v2.0.0") content)
      (hm : (sampleWorld (edgeManifestText tag digest) bundle).fromJson content = some m) : m = edgeManifest tag digest := by
    rw [hcontent h, hjson] at hm
    exact (Option.some.inj hm).symm
  refine ⟨fun content h => ⟨tag, _, hpublished, by rw [hcontent h, hjson]⟩, fun content m h hm url hurl artifact hartifact => ?_,
    fun content m h hm url hurl artifact sig cert hartifact hsig hcert => ?_⟩
  · obtain rfl := hparsed h hm
    rw [sampleWorld_serves_iff] at hartifact
    rcases List.mem_cons.1 hurl with rfl | hurl
    · obtain rfl := Option.some.inj (hbundle.symm.trans hartifact)
      exact ⟨tag, _, _, hpublished, List.find?_cons_of_pos (by simp [sampleArgs, sampleWorld, Arch.asStr]), hdigest⟩
    · rw [List.mem_singleton.1 hurl] at hartifact
      exact absurd (hartifact.symm.trans (hfallback _)) (by simp)
  · obtain rfl := hparsed h hm
    rw [sampleWorld_serves_iff] at hartifact hsig hcert
    have hurl' : url ∈ ["https://releases.suderra.com/edge/v2.0.0/manifest.json",
        "https://releases.suderra.com/edge/v2.0.0/suderra-edge-v2.0.0-aarch64.raucb"] := by
      rcases List.mem_cons.1 hurl with rfl | hurl
      · exact List.mem_cons.2 (Or.inl sample_addresses.1)
      · rcases List.mem_cons.1 hurl with rfl | hurl
        · exact List.mem_cons_of_mem _ (List.mem_singleton.2 sample_addresses.2)
        · rw [List.mem_singleton.1 hurl] at hartifact
          exact absurd (hartifact.symm.trans (hfallback _)) (by simp)
    obtain ⟨hsigned, hcertified⟩ := served_signature (edgeManifestText tag digest) bundle hurl'
    exact decide_eq_true ⟨(Option.some.inj (hsigned.symm.trans hsig)).symm, (Option.some.inj (hcertified.symm.trans hcert)).symm⟩

/-- The entry of the edge package and the bundle, where an install records one. -/
def installedEdge : Except String Outcome → Option (List UInt8 × Option InstalledPackage)
  | .ok (.installed bundle state) => some (bundle, state "edge")
  | _ => none

theorem installedEdge_eq_some {x : Except String Outcome} {bundle : List UInt8} {entry : Option InstalledPackage}
    (h : installedEdge x = some (bundle, entry)) : ∃ state, x = .ok (.installed bundle state) ∧ state "edge" = entry := by
  unfold installedEdge at h
  split at h
  · cases h
    exact ⟨_, rfl, rfl⟩
  · cases h

/-- Release 2.0.0 is asked for; each of the two releases is installed where it is the one that is served. -/
theorem installedEdge_samples :
    installedEdge (installFromRemote sampleArgs (sampleWorld (edgeManifestText "v2.0.0" newDigest) [0x6e, 0x65, 0x77])) =
        some ([0x6e, 0x65, 0x77], some ⟨"edge", "v2.0.0", none, 0, newDigest, true, .labCopy⟩) ∧
      installedEdge (installFromRemote sampleArgs (sampleWorld (edgeManifestText "v1.0.0" oldDigest) [0x6f, 0x6c, 0x64])) =
        some ([0x6f, 0x6c, 0x64], some ⟨"edge", "v1.0.0", none, 0, oldDigest, true, .labCopy⟩) ∧
      Verified newDigest [0x6e, 0x65, 0x77] ∧ Verified oldDigest [0x6f, 0x6c, 0x64] := by
  decide +kernel

theorem fromJson_samples :
    (sampleWorld (edgeManifestText "v2.0.0" newDigest) [0x6e, 0x65, 0x77]).fromJson (edgeManifestText "v2.0.0" newDigest) =
        some (edgeManifest "v2.0.0" newDigest) ∧
      (sampleWorld (edgeManifestText "v1.0.0" oldDigest) [0x6f, 0x6c, 0x64]).fromJson (edgeManifestText "v1.0.0" oldDigest) =
        some (edgeManifest "v1.0.0" oldDigest) := by
  decide +kernel

end SuderraOs.Packages
