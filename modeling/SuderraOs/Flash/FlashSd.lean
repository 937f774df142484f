import SuderraOs.Lib.DeviceStack
import SuderraOs.Lib.Effect
import SuderraOs.Lib.Hex

/-!
# Writing an image to a card

`flash-sd.sh` up to the end of its read-back: what it reads of the image, of the machine and of the operator, in the order in which
it asks. A run that ends before `dd` has written nothing; what `dd` leaves on the device is given from outside.
-/

namespace SuderraOs.Flash

open Text

abbrev Bytes := List UInt8

/-! ## What the script finds -/

/-- The tools that look at the image: `sha256sum`, the lines that `grep -E` prints, the digests and names of a file that
`sha256sum -c` reads, `cosign verify-blob` where it is installed (on the certificate, the identity, the issuer, the signature and
the blob), and what `xz -d` makes of a file. -/
structure Tools where
  sha256 : Bytes → Bytes
  grep : String → Bytes → List (List Char)
  checkLines : Bytes → List (List Char × String)
  cosign : Option (Bytes → String → String → Bytes → Bytes → Bool)
  decompress : Bytes → Option Bytes

/-- Where the image is: the regular files by their paths, `readlink -f`, and the paths at which a file can be created. -/
structure Files where
  file : String → Option Bytes
  readlink : String → Option String
  creatable : String → Bool

/-- The machine that writes: its block devices, the one at a path and what it holds, `readlink -f`, `findmnt -no SOURCE /` (empty if
it fails), the device that is mounted there, `lsblk -no TYPE`, and the files below `/sys/block`. -/
structure Machine where
  devices : DeviceStack String
  named : ∀ d, "" ∉ devices.parents d
  node : String → Option String
  content : String → Option Bytes
  readlink : String → Option String
  linked : ∀ path, readlink path ≠ some ""
  findmnt : String
  root : Option String
  lsblkType : String → String
  sysfs : String → Option String

/-- Who runs the script, what is answered to its question, and what `dd` leaves on a device when it succeeds. -/
structure Session where
  superuser : Bool
  answer : Option String
  dd : Bytes → Option Bytes

/-! ## The command line -/

structure Options where
  verifySignature : Bool
  labAllowMissingHash : Bool
  acceptance : Bool
  skipVerify : Bool
  force : Bool
  device : String
  image : String
  deriving DecidableEq

def noOptions : Options := ⟨false, false, false, false, false, "", ""⟩

/-- A word of the command line. -/
def Options.read (o : Options) (word : String) : Except String Options :=
  if word = "-h" ∨ word = "--help" then .error "usage"
  else if word = "--verify-signature" then .ok { o with verifySignature := true }
  else if word = "--lab-allow-missing-hash" then .ok { o with labAllowMissingHash := true }
  else if word = "--acceptance" then .ok { o with acceptance := true }
  else if word = "--skip-verify" then .ok { o with skipVerify := true }
  else if word = "--force" then .ok { o with force := true }
  else if word.toList.head? = some '-' then .error s!"Bilinmeyen seçenek: {word}"
  else if o.device = "" then .ok { o with device := word }
  else if o.image = "" then .ok { o with image := word }
  else .error s!"Fazla argüman: {word}"

/-- The options of a run. Acceptance forbids what would weaken it and asks for a signature. -/
def commandLine (args : List String) : Except String Options := do
  let o ← args.foldlM Options.read noOptions
  guardError "device gerekli (örn: /dev/sdb)" (o.device ≠ "")
  guardError "image gerekli" (o.image ≠ "")
  if o.acceptance then do
    guardError s!"Acceptance modunda hedef yalnız /dev/disk/by-id/* olmalı: {o.device}" ("/dev/disk/by-id/".toList.isPrefixOf o.device.toList)
    guardError "Acceptance modunda --lab-allow-missing-hash yasak" (!o.labAllowMissingHash)
    guardError "Acceptance modunda --skip-verify yasak" (!o.skipVerify)
    guardError "Acceptance modunda geniş --force yasak; operatör hedefi interaktif onaylamalı" (!o.force)
    .ok { o with verifySignature := true }
  else .ok o

/-! ## The image -/

def baseOf (path : String) : String := String.ofList (baseName path.toList)

/-- `dirname` of an absolute path. -/
def dirOf (path : String) : String :=
  let dir := ((path.toList.reverse.dropWhile (· ≠ '/')).drop 1).reverse
  if dir = [] then "/" else String.ofList dir

/-- The first field of a line, as `awk '\x7bprint $1\x7d'` prints it. -/
def firstField (line : List Char) : List Char := (fields line).headD []

/-- What a command substitution keeps of the lines that a command prints. -/
def captured (printed : List (List Char)) : List Char := ((['\n'].intercalate printed).reverse.dropWhile (· = '\n')).reverse

/-- `sha256sum` marks the line of a file whose name it has to escape. -/
def escapes (path : String) : Bool := path.toList.any fun c => c = '\\' || c = '\n' || c = '\r'

section

variable (T : Tools) (F : Files)

def hexdigest (bytes : Bytes) : List Char := Hex.encode (T.sha256 bytes)

/-- The first field of the line that `sha256sum` prints for a file. -/
def sumField (path : String) (bytes : Bytes) : List Char := if escapes path then '\\' :: hexdigest T bytes else hexdigest T bytes

/-- The pattern that the lines of the manifest are searched for; the name is not quoted in it. -/
def manifestPattern (path : String) : String := "  " ++ baseOf path ++ "$"

/-- The digest that `MANIFEST.txt` gives for the image, or nothing. -/
def manifestDigest (path : String) : List Char :=
  match F.file (dirOf path ++ "/MANIFEST.txt") with
  | some manifest => captured ((T.grep (manifestPattern path) manifest).map firstField)
  | none => []

/-- A name in the directory of the image. -/
def besides (path name : String) : String := if name.toList.head? = some '/' then name else dirOf path ++ "/" ++ name

/-- The file that a line of the `.sha256` file names has the digest of the line. -/
def lineHolds (path : String) (line : List Char × String) : Bool := (F.file (besides path line.2)).any fun bytes => line.1 = hexdigest T bytes

/-- `sha256sum -c` accepts a file that has lines, all of which hold. -/
def sumsHold (path : String) (sums : Bytes) : Bool := T.checkLines sums ≠ [] && (T.checkLines sums).all (lineHolds T F path)

/-- `verify_hash`. -/
def verifyHash (o : Options) (path : String) (image : Bytes) : Except String Unit :=
  if manifestDigest T F path ≠ [] then guardError "SHA256 uyuşmazlığı!" (manifestDigest T F path = sumField T path image)
  else
    match F.file (path ++ ".sha256") with
    | some sums => guardError "SHA256 .sha256 doğrulaması başarısız" (sumsHold T F path sums)
    | none => guardError "Hash dosyası bulunamadı (MANIFEST.txt veya .sha256)" o.labAllowMissingHash

def cosignIdentity : String :=
  "^https://github\\.com/Okan-wqm/Suderra-OS/\\.github/workflows/release\\.yml@refs/tags/v[0-9]+\\.[0-9]+\\.[0-9]+(-[A-Za-z0-9.\\-]+)?$"

def cosignIssuer : String := "https://token.actions.githubusercontent.com"

/-- The signature of the image, if it is asked for. -/
def verifySignature (o : Options) (path : String) (image : Bytes) : Except String Unit :=
  if o.verifySignature then do
    let verify ← orError "cosign kurulu değil" T.cosign
    let signature ← orError s!"Signature dosyası bulunamadı: {path}.sig" (F.file (path ++ ".sig"))
    let certificate ← orError s!"Certificate dosyası bulunamadı: {path}.cert" (F.file (path ++ ".cert"))
    guardError "cosign signature doğrulaması başarısız!" (verify certificate cosignIdentity cosignIssuer signature image)
  else .ok ()

/-- The name of a compressed image without its suffix. -/
def decompressedPath (path : String) : Option String :=
  if ".xz".toList.isSuffixOf path.toList then some (String.ofList (path.toList.take (path.length - 3))) else none

/-- What will be written: the path of the image, what it holds, the path of the file that is written and what that holds. -/
structure Selected where
  path : String
  image : Bytes
  source : String
  bytes : Bytes

/-- A compressed image is decompressed, unless there is a file under its name without the suffix: then that is written. -/
def openImage (o : Options) (path : String) (image : Bytes) : Except String Selected :=
  match decompressedPath path with
  | none => .ok ⟨path, image, path, image⟩
  | some source =>
    match F.file source with
    | some bytes => do
      guardError s!"Acceptance modunda stale açılmış image kabul edilmez: {source}" (!o.acceptance)
      .ok ⟨path, image, source, bytes⟩
    | none => do
      guardError "xz" (F.creatable source)
      let bytes ← orError "xz" (T.decompress image)
      .ok ⟨path, image, source, bytes⟩

/-- The image: it is there, its digest is known, its signature holds, and it is opened. -/
def selectImage (o : Options) : Except String Selected := do
  guardError s!"Image dosyası bulunamadı: {o.image}" (F.file o.image).isSome
  let path ← orError "readlink" (F.readlink o.image)
  let image ← orError "sha256sum" (F.file path)
  verifyHash T F o path image
  verifySignature T F o path image
  openImage T F o path image

end

/-! ## The device -/

section

variable (M : Machine)

/-- The parent that `lsblk -no PKNAME` prints for the device at a path, if there is one. -/
def Machine.parent (path : String) : Option String := (M.node path).bind fun d => (M.devices.parents d).head?

def Machine.resolve (path : String) : String := (M.readlink path).getD path

/-- `disk_parent_name`. -/
def diskParentName (source : String) : String :=
  let parent := (M.parent (M.resolve source)).getD ""
  if parent ≠ "" then parent else baseOf (M.resolve source)

/-- The source of the root file system; `/dev/root` is replaced by what it points to. -/
def rootSource : String := if M.findmnt = "/dev/root" then M.resolve "/dev/root" else M.findmnt

/-- `root_disk_name`. -/
def rootDiskName : Except String String := do
  guardError "Root filesystem kaynağı tespit edilemedi" (rootSource M ≠ "")
  .ok (diskParentName M (rootSource M))

/-- A disk that is not removable is written with `--force` only. -/
def checkRemovable (o : Options) (disk : String) : Except String Unit :=
  match M.sysfs ("/sys/block/" ++ disk ++ "/removable") with
  | some removable =>
    if removable = "1" then .ok ()
    else do
      guardError "Acceptance modunda hedef removable olarak işaretlenmiş olmalı" (!o.acceptance)
      guardError "İçsel disklere yazmak için --force gerekli." o.force
  | none => guardError "Acceptance modunda removable bilgisi okunmalı" (!o.acceptance)

/-- The sizes of the device and of the image. -/
def checkSize (o : Options) (device image : Bytes) : Except String Unit := do
  guardError "Cihaz çok küçük" (image.length ≤ device.length)
  guardError "Bu büyük cihazlara yazmak için --force gerekli." (device.length / 1024 / 1024 / 1024 ≤ 256 || o.force)

/-- The target of a run: a block device, on another disk than the root file system as far as the script can see, and large enough.
What is mounted from it is unmounted as far as possible, and the run goes on. -/
def checkDevice (o : Options) (image : Bytes) : Except String Bytes := do
  guardError s!"{o.device} bir blok cihazı değil" (M.node o.device).isSome
  guardError "Acceptance modunda partition/alt cihaz hedefi yasak; whole-disk gerekli"
    (!o.acceptance || M.lsblkType ((M.readlink o.device).getD "") = "disk")
  let rootDisk ← rootDiskName M
  let targetDisk := diskParentName M o.device
  guardError s!"{o.device} ROOT diski ({rootDisk})! İşletim sistemini siler. İptal edildi." (!(rootDisk ≠ "" && targetDisk = rootDisk))
  checkRemovable M o targetDisk
  let device ← orError "blockdev" (M.content o.device)
  checkSize o device image
  .ok device

end

/-! ## The run -/

/-- What a run that reaches `dd` is about to write, and over what. -/
structure Plan where
  options : Options
  selected : Selected
  device : Bytes

section

variable (T : Tools) (F : Files) (M : Machine) (S : Session)

/-- The run up to `dd`. -/
def prepare (args : List String) : Except String Plan := do
  let o ← commandLine args
  guardError "Bu script root yetkisi gerektirir." S.superuser
  let selected ← selectImage T F o
  let device ← checkDevice M o selected.bytes
  guardError "İptal edildi" (o.force || S.answer = some "YES")
  .ok ⟨o, selected, device⟩

/-- How much is read back. -/
def window : Nat := 64 * 1024 * 1024

/-- The read-back: all of the image in acceptance, else the first bytes of the file and as many of the device. -/
def readBack (o : Options) (selected : Selected) (device : Bytes) : Except String Unit :=
  if o.skipVerify then .ok ()
  else
    guardError "DOĞRULAMA HATASI! SD card bozuk veya yazma başarısız."
      (if o.acceptance then sumField T selected.source selected.bytes = hexdigest T (device.take selected.bytes.length)
      else hexdigest T (selected.bytes.take window) = hexdigest T (device.take window))

/-- The whole run: what it wrote, if it ends well. -/
def flash (args : List String) : Except String Bytes := do
  let plan ← prepare T F M S args
  let device ← orError "dd" (S.dd plan.selected.bytes)
  readBack T plan.options plan.selected device
  .ok plan.selected.bytes

end

/-- What a correct write leaves on a device: the image, and behind it what was there. -/
def overwrite (device image : Bytes) : Bytes := image ++ device.drop image.length

/-! ## Rules -/

section

variable {T : Tools} {F : Files} {M : Machine} {S : Session} {args : List String} {plan : Plan} {o : Options} {image : Bytes}

theorem prepare_ok_iff : prepare T F M S args = .ok plan ↔
    commandLine args = .ok plan.options ∧ S.superuser = true ∧ selectImage T F plan.options = .ok plan.selected ∧
      checkDevice M plan.options plan.selected.bytes = .ok plan.device ∧ (plan.options.force || S.answer = some "YES") = true := by
  simp only [prepare, bind_ok_iff, guardError_ok_iff, exists_const]
  constructor
  · rintro ⟨o, ho, hsuper, selected, hselected, device, hdevice, hanswer, h⟩
    cases h
    exact ⟨ho, hsuper, hselected, hdevice, hanswer⟩
  · rintro ⟨ho, hsuper, hselected, hdevice, hanswer⟩
    exact ⟨_, ho, hsuper, _, hselected, _, hdevice, hanswer, rfl⟩

theorem checkDevice_ok_iff {device : Bytes} : checkDevice M o image = .ok device ↔
    (M.node o.device).isSome = true ∧ (!o.acceptance || M.lsblkType ((M.readlink o.device).getD "") = "disk") = true ∧
      rootSource M ≠ "" ∧ (!(diskParentName M (rootSource M) ≠ "" && diskParentName M o.device = diskParentName M (rootSource M))) = true ∧
      checkRemovable M o (diskParentName M o.device) = .ok () ∧ M.content o.device = some device ∧ checkSize o device image = .ok () := by
  simp only [checkDevice, rootDiskName, bind_ok_iff, guardError_ok_iff, orError_ok_iff, exists_const, decide_eq_true_eq]
  constructor
  · rintro ⟨hnode, htype, rootDisk, ⟨hsource, hroot⟩, hguard, _, hremovable, device', hcontent, _, hsize, hdevice⟩
    cases hroot
    cases hdevice
    exact ⟨hnode, htype, hsource, hguard, hremovable, hcontent, hsize⟩
  · rintro ⟨hnode, htype, hsource, hguard, hremovable, hcontent, hsize⟩
    exact ⟨hnode, htype, _, ⟨hsource, rfl⟩, hguard, (), hremovable, _, hcontent, (), hsize, rfl⟩

theorem flash_ok_iff {written : Bytes} : flash T F M S args = .ok written ↔
    ∃ plan device, prepare T F M S args = .ok plan ∧ S.dd plan.selected.bytes = some device ∧
      readBack T plan.options plan.selected device = .ok () ∧ plan.selected.bytes = written := by
  simp only [flash, bind_ok_iff, orError_ok_iff]
  constructor
  · rintro ⟨plan, hplan, device, hdevice, _, hread, h⟩
    exact ⟨plan, device, hplan, hdevice, hread, Except.ok.inj h⟩
  · rintro ⟨plan, device, hplan, hdevice, hread, rfl⟩
    exact ⟨plan, hplan, device, hdevice, (), hread, rfl⟩

end

end SuderraOs.Flash
