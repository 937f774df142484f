import SuderraOs.Lib.Best
import SuderraOs.Lib.Effect
import SuderraOs.Lib.Text

/-!
# The target disk of the OS installer

`select_target` of `suderra-os-install` over the block devices of the machine and what `findmnt`, `readlink` and `lsblk` print. The
disks it must not write are computed inside a command substitution, where `die` ends the subshell and not the script, so a machine
whose source disk cannot be determined has no excluded disks at all. Which disks hold a file system is the machine's own truth
(`backing`), whatever the tools print.
-/

namespace SuderraOs.Install

open Text

/-- An entry of `/sys/block`: its name, its size in sectors, `removable` and `device/type`, where they can be read. -/
structure BlockDevice where
  name : List Char
  size : Option Nat
  removable : Option (List Char)
  mediaType : Option (List Char)
  deriving DecidableEq

/-- The environment of the installer and the machine it runs on: its variables, what the tools print (`findmnt -n -o SOURCE`, empty if
it fails; `readlink -f`, nothing if it fails; the first line of `lsblk -n -o PKNAME`, empty if it fails), which paths exist, the
pathname expansion of a word, the entries of `/sys/block` that are there, and the disks that hold the file system of a path. -/
structure Machine where
  sourceDiskVar : List Char
  sysBlock : List Char
  devDir : List Char
  payloadDir : List Char
  minBytes : List Char
  allowUsbTarget : List Char
  usbTargetById : List Char
  findmnt : List Char → List Char
  readlink : List Char → Option (List Char)
  pkname : List Char → List Char
  pathExists : List Char → Bool
  expand : List Char → List (List Char)
  devices : List BlockDevice
  backing : List Char → List (List Char)

/-- `die`: the message, and the end of the shell it runs in. -/
def die {α : Type} (message : String) : Except String α := .error ("ERROR: " ++ message)

/-! ## The disks of the installer -/

/-- The pattern `p[0-9]*`. -/
def partitionSuffix : List Char → Bool
  | 'p' :: d :: _ => d.isDigit
  | _ => false

/-- The pattern `[0-9]*`. -/
def digitSuffix : List Char → Bool
  | d :: _ => d.isDigit
  | _ => false

/-- A text that matches `n*p[0-9]*`. -/
def namespaceSuffix : List Char → Bool
  | 'n' :: rest => (cutLast partitionSuffix rest).isSome
  | _ => false

/-- `disk_from_partition`; the digit of an `sd` partition that is dropped is only the last one. -/
def diskFromPartition (partition : List Char) : List Char :=
  let base := baseName partition
  if "mmcblk".toList.isPrefixOf base && (cutLast partitionSuffix (base.drop 6)).isSome then (cutLast partitionSuffix base).getD base
  else if "sd".toList.isPrefixOf base && (cutLast digitSuffix (base.drop 2)).isSome then (cutLast digitSuffix base).getD base
  else if "nvme".toList.isPrefixOf base && (cutLast namespaceSuffix (base.drop 4)).isSome then
    (cutLast partitionSuffix base).getD base
  else base

namespace Machine

variable (m : Machine)

/-- `/dev/root` is replaced by what it points to. -/
def resolveRoot (source : List Char) : List Char :=
  if source = "/dev/root".toList then (m.readlink "/dev/root".toList).getD "/dev/root".toList else source

/-- The source is below the directory of the devices. -/
def isDevice (source : List Char) : Bool := (m.devDir ++ ['/']).isPrefixOf source

/-- The parent that `lsblk` prints, or the name cut from that of the partition. -/
def parentDisk (source : List Char) : List Char := if m.pkname source ≠ [] then m.pkname source else diskFromPartition source

/-- `source_disk`. -/
def sourceDisk : Except String (List Char) :=
  if m.sourceDiskVar ≠ [] then .ok (baseName m.sourceDiskVar)
  else
    let rootSource := m.resolveRoot (m.findmnt ['/'])
    if rootSource ≠ [] && m.isDevice rootSource then .ok (m.parentDisk rootSource)
    else die "could not determine installer source disk; set SUDERRA_INSTALLER_SOURCE_DISK"

/-- `mounted_disk_for_path`: a line, or nothing. -/
def mountedDiskForPath (path : List Char) : List (List Char) :=
  let source := m.findmnt path
  if source = [] then []
  else
    let source := m.resolveRoot source
    if m.isDevice source then [m.parentDisk source] else []

/-- What `excluded_disks` prints before it ends: nothing if `source_disk` dies. -/
def excludedDisks : List (List Char) :=
  match m.sourceDisk with
  | .ok disk => disk :: (m.mountedDiskForPath "/boot".toList ++ m.mountedDiskForPath m.payloadDir)
  | .error _ => []

/-- `is_excluded_disk` over the words of the sorted lines. -/
def isExcludedDisk (name : List Char) : Bool := name ∈ (m.excludedDisks.flatMap fields).flatMap m.expand

end Machine

/-! ## The selection -/

/-- `candidate_priority`. -/
def candidatePriority (name removable mediaType : List Char) : Nat :=
  if "mmcblk".toList.isPrefixOf name then if removable = ['0'] ∨ mediaType = "MMC".toList then 0 else 1
  else 9

/-- The integer that `test` reads. -/
def testInteger (cs : List Char) : Option Int :=
  let (sign, digits) := match cs with
    | '-' :: rest => (-1, rest)
    | '+' :: rest => (1, rest)
    | cs => ((1 : Int), cs)
  if digits ≠ [] ∧ digits.all Char.isDigit then some (sign * digitsValue digits) else none

namespace BlockDevice

variable (d : BlockDevice)

def bytes : Nat := d.size.getD 0 * 512

def priority : Nat := candidatePriority d.name (d.removable.getD ['1']) (d.mediaType.getD [])

/-- The names of the boot and RPMB areas. -/
def isBootArea : Bool := Text.contains "boot".toList d.name || Text.contains "rpmb".toList d.name

def isMmc : Bool := "mmcblk".toList.isPrefixOf d.name

def isSd : Bool := "sd".toList.isPrefixOf d.name

end BlockDevice

namespace Machine

variable (m : Machine)

/-- `[ bytes -ge MIN_BYTES ]`, which fails where `MIN_BYTES` is not a number. -/
def bigEnough (d : BlockDevice) : Bool := (testInteger m.minBytes).any (· ≤ (d.bytes : Int))

/-- The loop's order: the names that match `mmcblk*`, and then those that match `sd*`. -/
def globbed : List BlockDevice := m.devices.filter (·.isMmc) ++ m.devices.filter (·.isSd)

/-- One round of the loop of `select_target`. -/
def consider (best : Best BlockDevice) (d : BlockDevice) : Best BlockDevice :=
  if d.isBootArea then best
  else if m.isExcludedDisk d.name then best
  else if d.isSd then best
  else if !m.bigEnough d then best
  else if d.priority < 9 then best.add BlockDevice.priority d
  else best

/-- The explicit USB target of `select_target`. -/
def selectUsbTarget : Except String (List Char) := do
  let target := String.ofList m.usbTargetById
  guardError "ERROR: USB targets must be explicit /dev/disk/by-id paths"
    ("/dev/disk/by-id/".toList.isPrefixOf m.usbTargetById || (m.devDir ++ "/disk/by-id/".toList).isPrefixOf m.usbTargetById)
  guardError s!"ERROR: explicit USB target does not exist: {target}" (m.pathExists m.usbTargetById)
  let name := baseName ((m.readlink m.usbTargetById).getD m.usbTargetById)
  guardError s!"ERROR: explicit USB target is an installer source disk: {target}" (!m.isExcludedDisk name)
  let d ← orError s!"ERROR: explicit USB target is not in {String.ofList m.sysBlock}: {String.ofList name}"
    (m.devices.find? (·.name = name))
  guardError "ERROR: explicit USB target must use a usb-* by-id path or a removable whole disk"
    ("usb-".toList.isPrefixOf (baseName m.usbTargetById) || d.removable.getD ['0'] = ['1'])
  guardError s!"ERROR: explicit USB target is smaller than minimum {String.ofList m.minBytes} bytes" (m.bigEnough d)
  .ok m.usbTargetById

/-- The explicit USB target is asked for. -/
def wantsUsbTarget : Bool := m.allowUsbTarget = ['1'] && m.usbTargetById ≠ []

/-- `select_target`. -/
def selectTarget : Except String (List Char) := do
  if m.wantsUsbTarget then m.selectUsbTarget
  else
    let best := m.globbed.foldl m.consider ⟨none, 99, 0, 0⟩
    guardError "ERROR: no valid target disk found" (0 < best.seen)
    guardError "ERROR: multiple equally preferred target disks found; refusing to choose" (best.count = 1)
    .ok (m.devDir ++ '/' :: (best.best.map (·.name)).getD [])

/-! ## What is selected -/

/-- The devices the installer may write, but for the excluded disks: eMMC and SD cards of the minimum size. -/
def eligible : List BlockDevice := m.devices.filter fun d => d.isMmc && !d.isBootArea && m.bigEnough d

/-- The eligible devices that are not excluded. -/
def allowed : List BlockDevice := m.eligible.filter fun d => !m.isExcludedDisk d.name

/-- The disk holds the root file system, that of `/boot` or that of the payload. -/
def OwnMedia (name : List Char) : Prop := ∃ path ∈ [['/'], "/boot".toList, m.payloadDir], name ∈ m.backing path

/-- The machine does not offer its own media: if the source disk is undetermined, then no eligible device is the sole best one, and
otherwise every one of its media is excluded or not the sole best one of the devices left. -/
structure SparesMedia : Prop where
  undetermined : ∀ message, m.sourceDisk = .error message → ∀ d, ¬ Best.Sole BlockDevice.priority m.eligible d
  determined : ∀ disk, m.sourceDisk = .ok disk → ∀ d ∈ m.eligible, m.OwnMedia d.name →
    m.isExcludedDisk d.name = true ∨ ¬ Best.Sole BlockDevice.priority m.allowed d

variable {m}

theorem isSd_of_isMmc {d : BlockDevice} (h : d.isMmc = true) : d.isSd = false := by
  cases hname : d.name with
  | nil => simp [BlockDevice.isMmc, hname] at h
  | cons c cs =>
    have hc : c = 'm' := by
      simp [BlockDevice.isMmc, hname] at h
      exact h.1.symm
    simp [BlockDevice.isSd, hname, hc, List.isPrefixOf]

theorem priority_lt {d : BlockDevice} (h : d.isMmc = true) : d.priority < 9 := by
  unfold BlockDevice.isMmc at h
  unfold BlockDevice.priority candidatePriority
  rw [if_pos h]
  split_ifs <;> omega

/-- The loop scans the allowed devices. -/
theorem foldl_consider : m.globbed.foldl m.consider ⟨none, 99, 0, 0⟩ = Best.scan BlockDevice.priority 99 m.allowed := by
  have hsd (b : Best BlockDevice) (l : List BlockDevice) (h : ∀ d ∈ l, d.isSd = true) : l.foldl m.consider b = b := by
    induction l generalizing b with
    | nil => rfl
    | cons d l ih =>
      have hd := h d List.mem_cons_self
      rw [List.foldl_cons, ih _ fun e he => h e (List.mem_cons_of_mem _ he), consider]
      split_ifs <;> rfl
  have hmmc (b : Best BlockDevice) (l : List BlockDevice) :
      (l.filter (·.isMmc)).foldl m.consider b =
        ((l.filter fun d => d.isMmc && !d.isBootArea && m.bigEnough d).filter fun d => !m.isExcludedDisk d.name).foldl
          (Best.add BlockDevice.priority) b := by
    induction l generalizing b with
    | nil => rfl
    | cons d l ih =>
      by_cases hd : d.isMmc = true
      · have hnsd := isSd_of_isMmc hd
        have hlt := priority_lt hd
        rw [List.filter_cons_of_pos hd, List.foldl_cons, ih]
        by_cases hboot : d.isBootArea = true
        · simp [consider, hboot]
        · by_cases hbig : m.bigEnough d = true
          · by_cases hex : m.isExcludedDisk d.name = true
            · simp [consider, hboot, hbig, hex, hd]
            · simp [consider, hboot, hbig, hex, hd, hnsd, hlt, Best.add]
          · simp [consider, hboot, hbig, hnsd]
      · simp [hd, ih]
  rw [globbed, List.foldl_append, hsd _ _ fun d hd => (List.mem_filter.1 hd).2, hmmc]
  rfl

/-- What is printed is the path of the sole best device that is allowed. -/
theorem selectTarget_ok_iff (hauto : m.wantsUsbTarget = false) {target : List Char} :
    m.selectTarget = .ok target ↔ ∃ d, Best.Sole BlockDevice.priority m.allowed d ∧ target = m.devDir ++ '/' :: d.name := by
  have htop : ∀ d ∈ m.allowed, d.priority < 99 := by
    intro d hd
    have hmem := (List.mem_filter.1 (List.mem_filter.1 hd).1).2
    simp only [Bool.and_eq_true] at hmem
    have := priority_lt hmem.1.1
    omega
  simp only [← Best.scan_eq_sole htop]
  unfold selectTarget
  rw [if_neg (by simp [hauto])]
  rw [foldl_consider]
  simp only [guardError_bind_ok_iff, decide_eq_true_eq]
  constructor
  · rintro ⟨hseen, hcount, htarget⟩
    obtain ⟨hlen, -, -, hbest⟩ := Best.scan_spec htop
    obtain ⟨d, -, hd, -⟩ := hbest (List.length_pos_iff.1 (hlen ▸ hseen))
    rw [hd] at htarget
    exact ⟨d, ⟨hseen, hcount, hd⟩, (Except.ok.inj htarget).symm⟩
  · rintro ⟨d, ⟨hseen, hcount, hbest⟩, rfl⟩
    exact ⟨hseen, hcount, by rw [hbest]; rfl⟩

/-- Where the source disk cannot be determined, nothing is excluded. -/
theorem isExcludedDisk_of_error {message : String} (h : m.sourceDisk = .error message) (name : List Char) :
    m.isExcludedDisk name = false := by
  simp [isExcludedDisk, excludedDisks, h]

theorem allowed_of_error {message : String} (h : m.sourceDisk = .error message) : m.allowed = m.eligible := by
  rw [allowed, List.filter_eq_self]
  intro d _
  rw [isExcludedDisk_of_error h]
  rfl

end Machine

/-- A Raspberry Pi that runs the installer from its SD card, with an eMMC of 16 GiB and the payload on the card. -/
def sampleMachine : Machine where
  sourceDiskVar := []
  sysBlock := "/sys/block".toList
  devDir := "/dev".toList
  payloadDir := "/payload".toList
  minBytes := "8589934592".toList
  allowUsbTarget := ['0']
  usbTargetById := []
  findmnt := fun path => if path = ['/'] then "/dev/mmcblk1p2".toList else if path = "/payload".toList then "/dev/mmcblk1p3".toList else []
  readlink := fun _ => none
  pkname := fun source => if "/dev/mmcblk1p".toList.isPrefixOf source then "mmcblk1".toList else []
  pathExists := fun _ => false
  expand := fun word => [word]
  devices := [⟨"mmcblk0".toList, some 33554432, some ['0'], some "MMC".toList⟩,
    ⟨"mmcblk1".toList, some 33554432, some ['1'], some "SD".toList⟩]
  backing := fun path => if path = ['/'] ∨ path = "/boot".toList ∨ path = "/payload".toList then ["mmcblk1".toList] else []

end SuderraOs.Install
