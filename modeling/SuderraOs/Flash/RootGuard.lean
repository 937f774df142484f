import SuderraOs.Flash.FlashSd

/-!
# The disk of the running system

The guard of `flash-sd.sh` compares two names: what DEVICE and the source of the root file system rest on directly, or what they are
called themselves. For a disk and its partitions this is enough (`neverOverwrites_of_shallow`). Of a root file system further up, or
one whose source is no device node, it sees nothing (`root_guard_iff`).
-/

namespace SuderraOs.Flash

open Text

section

variable (M : Machine)

/-- A disk of DEVICE carries the device that is mounted at `/`. -/
def SharesRootDisk (device : String) : Prop := ∃ d r, M.node device = some d ∧ M.root = some r ∧ M.devices.Carries d r

/-- No run of the script that reaches `dd` writes to a device on the disk of the running system. -/
def NeverOverwrites (device : String) : Prop :=
  ∀ T F S args plan, prepare T F M S args = .ok plan → plan.options.device = device → ¬SharesRootDisk M device

/-- A word that is no target: an option, no device that can be read, or any word where the root file system has no source. -/
def NoTarget (device : String) : Prop :=
  device = "" ∨ device.toList.head? = some '-' ∨ M.node device = none ∨ M.content device = none ∨ M.findmnt = ""

/-- Two paths are one link apart: their devices rest on the same one, one rests on the other, or neither rests on any and they have
the same name. -/
def OneLink (a b : String) : Prop :=
  match M.parent a, M.parent b with
  | some p, some q => p = q
  | some p, none => p = baseOf b
  | none, some q => q = baseOf a
  | none, none => baseOf a = baseOf b

end

variable {M : Machine} {device source d r : String}

theorem baseName_ne_nil {path : List Char} (h : path ≠ []) : baseName path ≠ [] := by
  unfold baseName
  extract_lets trimmed
  split_ifs with htrimmed
  · exact List.cons_ne_nil _ _
  · have hne : trimmed ≠ [] := fun heq => htrimmed ⟨h, heq⟩
    have hdrop : path.reverse.dropWhile (· = '/') ≠ [] := fun heq => hne (by simp only [trimmed, heq, List.reverse_nil])
    obtain ⟨c, cs, hcs⟩ := List.exists_cons_of_ne_nil hdrop
    have hc : ¬(c = '/') := by
      have := List.head_dropWhile_not _ hdrop
      simpa [hcs] using this
    simp [trimmed, hcs, hc]

theorem resolve_ne_empty (h : source ≠ "") : M.resolve source ≠ "" := by
  unfold Machine.resolve
  cases hlink : M.readlink source with
  | none => exact h
  | some path =>
    rintro rfl
    exact M.linked source hlink

theorem rootSource_eq_empty_iff : rootSource M = "" ↔ M.findmnt = "" := by
  unfold rootSource
  split_ifs with hroot
  · exact iff_of_false (resolve_ne_empty (by decide)) (by rw [hroot]; decide)
  · rfl

/-- What stands for a path: its parent, or its name. -/
theorem diskParentName_eq (source : String) : diskParentName M source = (M.parent (M.resolve source)).getD (baseOf (M.resolve source)) := by
  unfold diskParentName
  cases hparent : M.parent (M.resolve source) with
  | none => rfl
  | some p =>
    obtain ⟨e, -, hhead⟩ := Option.bind_eq_some_iff.1 hparent
    have hp : p ≠ "" := by
      rintro rfl
      exact M.named e (List.mem_of_mem_head? hhead)
    simp only [Option.getD_some, if_pos hp]

theorem diskParentName_eq_iff {source' : String} :
    diskParentName M source = diskParentName M source' ↔ OneLink M (M.resolve source) (M.resolve source') := by
  rw [diskParentName_eq, diskParentName_eq, OneLink]
  cases M.parent (M.resolve source) <;> cases M.parent (M.resolve source') <;>
    simp only [Option.getD_some, Option.getD_none, eq_comm]

theorem diskParentName_ne_empty (h : source ≠ "") : diskParentName M source ≠ "" := by
  rw [diskParentName_eq]
  cases hparent : M.parent (M.resolve source) with
  | none =>
    intro heq
    have hbase : baseName (M.resolve source).toList ≠ [] := baseName_ne_nil (by simpa using resolve_ne_empty h)
    exact hbase (by simpa [baseOf] using heq)
  | some p =>
    obtain ⟨e, -, hhead⟩ := Option.bind_eq_some_iff.1 hparent
    rintro rfl
    exact M.named e (List.mem_of_mem_head? hhead)

/-- The guard holds exactly for two paths that are more than a link apart. -/
theorem guard_iff (h : rootSource M ≠ "") :
    (!(diskParentName M (rootSource M) ≠ "" && diskParentName M device = diskParentName M (rootSource M))) = true ↔
      ¬OneLink M (M.resolve device) (M.resolve (rootSource M)) := by
  rw [← diskParentName_eq_iff]
  simp [diskParentName_ne_empty h]

/-! ## The word that names the device -/

/-- No option is taken for the device. -/
def Options.Named (o : Options) : Prop := o.device.toList.head? ≠ some '-'

theorem named_read {o o' : Options} {word : String} (h : o.read word = .ok o') (ho : o.Named) : o'.Named := by
  unfold Options.read at h
  iterate 6
    split at h
    · cases h
      try exact ho
  split at h
  · cases h
  rename_i hdash
  iterate 2
    split at h
    · cases h
      first | exact hdash | exact ho
  cases h

theorem named_foldlM {o o' : Options} {args : List String} (h : args.foldlM Options.read o = .ok o') (ho : o.Named) : o'.Named := by
  induction args generalizing o with
  | nil =>
    cases h
    exact ho
  | cons word args ih =>
    rw [List.foldlM_cons] at h
    obtain ⟨next, hnext, h⟩ := bind_ok_iff.1 h
    exact ih h (named_read hnext ho)

theorem device_of_commandLine {args : List String} {o : Options} (h : commandLine args = .ok o) :
    o.device ≠ "" ∧ o.device.toList.head? ≠ some '-' := by
  obtain ⟨read, hread, h⟩ := bind_ok_iff.1 h
  obtain ⟨hdevice, h⟩ := guardError_bind_ok_iff.1 h
  obtain ⟨-, h⟩ := guardError_bind_ok_iff.1 h
  have hnamed : read.Named := named_foldlM hread (by simp [Options.Named, noOptions])
  have hsame : o.device = read.device := by
    split_ifs at h
    · simp only [bind_ok_iff, guardError_ok_iff, exists_const] at h
      obtain ⟨-, -, -, -, h⟩ := h
      cases h
      rfl
    · cases h
      rfl
  rw [hsame]
  exact ⟨by simpa using hdevice, hnamed⟩

/-! ## A run that reaches `dd` -/

/-- An empty image, which nothing says the digest of. -/
def emptyFiles : Files where
  file path := if path = "image" ∨ path = "/image" then some [] else none
  readlink path := if path = "image" then some "/image" else none
  creatable _ := false

def noTools : Tools := ⟨id, fun _ _ => [], fun _ => [], none, fun _ => none⟩

def superuser : Session := ⟨true, none, some⟩

def forcedArgs (device : String) : List String := ["--lab-allow-missing-hash", "--force", device, "image"]

def forcedOptions (device : String) : Options := ⟨false, true, false, false, true, device, "image"⟩

theorem commandLine_forced (hne : device ≠ "") (hdash : device.toList.head? ≠ some '-') :
    commandLine (forcedArgs device) = .ok (forcedOptions device) := by
  have hword : ∀ word : String, word.toList.head? = some '-' → device ≠ word := fun word hhead heq => hdash (heq ▸ hhead)
  have hdevice : Options.read ⟨false, true, false, false, true, "", ""⟩ device = .ok ⟨false, true, false, false, true, device, ""⟩ := by
    simp only [Options.read, hword "-h" (by decide), hword "--help" (by decide), hword "--verify-signature" (by decide),
      hword "--lab-allow-missing-hash" (by decide), hword "--acceptance" (by decide), hword "--skip-verify" (by decide),
      hword "--force" (by decide), hdash, or_self, if_false, if_true]
  have himage : Options.read ⟨false, true, false, false, true, device, ""⟩ "image" = .ok (forcedOptions device) := by
    simp only [Options.read, String.reduceEq, or_self, if_false, hne, if_true, forcedOptions]
    rfl
  have hread : (forcedArgs device).foldlM Options.read noOptions = .ok (forcedOptions device) := by
    rw [forcedArgs, List.foldlM_cons]
    refine bind_ok_iff.2 ⟨_, rfl, ?_⟩
    rw [List.foldlM_cons]
    refine bind_ok_iff.2 ⟨_, rfl, ?_⟩
    rw [List.foldlM_cons]
    refine bind_ok_iff.2 ⟨_, hdevice, ?_⟩
    rw [List.foldlM_cons]
    exact bind_ok_iff.2 ⟨_, himage, rfl⟩
  exact bind_ok_iff.2 ⟨_, hread, guardError_bind_ok_iff.2 ⟨decide_eq_true hne, rfl⟩⟩

/-- With `--force` nothing but the guard keeps a device that can be read from being written. -/
theorem exists_prepare (htarget : ¬NoTarget M device) (hguard : ¬OneLink M (M.resolve device) (M.resolve (rootSource M))) :
    ∃ plan, prepare noTools emptyFiles M superuser (forcedArgs device) = .ok plan ∧ plan.options.device = device := by
  simp only [NoTarget, not_or] at htarget
  obtain ⟨hne, hdash, hnode, hcontent, hfindmnt⟩ := htarget
  obtain ⟨content, hcontent⟩ := Option.ne_none_iff_exists'.1 hcontent
  have hsource : rootSource M ≠ "" := fun heq => hfindmnt (rootSource_eq_empty_iff.1 heq)
  have hremovable : checkRemovable M (forcedOptions device) (diskParentName M device) = .ok () := by
    unfold checkRemovable
    split
    · split_ifs
      · rfl
      · rfl
    · rfl
  have hsize : checkSize (forcedOptions device) content [] = .ok () := by
    simp [checkSize, forcedOptions, guardError, bind_ok_iff]
  refine ⟨⟨forcedOptions device, ⟨"/image", [], "/image", []⟩, content⟩, prepare_ok_iff.2 ⟨commandLine_forced hne hdash, rfl, rfl, ?_, rfl⟩, rfl⟩
  exact checkDevice_ok_iff.2 ⟨Option.isSome_iff_ne_none.2 hnode, rfl, hsource, (guard_iff hsource).2 hguard, hremovable, hcontent, hsize⟩

/-! ## What the guard protects -/

/-- The script never overwrites the disk of the running system through DEVICE exactly where DEVICE is no target, is one link apart from
the source of the root file system, or is on another disk. -/
theorem root_guard_iff (M : Machine) (device : String) : NeverOverwrites M device ↔
    NoTarget M device ∨ OneLink M (M.resolve device) (M.resolve (rootSource M)) ∨ ¬SharesRootDisk M device := by
  constructor
  · intro h
    by_contra hnot
    simp only [not_or, not_not] at hnot
    obtain ⟨htarget, hlink, hshares⟩ := hnot
    obtain ⟨plan, hplan, hdevice⟩ := exists_prepare htarget hlink
    exact h _ _ _ _ plan hplan hdevice hshares
  · rintro h T F S args plan hplan rfl
    obtain ⟨hoptions, -, -, hdevice, -⟩ := prepare_ok_iff.1 hplan
    obtain ⟨hnode, -, hsource, hguard, -, hcontent, -⟩ := checkDevice_ok_iff.1 hdevice
    rcases h with hnone | hlink | hshares
    · obtain ⟨hempty, hdash⟩ := device_of_commandLine hoptions
      rcases hnone with heq | heq | heq | heq | heq
      · exact absurd heq hempty
      · exact absurd heq hdash
      · rw [heq] at hnode
        cases hnode
      · rw [heq] at hcontent
        cases hcontent
      · exact absurd (rootSource_eq_empty_iff.2 heq) hsource
    · exact absurd hlink ((guard_iff hsource).1 hguard)
    · exact hshares

/-- Where `/` is a disk or a partition, and so is DEVICE, the guard is enough. -/
theorem neverOverwrites_of_shallow (hroot : M.root = some r) (hrootNode : M.node (M.resolve (rootSource M)) = some r)
    (hrootName : baseOf (M.resolve (rootSource M)) = r) (hr : M.devices.Shallow r) (hnode : M.node device = some d)
    (hresolved : M.node (M.resolve device) = some d) (hname : baseOf (M.resolve device) = d) (hd : M.devices.Shallow d) :
    NeverOverwrites M device := by
  have hstem : ∀ {source e}, M.node (M.resolve source) = some e → baseOf (M.resolve source) = e →
      diskParentName M source = M.devices.stem e := by
    intro source e hsource hbase
    rw [diskParentName_eq, Machine.parent, hsource, hbase]
    rfl
  rw [root_guard_iff]
  by_cases hshares : SharesRootDisk M device
  · obtain ⟨d', r', hd', hr', hcarries⟩ := hshares
    cases hd'.symm.trans hnode
    cases hr'.symm.trans hroot
    refine .inr (.inl (diskParentName_eq_iff.1 ?_))
    rw [hstem hresolved hname, hstem hrootNode hrootName, hd.stem_eq_of_carries hr hcarries]
  · exact .inr (.inr hshares)

/-! ## Machines that are overwritten -/

/-- A disk, a partition of it and a device that is mapped to the partition. -/
def mappedDisk : DeviceStack String where
  parents d := if d = "sda2" then ["sda"] else if d = "dm-0" then ["sda2"] else []
  depth d := if d = "sda2" then 1 else if d = "dm-0" then 2 else 0
  depth_lt := by
    intro d p hp
    split_ifs at hp with hpart hmapped
    · rw [List.mem_singleton.1 hp, hpart]
      decide
    · rw [List.mem_singleton.1 hp, hmapped]
      decide
    · cases hp

def links : List (String × String) :=
  [("/dev/sda", "/dev/sda"), ("/dev/sda2", "/dev/sda2"), ("/dev/dm-0", "/dev/dm-0"), ("/dev/mapper/root", "/dev/dm-0")]

/-- A machine with one disk, which is not removable. -/
def laptop (findmnt root : String) : Machine where
  devices := mappedDisk
  named := by
    intro d hmem
    simp only [mappedDisk] at hmem
    split_ifs at hmem <;> simp at hmem
  node path := [("/dev/sda", "sda"), ("/dev/sda2", "sda2"), ("/dev/dm-0", "dm-0"), ("/dev/mapper/root", "dm-0")].lookup path
  content path := if path = "/dev/sda" then some [0] else none
  readlink path := links.lookup path
  linked := by
    intro path hlink
    have hnone : ∀ p ∈ links, p.2 ≠ "" := by decide
    obtain ⟨before, rest, heq, -⟩ := List.lookup_eq_some_iff.1 hlink
    exact hnone (path, "") (heq ▸ by simp) rfl
  findmnt := findmnt
  root := some root
  lsblkType _ := "disk"
  sysfs path := if path = "/sys/block/sda/removable" then some "0" else none

/-- The disk is overwritten if the root file system is a subvolume, and if it is on the mapped device. -/
theorem laptop_overwritten : ¬NeverOverwrites (laptop "/dev/sda2[/@]" "sda2") "/dev/sda" ∧
    ¬NeverOverwrites (laptop "/dev/mapper/root" "dm-0") "/dev/sda" := by
  have hpart : mappedDisk.RestsOn "sda2" "sda" := .of_mem List.mem_cons_self
  have hmapped : mappedDisk.RestsOn "dm-0" "sda" := .of_parent List.mem_cons_self hpart
  have hdisk : mappedDisk.DiskOf "sda" "sda" := ⟨.refl, rfl⟩
  have hrun : ∀ M : Machine, ¬NoTarget M "/dev/sda" → diskParentName M "/dev/sda" ≠ diskParentName M (rootSource M) →
      SharesRootDisk M "/dev/sda" → ¬NeverOverwrites M "/dev/sda" := by
    intro M htarget hguard hshares h
    obtain ⟨plan, hplan, hdevice⟩ := exists_prepare htarget (mt diskParentName_eq_iff.2 hguard)
    exact h _ _ _ _ plan hplan hdevice hshares
  constructor
  · exact hrun _ (by unfold NoTarget; decide) (by decide) ⟨"sda", "sda2", rfl, rfl, "sda", hdisk, hpart⟩
  · exact hrun _ (by unfold NoTarget; decide) (by decide) ⟨"sda", "dm-0", rfl, rfl, "sda", hdisk, hmapped⟩

end SuderraOs.Flash
