import SuderraOs.Install.Target
import SuderraOs.Lib.Digits

/-!
# Disks and their partitions

`partition_path` writes the name of a partition and `disk_from_partition` cuts the name of the disk from it, with the shell's
shortest suffix that matches. For the names with a `p` before the number that is the whole suffix. For `sd` names the shortest
suffix is the last digit, so the cut gives the disk for the partitions 1 to 9 only (`disk_from_partition_iff`).
-/

namespace SuderraOs.Text

/-! ## Cutting a suffix -/

/-- The cut is made where the rest is accepted and no shorter rest is. -/
theorem cutLast_append {here : List Char → Bool} {a b : List Char} {c : Char} (hcut : here (c :: b) = true)
    (hlast : ∀ t, t.IsSuffix b → t ≠ [] → here t = false) : cutLast here (a ++ c :: b) = some a := by
  have hrest (b : List Char) (hlast : ∀ t, t.IsSuffix b → t ≠ [] → here t = false) : cutLast here b = none := by
    induction b with
    | nil => rfl
    | cons d b ih =>
      rw [cutLast, ih fun t ht => hlast t (ht.trans (List.suffix_cons d b))]
      simp [hlast (d :: b) (List.suffix_refl _) (by simp)]
  induction a with
  | nil =>
    rw [List.nil_append, cutLast, hrest b hlast]
    simp [hcut]
  | cons d a ih => rw [List.cons_append, cutLast, ih]

/-- A text is cut if some rest of it is accepted. -/
theorem cutLast_isSome {here : List Char → Bool} {a b : List Char} {c : Char} (h : here (c :: b) = true) :
    (cutLast here (a ++ c :: b)).isSome = true := by
  induction a with
  | nil =>
    rw [List.nil_append, cutLast]
    cases cutLast here b <;> simp [h]
  | cons d a ih =>
    rw [List.cons_append, cutLast]
    obtain ⟨before, hbefore⟩ := Option.isSome_iff_exists.1 ih
    rw [hbefore]
    rfl

/-- The last name of a path. -/
theorem baseName_append {dir name : List Char} (hne : name ≠ []) (hslash : '/' ∉ name) : baseName (dir ++ '/' :: name) = name := by
  have hreverse : (dir ++ '/' :: name).reverse = name.reverse ++ '/' :: dir.reverse := by simp
  have hdrop : (name.reverse ++ '/' :: dir.reverse).dropWhile (· = '/') = name.reverse ++ '/' :: dir.reverse := by
    cases hrev : name.reverse with
    | nil => exact absurd (List.reverse_eq_nil_iff.1 hrev) hne
    | cons c cs =>
      have hc : c ≠ '/' := by
        rintro rfl
        exact hslash (List.mem_reverse.1 (hrev ▸ List.mem_cons_self))
      simp [hc]
  have htake : (name.reverse ++ '/' :: dir.reverse).takeWhile (· ≠ '/') = name.reverse :=
    takeWhile_append (fun c hc => by
      have hc := List.mem_reverse.1 hc
      have hne : c ≠ '/' := fun h => hslash (h ▸ hc)
      simpa using hne) (by simp)
  unfold baseName
  extract_lets trimmed
  have htrimmed : trimmed = dir ++ '/' :: name := by
    simp only [trimmed, hreverse, hdrop]
    simp
  rw [htrimmed, if_neg (by simp), hreverse, htake, List.reverse_reverse]

end SuderraOs.Text

namespace SuderraOs.Install

open Text

/-- `partition_path`. -/
def partitionPath (disk number : List Char) : List Char :=
  let base := baseName disk
  if "mmcblk".toList.isPrefixOf base || ("nvme".toList.isPrefixOf base && 'n' ∈ base.drop 4) then disk ++ 'p' :: number
  else disk ++ number

/-- The whole disks that the installer handles. -/
inductive DiskName : List Char → Prop where
  | mmcblk {d : List Char} : d ≠ [] → (∀ c ∈ d, c.isDigit = true) → DiskName ("mmcblk".toList ++ d)
  | sd {l : List Char} : l ≠ [] → (∀ c ∈ l, c.isLower = true) → DiskName ("sd".toList ++ l)
  | nvme {controller drive : List Char} : controller ≠ [] → (∀ c ∈ controller, c.isDigit = true) → drive ≠ [] →
      (∀ c ∈ drive, c.isDigit = true) → DiskName ("nvme".toList ++ (controller ++ 'n' :: drive))

/-- The name of the partition, as it stands in the directory of the devices. -/
def partitionName (name number : List Char) : List Char :=
  if "sd".toList.isPrefixOf name then name ++ number else name ++ 'p' :: number

theorem DiskName.ne_nil {name : List Char} (h : DiskName name) : name ≠ [] := by
  cases h <;> simp

theorem isLower_ne_slash {c : Char} (h : c.isLower = true) : c ≠ '/' := by
  rintro rfl
  exact absurd h (by decide)

theorem isDigit_ne {c d : Char} (h : c.isDigit = true) (hd : d.isDigit = false) : c ≠ d := by
  rintro rfl
  rw [h] at hd
  cases hd

theorem DiskName.slash_notMem {name : List Char} (h : DiskName name) : '/' ∉ name := by
  cases h with
  | mmcblk _ hdigits => simpa using fun h => isDigit_ne (hdigits _ h) (by decide) rfl
  | sd _ hletters => simpa using fun h => isLower_ne_slash (hletters _ h) rfl
  | nvme _ hcontroller _ hdrive =>
    simpa using ⟨fun h => isDigit_ne (hcontroller _ h) (by decide) rfl, fun h => isDigit_ne (hdrive _ h) (by decide) rfl⟩

theorem partitionPath_eq {name : List Char} (h : DiskName name) (dir number : List Char) :
    partitionPath (dir ++ '/' :: name) number = dir ++ '/' :: partitionName name number := by
  unfold partitionPath
  rw [baseName_append h.ne_nil h.slash_notMem]
  cases h with
  | mmcblk => simp [partitionName, List.isPrefixOf]
  | sd => simp [partitionName, List.isPrefixOf]
  | nvme => simp [partitionName, List.isPrefixOf]

/-- A number is cut with the `p` before it. -/
theorem cutLast_partitionSuffix {number : List Char} (hne : number ≠ []) (hdigits : ∀ c ∈ number, c.isDigit = true)
    (a : List Char) : cutLast partitionSuffix (a ++ 'p' :: number) = some a := by
  obtain ⟨d, ds, rfl⟩ := List.exists_cons_of_ne_nil hne
  refine cutLast_append (hdigits d List.mem_cons_self) fun t ht htne => ?_
  obtain ⟨c, cs, rfl⟩ := List.exists_cons_of_ne_nil htne
  have hc : c ≠ 'p' := isDigit_ne (hdigits c (ht.subset List.mem_cons_self)) (by decide)
  unfold partitionSuffix
  split <;> simp_all

/-- Of a number without a `p` before it, only the last digit is cut. -/
theorem cutLast_digitSuffix (a : List Char) {d : Char} (hd : d.isDigit = true) : cutLast digitSuffix (a ++ [d]) = some a :=
  cutLast_append hd fun _ ht htne => absurd (List.suffix_nil.1 ht) htne

theorem partitionName_base {name number : List Char} (h : DiskName name) (hdigits : ∀ c ∈ number, c.isDigit = true)
    (dir : List Char) : baseName (dir ++ '/' :: partitionName name number) = partitionName name number := by
  have hslash := h.slash_notMem
  have hnumber : '/' ∉ number := fun hmem => isDigit_ne (hdigits _ hmem) (by decide) rfl
  unfold partitionName
  split_ifs
  · exact baseName_append (by simp [h.ne_nil]) (by simp [hslash, hnumber])
  · exact baseName_append (by simp) (by simp [hslash, hnumber])

/-- What is left of the name of a partition: the disk, and behind an `sd` name all but the last digit of the number. -/
theorem diskFromPartition_eq {name : List Char} (h : DiskName name) {number : List Char} (hne : number ≠ [])
    (hdigits : ∀ c ∈ number, c.isDigit = true) (dir : List Char) :
    diskFromPartition (dir ++ '/' :: partitionName name number) =
      if "sd".toList.isPrefixOf name then name ++ number.dropLast else name := by
  obtain ⟨d, ds, rfl⟩ := List.exists_cons_of_ne_nil hne
  unfold diskFromPartition
  rw [partitionName_base h hdigits]
  cases h with
  | @mmcblk digits =>
    have hcut := cutLast_partitionSuffix hne hdigits ("mmcblk".toList ++ digits)
    have hsome : (cutLast partitionSuffix (digits ++ 'p' :: d :: ds)).isSome = true :=
      cutLast_isSome (hdigits d List.mem_cons_self)
    simp_all [partitionName, List.isPrefixOf]
  | @sd letters =>
    have hcut : cutLast digitSuffix ("sd".toList ++ letters ++ d :: ds) = some ("sd".toList ++ letters ++ (d :: ds).dropLast) := by
      have := cutLast_digitSuffix ("sd".toList ++ letters ++ (d :: ds).dropLast) (hdigits _ (List.getLast_mem hne))
      rwa [List.append_assoc _ _ [_], List.dropLast_append_getLast] at this
    have hsome : (cutLast digitSuffix (letters ++ d :: ds)).isSome = true := cutLast_isSome (hdigits d List.mem_cons_self)
    simp_all [partitionName, List.isPrefixOf]
  | @nvme controller drive =>
    have hcut := cutLast_partitionSuffix hne hdigits ("nvme".toList ++ (controller ++ 'n' :: drive))
    have hdrive : (cutLast partitionSuffix (drive ++ 'p' :: d :: ds)).isSome = true :=
      cutLast_isSome (hdigits d List.mem_cons_self)
    have hsome : (cutLast namespaceSuffix (controller ++ 'n' :: (drive ++ 'p' :: d :: ds))).isSome = true :=
      cutLast_isSome hdrive
    simp_all [partitionName, List.isPrefixOf]

/-- The name of a disk is found from its partition: by the cut, and by the installer where the partition is mounted and `lsblk` does
not print its parent. -/
structure RecoversDisk (dir name number : List Char) : Prop where
  cut : diskFromPartition (partitionPath (dir ++ '/' :: name) number) = name
  mounted : ∀ (m : Machine) (path : List Char), m.devDir = dir → m.findmnt path = partitionPath (dir ++ '/' :: name) number →
    m.pkname (partitionPath (dir ++ '/' :: name) number) = [] → m.mountedDiskForPath path = [name]

/-- A partition is not the alias of the root device. -/
theorem partitionName_ne_root {name number : List Char} (h : DiskName name) (hdigits : ∀ c ∈ number, c.isDigit = true)
    (dir : List Char) : dir ++ '/' :: partitionName name number ≠ "/dev/root".toList := by
  intro heq
  have hbase : partitionName name number = "root".toList := by
    rw [← partitionName_base h hdigits dir, heq]
    decide
  cases h <;> simp [partitionName, List.isPrefixOf] at hbase

theorem mountedDiskForPath_partition {name number : List Char} (h : DiskName name) (hdigits : ∀ c ∈ number, c.isDigit = true)
    {m : Machine} {path : List Char} (hmount : m.findmnt path = partitionPath (m.devDir ++ '/' :: name) number)
    (hparent : m.pkname (partitionPath (m.devDir ++ '/' :: name) number) = []) :
    m.mountedDiskForPath path = [diskFromPartition (partitionPath (m.devDir ++ '/' :: name) number)] := by
  have hdev : m.isDevice (m.devDir ++ '/' :: partitionName name number) = true := by
    rw [Machine.isDevice, List.isPrefixOf_iff_prefix]
    exact ⟨partitionName name number, by simp⟩
  rw [partitionPath_eq h] at *
  unfold Machine.mountedDiskForPath
  rw [hmount, if_neg (by simp), Machine.resolveRoot, if_neg (partitionName_ne_root h hdigits _), if_pos hdev, Machine.parentDisk,
    if_neg (by simp [hparent])]

/-- The number of a partition is one digit up to nine. -/
theorem dropLast_toDigits (n : Nat) : (Nat.toDigits 10 n).dropLast = [] ↔ n ≤ 9 := by
  by_cases hn : n < 10
  · rw [Nat.toDigits_of_lt_base hn]
    exact iff_of_true rfl (by omega)
  · rw [Nat.toDigits_of_base_le (by decide) (by omega), List.dropLast_concat]
    exact iff_of_false Nat.toDigits_ne_nil (by omega)

/-- The disk of a partition is found again, unless the disk has an `sd` name and the partition a number of two digits or more. -/
theorem disk_from_partition_iff {name : List Char} (h : DiskName name) (dir : List Char) (n : Nat) :
    RecoversDisk dir name (Nat.toDigits 10 n) ↔ ("sd".toList.isPrefixOf name = true → n ≤ 9) := by
  have hne : Nat.toDigits 10 n ≠ [] := Nat.toDigits_ne_nil
  have hdigits : ∀ c ∈ Nat.toDigits 10 n, c.isDigit = true := isDigit_toDigits n
  have hcut : diskFromPartition (partitionPath (dir ++ '/' :: name) (Nat.toDigits 10 n)) = name ↔
      ("sd".toList.isPrefixOf name = true → n ≤ 9) := by
    rw [partitionPath_eq h, diskFromPartition_eq h hne hdigits]
    split_ifs with hsd
    · exact ⟨fun heq _ => (dropLast_toDigits n).1 (List.append_right_eq_self.1 heq),
        fun hn => by rw [(dropLast_toDigits n).2 (hn hsd), List.append_nil]⟩
    · exact iff_of_true rfl fun h => absurd h hsd
  refine ⟨fun hrecovers => hcut.1 hrecovers.cut, fun hn => ⟨hcut.2 hn, ?_⟩⟩
  rintro m path rfl hmount hparent
  rw [mountedDiskForPath_partition h hdigits hmount hparent, hcut.2 hn]

/-- The eMMC of a Raspberry Pi is found from a partition with any number. -/
theorem disk_from_partition_mmcblk : RecoversDisk "/dev".toList "mmcblk0".toList (Nat.toDigits 10 12) :=
  (disk_from_partition_iff (DiskName.mmcblk (d := ['0']) (by decide) (by decide)) "/dev".toList 12).2 (by decide)

/-- The twelfth partition of a USB disk is taken for one of a disk that is called `sda1`. -/
theorem disk_from_partition_sda12 : ¬ ∀ (dir name : List Char) (n : Nat), DiskName name → 1 ≤ n →
    RecoversDisk dir name (Nat.toDigits 10 n) := by
  intro h
  have hcut := (h "/dev".toList "sda".toList 12 (DiskName.sd (l := ['a']) (by decide) (by decide)) (by decide)).cut
  revert hcut
  decide +kernel

end SuderraOs.Install
