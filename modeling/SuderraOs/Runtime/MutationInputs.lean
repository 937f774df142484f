import Mathlib.Algebra.Group.Nat.Defs
import Mathlib.Data.List.Pairwise
import SuderraOs.Lib.Effect
import SuderraOs.Lib.Text

/-!
# Where the mutations of a runtime suite hit

`derive-mutation-inputs.py` finds the partitions of a built image that the negative scenarios change: the first one of the type of an ESP
or with one of some words in its name, and the first one with the word of a root file system in its name. Every root file system
partition has this word in its name, the verity partitions too, so that the slot is not asked for: the tamper window is in the slot's
partition exactly when this one is the first of them (`mutations_hit_iff`).
-/

namespace SuderraOs.Runtime.Mutation

open Text

/-! ## The partitions of an image -/

/-- A partition in the output of `sfdisk -J`, which may leave out the name; numbers are sectors. -/
structure Partition where
  type : String
  name : String
  start : Nat
  size : Nat
  deriving DecidableEq, Repr

structure PartitionTable where
  sectorsize : Option Nat
  partitions : List Partition
  deriving DecidableEq, Repr

def PartitionTable.sector (T : PartitionTable) : Nat := T.sectorsize.getD 512

inductive Slot where
  | a
  | b
  deriving DecidableEq, Repr

/-- `active_slot.lower()`. -/
def Slot.letter : Slot → String
  | a => "a"
  | b => "b"

/-- `str.lower` and `str.upper`. -/
structure Casing where
  lower : String → String
  upper : String → String

def espTypeGuid : String := "C12A7328-F81F-11D2-BA4B-00A0C93EC93B"

/-- The bytes that a mutation of the root file system changes. -/
def tamperLength : Nat := 4096

/-! ## The offsets -/

section Offsets

variable (C : Casing)

/-- Whether a word stands in the name of a partition. -/
def Partition.named (word : String) (p : Partition) : Bool := contains word.toList (C.lower p.name).toList

def Partition.isEsp (p : Partition) : Bool := C.upper p.type = C.upper espTypeGuid

/-- Whether `_find` returns a partition that it comes to. -/
def isFound (typeGuid : Option String) (words : List String) (p : Partition) : Bool :=
  (typeGuid.any fun guid => C.upper p.type = C.upper guid) || (C.lower p.name ≠ "" && words.any fun word => p.named C word)

/-- `_find`. -/
def find (parts : List Partition) (typeGuid : Option String) (words : List String) : Except String Partition :=
  orError ("no partition matching type=" ++ typeGuid.getD "None" ++ " names=" ++ commaSeparated words)
    (parts.find? (isFound C typeGuid words))

/-- The offset of the ESP and the one of the tamper window, in bytes: 1 MiB behind the start of the partition. -/
def mutationOffsets (T : PartitionTable) (slot : Slot) : Except String (Nat × Nat) := do
  let esp ← find C T.partitions (some espTypeGuid) ["efi", "esp", "boot"]
  let rootfs ← find C T.partitions none ["rootfs-" ++ slot.letter, "rootfs"]
  .ok (esp.start * T.sector, rootfs.start * T.sector + 2 ^ 20)

/-! ## Where they hit -/

/-- Bytes of an image that lie in a partition. -/
def Partition.Holds (sector : Nat) (p : Partition) (offset length : Nat) : Prop :=
  p.start * sector ≤ offset ∧ offset + length ≤ (p.start + p.size) * sector

/-- Bytes of an image none of which lies in a partition. -/
def Partition.Misses (sector : Nat) (p : Partition) (offset length : Nat) : Prop :=
  offset + length ≤ p.start * sector ∨ (p.start + p.size) * sector ≤ offset

def rootfsNames : List String := ["rootfs-a", "rootfs-b", "rootfs-a-verity", "rootfs-b-verity"]

/-- A table with the partitions of `genimage.cfg`, in any order: one ESP, one root file system for each slot, the verity partitions, and
others with none of the words in their names. -/
structure Layout (T : PartitionTable) (esp : Partition) (rootfs : Slot → Partition) : Prop where
  esp_only : T.partitions.filter (·.isEsp C) = [esp]
  rootfs_only : ∀ slot, T.partitions.filter (fun p => C.lower p.name = "rootfs-" ++ slot.letter) = [rootfs slot]
  esp_name : esp.named C "rootfs" = false
  other_names : ∀ p ∈ T.partitions, p.isEsp C = false →
    C.lower p.name ∈ rootfsNames ∨ ∀ word ∈ ["rootfs", "efi", "esp", "boot"], p.named C word = false
  disjoint : T.partitions.Pairwise fun p q => p.start + p.size ≤ q.start ∨ q.start + q.size ≤ p.start

/-- The offsets are those of the ESP and of bytes in the slot's root file system and in no other partition. -/
def Hits (T : PartitionTable) (slot : Slot) (esp target : Partition) : Prop :=
  ∃ offset, mutationOffsets C T slot = .ok (esp.start * T.sector, offset) ∧ target.Holds T.sector offset tamperLength ∧
    ∀ p ∈ T.partitions, p ≠ target → p.Misses T.sector offset tamperLength

/-- The first root file system or verity partition of the table is the target, or one that ends so near before the target that 1 MiB
behind its start is in the target. -/
def IsFirst (T : PartitionTable) (target : Partition) : Prop :=
  ∃ first, T.partitions.find? (·.named C "rootfs") = some first ∧
    (first = target ∨ target.Holds T.sector (first.start * T.sector + 2 ^ 20) tamperLength)

variable {C}

theorem named_rootfs_of_named {slot : Slot} {p : Partition} (h : p.named C ("rootfs-" ++ slot.letter) = true) :
    p.named C "rootfs" = true := by
  obtain ⟨before, after, hname⟩ := contains_iff.1 h
  refine contains_iff.2 ⟨before, ("-" ++ slot.letter).toList ++ after, ?_⟩
  rw [hname]
  cases slot <;> simp

/-- The words of a slot find what the word of all root file systems finds. -/
theorem isFound_rootfs (slot : Slot) (p : Partition) :
    isFound C none ["rootfs-" ++ slot.letter, "rootfs"] p = p.named C "rootfs" := by
  have hempty : p.named C "rootfs" = true → C.lower p.name ≠ "" := by
    intro h hname
    rw [Partition.named, hname] at h
    exact absurd h (by decide)
  have hslot := @named_rootfs_of_named C slot p
  cases hfound : p.named C "rootfs"
  · have hnot : p.named C ("rootfs-" ++ slot.letter) = false := Bool.eq_false_iff.2 fun h => by simp [hslot h] at hfound
    simp [isFound, hfound, hnot]
  · simp [isFound, hfound, hempty hfound]

theorem rootfsNames_named {p : Partition} (h : C.lower p.name ∈ rootfsNames) :
    p.named C "rootfs" = true ∧ ∀ word ∈ ["efi", "esp", "boot"], p.named C word = false := by
  simp only [rootfsNames, List.mem_cons, List.not_mem_nil, or_false] at h
  unfold Partition.named
  rcases h with h | h | h | h <;> rw [h] <;> decide

variable {T : PartitionTable} {esp : Partition} {rootfs : Slot → Partition}

/-- The ESP is found by its type wherever it stands: no other partition has one of the words in its name. -/
theorem Layout.find_esp (h : Layout C T esp rootfs) : find C T.partitions (some espTypeGuid) ["efi", "esp", "boot"] = .ok esp := by
  have hfound : ∀ p ∈ T.partitions, isFound C (some espTypeGuid) ["efi", "esp", "boot"] p = p.isEsp C := by
    intro p hp
    cases hesp : p.isEsp C
    · have hwords : ∀ word ∈ ["efi", "esp", "boot"], p.named C word = false := by
        rcases h.other_names p hp hesp with hname | hname
        · exact (rootfsNames_named hname).2
        · exact fun word hword => hname word (List.mem_cons_of_mem _ hword)
      have hany : (["efi", "esp", "boot"].any fun word => p.named C word) = false := by
        simpa using hwords
      have htype : (C.upper p.type = C.upper espTypeGuid) = False := by simpa [Partition.isEsp] using hesp
      simp [isFound, hany, htype]
    · have htype : C.upper p.type = C.upper espTypeGuid := by simpa [Partition.isEsp] using hesp
      simp [isFound, htype]
  have hfind : T.partitions.find? (isFound C (some espTypeGuid) ["efi", "esp", "boot"]) = some esp := by
    rw [← List.head?_filter, List.filter_congr hfound, h.esp_only, List.head?_cons]
  rw [find, hfind, orError_some]

theorem Layout.rootfs_mem (h : Layout C T esp rootfs) (slot : Slot) :
    rootfs slot ∈ T.partitions ∧ C.lower (rootfs slot).name = "rootfs-" ++ slot.letter := by
  have hmem : rootfs slot ∈ T.partitions.filter fun p => C.lower p.name = "rootfs-" ++ slot.letter := by
    rw [h.rootfs_only]
    exact List.mem_singleton_self _
  simpa using List.mem_filter.1 hmem

/-- Some partition has the word of a root file system in its name, and the tamper window is behind the start of the first of them. -/
theorem Layout.offsets (h : Layout C T esp rootfs) (slot : Slot) :
    ∃ first, T.partitions.find? (·.named C "rootfs") = some first ∧
      mutationOffsets C T slot = .ok (esp.start * T.sector, first.start * T.sector + 2 ^ 20) := by
  obtain ⟨hmem, hname⟩ := h.rootfs_mem slot
  have hrootfs : (rootfs slot).named C "rootfs" = true := by
    refine (rootfsNames_named ?_).1
    rw [hname]
    cases slot <;> decide
  obtain ⟨first, hfirst⟩ := Option.isSome_iff_exists.1 (List.find?_isSome.2 ⟨rootfs slot, hmem, hrootfs⟩)
  refine ⟨first, hfirst, ?_⟩
  have hfind : find C T.partitions none ["rootfs-" ++ slot.letter, "rootfs"] = .ok first := by
    rw [find, ← List.head?_filter, List.filter_congr fun p _ => isFound_rootfs slot p, List.head?_filter, hfirst, orError_some]
  rw [mutationOffsets, h.find_esp, hfind]
  rfl

/-- Bytes of one partition are in no other one. -/
theorem Layout.misses (h : Layout C T esp rootfs) {p q : Partition} (hp : p ∈ T.partitions) (hq : q ∈ T.partitions) (hne : p ≠ q)
    {offset length : Nat} (hholds : q.Holds T.sector offset length) : p.Misses T.sector offset length := by
  have hsymm : Std.Symm fun p q : Partition => p.start + p.size ≤ q.start ∨ q.start + q.size ≤ p.start := ⟨fun _ _ hpq => hpq.symm⟩
  rcases h.disjoint.forall hp hq hne with hapart | hapart
  · exact .inr ((Nat.mul_le_mul_right T.sector hapart).trans hholds.1)
  · exact .inl (hholds.2.trans (Nat.mul_le_mul_right T.sector hapart))

/-- For a root file system of more than 1 MiB and 4 KiB, the mutations hit the ESP and the slot's root file system exactly when this one
stands before the other root file system and verity partitions of the table, but for a short one that ends right before it. -/
theorem mutations_hit_iff (h : Layout C T esp rootfs) (slot : Slot) (hsize : 2 ^ 20 + tamperLength < (rootfs slot).size * T.sector) :
    Hits C T slot esp (rootfs slot) ↔ IsFirst C T (rootfs slot) := by
  obtain ⟨hmem, _⟩ := h.rootfs_mem slot
  obtain ⟨first, hfirst, hoffsets⟩ := h.offsets slot
  constructor
  · rintro ⟨offset, hoffset, hholds, _⟩
    obtain ⟨_, rfl⟩ := Prod.mk.inj (Except.ok.inj (hoffsets.symm.trans hoffset))
    exact ⟨first, hfirst, .inr hholds⟩
  · rintro ⟨first', hfirst', htarget⟩
    obtain rfl : first = first' := Option.some.inj (hfirst.symm.trans hfirst')
    have hholds : (rootfs slot).Holds T.sector (first.start * T.sector + 2 ^ 20) tamperLength := by
      rcases htarget with rfl | hholds
      · refine ⟨by omega, ?_⟩
        rw [Nat.add_mul]
        omega
      · exact hholds
    exact ⟨_, hoffsets, hholds, fun p hp hne => h.misses hp hmem hne hholds⟩

end Offsets

/-! ## The image of `genimage.cfg` -/

def sampleCasing : Casing where
  lower s := String.ofList (s.toList.map Char.toLower)
  upper s := String.ofList (s.toList.map Char.toUpper)

def linuxTypeGuid : String := "0FC63DAF-8483-4772-8E79-3D69D8477DE4"

def sampleEsp : Partition := ⟨espTypeGuid, "efi", 2048, 131072⟩

def sampleRootfs : Slot → Partition
  | .a => ⟨linuxTypeGuid, "rootfs-a", 133120, 1048576⟩
  | .b => ⟨linuxTypeGuid, "rootfs-b", 1312768, 1048576⟩

def sampleTable : PartitionTable where
  sectorsize := some 512
  partitions := [sampleEsp, sampleRootfs .a, ⟨linuxTypeGuid, "rootfs-a-verity", 1181696, 131072⟩, sampleRootfs .b,
    ⟨linuxTypeGuid, "rootfs-b-verity", 2361344, 131072⟩, ⟨linuxTypeGuid, "data", 2492416, 4194304⟩]

theorem sampleLayout : Layout sampleCasing sampleTable sampleEsp sampleRootfs where
  esp_only := by decide +kernel
  rootfs_only := fun slot => by cases slot <;> decide +kernel
  esp_name := by decide +kernel
  other_names := by decide +kernel
  disjoint := by decide +kernel

theorem mutations_hit_sample : Hits sampleCasing sampleTable .a sampleEsp (sampleRootfs .a) ↔
    IsFirst sampleCasing sampleTable (sampleRootfs .a) :=
  mutations_hit_iff sampleLayout .a (by decide)

/-- With slot B active the tamper window of the image is in the root file system of slot A. -/
theorem mutations_hit_other_slot : Layout sampleCasing sampleTable sampleEsp sampleRootfs ∧
    2 ^ 20 + tamperLength < (sampleRootfs .b).size * sampleTable.sector ∧
    ¬Hits sampleCasing sampleTable .b sampleEsp (sampleRootfs .b) := by
  refine ⟨sampleLayout, by decide, ?_⟩
  rintro ⟨offset, hoffset, hholds, _⟩
  have hoffsets : mutationOffsets sampleCasing sampleTable .b = .ok (2048 * 512, 133120 * 512 + 2 ^ 20) := by rfl
  obtain ⟨_, rfl⟩ := Prod.mk.inj (Except.ok.inj (hoffsets.symm.trans hoffset))
  exact absurd hholds.1 (by decide)

end SuderraOs.Runtime.Mutation
