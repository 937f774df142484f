import Mathlib.Logic.Relation

/-!
# Devices that rest on others

A partition rests on its disk, a mapped or an assembled device on those it is made of. The disks of a device are found by
following these links to their ends; a device that rests on nothing is a disk.
-/

namespace SuderraOs

/-- Devices, each with those that it rests on directly. No device rests on itself, however far down one goes. -/
structure DeviceStack (δ : Type) where
  parents : δ → List δ
  depth : δ → Nat
  depth_lt : ∀ d, ∀ p ∈ parents d, depth p < depth d

namespace DeviceStack

variable {δ : Type} {t : DeviceStack δ} {d e x : δ}

/-- A device is another one or rests on it, directly or not. -/
def RestsOn (t : DeviceStack δ) (d x : δ) : Prop := Relation.ReflTransGen (fun d p => p ∈ t.parents d) d x

def IsDisk (t : DeviceStack δ) (d : δ) : Prop := t.parents d = []

/-- A disk that a device is or rests on. -/
structure DiskOf (t : DeviceStack δ) (d disk : δ) : Prop where
  restsOn : t.RestsOn d disk
  isDisk : t.IsDisk disk

/-- A disk of a device carries another device. -/
def Carries (t : DeviceStack δ) (d e : δ) : Prop := ∃ disk, t.DiskOf d disk ∧ t.RestsOn e disk

theorem RestsOn.of_mem (h : x ∈ t.parents d) : t.RestsOn d x := .single h

theorem RestsOn.of_parent (h : x ∈ t.parents d) (hx : t.RestsOn x e) : t.RestsOn d e := .head h hx

/-- A disk rests on nothing but itself. -/
theorem RestsOn.eq_of_isDisk (h : t.RestsOn d x) (hd : t.IsDisk d) : x = d := by
  rcases h.cases_head with rfl | ⟨p, hp, -⟩
  · rfl
  · rw [hd] at hp
    cases hp

/-- Every device has a disk, by induction on how far the links go down. -/
theorem exists_diskOf (t : DeviceStack δ) (d : δ) : ∃ disk, t.DiskOf d disk := by
  induction hdepth : t.depth d using Nat.strongRecOn generalizing d with
  | ind n ih =>
    cases hparents : t.parents d with
    | nil => exact ⟨d, .refl, hparents⟩
    | cons p ps =>
      have hp : p ∈ t.parents d := hparents ▸ List.mem_cons_self
      obtain ⟨disk, hdisk⟩ := ih _ (hdepth ▸ t.depth_lt d p hp) p rfl
      exact ⟨disk, hdisk.restsOn.of_parent hp, hdisk.isDisk⟩

theorem carries_self (t : DeviceStack δ) (d : δ) : t.Carries d d :=
  (t.exists_diskOf d).imp fun _ h => ⟨h, h.restsOn⟩

/-! ## Disks and partitions -/

/-- What a device rests on first, or the device itself. -/
def stem (t : DeviceStack δ) (d : δ) : δ := (t.parents d).head?.getD d

/-- A device is a disk or the partition of one. -/
def Shallow (t : DeviceStack δ) (d : δ) : Prop := t.parents d = [] ∨ ∃ p, t.parents d = [p] ∧ t.IsDisk p

/-- What a disk or a partition rests on is itself or its disk. -/
theorem Shallow.restsOn_isDisk (h : t.Shallow d) (hx : t.RestsOn d x) (hdisk : t.IsDisk x) : x = t.stem d := by
  rcases h with hd | ⟨p, hp, hpdisk⟩
  · rw [stem, hd]
    exact hx.eq_of_isDisk hd
  · rw [stem, hp]
    rcases hx.cases_head with rfl | ⟨q, hq, hqx⟩
    · rw [IsDisk, hp] at hdisk
      cases hdisk
    · rw [hp, List.mem_singleton] at hq
      subst hq
      exact RestsOn.eq_of_isDisk hqx hpdisk

/-- Of two devices that are disks or partitions, the disk of one carries the other only if they have the same disk. -/
theorem Shallow.stem_eq_of_carries (hd : t.Shallow d) (he : t.Shallow e) (h : t.Carries d e) : t.stem d = t.stem e := by
  obtain ⟨disk, hdisk, hrests⟩ := h
  rw [← hd.restsOn_isDisk hdisk.restsOn hdisk.isDisk, he.restsOn_isDisk hrests hdisk.isDisk]

end DeviceStack

end SuderraOs
