import Mathlib.Data.List.Nodup

/-!
# The parts of a whole

A list of parts, each with a key and with the records it holds, against a whole whose records have owners. A part is faithful when it
holds exactly what its key owns of the whole. Faithful parts share the whole out, each record to one of them, when their keys differ and
every owner is a key; where each part holds something, only then (`oneOf_iff`).
-/

namespace SuderraOs

/-- One place of a list, and no other, has what holds of its item. -/
def OneOf {ι : Type} (p : ι → Prop) (parts : List ι) : Prop := ∃! i : Nat, ∃ part, parts[i]? = some part ∧ p part

section

variable {ι κ ρ : Type}

/-- Each part holds what its key owns of the whole. -/
def Faithful (whole : ρ → Prop) (owner : ρ → κ) (key : ι → κ) (holds : ι → ρ → Prop) (parts : List ι) : Prop :=
  ∀ part ∈ parts, ∀ r, holds part r ↔ whole r ∧ owner r = key part

variable {whole : ρ → Prop} {owner : ρ → κ} {key : ι → κ} {holds : ι → ρ → Prop} {parts : List ι}

theorem OneOf.exists_mem {p : ι → Prop} (h : OneOf p parts) : ∃ part ∈ parts, p part := by
  obtain ⟨i, ⟨part, hpart, hp⟩, _⟩ := h
  exact ⟨part, List.mem_of_getElem? hpart, hp⟩

/-- Two places whose items have the property are one place. -/
theorem OneOf.place_unique {p : ι → Prop} (h : OneOf p parts) {i j : Nat} {a b : ι} (ha : parts[i]? = some a) (hb : parts[j]? = some b)
    (hpa : p a) (hpb : p b) : i = j :=
  h.unique ⟨a, ha, hpa⟩ ⟨b, hb, hpb⟩

/-- A record with an owner among differing keys is in one part. -/
theorem Faithful.oneOf (h : Faithful whole owner key holds parts) (hnodup : (parts.map key).Nodup) {r : ρ} (hr : whole r)
    (howner : owner r ∈ parts.map key) : OneOf (holds · r) parts := by
  obtain ⟨part, hpart, hkey⟩ := List.mem_map.1 howner
  obtain ⟨i, hi⟩ := List.mem_iff_getElem?.1 hpart
  refine ⟨i, ⟨part, hi, (h part hpart r).2 ⟨hr, hkey.symm⟩⟩, ?_⟩
  rintro j ⟨other, hj, hholds⟩
  have hother : key other = key part := ((h other (List.mem_of_getElem? hj) r).1 hholds).2.symm.trans hkey.symm
  have hlength : j < (parts.map key).length := by
    rw [List.length_map]
    exact (List.getElem?_eq_some_iff.1 hj).1
  refine (List.getElem?_inj hlength hnodup).1 ?_
  rw [List.getElem?_map, List.getElem?_map, hj, hi, Option.map_some, Option.map_some, hother]

/-- What is in a part has an owner among the keys. -/
theorem Faithful.owner_mem (h : Faithful whole owner key holds parts) {r : ρ} (hr : OneOf (holds · r) parts) :
    owner r ∈ parts.map key := by
  obtain ⟨part, hpart, hholds⟩ := hr.exists_mem
  exact List.mem_map.2 ⟨part, hpart, ((h part hpart r).1 hholds).2.symm⟩

/-- Where each record is in one part and each part holds some record, the keys differ: parts of one key hold the same records. -/
theorem Faithful.nodup_keys (h : Faithful whole owner key holds parts) (hinhabited : ∀ part ∈ parts, ∃ r, holds part r)
    (hone : ∀ r, whole r → OneOf (holds · r) parts) : (parts.map key).Nodup := by
  rw [List.nodup_iff_getElem?_ne_getElem?]
  intro i j hij hj heq
  rw [List.length_map] at hj
  have ha : parts[i]? = some parts[i] := List.getElem?_eq_getElem _
  have hb : parts[j]? = some parts[j] := List.getElem?_eq_getElem _
  rw [List.getElem?_map, List.getElem?_map, ha, hb, Option.map_some, Option.map_some, Option.some.injEq] at heq
  obtain ⟨r, hr⟩ := hinhabited parts[i] (List.getElem_mem _)
  obtain ⟨hwhole, howner⟩ := (h _ (List.getElem_mem _) r).1 hr
  have hother : holds parts[j] r := (h _ (List.getElem_mem _) r).2 ⟨hwhole, howner.trans heq⟩
  exact (Nat.ne_of_lt hij) ((hone r hwhole).place_unique ha hb hr hother)

/-- Faithful parts that each hold something share the whole out exactly when their keys differ and every owner is a key. -/
theorem Faithful.oneOf_iff (h : Faithful whole owner key holds parts) (hinhabited : ∀ part ∈ parts, ∃ r, holds part r) :
    (∀ r, whole r → OneOf (holds · r) parts) ↔ (parts.map key).Nodup ∧ ∀ r, whole r → owner r ∈ parts.map key :=
  ⟨fun hone => ⟨h.nodup_keys hinhabited hone, fun r hr => h.owner_mem (hone r hr)⟩,
    fun ⟨hnodup, howner⟩ r hr => h.oneOf hnodup hr (howner r hr)⟩

end

end SuderraOs
