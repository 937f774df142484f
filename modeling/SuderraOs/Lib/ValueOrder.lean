import Mathlib.Logic.Relation
import SuderraOs.Lib.PyValue

/-!
# Documents up to the order of members

An object is a map of its names, so two documents that differ in the order of members only are the same (`SameMembers`). A document
with its members sorted is the representative of its class: two documents with one member for each name are the same exactly when
they are equal sorted (`sameMembers_iff`).
-/

namespace SuderraOs.Value

mutual

/-- Every object of a document has one member for each name. -/
def UniqueNames : Value → Prop
  | .list items => UniqueNamesItems items
  | .dict fields => (fields.map (·.1)).Nodup ∧ UniqueNamesFields fields
  | .null => True
  | .bool _ => True
  | .int _ => True
  | .float _ => True
  | .str _ => True

def UniqueNamesItems : List Value → Prop
  | [] => True
  | item :: items => UniqueNames item ∧ UniqueNamesItems items

def UniqueNamesFields : List (String × Value) → Prop
  | [] => True
  | (_, value) :: fields => UniqueNames value ∧ UniqueNamesFields fields

end

theorem uniqueNamesItems_iff : ∀ {items : List Value}, UniqueNamesItems items ↔ ∀ item ∈ items, item.UniqueNames
  | [] => by simp [UniqueNamesItems]
  | item :: items => by simp [UniqueNamesItems, @uniqueNamesItems_iff items]

theorem uniqueNamesFields_iff : ∀ {fields : List (String × Value)}, UniqueNamesFields fields ↔ ∀ p ∈ fields, p.2.UniqueNames
  | [] => by simp [UniqueNamesFields]
  | (_, value) :: fields => by simp [UniqueNamesFields, @uniqueNamesFields_iff fields]

theorem sortKeysItems_eq_map : ∀ items : List Value, sortKeysItems items = items.map sortKeys
  | [] => rfl
  | item :: items => by rw [sortKeysItems, sortKeysItems_eq_map items, List.map_cons]

theorem sortKeysFields_eq_map : ∀ fields : List (String × Value), sortKeysFields fields = fields.map fun p => (p.1, p.2.sortKeys)
  | [] => rfl
  | (_, _) :: fields => by rw [sortKeysFields, sortKeysFields_eq_map fields, List.map_cons]

/-- One object of a document has its members in another order. -/
inductive Reorders : Value → Value → Prop where
  | members {fields fields' : List (String × Value)} (h : fields.Perm fields') : Reorders (.dict fields) (.dict fields')
  | item {v w : Value} (before after : List Value) (h : Reorders v w) :
      Reorders (.list (before ++ v :: after)) (.list (before ++ w :: after))
  | member {v w : Value} (before : List (String × Value)) (name : String) (after : List (String × Value)) (h : Reorders v w) :
      Reorders (.dict (before ++ (name, v) :: after)) (.dict (before ++ (name, w) :: after))

/-- The same document, up to the order of members. -/
def SameMembers : Value → Value → Prop := Relation.ReflTransGen Reorders

theorem Reorders.symm {v w : Value} (h : Reorders v w) : Reorders w v := by
  induction h with
  | members h => exact .members h.symm
  | item before after _ ih => exact .item before after ih
  | member before name after _ ih => exact .member before name after ih

theorem SameMembers.symm {v w : Value} (h : SameMembers v w) : SameMembers w v := by
  induction h with
  | refl => exact .refl
  | tail _ hstep ih => exact .head hstep.symm ih

theorem SameMembers.trans {u v w : Value} (h : SameMembers u v) (h' : SameMembers v w) : SameMembers u w :=
  Relation.ReflTransGen.trans h h'

theorem SameMembers.item {v w : Value} (before after : List Value) (h : SameMembers v w) :
    SameMembers (.list (before ++ v :: after)) (.list (before ++ w :: after)) := by
  induction h with
  | refl => exact .refl
  | tail _ hstep ih => exact ih.tail (.item before after hstep)

theorem SameMembers.member {v w : Value} (before : List (String × Value)) (name : String) (after : List (String × Value))
    (h : SameMembers v w) : SameMembers (.dict (before ++ (name, v) :: after)) (.dict (before ++ (name, w) :: after)) := by
  induction h with
  | refl => exact .refl
  | tail _ hstep ih => exact ih.tail (.member before name after hstep)

mutual

/-- A document is the same as the sorted one. -/
theorem sameMembers_sortKeys : ∀ v : Value, SameMembers v v.sortKeys
  | .null => .refl
  | .bool _ => .refl
  | .int _ => .refl
  | .float _ => .refl
  | .str _ => .refl
  | .list items => sameMembers_sortKeysItems [] items
  | .dict fields => (sameMembers_sortKeysFields [] fields).trans (.single (.members (List.perm_insertionSort _ _).symm))

theorem sameMembers_sortKeysItems : ∀ before items : List Value,
    SameMembers (.list (before ++ items)) (.list (before ++ sortKeysItems items))
  | _, [] => .refl
  | before, item :: items => by
    have hitem := (sameMembers_sortKeys item).item before items
    have hitems := sameMembers_sortKeysItems (before ++ [item.sortKeys]) items
    rw [List.append_assoc, List.append_assoc] at hitems
    exact hitem.trans hitems

theorem sameMembers_sortKeysFields : ∀ before fields : List (String × Value),
    SameMembers (.dict (before ++ fields)) (.dict (before ++ sortKeysFields fields))
  | _, [] => .refl
  | before, (name, value) :: fields => by
    have hvalue := (sameMembers_sortKeys value).member before name fields
    have hfields := sameMembers_sortKeysFields (before ++ [(name, value.sortKeys)]) fields
    rw [List.append_assoc, List.append_assoc] at hfields
    exact hvalue.trans hfields

end

/-- Another order of members keeps the names, and the sorted document. -/
theorem Reorders.sortKeys_eq {v w : Value} (h : Reorders v w) (hv : v.UniqueNames) :
    w.UniqueNames ∧ v.sortKeys = w.sortKeys := by
  induction h with
  | members h =>
    simp only [UniqueNames, uniqueNamesFields_iff] at hv ⊢
    refine ⟨⟨(h.map _).nodup_iff.1 hv.1, fun p hp => hv.2 p (h.mem_iff.2 hp)⟩, ?_⟩
    simp only [sortKeys, sortKeysFields_eq_map]
    refine congrArg Value.dict (insertionSort_eq_of_perm (h.map _) ?_)
    rw [List.map_map]
    exact hv.1
  | item before after _ ih =>
    simp only [UniqueNames, uniqueNamesItems_iff, List.forall_mem_append, List.forall_mem_cons] at hv ⊢
    obtain ⟨hw, heq⟩ := ih hv.2.1
    refine ⟨⟨hv.1, hw, hv.2.2⟩, ?_⟩
    simp only [sortKeys, sortKeysItems_eq_map, List.map_append, List.map_cons, heq]
  | member before name after _ ih =>
    simp only [UniqueNames, uniqueNamesFields_iff, List.forall_mem_append, List.forall_mem_cons, List.map_append,
      List.map_cons] at hv ⊢
    obtain ⟨hw, heq⟩ := ih hv.2.2.1
    refine ⟨⟨hv.1, hv.2.1, hw, hv.2.2.2⟩, ?_⟩
    simp only [sortKeys, sortKeysFields_eq_map, List.map_append, List.map_cons, heq]

theorem SameMembers.sortKeys_eq {v w : Value} (h : SameMembers v w) (hv : v.UniqueNames) : w.UniqueNames ∧ v.sortKeys = w.sortKeys := by
  induction h with
  | refl => exact ⟨hv, rfl⟩
  | tail _ hstep ih =>
    obtain ⟨hw, heq⟩ := hstep.sortKeys_eq ih.1
    exact ⟨hw, ih.2.trans heq⟩

/-- Documents with one member for each name are the same exactly when they are equal sorted. -/
theorem sameMembers_iff {v w : Value} (hv : v.UniqueNames) : SameMembers v w ↔ v.sortKeys = w.sortKeys := by
  constructor
  · exact fun h => (h.sortKeys_eq hv).2
  · intro h
    exact (h ▸ sameMembers_sortKeys v).trans (sameMembers_sortKeys w).symm

/-- A sorted document is sorted already, and has one member for each name if the document had. -/
theorem sortKeys_sortKeys {v : Value} (hv : v.UniqueNames) : v.sortKeys.UniqueNames ∧ v.sortKeys.sortKeys = v.sortKeys := by
  obtain ⟨hunique, heq⟩ := (sameMembers_sortKeys v).sortKeys_eq hv
  exact ⟨hunique, heq.symm⟩

/-! ## One member for each name -/

theorem map_setField (fields : List (String × Value)) (p : String × Value) :
    (setField fields p).map (·.1) = if p.1 ∈ fields.map (·.1) then fields.map (·.1) else fields.map (·.1) ++ [p.1] := by
  have hany : fields.any (·.1 = p.1) = true ↔ p.1 ∈ fields.map (·.1) := by
    simp only [List.any_eq_true, decide_eq_true_eq, List.mem_map]
  unfold setField
  by_cases h : p.1 ∈ fields.map (·.1)
  · rw [if_pos (hany.2 h), if_pos h, List.map_map]
    refine List.map_congr_left fun q _ => ?_
    by_cases hq : q.1 = p.1 <;> simp [hq]
  · rw [if_neg fun hyes => h (hany.1 hyes), if_neg h, List.map_append, List.map_singleton]

theorem nodup_foldl_setField (fields start : List (String × Value)) (h : (start.map (·.1)).Nodup) :
    ((fields.foldl setField start).map (·.1)).Nodup := by
  induction fields generalizing start with
  | nil => exact h
  | cons p fields ih =>
    refine ih _ ?_
    rw [map_setField]
    split_ifs with hmem
    · exact h
    · rw [List.nodup_append]
      exact ⟨h, List.nodup_singleton _, fun a ha b hb hab => hmem (List.mem_singleton.1 hb ▸ hab ▸ ha)⟩

/-- Members that are set one after another and have different names are kept as they are. -/
theorem foldl_setField (fields start : List (String × Value)) (h : ((start ++ fields).map (·.1)).Nodup) :
    fields.foldl setField start = start ++ fields := by
  induction fields generalizing start with
  | nil => rw [List.foldl_nil, List.append_nil]
  | cons p fields ih =>
    have hset : setField start p = start ++ [p] := by
      rw [List.map_append, List.nodup_append] at h
      have hnew : ¬start.any (·.1 = p.1) = true := by
        simp only [List.any_eq_true, decide_eq_true_eq, not_exists, not_and]
        exact fun q hq heq => h.2.2 q.1 (List.mem_map_of_mem hq) p.1 (by simp) heq
      rw [setField, if_neg hnew]
    rw [List.foldl_cons, hset, ih _ (by simpa using h), List.append_assoc, List.singleton_append]

mutual

/-- What `json.loads` keeps has one member for each name. -/
theorem uniqueNames_unique : ∀ v : Value, v.unique.UniqueNames
  | .list items => by
    rw [unique, UniqueNames]
    exact uniqueNames_uniqueItems items
  | .dict fields => by
    rw [unique, UniqueNames, uniqueNamesFields_iff]
    refine ⟨nodup_foldl_setField _ _ List.nodup_nil, fun p hp => ?_⟩
    have hmem : ∀ (fields start : List (String × Value)), (∀ q ∈ start, q.2.UniqueNames) → (∀ q ∈ fields, q.2.UniqueNames) →
        ∀ q ∈ fields.foldl setField start, q.2.UniqueNames := by
      intro fields
      induction fields with
      | nil => exact fun start hstart _ => hstart
      | cons r fields ih =>
        intro start hstart hfields
        rw [List.forall_mem_cons] at hfields
        refine ih _ (fun q hq => ?_) hfields.2
        rcases mem_setField hq with rfl | hq
        · exact hfields.1
        · exact hstart q hq
    exact hmem _ _ (List.forall_mem_nil _) (uniqueNames_uniqueFields fields) p hp
  | .null => trivial
  | .bool _ => trivial
  | .int _ => trivial
  | .float _ => trivial
  | .str _ => trivial

theorem uniqueNames_uniqueItems : ∀ items : List Value, UniqueNamesItems (uniqueItems items)
  | [] => trivial
  | item :: items => ⟨uniqueNames_unique item, uniqueNames_uniqueItems items⟩

theorem uniqueNames_uniqueFields : ∀ (fields : List (String × Value)), ∀ q ∈ uniqueFields fields, q.2.UniqueNames
  | [] => List.forall_mem_nil _
  | (_, value) :: fields => List.forall_mem_cons.2 ⟨uniqueNames_unique value, uniqueNames_uniqueFields fields⟩

end

mutual

theorem unique_eq : ∀ {v : Value}, v.UniqueNames → v.unique = v
  | .list items, h => by rw [unique, uniqueItems_eq h]
  | .dict fields, h => by
    rw [unique, uniqueFields_eq h.2, foldl_setField _ _ (by simpa using h.1), List.nil_append]
  | .null, _ => rfl
  | .bool _, _ => rfl
  | .int _, _ => rfl
  | .float _, _ => rfl
  | .str _, _ => rfl

theorem uniqueItems_eq : ∀ {items : List Value}, UniqueNamesItems items → uniqueItems items = items
  | [], _ => rfl
  | _ :: _, h => by rw [uniqueItems, unique_eq h.1, uniqueItems_eq h.2]

theorem uniqueFields_eq : ∀ {fields : List (String × Value)}, UniqueNamesFields fields → uniqueFields fields = fields
  | [], _ => rfl
  | (_, _) :: _, h => by rw [uniqueFields, unique_eq h.1, uniqueFields_eq h.2]

end

/-! ## Members of a sorted object -/

/-- The members of an object in the order of their names. -/
def sorted (fields : List (String × Value)) : List (String × Value) :=
  (sortKeysFields fields).insertionSort fun p q => nameLe p.1 q.1 = true

theorem sortKeys_dict (fields : List (String × Value)) : (Value.dict fields).sortKeys = .dict (sorted fields) := rfl

/-- Where each name is there once, it stands for its member. -/
theorem lookup_eq_some_iff {fields : List (String × Value)} (hnodup : (fields.map (·.1)).Nodup) {name : String} {v : Value} :
    lookup name fields = some v ↔ (name, v) ∈ fields := by
  rw [← mem_members, members, foldl_setField _ _ (by simpa using hnodup), List.nil_append]

theorem lookup_sorted {fields : List (String × Value)} (hnodup : (fields.map (·.1)).Nodup) (name : String) :
    lookup name (sorted fields) = (lookup name fields).map sortKeys := by
  have hperm : (sorted fields).Perm (sortKeysFields fields) := List.perm_insertionSort _ _
  have hsorted : ((sorted fields).map (·.1)).Nodup := by
    rwa [(hperm.map _).nodup_iff, map_sortKeysFields]
  refine Option.ext fun v => ?_
  rw [lookup_eq_some_iff hsorted, hperm.mem_iff, sortKeysFields_eq_map, Option.map_eq_some_iff]
  simp only [List.mem_map, Prod.mk.injEq, lookup_eq_some_iff hnodup, Prod.exists]
  exact ⟨fun ⟨_, w, hmem, hname, hv⟩ => ⟨w, hname ▸ hmem, hv⟩, fun ⟨w, hmem, hv⟩ => ⟨name, w, hmem, rfl, hv⟩⟩

theorem field_sorted {fields : List (String × Value)} (hnodup : (fields.map (·.1)).Nodup) (name : String) :
    field name (sorted fields) = (field name fields).sortKeys := by
  rw [field, field, lookup_sorted hnodup]
  cases lookup name fields <;> rfl

/-- Members in the same order of names are known from the sorted object. -/
theorem sortKeysFields_inj {fields fields' : List (String × Value)} (h : (Value.dict fields).sortKeys = (Value.dict fields').sortKeys)
    (hnames : fields.map (·.1) = fields'.map (·.1)) (hnodup : (fields.map (·.1)).Nodup) :
    sortKeysFields fields = sortKeysFields fields' := by
  let r := fun p q : String × Value => nameLe p.1 q.1 = true
  have hsort : (sortKeysFields fields).insertionSort r = (sortKeysFields fields').insertionSort r := Value.dict.inj h
  have hperm : (sortKeysFields fields).Perm (sortKeysFields fields') :=
    (List.perm_insertionSort r _).symm.trans (hsort ▸ List.perm_insertionSort r _)
  have hnames' : (sortKeysFields fields).map (·.1) = (sortKeysFields fields').map (·.1) := by
    rw [map_sortKeysFields, map_sortKeysFields, hnames]
  have hnodup' : ((sortKeysFields fields').map (·.1)).Nodup := by rwa [← hnames', map_sortKeysFields]
  refine List.ext_getElem hperm.length_eq fun i hi hi' => ?_
  -- the member of this name in the other object stands at the same place
  have hmem := hperm.mem_iff.1 (List.getElem_mem hi)
  refine List.inj_on_of_nodup_map hnodup' hmem (List.getElem_mem hi') ?_
  have := List.getElem_of_eq hnames' (by simpa using hi)
  simpa using this

/-! ## A document equals itself -/

mutual

theorem eqUnique_self : ∀ {v : Value}, v.UniqueNames → v.plain = true → eqUnique v v = true
  | .null, _, _ => rfl
  | .bool _, _, _ => by simp [eqUnique, number, eqNumber]
  | .int _, _, _ => by simp [eqUnique, number, eqNumber]
  | .str _, _, _ => by simp [eqUnique]
  | .list _, hunique, hplain => eqItems_self hunique hplain
  | .dict fields, hunique, hplain => by
    rw [eqUnique, beq_self_eq_true, Bool.true_and]
    exact eqFields_self hunique.2 hplain fun p hp => (lookup_eq_some_iff hunique.1).2 hp

theorem eqItems_self : ∀ {items : List Value}, UniqueNamesItems items → plainItems items = true → eqItems items items = true
  | [], _, _ => rfl
  | _ :: _, hunique, hplain => by
    rw [plainItems, Bool.and_eq_true] at hplain
    rw [eqItems, eqUnique_self hunique.1 hplain.1, eqItems_self hunique.2 hplain.2]
    rfl

theorem eqFields_self : ∀ {fields all : List (String × Value)}, UniqueNamesFields fields → plainFields fields = true →
    (∀ p ∈ fields, lookup p.1 all = some p.2) → eqFields fields all = true
  | [], _, _, _, _ => rfl
  | (_, _) :: _, _, hunique, hplain, hall => by
    rw [plainFields, Bool.and_eq_true] at hplain
    rw [List.forall_mem_cons] at hall
    rw [eqFields, hall.1, eqFields_self hunique.2 hplain.2 hall.2, Bool.and_true]
    exact eqUnique_self hunique.1 hplain.1

end

/-- A document without doubles equals itself. -/
theorem pyEq_self {v : Value} (hunique : v.UniqueNames) (hplain : v.plain = true) : v.pyEq v = true := by
  rw [pyEq, unique_eq hunique]
  exact eqUnique_self hunique hplain

end SuderraOs.Value
