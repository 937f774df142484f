import Mathlib.Data.List.Induction
import SuderraOs.Lib.Value

/-!
# Documents as Python programs see them

The operations of Python that the scripts apply to what `json.loads` returned.
-/

namespace SuderraOs.Value

/-- `fields.get(name)`. -/
def field (name : String) (fields : List (String × Value)) : Value := (lookup name fields).getD .null

/-- Whether a value counts as true. -/
def truthy : Value → Bool
  | .null => false
  | .bool b => b
  | .int n => n != 0
  | .float x => x != .finite 0
  | .str s => s != ""
  | .list items => !items.isEmpty
  | .dict fields => !fields.isEmpty

/-- `a or b`. -/
def orElse (a b : Value) : Value := if a.truthy then a else b

/-- `isinstance(value, int)`, with the number: `bool` is a subtype of `int`. -/
def asInt : Value → Option Int
  | .int n => some n
  | .bool b => some (if b then 1 else 0)
  | _ => none

/-- `isinstance(value, bool)`. -/
def isBool : Value → Bool
  | .bool _ => true
  | _ => false

/-- `v is False`. -/
def isFalse : Value → Bool
  | .bool b => !b
  | _ => false

/-- Whether a value can be a member of a `set`. -/
def isHashable : Value → Bool
  | .list _ => false
  | .dict _ => false
  | _ => true

/-- `value in items`. -/
def isIn (value : Value) (items : List Value) : Bool := items.any fun item => item.pyEq value

/-- `fields.items()`: a name that is repeated is met once, with its last value. -/
def members (fields : List (String × Value)) : List (String × Value) := fields.foldl setField []

/-- Setting a field leaves the fields of other names. -/
theorem mem_setField_iff {fields : List (String × Value)} {p q : String × Value} :
    q ∈ setField fields p ↔ if q.1 = p.1 then q = p else q ∈ fields := by
  unfold setField
  by_cases hany : fields.any (·.1 = p.1) = true
  · rw [if_pos hany, List.mem_map]
    simp only [List.any_eq_true, decide_eq_true_eq] at hany
    constructor
    · rintro ⟨r, hr, rfl⟩
      by_cases hname : r.1 = p.1
      · simp [hname]
      · simpa [hname] using hr
    · intro h
      split_ifs at h with hname
      · obtain ⟨r, hr, hrname⟩ := hany
        exact ⟨r, hr, by rw [if_pos hrname, h]⟩
      · exact ⟨q, h, if_neg hname⟩
  · rw [if_neg hany, List.mem_append, List.mem_singleton]
    simp only [List.any_eq_true, decide_eq_true_eq, not_exists, not_and] at hany
    split_ifs with hname
    · exact ⟨fun h => h.resolve_left fun hq => hany q hq hname, .inr⟩
    · exact ⟨fun h => h.resolve_right fun hq => hname (congrArg Prod.fst hq), .inl⟩

/-- What the loop over the members of an object meets is what its names stand for. -/
theorem mem_members {name : String} {value : Value} {fields : List (String × Value)} :
    (name, value) ∈ members fields ↔ lookup name fields = some value := by
  induction fields using List.reverseRecOn with
  | nil => simp [members, lookup]
  | append_singleton fields p ih =>
    have hlookup : lookup name (fields ++ [p]) = if p.1 = name then some p.2 else lookup name fields := by
      rw [lookup, List.reverse_append, List.reverse_singleton, List.singleton_append, List.find?_cons]
      by_cases hname : p.1 = name <;> simp [hname, lookup]
    rw [members, List.foldl_append, List.foldl_cons, List.foldl_nil, mem_setField_iff, ← members, ih, hlookup]
    by_cases hname : p.1 = name
    · simp [← hname, Prod.ext_iff, eq_comm]
    · rw [if_neg hname, if_neg fun heq => hname heq.symm]

/-- Setting a field sets that one alone. -/
theorem lookup_setField (name : String) (fields : List (String × Value)) (p : String × Value) :
    lookup name (setField fields p) = if name = p.1 then some p.2 else lookup name fields := by
  unfold setField
  by_cases hany : fields.any (·.1 = p.1) = true
  · have hsame (q : String × Value) : decide ((if q.1 = p.1 then p else q).1 = name) = decide (q.1 = name) := by
      split_ifs with hq
      · rw [hq]
      · rfl
    rw [if_pos hany, lookup, ← List.map_reverse, List.find?_map, Option.map_map]
    simp only [Function.comp_def, hsame]
    by_cases hname : name = p.1
    · rw [if_pos hname]
      simp only [List.any_eq_true, decide_eq_true_eq] at hany
      cases hfind : fields.reverse.find? fun q => q.1 = name with
      | none =>
        obtain ⟨q, hq, hqname⟩ := hany
        simpa [hqname, hname] using List.find?_eq_none.1 hfind q (List.mem_reverse.2 hq)
      | some q =>
        have hq : q.1 = p.1 := by simpa [hname] using List.find?_some hfind
        simp [hq]
    · rw [if_neg hname, lookup]
      cases hfind : fields.reverse.find? fun q => q.1 = name with
      | none => rfl
      | some q =>
        have hq : q.1 = name := by simpa using List.find?_some hfind
        have hne : q.1 ≠ p.1 := fun h => hname (hq.symm.trans h)
        simp [hne]
  · rw [if_neg hany, lookup, List.reverse_append, List.reverse_singleton, List.singleton_append, List.find?_cons]
    by_cases hname : name = p.1
    · simp [hname]
    · rw [if_neg hname, lookup, decide_eq_false (fun h => hname h.symm)]

@[simp] theorem field_setField_self (name : String) (fields : List (String × Value)) (v : Value) :
    field name (setField fields (name, v)) = v := by
  simp [field, lookup_setField]

theorem field_setField_of_ne {name name' : String} {fields : List (String × Value)} {v : Value} (h : name ≠ name') :
    field name (setField fields (name', v)) = field name fields := by
  rw [field, lookup_setField, if_neg h, ← field]

theorem eq_dict_of_isSome {v : Value} (h : v.asDict.isSome = true) : v = .dict (v.asDict.getD []) := by
  cases v with
  | dict fields => rfl
  | _ => cases h

theorem eq_list_of_isSome {v : Value} (h : v.asList.isSome = true) : v = .list (v.asList.getD []) := by
  cases v with
  | list items => rfl
  | _ => cases h

/-- `str(value)`; `repr` is the text of anything but a string and an integer. -/
def pyStr (repr : Value → String) : Value → String
  | .str s => s
  | .int n => toString n
  | v => repr v

end SuderraOs.Value
