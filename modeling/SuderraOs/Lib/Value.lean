import Mathlib.Data.Rat.Defs
import Mathlib.Data.List.Lex
import Mathlib.Data.List.Sort

/-!
# The value of a document that was read

What `json.loads` of Python and `serde_json::from_str` of Rust make of a document. An object is the list of its members in document
order, with every member that repeats a name; both readers let the last one win. A number written with a fraction or an exponent is
a double.
-/

namespace SuderraOs

/-- A double: its exact value where it is finite. -/
inductive Double where
  | finite (x : Rat)
  | infinite (negative : Bool)
  | nan
  deriving DecidableEq, Repr

inductive Value where
  | null
  | bool (b : Bool)
  | int (n : Int)
  | float (x : Double)
  | str (s : String)
  | list (items : List Value)
  | dict (fields : List (String × Value))
  deriving Repr, Inhabited

namespace Value

/-! ## Members of an object -/

/-- The value of a name in a list of members: the last member of that name. -/
def lookup (name : String) (fields : List (String × Value)) : Option Value :=
  (fields.reverse.find? fun p => p.1 = name).map (·.2)

/-- A name that later members have is theirs. -/
theorem lookup_append_of_some {name : String} {fields later : List (String × Value)} {v : Value} (h : lookup name later = some v) :
    lookup name (fields ++ later) = some v := by
  obtain ⟨p, hp, hv⟩ := Option.map_eq_some_iff.1 h
  rw [lookup, List.reverse_append, List.find?_append, hp, Option.some_or, Option.map_some, hv]

/-- The value of a name in an object; a document that is no object has none. -/
def get (name : String) : Value → Option Value
  | .dict fields => lookup name fields
  | _ => none

@[simp] theorem get_dict (name : String) (fields : List (String × Value)) : (dict fields).get name = lookup name fields := rfl

/-- The members of an object. -/
def asDict : Value → Option (List (String × Value))
  | .dict fields => some fields
  | _ => none

def asList : Value → Option (List Value)
  | .list items => some items
  | _ => none

def asStr : Value → Option String
  | .str s => some s
  | _ => none

/-- `v is True`. -/
def isTrue : Value → Bool
  | .bool b => b
  | _ => false

theorem asDict_eq_some {v : Value} {fields : List (String × Value)} : v.asDict = some fields ↔ v = .dict fields := by
  cases v <;> simp [asDict]

theorem asList_eq_some {v : Value} {items : List Value} : v.asList = some items ↔ v = .list items := by
  cases v <;> simp [asList]

theorem asStr_eq_some {v : Value} {s : String} : v.asStr = some s ↔ v = .str s := by
  cases v <;> simp [asStr]

/-- Set a name: a name that is there keeps its place, a new one goes to the end, as in a `dict` of Python. -/
def setField (fields : List (String × Value)) (p : String × Value) : List (String × Value) :=
  if fields.any (·.1 = p.1) then fields.map fun q => if q.1 = p.1 then p else q else fields ++ [p]

mutual

/-- The document with one member for each name, as `json.loads` of Python keeps it. -/
def unique : Value → Value
  | .list items => .list (uniqueItems items)
  | .dict fields => .dict ((uniqueFields fields).foldl setField [])
  | .null => .null
  | .bool b => .bool b
  | .int n => .int n
  | .float x => .float x
  | .str s => .str s

def uniqueItems : List Value → List Value
  | [] => []
  | item :: items => unique item :: uniqueItems items

def uniqueFields : List (String × Value) → List (String × Value)
  | [] => []
  | (name, value) :: fields => (name, unique value) :: uniqueFields fields

end

/-- Whether a name stands before another or is the same one: Python compares the code points of two strings from the left. -/
def nameLe (a b : String) : Bool := decide (¬ b.toList < a.toList)

theorem nameLe_total (a b : String) : nameLe a b = true ∨ nameLe b a = true := by
  simp only [nameLe, decide_eq_true_eq, ← imp_iff_not_or]
  by_contra! h
  exact List.lt_asymm h.1 h.2

theorem nameLe_trans {a b c : String} (hab : nameLe a b = true) (hbc : nameLe b c = true) : nameLe a c = true := by
  simp only [nameLe, decide_eq_true_eq, List.not_lt] at *
  exact List.le_trans hab hbc

theorem nameLe_antisymm {a b : String} (hab : nameLe a b = true) (hba : nameLe b a = true) : a = b := by
  simp only [nameLe, decide_eq_true_eq, List.not_lt] at *
  exact String.toList_inj.1 (List.le_antisymm hab hba)

/-- Sorting by keys that differ does not depend on the order before. -/
theorem insertionSort_eq_of_perm {α : Type} {key : α → String} {xs ys : List α} (hperm : xs.Perm ys) (hnodup : (xs.map key).Nodup) :
    (xs.insertionSort fun a b => nameLe (key a) (key b) = true) = ys.insertionSort fun a b => nameLe (key a) (key b) = true := by
  let r := fun a b : α => nameLe (key a) (key b) = true
  have htotal : Std.Total r := ⟨fun a b => nameLe_total (key a) (key b)⟩
  have htrans : IsTrans α r := ⟨fun _ _ _ => nameLe_trans⟩
  have hanti : ∀ a b, a ∈ xs.insertionSort r → b ∈ ys.insertionSort r → r a b → r b a → a = b := by
    intro a b ha hb hab hba
    have ha := (List.perm_insertionSort r xs).subset ha
    have hb := hperm.symm.subset ((List.perm_insertionSort r ys).subset hb)
    exact List.inj_on_of_nodup_map hnodup ha hb (nameLe_antisymm hab hba)
  exact List.Perm.eq_of_pairwise hanti (List.pairwise_insertionSort r xs) (List.pairwise_insertionSort r ys)
    ((List.perm_insertionSort r xs).trans (hperm.trans (List.perm_insertionSort r ys).symm))

mutual

/-- The document with the members of every object in the order of their names (`sort_keys=True`). -/
def sortKeys : Value → Value
  | .list items => .list (sortKeysItems items)
  | .dict fields => .dict ((sortKeysFields fields).insertionSort fun p q => nameLe p.1 q.1 = true)
  | .null => .null
  | .bool b => .bool b
  | .int n => .int n
  | .float x => .float x
  | .str s => .str s

def sortKeysItems : List Value → List Value
  | [] => []
  | item :: items => sortKeys item :: sortKeysItems items

def sortKeysFields : List (String × Value) → List (String × Value)
  | [] => []
  | (name, value) :: fields => (name, sortKeys value) :: sortKeysFields fields

end

/-! ## Documents without doubles -/

mutual

/-- Whether a document holds no double. -/
def plain : Value → Bool
  | .float _ => false
  | .list items => plainItems items
  | .dict fields => plainFields fields
  | .null => true
  | .bool _ => true
  | .int _ => true
  | .str _ => true

def plainItems : List Value → Bool
  | [] => true
  | item :: items => plain item && plainItems items

def plainFields : List (String × Value) → Bool
  | [] => true
  | (_, value) :: fields => plain value && plainFields fields

end

theorem plainFields_iff : ∀ {fields : List (String × Value)}, plainFields fields = true ↔ ∀ p ∈ fields, p.2.plain = true
  | [] => by simp [plainFields]
  | (_, value) :: fields => by simp [plainFields, @plainFields_iff fields]

mutual

/-- Sorting the members brings in no double. -/
theorem plain_sortKeys : ∀ {v : Value}, v.plain = true → v.sortKeys.plain = true
  | .null, _ => rfl
  | .bool _, _ => rfl
  | .int _, _ => rfl
  | .float _, h => h
  | .str _, _ => rfl
  | .list items, h => by
    simp only [plain] at h
    simpa [sortKeys, plain] using plainItems_sortKeys h
  | .dict fields, h => by
    have hfields := plainFields_sortKeys (by simpa only [plain] using h)
    rw [plainFields_iff] at hfields
    rw [sortKeys, plain, plainFields_iff]
    intro p hp
    exact hfields p ((List.mem_insertionSort _).1 hp)

theorem plainItems_sortKeys : ∀ {items : List Value}, plainItems items = true → plainItems (sortKeysItems items) = true
  | [], _ => rfl
  | item :: items, h => by
    simp only [plainItems, Bool.and_eq_true] at h
    simp [sortKeysItems, plainItems, plain_sortKeys h.1, plainItems_sortKeys h.2]

theorem plainFields_sortKeys : ∀ {fields : List (String × Value)}, plainFields fields = true →
    plainFields (sortKeysFields fields) = true
  | [], _ => rfl
  | (_, value) :: fields, h => by
    simp only [plainFields, Bool.and_eq_true] at h
    simp [sortKeysFields, plainFields, plain_sortKeys h.1, plainFields_sortKeys h.2]

end

/-! ## Names -/

/-- The names of an object's members. -/
def names : Value → List String
  | .dict fields => fields.map (·.1)
  | _ => []

theorem map_sortKeysFields : ∀ (fields : List (String × Value)), (sortKeysFields fields).map (·.1) = fields.map (·.1)
  | [] => rfl
  | (_, _) :: fields => by simp [sortKeysFields, map_sortKeysFields fields]

theorem mem_names_sortKeys {name : String} {fields : List (String × Value)} :
    name ∈ names (Value.dict fields).sortKeys ↔ name ∈ fields.map (·.1) := by
  have hperm := List.perm_insertionSort (fun p q : String × Value => nameLe p.1 q.1 = true) (sortKeysFields fields)
  rw [sortKeys, names, (hperm.map _).mem_iff, map_sortKeysFields]

/-- A field that is set is there; every other field was there before. -/
theorem mem_setField {fields : List (String × Value)} {p q : String × Value} (h : q ∈ setField fields p) : q = p ∨ q ∈ fields := by
  unfold setField at h
  split_ifs at h
  · obtain ⟨r, hr, rfl⟩ := List.mem_map.1 h
    split_ifs
    · exact .inl rfl
    · exact .inr hr
  · simp only [List.mem_append, List.mem_singleton] at h
    exact h.symm

/-! ## What Python makes of a value -/

/-- The number that a value is: `bool` is a subtype of `int`. -/
def number : Value → Option Double
  | .bool b => some (.finite (if b then 1 else 0))
  | .int n => some (.finite n)
  | .float x => some x
  | _ => none

/-- Whether two numbers are equal; a NaN is equal to nothing. -/
def eqNumber : Option Double → Option Double → Bool
  | some (.finite x), some (.finite y) => x == y
  | some (.infinite x), some (.infinite y) => x == y
  | _, _ => false

mutual

/-- `==` on documents without repeated names. -/
def eqUnique : Value → Value → Bool
  | .null, b => match b with
    | .null => true
    | _ => false
  | .str s, b => match b with
    | .str t => s == t
    | _ => false
  | .list items, b => match b with
    | .list items' => eqItems items items'
    | _ => false
  | .dict fields, b => match b with
    | .dict fields' => fields.length == fields'.length && eqFields fields fields'
    | _ => false
  | .bool x, b => eqNumber (number (.bool x)) (number b)
  | .int n, b => eqNumber (number (.int n)) (number b)
  | .float x, b => eqNumber (number (.float x)) (number b)

def eqItems : List Value → List Value → Bool
  | [], items' => items'.isEmpty
  | item :: items, items' => match items' with
    | [] => false
    | item' :: items' => eqUnique item item' && eqItems items items'

def eqFields : List (String × Value) → List (String × Value) → Bool
  | [], _ => true
  | (name, value) :: fields, fields' =>
    (match lookup name fields' with
      | some value' => eqUnique value value'
      | none => false) && eqFields fields fields'

end

/-- `==`. -/
def pyEq (a b : Value) : Bool := eqUnique a.unique b.unique

@[simp] theorem pyEq_str (s t : String) : pyEq (.str s) (.str t) = (s == t) := by
  simp [pyEq, unique, eqUnique]

/-- `==` with a string on the right. -/
theorem pyEq_str_iff {v : Value} {s : String} : pyEq v (.str s) = true ↔ v = .str s := by
  cases v <;> simp [pyEq, unique, eqUnique, number, eqNumber]

theorem str_pyEq_iff {v : Value} {s : String} : pyEq (.str s) v = true ↔ v = .str s := by
  cases v with
  | str t => rw [pyEq_str, beq_iff_eq, Value.str.injEq, eq_comm]
  | _ => simp [pyEq, unique, eqUnique]

theorem pyEq_null_iff {v : Value} : pyEq v .null = true ↔ v = .null := by
  cases v <;> simp [pyEq, unique, eqUnique, number, eqNumber]

/-- `==` with an integer, where the left side is an integer. -/
theorem pyEq_int (n m : Int) : pyEq (.int n) (.int m) = (n == m) := by
  simp [pyEq, unique, eqUnique, number, eqNumber, Bool.beq_eq_decide_eq]

end Value

end SuderraOs
