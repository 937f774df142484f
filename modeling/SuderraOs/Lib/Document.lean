import SuderraOs.Lib.JsonText

/-!
# A document before its numbers are read

Two readers of one document that agree on everything but its numbers: a number stands as it is written (`Literal`), and a reader is
what it makes of a number (`Document.value`). Values that are equal to one reader are equal to another exactly when the numbers that
stand at the same places of the two documents are (`eqWith_value_unique`).
-/

namespace SuderraOs

/-- A number as it is written: no zero stands in front of its digits. -/
structure Literal where
  negative : Bool
  digits : List Char
  fraction : Option (List Char)
  exponent : Option Int
  digits_valid : digits ≠ [] ∧ (∀ c ∈ digits, c.isDigit = true) ∧ (digits.head? = some '0' → digits = ['0'])
  deriving DecidableEq

/-- Whether a number is written without a fraction and an exponent. -/
def Literal.isInteger (x : Literal) : Bool := x.fraction.isNone && x.exponent.isNone

/-- A number below a power of ten has at most that many digits. -/
theorem Literal.length_digits_le {x : Literal} {k : Nat} (hk : 0 < k) (h : Text.digitsValue x.digits < 10 ^ k) :
    x.digits.length ≤ k := by
  obtain ⟨hne, hdigit, hzero⟩ := x.digits_valid
  obtain ⟨c, cs, hcs⟩ := List.exists_cons_of_ne_nil hne
  rw [hcs] at h hdigit hzero ⊢
  by_cases hc : c = '0'
  · have hone := congrArg List.length (hzero (by rw [hc]; rfl))
    simp only [List.length_cons, List.length_nil] at hone ⊢
    omega
  · have hpos : 1 ≤ c.toNat - '0'.toNat := by
      have hle := (Text.digit_bounds (hdigit c List.mem_cons_self)).1
      have hneq : c.toNat ≠ '0'.toNat := fun heq => hc (Char.toNat_inj.1 heq)
      omega
    have hlow : 10 ^ cs.length ≤ Text.digitsValue (c :: cs) := by
      rw [Text.digitsValue_cons]
      calc 10 ^ cs.length ≤ (c.toNat - '0'.toNat) * 10 ^ cs.length := Nat.le_mul_of_pos_left _ hpos
        _ ≤ _ := Nat.le_add_right _ _
    exact (Nat.pow_lt_pow_iff_right (by decide)).1 (lt_of_le_of_lt hlow h)

inductive Document where
  | null
  | bool (b : Bool)
  | num (x : Literal)
  | str (s : String)
  | list (items : List Document)
  | dict (fields : List (String × Document))

namespace Document

mutual

/-- The value that a reader makes of a document. -/
def value (num : Literal → Value) : Document → Value
  | .null => .null
  | .bool b => .bool b
  | .num x => num x
  | .str s => .str s
  | .list items => .list (values num items)
  | .dict fields => .dict (fieldValues num fields)

def values (num : Literal → Value) : List Document → List Value
  | [] => []
  | item :: items => value num item :: values num items

def fieldValues (num : Literal → Value) : List (String × Document) → List (String × Value)
  | [] => []
  | (name, item) :: fields => (name, value num item) :: fieldValues num fields

end

mutual

/-- The numbers of a document. -/
def literals : Document → List Literal
  | .num x => [x]
  | .list items => itemLiterals items
  | .dict fields => fieldLiterals fields
  | .null => []
  | .bool _ => []
  | .str _ => []

def itemLiterals : List Document → List Literal
  | [] => []
  | item :: items => literals item ++ itemLiterals items

def fieldLiterals : List (String × Document) → List Literal
  | [] => []
  | (_, item) :: fields => literals item ++ fieldLiterals fields

end

/-- The member of a name: the last one. -/
def lookup (name : String) (fields : List (String × Document)) : Option Document :=
  (fields.reverse.find? fun p => p.1 = name).map (·.2)

def get (name : String) : Document → Option Document
  | .dict fields => lookup name fields
  | _ => none

def setField (fields : List (String × Document)) (p : String × Document) : List (String × Document) :=
  if fields.any (·.1 = p.1) then fields.map fun q => if q.1 = p.1 then p else q else fields ++ [p]

mutual

/-- The document with one member for each name, the last one. -/
def unique : Document → Document
  | .list items => .list (uniqueItems items)
  | .dict fields => .dict ((uniqueFields fields).foldl setField [])
  | .null => .null
  | .bool b => .bool b
  | .num x => .num x
  | .str s => .str s

def uniqueItems : List Document → List Document
  | [] => []
  | item :: items => unique item :: uniqueItems items

def uniqueFields : List (String × Document) → List (String × Document)
  | [] => []
  | (name, item) :: fields => (name, unique item) :: uniqueFields fields

end

mutual

/-- Whether the numbers at the same places of two documents without repeated names are the same. -/
def agreeUnique (same : Literal → Literal → Bool) : Document → Document → Bool
  | .num x, b => match b with
    | .num y => same x y
    | _ => true
  | .list items, b => match b with
    | .list items' => agreeItems same items items'
    | _ => true
  | .dict fields, b => match b with
    | .dict fields' => agreeFields same fields fields'
    | _ => true
  | .null, _ => true
  | .bool _, _ => true
  | .str _, _ => true

def agreeItems (same : Literal → Literal → Bool) : List Document → List Document → Bool
  | [], _ => true
  | item :: items, items' => match items' with
    | [] => true
    | item' :: items' => agreeUnique same item item' && agreeItems same items items'

def agreeFields (same : Literal → Literal → Bool) : List (String × Document) → List (String × Document) → Bool
  | [], _ => true
  | (name, item) :: fields, fields' =>
    ((lookup name fields').all fun item' => agreeUnique same item item') && agreeFields same fields fields'

end

/-- Whether the numbers at the same places of two documents are the same. -/
def agree (same : Literal → Literal → Bool) (a b : Document) : Bool := agreeUnique same a.unique b.unique

end Document

namespace Value

mutual

/-- Equality of values without repeated names, from that of the values without members. -/
def eqWith (leaf : Value → Value → Bool) : Value → Value → Bool
  | .list items, b => match b with
    | .list items' => eqItemsWith leaf items items'
    | _ => false
  | .dict fields, b => match b with
    | .dict fields' => fields.length == fields'.length && eqFieldsWith leaf fields fields'
    | _ => false
  | .null, b => leaf .null b
  | .bool x, b => leaf (.bool x) b
  | .int n, b => leaf (.int n) b
  | .float x, b => leaf (.float x) b
  | .str s, b => leaf (.str s) b

def eqItemsWith (leaf : Value → Value → Bool) : List Value → List Value → Bool
  | [], items' => items'.isEmpty
  | item :: items, items' => match items' with
    | [] => false
    | item' :: items' => eqWith leaf item item' && eqItemsWith leaf items items'

def eqFieldsWith (leaf : Value → Value → Bool) : List (String × Value) → List (String × Value) → Bool
  | [], _ => true
  | (name, value) :: fields, fields' =>
    (match lookup name fields' with
      | some value' => eqWith leaf value value'
      | none => false) && eqFieldsWith leaf fields fields'

end

mutual

/-- `==` of Python is equality of this form. -/
theorem eqWith_eqUnique : ∀ a b : Value, eqWith eqUnique a b = eqUnique a b
  | .null, _ => by rw [eqWith]
  | .bool _, _ => by rw [eqWith]
  | .int _, _ => by rw [eqWith]
  | .float _, _ => by rw [eqWith]
  | .str _, _ => by rw [eqWith]
  | .list items, b => by
    cases b <;> simp only [eqWith, eqUnique]
    exact eqItemsWith_eqUnique items _
  | .dict fields, b => by
    cases b <;> simp only [eqWith, eqUnique]
    rw [eqFieldsWith_eqUnique fields _]

theorem eqItemsWith_eqUnique : ∀ items items' : List Value, eqItemsWith eqUnique items items' = eqItems items items'
  | [], _ => by rw [eqItemsWith, eqItems]
  | item :: items, [] => by rw [eqItemsWith, eqItems]
  | item :: items, item' :: items' => by
    rw [eqItemsWith, eqItems, eqWith_eqUnique item item', eqItemsWith_eqUnique items items']

theorem eqFieldsWith_eqUnique : ∀ fields fields' : List (String × Value), eqFieldsWith eqUnique fields fields' = eqFields fields fields'
  | [], _ => by rw [eqFieldsWith, eqFields]
  | (name, value) :: fields, fields' => by
    rw [eqFieldsWith, eqFields, eqFieldsWith_eqUnique fields fields']
    cases lookup name fields' with
    | none => rfl
    | some value' => simp only [eqWith_eqUnique value value']

end

end Value

namespace Value

/-- A value without members. -/
def isScalar : Value → Bool
  | .list _ => false
  | .dict _ => false
  | _ => true

/-- What a reader makes of a number. -/
def isNumber : Value → Bool
  | .int _ => true
  | .float _ => true
  | _ => false

theorem isScalar_of_isNumber {v : Value} (h : v.isNumber = true) : v.isScalar = true := by
  cases v <;> first | rfl | cases h

theorem unique_of_isScalar {v : Value} (h : v.isScalar = true) : v.unique = v := by
  cases v with
  | list => cases h
  | dict => cases h
  | _ => rfl

theorem eqWith_of_isScalar {leaf : Value → Value → Bool} {v w : Value} (h : v.isScalar = true) : eqWith leaf v w = leaf v w := by
  cases v with
  | list => cases h
  | dict => cases h
  | _ => rw [eqWith]

theorem eqWith_list_scalar {leaf : Value → Value → Bool} {items : List Value} {v : Value} (h : v.isScalar = true) :
    eqWith leaf (.list items) v = false := by
  cases v with
  | list => cases h
  | _ => simp [eqWith]

theorem eqWith_dict_scalar {leaf : Value → Value → Bool} {fields : List (String × Value)} {v : Value} (h : v.isScalar = true) :
    eqWith leaf (.dict fields) v = false := by
  cases v with
  | dict => cases h
  | _ => simp [eqWith]

end Value

namespace Document

/-- A document without members. -/
def isScalar : Document → Bool
  | .list _ => false
  | .dict _ => false
  | _ => true

variable {num num' : Literal → Value}

theorem isScalar_value (hnum : ∀ x, (num x).isNumber = true) {d : Document} (h : d.isScalar = true) :
    (d.value num).isScalar = true := by
  cases d with
  | list => cases h
  | dict => cases h
  | num x => exact Value.isScalar_of_isNumber (hnum x)
  | _ => rfl

theorem value_eq_str (hnum : ∀ x, (num x).isNumber = true) {d : Document} {s : String} (h : d.value num = .str s) : d = .str s := by
  cases d with
  | num x => exact absurd (hnum x) (by rw [show num x = .str s from h]; exact Bool.false_ne_true)
  | str t => rw [value, Value.str.injEq] at h; rw [h]
  | _ => cases h

theorem value_eq_null (hnum : ∀ x, (num x).isNumber = true) {d : Document} (h : d.value num = .null) : d = .null := by
  cases d with
  | num x => exact absurd (hnum x) (by rw [show num x = .null from h]; exact Bool.false_ne_true)
  | null => rfl
  | _ => cases h

theorem value_eq_dict (hnum : ∀ x, (num x).isNumber = true) {d : Document} {fields : List (String × Value)}
    (h : d.value num = .dict fields) : ∃ fields', d = .dict fields' ∧ fields = fieldValues num fields' := by
  cases d with
  | num x => exact absurd (hnum x) (by rw [show num x = .dict fields from h]; exact Bool.false_ne_true)
  | dict fields' =>
    rw [value, Value.dict.injEq] at h
    exact ⟨fields', rfl, h.symm⟩
  | _ => cases h

theorem fieldValues_eq_map (num : Literal → Value) :
    ∀ fields : List (String × Document), fieldValues num fields = fields.map fun p => (p.1, p.2.value num)
  | [] => rfl
  | (_, _) :: fields => by simp [fieldValues, fieldValues_eq_map num fields]

theorem lookup_fieldValues (name : String) (fields : List (String × Document)) :
    Value.lookup name (fieldValues num fields) = (lookup name fields).map (value num) := by
  rw [Value.lookup, lookup, fieldValues_eq_map, ← List.map_reverse, List.find?_map, Option.map_map, Option.map_map]
  rfl

theorem fieldValues_setField (fields : List (String × Document)) (p : String × Document) :
    fieldValues num (setField fields p) = Value.setField (fieldValues num fields) (p.1, p.2.value num) := by
  simp only [fieldValues_eq_map, setField, Value.setField, List.any_map, Function.comp_def]
  split_ifs with h
  · simp only [List.map_map, Function.comp_def]
    refine List.map_congr_left fun q _ => ?_
    split_ifs <;> rfl
  · simp

theorem fieldValues_foldl (fields init : List (String × Document)) :
    fieldValues num (fields.foldl setField init) = (fieldValues num fields).foldl Value.setField (fieldValues num init) := by
  induction fields generalizing init with
  | nil => rfl
  | cons p fields ih => rw [List.foldl_cons, ih, fieldValues_setField]; rfl

mutual

/-- A reader does not care when the repeated names are left out. -/
theorem value_unique (hnum : ∀ x, (num x).isNumber = true) : ∀ d : Document, d.unique.value num = (d.value num).unique
  | .null => rfl
  | .bool _ => rfl
  | .num x => (Value.unique_of_isScalar (Value.isScalar_of_isNumber (hnum x))).symm
  | .str _ => rfl
  | .list items => by
    rw [unique, value, value, Value.unique, values_unique hnum items]
  | .dict fields => by
    rw [unique, value, value, Value.unique, fieldValues_foldl, fieldValues_unique hnum fields]
    rfl

theorem values_unique (hnum : ∀ x, (num x).isNumber = true) :
    ∀ items : List Document, values num (uniqueItems items) = Value.uniqueItems (values num items)
  | [] => rfl
  | item :: items => by
    rw [uniqueItems, values, values, Value.uniqueItems, value_unique hnum item, values_unique hnum items]

theorem fieldValues_unique (hnum : ∀ x, (num x).isNumber = true) :
    ∀ fields : List (String × Document), fieldValues num (uniqueFields fields) = Value.uniqueFields (fieldValues num fields)
  | [] => rfl
  | (name, item) :: fields => by
    rw [uniqueFields, fieldValues, fieldValues, Value.uniqueFields, value_unique hnum item, fieldValues_unique hnum fields]

end

/-! ## Two readers -/

section Readers

variable {leaf leaf' : Value → Value → Bool} {same : Literal → Literal → Bool}

/-- Two readers: of scalars that are equal to the first one, the second one compares the numbers only. -/
structure Comparable (num num' : Literal → Value) (leaf leaf' : Value → Value → Bool) (same : Literal → Literal → Bool) : Prop where
  isNumber : ∀ x, (num x).isNumber = true
  isNumber' : ∀ x, (num' x).isNumber = true
  leaf : ∀ a b : Document, a.isScalar = true → leaf (a.value num) (b.value num) = true →
    leaf' (a.value num') (b.value num') = agreeUnique same a b

theorem eqWith_scalar (R : Comparable num num' leaf leaf' same) {a b : Document} (ha : a.isScalar = true) (h : Value.eqWith leaf (a.value num) (b.value num) = true) :
    Value.eqWith leaf' (a.value num') (b.value num') = agreeUnique same a b := by
  rw [Value.eqWith_of_isScalar (isScalar_value R.isNumber ha)] at h
  rw [Value.eqWith_of_isScalar (isScalar_value R.isNumber' ha)]
  exact R.leaf a b ha h

mutual

theorem eqWith_value (R : Comparable num num' leaf leaf' same) : ∀ a b : Document, Value.eqWith leaf (a.value num) (b.value num) = true →
    Value.eqWith leaf' (a.value num') (b.value num') = agreeUnique same a b
  | .null, _, h => eqWith_scalar R rfl h
  | .bool _, _, h => eqWith_scalar R rfl h
  | .num _, _, h => eqWith_scalar R rfl h
  | .str _, _, h => eqWith_scalar R rfl h
  | .list items, b, h => by
    cases b with
    | list items' =>
      simp only [value, Value.eqWith, agreeUnique] at h ⊢
      exact eqItemsWith_values R items items' h
    | dict => simp [value, Value.eqWith] at h
    | _ => exact absurd ((Value.eqWith_list_scalar (isScalar_value R.isNumber rfl)).symm.trans h) (by decide)
  | .dict fields, b, h => by
    cases b with
    | dict fields' =>
      simp only [value, Value.eqWith, agreeUnique, Bool.and_eq_true, fieldValues_eq_map, List.length_map] at h ⊢
      simp only [← fieldValues_eq_map] at h ⊢
      rw [h.1, Bool.true_and]
      exact eqFieldsWith_fieldValues R fields fields' h.2
    | list => simp [value, Value.eqWith] at h
    | _ => exact absurd ((Value.eqWith_dict_scalar (isScalar_value R.isNumber rfl)).symm.trans h) (by decide)

theorem eqItemsWith_values (R : Comparable num num' leaf leaf' same) : ∀ items items' : List Document,
    Value.eqItemsWith leaf (values num items) (values num items') = true →
    Value.eqItemsWith leaf' (values num' items) (values num' items') = agreeItems same items items'
  | [], [], _ => rfl
  | [], _ :: _, h => by cases h
  | item :: items, [], h => by cases h
  | item :: items, item' :: items', h => by
    simp only [values, Value.eqItemsWith, Bool.and_eq_true, agreeItems] at h ⊢
    rw [eqWith_value R item item' h.1, eqItemsWith_values R items items' h.2]

theorem eqFieldsWith_fieldValues (R : Comparable num num' leaf leaf' same) : ∀ fields fields' : List (String × Document),
    Value.eqFieldsWith leaf (fieldValues num fields) (fieldValues num fields') = true →
    Value.eqFieldsWith leaf' (fieldValues num' fields) (fieldValues num' fields') = agreeFields same fields fields'
  | [], _, _ => rfl
  | (name, item) :: fields, fields', h => by
    simp only [fieldValues, Value.eqFieldsWith, agreeFields, lookup_fieldValues, Bool.and_eq_true] at h ⊢
    rw [eqFieldsWith_fieldValues R fields fields' h.2]
    cases hlookup : lookup name fields' with
    | none => simp [hlookup] at h
    | some item' =>
      simp only [hlookup, Option.map_some] at h
      simp only [Option.map_some, Option.all_some, eqWith_value R item item' h.1]

end

/-- Documents that are equal to the one reader are equal to the other exactly when the numbers at their places are the same. -/
theorem eqWith_value_unique (R : Comparable num num' leaf leaf' same) {a b : Document}
    (h : Value.eqWith leaf (a.value num).unique (b.value num).unique = true) :
    Value.eqWith leaf' (a.value num').unique (b.value num').unique = agree same a b := by
  rw [← value_unique R.isNumber, ← value_unique R.isNumber] at h
  rw [← value_unique R.isNumber', ← value_unique R.isNumber', agree]
  exact eqWith_value R _ _ h

end Readers

end Document

end SuderraOs
