import SuderraOs.Lib.Hex
import SuderraOs.Lib.JsonText
import SuderraOs.Lib.PyText
import SuderraOs.Lib.Utf8
import SuderraOs.Lib.ValueOrder

/-!
# Canonical texts and seals

The canonical bytes of a document are its text with the members sorted and without white space. They fix a document up to the order of
its members (`bytes_eq_iff`), so documents with one digest are the same, or two texts collide (`same_or_collides`). A seal is a member that
holds the digest of all the others: what was sealed keeps its seal when it is written and read back (`holds_sorted`).
-/

namespace SuderraOs.CanonicalJson

open Value JsonText

section Texts

variable (float : Double → List Char)

/-- `json.dumps(v, sort_keys=True, separators=(",", ":")).encode("utf-8")`. -/
def bytes (v : Value) : List UInt8 := Utf8.encode (String.ofList (write (compactAscii float) 0 v.sortKeys))

/-- `json.dumps(v, indent=2, sort_keys=True) + "\n"`, encoded. -/
def fileBytes (v : Value) : List UInt8 := Utf8.encode (String.ofList (write (indented float) 0 v.sortKeys ++ ['\n']))

variable {float} {v w : Value}

theorem SameMembers.bytes_eq (hv : v.UniqueNames) (h : SameMembers v w) : bytes float v = bytes float w := by
  rw [bytes, bytes, (h.sortKeys_eq hv).2]

theorem bytes_sortKeys (hv : v.UniqueNames) : bytes float v.sortKeys = bytes float v := by
  rw [bytes, bytes, (sortKeys_sortKeys hv).2]

/-- Documents without doubles have the same canonical bytes exactly when they are the same up to the order of members. -/
theorem bytes_eq_iff (hv : v.UniqueNames) (hplain : v.plain = true) (hplain' : w.plain = true) :
    bytes float v = bytes float w ↔ SameMembers v w := by
  refine ⟨fun h => (sameMembers_iff hv).2 ?_, SameMembers.bytes_eq hv⟩
  have htext := String.ofList_injective (Utf8.encode_injective h)
  have hread := congrArg read htext
  rw [read_write (compactAscii_lawful float) (plain_sortKeys hplain), read_write (compactAscii_lawful float) (plain_sortKeys hplain')] at hread
  exact Option.some.inj hread

/-- What was written to a file is read back sorted. -/
theorem read_fileBytes (hplain : v.plain = true) :
    (Utf8.decode (fileBytes float v)).map (fun text => read (PyText.universalNewlines text.toList)) = some (some v.sortKeys) := by
  have hreturn : '\r' ∉ write (indented float) 0 v.sortKeys ++ ['\n'] := by
    rw [List.mem_append, not_or]
    exact ⟨(indented_noReturn float).write _ 0 (plain_sortKeys hplain), by decide⟩
  rw [fileBytes, Utf8.decode_encode, Option.map_some, String.toList_ofList, PyText.universalNewlines_eq hreturn,
    read_append (indented_lawful float) (plain_sortKeys hplain) (by decide)]

end Texts

/-- A reader of documents, as `json.loads` is: it reads what has no name twice, and a name that stands twice is read once. -/
structure Loads (loads : List Char → Option Value) : Prop where
  reads : ∀ {text : List Char} {v : Value}, read text = some v → v.UniqueNames → loads text = some v
  unique : ∀ {text : List Char} {v : Value}, loads text = some v → v.UniqueNames

theorem loads_unique : Loads fun text => (read text).map Value.unique where
  reads hread hunique := by rw [hread, Option.map_some, unique_eq hunique]
  unique hloads := by
    obtain ⟨w, -, rfl⟩ := Option.map_eq_some_iff.1 hloads
    exact uniqueNames_unique w

/-- A reader reads what was written to a file. -/
theorem Loads.fileBytes {loads : List Char → Option Value} (h : Loads loads) (float : Double → List Char) {v : Value} (hunique : v.UniqueNames)
    (hplain : v.plain = true) :
    ∃ text, Utf8.decode (CanonicalJson.fileBytes float v) = some text ∧ loads (PyText.universalNewlines text.toList) = some v.sortKeys := by
  obtain ⟨text, htext, hread⟩ := Option.map_eq_some_iff.1 (read_fileBytes hplain)
  exact ⟨text, htext, h.reads hread (sortKeys_sortKeys hunique).1⟩

section Digests

variable {float : Double → List Char} {v w : Value}

/-- Two texts that are different and have one digest. -/
def Collides (hash : List UInt8 → List UInt8) (a b : List UInt8) : Prop := a ≠ b ∧ hash a = hash b

/-- Documents with one digest are the same, or their texts collide. -/
theorem same_or_collides {hash : List UInt8 → List UInt8} (hv : v.UniqueNames) (hplain : v.plain = true) (hplain' : w.plain = true)
    (h : hash (bytes float v) = hash (bytes float w)) : SameMembers v w ∨ Collides hash (bytes float v) (bytes float w) := by
  by_cases heq : bytes float v = bytes float w
  · exact .inl ((bytes_eq_iff hv hplain hplain').1 heq)
  · exact .inr ⟨heq, h⟩

end Digests

/-! ## Seals -/

/-- The members of other names: `dict.pop`. -/
def without (name : String) (fields : List (String × Value)) : List (String × Value) := fields.filter fun p => p.1 ≠ name

/-- The members with a seal over them. -/
def sealWith (digest : Value → String) (name : String) (fields : List (String × Value)) : List (String × Value) :=
  setField fields (name, .str (digest (.dict (without name fields))))

/-- The seal is the digest of the other members. -/
def Holds (digest : Value → String) (name : String) (fields : List (String × Value)) : Prop :=
  field name fields = .str (digest (.dict (without name fields)))

theorem without_setField (name : String) (v : Value) (fields : List (String × Value)) :
    without name (setField fields (name, v)) = without name fields := by
  unfold setField without
  split_ifs with hany
  · clear hany
    induction fields with
    | nil => rfl
    | cons p fields ih =>
      by_cases hp : p.1 = name
      · rw [List.map_cons, if_pos hp, List.filter_cons_of_neg (by simp), List.filter_cons_of_neg (by simp [hp]), ih]
      · rw [List.map_cons, if_neg hp, List.filter_cons_of_pos (by simp [hp]), List.filter_cons_of_pos (by simp [hp]), ih]
  · rw [List.filter_append]
    simp

theorem holds_sealWith (digest : Value → String) (name : String) (fields : List (String × Value)) :
    Holds digest name (sealWith digest name fields) := by
  rw [Holds, sealWith, without_setField, field_setField_self]

/-- The other members of a sorted object are those of the object. -/
theorem sameMembers_without_sorted (name : String) (fields : List (String × Value)) :
    SameMembers (.dict (without name fields)) (.dict (without name (sorted fields))) := by
  have hmap : without name (sortKeysFields fields) = sortKeysFields (without name fields) := by
    rw [sortKeysFields_eq_map, sortKeysFields_eq_map, without, without, List.filter_map]
    rfl
  have hperm : (sortKeysFields (without name fields)).Perm (without name (sorted fields)) := by
    rw [← hmap]
    exact ((List.perm_insertionSort _ _).symm).filter _
  exact (sameMembers_sortKeysFields [] (without name fields)).trans (.single (.members hperm))

/-- A seal that does not depend on the order of members is kept when the members are sorted. -/
theorem holds_sorted {digest : Value → String} (hdigest : ∀ v w : Value, v.UniqueNames → SameMembers v w → digest v = digest w) {name : String}
    {fields : List (String × Value)} (hunique : (Value.dict fields).UniqueNames) :
    Holds digest name (sorted fields) ↔ Holds digest name fields := by
  have hnodup : (fields.map (·.1)).Nodup := hunique.1
  have hothers : (Value.dict (without name fields)).UniqueNames :=
    ⟨hnodup.sublist (List.filter_sublist.map _), uniqueNamesFields_iff.2 fun p hp => uniqueNamesFields_iff.1 hunique.2 p (List.mem_of_mem_filter hp)⟩
  have hfield : field name (sorted fields) = (field name fields).sortKeys := field_sorted hnodup name
  rw [Holds, Holds, hfield, hdigest _ _ hothers (sameMembers_without_sorted name fields)]
  cases field name fields <;> simp [sortKeys]

/-! ## Documents with one seal -/

/-- A member more. -/
def consMember (p : String × Value) : Value → Value
  | .dict fields => .dict (p :: fields)
  | v => v

theorem reorders_consMember {v w : Value} (h : Reorders v w) (p : String × Value) : Reorders (consMember p v) (consMember p w) := by
  cases h with
  | members h => exact .members (h.cons p)
  | item before after h => exact .item before after h
  | member before name after h => exact .member (p :: before) name after h

theorem sameMembers_cons {fields fields' : List (String × Value)} (h : SameMembers (.dict fields) (.dict fields')) (p : String × Value) :
    SameMembers (.dict (p :: fields)) (.dict (p :: fields')) :=
  Relation.ReflTransGen.lift (consMember p) (fun _ _ hstep => reorders_consMember hstep p) _ _ h

/-- A member can be taken out and put first. -/
theorem perm_without {fields : List (String × Value)} (hnodup : (fields.map (·.1)).Nodup) {name : String} {v : Value}
    (hmem : (name, v) ∈ fields) : fields.Perm ((name, v) :: without name fields) := by
  obtain ⟨before, after, rfl⟩ := List.append_of_mem hmem
  rw [List.map_append, List.map_cons, List.nodup_append, List.nodup_cons] at hnodup
  obtain ⟨-, ⟨hafter, -⟩, hbefore⟩ := hnodup
  have hkeep (others : List (String × Value)) (hne : ∀ p ∈ others, p.1 ≠ name) : without name others = others :=
    List.filter_eq_self.2 fun p hp => by simpa using hne p hp
  have hwithout : without name (before ++ (name, v) :: after) = before ++ after := by
    rw [without, List.filter_append, List.filter_cons_of_neg (by simp)]
    exact congrArg₂ _ (hkeep before fun p hp heq => hbefore p.1 (List.mem_map_of_mem hp) name List.mem_cons_self heq)
      (hkeep after fun p hp heq => hafter (List.mem_map.2 ⟨p, hp, heq⟩))
  rw [hwithout]
  exact List.perm_middle

/-- The members of the same documents are the same documents. -/
theorem sortKeys_field_eq {fields fields' : List (String × Value)} (hv : (Value.dict fields).UniqueNames)
    (h : SameMembers (.dict fields) (.dict fields')) (name : String) : (field name fields).sortKeys = (field name fields').sortKeys := by
  obtain ⟨hw, heq⟩ := h.sortKeys_eq hv
  rw [← field_sorted hv.1, ← field_sorted hw.1]
  exact congrArg (field name) (Value.dict.inj heq)

theorem uniqueNames_field {fields : List (String × Value)} (h : (Value.dict fields).UniqueNames) (name : String) :
    (field name fields).UniqueNames := by
  rw [field]
  cases hlookup : lookup name fields with
  | none => trivial
  | some v => exact uniqueNamesFields_iff.1 h.2 _ ((lookup_eq_some_iff h.1).1 hlookup)

section Seals

variable {float : Double → List Char} {hash : List UInt8 → List UInt8}

/-- The text of the digest of a document. -/
def hexdigest (float : Double → List Char) (hash : List UInt8 → List UInt8) (v : Value) : String :=
  String.ofList (Hex.encode (hash (bytes float v)))

theorem hexdigest_eq {v w : Value} (hv : v.UniqueNames) (h : SameMembers v w) : hexdigest float hash v = hexdigest float hash w := by
  rw [hexdigest, hexdigest, SameMembers.bytes_eq hv h]

/-- Documents whose seals hold and are one text are the same, or the texts that were sealed collide. -/
theorem same_of_seals {name mark : String} {fields fields' : List (String × Value)} (hunique : (Value.dict fields).UniqueNames)
    (hunique' : (Value.dict fields').UniqueNames) (hplain : (Value.dict fields).plain = true) (hplain' : (Value.dict fields').plain = true)
    (hseal : (name, Value.str mark) ∈ fields) (hseal' : (name, Value.str mark) ∈ fields')
    (h : hexdigest float hash (.dict (without name fields)) = mark) (h' : hexdigest float hash (.dict (without name fields')) = mark) :
    SameMembers (.dict fields) (.dict fields') ∨
      Collides hash (bytes float (.dict (without name fields))) (bytes float (.dict (without name fields'))) := by
  have hothers {members : List (String × Value)} (h : (Value.dict members).UniqueNames) : (Value.dict (without name members)).UniqueNames :=
    ⟨h.1.sublist (List.filter_sublist.map _), uniqueNamesFields_iff.2 fun p hp => uniqueNamesFields_iff.1 h.2 p (List.mem_of_mem_filter hp)⟩
  have hplainOthers {members : List (String × Value)} (h : (Value.dict members).plain = true) : (Value.dict (without name members)).plain = true := by
    rw [plain, plainFields_iff] at h ⊢
    exact fun p hp => h p (List.mem_of_mem_filter hp)
  have heq := Hex.encode_injective (String.ofList_injective (h.trans h'.symm))
  refine (same_or_collides (hothers hunique) (hplainOthers hplain) (hplainOthers hplain') heq).imp_left fun hsame => ?_
  have hfirst : SameMembers (.dict fields) (.dict ((name, .str mark) :: without name fields)) := .single (.members (perm_without hunique.1 hseal))
  have hfirst' : SameMembers (.dict fields') (.dict ((name, .str mark) :: without name fields')) :=
    .single (.members (perm_without hunique'.1 hseal'))
  exact (hfirst.trans (sameMembers_cons hsame _)).trans hfirst'.symm

end Seals

end SuderraOs.CanonicalJson
