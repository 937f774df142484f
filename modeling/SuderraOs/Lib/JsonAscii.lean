import SuderraOs.Lib.JsonText
import SuderraOs.Lib.ValueOrder

/-!
# Texts with and without escapes

A document is written with `\u` escapes for everything that is not printable ASCII, or with the characters themselves. The two texts are
the same exactly when no string and no name of the document has a character beyond the printable ones.
-/

namespace SuderraOs.JsonText

open Value

mutual

/-- The strings of a document and the names of its members. -/
def strings : Value → List String
  | .str s => [s]
  | .list items => itemStrings items
  | .dict fields => fieldStrings fields
  | .null => []
  | .bool _ => []
  | .int _ => []
  | .float _ => []

def itemStrings : List Value → List String
  | [] => []
  | item :: items => strings item ++ itemStrings items

def fieldStrings : List (String × Value) → List String
  | [] => []
  | (name, value) :: fields => name :: (strings value ++ fieldStrings fields)

end

/-- A text whose characters both styles write alike. -/
def IsAscii (s : String) : Prop := ∀ c ∈ s.toList, c.toNat ≤ 0x7E

/-- Two styles that differ at most in their escapes and in how they write doubles. -/
structure SameLayout (st st' : Style) : Prop where
  newline : st.newline = st'.newline
  space : st.space = st'.space

variable {st st' : Style}

theorem string_eq {s : String} (h : ∀ c ∈ s.toList, st.escape c = st'.escape c) : st.string s = st'.string s := by
  have hchars : s.toList.flatMap st.escape = s.toList.flatMap st'.escape := List.flatMap_congr h
  rw [Style.string, Style.string, hchars]

mutual

/-- Styles of one layout write a document without doubles alike if they escape its strings alike. -/
theorem write_eq (hlayout : SameLayout st st') : ∀ (v : Value) (level : Nat), v.plain = true →
    (∀ s ∈ strings v, ∀ c ∈ s.toList, st.escape c = st'.escape c) → write st level v = write st' level v
  | .null, _, _, _ => by simp only [write]
  | .bool _, _, _, _ => by simp only [write]
  | .int _, _, _, _ => by simp only [write]
  | .float _, _, hp, _ => by simp [plain] at hp
  | .str s, _, _, h => by
    simp only [write]
    exact string_eq (h s (by simp [strings]))
  | .list [], _, _, _ => by simp only [write]
  | .list (item :: items), level, hp, h => by
    simp only [plain, plainItems, Bool.and_eq_true] at hp
    simp only [strings, itemStrings, List.forall_mem_append] at h
    simp only [write, hlayout.newline, write_eq hlayout item _ hp.1 h.1, writeItems_eq hlayout items level hp.2 h.2]
  | .dict [], _, _, _ => by simp only [write]
  | .dict ((name, value) :: fields), level, hp, h => by
    simp only [plain, plainFields, Bool.and_eq_true] at hp
    simp only [strings, fieldStrings, List.forall_mem_cons, List.forall_mem_append] at h
    simp only [write, hlayout.newline, hlayout.space, string_eq h.1, write_eq hlayout value _ hp.1 h.2.1,
      writeFields_eq hlayout fields level hp.2 h.2.2]

theorem writeItems_eq (hlayout : SameLayout st st') : ∀ (items : List Value) (level : Nat), plainItems items = true →
    (∀ s ∈ itemStrings items, ∀ c ∈ s.toList, st.escape c = st'.escape c) → writeItems st level items = writeItems st' level items
  | [], _, _, _ => by simp only [writeItems, hlayout.newline]
  | item :: items, level, hp, h => by
    simp only [plainItems, Bool.and_eq_true] at hp
    simp only [itemStrings, List.forall_mem_append] at h
    simp only [writeItems, hlayout.newline, write_eq hlayout item _ hp.1 h.1, writeItems_eq hlayout items level hp.2 h.2]

theorem writeFields_eq (hlayout : SameLayout st st') : ∀ (fields : List (String × Value)) (level : Nat), plainFields fields = true →
    (∀ s ∈ fieldStrings fields, ∀ c ∈ s.toList, st.escape c = st'.escape c) → writeFields st level fields = writeFields st' level fields
  | [], _, _, _ => by simp only [writeFields, hlayout.newline]
  | (name, value) :: fields, level, hp, h => by
    simp only [plainFields, Bool.and_eq_true] at hp
    simp only [fieldStrings, List.forall_mem_cons, List.forall_mem_append] at h
    simp only [writeFields, hlayout.newline, hlayout.space, string_eq h.1, write_eq hlayout value _ hp.1 h.2.1,
      writeFields_eq hlayout fields level hp.2 h.2.2]

end

theorem mem_string {s : String} {c d : Char} (hc : c ∈ s.toList) (hd : d ∈ st.escape c) : d ∈ st.string s :=
  List.mem_cons_of_mem _ (List.mem_append_left _ (List.mem_flatMap.2 ⟨c, hc, hd⟩))

mutual

/-- What a style writes for a character of a string stands in the text of the document. -/
theorem mem_write : ∀ (v : Value) (level : Nat) {s : String} {c d : Char}, s ∈ strings v → c ∈ s.toList → d ∈ st.escape c →
    d ∈ write st level v
  | .str t, level, s, c, d, hs, hc, hd => by
    simp only [strings, List.mem_singleton] at hs
    subst hs
    simp only [write]
    exact mem_string hc hd
  | .list (item :: items), level, s, c, d, hs, hc, hd => by
    simp only [strings, itemStrings, List.mem_append] at hs
    simp only [write, List.mem_cons, List.mem_append]
    rcases hs with hs | hs
    · exact .inr (.inr (.inl (mem_write item _ hs hc hd)))
    · exact .inr (.inr (.inr (mem_writeItems items level hs hc hd)))
  | .dict ((name, value) :: fields), level, s, c, d, hs, hc, hd => by
    simp only [strings, fieldStrings, List.mem_cons, List.mem_append] at hs
    simp only [write, List.mem_cons, List.mem_append]
    rcases hs with rfl | hs | hs
    · exact .inr (.inr (.inl (mem_string hc hd)))
    · exact .inr (.inr (.inr (.inr (.inr (.inl (mem_write value _ hs hc hd))))))
    · exact .inr (.inr (.inr (.inr (.inr (.inr (mem_writeFields fields level hs hc hd))))))
  | .list [], _, _, _, _, hs, _, _ => by simp [strings, itemStrings] at hs
  | .dict [], _, _, _, _, hs, _, _ => by simp [strings, fieldStrings] at hs
  | .null, _, _, _, _, hs, _, _ => by simp [strings] at hs
  | .bool _, _, _, _, _, hs, _, _ => by simp [strings] at hs
  | .int _, _, _, _, _, hs, _, _ => by simp [strings] at hs
  | .float _, _, _, _, _, hs, _, _ => by simp [strings] at hs

theorem mem_writeItems : ∀ (items : List Value) (level : Nat) {s : String} {c d : Char}, s ∈ itemStrings items → c ∈ s.toList →
    d ∈ st.escape c → d ∈ writeItems st level items
  | [], _, _, _, _, hs, _, _ => by simp [itemStrings] at hs
  | item :: items, level, s, c, d, hs, hc, hd => by
    simp only [itemStrings, List.mem_append] at hs
    simp only [writeItems, List.mem_cons, List.mem_append]
    rcases hs with hs | hs
    · exact .inr (.inr (.inl (mem_write item _ hs hc hd)))
    · exact .inr (.inr (.inr (mem_writeItems items level hs hc hd)))

theorem mem_writeFields : ∀ (fields : List (String × Value)) (level : Nat) {s : String} {c d : Char}, s ∈ fieldStrings fields →
    c ∈ s.toList → d ∈ st.escape c → d ∈ writeFields st level fields
  | [], _, _, _, _, hs, _, _ => by simp [fieldStrings] at hs
  | (name, value) :: fields, level, s, c, d, hs, hc, hd => by
    simp only [fieldStrings, List.mem_cons, List.mem_append] at hs
    simp only [writeFields, List.mem_cons, List.mem_append]
    rcases hs with rfl | hs | hs
    · exact .inr (.inr (.inl (mem_string hc hd)))
    · exact .inr (.inr (.inr (.inr (.inr (.inl (mem_write value _ hs hc hd))))))
    · exact .inr (.inr (.inr (.inr (.inr (.inr (mem_writeFields fields level hs hc hd))))))

end

/-! ## Rust's text and Python's -/

theorem escape_eq_escapeAscii {c : Char} (h : c.toNat ≤ 0x7E) : escape c = escapeAscii c := by
  unfold escape escapeAscii
  split
  · rfl
  · by_cases hc : c.toNat < 0x20
    · rw [if_pos hc, if_neg (by omega), if_pos (by omega)]
    · rw [if_neg hc, if_pos (by omega)]

theorem digitChar_le {n : Nat} (h : n < 16) : (Nat.digitChar n).toNat ≤ 0x7E := by
  revert h
  revert n
  decide

theorem hex4_le (n : Nat) : ∀ d ∈ hex4 n, d.toNat ≤ 0x7E := by
  simp only [hex4, List.forall_mem_cons, List.not_mem_nil, false_implies, implies_true, and_true]
  exact ⟨digitChar_le (by omega), digitChar_le (by omega), digitChar_le (by omega), digitChar_le (by omega)⟩

theorem escapeAscii_le (c : Char) : ∀ d ∈ escapeAscii c, d.toNat ≤ 0x7E := by
  have hbackslash : ('\\' : Char).toNat ≤ 0x7E := by decide
  have hu : ('u' : Char).toNat ≤ 0x7E := by decide
  unfold escapeAscii
  split
  · next d hd =>
    have hd' : d.toNat ≤ 0x7E := by
      unfold escapeDct at hd
      split_ifs at hd <;> · cases hd; decide
    simp only [List.forall_mem_cons, List.not_mem_nil, false_implies, implies_true, and_true]
    exact ⟨hbackslash, hd'⟩
  · split_ifs with hplain
    · simpa using hplain.2
    · simp only [List.forall_mem_cons]
      exact ⟨hbackslash, hu, hex4_le _⟩
    · simp only [List.forall_mem_cons, List.forall_mem_append]
      exact ⟨hbackslash, hu, hex4_le _, hbackslash, hu, hex4_le _⟩

theorem compactAscii_lays (repr : Double → List Char) : (compactAscii repr).Lays fun d => d.toNat ≤ 0x7E where
  escape := escapeAscii_le
  newline := by simp [compactAscii]
  space := by simp [compactAscii]
  syntaxChars := by decide

theorem indented_lays (repr : Double → List Char) : (indented repr).Lays fun d => d.toNat ≤ 0x7E where
  escape := escapeAscii_le
  newline := fun level => by
    simp only [indented, List.forall_mem_cons, List.mem_replicate]
    exact ⟨by decide, fun d hd => hd.2 ▸ by decide⟩
  space := by simp [indented]
  syntaxChars := by decide

/-- A document has the same text with escapes and without exactly when all of its characters are printable ASCII or have an escape in
both. -/
theorem write_ascii_eq_iff (st st' : Style) (hlayout : SameLayout st st') (hst : st.escape = escape) (hst' : st'.escape = escapeAscii)
    (hlays : st'.Lays fun d => d.toNat ≤ 0x7E) {v : Value} (hp : v.plain = true) (level : Nat) :
    write st level v = write st' level v ↔ ∀ s ∈ strings v, IsAscii s := by
  constructor
  · intro heq s hs c hc
    by_contra hlarge
    have hescape : st.escape c = [c] := by
      rw [hst]
      unfold escape escapeDct
      have hne : ∀ d : Char, d.toNat ≤ 0x7E → c ≠ d := fun d hd heq => hlarge (heq ▸ hd)
      rw [if_neg (hne _ (by decide)), if_neg (hne _ (by decide)), if_neg (hne _ (by decide)), if_neg (hne _ (by decide)),
        if_neg (hne _ (by decide)), if_neg (hne _ (by decide)), if_neg (hne _ (by decide))]
      exact if_neg (by omega)
    have hmem : c ∈ write st level v := mem_write v level hs hc (hescape ▸ List.mem_cons_self)
    exact hlarge (hlays.write v level hp c (heq ▸ hmem))
  · intro hascii
    refine write_eq hlayout v level hp fun s hs c hc => ?_
    rw [hst, hst']
    exact escape_eq_escapeAscii (hascii s hs c hc)

theorem write_compact_eq_iff (repr repr' : Double → List Char) {v : Value} (hp : v.plain = true) (level : Nat) :
    write (compact repr) level v = write (compactAscii repr') level v ↔ ∀ s ∈ strings v, IsAscii s :=
  write_ascii_eq_iff (compact repr) (compactAscii repr') ⟨rfl, rfl⟩ rfl rfl (compactAscii_lays repr') hp level

theorem write_pretty_eq_iff (repr repr' : Double → List Char) {v : Value} (hp : v.plain = true) (level : Nat) :
    write (pretty repr) level v = write (indented repr') level v ↔ ∀ s ∈ strings v, IsAscii s :=
  write_ascii_eq_iff (pretty repr) (indented repr') ⟨rfl, rfl⟩ (funext fun c => (escape_eq_escapeChar c).symm) rfl
    (indented_lays repr') hp level

/-! ## Strings of a sorted document -/

theorem mem_fieldStrings {s : String} {fields : List (String × Value)} :
    s ∈ fieldStrings fields ↔ ∃ p ∈ fields, s = p.1 ∨ s ∈ strings p.2 := by
  induction fields with
  | nil => simp [fieldStrings]
  | cons p fields ih => simp [fieldStrings, ih, or_assoc]

mutual

/-- Sorting the members keeps the strings and the names. -/
theorem mem_strings_sortKeys {s : String} : ∀ v : Value, s ∈ strings v.sortKeys ↔ s ∈ strings v
  | .null => .rfl
  | .bool _ => .rfl
  | .int _ => .rfl
  | .float _ => .rfl
  | .str _ => .rfl
  | .list items => mem_itemStrings_sortKeys items
  | .dict fields => by
    simp only [sortKeys, strings, ← mem_fieldStrings_sortKeys fields, mem_fieldStrings, List.mem_insertionSort]

theorem mem_itemStrings_sortKeys {s : String} : ∀ items : List Value, s ∈ itemStrings (sortKeysItems items) ↔ s ∈ itemStrings items
  | [] => .rfl
  | item :: items => by
    simp only [sortKeysItems, itemStrings, List.mem_append, mem_strings_sortKeys item, mem_itemStrings_sortKeys items]

theorem mem_fieldStrings_sortKeys {s : String} : ∀ fields : List (String × Value),
    s ∈ fieldStrings (sortKeysFields fields) ↔ s ∈ fieldStrings fields
  | [] => .rfl
  | (name, value) :: fields => by
    simp only [sortKeysFields, fieldStrings, List.mem_cons, List.mem_append, mem_strings_sortKeys value,
      mem_fieldStrings_sortKeys fields]

end

end SuderraOs.JsonText
