import Mathlib.Data.List.Basic

/-!
# UTF-8

The bytes of a text, the text of bytes, and the text of bytes without what is not UTF-8.
-/

namespace SuderraOs.Utf8

def encode (s : String) : List UInt8 := s.toUTF8.toList

/-- The text of bytes, if all of them are UTF-8. -/
def decode (bytes : List UInt8) : Option String := String.fromUTF8? ⟨bytes.toArray⟩

/-- The characters of bytes, leaving out the bytes that belong to none (`decode("utf-8", errors="ignore")`). -/
def decodeIgnore : Nat → List UInt8 → List Char
  | _, [] => []
  | 0, _ => []
  | n + 1, b :: bytes =>
    match ByteArray.utf8DecodeChar? ⟨(b :: bytes).toArray⟩ 0 with
    | some c => c :: decodeIgnore n ((b :: bytes).drop c.utf8Size)
    | none => decodeIgnore n bytes

/-- The bytes that may follow a first byte of a character of several bytes, as ranges. -/
def continuations (b : UInt8) : List (Nat × Nat) :=
  let n := b.toNat
  if 0xC2 ≤ n ∧ n ≤ 0xDF then [(0x80, 0xBF)]
  else if n = 0xE0 then [(0xA0, 0xBF), (0x80, 0xBF)]
  else if n = 0xED then [(0x80, 0x9F), (0x80, 0xBF)]
  else if 0xE1 ≤ n ∧ n ≤ 0xEF then [(0x80, 0xBF), (0x80, 0xBF)]
  else if n = 0xF0 then [(0x90, 0xBF), (0x80, 0xBF), (0x80, 0xBF)]
  else if n = 0xF4 then [(0x80, 0x8F), (0x80, 0xBF), (0x80, 0xBF)]
  else if 0xF1 ≤ n ∧ n ≤ 0xF3 then [(0x80, 0xBF), (0x80, 0xBF), (0x80, 0xBF)]
  else []

/-- The length of the part at the front of bytes that starts a character and does not end it. -/
def subpartLength (b : UInt8) (bytes : List UInt8) : Nat :=
  1 + (((continuations b).zip bytes).takeWhile fun p => p.1.1 ≤ p.2.toNat && p.2.toNat ≤ p.1.2).length

/-- The characters of bytes, with U+FFFD for each part that is none (`errors="replace"`). -/
def decodeReplace : Nat → List UInt8 → List Char
  | _, [] => []
  | 0, _ => []
  | n + 1, b :: bytes =>
    match ByteArray.utf8DecodeChar? ⟨(b :: bytes).toArray⟩ 0 with
    | some c => c :: decodeReplace n ((b :: bytes).drop c.utf8Size)
    | none => '\uFFFD' :: decodeReplace n ((b :: bytes).drop (subpartLength b bytes))

theorem toList_loop (bs : ByteArray) : ∀ (n i : Nat) (acc : List UInt8), bs.size - i = n →
    ByteArray.toList.loop bs i acc = acc.reverse ++ bs.data.toList.drop i := by
  intro n
  induction n with
  | zero =>
    intro i acc hi
    have hdrop : bs.data.toList.drop i = [] := List.drop_eq_nil_of_le (by simp; omega)
    rw [ByteArray.toList.loop, if_neg (by omega), hdrop, List.append_nil]
  | succ n ih =>
    intro i acc hi
    have hlt : i < bs.data.toList.length := by simp; omega
    have hget : bs.get! i = bs.data.toList[i] := by
      have : bs.get! i = bs.data[i]! := by cases bs; rfl
      rw [this, getElem!_pos bs.data i (by simpa using hlt)]
      simp
    rw [ByteArray.toList.loop, if_pos (by omega), ih (i + 1) _ (by omega), hget, List.drop_eq_getElem_cons hlt]
    simp

theorem toList_eq (bs : ByteArray) : bs.toList = bs.data.toList := toList_loop bs _ 0 [] rfl

/-- The bytes of a text are those of its characters. -/
theorem encode_ofList (cs : List Char) : encode (String.ofList cs) = cs.flatMap String.utf8EncodeChar := by
  rw [encode, toList_eq]
  simp [String.toUTF8, String.ofList, List.utf8Encode]

theorem decode_encode (s : String) : decode (encode s) = some s := by
  have hbytes : (⟨(encode s).toArray⟩ : ByteArray) = s.toUTF8 := by rw [encode, toList_eq]
  rw [decode, hbytes]
  simp [String.fromUTF8?, String.fromUTF8, String.toUTF8, s.isValidUTF8]

theorem utf8EncodeChar_ne_nil (c : Char) : String.utf8EncodeChar c ≠ [] := by
  unfold String.utf8EncodeChar
  dsimp only
  repeat' split
  all_goals simp

theorem length_le_flatMap (cs : List Char) : cs.length ≤ (cs.flatMap String.utf8EncodeChar).length := by
  induction cs with
  | nil => exact Nat.le_refl _
  | cons c cs ih =>
    have hpos := List.length_pos_iff.2 (utf8EncodeChar_ne_nil c)
    rw [List.flatMap_cons, List.length_append, List.length_cons]
    omega

/-- The bytes of a text that was decoded are those that it was decoded from. -/
theorem encode_of_decode {bytes : List UInt8} {s : String} (h : decode bytes = some s) : encode s = bytes := by
  rw [decode, String.fromUTF8?] at h
  split_ifs at h
  obtain rfl := Option.some.inj h
  rw [encode, toList_eq]
  rfl

/-- A space before bytes is one before their text. -/
theorem decode_cons_space {bytes : List UInt8} {s : String} (h : decode bytes = some s) :
    decode (0x20 :: bytes) = some (String.ofList (' ' :: s.toList)) := by
  have hbytes : 0x20 :: bytes = encode (String.ofList (' ' :: s.toList)) := by
    rw [encode_ofList, List.flatMap_cons, ← encode_ofList, String.ofList_toList, encode_of_decode h]
    rfl
  rw [hbytes, decode_encode]

theorem decodeChar_encodeChar (c : Char) (bytes : List UInt8) :
    ByteArray.utf8DecodeChar? ⟨(String.utf8EncodeChar c ++ bytes).toArray⟩ 0 = some c := by
  have hbytes : (⟨(String.utf8EncodeChar c ++ bytes).toArray⟩ : ByteArray) = (String.utf8EncodeChar c).toByteArray ++ bytes.toByteArray := by
    rw [← List.toByteArray_append]
    ext1
    rw [List.data_toByteArray]
  rw [hbytes, ByteArray.utf8DecodeChar?_utf8EncodeChar_append]

/-- Nothing is replaced in the bytes of a text. -/
theorem decodeReplace_flatMap (cs : List Char) : ∀ n, cs.length ≤ n → decodeReplace n (cs.flatMap String.utf8EncodeChar) = cs := by
  induction cs with
  | nil =>
    intro n _
    cases n <;> rfl
  | cons c cs ih =>
    intro n hn
    obtain ⟨n, rfl⟩ : ∃ m, n = m + 1 := ⟨n - 1, by simp only [List.length_cons] at hn; omega⟩
    obtain ⟨b, bytes, hbytes⟩ := List.exists_cons_of_ne_nil (utf8EncodeChar_ne_nil c)
    have hchar := decodeChar_encodeChar c (cs.flatMap String.utf8EncodeChar)
    have hdrop : (String.utf8EncodeChar c ++ cs.flatMap String.utf8EncodeChar).drop c.utf8Size = cs.flatMap String.utf8EncodeChar := by
      rw [← String.length_utf8EncodeChar, List.drop_left]
    rw [List.flatMap_cons]
    rw [hbytes, List.cons_append] at hchar hdrop ⊢
    rw [decodeReplace, hchar]
    simp only
    rw [hdrop, ih n (by simpa using hn)]

/-- A byte below 128 is a character by itself. -/
theorem eq_of_mem_utf8EncodeChar {c : Char} {b : UInt8} (hb : b ∈ String.utf8EncodeChar c) (h : b.toNat < 128) :
    String.utf8EncodeChar c = [b] ∧ b.toNat = c.toNat := by
  change _ ∧ b.toNat = c.val.toNat
  have hmax : c.val.toNat < 0x110000 := by
    have hvalid := c.valid
    simp only [UInt32.isValidChar, Nat.isValidChar] at hvalid
    omega
  unfold String.utf8EncodeChar at hb ⊢
  generalize c.val.toNat = v at hb hmax ⊢
  dsimp only at hb ⊢
  split at hb
  · rename_i hv
    obtain rfl := List.mem_singleton.1 hb
    exact ⟨if_pos hv, by rw [UInt8.toNat_ofNat', Nat.mod_eq_of_lt (by omega)]⟩
  -- every byte of a longer character is at least 128
  · exfalso
    split at hb <;> [skip; split at hb] <;> simp only [List.mem_cons, List.not_mem_nil, or_false] at hb
    · rcases hb with rfl | rfl <;> rw [UInt8.toNat_ofNat'] at h <;> omega
    · rcases hb with rfl | rfl | rfl <;> rw [UInt8.toNat_ofNat'] at h <;> omega
    · rcases hb with rfl | rfl | rfl | rfl <;> rw [UInt8.toNat_ofNat'] at h <;> omega

/-- A character below 128 is a byte. -/
theorem utf8EncodeChar_of_lt {c : Char} (h : c.toNat < 128) : String.utf8EncodeChar c = [UInt8.ofNat c.toNat] := by
  have hv : c.val.toNat ≤ 0x7f := Nat.le_of_lt_succ h
  unfold String.utf8EncodeChar
  dsimp only
  rw [if_pos hv]
  rfl

theorem encode_injective {a b : String} (h : encode a = encode b) : a = b := by
  have := decode_encode a
  rw [h, decode_encode] at this
  exact (Option.some.inj this).symm

end SuderraOs.Utf8
