import SuderraOs.Lib.Text

/-!
# Hexadecimal text

The text of bytes as lower case hexadecimal digits, and the bytes of a text of digits of either case.
-/

namespace SuderraOs.Hex

/-- The value of the hexadecimal digit of either case that has this ASCII code. -/
def digitValue (code : Nat) : Option Nat :=
  if '0'.toNat ≤ code ∧ code ≤ '9'.toNat then some (code - '0'.toNat)
  else if 'a'.toNat ≤ code ∧ code ≤ 'f'.toNat then some (code - 'a'.toNat + 10)
  else if 'A'.toNat ≤ code ∧ code ≤ 'F'.toNat then some (code - 'A'.toNat + 10)
  else none

/-- Two lower case digits for each byte. -/
def encode (bytes : List UInt8) : List Char :=
  bytes.flatMap fun b => [Nat.digitChar (b.toNat / 16), Nat.digitChar (b.toNat % 16)]

/-- The bytes that an even number of digits, given as ASCII, stands for. -/
def decode : List UInt8 → Option (List UInt8)
  | [] => some []
  | [_] => none
  | hi :: lo :: rest =>
    match digitValue hi.toNat, digitValue lo.toNat, decode rest with
    | some h, some l, some bytes => some (UInt8.ofNat (16 * h + l) :: bytes)
    | _, _, _ => none

theorem digitValue_digitChar : ∀ d < 16, digitValue (Nat.digitChar d).toNat = some d := by decide

theorem mem_encode {bytes : List UInt8} {c : Char} (h : c ∈ encode bytes) : ∃ d < 16, c = Nat.digitChar d := by
  obtain ⟨b, _, hc⟩ := List.mem_flatMap.1 h
  have hb : b.toNat < 256 := b.toNat_lt
  simp only [List.mem_cons, List.not_mem_nil, or_false] at hc
  rcases hc with rfl | rfl
  · exact ⟨_, by omega, rfl⟩
  · exact ⟨_, by omega, rfl⟩

theorem length_encode (bytes : List UInt8) : (encode bytes).length = 2 * bytes.length := by
  induction bytes with
  | nil => rfl
  | cons b bytes ih =>
    rw [encode, List.flatMap_cons, List.length_append, ← encode, ih, List.length_cons, List.length_cons, List.length_nil,
      List.length_cons]
    omega

theorem digitChar_lt : ∀ d < 16, (Nat.digitChar d).toNat < 128 := by decide

/-- What bytes are written as is read back. -/
theorem decode_encode (bytes : List UInt8) : decode ((encode bytes).map fun c => UInt8.ofNat c.toNat) = some bytes := by
  have hdigit : ∀ d < 16, digitValue (UInt8.ofNat (Nat.digitChar d).toNat).toNat = some d := by
    intro d hd
    have hlt := digitChar_lt d hd
    rw [UInt8.toNat_ofNat', Nat.mod_eq_of_lt (by omega), digitValue_digitChar d hd]
  induction bytes with
  | nil => rfl
  | cons b bytes ih =>
    have hb : b.toNat < 256 := b.toNat_lt
    have hparts : 16 * (b.toNat / 16) + b.toNat % 16 = b.toNat := Nat.div_add_mod b.toNat 16
    rw [encode, List.flatMap_cons, List.map_append, ← encode]
    simp only [List.map_cons, List.map_nil, List.cons_append, List.nil_append, decode, hdigit _ (show b.toNat / 16 < 16 by omega),
      hdigit _ (show b.toNat % 16 < 16 by omega), ih, hparts, UInt8.ofNat_toNat]

theorem digitChar_inj {d e : Nat} (hd : d < 16) (he : e < 16) (h : Nat.digitChar d = Nat.digitChar e) : d = e := by
  have hvalue := digitValue_digitChar d hd
  rw [h, digitValue_digitChar e he] at hvalue
  exact (Option.some.inj hvalue).symm

/-- Bytes that are written the same are the same. -/
theorem encode_injective : Function.Injective encode := by
  intro xs ys h
  induction xs generalizing ys with
  | nil =>
    cases ys with
    | nil => rfl
    | cons y ys => simp [encode] at h
  | cons x xs ih =>
    cases ys with
    | nil => simp [encode] at h
    | cons y ys =>
      simp only [encode, List.flatMap_cons, List.cons_append, List.nil_append, List.cons.injEq] at h
      obtain ⟨hhigh, hlow, hrest⟩ := h
      have hx := x.toNat_lt
      have hy := y.toNat_lt
      have hhigh := digitChar_inj (by omega) (by omega) hhigh
      have hlow := digitChar_inj (by omega) (by omega) hlow
      rw [ih hrest, UInt8.toNat_inj.1 (show x.toNat = y.toNat by omega)]

end SuderraOs.Hex
