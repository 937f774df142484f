import Mathlib.Data.Char
import Mathlib.Data.List.Lex
import Mathlib.Order.Lattice
import SuderraOs.Lib.Utf8

/-!
# The order of texts and of their bytes

A code gives every letter a word. It is in order when the words of two letters differ first at a place where the smaller letter has the
smaller item (`FirstDiffers`); texts then stand in the order of their encodings (`flatMap_lt_iff`). UTF-8 is such a code, so that to
compare code points is to compare bytes (`encode_lt_iff`).
-/

namespace SuderraOs

/-- Two words differ first at a place where the first one has the smaller item. -/
inductive FirstDiffers {β : Type} [LT β] : List β → List β → Prop where
  | head {x y : β} (s t : List β) (h : x < y) : FirstDiffers (x :: s) (y :: t)
  | tail (x : β) {s t : List β} (h : FirstDiffers s t) : FirstDiffers (x :: s) (x :: t)

section Code

variable {α β : Type} [LinearOrder α] [LT β]

theorem FirstDiffers.append_lt {s t : List β} (h : FirstDiffers s t) (u v : List β) : s ++ u < t ++ v := by
  induction h with
  | head s t h => exact List.Lex.rel h
  | tail x _ ih => exact List.Lex.cons ih

variable {f : α → List β}

theorem flatMap_lt (hf : ∀ c d, c < d → FirstDiffers (f c) (f d)) (hne : ∀ c, f c ≠ []) {a b : List α} (h : a < b) :
    a.flatMap f < b.flatMap f := by
  induction h with
  | @nil c cs =>
    obtain ⟨x, s, hword⟩ := List.exists_cons_of_ne_nil (hne c)
    rw [List.flatMap_cons, hword]
    exact List.Lex.nil
  | rel h => exact (hf _ _ h).append_lt _ _
  | cons _ ih =>
    rw [List.flatMap_cons, List.flatMap_cons]
    exact List.append_left_lt ih

/-- Texts stand in the order of their encodings. -/
theorem flatMap_lt_iff [Std.Asymm (α := β) (· < ·)] (hf : ∀ c d, c < d → FirstDiffers (f c) (f d)) (hne : ∀ c, f c ≠ []) {a b : List α} :
    a.flatMap f < b.flatMap f ↔ a < b := by
  refine ⟨fun h => ?_, flatMap_lt hf hne⟩
  by_contra hnot
  rcases (not_lt.1 hnot).lt_or_eq with hlt | rfl
  · exact List.lt_asymm h (flatMap_lt hf hne hlt)
  · exact List.lt_irrefl _ h

end Code

namespace Utf8

theorem ofNat_lt_ofNat {m n : Nat} (h : m < n) (hn : n < 256) : UInt8.ofNat m < UInt8.ofNat n := by
  rw [UInt8.lt_iff_toNat_lt, UInt8.toNat_ofNat', UInt8.toNat_ofNat']
  omega

/-- Two bytes and what follows them, in the order of two numbers with more digits. -/
theorem firstDiffers_digit {m n : Nat} {s t : List UInt8} (hle : m ≤ n) (hn : n < 256) (h : m = n → FirstDiffers s t) :
    FirstDiffers (UInt8.ofNat m :: s) (UInt8.ofNat n :: t) := by
  rcases hle.lt_or_eq with hlt | rfl
  · exact .head s t (ofNat_lt_ofNat hlt hn)
  · exact .tail _ (h rfl)

/-- The bytes of the smaller of two characters are the smaller ones. -/
theorem firstDiffers_utf8EncodeChar {c d : Char} (h : c < d) : FirstDiffers (String.utf8EncodeChar c) (String.utf8EncodeChar d) := by
  have hlt : c.val.toNat < d.val.toNat := UInt32.lt_iff_toNat_lt.1 h
  have hmax : d.val.toNat < 0x110000 := by
    have hvalid := d.valid
    simp only [UInt32.isValidChar, Nat.isValidChar] at hvalid
    omega
  unfold String.utf8EncodeChar
  generalize c.val.toNat = m at hlt ⊢
  generalize d.val.toNat = n at hlt hmax ⊢
  dsimp only
  -- the bytes of two lengths differ at the front; those of one length are compared digit by digit
  split_ifs <;> first
    | omega
    | exact .head _ _ (ofNat_lt_ofNat (by omega) (by omega))
    | skip
  · exact firstDiffers_digit (by omega) (by omega) fun h₁ => .head _ _ (ofNat_lt_ofNat (by omega) (by omega))
  · refine firstDiffers_digit (by omega) (by omega) fun h₁ => firstDiffers_digit (by omega) (by omega) fun h₂ => ?_
    exact .head _ _ (ofNat_lt_ofNat (by omega) (by omega))
  · refine firstDiffers_digit (by omega) (by omega) fun h₁ => firstDiffers_digit (by omega) (by omega) fun h₂ => ?_
    exact firstDiffers_digit (by omega) (by omega) fun h₃ => .head _ _ (ofNat_lt_ofNat (by omega) (by omega))

/-- Texts stand in the order of their bytes. -/
theorem encode_lt_iff {a b : String} : encode a < encode b ↔ a.toList < b.toList := by
  have hencode : ∀ s : String, encode s = s.toList.flatMap String.utf8EncodeChar := fun s => by
    rw [← encode_ofList, String.ofList_toList]
  rw [hencode, hencode]
  exact flatMap_lt_iff (fun _ _ => firstDiffers_utf8EncodeChar) utf8EncodeChar_ne_nil

end Utf8

end SuderraOs
