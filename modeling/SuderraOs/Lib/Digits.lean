import Mathlib.Data.List.Lex
import Mathlib.Tactic.Ring
import SuderraOs.Lib.Text

/-!
# Decimal numerals

Numbers written in decimal, and the order of texts on them: between numerals of one length the order of the texts is the order of
the numbers (`lt_iff_digitsValue`), so it is between numbers padded to one width (`padDigits_lt_iff`), and columns of such numerals
are compared column by column (`column_lt_iff`).
-/

namespace SuderraOs.Text

theorem digitsValue_toDigits (n : Nat) : digitsValue (Nat.toDigits 10 n) = n := by
  have := Nat.ofDigitChars_ten_toDigits (n := n)
  rwa [Nat.ofDigitChars_eq_foldl] at this

theorem isDigit_toDigits (n : Nat) : ∀ c ∈ Nat.toDigits 10 n, c.isDigit = true :=
  fun _ hc => Nat.isDigit_of_mem_toDigits (by decide) (by decide) hc

/-- Only zero is written with a leading zero. -/
theorem toDigits_head_zero (n : Nat) : (Nat.toDigits 10 n).head? = some '0' → n = 0 := by
  induction n using Nat.strongRecOn with
  | ind n ih =>
    intro h
    by_cases hn : n < 10
    · rw [Nat.toDigits_of_lt_base hn] at h
      simpa using h
    · rw [Nat.toDigits_of_base_le (by decide) (by omega), List.head?_append, Option.or_eq_left_of_isSome] at h
      · have := ih (n / 10) (by omega) h
        omega
      · simp [Nat.toDigits_ne_nil]

/-- The value of one more digit in front. -/
theorem digitsValue_cons (c : Char) (cs : List Char) :
    digitsValue (c :: cs) = (c.toNat - '0'.toNat) * 10 ^ cs.length + digitsValue cs := by
  have h (cs : List Char) (init : Nat) :
      cs.foldl (fun n c => 10 * n + (c.toNat - '0'.toNat)) init = init * 10 ^ cs.length + digitsValue cs := by
    induction cs generalizing init with
    | nil => simp [digitsValue]
    | cons c cs ih =>
      rw [digitsValue, List.foldl_cons, ih, List.foldl_cons, ih, List.length_cons, pow_succ]
      ring
  rw [digitsValue, List.foldl_cons, h, Nat.mul_zero, Nat.zero_add]

theorem digit_bounds {c : Char} (hc : c.isDigit = true) : '0'.toNat ≤ c.toNat ∧ c.toNat ≤ '9'.toNat := by
  simpa [Char.isDigit, UInt32.le_iff_toNat_le] using hc

theorem digitsValue_lt {cs : List Char} (h : ∀ c ∈ cs, c.isDigit = true) : digitsValue cs < 10 ^ cs.length := by
  induction cs with
  | nil => decide
  | cons c cs ih =>
    have hcs := ih fun d hd => h d (List.mem_cons_of_mem _ hd)
    have hc := digit_bounds (h c List.mem_cons_self)
    have hdigit : c.toNat - '0'.toNat ≤ 9 := by
      have : '9'.toNat = '0'.toNat + 9 := by decide
      omega
    rw [digitsValue_cons, List.length_cons, pow_succ]
    calc (c.toNat - '0'.toNat) * 10 ^ cs.length + digitsValue cs < 9 * 10 ^ cs.length + 10 ^ cs.length :=
          Nat.add_lt_add_of_le_of_lt (Nat.mul_le_mul_right _ hdigit) hcs
      _ = 10 ^ cs.length * 10 := by ring

/-- Between numerals of one length the order of the texts is the order of the numbers. -/
theorem lt_iff_digitsValue {a b : List Char} (hlen : a.length = b.length) (ha : ∀ c ∈ a, c.isDigit = true)
    (hb : ∀ c ∈ b, c.isDigit = true) : a < b ↔ digitsValue a < digitsValue b := by
  induction a generalizing b with
  | nil =>
    obtain rfl := List.length_eq_zero_iff.1 hlen.symm
    simp
  | cons c a ih =>
    cases b with
    | nil => simp at hlen
    | cons d b =>
      have hlen : a.length = b.length := by simpa using hlen
      have ha' : ∀ c ∈ a, c.isDigit = true := fun x hx => ha x (List.mem_cons_of_mem _ hx)
      have hb' : ∀ c ∈ b, c.isDigit = true := fun x hx => hb x (List.mem_cons_of_mem _ hx)
      have hva := digitsValue_lt ha'
      have hvb := digitsValue_lt hb'
      have hc := digit_bounds (ha c List.mem_cons_self)
      have hd := digit_bounds (hb d List.mem_cons_self)
      rw [List.cons_lt_cons_iff, ih hlen ha' hb', digitsValue_cons, digitsValue_cons, hlen]
      rw [hlen] at hva
      generalize 10 ^ b.length = p at *
      -- the first digits decide, and if they are equal the rest does
      rcases lt_trichotomy c.toNat d.toNat with h | h | h
      · have hstep : (c.toNat - '0'.toNat + 1) * p ≤ (d.toNat - '0'.toNat) * p := Nat.mul_le_mul_right _ (by omega)
        rw [Nat.add_mul, Nat.one_mul] at hstep
        exact iff_of_true (Or.inl h) (by omega)
      · have hcd : c = d := Char.toNat_inj.1 h
        subst hcd
        simp
      · have hstep : (d.toNat - '0'.toNat + 1) * p ≤ (c.toNat - '0'.toNat) * p := Nat.mul_le_mul_right _ (by omega)
        rw [Nat.add_mul, Nat.one_mul] at hstep
        have hne : c ≠ d := fun hcd => by rw [hcd] at h; omega
        have hnot : ¬ c < d := fun hlt => by
          have : c.toNat < d.toNat := hlt
          omega
        refine iff_of_false ?_ (by omega)
        rintro (hlt | ⟨heq, -⟩)
        · exact hnot hlt
        · exact hne heq

/-- Texts that start with parts of one length are compared by these parts first. -/
theorem append_lt_append_iff {a b x y : List Char} (hlen : a.length = b.length) :
    a ++ x < b ++ y ↔ a < b ∨ a = b ∧ x < y := by
  induction a generalizing b with
  | nil =>
    obtain rfl := List.length_eq_zero_iff.1 hlen.symm
    simp
  | cons c a ih =>
    cases b with
    | nil => simp at hlen
    | cons d b =>
      have hlen : a.length = b.length := by simpa using hlen
      simp only [List.cons_append, List.cons_lt_cons_iff, ih hlen, List.cons.injEq]
      tauto

/-! ## Padded numerals -/

/-- A number in decimal, with zeros in front up to a width (`printf '%0wd'`). -/
def padDigits (w n : Nat) : List Char := (Nat.toDigits 10 n).leftpad w '0'

variable {w m n : Nat}

theorem isDigit_padDigits (w n : Nat) : ∀ c ∈ padDigits w n, c.isDigit = true := by
  intro c hc
  rcases List.mem_append.1 hc with hc | hc
  · rw [(List.mem_replicate.1 hc).2]
    decide
  · exact isDigit_toDigits n c hc

theorem length_padDigits (hw : 0 < w) (h : n < 10 ^ w) : (padDigits w n).length = w := by
  have hlen : (Nat.toDigits 10 n).length ≤ w := (Nat.length_toDigits_le_iff (by decide) hw).2 h
  rw [padDigits, List.leftpad, List.length_append, List.length_replicate]
  omega

theorem digitsValue_padDigits (w n : Nat) : digitsValue (padDigits w n) = n := by
  have hzeros (k : Nat) (cs : List Char) : digitsValue (List.replicate k '0' ++ cs) = digitsValue cs := by
    induction k with
    | zero => rfl
    | succ k ih => simp [List.replicate_succ, digitsValue_cons, ih]
  rw [padDigits, List.leftpad, hzeros, digitsValue_toDigits]

/-- Padded to one width, numbers that fit in it are ordered as their numerals are. -/
theorem padDigits_lt_iff (hw : 0 < w) (hm : m < 10 ^ w) (hn : n < 10 ^ w) : padDigits w m < padDigits w n ↔ m < n := by
  rw [lt_iff_digitsValue (by rw [length_padDigits hw hm, length_padDigits hw hn]) (isDigit_padDigits w m) (isDigit_padDigits w n),
    digitsValue_padDigits, digitsValue_padDigits]

theorem padDigits_inj : padDigits w m = padDigits w n ↔ m = n := by
  refine ⟨fun h => ?_, fun h => by rw [h]⟩
  rw [← digitsValue_padDigits w m, h, digitsValue_padDigits]

/-- A column of one width before a separator decides first, and then what follows the separator. -/
theorem column_lt_iff (hw : 0 < w) (hm : m < 10 ^ w) (hn : n < 10 ^ w) {c : Char} {x y : List Char} :
    padDigits w m ++ c :: x < padDigits w n ++ c :: y ↔ m < n ∨ m = n ∧ x < y := by
  rw [append_lt_append_iff (by rw [length_padDigits hw hm, length_padDigits hw hn]), padDigits_lt_iff hw hm hn, padDigits_inj,
    List.cons_lt_cons_iff]
  simp

end SuderraOs.Text
