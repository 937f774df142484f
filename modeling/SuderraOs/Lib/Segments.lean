import Mathlib.Data.List.Basic

/-!
# Texts in segments

A text that is put together from segments without anything that separates them. Where the length of every segment is known, the text
can be taken apart again (`segments_injective`), also when one of them is any text, as long as the others stand before and behind it
(`segments_around_injective`).
-/

namespace SuderraOs.Text

def segments (parts : List String) : List Char := parts.flatMap String.toList

@[simp] theorem segments_nil : segments [] = [] := rfl

@[simp] theorem segments_cons (part : String) (parts : List String) : segments (part :: parts) = part.toList ++ segments parts := rfl

/-- How long the segments are. -/
def lengths (parts : List String) : List Nat := parts.map fun part => part.toList.length

theorem length_segments_eq {xs ys : List String} (h : lengths xs = lengths ys) : (segments xs).length = (segments ys).length := by
  have hlength (parts : List String) : (segments parts).length = (lengths parts).foldr (· + ·) 0 := by
    induction parts with
    | nil => rfl
    | cons part parts ih => rw [segments_cons, List.length_append, ih]; rfl
  rw [hlength, hlength, h]

/-- A text stands for its segments. -/
theorem segments_injective {xs ys : List String} (hlengths : lengths xs = lengths ys) (h : segments xs = segments ys) : xs = ys := by
  induction xs generalizing ys with
  | nil =>
    cases ys with
    | nil => rfl
    | cons y ys => cases hlengths
  | cons x xs ih =>
    cases ys with
    | nil => cases hlengths
    | cons y ys =>
      simp only [lengths, List.map_cons, List.cons.injEq] at hlengths
      obtain ⟨hx, hxs⟩ := List.append_inj h hlengths.1
      rw [String.toList_inj.1 hx, ih hlengths.2 hxs]

/-- A text stands for its segments, though one of them has any length. -/
theorem segments_around_injective {xs xs' zs zs' : List String} {s s' : String} (hxs : lengths xs = lengths xs')
    (hzs : lengths zs = lengths zs') (h : segments xs ++ (s.toList ++ segments zs) = segments xs' ++ (s'.toList ++ segments zs')) :
    xs = xs' ∧ s = s' ∧ zs = zs' := by
  obtain ⟨hbefore, h⟩ := List.append_inj h (length_segments_eq hxs)
  obtain ⟨hmiddle, hbehind⟩ := List.append_inj' h (length_segments_eq hzs)
  exact ⟨segments_injective hxs hbefore, String.toList_inj.1 hmiddle, segments_injective hzs hbehind⟩

end SuderraOs.Text
