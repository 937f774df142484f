import SuderraOs.Lib.Text

/-!
# The two slots

The slots `A` and `B` as the boot scripts name them, and the words of an unquoted variable.
-/

namespace SuderraOs.Boot

inductive Slot where
  | A
  | B
  deriving DecidableEq

def Slot.other : Slot → Slot
  | .A => .B
  | .B => .A

/-- The name of a slot in an order. -/
def Slot.word : Slot → List Char
  | .A => ['A']
  | .B => ['B']

/-- The slot a word names; the scripts pass over other words. -/
def Slot.ofWord (word : List Char) : Option Slot :=
  if word = ['A'] then some .A
  else if word = ['B'] then some .B
  else none

@[simp] theorem Slot.ofWord_word (slot : Slot) : Slot.ofWord slot.word = some slot := by cases slot <;> rfl

/-- The words of an unquoted variable. -/
def words (text : String) : List (List Char) :=
  (text.toList.splitOnP fun c => c = ' ' || ('\t' ≤ c && c ≤ '\r')).filter (· ≠ [])

end SuderraOs.Boot
