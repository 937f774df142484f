import Mathlib.Data.List.Basic

/-!
# JSON values

The value of a JSON document, the compact text `serde_json` writes for it, and the objects it contains. An object is a list of
fields in the order the map is walked (`serde_json::Map` without `preserve_order` walks its keys in ascending order); nothing
here assumes that order. A number is an integer: no function of this development looks inside a fraction.
-/

namespace SuderraOs

inductive Json where
  | null
  | bool (b : Bool)
  | num (n : Int)
  | str (s : String)
  | arr (items : List Json)
  | obj (fields : List (String × Json))
  deriving Repr

namespace Json

/-! ## The compact text -/

/-- The escape of one character inside a string. -/
def escapeChar (c : Char) : List Char :=
  if c = '"' then ['\\', '"']
  else if c = '\\' then ['\\', '\\']
  else if c = '\n' then ['\\', 'n']
  else if c = '\r' then ['\\', 'r']
  else if c = '\t' then ['\\', 't']
  else if c.toNat = 0x08 then ['\\', 'b']
  else if c.toNat = 0x0C then ['\\', 'f']
  else if c.toNat < 0x20 then ['\\', 'u', '0', '0', Nat.digitChar (c.toNat / 16), Nat.digitChar (c.toNat % 16)]
  else [c]

def renderString (s : String) : List Char := '"' :: (s.toList.flatMap escapeChar ++ ['"'])

mutual

/-- The text of `serde_json::to_vec`: no white space, fields in their order. -/
def render : Json → List Char
  | .null => "null".toList
  | .bool b => if b then "true".toList else "false".toList
  | .num n => (toString n).toList
  | .str s => renderString s
  | .arr [] => ['[', ']']
  | .arr (item :: items) => '[' :: (render item ++ renderItems items)
  | .obj [] => ['\x7b', '\x7d']
  | .obj ((name, value) :: fields) => '\x7b' :: (renderString name ++ ':' :: (render value ++ renderFields fields))

/-- The rest of an array after its first item. -/
def renderItems : List Json → List Char
  | [] => [']']
  | item :: items => ',' :: (render item ++ renderItems items)

/-- The rest of an object after its first field. -/
def renderFields : List (String × Json) → List Char
  | [] => ['\x7d']
  | (name, value) :: fields => ',' :: (renderString name ++ ':' :: (render value ++ renderFields fields))

end

/-! ## The objects of a document -/

mutual

/-- The objects of a document in document order: an object stands before the objects inside it. -/
def objects : Json → List (List (String × Json))
  | .obj fields => fields :: objectsOfFields fields
  | .arr items => objectsOfItems items
  | _ => []

def objectsOfFields : List (String × Json) → List (List (String × Json))
  | [] => []
  | (_, value) :: fields => objects value ++ objectsOfFields fields

def objectsOfItems : List Json → List (List (String × Json))
  | [] => []
  | item :: items => objects item ++ objectsOfItems items

end

end Json

end SuderraOs
