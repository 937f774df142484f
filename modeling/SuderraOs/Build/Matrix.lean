import Mathlib.Data.List.DropRight
import SuderraOs.Lib.Digits
import SuderraOs.Lib.Effect
import SuderraOs.Lib.PyText
import SuderraOs.Lib.PyValue

/-!
# The build matrix

`load_matrix` of `validate-build-matrix.py`: the reader of `ci/build-matrix.yml`, which every build, release and evidence script shares.
It reads its own subset of YAML line by line, by the indent of a line and the section, the entry and the list that are open.
-/

namespace SuderraOs.Build

open PyText Value

abbrev Fields := List (String × Value)

/-- `str.rstrip`. -/
def rstrip (cs : List Char) : List Char := cs.rdropWhile isSpace

/-! ## A line -/

/-- What `strip_comment` knows before a character. -/
structure Quotes where
  inSingle := false
  inDouble := false
  escaped := false
  deriving DecidableEq

/-- What it knows after a character. -/
def Quotes.next (q : Quotes) (c : Char) : Quotes :=
  if q.escaped then { q with escaped := false }
  else if c = '\\' then { q with escaped := true }
  else if c = '\'' ∧ q.inDouble = false then { q with inSingle := !q.inSingle }
  else if c = '"' ∧ q.inSingle = false then { q with inDouble := !q.inDouble }
  else q

/-- Whether a comment may start. -/
def Quotes.open (q : Quotes) : Bool := !q.escaped && !q.inSingle && !q.inDouble

/-- The characters before the comment. -/
def cutComment : Quotes → List Char → List Char
  | _, [] => []
  | q, c :: cs => if c = '#' ∧ q.open = true then [] else c :: cutComment (q.next c) cs

/-- `strip_comment`. -/
def stripComment (line : List Char) : List Char := rstrip (cutComment {} line)

/-- Why a matrix is not loaded: a `ValueError` with what its message names. -/
inductive LoadError where
  | expectedKeyValue (text : List Char)
  | tooManyDigits (value : List Char)
  | unsupported (lineno : Nat) (raw : List Char)
  deriving DecidableEq

/-- A text between two quotes of one kind. -/
def isQuoted (value : List Char) : Bool :=
  2 ≤ value.length && value.head? = value.getLast? && (value.head? = some '\'' || value.head? = some '"')

/-- `parse_scalar`. Python takes 4300 digits at most. -/
def parseScalar (value : List Char) : Except LoadError Value :=
  let value := strip value
  if value = "true".toList ∨ value = "false".toList then .ok (.bool (value = "true".toList))
  else if value = "null".toList ∨ value = ['~'] then .ok .null
  else if isQuoted value then .ok (.str (String.ofList value.tail.dropLast))
  else if value ≠ [] ∧ value.all Char.isDigit then
    if value.length ≤ 4300 then .ok (.int (Text.digitsValue value)) else .error (.tooManyDigits value)
  else .ok (.str (String.ofList value))

/-- `parse_key_value`. -/
def parseKeyValue (text : List Char) : Except LoadError (String × List Char) :=
  match Text.splitOnce ':' text with
  | none => .error (.expectedKeyValue text)
  | some (key, value) => .ok (String.ofList (strip key), strip value)

/-! ## The sections -/

/-- The sections of a matrix, each with its entries. -/
abbrev Data := List (String × List Value)

def Data.empty : Data := [("defconfigs", []), ("variants", []), ("security_scans", [])]

/-- The entries of a section. -/
def Data.entries (data : Data) (name : String) : List Value := (data.lookup name).getD []

/-- `data.setdefault(name, [])`. -/
def Data.setDefault (data : Data) (name : String) : Data := if data.any (·.1 = name) then data else data ++ [(name, [])]

/-- The entries of one section changed. -/
def Data.modify (data : Data) (name : String) (f : List Value → List Value) : Data :=
  data.map fun p => if p.1 = name then (p.1, f p.2) else p

/-- The reader between two lines. `current` is the last entry of the section, while it is open. -/
structure Reader where
  data : Data := .empty
  openSection : Option String := none
  current : Option Fields := none
  pendingKey : Option String := none

/-- `data[section].append(entry)`, with the entry open. -/
def Reader.openEntry (r : Reader) (name : String) (entry : Fields) : Reader :=
  { r with data := r.data.modify name (· ++ [.dict entry]), current := some entry, pendingKey := none }

/-- The open entry changed, where it is and in its section. -/
def Reader.setCurrent (r : Reader) (name : String) (entry : Fields) (pendingKey : Option String) : Reader :=
  { r with data := r.data.modify name (·.dropLast ++ [.dict entry]), current := some entry, pendingKey }

/-- `current[key].append(item)`: the pending key names a list. -/
def appendItem (entry : Fields) (key : String) (item : Value) : Fields :=
  entry.map fun p => if p.1 = key then (p.1, .list (p.2.asList.getD [] ++ [item])) else p

def startsItem (text : List Char) : Bool := "- ".toList.isPrefixOf text

/-- The sections whose entries have fields. -/
def IsEntrySection (name : String) : Prop := name = "defconfigs" ∨ name = "variants"

/-- A line of a section of entries. -/
def readEntryLine (unsupported : LoadError) (r : Reader) (name : String) (indent : Nat) (text : List Char) : Except LoadError Reader :=
  if indent = 2 ∧ startsItem text then
    let rest := strip (text.drop 2)
    if rest = [] then .ok (r.openEntry name [])
    else do
      let (key, value) ← parseKeyValue rest
      let value ← parseScalar value
      .ok (r.openEntry name [(key, value)])
  else
    match r.current with
    | none => .error unsupported
    | some entry =>
      if indent = 4 then do
        let (key, value) ← parseKeyValue text
        if value = [] then .ok (r.setCurrent name (setField entry (key, .list [])) (some key))
        else do
          let value ← parseScalar value
          .ok (r.setCurrent name (setField entry (key, value)) none)
      else if indent = 6 ∧ startsItem text then
        match r.pendingKey.filter (· ≠ "") with
        | none => .error unsupported
        | some key => do
          let item ← parseScalar (strip (text.drop 2))
          .ok (r.setCurrent name (appendItem entry key item) r.pendingKey)
      else .error unsupported

/-- A line that is not blank. -/
def readLine (unsupported : LoadError) (r : Reader) (line : List Char) : Except LoadError Reader :=
  let indent := (line.takeWhile (· = ' ')).length
  let text := strip line
  if indent = 0 ∧ text.getLast? = some ':' then
    let name := String.ofList text.dropLast
    .ok { data := r.data.setDefault name, openSection := some name }
  else
    match r.openSection with
    | some "defconfigs" => readEntryLine unsupported r "defconfigs" indent text
    | some "variants" => readEntryLine unsupported r "variants" indent text
    | some "security_scans" =>
      if indent = 2 ∧ startsItem text then do
        let item ← parseScalar (strip (text.drop 2))
        .ok { r with data := r.data.modify "security_scans" (· ++ [item]) }
      else .error unsupported
    | _ => .error unsupported

/-- The body of the loop. -/
def step (r : Reader) (raw : List Char × Nat) : Except LoadError Reader :=
  let line := stripComment raw.1
  if strip line = [] then .ok r else readLine (.unsupported raw.2 raw.1) r line

def loadLines (lines : List (List Char)) : Except LoadError Data := do
  let r ← (lines.zipIdx 1).foldlM step {}
  .ok r.data

/-- `load_matrix`, of the text of the file. -/
def loadMatrix (text : List Char) : Except LoadError Data := loadLines (splitlines (universalNewlines text))

end SuderraOs.Build
