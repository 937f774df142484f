import Mathlib.Data.List.Basic

/-!
# The arguments of a command

What a parser of the kind of `clap` makes of the words after a command: flags, options that take a value, and a fixed number of
positional words. A word that looks like an option and names none is refused, an option is not abbreviated, and `--` ends the options.
-/

namespace SuderraOs.Arguments

/-- What a command takes: flags, some with a letter, options with a value, and how many positional words. -/
structure Spec where
  flags : List (String × Option Char)
  options : List String
  positionals : Nat

/-- Why words are refused; the first two are no errors to the parser, which prints what was asked for. -/
inductive Refusal where
  | help
  | version
  | usage (word : String)
  deriving DecidableEq, Repr

/-- The exit status of a program that was given such words. -/
def Refusal.status : Refusal → Nat
  | .help | .version => 0
  | .usage _ => 2

/-- What was given: flags, options with their values, and positional words. -/
structure Matches where
  flags : List String
  options : List (String × String)
  positionals : List String

/-- The name of a word `--name` or `--name=value`, and its value. -/
def longName (word : String) : Option (String × Option String) :=
  match word.toList with
  | '-' :: '-' :: cs =>
    let value := cs.dropWhile (· ≠ '=')
    some (String.ofList (cs.takeWhile (· ≠ '=')), if value = [] then none else some (String.ofList value.tail))
  | _ => none

/-- The letters of a word `-abc`. -/
def letters (word : String) : Option (List Char) :=
  match word.toList with
  | '-' :: c :: cs => some (c :: cs)
  | _ => none

/-- Whether a word cannot be the value that an option waits for. -/
def isOption (word : String) : Bool := (letters word).isSome

def Spec.flagOfLetter (spec : Spec) (c : Char) : Option String := (spec.flags.find? fun p => p.2 = some c).map (·.1)

/-- The words after a command; `pending` is the option that waits for its value. -/
def read (spec : Spec) : Option String → List String → Except Refusal Matches
  | some name, [] => .error (.usage name)
  | some name, word :: words =>
    if isOption word then .error (.usage word)
    else (read spec none words).map fun m => { m with options := (name, word) :: m.options }
  | none, [] => .ok ⟨[], [], []⟩
  | none, word :: words =>
    if word = "--" then .ok ⟨[], [], words⟩
    else
      match longName word with
      | some (name, value) =>
        if name = "help" ∧ value = none then .error .help
        else if (spec.flags.map (·.1)).contains name then
          if value = none then (read spec none words).map fun m => { m with flags := name :: m.flags } else .error (.usage word)
        else if spec.options.contains name then
          match value with
          | some value => (read spec none words).map fun m => { m with options := (name, value) :: m.options }
          | none => read spec (some name) words
        else .error (.usage word)
      | none =>
        match letters word with
        | some cs =>
          if 'h' ∈ cs ∧ spec.flagOfLetter 'h' = none then .error .help
          else
            match cs.mapM spec.flagOfLetter with
            | some names => (read spec none words).map fun m => { m with flags := names ++ m.flags }
            | none => .error (.usage word)
        | none => (read spec none words).map fun m => { m with positionals := word :: m.positionals }

/-- The words are those of the command: nothing stands twice, and every positional word is there. -/
def parse (spec : Spec) (words : List String) : Except Refusal Matches :=
  match read spec none words with
  | .error e => .error e
  | .ok m =>
    if m.flags.Nodup ∧ (m.options.map (·.1)).Nodup ∧ m.positionals.length = spec.positionals then .ok m else .error (.usage "")

/-- The subcommand that is called, and what stands after it; the flags are those of the program itself. -/
def subcommand (top : Spec) (commands : String → Option Spec) : List String → Except Refusal (String × Matches)
  | [] => .error (.usage "")
  | word :: words =>
    match commands word with
    | some spec => (parse spec words).map fun m => (word, m)
    | none =>
      if word = "--version" ∨ word = "-V" then .error .version
      else if word = "--help" ∨ word = "-h" then .error .help
      else
        match longName word with
        | some (name, none) => if (top.flags.map (·.1)).contains name then subcommand top commands words else .error (.usage word)
        | some (_, some _) => .error (.usage word)
        | none =>
          match letters word with
          | some cs => if (cs.mapM top.flagOfLetter).isSome then subcommand top commands words else .error (.usage word)
          | none => .error (.usage word)

/-! ## An option that a command does not have -/

/-- A word names an option, and the command has no such flag or option. -/
structure Unknown (spec : Spec) (word : String) : Prop where
  long : ∃ name value, longName word = some (name, value) ∧ name ≠ "help" ∧ name ∉ spec.flags.map (·.1) ∧ name ∉ spec.options
  ne : word ≠ "--"

/-- A word that names an option the command does not have is refused. -/
theorem read_unknown {spec : Spec} {word : String} (h : Unknown spec word) (words : List String) :
    read spec none (word :: words) = .error (.usage word) := by
  obtain ⟨name, value, hlong, hhelp, hflags, hoptions⟩ := h.long
  rw [read, if_neg h.ne, hlong]
  simp only [List.contains_iff_mem]
  rw [if_neg (fun hand => hhelp hand.1), if_neg hflags, if_neg hoptions]

theorem parse_unknown {spec : Spec} {word : String} (h : Unknown spec word) (words : List String) :
    parse spec (word :: words) = .error (.usage word) := by
  rw [parse, read_unknown h]

/-- The refusal is that of the program. -/
theorem subcommand_unknown {top spec : Spec} {commands : String → Option Spec} {name word : String} (hspec : commands name = some spec)
    (h : Unknown spec word) (words : List String) : subcommand top commands (name :: word :: words) = .error (.usage word) := by
  rw [subcommand, hspec]
  simp only [parse_unknown h, Except.map]

end SuderraOs.Arguments
