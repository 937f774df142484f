import Mathlib.Data.List.TakeWhile
import SuderraOs.Lib.Text

/-!
# Sourcing a text in a POSIX shell

The token recognition and the quoting of a POSIX shell, for texts without expansions and operators: any character that could start
one where it is not quoted is outside the fragment, and reading such a text fails. A line of such a text is a simple command, the
assignments in front of its words; a command without words assigns and executes nothing. A word may be quoted in three ways, and
`lex_singleQuoted` is the rule of the one that takes every character literally.
-/

namespace SuderraOs.Shell

/-- A word: its characters, each with whether it is quoted. -/
abbrev Word := List (Char × Bool)

inductive Token where
  | word (w : Word)
  | newline
  deriving DecidableEq

/-- Where a character stands: outside of quotes, in one of the two kinds of quotes, after a backslash outside of quotes or in double
ones, or in a comment. -/
inductive Quote where
  | none
  | single
  | double
  | escape
  | doubleEscape
  | comment
  deriving DecidableEq

/-- The characters that start an operator, an expansion or a pattern outside of quotes. -/
def isSpecial (c : Char) : Bool := c ∈ "|&;<>()$`*?[~".toList

def isBlank (c : Char) : Bool := c = ' ' || c = '\t'

/-- The word that ends here, if one does. -/
def emit : Option Word → List Token
  | some w => [.word w]
  | .none => []

/-- Add a character to the word, or start one with it. -/
def grow (w : Option Word) (c : Char) (quoted : Bool) : Option Word := some (w.getD [] ++ [(c, quoted)])

/-- Token recognition from a place in the text, with the word read so far. No character of a text is NUL. -/
def lex : Quote → Option Word → List Char → Option (List Token)
  | .none, w, [] | .comment, w, [] => some (emit w)
  | .single, _, [] | .double, _, [] | .escape, _, [] | .doubleEscape, _, [] => .none
  | .none, w, c :: cs =>
    if c = '\x00' then .none
    else if c = '\'' then lex .single (some (w.getD [])) cs
    else if c = '"' then lex .double (some (w.getD [])) cs
    else if c = '\\' then lex .escape w cs
    else if c = '\n' then (lex .none .none cs).map (emit w ++ .newline :: ·)
    else if isBlank c then (lex .none .none cs).map (emit w ++ ·)
    else if c = '#' ∧ w = .none then lex .comment .none cs
    else if isSpecial c then .none
    else lex .none (grow w c false) cs
  | .single, w, c :: cs => if c = '\x00' then .none else if c = '\'' then lex .none w cs else lex .single (grow w c true) cs
  | .double, w, c :: cs =>
    if c = '\x00' ∨ c = '$' ∨ c = '`' then .none
    else if c = '"' then lex .none w cs
    else if c = '\\' then lex .doubleEscape w cs
    else lex .double (grow w c true) cs
  | .escape, w, c :: cs =>
    if c = '\x00' then .none else if c = '\n' then lex .none w cs else lex .none (grow w c true) cs
  | .doubleEscape, w, c :: cs =>
    if c = '\x00' then .none
    else if c = '\n' then lex .double w cs
    else if c ∈ ['$', '`', '"', '\\'] then lex .double (grow w c true) cs
    else lex .double (grow (grow w '\\' true) c true) cs
  | .comment, w, c :: cs => if c = '\n' then (lex .none .none cs).map (emit w ++ .newline :: ·) else lex .comment w cs

/-! ## Commands -/

/-- A simple command: its assignments, and the words of what it executes. -/
structure Command where
  assigns : List (List Char × List Char)
  words : List (List Char)
  deriving DecidableEq

def isNameChar (c : Char) : Bool := c.isAlphanum || c = '_'

/-- The characters of a word without their quotes. -/
def unquote (w : Word) : List Char := w.map (·.1)

/-- A word that is a name, an equals sign outside of quotes and a value. -/
def assignment (w : Word) : Option (List Char × List Char) :=
  let name := w.takeWhile (· ≠ ('=', false))
  match w.dropWhile (· ≠ ('=', false)) with
  | [] => none
  | _ :: value =>
    if name ≠ [] ∧ name.all (fun p => isNameChar p.1 && !p.2) ∧ (name.head?.all fun p => !p.1.isDigit) then
      some (unquote name, unquote value)
    else none

/-- The words that the grammar reserves where a command starts. -/
def reserved : List String :=
  ["!", "\x7b", "\x7d", "case", "do", "done", "elif", "else", "esac", "fi", "for", "if", "in", "then", "until", "while"]

def isReserved (w : Word) : Bool := w.all (!·.2) && String.ofList (unquote w) ∈ reserved

/-- A simple command from the words of a line: the assignments in front, and then the rest. -/
def command (line : List Word) : Option Command :=
  let assigns := line.takeWhile fun w => (assignment w).isSome
  let words := line.drop assigns.length
  if assigns = [] ∧ words.head?.any isReserved then none else some ⟨assigns.filterMap assignment, words.map unquote⟩

/-- The words of each line. -/
def lines : List Word → List Token → List (List Word)
  | line, [] => [line]
  | line, .word w :: tokens => lines (line ++ [w]) tokens
  | line, .newline :: tokens => line :: lines [] tokens

/-- The commands of a text; a line without words is none. -/
def parse (text : List Char) : Option (List Command) := do
  let tokens ← lex .none none text
  ((lines [] tokens).filter (· ≠ [])).mapM command

/-- The variables of a shell. -/
abbrev Env := List Char → Option (List Char)

/-- The assignments of a command in their order. -/
def Command.assign (c : Command) (env : Env) : Env :=
  c.assigns.foldl (fun env p name => if name = p.1 then some p.2 else env name) env

/-- What commands that execute nothing make of the variables; a command with words does what it wants. -/
def run (commands : List Command) (env : Env) : Option Env :=
  if commands.all (·.words = []) then some (commands.foldl (fun env c => c.assign env) env) else none

/-- Source a text: its commands are read and execute nothing. -/
def source (text : List Char) (env : Env) : Option Env := (parse text).bind fun commands => run commands env

/-! ## Rules -/

/-- The characters of a text, all quoted or all not. -/
def chars (quoted : Bool) (cs : List Char) : Word := cs.map (·, quoted)

@[simp] theorem unquote_chars (quoted : Bool) (cs : List Char) : unquote (chars quoted cs) = cs := by
  simp [unquote, chars, Function.comp_def]

/-- In single quotes every character but the quote is taken as it is. -/
theorem lex_single {c : Char} (hc : c ≠ '\'') (hnul : c ≠ '\x00') (w : Option Word) (cs : List Char) :
    lex .single w (c :: cs) = lex .single (grow w c true) cs := by
  rw [lex, if_neg hnul, if_neg hc]

/-- A quote is written as the end of the quotes, an escaped quote and new quotes. -/
theorem lex_single_quote (w : Word) (cs : List Char) :
    lex .single (some w) ('\'' :: '\\' :: '\'' :: '\'' :: cs) = lex .single (grow (some w) '\'' true) cs := by
  rw [lex, if_neg (by decide), if_pos rfl, lex]
  simp only [Char.reduceEq, if_false, if_true]
  rw [lex, if_neg (by decide), if_neg (by decide), lex, if_neg (by decide), if_pos rfl]
  rfl

theorem ne_of_isNameChar {c d : Char} (hc : isNameChar c = true) (hd : isNameChar d = false) : c ≠ d := by
  rintro rfl
  rw [hc] at hd
  cases hd

theorem not_isSpecial_of_isNameChar {c : Char} (h : isNameChar c = true) : isSpecial c = false := by
  have hnone : ∀ d ∈ "|&;<>()$`*?[~".toList, isNameChar d = false := by decide
  simp only [isSpecial, decide_eq_false_iff_not]
  intro hmem
  rw [hnone c hmem] at h
  cases h

/-- Outside of quotes a character of a name is taken as it is. -/
theorem lex_nameChar {c : Char} (hc : isNameChar c = true) (w : Option Word) (cs : List Char) :
    lex .none w (c :: cs) = lex .none (grow w c false) cs := by
  have hne {d : Char} (hd : isNameChar d = false) : c ≠ d := ne_of_isNameChar hc hd
  have hblank : isBlank c = false := by simp [isBlank, hne (d := ' ') (by decide), hne (d := '\t') (by decide)]
  rw [lex]
  simp [hne (d := '\x00') (by decide), hne (d := '\'') (by decide), hne (d := '"') (by decide), hne (d := '\\') (by decide),
    hne (d := '\n') (by decide), hne (d := '#') (by decide), hblank, not_isSpecial_of_isNameChar hc]

/-- Outside of quotes a name is taken as it is. -/
theorem lex_name {cs : List Char} (h : ∀ c ∈ cs, isNameChar c = true) (w : Word) (rest : List Char) :
    lex .none (some w) (cs ++ rest) = lex .none (some (w ++ chars false cs)) rest := by
  induction cs generalizing w with
  | nil => simp [chars]
  | cons c cs ih =>
    rw [List.cons_append, lex_nameChar (h c List.mem_cons_self), grow, ih fun d hd => h d (List.mem_cons_of_mem _ hd)]
    simp [chars]

theorem lex_equals (w : Option Word) (cs : List Char) : lex .none w ('=' :: cs) = lex .none (grow w '=' false) cs := by
  rw [lex]
  simp [isBlank, isSpecial]

/-- An unquoted name, an equals sign and a value in any quotes assign. -/
theorem assignment_chars {name : List Char} (value : Word) (hne : name ≠ []) (hname : ∀ c ∈ name, isNameChar c = true)
    (hdigit : ∀ c ∈ name.head?, c.isDigit = false) :
    assignment (chars false name ++ ('=', false) :: value) = some (name, unquote value) := by
  have hp : ∀ p ∈ chars false name, decide (p ≠ ('=', false)) = true := by
    intro p hp
    obtain ⟨c, hc, rfl⟩ := List.mem_map.1 hp
    have := ne_of_isNameChar (hname c hc) (d := '=') (by decide)
    simpa using this
  have htake : (chars false name ++ ('=', false) :: value).takeWhile (· ≠ ('=', false)) = chars false name := by
    rw [List.takeWhile_append_of_pos hp]
    simp
  have hdrop : (chars false name ++ ('=', false) :: value).dropWhile (· ≠ ('=', false)) = ('=', false) :: value := by
    rw [List.dropWhile_append_of_pos hp]
    simp
  have hvalid : chars false name ≠ [] ∧ (chars false name).all (fun p => isNameChar p.1 && !p.2) = true ∧
      ((chars false name).head?.all fun p => !p.1.isDigit) = true := by
    refine ⟨by simpa [chars] using hne, ?_, ?_⟩
    · simpa [chars] using hname
    · cases name with
      | nil => rfl
      | cons c name => simpa [chars] using hdigit c rfl
  simp only [assignment, htake, hdrop]
  rw [if_pos hvalid, unquote_chars]

/-- Lines of one assignment each are commands that only assign. -/
theorem parse_of_lex {text : List Char} {vars : List (List Char × Word)}
    (hlex : lex .none none text = some (vars.flatMap fun p => [.word (chars false p.1 ++ ('=', false) :: p.2), .newline]))
    (hname : ∀ p ∈ vars, p.1 ≠ [] ∧ (∀ c ∈ p.1, isNameChar c = true) ∧ ∀ c ∈ p.1.head?, c.isDigit = false) :
    parse text = some (vars.map fun p => ⟨[(p.1, unquote p.2)], []⟩) := by
  have hlines (vars : List (List Char × Word)) :
      lines [] (vars.flatMap fun p => [.word (chars false p.1 ++ ('=', false) :: p.2), .newline]) =
        (vars.map fun p => [chars false p.1 ++ ('=', false) :: p.2]) ++ [[]] := by
    induction vars with
    | nil => rfl
    | cons p vars ih => simp [List.flatMap_cons, lines, ih]
  have hfilter : (lines [] (vars.flatMap fun p => [.word (chars false p.1 ++ ('=', false) :: p.2), .newline])).filter (· ≠ []) =
      vars.map fun p => [chars false p.1 ++ ('=', false) :: p.2] := by
    rw [hlines, List.filter_append]
    simp [List.filter_map, Function.comp_def]
  have hcommand : ∀ p ∈ vars, command [chars false p.1 ++ ('=', false) :: p.2] = some ⟨[(p.1, unquote p.2)], []⟩ := by
    intro p hp
    obtain ⟨hne, hchars, hdigit⟩ := hname p hp
    simp [command, assignment_chars p.2 hne hchars hdigit]
  rw [parse, hlex]
  simp only [Option.bind_eq_bind, Option.bind_some, hfilter]
  clear hlex hlines hfilter hname
  induction vars with
  | nil => rfl
  | cons p vars ih =>
    rw [List.map_cons, List.mapM_cons, hcommand p List.mem_cons_self, ih fun q hq => hcommand q (List.mem_cons_of_mem _ hq)]
    rfl

/-- Commands of one assignment each, to different names, give each name its value and leave the other names. -/
theorem run_assigns {vars : List (List Char × List Char)} (hnodup : (vars.map (·.1)).Nodup) (env : Env) :
    ∃ env', run (vars.map fun p => ⟨[p], []⟩) env = some env' ∧ (∀ p ∈ vars, env' p.1 = some p.2) ∧
      ∀ name, name ∉ vars.map (·.1) → env' name = env name := by
  refine ⟨_, if_pos (by simp), ?_⟩
  induction vars generalizing env with
  | nil => simp
  | cons p vars ih =>
    rw [List.map_cons, List.nodup_cons] at hnodup
    obtain ⟨hmem, hother⟩ := ih hnodup.2 (Command.assign ⟨[p], []⟩ env)
    rw [List.map_cons, List.foldl_cons]
    refine ⟨fun q hq => ?_, fun name hname => ?_⟩
    · rcases List.mem_cons.1 hq with rfl | hq
      · rw [hother q.1 hnodup.1]
        simp [Command.assign]
      · exact hmem q hq
    · rw [List.map_cons, List.mem_cons, not_or] at hname
      rw [hother name hname.2]
      simp [Command.assign, hname.1]

/-! ## Lists of assignments -/

/-- Assignments in their order. -/
def assignAll (ps : List (List Char × List Char)) (env : Env) : Env :=
  ps.foldl (fun env p name => if name = p.1 then some p.2 else env name) env

/-- The value that the last assignment to a name gives it. -/
def lastValue (ps : List (List Char × List Char)) (name : List Char) : Option (List Char) :=
  ps.reverse.findSome? fun p => if p.1 = name then some p.2 else none

theorem lastValue_cons (p : List Char × List Char) (ps : List (List Char × List Char)) (name : List Char) :
    lastValue (p :: ps) name = (lastValue ps name).or (if p.1 = name then some p.2 else none) := by
  simp [lastValue, List.findSome?_append]

theorem assignAll_apply (ps : List (List Char × List Char)) (env : Env) (name : List Char) :
    assignAll ps env name = (lastValue ps name).or (env name) := by
  induction ps generalizing env with
  | nil => rfl
  | cons p ps ih =>
    rw [lastValue_cons, assignAll, List.foldl_cons]
    refine (ih _).trans ?_
    cases hlast : lastValue ps name with
    | some value => rfl
    | none =>
      by_cases hname : p.1 = name
      · simp [hname]
      · simp [hname, Ne.symm hname]

theorem lastValue_eq_none {ps : List (List Char × List Char)} {name : List Char} (h : ∀ p ∈ ps, p.1 ≠ name) : lastValue ps name = none := by
  rw [lastValue, List.findSome?_eq_none_iff]
  exact fun p hp => if_neg (h p (List.mem_reverse.1 hp))

/-- Commands without words make their assignments in their order. -/
theorem run_assignments {commands : List Command} (h : ∀ c ∈ commands, c.words = []) (env : Env) :
    run commands env = some (assignAll (commands.flatMap (·.assigns)) env) := by
  rw [run, if_pos (List.all_eq_true.2 fun c hc => decide_eq_true (h c hc)), assignAll, List.foldl_flatMap]
  rfl

/-! ## What becomes of an expansion without quotes -/

/-- The separators of a shell that has set none. -/
def defaultIfs : List Char := [' ', '\t', '\n']

def isIfsWhite (c : Char) : Bool := c = ' ' || c = '\t' || c = '\n'

/-- The fields between separators that are white space. -/
def whiteFields (ifs cs : List Char) : List (List Char) := (cs.splitOnP fun c => c ∈ ifs && isIfsWhite c).filter (· ≠ [])

/-- Field splitting. A separator that is no white space ends a field, also an empty one. -/
def splitFields (ifs cs : List Char) : List (List Char) :=
  let pieces := cs.splitOnP fun c => c ∈ ifs && !isIfsWhite c
  pieces.dropLast.flatMap (fun piece => if whiteFields ifs piece = [] then [[]] else whiteFields ifs piece) ++
    whiteFields ifs (pieces.getLast?.getD [])

/-- Pathname expansion, given the paths that match a pattern; a pattern that nothing matches stays. -/
def expandPattern (glob : List Char → List (List Char)) (word : List Char) : List (List Char) :=
  if (word.any fun c => c ∈ ['*', '?', '[']) = true ∧ glob word ≠ [] then glob word else [word]

/-- The words of an expansion without quotes. -/
def expandUnquoted (glob : List Char → List (List Char)) (ifs cs : List Char) : List (List Char) :=
  (splitFields ifs cs).flatMap (expandPattern glob)

variable {glob : List Char → List (List Char)}

theorem splitFields_default (cs : List Char) : splitFields defaultIfs cs = whiteFields defaultIfs cs := by
  have hnone : ∀ c ∈ cs, (c ∈ defaultIfs && !isIfsWhite c) = false := by
    intro c _
    by_cases hc : c ∈ defaultIfs
    · have hwhite : ∀ d ∈ defaultIfs, isIfsWhite d = true := by decide
      simp [hwhite c hc]
    · simp [hc]
  simp only [splitFields, List.splitOnP_eq_singleton hnone]
  simp

/-- Two texts with a space between them are split each on its own. -/
theorem expandUnquoted_space (a b : List Char) :
    expandUnquoted glob defaultIfs (a ++ ' ' :: b) = expandUnquoted glob defaultIfs a ++ expandUnquoted glob defaultIfs b := by
  have hsplit : (a ++ ' ' :: b).splitOnP (fun c => c ∈ defaultIfs && isIfsWhite c) =
      a.splitOnP (fun c => c ∈ defaultIfs && isIfsWhite c) ++ b.splitOnP (fun c => c ∈ defaultIfs && isIfsWhite c) :=
    List.splitOnP_append_cons a b (by decide)
  simp only [expandUnquoted, splitFields_default, whiteFields, hsplit, List.filter_append, List.flatMap_append]

/-- Texts that are joined by spaces are split each on its own. -/
theorem expandUnquoted_intercalate {texts : List (List Char)} (h : texts ≠ []) :
    expandUnquoted glob defaultIfs ([' '].intercalate texts) = texts.flatMap (expandUnquoted glob defaultIfs) := by
  induction texts with
  | nil => exact absurd rfl h
  | cons text texts ih =>
    cases texts with
    | nil => simp
    | cons next texts =>
      rw [List.intercalate_cons_cons, List.append_assoc, List.singleton_append, expandUnquoted_space, ih (by simp)]
      rfl

/-- A word without separators and without characters of a pattern stays as it is. -/
theorem expandUnquoted_word {word : List Char} (hne : word ≠ []) (hword : ∀ c ∈ word, c ∉ [' ', '\t', '\n', '*', '?', '[']) :
    expandUnquoted glob defaultIfs word = [word] := by
  have hsep : ∀ c ∈ word, (decide (c ∈ defaultIfs) && isIfsWhite c) = false := by
    intro c hc
    have hmem : c ∉ defaultIfs := fun h => hword c hc (List.mem_append_left ['*', '?', '['] h)
    simp [hmem]
  have hpattern : ¬(word.any fun c => c ∈ ['*', '?', '[']) = true := by
    intro hany
    obtain ⟨c, hc, hmem⟩ := List.any_eq_true.1 hany
    exact hword c hc (List.mem_append_right [' ', '\t', '\n'] (of_decide_eq_true hmem))
  have hfields : whiteFields defaultIfs word = [word] := by
    rw [whiteFields, List.splitOnP_eq_singleton hsep]
    simp [hne]
  rw [expandUnquoted, splitFields_default, hfields, List.flatMap_singleton, expandPattern, if_neg fun h => hpattern h.1]

/-! ## Reading a line into words -/

/-- `read -r -a` of a text: the words of its first line. -/
def readWords (cs : List Char) : List (List Char) := whiteFields defaultIfs (cs.takeWhile (· ≠ '\n'))

/-- `${x#*c}`. -/
def afterFirst (c : Char) (cs : List Char) : List Char := ((Text.splitOnce c cs).map (·.2)).getD cs

/-- `${x%%c*}`. -/
def beforeFirst (c : Char) (cs : List Char) : List Char := ((Text.splitOnce c cs).map (·.1)).getD cs

theorem whiteFields_word {word : List Char} (hne : word ≠ []) (hword : ∀ c ∈ word, c ∉ defaultIfs) : whiteFields defaultIfs word = [word] := by
  rw [whiteFields, List.splitOnP_eq_singleton fun c hc => by simp [hword c hc]]
  simp [hne]

theorem mem_of_mem_intercalate {sep : List Char} {c : Char} {xs : List (List Char)} (h : c ∈ sep.intercalate xs) :
    c ∈ sep ∨ ∃ x ∈ xs, c ∈ x := by
  induction xs with
  | nil => simp at h
  | cons x xs ih =>
    cases xs with
    | nil => exact .inr ⟨x, List.mem_cons_self, by simpa using h⟩
    | cons next xs =>
      rw [List.intercalate_cons_cons, List.mem_append, List.mem_append] at h
      rcases h with (h | h) | h
      · exact .inr ⟨x, List.mem_cons_self, h⟩
      · exact .inl h
      · exact (ih h).imp_right fun ⟨y, hy, hc⟩ => ⟨y, List.mem_cons_of_mem _ hy, hc⟩

/-- Words that are joined by spaces are read back. -/
theorem readWords_intercalate {words : List (List Char)} (h : ∀ word ∈ words, word ≠ [] ∧ ∀ c ∈ word, c ∉ defaultIfs) :
    readWords ([' '].intercalate words) = words := by
  have hline : ∀ c ∈ [' '].intercalate words, c ≠ '\n' := by
    rintro c hc rfl
    rcases mem_of_mem_intercalate hc with hsep | ⟨word, hword, hc⟩
    · revert hsep
      decide
    · exact (h word hword).2 _ hc (by decide)
  rw [readWords, List.takeWhile_eq_self_iff.2 (by simpa using hline)]
  clear hline
  induction words with
  | nil => simp [whiteFields]
  | cons word words ih =>
    obtain ⟨⟨hne, hword⟩, hrest⟩ := List.forall_mem_cons.1 h
    cases words with
    | nil => simpa using whiteFields_word hne hword
    | cons next words =>
      have hsplit : (word ++ ' ' :: [' '].intercalate (next :: words)).splitOnP (fun c => c ∈ defaultIfs && isIfsWhite c) =
          word.splitOnP (fun c => c ∈ defaultIfs && isIfsWhite c) ++
            ([' '].intercalate (next :: words)).splitOnP (fun c => c ∈ defaultIfs && isIfsWhite c) :=
        List.splitOnP_append_cons _ _ (by decide)
      rw [List.intercalate_cons_cons, List.append_assoc, List.singleton_append, whiteFields, hsplit, List.filter_append, ← whiteFields,
        ← whiteFields, whiteFields_word hne hword, ih hrest, List.singleton_append]

end SuderraOs.Shell
