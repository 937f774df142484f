import SuderraOs.Build.Matrix

/-!
# Matrices as text

What a matrix file may look like: its lines, in the order of its sections, with comments, blank lines and white space anywhere between
and after them. However it is laid out, `load_matrix` reads back what was written (`loadMatrix_layout`).
-/

namespace SuderraOs.Build

open PyText Value

/-! ## What is written -/

/-- A character that stands for itself wherever it is written. -/
def isPlain (c : Char) : Bool := c ≠ '#' && c ≠ '"' && c ≠ '\'' && c ≠ '\\' && !isLineEnd c

/-- A text that starts and ends with a character that is not white space. -/
structure Trimmed (text : List Char) : Prop where
  ne_nil : text ≠ []
  head : ∀ c ∈ text.head?, isSpace c = false
  last : ∀ c ∈ text.getLast?, isSpace c = false

/-- A word that needs no quotes. -/
structure Plain (text : List Char) : Prop extends Trimmed text where
  plain : ∀ c ∈ text, isPlain c = true

/-- The texts that are read as words. -/
def words : List (List Char) := ["true".toList, "false".toList, "null".toList, ['~']]

/-- A plain text that is read as a text. -/
structure Bare (text : List Char) : Prop extends Plain text where
  not_word : text ∉ words
  not_digits : text.all Char.isDigit = false

/-- The name of a field. -/
structure Key where
  text : List Char
  plain : Plain text
  colon : ':' ∉ text

def Key.name (key : Key) : String := String.ofList key.text

/-- A scalar as it is spelled. -/
inductive Scalar where
  | bool (b : Bool)
  | null
  | int (n : Nat) (h : (Nat.toDigits 10 n).length ≤ 4300)
  | bare (text : List Char) (h : Bare text)
  | quoted (text : List Char) (h : ∀ c ∈ text, c ≠ '"' ∧ c ≠ '\\' ∧ isLineEnd c = false)

def Scalar.text : Scalar → List Char
  | .bool true => "true".toList
  | .bool false => "false".toList
  | .null => "null".toList
  | .int n _ => Nat.toDigits 10 n
  | .bare text _ => text
  | .quoted text _ => '"' :: (text ++ ['"'])

def Scalar.value : Scalar → Value
  | .bool b => .bool b
  | .null => .null
  | .int n _ => .int n
  | .bare text _ => .str (String.ofList text)
  | .quoted text _ => .str (String.ofList text)

inductive FieldValue where
  | scalar (s : Scalar)
  | list (items : List Scalar)

def FieldValue.value : FieldValue → Value
  | .scalar s => s.value
  | .list items => .list (items.map Scalar.value)

/-- An entry of a section; its first field is a scalar. -/
structure Entry where
  first : Key × Scalar
  fields : List (Key × FieldValue)

/-- The fields of an entry; of a field that is repeated the last one stands. -/
def Entry.value (entry : Entry) : Fields :=
  entry.fields.foldl (fun fields field => setField fields (field.1.name, field.2.value)) [(entry.first.1.name, entry.first.2.value)]

structure MatrixFile where
  defconfigs : List Entry
  variants : List Entry
  securityScans : List Scalar

/-- What the file says. -/
def MatrixFile.data (file : MatrixFile) : Data :=
  [("defconfigs", file.defconfigs.map fun entry => .dict entry.value), ("variants", file.variants.map fun entry => .dict entry.value),
    ("security_scans", file.securityScans.map Scalar.value)]

/-! ## How it is written -/

def indented (n : Nat) (text : List Char) : List Char := List.replicate n ' ' ++ text

def item (text : List Char) : List Char := '-' :: ' ' :: text

def keyLine (key : Key) (text : List Char) : List Char := key.text ++ ':' :: text

def FieldValue.lines (key : Key) : FieldValue → List (List Char)
  | .scalar s => [indented 4 (keyLine key (' ' :: s.text))]
  | .list items => indented 4 (keyLine key []) :: items.map fun s => indented 6 (item s.text)

def Entry.lines (entry : Entry) : List (List Char) :=
  indented 2 (item (keyLine entry.first.1 (' ' :: entry.first.2.text))) :: entry.fields.flatMap fun field => field.2.lines field.1

def MatrixFile.lines (file : MatrixFile) : List (List Char) :=
  "defconfigs:".toList :: file.defconfigs.flatMap Entry.lines ++ "variants:".toList :: file.variants.flatMap Entry.lines ++
    "security_scans:".toList :: file.securityScans.map fun s => indented 2 (item s.text)

/-- White space, and a comment. -/
structure Filler where
  spaces : Nat
  comment : Option (List Char)
  inline : ∀ text ∈ comment, ∀ c ∈ text, isLineEnd c = false

def Filler.text (filler : Filler) : List Char :=
  List.replicate filler.spaces ' ' ++ filler.comment.elim [] ('#' :: ·)

/-- What stands before the first line, and what stands on and after each line. -/
structure Layout where
  before : List Filler
  after : Nat → Filler × List Filler

/-- Lines with what stands on and after each of them. -/
def spread : (Nat → Filler × List Filler) → List (List Char) → List (List Char)
  | _, [] => []
  | after, line :: lines => (line ++ (after 0).1.text) :: (after 0).2.map Filler.text ++ spread (fun n => after (n + 1)) lines

/-- The text of a file. -/
def Layout.text (layout : Layout) (file : MatrixFile) : List Char :=
  (layout.before.map Filler.text ++ spread layout.after file.lines).flatMap (· ++ ['\n'])

/-! ## Lines that `strip_comment` leaves -/

/-- The reader of quotes is where it started after a text, and no comment starts in it. -/
def Neutral (text : List Char) : Prop := ∀ rest, cutComment {} (text ++ rest) = text ++ cutComment {} rest

theorem Neutral.append {a b : List Char} (ha : Neutral a) (hb : Neutral b) : Neutral (a ++ b) := by
  intro rest
  rw [List.append_assoc, ha, hb, List.append_assoc]

theorem neutral_of_plain {text : List Char} (h : ∀ c ∈ text, isPlain c = true) : Neutral text := by
  intro rest
  induction text with
  | nil => rfl
  | cons c text ih =>
    obtain ⟨hc, htext⟩ := List.forall_mem_cons.1 h
    simp only [isPlain, ne_eq, decide_not, Bool.and_eq_true, Bool.not_eq_true', decide_eq_false_iff_not] at hc
    obtain ⟨⟨⟨⟨hhash, hdouble⟩, hsingle⟩, hescape⟩, _⟩ := hc
    have hnext : Quotes.next {} c = {} := by simp [Quotes.next, hdouble, hsingle, hescape]
    rw [List.cons_append, cutComment, if_neg fun h => hhash h.1, hnext, ih htext]
    rfl

theorem neutral_spaces (n : Nat) : Neutral (List.replicate n ' ') :=
  neutral_of_plain fun c hc => by rw [List.eq_of_mem_replicate hc]; decide

/-- Between double quotes nothing but an escape and a double quote counts. -/
theorem neutral_quoted {text : List Char} (h : ∀ c ∈ text, c ≠ '"' ∧ c ≠ '\\' ∧ isLineEnd c = false) : Neutral ('"' :: (text ++ ['"'])) := by
  intro rest
  have hinside : cutComment { inDouble := true } (text ++ '"' :: rest) = text ++ '"' :: cutComment {} rest := by
    induction text with
    | nil => rfl
    | cons c text ih =>
      obtain ⟨⟨hdouble, hescape, _⟩, htext⟩ := List.forall_mem_cons.1 h
      have hnext : Quotes.next { inDouble := true } c = { inDouble := true } := by simp [Quotes.next, hdouble, hescape]
      rw [List.cons_append, cutComment, if_neg (by simp [Quotes.open]), hnext, ih htext]
      rfl
  have hopen : Quotes.next {} '"' = { inDouble := true } := by decide
  rw [List.cons_append, List.append_assoc, List.singleton_append, cutComment, if_neg (by simp), hopen, hinside]
  simp

/-- A line as it is written, before anything is put after it. -/
structure Written (line : List Char) : Prop where
  neutral : Neutral line
  inline : ∀ c ∈ line, isLineEnd c = false
  last : ∀ c ∈ line.getLast?, isSpace c = false
  ne_nil : line ≠ []

theorem rstrip_append {a spaces : List Char} (hspaces : ∀ c ∈ spaces, isSpace c = true) (ha : ∀ c ∈ a.getLast?, isSpace c = false) :
    rstrip (a ++ spaces) = a := by
  have hdrop : (a.reverse.dropWhile isSpace) = a.reverse := by
    cases hrev : a.reverse with
    | nil => rfl
    | cons c rest =>
      have hc : isSpace c = false := ha c (by rw [← List.head?_reverse, hrev]; rfl)
      rw [List.dropWhile_cons_of_neg (by simp [hc])]
  rw [rstrip, List.rdropWhile, List.reverse_append, List.dropWhile_append_of_pos (by simpa using hspaces), hdrop, List.reverse_reverse]

theorem isSpace_replicate {n : Nat} : ∀ c ∈ List.replicate n ' ', isSpace c = true :=
  fun c hc => by rw [List.eq_of_mem_replicate hc]; decide

theorem cutComment_filler (filler : Filler) : cutComment {} filler.text = List.replicate filler.spaces ' ' := by
  rw [Filler.text, neutral_spaces]
  cases filler.comment with
  | none => simp [cutComment]
  | some comment => simp [cutComment, Quotes.open]

theorem stripComment_filler (filler : Filler) : stripComment filler.text = [] := by
  rw [stripComment, cutComment_filler]
  exact rstrip_append (a := []) isSpace_replicate (by simp)

theorem Written.stripComment {line : List Char} (h : Written line) (filler : Filler) : stripComment (line ++ filler.text) = line := by
  rw [Build.stripComment, h.neutral, cutComment_filler]
  exact rstrip_append isSpace_replicate h.last

theorem step_filler (r : Reader) (filler : Filler) (n : Nat) : step r (filler.text, n) = .ok r := by
  rw [step, stripComment_filler]
  rfl

theorem Written.strip_ne_nil {line : List Char} (h : Written line) : strip line ≠ [] := by
  obtain ⟨l, r, hline, hl, hr⟩ := Text.trimMatches_spec isSpace line
  intro hnil
  rw [← strip, hnil, List.nil_append] at hline
  have hc := List.getLast?_eq_some_getLast h.ne_nil
  have hspace : ∀ c ∈ line, isSpace c = true := by
    rw [hline]
    exact List.forall_mem_append.2 ⟨hl, hr⟩
  exact absurd (hspace _ (List.mem_of_getLast? hc)) (by simp [h.last _ hc])

/-- What stands after a line is not read. -/
theorem step_line (r : Reader) {line : List Char} (h : Written line) (filler : Filler) (n : Nat) :
    step r (line ++ filler.text, n) = readLine (.unsupported n (line ++ filler.text)) r line := by
  rw [step]
  dsimp only
  rw [h.stripComment, if_neg h.strip_ne_nil]

/-! ## Texts on a line -/

/-- A text that may stand on a line after its indent. -/
structure Token (text : List Char) : Prop extends Trimmed text where
  neutral : Neutral text
  inline : ∀ c ∈ text, isLineEnd c = false

theorem isLineEnd_of_isPlain {c : Char} (h : isPlain c = true) : isLineEnd c = false := by
  simp only [isPlain, Bool.and_eq_true, Bool.not_eq_true'] at h
  exact h.2

theorem Plain.token {text : List Char} (h : Plain text) : Token text where
  toTrimmed := h.toTrimmed
  neutral := neutral_of_plain h.plain
  inline := fun c hc => isLineEnd_of_isPlain (h.plain c hc)

/-- What stands before a token on its line. -/
theorem Token.prepend {pre text : List Char} (ht : Token text) (hne : pre ≠ []) (hplain : ∀ c ∈ pre, isPlain c = true)
    (hhead : ∀ c ∈ pre.head?, isSpace c = false) : Token (pre ++ text) where
  ne_nil := by simp [hne]
  head := by
    rw [List.head?_append_of_ne_nil _ hne]
    exact hhead
  last := by
    rw [List.getLast?_append_of_ne_nil _ ht.ne_nil]
    exact ht.last
  neutral := (neutral_of_plain hplain).append ht.neutral
  inline := List.forall_mem_append.2 ⟨fun c hc => isLineEnd_of_isPlain (hplain c hc), ht.inline⟩

theorem Token.written {text : List Char} (h : Token text) (n : Nat) : Written (indented n text) where
  neutral := (neutral_spaces n).append h.neutral
  inline := List.forall_mem_append.2 ⟨fun c hc => by rw [List.eq_of_mem_replicate hc]; decide, h.inline⟩
  last := by
    rw [indented, List.getLast?_append_of_ne_nil _ h.ne_nil]
    exact h.last
  ne_nil := by simp [indented, h.ne_nil]

theorem token_colon : Token [':'] where
  ne_nil := by simp
  head := by decide
  last := by decide
  neutral := neutral_of_plain (by decide)
  inline := by decide

theorem Trimmed.strip_append {text : List Char} (h : Trimmed text) (n : Nat) : strip (List.replicate n ' ' ++ text) = text := by
  have := Text.trimMatches_append (p := isSpace) (r := []) isSpace_replicate (by simp) h.head h.last h.ne_nil (l := List.replicate n ' ')
  simpa [strip] using this

theorem Trimmed.strip_eq {text : List Char} (h : Trimmed text) : strip text = text := h.strip_append 0

theorem Trimmed.indent {text : List Char} (h : Trimmed text) (n : Nat) : ((indented n text).takeWhile (· = ' ')).length = n := by
  have hhead : text.head?.all (fun c => !(decide (c = ' '))) = true := by
    cases hc : text.head? with
    | none => rfl
    | some c =>
      have hspace : isSpace c = false := h.head c (by rw [hc]; rfl)
      have hne : c ≠ ' ' := by
        rintro rfl
        exact absurd hspace (by decide)
      simp [hne]
  rw [indented, Text.takeWhile_append (fun c hc => by simp [List.eq_of_mem_replicate hc]) hhead, List.length_replicate]

theorem Token.item {text : List Char} (h : Token text) : Token (item text) := by
  have hsplit : Build.item text = ['-', ' '] ++ text := rfl
  rw [hsplit]
  exact h.prepend (by simp) (by decide) (by decide)

theorem Key.isPlain_colon (key : Key) : ∀ c ∈ key.text ++ [':'], isPlain c = true :=
  List.forall_mem_append.2 ⟨key.plain.plain, by decide⟩

theorem Key.token_line (key : Key) {text : List Char} (h : Token text) : Token (keyLine key (' ' :: text)) := by
  have hsplit : keyLine key (' ' :: text) = (key.text ++ [':', ' ']) ++ text := by simp [keyLine]
  rw [hsplit]
  refine h.prepend (by simp) (List.forall_mem_append.2 ⟨key.plain.plain, by decide⟩) ?_
  rw [List.head?_append_of_ne_nil _ key.plain.ne_nil]
  exact key.plain.head

theorem Key.token_header (key : Key) : Token (keyLine key []) := token_colon.prepend key.plain.ne_nil key.plain.plain key.plain.head

theorem isPlain_digit {c : Char} (h : c.isDigit = true) : isPlain c = true := by
  have hbounds := digit_toNat h
  have hne {d : Char} (hd : d.toNat < 48) : c ≠ d := fun hc => by subst hc; omega
  have hend : isLineEnd c = false := by
    simp [isLineEnd]
    omega
  have hescape : c ≠ '\\' := fun hc => by subst hc; exact absurd h (by decide)
  simp [isPlain, hne (d := '#') (by decide), hne (d := '"') (by decide), hne (d := '\'') (by decide), hescape, hend]

theorem plain_toDigits (n : Nat) : Plain (Nat.toDigits 10 n) := by
  have hdigits := Text.isDigit_toDigits n
  exact { ne_nil := Nat.toDigits_ne_nil
          head := fun c hc => isSpace_digit (hdigits c (List.mem_of_mem_head? hc))
          last := fun c hc => isSpace_digit (hdigits c (List.mem_of_getLast? hc))
          plain := fun c hc => isPlain_digit (hdigits c hc) }

theorem Scalar.token (s : Scalar) : Token s.text := by
  have hword {text : List Char} (hne : text ≠ []) (h : ∀ c ∈ text, isPlain c = true ∧ isSpace c = false) : Token text :=
    Plain.token { ne_nil := hne
                  head := fun c hc => (h c (List.mem_of_mem_head? hc)).2
                  last := fun c hc => (h c (List.mem_of_getLast? hc)).2
                  plain := fun c hc => (h c hc).1 }
  cases s with
  | bool b => cases b <;> exact hword (by decide) (by decide)
  | null => exact hword (by decide) (by decide)
  | int n _ => exact (plain_toDigits n).token
  | bare text h => exact h.toPlain.token
  | quoted text h =>
    exact { ne_nil := by simp [Scalar.text]
            head := by simp [Scalar.text]; decide
            last := by
              rw [Scalar.text, ← List.cons_append, List.getLast?_concat]
              decide
            neutral := neutral_quoted h
            inline := by
              simp only [Scalar.text, List.mem_cons, List.mem_append, List.not_mem_nil, or_false]
              rintro c (rfl | hc | rfl)
              · decide
              · exact (h c hc).2.2
              · decide }

theorem isQuoted_of_isPlain {text : List Char} (h : ∀ c ∈ text, isPlain c = true) : isQuoted text = false := by
  cases text with
  | nil => rfl
  | cons c text =>
    have hc := h c (by simp)
    simp only [isPlain, ne_eq, decide_not, Bool.and_eq_true, Bool.not_eq_true', decide_eq_false_iff_not] at hc
    simp [isQuoted, hc.1.1.2, hc.1.1.1.2]

theorem parseScalar_eq {text : List Char} (h : Trimmed text) (hwords : text ∉ words) :
    parseScalar text =
      if isQuoted text then .ok (.str (String.ofList text.tail.dropLast))
      else if text.all Char.isDigit then
        if text.length ≤ 4300 then .ok (.int (Text.digitsValue text)) else .error (.tooManyDigits text)
      else .ok (.str (String.ofList text)) := by
  simp only [words, List.mem_cons, List.not_mem_nil, or_false, not_or] at hwords
  obtain ⟨htrue, hfalse, hnull, htilde⟩ := hwords
  rw [parseScalar, h.strip_eq, if_neg (not_or.2 ⟨htrue, hfalse⟩), if_neg (not_or.2 ⟨hnull, htilde⟩)]
  simp [h.ne_nil]

theorem toDigits_not_mem_words (n : Nat) : Nat.toDigits 10 n ∉ words := by
  intro hmem
  have hnone : ∀ word ∈ words, ¬∀ c ∈ word, c.isDigit = true := by decide
  exact hnone _ hmem (Text.isDigit_toDigits n)

/-- A scalar is read as what it says. -/
theorem Scalar.parse (s : Scalar) : parseScalar s.text = .ok s.value := by
  cases s with
  | bool b => cases b <;> rfl
  | null => rfl
  | int n h =>
    have hplain := plain_toDigits n
    rw [Scalar.text, parseScalar_eq hplain.toTrimmed (toDigits_not_mem_words n), isQuoted_of_isPlain hplain.plain, if_neg (by simp),
      if_pos (List.all_eq_true.2 (Text.isDigit_toDigits n)), if_pos h, Text.digitsValue_toDigits]
    rfl
  | bare text h =>
    rw [Scalar.text, parseScalar_eq h.toTrimmed h.not_word, isQuoted_of_isPlain h.plain, if_neg (by simp), h.not_digits, if_neg (by simp)]
    rfl
  | quoted text h =>
    have hquoted : isQuoted ('"' :: (text ++ ['"'])) = true := by
      rw [isQuoted, ← List.cons_append, List.getLast?_concat]
      simp
    have hword : '"' :: (text ++ ['"']) ∉ words := by simp [words]
    have htrimmed : Trimmed ('"' :: (text ++ ['"'])) := (Scalar.quoted text h).token.toTrimmed
    rw [Scalar.text, parseScalar_eq htrimmed hword, hquoted, if_pos rfl, List.tail_cons, List.dropLast_concat]
    rfl

theorem parseKeyValue_line (key : Key) {text : List Char} (h : Token text) :
    parseKeyValue (keyLine key (' ' :: text)) = .ok (key.name, text) := by
  have hvalue : strip (' ' :: text) = text := h.strip_append 1
  rw [parseKeyValue, keyLine, Text.splitOnce_append key.colon]
  simp only [key.plain.strip_eq, hvalue]
  rfl

theorem parseKeyValue_header (key : Key) : parseKeyValue (keyLine key []) = .ok (key.name, []) := by
  rw [parseKeyValue, keyLine, Text.splitOnce_append key.colon]
  simp only [key.plain.strip_eq]
  rfl

/-! ## Lines that are read -/

/-- The lines bring the reader from one state to the other, whatever stands on and after each of them. -/
structure Reads (r : Reader) (lines : List (List Char)) (r' : Reader) : Prop where
  inline : ∀ line ∈ lines, ∀ c ∈ line, isLineEnd c = false
  run : ∀ after n, ((spread after lines).zipIdx n).foldlM step r = .ok r'

theorem Reads.nil (r : Reader) : Reads r [] r := ⟨by simp, fun _ _ => rfl⟩

theorem foldlM_fillers (r : Reader) (fillers : List Filler) (n : Nat) :
    ((fillers.map Filler.text).zipIdx n).foldlM step r = .ok r := by
  induction fillers generalizing n with
  | nil => rfl
  | cons filler fillers ih =>
    rw [List.map_cons, List.zipIdx_cons, List.foldlM_cons, step_filler, ok_bind, ih]

/-- A line that brings the reader on, then the others. -/
theorem Reads.cons {r r' r'' : Reader} {line : List Char} {lines : List (List Char)} (hline : Written line)
    (hread : ∀ unsupported, readLine unsupported r line = .ok r') (h : Reads r' lines r'') : Reads r (line :: lines) r'' := by
  refine ⟨List.forall_mem_cons.2 ⟨hline.inline, h.inline⟩, fun after n => ?_⟩
  rw [spread, List.cons_append, List.zipIdx_cons, List.foldlM_cons, step_line r hline, hread, ok_bind, List.zipIdx_append,
    List.foldlM_append, foldlM_fillers, ok_bind]
  exact h.run _ _

theorem spread_append (after : Nat → Filler × List Filler) (a b : List (List Char)) :
    spread after (a ++ b) = spread after a ++ spread (fun n => after (n + a.length)) b := by
  induction a generalizing after with
  | nil => rfl
  | cons line a ih =>
    rw [List.cons_append, spread, ih, spread, List.append_assoc]
    simp only [List.length_cons, Nat.add_assoc]

theorem Reads.append {r r' r'' : Reader} {a b : List (List Char)} (ha : Reads r a r') (hb : Reads r' b r'') : Reads r (a ++ b) r'' := by
  refine ⟨List.forall_mem_append.2 ⟨ha.inline, hb.inline⟩, fun after n => ?_⟩
  rw [spread_append, List.zipIdx_append, List.foldlM_append, ha.run after n, ok_bind]
  exact hb.run _ _

/-! ### The lines of a file -/

/-- The reader after the header of a section. -/
def opened (data : Data) (name : String) : Reader where
  data := data.setDefault name
  openSection := some name

/-- The header of a section. -/
theorem readLine_header (unsupported : LoadError) (r : Reader) {name : List Char} (h : Plain name) :
    readLine unsupported r (name ++ [':']) = .ok (opened r.data (String.ofList name)) := by
  have htrimmed : Trimmed (name ++ [':']) := (token_colon.prepend h.ne_nil h.plain h.head).toTrimmed
  have hindent := htrimmed.indent 0
  rw [indented, List.replicate_zero, List.nil_append] at hindent
  rw [readLine]
  dsimp only
  rw [hindent, htrimmed.strip_eq, List.getLast?_concat, if_pos ⟨rfl, rfl⟩, List.dropLast_concat]
  rfl

/-- A line of a section of entries. -/
theorem readLine_entry (unsupported : LoadError) {r : Reader} {name : String} (hname : IsEntrySection name) (hsection : r.openSection = some name)
    {n : Nat} (hn : n ≠ 0) {text : List Char} (h : Token text) :
    readLine unsupported r (indented n text) = readEntryLine unsupported r name n text := by
  rw [readLine]
  dsimp only
  rw [h.indent, show strip (indented n text) = text from h.strip_append n, if_neg (fun hzero => hn hzero.1), hsection]
  rcases hname with rfl | rfl <;> rfl

theorem startsItem_item (text : List Char) : startsItem (item text) = true := by simp [startsItem, item]

/-- The first line of an entry. -/
theorem readEntryLine_first (unsupported : LoadError) (r : Reader) (name : String) (key : Key) (s : Scalar) :
    readEntryLine unsupported r name 2 (item (keyLine key (' ' :: s.text))) = .ok (r.openEntry name [(key.name, s.value)]) := by
  have htoken := key.token_line s.token
  have hdrop : (item (keyLine key (' ' :: s.text))).drop 2 = keyLine key (' ' :: s.text) := rfl
  rw [readEntryLine, if_pos ⟨rfl, startsItem_item _⟩, hdrop, htoken.strip_eq]
  dsimp only
  rw [if_neg htoken.ne_nil, parseKeyValue_line key s.token, ok_bind, s.parse, ok_bind]

/-- A field with a scalar. -/
theorem readEntryLine_scalar (unsupported : LoadError) {r : Reader} (name : String) {entry : Fields} (hcurrent : r.current = some entry)
    (key : Key) (s : Scalar) :
    readEntryLine unsupported r name 4 (keyLine key (' ' :: s.text)) =
      .ok (r.setCurrent name (setField entry (key.name, s.value)) none) := by
  rw [readEntryLine, if_neg (by simp), hcurrent]
  dsimp only
  rw [if_pos rfl, parseKeyValue_line key s.token, ok_bind, if_neg s.token.ne_nil, s.parse, ok_bind]

/-- The first line of a field with a list. -/
theorem readEntryLine_list (unsupported : LoadError) {r : Reader} (name : String) {entry : Fields} (hcurrent : r.current = some entry)
    (key : Key) :
    readEntryLine unsupported r name 4 (keyLine key []) = .ok (r.setCurrent name (setField entry (key.name, .list [])) (some key.name)) := by
  rw [readEntryLine, if_neg (by simp), hcurrent]
  dsimp only
  rw [if_pos rfl, parseKeyValue_header, ok_bind, if_pos rfl]

/-- An item of the pending list. -/
theorem readEntryLine_item (unsupported : LoadError) {r : Reader} (name : String) {entry : Fields} {key : String}
    (hcurrent : r.current = some entry) (hpending : r.pendingKey = some key) (hkey : key ≠ "") (s : Scalar) :
    readEntryLine unsupported r name 6 (item s.text) = .ok (r.setCurrent name (appendItem entry key s.value) (some key)) := by
  have hdrop : (item s.text).drop 2 = s.text := rfl
  rw [readEntryLine, if_neg (by simp), hcurrent]
  dsimp only
  rw [if_neg (by simp), if_pos ⟨rfl, startsItem_item _⟩, hpending, Option.filter_some_pos (by simpa using hkey), hdrop, s.token.strip_eq,
    s.parse]
  rfl

/-! ### Entries -/

theorem Data.modify_modify (data : Data) (name : String) (f g : List Value → List Value) :
    (data.modify name f).modify name g = data.modify name fun items => g (f items) := by
  rw [modify, modify, modify, List.map_map]
  refine List.map_congr_left fun p _ => ?_
  by_cases hname : p.1 = name <;> simp [hname]

/-- The reader in an entry that it appended to a section. -/
def reading (data : Data) (name : String) (entry : Fields) (pendingKey : Option String) : Reader where
  data := data.modify name (· ++ [.dict entry])
  openSection := some name
  current := some entry
  pendingKey

theorem openEntry_eq {r : Reader} {name : String} (h : r.openSection = some name) (entry : Fields) :
    r.openEntry name entry = reading r.data name entry none := by
  rw [Reader.openEntry, h]
  rfl

theorem setCurrent_reading (data : Data) (name : String) (entry entry' : Fields) (p p' : Option String) :
    (reading data name entry p).setCurrent name entry' p' = reading data name entry' p' := by
  simp only [reading, Reader.setCurrent, Data.modify_modify, List.dropLast_concat]

theorem appendItem_setField (entry : Fields) (key : String) (items : List Value) (v : Value) :
    appendItem (setField entry (key, .list items)) key v = setField entry (key, .list (items ++ [v])) := by
  have hskip {fields : Fields} (h : ∀ p ∈ fields, p.1 ≠ key) : appendItem fields key v = fields := by
    rw [appendItem]
    exact (List.map_congr_left fun p hp => if_neg (h p hp)).trans (List.map_id _)
  unfold setField
  by_cases hany : entry.any (·.1 = key) = true
  · rw [if_pos hany, if_pos hany, appendItem, List.map_map]
    refine List.map_congr_left fun p _ => ?_
    by_cases hkey : p.1 = key <;> simp [hkey, asList]
  · have hnone : ∀ p ∈ entry, p.1 ≠ key := fun p hp heq => hany (List.any_eq_true.2 ⟨p, hp, by simp [heq]⟩)
    rw [if_neg hany, if_neg hany, appendItem, List.map_append, ← appendItem, hskip hnone]
    simp [asList]

section Entries

variable {name : String}

theorem reads_items (hname : IsEntrySection name) {data : Data} {entry : Fields} {key : String} (hkey : key ≠ "") (done : List Value)
    (items : List Scalar) :
    Reads (reading data name (setField entry (key, .list done)) (some key)) (items.map fun s => indented 6 (item s.text))
      (reading data name (setField entry (key, .list (done ++ items.map Scalar.value))) (some key)) := by
  induction items generalizing done with
  | nil =>
    rw [List.map_nil, List.map_nil, List.append_nil]
    exact .nil _
  | cons s items ih =>
    have htoken := s.token.item
    have hrest := ih (done ++ [s.value])
    rw [List.append_assoc, List.singleton_append] at hrest
    refine .cons (htoken.written 6) (fun unsupported => ?_) hrest
    rw [readLine_entry unsupported hname rfl (by simp) htoken, readEntryLine_item unsupported name rfl rfl hkey, setCurrent_reading,
      appendItem_setField]

theorem Key.name_ne_empty (key : Key) : key.name ≠ "" := by
  intro h
  exact key.plain.ne_nil (String.ofList_inj.1 h)

theorem reads_field (hname : IsEntrySection name) (data : Data) (entry : Fields) (p : Option String) (field : Key × FieldValue) :
    ∃ p', Reads (reading data name entry p) (field.2.lines field.1) (reading data name (setField entry (field.1.name, field.2.value)) p') := by
  obtain ⟨key, value⟩ := field
  cases value with
  | scalar s =>
    have htoken := key.token_line s.token
    refine ⟨none, .cons (htoken.written 4) (fun unsupported => ?_) (.nil _)⟩
    rw [readLine_entry unsupported hname rfl (by simp) htoken, readEntryLine_scalar unsupported name rfl, setCurrent_reading]
    rfl
  | list items =>
    refine ⟨some key.name, .cons (key.token_header.written 4) (fun unsupported => ?_) (reads_items hname key.name_ne_empty [] items)⟩
    rw [readLine_entry unsupported hname rfl (by simp) key.token_header, readEntryLine_list unsupported name rfl, setCurrent_reading]

theorem reads_fields (hname : IsEntrySection name) (data : Data) (entry : Fields) (p : Option String) (fields : List (Key × FieldValue)) :
    ∃ p', Reads (reading data name entry p) (fields.flatMap fun field => field.2.lines field.1)
      (reading data name (fields.foldl (fun entry field => setField entry (field.1.name, field.2.value)) entry) p') := by
  induction fields generalizing entry p with
  | nil => exact ⟨p, .nil _⟩
  | cons field fields ih =>
    obtain ⟨p', hfield⟩ := reads_field hname data entry p field
    obtain ⟨p'', hfields⟩ := ih (setField entry (field.1.name, field.2.value)) p'
    exact ⟨p'', hfield.append hfields⟩

theorem reads_entry (hname : IsEntrySection name) {r : Reader} (h : r.openSection = some name) (entry : Entry) :
    ∃ p, Reads r entry.lines (reading r.data name entry.value p) := by
  obtain ⟨⟨key, s⟩, fields⟩ := entry
  have htoken := (key.token_line s.token).item
  obtain ⟨p, hfields⟩ := reads_fields hname r.data [(key.name, s.value)] none fields
  refine ⟨p, .cons (htoken.written 2) (fun unsupported => ?_) hfields⟩
  rw [readLine_entry unsupported hname h (by simp) htoken, readEntryLine_first, openEntry_eq h]

theorem reads_entries (hname : IsEntrySection name) (entries : List Entry) {r : Reader} (h : r.openSection = some name) :
    ∃ r', Reads r (entries.flatMap Entry.lines) r' ∧ r'.openSection = some name ∧
      r'.data = r.data.modify name (· ++ entries.map fun entry => .dict entry.value) := by
  induction entries generalizing r with
  | nil =>
    refine ⟨r, .nil _, h, ?_⟩
    simp [Data.modify]
  | cons entry entries ih =>
    obtain ⟨p, hentry⟩ := reads_entry hname h entry
    obtain ⟨r', hentries, hsection, hdata⟩ := ih (r := reading r.data name entry.value p) rfl
    refine ⟨r', hentry.append hentries, hsection, ?_⟩
    rw [hdata, reading, Data.modify_modify]
    simp only [List.append_assoc, List.singleton_append, List.map_cons]

end Entries

/-- The items of the last section. -/
theorem reads_scans (scans : List Scalar) {r : Reader} (h : r.openSection = some "security_scans") :
    ∃ r', Reads r (scans.map fun s => indented 2 (item s.text)) r' ∧
      r'.data = r.data.modify "security_scans" (· ++ scans.map Scalar.value) := by
  induction scans generalizing r with
  | nil => exact ⟨r, .nil _, by simp [Data.modify]⟩
  | cons s scans ih =>
    have htoken := s.token.item
    have hread (unsupported : LoadError) : readLine unsupported r (indented 2 (item s.text)) =
        .ok { r with data := r.data.modify "security_scans" (· ++ [s.value]) } := by
      have hdrop : (item s.text).drop 2 = s.text := rfl
      rw [readLine]
      dsimp only
      rw [htoken.indent, show strip (indented 2 (item s.text)) = item s.text from htoken.strip_append 2, if_neg (by simp), h, if_pos ⟨rfl, startsItem_item _⟩, hdrop, s.token.strip_eq, s.parse]
      rfl
    obtain ⟨r', hscans, hdata⟩ := ih (r := { r with data := r.data.modify "security_scans" (· ++ [s.value]) }) h
    refine ⟨r', .cons (htoken.written 2) hread hscans, ?_⟩
    rw [hdata, Data.modify_modify]
    simp only [List.append_assoc, List.singleton_append, List.map_cons]

/-- The header of a section that has a plain name. -/
theorem written_header {name : List Char} (h : Plain name) : Written (name ++ [':']) :=
  (token_colon.prepend h.ne_nil h.plain h.head).written 0

theorem plain_sections : ∀ name ∈ ["defconfigs", "variants", "security_scans"], Plain name.toList := by
  intro name hname
  simp only [List.mem_cons, List.not_mem_nil, or_false] at hname
  rcases hname with rfl | rfl | rfl <;> exact { ne_nil := by decide, head := by decide, last := by decide, plain := by decide }

/-- A header opens its section. -/
theorem reads_header (r : Reader) (name : String) (hname : name ∈ ["defconfigs", "variants", "security_scans"]) :
    Reads r [name.toList ++ [':']] (opened r.data name) := by
  have hplain := plain_sections name hname
  refine .cons (written_header hplain) (fun unsupported => ?_) (.nil _)
  rw [readLine_header unsupported r hplain, String.ofList_toList]

/-- The lines of a file are read as what it says. -/
theorem reads_file (file : MatrixFile) : ∃ r, Reads {} file.lines r ∧ r.data = file.data := by
  obtain ⟨r₁, hdefconfigs, _, hdata₁⟩ := reads_entries (.inl rfl) file.defconfigs (show (opened .empty "defconfigs").openSection = _ from rfl)
  obtain ⟨r₂, hvariants, _, hdata₂⟩ := reads_entries (.inr rfl) file.variants (show (opened r₁.data "variants").openSection = _ from rfl)
  obtain ⟨r₃, hscans, hdata₃⟩ := reads_scans file.securityScans (show (opened r₂.data "security_scans").openSection = _ from rfl)
  have hheader₁ : Reads {} _ (opened .empty "defconfigs") := reads_header {} "defconfigs" (by simp)
  have hheader₂ : Reads r₁ _ (opened r₁.data "variants") := reads_header r₁ "variants" (by simp)
  have hheader₃ : Reads r₂ _ (opened r₂.data "security_scans") := reads_header r₂ "security_scans" (by simp)
  refine ⟨r₃, ?_, ?_⟩
  · have hall := ((hheader₁.append hdefconfigs).append (hheader₂.append hvariants)).append (hheader₃.append hscans)
    exact hall
  · rw [hdata₃, hdata₂, hdata₁]
    simp [opened, Data.empty, Data.setDefault, Data.modify, MatrixFile.data]

/-- The lines of a text in which every line is ended. -/
theorem splitlines_flatMap {lines : List (List Char)} (h : ∀ line ∈ lines, ∀ c ∈ line, isLineEnd c = false) :
    splitlines (lines.flatMap (· ++ ['\n'])) = lines := by
  have hpieces : (lines.flatMap (· ++ ['\n'])).splitOnP isLineEnd = lines ++ [[]] := by
    induction lines with
    | nil => rfl
    | cons line lines ih =>
      obtain ⟨hline, hlines⟩ := List.forall_mem_cons.1 h
      rw [List.flatMap_cons, List.append_assoc, List.singleton_append, List.splitOnP_append_cons_of_forall_mem (by simpa using hline) _ (by decide),
        ih hlines, List.cons_append]
  rw [splitlines]
  simp only [hpieces, List.getLast?_concat, if_true, List.dropLast_concat]

theorem Filler.isLineEnd (filler : Filler) : ∀ c ∈ filler.text, isLineEnd c = false := by
  refine List.forall_mem_append.2 ⟨fun c hc => by rw [List.eq_of_mem_replicate hc]; decide, ?_⟩
  cases hcomment : filler.comment with
  | none => simp
  | some comment => exact List.forall_mem_cons.2 ⟨by decide, filler.inline comment hcomment⟩

theorem isLineEnd_spread {lines : List (List Char)} (h : ∀ line ∈ lines, ∀ c ∈ line, isLineEnd c = false)
    (after : Nat → Filler × List Filler) : ∀ line ∈ spread after lines, ∀ c ∈ line, isLineEnd c = false := by
  induction lines generalizing after with
  | nil => simp [spread]
  | cons line lines ih =>
    obtain ⟨hline, hlines⟩ := List.forall_mem_cons.1 h
    refine List.forall_mem_append.2 ⟨List.forall_mem_cons.2 ⟨?_, ?_⟩, ih hlines _⟩
    · exact List.forall_mem_append.2 ⟨hline, (after 0).1.isLineEnd⟩
    · exact List.forall_mem_map.2 fun filler _ => filler.isLineEnd

/-- However a file is laid out, what is loaded is what was written: comments, blank lines and white space say nothing. -/
theorem loadMatrix_layout (file : MatrixFile) (layout : Layout) : loadMatrix (layout.text file) = .ok file.data := by
  obtain ⟨r, hreads, hdata⟩ := reads_file file
  have hinline : ∀ line ∈ layout.before.map Filler.text ++ spread layout.after file.lines, ∀ c ∈ line, isLineEnd c = false :=
    List.forall_mem_append.2 ⟨List.forall_mem_map.2 fun filler _ => filler.isLineEnd, isLineEnd_spread hreads.inline _⟩
  have hreturn : '\r' ∉ layout.text file := by
    intro hmem
    obtain ⟨line, hline, hc⟩ := List.mem_flatMap.1 hmem
    rcases List.mem_append.1 hc with hc | hc
    · exact absurd (hinline line hline _ hc) (by decide)
    · exact absurd (List.mem_singleton.1 hc) (by decide)
  rw [loadMatrix, universalNewlines_eq hreturn, Layout.text, splitlines_flatMap hinline, loadLines, List.zipIdx_append, List.foldlM_append,
    foldlM_fillers, ok_bind, hreads.run, ok_bind, hdata]

end SuderraOs.Build
