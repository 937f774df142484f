import Mathlib.Data.List.Basic

/-!
# Paths

`pathlib.PurePosixPath`: the root of a path and the names on it. Empty names and `.` are dropped; `..` stays.
-/

namespace SuderraOs

/-- A name that can stand in a directory. -/
structure IsName (name : String) : Prop where
  ne_empty : name ≠ ""
  ne_dot : name ≠ "."
  ne_parent : name ≠ ".."
  no_slash : '/' ∉ name.toList

instance (name : String) : Decidable (IsName name) :=
  decidable_of_iff (name ≠ "" ∧ name ≠ "." ∧ name ≠ ".." ∧ '/' ∉ name.toList)
    ⟨fun ⟨h₁, h₂, h₃, h₄⟩ => ⟨h₁, h₂, h₃, h₄⟩, fun ⟨h₁, h₂, h₃, h₄⟩ => ⟨h₁, h₂, h₃, h₄⟩⟩

structure PosixPath where
  /-- `""` for a relative path, `"/"` for an absolute one, `"//"` where there were exactly two slashes. -/
  root : String
  names : List String
  deriving DecidableEq, Repr

namespace PosixPath

def ofString (s : String) : PosixPath where
  root :=
    match s.toList with
    | '/' :: '/' :: '/' :: _ => "/"
    | '/' :: '/' :: _ => "//"
    | '/' :: _ => "/"
    | _ => ""
  names := ((s.toList.splitOn '/').map String.ofList).filter fun name => name ≠ "" ∧ name ≠ "."

instance : ToString PosixPath where
  toString p := if p.root = "" ∧ p.names = [] then "." else p.root ++ "/".intercalate p.names

/-- `PurePath.name`. -/
def name (p : PosixPath) : String := (p.names.getLast?).getD ""

def isAbsolute (p : PosixPath) : Bool := p.root ≠ ""

/-- `p / q`: an absolute path takes the place of what stands before it. -/
def join (p q : PosixPath) : PosixPath := if q.isAbsolute then q else ⟨p.root, p.names ++ q.names⟩

/-- The path of one name: `p / name`, for a name that is no path. -/
def child (p : PosixPath) (name : String) : PosixPath := ⟨p.root, p.names ++ [name]⟩

/-- `".." in path.parts`. -/
def hasParent (p : PosixPath) : Bool := p.names.contains ".."

/-- The text after the last dot of the name, with the dot, where the dot is neither the first nor the last character
(`PurePath.suffix`). -/
def suffix (p : PosixPath) : String :=
  let name := p.name.toList
  let ext := (name.reverse.takeWhile (· ≠ '.')).reverse
  if ext ≠ [] ∧ ext.length + 1 < name.length then String.ofList ('.' :: ext) else ""

/-! ## The text of a path -/

/-- The pieces of a list that is cut at an element do not have it. -/
theorem not_mem_splitOn {α : Type} [BEq α] [LawfulBEq α] {x : α} {xs piece : List α} (h : piece ∈ xs.splitOn x) : x ∉ piece := by
  induction xs generalizing piece with
  | nil =>
    rw [List.splitOn_nil, List.mem_singleton] at h
    simp [h]
  | cons y ys ih =>
    rw [List.splitOn_cons_eq_if_modifyHead] at h
    split at h
    · rcases List.mem_cons.1 h with rfl | h
      · simp
      · exact ih h
    · next hne =>
      cases hys : ys.splitOn x with
      | nil => exact absurd hys (List.splitOn_ne_nil x ys)
      | cons head pieces =>
        rw [hys, List.modifyHead_cons] at h
        rcases List.mem_cons.1 h with rfl | h
        · simp only [List.mem_cons, not_or]
          exact ⟨fun heq => hne (by simp [heq]), ih (by simp [hys])⟩
        · exact ih (by simp [hys, h])

/-- The names of a path that is read have no slash and are neither empty nor a dot. -/
theorem mem_names_ofString {s name : String} (h : name ∈ (ofString s).names) : name ≠ "" ∧ name ≠ "." ∧ '/' ∉ name.toList := by
  obtain ⟨hmem, hkeep⟩ := List.mem_filter.1 h
  obtain ⟨chars, hchars, rfl⟩ := List.mem_map.1 hmem
  simp only [ne_eq, decide_eq_true_eq] at hkeep
  exact ⟨hkeep.1, hkeep.2, by rw [String.toList_ofList]; exact not_mem_splitOn hchars⟩

theorem toList_toString {names : List String} (hne : names ≠ []) :
    (toString (⟨"", names⟩ : PosixPath)).toList = ['/'].intercalate (names.map String.toList) := by
  change (if "" = "" ∧ names = [] then "." else "" ++ "/".intercalate names).toList = _
  rw [if_neg (by simp [hne]), String.empty_append, String.toList_intercalate]
  rfl

theorem mem_intercalate {α : Type} {sep : List α} {c : α} : ∀ {xs : List (List α)} {x : List α}, x ∈ xs → c ∈ x →
    c ∈ sep.intercalate xs
  | [x], _, hx, hc => by
    rw [List.mem_singleton.1 hx] at hc
    simpa using hc
  | x :: y :: xs, z, hz, hc => by
    rw [List.intercalate_cons_cons, List.mem_append, List.mem_append]
    rcases List.mem_cons.1 hz with rfl | hz
    · exact .inl (.inl hc)
    · exact .inr (mem_intercalate hz hc)

/-- The characters of a name stand in the text of its path. -/
theorem mem_toString {names : List String} {name : String} {c : Char} (hname : name ∈ names) (hc : c ∈ name.toList) :
    c ∈ (toString (⟨"", names⟩ : PosixPath)).toList := by
  rw [toList_toString (List.ne_nil_of_mem hname)]
  exact mem_intercalate (List.mem_map_of_mem hname) hc

/-- A relative path of names is read back from its text. -/
theorem ofString_toString {names : List String} (hne : names ≠ [])
    (h : ∀ name ∈ names, name ≠ "" ∧ name ≠ "." ∧ '/' ∉ name.toList) :
    ofString (toString (⟨"", names⟩ : PosixPath)) = ⟨"", names⟩ := by
  have htext := toList_toString hne
  have hsplit : (['/'].intercalate (names.map String.toList)).splitOn '/' = names.map String.toList := by
    apply List.splitOn_intercalate
    · simpa using fun name hname => (h name hname).2.2
    · simpa using hne
  have hnames : ((names.map String.toList).map String.ofList).filter (fun name => name ≠ "" ∧ name ≠ ".") = names := by
    rw [List.map_map, show String.ofList ∘ String.toList = id from funext fun _ => String.ofList_toList, List.map_id,
      List.filter_eq_self]
    simpa using fun name hname => ⟨(h name hname).1, (h name hname).2.1⟩
  -- the first character of the text is the first one of the first name, and no slash
  obtain ⟨c, cs, hcs, hc⟩ : ∃ c cs, ['/'].intercalate (names.map String.toList) = c :: cs ∧ c ≠ '/' := by
    obtain ⟨name, rest, rfl⟩ := List.exists_cons_of_ne_nil hne
    obtain ⟨hempty, _, hslash⟩ := h name List.mem_cons_self
    obtain ⟨c, cs, hname⟩ := List.exists_cons_of_ne_nil (l := name.toList) (by simpa using hempty)
    have hc : c ≠ '/' := fun heq => hslash (by simp [hname, heq])
    cases rest with
    | nil => exact ⟨c, cs, by simp [hname], hc⟩
    | cons next rest => exact ⟨c, _, by rw [List.map_cons, List.map_cons, List.intercalate_cons_cons, hname]; rfl, hc⟩
  rw [ofString, htext, hsplit, hnames, hcs]
  congr 1
  split <;> simp_all

/-- A text that is one name is the path of that name. -/
theorem ofString_of_name {name : String} (h : name ≠ "" ∧ name ≠ "." ∧ '/' ∉ name.toList) : ofString name = ⟨"", [name]⟩ := by
  have htext : toString (⟨"", [name]⟩ : PosixPath) = name := by
    rw [← String.toList_inj, toList_toString (by simp)]
    simp
  have hnames : ∀ other ∈ [name], other ≠ "" ∧ other ≠ "." ∧ '/' ∉ other.toList := by simpa using h
  have hread := ofString_toString (by simp) hnames
  rwa [htext] at hread

theorem ofString_of_isName {name : String} (h : IsName name) : ofString name = ⟨"", [name]⟩ :=
  ofString_of_name ⟨h.ne_empty, h.ne_dot, h.no_slash⟩

theorem splitOn_append {c : Char} {tail : List Char} (h : c ∉ tail) :
    ∀ cs : List Char, ∃ front last, (cs ++ tail).splitOn c = front ++ [last ++ tail]
  | [] => ⟨[], [], List.splitOnP_eq_singleton fun d hd => beq_false_of_ne fun heq => h (heq ▸ hd)⟩
  | d :: cs => by
    obtain ⟨front, last, hsplit⟩ := splitOn_append h cs
    rw [List.splitOn] at hsplit
    rw [List.cons_append, List.splitOn, List.splitOnP_cons_eq_if_modifyHead, hsplit]
    split_ifs
    · exact ⟨[] :: front, last, rfl⟩
    · cases front with
      | nil => exact ⟨[], d :: last, rfl⟩
      | cons piece front => exact ⟨(d :: piece) :: front, last, rfl⟩

/-- The last name of a path ends as its text does. -/
theorem names_ofString_append {s tail : String} (hslash : '/' ∉ tail.toList) (hlong : 1 < tail.toList.length) :
    ∃ front last, (ofString (s ++ tail)).names = front ++ [String.ofList (last ++ tail.toList)] := by
  obtain ⟨front, last, hsplit⟩ := splitOn_append hslash s.toList
  have hlength : 1 < (String.ofList (last ++ tail.toList)).toList.length := by
    rw [String.toList_ofList, List.length_append]
    omega
  have hkept : decide (String.ofList (last ++ tail.toList) ≠ "" ∧ String.ofList (last ++ tail.toList) ≠ ".") = true := by
    refine decide_eq_true ⟨fun heq => ?_, fun heq => ?_⟩ <;> rw [heq] at hlength <;> exact absurd hlength (by decide)
  refine ⟨(front.map String.ofList).filter fun name => name ≠ "" ∧ name ≠ ".", last, ?_⟩
  rw [ofString, String.toList_append, hsplit, List.map_append, List.filter_append, List.map_singleton, List.filter_singleton, hkept,
    cond_true]

/-- A name after a slash is the last name of a path. -/
theorem ofString_append_name {dir name : String} (hlong : 2 < dir.toList.length) (h : name ≠ "" ∧ name ≠ "." ∧ '/' ∉ name.toList) :
    ofString (dir ++ "/" ++ name) = (ofString dir).child name := by
  have htext : (dir ++ "/" ++ name).toList = dir.toList ++ '/' :: name.toList := by simp
  obtain ⟨a, b, c, rest, hdir⟩ : ∃ a b c rest, dir.toList = a :: b :: c :: rest := by
    match hlist : dir.toList with
    | a :: b :: c :: rest => exact ⟨a, b, c, rest, rfl⟩
    | [] | [_] | [_, _] => simp [hlist] at hlong
  have hnames : (ofString (dir ++ "/" ++ name)).names = (ofString dir).names ++ [name] := by
    have hsplit : (dir.toList ++ '/' :: name.toList).splitOn '/' = dir.toList.splitOn '/' ++ [name.toList] := by
      rw [List.splitOn, List.splitOnP_append_cons _ _ (by simp), ← List.splitOn, ← List.splitOn]
      exact congrArg _ (List.splitOnP_eq_singleton fun c hc => beq_false_of_ne fun heq => h.2.2 (heq ▸ hc))
    rw [ofString, ofString, htext, hsplit, List.map_append, List.filter_append]
    simp [h.1, h.2.1]
  have hroot : (ofString (dir ++ "/" ++ name)).root = (ofString dir).root := by
    rw [ofString, ofString, htext, hdir]
    simp only [List.cons_append]
    by_cases ha : a = '/'
    · by_cases hb : b = '/'
      · by_cases hc : c = '/'
        · simp [ha, hb, hc]
        · simp [ha, hb, hc]
      · simp [ha, hb]
    · simp [ha]
  rw [child, ← hnames, ← hroot]

end PosixPath

end SuderraOs
