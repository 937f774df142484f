import Mathlib.Data.List.Dedup
import Mathlib.Data.List.Infix
import Mathlib.Data.List.Induction
import Mathlib.Data.List.Sort
import SuderraOs.Lib.PosixPath

/-!
# File trees

A file system as the calls of POSIX show it. `lstat` looks at what stands at a place, `stat` goes through the links on the way to it
and through the one that stands there. What stands below a directory stands below no link (`lstat_ancestor`), so a place that `lstat`
finds and that is no link is where `stat` arrives too (`resolve_eq`).
-/

namespace SuderraOs

/-- In a table that has each key once, what is looked up is what is there. -/
theorem lookup_eq_some_iff_mem {α β : Type} [BEq α] [LawfulBEq α] {table : List (α × β)} (hnodup : (table.map (·.1)).Nodup)
    {a : α} {b : β} : table.lookup a = some b ↔ (a, b) ∈ table := by
  induction table with
  | nil => simp
  | cons p table ih =>
    obtain ⟨key, value⟩ := p
    rw [List.map_cons, List.nodup_cons] at hnodup
    by_cases hkey : a = key
    · subst hkey
      have hnew : (a, b) ∉ table := fun hmem => hnodup.1 (List.mem_map.2 ⟨_, hmem, rfl⟩)
      simp [hnew, eq_comm]
    · rw [List.lookup_cons, show (a == key) = false by simpa using hkey]
      simpa [hkey] using ih hnodup.2

/-- What stands at a place. -/
inductive Node where
  | file (bytes : List UInt8)
  | dir
  | link (target : PosixPath)
  | special
  deriving DecidableEq, Repr

def Node.isLink : Node → Bool
  | .link _ => true
  | _ => false

/-- A finite tree of directories, files and links, by the names that lead to each of them from the root. -/
structure FileTree where
  entries : List (List String × Node)
  names : ∀ p ∈ entries, p.1 ≠ [] ∧ ∀ name ∈ p.1, IsName name
  nodup : (entries.map (·.1)).Nodup
  parents : ∀ p ∈ entries, p.1.dropLast = [] ∨ (p.1.dropLast, Node.dir) ∈ entries

namespace FileTree

variable (T : FileTree)

/-- What stands at a place, without going through a link. -/
def lstat (place : List String) : Option Node := if place = [] then some .dir else T.entries.lookup place

/-- Go down the names from a place; `next` goes on at a link. -/
def walk (next : List String → List String → Option (List String)) : List String → List String → Option (List String)
  | here, [] => some here
  | here, name :: rest =>
    if name = ".." then if T.lstat here = some .dir then walk next here.dropLast rest else none
    else
      match T.lstat (here ++ [name]) with
      | none => none
      | some (.link target) => next (if target.isAbsolute then [] else here) (target.names ++ rest)
      | some _ => walk next (here ++ [name]) rest

/-- Go down the names from a place through this many links at most. -/
def follow : Nat → List String → List String → Option (List String)
  | 0 => T.walk fun _ _ => none
  | n + 1 => T.walk (follow n)

/-- The real place of a path; a path through more than forty links has none. -/
def resolve (place : List String) : Option (List String) := T.follow 40 [] place

/-- What stands at a place, through links. -/
def stat (place : List String) : Option Node := (T.resolve place).bind T.lstat

/-- The bytes of the regular file at a place, through links. -/
def read (place : List String) : Option (List UInt8) :=
  match T.stat place with
  | some (.file bytes) => some bytes
  | _ => none

/-- `Path.__lt__`, for sorting: the names of two paths are compared from the left. -/
def placeLe (a b : List String) : Bool := decide (¬ b.map String.toList < a.map String.toList)

/-- `sorted(root.rglob("*"))`: all that stands below a directory. -/
def rglob (root : List String) : List (List String × Node) :=
  (T.entries.filter fun p => root.isPrefixOf p.1 && root ≠ p.1).insertionSort fun p q => placeLe p.1 q.1 = true

/-- The names of the files in a directory, in order; links are followed. -/
def filesIn (dir : List String) : List String :=
  match T.resolve dir with
  | none => []
  | some place =>
    (((T.entries.filter fun p => p.1.dropLast = place && (T.read p.1).isSome).insertionSort fun p q =>
      placeLe p.1 q.1 = true).filterMap fun p => p.1.getLast?)

variable {T} {place : List String} {node : Node}

theorem lstat_eq_some (hplace : place ≠ []) : T.lstat place = some node ↔ (place, node) ∈ T.entries := by
  rw [lstat, if_neg hplace, lookup_eq_some_iff_mem T.nodup]

theorem mem_rglob {root : List String} : (place, node) ∈ T.rglob root ↔ (place, node) ∈ T.entries ∧ root <+: place ∧ root ≠ place := by
  rw [rglob, List.mem_insertionSort, List.mem_filter]
  simp

theorem nodup_rglob (T : FileTree) (root : List String) : ((T.rglob root).map (·.1)).Nodup := by
  rw [rglob, ((List.perm_insertionSort _ _).map _).nodup_iff]
  exact T.nodup.sublist (List.filter_sublist.map _)

/-- Where something stands, its directory is one. -/
theorem lstat_dropLast (hplace : place ≠ []) (h : T.lstat place = some node) : T.lstat place.dropLast = some .dir := by
  rcases T.parents _ ((lstat_eq_some hplace).1 h) with hroot | hdir
  · simp [lstat, show place.dropLast = [] from hroot]
  · by_cases hne : place.dropLast = []
    · simp [lstat, hne]
    · exact (lstat_eq_some hne).2 hdir

/-- Where something stands, all that leads to it is directories. -/
theorem lstat_ancestor (here : List String) : ∀ {rest : List String} {node : Node}, rest ≠ [] →
    T.lstat (here ++ rest) = some node → T.lstat here = some .dir := by
  intro rest
  induction rest using List.reverseRecOn with
  | nil => exact fun hne => absurd rfl hne
  | append_singleton rest name ih =>
    intro node _ h
    have hdir := lstat_dropLast (by simp) h
    rw [← List.append_assoc, List.dropLast_concat] at hdir
    by_cases hrest : rest = []
    · rwa [hrest, List.append_nil] at hdir
    · exact ih hrest hdir

theorem isName_of_lstat (hplace : place ≠ []) (h : T.lstat place = some node) : ∀ name ∈ place, IsName name :=
  (T.names _ ((lstat_eq_some hplace).1 h)).2

/-- Going down to a place that is no link arrives there. -/
theorem walk_eq (next : List String → List String → Option (List String)) (hlink : node.isLink = false) :
    ∀ {rest : List String} (here : List String), T.lstat (here ++ rest) = some node → T.walk next here rest = some (here ++ rest)
  | [], here, _ => by simp [walk]
  | name :: rest, here, h => by
    have hname : IsName name := isName_of_lstat (by simp) h name (by simp)
    have hassoc : here ++ name :: rest = here ++ [name] ++ rest := by simp
    rw [hassoc] at h ⊢
    have hnext := walk_eq next hlink (here ++ [name]) h
    rw [walk, if_neg hname.ne_parent]
    by_cases hrest : rest = []
    · subst hrest
      rw [List.append_nil] at h
      rw [h]
      cases node with
      | link _ => simp [Node.isLink] at hlink
      | _ => exact hnext
    · rw [lstat_ancestor _ hrest h]
      exact hnext

/-- Going down starts at any directory on the way. -/
theorem walk_append (next : List String → List String → Option (List String)) {rest : List String} :
    ∀ {below : List String} (here : List String), T.lstat (here ++ below) = some .dir →
      T.walk next here (below ++ rest) = T.walk next (here ++ below) rest
  | [], here, _ => by simp
  | name :: below, here, h => by
    have hname : IsName name := isName_of_lstat (by simp) h name (by simp)
    have hassoc : here ++ name :: below = here ++ [name] ++ below := by simp
    rw [hassoc] at h ⊢
    have hdir : T.lstat (here ++ [name]) = some .dir := by
      by_cases hbelow : below = []
      · simpa [hbelow] using h
      · exact lstat_ancestor _ hbelow h
    rw [List.cons_append, walk, if_neg hname.ne_parent, hdir]
    exact walk_append next (here ++ [name]) h

/-- Nothing is there where a directory does not have the name. -/
theorem stat_eq_none {here : List String} {name : String} (hname : name ≠ "..") (hdir : T.lstat here = some .dir)
    (h : T.lstat (here ++ [name]) = none) : T.stat (here ++ [name]) = none := by
  have hwalk : T.walk (T.follow 39) [] (here ++ [name]) = T.walk (T.follow 39) here [name] :=
    walk_append _ [] (by simpa using hdir)
  rw [stat, resolve, follow, hwalk, walk, if_neg hname, h]
  rfl

/-- A place that is no link is its own real place. -/
theorem resolve_eq (hlink : node.isLink = false) (h : T.lstat place = some node) : T.resolve place = some place := by
  have hwalk := walk_eq (T.follow 39) hlink [] (by simpa using h)
  simpa [resolve, follow] using hwalk

theorem stat_eq (hlink : node.isLink = false) (h : T.lstat place = some node) : T.stat place = some node := by
  rw [stat, resolve_eq hlink h, Option.bind_some, h]

theorem read_eq {bytes : List UInt8} (h : T.lstat place = some (.file bytes)) : T.read place = some bytes := by
  rw [read, stat_eq rfl h]

/-- Going down a path goes down its first names first. -/
theorem follow_append {rest : List String} : ∀ {n : Nat} {names here place : List String}, T.follow n here (names ++ rest) = some place →
    ∃ m middle, T.follow n here names = some middle ∧ T.follow m middle rest = some place := by
  have hstep {n : Nat} {next : List String → List String → Option (List String)} (hfollow : T.follow n = T.walk next)
      (hnext : ∀ {names here place : List String}, next here (names ++ rest) = some place →
        ∃ m middle, next here names = some middle ∧ T.follow m middle rest = some place) :
      ∀ {names here place : List String}, T.walk next here (names ++ rest) = some place →
        ∃ m middle, T.walk next here names = some middle ∧ T.follow m middle rest = some place := by
    intro names
    induction names with
    | nil =>
      intro here place h
      exact ⟨n, here, rfl, by rwa [hfollow]⟩
    | cons name names ih =>
      intro here place h
      rw [List.cons_append, walk] at h
      rw [walk]
      split_ifs at h ⊢
      · exact ih h
      · split at h
        · cases h
        · rw [← List.append_assoc] at h
          exact hnext h
        · exact ih h
  intro n
  induction n with
  | zero =>
    have hfollow : T.follow 0 = T.walk fun _ _ => none := rfl
    rw [hfollow]
    intro _ _ _
    exact hstep hfollow fun h => by cases h
  | succ n ih =>
    have hfollow : T.follow (n + 1) = T.walk (T.follow n) := rfl
    rw [hfollow]
    intro _ _ _
    exact hstep hfollow ih

/-- A path goes on from a directory. -/
theorem lstat_of_follow {n : Nat} {here rest place : List String} (hrest : rest ≠ []) (hparent : ".." ∉ rest)
    (h : T.follow n here rest = some place) : T.lstat here = some .dir := by
  obtain ⟨name, rest, rfl⟩ := List.exists_cons_of_ne_nil hrest
  have hname : name ≠ ".." := fun heq => hparent (heq ▸ List.mem_cons_self)
  have hwalk : ∃ next, T.walk next here (name :: rest) = some place := by
    cases n with
    | zero => exact ⟨_, h⟩
    | succ n => exact ⟨_, h⟩
  obtain ⟨next, hwalk⟩ := hwalk
  rw [walk, if_neg hname] at hwalk
  cases hlstat : T.lstat (here ++ [name]) with
  | none =>
    rw [hlstat] at hwalk
    cases hwalk
  | some node => exact lstat_ancestor here (List.cons_ne_nil _ _) hlstat

/-- Below a directory without links a path leads where it says. -/
theorem follow_eq {n : Nat} {here rest place : List String} (hparent : ".." ∉ rest)
    (hlinks : ∀ below node, below ≠ [] → T.lstat (here ++ below) = some node → node.isLink = false)
    (h : T.follow n here rest = some place) : place = here ++ rest := by
  have hwalk : ∃ next, T.walk next here rest = some place := by
    cases n with
    | zero => exact ⟨_, h⟩
    | succ n => exact ⟨_, h⟩
  obtain ⟨next, hwalk⟩ := hwalk
  clear h
  induction rest generalizing here with
  | nil => simpa [walk, eq_comm] using hwalk
  | cons name rest ih =>
    rw [List.mem_cons, not_or] at hparent
    rw [walk, if_neg (Ne.symm hparent.1)] at hwalk
    have hassoc : here ++ name :: rest = here ++ [name] ++ rest := by simp
    cases hlstat : T.lstat (here ++ [name]) with
    | none =>
      rw [hlstat] at hwalk
      cases hwalk
    | some node =>
      have hlink := hlinks [name] node (by simp) hlstat
      rw [hassoc]
      refine ih hparent.2 (fun below node hne hbelow => hlinks (name :: below) node (by simp) (by simpa using hbelow)) ?_
      rw [hlstat] at hwalk
      cases node with
      | link target => cases hlink
      | _ => exact hwalk

/-- A file that is read below a directory, which is none or holds no links, stands there. -/
theorem lstat_of_read {root rest : List String} {bytes : List UInt8} (hrest : rest ≠ []) (hparent : ".." ∉ rest)
    (hdir : T.stat root ≠ none → T.lstat root = some .dir ∧
      ∀ below node, below ≠ [] → T.lstat (root ++ below) = some node → node.isLink = false)
    (h : T.read (root ++ rest) = some bytes) : T.lstat (root ++ rest) = some (.file bytes) := by
  have hstat : T.stat (root ++ rest) = some (.file bytes) := by
    rw [read] at h
    split at h
    · next hstat => rw [hstat, Option.some.inj h]
    · cases h
  obtain ⟨place, hplace, hlstat⟩ := Option.bind_eq_some_iff.1 hstat
  obtain ⟨m, middle, hmiddle, hfollow⟩ := follow_append hplace
  have hroot : T.stat root = some .dir := by
    rw [stat, resolve, hmiddle, Option.bind_some]
    exact lstat_of_follow hrest hparent hfollow
  obtain ⟨hlstatRoot, hlinks⟩ := hdir (by simp [hroot])
  obtain rfl : root = middle := Option.some.inj ((resolve_eq rfl hlstatRoot).symm.trans hmiddle)
  rwa [← follow_eq hparent hlinks hfollow]

/-! ## The tree of some files -/

/-- The directories that stand above some places. -/
def above (places : List (List String)) : List (List String) :=
  (places.flatMap fun place => place.inits.filter fun dir => dir ≠ [] ∧ dir ≠ place).dedup

theorem mem_above {places : List (List String)} {dir : List String} :
    dir ∈ above places ↔ ∃ place ∈ places, dir <+: place ∧ dir ≠ [] ∧ dir ≠ place := by
  simp [above, List.mem_dedup]

theorem nodup_above (places : List (List String)) : (above places).Nodup := List.nodup_dedup _

/-- Whether files can stand at these places at once. -/
def Compatible (places : List (List String)) : Prop :=
  (∀ place ∈ places, place ≠ [] ∧ ∀ name ∈ place, IsName name) ∧ places.Nodup ∧ ∀ place ∈ places, place ∉ above places

instance (places : List (List String)) : Decidable (Compatible places) := inferInstanceAs (Decidable (_ ∧ _ ∧ _))

/-- The directory of a place is the root or stands above it. -/
theorem dropLast_above {places : List (List String)} {dir place : List String} (hplace : place ∈ places) (hdir : dir <+: place)
    (hne : dir ≠ []) : dir.dropLast = [] ∨ dir.dropLast ∈ above places := by
  by_cases hroot : dir.dropLast = []
  · exact .inl hroot
  · refine .inr (mem_above.2 ⟨place, hplace, (List.dropLast_prefix dir).trans hdir, hroot, fun heq => ?_⟩)
    have hlength := hdir.length_le
    rw [← heq, List.length_dropLast] at hlength
    have := List.length_pos_of_ne_nil hne
    omega

/-- The tree of these files and of the directories above them. -/
def ofFiles (files : List (List String × List UInt8)) (h : Compatible (files.map (·.1))) : FileTree where
  entries := (above (files.map (·.1))).map (fun dir => (dir, .dir)) ++ files.map fun p => (p.1, .file p.2)
  names p hp := by
    rcases List.mem_append.1 hp with hp | hp
    · obtain ⟨dir, hdir, rfl⟩ := List.mem_map.1 hp
      obtain ⟨place, hplace, hprefix, hne, _⟩ := mem_above.1 hdir
      exact ⟨hne, fun name hname => (h.1 place hplace).2 name ( hprefix.subset hname)⟩
    · obtain ⟨file, hfile, rfl⟩ := List.mem_map.1 hp
      exact h.1 _ (List.mem_map_of_mem hfile)
  nodup := by
    simp only [List.map_append, List.map_map]
    refine List.nodup_append.2 ⟨by simpa [Function.comp_def] using nodup_above _, by simpa [Function.comp_def] using h.2.1, ?_⟩
    intro dir hdir place hplace heq
    obtain ⟨_, hdir, rfl⟩ := List.mem_map.1 hdir
    obtain ⟨file, hfile, rfl⟩ := List.mem_map.1 hplace
    exact h.2.2 _ (List.mem_map_of_mem hfile) (by simpa [show file.1 = _ from heq.symm] using hdir)
  parents p hp := by
    rcases List.mem_append.1 hp with hp | hp
    · obtain ⟨dir, hdir, rfl⟩ := List.mem_map.1 hp
      obtain ⟨place, hplace, hprefix, hne, _⟩ := mem_above.1 hdir
      simpa using dropLast_above hplace hprefix hne
    · obtain ⟨file, hfile, rfl⟩ := List.mem_map.1 hp
      simpa using dropLast_above (List.mem_map_of_mem hfile) (List.prefix_refl _) (h.1 _ (List.mem_map_of_mem hfile)).1

variable {files : List (List String × List UInt8)} {h : Compatible (files.map (·.1))}

theorem lstat_ofFiles {bytes : List UInt8} (hfile : (place, bytes) ∈ files) : (ofFiles files h).lstat place = some (.file bytes) :=
  (lstat_eq_some (h.1 _ (List.mem_map_of_mem hfile)).1).2 (List.mem_append_right _ (List.mem_map.2 ⟨_, hfile, rfl⟩))

/-- The regular files of the tree are these files. -/
theorem mem_of_lstat_ofFiles {bytes : List UInt8} (hplace : place ≠ []) (hlstat : (ofFiles files h).lstat place = some (.file bytes)) :
    (place, bytes) ∈ files := by
  rcases List.mem_append.1 ((lstat_eq_some hplace).1 hlstat) with hp | hp
  · obtain ⟨_, _, heq⟩ := List.mem_map.1 hp
    cases heq
  · obtain ⟨file, hfile, heq⟩ := List.mem_map.1 hp
    cases heq
    exact hfile

/-- There are no links in the tree. -/
theorem isLink_of_lstat_ofFiles {node : Node} (hplace : place ≠ []) (hlstat : (ofFiles files h).lstat place = some node) :
    node.isLink = false := by
  rcases List.mem_append.1 ((lstat_eq_some hplace).1 hlstat) with hp | hp
  all_goals
    obtain ⟨_, _, heq⟩ := List.mem_map.1 hp
    rw [← (Prod.mk.inj heq).2]
    rfl

/-- A file that is read below a directory of the tree stands there. -/
theorem lstat_of_read_ofFiles {root rest : List String} {bytes : List UInt8} (hroot : (ofFiles files h).lstat root = some .dir)
    (hrest : rest ≠ []) (hparent : ".." ∉ rest) (hread : (ofFiles files h).read (root ++ rest) = some bytes) :
    (ofFiles files h).lstat (root ++ rest) = some (.file bytes) :=
  lstat_of_read hrest hparent
    (fun _ => ⟨hroot, fun _ _ hbelow hlstat => isLink_of_lstat_ofFiles (by simp [hbelow]) hlstat⟩) hread

end FileTree

end SuderraOs
