import SuderraOs.Lib.FileTree

/-!
# Writing into a file tree

`Path.mkdir` and the opening of a file for writing. A write replaces a file or adds one, and the links on the way are followed; what
else stands in the tree stays (`Replaces`), so every path that led somewhere leads there still (`Replaces.resolve`) and every file but
the written one holds what it held (`Replaces.read`).
-/

namespace SuderraOs.FileTree

variable {T T' : FileTree} {place real : List String} {node : Node} {bytes : List UInt8}

/-- Whether something may be put at a place: its directory is one, and it is none itself. -/
def Free (T : FileTree) (place : List String) : Prop :=
  place ≠ [] ∧ (∀ name ∈ place, IsName name) ∧ T.lstat place.dropLast = some .dir ∧ T.lstat place ≠ some .dir

instance (T : FileTree) (place : List String) : Decidable (T.Free place) := inferInstanceAs (Decidable (_ ∧ _ ∧ _ ∧ _))

theorem dropLast_ne {place : List String} (h : place ≠ []) : place.dropLast ≠ place := fun heq => by
  have hlength := congrArg List.length heq
  have := List.length_pos_of_ne_nil h
  rw [List.length_dropLast] at hlength
  omega

/-- The tree with something else at a place. -/
def put (T : FileTree) (place : List String) (node : Node) (h : T.Free place) : FileTree where
  entries := (place, node) :: T.entries.filter fun p => p.1 ≠ place
  names p hp := by
    rcases List.mem_cons.1 hp with rfl | hp
    · exact ⟨h.1, h.2.1⟩
    · exact T.names p (List.mem_filter.1 hp).1
  nodup := by
    rw [List.map_cons, List.nodup_cons]
    refine ⟨fun hmem => ?_, T.nodup.sublist (List.filter_sublist.map _)⟩
    obtain ⟨p, hp, heq⟩ := List.mem_map.1 hmem
    simpa [heq] using (List.mem_filter.1 hp).2
  parents p hp := by
    have hkept : ∀ {dir}, (dir, Node.dir) ∈ T.entries → dir ≠ [] → (dir, Node.dir) ∈ (place, node) :: T.entries.filter fun p => p.1 ≠ place := by
      intro dir hdir hne
      have hother : dir ≠ place := by
        rintro rfl
        exact h.2.2.2 ((lstat_eq_some hne).2 hdir)
      exact List.mem_cons_of_mem _ (List.mem_filter.2 ⟨hdir, by simpa using hother⟩)
    rw [or_iff_not_imp_left]
    intro hne
    rcases List.mem_cons.1 hp with rfl | hp
    · exact hkept ((lstat_eq_some hne).1 h.2.2.1) hne
    · exact hkept ((T.parents p (List.mem_filter.1 hp).1).resolve_left hne) hne

theorem lstat_put (h : T.Free place) (other : List String) :
    (T.put place node h).lstat other = if other = place then some node else T.lstat other := by
  by_cases hnil : other = []
  · rw [if_neg (by rintro rfl; exact h.1 hnil), lstat, lstat, if_pos hnil, if_pos hnil]
  · rw [lstat, lstat, if_neg hnil, if_neg hnil, put, List.lookup_cons]
    by_cases heq : other = place
    · simp [heq]
    · rw [show (other == place) = false by simpa using heq, if_neg heq]
      refine Option.ext fun found => ?_
      rw [lookup_eq_some_iff_mem (T.nodup.sublist (List.filter_sublist.map _)), lookup_eq_some_iff_mem T.nodup, List.mem_filter]
      simp [heq]

/-! ## Making directories -/

/-- `mkdir` of one place; a place that is a directory already stays. -/
def mkdir (T : FileTree) (place : List String) : Option FileTree :=
  if T.stat place = some .dir then some T
  else
    (T.resolve place.dropLast).bind fun dir => place.getLast?.bind fun name =>
      if h : T.Free (dir ++ [name]) ∧ T.lstat (dir ++ [name]) = none then some (T.put (dir ++ [name]) .dir h.1) else none

/-- `Path.mkdir(parents=True, exist_ok=True)`. -/
def mkdirs (T : FileTree) (place : List String) : Option FileTree := (place.inits.drop 1).foldlM mkdir T

/-! ## Opening a file for writing -/

/-- Go down the names from a place to where a file is opened for writing: nothing needs to stand at the last of them. -/
def walkNew (T : FileTree) (next : List String → List String → Option (List String)) :
    List String → List String → Option (List String)
  | here, [] => some here
  | here, name :: rest =>
    if name = ".." then if T.lstat here = some .dir then walkNew T next here.dropLast rest else none
    else
      match T.lstat (here ++ [name]) with
      | none => if rest = [] then some (here ++ [name]) else none
      | some (.link target) => next (if target.isAbsolute then [] else here) (target.names ++ rest)
      | some _ => walkNew T next (here ++ [name]) rest

def followNew (T : FileTree) : Nat → List String → List String → Option (List String)
  | 0 => T.walkNew fun _ _ => none
  | n + 1 => T.walkNew (T.followNew n)

/-- Where a file that is opened for writing stands or comes to stand. -/
def target (T : FileTree) (place : List String) : Option (List String) := T.followNew 40 [] place

/-- `write_bytes`: the file at a place holds these bytes. What is written to a special file leaves the tree as it is. -/
def write (T : FileTree) (place : List String) (bytes : List UInt8) : Option FileTree :=
  (T.target place).bind fun real =>
    if T.lstat real = some .special then some T
    else if h : T.Free real then some (T.put real (.file bytes) h) else none

/-- Where a file is opened, no link stands. -/
theorem walkNew_ne_link {next : List String → List String → Option (List String)} {dest : PosixPath}
    (hnext : ∀ here rest, T.lstat here ≠ some (.link dest) → next here rest = some real → T.lstat real ≠ some (.link dest)) :
    ∀ (rest here : List String), T.lstat here ≠ some (.link dest) → T.walkNew next here rest = some real →
      T.lstat real ≠ some (.link dest)
  | [], here, hhere, hwalk => by
    obtain rfl := Option.some.inj hwalk
    exact hhere
  | name :: rest, here, hhere, hwalk => by
    rw [walkNew] at hwalk
    by_cases hname : name = ".."
    · rw [if_pos hname] at hwalk
      split_ifs at hwalk with hdir
      refine walkNew_ne_link hnext rest _ (fun hlink => ?_) hwalk
      by_cases hnil : here = []
      · subst hnil
        rw [List.dropLast_nil, hdir] at hlink
        cases hlink
      · rw [lstat_dropLast hnil hdir] at hlink
        cases hlink
    · rw [if_neg hname] at hwalk
      split at hwalk
      · next hnone =>
        split_ifs at hwalk
        obtain rfl := Option.some.inj hwalk
        simp [hnone]
      · refine hnext _ _ ?_ hwalk
        split_ifs
        · simp [lstat]
        · exact hhere
      · next node hother hlstat =>
        refine walkNew_ne_link hnext rest _ (fun hlink => ?_) hwalk
        rw [hlstat] at hlink
        exact hother dest (Option.some.inj hlink)

theorem followNew_ne_link {dest : PosixPath} : ∀ (n : Nat) (here rest : List String), T.lstat here ≠ some (.link dest) →
    T.followNew n here rest = some real → T.lstat real ≠ some (.link dest)
  | 0, here, rest, hhere, hfollow => walkNew_ne_link (by simp) rest here hhere hfollow
  | n + 1, here, rest, hhere, hfollow => walkNew_ne_link (followNew_ne_link n) rest here hhere hfollow

theorem target_ne_link {dest : PosixPath} (hlink : T.lstat real = some (.link dest)) : T.target place ≠ some real := fun htarget =>
  followNew_ne_link 40 [] place (by simp [lstat]) htarget hlink

/-! ## What a write leaves -/

/-- A tree has what another one has, but for a file that holds something else. -/
def Replaces (real : List String) (bytes : List UInt8) (T T' : FileTree) : Prop :=
  ∀ place node, T.lstat place = some node →
    T'.lstat place = some node ∨ (place = real ∧ (∃ old, node = .file old) ∧ T'.lstat place = some (.file bytes))

/-- A tree has what another one has. -/
def Extends (T T' : FileTree) : Prop := ∀ place node, T.lstat place = some node → T'.lstat place = some node

theorem Extends.refl (T : FileTree) : T.Extends T := fun _ _ h => h

theorem Extends.trans {T'' : FileTree} (h : T.Extends T') (h' : T'.Extends T'') : T.Extends T'' :=
  fun place node hlstat => h' place node (h place node hlstat)

theorem Extends.replaces (h : T.Extends T') (real : List String) (bytes : List UInt8) : Replaces real bytes T T' :=
  fun place node hlstat => .inl (h place node hlstat)

theorem Extends.trans_replaces {T'' : FileTree} (h : T.Extends T') (h' : Replaces real bytes T' T'') : Replaces real bytes T T'' :=
  fun place node hlstat => h' place node (h place node hlstat)

theorem Replaces.lstat_dir (h : Replaces real bytes T T') (hdir : T.lstat place = some .dir) : T'.lstat place = some .dir := by
  rcases h place _ hdir with hsame | ⟨_, ⟨_, hfile⟩, _⟩
  · exact hsame
  · cases hfile

theorem Replaces.lstat_link {dest : PosixPath} (h : Replaces real bytes T T') (hlink : T.lstat place = some (.link dest)) :
    T'.lstat place = some (.link dest) := by
  rcases h place _ hlink with hsame | ⟨_, ⟨_, hfile⟩, _⟩
  · exact hsame
  · cases hfile

/-- What is no link is none afterwards. -/
theorem Replaces.lstat_other (h : Replaces real bytes T T') (hlstat : T.lstat place = some node) (hlink : node.isLink = false) :
    ∃ node', T'.lstat place = some node' ∧ node'.isLink = false := by
  rcases h place _ hlstat with hsame | ⟨_, _, hfile⟩
  · exact ⟨node, hsame, hlink⟩
  · exact ⟨_, hfile, rfl⟩

theorem walk_of_not_link {next : List String → List String → Option (List String)} {here rest : List String} {name : String}
    (hname : name ≠ "..") (hlstat : T.lstat (here ++ [name]) = some node) (hlink : node.isLink = false) :
    T.walk next here (name :: rest) = T.walk next (here ++ [name]) rest := by
  rw [walk, if_neg hname, hlstat]
  cases node with
  | link _ => cases hlink
  | _ => rfl

/-- What is gone down in a tree is gone down in the one that replaces it. -/
theorem Replaces.walk (h : Replaces real bytes T T') {next next' : List String → List String → Option (List String)}
    (hnext : ∀ here rest found, next here rest = some found → next' here rest = some found) :
    ∀ (rest here : List String) {found : List String}, T.walk next here rest = some found → T'.walk next' here rest = some found
  | [], here, found, hwalk => hwalk
  | name :: rest, here, found, hwalk => by
    rw [FileTree.walk] at hwalk
    by_cases hname : name = ".."
    · rw [if_pos hname] at hwalk
      split_ifs at hwalk with hdir
      rw [FileTree.walk, if_pos hname, if_pos (h.lstat_dir hdir)]
      exact h.walk hnext rest _ hwalk
    · rw [if_neg hname] at hwalk
      split at hwalk
      · cases hwalk
      · next dest hlink =>
        rw [FileTree.walk, if_neg hname, h.lstat_link hlink]
        exact hnext _ _ _ hwalk
      · next node hother hlstat =>
        have hlink : node.isLink = false := by
          cases node with
          | link dest => exact absurd rfl (hother dest)
          | _ => rfl
        obtain ⟨node', hlstat', hlink'⟩ := h.lstat_other hlstat hlink
        rw [walk_of_not_link hname hlstat' hlink']
        exact h.walk hnext rest _ hwalk

theorem Replaces.follow (h : Replaces real bytes T T') : ∀ (n : Nat) (here rest found : List String),
    T.follow n here rest = some found → T'.follow n here rest = some found
  | 0, here, rest, _, hfollow => h.walk (by simp) rest here hfollow
  | n + 1, here, rest, _, hfollow => h.walk (h.follow n) rest here hfollow

/-- A path that leads somewhere leads there still. -/
theorem Replaces.resolve (h : Replaces real bytes T T') {found : List String} (hfound : T.resolve place = some found) :
    T'.resolve place = some found := h.follow 40 [] place found hfound

/-- What is read at a path: where it leads, and the file that stands there. -/
theorem read_eq_some : T.read place = some bytes ↔ ∃ found, T.resolve place = some found ∧ T.lstat found = some (.file bytes) := by
  rw [read, stat]
  cases hresolve : T.resolve place with
  | none => simp
  | some found =>
    rw [Option.bind_some]
    split
    · next held hheld => simp [hheld]
    · next hother =>
      simp only [reduceCtorEq, Option.some.injEq, exists_eq_left', false_iff]
      exact hother bytes

/-- A file that was read holds what it held, unless it is the replaced one. -/
theorem Replaces.read (h : Replaces real bytes T T') {old : List UInt8} (hread : T.read place = some old) :
    T'.read place = some old ∨ (T.resolve place = some real ∧ T'.read place = some bytes) := by
  obtain ⟨found, hresolve, hlstat⟩ := read_eq_some.1 hread
  rcases h found _ hlstat with hsame | ⟨rfl, _, hwritten⟩
  · exact .inl (read_eq_some.2 ⟨found, h.resolve hresolve, hsame⟩)
  · exact .inr ⟨hresolve, read_eq_some.2 ⟨found, h.resolve hresolve, hwritten⟩⟩

theorem extends_put {hfree : T.Free place} (hnone : T.lstat place = none) : T.Extends (T.put place node hfree) := by
  intro other node' hlstat
  rw [lstat_put, if_neg]
  · exact hlstat
  · rintro rfl
    rw [hnone] at hlstat
    cases hlstat

theorem extends_mkdir (h : T.mkdir place = some T') : T.Extends T' := by
  unfold mkdir at h
  split_ifs at h
  · obtain rfl := Option.some.inj h
    exact .refl T
  · obtain ⟨dir, _, h⟩ := Option.bind_eq_some_iff.1 h
    obtain ⟨name, _, h⟩ := Option.bind_eq_some_iff.1 h
    split_ifs at h with hfree
    obtain rfl := Option.some.inj h
    exact extends_put hfree.2

theorem extends_foldlM_mkdir : ∀ {places : List (List String)} {T T' : FileTree}, places.foldlM mkdir T = some T' → T.Extends T'
  | [], T, T', h => by
    obtain rfl := Option.some.inj h
    exact .refl T
  | place :: places, T, T', h => by
    rw [List.foldlM_cons] at h
    obtain ⟨T₁, hfirst, h⟩ := Option.bind_eq_some_iff.1 h
    exact (extends_mkdir hfirst).trans (extends_foldlM_mkdir h)

theorem extends_mkdirs (h : T.mkdirs place = some T') : T.Extends T' := extends_foldlM_mkdir h

/-- A write changes the file at its target and nothing else. -/
theorem write_spec (h : T.write place bytes = some T') :
    ∃ real, T.target place = some real ∧ Replaces real bytes T T' ∧
      (T'.lstat real = some (.file bytes) ∨ (T.lstat real = some .special ∧ T' = T)) := by
  obtain ⟨real, htarget, h⟩ := Option.bind_eq_some_iff.1 h
  split_ifs at h with hspecial hfree
  · obtain rfl := Option.some.inj h
    exact ⟨real, htarget, (Extends.refl T).replaces real bytes, .inr ⟨hspecial, rfl⟩⟩
  · obtain rfl := Option.some.inj h
    refine ⟨real, htarget, fun other node hlstat => ?_, .inl (by rw [lstat_put, if_pos rfl])⟩
    rw [lstat_put]
    by_cases heq : other = real
    · subst heq
      rw [if_pos rfl]
      refine .inr ⟨rfl, ?_, rfl⟩
      cases node with
      | file old => exact ⟨old, rfl⟩
      | dir => exact absurd hlstat hfree.2.2.2
      | special => exact absurd hlstat hspecial
      | link dest => exact absurd htarget (target_ne_link hlstat)
    · rw [if_neg heq]
      exact .inl hlstat

/-- Where a file is written there is nothing to follow once something stands there that is no link. -/
theorem Replaces.walkNew (h : Replaces real bytes T T') (hwritten : T'.lstat real = some node) (hlink : node.isLink = false)
    {next next' : List String → List String → Option (List String)}
    (hnext : ∀ here rest, next here rest = some real → next' here rest = some real) :
    ∀ (rest here : List String), T.walkNew next here rest = some real → T'.walk next' here rest = some real
  | [], here, hwalk => hwalk
  | name :: rest, here, hwalk => by
    rw [FileTree.walkNew] at hwalk
    by_cases hname : name = ".."
    · rw [if_pos hname] at hwalk
      split_ifs at hwalk with hdir
      rw [FileTree.walk, if_pos hname, if_pos (h.lstat_dir hdir)]
      exact h.walkNew hwritten hlink hnext rest _ hwalk
    · rw [if_neg hname] at hwalk
      split at hwalk
      · split_ifs at hwalk with hrest
        obtain rfl := Option.some.inj hwalk
        rw [walk_of_not_link hname hwritten hlink, hrest, FileTree.walk]
      · next dest hdest =>
        rw [FileTree.walk, if_neg hname, h.lstat_link hdest]
        exact hnext _ _ hwalk
      · next other hother hlstat =>
        have hplain : other.isLink = false := by
          cases other with
          | link dest => exact absurd rfl (hother dest)
          | _ => rfl
        obtain ⟨node', hlstat', hlink'⟩ := h.lstat_other hlstat hplain
        rw [walk_of_not_link hname hlstat' hlink']
        exact h.walkNew hwritten hlink hnext rest _ hwalk

theorem Replaces.followNew (h : Replaces real bytes T T') (hwritten : T'.lstat real = some node) (hlink : node.isLink = false) :
    ∀ (n : Nat) (here rest : List String), T.followNew n here rest = some real → T'.follow n here rest = some real
  | 0, here, rest, hfollow => h.walkNew hwritten hlink (by simp) rest here hfollow
  | n + 1, here, rest, hfollow => h.walkNew hwritten hlink (h.followNew hwritten hlink n) rest here hfollow

/-- A file is opened for writing where it is read. -/
theorem resolve_of_target (h : T.target place = some real) (hlstat : T.lstat real = some node) (hlink : node.isLink = false) :
    T.resolve place = some real := ((Extends.refl T).replaces real []).followNew hlstat hlink 40 [] place h

/-- What was written is read, unless the target is a special file. -/
theorem read_write (h : T.write place bytes = some T') :
    T'.read place = some bytes ∨ ∃ real, T.target place = some real ∧ T.lstat real = some .special := by
  obtain ⟨real, htarget, hreplaces, hwritten | ⟨hspecial, _⟩⟩ := write_spec h
  · exact .inl (read_eq_some.2 ⟨real, hreplaces.followNew hwritten rfl 40 [] place htarget, hwritten⟩)
  · exact .inr ⟨real, htarget, hspecial⟩

/-! ## Writing to a file that is there -/

/-- A directory that is there is made without a change. -/
theorem mkdirs_eq (h : T.lstat place = some .dir) : T.mkdirs place = some T := by
  have hplaces : ∀ places : List (List String), (∀ dir ∈ places, T.lstat dir = some .dir) → places.foldlM mkdir T = some T := by
    intro places
    induction places with
    | nil => exact fun _ => rfl
    | cons dir places ih =>
      intro hdirs
      rw [List.forall_mem_cons] at hdirs
      rw [List.foldlM_cons, mkdir, if_pos (stat_eq rfl hdirs.1)]
      exact ih hdirs.2
  refine hplaces _ fun dir hdir => ?_
  obtain ⟨rest, rfl⟩ := (List.mem_inits _ _).1 (List.mem_of_mem_drop hdir)
  by_cases hrest : rest = []
  · rwa [hrest, List.append_nil] at h
  · exact lstat_ancestor dir hrest h

theorem walkNew_eq (next : List String → List String → Option (List String)) (hlink : node.isLink = false) :
    ∀ {rest : List String} (here : List String), T.lstat (here ++ rest) = some node → T.walkNew next here rest = some (here ++ rest)
  | [], here, _ => by simp [walkNew]
  | name :: rest, here, h => by
    have hname : IsName name := isName_of_lstat (by simp) h name (by simp)
    have hassoc : here ++ name :: rest = here ++ [name] ++ rest := by simp
    rw [hassoc] at h ⊢
    have hnext := walkNew_eq next hlink (here ++ [name]) h
    rw [walkNew, if_neg hname.ne_parent]
    by_cases hrest : rest = []
    · subst hrest
      rw [List.append_nil] at h
      rw [h]
      cases node with
      | link _ => simp [Node.isLink] at hlink
      | _ => exact hnext
    · rw [lstat_ancestor _ hrest h]
      exact hnext

/-- A file that is there is opened where it stands. -/
theorem target_eq (hlink : node.isLink = false) (h : T.lstat place = some node) : T.target place = some place := by
  have hwalk := walkNew_eq (T.followNew 39) hlink [] (by simpa using h)
  simpa [target, followNew] using hwalk

theorem exists_write (bytes : List UInt8) {old : List UInt8} (h : T.lstat place = some (.file old)) : ∃ T', T.write place bytes = some T' := by
  have hne : place ≠ [] := by
    rintro rfl
    simp [lstat] at h
  have hfree : T.Free place := ⟨hne, isName_of_lstat hne h, lstat_dropLast hne h, by simp [h]⟩
  refine ⟨T.put place (.file bytes) hfree, ?_⟩
  rw [write, target_eq rfl h, Option.bind_some, if_neg (by simp [h]), dif_pos hfree]

end SuderraOs.FileTree
