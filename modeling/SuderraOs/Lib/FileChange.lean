import SuderraOs.Lib.FileWrite

/-!
# What a run changes in a file tree

Two trees are the same where nothing was changed (`Same`). Directories that are made and files that are written leave every directory
one (`KeepsDirs`), so a run that made one anywhere did not leave the tree as it was (`Grows`). Saving a file makes the directories that
lead to it first; it changes nothing in exactly the cases of `Settled`.
-/

namespace SuderraOs.FileTree

variable {T T' T'' : FileTree} {place : List String} {node : Node} {bytes : List UInt8}

/-! ## Trees that hold the same -/

/-- The two trees hold the same everywhere. -/
def Same (T T' : FileTree) : Prop := ∀ place, T'.lstat place = T.lstat place

theorem Same.refl (T : FileTree) : T.Same T := fun _ => rfl

theorem Same.walk (h : T.Same T') {next next' : List String → List String → Option (List String)} (hnext : next' = next) :
    ∀ rest here, T'.walk next' here rest = T.walk next here rest
  | [], here => rfl
  | name :: rest, here => by
    rw [FileTree.walk, FileTree.walk, h here, h (here ++ [name]), h.walk hnext rest here.dropLast, h.walk hnext rest (here ++ [name]), hnext]

theorem Same.follow (h : T.Same T') : ∀ n, T'.follow n = T.follow n
  | 0 => funext fun here => funext fun rest => h.walk rfl rest here
  | n + 1 => funext fun here => funext fun rest => h.walk (h.follow n) rest here

theorem Same.stat (h : T.Same T') (place : List String) : T'.stat place = T.stat place := by
  rw [FileTree.stat, FileTree.stat, resolve, resolve, h.follow, show T'.lstat = T.lstat from funext h]

/-! ## A directory that was made is there -/

/-- A path goes on into a directory that it leads to. -/
theorem walk_concat {next : List String → List String → Option (List String)} {name : String} {dir : List String}
    (hname : name ≠ "..") (hlstat : T.lstat (dir ++ [name]) = some node) (hlink : node.isLink = false)
    (hnext : ∀ here names, next here names = some dir → next here (names ++ [name]) = some (dir ++ [name])) :
    ∀ names here, T.walk next here names = some dir → T.walk next here (names ++ [name]) = some (dir ++ [name])
  | [], here, h => by
    obtain rfl : here = dir := Option.some.inj h
    rw [List.nil_append, walk_of_not_link hname hlstat hlink, FileTree.walk]
  | other :: names, here, h => by
    rw [FileTree.walk] at h
    rw [List.cons_append, FileTree.walk]
    split_ifs at h ⊢
    · exact walk_concat hname hlstat hlink hnext names _ h
    · split at h
      · cases h
      · rw [← List.append_assoc]
        exact hnext _ _ h
      · exact walk_concat hname hlstat hlink hnext names _ h

theorem follow_concat {name : String} {dir : List String} (hname : name ≠ "..") (hlstat : T.lstat (dir ++ [name]) = some node)
    (hlink : node.isLink = false) : ∀ n here names, T.follow n here names = some dir →
      T.follow n here (names ++ [name]) = some (dir ++ [name])
  | 0, here, names, h => walk_concat hname hlstat hlink (by simp) names here h
  | n + 1, here, names, h => walk_concat hname hlstat hlink (fun here names => follow_concat hname hlstat hlink n here names) names here h

theorem stat_mkdir (h : T.mkdir place = some T') : T'.stat place = some .dir := by
  have hextends := extends_mkdir h
  unfold mkdir at h
  split_ifs at h with hdir
  · obtain rfl := Option.some.inj h
    exact hdir
  · obtain ⟨dir, hresolve, h⟩ := Option.bind_eq_some_iff.1 h
    obtain ⟨name, hlast, h⟩ := Option.bind_eq_some_iff.1 h
    split_ifs at h with hfree
    obtain rfl := Option.some.inj h
    have hmade : (T.put (dir ++ [name]) .dir hfree.1).lstat (dir ++ [name]) = some .dir := by rw [lstat_put, if_pos rfl]
    have hname : IsName name := hfree.1.2.1 name (by simp)
    have hparent := (hextends.replaces [] []).resolve hresolve
    have hplace : place = place.dropLast ++ [name] := (List.dropLast_append_getLast? name hlast).symm
    rw [hplace, FileTree.stat, resolve, follow_concat hname.ne_parent hmade rfl 40 [] place.dropLast hparent, Option.bind_some, hmade]

/-! ## Trees that grow -/

/-- Every directory is one still. -/
def KeepsDirs (T T' : FileTree) : Prop := ∀ place, T.stat place = some .dir → T'.stat place = some .dir

/-- A directory was made. -/
def Grows (T T' : FileTree) : Prop := ∃ place, T.stat place ≠ some .dir ∧ T'.stat place = some .dir

theorem KeepsDirs.refl (T : FileTree) : T.KeepsDirs T := fun _ h => h

theorem KeepsDirs.trans (h : T.KeepsDirs T') (h' : T'.KeepsDirs T'') : T.KeepsDirs T'' := fun place hdir => h' place (h place hdir)

theorem Replaces.keepsDirs {real : List String} {bytes : List UInt8} (h : Replaces real bytes T T') : T.KeepsDirs T' := by
  intro place hdir
  obtain ⟨found, hfound, hlstat⟩ := Option.bind_eq_some_iff.1 hdir
  rw [stat, h.resolve hfound, Option.bind_some, h.lstat_dir hlstat]

theorem Extends.keepsDirs (h : T.Extends T') : T.KeepsDirs T' := (h.replaces [] []).keepsDirs

theorem keepsDirs_write (h : T.write place bytes = some T') : T.KeepsDirs T' := by
  obtain ⟨real, _, hreplaces, _⟩ := write_spec h
  exact hreplaces.keepsDirs

theorem Grows.not_same (h : T.Grows T') : ¬ T.Same T' := by
  obtain ⟨place, hnone, hdir⟩ := h
  exact fun hsame => hnone (hsame.stat place ▸ hdir)

/-- What was made stays. -/
theorem Grows.trans_keepsDirs (h : T.Grows T') (h' : T'.KeepsDirs T'') : T.Grows T'' := by
  obtain ⟨place, hnone, hdir⟩ := h
  exact ⟨place, hnone, h' place hdir⟩

/-- What is made later was not there before. -/
theorem KeepsDirs.trans_grows (h : T.KeepsDirs T') (h' : T'.Grows T'') : T.Grows T'' := by
  obtain ⟨place, hnone, hdir⟩ := h'
  exact ⟨place, fun hthere => hnone (h place hthere), hdir⟩

/-! ## Making directories until one cannot be made -/

/-- The directories that lead to a place, and the place itself. -/
def dirsTo (place : List String) : List (List String) := place.inits.drop 1

theorem mem_dirsTo_self (hplace : place ≠ []) : place ∈ dirsTo place := by
  obtain ⟨name, names, rfl⟩ := List.exists_cons_of_ne_nil hplace
  simp [dirsTo]

/-- Make directories one after another, up to the first that cannot be made. -/
def makeDirs : List (List String) → FileTree → Bool × FileTree
  | [], T => (true, T)
  | place :: places, T =>
    match T.mkdir place with
    | some made => makeDirs places made
    | none => (false, T)

/-- The first of the places that is no directory cannot be made one. -/
def Blocked (T : FileTree) (places : List (List String)) : Prop :=
  ∃ place, places.find? (fun place => T.stat place ≠ some .dir) = some place ∧ T.mkdir place = none

instance (T : FileTree) (places : List (List String)) : Decidable (T.Blocked places) :=
  decidable_of_iff ((places.find? fun place => T.stat place ≠ some .dir).any fun place => (T.mkdir place).isNone) (by
    simp [Blocked, Option.any_eq_true])

theorem keepsDirs_makeDirs : ∀ (places : List (List String)) (T : FileTree), T.KeepsDirs (makeDirs places T).2
  | [], T => .refl T
  | place :: places, T => by
    rw [makeDirs]
    split
    · next made hmade => exact (extends_mkdir hmade).keepsDirs.trans (keepsDirs_makeDirs places made)
    · exact .refl T

/-- A run that makes directories finds them all, is stopped before it made one, or has made one. -/
theorem makeDirs_cases : ∀ (places : List (List String)) (T : FileTree),
    (∀ place ∈ places, T.stat place = some .dir) ∧ makeDirs places T = (true, T) ∨
      T.Blocked places ∧ makeDirs places T = (false, T) ∨
        ¬ (∀ place ∈ places, T.stat place = some .dir) ∧ ¬ T.Blocked places ∧ T.Grows (makeDirs places T).2
  | [], T => .inl ⟨by simp, rfl⟩
  | place :: places, T => by
    by_cases hdir : T.stat place = some .dir
    · have hblocked : T.Blocked (place :: places) ↔ T.Blocked places := by simp [Blocked, hdir]
      have hrun : makeDirs (place :: places) T = makeDirs places T := by rw [makeDirs, mkdir, if_pos hdir]
      rw [hblocked, hrun, List.forall_mem_cons, and_iff_right hdir]
      exact makeDirs_cases places T
    · have hblocked : T.Blocked (place :: places) ↔ T.mkdir place = none := by simp [Blocked, hdir]
      rw [hblocked, makeDirs]
      cases hmade : T.mkdir place with
      | none => exact .inr (.inl ⟨rfl, rfl⟩)
      | some made =>
        have hgrows : T.Grows made := ⟨place, hdir, stat_mkdir hmade⟩
        refine .inr (.inr ⟨fun hall => hdir (hall place List.mem_cons_self), by simp, ?_⟩)
        exact hgrows.trans_keepsDirs (keepsDirs_makeDirs places made)

/-! ## Saving a file -/

/-- `path.parent.mkdir(parents=True, exist_ok=True)` and `path.write_bytes(…)`, and whether neither raised. -/
def save (T : FileTree) (place : List String) (bytes : List UInt8) : Bool × FileTree :=
  let made := makeDirs (dirsTo place.dropLast) T
  if made.1 then ((made.2.write place bytes).isSome, (made.2.write place bytes).getD made.2) else made

/-- What was saved is read back; a special file takes it in, and nothing can be read there as from a file. -/
theorem read_save (h : (T.save place bytes).1 = true) :
    (T.save place bytes).2.read place = some bytes ∨ (T.save place bytes).2.read place = none := by
  rw [save] at h ⊢
  split_ifs at h ⊢ with hmade
  · obtain ⟨written, hwrite⟩ := Option.isSome_iff_exists.1 h
    rw [hwrite, Option.getD_some]
    obtain ⟨real, htarget, hreplaces, hwritten | ⟨hspecial, heq⟩⟩ := write_spec hwrite
    · exact .inl (read_eq_some.2 ⟨real, hreplaces.followNew hwritten rfl 40 [] place htarget, hwritten⟩)
    · have hstat : written.stat place = some .special := by
        rw [heq, stat, resolve_of_target htarget hspecial rfl, Option.bind_some, hspecial]
      exact .inr (by rw [read, hstat])
  · exact absurd h hmade

/-- Saving changes nothing: no directory can be made for the file, or all are there and nothing can be written or what is written stands
there already. -/
def Settled (T : FileTree) (place : List String) (bytes : List UInt8) : Prop :=
  T.Blocked (dirsTo place.dropLast) ∨
    (∀ dir ∈ dirsTo place.dropLast, T.stat dir = some .dir) ∧
      ∀ real ∈ T.target place, T.lstat real = some .special ∨ ¬ T.Free real ∨ T.lstat real = some (.file bytes)

/-- The directories that were made stay when the file is written. -/
theorem makeDirs_keepsDirs_save (T : FileTree) (place : List String) (bytes : List UInt8) :
    (makeDirs (dirsTo place.dropLast) T).2.KeepsDirs (T.save place bytes).2 := by
  rw [save]
  split_ifs
  · cases hwrite : (makeDirs (dirsTo place.dropLast) T).2.write place bytes with
    | none => exact .refl _
    | some written => exact keepsDirs_write hwrite
  · exact .refl _

theorem keepsDirs_save (T : FileTree) (place : List String) (bytes : List UInt8) : T.KeepsDirs (T.save place bytes).2 :=
  (keepsDirs_makeDirs _ T).trans (makeDirs_keepsDirs_save T place bytes)

theorem same_write_iff : T.Same ((T.write place bytes).getD T) ↔
    ∀ real ∈ T.target place, T.lstat real = some .special ∨ ¬ T.Free real ∨ T.lstat real = some (.file bytes) := by
  rw [write]
  cases htarget : T.target place with
  | none => simp [Same.refl]
  | some real =>
    simp only [Option.bind_some, Option.mem_some_iff, forall_eq']
    by_cases hspecial : T.lstat real = some .special
    · simp [hspecial, Same.refl]
    · by_cases hfree : T.Free real
      · rw [if_neg hspecial, dif_pos hfree, Option.getD_some]
        simp only [hspecial, hfree, not_true_eq_false, false_or]
        refine ⟨fun hsame => ?_, fun hheld other => ?_⟩
        · rw [← hsame real, lstat_put, if_pos rfl]
        · rw [lstat_put]
          split_ifs with heq
          · rw [heq, hheld]
          · rfl
      · simp [hspecial, hfree, Same.refl]

theorem same_save_iff : T.Same (T.save place bytes).2 ↔ T.Settled place bytes := by
  rw [Settled]
  rcases makeDirs_cases (dirsTo place.dropLast) T with ⟨hall, hrun⟩ | ⟨hblocked, hrun⟩ | ⟨hmissing, hblocked, hgrows⟩
  · have hblocked : ¬ T.Blocked (dirsTo place.dropLast) := by
      rintro ⟨dir, hfind, _⟩
      simpa [hall dir (List.mem_of_find?_eq_some hfind)] using List.find?_some hfind
    simp only [save, hrun, if_true, hblocked, false_or, and_iff_right hall]
    exact same_write_iff
  · simp [save, hrun, hblocked, Same.refl]
  · have hsave : T.Grows (T.save place bytes).2 := hgrows.trans_keepsDirs (makeDirs_keepsDirs_save T place bytes)
    exact iff_of_false hsave.not_same fun hsettled => hsettled.elim hblocked fun hall => hmissing hall.1

end SuderraOs.FileTree
