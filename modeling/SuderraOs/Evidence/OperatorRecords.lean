import SuderraOs.Evidence.OperatorIngress

/-!
# The records of an operator manifest

What the scan of `operator-evidence-ingress.py` finds (`mem_scannedRecords`) and when the records of a manifest have no failures
(`recordsFailures_eq_nil`).
-/

namespace SuderraOs.Evidence.OperatorIngress

open Value

section Records

variable {L : Libraries} {C : Contract} {T : FileTree} {A : Args} {now : Int}

/-- The normalized path of a record. -/
def recordRel (item : Value) : Option PosixPath := item.asDict.bind fun item => safeRelativePath (field "path" item)

theorem recordPath_eq (item : Value) : recordPath item = (recordRel item).map toString := by
  cases item <;> rfl

/-- A regular file below one of the operator's roots, by the names from the input root. -/
structure IsOperatorFile (C : Contract) (T : FileTree) (inputRoot names : List String) (bytes : Bytes) : Prop where
  below : ∃ root rest, names = root :: rest ∧ rest ≠ [] ∧ root ∈ C.operatorIngressAllowedRoots
  lstat : T.lstat (inputRoot ++ names) = some (.file bytes)

/-- A safe path is relative, and its names could stand in a directory. -/
theorem safeRelativePath_eq_some {v : Value} {rel : PosixPath} (h : safeRelativePath v = some rel) :
    rel.root = "" ∧ ∀ name ∈ rel.names, IsName name := by
  cases v with
  | str s =>
    simp only [safeRelativePath] at h
    split at h
    · cases h
    · next hsafe =>
      obtain rfl := Option.some.inj h
      simp only [Bool.or_eq_true, not_or, Bool.not_eq_true, PosixPath.isAbsolute, decide_eq_false_iff_not, ne_eq, not_not,
        PosixPath.hasParent, List.contains_eq_mem] at hsafe
      refine ⟨hsafe.1.2, fun name hname => ?_⟩
      obtain ⟨hempty, hdot, hslash⟩ := PosixPath.mem_names_ofString hname
      exact ⟨hempty, hdot, fun hparent => hsafe.2 (hparent ▸ hname), hslash⟩
  | _ => cases h

/-- Two relative paths with the same text are the same. -/
theorem eq_of_toString_eq {names names' : List String} (hne : names ≠ []) (hne' : names' ≠ []) (h : ∀ name ∈ names, IsName name)
    (h' : ∀ name ∈ names', IsName name) (heq : toString (⟨"", names⟩ : PosixPath) = toString (⟨"", names'⟩ : PosixPath)) :
    names = names' := by
  have hread := PosixPath.ofString_toString hne fun name hname => ⟨(h name hname).ne_empty, (h name hname).ne_dot, (h name hname).no_slash⟩
  rw [heq, PosixPath.ofString_toString hne' fun name hname =>
    ⟨(h' name hname).ne_empty, (h' name hname).ne_dot, (h' name hname).no_slash⟩] at hread
  exact (PosixPath.mk.inj hread).2.symm

/-! ## The scan -/

/-- A path that is allowed is scoped to its version. -/
theorem allowed_of_validate {rel : PosixPath} {version : String} (h : validateAllowedVersionPath C rel version = []) :
    ∃ root rest, rel.names = root :: version :: rest ∧ root ∈ C.operatorIngressAllowedRoots := by
  unfold validateAllowedVersionPath at h
  split at h
  · cases h
  · next root rest hnames =>
    split at h
    · cases h
    · next hroot =>
      rw [failUnless_eq_nil, decide_eq_true_iff] at h
      obtain ⟨rest, rfl⟩ : ∃ rest', rest = version :: rest' := by
        cases rest with
        | nil => cases h
        | cons name rest => exact ⟨rest, by simpa using h⟩
      exact ⟨root, rest, hnames, by simpa using hroot⟩

/-- The record of a file, by the names from the input root. -/
def fileRecord (L : Libraries) (names : List String) (bytes : Bytes) : FileRecord :=
  ⟨roleForPath ⟨"", names⟩, toString (⟨"", names⟩ : PosixPath), bytes.length, L.hexdigest bytes⟩

theorem IsOperatorFile.names_ne_nil {inputRoot names : List String} {bytes : Bytes} (h : IsOperatorFile C T inputRoot names bytes) :
    names ≠ [] := by
  obtain ⟨_, _, rfl, _⟩ := h.below
  simp

theorem IsOperatorFile.isName {inputRoot names : List String} {bytes : Bytes} (h : IsOperatorFile C T inputRoot names bytes) :
    ∀ name ∈ names, IsName name := fun name hname =>
  FileTree.isName_of_lstat (by simp [h.names_ne_nil]) h.lstat name (List.mem_append_right _ hname)

/-- What stands at the path of a file of the operator is that file. -/
theorem IsOperatorFile.read {inputRoot names : List String} {bytes : Bytes} (h : IsOperatorFile C T inputRoot names bytes) :
    treeFiles T (placeOf inputRoot ⟨"", names⟩) = some bytes := FileTree.read_eq h.lstat

/-- The scan of a root without failures finds the files below it, and each of them has bytes and is allowed. -/
theorem scanRoot_spec {inputRoot : List String} {version dirname : String} (h : (scanRoot L C T inputRoot version dirname).2 = [])
    (rest : List String) (hrest : rest ≠ []) (bytes : Bytes) (hfile : T.lstat (inputRoot ++ dirname :: rest) = some (.file bytes)) :
    bytes ≠ [] ∧ validateAllowedVersionPath C ⟨"", dirname :: rest⟩ version = [] ∧
      fileRecord L (dirname :: rest) bytes ∈ (scanRoot L C T inputRoot version dirname).1 := by
  have hdir : T.lstat (inputRoot ++ [dirname]) = some .dir := T.lstat_ancestor _ hrest (by simpa using hfile)
  have hstat := FileTree.stat_eq rfl hdir
  have hmem : (inputRoot ++ dirname :: rest, Node.file bytes) ∈ T.rglob (inputRoot ++ [dirname]) :=
    FileTree.mem_rglob.2 ⟨(FileTree.lstat_eq_some (by simp)).1 hfile, ⟨rest, by simp⟩, by simpa using hrest⟩
  have hrel : relativeTo inputRoot (inputRoot ++ dirname :: rest) = ⟨"", dirname :: rest⟩ := by simp [relativeTo]
  simp only [scanRoot, hstat, Option.isNone_some, Bool.false_eq_true, if_false, hdir, ne_eq, not_true_eq_false] at h ⊢
  have hfailures := List.flatMap_eq_nil_iff.1 h _ hmem
  simp only [hrel, scanFailures, List.append_eq_nil_iff, failUnless_eq_nil, Bool.not_eq_true', List.isEmpty_eq_false_iff] at hfailures
  refine ⟨hfailures.2, hfailures.1, List.mem_filterMap.2 ⟨_, hmem, ?_⟩⟩
  simp only [hrel, recordOf, if_neg hfailures.2]
  rfl

/-- A record of the scan of a root is the one of a file below it. -/
theorem file_of_mem_scanRoot {inputRoot : List String} {version dirname : String} {record : FileRecord}
    (h : record ∈ (scanRoot L C T inputRoot version dirname).1) :
    ∃ rest bytes, rest ≠ [] ∧ T.lstat (inputRoot ++ dirname :: rest) = some (.file bytes) ∧
      record = fileRecord L (dirname :: rest) bytes := by
  unfold scanRoot at h
  simp only at h
  split_ifs at h
  · cases h
  · cases h
  · obtain ⟨⟨place, node⟩, hmem, hrecord⟩ := List.mem_filterMap.1 h
    obtain ⟨hentry, ⟨rest, rfl⟩, hne⟩ := FileTree.mem_rglob.1 hmem
    have hrel : relativeTo inputRoot (inputRoot ++ [dirname] ++ rest) = ⟨"", dirname :: rest⟩ := by simp [relativeTo]
    simp only [hrel] at hrecord
    cases node with
    | file bytes =>
      simp only [recordOf] at hrecord
      split_ifs at hrecord
      exact ⟨rest, bytes, by simpa using hne, (FileTree.lstat_eq_some (by simp)).2 (by simpa using hentry),
        (Option.some.inj hrecord).symm⟩
    | _ => cases hrecord

/-- A file of the operator has bytes and stands where it may, if the scan has no failures. -/
theorem IsOperatorFile.scanned {inputRoot names : List String} {version : String} {bytes : Bytes}
    (hfile : IsOperatorFile C T inputRoot names bytes) (h : scanEvidenceFailures L C T inputRoot version = []) :
    bytes ≠ [] ∧ validateAllowedVersionPath C ⟨"", names⟩ version = [] := by
  obtain ⟨⟨root, rest, rfl, hrest, hmem⟩, hlstat⟩ := hfile
  obtain ⟨hne, hallowed, _⟩ := scanRoot_spec (List.flatMap_eq_nil_iff.1 h root hmem) rest hrest bytes hlstat
  exact ⟨hne, hallowed⟩

/-- The scanned records are those of the files below the roots, if the scan has no failures. -/
theorem mem_scannedRecords {inputRoot : List String} {version : String} (h : scanEvidenceFailures L C T inputRoot version = [])
    {record : FileRecord} : record ∈ scannedRecords L C T inputRoot version ↔
      ∃ names bytes, IsOperatorFile C T inputRoot names bytes ∧ record = fileRecord L names bytes := by
  rw [scannedRecords, List.mem_insertionSort, List.mem_flatMap]
  constructor
  · rintro ⟨dirname, hdirname, hrecord⟩
    obtain ⟨rest, bytes, hrest, hlstat, rfl⟩ := file_of_mem_scanRoot hrecord
    exact ⟨dirname :: rest, bytes, ⟨⟨dirname, rest, rfl, hrest, hdirname⟩, hlstat⟩, rfl⟩
  · rintro ⟨names, bytes, ⟨⟨dirname, rest, rfl, hrest, hdirname⟩, hlstat⟩, rfl⟩
    obtain ⟨_, _, hrecord⟩ := scanRoot_spec (List.flatMap_eq_nil_iff.1 h dirname hdirname) rest hrest bytes hlstat
    exact ⟨dirname, hdirname, hrecord⟩

/-- A path is a scanned one exactly when it is that of a file below a root; the scan has no failures. -/
theorem mem_scannedPaths {inputRoot : List String} {version : String} (h : scanEvidenceFailures L C T inputRoot version = [])
    {path : String} : path ∈ (scannedRecords L C T inputRoot version).map FileRecord.path ↔
      ∃ names bytes, IsOperatorFile C T inputRoot names bytes ∧ path = toString (⟨"", names⟩ : PosixPath) := by
  constructor
  · intro hmem
    obtain ⟨record, hrecord, rfl⟩ := List.mem_map.1 hmem
    obtain ⟨names, bytes, hfile, rfl⟩ := (mem_scannedRecords h).1 hrecord
    exact ⟨names, bytes, hfile, rfl⟩
  · rintro ⟨names, bytes, hfile, rfl⟩
    exact List.mem_map.2 ⟨_, (mem_scannedRecords h).2 ⟨names, bytes, hfile, rfl⟩, rfl⟩

/-! ## The records -/

/-- A file that has a schema is a JSON object of that schema. -/
def ReplaysSchema (L : Libraries) (C : Contract) (T : FileTree) (actual rel : PosixPath) : Prop :=
  ∀ expected, requiredSchemaVersionForPath C rel = some expected →
    ∃ payload, readJson L.toPython (treeFiles T) actual = .ok (some (.dict payload)) ∧ field "schema_version" payload = .str expected

/-- The file that a record names is the recorded one. -/
structure FileMatches (L : Libraries) (C : Contract) (T : FileTree) (actual : PosixPath) (fields : Fields) (rel : PosixPath)
    (bytes : Bytes) : Prop where
  read : treeFiles T actual = some bytes
  nonempty : bytes ≠ []
  size : (field "bytes" fields).pyEq (.int bytes.length) = true
  sha256 : field "sha256" fields = .str (L.hexdigest bytes)
  schema : ReplaysSchema L C T actual rel

/-- What is checked of a record at a path, with the tree at hand. -/
structure RecordMatches (L : Libraries) (C : Contract) (T : FileTree) (inputRoot : List String) (version : String) (fields : Fields)
    (rel : PosixPath) : Prop where
  allowed : validateAllowedVersionPath C rel version = []
  role : field "role" fields = .str (roleForPath rel)
  size : isIntFrom 1 (field "bytes" fields) = true
  digest : isDigest (field "sha256" fields) = true
  file : ∃ bytes, FileMatches L C T (placeOf inputRoot rel) fields rel bytes

theorem schemaReplayFailures_eq_nil {itemPath expected : String} {actual : PosixPath} :
    schemaReplayFailures L T itemPath actual expected = .ok [] ↔
      ∃ payload, readJson L.toPython (treeFiles T) actual = .ok (some (.dict payload)) ∧
        field "schema_version" payload = .str expected := by
  rw [schemaReplayFailures, bind_ok_iff]
  constructor
  · rintro ⟨payload, hpayload, h⟩
    cases payload with
    | none => cases h
    | some payload =>
      rw [Except.ok.injEq, failUnless_eq_nil] at h
      cases payload with
      | dict fields => exact ⟨fields, hpayload, pyEq_str_iff.1 h⟩
      | _ => cases h
  · rintro ⟨payload, hpayload, h⟩
    refine ⟨_, hpayload, ?_⟩
    rw [Except.ok.injEq, failUnless_eq_nil]
    exact pyEq_str_iff.2 h

theorem replaysSchema_iff {itemPath : String} {actual rel : PosixPath} :
    ((requiredSchemaVersionForPath C rel).map (schemaReplayFailures L T itemPath actual)).getD (.ok []) = .ok [] ↔
      ReplaysSchema L C T actual rel := by
  unfold ReplaysSchema
  cases hexpected : requiredSchemaVersionForPath C rel with
  | none => simp
  | some expected => simp [schemaReplayFailures_eq_nil]

theorem recordFileFailures_eq_nil {itemPath : String} {inputRoot : List String} {fields : Fields} {rel : PosixPath} :
    recordFileFailures L C T itemPath inputRoot fields rel = .ok [] ↔
      ∃ bytes, FileMatches L C T (placeOf inputRoot rel) fields rel bytes := by
  unfold recordFileFailures
  simp only
  split
  · next hnone =>
    constructor
    · intro h
      cases h
    · rintro ⟨bytes, h⟩
      rw [h.read, Option.filter_eq_none_iff] at hnone
      exact absurd (hnone bytes rfl) (by simp [h.nonempty])
  · next bytes hbytes =>
    obtain ⟨hread, hne⟩ := Option.filter_eq_some_iff.1 hbytes
    rw [bind_ok_iff]
    simp only [Except.ok.injEq, List.append_eq_nil_iff, failUnless_eq_nil, pyEq_str_iff]
    constructor
    · rintro ⟨schema, hschema, ⟨hsize, hsha⟩, rfl⟩
      exact ⟨bytes, hread, by simpa using hne, hsize, hsha, replaysSchema_iff.1 hschema⟩
    · rintro ⟨bytes', h⟩
      obtain rfl : bytes' = bytes := Option.some.inj (h.read.symm.trans hread)
      exact ⟨[], replaysSchema_iff.2 h.schema, ⟨h.size, h.sha256⟩, rfl⟩

theorem recordFailures_eq_nil {inputRoot : List String} (hroot : A.inputRoot = some inputRoot) {itemPath version : String}
    {fields : Fields} {rel : PosixPath} :
    recordFailures L C T A itemPath version fields rel = .ok [] ↔ RecordMatches L C T inputRoot version fields rel := by
  rw [recordFailures, hroot, Option.map_some, Option.getD_some, bind_ok_iff]
  simp only [Except.ok.injEq, List.append_eq_nil_iff, failUnless_eq_nil, checkSha256_eq_nil, pyEq_str_iff]
  constructor
  · rintro ⟨file, hfile, ⟨⟨⟨hallowed, hrole⟩, hsize⟩, hdigest⟩, rfl⟩
    exact ⟨hallowed, hrole, hsize, hdigest, recordFileFailures_eq_nil.1 hfile⟩
  · intro h
    exact ⟨[], recordFileFailures_eq_nil.2 h.file, ⟨⟨⟨h.allowed, h.role⟩, h.size⟩, h.digest⟩, rfl⟩

/-- A record that an operator may supply and that matches its file. -/
structure IsRecord (L : Libraries) (C : Contract) (T : FileTree) (inputRoot : List String) (version : String) (item : Value)
    (rel : PosixPath) : Prop where
  path : recordRel item = some rel
  record : ∃ fields, item = .dict fields ∧ field "source" fields = .str "operator-evidence" ∧
    RecordMatches L C T inputRoot version fields rel

/-- The records from a place on have no failures exactly when each of them is one and no path is named twice. -/
theorem recordsFailures_eq_nil {inputRoot : List String} (hroot : A.inputRoot = some inputRoot) {version : String} :
    ∀ {items : List Value} {seen : List String} {idx : Nat}, recordsFailures L C T A version seen idx items = .ok [] ↔
      (∀ item ∈ items, ∃ rel, IsRecord L C T inputRoot version item rel) ∧ (items.map recordPath).Nodup ∧
        ∀ path ∈ seen, some path ∉ items.map recordPath
  | [], _, _ => by simp [recordsFailures]
  | item :: items, seen, idx => by
    unfold recordsFailures
    simp only
    split
    · next fields =>
      split
      · next hnone =>
        constructor
        · intro h
          obtain ⟨rest, _, h⟩ := bind_ok_iff.1 h
          simp at h
        · rintro ⟨h, _⟩
          obtain ⟨rel, hpath, _⟩ := h _ List.mem_cons_self
          exact absurd (hnone.symm.trans hpath) (by simp)
      · next rel hrel =>
        have hpath : recordPath (.dict fields) = some (toString rel) := congrArg (Option.map toString) hrel
        rw [bind_ok_iff, List.forall_mem_cons]
        simp only [bind_ok_iff, Except.ok.injEq, List.append_eq_nil_iff, failUnless_eq_nil, Bool.not_eq_true',
          List.contains_eq_mem, decide_eq_false_iff_not, pyEq_str_iff, List.map_cons, hpath, List.nodup_cons, List.mem_cons,
          not_or, Option.some.injEq]
        constructor
        · rintro ⟨here, hhere, rest, hrest, ⟨⟨hsource, hnew⟩, rfl⟩, rfl⟩
          obtain ⟨hrecords, hnodup, hseen⟩ := (recordsFailures_eq_nil hroot).1 hrest
          refine ⟨⟨⟨rel, hrel, fields, rfl, hsource, (recordFailures_eq_nil hroot).1 hhere⟩, hrecords⟩,
            ⟨hseen _ List.mem_cons_self, hnodup⟩, fun path hpathSeen => ⟨?_, hseen path (List.mem_cons_of_mem _ hpathSeen)⟩⟩
          rintro rfl
          exact hnew hpathSeen
        · rintro ⟨⟨⟨rel', hrel', fields', heq, hsource, hrecord⟩, hrecords⟩, ⟨hnew, hnodup⟩, hseen⟩
          obtain rfl := Value.dict.inj heq
          obtain rfl : rel' = rel := Option.some.inj (hrel'.symm.trans hrel)
          refine ⟨[], (recordFailures_eq_nil hroot).2 hrecord, [], (recordsFailures_eq_nil hroot).2 ⟨hrecords, hnodup, ?_⟩,
            ⟨⟨hsource, fun hmem => (hseen _ hmem).1 rfl⟩, rfl⟩, rfl⟩
          rintro path hmem
          rcases List.mem_cons.1 hmem with rfl | hmem
          · exact hnew
          · exact (hseen path hmem).2
    · next hnot =>
      constructor
      · intro h
        obtain ⟨rest, _, h⟩ := bind_ok_iff.1 h
        simp at h
      · rintro ⟨h, _⟩
        obtain ⟨_, _, fields, rfl, _⟩ := h _ List.mem_cons_self
        exact absurd rfl (hnot fields)

/-- The path of a record is relative and scoped to the version. -/
theorem IsRecord.scoped_path {inputRoot : List String} {version : String} {item : Value} {rel : PosixPath}
    (h : IsRecord L C T inputRoot version item rel) :
    ∃ first rest, rel = ⟨"", first :: version :: rest⟩ ∧ ∀ name ∈ rel.names, IsName name := by
  obtain ⟨fields, rfl, _, hrecord⟩ := h.record
  obtain ⟨hroot, hnames⟩ := safeRelativePath_eq_some (show safeRelativePath (field "path" fields) = some rel from h.path)
  obtain ⟨first, rest, hcons, _⟩ := allowed_of_validate hrecord.allowed
  obtain ⟨root, names⟩ := rel
  obtain rfl : root = "" := hroot
  obtain rfl : names = _ := hcons
  exact ⟨first, rest, rfl, hnames⟩

end Records

end SuderraOs.Evidence.OperatorIngress
