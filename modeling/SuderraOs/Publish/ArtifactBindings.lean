import SuderraOs.Publish.StagedBinding

/-!
# The bindings of the release artifacts

`validate_release_artifact_bindings` of `evidence_contract.py` against the artifacts that the release rows of the build matrix expect.
Its loop reports what is unexpected, repeated or malformed, and what is missing is the difference of the expected names and those the
loop has seen. Together the list is accepted exactly when it binds each expected artifact once (`validate_release_artifact_bindings_iff`).
-/

namespace SuderraOs.Publish.Bindings

open Value Evidence Staged

/-- The defconfig and the name of an artifact. -/
abbrev Key := String × String

/-- `expected_artifacts`: the row of the build matrix under each key; a later one takes the place of an earlier one. -/
abbrev Expected := List (Key × Fields)

def Expected.keys (expected : Expected) : List Key := expected.map (·.1)

/-- `PLACEHOLDER_VALUES` of the contract. -/
def placeholderValues : List String :=
  ["", "TODO", "TBD", "TO_BE_COLLECTED", "PLACEHOLDER", "not_collected", "NOT_COLLECTED", "pending", "PENDING"]

/-- `safe_relative_path` of the contract. -/
def safeRelativePath : Value → Option PosixPath
  | .str s =>
    let rel := PosixPath.ofString s
    if isPlaceholder placeholderValues (.str s) || isBlank s || rel.isAbsolute || rel.hasParent then none else some rel
  | _ => none

/-- What `artifact_root` and `file_hasher` stand for: the root and which of its paths are files, and the digest of a file. -/
structure Store where
  artifactRoot : Option PosixPath
  isFile : PosixPath → Bool
  fileHasher : Option (PosixPath → String)

section
variable (Γ : Python)

/-- `expected_release_artifact_map`: the artifacts of the rows whose `release` is `True`. -/
def expectedReleaseArtifactMap (M : Matrix) : Except String Expected := do
  let rows ← (Evidence.releaseRows M).mapM fun row => do
    let defconfig ← rowText Γ "name" row
    .ok ((expectedArtifacts Γ row).map fun artifact => ((defconfig, artifact), row))
  .ok rows.flatten

def keyOf (artifact : Fields) : Key := ((field "defconfig" artifact).pyStr Γ.repr, (field "artifact" artifact).pyStr Γ.repr)

/-- The row that is expected under the key, and the target that it names. -/
def targetFailures (expected : Expected) (artifact : Fields) : List String :=
  let key := keyOf Γ artifact
  match indexGet expected key with
  | none => failUnless s!"unexpected binding artifact: {key.1} {key.2}" expected.isEmpty
  | some row =>
    failUnless (s!"binding artifact {key.1} {key.2} target must be " ++ (field "target" row).pyStr Γ.repr)
      ((field "target" artifact).pyEq (field "target" row))

def digestFailures (artifact : Fields) : List String :=
  let key := keyOf Γ artifact
  match field "sha256" artifact with
  | .str digest =>
    if isHex 64 digest then
      failUnless s!"binding artifact {key.1} {key.2} must not use all-zero sha256" (digest != String.ofList (List.replicate 64 '0'))
    else [s!"binding artifact {key.1} {key.2} has invalid sha256"]
  | _ => [s!"binding artifact {key.1} {key.2} has invalid sha256"]

def pathFailures (S : Store) (artifact : Fields) : List String :=
  let key := keyOf Γ artifact
  match safeRelativePath (field "path" artifact) with
  | none => [s!"binding artifact {key.1} {key.2} path must be a relative non-placeholder path"]
  | some rel =>
    match S.artifactRoot with
    | none => []
    | some root =>
      let path := root.join rel
      if S.isFile path then
        match S.fileHasher, field "sha256" artifact with
        | some hasher, .str digest => failUnless s!"binding artifact sha mismatch: {path}" (hasher path == digest)
        | _, _ => []
      else [s!"binding artifact file missing: {path}"]

/-- The checks of one artifact, once it is known to be an object. -/
def artifactFailures (S : Store) (expected : Expected) (seen : List Key) (artifact : Fields) : List String :=
  let key := keyOf Γ artifact
  targetFailures Γ expected artifact ++
    failUnless s!"duplicate binding artifact: {key.1} {key.2}" (!seen.contains key) ++
    digestFailures Γ artifact ++
    failUnless s!"binding artifact {key.1} {key.2} must have positive byte size" ((field "bytes" artifact).asInt.any (0 < ·)) ++
    pathFailures Γ S artifact

/-- Tuples of texts are compared from the left. -/
def keyLe (a b : Key) : Bool := if a.1 = b.1 then nameLe a.2 b.2 else nameLe a.1 b.1

/-- The expected keys that the loop has not seen. -/
def missingFailures (expected : Expected) (seen : List Key) : List String :=
  let missing := (expected.keys.dedup.filter fun key => !seen.contains key).insertionSort fun a b => keyLe a b = true
  failUnless ("binding artifacts missing matrix-required files: " ++ ", ".intercalate (missing.map fun key => s!"{key.1}:{key.2}"))
    missing.isEmpty

/-- The loop over the artifacts and what follows it. -/
def checkArtifacts (S : Store) (expected : Expected) : Nat → List Key → List Value → List String
  | _, seen, [] => missingFailures expected seen
  | index, seen, .dict artifact :: artifacts =>
    artifactFailures Γ S expected seen artifact ++ checkArtifacts S expected (index + 1) (keyOf Γ artifact :: seen) artifacts
  | index, seen, _ :: artifacts =>
    s!"binding artifacts[{index}] must be an object" :: checkArtifacts S expected (index + 1) seen artifacts

/-- `validate_release_artifact_bindings`. -/
def validateReleaseArtifactBindings (S : Store) (expected : Expected) (artifacts : Value) : List String :=
  match artifacts with
  | .list (item :: items) => checkArtifacts Γ S expected 0 [] (item :: items)
  | _ => ["binding artifacts must be a non-empty list"]

/-! ## What is accepted -/

/-- The file of an artifact is there, with the digest, where there is a root and a hasher. -/
structure FileBound (S : Store) (rel : PosixPath) (digest : String) : Prop where
  isFile : ∀ root, S.artifactRoot = some root → S.isFile (root.join rel) = true
  digest : ∀ root hasher, S.artifactRoot = some root → S.fileHasher = some hasher → hasher (root.join rel) = digest

/-- An artifact is bound: under an expected key with the target of its row, with a digest, a size and a path. -/
structure EntryBound (S : Store) (expected : Expected) (artifact : Fields) : Prop where
  target : ∃ row, indexGet expected (keyOf Γ artifact) = some row ∧ (field "target" artifact).pyEq (field "target" row) = true
  bytes : ∃ n, (field "bytes" artifact).asInt = some n ∧ 0 < n
  file : ∃ digest rel, field "sha256" artifact = .str digest ∧ isHex 64 digest = true ∧
    digest ≠ String.ofList (List.replicate 64 '0') ∧ safeRelativePath (field "path" artifact) = some rel ∧ FileBound S rel digest

/-- The artifacts are a list that binds each expected key exactly once, and nothing else. -/
def Exact (S : Store) (expected : Expected) (artifacts : Value) : Prop :=
  ∃ entries : List Fields, artifacts = .list (entries.map .dict) ∧ (entries.map (keyOf Γ)).Nodup ∧
    (∀ key, key ∈ entries.map (keyOf Γ) ↔ key ∈ expected.keys) ∧ ∀ e ∈ entries, EntryBound Γ S expected e

end

section
variable {Γ : Python} {S : Store} {expected : Expected} {artifact : Fields} {seen : List Key}

theorem mem_keys_of_indexGet {key : Key} {row : Fields} (h : indexGet expected key = some row) : key ∈ expected.keys := by
  obtain ⟨p, hp, -⟩ := Option.map_eq_some_iff.1 h
  have hkey : p.1 = key := by simpa using List.find?_some hp
  exact List.mem_map.2 ⟨p, List.mem_reverse.1 (List.mem_of_find?_eq_some hp), hkey⟩

/-- Where something is expected, a target is right under an expected key only. -/
theorem targetFailures_eq_nil_iff (hne : expected ≠ []) : targetFailures Γ expected artifact = [] ↔
    ∃ row, indexGet expected (keyOf Γ artifact) = some row ∧ (field "target" artifact).pyEq (field "target" row) = true := by
  unfold targetFailures
  extract_lets key
  cases hrow : indexGet expected key with
  | none => simp [hne, key]
  | some row => simp

theorem digestFailures_eq_nil_iff : digestFailures Γ artifact = [] ↔
    ∃ digest, field "sha256" artifact = .str digest ∧ isHex 64 digest = true ∧
      digest ≠ String.ofList (List.replicate 64 '0') := by
  unfold digestFailures
  extract_lets key
  cases hdigest : field "sha256" artifact with
  | str digest =>
    simp only [Value.str.injEq, exists_eq_left']
    split_ifs with hhex <;> simp [hhex]
  | _ => simp

/-- A path is right if it is a relative one, with the file that is bound. -/
theorem pathFailures_eq_nil_iff {digest : String} (hdigest : field "sha256" artifact = .str digest) :
    pathFailures Γ S artifact = [] ↔ ∃ rel, safeRelativePath (field "path" artifact) = some rel ∧ FileBound S rel digest := by
  unfold pathFailures
  extract_lets key
  cases hrel : safeRelativePath (field "path" artifact) with
  | none => simp
  | some rel =>
    simp only [Option.some.injEq, exists_eq_left', hdigest]
    cases hroot : S.artifactRoot with
    | none => exact iff_of_true rfl ⟨by simp [hroot], by simp [hroot]⟩
    | some root =>
      simp only
      split_ifs with hfile
      · cases hhasher : S.fileHasher with
        | none => exact iff_of_true rfl ⟨by simp [hroot, hfile], by simp [hhasher]⟩
        | some hasher =>
          simp only [failUnless_eq_nil, beq_iff_eq]
          constructor
          · intro h
            refine ⟨by simp [hroot, hfile], fun root' hasher' hroot' hhasher' => ?_⟩
            rw [hroot, Option.some_inj] at hroot'
            rw [hhasher, Option.some_inj] at hhasher'
            rw [← hroot', ← hhasher', h]
          · intro h
            exact h.digest root hasher hroot hhasher
      · exact iff_of_false (by simp) fun h => hfile (h.isFile root hroot)

/-- An artifact passes when it is bound and its key has not been seen. -/
theorem artifactFailures_eq_nil_iff (hne : expected ≠ []) :
    artifactFailures Γ S expected seen artifact = [] ↔ EntryBound Γ S expected artifact ∧ keyOf Γ artifact ∉ seen := by
  unfold artifactFailures
  extract_lets key
  simp only [List.append_eq_nil_iff, failUnless_eq_nil, targetFailures_eq_nil_iff hne, digestFailures_eq_nil_iff, Option.any_eq_true,
    decide_eq_true_eq, Bool.not_eq_true', List.contains_eq_mem, decide_eq_false_iff_not]
  constructor
  · rintro ⟨⟨⟨⟨htarget, hseen⟩, digest, hdigest, hhex, hzero⟩, hbytes⟩, hpath⟩
    obtain ⟨rel, hrel, hfile⟩ := (pathFailures_eq_nil_iff hdigest).1 hpath
    exact ⟨⟨htarget, hbytes, digest, rel, hdigest, hhex, hzero, hrel, hfile⟩, hseen⟩
  · rintro ⟨⟨htarget, hbytes, digest, rel, hdigest, hhex, hzero, hrel, hfile⟩, hseen⟩
    exact ⟨⟨⟨⟨htarget, hseen⟩, digest, hdigest, hhex, hzero⟩, hbytes⟩, (pathFailures_eq_nil_iff hdigest).2 ⟨rel, hrel, hfile⟩⟩

theorem missingFailures_eq_nil_iff : missingFailures expected seen = [] ↔ ∀ key ∈ expected.keys, key ∈ seen := by
  unfold missingFailures
  extract_lets missing
  have hlength : missing = [] ↔ (expected.keys.dedup.filter fun key => !seen.contains key) = [] := by
    rw [← List.length_eq_zero_iff, ← List.length_eq_zero_iff (l := List.filter _ _), List.length_insertionSort]
  rw [failUnless_eq_nil, List.isEmpty_iff, hlength, List.filter_eq_nil_iff]
  simp

/-- The loop passes when the rest of the list binds the expected keys that have not been seen, each once, and no others. -/
theorem checkArtifacts_eq_nil_iff (hne : expected ≠ []) (index : Nat) (items : List Value) :
    checkArtifacts Γ S expected index seen items = [] ↔
      ∃ entries : List Fields, items = entries.map .dict ∧ (entries.map (keyOf Γ)).Nodup ∧
        (∀ e ∈ entries, EntryBound Γ S expected e ∧ keyOf Γ e ∉ seen) ∧
        ∀ key ∈ expected.keys, key ∈ entries.map (keyOf Γ) ∨ key ∈ seen := by
  induction items generalizing index seen with
  | nil =>
    rw [checkArtifacts, missingFailures_eq_nil_iff]
    constructor
    · intro h
      exact ⟨[], rfl, List.nodup_nil, nofun, fun key hkey => Or.inr (h key hkey)⟩
    · rintro ⟨entries, hentries, -, -, h⟩
      obtain rfl := List.map_eq_nil_iff.1 hentries.symm
      exact fun key hkey => (h key hkey).resolve_left List.not_mem_nil
  | cons item items ih =>
    cases item with
    | dict artifact =>
      rw [checkArtifacts, List.append_eq_nil_iff, artifactFailures_eq_nil_iff hne, ih]
      constructor
      · rintro ⟨⟨hbound, hseen⟩, entries, rfl, hnodup, hentries, hkeys⟩
        refine ⟨artifact :: entries, rfl, List.nodup_cons.2 ⟨?_, hnodup⟩, ?_, fun key hkey => ?_⟩
        · intro hmem
          obtain ⟨e, he, hkey⟩ := List.mem_map.1 hmem
          exact (hentries e he).2 (hkey ▸ List.mem_cons_self)
        · exact List.forall_mem_cons.2 ⟨⟨hbound, hseen⟩, fun e he => ⟨(hentries e he).1, fun h => (hentries e he).2 (List.mem_cons_of_mem _ h)⟩⟩
        · rw [List.map_cons, List.mem_cons]
          rcases hkeys key hkey with h | h
          · exact Or.inl (Or.inr h)
          · rcases List.mem_cons.1 h with h | h
            · exact Or.inl (Or.inl h)
            · exact Or.inr h
      · rintro ⟨entries, hentries, hnodup, hbound, hkeys⟩
        cases entries with
        | nil => cases hentries
        | cons e entries =>
          simp only [List.map_cons, List.cons.injEq, Value.dict.injEq] at hentries
          obtain ⟨rfl, rfl⟩ := hentries
          obtain ⟨hhead, htail⟩ := List.forall_mem_cons.1 hbound
          obtain ⟨hfresh, hnodup⟩ := List.nodup_cons.1 hnodup
          refine ⟨hhead, entries, rfl, hnodup, fun e he => ⟨(htail e he).1, fun h => ?_⟩, fun key hkey => ?_⟩
          · rcases List.mem_cons.1 h with h | h
            · exact hfresh (h ▸ List.mem_map_of_mem he)
            · exact (htail e he).2 h
          · rcases hkeys key hkey with h | h
            · rw [List.map_cons, List.mem_cons] at h
              exact h.elim (fun h => Or.inr (List.mem_cons.2 (Or.inl h))) Or.inl
            · exact Or.inr (List.mem_cons_of_mem _ h)
    | _ =>
      rw [checkArtifacts]
      · refine iff_of_false (by simp) ?_
        rintro ⟨entries, hentries, -⟩
        cases entries with
        | nil => cases hentries
        | cons e entries => simp at hentries
      · simp

/-- A list of artifacts is accepted exactly when it binds each expected artifact once, and nothing else. -/
theorem validate_release_artifact_bindings_iff (Γ : Python) (S : Store) (expected : Expected) (hne : expected ≠ []) (artifacts : Value) :
    validateReleaseArtifactBindings Γ S expected artifacts = [] ↔ Exact Γ S expected artifacts := by
  have hkey {entries : List Fields} (h : ∀ e ∈ entries, EntryBound Γ S expected e) : ∀ key ∈ entries.map (keyOf Γ), key ∈ expected.keys := by
    intro key hmem
    obtain ⟨e, he, rfl⟩ := List.mem_map.1 hmem
    obtain ⟨row, hrow, -⟩ := (h e he).target
    exact mem_keys_of_indexGet hrow
  unfold validateReleaseArtifactBindings
  split
  · rename_i item items
    rw [checkArtifacts_eq_nil_iff hne]
    constructor
    · rintro ⟨entries, hentries, hnodup, hbound, hkeys⟩
      have hall : ∀ e ∈ entries, EntryBound Γ S expected e := fun e he => (hbound e he).1
      exact ⟨entries, by rw [hentries], hnodup,
        fun key => ⟨hkey hall key, fun h => (hkeys key h).resolve_right List.not_mem_nil⟩, hall⟩
    · rintro ⟨entries, hentries, hnodup, hkeys, hall⟩
      exact ⟨entries, Value.list.inj hentries, hnodup, fun e he => ⟨hall e he, List.not_mem_nil⟩,
        fun key h => Or.inl ((hkeys key).2 h)⟩
  · rename_i hlist
    refine iff_of_false (by simp) ?_
    rintro ⟨entries, rfl, -, hkeys, -⟩
    cases entries with
    | nil =>
      obtain ⟨p, rest, rfl⟩ := List.exists_cons_of_ne_nil hne
      exact absurd ((hkeys p.1).2 List.mem_cons_self) List.not_mem_nil
    | cons e entries => exact hlist _ _ rfl

/-- The expected keys are the artifacts of the release rows. -/
theorem mem_keys_expectedReleaseArtifactMap {M : Matrix} (h : expectedReleaseArtifactMap Γ M = .ok expected) {key : Key} :
    key ∈ expected.keys ↔ ∃ row ∈ Evidence.releaseRows M, rowText Γ "name" row = .ok key.1 ∧ key.2 ∈ expectedArtifacts Γ row := by
  obtain ⟨rows, hrows, h⟩ := bind_ok_iff.1 h
  cases h
  rw [Expected.keys, List.mem_map]
  constructor
  · rintro ⟨p, hp, rfl⟩
    obtain ⟨entries, hentries, hp⟩ := List.mem_flatten.1 hp
    obtain ⟨row, hrow, hmap⟩ := mapM_ok_right hrows entries hentries
    obtain ⟨defconfig, hdefconfig, hmap⟩ := bind_ok_iff.1 hmap
    cases hmap
    obtain ⟨artifact, hartifact, rfl⟩ := List.mem_map.1 hp
    exact ⟨row, hrow, hdefconfig, hartifact⟩
  · rintro ⟨row, hrow, hname, hartifact⟩
    obtain ⟨entries, hentries, hmap⟩ := mapM_ok_left hrows row hrow
    rw [hname, ok_bind] at hmap
    cases hmap
    exact ⟨(key, row), List.mem_flatten.2 ⟨_, hentries, List.mem_map.2 ⟨key.2, hartifact, rfl⟩⟩, rfl⟩

end

/-- An image of the build, as a binding names it. -/
def sampleArtifact : Value :=
  .dict [("defconfig", .str "suderra_x86_64_defconfig"), ("target", .str "x86_64"), ("artifact", .str "disk.img.xz"), ("bytes", .int 6),
    ("path", .str "suderra_x86_64_defconfig/disk.img.xz"),
    ("sha256", .str "254eddf15d9534e3b20c55469077aa2f24f167aa4b897a36381d3e251e4829c2")]

theorem exact_sample : Exact samplePython
    ⟨some ⟨"", ["build-artifacts"]⟩, fun path => path = ⟨"", ["build-artifacts", "suderra_x86_64_defconfig", "disk.img.xz"]⟩,
      some fun _ => samplePython.hexdigest imageBytes⟩
    [(("suderra_x86_64_defconfig", "disk.img.xz"), [("target", .str "x86_64")])] (.list [sampleArtifact]) :=
  (validate_release_artifact_bindings_iff samplePython _ _ (by simp) _).1 (by decide +kernel)

end SuderraOs.Publish.Bindings
