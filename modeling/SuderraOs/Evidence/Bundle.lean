import SuderraOs.Evidence.BuildrootIdentity

/-!
# Release evidence bundles

The checks that `release-evidence.py` makes of the values of an `evidence.json` and of the files beside it. A file is looked at only
where the files of the bundle are, so a digest that no file has is found there or not at all (`checkFileSha256_eq_nil`).
-/

namespace SuderraOs.Evidence.ReleaseEvidence

open Value OperatorIngress

/-- What `Validation` keeps of an invocation, with the files that it reads. -/
structure Bundle where
  tree : FileTree
  evidencePath : PosixPath
  checkFiles : Bool

/-- `evidence_path.parent`. -/
def Bundle.dir (B : Bundle) : PosixPath := ⟨B.evidencePath.root, B.evidencePath.names.dropLast⟩

def Bundle.files (B : Bundle) : Files := treeFiles B.tree

def statusValues : List String := ["failed", "not_applicable", "not_collected", "not_run", "passed"]

def failureClassValues : List String :=
  ["infra_error", "none", "operator_error", "security_failure", "semantic_failure", "timeout"]

def vexStatusValues : List String := ["not_applicable", "not_collected", "present"]

def riskStatusValues : List String := ["accepted", "blocked", "none"]

def decisionStatusValues : List String := ["approved", "approved_with_residual_risk", "blocked"]

/-! ## Checks of one value -/

/-- `is_non_empty_string`. -/
def isNonEmptyString (v : Value) : Bool := v.asStr.any (!isBlank ·)

def checkString (path : String) (v : Value) : List String := failUnless s!"{path}: must be a non-empty string" (isNonEmptyString v)

/-- `check_string` of each of these fields. -/
def checkStrings (path : String) (names : List String) (fields : Fields) : List String :=
  names.flatMap fun name => checkString s!"{path}.{name}" (field name fields)

def checkBool (path : String) (v : Value) : List String := failUnless s!"{path}: must be true or false" (isBool v)

/-- A value that no set can hold raises. -/
def checkStatus (path : String) (v : Value) (allowed : List String) : Except String (List String) := do
  guardError "TypeError" v.isHashable
  .ok (failUnless s!"{path}: must be one of: {commaSeparated allowed}" (v.asStr.any allowed.contains))

def checkSha256 (path : String) (v : Value) (required : Bool) : List String :=
  failUnless s!"{path}: must be a lowercase sha256 hex digest" ((v.pyEq .null && !required) || v.asStr.any (isHex 64))

def checkPositiveInt (path : String) (v : Value) (required : Bool) : List String :=
  failUnless s!"{path}: must be a positive integer" ((v.pyEq .null && !required) || v.asInt.any (0 < ·))

/-- The path that a value names below a directory, if it stays there. -/
def relativeTo (v : Value) : Option PosixPath :=
  ((v.asStr.filter (!isBlank ·)).map PosixPath.ofString).filter fun rel => !rel.isAbsolute && !rel.hasParent

section Files

variable (L : Python) (B : Bundle)

/-- `check_relative_path`. -/
def checkRelativePath (path : String) (v : Value) (required : Bool) : List String :=
  if v.pyEq .null && !required then []
  else if !isNonEmptyString v then [s!"{path}: must be a relative path"]
  else
    match relativeTo v with
    | none => [s!"{path}: must be relative and must not contain '..'"]
    | some rel =>
      if B.checkFiles then
        match B.files (B.dir.join rel) with
        | none => [s!"{path}: referenced file is missing: {v.pyStr L.repr}"]
        | some bytes => failUnless s!"{path}: referenced file is empty: {v.pyStr L.repr}" (!bytes.isEmpty)
      else []

/-- `file_for_relative_path`, with what the file holds. -/
def fileForRelativePath (v : Value) : Option (PosixPath × Bytes) :=
  if B.checkFiles then (relativeTo v).bind fun rel => (B.files (B.dir.join rel)).map fun bytes => (B.dir.join rel, bytes)
  else none

def checkFileSha256 (path : String) (rel expected : Value) : List String :=
  if !B.checkFiles || expected.pyEq .null then []
  else (fileForRelativePath B rel).toList.flatMap fun file =>
    failUnless s!"{path}: does not match referenced file sha256" (expected.pyEq (.str (L.hexdigest file.2)))

def checkFileSize (path : String) (rel expected : Value) : List String :=
  if !B.checkFiles || expected.pyEq .null then []
  else (fileForRelativePath B rel).toList.flatMap fun file =>
    failUnless s!"{path}: does not match referenced file size" (expected.pyEq (.int file.2.length))

/-- The failures of a path, a digest and a size and of the file that they are of. -/
def checkFile (path : String) (fields : Fields) (required : Bool) : List String :=
  checkRelativePath L B s!"{path}.path" (field "path" fields) required ++
    checkSha256 s!"{path}.sha256" (field "sha256" fields) required ++
    checkPositiveInt s!"{path}.bytes" (field "bytes" fields) required ++
    checkFileSha256 L B s!"{path}.sha256" (field "path" fields) (field "sha256" fields) ++
    checkFileSize B s!"{path}.bytes" (field "path" fields) (field "bytes" fields)

/-- The failures of `validate_preserved_ref`. -/
def preservedRefFailures (path : String) (v : Value) (requirePass : Bool) : List String :=
  match v with
  | .dict fields => checkFile L B path fields requirePass
  | .null => if requirePass then [s!"{path}: must be an object preserving a preflight input"] else []
  | _ => [s!"{path}: must be an object preserving a preflight input"]

/-- The file that `validate_preserved_ref` returns. -/
def preservedFile (v : Value) : Option (PosixPath × Bytes) := v.asDict.bind fun fields => fileForRelativePath B (field "path" fields)

end Files

/-- `parse_timestamp`: the failures, and the second. -/
def parseTimestamp (fromisoformat : String → Option DateTime) (path : String) (v : Value) (required : Bool) :
    List String × Option DateTime :=
  if v.pyEq .null && !required then ([], none)
  else
    match v.asStr.filter (!isBlank ·) with
    | none => ([s!"{path}: must be an ISO-8601 UTC timestamp"], none)
    | some s =>
      let text := PyText.strip s.toList
      if text.getLast? = some 'Z' then
        match fromisoformat (String.ofList text.dropLast ++ "+00:00") with
        | none => ([s!"{path}: must be an ISO-8601 UTC timestamp"], none)
        | some time => ([], some time)
      else ([s!"{path}: must use UTC Z suffix"], none)

/-! ## What an accepted value is -/

section Accepted

variable {L : Python} {B : Bundle}

theorem isNonEmptyString_spec {v : Value} (h : isNonEmptyString v = true) : ∃ s, v = .str s ∧ isBlank s = false := by
  cases v with
  | str s => exact ⟨s, rfl, by simpa [isNonEmptyString, asStr] using h⟩
  | _ => cases h

/-- A file of the bundle: where it stands and what it holds. -/
structure Holds (B : Bundle) (v : Value) (path : PosixPath) (bytes : Bytes) : Prop where
  file : fileForRelativePath B v = some (path, bytes)
  nonempty : bytes ≠ []

/-- A path that is required and has no failures names a file that is not empty. -/
theorem holds_of_checkRelativePath (hfiles : B.checkFiles = true) {path : String} {v : Value} (h : checkRelativePath L B path v true = []) :
    ∃ place bytes, Holds B v place bytes := by
  unfold checkRelativePath at h
  simp only [Bool.not_true, Bool.and_false, Bool.false_eq_true, if_false, hfiles, if_true] at h
  split at h
  · cases h
  split at h
  · cases h
  · next rel hrel =>
    split at h
    · cases h
    · next bytes hbytes =>
      refine ⟨B.dir.join rel, bytes, ?_, by simpa using h⟩
      rw [fileForRelativePath, if_pos hfiles, hrel, Option.bind_some, hbytes, Option.map_some]

/-- A digest that is compared with a file is that of the file. -/
theorem checkFileSha256_eq_nil (hfiles : B.checkFiles = true) {path : String} {rel : Value} {digest : String} {place : PosixPath}
    {bytes : Bytes} (hfile : fileForRelativePath B rel = some (place, bytes)) :
    checkFileSha256 L B path rel (.str digest) = [] ↔ digest = L.hexdigest bytes := by
  have hnull : (Value.str digest).pyEq .null = false := rfl
  simp [checkFileSha256, hfiles, hnull, hfile]

/-- A required object that is preserved has its file, with its digest. -/
structure Preserved (L : Python) (B : Bundle) (v : Value) (fields : Fields) (path : PosixPath) (bytes : Bytes) : Prop where
  object : v = .dict fields
  file : preservedFile B v = some (path, bytes)
  nonempty : bytes ≠ []
  digest : field "sha256" fields = .str (L.hexdigest bytes)
  size : (field "bytes" fields).pyEq (.int bytes.length) = true

theorem preserved_of_preservedRefFailures (hfiles : B.checkFiles = true) {path : String} {v : Value}
    (h : preservedRefFailures L B path v true = []) : ∃ fields place bytes, Preserved L B v fields place bytes := by
  unfold preservedRefFailures at h
  split at h
  · next fields =>
    simp only [checkFile, List.append_eq_nil_iff] at h
    obtain ⟨⟨⟨⟨hpath, hsha⟩, hsize⟩, hdigest⟩, hlength⟩ := h
    obtain ⟨place, bytes, hfile, hne⟩ := holds_of_checkRelativePath hfiles hpath
    simp only [checkSha256, checkPositiveInt, failUnless_eq_nil, Bool.not_true, Bool.and_false, Bool.false_or] at hsha hsize
    have hdigestNull : (field "sha256" fields).pyEq .null = false := by
      rw [Bool.eq_false_iff]
      intro hnull
      rw [pyEq_null_iff.1 hnull] at hsha
      cases hsha
    have hsizeNull : (field "bytes" fields).pyEq .null = false := by
      rw [Bool.eq_false_iff]
      intro hnull
      rw [pyEq_null_iff.1 hnull] at hsize
      cases hsize
    simp only [checkFileSha256, checkFileSize, hfiles, hdigestNull, hsizeNull, hfile, Bool.not_true, Bool.or_self, Bool.false_eq_true,
      if_false, Option.toList_some, List.flatMap_cons, List.flatMap_nil, List.append_nil, failUnless_eq_nil, pyEq_str_iff] at hdigest hlength
    exact ⟨fields, place, bytes, rfl, hfile, hne, hdigest, hlength⟩
  · simp at h
  · cases h

/-! ## What is accepted -/

/-- A file of the bundle is found where its name says. -/
theorem holds_of_file (hfiles : B.checkFiles = true) {name : String} {bytes : Bytes} (hname : IsName name) (hblank : isBlank name = false)
    (hfile : B.files (B.dir.child name) = some bytes) (hne : bytes ≠ []) : Holds B (.str name) (B.dir.child name) bytes := by
  have hrel : relativeTo (.str name) = some ⟨"", [name]⟩ := by
    have hparent : ".." ≠ name := hname.ne_parent.symm
    simp [relativeTo, asStr, hblank, PosixPath.ofString_of_isName hname, PosixPath.isAbsolute, PosixPath.hasParent, hparent]
  refine ⟨?_, hne⟩
  rw [fileForRelativePath, if_pos hfiles, hrel, Option.bind_some, show B.dir.join ⟨"", [name]⟩ = B.dir.child name from rfl, hfile,
    Option.map_some]

/-- A path that names a file of the bundle has no failures. -/
theorem Holds.checkRelativePath_eq_nil {path : String} {v : Value} {required : Bool} {place : PosixPath} {bytes : Bytes}
    (h : Holds B v place bytes) : checkRelativePath L B path v required = [] := by
  have hfile := h.file
  unfold fileForRelativePath at hfile
  split_ifs at hfile with hfiles
  obtain ⟨rel, hrel, hfile⟩ := Option.bind_eq_some_iff.1 hfile
  obtain ⟨read, hread, heq⟩ := Option.map_eq_some_iff.1 hfile
  obtain rfl : read = bytes := (Prod.mk.inj heq).2
  have hstring : isNonEmptyString v = true := by
    obtain ⟨hmap, _⟩ := Option.filter_eq_some_iff.1 hrel
    obtain ⟨s, hs, _⟩ := Option.map_eq_some_iff.1 hmap
    obtain ⟨hstr, hblank⟩ := Option.filter_eq_some_iff.1 hs
    rw [isNonEmptyString, hstr, Option.any_some, hblank]
  unfold checkRelativePath
  simp only [hstring, Bool.not_true, Bool.false_eq_true, if_false, hrel, hfiles, if_true, hread]
  split_ifs <;> simp [h.nonempty]

/-- What an evidence records of a file: its path, its digest and its size. -/
structure Records (L : Python) (B : Bundle) (fields : Fields) (place : PosixPath) (bytes : Bytes) : Prop where
  holds : Holds B (field "path" fields) place bytes
  digest : field "sha256" fields = .str (L.hexdigest bytes)
  size : field "bytes" fields = .int bytes.length

theorem Records.preserved {fields : Fields} {place : PosixPath} {bytes : Bytes} (h : Records L B fields place bytes) :
    preservedFile B (.dict fields) = some (place, bytes) := h.holds.file

/-- What is recorded of a file has no failures. -/
theorem Records.checkFile_eq_nil {path : String} {fields : Fields} {required : Bool} {place : PosixPath} {bytes : Bytes}
    (hdigest : (L.sha256 bytes).length = 32) (h : Records L B fields place bytes) : checkFile L B path fields required = [] := by
  have hlength : (0 : Int) < bytes.length := by exact_mod_cast List.length_pos_of_ne_nil h.holds.nonempty
  have hsha : ∀ required, checkSha256 s!"{path}.sha256" (.str (L.hexdigest bytes)) required = [] := by
    simp [checkSha256, asStr, Python.isHex_hexdigest hdigest]
  simp only [checkFile, h.digest, h.size, h.holds.checkRelativePath_eq_nil, hsha, List.append_nil, checkFileSha256, checkFileSize,
    h.holds.file, Option.toList_some, List.flatMap_singleton, pyEq_str, pyEq_int, beq_self_eq_true, failUnless, if_true, ite_self,
    checkPositiveInt, asInt, Option.any_some, hlength, decide_true, Bool.or_true]

theorem Records.preservedRefFailures_eq_nil {path : String} {fields : Fields} {requirePass : Bool} {place : PosixPath} {bytes : Bytes}
    (hdigest : (L.sha256 bytes).length = 32) (h : Records L B fields place bytes) :
    preservedRefFailures L B path (.dict fields) requirePass = [] := h.checkFile_eq_nil hdigest

end Accepted

end SuderraOs.Evidence.ReleaseEvidence
