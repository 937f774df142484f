import SuderraOs.Evidence.ScannerReplay
import SuderraOs.Lib.FileChange
import SuderraOs.Lib.ValueOrder

/-!
# Collecting scanner evidence

`create_command` of `collect-scanner-native-evidence.py`. The report says `passed` before it is validated and stays where it is when it
is refused, and without `--check-files` the findings are not looked at. So the command certifies what a replay of the raw evidence finds
exactly when the replay finds nothing that blocks and the report is accepted (`honest_iff`).
-/

namespace SuderraOs.Evidence.ScannerCollect

open Value OperatorIngress SecurityReport

/-- The arguments of `create`. -/
structure Args where
  version : String
  sourceSha : String
  sourceRunId : String
  sourceRunAttempt : String
  scan : String
  tool : String
  toolVersion : String
  rawJson : PosixPath
  rawPath : Option String
  rawRoot : Option PosixPath
  scannerBinary : Option PosixPath
  scannerBinarySha256 : String
  scannerDbType : String
  scannerDbVersion : String
  scannerDbCreatedAt : String
  scannerDbDigest : String
  subjectId : String
  subjectName : String
  subjectRole : String
  subjectPath : String
  subjectSha256 : String
  subjectBytes : Int
  scanMode : String
  argv : Option (List String)
  argvJson : Option PosixPath
  envJson : Option PosixPath
  subjectGraph : PosixPath
  sbomPath : String
  sbomSha256 : String
  vexPath : String
  vexSha256 : String
  workingDirPolicy : String
  outputRoot : PosixPath
  output : Option PosixPath
  checkFiles : Bool

/-- What the command collects. -/
structure Collected where
  rawSha256 : String
  rawBytes : Nat
  found : List Severity
  env : Fields
  argv : List String
  /-- The path of the scanner and its size, where it was given. -/
  scannerFile : Option (PosixPath × Nat)
  scannerSha256 : String
  graphSha256 : String
  graphBytes : Nat

section Create

variable (L : Libraries) (float : Double → List Char) (now : String) (A : Args)

/-- The bytes of a file that must be there and hold something. -/
def heldFile (T : FileTree) (message : String) (path : PosixPath) : Except String Bytes :=
  orError s!"{message}: {path}" ((treeFiles T path).filter fun bytes => !bytes.isEmpty)

/-- `read_json`. -/
def readDocument (T : FileTree) (path : PosixPath) : Except String Value := do
  let document ← readJson L.toPython (treeFiles T) path
  orError "JSONDecodeError" document

/-- The environment of the scanner: an object, with one member for each name. -/
def collectEnv (T : FileTree) : Except String Fields :=
  match A.envJson with
  | none => .ok []
  | some path => do
    let env ← readDocument L T path
    orError "--env-json must contain a JSON object" env.unique.asDict

/-- The command line of the scanner. -/
def collectArgv (T : FileTree) : Except String (List String) := do
  let argv ← (match A.argvJson with
    | some path => readDocument L T path
    | none => .ok ((A.argv.map fun items => Value.list (items.map .str)).getD .null))
  let items ← orError "scanner argv must be a non-empty string list" argv.asList
  items.mapM fun item => orError "scanner argv must be a non-empty string list" (item.asStr.filter (· ≠ ""))

/-- The scanner: its file, where it was given, and its digest. -/
def collectScanner (T : FileTree) : Except String (Option (PosixPath × Nat) × String) := do
  let scanner ← (match A.scannerBinary with
    | none => .ok (none, A.scannerBinarySha256)
    | some path => do
      let bytes ← heldFile T "--scanner-binary missing or empty" path
      .ok (some (path, bytes.length), L.hexdigest bytes))
  guardError "--scanner-binary-sha256 must be a non-zero sha256 when --scanner-binary is not provided" (isDigest (.str scanner.2))
  .ok scanner

/-- The digest of the database without the name of the algorithm. -/
def Args.scannerDbSha : String :=
  if "sha256:".toList.isPrefixOf A.scannerDbDigest.toList then String.ofList (A.scannerDbDigest.toList.drop "sha256:".toList.length)
  else A.scannerDbDigest

/-- The digest of the database with the name of the algorithm. -/
def Args.fullDbDigest : String :=
  if "sha256:".toList.isPrefixOf A.scannerDbDigest.toList then A.scannerDbDigest else "sha256:" ++ A.scannerDbDigest

/-- The texts of the subject, by the options that give them. -/
def Args.subjectTexts : List (String × String) :=
  [("subject-id", A.subjectId), ("name", A.subjectName), ("role", A.subjectRole), ("path", A.subjectPath), ("sha256", A.subjectSha256),
    ("scan-mode", A.scanMode)]

/-- `subject_from_args`. -/
def subjectFromArgs : Except String Fields := do
  guardError "--subject-sha256 must be a non-zero sha256" (isDigest (.str A.subjectSha256))
  guardError "--subject-bytes must be positive" (0 < A.subjectBytes)
  let _ ← A.subjectTexts.mapM fun p => guardError s!"--{p.1} must be non-empty" (!isBlank p.2)
  .ok [("subject_id", .str A.subjectId), ("name", .str A.subjectName), ("role", .str A.subjectRole), ("path", .str A.subjectPath),
    ("sha256", .str A.subjectSha256), ("bytes", .int A.subjectBytes), ("scan_mode", .str A.scanMode)]

/-- The path of the raw evidence in the report: relative to the output where it stands below it. -/
def Args.rawRel : String :=
  A.rawPath.getD (toString (if A.rawJson.root = A.outputRoot.root ∧ A.outputRoot.names <+: A.rawJson.names then
    ⟨"", A.rawJson.names.drop A.outputRoot.names.length⟩ else A.rawJson))

/-- What `create_command` collects before it writes the report. -/
def collect (T : FileTree) : Except String (Collected × Fields) := do
  guardError "--source-sha must be a lowercase git commit sha" (isHex 40 A.sourceSha)
  let raw ← heldFile T "--raw-json is missing or empty" A.rawJson
  let document ← readDocument L T A.rawJson
  let found ← foundSeverities L document (L.lower A.tool)
  let env ← collectEnv L A T
  let argv ← collectArgv L A T
  let scanner ← collectScanner L A T
  guardError "--scanner-db-digest must be sha256:<digest> or a non-zero sha256" (isDigest (.str A.scannerDbSha))
  let graph ← heldFile T "--subject-graph missing or empty" A.subjectGraph
  let subject ← subjectFromArgs A
  .ok (⟨L.hexdigest raw, raw.length, found, env, argv, scanner.1, scanner.2, L.hexdigest graph, graph.length⟩, subject)

/-- The scanner as the report has it. -/
def scannerFields (C : Collected) : Fields :=
  [("name", .str A.tool), ("version", .str A.toolVersion), ("sha256", .str C.scannerSha256)] ++
    C.scannerFile.toList.flatMap fun file => [("path", .str (toString file.1)), ("bytes", .int file.2)]

/-- The digest of the replay. -/
def outputSha256 (C : Collected) : String := canonicalReplaySha256 L float (.str C.rawSha256) (severityCounts C.found)

def graphFields (C : Collected) : Fields :=
  [("path", .str (toString A.subjectGraph)), ("sha256", .str C.graphSha256), ("bytes", .int C.graphBytes)]

def invocationFields (C : Collected) : Fields :=
  [("argv", .list (C.argv.map .str)), ("env", .dict C.env), ("env_sha256", .str (canonicalSha256 L float C.env)),
    ("working_dir_policy", .str A.workingDirPolicy)]

def scannerDbFields : Fields :=
  [("type", .str A.scannerDbType), ("version", .str A.scannerDbVersion), ("created_at", .str A.scannerDbCreatedAt),
    ("digest", .str A.fullDbDigest), ("archive_sha256", .str A.scannerDbSha), ("auto_update_disabled", .bool true)]

def rawFields (C : Collected) : Fields := [("path", .str A.rawRel), ("sha256", .str C.rawSha256), ("bytes", .int C.rawBytes)]

def replayFields (C : Collected) : Fields :=
  [("status", .str "passed"), ("raw_sha256", .str C.rawSha256), ("severity_counts", .dict (severityCounts C.found)),
    ("output_sha256", .str (outputSha256 L float C))]

def documentFields (path sha256 : String) : Fields := [("path", .str path), ("sha256", .str sha256)]

/-- The report. -/
def reportFields (C : Collected) (subject : Fields) : Fields :=
  [("schema_version", .str reportSchemaVersion), ("version", .str A.version), ("source_sha", .str A.sourceSha),
    ("source_run_id", .str A.sourceRunId), ("source_run_attempt", .str A.sourceRunAttempt), ("scan", .str A.scan),
    ("status", .str "passed"), ("generated_at", .str now), ("tool", .str A.tool), ("tool_version", .str A.toolVersion),
    ("subject_id", .str A.subjectId), ("subject_graph_sha256", .str C.graphSha256), ("subject_graph", .dict (graphFields A C)),
    ("scanner_binary", .dict (scannerFields A C)), ("invocation", .dict (invocationFields L float A C)),
    ("scanner_db", .dict (scannerDbFields A)), ("subjects", .list [.dict subject]), ("raw", .dict (rawFields A C)),
    ("severity_counts", .dict (severityCounts C.found)), ("replay", .dict (replayFields L float C)),
    ("sbom", .dict (documentFields A.sbomPath A.sbomSha256)), ("vex", .dict (documentFields A.vexPath A.vexSha256))]

/-- The text that `write_json` writes. -/
def writtenText (fields : Fields) : List Char := JsonText.write (JsonText.indented float) 0 (Value.dict fields).sortKeys ++ ['\n']

/-- Where the report is written. -/
def Args.out : PosixPath :=
  A.output.getD ((A.outputRoot.join (PosixPath.ofString A.version)).join (PosixPath.ofString (A.scan ++ ".json")))

/-- How a run ends: the status, the files, and whether it wrote the report. -/
structure Outcome where
  exit : Nat
  tree : FileTree
  wrote : Bool

/-- The end of a run that has collected everything. -/
def finish (T : FileTree) (fields : Fields) : Outcome :=
  let saved := T.save A.out.names (Utf8.encode (String.ofList (writtenText float fields)))
  if saved.1 then
    match validateReport L float saved.2 A.out A.rawRoot A.checkFiles with
    | .ok [] => ⟨0, saved.2, true⟩
    | _ => ⟨1, saved.2, true⟩
  else ⟨1, saved.2, false⟩

/-- `create_command`. -/
def createCommand (T : FileTree) : Outcome :=
  match collect L A T with
  | .error _ => ⟨1, T, false⟩
  | .ok (C, subject) => finish L float A T (reportFields L float now A C subject)

/-! ## What is asked of a run -/

/-- A report that a replay with `--check-files` confirms: it counts nothing that blocks, and its counts and its digests are those of the
raw evidence that it names. -/
structure CleanReport (T : FileTree) (path : PosixPath) (rawRoot : Option PosixPath) (report raw counts replay : Fields) (rel : PosixPath)
    (bytes : Bytes) (document : Value) (found : List Severity) : Prop where
  read : readJson L.toPython (treeFiles T) path = .ok (some (.dict report))
  raw_field : field "raw" report = .dict raw
  counts_field : field "severity_counts" report = .dict counts
  replay_field : field "replay" report = .dict replay
  rel_path : safeRelativePath (field "path" raw) = some rel
  file : treeFiles T (rawPlace T path rawRoot rel (field "sha256" raw)) = some bytes
  document_read : readJson L.toPython (treeFiles T) (rawPlace T path rawRoot rel (field "sha256" raw)) = .ok (some document)
  recount : foundSeverities L document (toolOf L report) = .ok found
  critical : field "critical" counts = .int 0
  high : field "high" counts = .int 0
  counts_eq : ∀ severity, field severity.name counts = .int (found.count severity)
  raw_sha256 : field "sha256" raw = .str (L.hexdigest bytes)
  output_sha256 : field "output_sha256" replay = .str (canonicalReplaySha256 L float (.str (L.hexdigest bytes)) (severityCounts found))

/-- The run left a report at the output path that says `passed`. -/
def LeavesPassed (O : Outcome) : Prop :=
  O.wrote = true ∧ ∃ report, readJson L.toPython (treeFiles O.tree) A.out = .ok (some (.dict report)) ∧ field "status" report = .str "passed"

/-- A run that succeeds leaves a clean report, and one that fails leaves none that says `passed`. -/
def Honest (O : Outcome) : Prop :=
  (O.exit = 0 → ∃ report raw counts replay rel bytes document found,
    CleanReport L float O.tree A.out A.rawRoot report raw counts replay rel bytes document found) ∧
  (O.exit = 1 → ¬LeavesPassed L A O)

/-! ## When a run is honest -/

/-- The texts of a report that must be collected. -/
def reportTexts : List String :=
  [A.version, A.sourceSha, A.sourceRunId, A.scan, A.tool, A.toolVersion, now, A.subjectId, toString A.subjectGraph, A.workingDirPolicy,
    A.scannerDbType, A.scannerDbVersion, A.scannerDbCreatedAt, A.fullDbDigest, A.subjectName, A.subjectRole, A.subjectPath, A.scanMode,
    A.sbomPath, A.vexPath, A.rawRel]

/-- The digests of a report that the command does not check itself. -/
def reportDigests (C : Collected) : List String :=
  [C.rawSha256, C.graphSha256, canonicalSha256 L float C.env, outputSha256 L float C, A.sbomSha256, A.vexSha256]

/-- The arguments make a report that the validator accepts, but for its raw evidence. -/
structure Acceptable (C : Collected) : Prop where
  texts : ∀ s ∈ reportTexts now A, Attestation.isPlaceholder (.str s) = false
  digests : ∀ sha ∈ reportDigests L float A C, isDigest (.str sha) = true
  argv : C.argv ≠ []

/-- The file that the report will be taken to mean is the raw evidence, and nothing in it blocks. -/
structure Confirmed (C : Collected) (T : FileTree) (rel : PosixPath) (bytes : Bytes) (document : Value) (found : List Severity) : Prop where
  rel_path : safeRelativePath (.str A.rawRel) = some rel
  file : treeFiles T (rawPlace T A.out A.rawRoot rel (.str C.rawSha256)) = some bytes
  document_read : readJson L.toPython (treeFiles T) (rawPlace T A.out A.rawRoot rel (.str C.rawSha256)) = .ok (some document)
  recount : foundSeverities L document (L.lower A.tool) = .ok found
  digest : L.hexdigest bytes = C.rawSha256
  counts : ∀ severity, found.count severity = C.found.count severity
  critical : .critical ∉ found
  high : .high ∉ found
  size : A.checkFiles = true → bytes.length = C.rawBytes

/-- The report is written to a regular file. -/
def Takes (T : FileTree) (fields : Fields) : Prop :=
  let saved := T.save A.out.names (Utf8.encode (String.ofList (writtenText float fields)))
  saved.1 = true ∧ treeFiles saved.2 A.out = some (Utf8.encode (String.ofList (writtenText float fields)))

end Create

/-! ## The report that is read back -/

section Report

variable {L : Libraries} {float : Double → List Char} {now : String} {A : Args} {C : Collected}

/-- What `collect` has made sure of. -/
structure Checked (A : Args) (C : Collected) : Prop where
  rawBytes : 0 < C.rawBytes
  graphBytes : 0 < C.graphBytes
  env : (Value.dict C.env).UniqueNames
  argv : ∀ item ∈ C.argv, item ≠ ""
  scanner : isDigest (.str C.scannerSha256) = true
  db : isDigest (.str A.scannerDbSha) = true
  subject : isDigest (.str A.subjectSha256) = true
  subjectBytes : 0 < A.subjectBytes

/-- The subject of a report. -/
def subjectFields (A : Args) : Fields :=
  [("subject_id", .str A.subjectId), ("name", .str A.subjectName), ("role", .str A.subjectRole), ("path", .str A.subjectPath),
    ("sha256", .str A.subjectSha256), ("bytes", .int A.subjectBytes), ("scan_mode", .str A.scanMode)]

theorem heldFile_ok {T : FileTree} {message : String} {path : PosixPath} {bytes : Bytes} (h : heldFile T message path = .ok bytes) :
    0 < bytes.length := by
  rw [heldFile, orError_ok_iff, Option.filter_eq_some_iff] at h
  exact List.length_pos_of_ne_nil (by simpa using h.2)

theorem collectEnv_ok {T : FileTree} {env : Fields} (h : collectEnv L A T = .ok env) : (Value.dict env).UniqueNames := by
  unfold collectEnv at h
  split at h
  · obtain rfl := Except.ok.inj h
    exact ⟨List.nodup_nil, trivial⟩
  · obtain ⟨document, _, h⟩ := bind_ok_iff.1 h
    rw [orError_ok_iff] at h
    have hunique := uniqueNames_unique document
    cases hdocument : document.unique with
    | dict fields =>
      rw [hdocument] at h hunique
      obtain rfl := Option.some.inj h
      exact hunique
    | _ =>
      rw [hdocument] at h
      cases h

theorem collectArgv_ok {T : FileTree} {argv : List String} (h : collectArgv L A T = .ok argv) : ∀ item ∈ argv, item ≠ "" := by
  obtain ⟨document, _, h⟩ := bind_ok_iff.1 h
  obtain ⟨items, _, h⟩ := bind_ok_iff.1 h
  intro item hitem
  obtain ⟨_, _, hfilter⟩ := mapM_ok_right h item hitem
  simpa using (Option.filter_eq_some_iff.1 (orError_ok_iff.1 hfilter)).2

theorem checked_of_collect {T : FileTree} {subject : Fields} (h : collect L A T = .ok (C, subject)) :
    Checked A C ∧ subject = subjectFields A := by
  obtain ⟨_, h⟩ := guardError_bind_ok_iff.1 h
  obtain ⟨raw, hraw, h⟩ := bind_ok_iff.1 h
  obtain ⟨document, _, h⟩ := bind_ok_iff.1 h
  obtain ⟨found, _, h⟩ := bind_ok_iff.1 h
  obtain ⟨env, henv, h⟩ := bind_ok_iff.1 h
  obtain ⟨argv, hargv, h⟩ := bind_ok_iff.1 h
  obtain ⟨scanner, hscanner, h⟩ := bind_ok_iff.1 h
  obtain ⟨hdb, h⟩ := guardError_bind_ok_iff.1 h
  obtain ⟨graph, hgraph, h⟩ := bind_ok_iff.1 h
  obtain ⟨subject', hsubject, h⟩ := bind_ok_iff.1 h
  obtain ⟨rfl, rfl⟩ := Prod.mk.inj (Except.ok.inj h)
  obtain ⟨hsha, hsubject⟩ := guardError_bind_ok_iff.1 hsubject
  obtain ⟨hbytes, hsubject⟩ := guardError_bind_ok_iff.1 hsubject
  obtain ⟨_, _, hsubject⟩ := bind_ok_iff.1 hsubject
  obtain ⟨given, _, hscanner⟩ := bind_ok_iff.1 hscanner
  obtain ⟨hdigest, hscanner⟩ := guardError_bind_ok_iff.1 hscanner
  obtain rfl := Except.ok.inj hscanner
  refine ⟨⟨heldFile_ok hraw, heldFile_ok hgraph, collectEnv_ok henv, collectArgv_ok hargv, hdigest, hdb, hsha, ?_⟩,
    (Except.ok.inj hsubject).symm⟩
  exact of_decide_eq_true hbytes

/-- The report as `json.loads` gives it. -/
def readBack (L : Libraries) (float : Double → List Char) (now : String) (A : Args) (C : Collected) : Fields :=
  sorted (reportFields L float now A C (subjectFields A))

theorem field_readBack {name : String} {v : Value} (h : field name (reportFields L float now A C (subjectFields A)) = v) :
    field name (readBack L float now A C) = v.sortKeys := by
  have hnodup : ((reportFields L float now A C (subjectFields A)).map (·.1)).Nodup :=
    show ["schema_version", "version", "source_sha", "source_run_id", "source_run_attempt", "scan", "status", "generated_at", "tool",
      "tool_version", "subject_id", "subject_graph_sha256", "subject_graph", "scanner_binary", "invocation", "scanner_db", "subjects",
      "raw", "severity_counts", "replay", "sbom", "vex"].Nodup by decide
  rw [readBack, field_sorted hnodup, h]

theorem checkCollected_eq_nil {path message : String} {names : List String} {fields : Fields} :
    checkCollected path message names fields = [] ↔ ∀ name ∈ names, Attestation.isPlaceholder (field name fields) = false := by
  simp only [checkCollected, List.flatMap_eq_nil_iff, failUnless_eq_nil, Bool.not_eq_true']

theorem checkDigest_eq_nil {name : String} {v : Value} : checkDigest name v = [] ↔ isDigest v = true := failUnless_eq_nil

theorem isIntFrom_one {n : Nat} (h : 0 < n) : isIntFrom 1 (.int n) = true := by
  simp only [isIntFrom, asInt, Option.any_some, decide_eq_true_eq]
  omega

theorem subjectGraph_accepted (h : Checked A C) :
    subjectGraphFailures (readBack L float now A C) = [] ↔ Attestation.isPlaceholder (.str (toString A.subjectGraph)) = false := by
  have hnodup : ((graphFields A C).map (·.1)).Nodup := show ["path", "sha256", "bytes"].Nodup by decide
  have hgraph : field "subject_graph" (readBack L float now A C) = .dict (sorted (graphFields A C)) := field_readBack rfl
  have hsha : field "subject_graph_sha256" (readBack L float now A C) = .str C.graphSha256 := field_readBack rfl
  have hpath : field "path" (sorted (graphFields A C)) = .str (toString A.subjectGraph) := field_sorted hnodup _
  have hinner : field "sha256" (sorted (graphFields A C)) = .str C.graphSha256 := field_sorted hnodup _
  have hbytes : field "bytes" (sorted (graphFields A C)) = .int C.graphBytes := field_sorted hnodup _
  have hsame : (Value.str C.graphSha256).pyEq (.str C.graphSha256) = true := pyEq_str_iff.2 rfl
  rw [subjectGraphFailures, hgraph, objectFailures, hsha, hinner, hbytes]
  simp only [List.append_eq_nil_iff, failUnless_eq_nil, checkCollected_eq_nil, List.forall_mem_singleton, hsame, hpath,
    isIntFrom_one h.graphBytes, true_and, and_true]

theorem scannerBinary_accepted (h : Checked A C) : scannerBinaryFailures (readBack L float now A C) = [] ↔
    Attestation.isPlaceholder (.str A.tool) = false ∧ Attestation.isPlaceholder (.str A.toolVersion) = false := by
  have hnodup : ((scannerFields A C).map (·.1)).Nodup := by
    cases hfile : C.scannerFile with
    | none => rw [scannerFields, hfile]; exact show ["name", "version", "sha256"].Nodup by decide
    | some file => rw [scannerFields, hfile]; exact show ["name", "version", "sha256", "path", "bytes"].Nodup by decide
  have hlookup : ∀ name ∉ ["path", "bytes"], field name (scannerFields A C) =
      field name [("name", .str A.tool), ("version", .str A.toolVersion), ("sha256", .str C.scannerSha256)] := by
    intro name hname
    simp only [List.mem_cons, List.not_mem_nil, or_false, not_or] at hname
    cases hfile : C.scannerFile with
    | none => rw [scannerFields, hfile]; rfl
    | some file =>
      simp [scannerFields, hfile, field, lookup, Ne.symm hname.1, Ne.symm hname.2]
  have hbinary : field "scanner_binary" (readBack L float now A C) = .dict (sorted (scannerFields A C)) := field_readBack rfl
  have hname : field "name" (sorted (scannerFields A C)) = .str A.tool := by
    rw [field_sorted hnodup, hlookup _ (by decide)]; rfl
  have hversion : field "version" (sorted (scannerFields A C)) = .str A.toolVersion := by
    rw [field_sorted hnodup, hlookup _ (by decide)]; rfl
  have hsha : field "sha256" (sorted (scannerFields A C)) = .str C.scannerSha256 := by
    rw [field_sorted hnodup, hlookup _ (by decide)]; rfl
  rw [scannerBinaryFailures, hbinary, objectFailures, hsha]
  simp only [List.append_eq_nil_iff, checkDigest_eq_nil, checkCollected_eq_nil, List.forall_mem_cons, List.not_mem_nil, hname, hversion,
    h.scanner, and_true, IsEmpty.forall_iff, implies_true]

theorem sortKeys_strs (items : List String) : (Value.list (items.map .str)).sortKeys = .list (items.map .str) := by
  rw [sortKeys, sortKeysItems_eq_map, List.map_map]
  rfl

/-- An object has the digest of its members in any order. -/
theorem canonicalSha256_sorted {env : Fields} (h : (Value.dict env).UniqueNames) :
    canonicalSha256 L float (sorted env) = canonicalSha256 L float env := by
  obtain ⟨hunique, hsorted⟩ := sortKeys_sortKeys h
  rw [canonicalSha256, canonicalSha256, ← sortKeys_dict, unique_eq hunique, hsorted, unique_eq h]

theorem invocation_accepted (h : Checked A C) : invocationFailures L float (readBack L float now A C) = [] ↔
    C.argv ≠ [] ∧ isDigest (.str (canonicalSha256 L float C.env)) = true ∧ Attestation.isPlaceholder (.str A.workingDirPolicy) = false := by
  have hnodup : ((invocationFields L float A C).map (·.1)).Nodup :=
    show ["argv", "env", "env_sha256", "working_dir_policy"].Nodup by decide
  have hinvocation : field "invocation" (readBack L float now A C) = .dict (sorted (invocationFields L float A C)) := field_readBack rfl
  have hargv : field "argv" (sorted (invocationFields L float A C)) = .list (C.argv.map .str) :=
    (field_sorted hnodup _).trans (sortKeys_strs C.argv)
  have henv : field "env" (sorted (invocationFields L float A C)) = .dict (sorted C.env) := field_sorted hnodup _
  have hsha : field "env_sha256" (sorted (invocationFields L float A C)) = .str (canonicalSha256 L float C.env) := field_sorted hnodup _
  have hpolicy : field "working_dir_policy" (sorted (invocationFields L float A C)) = .str A.workingDirPolicy := field_sorted hnodup _
  have hitems : (C.argv.map Value.str).all (fun item => item.asStr.any (· ≠ "")) = true := by
    simpa [List.all_eq_true, asStr] using h.argv
  have henvironment : environmentFailures L float (sorted (invocationFields L float A C)) = [] ↔
      isDigest (.str (canonicalSha256 L float C.env)) = true := by
    rw [environmentFailures, henv, hsha, asStr, Option.filter_some]
    by_cases hdigest : isDigest (.str (canonicalSha256 L float C.env)) = true
    · rw [if_pos hdigest]
      simp [asDict, canonicalSha256_sorted h.env, failUnless, hdigest]
    · rw [if_neg hdigest]
      simp [hdigest]
  rw [invocationFailures, hinvocation, objectFailures, hargv]
  simp only [List.append_eq_nil_iff, failUnless_eq_nil, henvironment, checkCollected_eq_nil, List.forall_mem_singleton, hpolicy, asList,
    Option.any_some, hitems, Bool.and_true, Bool.not_eq_true', List.isEmpty_eq_false_iff, ne_eq, List.map_eq_nil_iff, and_assoc]

theorem subjects_accepted (h : Checked A C) : scannedSubjectsFailures (readBack L float now A C) = [] ↔
    ∀ s ∈ [A.subjectId, A.subjectName, A.subjectRole, A.subjectPath, A.scanMode], Attestation.isPlaceholder (.str s) = false := by
  have hnodup : ((subjectFields A).map (·.1)).Nodup :=
    show ["subject_id", "name", "role", "path", "sha256", "bytes", "scan_mode"].Nodup by decide
  have hsubjects : field "subjects" (readBack L float now A C) = .list [.dict (sorted (subjectFields A))] := field_readBack rfl
  have hid : field "subject_id" (sorted (subjectFields A)) = .str A.subjectId := field_sorted hnodup _
  have hname : field "name" (sorted (subjectFields A)) = .str A.subjectName := field_sorted hnodup _
  have hrole : field "role" (sorted (subjectFields A)) = .str A.subjectRole := field_sorted hnodup _
  have hpath : field "path" (sorted (subjectFields A)) = .str A.subjectPath := field_sorted hnodup _
  have hsha : field "sha256" (sorted (subjectFields A)) = .str A.subjectSha256 := field_sorted hnodup _
  have hbytes : field "bytes" (sorted (subjectFields A)) = .int A.subjectBytes := field_sorted hnodup _
  have hmode : field "scan_mode" (sorted (subjectFields A)) = .str A.scanMode := field_sorted hnodup _
  have hpositive : isIntFrom 1 (.int A.subjectBytes) = true := by
    have := h.subjectBytes
    simp only [isIntFrom, asInt, Option.any_some, decide_eq_true_eq]
    omega
  rw [scannedSubjectsFailures, hsubjects]
  simp only [List.zipIdx_singleton, List.flatMap_singleton, objectFailures, scannedSubjectFailures, List.append_eq_nil_iff,
    failUnless_eq_nil, checkCollected_eq_nil, checkDigest_eq_nil, List.forall_mem_cons, List.not_mem_nil, IsEmpty.forall_iff,
    implies_true, and_true, hid, hname, hrole, hpath, hsha, hbytes, hmode, h.subject, hpositive, and_assoc]

/-- The digest of the database is the one without the algorithm after the algorithm. -/
theorem Args.fullDbDigest_eq (A : Args) : A.fullDbDigest = "sha256:" ++ A.scannerDbSha := by
  unfold Args.fullDbDigest Args.scannerDbSha
  split_ifs with hprefix
  · obtain ⟨rest, hrest⟩ := List.isPrefixOf_iff_prefix.1 hprefix
    refine String.ext ?_
    rw [String.toList_append, ← hrest, List.drop_left]
    exact congrArg ("sha256:".toList ++ ·) String.toList_ofList.symm
  · rfl

theorem scannerDb_accepted (h : Checked A C) : scannerDbFailures (readBack L float now A C) = [] ↔
    ∀ s ∈ [A.scannerDbType, A.scannerDbVersion, A.scannerDbCreatedAt, A.fullDbDigest], Attestation.isPlaceholder (.str s) = false := by
  have hnodup : ((scannerDbFields A).map (·.1)).Nodup :=
    show ["type", "version", "created_at", "digest", "archive_sha256", "auto_update_disabled"].Nodup by decide
  have hdb : field "scanner_db" (readBack L float now A C) = .dict (sorted (scannerDbFields A)) := field_readBack rfl
  have htype : field "type" (sorted (scannerDbFields A)) = .str A.scannerDbType := field_sorted hnodup _
  have hversion : field "version" (sorted (scannerDbFields A)) = .str A.scannerDbVersion := field_sorted hnodup _
  have hcreated : field "created_at" (sorted (scannerDbFields A)) = .str A.scannerDbCreatedAt := field_sorted hnodup _
  have hdigest : field "digest" (sorted (scannerDbFields A)) = .str A.fullDbDigest := field_sorted hnodup _
  have harchive : field "archive_sha256" (sorted (scannerDbFields A)) = .str A.scannerDbSha := field_sorted hnodup _
  have hdisabled : field "auto_update_disabled" (sorted (scannerDbFields A)) = .bool true := field_sorted hnodup _
  have hfailures : archiveFailures (sorted (scannerDbFields A)) = [] := by
    rw [archiveFailures, harchive, hdigest, asStr, Option.filter_some, if_pos h.db]
    simp [asStr, A.fullDbDigest_eq, failUnless]
  rw [scannerDbFailures, hdb, objectFailures, hfailures, hdisabled]
  simp only [List.append_eq_nil_iff, failUnless_eq_nil, checkCollected_eq_nil, List.forall_mem_cons, List.not_mem_nil,
    IsEmpty.forall_iff, implies_true, and_true, htype, hversion, hcreated, hdigest, Value.isTrue]

theorem document_accepted {fields : Fields} {name path sha : String}
    (h : field name fields = .dict (sorted (documentFields path sha))) : documentFailures fields name = [] ↔
    Attestation.isPlaceholder (.str path) = false ∧ isDigest (.str sha) = true := by
  have hnodup : ((documentFields path sha).map (·.1)).Nodup := show ["path", "sha256"].Nodup by decide
  have hpath : field "path" (sorted (documentFields path sha)) = .str path := field_sorted hnodup _
  have hsha : field "sha256" (sorted (documentFields path sha)) = .str sha := field_sorted hnodup _
  rw [documentFailures, h, objectFailures, hsha]
  simp only [List.append_eq_nil_iff, checkCollected_eq_nil, checkDigest_eq_nil, List.forall_mem_singleton, hpath]

theorem nodup_replayFields : ((replayFields L float C).map (·.1)).Nodup :=
  show ["status", "raw_sha256", "severity_counts", "output_sha256"].Nodup by decide

theorem replay_field : field "replay" (readBack L float now A C) = .dict (sorted (replayFields L float C)) := field_readBack rfl

theorem output_sha256_field : field "output_sha256" (sorted (replayFields L float C)) = .str (outputSha256 L float C) :=
  field_sorted nodup_replayFields _

theorem replay_accepted : SecurityReport.replayFailures (readBack L float now A C) = [] ↔ isDigest (.str (outputSha256 L float C)) = true := by
  have hstatus : field "status" (sorted (replayFields L float C)) = .str "passed" := field_sorted nodup_replayFields _
  have hpassed : (Value.str "passed").pyEq (.str "passed") = true := pyEq_str_iff.2 rfl
  rw [SecurityReport.replayFailures, replay_field, objectFailures, hstatus, output_sha256_field]
  simp only [List.append_eq_nil_iff, failUnless_eq_nil, checkDigest_eq_nil, hpassed, true_and]

theorem fieldFailures_readBack (h : Checked A C) : fieldFailures L float (readBack L float now A C) = [] ↔
    (∀ s ∈ (reportTexts now A).dropLast, Attestation.isPlaceholder (.str s) = false) ∧
      (∀ sha ∈ (reportDigests L float A C).drop 1, isDigest (.str sha) = true) ∧ C.argv ≠ [] := by
  have hschema : field "schema_version" (readBack L float now A C) = .str reportSchemaVersion := field_readBack rfl
  have hversion : field "version" (readBack L float now A C) = .str A.version := field_readBack rfl
  have hsource : field "source_sha" (readBack L float now A C) = .str A.sourceSha := field_readBack rfl
  have hrun : field "source_run_id" (readBack L float now A C) = .str A.sourceRunId := field_readBack rfl
  have hscan : field "scan" (readBack L float now A C) = .str A.scan := field_readBack rfl
  have htool : field "tool" (readBack L float now A C) = .str A.tool := field_readBack rfl
  have htoolVersion : field "tool_version" (readBack L float now A C) = .str A.toolVersion := field_readBack rfl
  have hgenerated : field "generated_at" (readBack L float now A C) = .str now := field_readBack rfl
  have hsubject : field "subject_id" (readBack L float now A C) = .str A.subjectId := field_readBack rfl
  have hgraph : field "subject_graph_sha256" (readBack L float now A C) = .str C.graphSha256 := field_readBack rfl
  have hcurrent : (Value.str reportSchemaVersion).pyEq (.str reportSchemaVersion) = true := pyEq_str_iff.2 rfl
  have hsbom : field "sbom" (readBack L float now A C) = .dict (sorted (documentFields A.sbomPath A.sbomSha256)) := field_readBack rfl
  have hvex : field "vex" (readBack L float now A C) = .dict (sorted (documentFields A.vexPath A.vexSha256)) := field_readBack rfl
  simp only [fieldFailures, List.append_eq_nil_iff, failUnless_eq_nil, checkCollected_eq_nil, checkDigest_eq_nil, List.forall_mem_cons,
    List.not_mem_nil, IsEmpty.forall_iff, implies_true, and_true, hschema, hversion, hsource, hrun, hscan, htool, htoolVersion, hgenerated,
    hsubject, hgraph, hcurrent, true_and, subjectGraph_accepted h, scannerBinary_accepted h, invocation_accepted h, subjects_accepted h,
    scannerDb_accepted h, document_accepted hsbom, document_accepted hvex, replay_accepted, reportTexts, reportDigests, List.dropLast,
    List.drop_succ_cons, List.drop_zero]
  constructor
  · rintro ⟨⟨⟨⟨⟨⟨⟨⟨⟨⟨hv, hs, hr, hc, ht, htv, hg, hi⟩, hgd⟩, hgp⟩, -⟩, ha, he, hw⟩, -, hn, hro, hp, hm⟩, hd₁, hd₂, hd₃, hd₄⟩, hb, hbd⟩,
      hx, hxd⟩, ho⟩
    exact ⟨⟨hv, hs, hr, hc, ht, htv, hg, hi, hgp, hw, hd₁, hd₂, hd₃, hd₄, hn, hro, hp, hm, hb, hx⟩, ⟨hgd, he, ho, hbd, hxd⟩, ha⟩
  · rintro ⟨⟨hv, hs, hr, hc, ht, htv, hg, hi, hgp, hw, hd₁, hd₂, hd₃, hd₄, hn, hro, hp, hm, hb, hx⟩, ⟨hgd, he, ho, hbd, hxd⟩, ha⟩
    exact ⟨⟨⟨⟨⟨⟨⟨⟨⟨⟨hv, hs, hr, hc, ht, htv, hg, hi⟩, hgd⟩, hgp⟩, ht, htv⟩, ha, he, hw⟩, hi, hn, hro, hp, hm⟩, hd₁, hd₂, hd₃, hd₄⟩, hb, hbd⟩,
      hx, hxd⟩, ho⟩

/-! ## The raw evidence of the report -/

theorem nodup_severityCounts (found : List Severity) : ((severityCounts found).map (·.1)).Nodup :=
  show ["critical", "high", "medium", "low", "unknown"].Nodup by decide

theorem lookup_severityCounts (severity : Severity) (found : List Severity) :
    lookup severity.name (sorted (severityCounts found)) = some (.int (found.count severity)) := by
  rw [lookup_sorted (nodup_severityCounts found)]
  cases severity <;> rfl

theorem field_severityCounts (severity : Severity) (found : List Severity) :
    field severity.name (sorted (severityCounts found)) = .int (found.count severity) := by
  rw [field, lookup_severityCounts, Option.getD_some]

theorem severityCounts_inj {found found' : List Severity} (h : ∀ severity, found.count severity = found'.count severity) :
    severityCounts found = severityCounts found' := by
  simp only [severityCounts, h]

theorem counts_self (found : List Severity) :
    (Value.dict (sorted (severityCounts found))).pyEq (.dict (sorted (severityCounts found))) = true := by
  have hunique : (Value.dict (severityCounts found)).UniqueNames :=
    ⟨nodup_severityCounts found, by simp [severityCounts, UniqueNamesFields, Severity.all, UniqueNames]⟩
  have hplain : (Value.dict (severityCounts found)).plain = true := rfl
  rw [← sortKeys_dict]
  exact pyEq_self (sortKeys_sortKeys hunique).1 (plain_sortKeys hplain)

theorem counts_field : field "severity_counts" (readBack L float now A C) = .dict (sorted (severityCounts C.found)) := field_readBack rfl

theorem countFailures_readBack {raw : Fields} {found : List Severity} (hraw : field "sha256" raw = .str C.rawSha256) :
    countFailures L float (readBack L float now A C) raw found = [] ↔
      (∀ severity, found.count severity = C.found.count severity) ∧ .critical ∉ found ∧ .high ∉ found := by
  have hsha : field "raw_sha256" (sorted (replayFields L float C)) = .str C.rawSha256 := field_sorted nodup_replayFields _
  have hcounts : field "severity_counts" (sorted (replayFields L float C)) = .dict (sorted (severityCounts C.found)) :=
    field_sorted nodup_replayFields _
  have hall : ∀ severity, severity ∈ Severity.all := by intro severity; cases severity <;> decide
  have heq : (∀ severity, found.count severity = C.found.count severity) →
      (Value.str (outputSha256 L float C)).pyEq (.str (canonicalReplaySha256 L float (.str C.rawSha256) (severityCounts found))) = true := by
    intro h
    rw [severityCounts_inj h]
    exact pyEq_str_iff.2 rfl
  rw [countFailures, counts_field]
  simp only [replay_field, asDict, Option.toList_some, List.flatMap_singleton, List.append_eq_nil_iff, List.flatMap_eq_nil_iff,
    failUnless_eq_nil, lookup_severityCounts, Option.getD_some, pyEq_int, beq_iff_eq, Nat.cast_inj, hsha, hraw, hcounts, counts_self,
    output_sha256_field, Bool.and_eq_true, Bool.not_eq_true', List.contains_eq_mem, decide_eq_false_iff_not, pyEq_str, true_and]
  simp only [pyEq_str, beq_iff_eq] at heq
  refine ⟨fun h => ⟨fun severity => (h.1.1 severity (hall severity)).symm, h.2⟩, fun h => ⟨⟨fun severity _ => (h.1 severity).symm, ?_⟩, h.2⟩⟩
  exact heq h.1

theorem nodup_rawFields : ((rawFields A C).map (·.1)).Nodup := show ["path", "sha256", "bytes"].Nodup by decide

theorem raw_sha256_field : field "sha256" (sorted (rawFields A C)) = .str C.rawSha256 := field_sorted nodup_rawFields _

theorem toolOf_readBack : toolOf L (readBack L float now A C) = L.lower A.tool := by
  have htool : field "tool" (readBack L float now A C) = .str A.tool := field_readBack rfl
  have hlookup : lookup "tool" (readBack L float now A C) = some (.str A.tool) := by
    rw [field] at htool
    cases hl : lookup "tool" (readBack L float now A C) with
    | none => rw [hl] at htool; cases htool
    | some v => rw [hl] at htool; exact congrArg some htool
  rw [toolOf, hlookup]
  rfl

variable {T : FileTree}

/-- The file that the report is taken to mean is replayed without a failure. -/
theorem rawFileFailures_readBack {place : PosixPath} :
    rawFileFailures L float T (readBack L float now A C) (sorted (rawFields A C)) place = .ok [] ↔
      ∃ bytes document found, treeFiles T place = some bytes ∧ readJson L.toPython (treeFiles T) place = .ok (some document) ∧
        foundSeverities L document (L.lower A.tool) = .ok found ∧ bytes.length = C.rawBytes ∧ L.hexdigest bytes = C.rawSha256 ∧
        (∀ severity, found.count severity = C.found.count severity) ∧ .critical ∉ found ∧ .high ∉ found := by
  have hbytes : field "bytes" (sorted (rawFields A C)) = .int C.rawBytes := field_sorted nodup_rawFields _
  rw [rawFileFailures]
  cases hfile : treeFiles T place with
  | none => simp
  | some bytes =>
    simp only [Option.some.injEq, bind_ok_iff, Except.ok.injEq, List.append_eq_nil_iff, failUnless_eq_nil, hbytes, pyEq_int,
      raw_sha256_field, pyEq_str, beq_iff_eq, Nat.cast_inj]
    constructor
    · rintro ⟨payload, hpayload, counts, hcounts, ⟨hlength, hdigest⟩, rfl⟩
      cases payload with
      | none => simp [recountFailures] at hcounts
      | some document =>
        obtain ⟨found, hfound, hcounts⟩ := bind_ok_iff.1 hcounts
        rw [toolOf_readBack] at hfound
        exact ⟨bytes, document, found, rfl, hpayload, hfound, hlength.symm, hdigest.symm,
          (countFailures_readBack raw_sha256_field).1 (Except.ok.inj hcounts)⟩
    · rintro ⟨_, document, found, rfl, hpayload, hfound, hlength, hdigest, hcounts⟩
      refine ⟨some document, hpayload, [], ?_, ⟨hlength.symm, hdigest.symm⟩, rfl⟩
      exact bind_ok_iff.2 ⟨found, by rw [toolOf_readBack, hfound], congrArg Except.ok ((countFailures_readBack raw_sha256_field).2 hcounts)⟩

/-- Where the raw evidence of the report is, and what of it is looked at. -/
theorem rawFailures_readBack (h : Checked A C) :
    rawFailures L float T A.out A.rawRoot A.checkFiles (readBack L float now A C) = .ok [] ↔
      Attestation.isPlaceholder (.str A.rawRel) = false ∧ isDigest (.str C.rawSha256) = true ∧
        ∃ rel, safeRelativePath (.str A.rawRel) = some rel ∧ (A.checkFiles = true →
          rawFileFailures L float T (readBack L float now A C) (sorted (rawFields A C)) (rawPlace T A.out A.rawRoot rel (.str C.rawSha256)) =
            .ok []) := by
  have hraw : field "raw" (readBack L float now A C) = .dict (sorted (rawFields A C)) := field_readBack rfl
  have hpath : field "path" (sorted (rawFields A C)) = .str A.rawRel := field_sorted nodup_rawFields _
  have hbytes : field "bytes" (sorted (rawFields A C)) = .int C.rawBytes := field_sorted nodup_rawFields _
  rw [rawFailures, hraw]
  simp only [hpath, raw_sha256_field, hbytes, isIntFrom_one h.rawBytes, checkDigest]
  by_cases hplaceholder : Attestation.isPlaceholder (.str A.rawRel) = true
  · simp [hplaceholder]
  · rw [if_neg hplaceholder]
    cases hrel : safeRelativePath (.str A.rawRel) with
    | none => simp
    | some rel =>
      simp only [Option.some.injEq, exists_eq_left', bind_ok_iff, Except.ok.injEq, List.append_eq_nil_iff, failUnless_eq_nil, and_true,
        Bool.eq_false_of_not_eq_true hplaceholder, true_and]
      cases hfiles : A.checkFiles with
      | true => simp [and_comm]
      | false => simp

/-! ## The end of a run -/

theorem readJson_written {place : PosixPath} {text : List Char} {v : Value} (hloads : L.loads (PyText.universalNewlines text) = some v)
    (hfile : treeFiles T place = some (Utf8.encode (String.ofList text))) : readJson L.toPython (treeFiles T) place = .ok (some v) := by
  rw [readJson, hfile]
  change (orError _ (Utf8.decode _) >>= fun text => .ok (L.loads (PyText.universalNewlines text.toList))) = _
  rw [Utf8.decode_encode, orError_some, ok_bind, String.toList_ofList, hloads]

/-- The report is accepted exactly when the arguments are fit for one and the raw evidence, where it is looked at, is replayed. -/
theorem validateReport_readBack (h : Checked A C)
    (hread : readJson L.toPython (treeFiles T) A.out = .ok (some (.dict (readBack L float now A C)))) :
    validateReport L float T A.out A.rawRoot A.checkFiles = .ok [] ↔
      Acceptable L float now A C ∧ ∃ rel, safeRelativePath (.str A.rawRel) = some rel ∧ (A.checkFiles = true →
        rawFileFailures L float T (readBack L float now A C) (sorted (rawFields A C)) (rawPlace T A.out A.rawRoot rel (.str C.rawSha256)) =
          .ok []) := by
  have hvalid : validateReport L float T A.out A.rawRoot A.checkFiles = .ok [] ↔
      fieldFailures L float (readBack L float now A C) = [] ∧
        rawFailures L float T A.out A.rawRoot A.checkFiles (readBack L float now A C) = .ok [] := by
    rw [validateReport, hread, ok_bind]
    simp only [bind_ok_iff, Except.ok.injEq, List.map_eq_nil_iff, List.append_eq_nil_iff]
    exact ⟨fun ⟨raw, hraw, hfields, hnil⟩ => ⟨hfields, hnil ▸ hraw⟩, fun ⟨hfields, hraw⟩ => ⟨[], hraw, hfields, rfl⟩⟩
  have hacceptable : Acceptable L float now A C ↔
      ((∀ s ∈ (reportTexts now A).dropLast, Attestation.isPlaceholder (.str s) = false) ∧
        (∀ sha ∈ (reportDigests L float A C).drop 1, isDigest (.str sha) = true) ∧ C.argv ≠ []) ∧
      Attestation.isPlaceholder (.str A.rawRel) = false ∧ isDigest (.str C.rawSha256) = true := by
    have htexts : reportTexts now A = (reportTexts now A).dropLast ++ [A.rawRel] := rfl
    have hdigests : reportDigests L float A C = C.rawSha256 :: (reportDigests L float A C).drop 1 := rfl
    constructor
    · rintro ⟨ht, hd, ha⟩
      rw [htexts, List.forall_mem_append, List.forall_mem_singleton] at ht
      rw [hdigests, List.forall_mem_cons] at hd
      exact ⟨⟨ht.1, hd.2, ha⟩, ht.2, hd.1⟩
    · rintro ⟨⟨ht, hd, ha⟩, hrel, hraw⟩
      refine ⟨?_, ?_, ha⟩
      · rw [htexts, List.forall_mem_append, List.forall_mem_singleton]
        exact ⟨ht, hrel⟩
      · rw [hdigests, List.forall_mem_cons]
        exact ⟨hraw, hd⟩
  rw [hvalid, fieldFailures_readBack h, rawFailures_readBack h, hacceptable]
  simp only [and_assoc]

/-- A confirmed report is clean. -/
theorem Confirmed.clean {rel : PosixPath} {bytes : Bytes} {document : Value} {found : List Severity}
    (h : Confirmed L A C T rel bytes document found)
    (hread : readJson L.toPython (treeFiles T) A.out = .ok (some (.dict (readBack L float now A C)))) :
    CleanReport L float T A.out A.rawRoot (readBack L float now A C) (sorted (rawFields A C)) (sorted (severityCounts C.found))
      (sorted (replayFields L float C)) rel bytes document found where
  read := hread
  raw_field := field_readBack rfl
  counts_field := counts_field
  replay_field := replay_field
  rel_path := by rw [show field "path" (sorted (rawFields A C)) = .str A.rawRel from field_sorted nodup_rawFields _, h.rel_path]
  file := by rw [raw_sha256_field, h.file]
  document_read := by rw [raw_sha256_field, h.document_read]
  recount := by rw [toolOf_readBack, h.recount]
  critical := by
    have := field_severityCounts .critical C.found
    rwa [← h.counts, List.count_eq_zero_of_not_mem h.critical] at this
  high := by
    have := field_severityCounts .high C.found
    rwa [← h.counts, List.count_eq_zero_of_not_mem h.high] at this
  counts_eq severity := by rw [field_severityCounts, h.counts]
  raw_sha256 := by rw [raw_sha256_field, h.digest]
  output_sha256 := by rw [output_sha256_field, h.digest, severityCounts_inj h.counts, outputSha256]

/-- A clean report is confirmed, but for the size of its raw evidence. -/
theorem confirmed_of_clean {report raw counts replay : Fields} {rel : PosixPath} {bytes : Bytes} {document : Value} {found : List Severity}
    (h : CleanReport L float T A.out A.rawRoot report raw counts replay rel bytes document found)
    (hread : readJson L.toPython (treeFiles T) A.out = .ok (some (.dict (readBack L float now A C))))
    (hsize : A.checkFiles = true → ∀ rel bytes, safeRelativePath (.str A.rawRel) = some rel →
      treeFiles T (rawPlace T A.out A.rawRoot rel (.str C.rawSha256)) = some bytes → bytes.length = C.rawBytes) :
    Confirmed L A C T rel bytes document found := by
  obtain rfl : readBack L float now A C = report := Value.dict.inj (Option.some.inj (Except.ok.inj (hread.symm.trans h.read)))
  obtain rfl : sorted (rawFields A C) = raw := Value.dict.inj ((field_readBack rfl).symm.trans h.raw_field)
  obtain rfl : sorted (severityCounts C.found) = counts := Value.dict.inj (counts_field.symm.trans h.counts_field)
  have hcounts : ∀ severity, found.count severity = C.found.count severity := by
    intro severity
    have := h.counts_eq severity
    rw [field_severityCounts, Value.int.injEq, Nat.cast_inj] at this
    exact this.symm
  have hnone : ∀ {severity : Severity}, field severity.name (sorted (severityCounts C.found)) = .int 0 → severity ∉ found := by
    intro severity hzero
    rw [h.counts_eq severity, Value.int.injEq, Int.natCast_eq_zero] at hzero
    exact List.count_eq_zero.1 hzero
  have hpath : field "path" (sorted (rawFields A C)) = .str A.rawRel := field_sorted nodup_rawFields _
  have hrel : safeRelativePath (.str A.rawRel) = some rel := hpath ▸ h.rel_path
  have hfile : treeFiles T (rawPlace T A.out A.rawRoot rel (.str C.rawSha256)) = some bytes := raw_sha256_field ▸ h.file
  refine ⟨hrel, hfile, raw_sha256_field ▸ h.document_read, ?_, ?_, hcounts, hnone h.critical, hnone h.high,
    fun hcheck => hsize hcheck rel bytes hrel hfile⟩
  · rw [← h.recount, toolOf_readBack]
  · exact (Value.str.inj (raw_sha256_field.symm.trans h.raw_sha256)).symm

/-- A run that fails before it writes is honest. -/
theorem honest_of_not_wrote (T : FileTree) : Honest L float A ⟨1, T, false⟩ :=
  ⟨fun hexit => absurd hexit Nat.one_ne_zero, fun _ hleaves => absurd hleaves.1 Bool.false_ne_true⟩

/-- The end of a run that has collected everything: it is honest if no report comes to stand, or if the one that does is confirmed. -/
theorem honest_finish_iff (h : Checked A C)
    (hloads : L.loads (PyText.universalNewlines (writtenText float (reportFields L float now A C (subjectFields A)))) =
      some (Value.dict (readBack L float now A C))) :
    Honest L float A (finish L float A T (reportFields L float now A C (subjectFields A))) ↔
      (Takes float A T (reportFields L float now A C (subjectFields A)) →
        Acceptable L float now A C ∧ ∃ rel bytes document found,
          Confirmed L A C (T.save A.out.names (Utf8.encode (String.ofList (writtenText float
            (reportFields L float now A C (subjectFields A)))))).2 rel bytes document found) := by
  rw [finish, Takes]
  generalize hsave : T.save A.out.names (Utf8.encode (String.ofList (writtenText float (reportFields L float now A C (subjectFields A))))) =
    saved
  by_cases hsaved : saved.1 = true
  · rw [if_pos hsaved]
    have hcases := FileTree.read_save (hsave ▸ hsaved)
    rw [hsave] at hcases
    rcases hcases with hwritten | hnone
    · -- the report stands at the output path
      have hread : readJson L.toPython (treeFiles saved.2) A.out = .ok (some (.dict (readBack L float now A C))) :=
        readJson_written hloads hwritten
      have hleaves : LeavesPassed L A ⟨1, saved.2, true⟩ := ⟨rfl, _, hread, field_readBack rfl⟩
      have hvalid := validateReport_readBack h hread
      constructor
      · intro hhonest _
        split at hhonest
        · next hok =>
          obtain ⟨hacceptable, rel, hrel, hfiles⟩ := hvalid.1 hok
          obtain ⟨report, raw, counts, replay, rel', bytes, document, found, hclean⟩ := hhonest.1 rfl
          refine ⟨hacceptable, rel', bytes, document, found, confirmed_of_clean hclean hread fun hcheck rel₁ bytes₁ hrel₁ hfile₁ => ?_⟩
          obtain ⟨bytes₂, _, _, hfile₂, _, _, hlength, _⟩ := rawFileFailures_readBack.1 (hfiles hcheck)
          obtain rfl := Option.some.inj (hrel.symm.trans hrel₁)
          obtain rfl := Option.some.inj (hfile₁.symm.trans hfile₂)
          exact hlength
        · exact absurd hleaves (hhonest.2 rfl)
      · intro hcondition
        obtain ⟨hacceptable, rel, bytes, document, found, hconfirmed⟩ := hcondition ⟨hsaved, hwritten⟩
        have hok : validateReport L float saved.2 A.out A.rawRoot A.checkFiles = .ok [] :=
          hvalid.2 ⟨hacceptable, rel, hconfirmed.rel_path, fun hcheck => rawFileFailures_readBack.2 ⟨bytes, document, found, hconfirmed.file,
            hconfirmed.document_read, hconfirmed.recount, hconfirmed.size hcheck, hconfirmed.digest, hconfirmed.counts,
            hconfirmed.critical, hconfirmed.high⟩⟩
        rw [hok]
        exact ⟨fun _ => ⟨_, _, _, _, _, _, _, _, hconfirmed.clean hread⟩, fun hexit => absurd hexit Nat.zero_ne_one⟩
    · -- a special file took the report in
      have hread : readJson L.toPython (treeFiles saved.2) A.out = .ok none := by rw [readJson, treeFiles, hnone]
      have hfailed : validateReport L float saved.2 A.out A.rawRoot A.checkFiles = .ok [s!"{A.out}: cannot read security report"] := by
        rw [validateReport, hread]
        rfl
      rw [hfailed]
      refine iff_of_true ⟨fun hexit => absurd hexit Nat.one_ne_zero, fun _ hleaves => ?_⟩ fun htakes => ?_
      · obtain ⟨_, report, hreport, _⟩ := hleaves
        cases hread.symm.trans hreport
      · exact absurd (hnone.symm.trans htakes.2) (by simp)
  · rw [if_neg hsaved]
    exact iff_of_true (honest_of_not_wrote saved.2) fun htakes => absurd htakes.1 hsaved

end Report

/-! ### Samples -/

namespace Sample

/-- A scan by trivy, with its output and the graph of the subjects in `in`. -/
def tree (S : SecurityReport.Sample) : FileTree :=
  .ofFiles [(["in", "trivy.json"], documentBytes S.raw), (["in", "subject-graph.json"], documentBytes [])]
    (by simp only [List.map_cons, List.map_nil]; decide)

def args : Args where
  version := sampleVersion
  sourceSha := sampleArgs.sourceSha
  sourceRunId := "7001"
  sourceRunAttempt := "1"
  scan := "trivy"
  tool := "trivy"
  toolVersion := "0.50.1"
  rawJson := ⟨"/", ["in", "trivy.json"]⟩
  rawPath := some "trivy.json"
  rawRoot := some ⟨"/", ["in"]⟩
  scannerBinary := none
  scannerBinarySha256 := SecurityReport.Sample.subjectSha256
  scannerDbType := "trivy-db"
  scannerDbVersion := "2"
  scannerDbCreatedAt := "2026-06-30T00:00:00Z"
  scannerDbDigest := SecurityReport.Sample.subjectSha256
  subjectId := "rootfs"
  subjectName := "rootfs.img"
  subjectRole := "rootfs"
  subjectPath := "rootfs.img"
  subjectSha256 := SecurityReport.Sample.subjectSha256
  subjectBytes := 812
  scanMode := "rootfs"
  argv := some ["trivy", "rootfs", "/rootfs"]
  argvJson := none
  envJson := none
  subjectGraph := ⟨"/", ["in", "subject-graph.json"]⟩
  sbomPath := "sbom.json"
  sbomSha256 := SecurityReport.Sample.subjectSha256
  vexPath := "vex.json"
  vexSha256 := SecurityReport.Sample.subjectSha256
  workingDirPolicy := "ephemeral"
  outputRoot := ⟨"", ["release-security"]⟩
  output := some ⟨"/", ["report.json"]⟩
  checkFiles := false

abbrev now : String := "2026-07-01T00:00:00Z"

/-- What is collected of a sample. -/
def collected (S : SecurityReport.Sample) (severity : Severity) : Collected where
  rawSha256 := SecurityReport.Sample.libraries.hexdigest (documentBytes S.raw)
  rawBytes := (documentBytes S.raw).length
  found := [severity]
  env := []
  argv := ["trivy", "rootfs", "/rootfs"]
  scannerFile := none
  scannerSha256 := SecurityReport.Sample.subjectSha256
  graphSha256 := SecurityReport.Sample.libraries.hexdigest (documentBytes [])
  graphBytes := (documentBytes []).length

theorem collect_sample {S : SecurityReport.Sample} {severity : Severity}
    (hfound : foundSeverities SecurityReport.Sample.libraries (.dict S.raw) (SecurityReport.Sample.libraries.lower "trivy") = .ok [severity]) :
    collect SecurityReport.Sample.libraries args (tree S) = .ok (collected S severity, subjectFields args) := by
  have hraw : treeFiles (tree S) args.rawJson = some (documentBytes S.raw) :=
    FileTree.read_eq (FileTree.lstat_ofFiles List.mem_cons_self)
  have hgraph : treeFiles (tree S) args.subjectGraph = some (documentBytes []) :=
    FileTree.read_eq (FileTree.lstat_ofFiles (List.mem_cons_of_mem _ List.mem_cons_self))
  have hread : readDocument SecurityReport.Sample.libraries (tree S) args.rawJson = .ok (.dict S.raw) := by
    rw [readDocument, readJson_documentBytes rfl rfl hraw]
    rfl
  have hheld : heldFile (tree S) "--raw-json is missing or empty" args.rawJson = .ok (documentBytes S.raw) := by
    rw [heldFile, hraw]
    rfl
  have hheldGraph : heldFile (tree S) "--subject-graph missing or empty" args.subjectGraph = .ok (documentBytes []) := by
    rw [heldFile, hgraph]
    rfl
  have hsubject : subjectFromArgs args = .ok (subjectFields args) := rfl
  refine guardError_bind_ok_iff.2 ⟨by decide +kernel, bind_ok_iff.2 ⟨_, hheld, bind_ok_iff.2 ⟨_, hread, bind_ok_iff.2 ⟨_, hfound, ?_⟩⟩⟩⟩
  refine bind_ok_iff.2 ⟨[], rfl, bind_ok_iff.2 ⟨["trivy", "rootfs", "/rootfs"], rfl, bind_ok_iff.2
    ⟨(none, SecurityReport.Sample.subjectSha256), rfl, guardError_bind_ok_iff.2 ⟨by decide +kernel, bind_ok_iff.2 ⟨_, hheldGraph, ?_⟩⟩⟩⟩⟩
  rw [hsubject]
  rfl

/-- The report of a sample. -/
abbrev report (S : SecurityReport.Sample) (severity : Severity) : Fields :=
  reportFields SecurityReport.Sample.libraries (fun _ => []) now args (collected S severity) (subjectFields args)

theorem loads_sample (S : SecurityReport.Sample) (severity : Severity) :
    SecurityReport.Sample.libraries.loads (PyText.universalNewlines (writtenText (fun _ => []) (report S severity))) =
      some (Value.dict (report S severity)).sortKeys := by
  have hplain : (Value.dict (report S severity)).sortKeys.plain = true := plain_sortKeys (by rfl)
  have hreturn : '\r' ∉ writtenText (fun _ => []) (report S severity) := by
    rw [writtenText, List.mem_append, not_or]
    exact ⟨(JsonText.indented_noReturn _).write _ 0 hplain, by decide⟩
  have hloads : SecurityReport.Sample.libraries.loads = JsonText.read := rfl
  rw [PyText.universalNewlines_eq hreturn, hloads, writtenText]
  exact JsonText.read_append (JsonText.indented_lawful _) hplain (by decide)

theorem takes_sample (S : SecurityReport.Sample) (fields : Fields) : Takes (fun _ => []) args (tree S) fields := by
  have hnone : (tree S).lstat ["report.json"] = none := rfl
  have hfree : (tree S).Free ["report.json"] := ⟨by decide, by decide, rfl, by simp [hnone]⟩
  have htarget : (tree S).target ["report.json"] = some ["report.json"] := by
    simp [FileTree.target, FileTree.followNew, FileTree.walkNew, hnone]
  have hsave : ∀ bytes, (tree S).save args.out.names bytes = (true, (tree S).put ["report.json"] (.file bytes) hfree) := by
    intro bytes
    have hwrite : (tree S).write ["report.json"] bytes = some ((tree S).put ["report.json"] (.file bytes) hfree) := by
      rw [FileTree.write, htarget, Option.bind_some, hnone, if_neg (by simp), dif_pos hfree]
    rw [FileTree.save, show args.out.names = ["report.json"] from rfl]
    simp [FileTree.dirsTo, FileTree.makeDirs, hwrite]
  rw [Takes, hsave]
  exact ⟨rfl, FileTree.read_eq ((FileTree.lstat_put hfree _).trans (if_pos rfl))⟩

end Sample

end SuderraOs.Evidence.ScannerCollect
