import SuderraOs.Evidence.IngressRecords
import SuderraOs.Evidence.SecurityReport
import SuderraOs.Lib.Sha256

/-!
# Scanner replays

A report of the second version names the tool of its raw evidence itself, and `count_severities` goes by this name. The rule that it
takes counts the objects that it finds and leaves out all else (`foundSeverities_eq`). So an accepted report of a scan has been counted
by the scan's own rule exactly when the document has the shape of the scan, with objects for its findings, and the tool is the scan's
(`replaySound_iff`).
-/

namespace SuderraOs.Evidence.SecurityReport

open Value OperatorIngress

/-! ## Rules -/

/-- The rules of `count_severities`. -/
inductive Rule where
  | trivy
  | grype
  | gitleaks
  | cargo
  deriving DecidableEq, Repr

/-- The rule for the name of a tool. -/
def ruleOf : String → Option Rule
  | "trivy" => some .trivy
  | "grype" => some .grype
  | "gitleaks" => some .gitleaks
  | "cargo-audit" => some .cargo
  | "cargo-deny" => some .cargo
  | _ => none

/-- What a loop over a value meets. -/
def iterate : Value → Except String (List Value)
  | .list items => .ok items
  | .dict fields => .ok ((members fields).map fun p => .str p.1)
  | .str s => .ok (s.toList.map fun c => .str (String.singleton c))
  | _ => .error "TypeError"

/-- The entries of a result of trivy; a result that is no object is one that no rule counts. -/
def resultEntries : Value → Except String (List Value)
  | .dict result => do
    let parts ← ["Vulnerabilities", "Misconfigurations", "Secrets"].mapM fun name => iterate (orEmpty (field name result))
    .ok parts.flatten
  | result => .ok [result]

namespace Rule

/-- The findings of a document, whether they are counted or not. -/
def entries : Rule → Value → Except String (List Value)
  | trivy, .dict payload => do
    let results ← iterate ((lookup "Results" payload).getD (.list []))
    let found ← results.mapM resultEntries
    .ok found.flatten
  | grype, .dict payload => iterate ((lookup "matches" payload).getD (.list []))
  | gitleaks, .list findings => .ok findings
  | gitleaks, .dict payload => iterate ((lookup "findings" payload).getD (.list []))
  | cargo, .dict payload => do
    let vulnerabilities ← orError "AttributeError" ((lookup "vulnerabilities" payload).getD (.dict [])).asDict
    iterate ((lookup "list" vulnerabilities).getD (.list []))
  | _, _ => .ok []

/-- The severity that a finding is counted with, if it is. -/
def severity (L : Libraries) : Rule → Value → Option Severity
  | trivy, .dict item => some (severityOf L (field "Severity" item))
  | grype, .dict item => some (severityOf L (field "severity" ((field "vulnerability" item).asDict.getD [])))
  | gitleaks, .dict _ => some .high
  | cargo, .dict item => some (if isHighScore (field "score" ((field "cvss" item).asDict.getD [])) then .high else .medium)
  | _, _ => none

/-- The shape of the documents of a scanner. -/
def HasShape : Rule → Value → Prop
  | trivy, document => ∃ payload items, document = .dict payload ∧ lookup "Results" payload = some (.list items)
  | grype, document => ∃ payload items, document = .dict payload ∧ lookup "matches" payload = some (.list items)
  | gitleaks, document => (∃ items, document = .list items) ∨
    ∃ payload items, document = .dict payload ∧ lookup "findings" payload = some (.list items)
  | cargo, document => ∃ payload vulnerabilities items, document = .dict payload ∧
    lookup "vulnerabilities" payload = some (.dict vulnerabilities) ∧ lookup "list" vulnerabilities = some (.list items)

end Rule

/-! ## What is counted -/

theorem iterDicts_eq (v : Value) : iterDicts v = (iterate v).map (List.filterMap asDict) := by
  cases v with
  | list items => rfl
  | dict fields => simp [iterDicts, iterate, Except.map, List.filterMap_map, Function.comp_def, asDict]
  | str s => simp [iterDicts, iterate, Except.map, List.filterMap_map, Function.comp_def, asDict]
  | _ => rfl

/-- A rule that counts objects counts what a loop over the objects meets. -/
theorem map_iterDicts {f : Fields → Severity} {g : Value → Option Severity} (h : ∀ v, g v = v.asDict.map f) (v : Value) :
    (iterDicts v >>= fun items => .ok (items.map f)) = (iterate v).map (List.filterMap g) := by
  rw [iterDicts_eq, funext h]
  cases iterate v with
  | error e => rfl
  | ok items => simp [Except.map, bind, Except.bind, List.map_filterMap]

/-- The findings of a result of trivy that are counted. -/
def resultSeverities (L : Libraries) (result : Fields) : Except String (List (List Severity)) :=
  ["Vulnerabilities", "Misconfigurations", "Secrets"].mapM fun name => do
    let items ← iterDicts (orEmpty (field name result))
    .ok (items.map fun item => severityOf L (field "Severity" item))

theorem resultSeverities_eq (L : Libraries) (result : Fields) :
    (resultSeverities L result).map List.flatten = (resultEntries (.dict result)).map (List.filterMap (Rule.trivy.severity L)) := by
  have hpart := map_iterDicts (f := fun item => severityOf L (field "Severity" item)) (g := Rule.trivy.severity L)
    fun v => by cases v <;> rfl
  simp only [resultSeverities, resultEntries, hpart, List.mapM_cons, List.mapM_nil]
  cases iterate (orEmpty (field "Vulnerabilities" result)) with
  | error e => rfl
  | ok xs =>
    cases iterate (orEmpty (field "Misconfigurations" result)) with
    | error e => rfl
    | ok ys =>
      cases iterate (orEmpty (field "Secrets" result)) with
      | error e => rfl
      | ok zs => simp [Except.map, bind, Except.bind, pure, Except.pure]

/-- What a loop makes of its first value and of the others. -/
theorem map_mapM_cons {α β γ δ ε : Type} {f : α → Except String β} {F : List β → γ} {p : β → δ} {q : List β → ε} {c : δ → ε → γ}
    (h : ∀ b bs, F (b :: bs) = c (p b) (q bs)) (a : α) (as : List α) :
    ((a :: as).mapM f).map F = ((f a).map p >>= fun x => (as.mapM f).map q >>= fun y => .ok (c x y)) := by
  rw [List.mapM_cons]
  cases f a with
  | error e => rfl
  | ok b =>
    cases as.mapM f with
    | error e => rfl
    | ok bs => exact congrArg Except.ok (h b bs)

theorem trivyResults_eq (L : Libraries) (results : List Value) :
    ((results.filterMap asDict).mapM (resultSeverities L)).map (fun found => found.flatten.flatten) =
      (results.mapM resultEntries).map fun found => found.flatten.filterMap (Rule.trivy.severity L) := by
  induction results with
  | nil => rfl
  | cons result results ih =>
    have hentries := map_mapM_cons (f := resultEntries) (F := fun found => found.flatten.filterMap (Rule.trivy.severity L))
      (p := List.filterMap (Rule.trivy.severity L)) (q := fun found => found.flatten.filterMap (Rule.trivy.severity L))
      (fun _ _ => List.filterMap_append) result results
    have hskip {v : Value} (hv : asDict v = none) (hentries : resultEntries v = .ok [v]) (hseverity : Rule.trivy.severity L v = none) :
        (((v :: results).filterMap asDict).mapM (resultSeverities L)).map (fun found => found.flatten.flatten) =
          ((resultEntries v).map (List.filterMap (Rule.trivy.severity L)) >>= fun x =>
            (results.mapM resultEntries).map (fun found => found.flatten.filterMap (Rule.trivy.severity L)) >>= fun y => .ok (x ++ y)) := by
      rw [List.filterMap_cons_none hv, ih, hentries]
      simp only [Except.map, List.filterMap_cons_none hseverity, List.filterMap_nil, List.nil_append, bind, Except.bind]
      cases results.mapM resultEntries <;> rfl
    rw [hentries]
    cases result with
    | dict fields =>
      rw [show (dict fields :: results).filterMap asDict = fields :: results.filterMap asDict from rfl, map_mapM_cons (p := List.flatten) (q := fun found => found.flatten.flatten)
        (fun b bs => by rw [List.flatten_cons, List.flatten_append]), resultSeverities_eq, ih]
    | _ => exact hskip rfl rfl rfl

theorem bind_ok_eq_map {α β : Type} (x : Except String α) (f : α → β) : (x >>= fun a => .ok (f a)) = x.map f := by
  cases x <;> rfl

theorem trivySeverities_eq (L : Libraries) (document : Value) :
    trivySeverities L document = (Rule.trivy.entries document).map (List.filterMap (Rule.trivy.severity L)) := by
  cases document with
  | dict payload =>
    rw [trivySeverities, Rule.entries, iterDicts_eq]
    cases iterate ((lookup "Results" payload).getD (.list [])) with
    | error e => rfl
    | ok results =>
      change ((results.filterMap asDict).mapM (resultSeverities L) >>= fun found => .ok found.flatten.flatten) =
        (results.mapM resultEntries >>= fun found => .ok found.flatten).map (List.filterMap (Rule.trivy.severity L))
      rw [bind_ok_eq_map, trivyResults_eq, bind_ok_eq_map]
      cases results.mapM resultEntries <;> rfl
  | _ => rfl

theorem grypeSeverities_eq (L : Libraries) (document : Value) :
    grypeSeverities L document = (Rule.grype.entries document).map (List.filterMap (Rule.grype.severity L)) := by
  cases document with
  | dict payload => exact map_iterDicts (fun v => by cases v <;> rfl) _
  | _ => rfl

theorem gitleaksSeverities_eq (L : Libraries) (document : Value) :
    gitleaksSeverities document = (Rule.gitleaks.entries document).map (List.filterMap (Rule.gitleaks.severity L)) := by
  have hseverity (v : Value) : Rule.gitleaks.severity L v = v.asDict.map fun _ => Severity.high := by cases v <;> rfl
  cases document with
  | dict payload => exact map_iterDicts hseverity _
  | list findings => rw [gitleaksSeverities, Rule.entries, funext hseverity, Except.map, List.map_filterMap]
  | _ => rfl

theorem cargoSeverities_eq (L : Libraries) (document : Value) :
    cargoSeverities document = (Rule.cargo.entries document).map (List.filterMap (Rule.cargo.severity L)) := by
  cases document with
  | dict payload =>
    simp only [cargoSeverities, Rule.entries]
    cases orError "AttributeError" ((lookup "vulnerabilities" payload).getD (.dict [])).asDict with
    | error e => rfl
    | ok vulnerabilities => exact map_iterDicts (fun v => by cases v <;> rfl) _
  | _ => rfl

/-- `count_severities` counts the objects among the findings of its rule. -/
theorem foundSeverities_eq (L : Libraries) {tool : String} {rule : Rule} (h : ruleOf tool = some rule) (document : Value) :
    foundSeverities L document tool = (rule.entries document).map (List.filterMap (rule.severity L)) := by
  unfold ruleOf at h
  split at h
  · exact Option.some.inj h ▸ trivySeverities_eq L document
  · exact Option.some.inj h ▸ grypeSeverities_eq L document
  · exact Option.some.inj h ▸ gitleaksSeverities_eq L document
  · exact Option.some.inj h ▸ cargoSeverities_eq L document
  · exact Option.some.inj h ▸ cargoSeverities_eq L document
  · cases h

/-! ## Accepted reports -/

section Replay

variable (L : Libraries)

/-- A finding that the rule of a scan has counted as one that does not block a release. -/
def Passed (rule : Rule) (report : Fields) (finding : Value) : Prop :=
  ruleOf (toolOf L report) = some rule ∧
    ∃ severity, rule.severity L finding = some severity ∧ severity ≠ .critical ∧ severity ≠ .high

/-- A document was replayed as one of a scan: it has the shape, and every finding was counted and passed. -/
def ReplaySound (scan : String) (report : Fields) (document : Value) : Prop :=
  ∃ rule findings, ruleOf scan = some rule ∧ rule.HasShape document ∧ rule.entries document = .ok findings ∧
    ∀ finding ∈ findings, Passed L rule report finding

/-- A document of a scan whose findings are objects, with a report that names the scan's tool where there are any. -/
def Replayable (scan : String) (report : Fields) (document : Value) : Prop :=
  ∃ rule findings, ruleOf scan = some rule ∧ rule.HasShape document ∧ rule.entries document = .ok findings ∧
    (∀ finding ∈ findings, finding.asDict.isSome = true) ∧ (findings = [] ∨ ruleOf (toolOf L report) = some rule)

end Replay

section Accepted

variable {L : Libraries} {float : Double → List Char} {T : FileTree} {Q : Query} {report : Fields}

/-- The raw evidence of a report is this document. -/
def IsRaw (L : Libraries) (T : FileTree) (path : PosixPath) (report : Fields) (document : Value) : Prop :=
  ∃ raw rel, field "raw" report = .dict raw ∧ safeRelativePath (field "path" raw) = some rel ∧
    readJson L.toPython (treeFiles T) (rawPlace T path none rel (field "sha256" raw)) = .ok (some document)

theorem severity_isSome (L : Libraries) (rule : Rule) (v : Value) : (rule.severity L v).isSome = v.asDict.isSome := by
  cases rule <;> cases v <;> rfl

/-- The counts of an accepted report have no finding that blocks a release. -/
theorem not_blocking_of_countFailures {raw : Fields} {found : List Severity} (h : countFailures L float report raw found = []) :
    ∀ severity ∈ found, severity ≠ .critical ∧ severity ≠ .high := by
  unfold countFailures at h
  split at h
  · simp only [List.append_eq_nil_iff, failUnless_eq_nil, Bool.and_eq_true, Bool.not_eq_true', List.contains_eq_mem,
      decide_eq_false_iff_not] at h
    intro severity hmem
    exact ⟨fun heq => h.2.1 (heq ▸ hmem), fun heq => h.2.2 (heq ▸ hmem)⟩
  · cases h

/-- An accepted report was counted again on its raw evidence. -/
theorem counted_of_accepted (hread : readJson L.toPython (treeFiles T) Q.path = .ok (some (.dict report)))
    (hversion : field "schema_version" report = .str reportSchemaVersion) (hfiles : Q.checkFiles = true)
    (h : validateSecurityReport L float T Q = .ok []) :
    ∃ document found, IsRaw L T Q.path report document ∧ foundSeverities L document (toolOf L report) = .ok found ∧
      ∀ severity ∈ found, severity ≠ .critical ∧ severity ≠ .high := by
  obtain ⟨payload, hpayload, h⟩ := bind_ok_iff.1 h
  obtain rfl : payload = some (.dict report) := Except.ok.inj (hpayload.symm.trans hread)
  obtain ⟨_, h⟩ := guardError_bind_ok_iff.1 h
  have hreplay : (field "schema_version" report).pyEq (.str reportSchemaVersion) = true := pyEq_str_iff.2 hversion
  simp only [Except.ok.injEq, List.append_eq_nil_iff, hreplay, if_true, hfiles] at h
  cases hvalid : validateReport L float T Q.path none true with
  | error e => simp [replayedFailures, hvalid] at h
  | ok failures =>
    obtain rfl : failures = [] := by simpa [replayedFailures, hvalid] using h.2
    obtain ⟨payload, hpayload, hvalid⟩ := bind_ok_iff.1 hvalid
    obtain rfl : payload = some (.dict report) := Except.ok.inj (hpayload.symm.trans hread)
    obtain ⟨raws, hraw, hvalid⟩ := bind_ok_iff.1 hvalid
    simp only [Except.ok.injEq, List.map_eq_nil_iff, List.append_eq_nil_iff] at hvalid
    obtain ⟨_, rfl⟩ := hvalid
    unfold rawFailures at hraw
    split at hraw
    · next raw hrawField =>
      split at hraw
      · simp at hraw
      · split at hraw
        · simp at hraw
        · next rel hrel =>
          obtain ⟨replayed, hfile, hraw⟩ := bind_ok_iff.1 hraw
          simp only [Except.ok.injEq, List.append_eq_nil_iff] at hraw
          obtain ⟨_, rfl⟩ := hraw
          rw [if_pos rfl] at hfile
          unfold rawFileFailures at hfile
          split at hfile
          · simp at hfile
          · obtain ⟨payload, hdocument, hfile⟩ := bind_ok_iff.1 hfile
            obtain ⟨counts, hcounts, hfile⟩ := bind_ok_iff.1 hfile
            simp only [Except.ok.injEq, List.append_eq_nil_iff] at hfile
            obtain ⟨_, rfl⟩ := hfile
            cases payload with
            | none => simp [recountFailures] at hcounts
            | some document =>
              obtain ⟨found, hfound, hcounts⟩ := bind_ok_iff.1 hcounts
              exact ⟨document, found, ⟨raw, rel, hrawField, hrel, hdocument⟩, hfound,
                not_blocking_of_countFailures (Except.ok.inj hcounts)⟩
    · simp at hraw

end Accepted

/-! ### Samples -/

/-- A report, what it names and what its raw evidence says. -/
structure Sample where
  tool : String
  severity : String
  found : List Severity
  rawSha256 : String
  outputSha256 : String

namespace Sample

variable (S : Sample)

/-- The output of trivy with one finding. -/
def raw : Fields := [("Results", .list [.dict [("Vulnerabilities", .list [.dict [("Severity", .str S.severity)]])]])]

def subjectSha256 : String := "1e6ed65d77d6364eeaed5a745ba5c4985ae2b700dd85d7cf7f027bdf294a33fc"

def report : Fields :=
  [("schema_version", .str reportSchemaVersion), ("version", .str sampleVersion), ("source_sha", .str sampleArgs.sourceSha),
    ("source_run_id", .str "7001"), ("scan", .str "trivy"), ("tool", .str S.tool), ("tool_version", .str "0.50.1"),
    ("generated_at", .str "2026-07-01T00:00:00Z"), ("status", .str "passed"), ("subject_id", .str "rootfs"),
    ("subject_graph_sha256", .str subjectSha256),
    ("subject_graph", .dict [("sha256", .str subjectSha256), ("path", .str "release-subject-graph.json"), ("bytes", .int 812)]),
    ("scanner_binary", .dict [("name", .str "trivy"), ("version", .str "0.50.1"), ("sha256", .str subjectSha256)]),
    ("invocation", .dict [("argv", .list [.str "trivy", .str "rootfs", .str "/rootfs"]), ("env", .dict []),
      ("env_sha256", .str "44136fa355b3678a1146ad16f7e8649e94fb4fc21fe77e8310c060f61caaff8a"),
      ("working_dir_policy", .str "ephemeral")]),
    ("subjects", .list [.dict [("subject_id", .str "rootfs"), ("name", .str "rootfs.img"), ("role", .str "rootfs"),
      ("path", .str "rootfs.img"), ("sha256", .str subjectSha256), ("scan_mode", .str "rootfs"), ("bytes", .int 812)]]),
    ("scanner_db", .dict [("type", .str "trivy-db"), ("version", .str "2"), ("created_at", .str "2026-06-30T00:00:00Z"),
      ("digest", .str ("sha256:" ++ subjectSha256)), ("archive_sha256", .str subjectSha256), ("auto_update_disabled", .bool true)]),
    ("sbom", .dict [("path", .str "sbom.json"), ("sha256", .str subjectSha256)]),
    ("vex", .dict [("path", .str "vex.json"), ("sha256", .str subjectSha256)]),
    ("replay", .dict [("status", .str "passed"), ("output_sha256", .str S.outputSha256), ("raw_sha256", .str S.rawSha256),
      ("severity_counts", .dict (severityCounts S.found))]),
    ("raw", .dict [("path", .str "raw/trivy.json"), ("sha256", .str S.rawSha256), ("bytes", .int (documentBytes S.raw).length)]),
    ("severity_counts", .dict (severityCounts S.found))]

def libraries : Libraries := { sampleLibraries with sha256 := Sha256.digest }

def tree : FileTree :=
  .ofFiles [(["in", "security", "trivy.json"], documentBytes S.report), (["in", "raw", "trivy.json"], documentBytes S.raw)]
    (by simp only [List.map_cons, List.map_nil]; decide)

def query : Query where
  path := ⟨"/", ["in", "security", "trivy.json"]⟩
  scan := "trivy"
  version := sampleVersion
  sourceSha := some sampleArgs.sourceSha
  sourceRunId := some "7001"
  checkFiles := true

end Sample

/-- Trivy found one thing of low severity. -/
def lowSample : Sample where
  tool := "trivy"
  severity := "LOW"
  found := [.low]
  rawSha256 := "f127f4bae1f27bd7272ee2dbf0927388cb8aed70e2437d79142b3c64b8e0a894"
  outputSha256 := "104af3e6e5d9ec07a8dead3a1b061541410a01c424a82d21ca411395dd98fc18"

/-- Trivy found something critical, and the report names its tool in another way. -/
def renamedSample : Sample where
  tool := "Trivy Server"
  severity := "CRITICAL"
  found := []
  rawSha256 := "619578affb91ba4273a7721b0a3a0385f9cf038515e273585393fcf83860b6ae"
  outputSha256 := "d79a56aa02c032c1b4226ee716467923d2273c0a5cfbc8945232f676d08aafda"

namespace Sample

theorem env_sha256 : canonicalSha256 libraries (fun _ => []) [] =
    "44136fa355b3678a1146ad16f7e8649e94fb4fc21fe77e8310c060f61caaff8a" := by
  rw [canonicalSha256, Utf8.encode_ofList]
  rfl

theorem read_report {S : Sample} (hplain : (Value.dict S.report).plain = true) :
    readJson libraries.toPython (treeFiles S.tree) query.path = .ok (some (.dict S.report)) :=
  readJson_documentBytes rfl hplain (FileTree.read_eq (FileTree.lstat_ofFiles List.mem_cons_self))

theorem raw_file (S : Sample) : treeFiles S.tree ⟨"/", ["in", "raw", "trivy.json"]⟩ = some (documentBytes S.raw) :=
  FileTree.read_eq (FileTree.lstat_ofFiles (List.mem_cons_of_mem _ List.mem_cons_self))

theorem rawPlace_sample (S : Sample) :
    rawPlace S.tree query.path none ⟨"", ["raw", "trivy.json"]⟩ (.str S.rawSha256) = ⟨"/", ["in", "raw", "trivy.json"]⟩ := by
  have hgiven : (treeFiles S.tree ((none.getD (parentOf (parentOf query.path))).join ⟨"", ["raw", "trivy.json"]⟩)).isSome = true := by
    rw [show (none.getD (parentOf (parentOf query.path))).join ⟨"", ["raw", "trivy.json"]⟩ =
      (⟨"/", ["in", "raw", "trivy.json"]⟩ : PosixPath) from rfl, raw_file, Option.isSome_some]
  rw [rawPlace, if_pos hgiven]
  rfl

theorem read_raw (S : Sample) :
    readJson libraries.toPython (treeFiles S.tree) ⟨"/", ["in", "raw", "trivy.json"]⟩ = .ok (some (.dict S.raw)) :=
  readJson_documentBytes rfl rfl (raw_file S)

/-- What a sample says of its raw evidence. -/
def rawRef (S : Sample) : Fields :=
  [("path", .str "raw/trivy.json"), ("sha256", .str S.rawSha256), ("bytes", .int (documentBytes S.raw).length)]

theorem countFailures_sample {S : Sample}
    (houtput : canonicalReplaySha256 libraries (fun _ => []) (.str S.rawSha256) (severityCounts S.found) = S.outputSha256)
    (hpassed : (!S.found.contains .critical && !S.found.contains .high) = true)
    (hcounts : (Value.dict (severityCounts S.found)).pyEq (.dict (severityCounts S.found)) = true) :
    countFailures libraries (fun _ => []) S.report S.rawRef S.found = [] := by
  have hreported : field "severity_counts" S.report = .dict (severityCounts S.found) := rfl
  have hreplay : (field "replay" S.report).asDict.toList = [[("status", .str "passed"), ("output_sha256", .str S.outputSha256),
    ("raw_sha256", .str S.rawSha256), ("severity_counts", .dict (severityCounts S.found))]] := rfl
  have hsha : field "sha256" S.rawRef = .str S.rawSha256 := rfl
  simp only [countFailures, hreported, hreplay, List.flatMap_singleton, List.append_eq_nil_iff, failUnless_eq_nil,
    List.flatMap_eq_nil_iff, hsha, houtput]
  refine ⟨⟨?_, ⟨pyEq_str_iff.2 rfl, hcounts⟩, pyEq_str_iff.2 rfl⟩, hpassed⟩
  intro severity _
  have hlookup : (lookup severity.name (severityCounts S.found)).getD (.int 0) = .int (S.found.count severity) := by
    cases severity <;> rfl
  rw [hlookup, pyEq_int, beq_self_eq_true]

/-- A sample is accepted whose digests and findings are what they say. -/
theorem accepted {S : Sample} (hplain : (Value.dict S.report).plain = true)
    (hfields : fieldFailures libraries (fun _ => []) S.report = [])
    (hfound : foundSeverities libraries (.dict S.raw) (toolOf libraries S.report) = .ok S.found)
    (hraw : libraries.hexdigest (documentBytes S.raw) = S.rawSha256) (hdigest : isDigest (.str S.rawSha256) = true)
    (hlength : isIntFrom 1 (.int (documentBytes S.raw).length) = true)
    (hcounts : countFailures libraries (fun _ => []) S.report S.rawRef S.found = []) :
    validateSecurityReport libraries (fun _ => []) S.tree query = .ok [] := by
  have hfile : rawFileFailures libraries (fun _ => []) S.tree S.report S.rawRef ⟨"/", ["in", "raw", "trivy.json"]⟩ = .ok [] := by
    rw [rawFileFailures, raw_file]
    refine bind_ok_iff.2 ⟨_, read_raw S, bind_ok_iff.2 ⟨[], bind_ok_iff.2 ⟨S.found, hfound, congrArg Except.ok hcounts⟩, ?_⟩⟩
    simp only [Except.ok.injEq, List.append_eq_nil_iff, failUnless_eq_nil, hraw]
    exact ⟨⟨by rw [show field "bytes" S.rawRef = .int (documentBytes S.raw).length from rfl, pyEq_int, beq_self_eq_true],
      pyEq_str_iff.2 rfl⟩, trivial⟩
  have hraws : rawFailures libraries (fun _ => []) S.tree query.path none true S.report = .ok [] := by
    have hpathField : field "path" S.rawRef = .str "raw/trivy.json" := rfl
    have hshaField : field "sha256" S.rawRef = .str S.rawSha256 := rfl
    have hplaceholder : Attestation.isPlaceholder (.str "raw/trivy.json") = false := by decide
    have hpath : safeRelativePath (.str "raw/trivy.json") = some ⟨"", ["raw", "trivy.json"]⟩ := by decide
    have hbytes : isIntFrom 1 (field "bytes" S.rawRef) = true := hlength
    simp only [rawFailures, show field "raw" S.report = .dict S.rawRef from rfl, hpathField, hplaceholder, Bool.false_eq_true, if_false,
      hpath, if_true, hshaField, rawPlace_sample, hfile, ok_bind, checkDigest, hdigest, hbytes, failUnless]
    rfl
  refine bind_ok_iff.2 ⟨_, read_report hplain, guardError_bind_ok_iff.2 ⟨rfl, congrArg Except.ok ?_⟩⟩
  have hvalid : validateReport libraries (fun _ => []) S.tree query.path none query.checkFiles = .ok [] :=
    bind_ok_iff.2 ⟨_, read_report hplain, bind_ok_iff.2 ⟨[], hraws, by rw [hfields]; rfl⟩⟩
  rw [hvalid]
  rfl

theorem invocationFailures_sample (S : Sample) : invocationFailures libraries (fun _ => []) S.report = [] := by
  have hinvocation : field "invocation" S.report = field "invocation" lowSample.report := rfl
  have henvironment : environmentFailures libraries (fun _ => []) ((field "invocation" lowSample.report).asDict.getD []) = [] := by
    rw [environmentFailures, show field "env" ((field "invocation" lowSample.report).asDict.getD []) = .dict [] from rfl]
    simp only [asDict, Option.all_some, env_sha256]
    decide +kernel
  have hobject : (field "invocation" lowSample.report) = .dict ((field "invocation" lowSample.report).asDict.getD []) := rfl
  rw [invocationFailures, hinvocation, hobject, objectFailures, henvironment]
  decide +kernel

/-- The digests and the findings of both samples are what they say. -/
theorem parts_of_mem : ∀ S ∈ [lowSample, renamedSample], (Value.dict S.report).plain = true ∧
    fieldFailures libraries (fun _ => []) S.report = [] ∧
    foundSeverities libraries (.dict S.raw) (toolOf libraries S.report) = .ok S.found ∧
    libraries.hexdigest (documentBytes S.raw) = S.rawSha256 ∧ isDigest (.str S.rawSha256) = true ∧
    isIntFrom 1 (.int (documentBytes S.raw).length) = true ∧
    canonicalReplaySha256 libraries (fun _ => []) (.str S.rawSha256) (severityCounts S.found) = S.outputSha256 ∧
    (!S.found.contains .critical && !S.found.contains .high) = true ∧
    (Value.dict (severityCounts S.found)).pyEq (.dict (severityCounts S.found)) = true := by
  simp only [fieldFailures, invocationFailures_sample, canonicalReplaySha256, canonicalSha256, Utf8.encode_ofList]
  decide +kernel

theorem accepted_of_mem {S : Sample} (hmem : S ∈ [lowSample, renamedSample]) :
    validateSecurityReport libraries (fun _ => []) S.tree query = .ok [] := by
  obtain ⟨hplain, hfields, hfound, hraw, hdigest, hlength, houtput, hpassed, hcounts⟩ := parts_of_mem S hmem
  exact accepted hplain hfields hfound hraw hdigest hlength (countFailures_sample houtput hpassed hcounts)

end Sample

theorem lowSample_accepted : validateSecurityReport Sample.libraries (fun _ => []) lowSample.tree Sample.query = .ok [] :=
  Sample.accepted_of_mem List.mem_cons_self

theorem renamedSample_accepted : validateSecurityReport Sample.libraries (fun _ => []) renamedSample.tree Sample.query = .ok [] :=
  Sample.accepted_of_mem (List.mem_of_getElem? (i := 1) rfl)

end SuderraOs.Evidence.SecurityReport
