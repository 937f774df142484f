import SuderraOs.Evidence.IngressRecords
import SuderraOs.Evidence.QemuInput
import SuderraOs.Lib.Sha256

/-!
# The facts of a guest

An input states the facts of its guest and lists the logs that they were read from. `check_semantic_log` compares the facts of
`SEMANTIC_FACT_FIELDS` with the semantic log that is listed last; an earlier one and the facts that a production profile asks for on
top are compared with nothing. So all facts of an accepted input are in all its semantic logs where these two are there
(`inLogs_iff`).
-/

namespace SuderraOs.Evidence.QemuInput

open Value OperatorIngress

/-! ## Facts and logs -/

/-- The facts that a profile looks at. -/
def Args.inspected (A : Args) : List String := semanticFactFields ++ if A.production then productionFactFields else []

/-- The semantic logs of an input. -/
def semanticLogs (payload : Fields) : List Fields :=
  (logsOf payload).filter fun item => (field "role" item).pyEq (.str "qemu-semantic")

section Logs

variable (L : Libraries) (files : Files) (A : Args)

/-- The log of a record holds the facts of these names. -/
def InLog (names : List String) (facts item : Fields) : Prop :=
  ∃ path log, logPath A (field "path" item) = some path ∧ readJson L.toPython files path = .ok (some (.dict log)) ∧
    ∀ name ∈ names, (lookup name log).isSome = true ∧ ∃ fact, lookup name facts = some fact ∧ (field name log).pyEq fact = true

/-- All these logs hold the facts of these names. -/
def InLogs (names : List String) (facts : Fields) (items : List Fields) : Prop := ∀ item ∈ items, InLog L files A names facts item

variable {L files A}

/-- A log holds the facts of two lists where it holds those of both. -/
theorem inLog_append {names names' : List String} {facts item : Fields} :
    InLog L files A (names ++ names') facts item ↔ InLog L files A names facts item ∧ InLog L files A names' facts item := by
  constructor
  · rintro ⟨path, log, hpath, hread, hnames⟩
    exact ⟨⟨path, log, hpath, hread, fun name hname => hnames name (List.mem_append_left _ hname)⟩,
      ⟨path, log, hpath, hread, fun name hname => hnames name (List.mem_append_right _ hname)⟩⟩
  · rintro ⟨⟨path, log, hpath, hread, hnames⟩, path', log', hpath', hread', hnames'⟩
    obtain rfl : path = path' := Option.some.inj (hpath.symm.trans hpath')
    obtain rfl : log = log' := Value.dict.inj (Option.some.inj (Except.ok.inj (hread.symm.trans hread')))
    exact ⟨path, log, hpath, hread, fun name hname => (List.mem_append.1 hname).elim (hnames name) (hnames' name)⟩

theorem inLogs_append {names names' : List String} {facts : Fields} {items : List Fields} :
    InLogs L files A (names ++ names') facts items ↔ InLogs L files A names facts items ∧ InLogs L files A names' facts items := by
  simp only [InLogs, inLog_append, imp_and, forall_and]

/-! ## Accepted inputs -/

/-- The last semantic log is the one that is read. -/
theorem semanticLogPath_eq {payload : Fields} {items : List Fields} {item : Fields} (h : semanticLogs payload = items ++ [item]) :
    semanticLogPath A payload = logPath A (field "path" item) := by
  rw [semanticLogPath, ← List.head?_filter, List.filter_reverse]
  change ((semanticLogs payload).reverse.head?).bind _ = _
  rw [h, List.reverse_append, List.reverse_singleton, List.singleton_append, List.head?_cons, Option.bind_some]

/-- A log without failures has a path. -/
theorem logPath_isSome {path : String} {v : Value} {sha : Option String} {allowEmpty : Bool}
    (h : checkRelativeFile L files A path v sha allowEmpty = []) : ∃ actual, logPath A v = some actual := by
  obtain ⟨hstring, hfile⟩ := List.append_eq_nil_iff.1 h
  cases v with
  | str text =>
    cases hpath : logPath A (.str text) with
    | some actual => exact ⟨actual, rfl⟩
    | none => simp [asStr, hpath] at hfile
  | _ => simp [checkString, asStr] at hstring

/-- The semantic facts of an input without failures are in its last semantic log. -/
theorem inLog_of_semantic {facts item : Fields} {path : PosixPath} (hfiles : A.checkFiles = true)
    (hpath : logPath A (field "path" item) = some path) (hfacts : ∀ name ∈ semanticFactFields, (lookup name facts).isSome = true)
    (h : checkSemanticLog L files A (some path) facts = .ok []) : InLog L files A semanticFactFields facts item := by
  simp only [checkSemanticLog, Option.filter_some, hfiles, if_true] at h
  obtain ⟨log, hread, h⟩ := bind_ok_iff.1 h
  rcases log with _ | log
  · simp at h
  · cases log with
    | dict log =>
      simp only [Except.ok.injEq, semanticFactFailures, List.append_eq_nil_iff, failUnless_eq_nil, List.flatMap_eq_nil_iff] at h
      refine ⟨path, log, hpath, hread, fun name hname => ?_⟩
      obtain ⟨fact, hfact⟩ := Option.isSome_iff_exists.1 (hfacts name hname)
      obtain ⟨hpresent, hmatch⟩ := h.2 name hname
      exact ⟨hpresent, fact, hfact, hmatch fact (by simp [hfact])⟩
    | _ => simp at h

/-- Logs without failures have paths. -/
theorem logPath_of_logsFailures {payload item : Fields} (h : logsFailures L files A payload = []) (hitem : item ∈ logsOf payload) :
    ∃ path, logPath A (field "path" item) = some path := by
  obtain ⟨h, _⟩ := List.append_eq_nil_iff.1 h
  cases hlogs : field "logs" payload with
  | list items =>
    rw [logsOf, hlogs] at hitem
    obtain ⟨v, hv, hdict⟩ := List.mem_filterMap.1 hitem
    obtain rfl := asDict_eq_some.1 hdict
    cases items with
    | nil => cases hv
    | cons first items =>
      simp only [hlogs, List.flatMap_eq_nil_iff] at h
      obtain ⟨i, hi⟩ := exists_mem_zipIdx hv
      have hlog := h _ hi
      simp only [objectFailures, logFailures, List.append_eq_nil_iff] at hlog
      exact logPath_isSome hlog.2
  | _ => simp [logsOf, hlogs, asList] at hitem

/-- Logs without failures in a strict profile have a semantic one among them. -/
theorem semanticLogs_ne_nil {payload : Fields} (hstrict : A.strict = true) (h : logsFailures L files A payload = []) :
    semanticLogs payload ≠ [] := by
  obtain ⟨_, h⟩ := List.append_eq_nil_iff.1 h
  simp only [hstrict, Bool.not_true, Bool.false_or, failUnless_eq_nil, List.isEmpty_iff, sortedDiff_eq_nil] at h
  obtain ⟨item, hitem, hrole⟩ := List.mem_filterMap.1 (h "qemu-semantic" (by decide))
  exact List.ne_nil_of_mem (List.mem_filter.2 ⟨hitem, pyEq_str_iff.2 (asStr_eq_some.1 hrole)⟩)

/-- An accepted input of a strict profile has a semantic log, and the last one holds its semantic facts. -/
theorem inLog_of_accepted (hstrict : A.strict = true) (hfiles : A.checkFiles = true) (h : validate L files A = .ok []) :
    ∃ payload facts items item, readJson L.toPython files A.path = .ok (some (.dict payload)) ∧
      field "guest_facts" payload = .dict facts ∧ semanticLogs payload = items ++ [item] ∧
      InLog L files A semanticFactFields facts item := by
  obtain ⟨payload, hread, h⟩ := bind_ok_iff.1 h
  split at h
  · simp at h
  · next payload =>
    obtain ⟨kind, _, h⟩ := bind_ok_iff.1 h
    obtain ⟨identity, _, h⟩ := bind_ok_iff.1 h
    obtain ⟨checks, _, h⟩ := bind_ok_iff.1 h
    obtain ⟨facts, hfacts, h⟩ := bind_ok_iff.1 h
    simp only [Except.ok.injEq, List.append_eq_nil_iff] at h
    obtain ⟨⟨⟨_, hlogs⟩, _⟩, rfl⟩ := h
    unfold factsFailures at hfacts
    split at hfacts
    · next facts hguest =>
      rw [if_pos hstrict] at hfacts
      obtain ⟨semantic, hsemantic, hfacts⟩ := bind_ok_iff.1 hfacts
      obtain ⟨production, _, hfacts⟩ := bind_ok_iff.1 hfacts
      simp only [Except.ok.injEq, List.append_eq_nil_iff, List.flatMap_eq_nil_iff] at hfacts
      obtain ⟨⟨⟨hpresent, _⟩, rfl⟩, _⟩ := hfacts
      have hcollected : ∀ name ∈ semanticFactFields, (lookup name facts).isSome = true := by
        intro name hname
        have hfact := hpresent name hname
        cases hlookup : lookup name facts with
        | some fact => rfl
        | none => simp [factFailures, hlookup] at hfact
      rcases List.eq_nil_or_concat (semanticLogs payload) with hnil | ⟨items, item, hitems⟩
      · exact absurd hnil (semanticLogs_ne_nil hstrict hlogs)
      · rw [List.concat_eq_append] at hitems
        have hmem : item ∈ logsOf payload := (List.mem_filter.1 (hitems ▸ List.mem_append_right _ List.mem_cons_self)).1
        obtain ⟨path, hpath⟩ := logPath_of_logsFailures hlogs hmem
        rw [semanticLogPath_eq hitems, hpath] at hsemantic
        exact ⟨payload, facts, items, item, hread, hguest, hitems, inLog_of_semantic hfiles hpath hcollected hsemantic⟩
    · simp at hfacts
  · simp at h

/-- The facts that an accepted input of a strict profile is judged by are those of all its semantic logs exactly when the earlier logs
hold the semantic facts too and, in a production profile, all of them the facts of production. -/
theorem inLogs_iff (hstrict : A.strict = true) (hfiles : A.checkFiles = true) (h : validate L files A = .ok []) :
    ∃ payload facts, readJson L.toPython files A.path = .ok (some (.dict payload)) ∧ field "guest_facts" payload = .dict facts ∧
      (InLogs L files A A.inspected facts (semanticLogs payload) ↔
        InLogs L files A semanticFactFields facts (semanticLogs payload).dropLast ∧
          (A.production = true → InLogs L files A productionFactFields facts (semanticLogs payload))) := by
  obtain ⟨payload, facts, items, item, hread, hguest, hitems, hlast⟩ := inLog_of_accepted hstrict hfiles h
  refine ⟨payload, facts, hread, hguest, ?_⟩
  have hsemantic : InLogs L files A semanticFactFields facts (semanticLogs payload) ↔
      InLogs L files A semanticFactFields facts (semanticLogs payload).dropLast := by
    rw [hitems, List.dropLast_concat]
    simp only [InLogs, List.forall_mem_append, List.forall_mem_singleton, hlast, and_true]
  by_cases hproduction : A.production = true
  · rw [Args.inspected, if_pos hproduction, inLogs_append, hsemantic]
    simp only [hproduction, true_implies]
  · rw [Args.inspected, if_neg hproduction, List.append_nil, hsemantic]
    simp only [hproduction, Bool.false_eq_true, false_implies, and_true]

end Logs

/-! ### Samples -/

/-- The facts of `SEMANTIC_FACT_FIELDS` of a guest. -/
def sampleSemanticFacts : Fields :=
  [("os_release", .dict [("VARIANT", .str "prod")]), ("kernel", .str "6.12.3"), ("rootfs", .dict [("mount_source", .str "/dev/dm-0")]),
    ("failed_units", .list []), ("network", .str "up"), ("listeners", .list []), ("firewall", .dict [("loaded", .bool true)]),
    ("firstboot", .str "done"), ("lockdown", .dict [("status", .str "integrity")])]

/-- The facts that a production profile asks for on top. -/
def sampleProductionFacts : Fields :=
  [("secure_boot", .dict [("enabled", .bool true)]), ("dm_verity", .dict [("active", .bool true)]),
    ("rauc", .dict [("available", .bool true)]), ("data_encryption", .dict [("encrypted", .bool true)]),
    ("anti_rollback", .dict [("rollback_floor", .str "7")])]

def sampleFacts : Fields := sampleSemanticFacts ++ sampleProductionFacts

/-- A semantic log, with its digest. -/
structure Sample where
  log : Fields
  sha256 : String

/-- The log of the guest holds all facts. -/
def fullSample : Sample :=
  ⟨("schema_version", .str "suderra.qemu-semantic.v1") :: sampleFacts,
    "0d8a4162000db60a5ad811b8cc2507aedbd2f9ebeab30b32688f601fcf4c043a"⟩

/-- The log of the guest holds the semantic facts alone. -/
def semanticSample : Sample :=
  ⟨("schema_version", .str "suderra.qemu-semantic.v1") :: sampleSemanticFacts,
    "a122d32afb43e37a75cbe744e80e90f94c8d4a59881c47ae067605b372b2baf0"⟩

def hashingLibraries : Libraries := { sampleLibraries with sha256 := Sha256.digest }

def productionArgs : Args where
  path := ⟨"/", ["in", "qemu.json"]⟩
  checkFiles := true
  requirePass := true
  profile := "production-runtime"
  expectedVersion := none
  expectedTarget := none
  expectedSourceSha := none
  expectedArtifactSha256 := none

namespace Sample

variable (S : Sample)

def logs : List Value :=
  let record (role name sha256 : String) : Value := .dict [("role", .str role), ("path", .str name), ("sha256", .str sha256)]
  [record "serial" "serial.log" "2d711642b726b04401627ca9fbac32f5c8530fb1903cc4db02258717921a4881",
    record "qmp-events" "qmp.log" "2d711642b726b04401627ca9fbac32f5c8530fb1903cc4db02258717921a4881",
    record "qemu-stderr" "stderr.log" "e3b0c44298fc1c149afbf4c8996fb92427ae41e4649b934ca495991b7852b855",
    record "qemu-semantic" "semantic.json" S.sha256]

def payload : Fields :=
  [("schema_version", .str schemaVersion), ("version", .str sampleVersion), ("target", .str "generic-x86_64"),
    ("generated_at", .str "2026-07-01T00:00:00Z"), ("image", .str "suderra.img"), ("qemu_version", .str "9.2.0"),
    ("firmware", .str "OVMF"), ("status", .str "passed"), ("failure_class", .str "none"), ("qemu_exit_status", .int 0),
    ("image_sha256", .str "2d711642b726b04401627ca9fbac32f5c8530fb1903cc4db02258717921a4881"),
    ("firmware_sha256", .str "2d711642b726b04401627ca9fbac32f5c8530fb1903cc4db02258717921a4881"),
    ("termination", .dict [("mode", .str "qmp"), ("reason", .str "quit"), ("killed", .bool false), ("timeout", .bool false),
      ("qmp_quit_sent", .bool true), ("qmp_quit_ack", .bool true), ("acceptable", .bool true), ("exit_status", .int 0)]),
    ("checks", .dict ((requiredChecks ++ productionRuntimeChecks).map fun name =>
      (name, .dict [("status", .str "passed"), ("evidence", .str "guest"), ("source", .str "serial")]))),
    ("guest_facts", .dict sampleFacts), ("logs", .list S.logs)]

/-- The input and the logs beside it. -/
def files : Files := fun path =>
  match path.names with
  | ["in", "qemu.json"] => some (documentBytes S.payload)
  | ["in", "serial.log"] => some [0x78]
  | ["in", "qmp.log"] => some [0x78]
  | ["in", "stderr.log"] => some []
  | ["in", "semantic.json"] => some (documentBytes S.log)
  | _ => none

theorem read_payload {S : Sample} (hplain : (Value.dict S.payload).plain = true) :
    readJson hashingLibraries.toPython S.files productionArgs.path = .ok (some (.dict S.payload)) :=
  readJson_documentBytes rfl hplain rfl

theorem read_log {S : Sample} (hplain : (Value.dict S.log).plain = true) :
    readJson hashingLibraries.toPython S.files ⟨"/", ["in", "semantic.json"]⟩ = .ok (some (.dict S.log)) :=
  readJson_documentBytes rfl hplain rfl

/-- What is checked of a sample besides its semantic log. -/
structure Clean : Prop where
  kind : kindFailures productionArgs S.payload = .ok []
  identity : identityFailures productionArgs S.payload = .ok []
  termination : validateTermination productionArgs S.payload = []
  logs : logsFailures hashingLibraries S.files productionArgs S.payload = []
  checks : checksFailures productionArgs S.payload = .ok []
  production : validateProductionFacts hashingLibraries sampleFacts ((field "checks" S.payload).asDict.getD []) = .ok []

/-- A sample is accepted that is clean and whose semantic log holds the semantic facts. -/
theorem Clean.accepted {S : Sample} (h : S.Clean) (hpayload : (Value.dict S.payload).plain = true) (hplain : (Value.dict S.log).plain = true)
    (hlog : semanticFactFailures sampleFacts S.log = []) : validate hashingLibraries S.files productionArgs = .ok [] := by
  have hfacts : factsFailures hashingLibraries S.files productionArgs S.payload = .ok [] := by
    have hsemantic : checkSemanticLog hashingLibraries S.files productionArgs (semanticLogPath productionArgs S.payload) sampleFacts =
        .ok [] := bind_ok_iff.2 ⟨_, read_log hplain, congrArg Except.ok hlog⟩
    have hcollected : semanticFactFields.flatMap (factFailures sampleFacts) = [] := by decide +kernel
    refine bind_ok_iff.2 ⟨[], hsemantic, bind_ok_iff.2 ⟨[], h.production, ?_⟩⟩
    rw [hcollected]
    rfl
  refine bind_ok_iff.2 ⟨_, read_payload hpayload, bind_ok_iff.2 ⟨[], h.kind, bind_ok_iff.2 ⟨[], h.identity, bind_ok_iff.2 ⟨[],
    h.checks, bind_ok_iff.2 ⟨[], hfacts, ?_⟩⟩⟩⟩⟩
  rw [h.termination, h.logs]
  rfl

end Sample

theorem clean_samples : fullSample.Clean ∧ semanticSample.Clean := by
  have hclean : ∀ S ∈ [fullSample, semanticSample], kindFailures productionArgs S.payload = .ok [] ∧
      identityFailures productionArgs S.payload = .ok [] ∧ validateTermination productionArgs S.payload = [] ∧
      logsFailures hashingLibraries S.files productionArgs S.payload = [] ∧ checksFailures productionArgs S.payload = .ok [] ∧
      validateProductionFacts hashingLibraries sampleFacts ((field "checks" S.payload).asDict.getD []) = .ok [] := by
    decide +kernel
  have hof (S : Sample) (hS : S ∈ [fullSample, semanticSample]) : S.Clean := by
    obtain ⟨hkind, hidentity, htermination, hlogs, hchecks, hproduction⟩ := hclean S hS
    exact ⟨hkind, hidentity, htermination, hlogs, hchecks, hproduction⟩
  exact ⟨hof _ List.mem_cons_self, hof _ (List.mem_cons_of_mem _ List.mem_cons_self)⟩

theorem fullSample_accepted : validate hashingLibraries fullSample.files productionArgs = .ok [] :=
  clean_samples.1.accepted (by decide) (by decide) (by decide)

theorem inLogs_at_fullSample :
    ∃ payload facts, readJson hashingLibraries.toPython fullSample.files productionArgs.path = .ok (some (.dict payload)) ∧
      field "guest_facts" payload = .dict facts ∧
      (InLogs hashingLibraries fullSample.files productionArgs productionArgs.inspected facts (semanticLogs payload) ↔
        InLogs hashingLibraries fullSample.files productionArgs semanticFactFields facts (semanticLogs payload).dropLast ∧
          (productionArgs.production = true →
            InLogs hashingLibraries fullSample.files productionArgs productionFactFields facts (semanticLogs payload))) :=
  inLogs_iff (by decide) rfl fullSample_accepted

/-- Secure Boot and the rest are accepted as the input states them where the log of the guest has nothing of it. -/
theorem facts_without_log : validate hashingLibraries semanticSample.files productionArgs = .ok [] ∧
    readJson hashingLibraries.toPython semanticSample.files productionArgs.path = .ok (some (.dict semanticSample.payload)) ∧
    field "guest_facts" semanticSample.payload = .dict sampleFacts ∧
    ¬InLogs hashingLibraries semanticSample.files productionArgs productionArgs.inspected sampleFacts
      (semanticLogs semanticSample.payload) := by
  refine ⟨clean_samples.2.accepted (by decide) (by decide) (by decide), Sample.read_payload (by decide), rfl, fun h => ?_⟩
  have hlogs : semanticLogs semanticSample.payload =
      [[("role", .str "qemu-semantic"), ("path", .str "semantic.json"), ("sha256", .str semanticSample.sha256)]] := rfl
  obtain ⟨path, log, hpath, hread, hnames⟩ := h _ (hlogs ▸ List.mem_cons_self)
  obtain rfl : (⟨"/", ["in", "semantic.json"]⟩ : PosixPath) = path := Option.some.inj hpath
  obtain rfl : semanticSample.log = log :=
    Value.dict.inj (Option.some.inj (Except.ok.inj ((Sample.read_log (by decide)).symm.trans hread)))
  exact absurd (hnames "secure_boot" (by decide)).1 (by decide)

end SuderraOs.Evidence.QemuInput
