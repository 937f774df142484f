import SuderraOs.Release.TagBinding

/-!
# The preflight run

`validate-run` of the gate and of the shadow: whether a workflow run and its artifacts are the ones a tag binding names. Both read
the same three documents. They differ in how an identifier is compared: the gate with `==` and `int`, the shadow by its decimal
text, so that the shadow takes an identifier that is a string where the gate does not.
-/

namespace SuderraOs.Release

/-- The three documents, the paths they were read from and the repository. -/
structure RunInput where
  bindingPath : String
  binding : Value
  runPath : String
  run : Value
  artifactsPath : String
  artifacts : Value
  repository : String

/-- `"-" in version`. -/
def hasHyphen (version : String) : Bool := version.toList.contains '-'

def profileOf (hyphen : Bool) : String := if hyphen then "release-candidate" else "production-candidate"

/-- The name of the artifact of a preflight run. -/
def artifactName (profile version sourceSha : String) : String := s!"release-preflight-{profile}-{version}-{sourceSha}"

/-! ## The shadow -/

namespace Core

/-- `positive_int_string`. -/
def positiveIntString (value : Value) (field : String) : Except String String :=
  match value with
  | .str raw => parsePositiveInt raw field
  | .int n =>
    if 0 < n ∧ n.toNat < UInt64.size then .ok (toString n.toNat) else .error s!"{field}: must be a positive integer"
  | _ => .error s!"{field}: must be a positive integer"

/-- The text of an optional string in a message. -/
def debug : Option String → String
  | none => "None"
  | some s => "Some(" ++ s.quote ++ ")"

def expectString (object : List (String × Value)) (field expected : String) : Except String Unit :=
  let actual := (Value.lookup field object).bind Value.asStr
  guardError (s!"{field} must be " ++ expected.quote ++ ", got " ++ debug actual) (actual = some expected)

def expectNumberString (value : Option Value) (field expected : String) : Except String Unit := do
  let value ← orError s!"{field} is missing" value
  let actual ← positiveIntString value field
  guardError s!"{field} must be {expected}, got {actual}" (actual = expected)

def object (value : Value) (path : String) : Except String (List (String × Value)) :=
  orError s!"{path}: must be a JSON object" value.asDict

/-- The artifacts of a name. -/
def artifactsNamed (name : String) (items : List Value) : List Value :=
  items.filter fun item => (item.get "name").bind Value.asStr = some name

/-- The size of an artifact as a signed 64-bit integer. -/
def asI64 : Value → Option Int
  | .int n => if -(2 ^ 63 : Int) ≤ n ∧ n < 2 ^ 63 then some n else none
  | _ => none

/-- The name of the artifact that `validate_tag_run` accepts and writes. -/
def validateTagRun (input : RunInput) : Except String String := do
  let binding ← object input.binding "tag binding"
  validateBindingObject binding
  let run ← object input.run "preflight run"
  expectNumberString (Value.lookup "id" run) "preflight run id" (← stringField binding "preflight_run_id")
  expectNumberString (Value.lookup "run_attempt" run) "preflight run run_attempt" (← stringField binding "preflight_run_attempt")
  expectString run "head_sha" (← stringField binding "source_sha")
  expectString run "head_branch" "main"
  expectString run "status" "completed"
  expectString run "conclusion" "success"
  expectString run "name" "Release Preflight"
  expectString run "event" "workflow_dispatch"
  expectString run "path" ".github/workflows/release-preflight.yml"
  let repo ← orError "preflight run head_repository must be an object" ((Value.lookup "head_repository" run).bind Value.asDict)
  expectString repo "full_name" input.repository
  let artifacts ← object input.artifacts "preflight artifacts"
  let items ← orError "preflight artifacts JSON must include artifacts list" ((Value.lookup "artifacts" artifacts).bind Value.asList)
  let version ← stringField binding "version"
  let sourceSha ← stringField binding "source_sha"
  let expectedName := artifactName (profileOf (hasHyphen version)) version sourceSha
  let found := artifactsNamed expectedName items
  guardError s!"expected exactly one preflight artifact named {expectedName}, got {found.length}" (found.length == 1)
  let artifact ← orError "preflight artifact entry must be an object" (found.head?.bind Value.asDict)
  expectNumberString (Value.lookup "id" artifact) "preflight artifact id" (← stringField binding "preflight_artifact_id")
  guardError "preflight artifact is expired" (!(Value.lookup "expired" artifact).any Value.isTrue)
  let size ← orError "preflight artifact must have a positive size" ((Value.lookup "size_in_bytes" artifact).bind asI64)
  guardError "preflight artifact must have a positive size" (0 < size)
  .ok expectedName

end Core

/-! ## The gate -/

/-- What the gate asks of Python beyond its tables: the texts that `str` and `repr` give a value. -/
structure Py extends PyText.Unicode where
  str : Value → String
  repr : Option Value → String

namespace Gate

/-- `int` of a value; `none` where it raises. -/
def int (P : Py) : Value → Option Int
  | .int n => some n
  | .bool b => some (if b then 1 else 0)
  | .float (.finite x) => some (if x < 0 then -(-x).floor else x.floor)
  | .str s => PyText.parseInt P.toUnicode s.toList
  | _ => none

/-- The text of a value in a formatted string. -/
def format (P : Py) : Value → String
  | .str s => s
  | v => P.str v

/-- `"-" in value`; `none` where it raises. -/
def containsHyphen : Value → Option Bool
  | .str s => some (hasHyphen s)
  | .list items => some (items.any fun item => item.pyEq (.str "-"))
  | .dict fields => some (fields.any (·.1 = "-"))
  | _ => none

/-- `run.get(key) != value` with `fail`. -/
def expect (P : Py) (run : List (String × Value)) (key : String) (value : Value) (message : String) : Except String Unit :=
  guardError (message ++ ", got " ++ P.repr (Value.lookup key run)) (((Value.lookup key run).getD .null).pyEq value)

/-- `int(item.get("id", 0))`. -/
def artifactId (P : Py) (item : Value) : Option Int := int P ((item.get "id").getD (.int 0))

/-- The artifacts of a name: `item.get("name") == name` on the items that are objects. -/
def artifactsNamed (name : String) (items : List Value) : List Value :=
  items.filter fun item => (item.get "name").any fun v => v.pyEq (.str name)

def raises : String := "an exception was raised"

/-- The name of the artifact that `validate_run_command` accepts and writes. -/
def validateRunCommand (P : Py) (input : RunInput) : Except String String := do
  let binding ← orError s!"invalid tag binding JSON: {input.bindingPath}" input.binding.asDict
  guardError s!"invalid tag binding JSON: {input.bindingPath}"
    ((Value.lookup "schema_version" binding).any fun v => v.pyEq (.str releaseTagBindingSchema))
  let run ← orError s!"invalid preflight run JSON: {input.runPath}" input.run.asDict
  let runId ← orError raises ((Value.lookup "preflight_run_id" binding).bind (int P))
  let runAttempt ← orError raises ((Value.lookup "preflight_run_attempt" binding).bind (int P))
  let sourceSha ← orError raises (Value.lookup "source_sha" binding)
  expect P run "id" (.int runId) s!"preflight run id must be {runId}"
  expect P run "run_attempt" (.int runAttempt) s!"preflight run run_attempt must be {runAttempt}"
  expect P run "head_sha" sourceSha ("preflight run head_sha must be " ++ P.repr (some sourceSha))
  expect P run "head_branch" (.str "main") "preflight run head_branch must be 'main'"
  expect P run "status" (.str "completed") "preflight run status must be 'completed'"
  expect P run "conclusion" (.str "success") "preflight run conclusion must be 'success'"
  expect P run "name" (.str "Release Preflight") "preflight run must be named Release Preflight"
  expect P run "event" (.str "workflow_dispatch") "preflight run event must be workflow_dispatch"
  expect P run "path" (.str ".github/workflows/release-preflight.yml")
    "preflight run path must be .github/workflows/release-preflight.yml"
  guardError "preflight run must come from the same repository"
    (((Value.lookup "head_repository" run).bind Value.asDict).any fun repo =>
      (Value.lookup "full_name" repo).any fun v => v.pyEq (.str input.repository))
  let items ← orError s!"invalid preflight artifacts JSON: {input.artifactsPath}" ((input.artifacts.get "artifacts").bind Value.asList)
  let version ← orError raises (Value.lookup "version" binding)
  let hyphen ← orError raises (containsHyphen version)
  guardError s!"Suderra-Preflight-Profile must be {profileOf hyphen}"
    ((Value.lookup "preflight_profile" binding).all fun v => v.pyEq (.str (profileOf hyphen)))
  let expectedName := artifactName (profileOf hyphen) (format P version) (format P sourceSha)
  let forbiddenName := artifactName "rc-evidence-dry-run" (format P version) (format P sourceSha)
  let forbidden := artifactsNamed forbiddenName items
  -- the comprehension converts the identifier of every artifact of the forbidden name
  let forbiddenIds ← orError raises (forbidden.mapM (artifactId P))
  let bound := (Value.lookup "preflight_artifact_id" binding).bind (int P)
  guardError raises (forbidden.isEmpty || bound.isSome)
  guardError "rc-evidence-dry-run preflight artifacts are non-promotable and cannot authorize release tags"
    !(forbiddenIds.any fun n => some n = bound)
  let found := artifactsNamed expectedName items
  guardError s!"expected exactly one preflight artifact named {expectedName}, got {found.length}" (found.length == 1)
  let artifact ← orError raises found.head?
  let id ← orError raises (artifactId P artifact)
  let bound ← orError raises bound
  guardError "preflight artifact ID does not match tag binding" (id = bound)
  guardError "preflight artifact is expired" (!(artifact.get "expired").any Value.isTrue)
  guardError "preflight artifact must have a positive size"
    ((artifact.get "size_in_bytes").any fun v => match v with
      | .int n => 0 < n
      | .bool b => b
      | _ => false)
  .ok expectedName

end Gate

/-! ## What the shadow accepts -/

/-- A text that the shadow accepts as a number is a positive number of 64 bits; this is its value. -/
theorem parsePositiveInt_ok {value field text : String} (h : Core.parsePositiveInt value field = .ok text) :
    value.toList ≠ [] ∧ (∀ c ∈ value.toList, c.isDigit = true) ∧ Text.digitsValue value.toList < UInt64.size ∧
      text = toString (Text.digitsValue value.toList) := by
  obtain ⟨_, hdigits, h⟩ := bind_ok_iff.1 h
  obtain ⟨n, hparse, h⟩ := bind_ok_iff.1 h
  obtain ⟨_, _, h⟩ := bind_ok_iff.1 h
  have hall := guardError_ok_iff.1 hdigits
  simp only [Bool.and_eq_true, List.all_eq_true] at hall
  have hsign : value.toList.head? ≠ some '+' := by
    intro hplus
    exact absurd (hall.2 '+' (List.mem_of_mem_head? hplus)) (by decide)
  obtain ⟨hne, hdigits, hlt, rfl⟩ := Text.parseU64_some hsign (orError_ok_iff.1 hparse)
  exact ⟨hne, hdigits, hlt, (Except.ok.inj h).symm⟩

/-- An identifier that the shadow accepts is a number or the text of one, and it is the expected one. -/
theorem positiveIntString_ok {v : Value} {field text : String} (h : Core.positiveIntString v field = .ok text) :
    ∃ n : Nat, n < UInt64.size ∧ text = toString n ∧
      (v = .int n ∨ ∃ raw : String, v = .str raw ∧ raw.toList ≠ [] ∧ (∀ c ∈ raw.toList, c.isDigit = true) ∧
        Text.digitsValue raw.toList = n) := by
  unfold Core.positiveIntString at h
  split at h
  · next raw =>
    obtain ⟨hne, hdigits, hlt, htext⟩ := parsePositiveInt_ok h
    exact ⟨_, hlt, htext, .inr ⟨raw, rfl, hne, hdigits, rfl⟩⟩
  · next n =>
    split_ifs at h with hn
    refine ⟨n.toNat, hn.2, (Except.ok.inj h).symm, .inl ?_⟩
    rw [Int.toNat_of_nonneg (by omega)]
  · cases h

/-- `int` of the decimal text of a number of 64 bits. -/
theorem int_toString (P : Py) {n : Nat} (h : n < UInt64.size) : Gate.int P (.str (toString n)) = some (n : Int) := by
  have htext : (toString n).toList = Nat.toDigits 10 n := Nat.toList_repr
  have hlen : (Nat.toDigits 10 n).length ≤ 20 := by
    rw [Nat.length_toDigits_le_iff (by decide) (by decide)]
    exact lt_trans h (by decide)
  rw [Gate.int, htext, PyText.parseInt_digits _ Nat.toDigits_ne_nil (Text.isDigit_toDigits n), if_pos (by omega),
    Text.digitsValue_toDigits]

theorem stringField_ok {object : List (String × Value)} {field s : String} (h : Core.stringField object field = .ok s) :
    Value.lookup field object = some (.str s) := by
  unfold Core.stringField at h
  split at h
  · next hlookup =>
    split_ifs at h
    cases h
    exact hlookup
  · cases h

theorem expectString_ok {object : List (String × Value)} {field expected : String} {u : Unit}
    (h : Core.expectString object field expected = .ok u) : Value.lookup field object = some (.str expected) := by
  have hactual := of_decide_eq_true (guardError_ok_iff.1 h)
  obtain ⟨v, hlookup, hv⟩ := Option.bind_eq_some_iff.1 hactual
  rw [hlookup, Value.asStr_eq_some.1 hv]

theorem requireSchema_ok {object : List (String × Value)} {expected : String} {u : Unit}
    (h : Core.requireSchema object expected = .ok u) : Value.lookup "schema_version" object = some (.str expected) := by
  unfold Core.requireSchema at h
  split at h
  · next s hlookup => rw [hlookup, of_decide_eq_true (guardError_ok_iff.1 h)]
  · cases h

theorem asI64_ok {v : Value} {n : Int} (h : Core.asI64 v = some n) : v = .int n := by
  unfold Core.asI64 at h
  split at h
  · split_ifs at h
    cases h
    rfl
  · cases h

theorem object_ok {v : Value} {path : String} {fields : List (String × Value)} (h : Core.object v path = .ok fields) :
    v = .dict fields := Value.asDict_eq_some.1 (orError_ok_iff.1 h)

/-- What an identifier that the shadow accepts is: `n` is the number it stands for. -/
structure Identifies (v : Option Value) (expected : String) (n : Nat) : Prop where
  bounded : n < UInt64.size
  expected : expected = toString n
  value : v = some (.int n) ∨ ∃ raw : String, v = some (.str raw) ∧ raw.toList ≠ [] ∧
    (∀ c ∈ raw.toList, c.isDigit = true) ∧ Text.digitsValue raw.toList = n

theorem expectNumberString_ok {v : Option Value} {field expected : String} {u : Unit}
    (h : Core.expectNumberString v field expected = .ok u) : ∃ n, Identifies v expected n := by
  obtain ⟨v, hv, h⟩ := bind_ok_iff.1 h
  obtain ⟨actual, hactual, h⟩ := bind_ok_iff.1 h
  obtain ⟨n, hlt, htext, hvalue⟩ := positiveIntString_ok hactual
  rw [orError_ok_iff.1 hv]
  refine ⟨n, hlt, (of_decide_eq_true (guardError_ok_iff.1 h)).symm.trans htext, ?_⟩
  rcases hvalue with rfl | ⟨raw, rfl, hraw⟩
  · exact .inl rfl
  · exact .inr ⟨raw, rfl, hraw⟩

/-- What the shadow has checked of a run that it accepts. -/
structure Accepted (input : RunInput) (name : String) where
  binding : List (String × Value)
  run : List (String × Value)
  repo : List (String × Value)
  items : List Value
  artifact : List (String × Value)
  version : String
  sourceSha : String
  runId : String
  runAttempt : String
  artifactId : String
  runNumber : Nat
  attemptNumber : Nat
  artifactNumber : Nat
  size : Int
  input_binding : input.binding = .dict binding
  schema : Value.lookup "schema_version" binding = some (.str releaseTagBindingSchema)
  binding_version : Value.lookup "version" binding = some (.str version)
  binding_sourceSha : Value.lookup "source_sha" binding = some (.str sourceSha)
  binding_runId : Value.lookup "preflight_run_id" binding = some (.str runId)
  binding_runAttempt : Value.lookup "preflight_run_attempt" binding = some (.str runAttempt)
  binding_artifactId : Value.lookup "preflight_artifact_id" binding = some (.str artifactId)
  input_run : input.run = .dict run
  run_id : Identifies (Value.lookup "id" run) runId runNumber
  run_attempt : Identifies (Value.lookup "run_attempt" run) runAttempt attemptNumber
  head_sha : Value.lookup "head_sha" run = some (.str sourceSha)
  head_branch : Value.lookup "head_branch" run = some (.str "main")
  status : Value.lookup "status" run = some (.str "completed")
  conclusion : Value.lookup "conclusion" run = some (.str "success")
  run_name : Value.lookup "name" run = some (.str "Release Preflight")
  event : Value.lookup "event" run = some (.str "workflow_dispatch")
  path : Value.lookup "path" run = some (.str ".github/workflows/release-preflight.yml")
  head_repository : Value.lookup "head_repository" run = some (.dict repo)
  full_name : Value.lookup "full_name" repo = some (.str input.repository)
  input_artifacts : (input.artifacts.get "artifacts") = some (.list items)
  name_eq : name = artifactName (profileOf (hasHyphen version)) version sourceSha
  found : Core.artifactsNamed name items = [.dict artifact]
  artifact_id : Identifies (Value.lookup "id" artifact) artifactId artifactNumber
  expired : (Value.lookup "expired" artifact).any Value.isTrue = false
  size_in_bytes : Value.lookup "size_in_bytes" artifact = some (.int size)
  size_pos : 0 < size

theorem validateTagRun_ok {input : RunInput} {name : String} (h : Core.validateTagRun input = .ok name) :
    Nonempty (Accepted input name) := by
  unfold Core.validateTagRun at h
  obtain ⟨binding, hbinding, h⟩ := bind_ok_iff.1 h
  obtain ⟨_, hobject, h⟩ := bind_ok_iff.1 h
  obtain ⟨run, hrun, h⟩ := bind_ok_iff.1 h
  obtain ⟨runId, hrunId, h⟩ := bind_ok_iff.1 h
  obtain ⟨_, hid, h⟩ := bind_ok_iff.1 h
  obtain ⟨runAttempt, hrunAttempt, h⟩ := bind_ok_iff.1 h
  obtain ⟨_, hattempt, h⟩ := bind_ok_iff.1 h
  obtain ⟨sourceSha, hsha, h⟩ := bind_ok_iff.1 h
  obtain ⟨_, hheadSha, h⟩ := bind_ok_iff.1 h
  obtain ⟨_, hbranch, h⟩ := bind_ok_iff.1 h
  obtain ⟨_, hstatus, h⟩ := bind_ok_iff.1 h
  obtain ⟨_, hconclusion, h⟩ := bind_ok_iff.1 h
  obtain ⟨_, hname, h⟩ := bind_ok_iff.1 h
  obtain ⟨_, hevent, h⟩ := bind_ok_iff.1 h
  obtain ⟨_, hpath, h⟩ := bind_ok_iff.1 h
  obtain ⟨repo, hrepo, h⟩ := bind_ok_iff.1 h
  obtain ⟨_, hfull, h⟩ := bind_ok_iff.1 h
  obtain ⟨artifacts, hartifacts, h⟩ := bind_ok_iff.1 h
  obtain ⟨items, hitems, h⟩ := bind_ok_iff.1 h
  obtain ⟨version, hversion, h⟩ := bind_ok_iff.1 h
  obtain ⟨sourceSha', hsha', h⟩ := bind_ok_iff.1 h
  obtain ⟨_, hfound, h⟩ := bind_ok_iff.1 h
  obtain ⟨artifact, hartifact, h⟩ := bind_ok_iff.1 h
  obtain ⟨artifactId, hartifactId, h⟩ := bind_ok_iff.1 h
  obtain ⟨_, hartifactNumber, h⟩ := bind_ok_iff.1 h
  obtain ⟨_, hexpired, h⟩ := bind_ok_iff.1 h
  obtain ⟨size, hsize, h⟩ := bind_ok_iff.1 h
  obtain ⟨_, hpos, hname'⟩ := bind_ok_iff.1 h
  obtain ⟨_, hschema, _⟩ := bind_ok_iff.1 hobject
  obtain ⟨repoValue, hrepoLookup, hrepoDict⟩ := Option.bind_eq_some_iff.1 (orError_ok_iff.1 hrepo)
  obtain ⟨itemsValue, hitemsLookup, hitemsList⟩ := Option.bind_eq_some_iff.1 (orError_ok_iff.1 hitems)
  obtain ⟨sizeValue, hsizeLookup, hsizeInt⟩ := Option.bind_eq_some_iff.1 (orError_ok_iff.1 hsize)
  obtain ⟨artifactValue, hhead, hartifactDict⟩ := Option.bind_eq_some_iff.1 (orError_ok_iff.1 hartifact)
  obtain ⟨runNumber, hrunNumber⟩ := expectNumberString_ok hid
  obtain ⟨attemptNumber, hattemptNumber⟩ := expectNumberString_ok hattempt
  obtain ⟨artifactNumber, hartifactNumber⟩ := expectNumberString_ok hartifactNumber
  have hshaEq : sourceSha' = sourceSha := by
    have := hsha'.symm.trans hsha
    exact Except.ok.inj this
  subst hshaEq
  have hfoundEq : Core.artifactsNamed (artifactName (profileOf (hasHyphen version)) version sourceSha') items =
      [.dict artifact] := by
    obtain ⟨found, hone⟩ := List.length_eq_one_iff.1 (eq_of_beq (guardError_ok_iff.1 hfound))
    rw [hone, List.head?_cons, Option.some.injEq] at hhead
    rw [hone, hhead, Value.asDict_eq_some.1 hartifactDict]
  rw [Value.asDict_eq_some.1 hrepoDict] at hrepoLookup
  rw [Value.asList_eq_some.1 hitemsList] at hitemsLookup
  rw [asI64_ok hsizeInt] at hsizeLookup
  refine ⟨{
    binding := binding, run := run, repo := repo, items := items, artifact := artifact, version := version,
    sourceSha := sourceSha', runId := runId, runAttempt := runAttempt, artifactId := artifactId, runNumber := runNumber,
    attemptNumber := attemptNumber, artifactNumber := artifactNumber, size := size,
    input_binding := object_ok hbinding
    schema := requireSchema_ok hschema
    binding_version := stringField_ok hversion
    binding_sourceSha := stringField_ok hsha
    binding_runId := stringField_ok hrunId
    binding_runAttempt := stringField_ok hrunAttempt
    binding_artifactId := stringField_ok hartifactId
    input_run := object_ok hrun
    run_id := hrunNumber
    run_attempt := hattemptNumber
    head_sha := expectString_ok hheadSha
    head_branch := expectString_ok hbranch
    status := expectString_ok hstatus
    conclusion := expectString_ok hconclusion
    run_name := expectString_ok hname
    event := expectString_ok hevent
    path := expectString_ok hpath
    head_repository := hrepoLookup
    full_name := expectString_ok hfull
    input_artifacts := ?_
    name_eq := (Except.ok.inj hname').symm
    found := ?_
    artifact_id := hartifactNumber
    expired := ?_
    size_in_bytes := hsizeLookup
    size_pos := of_decide_eq_true (guardError_ok_iff.1 hpos) }⟩
  · rw [object_ok hartifacts]
    exact hitemsLookup
  · rw [← hfoundEq, ← Except.ok.inj hname']
  · simpa using guardError_ok_iff.1 hexpired

/-! ## What the gate checks beyond the shadow -/

/-- A member of the binding that is a text. -/
def RunInput.bound (input : RunInput) (name : String) : String := ((input.binding.get name).bind Value.asStr).getD ""

def RunInput.profile (input : RunInput) : String := profileOf (hasHyphen (input.bound "version"))

/-- The name of the artifact of the preflight run. -/
def RunInput.expectedName (input : RunInput) : String :=
  artifactName input.profile (input.bound "version") (input.bound "source_sha")

/-- The name of the artifact of a dry run. -/
def RunInput.forbiddenName (input : RunInput) : String :=
  artifactName "rc-evidence-dry-run" (input.bound "version") (input.bound "source_sha")

def RunInput.items (input : RunInput) : List Value := ((input.artifacts.get "artifacts").bind Value.asList).getD []

/-- The conditions under which the gate accepts a run that the shadow accepts: the identifiers of the run are no strings, the profile
of the binding is absent or the version's own, every dry-run artifact has an identifier that Python can convert and that is not the
bound one, and no identifier of the expected artifact is a string of more digits than Python converts. -/
structure GateConditions (P : Py) (input : RunInput) : Prop where
  run_id : ∀ s, input.run.get "id" ≠ some (.str s)
  run_attempt : ∀ s, input.run.get "run_attempt" ≠ some (.str s)
  profile : ∀ v, input.binding.get "preflight_profile" = some v → v = .str input.profile
  forbidden : ∀ item ∈ input.items, item.get "name" = some (.str input.forbiddenName) →
    ∃ n, Gate.artifactId P item = some n ∧ (input.binding.get "preflight_artifact_id").bind (Gate.int P) ≠ some n
  artifact_id : ∀ item ∈ input.items, item.get "name" = some (.str input.expectedName) →
    ∀ s : String, item.get "id" = some (.str s) → s.toList.length ≤ 4300

theorem pyEq_str_int (s : String) (n : Int) : (Value.str s).pyEq (.int n) = false := by
  simp [Value.pyEq, Value.unique, Value.eqUnique]

variable {P : Py}

/-- The gate's comparison accepts an identifier that the shadow accepts exactly when it is no string. -/
theorem Identifies.pyEq_iff {v : Option Value} {expected : String} {n : Nat} (h : Identifies v expected n) :
    (v.getD .null).pyEq (.int n) = true ↔ ∀ s, v ≠ some (.str s) := by
  rcases h.value with rfl | ⟨raw, rfl, _⟩
  · simp [Value.pyEq_int]
  · simp [pyEq_str_int]

/-- The gate converts the text of an identifier that the shadow accepts. -/
theorem Identifies.int_expected {v : Option Value} {expected : String} {n : Nat} (h : Identifies v expected n) :
    Gate.int P (.str expected) = some (n : Int) := by
  rw [h.expected]
  exact int_toString P h.bounded

/-- The gate converts an identifier that the shadow accepts to the same number, or it is a string that is too long. -/
theorem Identifies.int_eq_iff {v : Option Value} {expected : String} {n : Nat} (h : Identifies v expected n) :
    Gate.int P (v.getD (.int 0)) = some (n : Int) ↔ ∀ s : String, v = some (.str s) → s.toList.length ≤ 4300 := by
  rcases h.value with rfl | ⟨raw, rfl, hne, hdigits, hvalue⟩
  · simp [Gate.int]
  · simp only [Option.getD_some, Gate.int, PyText.parseInt_digits _ hne hdigits, hvalue, Option.some.injEq, Value.str.injEq]
    split_ifs with hlen
    · simp [hlen]
    · simp [hlen]

theorem mapM_forall {α β : Type} {f : α → Option β} {p : β → Prop} (items : List α) :
    (∃ ys, items.mapM f = some ys ∧ ∀ y ∈ ys, p y) ↔ ∀ x ∈ items, ∃ y, f x = some y ∧ p y := by
  induction items with
  | nil => simp
  | cons x items ih =>
    simp only [List.mapM_cons, Option.bind_eq_bind, Option.bind_eq_some_iff, List.forall_mem_cons, ← ih]
    constructor
    · rintro ⟨ys, ⟨y, hy, ys', hys', hout⟩, hp⟩
      cases hout
      exact ⟨⟨y, hy, hp y (by simp)⟩, ys', hys', fun z hz => hp z (by simp [hz])⟩
    · rintro ⟨⟨y, hy, hpy⟩, ys, hys, hp⟩
      exact ⟨y :: ys, ⟨y, hy, ys, hys, rfl⟩, by simpa using ⟨hpy, hp⟩⟩

theorem gate_artifactsNamed (name : String) (items : List Value) : Gate.artifactsNamed name items = Core.artifactsNamed name items := by
  refine List.filter_congr fun item _ => ?_
  rw [Bool.eq_iff_iff, Option.any_eq_true, decide_eq_true_eq, Option.bind_eq_some_iff]
  simp only [Value.pyEq_str_iff, Value.asStr_eq_some]

theorem mem_artifactsNamed {name : String} {items : List Value} {item : Value} :
    item ∈ Core.artifactsNamed name items ↔ item ∈ items ∧ item.get "name" = some (.str name) := by
  simp only [Core.artifactsNamed, List.mem_filter, decide_eq_true_eq, Option.bind_eq_some_iff, Value.asStr_eq_some, exists_eq_right]

/-! ## One run

A binding, a run and an artifact that belong together; the identifier of the run is a string in the second one.
-/

def sampleRunBinding : Value :=
  .dict [("schema_version", .str releaseTagBindingSchema), ("version", .str "v1.2.0"),
    ("source_sha", .str "0123456789abcdef0123456789abcdef01234567"), ("source_build_run_id", .str "11"),
    ("source_build_run_attempt", .str "1"), ("preflight_run_id", .str "12"), ("preflight_run_attempt", .str "1"),
    ("preflight_artifact_id", .str "13"),
    ("ingress_manifest_sha256", .str "60f9c569bed02a8072d1ba18262492462d7266be67bcddf9b5ea5a32ae025d5a")]

def sampleWorkflowRun (id : Value) : Value :=
  .dict [("id", id), ("run_attempt", .int 1), ("head_sha", .str "0123456789abcdef0123456789abcdef01234567"),
    ("head_branch", .str "main"), ("status", .str "completed"), ("conclusion", .str "success"), ("name", .str "Release Preflight"),
    ("event", .str "workflow_dispatch"), ("path", .str ".github/workflows/release-preflight.yml"),
    ("head_repository", .dict [("full_name", .str "suderra/suderra-os")])]

def sampleArtifactName : String :=
  artifactName "production-candidate" "v1.2.0" "0123456789abcdef0123456789abcdef01234567"

def sampleRun (id : Value) : RunInput where
  bindingPath := "release-tag-binding.json"
  binding := sampleRunBinding
  runPath := "preflight-run.json"
  run := sampleWorkflowRun id
  artifactsPath := "preflight-artifacts.json"
  artifacts := .dict [("artifacts", .list [.dict [("id", .int 13), ("name", .str sampleArtifactName), ("expired", .bool false),
    ("size_in_bytes", .int 1024)]])]
  repository := "suderra/suderra-os"

def samplePy : Py where
  toUnicode := asciiUnicode
  str := fun _ => ""
  repr := fun
    | some (.str s) => "'" ++ s ++ "'"
    | some (.int n) => toString n
    | _ => "None"

theorem shadow_accepts_run : Core.validateTagRun (sampleRun (.int 12)) = .ok sampleArtifactName := by decide +kernel

/-! ## The two verdicts -/

/-- Of a run that the shadow accepts, the gate accepts the same artifact exactly under the conditions above. -/
theorem gate_accepts_iff (P : Py) {input : RunInput} {name : String} (h : Core.validateTagRun input = .ok name) :
    Gate.validateRunCommand P input = .ok name ↔ GateConditions P input := by
  obtain ⟨a⟩ := validateTagRun_ok h
  have hversion : input.bound "version" = a.version := by
    rw [RunInput.bound, a.input_binding, Value.get, a.binding_version]; rfl
  have hsha : input.bound "source_sha" = a.sourceSha := by
    rw [RunInput.bound, a.input_binding, Value.get, a.binding_sourceSha]; rfl
  have hitems : input.items = a.items := by
    rw [RunInput.items, a.input_artifacts]; rfl
  have hname : input.expectedName = name := by
    rw [a.name_eq, RunInput.expectedName, RunInput.profile, hversion, hsha]
  have hcond : GateConditions P input ↔ (∀ s, Value.lookup "id" a.run ≠ some (.str s)) ∧
      (∀ s, Value.lookup "run_attempt" a.run ≠ some (.str s)) ∧
      (∀ v, Value.lookup "preflight_profile" a.binding = some v → v = .str input.profile) ∧
      (∀ item ∈ Core.artifactsNamed input.forbiddenName a.items,
        ∃ n, Gate.artifactId P item = some n ∧ ¬ some n = some (a.artifactNumber : Int)) ∧
      (∀ s : String, Value.lookup "id" a.artifact = some (.str s) → s.toList.length ≤ 4300) := by
    have hartifact : ∀ item, item ∈ a.items ∧ item.get "name" = some (.str name) ↔ item = .dict a.artifact := by
      intro item
      rw [← mem_artifactsNamed, a.found, List.mem_singleton]
    have hbound : (input.binding.get "preflight_artifact_id").bind (Gate.int P) = some (a.artifactNumber : Int) := by
      rw [a.input_binding, Value.get, a.binding_artifactId]
      exact a.artifact_id.int_expected
    constructor
    · intro hc
      refine ⟨?_, ?_, ?_, ?_, ?_⟩
      · simpa [a.input_run] using hc.run_id
      · simpa [a.input_run] using hc.run_attempt
      · simpa [a.input_binding] using hc.profile
      · intro item hitem
        obtain ⟨hmem, hitemName⟩ := mem_artifactsNamed.1 hitem
        obtain ⟨n, hn, hne⟩ := hc.forbidden item (hitems ▸ hmem) hitemName
        exact ⟨n, hn, fun heq => hne (hbound.trans heq.symm)⟩
      · intro s hs
        obtain ⟨hmem, hitemName⟩ := (hartifact (.dict a.artifact)).2 rfl
        exact hc.artifact_id (.dict a.artifact) (hitems ▸ hmem) (hname ▸ hitemName) s hs
    · rintro ⟨hid, hattempt, hprofile, hforbidden, hlength⟩
      refine ⟨?_, ?_, ?_, ?_, ?_⟩
      · simpa [a.input_run] using hid
      · simpa [a.input_run] using hattempt
      · simpa [a.input_binding] using hprofile
      · intro item hmem hitemName
        obtain ⟨n, hn, hne⟩ := hforbidden item (mem_artifactsNamed.2 ⟨hitems ▸ hmem, hitemName⟩)
        exact ⟨n, hn, fun heq => hne (heq.symm.trans hbound)⟩
      · intro item hmem hitemName s hs
        have hitem := (hartifact item).1 ⟨hitems ▸ hmem, hname ▸ hitemName⟩
        subst hitem
        exact hlength s hs
  have hforbidden : input.forbiddenName = artifactName "rc-evidence-dry-run" a.version a.sourceSha := by
    rw [RunInput.forbiddenName, hversion, hsha]
  have hprofile : input.profile = profileOf (hasHyphen a.version) := by
    rw [RunInput.profile, hversion]
  rw [hcond, hforbidden, hprofile, ← a.run_id.pyEq_iff, ← a.run_attempt.pyEq_iff, ← a.artifact_id.int_eq_iff (P := P), ← mapM_forall]
  unfold Gate.validateRunCommand
  simp only [a.input_binding, a.input_run, Value.asDict, orError_some, ok_bind, a.schema, a.binding_runId, a.binding_runAttempt,
    a.binding_sourceSha, a.binding_version, a.binding_artifactId, Option.bind_some, a.run_id.int_expected,
    a.run_attempt.int_expected, a.artifact_id.int_expected, Gate.containsHyphen, Gate.format, a.input_artifacts, Value.asList,
    gate_artifactsNamed, ← a.name_eq, a.found, Gate.expect, a.head_sha, a.head_branch, a.status, a.conclusion, a.run_name, a.event,
    a.path, a.head_repository, guardError_bind_ok_iff, orError_bind_ok_iff]
  simp only [a.full_name, a.size_in_bytes, a.size_pos, a.expired, Option.all_eq_true, Value.pyEq_str_iff, Gate.artifactId,
    Value.get_dict, Option.any_some, Option.getD_some, List.head?_cons, Option.some.injEq, exists_eq_left', decide_eq_true_eq]
  simp only [beq_self_eq_true, Bool.not_false, Bool.not_eq_true', List.any_eq_false, decide_eq_true_eq, true_and, and_true,
    Option.isSome_some, Bool.or_true, List.length_singleton, exists_eq_right]
  constructor
  · rintro ⟨hid, hattempt, hprofile, ys, hys, hne, hartifact⟩
    exact ⟨hid, hattempt, hprofile, ⟨ys, hys, hne⟩, hartifact⟩
  · rintro ⟨hid, hattempt, hprofile, ⟨ys, hys, hne⟩, hartifact⟩
    exact ⟨hid, hattempt, hprofile, ys, hys, hne, hartifact⟩

theorem gate_accepts_sample :
    Gate.validateRunCommand samplePy (sampleRun (.int 12)) = .ok sampleArtifactName ↔
      GateConditions samplePy (sampleRun (.int 12)) :=
  gate_accepts_iff samplePy shadow_accepts_run

/-- The shadow takes the text of the run's identifier; the gate does not. -/
theorem shadow_accepts_text_id :
    Core.validateTagRun (sampleRun (.str "12")) = .ok sampleArtifactName ∧
      Gate.validateRunCommand samplePy (sampleRun (.str "12")) = .error "preflight run id must be 12, got '12'" := by
  decide +kernel

end SuderraOs.Release
