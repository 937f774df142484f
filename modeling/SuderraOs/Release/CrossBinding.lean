import SuderraOs.Lib.Document
import SuderraOs.Lib.PyValue
import SuderraOs.Release.PreflightRun

/-!
# The bound documents

`validate-cross-binding` of the gate and of the shadow: whether the release input binding and the ingress manifest are those of a tag
binding. The two compare the same fields of the same documents, but the shadow never looks at the profile of the tag binding, and it
reads a number that is no 64-bit integer as a double, so that it takes two different numbers for one.
-/

namespace SuderraOs.Release

/-- The three documents, each `none` if no JSON document can be read, and the digest of the ingress manifest. -/
structure CrossInput where
  binding : Option Document
  releaseInput : Option Document
  ingressManifest : Option Document
  ingressSha256 : String

/-- `field_pairs`: the fields of the tag binding and what the other two documents call them. -/
def fieldPairs : List (String × String) :=
  [("version", "version"), ("source_sha", "source_sha"), ("source_build_run_id", "source_run_id"),
    ("source_build_run_attempt", "source_run_attempt")]

/-- The fields that the release input binding and the ingress manifest share. -/
def sharedFields : List String :=
  ["build_workflow_name", "matrix_sha256", "buildroot_source_identity_schema_version", "buildroot_index_sha", "buildroot_upstream_ref",
    "buildroot_source_mode", "buildroot_patchset_sha256", "buildroot_patch_files", "buildroot_effective_source_id",
    "buildroot_applied_diff_sha256", "buildroot_expected_patched", "buildroot_rust_version", "buildroot_rust_bin_version",
    "buildroot_expected_diff_sha256", "buildroot_staged_diff_sha256", "buildroot_worktree_diff_sha256", "suderra_source_sha",
    "suderra_external_tree_sha256", "suderra_external_dirty_paths", "suderra_release_source_id"]

/-! ## The shadow -/

/-- What `serde_json` makes of a number that is no 64-bit integer: the double nearest to it by its own reckoning, if one is in range,
and the text of a double, which is short and holds a point or an exponent. -/
structure Serde where
  double : Literal → Option Double
  text : Double → String
  double_range : ∀ {x d}, double x = some d → x.isInteger = true → x.digits.length ≤ 4300
  text_length : ∀ d, (text d).toList.length < 40
  text_head : ∀ d, (text d).toList.head? ≠ some 'v'
  text_digits : ∀ d, ∃ c ∈ (text d).toList, c.isDigit = false

namespace Core

/-- A number as `serde_json` reads it; `-0` is a double. -/
def integer (x : Literal) : Option Int :=
  let n := Text.digitsValue x.digits
  if x.isInteger = false then none
  else if x.negative then if 0 < n ∧ n ≤ 2 ^ 63 then some (-(n : Int)) else none
  else if n < UInt64.size then some n else none

def number (S : Serde) (x : Literal) : Value :=
  match integer x with
  | some n => .int n
  | none => .float ((S.double x).getD (.finite 0))

/-- `read_json`: a number out of range is an error. -/
def readJson (S : Serde) (document : Option Document) : Except String Value := do
  let document ← orError "cannot parse JSON" document
  guardError "cannot parse JSON" (document.literals.all fun x => (integer x).isSome || (S.double x).isSome)
  .ok (document.value (number S))

/-- `==` on values without members. -/
def eqScalar : Value → Value → Bool
  | .null, .null => true
  | .bool x, .bool y => x == y
  | .int n, .int m => n == m
  | .float x, .float y => Value.eqNumber (some x) (some y)
  | .str s, .str t => s == t
  | _, _ => false

/-- `==` on values. -/
def eqValue (a b : Value) : Bool := Value.eqWith eqScalar a.unique b.unique

def valueAsString (S : Serde) : Option Value → Option String
  | some (.str s) => some s
  | some (.int n) => some (toString n)
  | some (.float x) => some (S.text x)
  | _ => none

/-- The messages about one pair of fields. -/
def pairFailures (S : Serde) (binding releaseInput ingress : List (String × Value)) (p : String × String) :
    Except String (List String) := do
  let expected ← stringField binding p.1
  .ok (failUnless s!"release input {p.2} must match tag {p.1}" (valueAsString S (Value.lookup p.2 releaseInput) = some expected) ++
    failUnless s!"ingress {p.2} must match tag {p.1}" (valueAsString S (Value.lookup p.2 ingress) = some expected))

/-- `==` on members: two that are not there are equal. -/
def eqMember : Option Value → Option Value → Bool
  | none, none => true
  | some a, some b => eqValue a b
  | _, _ => false

/-- The messages about the profiles and the shared fields. -/
def sharedFailures (version : String) (releaseInput ingress : List (String × Value)) : List String :=
  let profile := profileOf (hasHyphen version)
  failUnless s!"release input profile must be {profile}" ((Value.lookup "profile" releaseInput).bind Value.asStr = some profile) ++
    failUnless s!"ingress profile must be {profile}" ((Value.lookup "profile" ingress).bind Value.asStr = some profile) ++
    sharedFields.flatMap fun field =>
      failUnless s!"ingress {field} must match release input binding"
        (eqMember (Value.lookup field releaseInput) (Value.lookup field ingress))

def validateCrossBinding (S : Serde) (input : CrossInput) : Except String Unit := do
  let binding ← object (← readJson S input.binding) "tag binding"
  validateBindingObject binding
  let releaseInput ← object (← readJson S input.releaseInput) "release input binding"
  let ingress ← object (← readJson S input.ingressManifest) "ingress manifest"
  let pairs ← fieldPairs.mapM (pairFailures S binding releaseInput ingress)
  let version ← stringField binding "version"
  let expected ← stringField binding "ingress_manifest_sha256"
  let failures := pairs.flatten ++ sharedFailures version releaseInput ingress ++
    failUnless "ingress manifest sha256 must match tag binding" (input.ingressSha256 = expected)
  guardError ("; ".intercalate failures) failures.isEmpty

end Core

/-! ## The gate -/

namespace Gate

/-- A number as `json.loads` reads it. -/
def number (x : Literal) : Value := JsonText.numberValue x.negative x.digits x.fraction x.exponent

/-- `load_json`: an integer of more than 4300 digits is not converted. -/
def loadJson (document : Option Document) : Except String Value := do
  let document ← orError raises document
  guardError raises (document.literals.all fun x => !x.isInteger || decide (x.digits.length ≤ 4300))
  .ok (document.value number)

/-- `str` of a value. -/
def str (P : Py) : Value → String := Value.pyStr P.str

def pairFailures (P : Py) (binding releaseInput ingress : List (String × Value)) (p : String × String) : List String :=
  let expected := str P (Value.field p.1 binding)
  failUnless s!"release input {p.2} must match tag {p.1}" (str P (Value.field p.2 releaseInput) = expected) ++
    failUnless s!"ingress {p.2} must match tag {p.1}" (str P (Value.field p.2 ingress) = expected)

def sharedFailures (P : Py) (binding releaseInput ingress : List (String × Value)) : List String :=
  let profile := profileOf (hasHyphen (str P ((Value.lookup "version" binding).getD (.str ""))))
  failUnless s!"tag binding preflight_profile must be {profile}"
      ((Value.field "preflight_profile" binding).pyEq .null || (Value.field "preflight_profile" binding).pyEq (.str profile)) ++
    failUnless s!"release input profile must be {profile}" ((Value.field "profile" releaseInput).pyEq (.str profile)) ++
    failUnless s!"ingress profile must be {profile}" ((Value.field "profile" ingress).pyEq (.str profile)) ++
    sharedFields.flatMap fun field =>
      failUnless s!"ingress {field} must match release input binding"
        ((Value.lookup field releaseInput).isNone && (Value.lookup field ingress).isNone ||
          (Value.field field releaseInput).pyEq (Value.field field ingress))

def validateCrossBindingCommand (P : Py) (input : CrossInput) : Except String Unit := do
  let binding ← orError "invalid tag binding JSON" (← loadJson input.binding).asDict
  guardError "invalid tag binding JSON" ((Value.field "schema_version" binding).pyEq (.str releaseTagBindingSchema))
  let releaseInput ← loadJson input.releaseInput
  let ingress ← loadJson input.ingressManifest
  let releaseInput ← orError "invalid release input binding JSON" releaseInput.asDict
  let ingress ← orError "invalid ingress manifest JSON" ingress.asDict
  let failures := fieldPairs.flatMap (pairFailures P binding releaseInput ingress) ++ sharedFailures P binding releaseInput ingress ++
    failUnless "ingress manifest sha256 must match tag binding"
      ((Value.field "ingress_manifest_sha256" binding).pyEq (.str input.ingressSha256))
  guardError ("; ".intercalate failures) failures.isEmpty

end Gate

/-! ## Two readings of a number -/

theorem Core.number_isNumber (S : Serde) (x : Literal) : (Core.number S x).isNumber = true := by
  unfold Core.number
  split <;> rfl

theorem Gate.number_isNumber (x : Literal) : (Gate.number x).isNumber = true := by
  unfold Gate.number JsonText.numberValue
  split_ifs <;> rfl

/-- Whether two numbers are equal to Python. -/
def Gate.sameNumber (x y : Literal) : Bool := (Gate.number x).pyEq (Gate.number y)

theorem Gate.sameNumber_eq (x y : Literal) : Gate.sameNumber x y = Value.eqUnique (Gate.number x) (Gate.number y) := by
  rw [sameNumber, Value.pyEq, Value.unique_of_isScalar (Value.isScalar_of_isNumber (number_isNumber x)),
    Value.unique_of_isScalar (Value.isScalar_of_isNumber (number_isNumber y))]

/-- Scalars that are equal to the shadow are equal to the gate, but for two numbers. -/
theorem comparable (S : Serde) :
    Document.Comparable (Core.number S) Gate.number Core.eqScalar Value.eqUnique Gate.sameNumber where
  isNumber := Core.number_isNumber S
  isNumber' := Gate.number_isNumber
  leaf := by
    intro a b ha h
    have hnumber (x : Literal) : (∃ n, Core.number S x = .int n) ∨ ∃ d, Core.number S x = .float d := by
      unfold Core.number
      cases Core.integer x with
      | some n => exact .inl ⟨n, rfl⟩
      | none => exact .inr ⟨_, rfl⟩
    cases a with
    | list => cases ha
    | dict => cases ha
    | num x =>
      cases b with
      | num y => exact (Gate.sameNumber_eq x y).symm
      | _ => rcases hnumber x with ⟨n, hx⟩ | ⟨d, hx⟩ <;> simp [Document.value, hx, Core.eqScalar] at h
    | null =>
      cases b with
      | null => rfl
      | num y => rcases hnumber y with ⟨n, hy⟩ | ⟨d, hy⟩ <;> simp [Document.value, hy, Core.eqScalar] at h
      | _ => simp [Document.value, Core.eqScalar] at h
    | bool x =>
      cases b with
      | bool y =>
        have hxy : x = y := by simpa [Document.value, Core.eqScalar] using h
        cases hxy
        simp [Document.value, Document.agreeUnique, Value.eqUnique, Value.number, Value.eqNumber]
      | num y => rcases hnumber y with ⟨n, hy⟩ | ⟨d, hy⟩ <;> simp [Document.value, hy, Core.eqScalar] at h
      | _ => simp [Document.value, Core.eqScalar] at h
    | str x =>
      cases b with
      | str y =>
        have hxy : x = y := by simpa [Document.value, Core.eqScalar] using h
        cases hxy
        simp [Document.value, Document.agreeUnique, Value.eqUnique]
      | num y => rcases hnumber y with ⟨n, hy⟩ | ⟨d, hy⟩ <;> simp [Document.value, hy, Core.eqScalar] at h
      | _ => simp [Document.value, Core.eqScalar] at h

/-- The shared fields that are equal to the shadow are equal to the gate exactly when their numbers are. -/
theorem pyEq_of_eqValue {S : Serde} {a b : Document} (h : Core.eqValue (a.value (Core.number S)) (b.value (Core.number S)) = true) :
    (a.value Gate.number).pyEq (b.value Gate.number) = Document.agree Gate.sameNumber a b := by
  rw [Value.pyEq, ← Value.eqWith_eqUnique]
  exact Document.eqWith_value_unique (comparable S) h

/-- A number of 64 bits is the same one to the gate. -/
theorem Core.integer_some {x : Literal} {n : Int} (h : Core.integer x = some n) :
    Gate.number x = .int n ∧ Text.digitsValue x.digits < 10 ^ 20 := by
  have hsize : UInt64.size < 10 ^ 20 := by decide
  have hlow : (2 : Nat) ^ 63 < 10 ^ 20 := by decide
  have hinteger : x.isInteger = true → Gate.number x =
      .int (if x.negative then -(Text.digitsValue x.digits : Int) else Text.digitsValue x.digits) := by
    intro hint
    rw [Literal.isInteger, Bool.and_eq_true, Option.isNone_iff_eq_none, Option.isNone_iff_eq_none] at hint
    rw [Gate.number, JsonText.numberValue, if_pos hint]
  unfold Core.integer at h
  simp only at h
  split_ifs at h with hint hneg hrange hrange
  · obtain rfl := Option.some.inj h
    rw [hinteger (by simpa using hint), if_pos hneg]
    exact ⟨rfl, lt_of_le_of_lt hrange.2 hlow⟩
  · obtain rfl := Option.some.inj h
    rw [hinteger (by simpa using hint), if_neg hneg]
    exact ⟨rfl, hrange.trans hsize⟩

/-- What the shadow reads, the gate reads. -/
theorem Gate.loadJson_of_readJson {S : Serde} {document : Option Document} {v : Value} (h : Core.readJson S document = .ok v) :
    ∃ d, document = some d ∧ v = d.value (Core.number S) ∧ Gate.loadJson document = .ok (d.value Gate.number) := by
  obtain ⟨d, hd, h⟩ := orError_bind_ok_iff.1 h
  obtain ⟨hrange, h⟩ := guardError_bind_ok_iff.1 h
  refine ⟨d, hd, (Except.ok.inj h).symm, ?_⟩
  refine orError_bind_ok_iff.2 ⟨d, hd, guardError_bind_ok_iff.2 ⟨?_, rfl⟩⟩
  rw [List.all_eq_true] at hrange ⊢
  intro x hx
  rw [Bool.or_eq_true, Bool.not_eq_true', decide_eq_true_eq]
  by_cases hint : x.isInteger = true
  · right
    rcases Bool.or_eq_true_iff.1 (hrange x hx) with hsome | hsome
    · obtain ⟨n, hn⟩ := Option.isSome_iff_exists.1 hsome
      exact (Literal.length_digits_le (by decide) (Core.integer_some hn).2).trans (by decide)
    · obtain ⟨d, hd⟩ := Option.isSome_iff_exists.1 hsome
      exact S.double_range hd hint
  · exact .inl (by simpa using hint)

/-! ## What the shadow accepts -/

theorem Core.validateVersion_head {version : String} (h : Core.validateVersion version = .ok ()) :
    version.toList.head? = some 'v' := by
  unfold Core.validateVersion at h
  cases hv : Text.stripPrefix ['v'] version.toList with
  | none => simp [hv] at h
  | some rest =>
    rw [Text.stripPrefix_eq_some.1 hv]
    rfl

/-- The fields that the shadow has checked are no texts of doubles. -/
theorem Core.text_ne {S : Serde} {binding : List (String × Value)} (h : Core.validateBindingObject binding = .ok ()) :
    ∀ p ∈ fieldPairs, ∀ s, Value.lookup p.1 binding = some (.str s) → ∀ d, S.text d ≠ s := by
  obtain ⟨_, _, h⟩ := bind_ok_iff.1 h
  obtain ⟨version, hversion, h⟩ := bind_ok_iff.1 h
  obtain ⟨_, hvalid, h⟩ := bind_ok_iff.1 h
  obtain ⟨sha, hsha, h⟩ := bind_ok_iff.1 h
  obtain ⟨_, hhex, h⟩ := bind_ok_iff.1 h
  obtain ⟨_, _, h⟩ := bind_ok_iff.1 h
  obtain ⟨_, _, hpositive⟩ := bind_ok_iff.1 h
  have hdigits : ∀ field ∈ positiveFields, ∀ s, Value.lookup field binding = some (.str s) → ∀ d, S.text d ≠ s := by
    rintro field hfield s hs d rfl
    obtain ⟨raw, hraw, h⟩ := bind_ok_iff.1 (forM_ok hpositive field hfield)
    obtain ⟨_, hint, _⟩ := bind_ok_iff.1 h
    have hsame : raw = S.text d := by simpa using (stringField_ok hraw).symm.trans hs
    obtain ⟨c, hc, hdigit⟩ := S.text_digits d
    have := (parsePositiveInt_ok hint).2.1 c (hsame ▸ hc)
    rw [hdigit] at this
    cases this
  have hversionText : ∀ s, Value.lookup "version" binding = some (.str s) → ∀ d, S.text d ≠ s := by
    rintro s hs d rfl
    have hsame : version = S.text d := by simpa using (stringField_ok hversion).symm.trans hs
    exact S.text_head d (hsame ▸ Core.validateVersion_head hvalid)
  have hshaText : ∀ s, Value.lookup "source_sha" binding = some (.str s) → ∀ d, S.text d ≠ s := by
    rintro s hs d rfl
    have hsame : sha = S.text d := by simpa using (stringField_ok hsha).symm.trans hs
    have hlen := guardError_ok_iff.1 hhex
    rw [isLowerHex, Bool.and_eq_true, beq_iff_eq, hsame] at hlen
    exact absurd hlen.1 (Nat.ne_of_lt (S.text_length d))
  simp only [fieldPairs, List.forall_mem_cons]
  exact ⟨hversionText, hshaText, hdigits _ (by decide), hdigits _ (by decide), by simp⟩

/-- What the shadow has checked of documents that it accepts. -/
structure CrossAccepted (S : Serde) (input : CrossInput) where
  binding : List (String × Document)
  releaseInput : List (String × Document)
  ingress : List (String × Document)
  version : String
  input_binding : input.binding = some (.dict binding)
  input_releaseInput : input.releaseInput = some (.dict releaseInput)
  input_ingress : input.ingressManifest = some (.dict ingress)
  load_binding : Gate.loadJson input.binding = .ok (.dict (Document.fieldValues Gate.number binding))
  load_releaseInput : Gate.loadJson input.releaseInput = .ok (.dict (Document.fieldValues Gate.number releaseInput))
  load_ingress : Gate.loadJson input.ingressManifest = .ok (.dict (Document.fieldValues Gate.number ingress))
  schema : Document.lookup "schema_version" binding = some (.str releaseTagBindingSchema)
  binding_version : Document.lookup "version" binding = some (.str version)
  pairs : ∀ p ∈ fieldPairs, ∃ s, Document.lookup p.1 binding = some (.str s) ∧ (∀ d, S.text d ≠ s) ∧
    Core.valueAsString S ((Document.lookup p.2 releaseInput).map (Document.value (Core.number S))) = some s ∧
    Core.valueAsString S ((Document.lookup p.2 ingress).map (Document.value (Core.number S))) = some s
  releaseInput_profile : Document.lookup "profile" releaseInput = some (.str (profileOf (hasHyphen version)))
  ingress_profile : Document.lookup "profile" ingress = some (.str (profileOf (hasHyphen version)))
  shared : ∀ field ∈ sharedFields,
    Core.eqMember ((Document.lookup field releaseInput).map (Document.value (Core.number S)))
      ((Document.lookup field ingress).map (Document.value (Core.number S))) = true
  digest : Document.lookup "ingress_manifest_sha256" binding = some (.str input.ingressSha256)

/-- The members of an object that the shadow has read. -/
theorem Core.object_readJson {S : Serde} {document : Option Document} {v : Value} {path : String} {fields : List (String × Value)}
    (h : Core.readJson S document = .ok v) (hobject : Core.object v path = .ok fields) :
    ∃ fields', document = some (.dict fields') ∧ fields = Document.fieldValues (Core.number S) fields' ∧
      Gate.loadJson document = .ok (.dict (Document.fieldValues Gate.number fields')) := by
  obtain ⟨d, hd, rfl, hload⟩ := Gate.loadJson_of_readJson h
  obtain ⟨fields', rfl, hfields⟩ := Document.value_eq_dict (Core.number_isNumber S) (object_ok hobject)
  exact ⟨fields', hd, hfields, hload⟩

/-- A member that the shadow reads as a text is that text. -/
theorem Core.lookup_str {S : Serde} {fields : List (String × Document)} {name s : String}
    (h : Value.lookup name (Document.fieldValues (Core.number S) fields) = some (.str s)) :
    Document.lookup name fields = some (.str s) := by
  rw [Document.lookup_fieldValues] at h
  obtain ⟨d, hd, hs⟩ := Option.map_eq_some_iff.1 h
  rw [hd, Document.value_eq_str (Core.number_isNumber S) hs]

theorem validateCrossBinding_ok {S : Serde} {input : CrossInput} (h : Core.validateCrossBinding S input = .ok ()) :
    Nonempty (CrossAccepted S input) := by
  unfold Core.validateCrossBinding at h
  obtain ⟨_, hreadBinding, h⟩ := bind_ok_iff.1 h
  obtain ⟨_, hbinding, h⟩ := bind_ok_iff.1 h
  obtain ⟨_, hvalid, h⟩ := bind_ok_iff.1 h
  obtain ⟨_, hreadRelease, h⟩ := bind_ok_iff.1 h
  obtain ⟨_, hrelease, h⟩ := bind_ok_iff.1 h
  obtain ⟨_, hreadIngress, h⟩ := bind_ok_iff.1 h
  obtain ⟨_, hingress, h⟩ := bind_ok_iff.1 h
  obtain ⟨pairs, hpairs, h⟩ := bind_ok_iff.1 h
  obtain ⟨version, hversion, h⟩ := bind_ok_iff.1 h
  obtain ⟨expected, hexpected, hguard⟩ := bind_ok_iff.1 h
  obtain ⟨binding, hinputBinding, rfl, hloadBinding⟩ := Core.object_readJson hreadBinding hbinding
  obtain ⟨releaseInput, hinputRelease, rfl, hloadRelease⟩ := Core.object_readJson hreadRelease hrelease
  obtain ⟨ingress, hinputIngress, rfl, hloadIngress⟩ := Core.object_readJson hreadIngress hingress
  have hfailures := List.isEmpty_iff.1 (guardError_ok_iff.1 hguard)
  simp only [List.append_eq_nil_iff, Core.sharedFailures, failUnless_eq_nil, decide_eq_true_eq, List.flatMap_eq_nil_iff] at hfailures
  obtain ⟨⟨hflatten, ⟨hreleaseProfile, hingressProfile⟩, hshared⟩, hdigest⟩ := hfailures
  have hprofile {fields : List (String × Document)} {s : String}
      (hs : (Value.lookup "profile" (Document.fieldValues (Core.number S) fields)).bind Value.asStr = some s) :
      Document.lookup "profile" fields = some (.str s) := by
    obtain ⟨v, hlookup, hv⟩ := Option.bind_eq_some_iff.1 hs
    exact Core.lookup_str (hlookup.trans (congrArg some (Value.asStr_eq_some.1 hv)))
  obtain ⟨_, hschema, _⟩ := bind_ok_iff.1 hvalid
  refine ⟨{
    binding := binding, releaseInput := releaseInput, ingress := ingress, version := version
    input_binding := hinputBinding
    input_releaseInput := hinputRelease
    input_ingress := hinputIngress
    load_binding := hloadBinding
    load_releaseInput := hloadRelease
    load_ingress := hloadIngress
    schema := Core.lookup_str (requireSchema_ok hschema)
    binding_version := Core.lookup_str (stringField_ok hversion)
    pairs := ?_
    releaseInput_profile := hprofile hreleaseProfile
    ingress_profile := hprofile hingressProfile
    shared := ?_
    digest := ?_ }⟩
  · intro p hp
    obtain ⟨s, hs, h⟩ := bind_ok_iff.1 (mapM_flatten_eq_nil hpairs hflatten p hp)
    have hs := stringField_ok hs
    simp only [Except.ok.injEq, List.append_eq_nil_iff, failUnless_eq_nil, decide_eq_true_eq, Document.lookup_fieldValues] at h
    exact ⟨s, Core.lookup_str hs, Core.text_ne hvalid p hp s hs, h.1, h.2⟩
  · intro field hfield
    simpa only [Document.lookup_fieldValues] using hshared field hfield
  · rw [hdigest]
    exact Core.lookup_str (stringField_ok hexpected)

/-! ## One set of documents

The documents of a release, under the profile that its tag binding names and with a number in a shared field of the two others.
-/

def sampleSerde : Serde where
  double x :=
    if x.digits.length ≤ 308 then
      match JsonText.numberValue x.negative x.digits x.fraction (some (x.exponent.getD 0)) with
      | .float (.finite q) => some (.finite q)
      | _ => none
    else none
  text _ := "0.0"
  double_range := by
    intro x d h _
    split_ifs at h with hlen
    exact hlen.trans (by decide)
  text_length := fun _ => (by decide : "0.0".toList.length < 40)
  text_head := fun _ => (by decide : "0.0".toList.head? ≠ some 'v')
  text_digits := fun _ => ⟨'.', by decide⟩

/-- The number 2 ^ 64 + `n`. -/
def bigNumber (n : Fin 4) : Literal where
  negative := false
  digits := "1844674407370955161".toList ++ [Char.ofNat ('6'.toNat + n)]
  fraction := none
  exponent := none
  digits_valid := by revert n; decide

def sampleCross (profile : Document) (n m : Fin 4) : CrossInput where
  binding := some (.dict [("schema_version", .str releaseTagBindingSchema), ("version", .str "v1.2.0"),
    ("source_sha", .str "0123456789abcdef0123456789abcdef01234567"), ("source_build_run_id", .str "11"),
    ("source_build_run_attempt", .str "1"), ("preflight_run_id", .str "12"), ("preflight_run_attempt", .str "1"),
    ("preflight_artifact_id", .str "13"), ("preflight_profile", profile),
    ("ingress_manifest_sha256", .str "60f9c569bed02a8072d1ba18262492462d7266be67bcddf9b5ea5a32ae025d5a")])
  releaseInput := some (.dict (("buildroot_source_identity_schema_version", .num (bigNumber n)) :: sampleShared))
  ingressManifest := some (.dict (("buildroot_source_identity_schema_version", .num (bigNumber m)) :: sampleShared))
  ingressSha256 := "60f9c569bed02a8072d1ba18262492462d7266be67bcddf9b5ea5a32ae025d5a"
where
  sampleShared : List (String × Document) :=
    [("version", .str "v1.2.0"), ("source_sha", .str "0123456789abcdef0123456789abcdef01234567"), ("source_run_id", .str "11"),
      ("source_run_attempt", .str "1"), ("profile", .str "production-candidate")]

theorem shadow_accepts_cross (n m : Fin 4) :
    Core.validateCrossBinding sampleSerde (sampleCross (.str "production-candidate") n m) = .ok () := by
  revert n m
  decide +kernel

/-! ## The two verdicts -/

/-- The profile of the tag binding is absent, null or that of its version. -/
def CrossInput.ProfileBound (input : CrossInput) : Prop :=
  ∀ fields version, input.binding = some (.dict fields) → Document.lookup "version" fields = some (.str version) →
    ∀ d, Document.lookup "preflight_profile" fields = some d → d = .null ∨ d = .str (profileOf (hasHyphen version))

/-- The numbers that stand at the same places of a shared field are the same to Python. -/
def CrossInput.NumbersAgree (input : CrossInput) : Prop :=
  ∀ field ∈ sharedFields, ∀ a b, input.releaseInput.bind (Document.get field) = some a →
    input.ingressManifest.bind (Document.get field) = some b → Document.agree Gate.sameNumber a b = true

/-- The text that the shadow compares is the one that the gate compares. -/
theorem Gate.str_of_valueAsString {S : Serde} (P : Py) {d : Option Document} {s : String} (htext : ∀ d, S.text d ≠ s)
    (h : Core.valueAsString S (d.map (Document.value (Core.number S))) = some s) :
    Gate.str P ((d.map (Document.value Gate.number)).getD .null) = s := by
  cases d with
  | none => cases h
  | some d =>
    cases d with
    | str t => exact Option.some.inj h
    | num x =>
      simp only [Option.map_some, Document.value, Core.number, Option.getD_some] at h ⊢
      cases hx : Core.integer x with
      | some n =>
        rw [hx] at h
        rw [(Core.integer_some hx).1]
        exact Option.some.inj h
      | none =>
        rw [hx] at h
        exact absurd (Option.some.inj h) (htext _)
    | _ => cases h

/-- Of documents that the shadow accepts, the gate accepts those that bind the profile of the version and have the same numbers. -/
theorem gate_accepts_crossBinding_iff (S : Serde) (P : Py) {input : CrossInput} (h : Core.validateCrossBinding S input = .ok ()) :
    Gate.validateCrossBindingCommand P input = .ok () ↔ input.ProfileBound ∧ input.NumbersAgree := by
  obtain ⟨a⟩ := validateCrossBinding_ok h
  have hlookup {fields : List (String × Document)} {name s : String} (hs : Document.lookup name fields = some (.str s)) :
      Value.lookup name (Document.fieldValues Gate.number fields) = some (.str s) := by
    rw [Document.lookup_fieldValues, hs]
    rfl
  have hpairs : fieldPairs.flatMap (Gate.pairFailures P (Document.fieldValues Gate.number a.binding)
      (Document.fieldValues Gate.number a.releaseInput) (Document.fieldValues Gate.number a.ingress)) = [] := by
    rw [List.flatMap_eq_nil_iff]
    intro p hp
    obtain ⟨s, hs, htext, hrelease, hingress⟩ := a.pairs p hp
    simp only [Gate.pairFailures, List.append_eq_nil_iff, failUnless_eq_nil, decide_eq_true_eq, Value.field, hlookup hs,
      Document.lookup_fieldValues, Option.getD_some]
    exact ⟨Gate.str_of_valueAsString P htext hrelease, Gate.str_of_valueAsString P htext hingress⟩
  have hprofile : input.ProfileBound ↔ ((Value.field "preflight_profile" (Document.fieldValues Gate.number a.binding)).pyEq .null ||
      (Value.field "preflight_profile" (Document.fieldValues Gate.number a.binding)).pyEq
        (.str (profileOf (hasHyphen a.version)))) = true := by
    have hbound : input.ProfileBound ↔ ∀ d, Document.lookup "preflight_profile" a.binding = some d →
        d = .null ∨ d = .str (profileOf (hasHyphen a.version)) := by
      constructor
      · exact fun hbound => hbound _ _ a.input_binding a.binding_version
      · intro hbound fields version hfields hversion
        obtain rfl : a.binding = fields := by simpa using a.input_binding.symm.trans hfields
        obtain rfl : a.version = version := by simpa using a.binding_version.symm.trans hversion
        exact hbound
    rw [hbound, Value.field, Document.lookup_fieldValues]
    cases Document.lookup "preflight_profile" a.binding with
    | none => simp [Value.pyEq_null_iff]
    | some d =>
      simp only [Option.some.injEq, forall_eq', Option.map_some, Option.getD_some, Bool.or_eq_true, Value.pyEq_null_iff,
        Value.pyEq_str_iff]
      constructor
      · rintro (rfl | rfl)
        · exact .inl rfl
        · exact .inr rfl
      · rintro (hd | hd)
        · exact .inl (Document.value_eq_null Gate.number_isNumber hd)
        · exact .inr (Document.value_eq_str Gate.number_isNumber hd)
  have hshared : input.NumbersAgree ↔ ∀ field ∈ sharedFields,
      ((Value.lookup field (Document.fieldValues Gate.number a.releaseInput)).isNone &&
          (Value.lookup field (Document.fieldValues Gate.number a.ingress)).isNone ||
        (Value.field field (Document.fieldValues Gate.number a.releaseInput)).pyEq
          (Value.field field (Document.fieldValues Gate.number a.ingress))) = true := by
    unfold CrossInput.NumbersAgree
    simp only [a.input_releaseInput, a.input_ingress, Option.bind_some, Document.get, Value.field, Document.lookup_fieldValues]
    refine forall_congr' fun field => forall_congr' fun hfield => ?_
    have hmember := a.shared field hfield
    cases hrelease : Document.lookup field a.releaseInput with
    | none => cases hingress : Document.lookup field a.ingress <;> simp_all [Core.eqMember]
    | some d =>
      cases hingress : Document.lookup field a.ingress with
      | none => simp [hrelease, hingress, Core.eqMember] at hmember
      | some e =>
        rw [hrelease, hingress] at hmember
        simp only [Option.some.injEq, Option.map_some, Option.isNone_some, Bool.and_self, Bool.false_or, Option.getD_some]
        rw [pyEq_of_eqValue hmember]
        exact ⟨fun hagree => hagree d e rfl rfl, by rintro hagree _ _ rfl rfl; exact hagree⟩
  unfold Gate.validateCrossBindingCommand
  simp only [a.load_binding, a.load_releaseInput, a.load_ingress, ok_bind, Value.asDict, orError_some, guardError_bind_ok_iff,
    guardError_ok_iff, List.isEmpty_iff, List.append_eq_nil_iff, Gate.sharedFailures, failUnless_eq_nil, hpairs, true_and,
    List.flatMap_eq_nil_iff, hprofile, hshared]
  simp only [Value.field, hlookup a.schema, hlookup a.binding_version, hlookup a.releaseInput_profile, hlookup a.ingress_profile,
    hlookup a.digest, Option.getD_some, Gate.str, Value.pyStr, Value.pyEq_str, beq_self_eq_true, true_and, and_true]

theorem gate_accepts_crossBinding_sample :
    Gate.validateCrossBindingCommand samplePy (sampleCross (.str "production-candidate") 0 0) = .ok () ↔
      (sampleCross (.str "production-candidate") 0 0).ProfileBound ∧ (sampleCross (.str "production-candidate") 0 0).NumbersAgree :=
  gate_accepts_crossBinding_iff sampleSerde samplePy (shadow_accepts_cross 0 0)

/-- The shadow takes the profile of another kind of release, and two numbers that are one double; the gate takes neither. -/
theorem shadow_accepts_other_profile :
    (Core.validateCrossBinding sampleSerde (sampleCross (.str "release-candidate") 0 0) = .ok () ∧
      Gate.validateCrossBindingCommand samplePy (sampleCross (.str "release-candidate") 0 0) =
        .error "tag binding preflight_profile must be production-candidate") ∧
    Core.validateCrossBinding sampleSerde (sampleCross (.str "production-candidate") 0 1) = .ok () ∧
      Gate.validateCrossBindingCommand samplePy (sampleCross (.str "production-candidate") 0 1) =
        .error "ingress buildroot_source_identity_schema_version must match release input binding" := by
  decide +kernel

end SuderraOs.Release
