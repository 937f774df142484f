import SuderraOs.Evidence.Contract

/-!
# Attestations

How `machine-verification-record.py` reads an attestation: the statements at any depth of a document, also in the payloads of DSSE
envelopes, the subjects of a statement and the context that its provenance is bound to.
-/

namespace SuderraOs.Evidence.Attestation

open Value JsonText

/-- What reading an attestation asks of Python: `base64.b64decode`, `str.lower`, the text of a double in `json.dumps`, and how deep a
call may be nested. -/
structure Reader extends Python where
  b64decode : String → Option Bytes
  lower : String → String
  float : Double → List Char
  depth : Nat

/-- The file name and the digest of a subject. -/
abbrev Subject := String × String

def placeholders : List String := ["", "not_collected", "NOT_COLLECTED", "TO_BE_COLLECTED", "pending", "PENDING"]

/-- `is_placeholder`: a value that is no string is one. -/
def isPlaceholder : Value → Bool
  | .str s => Evidence.isPlaceholder placeholders (.str s)
  | _ => true

section

variable (R : Reader)

/-- `json.loads` keeps one member for each name. -/
def loads (text : String) : Option Value := (R.loads text.toList).map Value.unique

/-- `decode_dsse_payload`; a payload that is `null` counts as none. -/
def decodeDssePayload (value : String) : Option Value :=
  (((R.b64decode value).bind Utf8.decode).bind (loads R)).filter fun v => !v.pyEq .null

def payloadKeys : List String := ["payload", "dssePayload"]

def nestedKeys : List String :=
  ["statement", "attestation", "bundle", "dsseEnvelope", "envelope", "verificationResult", "verifiedAttestation",
    "verified_attestation", "result", "results", "attestations"]

/-- Whether an object is a statement itself. -/
def isStatement (fields : Fields) : Bool :=
  (field "subject" fields).asList.isSome && ((field "_type" fields).asStr.isSome || (field "predicateType" fields).asStr.isSome)

/-- The documents that may hold statements inside an object. -/
def inside (fields : Fields) : List Value :=
  payloadKeys.filterMap (fun key => ((field key fields).asStr).bind (decodeDssePayload R)) ++ nestedKeys.filterMap fun key => lookup key fields

/-- `iter_attestation_statements`, in calls nested this deep at most. -/
def statementsIn : Nat → Value → Except String (List Fields)
  | 0, _ => .error "RecursionError"
  | n + 1, .list items => (items.mapM (statementsIn n)).map List.flatten
  | n + 1, .dict fields =>
    ((inside R fields).mapM (statementsIn n)).map fun found => (if isStatement fields then [fields] else []) ++ found.flatten
  | _ + 1, _ => .ok []

def iterAttestationStatements (value : Value) : Except String (List Fields) := statementsIn R R.depth value

/-- `subjects_from_statement`. -/
def subjectsFromStatement (statement : Fields) : List Subject :=
  (((field "subject" statement).asList.getD []).filterMap asDict).filterMap fun raw =>
    match field "name" raw, field "sha256" ((field "digest" raw).asDict.getD []) with
    | .str name, .str sha256 => some ((PosixPath.ofString name).name, R.lower sha256)
    | _, _ => none

/-- `canonical_text`. -/
def canonicalText (value : Value) : List Char := write (compactAscii R.float) 0 value.sortKeys

/-- `contains_text`. -/
def containsText (value : Value) (expected : String) : Bool := expected ≠ "" && Text.contains expected.toList (canonicalText R value)

mutual

/-- `walk_values`: a value and the values inside it. -/
def walkValues : Value → List Value
  | .list items => .list items :: walkItems items
  | .dict fields => .dict fields :: walkFields fields
  | v => [v]

def walkItems : List Value → List Value
  | [] => []
  | item :: items => walkValues item ++ walkItems items

def walkFields : List (String × Value) → List Value
  | [] => []
  | (_, value) :: fields => walkValues value ++ walkFields fields

end

/-- `first_builder_id`. -/
def firstBuilderId (statement : Fields) : Option String :=
  ((walkValues (field "predicate" statement)).filterMap asDict).findSome? fun value =>
    ((field "builder" value).asDict.bind fun builder => (field "id" builder).asStr).filter fun id => !isBlank id

/-- The digests of a material, as texts. -/
def materialDigest (digest : Value) : Fields :=
  (digest.asDict.getD []).filterMap fun p =>
    if p.2.asStr.isSome || p.2.asInt.isSome then some (p.1, .str (p.2.pyStr R.repr)) else none

/-- What is kept of a material. -/
def materialEntry (item : Fields) : Fields :=
  (match (field "uri" item).orElse ((field "name" item).orElse (field "downloadLocation" item)) with
    | .str uri => if uri = "" then [] else [("uri", .str uri)]
    | _ => []) ++
  if materialDigest R (field "digest" item) = [] then [] else [("digest", .dict (materialDigest R (field "digest" item)))]

/-- `collect_materials`: one material for each text, in the order of the texts. -/
def collectMaterials (statement : Fields) : List Fields :=
  let found := ((walkValues (field "predicate" statement)).filterMap asDict).flatMap fun value =>
    ["materials", "resolvedDependencies", "resolved_dependencies"].flatMap fun key =>
      (((field key value).asList.getD []).filterMap asDict).map (materialEntry R)
  let texts := (found.filter (· ≠ [])).map fun item => (String.ofList (canonicalText R (.dict item)), item)
  (sortNames (texts.map (·.1)).dedup).filterMap fun text => (texts.reverse.find? fun p => p.1 = text).map (·.2)

/-- What the provenance of a statement must bind. -/
structure Expected where
  repository : String
  ref : String
  runId : String
  runAttempt : String
  sourceSha : String

structure Provenance where
  predicateType : Value
  builderId : Option String
  source : Expected
  materials : List Fields

def allowedPredicateTypes : List String := ["https://slsa.dev/provenance/v1"]

/-- `provenance_context`; a predicate type that cannot be hashed raises. -/
def provenanceContext (statement : Fields) (expected : Expected) : Except String (Provenance × List String) := do
  let predicateType := field "predicateType" statement
  guardError "TypeError" predicateType.isHashable
  let bind (label value : String) :=
    failUnless s!"DSSE predicate must bind {label}={value}" (containsText R (field "predicate" statement) value)
  .ok (⟨predicateType, firstBuilderId statement, expected, collectMaterials R statement⟩,
    failUnless "predicateType must be one of: https://slsa.dev/provenance/v1" (predicateType.isIn (allowedPredicateTypes.map .str)) ++
    failUnless "builder.id must be present in DSSE predicate" ((firstBuilderId statement).any fun id => !isPlaceholder (.str id)) ++
    failUnless "DSSE predicate must include non-empty materials/resolvedDependencies" (!(collectMaterials R statement).isEmpty) ++
    bind "repository" expected.repository ++ bind "ref" expected.ref ++ bind "run_id" expected.runId ++
    bind "run_attempt" expected.runAttempt ++ bind "source_sha" expected.sourceSha)

end

end SuderraOs.Evidence.Attestation
