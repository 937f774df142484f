import SuderraOs.Evidence.Attestation
import SuderraOs.Lib.Sha256

/-!
# What a provenance is bound to

`provenance_context` looks for each expected value anywhere in the text of a predicate. Any part of a value that a predicate names is
found there as well (`Accepts.of_parts`), so a statement that is accepted at all is accepted as one of another attempt, run, ref or
repository (`provenance_bound_iff`).
-/

namespace SuderraOs.Evidence.Attestation

open Value JsonText

/-! ## What a predicate names -/

/-- The texts in a value. -/
def texts (v : Value) : List String := (walkValues v).filterMap asStr

/-- The repository, the run and the attempt of the address of an invocation. -/
def invocationOf (s : String) : Option (String × String × String) := do
  let rest ← Text.stripPrefix "https://github.com/".toList s.toList
  let (repository, rest) ← Text.breakOn "/actions/runs/".toList rest
  let (run, attempt) ← Text.breakOn "/attempts/".toList rest
  some (String.ofList repository, String.ofList run, String.ofList attempt)

def isRef (s : String) : Bool := "refs/".toList.isPrefixOf s.toList

/-- A predicate names one invocation, one ref and one commit. -/
structure Names (predicate : Value) (named : Expected) : Prop where
  invocation : (texts predicate).filterMap invocationOf = [(named.repository, named.runId, named.runAttempt)]
  ref : (texts predicate).filter isRef = [named.ref]
  commit : (texts predicate).filter (isHex 40) = [named.sourceSha]

/-- The values that must be bound. -/
def Expected.values (expected : Expected) : List String :=
  [expected.repository, expected.ref, expected.runId, expected.runAttempt, expected.sourceSha]

/-- Every value of one is a part, and not an empty one, of the same value of the other. -/
structure Expected.Parts (part whole : Expected) : Prop where
  nonempty : ∀ value ∈ part.values, value ≠ ""
  parts : List.Forall₂ (fun value named => Text.contains value.toList named.toList = true) part.values whole.values

section

variable (R : Reader)

/-- A statement is accepted as one of these values. -/
def Accepts (statement : Fields) (expected : Expected) : Prop := ∃ provenance, provenanceContext R statement expected = .ok (provenance, [])

/-- What a statement has whatever is expected of it: its type, a builder and materials. -/
structure Complete (statement : Fields) : Prop where
  predicateType : field "predicateType" statement = .str "https://slsa.dev/provenance/v1"
  builder : (firstBuilderId statement).any (fun id => !isPlaceholder (.str id)) = true
  materials : collectMaterials R statement ≠ []

variable {R}

/-- A statement is accepted when it is complete and all values occur in the text of its predicate. -/
theorem accepts_iff {statement : Fields} {expected : Expected} :
    Accepts R statement expected ↔
      Complete R statement ∧ ∀ value ∈ expected.values, containsText R (field "predicate" statement) value = true := by
  unfold Accepts provenanceContext
  simp only [guardError_bind_ok_iff, Except.ok.injEq, Prod.mk.injEq, List.append_eq_nil_iff, failUnless_eq_nil, Bool.not_eq_true',
    List.isEmpty_eq_false_iff]
  constructor
  · rintro ⟨_, _, _, ⟨⟨⟨⟨⟨⟨⟨htype, hbuilder⟩, hmaterials⟩, hrepository⟩, href⟩, hrun⟩, hattempt⟩, hsha⟩⟩
    refine ⟨⟨?_, hbuilder, hmaterials⟩, ?_⟩
    · simpa [allowedPredicateTypes, isIn, str_pyEq_iff] using htype
    · simpa [Expected.values] using ⟨hrepository, href, hrun, hattempt, hsha⟩
  · rintro ⟨⟨htype, hbuilder, hmaterials⟩, hvalues⟩
    simp only [Expected.values, List.forall_mem_cons, List.not_mem_nil, false_implies, implies_true, and_true] at hvalues
    obtain ⟨hrepository, href, hrun, hattempt, hsha⟩ := hvalues
    exact ⟨_, by rw [htype]; rfl, rfl, ⟨⟨⟨⟨⟨⟨⟨by rw [htype]; decide, hbuilder⟩, hmaterials⟩, hrepository⟩, href⟩, hrun⟩, hattempt⟩, hsha⟩⟩

/-- A part of a text that occurs in a value occurs there as well. -/
theorem containsText_of_part {v : Value} {part whole : String} (hne : part ≠ "") (hpart : Text.contains part.toList whole.toList = true)
    (h : containsText R v whole = true) : containsText R v part = true := by
  simp only [containsText, Bool.and_eq_true, decide_eq_true_eq] at h ⊢
  obtain ⟨a, b, hab⟩ := Text.contains_iff.1 hpart
  obtain ⟨c, d, hcd⟩ := Text.contains_iff.1 h.2
  exact ⟨hne, Text.contains_iff.2 ⟨c ++ a, b ++ d, by rw [hcd, hab]; simp⟩⟩

/-- What is accepted is accepted with parts of its values: a shorter run, an earlier attempt, a repository that another one extends. -/
theorem Accepts.of_parts {statement : Fields} {part whole : Expected} (h : Accepts R statement whole) (hparts : part.Parts whole) :
    Accepts R statement part := by
  obtain ⟨hcomplete, hvalues⟩ := accepts_iff.1 h
  refine accepts_iff.2 ⟨hcomplete, fun value hvalue => ?_⟩
  obtain ⟨i, hi, rfl⟩ := List.getElem_of_mem hvalue
  have hlength := hparts.parts.length_eq
  exact containsText_of_part (hparts.nonempty _ hvalue) (hparts.parts.get hi (by rwa [← hlength])) (hvalues _ (List.getElem_mem _))

/-- A predicate with a builder is a list or an object, so there is a text of it. -/
theorem Complete.canonicalText_ne_nil {statement : Fields} (h : Complete R statement) :
    canonicalText R (field "predicate" statement) ≠ [] := by
  have hbuilder := h.builder
  unfold firstBuilderId at hbuilder
  unfold canonicalText
  generalize field "predicate" statement = predicate at hbuilder ⊢
  cases predicate with
  | list items => cases items <;> simp [sortKeys, sortKeysItems, write]
  | dict fields =>
    rw [sortKeys]
    cases (sortKeysFields fields).insertionSort fun p q => nameLe p.1 q.1 = true <;> simp [write]
  | _ => cases hbuilder

/-- A statement that is complete is accepted as one of values that its predicate does not name. -/
theorem Complete.accepts_other {statement : Fields} {named : Expected} (h : Complete R statement)
    (hnames : Names (field "predicate" statement) named) : ∃ expected, Accepts R statement expected ∧ expected ≠ named := by
  have hcommit : isHex 40 named.sourceSha = true := by
    have hmem : named.sourceSha ∈ (texts (field "predicate" statement)).filter (isHex 40) := by rw [hnames.commit]; exact List.mem_cons_self
    exact (List.mem_filter.1 hmem).2
  obtain ⟨c, cs, htext⟩ := List.exists_cons_of_ne_nil h.canonicalText_ne_nil
  have hcontains : containsText R (field "predicate" statement) (String.ofList [c]) = true := by
    simp only [containsText, Bool.and_eq_true, decide_eq_true_eq]
    refine ⟨fun hempty => ?_, Text.contains_iff.2 ⟨[], cs, by rw [htext, String.toList_ofList]; rfl⟩⟩
    have := congrArg String.toList hempty
    rw [String.toList_ofList] at this
    cases this
  refine ⟨⟨String.ofList [c], String.ofList [c], String.ofList [c], String.ofList [c], String.ofList [c]⟩, accepts_iff.2 ⟨h, ?_⟩, ?_⟩
  · simp only [Expected.values, List.forall_mem_cons, hcontains, List.not_mem_nil, false_implies, implies_true, and_self]
  · rintro rfl
    simp [isHex] at hcommit

/-- A statement is bound to the values that its predicate names only where it is refused whatever is expected: where it has no builder
or no materials. -/
theorem provenance_bound_iff {statement : Fields} {named : Expected} (hnames : Names (field "predicate" statement) named) :
    (∀ expected, Accepts R statement expected → expected = named) ↔ ¬Complete R statement := by
  constructor
  · intro hbound hcomplete
    obtain ⟨expected, haccepts, hne⟩ := hcomplete.accepts_other hnames
    exact hne (hbound expected haccepts)
  · intro hcomplete expected haccepts
    exact absurd (accepts_iff.1 haccepts).1 hcomplete

end

/-! ### An attestation of a fork -/

def forkReader : Reader where
  sha256 := Sha256.digest
  loads := JsonText.read
  repr := fun _ => ""
  b64decode := fun _ => none
  lower := fun s => String.ofList (s.toList.map Char.toLower)
  float := fun _ => []
  depth := 1000

/-- The twelfth attempt at a run in a fork, of a candidate. -/
def forkNamed : Expected where
  repository := "suderra/os-fork"
  ref := "refs/tags/v1.0.0-rc.1"
  runId := "7001"
  runAttempt := "12"
  sourceSha := "0123456789abcdef0123456789abcdef01234567"

/-- The first attempt at another run of the repository itself, of the release. -/
def forkExpected : Expected :=
  { forkNamed with repository := "suderra/os", ref := "refs/tags/v1.0.0", runId := "700", runAttempt := "1" }

def forkStatement : Fields :=
  [("_type", .str "https://in-toto.io/Statement/v1"), ("predicateType", .str "https://slsa.dev/provenance/v1"),
    ("subject", .list [.dict [("name", .str "suderra.img.xz"), ("digest", .dict [("sha256", .str "00")])]]),
    ("predicate", .dict
      [("buildDefinition", .dict [("externalParameters", .dict [("workflow", .dict [("ref", .str forkNamed.ref)])]),
        ("resolvedDependencies", .list [.dict [("digest", .dict [("gitCommit", .str forkNamed.sourceSha)])]])]),
      ("runDetails", .dict [("builder", .dict [("id", .str "https://github.com/actions/runner")]),
        ("metadata", .dict [("invocationId", .str "https://github.com/suderra/os-fork/actions/runs/7001/attempts/12")])])])]

theorem names_fork : Names (field "predicate" forkStatement) forkNamed where
  invocation := by decide +kernel
  ref := by decide +kernel
  commit := by decide +kernel

theorem provenance_bound_iff_fork :
    (∀ expected, Accepts forkReader forkStatement expected → expected = forkNamed) ↔ ¬Complete forkReader forkStatement :=
  provenance_bound_iff names_fork

/-- An attestation of a fork, a candidate and a later attempt is accepted as one of the repository, the release and the first attempt. -/
theorem fork_accepted : Names (field "predicate" forkStatement) forkNamed ∧ Accepts forkReader forkStatement forkExpected ∧
    forkExpected ≠ forkNamed := by
  have hcomplete : Complete forkReader forkStatement := ⟨rfl, by decide, fun h => absurd (congrArg List.length h) (by decide +kernel)⟩
  have hnamed : Accepts forkReader forkStatement forkNamed := accepts_iff.2 ⟨hcomplete, by decide +kernel⟩
  have hparts : forkExpected.Parts forkNamed := by
    refine ⟨by decide, ?_⟩
    simp only [Expected.values, List.forall₂_cons, List.forall₂_nil_left_iff, and_true]
    exact ⟨by decide, by decide, by decide, by decide, by decide⟩
  exact ⟨names_fork, hnamed.of_parts hparts, fun h => absurd (congrArg Expected.runAttempt h) (by decide)⟩

end SuderraOs.Evidence.Attestation
