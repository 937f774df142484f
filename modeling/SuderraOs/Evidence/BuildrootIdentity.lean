import SuderraOs.Evidence.OperatorIngress

/-!
# The identity of the Buildroot source

`validate_metadata_payload` of `buildroot-patch-identity.py`: which Buildroot, with which patches, and which source of Suderra OS an
image was built from. The two ids that it replays are digests of the texts before them (`accepted_iff`).
-/

namespace SuderraOs.Evidence.BuildrootIdentity

open Value OperatorIngress

def nativeBuildrootRef : String := "2025.05.3"

def nativeBuildrootCommit : String := "019201c6e007d80c1ab1bf65b98d9902bc767bdd"

def nativeRustVersion : String := "1.86.0"

/-- An entry of `git ls-tree -r`. -/
structure TreeEntry where
  mode : String
  type : String
  object : String
  path : String

/-- What the script asks of git as well: the entries of the tree of a commit, if git knows it. -/
structure Libraries extends OperatorIngress.Libraries where
  lsTree : String → Option (List TreeEntry)

section Ids

variable (L : Libraries)

/-- `effective_source_id`. -/
def effectiveSourceId (baseSha patchsetDigest : String) (diffIdentity : Option String) (upstreamRef sourceMode : String) : String :=
  L.hexdigest (Utf8.encode ("buildroot-source-identity-v2\n" ++ s!"index:{baseSha}\n" ++ s!"upstream-ref:{upstreamRef}\n" ++
    s!"source-mode:{sourceMode}\n" ++ s!"patchset:{patchsetDigest}\n" ++
    "diff-identity:" ++ (diffIdentity.filter (· ≠ "")).getD "none" ++ "\n"))

/-- `release_source_id`. -/
def releaseSourceId (sourceSha externalTreeDigest buildrootEffectiveId : String) : String :=
  L.hexdigest (Utf8.encode ("suderra-release-source-identity-v1\n" ++ s!"source:{sourceSha}\n" ++
    s!"external-tree:{externalTreeDigest}\n" ++ s!"buildroot-effective:{buildrootEffectiveId}\n"))

/-- An entry outside of Buildroot: one that `external_tree_entries` keeps. -/
def TreeEntry.isExternal (entry : TreeEntry) : Bool :=
  entry.path ≠ "buildroot" && !"buildroot/".toList.isPrefixOf entry.path.toList

/-- An entry as it is hashed, with the keys in their order. -/
def TreeEntry.value (entry : TreeEntry) : Value :=
  .dict [("mode", .str entry.mode), ("object", .str entry.object), ("path", .str entry.path), ("type", .str entry.type)]

/-- `json.dumps(..., separators=(",", ":"))`. -/
def compactAscii : JsonText.Style := { JsonText.compact (fun _ => []) with escape := JsonText.escapeAscii }

/-- `external_tree_sha256`, for the tree of a commit. -/
def externalTreeSha256 (entries : List TreeEntry) : String :=
  L.hexdigest (Utf8.encode (String.ofList
    (JsonText.write compactAscii 0 (.list ((entries.filter TreeEntry.isExternal).map TreeEntry.value)))))

end Ids

/-- Whether a value is a text of `n` hexadecimal digits. -/
def isHexText (n : Nat) (v : Value) : Bool := v.asStr.any (isHex n)

/-- Whether a value is absent or a digest that is not all zeros. -/
def isDigestOrAbsent (v : Value) : Bool := v.pyEq .null || isDigest v

/-- Whether a value is a relative path without `..`. -/
def relativePath (v : Value) : Option PosixPath :=
  (v.asStr.map PosixPath.ofString).filter fun rel => !rel.isAbsolute && !rel.hasParent

/-- A path without a parent on it is read back from its text. -/
theorem relativePath_toString {rel : PosixPath} (hroot : rel.root = "") (hnames : ∀ name ∈ rel.names, IsName name) :
    relativePath (.str (toString rel)) = some rel := by
  obtain ⟨root, names⟩ := rel
  obtain rfl : root = "" := hroot
  have hread : PosixPath.ofString (toString (⟨"", names⟩ : PosixPath)) = ⟨"", names⟩ := by
    by_cases hne : names = []
    · subst hne
      decide
    · exact PosixPath.ofString_toString hne fun name hname =>
        ⟨(hnames name hname).ne_empty, (hnames name hname).ne_dot, (hnames name hname).no_slash⟩
  have hparent : ".." ∉ names := fun hmem => (hnames _ hmem).ne_parent rfl
  simp [relativePath, asStr, hread, PosixPath.isAbsolute, PosixPath.hasParent, hparent]

/-- A relative path has names only. -/
theorem relativePath_spec {v : Value} {rel : PosixPath} (h : relativePath v = some rel) :
    rel.root = "" ∧ ∀ name ∈ rel.names, IsName name := by
  obtain ⟨hrel, hsafe⟩ := Option.filter_eq_some_iff.1 h
  obtain ⟨s, _, rfl⟩ := Option.map_eq_some_iff.1 hrel
  simp only [Bool.and_eq_true, Bool.not_eq_true', PosixPath.isAbsolute, decide_eq_false_iff_not, not_not, PosixPath.hasParent,
    List.contains_eq_mem] at hsafe
  refine ⟨hsafe.1, fun name hname => ?_⟩
  obtain ⟨hempty, hdot, hslash⟩ := PosixPath.mem_names_ofString hname
  exact ⟨hempty, hdot, fun hparent => hsafe.2 (hparent ▸ hname), hslash⟩

/-- The failures of the dirty paths. -/
def dirtyPathFailures : Value → List String
  | .list items => items.zipIdx.flatMap fun p =>
    failUnless s!"suderra_external_dirty_paths[{p.2}] must be a non-empty string" (isText p.1)
  | _ => ["suderra_external_dirty_paths must be a list"]

/-- The failures of the patch files from a place on, after the paths before it. -/
def patchFailures (seen : List String) (index : Nat) : List Value → List String
  | [] => []
  | .dict item :: items =>
    let label := s!"buildroot_patch_files[{index}]"
    let path := if (relativePath (field "path" item)).isSome then (field "path" item).asStr else none
    (match path with
      | none => [s!"{label}.path must be relative"]
      | some path => failUnless s!"duplicate Buildroot patch path: {path}" (!seen.contains path)) ++
    failUnless s!"{label}.bytes must be positive" (isIntFrom 1 (field "bytes" item)) ++
    failUnless s!"{label}.sha256 must be a lowercase sha256" (isHexText 64 (field "sha256" item)) ++
    patchFailures (path.toList ++ seen) (index + 1) items
  | _ :: items => s!"buildroot_patch_files[{index}] must be an object" :: patchFailures seen (index + 1) items

def patchFilesFailures : Value → List String
  | .list items => patchFailures [] 0 items
  | _ => ["buildroot_patch_files must be a list"]

section Validator

variable (L : Libraries) (payload : Fields)

/-- The failures of each field alone. -/
def fieldFailures : List String :=
  failUnless "schema_version must be suderra.buildroot-source-identity.v2"
    ((field "schema_version" payload).pyEq (.str "suderra.buildroot-source-identity.v2")) ++
  failUnless "buildroot_index_sha must be a lowercase git commit sha" (isHexText 40 (field "buildroot_index_sha" payload)) ++
  failUnless "buildroot_effective_source_id must be a lowercase sha256"
    (isHexText 64 (field "buildroot_effective_source_id" payload)) ++
  failUnless "suderra_source_sha must be a lowercase git commit sha" (isHexText 40 (field "suderra_source_sha" payload)) ++
  failUnless "suderra_external_tree_sha256 must be a lowercase sha256"
    (isHexText 64 (field "suderra_external_tree_sha256" payload)) ++
  failUnless "suderra_release_source_id must be a lowercase sha256" (isHexText 64 (field "suderra_release_source_id" payload)) ++
  dirtyPathFailures (field "suderra_external_dirty_paths" payload) ++
  failUnless "buildroot_patchset_sha256 must be a lowercase sha256" (isHexText 64 (field "buildroot_patchset_sha256" payload)) ++
  patchFilesFailures (field "buildroot_patch_files" payload) ++
  failUnless "buildroot_expected_patched must be true or false"
    (match field "buildroot_expected_patched" payload with
      | .bool _ => true
      | _ => false) ++
  failUnless "buildroot_upstream_ref must be a non-empty string" (isText (field "buildroot_upstream_ref" payload)) ++
  failUnless "buildroot_source_mode must be clean-native or staged-patched-tree"
    ((field "buildroot_source_mode" payload).isIn [.str "clean-native", .str "staged-patched-tree"]) ++
  ["buildroot_rust_version", "buildroot_rust_bin_version"].flatMap (fun name =>
    failUnless s!"{name} must be {nativeRustVersion}" ((field name payload).isIn [.null, .str nativeRustVersion])) ++
  ["buildroot_applied_diff_sha256", "buildroot_worktree_diff_sha256", "buildroot_expected_diff_sha256",
    "buildroot_staged_diff_sha256"].flatMap fun name =>
      failUnless s!"{name} must be a non-zero lowercase sha256 when present" (isDigestOrAbsent (field name payload))

/-- The failures of a source without patches. -/
def cleanNativeFailures : List String :=
  failUnless s!"clean-native Buildroot source must be {nativeBuildrootRef} ({nativeBuildrootCommit})"
    ((field "buildroot_index_sha" payload).pyEq (.str nativeBuildrootCommit)) ++
  failUnless s!"clean-native Buildroot source must bind upstream ref {nativeBuildrootRef}"
    ((field "buildroot_upstream_ref" payload).pyEq (.str nativeBuildrootRef)) ++
  failUnless "clean-native Buildroot source must not be marked patched"
    ((field "buildroot_expected_patched" payload) matches .bool false) ++
  failUnless "clean-native Buildroot source must not list patch files"
    ((field "buildroot_patch_files" payload).isIn [.list [], .null]) ++
  ["buildroot_applied_diff_sha256", "buildroot_worktree_diff_sha256", "buildroot_expected_diff_sha256",
    "buildroot_staged_diff_sha256"].flatMap fun name =>
      failUnless s!"clean-native Buildroot source must not include {name}" ((field name payload).pyEq .null)

/-- The failures of a source with patches. -/
def stagedFailures : List String :=
  let expected := field "buildroot_expected_diff_sha256" payload
  let staged := field "buildroot_staged_diff_sha256" payload
  failUnless "staged-patched-tree Buildroot source must be marked patched" (field "buildroot_expected_patched" payload).isTrue ++
  failUnless "staged-patched-tree Buildroot source must list patch files" (field "buildroot_patch_files" payload).truthy ++
  failUnless "buildroot_applied_diff_sha256 is required when Buildroot patches are expected"
    (field "buildroot_applied_diff_sha256" payload).truthy ++
  if !expected.truthy || !staged.truthy then
    ["staged-patched-tree Buildroot source must include expected and staged diff digests"]
  else failUnless "buildroot_staged_diff_sha256 must match buildroot_expected_diff_sha256" (expected.pyEq staged)

def modeFailures : List String :=
  if (field "buildroot_source_mode" payload).pyEq (.str "clean-native") then cleanNativeFailures payload
  else if (field "buildroot_source_mode" payload).pyEq (.str "staged-patched-tree") then stagedFailures payload
  else []

/-- The failures of the id of the Buildroot source. -/
def effectiveFailures : List String :=
  match field "buildroot_index_sha" payload, field "buildroot_patchset_sha256" payload,
    field "buildroot_effective_source_id" payload, field "buildroot_upstream_ref" payload, field "buildroot_source_mode" payload with
  | .str index, .str patchset, .str effective, .str upstream, .str mode =>
    if isHex 40 index && isHex 64 patchset then
      let diff := if mode = "staged-patched-tree" then (field "buildroot_staged_diff_sha256" payload).asStr else none
      failUnless "buildroot_effective_source_id must bind index, upstream ref, mode, patchset, and diff identity"
        (effective = effectiveSourceId L index patchset diff upstream mode)
    else []
  | _, _, _, _, _ => []

/-- The failures of the id of the source of a release. -/
def releaseFailures : List String :=
  match field "suderra_source_sha" payload, field "suderra_external_tree_sha256" payload,
    field "buildroot_effective_source_id" payload, field "suderra_release_source_id" payload with
  | .str source, .str external, .str effective, .str release =>
    if isHex 40 source && isHex 64 external && isHex 64 effective then
      failUnless "suderra_release_source_id must bind source SHA, external tree, and Buildroot effective source"
        (release = releaseSourceId L source external effective) ++
      failUnless "suderra_external_tree_sha256 must match the source SHA git tree excluding buildroot"
        ((L.lsTree source).all fun entries => external = externalTreeSha256 L entries)
    else []
  | _, _, _, _ => []

/-- `validate_metadata_payload`. A mode that cannot be hashed raises. -/
def validateMetadataPayload : Except String (List String) := do
  guardError "TypeError" (field "buildroot_source_mode" payload).isHashable
  .ok (fieldFailures payload ++ modeFailures payload ++ effectiveFailures L payload ++ releaseFailures L payload)

end Validator

theorem isHexText_iff {n : Nat} {v : Value} : isHexText n v = true ↔ ∃ s, v = .str s ∧ isHex n s = true := by
  cases v <;> simp [isHexText, asStr]

/-- The texts that the ids of an identity are taken from. -/
structure Texts where
  index : String
  upstream : String
  mode : String
  patchset : String
  diff : Option String
  source : String
  external : String
  effective : String

/-- An identity whose fields are these texts, each of them of its form, and whose ids are their digests. -/
structure Names (L : Libraries) (payload : Fields) (t : Texts) : Prop where
  index_eq : field "buildroot_index_sha" payload = .str t.index
  index_hex : isHex 40 t.index = true
  upstream_eq : field "buildroot_upstream_ref" payload = .str t.upstream
  mode_eq : field "buildroot_source_mode" payload = .str t.mode
  patchset_eq : field "buildroot_patchset_sha256" payload = .str t.patchset
  patchset_hex : isHex 64 t.patchset = true
  source_eq : field "suderra_source_sha" payload = .str t.source
  source_hex : isHex 40 t.source = true
  external_eq : field "suderra_external_tree_sha256" payload = .str t.external
  external_hex : isHex 64 t.external = true
  effective_eq : field "buildroot_effective_source_id" payload = .str t.effective
  effective_hex : isHex 64 t.effective = true
  release_eq : field "suderra_release_source_id" payload = .str (releaseSourceId L t.source t.external t.effective)
  tree : ∀ entries, L.lsTree t.source = some entries → t.external = externalTreeSha256 L entries
  diff_eq : t.mode = "clean-native" ∧ t.diff = none ∨
    t.mode = "staged-patched-tree" ∧ ∃ d, t.diff = some d ∧ isHex 64 d = true ∧ field "buildroot_staged_diff_sha256" payload = .str d
  bound : t.effective = effectiveSourceId L t.index t.patchset t.diff t.upstream t.mode

/-- A digest that is there is a text of 64 digits. -/
theorem isHex_of_truthy {v : Value} (h : isDigestOrAbsent v = true) (hv : v.truthy = true) : ∃ d, v = .str d ∧ isHex 64 d = true := by
  rcases Bool.or_eq_true_iff.1 h with hnull | hdigest
  · rw [pyEq_null_iff.1 hnull] at hv
    cases hv
  · cases v with
    | str d =>
      simp only [isDigest, Bool.and_eq_true] at hdigest
      exact ⟨d, rfl, hdigest.1⟩
    | _ => cases hdigest

/-- What an identity is asked for beside its ids. -/
structure Shaped (payload : Fields) : Prop where
  schema : (field "schema_version" payload).pyEq (.str "suderra.buildroot-source-identity.v2") = true
  release : isHexText 64 (field "suderra_release_source_id" payload) = true
  dirty : dirtyPathFailures (field "suderra_external_dirty_paths" payload) = []
  patches : patchFilesFailures (field "buildroot_patch_files" payload) = []
  patched : isBool (field "buildroot_expected_patched" payload) = true
  upstream : isText (field "buildroot_upstream_ref" payload) = true
  rust : ∀ name ∈ ["buildroot_rust_version", "buildroot_rust_bin_version"],
    (field name payload).isIn [.null, .str nativeRustVersion] = true
  diffs : ∀ name ∈ ["buildroot_applied_diff_sha256", "buildroot_worktree_diff_sha256", "buildroot_expected_diff_sha256",
    "buildroot_staged_diff_sha256"], isDigestOrAbsent (field name payload) = true
  mode : modeFailures payload = []

/-- The diff that an identity of a source with patches must name. -/
theorem staged_of_modeFailures {payload : Fields} (hmode : field "buildroot_source_mode" payload = .str "staged-patched-tree")
    (hdiffs : isDigestOrAbsent (field "buildroot_staged_diff_sha256" payload) = true) (h : modeFailures payload = []) :
    ∃ d, field "buildroot_staged_diff_sha256" payload = .str d ∧ isHex 64 d = true := by
  refine isHex_of_truthy hdiffs ?_
  rw [modeFailures, hmode, if_neg (by decide), if_pos (by decide)] at h
  by_contra hnot
  rw [Bool.not_eq_true] at hnot
  simp [stagedFailures, hnot] at h

/-- An identity is accepted where its texts and all else have their form. -/
theorem accepted_iff {L : Libraries} {payload : Fields} :
    validateMetadataPayload L payload = .ok [] ↔ (∃ t, Names L payload t) ∧ Shaped payload := by
  simp only [validateMetadataPayload, guardError_bind_ok_iff, Except.ok.injEq, List.append_eq_nil_iff, fieldFailures, failUnless_eq_nil,
    List.flatMap_eq_nil_iff]
  constructor
  · rintro ⟨_, ⟨⟨⟨⟨⟨⟨⟨⟨⟨⟨⟨⟨⟨⟨⟨⟨hschema, hindex⟩, heffectiveId⟩, hsource⟩, hexternal⟩, hreleaseId⟩, hdirty⟩, hpatchset⟩, hpatches⟩, hpatched⟩,
      hupstream⟩, hmode⟩, hrust⟩, hdiffs⟩, hmodes⟩, heffective⟩, hrelease⟩⟩
    refine ⟨?_, hschema, hreleaseId, hdirty, hpatches, hpatched, hupstream, hrust, hdiffs, hmodes⟩
    obtain ⟨index, hindexEq, hindex⟩ := isHexText_iff.1 hindex
    obtain ⟨effective, heffectiveEq, heffectiveHex⟩ := isHexText_iff.1 heffectiveId
    obtain ⟨source, hsourceEq, hsource⟩ := isHexText_iff.1 hsource
    obtain ⟨external, hexternalEq, hexternal⟩ := isHexText_iff.1 hexternal
    obtain ⟨release, hreleaseEq, _⟩ := isHexText_iff.1 hreleaseId
    obtain ⟨patchset, hpatchsetEq, hpatchset⟩ := isHexText_iff.1 hpatchset
    obtain ⟨upstream, hupstreamEq⟩ : ∃ upstream, field "buildroot_upstream_ref" payload = .str upstream := by
      cases hv : field "buildroot_upstream_ref" payload with
      | str s => exact ⟨s, rfl⟩
      | _ => simp [isText, asStr, hv] at hupstream
    obtain ⟨mode, hmodeEq, diff, hdiffEq, hdiff⟩ : ∃ mode, field "buildroot_source_mode" payload = .str mode ∧
        ∃ diff, diff = (if mode = "staged-patched-tree" then (field "buildroot_staged_diff_sha256" payload).asStr else none) ∧
          (mode = "clean-native" ∧ diff = none ∨ mode = "staged-patched-tree" ∧
            ∃ d, diff = some d ∧ isHex 64 d = true ∧ field "buildroot_staged_diff_sha256" payload = .str d) := by
      simp only [isIn, List.any_cons, List.any_nil, Bool.or_false, Bool.or_eq_true, str_pyEq_iff] at hmode
      rcases hmode with hmode | hmode
      · exact ⟨_, hmode, none, rfl, .inl ⟨rfl, rfl⟩⟩
      · obtain ⟨d, hd, hhex⟩ := staged_of_modeFailures hmode (hdiffs _ (by simp)) hmodes
        exact ⟨_, hmode, some d, by rw [if_pos rfl, hd]; rfl, .inr ⟨rfl, d, rfl, hhex, hd⟩⟩
    simp only [effectiveFailures, hindexEq, hpatchsetEq, heffectiveEq, hupstreamEq, hmodeEq, hindex, hpatchset, Bool.and_self, if_true,
      failUnless_eq_nil, decide_eq_true_eq, ← hdiffEq] at heffective
    simp only [releaseFailures, hsourceEq, hexternalEq, heffectiveEq, hreleaseEq, hsource, hexternal, heffectiveHex, Bool.and_self,
      if_true, List.append_eq_nil_iff, failUnless_eq_nil, decide_eq_true_eq] at hrelease
    refine ⟨⟨index, upstream, mode, patchset, diff, source, external, effective⟩, hindexEq, hindex, hupstreamEq, hmodeEq, hpatchsetEq,
      hpatchset, hsourceEq, hsource, hexternalEq, hexternal, heffectiveEq, heffectiveHex, by rw [hreleaseEq, hrelease.1],
      fun entries hentries => ?_, hdiff, heffective⟩
    have htree := hrelease.2
    rw [hentries] at htree
    simpa using htree
  · rintro ⟨⟨t, ht⟩, h⟩
    have hmode : (field "buildroot_source_mode" payload).isHashable = true ∧
        (field "buildroot_source_mode" payload).isIn [.str "clean-native", .str "staged-patched-tree"] = true := by
      rw [ht.mode_eq]
      rcases ht.diff_eq with ⟨hmode, _⟩ | ⟨hmode, _⟩
      · rw [hmode]
        decide
      · rw [hmode]
        decide
    have hdiff : (if t.mode = "staged-patched-tree" then (field "buildroot_staged_diff_sha256" payload).asStr else none) = t.diff := by
      rcases ht.diff_eq with ⟨hmode, hdiff⟩ | ⟨hmode, d, hdiff, _, hd⟩
      · rw [hmode, if_neg (by decide), hdiff]
      · rw [if_pos hmode, hd, hdiff, asStr]
    have hpatched := h.patched
    have hhex {n : Nat} {v : Value} {s : String} (hv : v = .str s) (hs : isHex n s = true) : isHexText n v = true :=
      isHexText_iff.2 ⟨s, hv, hs⟩
    refine ⟨hmode.1, ⟨⟨⟨⟨⟨⟨⟨⟨⟨⟨⟨⟨⟨⟨⟨⟨h.schema, hhex ht.index_eq ht.index_hex⟩, hhex ht.effective_eq ht.effective_hex⟩,
      hhex ht.source_eq ht.source_hex⟩, hhex ht.external_eq ht.external_hex⟩, h.release⟩, h.dirty⟩, hhex ht.patchset_eq ht.patchset_hex⟩,
      h.patches⟩, hpatched⟩, h.upstream⟩, hmode.2⟩, h.rust⟩, h.diffs⟩, h.mode⟩, ?_⟩, ?_⟩⟩
    · simp only [effectiveFailures, ht.index_eq, ht.patchset_eq, ht.effective_eq, ht.upstream_eq, ht.mode_eq, ht.index_hex,
        ht.patchset_hex, Bool.and_self, if_true, failUnless_eq_nil, decide_eq_true_eq, hdiff]
      exact ht.bound
    · simp only [releaseFailures, ht.source_eq, ht.external_eq, ht.effective_eq, ht.release_eq, ht.source_hex, ht.external_hex,
        ht.effective_hex, Bool.and_self, if_true, List.append_eq_nil_iff, failUnless_eq_nil, decide_true, true_and]
      cases htree : L.lsTree t.source with
      | none => rfl
      | some entries => simpa using ht.tree entries htree

end SuderraOs.Evidence.BuildrootIdentity
