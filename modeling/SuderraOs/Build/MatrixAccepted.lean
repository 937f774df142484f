import SuderraOs.Build.MatrixCheck

/-!
# A matrix that is accepted

What `validate` of `validate-build-matrix.py` leaves of a matrix without errors: names and targets that differ, rows that have all their
fields, and in each row lists of prebuilds and of exports that refer to other rows (`accepted_of_validate`, `RowAccepted.sound`).
-/

namespace SuderraOs.Build

open PyText Value Evidence

section Accepted

variable {H : Host} {J : JoinContract} {files : Files} {strict : Bool} {defconfigs : List Value}

/-- The name of a row as the checks read it. -/
abbrev nameOf (H : Host) (row : Fields) : String := textField H.toPython "name" row

/-- A row without errors. -/
structure RowAccepted (H : Host) (files : Files) (strict : Bool) (rows : List Fields) (row : Fields) : Prop where
  complete : missingFields row = []
  own : rowErrors H rows (nameOf H row) row = .ok []
  config : configErrors H files strict (nameOf H row) row (payloadLists H (nameOf H row) row).2.1 = .ok []

/-- A matrix without errors. -/
structure MatrixAccepted (H : Host) (J : JoinContract) (files : Files) (strict : Bool) (defconfigs : List Value) (rows : List Fields) : Prop where
  objects : defconfigs = rows.map .dict
  names : (rows.map (nameOf H)).Nodup
  targets : (rows.map (textField H.toPython "target")).Nodup
  accepted : ∀ row ∈ rows, RowAccepted H files strict rows row
  joined : validateMatrixJoin H.toPython H.quoted J defconfigs = []

/-- The rows from one row on are accepted, and their names and targets were not seen before. -/
theorem accepted_of_rowsErrors {all rows : List Fields} {names targets : List String} (h : rowsErrors H files strict all names targets rows = .ok []) :
    (∀ row ∈ rows, RowAccepted H files strict all row) ∧ (rows.map (nameOf H)).Nodup ∧ (rows.map (textField H.toPython "target")).Nodup ∧
      (∀ row ∈ rows, nameOf H row ∉ names) ∧ ∀ row ∈ rows, textField H.toPython "target" row ∉ targets := by
  induction rows generalizing names targets with
  | nil => simp
  | cons row rows ih =>
    rw [rowsErrors] at h
    by_cases hmissing : (missingFields row).isEmpty = true
    · rw [if_neg (by simp [hmissing])] at h
      obtain ⟨own, hown, h⟩ := bind_ok_iff.1 h
      obtain ⟨config, hconfig, h⟩ := bind_ok_iff.1 h
      obtain ⟨more, hmore, h⟩ := bind_ok_iff.1 h
      simp only [Except.ok.injEq, List.append_eq_nil_iff, failUnless_eq_nil, Bool.not_eq_true', List.contains_eq_mem, decide_eq_false_iff_not] at h
      obtain ⟨⟨⟨⟨hname, htarget⟩, rfl⟩, rfl⟩, rfl⟩ := h
      obtain ⟨haccepted, hnames, htargets, hnew, hnewTargets⟩ := ih hmore
      refine ⟨List.forall_mem_cons.2 ⟨⟨List.isEmpty_iff.1 hmissing, hown, hconfig⟩, haccepted⟩, ?_, ?_, ?_, ?_⟩
      · refine List.nodup_cons.2 ⟨fun hmem => ?_, hnames⟩
        obtain ⟨other, hother, heq⟩ := List.mem_map.1 hmem
        exact hnew other hother (heq ▸ List.mem_cons_self)
      · refine List.nodup_cons.2 ⟨fun hmem => ?_, htargets⟩
        obtain ⟨other, hother, heq⟩ := List.mem_map.1 hmem
        exact hnewTargets other hother (heq ▸ List.mem_cons_self)
      · exact List.forall_mem_cons.2 ⟨hname, fun other hother hmem => hnew other hother (List.mem_cons_of_mem _ hmem)⟩
      · exact List.forall_mem_cons.2 ⟨htarget, fun other hother hmem => hnewTargets other hother (List.mem_cons_of_mem _ hmem)⟩
    · rw [if_pos (by simp [hmissing])] at h
      obtain ⟨more, -, h⟩ := bind_ok_iff.1 h
      cases h

theorem eq_map_dict {items : List Value} {rows : List Fields} (h : items.mapM (fun row => orError "AttributeError" row.asDict) = .ok rows) :
    items = rows.map .dict := by
  rw [mapM_ok_iff] at h
  induction h with
  | nil => rfl
  | cons hrow _ ih => rw [List.map_cons, ← ih, asDict_eq_some.1 (orError_ok_iff.1 hrow)]

theorem accepted_of_validate (h : validate H J files strict defconfigs = .ok []) : ∃ rows, MatrixAccepted H J files strict defconfigs rows := by
  obtain ⟨rows, hrows, h⟩ := bind_ok_iff.1 h
  obtain ⟨errors, herrors, h⟩ := bind_ok_iff.1 h
  simp only [Except.ok.injEq, List.append_eq_nil_iff] at h
  obtain ⟨rfl, hjoin⟩ := h
  obtain ⟨haccepted, hnames, htargets, -, -⟩ := accepted_of_rowsErrors herrors
  exact ⟨rows, eq_map_dict hrows, hnames, htargets, haccepted, hjoin⟩

/-- A row with all its fields has each of them. -/
theorem lookup_of_complete {row : Fields} (h : missingFields row = []) {key : String} (hkey : key ∈ targetFields) :
    ∃ v, lookup key row = some v := by
  have hmem : key ∈ row.map (·.1) := by
    by_contra hnot
    have hmissing : key ∈ missingFields row := mem_sortNames.2 (List.mem_filter.2 ⟨hkey, by simpa using hnot⟩)
    rw [h] at hmissing
    exact List.not_mem_nil hmissing
  obtain ⟨p, hp, rfl⟩ := List.mem_map.1 hmem
  obtain ⟨q, hq⟩ := Option.isSome_iff_exists.1 (List.find?_isSome.2 ⟨p, List.mem_reverse.2 hp, by simp⟩ :
    (row.reverse.find? fun q => q.1 = p.1).isSome = true)
  exact ⟨q.2, by rw [lookup, hq]; rfl⟩

/-- The name of a row in a message. -/
def shownName (H : Host) (row : Fields) : String := ((lookup "name" row).getD (.str "<unknown>")).pyStr H.repr

/-- What the jobs rely on in an accepted row. -/
structure RowSound (H : Host) (rows : List Fields) (row : Fields) (prebuilds exports : List String) : Prop where
  listed : listField H (shownName H row) "prebuild_defconfigs" row = .ok prebuilds
  exported : listField H (shownName H row) "payload_image_exports" row = .ok exports
  known : ∀ prebuild ∈ prebuilds, prebuild ≠ nameOf H row ∧ ∃ target, targetByName H rows prebuild = some target
  built : ∀ text ∈ exports, ∃ env prebuild artifact, parseExport text = some (env, prebuild, artifact) ∧ prebuild ∈ prebuilds ∧
    ∀ target, targetByName H rows prebuild = some target → artifact ∈ expectedArtifacts H target
  safe : ∀ artifact ∈ expectedArtifacts H row, isArtifact artifact = true
  bools : ∀ key ∈ boolFields, (field key row).isBool = true
  release_source : (field "release" row).truthy = true → (field "release_source" row).truthy = true
  image_build : (field "release_source" row).truthy = true → (field "image_build" row).truthy = true
  payload_base : (field "payload_base_required" row).truthy = true → prebuilds ≠ []
  blocker : (field "production_required" row).truthy = true → (field "production_ready" row).truthy = false →
    (field "blocker" row).truthy = true

theorem listField_ok {name key : String} {row : Fields} {texts : List String} (h : listField H name key row = .ok texts) (name' : String) :
    listField H name' key row = .ok texts := by
  unfold listField at h ⊢
  split at h
  · exact h
  · cases h

/-- The lists of a row without an error. -/
theorem payloadLists_eq {name : String} {row : Fields} (h : (payloadLists H name row).1 = []) :
    ∃ prebuilds exports, payloadLists H name row = ([], prebuilds, exports) ∧ listField H name "prebuild_defconfigs" row = .ok prebuilds ∧
      listField H name "payload_image_exports" row = .ok exports := by
  unfold payloadLists at h ⊢
  cases hprebuilds : listField H name "prebuild_defconfigs" row with
  | error e => rw [hprebuilds] at h; cases h
  | ok prebuilds =>
    cases hexports : listField H name "payload_image_exports" row with
    | error e => rw [hprebuilds, hexports] at h; cases h
    | ok exports => exact ⟨prebuilds, exports, rfl, rfl, rfl⟩

theorem safe_of_artifactErrors {name : String} {row : Fields} (h : artifactErrors H name row = []) :
    ∀ artifact ∈ expectedArtifacts H row, isArtifact artifact = true := by
  unfold artifactErrors at h
  unfold expectedArtifacts
  split at h
  · next items hitems =>
    simp only [List.append_eq_nil_iff, List.flatMap_eq_nil_iff, failUnless_eq_nil] at h
    simp only [List.forall_mem_map]
    intro item hitem
    have hsafe := h.2 item hitem
    cases item with
    | str s => exact hsafe
    | _ => simp [asStr] at hsafe
  · cases h

theorem RowAccepted.sound {rows : List Fields} {row : Fields} (h : RowAccepted H files strict rows row) :
    ∃ prebuilds exports, RowSound H rows row prebuilds exports := by
  obtain ⟨arch, -, hown⟩ := bind_ok_iff.1 h.own
  obtain ⟨table, -, hown⟩ := bind_ok_iff.1 hown
  simp only [Except.ok.injEq, List.append_eq_nil_iff] at hown
  obtain ⟨⟨⟨⟨⟨⟨⟨⟨-, -⟩, hartifacts⟩, hbools⟩, -⟩, -⟩, hlists⟩, hprebuilds⟩, hexports⟩ := hown
  obtain ⟨prebuilds, exports, heq, hlisted, hexported⟩ := payloadLists_eq hlists
  rw [heq] at hprebuilds hexports
  have hconfig := h.config
  rw [heq] at hconfig
  have hpolicy : ∃ config, policyErrors strict config (nameOf H row) row prebuilds = [] := by
    unfold configErrors at hconfig
    split at hconfig
    · cases hconfig
    · obtain ⟨_, -, hconfig⟩ := bind_ok_iff.1 hconfig
      obtain ⟨config, -, hconfig⟩ := bind_ok_iff.1 hconfig
      obtain ⟨_, -, hconfig⟩ := bind_ok_iff.1 hconfig
      obtain ⟨_, -, hconfig⟩ := bind_ok_iff.1 hconfig
      simp only [Except.ok.injEq, List.append_eq_nil_iff] at hconfig
      exact ⟨config, hconfig.1.2⟩
  obtain ⟨config, hpolicy⟩ := hpolicy
  simp only [policyErrors, List.append_eq_nil_iff, failUnless_eq_nil, Bool.or_eq_true, Bool.not_eq_true'] at hpolicy
  obtain ⟨⟨⟨⟨⟨-, hrelease⟩, himage⟩, hpayload⟩, hblocker⟩, -⟩ := hpolicy
  simp only [prebuildErrors, List.flatMap_eq_nil_iff, List.append_eq_nil_iff, failUnless_eq_nil, decide_eq_true_eq] at hprebuilds
  refine ⟨prebuilds, exports, listField_ok hlisted _, listField_ok hexported _, ?_, ?_, safe_of_artifactErrors hartifacts, ?_, ?_, ?_, ?_, ?_⟩
  · exact fun prebuild hmem => ⟨(hprebuilds prebuild hmem).1, Option.isSome_iff_exists.1 (hprebuilds prebuild hmem).2⟩
  · intro text hmem
    have htext := List.flatMap_eq_nil_iff.1 hexports text hmem
    split at htext
    · cases htext
    · next env prebuild artifact hparse =>
      split_ifs at htext with hlist
      refine ⟨env, prebuild, artifact, hparse, by simpa using hlist, fun target htarget => ?_⟩
      simpa [htarget] using htext
  · simpa [List.flatMap_eq_nil_iff] using hbools
  · intro htrue
    exact hrelease.resolve_left (by simp [htrue])
  · intro htrue
    exact himage.resolve_left (by simp [htrue])
  · intro htrue hnil
    simp [htrue, hnil] at hpayload
  · intro htrue hready
    rw [htrue, hready] at hblocker
    simpa using hblocker

end Accepted

end SuderraOs.Build
