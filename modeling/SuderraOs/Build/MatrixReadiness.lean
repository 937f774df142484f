import SuderraOs.Build.MatrixJobs

/-!
# When a release is ready

`production-readiness` and `candidate-readiness` of `validate-build-matrix.py`, over a matrix that `validate` accepts. The rows and the
contract are joined there, and no gated target may say that it is ready: a production release is ready exactly when the contract gates
nothing, and a candidate is held back by its inputs and by a reason that is left blank, by nothing else (`readiness_of_accepted`).
-/

namespace SuderraOs.Build

open PyText Value Evidence

variable {H : Host} {J : JoinContract} {files : Files} {strict : Bool} {defconfigs : List Value}

theorem mem_joinRows {rows : List Fields} {target : String} {row : Fields} :
    (target, row) ∈ joinRows (rows.map .dict) ↔ row ∈ rows ∧ field "target" row = .str target := by
  have hdicts : (rows.map Value.dict).filterMap asDict = rows := by
    induction rows with
    | nil => rfl
    | cons row rows ih => rw [List.map_cons, List.filterMap_cons, ih]; rfl
  simp only [joinRows, hdicts, List.mem_filterMap, Option.map_eq_some_iff, asStr_eq_some, Prod.mk.injEq]
  constructor
  · rintro ⟨row', hrow, s, hs, rfl, rfl⟩
    exact ⟨hrow, hs⟩
  · exact fun ⟨hrow, hs⟩ => ⟨row, hrow, target, hs, rfl, rfl⟩

/-- The row of a target is the one row that names it. -/
theorem MatrixAccepted.rowOf_eq_some {rows : List Fields} (h : MatrixAccepted H J files strict defconfigs rows) {target : String} {row : Fields} :
    rowOf defconfigs target = some row ↔ row ∈ rows ∧ field "target" row = .str target := by
  have hsound : ∀ row, rowOf defconfigs target = some row → row ∈ rows ∧ field "target" row = .str target := by
    intro row hrow
    obtain ⟨p, hp, rfl⟩ := Option.map_eq_some_iff.1 hrow
    have hmem := List.mem_reverse.1 (List.mem_of_find?_eq_some hp)
    have hkey : p.1 = target := by simpa using List.find?_some hp
    rw [h.objects] at hmem
    exact hkey ▸ mem_joinRows.1 hmem
  refine ⟨hsound row, fun ⟨hrow, htarget⟩ => ?_⟩
  have hmem : (target, row) ∈ (joinRows defconfigs).reverse := List.mem_reverse.2 (h.objects ▸ mem_joinRows.2 ⟨hrow, htarget⟩)
  obtain ⟨p, hp⟩ := Option.isSome_iff_exists.1
    (List.find?_isSome.2 ⟨_, hmem, by simp⟩ : ((joinRows defconfigs).reverse.find? fun p => p.1 = target).isSome = true)
  have hfound : rowOf defconfigs target = some p.2 := by rw [rowOf, hp]; rfl
  obtain ⟨hother, hsame⟩ := hsound p.2 hfound
  -- two rows of one target would be two of one text
  rw [hfound, List.inj_on_of_nodup_map h.targets hother hrow ((textField_eq hsame).trans (textField_eq htarget).symm)]

/-- What the join says of a target of the contract. -/
theorem MatrixAccepted.joined_target {rows : List Fields} (h : MatrixAccepted H J files strict defconfigs rows) {target : String}
    {policy : TargetPolicy} (hpolicy : J.targetPolicy target = some policy) :
    ∃ row ∈ rows, field "target" row = .str target ∧
      (policy.productionGate = true → (field "production_required" row).isTrue = true) ∧
      ((field "production_required" row).isTrue = true → (field "production_ready" row).isFalse = true) := by
  have hjoin := h.joined
  simp only [validateMatrixJoin, List.append_eq_nil_iff, List.flatMap_eq_nil_iff] at hjoin
  obtain ⟨before, after, htargets, -⟩ := List.lookup_eq_some_iff.1 hpolicy
  have hlisted : (target, policy) ∈ J.targets := by simp [htargets]
  have htarget := hjoin.1.2 _ hlisted
  rw [targetErrors] at htarget
  cases hrow : rowOf defconfigs target with
  | none => simp [hrow] at htarget
  | some row =>
    obtain ⟨hmem, hname⟩ := h.rowOf_eq_some.1 hrow
    simp only [hrow, List.append_eq_nil_iff, failUnless_eq_nil, Bool.or_eq_true, Bool.not_eq_true'] at htarget
    obtain ⟨⟨⟨⟨⟨⟨-, hready⟩, hgate⟩, -⟩, -⟩, -⟩, -⟩ := htarget
    exact ⟨row, hmem, hname, fun hpolicyGate => hgate.resolve_left (by simp [hpolicyGate]),
      fun hrequired => hready.resolve_left (by simp [hrequired])⟩

/-- A row that production needs and that names its target by a text is in the contract. -/
theorem MatrixAccepted.required_joined {rows : List Fields} (h : MatrixAccepted H J files strict defconfigs rows) {row : Fields} (hrow : row ∈ rows)
    {target : String} (htarget : field "target" row = .str target) (hrequired : (field "production_required" row).isTrue = true) :
    ∃ policy, J.targetPolicy target = some policy := by
  have hjoin := h.joined
  simp only [validateMatrixJoin, List.append_eq_nil_iff, missingErrors, failUnless_eq_nil, List.isEmpty_iff, sortedDiff_eq_nil] at hjoin
  have hmem : target ∈ targetsWhere defconfigs "production_required" := by
    refine List.mem_filter.2 ⟨List.mem_map.2 ⟨(target, row), h.objects ▸ mem_joinRows.2 ⟨hrow, htarget⟩, rfl⟩, ?_⟩
    rw [h.rowOf_eq_some.2 ⟨hrow, htarget⟩, Option.any_some, hrequired]
  obtain ⟨p, hp, rfl⟩ := List.mem_map.1 (hjoin.1.1.1 target hmem)
  exact Option.isSome_iff_exists.1 (List.lookup_isSome_iff.2 ⟨p, hp, by simp⟩)

theorem truthy_eq_isTrue {v : Value} (h : v.isBool = true) : v.truthy = v.isTrue := by
  cases v with
  | bool b => cases b <;> rfl
  | _ => cases h

theorem truthy_of_isFalse {v : Value} (h : v.isFalse = true) : v.truthy = false := by
  cases v with
  | bool b => cases b with
    | false => rfl
    | true => cases h
  | _ => cases h

/-- A row that no text names, that production needs and that is not ready. -/
def isStray (row : Fields) : Bool :=
  (field "target" row).asStr.isNone && (field "production_required" row).truthy && !(field "production_ready" row).truthy

/-- A row holds a production release back where the contract gates its target, or where no contract can name it. -/
theorem MatrixAccepted.isBlocker_eq {rows : List Fields} (h : MatrixAccepted H J files strict defconfigs rows) {row : Fields} (hrow : row ∈ rows) :
    isBlocker H J row =
      (isStray row || (field "target" row).asStr.any fun target => (J.targetPolicy target).any fun policy => policy.productionGate) := by
  obtain ⟨prebuilds, exports, hsound⟩ := (h.accepted row hrow).sound
  have hbool := truthy_eq_isTrue (hsound.bools "production_required" (by decide))
  cases htext : (field "target" row).asStr with
  | some target =>
    have htarget := asStr_eq_some.1 htext
    have hstray : isStray row = false := by simp [isStray, htext]
    rw [hstray, Bool.false_or, Option.any_some, isBlocker, show (field "target" row).pyStr H.repr = target by rw [htarget]; rfl]
    cases hpolicy : J.targetPolicy target with
    | none =>
      have hrequired : (field "production_required" row).isTrue = false := by
        by_contra htrue
        obtain ⟨policy, hsome⟩ := h.required_joined hrow htarget (by simpa using htrue)
        simp [hpolicy] at hsome
      simp [hbool, hrequired]
    | some policy =>
      obtain ⟨other, hother, hsame, hgate, hready⟩ := h.joined_target hpolicy
      obtain rfl : other = row :=
        List.inj_on_of_nodup_map h.targets hother hrow ((textField_eq hsame).trans (textField_eq htarget).symm)
      cases hproduction : policy.productionGate with
      | false => simp [hproduction]
      | true =>
        have hunready : (field "production_ready" other).truthy = false :=
          truthy_of_isFalse (hready (hgate hproduction))
        simp [hproduction, hunready]
  | none =>
    -- a target that is no text may read like one of the contract, but that one has a row of its own
    have hnone : J.targetPolicy ((field "target" row).pyStr H.repr) = none := by
      cases hpolicy : J.targetPolicy ((field "target" row).pyStr H.repr) with
      | none => rfl
      | some policy =>
        obtain ⟨other, hother, hsame, -⟩ := h.joined_target hpolicy
        obtain ⟨v, hv⟩ : ∃ v, lookup "target" row = some v := lookup_of_complete (h.accepted row hrow).complete (by decide)
        have htexts : textField H.toPython "target" other = textField H.toPython "target" row := by
          rw [textField_eq hsame, textField, field, hv]
          rfl
        obtain rfl : other = row := List.inj_on_of_nodup_map h.targets hother hrow htexts
        rw [hsame] at htext
        cases htext
    simp [isBlocker, hnone, isStray, htext]

theorem MatrixAccepted.blockerLines {rows : List Fields} (h : MatrixAccepted H J files strict defconfigs rows) :
    ∃ lines, (rows.filter (isBlocker H J)).mapM (blockerLine H) = .ok lines ∧ (lines = [] ↔ rows.any (isBlocker H J) = false) := by
  have hlines : ∀ row ∈ rows.filter (isBlocker H J), ∃ line, blockerLine H row = .ok line := by
    intro row hrow
    have hcomplete := (h.accepted row (List.mem_of_mem_filter hrow)).complete
    have hname : ∃ v, lookup "name" row = some v := lookup_of_complete hcomplete (by decide)
    have hreason : ∃ v, lookup "blocker" row = some v := lookup_of_complete hcomplete (by decide)
    obtain ⟨name, hname⟩ := hname
    obtain ⟨reason, hreason⟩ := hreason
    rw [blockerLine, subscript, hname, orError_some, ok_bind, subscript, hreason, orError_some, ok_bind]
    exact ⟨_, rfl⟩
  obtain ⟨lines, hok⟩ := exists_mapM hlines
  refine ⟨lines, hok, ?_⟩
  have hlength : lines.length = (rows.filter (isBlocker H J)).length := (mapM_ok_iff.1 hok).length_eq.symm
  rw [← List.length_eq_zero_iff, hlength, List.length_eq_zero_iff, List.filter_eq_nil_iff, List.any_eq_false]

/-- The blockers are the gated targets of the contract, besides the rows that no text names. -/
theorem MatrixAccepted.any_isBlocker {rows : List Fields} (h : MatrixAccepted H J files strict defconfigs rows) :
    rows.any (isBlocker H J) = false ↔
      (∀ target policy, J.targetPolicy target = some policy → policy.productionGate = false) ∧ ∀ row ∈ rows, isStray row = false := by
  rw [List.any_eq_false]
  constructor
  · intro hnone
    refine ⟨fun target policy hpolicy => ?_, fun row hrow => ?_⟩
    · obtain ⟨row, hrow, htarget, -⟩ := h.joined_target hpolicy
      have hfree := hnone row hrow
      rw [h.isBlocker_eq hrow, htarget, asStr, Option.any_some, hpolicy, Option.any_some] at hfree
      simpa using (Bool.or_eq_false_iff.1 (by simpa using hfree)).2
    · have hfree := hnone row hrow
      rw [h.isBlocker_eq hrow] at hfree
      exact (Bool.or_eq_false_iff.1 (by simpa using hfree)).1
  · rintro ⟨hgates, hstray⟩ row hrow
    rw [h.isBlocker_eq hrow, hstray row hrow, Bool.false_or, Option.any_eq_true]
    rintro ⟨target, -, hgated⟩
    obtain ⟨policy, hpolicy, hgate⟩ := (Option.any_eq_true ..).1 hgated
    exact Bool.false_ne_true ((hgates target policy hpolicy).symm.trans hgate)

theorem MatrixAccepted.rationaleLines {rows : List Fields} (h : MatrixAccepted H J files strict defconfigs rows) :
    ∃ reasons, (rows.filter (missesRationale H)).mapM (rationaleLine H) = .ok reasons := by
  refine exists_mapM fun row hrow => ?_
  have hname : ∃ v, lookup "name" row = some v := lookup_of_complete (h.accepted row (List.mem_of_mem_filter hrow)).complete (by decide)
  obtain ⟨name, hname⟩ := hname
  exact ⟨_, by rw [rationaleLine, subscript, hname, orError_some, ok_bind]⟩

/-- Over a matrix that is accepted the commands come to an end. A production release is ready if and only if the contract gates no target
(and no row with a target that is no text is needed and not ready); the gated rows are printed. A candidate is held back by a reason that is
blank, and else by its inputs alone: it prints the rows that hold the production release back. -/
theorem readiness_of_accepted (h : validate H J files strict defconfigs = .ok []) :
    ∃ rows lines, defconfigs = rows.map .dict ∧ productionReadiness H J rows = .ok (if lines.isEmpty then 0 else 1, lines) ∧
      (lines = [] ↔ (∀ target policy, J.targetPolicy target = some policy → policy.productionGate = false) ∧ ∀ row ∈ rows, isStray row = false) ∧
      ∀ tag inputs, '-' ∈ tag.toList → ∃ reasons, candidateReadiness H J rows tag inputs =
        .ok (if rows.any (missesRationale H) then (1, reasons) else (inputs.getD 0, lines)) := by
  obtain ⟨rows, hmatrix⟩ := accepted_of_validate h
  obtain ⟨lines, hlines, hempty⟩ := hmatrix.blockerLines
  obtain ⟨reasons, hreasons⟩ := hmatrix.rationaleLines
  refine ⟨rows, lines, hmatrix.objects, ?_, hempty.trans hmatrix.any_isBlocker, fun tag inputs hdash => ⟨reasons, ?_⟩⟩
  · rw [productionReadiness, hlines, ok_bind]
  · have htag : tag ≠ "" := fun hnone => by simp [hnone] at hdash
    rw [candidateReadiness, if_neg htag, if_neg (by simpa using hdash), hreasons, ok_bind, hlines, ok_bind]
    split <;> rfl

theorem readiness_of_accepted_sample : ∃ rows line lines, sampleMatrix = rows.map .dict ∧
    productionReadiness sampleHost sampleJoin rows = .ok (1, line :: lines) := by
  obtain ⟨rows, lines, hrows, hcode, hready, -⟩ := readiness_of_accepted sample_validated
  cases lines with
  | cons line lines => exact ⟨rows, line, lines, hrows, hcode⟩
  | nil => exact absurd ((hready.1 rfl).1 "rpi4" _ rfl) (by decide)

end SuderraOs.Build
