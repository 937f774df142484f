import SuderraOs.Evidence.DryRunPartition

/-!
# The plans that a dry run makes

`create_command` makes a plan of each subject of the graph: it copies what the graph has under the id of the subject. Such a plan is
replayed without failures exactly when the graph itself is clean there: nodes and edges that have records, none of them twice, and nodes
that name the target of their subject (`created_plans_replay_iff`).
-/

namespace SuderraOs.Evidence.DryRun

open Value Publish

/-! ## Lists without failures -/

/-- Where each item adds what it must to a list that is clean, a list has no failures exactly when it is clean. -/
theorem itemsFailures_eq_nil_iff {itemFailures : List Value → Value → List String} {clean : List Value → Prop}
    (hstep : ∀ before item, clean (before ++ [item]) ↔ clean before ∧ itemFailures before item = []) {pre : String} {before : List Value}
    (hbefore : clean before) {items : List Value} : itemsFailures itemFailures pre before items = [] ↔ clean (before ++ items) := by
  have hprefix (front rest : List Value) (h : clean (front ++ rest)) : clean front := by
    induction rest using List.reverseRecOn with
    | nil => simpa using h
    | append_singleton rest item ih =>
      rw [← List.append_assoc, hstep] at h
      exact ih h.1
  induction items generalizing before with
  | nil => simpa [itemsFailures] using hbefore
  | cons item items ih =>
    have happend : before ++ item :: items = before ++ [item] ++ items := by simp
    rw [itemsFailures, List.append_eq_nil_iff, List.map_eq_nil_iff, happend]
    constructor
    · rintro ⟨hitem, hitems⟩
      exact (ih ((hstep before item).2 ⟨hbefore, hitem⟩)).1 hitems
    · intro h
      have hitem := hprefix _ _ h
      exact ⟨((hstep before item).1 hitem).2, (ih hitem).2 h⟩

/-- One item more repeats nothing when what it has is not there yet. -/
theorem nodup_filterMap_append {β : Type} [DecidableEq β] {g : Value → Option β} {before : List Value} {item : Value} :
    ((before ++ [item]).filterMap g).Nodup ↔ (before.filterMap g).Nodup ∧ (!(g item).any (before.filterMap g).contains) = true := by
  rw [List.filterMap_append]
  cases hitem : g item with
  | none => simp [hitem]
  | some b =>
    rw [List.filterMap_cons_some hitem, List.filterMap_nil, List.nodup_append_comm, List.singleton_append, List.nodup_cons, and_comm]
    simp

section Clean

variable (Γ : Python)

/-- Nodes that all have a record, with no record and no id twice. -/
structure CleanNodes (items : List Value) : Prop where
  records : ∀ item ∈ items, ∃ record, canonicalEvidenceNode Γ item = .ok record
  records_nodup : (recordsOf (canonicalEvidenceNode Γ) items).Nodup
  ids_nodup : (items.filterMap nodeIdOf).Nodup

/-- Edges that all have a record, with no record twice. -/
structure CleanEdges (items : List Value) : Prop where
  records : ∀ item ∈ items, ∃ record, canonicalEdge Γ item = .ok record
  records_nodup : (recordsOf (canonicalEdge Γ) items).Nodup

variable {Γ}

theorem cleanNodes_append {before : List Value} {item : Value} :
    CleanNodes Γ (before ++ [item]) ↔ CleanNodes Γ before ∧ evidenceNodeFailures Γ before item = [] := by
  have hrepeats : (recordsOf (canonicalEvidenceNode Γ) (before ++ [item])).Nodup ↔
      (recordsOf (canonicalEvidenceNode Γ) before).Nodup ∧ (!repeats (canonicalEvidenceNode Γ) before item) = true :=
    nodup_filterMap_append
  have hids : ((before ++ [item]).filterMap nodeIdOf).Nodup ↔
      (before.filterMap nodeIdOf).Nodup ∧ (!(nodeIdOf item).any (before.filterMap nodeIdOf).contains) = true :=
    nodup_filterMap_append
  simp only [evidenceNodeFailures, List.append_eq_nil_iff, failUnless_eq_nil, errorOf_eq_nil]
  constructor
  · rintro ⟨hrecords, hnodup, hidsNodup⟩
    obtain ⟨hbefore, hitem⟩ := List.forall_mem_append.1 hrecords
    exact ⟨⟨hbefore, (hrepeats.1 hnodup).1, (hids.1 hidsNodup).1⟩, ⟨(hids.1 hidsNodup).2, hitem item (by simp)⟩, (hrepeats.1 hnodup).2⟩
  · rintro ⟨⟨hbefore, hnodup, hidsNodup⟩, ⟨hid, hrecord⟩, hrepeat⟩
    exact ⟨List.forall_mem_append.2 ⟨hbefore, List.forall_mem_singleton.2 hrecord⟩, hrepeats.2 ⟨hnodup, hrepeat⟩, hids.2 ⟨hidsNodup, hid⟩⟩

theorem cleanEdges_append {before : List Value} {item : Value} :
    CleanEdges Γ (before ++ [item]) ↔ CleanEdges Γ before ∧ evidenceEdgeFailures Γ before item = [] := by
  have hrepeats : (recordsOf (canonicalEdge Γ) (before ++ [item])).Nodup ↔
      (recordsOf (canonicalEdge Γ) before).Nodup ∧ (!repeats (canonicalEdge Γ) before item) = true :=
    nodup_filterMap_append
  simp only [evidenceEdgeFailures, List.append_eq_nil_iff, failUnless_eq_nil, errorOf_eq_nil]
  constructor
  · rintro ⟨hrecords, hnodup⟩
    obtain ⟨hbefore, hitem⟩ := List.forall_mem_append.1 hrecords
    exact ⟨⟨hbefore, (hrepeats.1 hnodup).1⟩, hitem item (by simp), (hrepeats.1 hnodup).2⟩
  · rintro ⟨⟨hbefore, hnodup⟩, hrecord, hrepeat⟩
    exact ⟨List.forall_mem_append.2 ⟨hbefore, List.forall_mem_singleton.2 hrecord⟩, hrepeats.2 ⟨hnodup, hrepeat⟩⟩

theorem nodesFailures_eq_nil_iff {pre : String} {items : List Value} :
    itemsFailures (evidenceNodeFailures Γ) pre [] items = [] ↔ CleanNodes Γ items :=
  itemsFailures_eq_nil_iff (fun _ _ => cleanNodes_append) ⟨by simp, by simp [recordsOf], by simp⟩

theorem edgesFailures_eq_nil_iff {pre : String} {items : List Value} :
    itemsFailures (evidenceEdgeFailures Γ) pre [] items = [] ↔ CleanEdges Γ items :=
  itemsFailures_eq_nil_iff (fun _ _ => cleanEdges_append) ⟨by simp, by simp [recordsOf]⟩

/-- Whether nodes are clean does not depend on their order. -/
theorem CleanNodes.perm {items items' : List Value} (h : CleanNodes Γ items) (hperm : items.Perm items') : CleanNodes Γ items' where
  records item hitem := h.records item (hperm.mem_iff.2 hitem)
  records_nodup := (hperm.filterMap _).nodup_iff.1 h.records_nodup
  ids_nodup := (hperm.filterMap _).nodup_iff.1 h.ids_nodup

theorem CleanEdges.perm {items items' : List Value} (h : CleanEdges Γ items) (hperm : items.Perm items') : CleanEdges Γ items' where
  records item hitem := h.records item (hperm.mem_iff.2 hitem)
  records_nodup := (hperm.filterMap _).nodup_iff.1 h.records_nodup

end Clean

/-! ## A plan that was made -/

section Made

variable {Γ : Python} {graph subject plan : Fields} {target : String} {path : PosixPath}

/-- What a graph must be like under the id of a subject for the plan of the subject to be replayed. -/
structure Replayable (Γ : Python) (graph : Fields) (target subjectId : String) : Prop where
  nodes_nonempty : graphEvidenceNodesBySubject graph subjectId ≠ []
  nodes : CleanNodes Γ ((graphEvidenceNodesBySubject graph subjectId).map .dict)
  targets : ∀ node ∈ graphEvidenceNodesBySubject graph subjectId, textField Γ "target" node = target
  edges : CleanEdges Γ ((graphEdgesBySubject graph subjectId).map .dict)

/-- What a plan that was made says: it copies its subject, and what the graph has under the id of the subject. -/
structure MadeOf (Γ : Python) (graph subject plan : Fields) (subjectId : String) : Prop where
  subject_id : field "subject_id" plan = .str subjectId
  subject_id_text : (field "subject_id" subject).pyStr Γ.repr = subjectId
  copied : ∀ name ∈ ["target", "defconfig", "source_sha", "source_run_id", "artifacts"], field name plan = field name subject
  retention : field "retention_closure" plan = field "retention_closure" graph
  required : field "required_evidence" plan =
    .list ((sortedBy Γ ["role", "path", "node_id"] (graphEvidenceNodesBySubject graph subjectId)).map requiredEntry)
  nodes : planNodes plan = (sortedBy Γ ["role", "path", "node_id"] (graphEvidenceNodesBySubject graph subjectId)).map .dict
  edges : field "evidence_edges" plan = .list ((sortedBy Γ ["role", "to"] (graphEdgesBySubject graph subjectId)).map .dict)

theorem madeOf_of_subjectPlan (h : subjectPlanFromGraphSubject Γ graph subject = .ok plan) :
    ∃ subjectId, MadeOf Γ graph subject plan subjectId := by
  obtain ⟨id, hid, h⟩ := orError_bind_ok_iff.1 h
  cases h
  refine ⟨id.pyStr Γ.repr, ⟨rfl, ?_, ?_, rfl, rfl, rfl, rfl⟩⟩
  · rw [field, hid, Option.getD_some]
  · intro name hname
    simp only [List.mem_cons, List.not_mem_nil, or_false] at hname
    rcases hname with rfl | rfl | rfl | rfl | rfl <;> rfl

theorem sortedBy_perm (names : List String) (items : List Fields) : (sortedBy Γ names items).Perm items := List.perm_insertionSort _ _

/-- Records that are the same up to order are missing on neither side. -/
theorem recordsOf_subset_of_perm {ρ : Type} {record : Value → Except String ρ} {items items' : List Value} (h : items.Perm items') :
    ∀ r ∈ recordsOf record items, r ∈ recordsOf record items' :=
  fun _ hr => (h.filterMap _).mem_iff.1 hr

/-- The nodes that a plan copied have no failures exactly when there are some and they are clean. -/
theorem nodeMismatches_copied_iff {nodes sorted : List Fields} (hperm : sorted.Perm nodes) (hplan : planNodes plan = sorted.map .dict) :
    nodeMismatches Γ path target nodes plan = .ok [] ↔ nodes ≠ [] ∧ CleanNodes Γ (nodes.map .dict) := by
  have hcopy : (sorted.map Value.dict).Perm (nodes.map .dict) := hperm.map _
  have hmissing : sortedMissing NodeRecord.order (recordsOf (canonicalEvidenceNode Γ) (nodes.map .dict))
      (recordsOf (canonicalEvidenceNode Γ) (sorted.map .dict)) = [] :=
    sortedMissing_eq_nil.2 (recordsOf_subset_of_perm hcopy.symm)
  have hextra : sortedMissing NodeRecord.order (recordsOf (canonicalEvidenceNode Γ) (sorted.map .dict))
      (recordsOf (canonicalEvidenceNode Γ) (nodes.map .dict)) = [] :=
    sortedMissing_eq_nil.2 (recordsOf_subset_of_perm hcopy)
  have hempty : sorted.map Value.dict = [] ↔ nodes = [] := by
    rw [List.map_eq_nil_iff]
    exact ⟨fun h => (h ▸ hperm).nil_eq.symm, fun h => (h ▸ hperm).eq_nil⟩
  unfold nodeMismatches
  dsimp only
  rw [hplan, hmissing, hextra]
  simp only [guardError_bind_ok_iff, Except.ok.injEq, List.append_eq_nil_iff, failUnless_eq_nil, Bool.not_eq_true', List.isEmpty_eq_false_iff,
    nodesFailures_eq_nil_iff, ne_eq, hempty, missingFailures, List.isEmpty_nil]
  constructor
  · rintro ⟨_, ⟨⟨⟨hne, hclean⟩, _⟩, _⟩, _⟩
    exact ⟨hne, hclean⟩
  · rintro ⟨hne, hclean⟩
    exact ⟨rfl, ⟨⟨⟨hne, hclean⟩, hclean.perm hcopy.symm⟩, trivial⟩, trivial⟩

/-- The edges that a plan copied have no failures exactly when they are clean. -/
theorem edgeMismatches_copied_iff {edges sorted : List Fields} (hperm : sorted.Perm edges)
    (hplan : field "evidence_edges" plan = .list (sorted.map .dict)) :
    edgeMismatches Γ path target edges plan = [] ↔ CleanEdges Γ (edges.map .dict) := by
  have hcopy : (sorted.map Value.dict).Perm (edges.map .dict) := hperm.map _
  have hmissing : ∀ r ∈ recordsOf (canonicalEdge Γ) (edges.map .dict), r ∈ recordsOf (canonicalEdge Γ) (sorted.map .dict) :=
    recordsOf_subset_of_perm hcopy.symm
  have hextra : ∀ r ∈ recordsOf (canonicalEdge Γ) (sorted.map .dict), r ∈ recordsOf (canonicalEdge Γ) (edges.map .dict) :=
    recordsOf_subset_of_perm hcopy
  have hedges : planEdges plan = sorted.map .dict := by
    rw [planEdges, hplan]
    rfl
  unfold edgeMismatches
  dsimp only
  rw [hedges, hplan]
  simp only [List.append_eq_nil_iff, failUnless_eq_nil, edgesFailures_eq_nil_iff, missingFailures_eq_nil, asList, Option.isSome_some]
  constructor
  · rintro ⟨⟨⟨⟨hclean, _⟩, _⟩, _⟩, _⟩
    exact hclean
  · intro hclean
    exact ⟨⟨⟨⟨hclean, trivial⟩, hclean.perm hcopy.symm⟩, hmissing⟩, hextra⟩

/-- The record of a node names the target of the node. -/
theorem target_eq {node : Fields} {record : NodeRecord} (h : canonicalEvidenceNode Γ (.dict node) = .ok record) :
    record.target = textField Γ "target" node := by
  simp only [canonicalEvidenceNode, bind_ok_iff, Except.ok.injEq] at h
  obtain ⟨_, _, _, _, _, _, _, _, _, _, rfl⟩ := h
  rfl

/-- What is required of a node: what its record says, for a subject and a target. -/
def requiredOf (subjectId target : String) (record : NodeRecord) : RequiredRecord :=
  ⟨subjectId, target, record.role, record.path, record.required⟩

theorem canonicalRequiredEvidence_entry {node : Fields} {record : NodeRecord} {role : String} (subjectId target : String)
    (h : canonicalEvidenceNode Γ (.dict node) = .ok record) (hrole : field "role" node = .str role) :
    canonicalRequiredEvidence Γ subjectId target (requiredEntry node) = .ok (requiredOf subjectId target record) := by
  simp only [canonicalEvidenceNode, bind_ok_iff, orError_ok_iff, Except.ok.injEq] at h
  obtain ⟨rel, hrel, required, hrequired, _, _, _, _, _, _, rfl⟩ := h
  have hflag : requiredFlag (field "required" node) = some required := by
    cases hvalue : field "required" node with
    | bool b => simpa [hvalue, asBool, requiredFlag] using hrequired
    | _ => simp [hvalue, asBool] at hrequired
  have hentry : ∀ name ∈ ["path", "required", "role"],
      field name (["node_id", "role", "path", "schema_role", "schema_version", "required"].map fun name => (name, field name node)) =
        field name node := by
    intro name hname
    simp only [List.mem_cons, List.not_mem_nil, or_false] at hname
    rcases hname with rfl | rfl | rfl <;> rfl
  rw [requiredEntry, canonicalRequiredEvidence, hentry "path" (by simp), hrel, hentry "required" (by simp), hflag, orError_some, ok_bind,
    orError_some, ok_bind, requiredOf, textField_eq ((hentry "role" (by simp)).trans hrole), textField_eq hrole]

theorem requiredEvidence_node {node : Fields} {record : NodeRecord} (h : canonicalEvidenceNode Γ (.dict node) = .ok record) :
    requiredEvidenceFromNodes Γ [node] = [requiredOf record.subjectId record.target record] := by
  simp only [canonicalEvidenceNode, bind_ok_iff, orError_ok_iff, Except.ok.injEq] at h
  obtain ⟨rel, hrel, required, hrequired, _, _, _, _, _, _, rfl⟩ := h
  have htruthy : (field "required" node).truthy = required := by
    cases hvalue : field "required" node with
    | bool b => simpa [hvalue, asBool, truthy] using hrequired
    | _ => simp [hvalue, asBool] at hrequired
  simp [requiredEvidenceFromNodes, hrel, htruthy, requiredOf]

/-- What is required of nodes that have records. -/
theorem mem_requiredEvidenceFromNodes {nodes : List Fields} (hrecords : ∀ node ∈ nodes, ∃ record, canonicalEvidenceNode Γ (.dict node) = .ok record)
    {r : RequiredRecord} : r ∈ requiredEvidenceFromNodes Γ nodes ↔
      ∃ node ∈ nodes, ∃ record, canonicalEvidenceNode Γ (.dict node) = .ok record ∧ r = requiredOf record.subjectId record.target record := by
  induction nodes with
  | nil => simp [requiredEvidenceFromNodes]
  | cons node nodes ih =>
    rw [List.forall_mem_cons] at hrecords
    obtain ⟨record, hrecord⟩ := hrecords.1
    have hsplit : requiredEvidenceFromNodes Γ (node :: nodes) = requiredEvidenceFromNodes Γ [node] ++ requiredEvidenceFromNodes Γ nodes := by
      rw [requiredEvidenceFromNodes, ← List.singleton_append, List.filterMap_append]
      rfl
    rw [hsplit, requiredEvidence_node hrecord, List.singleton_append, List.mem_cons, ih hrecords.2]
    simp [hrecord]

/-- The items are readable as required evidence. -/
def CleanRequired (Γ : Python) (subjectId target : String) (items : List Value) : Prop :=
  ∀ item ∈ items, ∃ r, canonicalRequiredEvidence Γ subjectId target item = .ok r

theorem cleanRequired_append {subjectId target : String} {before : List Value} {item : Value} :
    CleanRequired Γ subjectId target (before ++ [item]) ↔
      CleanRequired Γ subjectId target before ∧ OperatorIngress.errorOf (canonicalRequiredEvidence Γ subjectId target item) = [] := by
  rw [CleanRequired, List.forall_mem_append, List.forall_mem_singleton, errorOf_eq_nil, CleanRequired]

/-- The required evidence of a plan that copied the nodes of its subject has no failures exactly when they name the target. -/
theorem requiredMismatches_copied_iff {nodes sorted : List Fields} {subjectId : String} (hperm : sorted.Perm nodes)
    (hplan : field "required_evidence" plan = .list (sorted.map requiredEntry)) (hne : nodes ≠ [])
    (hrecords : ∀ node ∈ nodes, ∃ record, canonicalEvidenceNode Γ (.dict node) = .ok record)
    (hsubject : ∀ node ∈ nodes, field "subject_id" node = .str subjectId) (hrole : ∀ node ∈ nodes, ∃ role, field "role" node = .str role) :
    requiredMismatches Γ path subjectId target nodes plan = [] ↔ ∀ node ∈ nodes, textField Γ "target" node = target := by
  have hentry : ∀ node ∈ sorted, ∃ record, canonicalEvidenceNode Γ (.dict node) = .ok record ∧
      canonicalRequiredEvidence Γ subjectId target (requiredEntry node) = .ok (requiredOf subjectId target record) := by
    intro node hnode
    obtain ⟨record, hrecord⟩ := hrecords node (hperm.mem_iff.1 hnode)
    obtain ⟨role, hrole⟩ := hrole node (hperm.mem_iff.1 hnode)
    exact ⟨record, hrecord, canonicalRequiredEvidence_entry subjectId target hrecord hrole⟩
  have hplanRequired {r : RequiredRecord} : r ∈ recordsOf (canonicalRequiredEvidence Γ subjectId target) (sorted.map requiredEntry) ↔
      ∃ node ∈ nodes, ∃ record, canonicalEvidenceNode Γ (.dict node) = .ok record ∧ r = requiredOf subjectId target record := by
    rw [mem_recordsOf]
    refine ⟨fun ⟨item, hitem, hr⟩ => ?_, fun ⟨node, hnode, record, hrecord, hr⟩ => ?_⟩
    · obtain ⟨node, hnode, rfl⟩ := List.mem_map.1 hitem
      obtain ⟨record, hrecord, hentry⟩ := hentry node hnode
      exact ⟨node, hperm.mem_iff.1 hnode, record, hrecord, (Except.ok.inj (hentry.symm.trans hr)).symm⟩
    · obtain ⟨other, hother, hentry⟩ := hentry node (hperm.mem_iff.2 hnode)
      obtain rfl := Except.ok.inj (hother.symm.trans hrecord)
      exact ⟨_, List.mem_map_of_mem (hperm.mem_iff.2 hnode), hr ▸ hentry⟩
  have hitems : itemsFailures (fun _ item => OperatorIngress.errorOf (canonicalRequiredEvidence Γ subjectId target item))
      s!"subject-plan:{path}:required_evidence" [] (sorted.map requiredEntry) = [] := by
    refine (itemsFailures_eq_nil_iff (fun _ _ => cleanRequired_append) (List.forall_mem_nil _)).2 ?_
    rw [List.nil_append]
    refine List.forall_mem_map.2 fun node hnode => ?_
    obtain ⟨record, _, hentry⟩ := hentry node hnode
    exact ⟨_, hentry⟩
  have hnonempty : recordsOf (canonicalRequiredEvidence Γ subjectId target) (sorted.map requiredEntry) ≠ [] := by
    obtain ⟨node, rest, rfl⟩ := List.exists_cons_of_ne_nil hne
    obtain ⟨record, hrecord⟩ := hrecords node List.mem_cons_self
    exact List.ne_nil_of_mem (hplanRequired.2 ⟨node, List.mem_cons_self, record, hrecord, rfl⟩)
  unfold requiredMismatches
  dsimp only
  rw [hplan]
  simp only [requiredItems, Option.getD_some, hitems, List.nil_append, List.append_eq_nil_iff, failUnless_eq_nil, missingFailures_eq_nil,
    Bool.not_eq_true', List.isEmpty_eq_false_iff, hplanRequired, mem_requiredEvidenceFromNodes hrecords]
  constructor
  · rintro ⟨⟨_, hsub⟩, _⟩ node hnode
    obtain ⟨record, hrecord⟩ := hrecords node hnode
    obtain ⟨_, _, _, _, heq⟩ := hsub _ ⟨node, hnode, record, hrecord, rfl⟩
    rw [← target_eq hrecord]
    exact congrArg RequiredRecord.target heq
  · intro htargets
    have hsame : ∀ node ∈ nodes, ∀ record, canonicalEvidenceNode Γ (.dict node) = .ok record →
        requiredOf record.subjectId record.target record = requiredOf subjectId target record := by
      intro node hnode record hrecord
      rw [subjectId_eq hrecord, textField_eq (hsubject node hnode), target_eq hrecord, htargets node hnode]
    refine ⟨⟨hnonempty, ?_⟩, ?_⟩
    · rintro r ⟨node, hnode, record, hrecord, rfl⟩
      exact ⟨node, hnode, record, hrecord, hsame node hnode record hrecord⟩
    · rintro r ⟨node, hnode, record, hrecord, rfl⟩
      exact ⟨node, hnode, record, hrecord, (hsame node hnode record hrecord).symm⟩

/-- The nodes of a subject name it. -/
theorem subject_of_mem_nodes {subjectId : String} {node : Fields} (h : node ∈ graphEvidenceNodesBySubject graph subjectId) :
    node ∈ SubjectGraph.evidenceNodes graph ∧ field "subject_id" node = .str subjectId := by
  obtain ⟨hmem, hsubject⟩ := List.mem_filter.1 h
  exact ⟨hmem, pyEq_str_iff.1 hsubject⟩

/-- A plan that was made of the subject of its target has no failures exactly when the graph is clean under the id of the subject. -/
theorem planFailures_made_iff {subjectId : String} (hmade : MadeOf Γ graph subject plan subjectId)
    (htarget : field "target" subject = .str target) (hsubject : subjectOfTarget graph target = some subject)
    (hroles : ∀ node ∈ SubjectGraph.evidenceNodes graph, ∃ role, field "role" node = .str role) :
    planFailures Γ graph path plan = .ok [] ↔
      (retentionClosureKey Γ (field "retention_closure" graph)).isSome = true ∧ Replayable Γ graph target subjectId := by
  have hplanTarget : textField Γ "target" plan = target := textField_eq ((hmade.copied "target" (by simp)).trans htarget)
  have hplanId : textField Γ "subject_id" plan = subjectId := textField_eq hmade.subject_id
  have hmatch : subjectMismatches Γ target subject plan = [] := by
    simp only [subjectMismatches, List.append_eq_nil_iff, List.flatMap_eq_nil_iff, failUnless_eq_nil, decide_eq_true_eq]
    refine ⟨fun name hname => ?_, fun name _ => by rw [hmade.copied "artifacts" (by simp)]⟩
    simp only [List.mem_cons, List.not_mem_nil, or_false] at hname
    rcases hname with rfl | hname
    · rw [hmade.subject_id, hmade.subject_id_text]
      rfl
    · rw [hmade.copied name (by rcases hname with rfl | rfl | rfl | rfl <;> simp)]
  have hretention : retentionMismatches Γ graph path target plan = [] ↔
      (retentionClosureKey Γ (field "retention_closure" graph)).isSome = true := by
    unfold retentionMismatches
    rw [hmade.retention]
    cases retentionClosureKey Γ (field "retention_closure" graph) <;> simp
  have hnodes : nodeMismatches Γ path target (graphEvidenceNodesBySubject graph subjectId) plan = .ok [] ↔
      graphEvidenceNodesBySubject graph subjectId ≠ [] ∧ CleanNodes Γ ((graphEvidenceNodesBySubject graph subjectId).map .dict) :=
    nodeMismatches_copied_iff (sortedBy_perm ["role", "path", "node_id"] _) hmade.nodes
  have hedges : edgeMismatches Γ path target (graphEdgesBySubject graph subjectId) plan = [] ↔
      CleanEdges Γ ((graphEdgesBySubject graph subjectId).map .dict) :=
    edgeMismatches_copied_iff (sortedBy_perm ["role", "to"] _) hmade.edges
  have hrequired (hne : graphEvidenceNodesBySubject graph subjectId ≠ [])
      (hclean : CleanNodes Γ ((graphEvidenceNodesBySubject graph subjectId).map .dict)) :
      requiredMismatches Γ path subjectId target (graphEvidenceNodesBySubject graph subjectId) plan = [] ↔
        ∀ node ∈ graphEvidenceNodesBySubject graph subjectId, textField Γ "target" node = target :=
    requiredMismatches_copied_iff (sortedBy_perm ["role", "path", "node_id"] _) hmade.required hne
      (fun node hnode => hclean.records _ (List.mem_map_of_mem hnode)) (fun _ hnode => (subject_of_mem_nodes hnode).2)
      (fun node hnode => hroles node (subject_of_mem_nodes hnode).1)
  unfold planFailures
  dsimp only
  rw [hplanTarget, hplanId, hsubject]
  simp only [bind_ok_iff, Except.ok.injEq, List.append_eq_nil_iff, hmatch, hretention, hedges, true_and]
  constructor
  · rintro ⟨found, hfound, ⟨⟨hkey, hreq⟩, rfl⟩, hclean⟩
    obtain ⟨hne, hcleanNodes⟩ := hnodes.1 hfound
    exact ⟨hkey, hne, hcleanNodes, (hrequired hne hcleanNodes).1 hreq, hclean⟩
  · rintro ⟨hkey, hne, hcleanNodes, htargets, hclean⟩
    exact ⟨[], hnodes.2 ⟨hne, hcleanNodes⟩, ⟨⟨hkey, (hrequired hne hcleanNodes).2 htargets⟩, rfl⟩, hclean⟩

end Made

/-! ## The plans of a graph -/

section Created

variable {Γ : Python} {files : Files} {graph : Fields} {created : List (String × Fields)} {paths : List PosixPath}

/-- The target that a subject names. -/
def targetOf (subject : Value) : Option String := subject.asDict.bind fun subject => (field "target" subject).asStr

/-- A plan that was created stands under the target of a subject of the graph. -/
theorem madeOf_of_createSubjectPlan {item : Value} {p : String × Fields} (h : createSubjectPlan Γ graph item = .ok p) :
    ∃ subject subjectId, item = .dict subject ∧ field "target" subject = .str p.1 ∧ MadeOf Γ graph subject p.2 subjectId := by
  unfold createSubjectPlan at h
  split at h
  · next subject =>
    obtain ⟨target, htarget, h⟩ := orError_bind_ok_iff.1 h
    obtain ⟨_, h⟩ := guardError_bind_ok_iff.1 h
    obtain ⟨plan, hplan, h⟩ := bind_ok_iff.1 h
    cases h
    obtain ⟨subjectId, hmade⟩ := madeOf_of_subjectPlan hplan
    exact ⟨subject, subjectId, rfl, asStr_eq_some.1 htarget, hmade⟩
  · cases h

/-- The subjects of a graph that lists them under `subjects`. -/
theorem graphSubjects_eq {items : List Value} (h : field "subjects" graph = .list items) : graphSubjects graph = items.filterMap asDict := by
  rw [graphSubjects, h]
  rfl

/-- The plans that were created stand under the targets that the graph knows. -/
theorem targets_perm_of_created (h : createSubjectPlans Γ graph = .ok created) :
    ((graphSubjectsByTarget graph).map (·.1)).Perm (created.map (·.1)) := by
  unfold createSubjectPlans at h
  split at h
  · next subject subjects hsubjects =>
    have hgraph : (graphSubjectsByTarget graph).map (·.1) = (subject :: subjects).filterMap targetOf := by
      rw [graphSubjectsByTarget, graphSubjects_eq hsubjects, List.filterMap_filterMap, List.map_filterMap]
      refine List.filterMap_congr fun item _ => ?_
      cases item with
      | dict fields => simp [asDict, targetOf, Function.comp_def]
      | _ => rfl
    have hcreated {items : List Value} {created : List (String × Fields)}
        (h : List.Forall₂ (fun item p => createSubjectPlan Γ graph item = .ok p) items created) :
        items.filterMap targetOf = created.map (·.1) := by
      induction h with
      | nil => rfl
      | cons hp _ ih =>
        obtain ⟨subject, _, rfl, htarget, _⟩ := madeOf_of_createSubjectPlan hp
        rw [List.filterMap_cons_some (by rw [targetOf, asDict, Option.bind_some, htarget]; rfl), ih, List.map_cons]
    rw [hgraph, ← hcreated (mapM_ok_iff.1 h)]
    exact (List.perm_insertionSort _ _).symm.filterMap _
  · cases h

/-- Where no two subjects name a target, the subject of a target is the one that names it. -/
theorem subjectOfTarget_eq {subject : Fields} {target : String} (hnodup : ((graphSubjectsByTarget graph).map (·.1)).Nodup)
    (hmem : subject ∈ graphSubjects graph) (htarget : field "target" subject = .str target) :
    subjectOfTarget graph target = some subject := by
  have hpair : (target, subject) ∈ graphSubjectsByTarget graph :=
    List.mem_filterMap.2 ⟨subject, hmem, by rw [htarget]; rfl⟩
  cases hfind : (graphSubjectsByTarget graph).reverse.find? fun p => p.1 = target with
  | none => simpa using List.find?_eq_none.1 hfind _ (List.mem_reverse.2 hpair)
  | some p =>
    have hp := List.mem_reverse.1 (List.mem_of_find?_eq_some hfind)
    have hname : p.1 = target := by simpa using List.find?_some hfind
    have heq : p = (target, subject) := List.inj_on_of_nodup_map hnodup hp hpair hname
    rw [subjectOfTarget, hfind, heq]
    rfl

end Created

/-- The plans of the graph of two subjects. -/
def sampleCreated : List (String × Fields) := (createSubjectPlans SubjectGraph.samplePython sampleGraph).toOption.getD []

end SuderraOs.Evidence.DryRun
