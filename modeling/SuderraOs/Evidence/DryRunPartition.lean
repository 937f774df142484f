import SuderraOs.Evidence.DryRun
import SuderraOs.Lib.Partition

/-!
# The plans of an accepted dry run and the graph

Plan by plan, an accepted dry run compares what a plan lists with what the graph has under the id of its subject. The targets of the
plans and of the subjects are compared as sets, and what belongs to no subject is compared with nothing. So the plans share the graph
out when plans and subjects differ from each other and everything belongs to a subject, and only then (`shares_graph_iff`).
-/

namespace SuderraOs.Evidence.DryRun

open Value Publish

/-! ## What the plans share out -/

section Spec

variable (Γ : Python)

/-- What a subject and its plan have in common: the target and the id of the subject. -/
def subjectKey (document : Fields) : String × String :=
  ((field "target" document).pyStr Γ.repr, (field "subject_id" document).pyStr Γ.repr)

/-- A node of evidence that names its subject, with its record. -/
def IsNode (node : Fields) (record : NodeRecord) : Prop :=
  ∃ subjectId, field "subject_id" node = .str subjectId ∧ canonicalEvidenceNode Γ (.dict node) = .ok record

/-- An edge that names the subject it starts from, with its record. -/
def IsEdge (edge : Fields) (record : EvidenceEdge) : Prop :=
  ∃ subjectId, field "from" edge = .str subjectId ∧ canonicalEdge Γ (.dict edge) = .ok record

def GraphHasNode (graph : Fields) (record : NodeRecord) : Prop := ∃ node ∈ SubjectGraph.evidenceNodes graph, IsNode Γ node record

def GraphHasEdge (graph : Fields) (record : EvidenceEdge) : Prop := ∃ edge ∈ graphEdges graph, IsEdge Γ edge record

def PlanHasNode (plan : Fields) (record : NodeRecord) : Prop := ∃ item ∈ planNodes plan, canonicalEvidenceNode Γ item = .ok record

def PlanHasEdge (plan : Fields) (record : EvidenceEdge) : Prop := ∃ item ∈ planEdges plan, canonicalEdge Γ item = .ok record

/-- The plans share a graph out: one plan for each subject, each node and each edge in one plan, and nothing else in a plan. -/
structure Partition (graph : Fields) (plans : List Fields) : Prop where
  matched : (plans.map (subjectKey Γ)).Perm ((graphSubjects graph).map (subjectKey Γ))
  targets_nodup : (plans.map fun plan => (subjectKey Γ plan).1).Nodup
  nodes : ∀ node ∈ SubjectGraph.evidenceNodes graph, ∃ record, IsNode Γ node record ∧ OneOf (PlanHasNode Γ · record) plans
  edges : ∀ edge ∈ graphEdges graph, ∃ record, IsEdge Γ edge record ∧ OneOf (PlanHasEdge Γ · record) plans
  nodes_known : ∀ plan ∈ plans, ∀ item ∈ planNodes plan, ∃ record, canonicalEvidenceNode Γ item = .ok record ∧ GraphHasNode Γ graph record
  edges_known : ∀ plan ∈ plans, ∀ item ∈ planEdges plan, ∃ record, canonicalEdge Γ item = .ok record ∧ GraphHasEdge Γ graph record

/-- Plans and subjects differ from each other, and each node and each edge names a subject of the graph. -/
structure Separate (graph : Fields) (plans : List Fields) : Prop where
  plan_targets : (plans.map fun plan => (subjectKey Γ plan).1).Nodup
  subjects_named : ∀ subject ∈ graphSubjects graph, ∃ target, field "target" subject = .str target
  subject_targets : ((graphSubjects graph).map fun subject => (subjectKey Γ subject).1).Nodup
  subject_ids : ((graphSubjects graph).map fun subject => (subjectKey Γ subject).2).Nodup
  nodes_owned : ∀ node ∈ SubjectGraph.evidenceNodes graph, ∃ subject ∈ graphSubjects graph,
    field "subject_id" node = .str (subjectKey Γ subject).2
  edges_owned : ∀ edge ∈ graphEdges graph, ∃ subject ∈ graphSubjects graph, field "from" edge = .str (subjectKey Γ subject).2

variable (T : FileTree) (A : Invocation)

/-- The subject plans of a bundle are these objects. -/
def PlansAre (manifest : Fields) (plans : List Fields) : Prop :=
  (memberPaths Γ T A manifest "subject-plan").map (readJsonFile Γ (OperatorIngress.treeFiles T)) = plans.map fun plan => some (.dict plan)

end Spec

/-! ## What a plan without failures says -/

section Sets

variable {ρ : Type} {record : Value → Except String ρ} {items : List Value}

theorem mem_recordsOf {r : ρ} : r ∈ recordsOf record items ↔ ∃ item ∈ items, record item = .ok r := by
  rw [recordsOf, List.mem_filterMap]
  refine exists_congr fun item => and_congr_right fun _ => ?_
  cases record item <;> simp [Except.toOption]

theorem sortedMissing_eq_nil [DecidableEq ρ] {order : ρ → ρ → Ordering} {a b : List ρ} :
    sortedMissing order a b = [] ↔ ∀ r ∈ a, r ∈ b := by
  rw [sortedMissing, sortedSet, ← List.length_eq_zero_iff, List.length_insertionSort, List.length_eq_zero_iff, List.dedup_eq_nil,
    List.filter_eq_nil_iff]
  simp

theorem missingFailures_eq_nil [DecidableEq ρ] {message : String} {label : ρ → String} {order : ρ → ρ → Ordering} {a b : List ρ} :
    missingFailures message label (sortedMissing order a b) = [] ↔ ∀ r ∈ a, r ∈ b := by
  rw [missingFailures, failUnless_eq_nil, List.isEmpty_iff, sortedMissing_eq_nil]

/-- Two sets without missing records on either side are the same. -/
theorem mem_recordsOf_iff {items' : List Value} (hsub : ∀ r ∈ recordsOf record items, r ∈ recordsOf record items')
    (hsup : ∀ r ∈ recordsOf record items', r ∈ recordsOf record items) (r : ρ) :
    (∃ item ∈ items', record item = .ok r) ↔ ∃ item ∈ items, record item = .ok r := by
  rw [← mem_recordsOf, ← mem_recordsOf]
  exact ⟨hsup r, hsub r⟩

theorem errorOf_eq_nil {α : Type} {x : Except String α} : OperatorIngress.errorOf x = [] ↔ ∃ a, x = .ok a := by
  cases x <;> simp [OperatorIngress.errorOf]

/-- Where a list has no failures, each of its items has none. -/
theorem itemsFailures_eq_nil {itemFailures : List Value → Value → List String} {pre : String} {before : List Value}
    (h : itemsFailures itemFailures pre before items = []) : ∀ item ∈ items, ∃ before, itemFailures before item = [] := by
  induction items generalizing before with
  | nil => simp
  | cons item items ih =>
    rw [itemsFailures, List.append_eq_nil_iff, List.map_eq_nil_iff] at h
    exact List.forall_mem_cons.2 ⟨⟨before, h.1⟩, ih h.2⟩

end Sets

section Plans

variable {Γ : Python} {graph plan : Fields}

/-- What a replay without failures says of a plan. -/
structure Replayed (Γ : Python) (graph plan : Fields) : Prop where
  subject : ∃ subject, subjectOfTarget graph (textField Γ "target" plan) = some subject ∧ subjectKey Γ subject = subjectKey Γ plan
  nodes_nonempty : planNodes plan ≠ []
  node_records : ∀ item ∈ planNodes plan, ∃ record, canonicalEvidenceNode Γ item = .ok record
  graph_node_records : ∀ node ∈ graphEvidenceNodesBySubject graph (textField Γ "subject_id" plan),
    ∃ record, canonicalEvidenceNode Γ (.dict node) = .ok record
  nodes : ∀ record, PlanHasNode Γ plan record ↔
    ∃ node ∈ graphEvidenceNodesBySubject graph (textField Γ "subject_id" plan), canonicalEvidenceNode Γ (.dict node) = .ok record
  edge_records : ∀ item ∈ planEdges plan, ∃ record, canonicalEdge Γ item = .ok record
  graph_edge_records : ∀ edge ∈ graphEdgesBySubject graph (textField Γ "subject_id" plan),
    ∃ record, canonicalEdge Γ (.dict edge) = .ok record
  edges : ∀ record, PlanHasEdge Γ plan record ↔
    ∃ edge ∈ graphEdgesBySubject graph (textField Γ "subject_id" plan), canonicalEdge Γ (.dict edge) = .ok record

/-- A set of objects has the records of its objects. -/
theorem exists_mem_map_dict {objects : List Fields} {p : Value → Prop} :
    (∃ item ∈ objects.map Value.dict, p item) ↔ ∃ object ∈ objects, p (.dict object) := by
  simp

theorem nodes_of_nodeMismatches {path : PosixPath} {target : String} {graphNodes : List Fields}
    (h : nodeMismatches Γ path target graphNodes plan = .ok []) :
    planNodes plan ≠ [] ∧ (∀ item ∈ planNodes plan, ∃ record, canonicalEvidenceNode Γ item = .ok record) ∧
      (∀ node ∈ graphNodes, ∃ record, canonicalEvidenceNode Γ (.dict node) = .ok record) ∧
      ∀ record, PlanHasNode Γ plan record ↔ ∃ node ∈ graphNodes, canonicalEvidenceNode Γ (.dict node) = .ok record := by
  have hrecord {pre : String} {items : List Value} (hitems : itemsFailures (evidenceNodeFailures Γ) pre [] items = []) :
      ∀ item ∈ items, ∃ record, canonicalEvidenceNode Γ item = .ok record := by
    intro item hitem
    obtain ⟨before, hbefore⟩ := itemsFailures_eq_nil hitems item hitem
    simp only [evidenceNodeFailures, List.append_eq_nil_iff] at hbefore
    exact errorOf_eq_nil.1 hbefore.1.2
  obtain ⟨_, h⟩ := guardError_bind_ok_iff.1 h
  simp only [Except.ok.injEq, List.append_eq_nil_iff, failUnless_eq_nil, missingFailures_eq_nil, Bool.not_eq_true',
    List.isEmpty_eq_false_iff] at h
  obtain ⟨⟨⟨⟨hne, hgraph⟩, hplan⟩, hmissing⟩, hextra⟩ := h
  refine ⟨hne, hrecord hplan, fun node hnode => hrecord hgraph _ (List.mem_map_of_mem hnode), fun record => ?_⟩
  rw [PlanHasNode, mem_recordsOf_iff hmissing hextra, exists_mem_map_dict]

theorem edges_of_edgeMismatches {path : PosixPath} {target : String} {edges : List Fields}
    (h : edgeMismatches Γ path target edges plan = []) :
    (∀ item ∈ planEdges plan, ∃ record, canonicalEdge Γ item = .ok record) ∧
      (∀ edge ∈ edges, ∃ record, canonicalEdge Γ (.dict edge) = .ok record) ∧
      ∀ record, PlanHasEdge Γ plan record ↔ ∃ edge ∈ edges, canonicalEdge Γ (.dict edge) = .ok record := by
  have hrecord {pre : String} {items : List Value} (hitems : itemsFailures (evidenceEdgeFailures Γ) pre [] items = []) :
      ∀ item ∈ items, ∃ record, canonicalEdge Γ item = .ok record := by
    intro item hitem
    obtain ⟨before, hbefore⟩ := itemsFailures_eq_nil hitems item hitem
    simp only [evidenceEdgeFailures, List.append_eq_nil_iff] at hbefore
    exact errorOf_eq_nil.1 hbefore.1
  simp only [edgeMismatches, List.append_eq_nil_iff, missingFailures_eq_nil] at h
  obtain ⟨⟨⟨⟨hgraph, _⟩, hplan⟩, hmissing⟩, hextra⟩ := h
  refine ⟨hrecord hplan, fun edge hedge => hrecord hgraph _ (List.mem_map_of_mem hedge), fun record => ?_⟩
  rw [PlanHasEdge, mem_recordsOf_iff hmissing hextra, exists_mem_map_dict]

/-- A plan without failures is replayed. -/
theorem replayed_of_planFailures {path : PosixPath} (h : planFailures Γ graph path plan = .ok []) : Replayed Γ graph plan := by
  unfold planFailures at h
  dsimp only at h
  split at h
  · cases h
  · next subject hsubject =>
    obtain ⟨nodes, hnodes, h⟩ := bind_ok_iff.1 h
    simp only [Except.ok.injEq, List.append_eq_nil_iff] at h
    obtain ⟨⟨⟨⟨hmatch, _⟩, _⟩, rfl⟩, hedges⟩ := h
    obtain ⟨hne, hitems, hgraph, hset⟩ := nodes_of_nodeMismatches hnodes
    obtain ⟨heitems, hegraph, heset⟩ := edges_of_edgeMismatches hedges
    refine ⟨⟨subject, hsubject, ?_⟩, hne, hitems, hgraph, hset, heitems, hegraph, heset⟩
    simp only [subjectMismatches, List.append_eq_nil_iff, List.flatMap_eq_nil_iff, failUnless_eq_nil, decide_eq_true_eq] at hmatch
    exact Prod.ext (hmatch.1 "target" (by simp)) (hmatch.1 "subject_id" (by simp))

/-! ## What belongs to a subject -/

theorem pyStr_eq {Γ : Python} {name s : String} {fields : Fields} (h : field name fields = .str s) :
    (field name fields).pyStr Γ.repr = s := by
  rw [h]
  rfl

/-- The record of a node names the subject of the node. -/
theorem subjectId_eq {node : Fields} {record : NodeRecord} (h : canonicalEvidenceNode Γ (.dict node) = .ok record) :
    record.subjectId = textField Γ "subject_id" node := by
  simp only [canonicalEvidenceNode, bind_ok_iff, Except.ok.injEq] at h
  obtain ⟨_, _, _, _, _, _, _, _, _, _, rfl⟩ := h
  rfl

/-- The record of an edge names the subject that the edge starts from. -/
theorem source_eq {edge : Fields} {record : EvidenceEdge} (h : canonicalEdge Γ (.dict edge) = .ok record) :
    record.source = textField Γ "from" edge := by
  unfold canonicalEdge at h
  dsimp only at h
  split_ifs at h
  cases h
  rfl

/-- A replayed plan has the nodes that its subject owns. -/
theorem Replayed.owns_nodes (h : Replayed Γ graph plan) (record : NodeRecord) :
    PlanHasNode Γ plan record ↔ GraphHasNode Γ graph record ∧ record.subjectId = textField Γ "subject_id" plan := by
  rw [h.nodes]
  constructor
  · rintro ⟨node, hnode, hrecord⟩
    obtain ⟨hmem, hsubject⟩ := List.mem_filter.1 hnode
    rw [pyEq_str_iff] at hsubject
    exact ⟨⟨node, hmem, _, hsubject, hrecord⟩, (subjectId_eq hrecord).trans (textField_eq hsubject)⟩
  · rintro ⟨⟨node, hmem, subjectId, hsubject, hrecord⟩, howner⟩
    rw [subjectId_eq hrecord, textField_eq hsubject] at howner
    exact ⟨node, List.mem_filter.2 ⟨hmem, by rw [pyEq_str_iff, hsubject, howner]⟩, hrecord⟩

/-- A replayed plan has the edges that start from its subject. -/
theorem Replayed.owns_edges (h : Replayed Γ graph plan) (record : EvidenceEdge) :
    PlanHasEdge Γ plan record ↔ GraphHasEdge Γ graph record ∧ record.source = textField Γ "subject_id" plan := by
  rw [h.edges]
  constructor
  · rintro ⟨edge, hedge, hrecord⟩
    obtain ⟨hmem, hsource⟩ := List.mem_filter.1 hedge
    rw [pyEq_str_iff] at hsource
    exact ⟨⟨edge, hmem, _, hsource, hrecord⟩, (source_eq hrecord).trans (textField_eq hsource)⟩
  · rintro ⟨⟨edge, hmem, subjectId, hsource, hrecord⟩, howner⟩
    rw [source_eq hrecord, textField_eq hsource] at howner
    exact ⟨edge, List.mem_filter.2 ⟨hmem, by rw [pyEq_str_iff, hsource, howner]⟩, hrecord⟩

/-- Each plan holds a node. -/
theorem Replayed.exists_node (h : Replayed Γ graph plan) : ∃ record, PlanHasNode Γ plan record := by
  obtain ⟨item, items, hitems⟩ := List.exists_cons_of_ne_nil h.nodes_nonempty
  have hmem : item ∈ planNodes plan := hitems ▸ List.mem_cons_self
  obtain ⟨record, hrecord⟩ := h.node_records item hmem
  exact ⟨record, item, hmem, hrecord⟩

/-- The subject of a target is one of the graph, which names the target. -/
theorem mem_of_subjectOfTarget {target : String} {subject : Fields} (h : subjectOfTarget graph target = some subject) :
    subject ∈ graphSubjects graph ∧ field "target" subject = .str target := by
  obtain ⟨p, hp, rfl⟩ := Option.map_eq_some_iff.1 h
  have htarget : p.1 = target := by simpa using List.find?_some hp
  obtain ⟨other, hmem, hother⟩ := List.mem_filterMap.1 (List.mem_reverse.1 (List.mem_of_find?_eq_some hp))
  obtain ⟨t, ht, rfl⟩ := Option.map_eq_some_iff.1 hother
  exact ⟨hmem, by rw [asStr_eq_some.1 ht, ← htarget]⟩

/-- A target is known where a subject names it. -/
theorem mem_graphTargets {target : String} :
    target ∈ (graphSubjectsByTarget graph).map (·.1) ↔ ∃ subject ∈ graphSubjects graph, field "target" subject = .str target := by
  simp only [graphSubjectsByTarget, List.mem_map, List.mem_filterMap, Option.map_eq_some_iff, asStr_eq_some]
  constructor
  · rintro ⟨_, ⟨subject, hmem, t, ht, rfl⟩, rfl⟩
    exact ⟨subject, hmem, ht⟩
  · rintro ⟨subject, hmem, htarget⟩
    exact ⟨(target, subject), ⟨subject, hmem, target, htarget, rfl⟩, rfl⟩

end Plans

/-! ## Sharing the graph out -/

section Shares

variable {Γ : Python} {graph : Fields} {plans : List Fields}

/-- The plans of a replay without failures: each is replayed and names its subject, and the targets are those of the graph. -/
structure AllReplayed (Γ : Python) (graph : Fields) (plans : List Fields) : Prop where
  replayed : ∀ plan ∈ plans, Replayed Γ graph plan
  named : ∀ plan ∈ plans, ∃ subjectId, field "subject_id" plan = .str subjectId
  targets : ∀ target, target ∈ plans.map (textField Γ "target") ↔ ∃ subject ∈ graphSubjects graph, field "target" subject = .str target

variable (h : AllReplayed Γ graph plans)
include h

theorem AllReplayed.subject {plan : Fields} (hplan : plan ∈ plans) :
    ∃ subject ∈ graphSubjects graph, field "target" subject = .str (textField Γ "target" plan) ∧ subjectKey Γ subject = subjectKey Γ plan := by
  obtain ⟨subject, hsubject, hkey⟩ := (h.replayed plan hplan).subject
  obtain ⟨hmem, htarget⟩ := mem_of_subjectOfTarget hsubject
  exact ⟨subject, hmem, htarget, hkey⟩

/-- The target in the key of a plan is the one under which its subject is looked up. -/
theorem AllReplayed.target_eq {plan : Fields} (hplan : plan ∈ plans) : (subjectKey Γ plan).1 = textField Γ "target" plan := by
  obtain ⟨subject, _, htarget, hkey⟩ := h.subject hplan
  rw [← hkey]
  exact pyStr_eq htarget

theorem AllReplayed.subjectId_eq {plan : Fields} (hplan : plan ∈ plans) : (subjectKey Γ plan).2 = textField Γ "subject_id" plan := by
  obtain ⟨subjectId, hid⟩ := h.named plan hplan
  rw [textField_eq hid]
  exact pyStr_eq hid

theorem AllReplayed.faithful_nodes :
    Faithful (GraphHasNode Γ graph) NodeRecord.subjectId (textField Γ "subject_id") (PlanHasNode Γ) plans :=
  fun plan hplan => (h.replayed plan hplan).owns_nodes

theorem AllReplayed.faithful_edges :
    Faithful (GraphHasEdge Γ graph) EvidenceEdge.source (textField Γ "subject_id") (PlanHasEdge Γ) plans :=
  fun plan hplan => (h.replayed plan hplan).owns_edges

theorem AllReplayed.map_subjectId : plans.map (textField Γ "subject_id") = plans.map fun plan => (subjectKey Γ plan).2 :=
  List.map_congr_left fun _ hplan => (h.subjectId_eq hplan).symm

/-- Where the targets of the plans and those of the subjects differ, the plans and the subjects are matched. -/
theorem AllReplayed.matched (hs : Separate Γ graph plans) :
    (plans.map (subjectKey Γ)).Perm ((graphSubjects graph).map (subjectKey Γ)) := by
  have hplans : (plans.map (subjectKey Γ)).Nodup := List.Nodup.of_map Prod.fst (by simpa [Function.comp_def] using hs.plan_targets)
  have hsubjects : ((graphSubjects graph).map (subjectKey Γ)).Nodup :=
    List.Nodup.of_map Prod.fst (by simpa [Function.comp_def] using hs.subject_targets)
  refine (List.perm_ext_iff_of_nodup hplans hsubjects).2 fun key => ⟨fun hkey => ?_, fun hkey => ?_⟩
  · obtain ⟨plan, hplan, rfl⟩ := List.mem_map.1 hkey
    obtain ⟨subject, hmem, _, heq⟩ := h.subject hplan
    exact List.mem_map.2 ⟨subject, hmem, heq⟩
  · obtain ⟨subject, hmem, rfl⟩ := List.mem_map.1 hkey
    obtain ⟨target, htarget⟩ := hs.subjects_named subject hmem
    obtain ⟨plan, hplan, hplanTarget⟩ := List.mem_map.1 ((h.targets target).2 ⟨subject, hmem, htarget⟩)
    obtain ⟨other, hother, hotherTarget, heq⟩ := h.subject hplan
    -- the subject that was looked up is this one, for no other has its target
    have hsame : (subjectKey Γ other).1 = (subjectKey Γ subject).1 :=
      (pyStr_eq hotherTarget).trans (hplanTarget.trans (pyStr_eq htarget).symm)
    obtain rfl := List.inj_on_of_nodup_map hs.subject_targets hother hmem hsame
    exact List.mem_map.2 ⟨plan, hplan, heq.symm⟩

/-- Plans and subjects that differ share the graph out. -/
theorem AllReplayed.partition (hs : Separate Γ graph plans) : Partition Γ graph plans := by
  have hmatched := h.matched hs
  have hids : (plans.map fun plan => (subjectKey Γ plan).2).Perm ((graphSubjects graph).map fun subject => (subjectKey Γ subject).2) := by
    simpa [Function.comp_def] using hmatched.map Prod.snd
  have hnodup : (plans.map (textField Γ "subject_id")).Nodup := by
    rw [h.map_subjectId]
    exact hids.nodup_iff.2 hs.subject_ids
  have howner : ∀ subject ∈ graphSubjects graph, ∃ plan ∈ plans, textField Γ "subject_id" plan = (subjectKey Γ subject).2 := by
    intro subject hsubject
    rw [← List.mem_map, h.map_subjectId]
    exact hids.mem_iff.2 (List.mem_map.2 ⟨subject, hsubject, rfl⟩)
  refine ⟨hmatched, hs.plan_targets, fun node hnode => ?_, fun edge hedge => ?_, fun plan hplan item hitem => ?_,
    fun plan hplan item hitem => ?_⟩
  · obtain ⟨subject, hsubject, hid⟩ := hs.nodes_owned node hnode
    obtain ⟨plan, hplan, hplanId⟩ := howner subject hsubject
    obtain ⟨record, hrecord⟩ := (h.replayed plan hplan).graph_node_records node
      (List.mem_filter.2 ⟨hnode, by rw [pyEq_str_iff, hid, hplanId]⟩)
    refine ⟨record, ⟨_, hid, hrecord⟩, h.faithful_nodes.oneOf hnodup ⟨node, hnode, _, hid, hrecord⟩ ?_⟩
    rw [DryRun.subjectId_eq hrecord, textField_eq hid, ← hplanId]
    exact List.mem_map_of_mem hplan
  · obtain ⟨subject, hsubject, hid⟩ := hs.edges_owned edge hedge
    obtain ⟨plan, hplan, hplanId⟩ := howner subject hsubject
    obtain ⟨record, hrecord⟩ := (h.replayed plan hplan).graph_edge_records edge
      (List.mem_filter.2 ⟨hedge, by rw [pyEq_str_iff, hid, hplanId]⟩)
    refine ⟨record, ⟨_, hid, hrecord⟩, h.faithful_edges.oneOf hnodup ⟨edge, hedge, _, hid, hrecord⟩ ?_⟩
    rw [source_eq hrecord, textField_eq hid, ← hplanId]
    exact List.mem_map_of_mem hplan
  · obtain ⟨record, hrecord⟩ := (h.replayed plan hplan).node_records item hitem
    exact ⟨record, hrecord, ((h.faithful_nodes plan hplan record).1 ⟨item, hitem, hrecord⟩).1⟩
  · obtain ⟨record, hrecord⟩ := (h.replayed plan hplan).edge_records item hitem
    exact ⟨record, hrecord, ((h.faithful_edges plan hplan record).1 ⟨item, hitem, hrecord⟩).1⟩

/-- Plans that share the graph out differ from each other, and so do its subjects, which own all of it. -/
theorem AllReplayed.separate (hp : Partition Γ graph plans) : Separate Γ graph plans := by
  have htargets : (plans.map fun plan => (subjectKey Γ plan).1).Perm ((graphSubjects graph).map fun subject => (subjectKey Γ subject).1) := by
    simpa [Function.comp_def] using hp.matched.map Prod.fst
  have hids : (plans.map fun plan => (subjectKey Γ plan).2).Perm ((graphSubjects graph).map fun subject => (subjectKey Γ subject).2) := by
    simpa [Function.comp_def] using hp.matched.map Prod.snd
  have hsubjectTargets := htargets.nodup_iff.1 hp.targets_nodup
  have hone : ∀ record, GraphHasNode Γ graph record → OneOf (PlanHasNode Γ · record) plans := by
    rintro record ⟨node, hnode, hrecord⟩
    obtain ⟨other, hother, hin⟩ := hp.nodes node hnode
    obtain rfl : other = record := Except.ok.inj (hother.choose_spec.2.symm.trans hrecord.choose_spec.2)
    exact hin
  have hnodup : (plans.map (textField Γ "subject_id")).Nodup :=
    h.faithful_nodes.nodup_keys (fun plan hplan => (h.replayed plan hplan).exists_node) hone
  have howned {subjectId : String} (hid : subjectId ∈ plans.map (textField Γ "subject_id")) :
      ∃ subject ∈ graphSubjects graph, subjectId = (subjectKey Γ subject).2 := by
    rw [h.map_subjectId] at hid
    obtain ⟨subject, hsubject, heq⟩ := List.mem_map.1 (hids.mem_iff.1 hid)
    exact ⟨subject, hsubject, heq.symm⟩
  refine ⟨hp.targets_nodup, fun subject hsubject => ?_, hsubjectTargets, ?_, fun node hnode => ?_, fun edge hedge => ?_⟩
  · obtain ⟨plan, hplan, hkey⟩ := List.mem_map.1 (hp.matched.mem_iff.2 (List.mem_map_of_mem hsubject))
    obtain ⟨other, hother, htarget, heq⟩ := h.subject hplan
    obtain rfl := List.inj_on_of_nodup_map hsubjectTargets hother hsubject (congrArg Prod.fst (heq.trans hkey))
    exact ⟨_, htarget⟩
  · rw [← hids.nodup_iff, ← h.map_subjectId]
    exact hnodup
  · obtain ⟨record, ⟨subjectId, hid, hrecord⟩, hin⟩ := hp.nodes node hnode
    have howner := h.faithful_nodes.owner_mem hin
    rw [DryRun.subjectId_eq hrecord, textField_eq hid] at howner
    obtain ⟨subject, hsubject, heq⟩ := howned howner
    exact ⟨subject, hsubject, heq ▸ hid⟩
  · obtain ⟨record, ⟨subjectId, hid, hrecord⟩, hin⟩ := hp.edges edge hedge
    have howner := h.faithful_edges.owner_mem hin
    rw [source_eq hrecord, textField_eq hid] at howner
    obtain ⟨subject, hsubject, heq⟩ := howned howner
    exact ⟨subject, hsubject, heq ▸ hid⟩

end Shares

section Replay

variable {Γ : Python} {files : Files} {graph : Fields} {paths : List PosixPath} {plans : List Fields}

/-- The documents at paths that all hold objects are these objects. -/
theorem planObjects_documentsAt (hplans : paths.map (readJsonFile Γ files) = plans.map fun plan => some (.dict plan)) :
    planObjects (documentsAt Γ files paths) = plans := by
  have hdocuments : documentsAt Γ files paths = plans.map Value.dict := by
    have hfilter := congrArg (List.filterMap id) hplans
    simpa [List.filterMap_map, documentsAt, Function.comp_def] using hfilter
  rw [planObjects, hdocuments, List.filterMap_map]
  simp [Function.comp_def, asDict]

/-- A replay without failures replays every plan, and the targets of the plans are those of the graph. -/
theorem allReplayed_of_replay (h : replaySubjectGraphAgainstPlans Γ files graph paths = .ok [])
    (hplans : paths.map (readJsonFile Γ files) = plans.map fun plan => some (.dict plan))
    (hnamed : ∀ plan ∈ plans, ∃ subjectId, field "subject_id" plan = .str subjectId) : AllReplayed Γ graph plans := by
  obtain ⟨found, hfound, h⟩ := bind_ok_iff.1 h
  simp only [Except.ok.injEq, List.append_eq_nil_iff, failUnless_eq_nil, List.isEmpty_iff, sortedDiff_eq_nil,
    planObjects_documentsAt hplans] at h
  obtain ⟨⟨⟨_, hnil⟩, hmissing⟩, hextra⟩ := h
  refine ⟨fun plan hplan => ?_, hnamed, fun target => ?_⟩
  · obtain ⟨path, hpath, hread⟩ := List.mem_map.1 (hplans ▸ List.mem_map_of_mem hplan)
    have hnone := mapM_flatten_eq_nil hfound hnil path hpath
    rw [planFileFailures, hread] at hnone
    exact replayed_of_planFailures hnone
  · rw [← mem_graphTargets]
    exact ⟨hextra target, hmissing target⟩

/-- The plans of a replay without failures share the graph out exactly when plans and subjects differ from each other and each node and
each edge names a subject. -/
theorem shares_graph_iff (h : replaySubjectGraphAgainstPlans Γ files graph paths = .ok [])
    (hplans : paths.map (readJsonFile Γ files) = plans.map fun plan => some (.dict plan))
    (hnamed : ∀ plan ∈ plans, ∃ subjectId, field "subject_id" plan = .str subjectId) : Partition Γ graph plans ↔ Separate Γ graph plans :=
  ⟨(allReplayed_of_replay h hplans hnamed).separate, (allReplayed_of_replay h hplans hnamed).partition⟩

end Replay

/-! ### A graph of two subjects -/

def sampleNode (target : String) : Fields :=
  [("node_id", .str (target ++ ":log")), ("subject_id", .str ("release:" ++ target)), ("target", .str target), ("role", .str "log"),
    ("path", .str (target ++ "/log.txt")), ("required", .bool true)]

def sampleEdge (target : String) : Fields :=
  [("from", .str ("release:" ++ target)), ("to", .str (target ++ ":log")), ("relationship", .str "requires"), ("role", .str "log")]

def sampleClosure : Value := .dict [("policy_id", .str "seven-years"), ("required_exports", .list [.str "release-inputs"])]

def sampleArtifact : Value := .dict [("sha256", .str SubjectGraph.sampleDigest), ("bytes", .int 7)]

def sampleSubject (target : String) : Fields :=
  [("target", .str target), ("subject_id", .str ("release:" ++ target)),
    ("artifacts", .dict [("raw_image", sampleArtifact), ("compressed_release_artifact", sampleArtifact)])]

def sampleTargets : List String := ["qemu-x86_64", "rpi4"]

def sampleGraph : Fields :=
  [("subjects", .list (sampleTargets.map fun t => .dict (sampleSubject t))),
    ("evidence_nodes", .list (sampleTargets.map fun t => .dict (sampleNode t))),
    ("evidence_edges", .list (sampleTargets.map fun t => .dict (sampleEdge t))), ("retention_closure", sampleClosure)]

def samplePlan (target : String) : Fields :=
  [("target", .str target), ("subject_id", .str ("release:" ++ target)),
    ("artifacts", .dict [("raw_image", sampleArtifact), ("compressed_release_artifact", sampleArtifact)]),
    ("retention_closure", sampleClosure), ("required_evidence", .dict [("log", .str (target ++ "/log.txt"))]),
    ("evidence_nodes", .list [.dict (sampleNode target)]), ("evidence_edges", .list [.dict (sampleEdge target)])]

/-- Where a plan stands. -/
def planPath (target : String) : PosixPath := ⟨"/", ["plans", target ++ ".json"]⟩

/-- The files of some documents, each under a target. -/
def planFiles (documents : List (String × Fields)) : Files := fun path =>
  (documents.find? fun p => planPath p.1 = path).map fun p =>
    Utf8.encode (String.ofList (JsonText.write (JsonText.compact fun _ => []) 0 (.dict p.2)))

theorem planPath_injective : Function.Injective planPath := by
  intro a b h
  simp only [planPath, PosixPath.mk.injEq, List.cons.injEq, and_true, true_and, ← String.toList_inj, String.toList_append] at h
  exact String.toList_inj.1 (List.append_cancel_right h)

/-- Documents under different targets are read back. -/
theorem readJsonFile_planFiles {documents : List (String × Fields)} (hnodup : (documents.map (·.1)).Nodup) {p : String × Fields}
    (hp : p ∈ documents) (hplain : (Value.dict p.2).plain = true) :
    readJsonFile SubjectGraph.samplePython (planFiles documents) (planPath p.1) = some (.dict p.2) := by
  have hfind : documents.find? (fun q => planPath q.1 = planPath p.1) = some p := by
    cases hfind : documents.find? fun q => planPath q.1 = planPath p.1 with
    | none => simpa using List.find?_eq_none.1 hfind p hp
    | some q =>
      have hpath : planPath q.1 = planPath p.1 := by simpa using List.find?_some hfind
      rw [List.inj_on_of_nodup_map hnodup (List.mem_of_find?_eq_some hfind) hp (planPath_injective hpath)]
  have hfile : planFiles documents (planPath p.1) =
      some (Utf8.encode (String.ofList (JsonText.write (JsonText.compact fun _ => []) 0 (.dict p.2)))) := by
    rw [planFiles, hfind]
    rfl
  rw [readJsonFile, readJson_write (JsonText.compact_lawful _) (JsonText.compact_noReturn _) hplain rfl hfile]
  rfl

theorem sample_replayed : replaySubjectGraphAgainstPlans SubjectGraph.samplePython (planFiles (sampleTargets.map fun t => (t, samplePlan t)))
    sampleGraph (sampleTargets.map planPath) = .ok [] := by
  have hread : ∀ t ∈ sampleTargets, readJsonFile SubjectGraph.samplePython (planFiles (sampleTargets.map fun t => (t, samplePlan t)))
      (planPath t) = some (.dict (samplePlan t)) := by
    intro t ht
    have hplain : ∀ t ∈ sampleTargets, (Value.dict (samplePlan t)).plain = true := by decide
    exact readJsonFile_planFiles (by decide) (List.mem_map.2 ⟨t, ht, rfl⟩) (hplain t ht)
  have hplans : ∀ t ∈ sampleTargets, planFailures SubjectGraph.samplePython sampleGraph (planPath t) (samplePlan t) = .ok [] := by
    decide +kernel
  have hclean : ∀ path ∈ sampleTargets.map planPath, planFileFailures SubjectGraph.samplePython
      (planFiles (sampleTargets.map fun t => (t, samplePlan t))) sampleGraph path = .ok [] := by
    intro path hpath
    obtain ⟨t, ht, rfl⟩ := List.mem_map.1 hpath
    rw [planFileFailures, hread t ht]
    exact hplans t ht
  obtain ⟨found, hfound, hnil⟩ := exists_mapM_flatten_nil hclean
  have hobjects : planObjects (documentsAt SubjectGraph.samplePython (planFiles (sampleTargets.map fun t => (t, samplePlan t)))
      (sampleTargets.map planPath)) = sampleTargets.map samplePlan := by
    refine planObjects_documentsAt ?_
    rw [List.map_map, List.map_map]
    exact List.map_congr_left hread
  refine bind_ok_iff.2 ⟨found, hfound, ?_⟩
  rw [hnil, hobjects]
  decide +kernel

theorem sample_separate : Separate SubjectGraph.samplePython sampleGraph (sampleTargets.map samplePlan) where
  plan_targets := by decide
  subjects_named := by
    intro subject hsubject
    obtain ⟨t, _, rfl⟩ := List.mem_map.1 (show subject ∈ sampleTargets.map sampleSubject from hsubject)
    exact ⟨t, rfl⟩
  subject_targets := by decide
  subject_ids := by decide
  nodes_owned := by
    intro node hnode
    obtain ⟨t, ht, rfl⟩ := List.mem_map.1 (show node ∈ sampleTargets.map sampleNode from hnode)
    exact ⟨sampleSubject t, List.mem_map.2 ⟨t, ht, rfl⟩, rfl⟩
  edges_owned := by
    intro edge hedge
    obtain ⟨t, ht, rfl⟩ := List.mem_map.1 (show edge ∈ sampleTargets.map sampleEdge from hedge)
    exact ⟨sampleSubject t, List.mem_map.2 ⟨t, ht, rfl⟩, rfl⟩

theorem shares_graph_iff_sample : Partition SubjectGraph.samplePython sampleGraph (sampleTargets.map samplePlan) := by
  have hplain : ∀ t ∈ sampleTargets, (Value.dict (samplePlan t)).plain = true := by decide
  refine (shares_graph_iff sample_replayed ?_ fun plan hplan => ?_).2 sample_separate
  · rw [List.map_map, List.map_map]
    exact List.map_congr_left fun t ht => readJsonFile_planFiles (by decide) (List.mem_map.2 ⟨t, ht, rfl⟩) (hplain t ht)
  · obtain ⟨t, _, rfl⟩ := List.mem_map.1 hplan
    exact ⟨_, rfl⟩

/-! ## The plans of a bundle -/

section Bundle

variable {Γ : Python} {C : Contract} {T : FileTree} {M : Matrix} {A : Invocation} {manifest : Fields}

/-- A record without failures names a file that is there, with a payload that its role accepts. -/
theorem rolePayload_of_checkRecord {files : Files} {I : Identity} {base : PosixPath} {pre : String} {skipped : List String} {item : Value}
    {p : String × PosixPath} (hnone : (checkRecord Γ files I base pre skipped item).2 = [])
    (hp : (checkRecord Γ files I base pre skipped item).1 = some p) (hskipped : p.1 ∉ skipped) :
    ∃ schemaVersion, validateRolePayload Γ files I p.1 p.2 schemaVersion = [] := by
  unfold checkRecord at hnone hp
  dsimp only at hnone hp
  split at hp
  · next record hpath =>
    rw [hpath] at hnone
    obtain rfl := (Option.some.inj hp).symm
    dsimp only at hnone hskipped
    rw [List.contains_eq_mem, decide_eq_false hskipped] at hnone
    exact ⟨_, (List.append_eq_nil_iff.1 hnone).2⟩
  · cases hp

/-- The subject plans of a bundle without failures that are objects name their subjects. -/
theorem named_of_manifestFailures {plans : List Fields} (h : manifestFailures Γ C T M A manifest = .ok [])
    (hplans : PlansAre Γ T A manifest plans) : ∀ plan ∈ plans, ∃ subjectId, field "subject_id" plan = .str subjectId := by
  obtain ⟨_, _, h⟩ := bind_ok_iff.1 h
  simp only [Except.ok.injEq, List.append_eq_nil_iff, List.flatMap_eq_nil_iff] at h
  have hmembers := h.1.1.1.1.1.1.2
  intro plan hplan
  obtain ⟨path, hpath, hread⟩ := List.mem_map.1 (hplans ▸ List.mem_map_of_mem hplan)
  obtain ⟨p, hp, rfl⟩ := List.mem_map.1 hpath
  obtain ⟨hp, hrole⟩ := List.mem_filter.1 hp
  obtain ⟨checked, hchecked, hsome⟩ := List.mem_filterMap.1 hp
  have hnone := hmembers checked hchecked
  obtain ⟨item, _, rfl⟩ := List.mem_map.1 hchecked
  have hrole : p.1 = "subject-plan" := by simpa using hrole
  obtain ⟨_, hpayload⟩ := rolePayload_of_checkRecord hnone hsome (by simp [hrole])
  rw [validateRolePayload, objectFailures, hread, hrole] at hpayload
  have hplanFailures : subjectPlanFailures plan = [] := (List.append_eq_nil_iff.1 hpayload).2
  have htext := failUnless_eq_nil.1 (List.append_eq_nil_iff.1 hplanFailures).1
  obtain ⟨subjectId, hid, _⟩ := (Option.any_eq_true _ _).1 htext
  exact ⟨subjectId, asStr_eq_some.1 hid⟩

/-- A graph that is replayed is an object. -/
theorem graph_of_semanticFailures {I : Identity} {P : ReplayPaths} {binding : Fields}
    (h : semanticFailures Γ C T M I P binding = []) :
    ∃ graph, readJsonFile Γ (OperatorIngress.treeFiles T) P.subjectGraph = some (.dict graph) := by
  unfold semanticFailures at h
  split at h
  · next failures hvalid =>
    obtain rfl := h
    obtain ⟨document, hdocument, hvalid⟩ := bind_ok_iff.1 hvalid
    split at hvalid
    · next graph =>
      refine ⟨graph, ?_⟩
      rw [readJsonFile, show readJson Γ (OperatorIngress.treeFiles T) P.subjectGraph = .ok (some (.dict graph)) from hdocument]
      rfl
    · cases hvalid
  · cases h

/-- An accepted bundle with an object for a binding has a graph, and its plans share the graph out exactly when they and the subjects
differ from each other and each node and each edge names a subject. A binding that is no object is compared with nothing. -/
theorem accepted_shares_graph_iff {plans : List Fields} {bindingPath graphPath : PosixPath} {binding : Fields}
    (h : validateBundleManifest Γ C T M A = .ok (some manifest, [])) (hplans : PlansAre Γ T A manifest plans)
    (hbindingPath : externalPath Γ T A manifest "release-input-binding" = some bindingPath)
    (hbinding : readJsonFile Γ (OperatorIngress.treeFiles T) bindingPath = some (.dict binding))
    (hgraphPath : externalPath Γ T A manifest "release-subject-graph" = some graphPath) :
    ∃ graph, readJsonFile Γ (OperatorIngress.treeFiles T) graphPath = some (.dict graph) ∧
      (Partition Γ graph plans ↔ Separate Γ graph plans) := by
  have hfailures : manifestFailures Γ C T M A manifest = .ok [] := by
    unfold validateBundleManifest at h
    split at h
    · cases h
    · obtain ⟨failures, hfailures, h⟩ := bind_ok_iff.1 h
      obtain ⟨hsome, rfl⟩ := Prod.mk.inj (Except.ok.inj h)
      rwa [← Option.some.inj hsome]
    · cases h
  have hnamed := named_of_manifestFailures hfailures hplans
  obtain ⟨replayed, hreplayed, hnone⟩ := bind_ok_iff.1 hfailures
  obtain rfl : replayed = [] := (List.append_eq_nil_iff.1 (Except.ok.inj hnone)).2
  rw [replayFailures, hbindingPath, hgraphPath] at hreplayed
  dsimp only at hreplayed
  rw [replayBindingAndSubjects, hbinding] at hreplayed
  obtain ⟨expected, _, hreplayed⟩ := bind_ok_iff.1 hreplayed
  obtain ⟨found, hfound, hreplayed⟩ := bind_ok_iff.1 hreplayed
  obtain ⟨hbefore, rfl⟩ := List.append_eq_nil_iff.1 (Except.ok.inj hreplayed)
  obtain ⟨graph, hgraph⟩ := graph_of_semanticFailures (List.append_eq_nil_iff.1 hbefore).2
  rw [graphFileFailures, hgraph] at hfound
  obtain ⟨ids, _, hfound⟩ := bind_ok_iff.1 hfound
  obtain ⟨replay, hreplay, hfound⟩ := bind_ok_iff.1 hfound
  obtain rfl : replay = [] := (List.append_eq_nil_iff.1 (Except.ok.inj hfound)).2
  exact ⟨graph, hgraph, shares_graph_iff hreplay hplans hnamed⟩

end Bundle

end SuderraOs.Evidence.DryRun
