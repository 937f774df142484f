import SuderraOs.Install.Edge

/-!
# Runs of the Edge installer

What a device records over any sequence of runs. A run writes `current.env` only for a version the monotonic guard lets through, and
later runs read back the first line of that version. On versions that are plain and have their dots on the first line, the recorded
cores therefore never go down (`edge_versions_never_go_down`); with a leading zero they can.
-/

namespace SuderraOs.Install

open Text Script

variable {D : Type} {invalid : List Char → Nat} {i : Invocation}

/-! ## What a run records -/

theorem rollbackLink_keeps (i : Invocation) (old : Option (List Char)) {I : Option File → Prop} :
    (rollbackLink (D := D) i old).Keeps fun s => I s.currentEnv := by
  cases old with
  | some target => exact keeps_needLeaving _ _ (fun _ hs => hs) fun _ hs => hs
  | none => exact keeps_need _ _ fun s s' hact hs => by cases hact; exact hs

theorem rollbackService_keeps (i : Invocation) (old : Option (List Char)) {I : Option File → Prop} :
    (rollbackService (D := D) i old).Keeps fun s => I s.currentEnv := by
  refine Effect.keeps_bind (rollbackLink_keeps i old) fun _ => Effect.keeps_bind (keeps_runIf _ ?_) fun _ => keeps_require _
  refine Effect.keeps_bind (keeps_command _ _ fun s s' hact hs => ?_) fun _ => Effect.keeps_pure _
  cases hact
  exact hs

theorem installConfig_keeps (i : Invocation) (old : Option (List Char)) {I : Option File → Prop} :
    (installConfig (D := D) i old).Keeps fun s => I s.currentEnv := by
  unfold installConfig
  split
  · exact keeps_needLeaving _ _ (fun _ hs => hs) fun _ hs => hs
  · exact Effect.keeps_bind (rollbackLink_keeps i old) fun _ => keeps_require _

theorem protectConfig_keeps (i : Invocation) {I : Option File → Prop} :
    (protectConfig (D := D) i).Keeps fun s => I s.currentEnv := by
  have honConfig {f : File → File} (s s' : Device D) (hact : s.onConfig f = some s') (hs : I s.currentEnv) : I s'.currentEnv := by
    obtain ⟨file, -, rfl⟩ := Option.map_eq_some_iff.1 hact
    exact hs
  exact Effect.keeps_bind (keeps_command _ _ honConfig) fun _ => keeps_need _ _ honConfig

theorem startService_keeps (i : Invocation) (old : Option (List Char)) {I : Option File → Prop} :
    (startService (D := D) i old).Keeps fun s => I s.currentEnv := by
  have hsome (c : Command) : (command i.result c (some : Device D → _)).Keeps fun s => I s.currentEnv :=
    keeps_command _ _ fun s s' hact hs => by cases hact; exact hs
  refine Effect.keeps_bind (Effect.keeps_bind (hsome _) fun restarted => ?_) fun _ => keeps_runIf _ (rollbackService_keeps i old)
  cases restarted with
  | true => exact hsome _
  | false => exact Effect.keeps_pure _

theorem lockDown_keeps (i : Invocation) (old : Option (List Char)) {I : Option File → Prop} :
    (lockDown (D := D) i old).Keeps fun s => I s.currentEnv := by
  refine keeps_runIf _ (Effect.keeps_bind (keeps_command _ _ fun s s' hact hs => ?_) fun _ =>
    keeps_runIf _ (rollbackService_keeps i old))
  cases hact
  exact hs

theorem recordState_keeps {I : Option File → Prop} (hI : ∀ file, file.content = i.envText → I (some file)) :
    (recordState (D := D) i).Keeps fun s => I s.currentEnv := by
  intro s hs
  have hwritten : (s.writtenEnv i).content = i.envText := by
    unfold Device.writtenEnv
    cases s.envTmp <;> rfl
  refine Effect.wp_bind (wp_needLeaving (fun _ => ?_) (fun _ => hs) fun _ => hs)
  refine Effect.wp_bind (wp_need (fun s' _ hact => ?_) fun _ _ => hs)
  cases hact
  refine wp_need (fun s' _ hact => ?_) fun _ _ => hI _ hwritten
  cases hact
  exact hI _ hwritten

theorem activate_keeps (old : Option (List Char)) {I : Option File → Prop}
    (hI : ∀ file, file.content = i.envText → I (some file)) : (activate (D := D) i old).Keeps fun s => I s.currentEnv := by
  refine Effect.keeps_bind (installConfig_keeps i old) fun _ => ?_
  refine Effect.keeps_bind (protectConfig_keeps i) fun _ => ?_
  refine Effect.keeps_bind (keeps_need_some i.result .daemonReload) fun _ => ?_
  refine Effect.keeps_bind (keeps_need_some i.result .enable) fun _ => ?_
  refine Effect.keeps_bind (startService_keeps i old) fun _ => ?_
  exact Effect.keeps_bind (lockDown_keeps i old) fun _ => recordState_keeps hI

/-- A run leaves the recorded state, or it passed the guard and recorded its version. -/
theorem install_records [DecidableEq D] (dir : List Char → D) (invalid : List Char → Nat) (i : Invocation) (s : Device D) :
    ((install dir invalid i).run s).2.currentEnv = s.currentEnv ∨ refusesDowngrade invalid i s = false ∧
      ∃ file, ((install dir invalid i).run s).2.currentEnv = some file ∧ file.content = i.envText := by
  let I (env : Option File) : Prop :=
    env = s.currentEnv ∨ refusesDowngrade invalid i s = false ∧ ∃ file, env = some file ∧ file.content = i.envText
  have hwp : (install dir invalid i).wp (fun _ s' => I s'.currentEnv) (fun _ s' => I s'.currentEnv) s := by
    refine Effect.wp_bind (Effect.wp_mono stage_wp ?_ fun _ _ h => Or.inl h)
    rintro old s₁ ⟨-, hs₁, hguard⟩
    exact activate_keeps (I := I) old (fun file hfile => Or.inr ⟨hguard, file, rfl, hfile⟩) s₁ (Or.inl hs₁.currentEnv)
  exact hwp.final

/-! ## What later runs read -/

/-- The first line of a text. -/
def firstLine (cs : List Char) : List Char := cs.takeWhile (· ≠ '\n')

theorem splitOn_firstLine (cs : List Char) : ∃ rest, cs.splitOn '\n' = firstLine cs :: rest := by
  induction cs with
  | nil => exact ⟨[], rfl⟩
  | cons c cs ih =>
    obtain ⟨rest, hrest⟩ := ih
    rw [List.splitOn_cons_eq_if_modifyHead, hrest]
    by_cases hc : c = '\n'
    · exact ⟨firstLine cs :: rest, by simp [firstLine, hc]⟩
    · exact ⟨rest, by simp [firstLine, hc]⟩

theorem firstLine_append {a : List Char} (h : '\n' ∉ a) (b : List Char) : firstLine (a ++ b) = a ++ firstLine b := by
  refine List.takeWhile_append_of_pos fun c hc => decide_eq_true ?_
  rintro rfl
  exact h hc

/-- A line ends at the newline after it. -/
theorem firstLine_newline (cs rest : List Char) : firstLine (cs ++ '\n' :: rest) = firstLine cs := by
  induction cs with
  | nil => simp [firstLine]
  | cons c cs ih => by_cases hc : c = '\n' <;> simp_all [firstLine]

/-- Later runs read the first line of the version. -/
theorem currentVersion_envText (i : Invocation) : currentVersion i.envText = firstLine i.version := by
  have htext : ∃ rest, i.envText = "VERSION=".toList ++ (i.version ++ '\n' :: rest) := ⟨_, rfl⟩
  obtain ⟨rest, htext⟩ := htext
  obtain ⟨lines, hlines⟩ := splitOn_firstLine i.envText
  rw [htext, firstLine_append (by decide), firstLine_newline] at hlines
  rw [currentVersion, htext, hlines, List.filterMap_cons_some (stripPrefix_append _ _)]
  rfl

/-- Both dots of a version are on its first line. -/
def OnFirstLine (version : List Char) : Prop :=
  ∃ first second rest, version = first ++ '.' :: (second ++ '.' :: rest) ∧ '.' ∉ first ∧ '.' ∉ second ∧ '\n' ∉ first ∧
    '\n' ∉ second

theorem firstLine_cons_dot (cs : List Char) : firstLine ('.' :: cs) = '.' :: firstLine cs := rfl

/-- The first line of a tail is a tail. -/
theorem head_firstLine {tail : List Char} (h : tail = [] ∨ tail.head? = some '-') :
    firstLine tail = [] ∨ (firstLine tail).head? = some '-' := by
  rcases h with rfl | h
  · exact Or.inl rfl
  · cases tail with
    | nil => exact Or.inl rfl
    | cons c tail =>
      obtain rfl : c = '-' := by simpa using h
      exact Or.inr rfl

variable {version : List Char} {v : ParsedVersion}

/-- The first line spells the same core. -/
theorem Spelled.firstLine (h : Spelled version v) (hline : OnFirstLine version) : Spelled (firstLine version) v := by
  obtain ⟨spaces, vs, major, minor, patch, tail, heq, hspaces, hvs, htail, hmajor, hminor, hpatch⟩ := h
  obtain ⟨first, second, rest, heq', hdot, -, hnl, -⟩ := hline
  have hno {cs : List Char} {n : Nat} (h : parseU64 cs = some n) : '\n' ∉ cs := not_mem_of_parseU64 h (by decide) (by decide)
  have hversion : version = ((spaces ++ vs) ++ major) ++ '.' :: (minor ++ '.' :: (patch ++ tail)) := by
    rw [heq, List.append_assoc, List.append_assoc]
  have hfirst : '\n' ∉ (spaces ++ vs) ++ major := by
    rwa [(cut_unique (dot_not_mem_lead hspaces hvs hmajor) hdot (hversion.symm.trans heq')).1]
  refine ⟨spaces, vs, major, minor, patch, Install.firstLine tail, ?_, hspaces, hvs, ?_, hmajor, hminor, hpatch⟩
  · rw [hversion, firstLine_append hfirst, firstLine_cons_dot, firstLine_append (hno hminor), firstLine_cons_dot,
      firstLine_append (hno hpatch), List.append_assoc, List.append_assoc]
  · rcases htail with htail | htail
    · exact Or.inl fun c hc => htail c (List.takeWhile_subset _ hc)
    · rcases head_firstLine (Or.inr htail) with hnil | hhead
      · exact Or.inl (by simp [hnil])
      · exact Or.inr hhead

/-- The first line of a plain version is plain. -/
theorem Plain.firstLine (h : Plain version v) (hline : OnFirstLine version) : Plain (firstLine version) v := by
  obtain ⟨first, second, rest, heq, hdot₁, hdot₂, hnl₁, hnl₂⟩ := hline
  have hno {digits : List Char} {n : Nat} (h : PlainNumeral digits n) : '\n' ∉ digits ∧ '.' ∉ digits :=
    ⟨fun hmem => absurd (h.allDigits _ hmem) (by decide), fun hmem => absurd (h.allDigits _ hmem) (by decide)⟩
  refine ⟨fun hzero => ?_, fun hzero => ?_, fun hzero => ?_⟩
  · obtain ⟨lead, digits, rest', heq', hlead, hplain⟩ := h.major hzero
    have hnl : '\n' ∉ lead := by rcases hlead with rfl | rfl <;> simp
    refine ⟨lead, digits, Install.firstLine rest', ?_, hlead, hplain⟩
    rw [heq', firstLine_append hnl, firstLine_append (hno hplain).1, firstLine_cons_dot]
  · obtain ⟨before, digits, rest', heq', hdot, hplain⟩ := h.minor hzero
    obtain ⟨rfl, -⟩ := cut_unique hdot₁ hdot (heq.symm.trans heq')
    refine ⟨first, digits, Install.firstLine rest', ?_, hdot, hplain⟩
    rw [heq', firstLine_append hnl₁, firstLine_cons_dot, firstLine_append (hno hplain).1, firstLine_cons_dot]
  · obtain ⟨first', second', digits, tail, heq', hdot, hdot', htail, hplain⟩ := h.patch hzero
    obtain ⟨rfl, hrest⟩ := cut_unique hdot₁ hdot (heq.symm.trans heq')
    obtain ⟨rfl, -⟩ := cut_unique hdot₂ hdot' hrest
    refine ⟨first, second, digits, Install.firstLine tail, ?_, hdot, hdot', head_firstLine htail, hplain⟩
    rw [heq', firstLine_append hnl₁, firstLine_cons_dot, firstLine_append hnl₂, firstLine_cons_dot,
      firstLine_append (hno hplain).1]

/-! ## Runs -/

/-- A version that parses, is plain and has its dots on the first line. -/
def PlainVersion (version : List Char) : Prop := ∃ v, parseVersion version = .ok v ∧ Plain version v ∧ OnFirstLine version

/-- The core that is recorded, if a version that parses is. -/
def recordedCore (s : Device D) : Option (Nat ×ₗ Nat ×ₗ Nat) :=
  s.currentEnv.bind fun file => (parseVersion (currentVersion file.content)).toOption.map (·.core)

/-- What is recorded is a plain version. -/
def RecordsPlain (s : Device D) : Prop :=
  ∀ file, s.currentEnv = some file → ∃ v, parseVersion (currentVersion file.content) = .ok v ∧ Plain (currentVersion file.content) v

/-- The steps of the machine. -/
def edgeStep [DecidableEq D] (dir : List Char → D) (invalid : List Char → Nat) (i : Invocation) (s : Device D) :
    Except Stop Unit × Device D := (install dir invalid i).run s

/-- The guard lets a plain version through only if it is not below the recorded one. -/
theorem core_le_of_guard {s : Device D} {file : File} {w : ParsedVersion} (hs : RecordsPlain s) (hfile : s.currentEnv = some file)
    (hw : parseVersion (currentVersion file.content) = .ok w) (hv : parseVersion i.version = .ok v) (hplain : Plain i.version v)
    (hallow : i.allowRollback = false) (hguard : refusesDowngrade invalid i s = false) : w.core ≤ v.core := by
  obtain ⟨w', hw', hplain'⟩ := hs file hfile
  obtain rfl : w = w' := Except.ok.inj (hw.symm.trans hw')
  have hne : currentVersion file.content ≠ [] := by
    intro hnil
    obtain ⟨spaces, vs, major, minor, patch, tail, heq, -⟩ := spelled_of_parseVersion hw
    simp [hnil] at heq
  have hkey : ¬ versionKey invalid i.version < versionKey invalid (currentVersion file.content) := by
    simpa [refusesDowngrade, hfile, hne, hallow] using hguard
  rw [versionKey_lt_iff invalid hv hw hplain hplain'] at hkey
  exact not_lt.1 hkey

/-- A run with a plain version records one that is at or above the recorded one, or it records nothing. -/
theorem edgeStep_core [DecidableEq D] (dir : List Char → D) (invalid : List Char → Nat) {s : Device D} (hs : RecordsPlain s)
    (hallow : i.allowRollback = false) (hi : PlainVersion i.version) :
    RecordsPlain (edgeStep dir invalid i s).2 ∧
      ∀ c, recordedCore s = some c → ∃ d, recordedCore (edgeStep dir invalid i s).2 = some d ∧ c ≤ d := by
  rcases install_records dir invalid i s with hsame | ⟨hguard, file, hfile, hcontent⟩
  · refine ⟨fun file hfile => hs file (hsame ▸ hfile), fun c hc => ⟨c, ?_, le_rfl⟩⟩
    rw [recordedCore, edgeStep, hsame]
    exact hc
  · obtain ⟨v, hparse, hplain, hline⟩ := hi
    obtain ⟨pre, hparse'⟩ := ((spelled_of_parseVersion hparse).firstLine hline).parseVersion
    have hplain' : Plain (firstLine i.version) { v with pre := pre } :=
      ⟨(hplain.firstLine hline).major, (hplain.firstLine hline).minor, (hplain.firstLine hline).patch⟩
    have hread : currentVersion file.content = firstLine i.version := by rw [hcontent, currentVersion_envText]
    refine ⟨fun file' hfile' => ?_, fun c hc => ⟨v.core, ?_, ?_⟩⟩
    · obtain rfl : file = file' := Option.some.inj (hfile.symm.trans hfile')
      rw [hread]
      exact ⟨_, hparse', hplain'⟩
    · rw [recordedCore, edgeStep, hfile, Option.bind_some, hread, hparse']
      rfl
    · obtain ⟨recorded, hrecorded, hc⟩ := Option.bind_eq_some_iff.1 hc
      obtain ⟨w, hw, rfl⟩ := Option.map_eq_some_iff.1 hc
      have hw : parseVersion (currentVersion recorded.content) = .ok w := by
        cases hp : parseVersion (currentVersion recorded.content) <;> simp_all [Except.toOption]
      exact core_le_of_guard hs hrecorded hw hparse hplain hallow hguard

/-- The cores recorded along a run, one for each of its states in which a version is recorded. -/
def recordedCores [DecidableEq D] (dir : List Char → D) (invalid : List Char → Nat) (s : Device D) (is : List Invocation) :
    List (Nat ×ₗ Nat ×ₗ Nat) := (Run.states (edgeStep dir invalid) s is).filterMap recordedCore

/-- On plain versions the keys are ordered as the verifier orders the cores, and in a run whose versions are plain, none of which
sets the rollback variable, the recorded cores never go down. -/
theorem edge_versions_never_go_down [DecidableEq D] (dir : List Char → D) (invalid : List Char → Nat) :
    (∀ (a b : List Char) (va vb : ParsedVersion), parseVersion a = .ok va → parseVersion b = .ok vb → Plain a va → Plain b vb →
      (versionKey invalid a < versionKey invalid b ↔ va.compareCore vb = .lt)) ∧
    ∀ (s : Device D) (is : List Invocation), RecordsPlain s → (∀ i ∈ is, i.allowRollback = false ∧ PlainVersion i.version) →
      (recordedCores dir invalid s is).Pairwise (· ≤ ·) := by
  refine ⟨fun a b va vb ha hb hpa hpb => ?_, fun s is hs his => ?_⟩
  · rw [versionKey_lt_iff invalid ha hb hpa hpb, ParsedVersion.compareCore_eq_lt]
  · have hclimbs := Run.states_pairwise_of_mem (f := edgeStep dir invalid) (I := RecordsPlain)
      (R := fun s t => ∀ c, recordedCore s = some c → ∃ d, recordedCore t = some d ∧ c ≤ d)
      (fun hab hbc c hc => by
        obtain ⟨d, hd, hcd⟩ := hab c hc
        obtain ⟨e, he, hde⟩ := hbc d hd
        exact ⟨e, he, hcd.trans hde⟩)
      (fun i hi s hs => (edgeStep_core dir invalid hs (his i hi).1 (his i hi).2).1)
      (fun i hi s hs => (edgeStep_core dir invalid hs (his i hi).1 (his i hi).2).2) hs
    refine List.pairwise_filterMap.2 (hclimbs.imp fun hst c hc d hd => ?_)
    obtain ⟨e, he, hce⟩ := hst c hc
    obtain rfl : e = d := Option.some.inj (he.symm.trans hd)
    exact hce

/-! ### Samples -/

/-- Numerals in their plain spelling make a plain version. -/
theorem plainVersion_append {major minor patch tail : List Char} {a b c : Nat} (hmajor : PlainNumeral major a)
    (hminor : PlainNumeral minor b) (hpatch : PlainNumeral patch c) (hne : major ≠ [] ∧ minor ≠ [] ∧ patch ≠ [])
    (htail : tail = [] ∨ tail.head? = some '-') : PlainVersion (major ++ '.' :: (minor ++ '.' :: (patch ++ tail))) := by
  have hno {digits : List Char} {n : Nat} (h : PlainNumeral digits n) {d : Char} (hd : d.isDigit = false) : d ∉ digits :=
    fun hmem => by simp [h.allDigits _ hmem] at hd
  have hparse {digits : List Char} {n : Nat} (h : PlainNumeral digits n) (hne : digits ≠ []) : parseU64 digits = some n := by
    have hsmall : digitsValue digits < UInt64.size := by
      rw [h.value]
      exact h.small.trans (by decide)
    rw [parseU64_digits hne h.allDigits hsmall, h.value]
  have hspelled : Spelled (major ++ '.' :: (minor ++ '.' :: (patch ++ tail))) ⟨a, b, c, none⟩ := by
    refine ⟨[], [], major, minor, patch, tail, rfl, by simp, by simp, ?_, hparse hmajor hne.1, hparse hminor hne.2.1,
      hparse hpatch hne.2.2⟩
    rcases htail with rfl | htail
    · exact Or.inl (by simp)
    · exact Or.inr htail
  obtain ⟨pre, hpre⟩ := hspelled.parseVersion
  refine ⟨⟨a, b, c, pre⟩, hpre, ⟨fun _ => ?_, fun _ => ?_, fun _ => ?_⟩, ?_⟩
  · exact ⟨[], major, _, rfl, Or.inl rfl, hmajor⟩
  · exact ⟨major, minor, _, rfl, hno hmajor (by decide), hminor⟩
  · exact ⟨major, minor, patch, tail, rfl, hno hmajor (by decide), hno hminor (by decide), htail, hpatch⟩
  · exact ⟨major, minor, _, rfl, hno hmajor (by decide), hno hminor (by decide), hno hmajor (by decide), hno hminor (by decide)⟩

/-- Two runs on a device that runs 1.0.0, of which the second fails to restart the agent. -/
theorem edge_versions_sample :
    (recordedCores id (fun _ => 0) sampleDevice [.failingAt "1.1.0" [], .failingAt "1.20.0-rc.1" [.restart]]).Pairwise (· ≤ ·) := by
  have hone : PlainNumeral ['1'] 1 := ⟨by decide, by decide, by decide, by decide⟩
  have hzero : PlainNumeral ['0'] 0 := ⟨by decide, by decide, by decide, by decide⟩
  have htwenty : PlainNumeral ['2', '0'] 20 := ⟨by decide, by decide, by decide, by decide⟩
  have hrecorded : PlainVersion "1.0.0".toList := by
    rw [show "1.0.0".toList = ['1'] ++ '.' :: (['0'] ++ '.' :: (['0'] ++ [])) by decide]
    exact plainVersion_append hone hzero hzero ⟨by simp, by simp, by simp⟩ (Or.inl rfl)
  have hfirst : PlainVersion "1.1.0".toList := by
    rw [show "1.1.0".toList = ['1'] ++ '.' :: (['1'] ++ '.' :: (['0'] ++ [])) by decide]
    exact plainVersion_append hone hone hzero ⟨by simp, by simp, by simp⟩ (Or.inl rfl)
  have hsecond : PlainVersion "1.20.0-rc.1".toList := by
    rw [show "1.20.0-rc.1".toList = ['1'] ++ '.' :: (['2', '0'] ++ '.' :: (['0'] ++ ['-', 'r', 'c', '.', '1'])) by decide]
    exact plainVersion_append hone htwenty hzero ⟨by simp, by simp, by simp⟩ (Or.inr rfl)
  refine (edge_versions_never_go_down id (fun _ => 0)).2 sampleDevice _ (fun file hfile => ?_) fun i hi => ?_
  · have hread : currentVersion file.content = "1.0.0".toList := by
      obtain rfl := Option.some.inj hfile
      decide +kernel
    rw [hread]
    obtain ⟨v, hv, hplain, -⟩ := hrecorded
    exact ⟨v, hv, hplain⟩
  · rcases List.mem_pair.1 hi with rfl | rfl
    · exact ⟨rfl, hfirst⟩
    · exact ⟨rfl, hsecond⟩

/-- Recorded cores can go down: `printf` reads the minor component of 1.010.0 as octal, so 1.9.0 is installed over it. -/
theorem edge_versions_go_down :
    ¬ ∀ (s : Device (List Char)) (is : List Invocation), s.currentEnv = none →
      (∀ i ∈ is, i.allowRollback = false ∧ ∃ v, parseVersion i.version = .ok v) →
      (recordedCores id (fun _ => 0) s is).Pairwise (· ≤ ·) := by
  intro h
  have hcores : recordedCores id (fun _ => 0) { sampleDevice with currentEnv := none } [.failingAt "1.010.0" [], .failingAt "1.9.0" []] =
      [toLex (1, toLex (10, 0)), toLex (1, toLex (9, 0))] := by decide +kernel
  have hsorted := h { sampleDevice with currentEnv := none } [.failingAt "1.010.0" [], .failingAt "1.9.0" []] rfl ?_
  · rw [hcores] at hsorted
    exact absurd (List.rel_of_pairwise_cons hsorted List.mem_cons_self) (by decide)
  · intro i hi
    rcases List.mem_pair.1 hi with rfl | rfl
    · exact ⟨rfl, _, rfl⟩
    · exact ⟨rfl, _, rfl⟩

end SuderraOs.Install
