import SuderraOs.Install.Target

/-!
# The choice of the target disk

Left to itself, `select_target` chooses by priority alone. What its loop keeps in four variables is the sole best of the candidates
(`Best.Sole`), so a disk is printed exactly when it beats every other candidate, and the order in which the block devices are
listed does not matter.
-/

namespace SuderraOs.Install

namespace Machine

variable {m : Machine}

/-- A whole eMMC or SD card that is neither a boot nor an RPMB area, is not excluded and has the minimum size. -/
def Candidate (m : Machine) (d : BlockDevice) : Prop :=
  d.isMmc = true ∧ d.isBootArea = false ∧ m.isExcludedDisk d.name = false ∧ m.bigEnough d = true

/-- Two candidates share the least priority of all. -/
def SharedBest (m : Machine) : Prop :=
  ∃ d e, [d, e].Sublist m.devices ∧ m.Candidate d ∧ m.Candidate e ∧ d.priority = e.priority ∧
    ∀ c ∈ m.devices, m.Candidate c → d.priority ≤ c.priority

/-- The test of a candidate, as the loop makes it. -/
def isCandidate (m : Machine) (d : BlockDevice) : Bool :=
  (!m.isExcludedDisk d.name) && (d.isMmc && !d.isBootArea && m.bigEnough d)

theorem isCandidate_iff {d : BlockDevice} : m.isCandidate d = true ↔ m.Candidate d := by
  simp only [isCandidate, Candidate, Bool.and_eq_true, Bool.not_eq_true']
  tauto

theorem allowed_eq (m : Machine) : m.allowed = m.devices.filter m.isCandidate := by
  rw [allowed, eligible, List.filter_filter]
  rfl

/-- The three ends of an automatic selection. -/
theorem selectTarget_cases (hauto : m.wantsUsbTarget = false) :
    (m.allowed = [] ∧ m.selectTarget = .error "ERROR: no valid target disk found") ∨
    (∃ d, Best.Sole BlockDevice.priority m.allowed d ∧ m.selectTarget = .ok (m.devDir ++ '/' :: d.name)) ∨
    (m.allowed ≠ [] ∧ (∀ d, ¬ Best.Sole BlockDevice.priority m.allowed d) ∧
      m.selectTarget = .error "ERROR: multiple equally preferred target disks found; refusing to choose") := by
  have htop : ∀ d ∈ m.allowed, d.priority < 99 := by
    intro d hd
    have := priority_lt (isCandidate_iff.1 (List.mem_filter.1 (m.allowed_eq ▸ hd)).2).1
    omega
  obtain ⟨hseen, -, -, -⟩ := Best.scan_spec htop
  by_cases hsole : ∃ d, Best.Sole BlockDevice.priority m.allowed d
  · obtain ⟨d, hd⟩ := hsole
    exact Or.inr (Or.inl ⟨d, hd, (selectTarget_ok_iff hauto).2 ⟨d, hd, rfl⟩⟩)
  · have hnone := not_exists.1 hsole
    have hselect : m.selectTarget = (do
        let best := Best.scan BlockDevice.priority 99 m.allowed
        guardError "ERROR: no valid target disk found" (0 < best.seen)
        guardError "ERROR: multiple equally preferred target disks found; refusing to choose" (best.count = 1)
        .ok (m.devDir ++ '/' :: (best.best.map (·.name)).getD [])) := by
      rw [← foldl_consider, selectTarget, if_neg (by simp [hauto])]
    by_cases hempty : m.allowed = []
    · refine Or.inl ⟨hempty, ?_⟩
      rw [hselect, hempty]
      rfl
    · have hpos : 0 < (Best.scan BlockDevice.priority 99 m.allowed).seen := hseen ▸ List.length_pos_iff.2 hempty
      refine Or.inr (Or.inr ⟨hempty, hnone, ?_⟩)
      have hcount : (Best.scan BlockDevice.priority 99 m.allowed).count ≠ 1 := by
        intro hone
        obtain ⟨d, -, hbest, -⟩ := (Best.scan_spec htop).2.2.2 hempty
        exact hnone d ((Best.scan_eq_sole htop d).1 ⟨hpos, hone, hbest⟩)
      rw [hselect]
      simp [guardError, hpos, hcount, ok_bind]
      rfl

/-- What is allowed does not depend on which devices there are. -/
theorem allowed_perm {devices : List BlockDevice} (h : devices.Perm m.devices) :
    ({ m with devices := devices } : Machine).allowed.Perm m.allowed := by
  rw [allowed_eq, allowed_eq]
  exact h.filter _

/-- The order of the block devices does not matter to an automatic selection. -/
theorem selectTarget_perm (hauto : m.wantsUsbTarget = false) {devices : List BlockDevice} (h : devices.Perm m.devices) :
    ({ m with devices := devices } : Machine).selectTarget = m.selectTarget := by
  have hperm := allowed_perm h
  have hsole (d : BlockDevice) : Best.Sole BlockDevice.priority ({ m with devices := devices } : Machine).allowed d ↔
      Best.Sole BlockDevice.priority m.allowed d := Best.sole_perm hperm d
  have hauto' : ({ m with devices := devices } : Machine).wantsUsbTarget = false := hauto
  rcases selectTarget_cases hauto with ⟨hempty, hm⟩ | ⟨d, hd, hm⟩ | ⟨hne, hnone, hm⟩
  · rcases selectTarget_cases hauto' with ⟨-, hm'⟩ | ⟨d', hd', -⟩ | ⟨hne', -, -⟩
    · rw [hm, hm']
    · rw [hsole, hempty] at hd'
      exact absurd hd'.1 List.not_mem_nil
    · exact absurd (List.perm_nil.1 (hempty ▸ hperm)) hne'
  · rw [hm]
    exact (selectTarget_ok_iff hauto').2 ⟨d, (hsole d).2 hd, rfl⟩
  · rcases selectTarget_cases hauto' with ⟨hempty', -⟩ | ⟨d', hd', -⟩ | ⟨-, -, hm'⟩
    · exact absurd (List.nil_perm.1 (hempty' ▸ hperm)) hne
    · exact absurd ((hsole d').1 hd') (hnone d')
    · rw [hm, hm']

end Machine

end SuderraOs.Install
