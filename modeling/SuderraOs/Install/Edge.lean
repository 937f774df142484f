import Mathlib.Logic.Function.Basic
import SuderraOs.Install.EdgeVersion
import SuderraOs.Lib.Run
import SuderraOs.Lib.Script

/-!
# Installing an Edge release

`suderra-edge-install` over the files it works on: the binaries of the releases, the `current` link, the configuration and the
recorded state. The manifest and the artifact are verified before (`stage`), and everything after the switch of the link is
`activate`. `set -e` ends the script at a failed command; three of the checks roll the link back by hand. A run that fails after the
switch leaves the agent as it was exactly when its failing step is one of these or had nothing left to change
(`failed_install_keeps_agent_iff`).

A shell variable holds no NUL character, and a link target names its directory whatever the links are.
-/

namespace SuderraOs.Install

open Text Script

/-- A file: what it holds, its mode and its owner. -/
structure File where
  content : List Char
  mode : Nat
  owner : String
  deriving DecidableEq

/-- The files the script works on: `suderra-agent` and `.suderra-agent.new` in each directory, the target of `current`,
`config.yaml`, `current.env` and `current.env.tmp`. -/
structure Device (D : Type) where
  binary : D → Option File
  staged : D → Option File
  link : Option (List Char)
  config : Option File
  currentEnv : Option File
  envTmp : Option File

/-- The commands of the script in their order; a test of a file is one. The last three are those of the rollback. -/
inductive Command where
  | mkdirState
  | fetchManifest
  | manifestFile
  | verifierFile
  | publicKeyFile
  | detectBoard
  | plan
  | cleanExtract
  | mkdirRelease
  | fetchArtifact
  | verifyArtifact
  | untar
  | installBinary
  | chownBinary
  | renameBinary
  | link
  | installConfig
  | chownConfig
  | chmodConfig
  | daemonReload
  | enable
  | restart
  | isActive
  | lockdown
  | writeEnv
  | renameEnv
  | chmodEnv
  | relink
  | unlink
  | restartOld
  deriving DecidableEq

/-- One run of the script: its arguments and environment, what the verified plan says, what it finds (`candidate` is the binary in
the artifact and `payload` the configuration, empty if there is none), the mode its umask gives a new file, how its commands end and
what the ones that fail half way leave. -/
structure Invocation where
  manifest : Bool
  manifestUrl : List Char
  version : List Char
  url : List Char
  sha256 : List Char
  binaryName : List Char
  format : List Char
  candidate : Option (List Char)
  payload : List Char
  lockdownAfterInstall : Bool
  allowRollback : Bool
  newMode : Nat
  result : Command → CommandResult
  leftStaged : Option File
  leftLink : Option (List Char)
  leftRelink : Option (List Char)
  leftConfig : Option File
  leftTmp : Option File

abbrev EdgeM (D : Type) := Effect Stop (Device D)

/-! ## The recorded version -/

/-- `sed -n 's/^VERSION=//p' current.env | head -n 1`. -/
def currentVersion (content : List Char) : List Char :=
  ((content.splitOn '\n').filterMap (stripPrefix "VERSION=".toList)).head?.getD []

/-- What the script writes to `current.env`. -/
def Invocation.envText (i : Invocation) : List Char :=
  "VERSION=".toList ++ (i.version ++ '\n' :: ("ARTIFACT_SHA256=".toList ++ (i.sha256 ++ '\n' ::
    ("BINARY_NAME=".toList ++ (i.binaryName ++ '\n' :: ("FORMAT=".toList ++ (i.format ++ ['\n'])))))))

/-- The monotonic guard: the key of the version is below that of the recorded one. -/
def refusesDowngrade {D : Type} (invalid : List Char → Nat) (i : Invocation) (s : Device D) : Bool :=
  s.currentEnv.any fun env =>
    currentVersion env.content ≠ [] && decide (versionKey invalid i.version < versionKey invalid (currentVersion env.content)) &&
      !i.allowRollback

/-! ## The script -/

section Script

variable {D : Type} [DecidableEq D] (dir : List Char → D) (invalid : List Char → Nat) (i : Invocation)

/-- The target the link is given. -/
def Invocation.target : List Char := "releases/".toList ++ i.version

/-- The directory of the release. -/
def Invocation.releaseDir : D := dir i.target

/-- The binary as `install` and `chown` leave it. -/
def Invocation.newBinary : Option File := i.candidate.map fun content => ⟨content, 0o755, "root:root"⟩

/-- `install` of the binary next to its place. -/
def stageBinary : EdgeM D Unit := do
  require i.candidate.isSome
  needLeaving i.result .installBinary (fun s => { s with staged := Function.update s.staged (i.releaseDir dir) i.newBinary })
    fun s => { s with staged := Function.update s.staged (i.releaseDir dir) i.leftStaged }
  need i.result .chownBinary some
  need i.result .renameBinary fun s =>
    some { s with
      binary := Function.update s.binary (i.releaseDir dir) (s.staged (i.releaseDir dir))
      staged := Function.update s.staged (i.releaseDir dir) none }

/-- The script up to the verified plan. -/
def planRelease : EdgeM D Unit := do
  need i.result .mkdirState some
  runIf (i.manifestUrl ≠ []) (do
    require ("https://".toList.isPrefixOf i.manifestUrl)
    need i.result .fetchManifest some)
  require (i.manifest || i.manifestUrl ≠ [])
  need i.result .manifestFile some
  need i.result .verifierFile some
  need i.result .publicKeyFile some
  need i.result .detectBoard some
  need i.result .plan some
  require (i.version ≠ [] && i.url ≠ [] && i.sha256 ≠ [])

/-- The download, the verification and the extraction of the artifact. -/
def fetchRelease : EdgeM D Unit := do
  need i.result .cleanExtract some
  need i.result .mkdirRelease some
  require ("https://".toList.isPrefixOf i.url)
  need i.result .fetchArtifact some
  need i.result .verifyArtifact some
  require (i.format ∈ ["tar.gz".toList, "tgz".toList, "raw".toList, "bin".toList])
  runIf (i.format ∈ ["tar.gz".toList, "tgz".toList]) (need i.result .untar some)

/-- The script up to the switch of the link; the value is the link's old target. -/
def stage : EdgeM D (Option (List Char)) := do
  planRelease i
  Effect.read fun s => if refusesDowngrade invalid i s then .error .exit else .ok ()
  fetchRelease i
  stageBinary dir i
  let old ← Effect.read fun s => .ok s.link
  needLeaving i.result .link (fun s => { s with link := some i.target }) fun s => { s with link := i.leftLink }
  pure old

/-- Put the link back, or remove it if there was none. -/
def rollbackLink (old : Option (List Char)) : EdgeM D Unit :=
  match old with
  | some target => needLeaving i.result .relink (fun s => { s with link := some target }) fun s => { s with link := i.leftRelink }
  | none => need i.result .unlink fun s => some { s with link := none }

/-- The rollback of a failed service, which restarts the old one. -/
def rollbackService (old : Option (List Char)) : EdgeM D Unit := do
  rollbackLink i old
  runIf old.isSome (do
    let _ ← command i.result .restartOld some
    pure ())
  require false

def installConfig (old : Option (List Char)) : EdgeM D Unit :=
  if i.payload ≠ [] then
    needLeaving i.result .installConfig (fun s => { s with config := some ⟨i.payload, 0o600, "root:root"⟩ })
      fun s => { s with config := i.leftConfig }
  else do
    rollbackLink i old
    require false

/-- Work on `config.yaml`, if it is there. -/
def Device.onConfig (s : Device D) (f : File → File) : Option (Device D) :=
  s.config.map fun file => { s with config := some (f file) }

def protectConfig : EdgeM D Unit := do
  let _ ← command i.result .chownConfig fun s : Device D => s.onConfig fun file => { file with owner := "root:suderra" }
  need i.result .chmodConfig fun s : Device D => s.onConfig fun file => { file with mode := 0o640 }

/-- `systemctl restart` and then `is-active`. -/
def restartService : EdgeM D Bool := do
  let restarted ← command i.result .restart some
  if restarted then command i.result .isActive some else pure false

def startService (old : Option (List Char)) : EdgeM D Unit := do
  let active ← restartService i
  runIf (!active) (rollbackService i old)

def lockDown (old : Option (List Char)) : EdgeM D Unit :=
  runIf i.lockdownAfterInstall (do
    let locked ← command i.result .lockdown some
    runIf (!locked) (rollbackService i old))

/-- `current.env.tmp` once it is written: an old one keeps its mode and owner. -/
def Device.writtenEnv (s : Device D) (i : Invocation) : File :=
  (s.envTmp.map fun file => { file with content := i.envText }).getD ⟨i.envText, i.newMode, "root:root"⟩

def recordState : EdgeM D Unit := do
  needLeaving i.result .writeEnv (fun s => { s with envTmp := some (s.writtenEnv i) }) fun s => { s with envTmp := i.leftTmp }
  need i.result .renameEnv fun s => some { s with currentEnv := s.envTmp, envTmp := none }
  need i.result .chmodEnv fun s => some { s with currentEnv := s.currentEnv.map fun file => { file with mode := 0o600 } }

/-- The script after the switch of the link. -/
def activate (old : Option (List Char)) : EdgeM D Unit := do
  installConfig i old
  protectConfig i
  need i.result .daemonReload some
  need i.result .enable some
  startService i old
  lockDown i old
  recordState i

/-- `suderra-edge-install`. -/
def install : EdgeM D Unit := do
  let old ← stage dir invalid i
  activate i old

end Script

/-! ## The steps that can fail -/

/-- The steps after the switch of the link that can end the script. -/
inductive ActivationStep where
  | payload
  | installConfig
  | chmodConfig
  | daemonReload
  | enable
  | service
  | lockdown
  | writeEnv
  | renameEnv
  | chmodEnv
  deriving DecidableEq

def Invocation.fails (i : Invocation) : ActivationStep → Bool
  | .payload => i.payload = []
  | .installConfig => i.result .installConfig = .fails
  | .chmodConfig => i.result .chmodConfig = .fails
  | .daemonReload => i.result .daemonReload = .fails
  | .enable => i.result .enable = .fails
  | .service => i.result .restart = .fails || i.result .isActive = .fails
  | .lockdown => i.lockdownAfterInstall && i.result .lockdown = .fails
  | .writeEnv => i.result .writeEnv = .fails
  | .renameEnv => i.result .renameEnv = .fails
  | .chmodEnv => i.result .chmodEnv = .fails

/-- The first step that fails. -/
def Invocation.failingStep (i : Invocation) : Option ActivationStep :=
  [.payload, .installConfig, .chmodConfig, .daemonReload, .enable, .service, .lockdown, .writeEnv, .renameEnv, .chmodEnv].find? i.fails

/-- The steps whose failure the script answers with a rollback of the link. -/
def ActivationStep.rollsBack : ActivationStep → Bool
  | .payload | .service | .lockdown => true
  | _ => false

/-- The owner `config.yaml` gets from a `chown` that may fail. -/
def Invocation.owner (i : Invocation) (owner : String) : String := if i.result .chownConfig = .ok then "root:suderra" else owner

/-- The configuration was before what the run has made of it when a step fails. -/
def ActivationStep.FindsConfig (i : Invocation) (config : Option File) : ActivationStep → Prop
  | .payload => True
  | .installConfig => config = i.leftConfig
  | .chmodConfig => config = some ⟨i.payload, 0o600, i.owner "root:root"⟩
  | _ => config = some ⟨i.payload, 0o640, i.owner "root:root"⟩

section Agent

variable {D : Type} [DecidableEq D] (dir : List Char → D) (invalid : List Char → Nat) (i : Invocation) (s s' : Device D)

/-- The binary reached through the link. -/
def Device.running : Option File := s.link.bind fun target => s.binary (dir target)

/-- A version is installed: the link leads to a binary, and there are a configuration and a recorded state. -/
structure Installed : Prop where
  running : (s.running dir).isSome = true
  config : s.config.isSome = true
  currentEnv : s.currentEnv.isSome = true

/-- The agent is as it was: the link, the binary behind it, the configuration and the recorded state. -/
structure SameAgent : Prop where
  link : s'.link = s.link
  running : s'.running dir = s.running dir
  config : s'.config = s.config
  currentEnv : s'.currentEnv = s.currentEnv

/-- What a run that fails at a step finds already done, so that its failure changes nothing: the link is rolled back or named the
release before, the directory it names is another or held the same binary, and the configuration and the state that were written
are what was there. -/
structure NothingToUndo (old : List Char) (k : ActivationStep) : Prop where
  link : if k.rollsBack then i.result .relink = .ok ∨ i.leftRelink = some old else old = i.target
  binary : dir old = i.releaseDir dir → s.binary (dir old) = i.newBinary
  config : k.FindsConfig i s.config
  currentEnv : k = .chmodEnv → s.currentEnv = some (s.writtenEnv i)

end Agent

/-! ## What the parts of the script do -/

section Parts

variable {D : Type} {dir : List Char → D} {invalid : List Char → Nat} {i : Invocation} {s : Device D} {target : List Char}

theorem planRelease_keeps (i : Invocation) (I : Device D → Prop) : (planRelease i).Keeps I := by
  refine Effect.keeps_bind (keeps_need_some i.result .mkdirState) fun _ => ?_
  refine Effect.keeps_bind (keeps_runIf _ (Effect.keeps_bind (keeps_require _) fun _ => keeps_need_some i.result _)) fun _ => ?_
  refine Effect.keeps_bind (keeps_require _) fun _ => ?_
  refine Effect.keeps_bind (keeps_need_some i.result .manifestFile) fun _ => ?_
  refine Effect.keeps_bind (keeps_need_some i.result .verifierFile) fun _ => ?_
  refine Effect.keeps_bind (keeps_need_some i.result .publicKeyFile) fun _ => ?_
  refine Effect.keeps_bind (keeps_need_some i.result .detectBoard) fun _ => ?_
  exact Effect.keeps_bind (keeps_need_some i.result .plan) fun _ => keeps_require _

theorem fetchRelease_keeps (i : Invocation) (I : Device D → Prop) : (fetchRelease i).Keeps I := by
  refine Effect.keeps_bind (keeps_need_some i.result .cleanExtract) fun _ => ?_
  refine Effect.keeps_bind (keeps_need_some i.result .mkdirRelease) fun _ => ?_
  refine Effect.keeps_bind (keeps_require _) fun _ => ?_
  refine Effect.keeps_bind (keeps_need_some i.result .fetchArtifact) fun _ => ?_
  refine Effect.keeps_bind (keeps_need_some i.result .verifyArtifact) fun _ => ?_
  exact Effect.keeps_bind (keeps_require _) fun _ => keeps_runIf _ (keeps_need_some i.result .untar)

/-- What the switch of the link finds done: the binary is in the release directory and the link names it, and nothing else that the
agent reads has changed. -/
structure Switched [DecidableEq D] (dir : List Char → D) (i : Invocation) (s s' : Device D) : Prop where
  binary : s'.binary = Function.update s.binary (i.releaseDir dir) i.newBinary
  link : s'.link = some i.target
  config : s'.config = s.config
  currentEnv : s'.currentEnv = s.currentEnv
  envTmp : s'.envTmp = s.envTmp

/-- Before the switch the recorded state stays, and a run that gets there passed the guard. -/
theorem stage_wp [DecidableEq D] : (stage dir invalid i).wp
    (fun old s' => old = s.link ∧ Switched dir i s s' ∧ refusesDowngrade invalid i s = false)
    (fun _ s' => s'.currentEnv = s.currentEnv) s := by
  refine Effect.wp_bind (Effect.wp_mono (planRelease_keeps i (s = ·) s rfl) ?_ fun _ _ h => congrArg _ h.symm)
  rintro _ _ rfl
  refine Effect.wp_bind (Effect.wp_read (fun _ hguard => ?_) fun _ _ => rfl)
  have hguard : refusesDowngrade invalid i s = false := by
    by_contra hrefuses
    rw [if_pos (Bool.of_not_eq_false hrefuses)] at hguard
    cases hguard
  refine Effect.wp_bind (Effect.wp_mono (fetchRelease_keeps i (s = ·) s rfl) ?_ fun _ _ h => congrArg _ h.symm)
  rintro _ _ rfl
  refine Effect.wp_bind (Effect.wp_bind (wp_require (fun _ => ?_) fun _ => rfl))
  refine Effect.wp_bind (wp_needLeaving (fun _ => ?_) (fun _ => rfl) fun _ => rfl)
  refine Effect.wp_bind (wp_need_some (fun _ => ?_) fun _ => rfl)
  refine wp_need (fun s' _ hact => ?_) fun _ _ => rfl
  cases hact
  refine Effect.wp_bind (Effect.wp_read (fun old hold => ?_) fun _ _ => rfl)
  refine Effect.wp_bind (wp_needLeaving (fun _ => ?_) (fun _ => rfl) fun _ => rfl)
  refine Effect.wp_pure ⟨?_, ⟨?_, rfl, rfl, rfl, rfl⟩, hguard⟩
  · exact (Except.ok.inj hold).symm
  · simp

/-- The link after a rollback to `target` that may have failed. -/
def Invocation.relinked (i : Invocation) (target : List Char) : Option (List Char) :=
  if i.result .relink = .ok then some target else i.leftRelink

theorem rollbackLink_wp : (rollbackLink i (some target)).wp (fun _ s' => s' = { s with link := i.relinked target })
    (fun e s' => e = .exit → s' = { s with link := i.relinked target }) s := by
  refine wp_needLeaving (fun hc => ?_) (fun hc _ => ?_) fun _ h => ?_
  · simp [Invocation.relinked, hc]
  · simp [Invocation.relinked, hc]
  · cases h

theorem rollbackService_wp {Q : Unit → Device D → Prop} : (rollbackService i (some target)).wp Q
    (fun e s' => e = .exit → s' = { s with link := i.relinked target }) s := by
  refine Effect.wp_bind (Effect.wp_mono rollbackLink_wp (fun _ s' hs' => ?_) fun _ _ h => h)
  refine Effect.wp_bind (wp_runIf (fun _ => ?_) fun h => by cases h)
  refine Effect.wp_bind (wp_command (fun s'' _ hact => ?_) (fun _ => ?_) fun _ h => by cases h)
  · cases hact
    exact Effect.wp_pure (wp_require (fun h => by cases h) fun _ _ => hs')
  · exact Effect.wp_pure (wp_require (fun h => by cases h) fun _ _ => hs')

/-- A payload is installed, and without one, or when it cannot be, the run fails. -/
theorem installConfig_wp : (installConfig i (some target)).wp
    (fun _ s' => i.fails .payload = false ∧ i.fails .installConfig = false ∧
      s' = { s with config := some ⟨i.payload, 0o600, "root:root"⟩ })
    (fun e s' => e = .exit → i.fails .payload = true ∧ s' = { s with link := i.relinked target } ∨
      i.fails .payload = false ∧ i.fails .installConfig = true ∧ s' = { s with config := i.leftConfig }) s := by
  unfold installConfig
  split
  · rename_i hpayload
    refine wp_needLeaving (fun hc => ?_) (fun hc _ => ?_) fun _ h => by cases h
    · simp [Invocation.fails, hpayload, hc]
    · right
      simp [Invocation.fails, hpayload, hc]
  · rename_i hpayload
    have hfails : i.fails .payload = true := by simpa [Invocation.fails] using hpayload
    refine Effect.wp_bind (Effect.wp_mono rollbackLink_wp (fun _ s' hs' => ?_) fun _ _ h he => Or.inl ⟨hfails, h he⟩)
    exact wp_require (fun h => by cases h) fun _ _ => Or.inl ⟨hfails, hs'⟩

theorem protectConfig_wp {file : File} (hconfig : s.config = some file) : (protectConfig i).wp
    (fun _ s' => i.fails .chmodConfig = false ∧ s' = { s with config := some ⟨file.content, 0o640, i.owner file.owner⟩ })
    (fun e s' => e = .exit → i.fails .chmodConfig = true ∧
      s' = { s with config := some ⟨file.content, file.mode, i.owner file.owner⟩ }) s := by
  have hchmod {file : File} : (need i.result .chmodConfig fun s : Device D => s.onConfig fun file => { file with mode := 0o640 }).wp
      (fun _ s' => i.fails .chmodConfig = false ∧ s' = { s with config := some { file with mode := 0o640 } })
      (fun e s' => e = .exit → i.fails .chmodConfig = true ∧ s' = { s with config := some file })
      { s with config := some file } := by
    refine wp_need_cases (fun s' hc hact => ?_) (fun hc _ => ?_) fun _ h => by cases h
    · cases hact
      exact ⟨by simp [Invocation.fails, hc], rfl⟩
    · rcases hc with hc | ⟨-, hact⟩
      · exact ⟨by simp [Invocation.fails, hc], rfl⟩
      · simp [Device.onConfig] at hact
  refine Effect.wp_bind (wp_command (fun s' hc hact => ?_) (fun hc => ?_) fun _ h => by cases h)
  · rw [Device.onConfig, hconfig] at hact
    cases hact
    simpa only [Invocation.owner, hc, if_true] using hchmod
  · have hc : i.result .chownConfig ≠ .ok := by
      rcases hc with hc | ⟨-, hact⟩
      · simp [hc]
      · simp [Device.onConfig, hconfig] at hact
    have hs : s = { s with config := some file } := by rw [← hconfig]
    rw [hs]
    simpa only [Invocation.owner, hc, if_false] using hchmod

/-- A step that is one command, which does nothing to the device. -/
theorem wp_step (step : ActivationStep) {c : Command} (hstep : i.fails step = decide (i.result c = .fails)) :
    (need i.result c some).wp (fun _ s' => i.fails step = false ∧ s' = s) (fun e s' => e = .exit → i.fails step = true ∧ s' = s)
      s := by
  refine wp_need_cases (fun s' hc hact => ?_) (fun hc _ => ?_) fun _ h => by cases h
  · cases hact
    exact ⟨by simp [hstep, hc], rfl⟩
  · exact ⟨by simpa [hstep] using hc, rfl⟩

theorem restartService_wp : (restartService i).wp (fun active s' => i.fails .service = !active ∧ s' = s) (fun e _ => e ≠ .exit)
    s := by
  refine Effect.wp_bind (wp_command (fun s' hc hact => ?_) (fun hc => ?_) fun _ h => by cases h)
  · cases hact
    rw [if_pos rfl]
    refine wp_command (fun s' hc' hact => ?_) (fun hc' => ?_) fun _ h => by cases h
    · cases hact
      exact ⟨by simp [Invocation.fails, hc, hc'], rfl⟩
    · have hc' : i.result .isActive = .fails := by simpa using hc'
      exact ⟨by simp [Invocation.fails, hc'], rfl⟩
  · have hc : i.result .restart = .fails := by simpa using hc
    exact Effect.wp_pure ⟨by simp [Invocation.fails, hc], rfl⟩

theorem startService_wp : (startService i (some target)).wp (fun _ s' => i.fails .service = false ∧ s' = s)
    (fun e s' => e = .exit → i.fails .service = true ∧ s' = { s with link := i.relinked target }) s := by
  refine Effect.wp_bind (Effect.wp_mono restartService_wp ?_ fun _ _ h he => absurd he h)
  rintro active _ ⟨hfails, rfl⟩
  refine wp_runIf (fun hactive => ?_) fun hactive => ⟨by simp_all, rfl⟩
  exact Effect.wp_mono rollbackService_wp (fun _ _ h => h) fun _ _ h he => ⟨by simp_all, h he⟩

theorem lockDown_wp : (lockDown i (some target)).wp (fun _ s' => i.fails .lockdown = false ∧ s' = s)
    (fun e s' => e = .exit → i.fails .lockdown = true ∧ s' = { s with link := i.relinked target }) s := by
  refine wp_runIf (fun hlockdown => ?_) fun hlockdown => ⟨by simp [Invocation.fails, hlockdown], rfl⟩
  refine Effect.wp_bind (wp_command (fun s' hc hact => ?_) (fun hc => ?_) fun _ h => by cases h)
  · cases hact
    exact wp_runIf (fun h => by cases h) fun _ => ⟨by simp [Invocation.fails, hc], rfl⟩
  · have hfails : i.fails .lockdown = true := by
      have hc : i.result .lockdown = .fails := by simpa using hc
      simp [Invocation.fails, hlockdown, hc]
    refine wp_runIf (fun _ => ?_) fun h => by cases h
    exact Effect.wp_mono rollbackService_wp (fun _ _ h => h) fun _ _ h he => ⟨hfails, h he⟩

/-- Of the three steps that record the state, only the last finds it changed. -/
theorem recordState_wp : (recordState i).wp (fun _ _ => True)
    (fun e s' => e = .exit →
      i.fails .writeEnv = true ∧ s' = { s with envTmp := i.leftTmp } ∨
      i.fails .writeEnv = false ∧ i.fails .renameEnv = true ∧ s' = { s with envTmp := some (s.writtenEnv i) } ∨
      i.fails .writeEnv = false ∧ i.fails .renameEnv = false ∧ i.fails .chmodEnv = true ∧
        s' = { s with currentEnv := some (s.writtenEnv i), envTmp := none }) s := by
  refine Effect.wp_bind (wp_needLeaving (fun hwrite => ?_) (fun hc _ => Or.inl ⟨by simp [Invocation.fails, hc], rfl⟩)
    fun _ h => by cases h)
  have hwrite : i.fails .writeEnv = false := by simp [Invocation.fails, hwrite]
  refine Effect.wp_bind (wp_need_cases (fun s' hrename hact => ?_) (fun hc _ => ?_) fun _ h => by cases h)
  · cases hact
    have hrename : i.fails .renameEnv = false := by simp [Invocation.fails, hrename]
    refine wp_need_cases (fun _ _ _ => trivial) (fun hc _ => ?_) fun _ h => by cases h
    have hc : i.result .chmodEnv = .fails := by simpa using hc
    exact Or.inr (Or.inr ⟨hwrite, hrename, by simp [Invocation.fails, hc], rfl⟩)
  · have hc : i.result .renameEnv = .fails := by simpa using hc
    exact Or.inr (Or.inl ⟨hwrite, by simp [Invocation.fails, hc], rfl⟩)

/-- The configuration a failed step leaves. -/
def ActivationStep.configLeft (i : Invocation) (config : Option File) : ActivationStep → Option File
  | .payload => config
  | .installConfig => i.leftConfig
  | .chmodConfig => some ⟨i.payload, 0o600, i.owner "root:root"⟩
  | _ => some ⟨i.payload, 0o640, i.owner "root:root"⟩

/-- What a failed step leaves, from the device that the switch of the link left. -/
structure LeftAt (i : Invocation) (target : List Char) (s s' : Device D) (k : ActivationStep) : Prop where
  first : i.failingStep = some k
  binary : s'.binary = s.binary
  link : s'.link = if k.rollsBack then i.relinked target else s.link
  config : s'.config = k.configLeft i s.config
  currentEnv : s'.currentEnv = if k = .chmodEnv then some (s.writtenEnv i) else s.currentEnv

/-- Step by step, what a run that exits after the switch leaves. -/
theorem activate_wp : (activate i (some target)).wp (fun _ _ => True) (fun e s' => e = .exit → ∃ k, LeftAt i target s s' k) s := by
  refine Effect.wp_bind (Effect.wp_mono installConfig_wp ?_ fun _ s' h he => ?_)
  swap
  · rcases h he with ⟨hpayload, rfl⟩ | ⟨hpayload, hconfig, rfl⟩
    · exact ⟨.payload, by simp [Invocation.failingStep, *], rfl, rfl, rfl, rfl⟩
    · exact ⟨.installConfig, by simp [Invocation.failingStep, *], rfl, rfl, rfl, rfl⟩
  rintro _ _ ⟨hpayload, hconfig, rfl⟩
  refine Effect.wp_bind (Effect.wp_mono (protectConfig_wp rfl) ?_ fun _ s' h he => ?_)
  swap
  · obtain ⟨hchmod, rfl⟩ := h he
    exact ⟨.chmodConfig, by simp [Invocation.failingStep, *], rfl, rfl, rfl, rfl⟩
  rintro _ _ ⟨hchmod, rfl⟩
  refine Effect.wp_bind (Effect.wp_mono (wp_step .daemonReload rfl) ?_ fun _ s' h he => ?_)
  swap
  · obtain ⟨hreload, rfl⟩ := h he
    exact ⟨.daemonReload, by simp [Invocation.failingStep, *], rfl, rfl, rfl, rfl⟩
  rintro _ _ ⟨hreload, rfl⟩
  refine Effect.wp_bind (Effect.wp_mono (wp_step .enable rfl) ?_ fun _ s' h he => ?_)
  swap
  · obtain ⟨henable, rfl⟩ := h he
    exact ⟨.enable, by simp [Invocation.failingStep, *], rfl, rfl, rfl, rfl⟩
  rintro _ _ ⟨henable, rfl⟩
  refine Effect.wp_bind (Effect.wp_mono startService_wp ?_ fun _ s' h he => ?_)
  swap
  · obtain ⟨hservice, rfl⟩ := h he
    exact ⟨.service, by simp [Invocation.failingStep, *], rfl, rfl, rfl, rfl⟩
  rintro _ _ ⟨hservice, rfl⟩
  refine Effect.wp_bind (Effect.wp_mono lockDown_wp ?_ fun _ s' h he => ?_)
  swap
  · obtain ⟨hlockdown, rfl⟩ := h he
    exact ⟨.lockdown, by simp [Invocation.failingStep, *], rfl, rfl, rfl, rfl⟩
  rintro _ _ ⟨hlockdown, rfl⟩
  refine Effect.wp_mono recordState_wp (fun _ _ h => h) fun _ s' h he => ?_
  rcases h he with ⟨hwrite, rfl⟩ | ⟨hwrite, hrename, rfl⟩ | ⟨hwrite, hrename, hchmodEnv, rfl⟩
  · exact ⟨.writeEnv, by simp [Invocation.failingStep, *], rfl, rfl, rfl, rfl⟩
  · exact ⟨.renameEnv, by simp [Invocation.failingStep, *], rfl, rfl, rfl, rfl⟩
  · exact ⟨.chmodEnv, by simp [Invocation.failingStep, *], rfl, rfl, rfl, rfl⟩

end Parts

/-! ## A failed run -/

section Failure

variable {D : Type} [DecidableEq D] (dir : List Char → D) (invalid : List Char → Nat) (i : Invocation)

/-- A run that fails after it switched the link leaves the agent as it was exactly when its failing step finds nothing to undo. -/
theorem failed_install_keeps_agent_iff {s s₁ s' : Device D} {old : List Char} {found : Option (List Char)} (hold : s.link = some old)
    (hswitched : (stage dir invalid i).run s = (.ok found, s₁)) (hfailed : (install dir invalid i).run s = (.error .exit, s')) :
    SameAgent dir s s' ↔ ∃ k, i.failingStep = some k ∧ NothingToUndo dir i s old k := by
  obtain ⟨rfl, hs₁, -⟩ := stage_wp.ok hswitched
  rw [install, Effect.run_bind_ok hswitched, hold] at hfailed
  obtain ⟨k, hk⟩ := activate_wp.error hfailed rfl
  have hlink : s'.link = s.link ↔ if k.rollsBack then i.result .relink = .ok ∨ i.leftRelink = some old else old = i.target := by
    rw [hk.link, hs₁.link, hold, Invocation.relinked]
    cases k.rollsBack <;> by_cases hc : i.result .relink = .ok <;> simp [hc, eq_comm]
  have hrunning (h : s'.link = s.link) :
      s'.running dir = s.running dir ↔ (dir old = i.releaseDir dir → s.binary (dir old) = i.newBinary) := by
    rw [Device.running, Device.running, h, hold, hk.binary, hs₁.binary, Option.bind_some, Option.bind_some]
    by_cases hdir : dir old = i.releaseDir dir
    · simp [hdir, eq_comm]
    · simp [hdir]
  have hconfig : s'.config = s.config ↔ k.FindsConfig i s.config := by
    rw [hk.config, hs₁.config]
    cases k <;> simp [ActivationStep.configLeft, ActivationStep.FindsConfig, eq_comm]
  have henv : s'.currentEnv = s.currentEnv ↔ (k = .chmodEnv → s.currentEnv = some (s.writtenEnv i)) := by
    have hwritten : s₁.writtenEnv i = s.writtenEnv i := by rw [Device.writtenEnv, Device.writtenEnv, hs₁.envTmp]
    rw [hk.currentEnv, hs₁.currentEnv, hwritten]
    by_cases h : k = .chmodEnv <;> simp [h, eq_comm]
  constructor
  · intro h
    exact ⟨k, hk.first, hlink.1 h.link, (hrunning h.link).1 h.running, hconfig.1 h.config, henv.1 h.currentEnv⟩
  · rintro ⟨k', hk', h⟩
    obtain rfl : k = k' := Option.some.inj (hk.first.symm.trans hk')
    have hl := hlink.2 h.link
    exact ⟨hl, (hrunning hl).2 h.binary, hconfig.2 h.config, henv.2 h.currentEnv⟩

end Failure

/-- A device that runs release 1.0.0. -/
def sampleDevice : Device (List Char) where
  binary := Function.update (fun _ => none) "releases/1.0.0".toList (some ⟨"agent 1.0.0".toList, 0o755, "root:root"⟩)
  staged := fun _ => none
  link := some "releases/1.0.0".toList
  config := some ⟨"old".toList, 0o640, "root:suderra"⟩
  currentEnv := some ⟨"VERSION=1.0.0\n".toList, 0o600, "root:root"⟩
  envTmp := none

/-- A run on a device where only the given commands fail. -/
def Invocation.failingAt (version : String) (failing : List Command) : Invocation where
  manifest := true
  manifestUrl := []
  version := version.toList
  url := "https://edge".toList
  sha256 := "00".toList
  binaryName := "suderra-agent".toList
  format := "raw".toList
  candidate := some ("agent ".toList ++ version.toList)
  payload := "new".toList
  lockdownAfterInstall := true
  allowRollback := false
  newMode := 0o644
  result := fun c => if c ∈ failing then .fails else .ok
  leftStaged := none
  leftLink := none
  leftRelink := none
  leftConfig := none
  leftTmp := none

/-- The restart of 1.1.0 fails: the link is rolled back, but the new configuration stays. -/
theorem failed_install_sample :
    SameAgent id sampleDevice ((install id (fun _ => 0) (.failingAt "1.1.0" [.restart])).run sampleDevice).2 ↔
      ∃ k, (Invocation.failingAt "1.1.0" [.restart]).failingStep = some k ∧
        NothingToUndo id (.failingAt "1.1.0" [.restart]) sampleDevice "releases/1.0.0".toList k :=
  failed_install_keeps_agent_iff id (fun _ => 0) _ rfl rfl rfl

/-- Not every failed run leaves the agent as it was: where `daemon-reload` fails, the link names the new release. -/
theorem failed_install_switches :
    ¬ ∀ (i : Invocation) (s s₁ s' : Device (List Char)) (found : Option (List Char)), Installed id s →
      (stage id (fun _ => 0) i).run s = (.ok found, s₁) → (install id (fun _ => 0) i).run s = (.error .exit, s') →
      SameAgent id s s' := by
  intro h
  have := h (.failingAt "1.1.0" [.daemonReload]) sampleDevice _ _ _ ⟨rfl, rfl, rfl⟩ rfl rfl
  exact absurd this.link (by decide +kernel)

end SuderraOs.Install
