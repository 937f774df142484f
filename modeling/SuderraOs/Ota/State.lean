import SuderraOs.Ota.Device

/-!
# Loading and saving the state

`load_state` with the two anti-rollback guards it carries (the production gate on the trusted floor source and the clamp of the
state's floor to the trusted one), and the three writers of the state directory. What a load can give is said once
(`loadState_ok`); from it come the pending update of `state.json` (`loadState_pending`) and a floor that is at least the trusted
and the stored one (`loadState_trusted`, `loadState_stored`).
-/

namespace SuderraOs.Ota

open Text

/-! ## The trusted floor -/

/-- `trusted_rollback_floor` with what reading the source gives. -/
def trustedRollbackFloor (env : Env) (source : Option String) : Except Error (Option String) :=
  match trustedFloorPath env with
  | none => .ok none
  | some path =>
    match source with
    | none => .error s!"cannot read trusted rollback floor {path}"
    | some raw =>
      if trim raw = "" then .error s!"trusted rollback floor {path} is empty"
      else
        match ParsedVersion.parse (trim raw) with
        | .error _ => .error s!"trusted rollback floor {trim raw} is not valid SemVer"
        | .ok _ => .ok (some (trim raw))

/-- The components of a path: the root, and the names between separators, where a `.` that is not first does not count. -/
def pathComponents (path : String) : List (List Char) :=
  let names := (path.toList.splitOn '/').filter (· ≠ [])
  match path.toList with
  | '/' :: _ => ['/'] :: names.filter (· ≠ ['.'])
  | _ => names.take 1 ++ (names.drop 1).filter (· ≠ ['.'])

/-- `Path::starts_with`. -/
def pathStartsWith (path base : String) : Bool := (pathComponents base).isPrefixOf (pathComponents path)

def productionRollbackFloorRequiresMonotonicState (env : Env) (source : Option String) : Except Error Unit :=
  if !isProduction env then .ok ()
  else
    match env "SUDERRA_OTA_ROLLBACK_FLOOR_SOURCE" with
    | none => .error
      "production anti-rollback requires SUDERRA_OTA_ROLLBACK_FLOOR_SOURCE=tpm-nv or bootloader-monotonic"
    | some kind =>
      if kind ≠ "tpm-nv" ∧ kind ≠ "bootloader-monotonic" then
        .error s!"production anti-rollback requires TPM NV or bootloader monotonic state, got {kind}"
      else
        match trustedFloorPath env with
        | none => .error ("production anti-rollback requires SUDERRA_OTA_ROLLBACK_FLOOR_SOURCE_PATH backed by the " ++
            "declared monotonic source")
        | some path =>
          if pathStartsWith path (stateDir env) then
            .error s!"rollback floor source path {path} must not live under the writable state dir {stateDir env}"
          else
            match trustedRollbackFloor env source with
            | .error e => .error e
            | .ok none => .error "production rollback floor source is configured but produced no value"
            | .ok (some _) => .ok ()

/-! ## Loading -/

/-- `read_rollback_floor`: the mirror under the state directory. -/
def readRollbackFloor (io : LoadIo) (dev : Device) : Option String :=
  if io.mirrorReadable then (dev.mirror.map trim).filter (· ≠ "") else none

/-- The first line of `/etc/os-release` that gives a version. -/
def versionLine : List (List Char) → Option String
  | [] => none
  | line :: rest =>
    match stripPrefix "VERSION_ID=".toList line with
    | some value =>
      let v := trimChars (trimMatches (· = '"') (trimChars value))
      if v ≠ [] then some (String.ofList v) else versionLine rest
    | none => versionLine rest

def runningImageVersion (io : LoadIo) : Option String := io.osRelease.bind fun text => versionLine (lines text.toList)

/-- The floor of a device without `state.json`. -/
def fallbackFloor (env : Env) (io : LoadIo) (dev : Device) : String :=
  ((devOverride env "SUDERRA_OTA_ROLLBACK_FLOOR").or (readRollbackFloor io dev)).getD "v0.1.0-alpha"

/-- The state of a device without `state.json`. -/
def initialState (env : Env) (io : LoadIo) (dev : Device) : OtaState where
  schemaVersion := stateSchema
  target := deviceTarget env
  currentVersion := ((devOverride env "SUDERRA_OTA_CURRENT_VERSION").or (runningImageVersion io)).getD
    (fallbackFloor env io dev)
  rollbackFloor := fallbackFloor env io dev
  pendingVersion := none
  pendingBootSlot := none
  rebootRequired := false
  lastEvent := none
  lastError := none

/-- `state_path()`. -/
def statePath (env : Env) : String := joinPath (stateDir env) "state.json"

/-- What `state.json` holds, or the state of a device without it. -/
def storedState (env : Env) (io : LoadIo) (dev : Device) : Except Error OtaState :=
  match dev.state with
  | .missing => .ok (initialState env io dev)
  | .malformed =>
    if io.stateReadable then .error s!"invalid OTA state JSON: {statePath env}" else .error s!"cannot read {statePath env}"
  | .parsed state =>
    if !io.stateReadable then .error s!"cannot read {statePath env}"
    else if state.schemaVersion ≠ stateSchema then .error s!"OTA state schema_version must be {stateSchema}"
    else .ok state

/-- The trusted floor is a lower bound of the state's floor. -/
def clampFloor (env : Env) (io : LoadIo) (state : OtaState) : Except Error OtaState :=
  match trustedRollbackFloor env io.clampSource with
  | .error e => .error e
  | .ok none => .ok state
  | .ok (some trusted) =>
    match compareVersions trusted state.rollbackFloor with
    | .error e => .error e
    | .ok .gt => .ok { state with rollbackFloor := trusted }
    | .ok _ => .ok state

def loadState (env : Env) (io : LoadIo) (dev : Device) : Except Error OtaState := do
  productionRollbackFloorRequiresMonotonicState env io.gateSource
  let state ← storedState env io dev
  clampFloor env io state

/-! ## Saving -/

/-- `save_state`: `state.json` is replaced whole, or stays as it was. -/
def saveState (env : Env) (result : WriteResult) (state : OtaState) : OtaM Unit :=
  match result with
  | .done => Effect.act (fun dev => { dev with state := .parsed state }) (.ok ())
  | .mkdirFailed os => Effect.ofExcept (.error os)
  | .writeFailed _ => Effect.ofExcept (.error s!"cannot write {statePath env}.tmp")
  | .renameFailed _ => Effect.ofExcept (.error s!"cannot atomically rename {statePath env}.tmp to {statePath env}")

/-- The last event `main` records after an error. -/
def persistLastEvent (io : Io) (error : Error) : OtaM Unit := do
  let state ← Effect.read (loadState io.env io.errLoad)
  saveState io.env io.errSave
    { state with lastEvent := some (eventJson io "error" "failed" (.obj []) (some error)), lastError := some error }

/-- `persist_rollback_floor`: the mirror is replaced whole, or stays as it was. -/
def persistRollbackFloor (io : Io) (version : String) : OtaM Unit := do
  Effect.ofExcept (productionRollbackFloorRequiresMonotonicState io.env io.mirrorSource)
  match io.mirrorSave with
  | .done => Effect.act (fun dev => { dev with mirror := some (version ++ "\n") }) (.ok ())
  | .mkdirFailed os => Effect.ofExcept (.error os)
  | .writeFailed os => Effect.ofExcept (.error os)
  | .renameFailed os => Effect.ofExcept (.error os)

/-! ## What a load gives -/

/-- A trusted floor is a version that parses. -/
theorem trustedRollbackFloor_parses {env : Env} {source : Option String} {t : String}
    (h : trustedRollbackFloor env source = .ok (some t)) : ∃ v, ParsedVersion.parse t = .ok v := by
  unfold trustedRollbackFloor at h
  split at h
  · cases h
  · split at h
    · cases h
    · split at h
      · cases h
      · split at h
        · cases h
        · rename_i v hv
          cases h
          exact ⟨v, hv⟩

/-- With a source configured, reading it gives a floor or fails. -/
theorem trustedRollbackFloor_ne_none {env : Env} {source : Option String} {path : String}
    (hpath : trustedFloorPath env = some path) : trustedRollbackFloor env source ≠ .ok none := by
  intro h
  simp only [trustedRollbackFloor, hpath] at h
  split at h
  · cases h
  · split at h
    · cases h
    · split at h <;> cases h

/-- In production the gate accepts only a source that gives a trusted floor. -/
theorem productionGate_ok {env : Env} {source : Option String} (hprod : isProduction env = true)
    (h : productionRollbackFloorRequiresMonotonicState env source = .ok ()) :
    ∃ t, trustedRollbackFloor env source = .ok (some t) := by
  simp only [productionRollbackFloorRequiresMonotonicState, hprod, Bool.not_true, Bool.false_eq_true, if_false] at h
  split at h
  · cases h
  · split at h
    · cases h
    · split at h
      · cases h
      · split at h
        · cases h
        · split at h
          · cases h
          · cases h
          · rename_i t ht
            exact ⟨t, ht⟩

/-- The clamp changes the floor and nothing else, and leaves it at the trusted floor or above. -/
theorem clampFloor_spec {env : Env} {io : LoadIo} {base state : OtaState} (h : clampFloor env io base = .ok state) :
    state = { base with rollbackFloor := state.rollbackFloor } ∧
    (state.rollbackFloor = base.rollbackFloor ∨ VersionLe base.rollbackFloor state.rollbackFloor) ∧
    (∀ t, trustedRollbackFloor env io.clampSource = .ok (some t) → VersionLe t state.rollbackFloor) := by
  unfold clampFloor at h
  cases ht : trustedRollbackFloor env io.clampSource with
  | error e => rw [ht] at h; cases h
  | ok trusted =>
    rw [ht] at h
    cases trusted with
    | none =>
      cases h
      exact ⟨rfl, Or.inl rfl, fun t h => by cases h⟩
    | some trusted =>
      simp only at h
      cases hc : compareVersions trusted base.rollbackFloor with
      | error e => rw [hc] at h; cases h
      | ok o =>
        rw [hc] at h
        cases o with
        | gt =>
          cases h
          obtain ⟨v, hv⟩ := trustedRollbackFloor_parses ht
          refine ⟨rfl, Or.inr (versionLe_of_not_lt hc (by decide)), fun t h => ?_⟩
          cases h
          exact VersionLe.refl_of_parse hv
        | lt =>
          cases h
          refine ⟨rfl, Or.inl rfl, fun t h => ?_⟩
          cases h
          exact versionLe_of_not_gt hc (by decide)
        | eq =>
          cases h
          refine ⟨rfl, Or.inl rfl, fun t h => ?_⟩
          cases h
          exact versionLe_of_not_gt hc (by decide)

/-- The state that a load starts from carries the pending update of `state.json`. -/
theorem storedState_pending {env : Env} {io : LoadIo} {dev : Device} {state : OtaState}
    (h : storedState env io dev = .ok state) :
    state.pendingVersion = dev.pendingVersion ∧ state.pendingBootSlot = dev.pendingBootSlot := by
  unfold storedState at h
  unfold Device.pendingVersion Device.pendingBootSlot
  split at h
  · cases h
    rename_i hs
    simp only [hs]
    exact ⟨rfl, rfl⟩
  · split at h <;> cases h
  · rename_i s hs
    split at h
    · cases h
    · split at h
      · cases h
      · cases h
        simp only [hs]
        exact ⟨trivial, trivial⟩

/-- A parsed `state.json` is the state a load starts from. -/
theorem storedState_of_parsed {env : Env} {io : LoadIo} {dev : Device} {state base : OtaState}
    (hdev : dev.state = .parsed base) (h : storedState env io dev = .ok state) : state = base := by
  simp only [storedState, hdev] at h
  split at h
  · cases h
  · split at h
    · cases h
    · exact (Except.ok.inj h).symm

/-- A load that succeeds passed the gate, started from a stored state and clamped its floor. -/
theorem loadState_ok {env : Env} {io : LoadIo} {dev : Device} {state : OtaState} (h : loadState env io dev = .ok state) :
    productionRollbackFloorRequiresMonotonicState env io.gateSource = .ok () ∧
    ∃ base, storedState env io dev = .ok base ∧ clampFloor env io base = .ok state := by
  obtain ⟨_, hgate, h⟩ := bind_ok_iff.1 h
  obtain ⟨base, hstored, hclamp⟩ := bind_ok_iff.1 h
  exact ⟨hgate, base, hstored, hclamp⟩

/-- A loaded state carries the pending update of `state.json`. -/
theorem loadState_pending {env : Env} {io : LoadIo} {dev : Device} {state : OtaState}
    (h : loadState env io dev = .ok state) :
    state.pendingVersion = dev.pendingVersion ∧ state.pendingBootSlot = dev.pendingBootSlot := by
  obtain ⟨-, base, hs, hc⟩ := loadState_ok h
  rw [(clampFloor_spec hc).1]
  change base.pendingVersion = _ ∧ base.pendingBootSlot = _
  exact storedState_pending hs

/-- The floor of a loaded state is at least the trusted floor. -/
theorem loadState_trusted {env : Env} {io : LoadIo} {dev : Device} {state : OtaState} {t : String}
    (h : loadState env io dev = .ok state) (ht : trustedRollbackFloor env io.clampSource = .ok (some t)) :
    VersionLe t state.rollbackFloor := by
  obtain ⟨-, base, -, hc⟩ := loadState_ok h
  exact (clampFloor_spec hc).2.2 t ht

/-- The floor of a loaded state is at least the stored floor, when that parses. -/
theorem loadState_stored {env : Env} {io : LoadIo} {dev : Device} {base state : OtaState} {v : ParsedVersion}
    (hdev : dev.state = .parsed base) (hv : ParsedVersion.parse base.rollbackFloor = .ok v)
    (h : loadState env io dev = .ok state) : VersionLe base.rollbackFloor state.rollbackFloor := by
  obtain ⟨-, base', hs, hc⟩ := loadState_ok h
  obtain rfl := storedState_of_parsed hdev hs
  rcases (clampFloor_spec hc).2.1 with heq | hle
  · rw [heq]
    exact VersionLe.refl_of_parse hv
  · exact hle

end SuderraOs.Ota
