import SuderraOs.Lib.Effect
import SuderraOs.Lib.Json
import SuderraOs.Ota.Version

/-!
# What `suderra-ota` reads and writes

The records of `suderra-ota`, the files it owns (`Device`) and what one invocation finds around it (`Io`): its environment, the
files of others, and how each fallible command it issues ends. An `Io` fixes every outcome, so a statement over all `Io` is a
statement over every failure. `Ctx` holds the functions of other packages.
-/

namespace SuderraOs.Ota

def manifestSchema : String := "suderra.os-update-manifest.v1"

def stateSchema : String := "suderra.ota-state.v1"

def eventSchema : String := "suderra.ota-event.v1"

/-! ## Records -/

structure BundleRef where
  name : String
  sha256 : String
  bytes : Nat
  deriving DecidableEq

structure ManifestSignature where
  algorithm : String
  keyId : String
  publicKeySha256 : String
  signatureHex : String
  deriving DecidableEq

structure SignedManifest where
  schemaVersion : String
  version : String
  target : String
  artifactSha256 : String
  bundle : BundleRef
  keyEpoch : Nat
  expiresAt : String
  minCurrentVersion : String
  rollbackFloor : String
  releaseNotes : Option String
  signature : Option ManifestSignature
  deriving DecidableEq

structure OtaState where
  schemaVersion : String
  target : String
  currentVersion : String
  rollbackFloor : String
  pendingVersion : Option String
  pendingBootSlot : Option String
  rebootRequired : Bool
  lastEvent : Option Json
  lastError : Option String

/-- The state of a device that runs `version`, with its floor there and nothing pending. -/
def OtaState.settled (version : String) : OtaState :=
  ⟨stateSchema, "x86_64", version, version, none, none, false, none, none⟩

/-! ## The device -/

/-- What `state.json` holds: nothing, a text that is not a state, or a state. `serde_json` reads back the state it wrote. -/
inductive StateFile where
  | missing
  | malformed
  | parsed (state : OtaState)

/-- The RAUC commands `suderra-ota` issues that change a slot: `rauc install`, `rauc status mark-good` and
`rauc status mark-bad`. An install names the manifest whose bundle it installs: the digest of the bundle file is the
manifest's. -/
inductive RaucCall where
  | install (bundle : String) (manifest : SignedManifest)
  | markGood
  | markBad
  deriving DecidableEq

/-- The files of the state directory and the RAUC commands issued so far, newest first, each with whether it succeeded. -/
structure Device where
  state : StateFile
  mirror : Option String
  rauc : List (RaucCall × Bool)

/-- A device on which `suderra-ota` never ran. -/
def Device.fresh : Device := ⟨.missing, none, []⟩

/-- The pending version `state.json` holds. -/
def Device.pendingVersion (dev : Device) : Option String :=
  match dev.state with
  | .parsed state => state.pendingVersion
  | _ => none

/-- The pending boot slot `state.json` holds. -/
def Device.pendingBootSlot (dev : Device) : Option String :=
  match dev.state with
  | .parsed state => state.pendingBootSlot
  | _ => none

/-! ## One invocation -/

abbrev Env := String → Option String

/-- What reading and parsing a text gives. -/
inductive Parsed (α : Type) where
  | unreadable
  | malformed
  | parsed (value : α)

/-- How writing a file through a temporary one ends; a failure carries the system's message and leaves the file as it was. -/
inductive WriteResult where
  | done
  | mkdirFailed (os : Error)
  | writeFailed (os : Error)
  | renameFailed (os : Error)

/-- What one call of `load_state` finds besides the state directory: the trusted floor source as the production gate reads it
and as the clamp reads it (`none` when the read fails), whether the files of the state directory can be read, and
`/etc/os-release`. `path.exists()` answers whether `state.json` is there. -/
structure LoadIo where
  gateSource : Option String
  clampSource : Option String
  stateReadable : Bool
  mirrorReadable : Bool
  osRelease : Option String

/-- The bundle file: its metadata and the digest of its content, or the error of reading it. -/
structure BundleFile where
  isFile : Bool
  len : Nat
  sha256 : Except Error String

/-- What an invocation finds and how the commands it issues end. `errLoad` and `errSave` are those of the last event that
`main` writes after an error. -/
structure Io where
  env : Env
  load : LoadIo
  manifest : Parsed SignedManifest
  publicKey : String → Option (List UInt8)
  bundle : Option BundleFile
  raucSucceeds : Bool
  raucStatus : Parsed Json
  cmdline : Option String
  now : Int
  nowText : String
  save : WriteResult
  mirrorSource : Option String
  mirrorSave : WriteResult
  reboot : Except Error Unit
  errLoad : LoadIo
  errSave : WriteResult

/-- An invocation with an empty environment and a kernel command line, in which every command succeeds. -/
def Io.ordinary (cmdline : String) : Io where
  env := fun _ => none
  load := ⟨none, none, true, true, none⟩
  manifest := .unreadable
  publicKey := fun _ => none
  bundle := none
  raucSucceeds := true
  raucStatus := .unreadable
  cmdline := some cmdline
  now := 0
  nowText := "2026-01-01T00:00:00Z"
  save := .done
  mirrorSource := none
  mirrorSave := .done
  reboot := .ok ()
  errLoad := ⟨none, none, true, true, none⟩
  errSave := .done

/-- The functions of other packages: `chrono`'s RFC 3339 parser (a point in time), `sha2`, and `ed25519_dalek`'s key check and
signature check. -/
structure Ctx where
  rfc3339 : String → Option Int
  sha256 : List UInt8 → List UInt8
  validKey : List UInt8 → Bool
  verify : (key message signature : List UInt8) → Bool

/-- A part of `suderra-ota`: it works on the device and may fail with a message. -/
abbrev OtaM := Effect Error Device

/-! ## The environment -/

def isProduction (env : Env) : Bool := env "SUDERRA_OTA_PRODUCTION" == some "1"

def devOverride (env : Env) (key : String) : Option String := if isProduction env then none else env key

def trustedFloorPath (env : Env) : Option String := env "SUDERRA_OTA_ROLLBACK_FLOOR_SOURCE_PATH"

def stateDir (env : Env) : String := (devOverride env "SUDERRA_OTA_STATE_DIR").getD "/data/suderra/ota"

def deviceTarget (env : Env) : String := (env "SUDERRA_OTA_TARGET").getD "x86_64"

/-- `event_json`; the fields stand in the order of the map's keys. -/
def eventJson (io : Io) (action status : String) (details : Json) (error : Option String) : Json :=
  .obj [("action", .str action), ("details", details), ("error", (error.map Json.str).getD .null),
    ("generated_at", .str io.nowText), ("schema_version", .str eventSchema), ("status", .str status),
    ("target", .str (deviceTarget io.env))]

/-- `now_utc`: outside production the clock can be fixed. -/
def nowUtc (Γ : Ctx) (io : Io) : Except Error Int :=
  match devOverride io.env "SUDERRA_OTA_NOW" with
  | some value =>
    match Γ.rfc3339 value with
    | some t => .ok t
    | none => .error s!"invalid SUDERRA_OTA_NOW {value}"
  | none => .ok io.now

/-- `request_reboot`. -/
def requestReboot (io : Io) : Except Error Unit :=
  if io.env "SUDERRA_OTA_NO_REBOOT" == some "1" then .ok () else io.reboot

/-- `run_rauc` with its context: the command is issued, and the message of a failure is the context. -/
def runRauc (io : Io) (call : RaucCall) (context : String) : OtaM Unit :=
  Effect.act (fun dev => { dev with rauc := (call, io.raucSucceeds) :: dev.rauc })
    (if io.raucSucceeds then .ok () else .error context)

/-! ## Boot slots -/

/-- A slot name: `A` or `B`. -/
def isSlot (s : String) : Bool := s == "A" || s == "B"

/-- The tokens of the kernel command line, the first one that names a slot. -/
def cmdlineSlot : List (List Char) → Option String
  | [] => none
  | token :: tokens =>
    if token = "rauc.slot=A".toList then some "A"
    else if token = "rauc.slot=B".toList then some "B"
    else cmdlineSlot tokens

def activeBootSlot (io : Io) : Option String :=
  match (devOverride io.env "SUDERRA_OTA_ACTIVE_BOOT_SLOT").map Text.trim with
  | some slot =>
    if isSlot slot then some slot else io.cmdline.bind fun text => cmdlineSlot (Text.splitWhitespace text.toList)
  | none => io.cmdline.bind fun text => cmdlineSlot (Text.splitWhitespace text.toList)

end SuderraOs.Ota
