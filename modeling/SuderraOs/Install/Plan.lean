import Mathlib.Data.List.Nodup
import SuderraOs.Lib.Digits
import SuderraOs.Lib.Shell

/-!
# The plans of the installer

`suderra-installer` writes what it verified as a file of shell variables, and the install scripts source that file. Every value is
quoted, so whatever the characters of the manifests are, the shell that sources a plan has exactly its variables afterwards and has
executed nothing (`plans_source_exactly`). A file name, a time and the variables of a process hold no NUL character.
-/

namespace SuderraOs.Install

open Shell Text

/-! ## Shell variables -/

/-- `shell_quote`. -/
def shellQuote (value : List Char) : List Char :=
  '\'' :: value.flatMap (fun c => if c = '\'' then ['\'', '\\', '\'', '\''] else [c]) ++ ['\'']

/-- The variables of a plan, each inserted once. -/
abbrev Vars := List (String × List Char)

/-- A `BTreeMap` of the variables goes through them in the order of their names. -/
def Vars.sorted (vars : Vars) : Vars := vars.mergeSort fun a b => decide (a.1 ≤ b.1)

def envLine (var : String × List Char) : List Char := var.1.toList ++ '=' :: (shellQuote var.2 ++ ['\n'])

/-- What `write_shell_env` writes. -/
def writeShellEnv (vars : Vars) : List Char := vars.sorted.flatMap envLine

/-! ## The plans -/

/-- What the plan takes from a `UsbPayloadIndex`; `T` is the type of a point in time. -/
structure UsbPayloadIndex (T : Type) where
  boardFamily : List Char
  expiresAt : T
  keyEpoch : Nat

/-- What the plan takes from a `UsbImagePayload`. -/
structure UsbImagePayload where
  boardFamily : List Char
  imagePath : List Char
  compressedSha256 : List Char
  compressedSizeBytes : Nat
  uncompressedSha256 : List Char
  uncompressedSizeBytes : Nat
  minStorageBytes : Nat
  rollbackFloor : Option (List Char)

/-- A payload that `verify_usb_payload` returned, with the displayed path of its image. -/
structure ValidatedUsbPayload (T : Type) where
  index : UsbPayloadIndex T
  payload : UsbImagePayload
  imagePath : List Char

inductive EdgeArtifactFormat where
  | tarGz
  | tgz
  | raw
  | bin

def EdgeArtifactFormat.asShellValue : EdgeArtifactFormat → List Char
  | tarGz => "tar.gz".toList
  | tgz => "tgz".toList
  | raw => "raw".toList
  | bin => "bin".toList

structure EdgeArtifact where
  url : List Char
  sha256 : List Char
  sizeBytes : Nat
  binaryName : List Char
  format : EdgeArtifactFormat

/-- What the plan takes from an `EdgeProvisioningManifest`. -/
structure EdgeProvisioningManifest where
  deviceId : List Char
  deviceCode : List Char
  tenantId : List Char
  version : List Char
  board : List Char
  arch : List Char
  artifact : EdgeArtifact
  rollbackFloor : List Char
  keyEpoch : Nat

variable {T : Type} (toRfc3339 : T → List Char)

def usbPlanVars (validated : ValidatedUsbPayload T) : Vars :=
  [("SUDERRA_PAYLOAD_INDEX_BOARD_FAMILY", validated.index.boardFamily),
    ("SUDERRA_PAYLOAD_BOARD_FAMILY", validated.payload.boardFamily),
    ("SUDERRA_PAYLOAD_IMAGE_PATH", validated.imagePath),
    ("SUDERRA_PAYLOAD_IMAGE_NAME", validated.payload.imagePath),
    ("SUDERRA_PAYLOAD_COMPRESSED_SHA256", validated.payload.compressedSha256),
    ("SUDERRA_PAYLOAD_COMPRESSED_SIZE_BYTES", Nat.toDigits 10 validated.payload.compressedSizeBytes),
    ("SUDERRA_PAYLOAD_UNCOMPRESSED_SHA256", validated.payload.uncompressedSha256),
    ("SUDERRA_PAYLOAD_UNCOMPRESSED_SIZE_BYTES", Nat.toDigits 10 validated.payload.uncompressedSizeBytes),
    ("SUDERRA_PAYLOAD_MIN_STORAGE_BYTES", Nat.toDigits 10 validated.payload.minStorageBytes),
    ("SUDERRA_PAYLOAD_KEY_EPOCH", Nat.toDigits 10 validated.index.keyEpoch),
    ("SUDERRA_PAYLOAD_EXPIRES_AT", toRfc3339 validated.index.expiresAt)] ++
  (validated.payload.rollbackFloor.map fun floor => ("SUDERRA_PAYLOAD_ROLLBACK_FLOOR", floor)).toList

def edgePlanVars (manifest : EdgeProvisioningManifest) (configOutput : Option (List Char)) : Vars :=
  [("SUDERRA_EDGE_VERSION", manifest.version),
    ("SUDERRA_EDGE_DEVICE_ID", manifest.deviceId),
    ("SUDERRA_EDGE_DEVICE_CODE", manifest.deviceCode),
    ("SUDERRA_EDGE_TENANT_ID", manifest.tenantId),
    ("SUDERRA_EDGE_BOARD", manifest.board),
    ("SUDERRA_EDGE_ARCH", manifest.arch),
    ("SUDERRA_EDGE_ARTIFACT_URL", manifest.artifact.url),
    ("SUDERRA_EDGE_SHA256", manifest.artifact.sha256),
    ("SUDERRA_EDGE_SIZE_BYTES", Nat.toDigits 10 manifest.artifact.sizeBytes),
    ("SUDERRA_EDGE_BINARY_NAME", manifest.artifact.binaryName),
    ("SUDERRA_EDGE_ARTIFACT_FORMAT", manifest.artifact.format.asShellValue),
    ("SUDERRA_EDGE_KEY_EPOCH", Nat.toDigits 10 manifest.keyEpoch),
    ("SUDERRA_EDGE_ROLLBACK_FLOOR", manifest.rollbackFloor)] ++
  (configOutput.map fun path => ("SUDERRA_EDGE_CONFIG_PAYLOAD_FILE", path)).toList

def writeUsbPlan (validated : ValidatedUsbPayload T) : List Char := writeShellEnv (usbPlanVars toRfc3339 validated)

def writeEdgePlan (manifest : EdgeProvisioningManifest) (configOutput : Option (List Char)) : List Char :=
  writeShellEnv (edgePlanVars manifest configOutput)

/-- Sourcing the text gives every variable its value, changes no other one and executes nothing, whatever the variables were. -/
def SourcesExactly (text : List Char) (vars : Vars) : Prop :=
  ∀ env, ∃ env', source text env = some env' ∧ (∀ p ∈ vars, env' p.1.toList = some p.2) ∧
    ∀ name, name ∉ vars.map (·.1.toList) → env' name = env name

/-! ## Reading a plan -/

/-- A name a shell assigns to. -/
def IsName (name : String) : Prop :=
  name.toList ≠ [] ∧ (∀ c ∈ name.toList, isNameChar c = true) ∧ ∀ c ∈ name.toList.head?, c.isDigit = false

instance (name : String) : Decidable (IsName name) := inferInstanceAs (Decidable (_ ∧ _ ∧ _))

theorem lex_escaped {value : List Char} (hnul : '\x00' ∉ value) (w : Word) (rest : List Char) :
    lex .single (some w) (value.flatMap (fun c => if c = '\'' then ['\'', '\\', '\'', '\''] else [c]) ++ rest) =
      lex .single (some (w ++ chars true value)) rest := by
  induction value generalizing w with
  | nil => simp [chars]
  | cons c value ih =>
    rw [List.mem_cons, not_or] at hnul
    have hgrow : grow (some w) c true = some (w ++ [(c, true)]) := rfl
    have hchars : w ++ chars true (c :: value) = w ++ [(c, true)] ++ chars true value := by simp [chars]
    rw [List.flatMap_cons, List.append_assoc, hchars, ← ih hnul.2]
    by_cases hc : c = '\''
    · subst hc
      exact (lex_single_quote w _).trans (by rw [hgrow]; rfl)
    · rw [if_neg hc]
      exact (lex_single hc (Ne.symm hnul.1) _ _).trans (by rw [hgrow]; rfl)

/-- A quoted value is read back as its characters, all of them quoted. -/
theorem lex_shellQuote {value : List Char} (hnul : '\x00' ∉ value) (w : Word) (rest : List Char) :
    lex .none (some w) (shellQuote value ++ rest) = lex .none (some (w ++ chars true value)) rest := by
  have hopen (cs : List Char) : lex .none (some w) ('\'' :: cs) = lex .single (some w) cs := by
    rw [lex, if_neg (by decide), if_pos rfl]
    rfl
  have hclose (w : Word) : lex .single (some w) ('\'' :: rest) = lex .none (some w) rest := by
    rw [lex, if_neg (by decide), if_pos rfl]
  rw [shellQuote, List.cons_append, List.cons_append, List.append_assoc, hopen, lex_escaped hnul, List.singleton_append, hclose]

/-- A line of a plan is read as one word, the assignment. -/
theorem lex_envLine {var : String × List Char} (hname : IsName var.1) (hnul : '\x00' ∉ var.2) (rest : List Char) :
    lex .none none (envLine var ++ rest) =
      (lex .none none rest).map fun tokens =>
        .word (chars false var.1.toList ++ ('=', false) :: chars true var.2) :: .newline :: tokens := by
  obtain ⟨hne, hchars, -⟩ := hname
  have hnewline (w : Word) : lex .none (some w) ('\n' :: rest) =
      (lex .none none rest).map fun tokens => .word w :: .newline :: tokens := by
    rw [lex]
    simp [emit]
  obtain ⟨c, cs, hcs⟩ := List.exists_cons_of_ne_nil hne
  rw [hcs] at hchars
  have hstart : lex .none none ((c :: cs) ++ '=' :: (shellQuote var.2 ++ '\n' :: rest)) =
      lex .none (some (chars false (c :: cs))) ('=' :: (shellQuote var.2 ++ '\n' :: rest)) := by
    rw [List.cons_append, lex_nameChar (hchars c List.mem_cons_self)]
    exact lex_name (fun d hd => hchars d (List.mem_cons_of_mem _ hd)) _ _
  have hgrow (w : Word) : grow (some w) '=' false = some (w ++ [('=', false)]) := rfl
  have hline : envLine var ++ rest = (c :: cs) ++ '=' :: (shellQuote var.2 ++ '\n' :: rest) := by simp [envLine, hcs]
  rw [hline, hstart, lex_equals, hgrow, lex_shellQuote hnul, hnewline, hcs, List.append_assoc, List.singleton_append]

theorem lex_envLines {vars : Vars} (hvars : ∀ p ∈ vars, IsName p.1 ∧ '\x00' ∉ p.2) :
    lex .none none (vars.flatMap envLine) =
      some (vars.flatMap fun p => [.word (chars false p.1.toList ++ ('=', false) :: chars true p.2), .newline]) := by
  induction vars with
  | nil => rw [List.flatMap_nil, lex]; rfl
  | cons p vars ih =>
    obtain ⟨hname, hnul⟩ := hvars p List.mem_cons_self
    rw [List.flatMap_cons, lex_envLine hname hnul, ih fun q hq => hvars q (List.mem_cons_of_mem _ hq)]
    rfl

/-- What `write_shell_env` writes is sourced as its variables. -/
theorem sourcesExactly_writeShellEnv {vars : Vars} (hvars : ∀ p ∈ vars, IsName p.1 ∧ '\x00' ∉ p.2)
    (hnodup : (vars.map (·.1)).Nodup) : SourcesExactly (writeShellEnv vars) vars := by
  intro env
  have hperm : vars.sorted.Perm vars := List.mergeSort_perm vars _
  have hsorted : ∀ p ∈ vars.sorted, IsName p.1 ∧ '\x00' ∉ p.2 := fun p hp => hvars p (hperm.mem_iff.1 hp)
  have hparse : parse (writeShellEnv vars) = some ((vars.sorted.map fun p => (p.1.toList, p.2)).map fun p => ⟨[p], []⟩) := by
    have hname : ∀ p ∈ vars.sorted.map fun p => (p.1.toList, chars true p.2),
        p.1 ≠ [] ∧ (∀ c ∈ p.1, isNameChar c = true) ∧ ∀ c ∈ p.1.head?, c.isDigit = false := by
      intro p hp
      obtain ⟨q, hq, rfl⟩ := List.mem_map.1 hp
      exact (hsorted q hq).1
    have hlex : lex .none none (writeShellEnv vars) = some ((vars.sorted.map fun p => (p.1.toList, chars true p.2)).flatMap
        fun p => [.word (chars false p.1 ++ ('=', false) :: p.2), .newline]) := by
      rw [List.flatMap_map]
      exact lex_envLines hsorted
    rw [parse_of_lex hlex hname, List.map_map, List.map_map]
    simp [Function.comp_def]
  have hkeys : (vars.sorted.map fun p => (p.1.toList, p.2)).map (·.1) = (vars.sorted.map (·.1)).map String.toList := by simp
  have hnodup' : ((vars.sorted.map fun p => (p.1.toList, p.2)).map (·.1)).Nodup := by
    rw [hkeys]
    exact ((hperm.map _).nodup_iff.2 hnodup).map fun _ _ heq => String.toList_inj.1 heq
  obtain ⟨env', hrun, hmem, hother⟩ := run_assigns hnodup' env
  refine ⟨env', by rw [source, hparse]; exact hrun, fun p hp => ?_, fun name hname => hother name fun hin => hname ?_⟩
  · exact hmem (p.1.toList, p.2) (List.mem_map.2 ⟨p, hperm.mem_iff.2 hp, rfl⟩)
  · obtain ⟨q, hq, rfl⟩ := List.mem_map.1 hin
    obtain ⟨p, hp, rfl⟩ := List.mem_map.1 hq
    exact List.mem_map.2 ⟨p, hperm.mem_iff.1 hp, rfl⟩

/-! ## The variables of the plans -/

theorem nul_notMem_toDigits (n : Nat) : '\x00' ∉ Nat.toDigits 10 n := fun h => absurd (isDigit_toDigits n _ h) (by decide)

theorem EdgeArtifactFormat.nul_notMem (format : EdgeArtifactFormat) : '\x00' ∉ format.asShellValue := by
  cases format <;> decide

/-- The strings of the payload hold no NUL. -/
def ValidatedUsbPayload.NulFree (validated : ValidatedUsbPayload T) : Prop :=
  ∀ s ∈ [validated.index.boardFamily, validated.payload.boardFamily, validated.imagePath, validated.payload.imagePath,
    validated.payload.compressedSha256, validated.payload.uncompressedSha256] ++ validated.payload.rollbackFloor.toList, '\x00' ∉ s

/-- The strings of the manifest hold no NUL. -/
def EdgeProvisioningManifest.NulFree (manifest : EdgeProvisioningManifest) : Prop :=
  ∀ s ∈ [manifest.version, manifest.deviceId, manifest.deviceCode, manifest.tenantId, manifest.board, manifest.arch,
    manifest.artifact.url, manifest.artifact.sha256, manifest.artifact.binaryName, manifest.rollbackFloor], '\x00' ∉ s

theorem usbPlanVars_valid (hTime : ∀ t, '\x00' ∉ toRfc3339 t) {validated : ValidatedUsbPayload T} (hnul : validated.NulFree) :
    ∀ p ∈ usbPlanVars toRfc3339 validated, IsName p.1 ∧ '\x00' ∉ p.2 := by
  simp only [ValidatedUsbPayload.NulFree, List.forall_mem_append, List.forall_mem_cons, List.not_mem_nil, false_implies, implies_true,
    and_true] at hnul
  obtain ⟨⟨hindex, hfamily, hpath, hname, hcompressed, huncompressed⟩, hfloor⟩ := hnul
  simp only [usbPlanVars, List.forall_mem_append, List.forall_mem_cons, List.not_mem_nil, false_implies, implies_true, and_true,
    nul_notMem_toDigits, not_false_eq_true, hindex, hfamily, hpath, hname, hcompressed, huncompressed, hTime]
  refine ⟨by decide +kernel, fun p hp => ?_⟩
  obtain ⟨floor, hmem, rfl⟩ := Option.map_eq_some_iff.1 (Option.mem_toList.1 hp)
  exact ⟨(by decide +kernel : IsName "SUDERRA_PAYLOAD_ROLLBACK_FLOOR"), hfloor floor (Option.mem_toList.2 hmem)⟩

theorem edgePlanVars_valid {manifest : EdgeProvisioningManifest} {configOutput : Option (List Char)} (hnul : manifest.NulFree)
    (hconfig : ∀ path ∈ configOutput, '\x00' ∉ path) :
    ∀ p ∈ edgePlanVars manifest configOutput, IsName p.1 ∧ '\x00' ∉ p.2 := by
  simp only [EdgeProvisioningManifest.NulFree, List.forall_mem_cons, List.not_mem_nil, false_implies, implies_true, and_true] at hnul
  simp only [edgePlanVars, List.forall_mem_append, List.forall_mem_cons, List.not_mem_nil, false_implies, implies_true, and_true,
    nul_notMem_toDigits, EdgeArtifactFormat.nul_notMem, not_false_eq_true, hnul]
  refine ⟨by decide +kernel, fun p hp => ?_⟩
  obtain ⟨path, hmem, rfl⟩ := Option.map_eq_some_iff.1 (Option.mem_toList.1 hp)
  exact ⟨(by decide +kernel : IsName "SUDERRA_EDGE_CONFIG_PAYLOAD_FILE"), hconfig path hmem⟩

theorem usbPlanVars_nodup (validated : ValidatedUsbPayload T) : ((usbPlanVars toRfc3339 validated).map (·.1)).Nodup := by
  cases h : validated.payload.rollbackFloor <;> simp [usbPlanVars, h]

theorem edgePlanVars_nodup (manifest : EdgeProvisioningManifest) (configOutput : Option (List Char)) :
    ((edgePlanVars manifest configOutput).map (·.1)).Nodup := by
  cases configOutput <;> simp [edgePlanVars]

end SuderraOs.Install
