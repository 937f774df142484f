import SuderraOs.Lib.Run
import SuderraOs.Lib.Script

/-!
# Unlocking `/data` in production

`suderra-data-unlock` of a production image over the state of the data partition. The first boot formats the blank partition,
seals its key to the TPM, drops the password slot and makes the filesystem; a later boot recognises the header and does none of
it again. A run that formats and is cut or fails before the filesystem is there leaves a partition no later run can mount, or
one that the password still opens.
-/

namespace SuderraOs.Data

open Script

/-- A LUKS2 header: whether it has a password slot and a TPM2 slot, and whether the volume holds an ext4. -/
structure Header where
  password : Bool
  tpm : Bool
  ext4 : Bool
  deriving DecidableEq

inductive Partition where
  | blank
  | luks (header : Header)
  deriving DecidableEq

/-- The partition, and what a power cut takes away: the open mapper and the mount of `/data`. -/
structure DataState where
  part : Partition
  mapper : Bool
  mounted : Bool
  deriving DecidableEq

/-- The fallible commands of the script: `makeKey` makes the key file, `attach` is `systemd-cryptsetup attach` or
`cryptsetup open --token-only`, and `bindings` is `mount_data_bindings`. -/
inductive Command where
  | isLuks
  | blkid
  | makeKey
  | luksFormat
  | enroll
  | erase
  | wipeSlot
  | removeKey
  | luksDump
  | attach
  | mkfs
  | mkdir
  | mount
  | bindings
  deriving DecidableEq

/-- What one run finds, and how its commands end. -/
structure DataIo where
  cryptsetupPresent : Bool
  deviceExists : Bool
  tpmPresent : Bool
  cryptenrollPresent : Bool
  result : Command → CommandResult

/-- A run on a machine that has everything, with no power cut and no failure. -/
def DataIo.allOk : DataIo := ⟨true, true, true, true, fun _ => .ok⟩

abbrev DataM := Effect Stop DataState

/-! ## Commands -/

/-- Work on the header of a LUKS2 partition. -/
def DataState.onHeader (s : DataState) (f : Header → Option Header) : Option DataState :=
  match s.part with
  | .blank => none
  | .luks header => (f header).map fun header' => { s with part := .luks header' }

/-- A signature on the partition is recognised. -/
def recognise (s : DataState) : Option DataState := s.onHeader some

/-- `luksFormat` writes a header with the key file as its password, unless the partition is in use. -/
def luksFormat (s : DataState) : Option DataState := if s.mapper then none else some { s with part := .luks ⟨true, false, false⟩ }

/-- The key file opens the volume key for the TPM2 slot. -/
def enrollTpm (s : DataState) : Option DataState := s.onHeader fun h => if h.password then some { h with tpm := true } else none

/-- `cryptsetup erase` destroys every slot and leaves the header. -/
def eraseSlots (s : DataState) : Option DataState := s.onHeader fun h => some { h with password := false, tpm := false }

def wipePassword (s : DataState) : Option DataState := s.onHeader fun h => some { h with password := false }

/-- The TPM2 slot opens the mapper. -/
def unlock (s : DataState) : Option DataState :=
  match s.part with
  | .blank => none
  | .luks header => if header.tpm then some { s with mapper := true } else none

def makeFs (s : DataState) : Option DataState := if s.mapper then s.onHeader fun h => some { h with ext4 := true } else none

/-- Only a filesystem can be mounted. -/
def mountMapper (s : DataState) : Option DataState :=
  match s.part with
  | .blank => none
  | .luks header => if s.mapper && header.ext4 then some { s with mounted := true } else none

/-! ## The script -/

/-- Seal the key to the TPM; after a failure the slots are erased and the script exits. -/
def sealKey (io : DataIo) : DataM Unit := do
  let sealed ← command io.result .enroll enrollTpm
  if sealed then pure ()
  else do
    let _ ← command io.result .erase eraseSlots
    require false

/-- The part of `provision_luks_data` after the format: seal the key, drop the password slot and the key file. -/
def sealVolume (io : DataIo) : DataM Unit := do
  sealKey io
  let _ ← command io.result .wipeSlot wipePassword
  need io.result .removeKey some

def provisionLuksData (io : DataIo) : DataM Unit := do
  let signature ← command io.result .blkid recognise
  require (!signature)
  require io.tpmPresent
  require io.cryptenrollPresent
  need io.result .makeKey some
  need io.result .luksFormat luksFormat
  sealVolume io

/-- The middle of `unlock_prod_luks_data`: open the mapper, and make the filesystem of a fresh volume. -/
def openVolume (io : DataIo) (fresh : Bool) : DataM Unit := do
  need io.result .luksDump recognise
  let opened ← Effect.read fun s => .ok s.mapper
  runIf (!opened) (need io.result .attach unlock)
  runIf fresh (need io.result .mkfs makeFs)

/-- The end of `unlock_prod_luks_data`. -/
def mountData (io : DataIo) : DataM Unit := do
  need io.result .mkdir some
  let mounted ← Effect.read fun s => .ok s.mounted
  runIf (!mounted) (need io.result .mount mountMapper)
  need io.result .bindings some

def unlockProdLuksData (io : DataIo) : DataM Unit := do
  require io.cryptsetupPresent
  require io.deviceExists
  let isLuks ← command io.result .isLuks recognise
  runIf (!isLuks) (provisionLuksData io)
  openVolume io (!isLuks)
  mountData io

/-! ## Runs -/

/-- A run of the script, or a reboot after it. -/
inductive DataEvent where
  | run (io : DataIo)
  | reboot

/-- Without power the mapper is closed and nothing is mounted. -/
def DataState.powerOff (s : DataState) : DataState := { s with mapper := false, mounted := false }

def dataStep (event : DataEvent) (s : DataState) : Except Stop Unit × DataState :=
  match event with
  | .reboot => (.ok (), s.powerOff)
  | .run io =>
    match (unlockProdLuksData io).run s with
    | (.error .powerCut, s') => (.error .powerCut, s'.powerOff)
    | r => r

/-- A partition that was never used. -/
def DataState.blank : DataState := ⟨.blank, false, false⟩

/-- The TPM2 slot is the only slot. -/
def OnlyTpm : Partition → Prop
  | .blank => False
  | .luks header => header.password = false ∧ header.tpm = true

/-- A mounted `/data` is opened by the TPM only, and a run without a failure mounts it so. -/
def Restartable (s : DataState) : Prop :=
  (s.mounted = true → OnlyTpm s.part) ∧
  (dataStep (.run .allOk) s).2.mounted = true ∧ OnlyTpm (dataStep (.run .allOk) s).2.part

/-- A command that tests for a signature answers no: it fails, or the partition is blank. -/
def SeesNothing (io : DataIo) (s : DataState) (c : Command) : Prop :=
  io.result c = .fails ∨ io.result c = .ok ∧ s.part = .blank

/-- The run formats the partition. -/
structure Formats (io : DataIo) (s : DataState) : Prop where
  cryptsetup : io.cryptsetupPresent = true
  device : io.deviceExists = true
  notLuks : SeesNothing io s .isLuks
  noSignature : SeesNothing io s .blkid
  tpm : io.tpmPresent = true
  cryptenroll : io.cryptenrollPresent = true
  key : io.result .makeKey = .ok
  format : io.result .luksFormat = .ok
  closed : s.mapper = false

/-- The commands from the format to the filesystem. -/
def provisioning : List Command := [.enroll, .wipeSlot, .removeKey, .luksDump, .attach, .mkfs]

/-- A run that formats is not cut and does not fail before the filesystem is made. -/
def FinishesFormat (s : DataState) (event : DataEvent) : Prop :=
  match event with
  | .run io => Formats io s → ∀ c ∈ provisioning, io.result c = .ok
  | .reboot => True

/-! ## Consistent states -/

/-- An open mapper is that of a LUKS2 partition, and what is mounted is the filesystem inside. -/
structure Consistent (s : DataState) : Prop where
  mapper : s.mapper = true → s.part ≠ .blank
  mounted : s.mounted = true → s.mapper = true ∧ ∃ header, s.part = .luks header ∧ header.ext4 = true

/-- Work on the header that keeps the filesystem keeps a state consistent. -/
theorem Consistent.onHeader {f : Header → Option Header} (hf : ∀ h h', f h = some h' → h.ext4 = true → h'.ext4 = true)
    (s s' : DataState) (hact : s.onHeader f = some s') (h : Consistent s) : Consistent s' := by
  unfold DataState.onHeader at hact
  split at hact
  · cases hact
  · rename_i header hpart
    obtain ⟨header', hheader, rfl⟩ := Option.map_eq_some_iff.1 hact
    refine ⟨fun _ => by simp, fun hmounted => ?_⟩
    obtain ⟨hmapper, header'', hpart', hext4⟩ := h.mounted hmounted
    rw [hpart] at hpart'
    cases hpart'
    exact ⟨hmapper, header', rfl, hf _ _ hheader hext4⟩

theorem Consistent.recognise (s s' : DataState) (hact : recognise s = some s') (h : Consistent s) : Consistent s' :=
  Consistent.onHeader (fun _ _ hf => by cases hf; exact id) s s' hact h

theorem Consistent.luksFormat (s s' : DataState) (hact : luksFormat s = some s') (h : Consistent s) : Consistent s' := by
  unfold Data.luksFormat at hact
  split at hact
  · cases hact
  · rename_i hclosed
    cases hact
    exact ⟨fun hmapper => by simp, fun hmounted => absurd (h.mounted hmounted).1 hclosed⟩

theorem Consistent.unlock (s s' : DataState) (hact : unlock s = some s') (h : Consistent s) : Consistent s' := by
  unfold Data.unlock at hact
  split at hact
  · cases hact
  · rename_i header hpart
    split at hact
    · cases hact
      exact ⟨fun _ => by simp [hpart], fun hmounted => ⟨rfl, (h.mounted hmounted).2⟩⟩
    · cases hact

theorem Consistent.makeFs (s s' : DataState) (hact : makeFs s = some s') (h : Consistent s) : Consistent s' := by
  unfold Data.makeFs at hact
  split at hact
  · exact Consistent.onHeader (fun _ _ hf _ => by cases hf; rfl) s s' hact h
  · cases hact

theorem Consistent.mountMapper (s s' : DataState) (hact : mountMapper s = some s') (_ : Consistent s) : Consistent s' := by
  unfold Data.mountMapper at hact
  split at hact
  · cases hact
  · rename_i header hpart
    split at hact
    · rename_i hready
      cases hact
      rw [Bool.and_eq_true] at hready
      exact ⟨fun _ => by simp [hpart], fun _ => ⟨hready.1, header, hpart, hready.2⟩⟩
    · cases hact

theorem sealKey_keeps (io : DataIo) : (sealKey io).Keeps Consistent := by
  refine Effect.keeps_bind (keeps_command io.result .enroll (Consistent.onHeader fun h h' hf hext4 => ?_)) fun sealed => ?_
  · split at hf
    · cases hf
      exact hext4
    · cases hf
  · split
    · exact Effect.keeps_pure ()
    · refine Effect.keeps_bind (keeps_command io.result .erase (Consistent.onHeader fun _ _ h => ?_)) fun _ => keeps_require false
      cases h
      exact id

theorem provisionLuksData_keeps (io : DataIo) : (provisionLuksData io).Keeps Consistent := by
  refine Effect.keeps_bind (keeps_command io.result .blkid Consistent.recognise) fun _ => ?_
  refine Effect.keeps_bind (keeps_require _) fun _ => ?_
  refine Effect.keeps_bind (keeps_require _) fun _ => ?_
  refine Effect.keeps_bind (keeps_require _) fun _ => ?_
  refine Effect.keeps_bind (keeps_need_some io.result .makeKey) fun _ => ?_
  refine Effect.keeps_bind (keeps_need io.result .luksFormat Consistent.luksFormat) fun _ => ?_
  refine Effect.keeps_bind (sealKey_keeps io) fun _ => ?_
  refine Effect.keeps_bind (keeps_command io.result .wipeSlot (Consistent.onHeader fun _ _ h => by cases h; exact id)) fun _ => ?_
  exact keeps_need_some io.result .removeKey

theorem openVolume_keeps (io : DataIo) (fresh : Bool) : (openVolume io fresh).Keeps Consistent := by
  refine Effect.keeps_bind (keeps_need io.result .luksDump Consistent.recognise) fun _ => ?_
  refine Effect.keeps_bind (Effect.keeps_read _) fun _ => ?_
  refine Effect.keeps_bind (keeps_runIf _ (keeps_need io.result .attach Consistent.unlock)) fun _ => ?_
  exact keeps_runIf _ (keeps_need io.result .mkfs Consistent.makeFs)

/-- The end of the script keeps what mounting keeps. -/
theorem mountData_keeps (io : DataIo) {I : DataState → Prop} (h : ∀ s s', mountMapper s = some s' → I s → I s') :
    (mountData io).Keeps I := by
  refine Effect.keeps_bind (keeps_need_some io.result .mkdir) fun _ => ?_
  refine Effect.keeps_bind (Effect.keeps_read _) fun _ => ?_
  refine Effect.keeps_bind (keeps_runIf _ (keeps_need io.result .mount h)) fun _ => ?_
  exact keeps_need_some io.result .bindings

/-- The script keeps a state consistent, however its commands end. -/
theorem unlockProdLuksData_keeps (io : DataIo) : (unlockProdLuksData io).Keeps Consistent := by
  refine Effect.keeps_bind (keeps_require _) fun _ => ?_
  refine Effect.keeps_bind (keeps_require _) fun _ => ?_
  refine Effect.keeps_bind (keeps_command io.result .isLuks Consistent.recognise) fun _ => ?_
  refine Effect.keeps_bind (keeps_runIf _ (provisionLuksData_keeps io)) fun _ => ?_
  refine Effect.keeps_bind (openVolume_keeps io _) fun _ => ?_
  exact mountData_keeps io Consistent.mountMapper

theorem Consistent.powerOff {s : DataState} (_ : Consistent s) : Consistent s.powerOff where
  mapper := fun h => by cases h
  mounted := fun h => by cases h

/-- A run leaves the state its script leaves, without power after a cut. -/
theorem dataStep_run (io : DataIo) (s : DataState) :
    (dataStep (.run io) s).2 = ((unlockProdLuksData io).run s).2 ∨
    (dataStep (.run io) s).2 = ((unlockProdLuksData io).run s).2.powerOff := by
  rcases hrun : (unlockProdLuksData io).run s with ⟨(_ | _) | _, s'⟩ <;> simp [dataStep, hrun]

theorem Consistent.step {s : DataState} (h : Consistent s) (event : DataEvent) : Consistent (dataStep event s).2 := by
  cases event with
  | reboot => exact h.powerOff
  | run io =>
    have hfinal := (unlockProdLuksData_keeps io).final h
    rcases dataStep_run io s with hstep | hstep
    · rw [hstep]
      exact hfinal
    · rw [hstep]
      exact hfinal.powerOff

/-! ## What a later run can do -/

/-- The partition is blank, or its volume has its filesystem and only the TPM2 slot. -/
def Clean (part : Partition) : Prop := part = .blank ∨ part = .luks ⟨false, true, true⟩

instance : DecidablePred OnlyTpm
  | .blank => inferInstanceAs (Decidable False)
  | .luks header => inferInstanceAs (Decidable (header.password = false ∧ header.tpm = true))

instance (s : DataState) : Decidable (Restartable s) := inferInstanceAs (Decidable (_ ∧ _))

instance : DecidablePred Clean := fun _ => inferInstanceAs (Decidable (_ ∨ _))

/-- A run without a failure mounts `/data` by the TPM alone exactly from a clean partition. -/
theorem restartable_iff {s : DataState} (h : Consistent s) : Restartable s ↔ Clean s.part := by
  have hluks : ∀ password tpm ext4 mapper mounted : Bool, (mounted = true → mapper = true ∧ ext4 = true) →
      (Restartable ⟨.luks ⟨password, tpm, ext4⟩, mapper, mounted⟩ ↔ Clean (.luks ⟨password, tpm, ext4⟩)) := by decide +kernel
  have hblank : Restartable ⟨.blank, false, false⟩ ↔ Clean .blank := by decide +kernel
  obtain ⟨part, mapper, mounted⟩ := s
  cases part with
  | luks header =>
    refine hluks header.password header.tpm header.ext4 mapper mounted fun hmounted => ?_
    obtain ⟨hmapper, header', hpart, hext4⟩ := h.mounted hmounted
    cases hpart
    exact ⟨hmapper, hext4⟩
  | blank =>
    have hmapper : mapper = false := by simpa using fun hm => h.mapper hm rfl
    have hmounted : mounted = false := by
      cases mounted with
      | false => rfl
      | true => exact absurd (h.mounted rfl).1 (by simp [hmapper])
    subst hmapper hmounted
    exact hblank

/-! ## What a run does to the partition -/

/-- A run keeps the partition, or it formats it: then its volume gets the filesystem and only the TPM2 slot if every command
until the filesystem succeeds, and lacks something or has a password otherwise. -/
inductive PartChange (io : DataIo) (s : DataState) : Partition → Prop where
  | kept (h : ¬Formats io s) : PartChange io s s.part
  | spoiled (header : Header) (hformats : Formats io s) (c : Command) (hc : c ∈ provisioning) (hfails : io.result c ≠ .ok)
      (hspoiled : ¬Clean (.luks header)) : PartChange io s (.luks header)
  | provisioned (hformats : Formats io s) (hok : ∀ c ∈ provisioning, io.result c = .ok) :
      PartChange io s (.luks ⟨false, true, true⟩)

/-- `cryptsetup isLuks` changes nothing, and the commands that open or mount a volume keep the partition. -/
theorem recognise_part {s s' : DataState} (h : recognise s = some s') : s' = s := by
  unfold recognise DataState.onHeader at h
  split at h
  · cases h
  · rename_i header hpart
    cases h
    change { s with part := .luks header } = s
    rw [← hpart]

theorem recognise_eq_none {s : DataState} : recognise s = none ↔ s.part = .blank := by
  unfold recognise DataState.onHeader
  split <;> simp_all

theorem unlock_part {s s' : DataState} (h : unlock s = some s') : s' = { s with mapper := true } := by
  unfold unlock at h
  split at h
  · cases h
  · split at h
    · cases h; rfl
    · cases h

theorem mountMapper_part {s s' : DataState} (h : mountMapper s = some s') : s'.part = s.part := by
  unfold mountMapper at h
  split at h
  · cases h
  · split at h
    · cases h; rfl
    · cases h

/-- Opening a volume that is not fresh keeps the partition. -/
theorem openVolume_part (io : DataIo) (part : Partition) : (openVolume io false).Keeps (fun s => s.part = part) := by
  refine Effect.keeps_bind (keeps_need io.result .luksDump fun s s' h hs => by rw [recognise_part h, hs]) fun _ => ?_
  refine Effect.keeps_bind (Effect.keeps_read _) fun _ => ?_
  refine Effect.keeps_bind (keeps_runIf _ (keeps_need io.result .attach fun s s' h hs => by rw [unlock_part h, hs])) fun _ => ?_
  exact Effect.keeps_pure ()

/-- Opening a fresh volume makes its filesystem exactly if its three commands succeed. -/
theorem openVolume_fresh (io : DataIo) {s : DataState} {password : Bool} (hpart : s.part = .luks ⟨password, true, false⟩)
    (hclosed : s.mapper = false) :
    let Opened (s' : DataState) : Prop :=
      s'.part = .luks ⟨password, true, true⟩ ∧ io.result .luksDump = .ok ∧ io.result .attach = .ok ∧ io.result .mkfs = .ok
    let Failed (s' : DataState) : Prop :=
      s'.part = .luks ⟨password, true, false⟩ ∧ ∃ c ∈ [Command.luksDump, .attach, .mkfs], io.result c ≠ .ok
    (openVolume io true).wp (fun _ => Opened) (fun _ => Failed) s := by
  intro Opened Failed
  obtain ⟨part, mapper, mounted⟩ := s
  subst hpart hclosed
  -- every command is possible in its state, so one that does not succeed failed or was cut
  apply Effect.wp_bind
  apply wp_need
  · intro s' hdump hact
    obtain rfl := recognise_part hact
    apply Effect.wp_bind
    apply Effect.wp_read
    · intro opened hopened
      cases hopened
      apply Effect.wp_bind
      apply wp_runIf
      · intro _
        apply wp_need
        · intro s' hattach hact
          cases hact
          apply wp_runIf
          · intro _
            apply wp_need
            · intro s' hmkfs hact
              cases hact
              exact ⟨rfl, hdump, hattach, hmkfs⟩
            · intro _ hno
              exact ⟨rfl, .mkfs, by simp, hno.resolve_right (by simp [makeFs, DataState.onHeader])⟩
          · intro h
            cases h
        · intro _ hno
          exact ⟨rfl, .attach, by simp, hno.resolve_right (by simp [unlock])⟩
      · intro h
        cases h
    · intro _ h
      cases h
  · intro _ hno
    exact ⟨rfl, .luksDump, by simp, hno.resolve_right (by simp [recognise, DataState.onHeader])⟩

/-- Sealing a fresh header adds the TPM2 slot, or leaves no TPM2 slot when it fails. -/
theorem sealKey_fresh (io : DataIo) {s : DataState} (hpart : s.part = .luks ⟨true, false, false⟩) :
    (sealKey io).wp (fun _ s' => io.result .enroll = .ok ∧ s' = { s with part := .luks ⟨true, true, false⟩ })
      (fun _ s' => io.result .enroll ≠ .ok ∧ ∃ password, s'.part = .luks ⟨password, false, false⟩) s := by
  obtain ⟨part, mapper, mounted⟩ := s
  subst hpart
  apply Effect.wp_bind
  apply wp_command
  · intro s' henroll hact
    cases hact
    exact Effect.wp_pure ⟨henroll, rfl⟩
  · intro hno
    have henroll : io.result .enroll ≠ .ok := by
      rcases hno with h | ⟨-, h⟩
      · rw [h]; decide
      · simp [enrollTpm, DataState.onHeader] at h
    apply Effect.wp_bind
    apply wp_command
    · intro s' _ hact
      cases hact
      exact wp_require (fun h => by cases h) fun _ => ⟨henroll, false, rfl⟩
    · intro _
      exact wp_require (fun h => by cases h) fun _ => ⟨henroll, true, rfl⟩
    · intro _
      exact ⟨henroll, true, rfl⟩
  · intro hcut
    exact ⟨by rw [hcut]; decide, true, rfl⟩

/-- What sealing a fresh volume leaves: a TPM2 slot, with the password gone if it could be wiped, or an unclean volume. -/
theorem sealVolume_fresh (io : DataIo) {s : DataState} (hpart : s.part = .luks ⟨true, false, false⟩) :
    (sealVolume io).wp
      (fun _ s' => io.result .enroll = .ok ∧ io.result .removeKey = .ok ∧ s'.mapper = s.mapper ∧
        ∃ password, s'.part = .luks ⟨password, true, false⟩ ∧ (password = false ↔ io.result .wipeSlot = .ok))
      (fun _ s' => ∃ header, s'.part = .luks header ∧ ¬Clean (.luks header) ∧ ∃ c ∈ provisioning, io.result c ≠ .ok) s := by
  apply Effect.wp_bind
  refine Effect.wp_mono (sealKey_fresh io hpart) ?_ ?_
  · rintro _ _ ⟨henroll, rfl⟩
    have hremove : ∀ password : Bool, (password = false ↔ io.result .wipeSlot = .ok) →
        (need io.result .removeKey some).wp
          (fun _ s' => io.result .enroll = .ok ∧ io.result .removeKey = .ok ∧ s'.mapper = s.mapper ∧
            ∃ password, s'.part = .luks ⟨password, true, false⟩ ∧ (password = false ↔ io.result .wipeSlot = .ok))
          (fun _ s' => ∃ header, s'.part = .luks header ∧ ¬Clean (.luks header) ∧ ∃ c ∈ provisioning, io.result c ≠ .ok)
          { s with part := .luks ⟨password, true, false⟩ } := by
      intro password hpassword
      apply wp_need
      · intro s' hremove hact
        cases hact
        exact ⟨henroll, hremove, rfl, password, rfl, hpassword⟩
      · intro _ hno
        exact ⟨_, rfl, by simp [Clean], .removeKey, by decide, hno.resolve_right (by simp)⟩
    apply Effect.wp_bind
    apply wp_command
    · intro s' hwipe hact
      cases hact
      exact hremove false (by simp [hwipe])
    · intro hno
      have hwipe : io.result .wipeSlot = .fails := hno.resolve_right (by simp [wipePassword, DataState.onHeader])
      exact hremove true (by simp [hwipe])
    · intro hcut
      exact ⟨_, rfl, by simp [Clean], .wipeSlot, by decide, by rw [hcut]; decide⟩
  · rintro _ s' ⟨henroll, password, hpart'⟩
    exact ⟨_, hpart', by simp [Clean], .enroll, by decide, henroll⟩

/-- What provisioning leaves: a sealed volume, or the change of a run that stops. -/
theorem provisionLuksData_part {io : DataIo} {s : DataState} (hcryptsetup : io.cryptsetupPresent = true)
    (hdevice : io.deviceExists = true) (hluks : SeesNothing io s .isLuks) :
    (provisionLuksData io).wp
      (fun _ s' => Formats io s ∧ io.result .enroll = .ok ∧ io.result .removeKey = .ok ∧ s'.mapper = false ∧
        ∃ password, s'.part = .luks ⟨password, true, false⟩ ∧ (password = false ↔ io.result .wipeSlot = .ok))
      (fun _ s' => PartChange io s s'.part) s := by
  apply Effect.wp_bind
  apply wp_command
  · intro s' hok hact
    refine Effect.wp_bind (wp_require (fun h => by cases h) fun _ => ?_)
    rw [recognise_part hact]
    refine .kept fun h => ?_
    rcases h.noSignature with hfails | ⟨-, hblank⟩
    · rw [hok] at hfails; cases hfails
    · rw [recognise_eq_none.2 hblank] at hact; cases hact
  · intro hno
    have hsignature : SeesNothing io s .blkid := hno.imp id fun h => ⟨h.1, recognise_eq_none.1 h.2⟩
    refine Effect.wp_bind (wp_require (fun _ => ?_) fun h => by cases h)
    refine Effect.wp_bind (wp_require (fun htpm => ?_) fun h => .kept fun hf => by rw [hf.tpm] at h; cases h)
    refine Effect.wp_bind (wp_require (fun hcryptenroll => ?_) fun h => .kept fun hf => by rw [hf.cryptenroll] at h; cases h)
    apply Effect.wp_bind
    apply wp_need
    · intro s' hkey hact
      cases hact
      apply Effect.wp_bind
      apply wp_need
      · intro s' hformat hact
        unfold luksFormat at hact
        split at hact
        · cases hact
        · rename_i hclosed
          cases hact
          have hclosed : s.mapper = false := by simpa using hclosed
          have hformats : Formats io s :=
            ⟨hcryptsetup, hdevice, hluks, hsignature, htpm, hcryptenroll, hkey, hformat, hclosed⟩
          refine Effect.wp_mono (sealVolume_fresh io rfl) ?_ ?_
          · rintro _ s' ⟨henroll, hremove, hmapper, hpart⟩
            exact ⟨hformats, henroll, hremove, hmapper.trans hclosed, hpart⟩
          · rintro _ s' ⟨header, hpart, hspoiled, c, hc, hfails⟩
            rw [hpart]
            exact .spoiled header hformats c hc hfails hspoiled
      · rintro e (hno | hno)
        · exact .kept fun h => hno h.format
        · exact .kept fun h => by simp [luksFormat, h.closed] at hno
    · rintro e (hno | hno)
      · exact .kept fun h => hno h.key
      · cases hno
  · intro hcut
    refine .kept fun h => ?_
    rcases h.noSignature with hfails | ⟨hok, -⟩
    · rw [hcut] at hfails; cases hfails
    · rw [hcut] at hok; cases hok

/-- What a run does to the partition. -/
theorem unlockProdLuksData_part (io : DataIo) (s : DataState) : PartChange io s ((unlockProdLuksData io).run s).2.part := by
  have mountKeeps : ∀ part, (mountData io).Keeps fun s' => s'.part = part := fun part =>
    mountData_keeps io fun _ _ hact hpart => (mountMapper_part hact).trans hpart
  apply Effect.wp.final (P := fun s' : DataState => PartChange io s s'.part)
  refine Effect.wp_bind (wp_require (fun hcryptsetup => ?_) fun h => .kept fun hf => by rw [hf.cryptsetup] at h; cases h)
  refine Effect.wp_bind (wp_require (fun hdevice => ?_) fun h => .kept fun hf => by rw [hf.device] at h; cases h)
  apply Effect.wp_bind
  apply wp_command
  · intro s' hok hact
    obtain rfl := recognise_part hact
    have hnot : ¬Formats io s' := by
      intro h
      rcases h.notLuks with hfails | ⟨-, hblank⟩
      · rw [hok] at hfails; cases hfails
      · rw [recognise_eq_none.2 hblank] at hact; cases hact
    -- the header is recognised, and the run only opens and mounts
    have hkeeps := Effect.keeps_bind (openVolume_part io s'.part) fun _ => mountKeeps s'.part
    have hkept : ∀ s₁ : DataState, s₁.part = s'.part → PartChange io s' s₁.part := fun s₁ h => h ▸ .kept hnot
    refine Effect.wp_bind (wp_runIf (fun h => by cases h) fun _ => ?_)
    exact Effect.wp_mono (hkeeps s' rfl) (fun _ => hkept) fun _ => hkept
  · intro hno
    have hluks : SeesNothing io s .isLuks := hno.imp id fun h => ⟨h.1, recognise_eq_none.1 h.2⟩
    apply Effect.wp_bind
    refine Effect.wp_mono (provisionLuksData_part hcryptsetup hdevice hluks) ?_ fun _ _ h => h
    rintro _ s₁ ⟨hformats, henroll, hremove, hclosed, password, hpart, hpassword⟩
    apply Effect.wp_bind
    refine Effect.wp_mono (openVolume_fresh io hpart hclosed) ?_ ?_
    · rintro _ s₂ ⟨hpart₂, hdump, hattach, hmkfs⟩
      have hchange : PartChange io s (.luks ⟨password, true, true⟩) := by
        cases password with
        | false =>
          refine .provisioned hformats ?_
          simp [provisioning, henroll, hremove, hdump, hattach, hmkfs, hpassword.1 rfl]
        | true => exact .spoiled _ hformats .wipeSlot (by decide) (fun h => by simpa using hpassword.2 h) (by simp [Clean])
      have hmounted : ∀ s₃ : DataState, s₃.part = .luks ⟨password, true, true⟩ → PartChange io s s₃.part :=
        fun s₃ h => h ▸ hchange
      exact Effect.wp_mono (mountKeeps _ s₂ hpart₂) (fun _ => hmounted) fun _ => hmounted
    · rintro _ s₂ ⟨hpart₂, c, hc, hfails⟩
      rw [hpart₂]
      refine .spoiled _ hformats c ?_ hfails (by simp [Clean])
      simp only [List.mem_cons, List.not_mem_nil, or_false] at hc
      rcases hc with rfl | rfl | rfl <;> decide
  · intro hcut
    refine .kept fun h => ?_
    rcases h.notLuks with hfails | ⟨hok, -⟩
    · rw [hcut] at hfails; cases hfails
    · rw [hcut] at hok; cases hok

/-! ## Runs from a blank partition -/

/-- From a clean partition a step leaves a clean one exactly when it finishes a format it starts. -/
theorem dataStep_clean_iff {s : DataState} (h : Clean s.part) (event : DataEvent) :
    Clean (dataStep event s).2.part ↔ FinishesFormat s event := by
  cases event with
  | reboot => exact ⟨fun _ => trivial, fun _ => h⟩
  | run io =>
    have hpart : (dataStep (.run io) s).2.part = ((unlockProdLuksData io).run s).2.part := by
      rcases dataStep_run io s with hstep | hstep <;> rw [hstep]
      rfl
    rw [hpart]
    have hchange := unlockProdLuksData_part io s
    generalize ((unlockProdLuksData io).run s).2.part = part at hchange ⊢
    cases hchange with
    | kept hnot => exact ⟨fun _ hformats => absurd hformats hnot, fun _ => h⟩
    | spoiled header hformats c hc hfails hspoiled =>
      exact ⟨fun hclean => absurd hclean hspoiled, fun hfinishes => absurd (hfinishes hformats c hc) hfails⟩
    | provisioned _ hok => exact ⟨fun _ _ => hok, fun _ => Or.inr rfl⟩

end SuderraOs.Data
