import SuderraOs.Flash.FlashSd
import SuderraOs.Lib.Sha256

/-!
# What `flash-sd.sh` writes

Without the lab option a run that ends well has found the digest of the image, and its signature where one is asked for; it writes
the image, its decompression, or the file that stands under the name of the decompression already (`flash_writes`).
-/

namespace SuderraOs.Flash

open Text

/-! ## What a command substitution keeps -/

theorem not_mem_splitOnP {p : Char → Bool} {cs piece : List Char} (h : piece ∈ cs.splitOnP p) : ∀ c ∈ piece, p c = false := by
  induction cs generalizing piece with
  | nil =>
    rw [List.splitOnP_nil, List.mem_singleton] at h
    simp [h]
  | cons d cs ih =>
    rw [List.splitOnP_cons_eq_if_modifyHead] at h
    split at h
    · rcases List.mem_cons.1 h with rfl | h
      · simp
      · exact ih h
    · next hd =>
      cases hcs : cs.splitOnP p with
      | nil => exact absurd hcs (List.splitOnP_ne_nil p cs)
      | cons head pieces =>
        rw [hcs, List.modifyHead_cons] at h
        rcases List.mem_cons.1 h with rfl | h
        · simp only [List.mem_cons, forall_eq_or_imp]
          exact ⟨by simpa using hd, ih (by simp [hcs])⟩
        · exact ih (by simp [hcs, h])

theorem newline_not_mem_firstField (line : List Char) : '\n' ∉ firstField line := by
  intro hmem
  unfold firstField at hmem
  cases hfields : fields line with
  | nil =>
    rw [hfields] at hmem
    cases hmem
  | cons field rest =>
    rw [hfields] at hmem
    have hpiece : field ∈ line.splitOnP fun c => c = ' ' ∨ c = '\t' ∨ c = '\n' := List.mem_of_mem_filter (hfields ▸ List.mem_cons_self)
    have := not_mem_splitOnP hpiece '\n' hmem
    simp at this

/-- What is captured of lines is all of them, less newlines at the end. -/
theorem exists_captured (printed : List (List Char)) :
    ∃ rest, (∀ c ∈ rest, c = '\n') ∧ ['\n'].intercalate printed = captured printed ++ rest := by
  refine ⟨((['\n'].intercalate printed).reverse.takeWhile (· = '\n')).reverse, fun c hc => ?_, ?_⟩
  · simpa using List.all_eq_true.1 List.all_takeWhile c (List.mem_reverse.1 hc)
  · rw [captured, ← List.reverse_append, List.takeWhile_append_dropWhile, List.reverse_reverse]

/-- If a text without newlines is captured, it is one of the lines. -/
theorem mem_of_captured {printed : List (List Char)} (hprinted : ∀ line ∈ printed, '\n' ∉ line) (hne : captured printed ≠ [])
    (hcaptured : '\n' ∉ captured printed) : captured printed ∈ printed := by
  have htake : ∀ {a rest : List Char}, '\n' ∉ a → rest.head?.all (· = '\n') = true → (a ++ rest).takeWhile (· ≠ '\n') = a := by
    intro a rest ha hrest
    refine takeWhile_append (fun c hc => ?_) (by simpa using hrest)
    have : c ≠ '\n' := fun heq => ha (heq ▸ hc)
    simpa using this
  obtain ⟨rest, hrest, heq⟩ := exists_captured printed
  have hfirst : (['\n'].intercalate printed).takeWhile (· ≠ '\n') = captured printed := by
    rw [heq]
    refine htake hcaptured ?_
    cases rest with
    | nil => rfl
    | cons c cs => simpa using hrest c List.mem_cons_self
  cases printed with
  | nil => exact absurd rfl hne
  | cons line lines =>
    have hline : '\n' ∉ line := hprinted line List.mem_cons_self
    have : (['\n'].intercalate (line :: lines)).takeWhile (· ≠ '\n') = line := by
      cases lines with
      | nil =>
        have hnil : (line ++ []).takeWhile (· ≠ '\n') = line := htake hline rfl
        rw [List.append_nil] at hnil
        rwa [List.intercalate_singleton]
      | cons next lines =>
        rw [List.intercalate_cons_cons, List.append_assoc, List.singleton_append]
        exact htake hline (by simp)
    rw [← hfirst, this]
    exact List.mem_cons_self

section

variable (T : Tools) (F : Files)

/-- The digest of the image is the one that a line of the manifest gives, or the `.sha256` file beside it has lines, all of which hold. -/
inductive HashVerified (path : String) (image : Bytes) : Prop
  | manifest {manifest : Bytes} {line : List Char} (hfile : F.file (dirOf path ++ "/MANIFEST.txt") = some manifest)
      (hline : line ∈ T.grep (manifestPattern path) manifest) (hdigest : firstField line = sumField T path image)
  | sums {sums : Bytes} (hfile : F.file (path ++ ".sha256") = some sums) (hne : T.checkLines sums ≠ [])
      (hlines : ∀ line ∈ T.checkLines sums, ∃ bytes, F.file (besides path line.2) = some bytes ∧ line.1 = hexdigest T bytes)

/-- `cosign` accepts the signature beside the image for the release workflow. -/
def SignatureVerified (path : String) (image : Bytes) : Prop :=
  ∃ verify signature certificate, T.cosign = some verify ∧ F.file (path ++ ".sig") = some signature ∧
    F.file (path ++ ".cert") = some certificate ∧ verify certificate cosignIdentity cosignIssuer signature image = true

/-- What is written for an image: itself, its decompression, or what stands under the name of that outside of acceptance. -/
inductive Written (o : Options) (path : String) (image : Bytes) : Bytes → Prop
  | plain (hpath : decompressedPath path = none) : Written o path image image
  | decompressed {source : String} {bytes : Bytes} (hpath : decompressedPath path = some source) (hfile : F.file source = none)
      (hbytes : T.decompress image = some bytes) : Written o path image bytes
  | existing {source : String} {bytes : Bytes} (hpath : decompressedPath path = some source) (hfile : F.file source = some bytes)
      (hacceptance : o.acceptance = false) : Written o path image bytes

end

/-- The read-back looks at the image only: it is left out, it reads as much as the image has, or the image fills the window. -/
def Covered (o : Options) (selected : Selected) : Prop :=
  o.skipVerify = true ∨ if o.acceptance then escapes selected.source = false else window ≤ selected.bytes.length

section

variable {T : Tools} {F : Files} {o : Options} {path : String} {image : Bytes}

theorem newline_not_mem_sumField : '\n' ∉ sumField T path image := by
  have hhex : '\n' ∉ hexdigest T image := by
    intro hmem
    obtain ⟨d, hd, heq⟩ := Hex.mem_encode hmem
    revert heq
    revert d
    decide
  unfold sumField
  split_ifs
  · simpa using hhex
  · exact hhex

theorem hashVerified_of_verifyHash (hlab : o.labAllowMissingHash = false) (h : verifyHash T F o path image = .ok ()) :
    HashVerified T F path image := by
  unfold verifyHash at h
  split_ifs at h with hdigest
  · have hsame : manifestDigest T F path = sumField T path image := by simpa using guardError_ok_iff.1 h
    unfold manifestDigest at hdigest hsame
    cases hfile : F.file (dirOf path ++ "/MANIFEST.txt") with
    | none => simp [hfile] at hdigest
    | some manifest =>
      simp only [hfile] at hdigest hsame
      have hmem := mem_of_captured (List.forall_mem_map.2 fun line _ => newline_not_mem_firstField line) hdigest
        (hsame ▸ newline_not_mem_sumField)
      obtain ⟨line, hline, hfield⟩ := List.mem_map.1 hmem
      exact .manifest hfile hline (hfield.trans hsame)
  · cases hfile : F.file (path ++ ".sha256") with
    | none =>
      simp only [hfile, hlab] at h
      cases h
    | some sums =>
      simp only [hfile] at h
      obtain ⟨hne, hall⟩ := Bool.and_eq_true_iff.1 (guardError_ok_iff.1 h)
      refine .sums hfile (by simpa using hne) fun line hline => ?_
      obtain ⟨bytes, hbytes, hholds⟩ := (Option.any_eq_true _ _).1 (List.all_eq_true.1 hall line hline)
      exact ⟨bytes, hbytes, by simpa using hholds⟩

theorem signatureVerified_of_verifySignature (h : verifySignature T F o path image = .ok ()) (hrequested : o.verifySignature = true) :
    SignatureVerified T F path image := by
  rw [verifySignature, if_pos hrequested] at h
  obtain ⟨verify, hverify, h⟩ := orError_bind_ok_iff.1 h
  obtain ⟨signature, hsignature, h⟩ := orError_bind_ok_iff.1 h
  obtain ⟨certificate, hcertificate, h⟩ := orError_bind_ok_iff.1 h
  exact ⟨verify, signature, certificate, hverify, hsignature, hcertificate, guardError_ok_iff.1 h⟩

theorem written_of_openImage {selected : Selected} (h : openImage T F o path image = .ok selected) :
    Written T F o path image selected.bytes := by
  unfold openImage at h
  split at h
  · next hpath =>
    cases h
    exact .plain hpath
  · next source hpath =>
    split at h
    · next bytes hfile =>
      obtain ⟨hacceptance, h⟩ := guardError_bind_ok_iff.1 h
      cases h
      exact .existing hpath hfile (by simpa using hacceptance)
    · next hfile =>
      obtain ⟨-, h⟩ := guardError_bind_ok_iff.1 h
      obtain ⟨bytes, hbytes, h⟩ := orError_bind_ok_iff.1 h
      cases h
      exact .decompressed hpath hfile hbytes

/-- A correct write is read back as it should be, where the read-back looks at the image only. -/
theorem readBack_overwrite {selected : Selected} (hcovered : Covered o selected) (device : Bytes) :
    readBack T o selected (overwrite device selected.bytes) = .ok () := by
  unfold readBack
  split_ifs with hskip hacceptance
  · rfl
  · have hplain : escapes selected.source = false := by
      have := hcovered.resolve_left hskip
      rwa [if_pos hacceptance] at this
    rw [sumField, if_neg (by simp [hplain]), overwrite, List.take_left']
    · exact guardError_ok_iff.2 (decide_eq_true rfl)
    · rfl
  · have hwindow : window ≤ selected.bytes.length := by
      have := hcovered.resolve_left hskip
      rwa [if_neg hacceptance] at this
    rw [overwrite, List.take_append_of_le_length hwindow]
    exact guardError_ok_iff.2 (decide_eq_true rfl)

end

/-- What a run without the lab option writes when it ends well, and when a correct write lets it end well. -/
theorem flash_writes (T : Tools) (F : Files) {args : List String} {o : Options} (hargs : commandLine args = .ok o)
    (hlab : o.labAllowMissingHash = false) :
    (∀ M S bytes, flash T F M S args = .ok bytes → ∃ path image, F.readlink o.image = some path ∧ F.file path = some image ∧
      HashVerified T F path image ∧ (o.verifySignature = true → SignatureVerified T F path image) ∧ Written T F o path image bytes) ∧
    ∀ M S plan, prepare T F M S args = .ok plan → Covered o plan.selected →
      S.dd plan.selected.bytes = some (overwrite plan.device plan.selected.bytes) → flash T F M S args = .ok plan.selected.bytes := by
  constructor
  · intro M S bytes h
    obtain ⟨plan, device, hplan, -, -, rfl⟩ := flash_ok_iff.1 h
    obtain ⟨hoptions, -, hselect, -⟩ := prepare_ok_iff.1 hplan
    cases hargs.symm.trans hoptions
    obtain ⟨-, hselect⟩ := guardError_bind_ok_iff.1 hselect
    obtain ⟨path, hpath, hselect⟩ := orError_bind_ok_iff.1 hselect
    obtain ⟨image, himage, hselect⟩ := orError_bind_ok_iff.1 hselect
    obtain ⟨⟨⟩, hhash, hselect⟩ := bind_ok_iff.1 hselect
    obtain ⟨⟨⟩, hsignature, hselect⟩ := bind_ok_iff.1 hselect
    exact ⟨path, image, hpath, himage, hashVerified_of_verifyHash hlab hhash, signatureVerified_of_verifySignature hsignature,
      written_of_openImage hselect⟩
  · intro M S plan hplan hcovered hdd
    have hoptions := (prepare_ok_iff.1 hplan).1
    cases hargs.symm.trans hoptions
    exact flash_ok_iff.2 ⟨plan, _, hplan, hdd, readBack_overwrite hcovered plan.device, rfl⟩

/-! ## An older file under the name of the decompression -/

/-- An `.xz` file of nothing. -/
def emptyXz : Bytes :=
  [253, 55, 122, 88, 90, 0, 0, 4, 230, 214, 180, 70, 0, 0, 0, 0, 28, 223, 68, 33, 31, 182, 243, 125, 1, 0, 0, 0, 0, 4, 89, 90]

def cardTools : Tools where
  sha256 := Sha256.digest
  grep pattern bytes := ((bytes.map fun b => Char.ofNat b.toNat).splitOn '\n').filter fun line => pattern.toList.dropLast.isSuffixOf line
  checkLines _ := []
  cosign := none
  decompress bytes := if bytes = emptyXz then some [] else none

def cardManifest : Bytes :=
  "0040f94d11d0039505328a90b2ff48968db873e9e7967307631bf40ef5679275  card.img.xz\n".toList.map fun c => c.toNat.toUInt8

/-- A compressed image with its manifest, and perhaps a file under its name without the suffix. -/
def cardFiles (older : Option Bytes) : Files where
  file path :=
    if path = "/img/card.img.xz" then some emptyXz else if path = "/img/MANIFEST.txt" then some cardManifest
    else if path = "/img/card.img" then older else none
  readlink path := some path
  creatable _ := true

/-- A machine with a card reader. -/
def cardReader : Machine where
  devices := ⟨fun _ => [], fun _ => 0, fun _ _ h => nomatch h⟩
  named _ h := nomatch h
  node path := if path = "/dev/sdb" then some "sdb" else none
  content path := if path = "/dev/sdb" then some [1] else none
  readlink _ := none
  linked _ h := nomatch h
  findmnt := "/dev/sda"
  root := some "sda"
  lsblkType _ := "disk"
  sysfs path := if path = "/sys/block/sdb/removable" then some "1" else none

def cardSession : Session := ⟨true, some "YES", some⟩

def cardArgs : List String := ["/dev/sdb", "/img/card.img.xz"]

def cardOptions : Options := ⟨false, false, false, false, false, "/dev/sdb", "/img/card.img.xz"⟩

theorem flash_writes_card :
    (∀ M S bytes, flash cardTools (cardFiles none) M S cardArgs = .ok bytes → ∃ path image,
      (cardFiles none).readlink cardOptions.image = some path ∧ (cardFiles none).file path = some image ∧
      HashVerified cardTools (cardFiles none) path image ∧
      (cardOptions.verifySignature = true → SignatureVerified cardTools (cardFiles none) path image) ∧
      Written cardTools (cardFiles none) cardOptions path image bytes) ∧
    ∀ M S plan, prepare cardTools (cardFiles none) M S cardArgs = .ok plan → Covered cardOptions plan.selected →
      S.dd plan.selected.bytes = some (overwrite plan.device plan.selected.bytes) →
      flash cardTools (cardFiles none) M S cardArgs = .ok plan.selected.bytes :=
  flash_writes cardTools (cardFiles none) rfl rfl

/-- The older file is written, and not what the image holds. -/
theorem older_written : ¬ ∀ (T : Tools) (F : Files) (args : List String) (o : Options), commandLine args = .ok o →
    o.labAllowMissingHash = false → ∀ M S bytes, flash T F M S args = .ok bytes → ∃ path image,
      F.readlink o.image = some path ∧ F.file path = some image ∧
        (decompressedPath path = none ∧ bytes = image ∨ (decompressedPath path).isSome = true ∧ T.decompress image = some bytes) := by
  intro h
  have hrun : flash cardTools (cardFiles (some [0])) cardReader cardSession cardArgs = .ok [0] := by decide +kernel
  obtain ⟨path, image, hpath, himage, hwritten⟩ := h _ _ _ _ rfl rfl _ _ _ hrun
  cases hpath
  cases himage
  rcases hwritten with ⟨hplain, -⟩ | ⟨-, hbytes⟩
  · revert hplain
    decide
  · revert hbytes
    decide

end SuderraOs.Flash
