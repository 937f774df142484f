import SuderraOs.Lib.Effect
import SuderraOs.Lib.Sha256

/-!
# Downloads

`download_file` of `suderra-installer` with an expected digest. The body of the response is written chunk by chunk, so every exit of
the loop leaves a file that nothing has verified. The exits on the cap and on the digest remove it; those on a transport error, a
write error and a flush error do not, and a request that is refused before the file is created leaves what stood there. The exact
condition for a download that fails to leave no unverified bytes is `CleansUp` (`download_sound_iff`).
-/

namespace SuderraOs.Packages

/-- A chunk of the body. A write that fails leaves the file with the first bytes of what was received. -/
structure Chunk where
  bytes : List UInt8
  failedWrite : Option Nat
  deriving DecidableEq

/-- How the body ends: complete, where the last flush may fail, or with a transport error; either may leave only the first bytes. -/
inductive Ending where
  | complete (failedFlush : Option Nat)
  | broken (kept : Nat)
  deriving DecidableEq

/-- The answer of the mirror. -/
structure Response where
  status : String
  success : Bool
  contentLength : Option Nat
  chunks : List Chunk
  ending : Ending
  deriving DecidableEq

/-- The world of a download: the client, the answer if there is one, and how the file operations end. -/
structure DownloadIo where
  insecure : Bool
  production : Bool
  clientBuilt : Bool
  response : Option Response
  parentMade : Bool
  created : Bool
  removed : Bool
  osError : String

/-- The bytes of a file, if there is one. -/
abbrev FileContent := Option (List UInt8)

structure DownloadResult where
  path : String
  bytes : Nat
  sha256 : String
  deriving DecidableEq

/-- `str::eq_ignore_ascii_case`. -/
def eqIgnoreAsciiCase (a b : String) : Bool := a.toList.map Char.toLower = b.toList.map Char.toLower

def sha256Hex (content : List UInt8) : String := String.ofList (Hex.encode (Sha256.digest content))

def chunkBytes (chunks : List Chunk) : List UInt8 := chunks.flatMap (·.bytes)

/-- `remove_file`, whose error is ignored. -/
def removeFile (io : DownloadIo) (file : FileContent) : FileContent := if io.removed then none else file

/-- The loop over the chunks and the flush after it, with what has been received and written so far. -/
def receive (io : DownloadIo) (url : String) (maxBytes : Nat) (ending : Ending) :
    List Chunk → List UInt8 → Except String (List UInt8) × FileContent
  | [], received =>
    match ending with
    | .complete none => (.ok received, some received)
    | .complete (some kept) => (.error io.osError, some (received.take kept))
    | .broken kept => (.error "download chunk hatası", some (received.take kept))
  | c :: chunks, received =>
    let downloaded := received.length + c.bytes.length
    if maxBytes < downloaded then
      (.error s!"indirme iptal: {downloaded} bytes indirildikten sonra sınır {maxBytes} bytes aşıldı ({url})",
        removeFile io (some received))
    else
      match c.failedWrite with
      | some kept => (.error io.osError, some ((received ++ c.bytes).take kept))
      | none => receive io url maxBytes ending chunks (received ++ c.bytes)

/-- `build_client`. -/
def buildClient (io : DownloadIo) : Except String Unit := do
  guardError "SUDERRA_INSECURE=1 is forbidden on production Suderra OS variants" (! (io.insecure && io.production))
  guardError s!"HTTP client başlatılamadı: {io.osError}" io.clientBuilt

/-- What precedes the first byte that is written: the request, its answer and the file. -/
def openDownload (io : DownloadIo) (url target : String) (maxBytes : Nat) : Except String Response := do
  buildClient io
  let response ← orError s!"HTTP GET başarısız: {url}" io.response
  guardError s!"HTTP {response.status} — {url}" response.success
  guardError s!"indirme reddedildi: bildirilen boyut {response.contentLength.getD 0} bytes > sınır {maxBytes} bytes ({url})"
    (response.contentLength.all (· ≤ maxBytes))
  guardError io.osError io.parentMade
  guardError s!"dosya oluşturulamadı: {target}" io.created
  .ok response

/-- The check of the digest, if one is expected. -/
def checkDigest (io : DownloadIo) (target : String) (expected : Option String) (received : List UInt8) (file : FileContent) :
    Except String DownloadResult × FileContent :=
  let actual := sha256Hex received
  match expected with
  | none => (.ok ⟨target, received.length, actual⟩, file)
  | some expected =>
    if eqIgnoreAsciiCase expected actual then (.ok ⟨target, received.length, actual⟩, file)
    else (.error s!"SHA256 uyuşmazlığı! beklenen={expected} hesaplanan={actual}\nİndirilen dosya silindi: {target}",
      removeFile io file)

/-- `download_file`: the result, and what is left at the target. -/
def downloadFile (io : DownloadIo) (url target : String) (expected : Option String) (maxBytes : Nat) (file : FileContent) :
    Except String DownloadResult × FileContent :=
  match openDownload io url target maxBytes with
  | .error message => (.error message, file)
  | .ok response =>
    match receive io url maxBytes response.ending response.chunks [] with
    | (.error message, file) => (.error message, file)
    | (.ok received, file) => checkDigest io target expected received file

/-! ## What is left -/

/-- The bytes have the expected digest. -/
def Verified (expected : String) (content : List UInt8) : Prop := eqIgnoreAsciiCase expected (sha256Hex content) = true

instance (expected : String) (content : List UInt8) : Decidable (Verified expected content) :=
  inferInstanceAs (Decidable (_ = true))

/-- A file that is there has the expected digest. -/
def NoneUnverified (expected : String) (file : FileContent) : Prop := ∀ content, file = some content → Verified expected content

/-- A download ends with all the bytes of the response, within the cap and verified, or it fails and leaves nothing unverified. -/
def DownloadSound (io : DownloadIo) (url target expected : String) (maxBytes : Nat) (file : FileContent) : Prop :=
  match downloadFile io url target (some expected) maxBytes file with
  | (.ok _, file) => ∃ response, io.response = some response ∧ file = some (chunkBytes response.chunks) ∧
      (chunkBytes response.chunks).length ≤ maxBytes ∧ Verified expected (chunkBytes response.chunks)
  | (.error _, file) => NoneUnverified expected file

/-- The chunks are written, and stay within the cap. -/
def Passes (maxBytes : Nat) (chunks : List Chunk) : Prop :=
  (∀ c ∈ chunks, c.failedWrite = none) ∧ (chunkBytes chunks).length ≤ maxBytes

/-- The request is answered and the file is created. -/
structure Opens (io : DownloadIo) (maxBytes : Nat) (response : Response) : Prop where
  secure : (io.insecure && io.production) = false
  clientBuilt : io.clientBuilt = true
  answered : io.response = some response
  success : response.success = true
  declared : ∀ len, response.contentLength = some len → len ≤ maxBytes
  parentMade : io.parentMade = true
  created : io.created = true

/-- The ways a download can fail leave nothing unverified: what a refused request finds at the target has the expected digest, the
file is removed where the code tries to, and where it does not, the bytes that reached the file have the expected digest. -/
structure CleansUp (io : DownloadIo) (expected : String) (maxBytes : Nat) (file : FileContent) : Prop where
  refused : (∀ response, ¬ Opens io maxBytes response) → NoneUnverified expected file
  overCap : ∀ response, Opens io maxBytes response → ∀ before c after, response.chunks = before ++ c :: after →
    Passes maxBytes before → maxBytes < (chunkBytes before).length + c.bytes.length →
    io.removed = true ∨ Verified expected (chunkBytes before)
  write : ∀ response, Opens io maxBytes response → ∀ before c after kept, response.chunks = before ++ c :: after →
    Passes maxBytes before → (chunkBytes before).length + c.bytes.length ≤ maxBytes → c.failedWrite = some kept →
    Verified expected ((chunkBytes before ++ c.bytes).take kept)
  flush : ∀ response, Opens io maxBytes response → Passes maxBytes response.chunks →
    ∀ kept, response.ending = .complete (some kept) → Verified expected ((chunkBytes response.chunks).take kept)
  broken : ∀ response, Opens io maxBytes response → Passes maxBytes response.chunks →
    ∀ kept, response.ending = .broken kept → Verified expected ((chunkBytes response.chunks).take kept)
  digest : ∀ response, Opens io maxBytes response → Passes maxBytes response.chunks → response.ending = .complete none →
    io.removed = true ∨ Verified expected (chunkBytes response.chunks)

/-! ## The loop -/

section
variable {io : DownloadIo} {url target expected : String} {maxBytes : Nat} {ending : Ending}

theorem openDownload_ok_iff {response : Response} :
    openDownload io url target maxBytes = .ok response ↔ Opens io maxBytes response := by
  simp only [openDownload, buildClient, bind_assoc, guardError_bind_ok_iff, orError_bind_ok_iff]
  constructor
  · rintro ⟨hsecure, hclient, r, hresponse, hsuccess, hdeclared, hparent, hcreated, hr⟩
    cases hr
    rw [Bool.not_eq_true'] at hsecure
    exact ⟨hsecure, hclient, hresponse, hsuccess, by simpa [Option.all_eq_true] using hdeclared, hparent, hcreated⟩
  · rintro ⟨hsecure, hclient, hresponse, hsuccess, hdeclared, hparent, hcreated⟩
    rw [Bool.not_eq_true']
    exact ⟨hsecure, hclient, response, hresponse, hsuccess, by simpa [Option.all_eq_true] using hdeclared, hparent, hcreated, rfl⟩

theorem Opens.unique {a b : Response} (ha : Opens io maxBytes a) (hb : Opens io maxBytes b) : a = b :=
  Option.some.inj (ha.answered.symm.trans hb.answered)

@[simp] theorem chunkBytes_nil : chunkBytes [] = [] := rfl

@[simp] theorem chunkBytes_cons (c : Chunk) (chunks : List Chunk) : chunkBytes (c :: chunks) = c.bytes ++ chunkBytes chunks := rfl

/-- The loop runs through the chunks that are written within the cap. -/
theorem receive_append {before rest : List Chunk} {received : List UInt8} (hwritten : ∀ c ∈ before, c.failedWrite = none)
    (hcap : received.length + (chunkBytes before).length ≤ maxBytes) :
    receive io url maxBytes ending (before ++ rest) received = receive io url maxBytes ending rest (received ++ chunkBytes before) := by
  induction before generalizing received with
  | nil => simp
  | cons c before ih =>
    rw [chunkBytes_cons, List.length_append] at hcap
    rw [List.cons_append, receive]
    simp only [hwritten c List.mem_cons_self]
    rw [if_neg (by omega), ih (fun d hd => hwritten d (List.mem_cons_of_mem _ hd)) (by rw [List.length_append]; omega),
      chunkBytes_cons, List.append_assoc]

theorem receive_passes (io : DownloadIo) (url : String) (ending : Ending) {before : List Chunk} (h : Passes maxBytes before)
    (rest : List Chunk) :
    receive io url maxBytes ending (before ++ rest) [] = receive io url maxBytes ending rest (chunkBytes before) := by
  rw [receive_append h.1 (by simpa using h.2), List.nil_append]

/-- A loop that ends well has received all chunks and written them. -/
theorem receive_ok {chunks : List Chunk} {received all : List UInt8} {left : FileContent}
    (h : receive io url maxBytes ending chunks received = (.ok all, left)) :
    all = received ++ chunkBytes chunks ∧ left = some (received ++ chunkBytes chunks) := by
  induction chunks generalizing received with
  | nil =>
    rw [chunkBytes_nil, List.append_nil]
    unfold receive at h
    split at h <;> cases h
    exact ⟨rfl, rfl⟩
  | cons c chunks ih =>
    unfold receive at h
    extract_lets downloaded at h
    split_ifs at h
    · cases h
    · split at h
      · cases h
      · rw [chunkBytes_cons, ← List.append_assoc]
        exact ih h

/-- The loop runs through all chunks, or there is a first one that it does not get past. -/
theorem passes_or (chunks : List Chunk) :
    Passes maxBytes chunks ∨ ∃ before c after, chunks = before ++ c :: after ∧ Passes maxBytes before ∧
      (maxBytes < (chunkBytes before).length + c.bytes.length ∨
        (chunkBytes before).length + c.bytes.length ≤ maxBytes ∧ ∃ kept, c.failedWrite = some kept) := by
  induction chunks using List.reverseRecOn with
  | nil => exact Or.inl ⟨by simp, Nat.zero_le _⟩
  | append_singleton chunks c ih =>
    rcases ih with hpasses | ⟨before, d, after, hchunks, hrest⟩
    · by_cases hcap : (chunkBytes chunks).length + c.bytes.length ≤ maxBytes
      · cases hwrite : c.failedWrite with
        | none =>
          refine Or.inl ⟨fun d hd => ?_, by simpa [chunkBytes] using hcap⟩
          rcases List.mem_append.1 hd with hd | hd
          · exact hpasses.1 d hd
          · rw [List.mem_singleton.1 hd, hwrite]
        | some kept => exact Or.inr ⟨chunks, c, [], rfl, hpasses, Or.inr ⟨hcap, kept, hwrite⟩⟩
      · exact Or.inr ⟨chunks, c, [], rfl, hpasses, Or.inl (Nat.not_le.1 hcap)⟩
    · exact Or.inr ⟨before, d, after ++ [c], by rw [hchunks]; simp, hrest⟩

/-! ## The whole download -/

@[simp] theorem noneUnverified_some (content : List UInt8) : NoneUnverified expected (some content) ↔ Verified expected content :=
  ⟨fun h => h content rfl, fun h _ hc => Option.some.inj hc ▸ h⟩

/-- A removal that works leaves nothing. -/
theorem noneUnverified_removeFile (content : List UInt8) :
    NoneUnverified expected (removeFile io (some content)) ↔ io.removed = true ∨ Verified expected content := by
  unfold removeFile
  split_ifs with h
  · exact iff_of_true nofun (Or.inl h)
  · simp [h]

section
variable {file : FileContent}

theorem checkDigest_of_verified {received : List UInt8} (h : Verified expected received) :
    checkDigest io target (some expected) received file = (.ok ⟨target, received.length, sha256Hex received⟩, file) :=
  if_pos h

theorem checkDigest_of_not_verified {received : List UInt8} (h : ¬ Verified expected received) :
    checkDigest io target (some expected) received file =
      (.error s!"SHA256 uyuşmazlığı! beklenen={expected} hesaplanan={sha256Hex received}\nİndirilen dosya silindi: {target}",
        removeFile io file) :=
  if_neg h

theorem checkDigest_ok {expected : Option String} {received : List UInt8} {result : DownloadResult} {left : FileContent}
    (h : checkDigest io target expected received file = (.ok result, left)) :
    left = file ∧ ∀ digest, expected = some digest → Verified digest received := by
  unfold checkDigest at h
  extract_lets actual at h
  cases expected with
  | none =>
    cases h
    exact ⟨rfl, nofun⟩
  | some expected =>
    simp only at h
    split_ifs at h with hdigest
    · cases h
      exact ⟨rfl, fun digest hd => Option.some.inj hd ▸ hdigest⟩
    · cases h

theorem sound_of_refused {message : String} (h : openDownload io url target maxBytes = .error message) :
    DownloadSound io url target expected maxBytes file ↔ NoneUnverified expected file := by
  rw [DownloadSound, downloadFile, h]

variable {response : Response}

theorem sound_of_error (h : Opens io maxBytes response) {message : String} {left : FileContent}
    (hreceive : receive io url maxBytes response.ending response.chunks [] = (.error message, left)) :
    DownloadSound io url target expected maxBytes file ↔ NoneUnverified expected left := by
  rw [DownloadSound, downloadFile, openDownload_ok_iff.2 h]
  simp only [hreceive]

theorem sound_of_overCap (h : Opens io maxBytes response) {before after : List Chunk} {c : Chunk}
    (hchunks : response.chunks = before ++ c :: after) (hbefore : Passes maxBytes before)
    (hover : maxBytes < (chunkBytes before).length + c.bytes.length) :
    DownloadSound io url target expected maxBytes file ↔ io.removed = true ∨ Verified expected (chunkBytes before) := by
  have hreceive := receive_passes io url response.ending hbefore (c :: after)
  rw [← hchunks, receive] at hreceive
  simp only [hover, if_true] at hreceive
  rw [sound_of_error h hreceive, noneUnverified_removeFile]

theorem sound_of_write (h : Opens io maxBytes response) {before after : List Chunk} {c : Chunk} {kept : Nat}
    (hchunks : response.chunks = before ++ c :: after) (hbefore : Passes maxBytes before)
    (hcap : (chunkBytes before).length + c.bytes.length ≤ maxBytes) (hwrite : c.failedWrite = some kept) :
    DownloadSound io url target expected maxBytes file ↔ Verified expected ((chunkBytes before ++ c.bytes).take kept) := by
  have hreceive := receive_passes io url response.ending hbefore (c :: after)
  rw [← hchunks, receive] at hreceive
  simp only [Nat.not_lt.2 hcap, if_false, hwrite] at hreceive
  rw [sound_of_error h hreceive, noneUnverified_some]

theorem receive_all (io : DownloadIo) (url : String) (h : Passes maxBytes response.chunks) :
    receive io url maxBytes response.ending response.chunks [] =
      receive io url maxBytes response.ending [] (chunkBytes response.chunks) := by
  have := receive_passes io url response.ending h []
  rwa [List.append_nil] at this

theorem sound_of_flush (h : Opens io maxBytes response) (hpasses : Passes maxBytes response.chunks) {kept : Nat}
    (hending : response.ending = .complete (some kept)) :
    DownloadSound io url target expected maxBytes file ↔ Verified expected ((chunkBytes response.chunks).take kept) := by
  have hreceive : receive io url maxBytes response.ending response.chunks [] =
      (.error io.osError, some ((chunkBytes response.chunks).take kept)) := by
    rw [receive_all io url hpasses, hending]
    rfl
  rw [sound_of_error h hreceive, noneUnverified_some]

theorem sound_of_broken (h : Opens io maxBytes response) (hpasses : Passes maxBytes response.chunks) {kept : Nat}
    (hending : response.ending = .broken kept) :
    DownloadSound io url target expected maxBytes file ↔ Verified expected ((chunkBytes response.chunks).take kept) := by
  have hreceive : receive io url maxBytes response.ending response.chunks [] =
      (.error "download chunk hatası", some ((chunkBytes response.chunks).take kept)) := by
    rw [receive_all io url hpasses, hending]
    rfl
  rw [sound_of_error h hreceive, noneUnverified_some]

/-- A body that is received whole is verified, or removed. -/
theorem sound_of_complete (h : Opens io maxBytes response) (hpasses : Passes maxBytes response.chunks)
    (hending : response.ending = .complete none) :
    DownloadSound io url target expected maxBytes file ↔ io.removed = true ∨ Verified expected (chunkBytes response.chunks) := by
  have hreceive : receive io url maxBytes response.ending response.chunks [] =
      (.ok (chunkBytes response.chunks), some (chunkBytes response.chunks)) := by
    rw [receive_all io url hpasses, hending]
    rfl
  rw [DownloadSound, downloadFile, openDownload_ok_iff.2 h]
  simp only [hreceive]
  by_cases hverified : Verified expected (chunkBytes response.chunks)
  · rw [checkDigest_of_verified hverified]
    exact iff_of_true ⟨response, h.answered, rfl, hpasses.2, hverified⟩ (Or.inr hverified)
  · rw [checkDigest_of_not_verified hverified]
    exact noneUnverified_removeFile _

/-- A download is sound exactly when the way it ends leaves nothing unverified. -/
theorem download_sound_iff (io : DownloadIo) (url target expected : String) (maxBytes : Nat) (file : FileContent) :
    DownloadSound io url target expected maxBytes file ↔ CleansUp io expected maxBytes file := by
  constructor
  · intro hsound
    refine ⟨fun hrefused => ?_, fun response h before c after hchunks hbefore hover => ?_,
      fun response h before c after kept hchunks hbefore hcap hwrite => ?_, fun response h hpasses kept hending => ?_,
      fun response h hpasses kept hending => ?_, fun response h hpasses hending => ?_⟩
    · cases hopen : openDownload io url target maxBytes with
      | ok response => exact absurd (openDownload_ok_iff.1 hopen) (hrefused response)
      | error message => exact (sound_of_refused hopen).1 hsound
    · exact (sound_of_overCap h hchunks hbefore hover).1 hsound
    · exact (sound_of_write h hchunks hbefore hcap hwrite).1 hsound
    · exact (sound_of_flush h hpasses hending).1 hsound
    · exact (sound_of_broken h hpasses hending).1 hsound
    · exact (sound_of_complete h hpasses hending).1 hsound
  · intro hclean
    cases hopen : openDownload io url target maxBytes with
    | error message =>
      refine (sound_of_refused hopen).2 (hclean.refused fun response h => ?_)
      rw [openDownload_ok_iff.2 h] at hopen
      cases hopen
    | ok response =>
      have h := openDownload_ok_iff.1 hopen
      rcases passes_or response.chunks with hpasses | ⟨before, c, after, hchunks, hbefore, hover | ⟨hcap, kept, hwrite⟩⟩
      · match hending : response.ending with
        | .complete none => exact (sound_of_complete h hpasses hending).2 (hclean.digest response h hpasses hending)
        | .complete (some kept) => exact (sound_of_flush h hpasses hending).2 (hclean.flush response h hpasses kept hending)
        | .broken kept => exact (sound_of_broken h hpasses hending).2 (hclean.broken response h hpasses kept hending)
      · exact (sound_of_overCap h hchunks hbefore hover).2 (hclean.overCap response h before c after hchunks hbefore hover)
      · exact (sound_of_write h hchunks hbefore hcap hwrite).2 (hclean.write response h before c after kept hchunks hbefore hcap hwrite)

/-- A download that ends well has run through the whole body and left it at the target. -/
theorem downloadFile_ok {expected : Option String} {result : DownloadResult} {left : FileContent}
    (h : downloadFile io url target expected maxBytes file = (.ok result, left)) :
    ∃ response, io.response = some response ∧ left = some (chunkBytes response.chunks) ∧
      ∀ digest, expected = some digest → Verified digest (chunkBytes response.chunks) := by
  rw [downloadFile] at h
  split at h
  · cases h
  · rename_i response hopen
    have hopens := openDownload_ok_iff.1 hopen
    split at h
    · cases h
    · rename_i received written hreceive
      obtain ⟨rfl, rfl⟩ := receive_ok hreceive
      rw [List.nil_append] at h
      refine ⟨response, hopens.answered, ?_, ?_⟩
      · exact (checkDigest_ok h).1
      · exact (checkDigest_ok h).2

end

end

/-- A mirror that answers with one byte and breaks off. -/
def brokenIo : DownloadIo where
  insecure := false
  production := true
  clientBuilt := true
  response := some ⟨"200 OK", true, some 3, [⟨[0x61], none⟩], .broken 1⟩
  parentMade := true
  created := true
  removed := true
  osError := ""

/-- The byte is left at the target, though the digest of three was expected. -/
theorem download_broken : ¬ ∀ (io : DownloadIo) (url target expected : String) (maxBytes : Nat) (file : FileContent),
    DownloadSound io url target expected maxBytes file := by
  intro h
  have hleft := h brokenIo "https://releases.suderra.com/edge/v1.6.0/manifest.json" "edge.raucb" (sha256Hex [0x61, 0x62, 0x63]) 8 none
    [0x61] rfl
  revert hleft
  decide +kernel

end SuderraOs.Packages
