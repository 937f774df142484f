import SuderraOs.Lib.Effect
import SuderraOs.Lib.Shell

/-!
# The install helper

`install.sh` from its configuration to the call of `suderra-installer`. Between the two it sources `/etc/os-release` into its own
variables, and the words of the call are expanded without quotes. What was asked for is what is installed exactly where the file
gives no variable that is used later another value, and every word that was asked for stays one word (`install_iff`).
-/

namespace SuderraOs.Packages.InstallScript

open Shell

abbrev Bytes := List UInt8

abbrev Text := List Char

/-- An `/etc/os-release`: assignments that the shell reads, and no commands. -/
structure OsRelease where
  text : Text
  commands : List Shell.Command
  parsed : Shell.parse text = some commands
  assigns : ∀ c ∈ commands, c.words = []

def OsRelease.assignments (os : OsRelease) : List (Text × Text) := os.commands.flatMap (·.assigns)

/-- The machine and the directory that the script runs on: `uname -m`, whether it writes to a terminal, and the paths that match a
pattern. -/
structure Platform where
  machine : Text
  terminal : Bool
  glob : Text → List Text

/-- What a run finds: who runs it, the commands on a `PATH`, whether and what is answered, what `curl` gets, the first fields that
`awk` prints, the digest that `sha256sum` prints, `cosign verify-blob` (on the certificate, the identity, the issuer, the signature
and the blob), and whether a file can be installed. -/
structure Session where
  root : Bool
  present : Text → Text → Bool
  interactive : Bool
  answer : Option Text
  curl : Text → Option Bytes
  firstFields : Bytes → Text
  sha256sum : Bytes → Text
  cosign : Bytes → Text → Text → Bytes → Bytes → Bool
  installs : Text → Bytes → Bool

/-! ## The configuration -/

/-- `${name:-default}`. -/
def orDefault (value : Option Text) (default : Text) : Text :=
  match value with
  | some v => if v = [] then default else v
  | none => default

/-- The options, each with the variable that it sets. -/
def flags : List (Text × Text) :=
  [("--version".toList, "VERSION".toList), ("--package".toList, "PACKAGE".toList), ("--mirror".toList, "MIRROR".toList)]

/-- The assignment of an option that has its value behind an equals sign. -/
def inlineOption (word : Text) : Option (Text × Text) :=
  flags.findSome? fun p => if (p.1 ++ ['=']).isPrefixOf word then some (p.2, word.drop (p.1.length + 1)) else none

/-- The assignments that the command line makes, in their order. -/
def readOptions : List Text → Except String (List (Text × Text))
  | [] => .ok []
  | word :: rest =>
    match flags.lookup word with
    | some name =>
      match rest with
      | value :: rest => do
        let more ← readOptions rest
        .ok ((name, value) :: more)
      | [] => .error "2: parameter not set"
    | none =>
      match inlineOption word with
      | some p => do
        let more ← readOptions rest
        .ok (p :: more)
      | none => .error (if word = "-h".toList ∨ word = "--help".toList then "help" else "Bilinmeyen seçenek: " ++ String.ofList word)

/-- The variables that are set before the command line is read. The shell takes no separators from its environment. -/
def defaults (env : Env) : List (Text × Text) :=
  [("IFS".toList, defaultIfs),
    ("REPO".toList, orDefault (env "SUDERRA_REPO".toList) "Okan-wqm/Suderra-OS".toList),
    ("VERSION".toList, orDefault (env "SUDERRA_VERSION".toList) "latest".toList),
    ("PACKAGE".toList, orDefault (env "SUDERRA_PACKAGE".toList) "edge".toList),
    ("MIRROR".toList, orDefault (env "SUDERRA_MIRROR".toList) "github".toList),
    ("INSTALLER_PATH".toList, orDefault (env "SUDERRA_INSTALLER_PATH".toList) "/usr/local/bin/suderra-installer".toList)]

/-- The colours of the messages. -/
def colours (on : Bool) : List (Text × Text) :=
  [("R", "\\033[0;31m"), ("G", "\\033[0;32m"), ("Y", "\\033[0;33m"), ("B", "\\033[0;34m"), ("N", "\\033[0m")].map fun p =>
    (p.1.toList, if on then p.2.toList else [])

/-- The architecture of the releases for what `uname -m` prints. -/
def archOf (machine : Text) : Option Text :=
  if machine = "x86_64".toList ∨ machine = "amd64".toList then some "x86_64".toList
  else if machine = "aarch64".toList ∨ machine = "arm64".toList then some "aarch64".toList
  else none

/-- The variables before the operating system is looked at. -/
def configure (Pl : Platform) (args : List Text) (env : Env) : Except String Env := do
  let options ← readOptions args
  let vars := assignAll options (assignAll (defaults env) env)
  let vars := assignAll (colours (Pl.terminal && orDefault (vars "NO_COLOR".toList) [] = [])) vars
  let arch ← orError ("Desteklenmeyen mimari: " ++ String.ofList Pl.machine) (archOf Pl.machine)
  .ok (assignAll [("ARCH".toList, arch)] vars)

/-! ## The operating system -/

/-- The answers `[yY]` and `[yY][eE][sS]`. -/
def isYes (answer : Text) : Bool := answer.map Char.toLower = ['y'] || answer.map Char.toLower = ['y', 'e', 's']

/-- `/etc/os-release` is sourced, and outside of Suderra OS the user is asked. -/
def detectOs (S : Session) (os : Option OsRelease) (vars : Env) : Except String Env :=
  match os with
  | none => .ok vars
  | some file => do
    let vars ← orError "/etc/os-release" (Shell.source file.text vars)
    let osId := orDefault (vars "ID".toList) "unknown".toList
    let vars := assignAll [("OS_ID".toList, osId), ("OS_VERSION".toList, orDefault (vars "VERSION_ID".toList) "unknown".toList)] vars
    if osId = "suderra-os".toList then .ok vars
    else if S.interactive then do
      let answer ← orError "read" S.answer
      guardError "iptal edildi" (isYes answer)
      .ok (assignAll [("CONFIRM".toList, answer)] vars)
    else .ok vars

/-! ## The installer -/

/-- The value of a variable that is set. -/
def value (vars : Env) (name : String) : Text := (vars name.toList).getD []

/-- The address of the installer of a release. -/
def releaseUrl (repo version arch : Text) : Text :=
  "https://github.com/".toList ++ repo ++ "/releases".toList ++
    if version = "latest".toList then "/latest/download".toList ++ "/suderra-installer-latest-".toList ++ arch
    else "/download/".toList ++ version ++ "/suderra-installer-".toList ++ version ++ "-".toList ++ arch

def cosignIdentity (repo : Text) : Text :=
  "^https://github\\.com/".toList ++ repo ++
    "/\\.github/workflows/release\\.yml@refs/tags/v[0-9]+\\.[0-9]+\\.[0-9]+(-[A-Za-z0-9.\\-]+)?$".toList

/-- `download_installer`: the address of the installer that is verified and installed. -/
def downloadInstaller (S : Session) (vars : Env) : Except String Text := do
  let url := releaseUrl (value vars "REPO") (value vars "VERSION") (value vars "ARCH")
  let installer ← orError ("İndirme başarısız: " ++ String.ofList url) (S.curl url)
  let sums ← orError "SHA256 dosyası bulunamadı; doğrulanmamış installer kurulumu reddedildi" (S.curl (url ++ ".sha256".toList))
  guardError "SHA256 uyuşmazlığı! İndirme bozuk veya manipüle edilmiş." (S.firstFields sums = S.sha256sum installer)
  guardError "cosign kurulu değil; signature doğrulaması olmadan installer kurulumu reddedildi" (S.present (value vars "PATH") "cosign".toList)
  let signature ← orError "Signature/certificate dosyası yok; imzasız installer kurulumu reddedildi" (S.curl (url ++ ".sig".toList))
  let certificate ← orError "Signature/certificate dosyası yok; imzasız installer kurulumu reddedildi" (S.curl (url ++ ".cert".toList))
  guardError "cosign signature doğrulanamadı!" (S.cosign certificate (cosignIdentity (value vars "REPO"))
    "https://token.actions.githubusercontent.com".toList signature installer)
  guardError "install" (S.installs (value vars "INSTALLER_PATH") installer)
  .ok url

/-- The installer is downloaded where there is none. -/
def findInstaller (S : Session) (vars : Env) : Except String (Option Text) :=
  if S.present (value vars "PATH") "suderra-installer".toList then .ok none else (downloadInstaller S vars).map some

/-- `INSTALL_ARGS`, as the texts that spaces join. -/
def installTexts (package mirror version : Text) : List Text :=
  ["install".toList, package, "--mirror".toList, mirror, "--yes".toList] ++
    if version = "latest".toList then [] else ["--version".toList, version]

/-- The words that `suderra-installer` is called with. -/
def installWords (Pl : Platform) (vars : Env) : List Text :=
  expandUnquoted Pl.glob ((vars "IFS".toList).getD defaultIfs)
    ([' '].intercalate (installTexts (value vars "PACKAGE") (value vars "MIRROR") (value vars "VERSION")))

/-- What a run does: the installer that it downloads, if it does, and the words that it calls `suderra-installer` with. -/
structure Outcome where
  downloaded : Option Text
  words : List Text

def dependencies : List Text := ["curl", "sha256sum", "uname", "install", "awk", "mktemp"].map String.toList

/-- The script up to the call of `suderra-installer`. -/
def run (Pl : Platform) (S : Session) (args : List Text) (env : Env) (os : Option OsRelease) : Except String Outcome := do
  let vars ← configure Pl args env
  guardError "Root yetkisi gerekli." S.root
  guardError "kurulu değil" (dependencies.all fun name => S.present (value vars "PATH") name)
  let vars ← detectOs S os vars
  let downloaded ← findInstaller S vars
  .ok ⟨downloaded, installWords Pl vars⟩

/-! ## What is asked for -/

/-- What an option, else a variable of the environment, else the default asks for. -/
def asked (options : List (Text × Text)) (env : Env) (name variableName default : String) : Text :=
  (lastValue options name.toList).getD (orDefault (env variableName.toList) default.toList)

def askedVersion (options : List (Text × Text)) (env : Env) : Text := asked options env "VERSION" "SUDERRA_VERSION" "latest"

def askedPackage (options : List (Text × Text)) (env : Env) : Text := asked options env "PACKAGE" "SUDERRA_PACKAGE" "edge"

def askedMirror (options : List (Text × Text)) (env : Env) : Text := asked options env "MIRROR" "SUDERRA_MIRROR" "github"

def askedRepo (env : Env) : Text := orDefault (env "SUDERRA_REPO".toList) "Okan-wqm/Suderra-OS".toList

/-- The variables that the script uses after it has looked at the operating system. -/
def usedNames : List Text :=
  ["VERSION", "PACKAGE", "MIRROR", "REPO", "ARCH", "INSTALLER_PATH", "R", "G", "Y", "B", "N", "IFS", "PATH"].map String.toList

/-- What was asked for is installed: sourcing the operating system leaves the variables that are used, and a run calls the installer with
the words that were asked for and downloads no installer but that of the release. -/
def InstallsAsAsked (Pl : Platform) (args : List Text) (env : Env) (os : Option OsRelease) : Prop :=
  ∀ options vars, readOptions args = .ok options → configure Pl args env = .ok vars →
    (∀ S vars', detectOs S os vars = .ok vars' → ∀ name ∈ usedNames, vars' name = vars name) ∧
    ∀ S out, run Pl S args env os = .ok out →
      out.words = installTexts (askedPackage options env) (askedMirror options env) (askedVersion options env) ∧
      ∀ url ∈ out.downloaded, ∃ arch, archOf Pl.machine = some arch ∧ url = releaseUrl (askedRepo env) (askedVersion options env) arch

/-- The file gives no variable that is used another value than it has. -/
def Harmless (os : Option OsRelease) (vars : Env) : Prop :=
  ∀ file ∈ os, ∀ name ∈ usedNames, ∀ v, lastValue file.assignments name = some v → vars name = some v

/-- A text stays one word where it is expanded without quotes. -/
def StaysWord (Pl : Platform) (text : Text) : Prop := expandUnquoted Pl.glob defaultIfs text = [text]

section

variable {Pl : Platform} {S : Session} {args : List Text} {env vars vars' : Env} {os : Option OsRelease} {options : List (Text × Text)}

/-! ## The variables -/

/-- The command line sets the variables of the options only. -/
theorem mem_readOptions : ∀ {args : List Text} {options : List (Text × Text)}, readOptions args = .ok options →
    ∀ p ∈ options, p.1 ∈ flags.map (·.2)
  | [], options, h => by
    cases h
    simp
  | word :: rest, options, h => by
    unfold readOptions at h
    split at h
    · next name hname =>
      have hmem : (word, name) ∈ flags := by
        obtain ⟨before, after, heq, -⟩ := List.lookup_eq_some_iff.1 hname
        exact heq ▸ by simp
      cases rest with
      | nil => cases h
      | cons value rest =>
        obtain ⟨more, hmore, h⟩ := bind_ok_iff.1 h
        cases h
        exact List.forall_mem_cons.2 ⟨List.mem_map.2 ⟨_, hmem, rfl⟩, mem_readOptions hmore⟩
    · split at h
      · next p hp =>
        obtain ⟨more, hmore, h⟩ := bind_ok_iff.1 h
        cases h
        obtain ⟨q, hq, hif⟩ := List.exists_of_findSome?_eq_some hp
        have hname : p.1 = q.2 := by
          split_ifs at hif
          rw [← Option.some.inj hif]
        exact List.forall_mem_cons.2 ⟨hname ▸ List.mem_map.2 ⟨_, hq, rfl⟩, mem_readOptions hmore⟩
      · cases h

theorem lastValue_options (h : readOptions args = .ok options) {name : Text} (hname : name ∉ flags.map (·.2)) : lastValue options name = none :=
  lastValue_eq_none fun p hp heq => hname (heq ▸ mem_readOptions h p hp)

/-- What the configuration makes of the variables that are used for the installation. -/
structure Configured (Pl : Platform) (options : List (Text × Text)) (env vars : Env) : Prop where
  package : value vars "PACKAGE" = askedPackage options env
  mirror : value vars "MIRROR" = askedMirror options env
  version : value vars "VERSION" = askedVersion options env
  repo : value vars "REPO" = askedRepo env
  arch : archOf Pl.machine = some (value vars "ARCH")
  ifs : vars "IFS".toList = some defaultIfs

theorem configured_of_configure (hoptions : readOptions args = .ok options) (h : configure Pl args env = .ok vars) :
    Configured Pl options env vars := by
  rw [configure, hoptions, ok_bind] at h
  obtain ⟨arch, harch, h⟩ := orError_bind_ok_iff.1 h
  obtain rfl := Except.ok.inj h
  have hval : ∀ on, ∀ name ∈ ["PACKAGE", "MIRROR", "VERSION", "REPO", "IFS"],
      assignAll [("ARCH".toList, arch)] (assignAll (colours on) (assignAll options (assignAll (defaults env) env))) name.toList =
        (lastValue options name.toList).or ((lastValue (defaults env) name.toList).or (env name.toList)) := by
    intro on name hname
    have hcolours : ∀ on, ∀ name ∈ ["PACKAGE", "MIRROR", "VERSION", "REPO", "IFS"], lastValue (colours on) name.toList = none := by
      decide
    have harch : ∀ name ∈ ["PACKAGE", "MIRROR", "VERSION", "REPO", "IFS"], "ARCH".toList ≠ name.toList := by decide
    have hlast : lastValue [("ARCH".toList, arch)] name.toList = none := lastValue_eq_none (by simpa using harch name hname)
    rw [assignAll_apply, assignAll_apply, assignAll_apply, assignAll_apply, hlast, hcolours on name hname, Option.none_or, Option.none_or]
  have hasked : ∀ {name default : Text} {v : Option Text},
      ((lastValue options name).or ((some default).or v)).getD [] = (lastValue options name).getD default := by
    intro name default v
    cases lastValue options name <;> rfl
  exact {
    package := by
      rw [value, hval _ _ (by decide)]
      exact hasked
    mirror := by
      rw [value, hval _ _ (by decide)]
      exact hasked
    version := by
      rw [value, hval _ _ (by decide)]
      exact hasked
    repo := by
      rw [value, hval _ _ (by decide), lastValue_options hoptions (by decide)]
      rfl
    arch := by
      rw [value, assignAll_apply, harch]
      rfl
    ifs := by
      rw [hval _ _ (by decide), lastValue_options hoptions (by decide)]
      rfl }

/-! ## The sourced file -/

/-- Sourcing makes the assignments of the file. -/
theorem source_osRelease (file : OsRelease) (vars : Env) : Shell.source file.text vars = some (assignAll file.assignments vars) := by
  rw [Shell.source, file.parsed, Option.bind_some, run_assignments file.assigns]
  rfl

/-- What is used later comes from the file, if that assigns it. -/
theorem detectOs_apply (h : detectOs S os vars = .ok vars') {name : Text} (hname : name ∈ usedNames) :
    vars' name = (os.bind fun file => lastValue file.assignments name).or (vars name) := by
  cases os with
  | none =>
    cases h
    rfl
  | some file =>
    have hos : ∀ osId osVersion, ∀ name ∈ usedNames, lastValue [("OS_ID".toList, osId), ("OS_VERSION".toList, osVersion)] name = none := by
      intro osId osVersion name hname
      have hne : ∀ name ∈ usedNames, "OS_ID".toList ≠ name ∧ "OS_VERSION".toList ≠ name := by decide
      exact lastValue_eq_none (by simpa using hne name hname)
    have hconfirm : ∀ answer, ∀ name ∈ usedNames, lastValue [("CONFIRM".toList, answer)] name = none := by
      intro answer name hname
      have hne : ∀ name ∈ usedNames, "CONFIRM".toList ≠ name := by decide
      exact lastValue_eq_none (by simpa using hne name hname)
    rw [detectOs, source_osRelease, orError_some, ok_bind] at h
    simp only [Option.bind_some]
    dsimp only at h
    split_ifs at h
    · cases h
      rw [assignAll_apply, hos _ _ name hname, Option.none_or, assignAll_apply]
    · obtain ⟨answer, -, h⟩ := orError_bind_ok_iff.1 h
      obtain ⟨-, h⟩ := guardError_bind_ok_iff.1 h
      cases h
      rw [assignAll_apply, hconfirm _ name hname, Option.none_or, assignAll_apply, hos _ _ name hname, Option.none_or, assignAll_apply]
    · cases h
      rw [assignAll_apply, hos _ _ name hname, Option.none_or, assignAll_apply]

/-- Nothing that is used changes exactly if the file is harmless. -/
theorem detectOs_eq_iff (h : detectOs S os vars = .ok vars') : (∀ name ∈ usedNames, vars' name = vars name) ↔ Harmless os vars := by
  constructor
  · rintro hsame file hfile name hname v hv
    rw [Option.mem_def.1 hfile] at h
    rw [← hsame name hname, detectOs_apply h hname, Option.bind_some, hv, Option.some_or]
  · intro hharmless name hname
    rw [detectOs_apply h hname]
    cases hlast : os.bind fun file => lastValue file.assignments name with
    | none => rfl
    | some v =>
      obtain ⟨file, hfile, hv⟩ := Option.bind_eq_some_iff.1 hlast
      rw [Option.some_or, hharmless file hfile name hname v hv]

/-- A session that nobody answers, where everything is there. -/
def quietSession : Session where
  root := true
  present _ _ := true
  interactive := false
  answer := none
  curl _ := none
  firstFields _ := []
  sha256sum _ := []
  cosign _ _ _ _ _ := false
  installs _ _ := false

theorem exists_detectOs_quiet (os : Option OsRelease) (vars : Env) : ∃ vars', detectOs quietSession os vars = .ok vars' := by
  cases os with
  | none => exact ⟨vars, rfl⟩
  | some file =>
    rw [detectOs, source_osRelease, orError_some, ok_bind]
    dsimp only
    split_ifs with _ hinteractive
    · exact ⟨_, rfl⟩
    · cases hinteractive
    · exact ⟨_, rfl⟩

/-! ## The words of the call -/

/-- Two texts between words that stay as they are come out as themselves only if each does so on its own: a word that is missing or too
many in one of them would have to stand in the place of a fixed word. -/
theorem keeps_apart {expand : Text → List Text} {a b c d : Text} {t t' : List Text} (hc : expand c = [c]) (hd : expand d = [d])
    (hcd : c ≠ d) (h : expand a ++ c :: (expand b ++ d :: t) = a :: c :: b :: d :: t') (hshort : t'.length ≤ 2)
    (hhead : t.head? = t'.head?) (hother : ∀ v ∈ t'.head?, v ≠ c ∧ v ≠ d) : expand a = [a] ∧ expand b = [b] ∧ t = t' := by
  cases ha : expand a with
  | nil =>
    rw [ha, List.nil_append, List.cons.injEq] at h
    rw [← h.1, hc] at ha
    cases ha
  | cons x as =>
    rw [ha, List.cons_append, List.cons.injEq] at h
    obtain ⟨rfl, h⟩ := h
    cases as with
    | nil =>
      rw [List.nil_append, List.cons.injEq] at h
      obtain ⟨-, h⟩ := h
      cases hb : expand b with
      | nil =>
        rw [hb, List.nil_append, List.cons.injEq] at h
        rw [← h.1, hd] at hb
        cases hb
      | cons y bs =>
        rw [hb, List.cons_append, List.cons.injEq] at h
        obtain ⟨rfl, h⟩ := h
        cases bs with
        | nil =>
          rw [List.nil_append, List.cons.injEq] at h
          exact ⟨rfl, rfl, h.2⟩
        | cons z bs =>
          rw [List.cons_append, List.cons.injEq] at h
          obtain ⟨rfl, h⟩ := h
          exfalso
          cases bs with
          | nil => exact (hother z (by rw [← h]; rfl)).2 rfl
          | cons w bs =>
            rw [← h] at hshort hhead
            have ht : t = [] := by
              simp only [List.cons_append, List.length_cons, List.length_append] at hshort
              exact List.eq_nil_of_length_eq_zero (by omega)
            rw [ht] at hhead
            cases hhead
    | cons y as =>
      rw [List.cons_append, List.cons.injEq] at h
      obtain ⟨rfl, h⟩ := h
      exfalso
      cases as with
      | nil =>
        rw [List.nil_append, List.cons.injEq] at h
        obtain ⟨rfl, h⟩ := h
        rw [hc, List.singleton_append, List.cons.injEq] at h
        exact hcd h.1
      | cons z as =>
        rw [List.cons_append, List.cons.injEq] at h
        obtain ⟨rfl, h⟩ := h
        cases as with
        | nil =>
          rw [List.nil_append, List.cons.injEq] at h
          exact hcd h.1
        | cons w as =>
          rw [List.cons_append, List.cons.injEq] at h
          obtain ⟨rfl, h⟩ := h
          have hlength := congrArg List.length h
          simp only [List.length_cons, List.length_append] at hlength
          have has : as = [] := List.eq_nil_of_length_eq_zero (by omega)
          rw [has, List.nil_append] at h
          exact (hother y (by rw [← h]; rfl)).1 rfl

/-- The words of the call are the ones that are asked for exactly if each of these stays one word. -/
theorem flatMap_installTexts_iff {expand : Text → List Text} {package mirror version : Text}
    (hconst : ∀ text ∈ ["install", "--mirror", "--yes", "--version"], expand text.toList = [text.toList]) :
    (installTexts package mirror version).flatMap expand = installTexts package mirror version ↔
      expand package = [package] ∧ expand mirror = [mirror] ∧ (version ≠ "latest".toList → expand version = [version]) := by
  have hinstall := hconst "install" (by decide)
  have hmirror := hconst "--mirror" (by decide)
  have hyes := hconst "--yes" (by decide)
  have hversion := hconst "--version" (by decide)
  have hne : "--mirror".toList ≠ "--yes".toList := by decide
  by_cases hlatest : version = "latest".toList
  · have htexts : installTexts package mirror version = ["install".toList, package, "--mirror".toList, mirror, "--yes".toList] := by
      rw [installTexts, if_pos hlatest, List.append_nil]
    rw [htexts]
    simp only [List.flatMap_cons, List.flatMap_nil, hinstall, hmirror, hyes, List.singleton_append, List.append_nil, List.cons.injEq,
      true_and]
    constructor
    · intro h
      obtain ⟨hpackage, hmirror', -⟩ := keeps_apart hmirror hyes hne h (by decide) (by rfl) (by simp)
      exact ⟨hpackage, hmirror', fun h => absurd hlatest h⟩
    · rintro ⟨hpackage, hmirror', -⟩
      rw [hpackage, hmirror']
      rfl
  · have htexts : installTexts package mirror version =
        ["install".toList, package, "--mirror".toList, mirror, "--yes".toList, "--version".toList, version] := by
      rw [installTexts, if_neg hlatest]
      rfl
    rw [htexts]
    simp only [List.flatMap_cons, List.flatMap_nil, hinstall, hmirror, hyes, hversion, List.singleton_append, List.append_nil,
      List.cons.injEq, true_and]
    constructor
    · intro h
      obtain ⟨hpackage, hmirror', htail⟩ := keeps_apart hmirror hyes hne h (by simp) (by rfl) (by simp)
      exact ⟨hpackage, hmirror', fun _ => (List.cons.inj htail).2⟩
    · rintro ⟨hpackage, hmirror', hversion'⟩
      rw [hpackage, hmirror', hversion' hlatest]
      rfl

/-- The words of the call, where nothing that is used was changed. -/
theorem installWords_eq (hconfigured : Configured Pl options env vars) (hsame : ∀ name ∈ usedNames, vars' name = vars name) :
    installWords Pl vars' = (installTexts (askedPackage options env) (askedMirror options env) (askedVersion options env)).flatMap
      (expandUnquoted Pl.glob defaultIfs) := by
  have hvalue : ∀ name ∈ ["PACKAGE", "MIRROR", "VERSION"], value vars' name = value vars name := by
    intro name hname
    have hused : ∀ name ∈ ["PACKAGE", "MIRROR", "VERSION"], name.toList ∈ usedNames := by decide
    rw [value, value, hsame _ (hused name hname)]
  have hifs : vars' "IFS".toList = some defaultIfs := (hsame _ (by decide)).trans hconfigured.ifs
  have hne : ∀ package mirror version, installTexts package mirror version ≠ [] := fun _ _ _ => List.cons_ne_nil _ _
  rw [installWords, hifs, Option.getD_some, expandUnquoted_intercalate (hne _ _ _), hvalue _ (by decide), hvalue _ (by decide),
    hvalue _ (by decide), hconfigured.package, hconfigured.mirror, hconfigured.version]

/-- The words of the call are those that were asked for exactly if each stays one word. -/
theorem installWords_eq_iff (hconfigured : Configured Pl options env vars) (hsame : ∀ name ∈ usedNames, vars' name = vars name) :
    installWords Pl vars' = installTexts (askedPackage options env) (askedMirror options env) (askedVersion options env) ↔
      StaysWord Pl (askedPackage options env) ∧ StaysWord Pl (askedMirror options env) ∧
        (askedVersion options env ≠ "latest".toList → StaysWord Pl (askedVersion options env)) := by
  have hconst : ∀ text ∈ ["install", "--mirror", "--yes", "--version"], expandUnquoted Pl.glob defaultIfs text.toList = [text.toList] := by
    intro text htext
    have hplain : ∀ text ∈ ["install", "--mirror", "--yes", "--version"],
        text.toList ≠ [] ∧ ∀ c ∈ text.toList, c ∉ [' ', '\t', '\n', '*', '?', '['] := by decide
    exact expandUnquoted_word (hplain text htext).1 (hplain text htext).2
  rw [installWords_eq hconfigured hsame, flatMap_installTexts_iff hconst]
  rfl

theorem downloadInstaller_eq {url : Text} (h : downloadInstaller S vars = .ok url) :
    url = releaseUrl (value vars "REPO") (value vars "VERSION") (value vars "ARCH") := by
  simp only [downloadInstaller, bind_ok_iff] at h
  obtain ⟨_, -, _, -, _, -, _, -, _, -, _, -, _, -, _, -, h⟩ := h
  exact (Except.ok.inj h).symm

/-- An installer that is downloaded is that of the release. -/
theorem url_of_findInstaller {url : Text} (h : findInstaller S vars = .ok (some url)) :
    url = releaseUrl (value vars "REPO") (value vars "VERSION") (value vars "ARCH") := by
  unfold findInstaller at h
  split_ifs at h
  · cases h
  · cases hdownload : downloadInstaller S vars with
    | error e =>
      rw [hdownload] at h
      cases h
    | ok url' =>
      rw [hdownload] at h
      cases h
      exact downloadInstaller_eq hdownload

theorem run_ok_iff {out : Outcome} : run Pl S args env os = .ok out ↔
    ∃ vars vars', configure Pl args env = .ok vars ∧ S.root = true ∧
      dependencies.all (fun name => S.present (value vars "PATH") name) = true ∧ detectOs S os vars = .ok vars' ∧
      ∃ downloaded, findInstaller S vars' = .ok downloaded ∧ ⟨downloaded, installWords Pl vars'⟩ = out := by
  simp only [run, bind_ok_iff, guardError_ok_iff, exists_const]
  constructor
  · rintro ⟨vars, hvars, hroot, hpresent, vars', hvars', downloaded, hdownloaded, h⟩
    exact ⟨vars, vars', hvars, hroot, hpresent, hvars', downloaded, hdownloaded, Except.ok.inj h⟩
  · rintro ⟨vars, vars', hvars, hroot, hpresent, hvars', downloaded, hdownloaded, rfl⟩
    exact ⟨vars, hvars, hroot, hpresent, vars', hvars', downloaded, hdownloaded, rfl⟩

/-- What was asked for is installed exactly if the file of the operating system is harmless and each word that was asked for stays one
word. -/
theorem install_iff (hoptions : readOptions args = .ok options) (hvars : configure Pl args env = .ok vars) :
    InstallsAsAsked Pl args env os ↔ Harmless os vars ∧ StaysWord Pl (askedPackage options env) ∧ StaysWord Pl (askedMirror options env) ∧
      (askedVersion options env ≠ "latest".toList → StaysWord Pl (askedVersion options env)) := by
  have hconfigured := configured_of_configure hoptions hvars
  constructor
  · intro h
    obtain ⟨hframe, hrun⟩ := h options vars hoptions hvars
    obtain ⟨vars', hvars'⟩ := exists_detectOs_quiet os vars
    have hsame := hframe _ _ hvars'
    have hquiet : run Pl quietSession args env os = .ok ⟨none, installWords Pl vars'⟩ :=
      run_ok_iff.2 ⟨vars, vars', hvars, rfl, List.all_eq_true.2 fun _ _ => rfl, hvars', none, if_pos rfl, rfl⟩
    exact ⟨(detectOs_eq_iff hvars').1 hsame, (installWords_eq_iff hconfigured hsame).1 (hrun _ _ hquiet).1⟩
  · rintro ⟨hharmless, hwords⟩ options' vars₀ hoptions' hvars₀
    obtain rfl := Except.ok.inj (hoptions.symm.trans hoptions')
    obtain rfl := Except.ok.inj (hvars.symm.trans hvars₀)
    constructor
    · intro S vars' hvars'
      exact (detectOs_eq_iff hvars').2 hharmless
    intro S out hout
    obtain ⟨vars₁, vars', hvars₁, -, -, hvars', downloaded, hdownloaded, rfl⟩ := run_ok_iff.1 hout
    obtain rfl := Except.ok.inj (hvars.symm.trans hvars₁)
    have hsame := (detectOs_eq_iff hvars').2 hharmless
    have hcall := (installWords_eq_iff hconfigured hsame).2 hwords
    have hvalue : ∀ name ∈ ["REPO", "VERSION", "ARCH"], value vars' name = value vars name := by
      intro name hname
      have hused : ∀ name ∈ ["REPO", "VERSION", "ARCH"], name.toList ∈ usedNames := by decide
      rw [value, value, hsame _ (hused name hname)]
    have hdownload : ∀ url ∈ downloaded, url = releaseUrl (askedRepo env) (askedVersion options env) (value vars "ARCH") := by
      intro url hurl
      obtain rfl := Option.mem_def.1 hurl
      rw [url_of_findInstaller hdownloaded, hvalue _ (by decide), hvalue _ (by decide), hvalue _ (by decide), hconfigured.repo,
        hconfigured.version]
    exact ⟨hcall, fun url hurl => ⟨_, hconfigured.arch, hdownload url hurl⟩⟩

end

/-! ## A distribution that states its version -/

def ubuntuText : Text := "VERSION=\"24.04 LTS\"\nID=ubuntu\nVERSION_ID=\"24.04\"\n".toList

/-- An operating system that gives its version as the manual page shows it. -/
def ubuntu : OsRelease where
  text := ubuntuText
  commands :=
    [⟨[("VERSION".toList, "24.04 LTS".toList)], []⟩, ⟨[("ID".toList, "ubuntu".toList)], []⟩, ⟨[("VERSION_ID".toList, "24.04".toList)], []⟩]
  parsed := by decide
  assigns := by decide

def suderra : OsRelease where
  text := "ID=suderra-os\nVERSION_ID=0.1.0\n".toList
  commands := [⟨[("ID".toList, "suderra-os".toList)], []⟩, ⟨[("VERSION_ID".toList, "0.1.0".toList)], []⟩]
  parsed := by decide
  assigns := by decide

def pc : Platform := ⟨"x86_64".toList, false, fun _ => []⟩

def emptyEnv : Env := fun _ => none

/-- The variables that the configuration leaves on a machine without a terminal, where nothing was asked for. -/
def pcVars : Env := assignAll [("ARCH".toList, "x86_64".toList)] (assignAll (colours false) (assignAll (defaults emptyEnv) emptyEnv))

theorem configure_pc : configure pc [] emptyEnv = .ok pcVars := by
  have harch : archOf pc.machine = some "x86_64".toList := by decide
  have hterminal : pc.terminal = false := rfl
  simp only [configure, readOptions, ok_bind, harch, orError_some, hterminal, Bool.false_and]
  rfl

theorem install_suderra : InstallsAsAsked pc [] emptyEnv (some suderra) ↔
    Harmless (some suderra) pcVars ∧ StaysWord pc (askedPackage [] emptyEnv) ∧ StaysWord pc (askedMirror [] emptyEnv) ∧
      (askedVersion [] emptyEnv ≠ "latest".toList → StaysWord pc (askedVersion [] emptyEnv)) :=
  install_iff rfl configure_pc

/-- On a distribution that states its version the latest release is not what the installer is called for. -/
theorem ubuntu_not_as_asked : ¬InstallsAsAsked pc [] emptyEnv (some ubuntu) := by
  intro h
  obtain ⟨vars', hvars'⟩ := exists_detectOs_quiet (some ubuntu) pcVars
  have hsame := (h [] pcVars rfl configure_pc).1 _ _ hvars' "VERSION".toList (by decide)
  rw [detectOs_apply hvars' (by decide)] at hsame
  revert hsame
  decide

end SuderraOs.Packages.InstallScript
