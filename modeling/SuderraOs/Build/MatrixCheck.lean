import SuderraOs.Build.PayloadInputs
import SuderraOs.Evidence.MatrixJoin

/-!
# The checks of the build matrix

`validate` of `validate-build-matrix.py`: every row has its fields, names artifacts and prebuilds that exist, and is what its Buildroot
configuration and its `genimage` file say; and the matrix fits to the evidence contract.
-/

namespace SuderraOs.Build

open PyText Value Evidence

/-- What the checks ask of Python and of the checkout. -/
structure Host extends Evidence.Python where
  /-- `repr`. -/
  quoted : Value → String
  /-- `display_path`. -/
  display : PosixPath → String
  root : PosixPath

/-- `TARGET_FIELDS`. -/
def targetFields : List String :=
  ["name", "target", "arch", "artifact", "release_artifact", "expected_artifacts", "qemu_test", "ci_build", "fast_required", "image_build",
    "release_source", "payload_base_required", "release", "timeout_minutes", "build_step_timeout_minutes", "min_disk_gib", "min_mem_gib",
    "min_vcpu", "build_jlevel", "prebuild_defconfigs", "payload_image_exports", "production_required", "production_ready", "profile",
    "boot_mode", "partition_table", "root_partition", "root_identity", "genimage", "post_image_arg", "signing", "acceptance", "blocker",
    "description"]

/-- The fields of a row that are true or false, in the order they are checked. -/
def boolFields : List String :=
  ["qemu_test", "ci_build", "fast_required", "image_build", "release_source", "payload_base_required", "release", "production_required",
    "production_ready"]

/-- `resource_ranges`. -/
def resourceRanges : List (String × Int × Int) :=
  [("min_disk_gib", 20, 200), ("min_mem_gib", 2, 64), ("min_vcpu", 1, 128), ("build_jlevel", 1, 128)]

def validArches : List String := ["x86_64", "aarch64"]

def validTables : List String := ["gpt", "mbr"]

/-- `GENIMAGE_LABEL_LIMITS`. -/
def genimageLabelLimits : List (String × Nat) := [("vfat", 11), ("ext2", 16), ("ext3", 16), ("ext4", 16)]

/-! ## The rows -/

section Rows

variable (H : Host)

/-- `list_field`, for a row with a name. -/
def listField (name key : String) (row : Fields) : Except String (List String) :=
  match field key row with
  | .list items => .ok (items.map fun item => item.pyStr H.repr)
  | _ => .error s!"{name}: {key} must be a list"

/-- `expected_artifacts`. -/
def expectedArtifacts (row : Fields) : List String :=
  match field "expected_artifacts" row with
  | .list items => items.map fun item => item.pyStr H.repr
  | _ => []

/-- `value in names`, where `names` is a set of texts: a value that cannot be hashed raises. -/
def inSet (value : Value) (names : List String) : Except String Bool := do
  guardError "TypeError" value.isHashable
  .ok (value.asStr.any names.contains)

/-- The parts of an export: `(SUDERRA_[A-Z0-9_]+_TARGET_IMAGE_XZ)=([^:=]+):([^:=/]+)`. -/
def parseExport (text : String) : Option (String × String × String) :=
  (Text.splitOnce '=' text.toList).bind fun p => (Text.splitOnce ':' p.2).bind fun q =>
    if "SUDERRA_".toList.isPrefixOf p.1 && "_TARGET_IMAGE_XZ".toList.isSuffixOf p.1 && 24 < p.1.length &&
        (p.1.all fun c => c.isUpper || c.isDigit || c = '_') && q.1 ≠ [] && !q.1.contains '=' && q.2 ≠ [] &&
        (q.2.all fun c => c ≠ ':' && c ≠ '=' && c ≠ '/') then
      some (String.ofList p.1, String.ofList q.1, String.ofList q.2)
    else none

/-- `targets_by_name.get`. -/
def targetByName (rows : List Fields) (name : String) : Option Fields :=
  if name = "" then none else rows.reverse.find? fun row => textField H.toPython "name" row = name

def artifactErrors (name : String) (row : Fields) : List String :=
  match field "expected_artifacts" row with
  | .list items =>
    (if items.isEmpty then [s!"{name}: expected_artifacts must be a non-empty list"]
      else failUnless s!"{name}: artifact must also be listed in expected_artifacts" (isIn (field "artifact" row) items)) ++
      items.flatMap fun item => failUnless s!"{name}: unsafe expected artifact name {H.quoted item}" (item.asStr.any isArtifact)
  | _ => [s!"{name}: expected_artifacts must be a non-empty list"]

def timeoutErrors (name : String) (row : Fields) : List String :=
  (match (field "timeout_minutes" row).asInt with
    | none => [s!"{name}: timeout_minutes must be an integer"]
    | some minutes => failUnless s!"{name}: timeout_minutes must be between 30 and 360" (30 ≤ minutes && minutes ≤ 360)) ++
    match (field "build_step_timeout_minutes" row).asInt with
    | none => [s!"{name}: build_step_timeout_minutes must be an integer"]
    | some step =>
      if !(30 ≤ step && step ≤ 350) then [s!"{name}: build_step_timeout_minutes must be between 30 and 350"]
      else failUnless s!"{name}: build_step_timeout_minutes must leave at least 10 minutes for log upload"
        ((field "timeout_minutes" row).asInt.all fun minutes => step ≤ minutes - 10)

def resourceErrors (name : String) (row : Fields) : List String :=
  (resourceRanges.flatMap fun p =>
    match (field p.1 row).asInt with
    | none => [s!"{name}: {p.1} must be an integer"]
    | some value => failUnless s!"{name}: {p.1} must be between {p.2.1} and {p.2.2}" (p.2.1 ≤ value && value ≤ p.2.2)) ++
    (match (field "build_jlevel" row).asInt, (field "min_vcpu" row).asInt with
      | some jlevel, some vcpu => failUnless s!"{name}: build_jlevel must not exceed min_vcpu" (jlevel ≤ vcpu)
      | _, _ => []) ++
    match (field "build_jlevel" row).asInt, (field "min_mem_gib" row).asInt with
    | some jlevel, some mem => failUnless s!"{name}: min_mem_gib is too low for build_jlevel" (max 4 (jlevel + 2) ≤ mem)
    | _, _ => []

/-- The prebuilds and the exports of a row; both are empty where one is no list, and that is the error. -/
def payloadLists (name : String) (row : Fields) : List String × List String × List String :=
  let lists : Except String (List String × List String) := do
    let prebuilds ← listField H name "prebuild_defconfigs" row
    let exports ← listField H name "payload_image_exports" row
    .ok (prebuilds, exports)
  match lists with
  | .ok (prebuilds, exports) => ([], prebuilds, exports)
  | .error message => ([message], [], [])

def prebuildErrors (rows : List Fields) (name : String) (prebuilds : List String) : List String :=
  prebuilds.flatMap fun prebuild =>
    failUnless s!"{name}: prebuild_defconfigs must not include itself" (prebuild ≠ name) ++
      failUnless s!"{name}: unknown prebuild defconfig {prebuild}" (targetByName H rows prebuild).isSome

def exportErrors (rows : List Fields) (name : String) (prebuilds exports : List String) : List String :=
  exports.flatMap fun item =>
    match parseExport item with
    | none => [s!"{name}: unsafe payload_image_exports entry {H.quoted (.str item)}"]
    | some (_, prebuild, artifact) =>
      if !prebuilds.contains prebuild then [s!"{name}: payload export {H.quoted (.str item)} must reference prebuild_defconfigs"]
      else failUnless s!"{name}: payload export {H.quoted (.str item)} references non-contract artifact"
        ((targetByName H rows prebuild).all fun target => (expectedArtifacts H target).contains artifact)

/-- What is checked of a row by itself and by the rows it names. -/
def rowErrors (rows : List Fields) (name : String) (row : Fields) : Except String (List String) := do
  let arch ← inSet (field "arch" row) validArches
  let table ← inSet (field "partition_table" row) validTables
  let (errors, prebuilds, exports) := payloadLists H name row
  let archText := (field "arch" row).pyStr H.repr
  let tableText := (field "partition_table" row).pyStr H.repr
  .ok (failUnless s!"{name}: unsupported arch {archText}" arch ++
    failUnless s!"{name}: unsupported partition_table {tableText}" table ++
    artifactErrors H name row ++
    (boolFields.flatMap fun key => failUnless s!"{name}: {key} must be true/false" (field key row).isBool) ++
    timeoutErrors name row ++ resourceErrors name row ++ errors ++ prebuildErrors H rows name prebuilds ++
    exportErrors H rows name prebuilds exports)

end Rows

/-! ## The genimage file -/

/-- The text and what follows each of its newlines: where `^` matches. -/
def lineStarts : List Char → List (List Char)
  | [] => [[]]
  | c :: cs =>
    match lineStarts cs with
    | [] => [c :: cs]
    | rest :: more => (c :: cs) :: if c = '\n' then rest :: more else more

/-- `$`. -/
def atLineEnd (rest : List Char) : Bool := rest = [] || rest.head? = some '\n'

/-- The text after `word`, white space and an equals sign. -/
def afterEquals (word : String) (cs : List Char) : Option (List Char) :=
  (Text.stripPrefix word.toList cs).bind fun rest =>
    match rest.dropWhile isSpace with
    | '=' :: rest => some rest
    | _ => none

/-- What stands between quotes at the front of a text, and what follows. -/
def quotedText (cs : List Char) : Option (List Char × List Char) :=
  match cs.dropWhile isSpace with
  | '"' :: cs | '\'' :: cs =>
    let text := cs.takeWhile fun c => c ≠ '"' && c ≠ '\''
    let rest := cs.dropWhile fun c => c ≠ '"' && c ≠ '\''
    if rest = [] then none else some (text, rest.tail)
  | _ => none

/-- `^\s*partition-label\s*=`. -/
def hasPartitionLabel (text : List Char) : Bool := (lineStarts text).any fun cs => (afterEquals "partition-label" (cs.dropWhile isSpace)).isSome

/-- The kind of the block that a line opens: `([A-Za-z0-9_.-]+)(?:\s+[A-Za-z0-9_.-]+)?\s*\{`. -/
def opensBlock (line : List Char) : Option String :=
  let isWord (word : List Char) : Bool := word.all fun c => c.isAlphanum || c = '_' || c = '.' || c = '-'
  if line.getLast? = some '\x7b' then
    match splitSpace line.dropLast with
    | [kind] => if isWord kind then some (String.ofList kind) else none
    | [kind, name] => if isWord kind && isWord name then some (String.ofList kind) else none
    | _ => none
  else none

/-- The label of a line: `label\s*=\s*["']([^"']*)["']`. -/
def labelOf (line : List Char) : Option (List Char) :=
  (afterEquals "label" line).bind fun rest => (quotedText rest).bind fun p => if p.2 = [] then some p.1 else none

section Config

variable (H : Host)

/-- The blocks that are open, and the errors of the labels so far. -/
structure Labels where
  blocks : List (Option (String × Nat)) := []
  errors : List String := []

/-- The error of a label that is too long. -/
def labelError (name : String) (path : PosixPath) (lineno : Nat) (filesystem : String) (label : List Char) (limit : Nat) : List String :=
  failUnless (s!"{name}: genimage {H.display path}:{lineno} {filesystem} label {H.quoted (.str (String.ofList label))} " ++
    s!"is {label.length} characters; max is {limit}") (label.length ≤ limit)

/-- A line of `genimage_label_errors`. -/
def labelStep (name : String) (path : PosixPath) (s : Labels) (raw : List Char × Nat) : Labels :=
  let line := strip (stripComment raw.1)
  if line = ['\x7d'] then { s with blocks := s.blocks.tail }
  else
    match opensBlock line with
    | some kind => { s with blocks := (genimageLabelLimits.find? fun p => p.1 = kind) :: s.blocks }
    | none =>
      match labelOf line, s.blocks.findSome? id with
      | some label, some (filesystem, limit) => { s with errors := s.errors ++ labelError H name path raw.2 filesystem label limit }
      | _, _ => s

/-- `genimage_label_errors`. -/
def genimageLabelErrors (name : String) (path : PosixPath) (text : List Char) : List String :=
  (((splitlines text).zipIdx 1).foldl (labelStep H name path) {}).errors

/-- `genimage_partition_table_errors`. -/
def genimagePartitionTableErrors (name expected : String) (path : PosixPath) (text : List Char) : List String :=
  let tables := ((splitlines text).zipIdx 1).filterMap fun line =>
    ((afterEquals "partition-table-type" (line.1.dropWhile isSpace)).bind quotedText).bind fun p =>
      if p.1 = [] then none else some (line.2, String.ofList p.1)
  if tables.isEmpty then [s!"{name}: genimage {H.display path} must declare partition-table-type={H.quoted (.str expected)}"]
  else tables.flatMap fun table =>
    if !validTables.contains table.2 then
      [s!"{name}: genimage {H.display path}:{table.1} uses unsupported partition-table-type {H.quoted (.str table.2)}; expected one of ['gpt', 'mbr']"]
    else failUnless (s!"{name}: genimage {H.display path}:{table.1} partition-table-type {H.quoted (.str table.2)} does not match " ++
      s!"matrix partition_table {H.quoted (.str expected)}") (table.2 = expected)

/-- What `read_text` makes of a file. -/
def readText (bytes : Bytes) : Except String (List Char) := do
  let text ← orError "UnicodeDecodeError" (Utf8.decode bytes)
  .ok (universalNewlines text.toList)

def genimageErrors (files : Files) (name : String) (row : Fields) : Except String (List String) :=
  let genimage := (field "genimage" row).pyStr H.repr
  let path := H.root.join (PosixPath.ofString genimage)
  match files path with
  | none => .ok [s!"{name}: missing genimage contract {genimage}"]
  | some bytes => do
    let text ← readText bytes
    .ok (failUnless (s!"{name}: genimage {genimage} uses unsupported partition-label; " ++ "GPT labels come from partition section names")
        (!hasPartitionLabel text) ++
      genimageLabelErrors H name path text ++
      genimagePartitionTableErrors H name ((field "partition_table" row).pyStr H.repr) path text)

/-! ## The Buildroot configuration -/

/-- The value of a line `KEY="VALUE"`: `^KEY="([^"]+)"$`. -/
def quotedSetting (key : String) (config : List Char) : Option String :=
  (lineStarts config).findSome? fun cs => (Text.stripPrefix (key ++ "=\"").toList cs).bind fun rest =>
    let value := rest.takeWhile (· ≠ '"')
    match rest.dropWhile (· ≠ '"') with
    | '"' :: after => if value ≠ [] && atLineEnd after then some (String.ofList value) else none
    | _ => none

/-- `post_script_args`. -/
def postScriptArgs (config : List Char) : Option String := quotedSetting "BR2_ROOTFS_POST_SCRIPT_ARGS" config

/-- The digits of `^BR2_JLEVEL=([0-9]+)$`. -/
def jlevelDigits (config : List Char) : Option (List Char) :=
  (lineStarts config).findSome? fun cs => (Text.stripPrefix "BR2_JLEVEL=".toList cs).bind fun rest =>
    let digits := rest.takeWhile Char.isDigit
    if digits ≠ [] && atLineEnd (rest.dropWhile Char.isDigit) then some digits else none

def jlevelErrors (config : List Char) (name : String) (row : Fields) : Except String (List String) :=
  match jlevelDigits config with
  | none => .ok [s!"{name}: BR2_JLEVEL must be explicit for reproducible resource use"]
  | some digits => do
    guardError "ValueError" (digits.length ≤ 4300)
    let jlevel := field "build_jlevel" row
    .ok (failUnless s!"{name}: BR2_JLEVEL={String.ofList digits} does not match build_jlevel={jlevel.pyStr H.repr}"
      ((Value.int (Text.digitsValue digits)).pyEq jlevel))

def hasSetting (config : List Char) (setting : String) : Bool := Text.contains setting.toList config

def isProdVariant (config : List Char) : Bool := hasSetting config "BR2_PACKAGE_SUDERRA_VARIANT_PROD=y"

/-- What a row must be that says it is ready for production. -/
def readyErrors (config : List Char) (name : String) (row : Fields) : Except String (List String) :=
  if (field "production_ready" row).truthy then do
    let direct ← if (field "arch" row).pyEq (.str "aarch64") then
      inSet (field "boot_mode" row) ["rpi-firmware-installer", "u-boot-signed-fit-required"] else .ok false
    let rootIdentity := (field "root_identity" row).pyStr H.repr
    .ok (failUnless s!"{name}: ARM/RPi direct firmware boot cannot be production_ready" (!direct) ++
      failUnless s!"{name}: production_ready target must select BR2_PACKAGE_SUDERRA_VARIANT_PROD" (isProdVariant config) ++
      failUnless s!"{name}: production_ready target must name concrete signing material"
        (!(["unsigned-lab", "unsupported", "production-required"].contains ((field "signing" row).pyStr H.repr))) ++
      failUnless s!"{name}: production_ready target must not rely on mutable root identity"
        (!(Text.contains "mutated".toList rootIdentity.toList || ["template", "installer-rootfs"].contains rootIdentity)))
  else .ok []

/-- The rules between the fields of a row. -/
def policyErrors (strict : Bool) (config : List Char) (name : String) (row : Fields) (prebuilds : List String) : List String :=
  let is (key : String) : Bool := (field key row).truthy
  failUnless s!"{name}: ci_build target must select BR2_PACKAGE_HOST_GENIMAGE=y" (!is "ci_build" || hasSetting config "BR2_PACKAGE_HOST_GENIMAGE=y") ++
    failUnless s!"{name}: release target must be marked release_source" (!is "release" || is "release_source") ++
    failUnless s!"{name}: release_source target must be reachable by image_build" (!is "release_source" || is "image_build") ++
    failUnless s!"{name}: payload_base_required is only valid for payload installer targets" (!is "payload_base_required" || !prebuilds.isEmpty) ++
    failUnless s!"{name}: production blocker must be documented while production_ready=false"
      (!is "production_required" || is "production_ready" || is "blocker") ++
    failUnless (s!"{name}: production_required target must select " ++ "BR2_PACKAGE_SUDERRA_VARIANT_PROD (strict mode)")
      (!strict || !is "production_required" || isProdVariant config)

/-- What is checked of the configuration of a row. -/
def configErrors (files : Files) (strict : Bool) (name : String) (row : Fields) (prebuilds : List String) : Except String (List String) :=
  match files ((H.root.child "configs").join (PosixPath.ofString name)) with
  | none => .ok [s!"{name}: missing configs/{name}"]
  | some bytes => do
    let genimage ← genimageErrors H files name row
    let config ← readText bytes
    let actual := ((postScriptArgs config).map Value.str).getD .null
    let expected := field "post_image_arg" row
    let jlevel ← jlevelErrors H config name row
    let ready ← readyErrors H config name row
    .ok (genimage ++
      failUnless s!"{name}: BR2_ROOTFS_POST_SCRIPT_ARGS={H.quoted actual}, expected {H.quoted expected}" (actual.pyEq expected) ++
      jlevel ++
      failUnless s!"{name}: BR2_CCACHE must be enabled for CI cache effectiveness" (hasSetting config "BR2_CCACHE=y") ++
      failUnless s!"{name}: BR2_PACKAGE_SYSTEMD_BOOTCTL is not a Buildroot symbol" (!hasSetting config "BR2_PACKAGE_SYSTEMD_BOOTCTL=") ++
      failUnless s!"{name}: exactly one Suderra OS variant must be selected"
        (hasSetting config "BR2_PACKAGE_SUDERRA_VARIANT_DEV=y" != isProdVariant config) ++
      failUnless s!"{name}: legacy BR2_TARGET_ROOTFS_EXT2_BLOCKS must not be used" (!hasSetting config "BR2_TARGET_ROOTFS_EXT2_BLOCKS=") ++
      failUnless s!"{name}: ext rootfs image size must be explicit"
        (!hasSetting config "BR2_TARGET_ROOTFS_EXT2=y" || (quotedSetting "BR2_TARGET_ROOTFS_EXT2_SIZE" config).isSome) ++
      policyErrors strict config name row prebuilds ++ ready)

/-! ## The matrix -/

/-- The fields that a row has not. -/
def missingFields (row : Fields) : List String := sortNames (targetFields.filter fun name => !(row.map (·.1)).contains name)

/-- The errors of the rows from one row on, after the names and the targets that were seen. -/
def rowsErrors (files : Files) (strict : Bool) (all : List Fields) : List String → List String → List Fields → Except String (List String)
  | _, _, [] => .ok []
  | names, targets, row :: rows =>
    let name := textField H.toPython "name" row
    let target := textField H.toPython "target" row
    let missing := missingFields row
    if !missing.isEmpty then do
      let more ← rowsErrors files strict all names targets rows
      .ok (((if name = "" then "<unknown>" else name) ++ ": missing fields: " ++ ", ".intercalate missing) :: more)
    else do
      let own ← rowErrors H all name row
      let config ← configErrors H files strict name row (payloadLists H name row).2.1
      let more ← rowsErrors files strict all (name :: names) (target :: targets) rows
      .ok (failUnless s!"{name}: duplicate defconfig entry" (!names.contains name) ++
        failUnless s!"{name}: duplicate target id {target}" (!targets.contains target) ++ own ++ config ++ more)

/-- `validate`: the errors that are printed. -/
def validate (J : JoinContract) (files : Files) (strict : Bool) (defconfigs : List Value) : Except String (List String) := do
  let rows ← defconfigs.mapM fun row => orError "AttributeError" row.asDict
  let errors ← rowsErrors H files strict rows [] [] rows
  .ok (errors ++ validateMatrixJoin H.toPython H.quoted J defconfigs)

end Config

end SuderraOs.Build
