import SuderraOs.Install.Plan
import SuderraOs.Install.UsbPackage
import SuderraOs.Lib.ValueOrder

/-!
# The signed text

The text `suderra-installer` verifies a signature over: compact JSON with the members of every object in the order of their names. A
parser gives the document back, up to the order of members, so the text determines what was signed (`canonical_determines`).
-/

namespace SuderraOs.Install.Canonical

open JsonText Usb

variable (double : Double → List Char)

/-! ## Writing -/

mutual

/-- `write_canonical_value`; `double` is how a double is written. A `BTreeMap` orders its keys by their bytes, which is the order of
the code points. -/
def writeCanonicalValue : Value → List Char
  | .null => "null".toList
  | .bool b => if b then "true".toList else "false".toList
  | .int n => (toString n).toList
  | .float x => double x
  | .str s => Json.renderString s
  | .list items => '[' :: ([','].intercalate (itemTexts items) ++ [']'])
  | .dict fields =>
    let sorted := (memberTexts fields).insertionSort fun p q => Value.nameLe p.1 q.1 = true
    '\x7b' :: ([','].intercalate (sorted.map fun p => Json.renderString p.1 ++ ':' :: p.2) ++ ['\x7d'])

def itemTexts : List Value → List (List Char)
  | [] => []
  | item :: items => writeCanonicalValue item :: itemTexts items

/-- The name and the text of every member. -/
def memberTexts : List (String × Value) → List (String × List Char)
  | [] => []
  | (name, value) :: fields => (name, writeCanonicalValue value) :: memberTexts fields

end

def canonicalValueBytes (value : Value) : Bytes := Utf8.encode (String.ofList (writeCanonicalValue double value))

/-- The document of the bytes. -/
def parse (bytes : Bytes) : Option Value := (Utf8.decode bytes).bind fun text => JsonText.read text.toList

/-! ## The signed manifests -/

structure EdgeArtifact where
  url : String
  sha256 : String
  sizeBytes : Nat
  signature : String
  binaryName : String
  format : EdgeArtifactFormat

structure EdgeConfigPayload where
  sha256 : String
  payload : String

structure EdgeProvisioningManifest (C : Chrono) where
  schemaVersion : Nat
  kind : String
  deviceId : String
  deviceCode : String
  tenantId : String
  version : String
  board : String
  arch : String
  artifact : EdgeArtifact
  config : Option EdgeConfigPayload
  notBefore : C.Time
  expiresAt : C.Time
  rollbackFloor : String
  keyEpoch : Nat
  signature : String

def EdgeArtifactFormat.toValue (format : EdgeArtifactFormat) : Value :=
  .str (match format with
    | .tarGz => "tar.gz"
    | .tgz => "tgz"
    | .raw => "raw"
    | .bin => "bin")

def EdgeArtifact.toValue (artifact : EdgeArtifact) : Value :=
  .dict [("url", .str artifact.url), ("sha256", .str artifact.sha256), ("size_bytes", .int artifact.sizeBytes),
    ("signature", .str artifact.signature), ("binary_name", .str artifact.binaryName),
    ("format", EdgeArtifactFormat.toValue artifact.format)]

def EdgeConfigPayload.toValue (config : EdgeConfigPayload) : Value :=
  .dict [("sha256", .str config.sha256), ("payload", .str config.payload)]

def EdgeProvisioningManifest.fields {C : Chrono} (manifest : EdgeProvisioningManifest C) : Fields :=
  [("schema_version", .int manifest.schemaVersion), ("kind", .str manifest.kind), ("device_id", .str manifest.deviceId),
    ("device_code", .str manifest.deviceCode), ("tenant_id", .str manifest.tenantId), ("version", .str manifest.version),
    ("board", .str manifest.board), ("arch", .str manifest.arch), ("artifact", manifest.artifact.toValue),
    ("config", (manifest.config.map EdgeConfigPayload.toValue).getD .null), ("not_before", .str (C.format manifest.notBefore)),
    ("expires_at", .str (C.format manifest.expiresAt)), ("rollback_floor", .str manifest.rollbackFloor),
    ("key_epoch", .int manifest.keyEpoch), ("signature", .str manifest.signature)]

/-- `canonical_without_signature`. -/
def canonicalWithoutSignature {C : Chrono} (manifest : EdgeProvisioningManifest C) : Bytes :=
  canonicalValueBytes double (.dict (manifest.fields.filter fun p => p.1 ≠ "signature"))

/-! ## The text is Python's compact text of the sorted document -/

theorem intercalate_cons (x : List Char) (xs : List (List Char)) : [','].intercalate (x :: xs) = x ++ xs.flatMap (',' :: ·) := by
  induction xs generalizing x with
  | nil => simp
  | cons y ys ih => rw [List.intercalate_cons_cons, ih, List.flatMap_cons, List.append_assoc, List.singleton_append, List.cons_append]

theorem writeItems_compact (level : Nat) (items : List Value) :
    writeItems (compact double) level items = items.flatMap (fun item => ',' :: write (compact double) (level + 1) item) ++ [']'] := by
  induction items with
  | nil => rfl
  | cons item items ih =>
    rw [writeItems, ih, List.flatMap_cons, List.append_assoc]
    rfl

theorem writeFields_compact (level : Nat) (fields : List (String × Value)) :
    writeFields (compact double) level fields =
      fields.flatMap (fun p => ',' :: (Json.renderString p.1 ++ ':' :: write (compact double) (level + 1) p.2)) ++ ['\x7d'] := by
  induction fields with
  | nil => rfl
  | cons p fields ih =>
    obtain ⟨name, value⟩ := p
    rw [writeFields, ih, compact_string, List.flatMap_cons]
    simp [compact]

theorem write_list_compact (level : Nat) (items : List Value) :
    write (compact double) level (.list items) =
      '[' :: ([','].intercalate (items.map (write (compact double) (level + 1))) ++ [']']) := by
  cases items with
  | nil => rfl
  | cons item items =>
    rw [write, writeItems_compact, List.map_cons, intercalate_cons, List.flatMap_map]
    simp [compact]

theorem write_dict_compact (level : Nat) (fields : List (String × Value)) :
    write (compact double) level (.dict fields) = '\x7b' :: ([','].intercalate (fields.map fun p =>
      Json.renderString p.1 ++ ':' :: write (compact double) (level + 1) p.2) ++ ['\x7d']) := by
  cases fields with
  | nil => rfl
  | cons p fields =>
    obtain ⟨name, value⟩ := p
    rw [write, writeFields_compact, compact_string, List.map_cons, intercalate_cons, List.flatMap_map]
    simp [compact]

mutual

theorem write_sortKeys : ∀ (v : Value) (level : Nat), write (compact double) level v.sortKeys = writeCanonicalValue double v
  | .null, _ => rfl
  | .bool _, _ => rfl
  | .int _, _ => rfl
  | .float _, _ => rfl
  | .str s, _ => compact_string double s
  | .list items, level => by
    rw [Value.sortKeys, write_list_compact, map_sortKeysItems items, writeCanonicalValue]
  | .dict fields, level => by
    rw [Value.sortKeys, write_dict_compact, writeCanonicalValue, ← map_sortKeysFields fields (level + 1), ← List.map_insertionSort (fun p q : String × Value => Value.nameLe p.1 q.1 = true),
      List.map_map]
    · rfl
    · exact fun _ _ _ _ => Iff.rfl

theorem map_sortKeysItems : ∀ (items : List Value) (level : Nat),
    (Value.sortKeysItems items).map (write (compact double) level) = itemTexts double items
  | [], _ => rfl
  | item :: items, level => by
    rw [Value.sortKeysItems, List.map_cons, write_sortKeys item, map_sortKeysItems items, itemTexts]

theorem map_sortKeysFields : ∀ (fields : List (String × Value)) (level : Nat),
    (Value.sortKeysFields fields).map (fun p => (p.1, write (compact double) level p.2)) = memberTexts double fields
  | [], _ => rfl
  | (name, value) :: fields, level => by
    rw [Value.sortKeysFields, List.map_cons, write_sortKeys value, map_sortKeysFields fields, memberTexts]

end

theorem canonicalJsonBytes_eq {C : Chrono} (index : Usb.UsbPayloadIndex C) :
    canonicalJsonBytes index = canonicalValueBytes (fun _ => []) index.toValue := by
  rw [canonicalJsonBytes, canonicalValueBytes, write_sortKeys]

/-! ## The text determines the document -/

/-- A document without doubles is read back, with its members in the order of their names. -/
theorem parse_canonicalValueBytes {v : Value} (hp : v.plain = true) : parse (canonicalValueBytes double v) = some v.sortKeys := by
  rw [parse, canonicalValueBytes, Utf8.decode_encode, Option.bind_some, String.toList_ofList, ← write_sortKeys double v 0]
  exact read_write (compact_lawful double) (Value.plain_sortKeys hp)

theorem canonicalValueBytes_eq_iff {v w : Value} (hv : v.plain = true) (hw : w.plain = true) :
    canonicalValueBytes double v = canonicalValueBytes double w ↔ v.sortKeys = w.sortKeys := by
  constructor
  · intro h
    have hread := parse_canonicalValueBytes double hv
    rw [h, parse_canonicalValueBytes double hw] at hread
    exact (Option.some.inj hread).symm
  · intro h
    rw [canonicalValueBytes, canonicalValueBytes, ← write_sortKeys double v 0, h, write_sortKeys]

theorem sortKeysItems_texts (texts : List String) : Value.sortKeysItems (texts.map .str) = texts.map .str := by
  rw [Value.sortKeysItems_eq_map, List.map_map]
  rfl

theorem texts_inj {texts texts' : List String} : texts.map Value.str = texts'.map Value.str ↔ texts = texts' :=
  (List.map_injective_iff.2 fun _ _ h => Value.str.inj h).eq_iff

theorem optional_text_inj {text text' : Option String} :
    ((text.map Value.str).getD .null).sortKeys = ((text'.map Value.str).getD .null).sortKeys ↔ text = text' := by
  cases text <;> cases text' <;> simp [Value.sortKeys]

theorem plainItems_texts (texts : List String) : Value.plainItems (texts.map .str) = true := by
  induction texts with
  | nil => rfl
  | cons text texts ih => rw [List.map_cons, Value.plainItems, ih, Value.plain, Bool.and_self]

/-! ### The index of a USB payload -/

theorem payload_toValue_inj {payload payload' : Usb.UsbImagePayload} (h : payload.toValue.sortKeys = payload'.toValue.sortKeys) :
    payload = payload' := by
  have hnodup : Usb.UsbImagePayload.names.Nodup := by decide
  have hfields := Value.sortKeysFields_inj h rfl hnodup
  simp only [Value.sortKeysFields, sortKeysItems_texts, Value.sortKeys, optional_text_inj, texts_inj, List.cons.injEq,
    Prod.mk.injEq, Value.str.injEq, Value.list.injEq, Value.int.injEq, Nat.cast_inj, true_and, and_true] at hfields
  obtain ⟨_, _, _, _, _, _, _, _, _, _, _⟩ := payload
  obtain ⟨rfl, rfl, rfl, rfl, rfl, rfl, rfl, rfl, rfl, rfl, rfl⟩ := hfields
  rfl

theorem payloads_toValue_inj {payloads payloads' : List Usb.UsbImagePayload}
    (h : Value.sortKeysItems (payloads.map (·.toValue)) = Value.sortKeysItems (payloads'.map (·.toValue))) : payloads = payloads' := by
  rw [Value.sortKeysItems_eq_map, Value.sortKeysItems_eq_map, List.map_map, List.map_map] at h
  exact List.map_injective_iff.2 (fun _ _ => payload_toValue_inj) h

variable {C : Chrono}

theorem index_toValue_inj (hC : Function.Injective C.format) {index index' : Usb.UsbPayloadIndex C}
    (h : index.toValue.sortKeys = index'.toValue.sortKeys) : index = index' := by
  have hnodup : Usb.UsbPayloadIndex.names.Nodup := by decide
  have hfields := Value.sortKeysFields_inj h rfl hnodup
  simp only [Value.sortKeysFields, sortKeysItems_texts, Value.sortKeys, texts_inj, List.cons.injEq, Prod.mk.injEq,
    Value.str.injEq, Value.list.injEq, Value.int.injEq, Nat.cast_inj, hC.eq_iff, true_and, and_true] at hfields
  obtain ⟨_, _, _, _, _, _, _, _⟩ := index
  obtain ⟨rfl, rfl, rfl, rfl, hpayloads, rfl, rfl, rfl⟩ := hfields
  obtain rfl := payloads_toValue_inj hpayloads
  rfl

theorem plain_payload (payload : Usb.UsbImagePayload) : payload.toValue.plain = true := by
  have hfloor : ((payload.rollbackFloor.map Value.str).getD .null).plain = true := by cases payload.rollbackFloor <;> rfl
  simp only [Usb.UsbImagePayload.toValue, Value.plain, Value.plainFields, plainItems_texts, hfloor, Bool.and_self]

theorem plain_index (index : Usb.UsbPayloadIndex C) : index.toValue.plain = true := by
  have hpayloads (payloads : List Usb.UsbImagePayload) : Value.plainItems (payloads.map (·.toValue)) = true := by
    induction payloads with
    | nil => rfl
    | cons payload payloads ih => rw [List.map_cons, Value.plainItems, ih, plain_payload, Bool.and_self]
  have hpayloads := hpayloads index.payloads
  simp only [Usb.UsbPayloadIndex.toValue, Value.plain, Value.plainFields, plainItems_texts, hpayloads, Bool.and_self]

/-! ### The Edge manifest -/

theorem artifact_toValue_inj {artifact artifact' : EdgeArtifact} (h : artifact.toValue.sortKeys = artifact'.toValue.sortKeys) :
    artifact = artifact' := by
  have hnodup : ["url", "sha256", "size_bytes", "signature", "binary_name", "format"].Nodup := by decide
  have hfields := Value.sortKeysFields_inj h rfl hnodup
  have hformat (format format' : EdgeArtifactFormat) :
      (EdgeArtifactFormat.toValue format).sortKeys = (EdgeArtifactFormat.toValue format').sortKeys → format = format' := by
    cases format <;> cases format' <;> simp [EdgeArtifactFormat.toValue, Value.sortKeys]
  simp only [Value.sortKeysFields, Value.sortKeys, List.cons.injEq, Prod.mk.injEq, Value.str.injEq, Value.int.injEq, Nat.cast_inj,
    true_and, and_true] at hfields
  obtain ⟨_, _, _, _, _, _⟩ := artifact
  obtain ⟨rfl, rfl, rfl, rfl, rfl, hfmt⟩ := hfields
  obtain rfl := hformat _ _ hfmt
  rfl

theorem config_toValue_inj {config config' : Option EdgeConfigPayload}
    (h : ((config.map EdgeConfigPayload.toValue).getD .null).sortKeys = ((config'.map EdgeConfigPayload.toValue).getD .null).sortKeys) :
    config = config' := by
  cases config with
  | none =>
    cases config' with
    | none => rfl
    | some config' => exact nomatch h
  | some config =>
    cases config' with
    | none => exact nomatch h
    | some config' =>
      have hnodup : ["sha256", "payload"].Nodup := by decide
      have hfields := Value.sortKeysFields_inj h rfl hnodup
      simp only [Value.sortKeysFields, Value.sortKeys, List.cons.injEq, Prod.mk.injEq, Value.str.injEq, true_and, and_true] at hfields
      obtain ⟨_, _⟩ := config
      obtain ⟨rfl, rfl⟩ := hfields
      rfl

/-- The members that are signed. -/
theorem signed_fields (manifest : EdgeProvisioningManifest C) :
    (manifest.fields.filter fun p => p.1 ≠ "signature") = manifest.fields.dropLast := by
  simp [EdgeProvisioningManifest.fields]

theorem manifest_fields_inj (hC : Function.Injective C.format) {manifest manifest' : EdgeProvisioningManifest C}
    (h : (Value.dict manifest.fields.dropLast).sortKeys = (Value.dict manifest'.fields.dropLast).sortKeys) :
    { manifest with signature := manifest'.signature } = manifest' := by
  have hnodup : (["schema_version", "kind", "device_id", "device_code", "tenant_id", "version", "board", "arch", "artifact", "config",
      "not_before", "expires_at", "rollback_floor", "key_epoch"] : List String).Nodup := by decide
  have hfields := Value.sortKeysFields_inj h rfl hnodup
  simp only [EdgeProvisioningManifest.fields, List.dropLast, Value.sortKeysFields, Value.sortKeys, List.cons.injEq, Prod.mk.injEq,
    Value.str.injEq, Value.int.injEq, Nat.cast_inj, hC.eq_iff, true_and, and_true] at hfields
  obtain ⟨_, _, _, _, _, _, _, _, _, _, _, _, _, _, _⟩ := manifest
  obtain ⟨rfl, rfl, rfl, rfl, rfl, rfl, rfl, rfl, hartifact, hconfig, rfl, rfl, rfl, rfl⟩ := hfields
  obtain rfl := artifact_toValue_inj hartifact
  obtain rfl := config_toValue_inj hconfig
  rfl

theorem plain_manifest (manifest : EdgeProvisioningManifest C) : (Value.dict manifest.fields.dropLast).plain = true := by
  have hconfig : ((manifest.config.map EdgeConfigPayload.toValue).getD .null).plain = true := by cases manifest.config <;> rfl
  simp only [EdgeProvisioningManifest.fields, List.dropLast, Value.plain, Value.plainFields, hconfig, EdgeArtifact.toValue,
    EdgeArtifactFormat.toValue, Bool.and_self]

/-- The signed text determines what was signed: a document without doubles is parsed back up to the order of members, two documents
have one text exactly when they are the same up to that order, and two manifests, or two indexes, that have one text differ in the
signature of the manifest at most. -/
theorem canonical_determines (C : Chrono) (hround : ∀ time, C.parse (C.format time) = some time) :
    (∀ v : Value, v.plain = true → v.UniqueNames → ∃ w, parse (canonicalValueBytes double v) = some w ∧ Value.SameMembers w v) ∧
    (∀ v w : Value, v.plain = true → w.plain = true → v.UniqueNames → w.UniqueNames →
      (canonicalValueBytes double v = canonicalValueBytes double w ↔ Value.SameMembers v w)) ∧
    (∀ manifest manifest' : EdgeProvisioningManifest C,
      canonicalWithoutSignature double manifest = canonicalWithoutSignature double manifest' ↔
        { manifest with signature := manifest'.signature } = manifest') ∧
    (∀ index index' : Usb.UsbPayloadIndex C, canonicalJsonBytes index = canonicalJsonBytes index' ↔ index = index') := by
  have hC : Function.Injective C.format := fun a b h => by
    have := hround a
    rw [h, hround b] at this
    exact (Option.some.inj this).symm
  refine ⟨fun v hp _ => ⟨v.sortKeys, parse_canonicalValueBytes double hp, (Value.sameMembers_sortKeys v).symm⟩,
    fun v w hv hw hnames _ => ?_, fun manifest manifest' => ?_, fun index index' => ⟨fun h => ?_, fun h => h ▸ rfl⟩⟩
  · rw [canonicalValueBytes_eq_iff double hv hw, Value.sameMembers_iff hnames]
  · rw [canonicalWithoutSignature, canonicalWithoutSignature, signed_fields, signed_fields,
      canonicalValueBytes_eq_iff double (plain_manifest manifest) (plain_manifest manifest')]
    constructor
    · exact manifest_fields_inj hC
    · intro h
      rw [← h]
      rfl
  · rw [canonicalJsonBytes_eq, canonicalJsonBytes_eq, canonicalValueBytes_eq_iff _ (plain_index index) (plain_index index')] at h
    exact index_toValue_inj hC h

/-- Two times, by the texts `chrono` gives them. -/
def sampleChrono : Chrono where
  Time := { text : String // text ∈ ["2026-01-01T00:00:00Z", "2099-01-01T00:00:00Z"] }
  parse := fun text => if h : text ∈ ["2026-01-01T00:00:00Z", "2099-01-01T00:00:00Z"] then some ⟨text, h⟩ else none
  format := fun time => time.1
  before := fun a b => decide (a.1 < b.1)

def sampleIndex (keyEpoch : Nat) : Usb.UsbPayloadIndex sampleChrono where
  schemaVersion := 1
  kind := "suderra.usb-payload-index.v1"
  boardFamily := "raspberrypi"
  compatibleModels := ["rpi4", "revpi4"]
  payloads := []
  createdAt := ⟨"2026-01-01T00:00:00Z", by simp⟩
  expiresAt := ⟨"2099-01-01T00:00:00Z", by simp⟩
  keyEpoch := keyEpoch

theorem canonical_determines_sample : canonicalJsonBytes (sampleIndex 1) ≠ canonicalJsonBytes (sampleIndex 2) := by
  have hround (time : sampleChrono.Time) : sampleChrono.parse (sampleChrono.format time) = some time := dif_pos time.2
  obtain ⟨-, -, -, hindex⟩ := canonical_determines (fun _ => []) sampleChrono hround
  intro h
  have hepoch := congrArg Usb.UsbPayloadIndex.keyEpoch ((hindex _ _).1 h)
  exact absurd hepoch (by decide)

end SuderraOs.Install.Canonical
