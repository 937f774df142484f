import SuderraOs.Ota.State

/-!
# The pending boot slot

After `rauc install`, the pending boot slot is read out of RAUC's status document by a depth-first search for a slot name under
one of four keys. The search is shown to give the first slot name of the document in document order (`findSlotValue_eq`), and
from that exactly when the slot it records is not the booted one: when the document lists another slot first.
-/

namespace SuderraOs.Ota

open Text

/-- The keys a pending boot slot is searched under. -/
def slotKeys : List String := ["pending_boot_slot", "bootname", "boot_slot", "slot"]

/-- The slot name an object carries under the first of `names` that holds one. -/
def slotOf (names : List String) (fields : List (String × Json)) : Option String :=
  names.findSome? fun name =>
    match fields.lookup name with
    | some (.str slot) => if isSlot (trim slot) then some (trim slot) else none
    | _ => none

mutual

def findSlotValue (names : List String) : Json → Option String
  | .obj fields =>
    match slotOf names fields with
    | some slot => some slot
    | none => findSlotInValues names fields
  | .arr items => findSlotInItems names items
  | _ => none

/-- The loop over the values of a map. -/
def findSlotInValues (names : List String) : List (String × Json) → Option String
  | [] => none
  | (_, child) :: fields =>
    match findSlotValue names child with
    | some slot => some slot
    | none => findSlotInValues names fields

/-- The loop over the items of an array. -/
def findSlotInItems (names : List String) : List Json → Option String
  | [] => none
  | item :: items =>
    match findSlotValue names item with
    | some slot => some slot
    | none => findSlotInItems names items

end

def configuredPendingBootSlot (env : Env) : Option String :=
  ((devOverride env "SUDERRA_OTA_PENDING_BOOT_SLOT").map trim).filter isSlot

def pendingBootSlotAfterInstall (io : Io) : Except Error String :=
  match configuredPendingBootSlot io.env with
  | some slot => .ok slot
  | none =>
    match io.raucStatus with
    | .unreadable => .error "rauc status did not expose pending boot slot"
    | .malformed => .error "rauc status JSON is invalid"
    | .parsed payload =>
      match (findSlotValue slotKeys payload).filter isSlot with
      | some slot => .ok slot
      | none => .error "rauc status JSON does not prove pending boot slot A/B"

/-! ## The search in document order -/

mutual

/-- The search gives the slot name of the first object, in document order, that carries one. -/
theorem findSlotValue_eq (names : List String) : ∀ doc : Json,
    findSlotValue names doc = doc.objects.findSome? (slotOf names)
  | .obj fields => by
    simp only [findSlotValue, Json.objects, List.findSome?_cons]
    cases slotOf names fields with
    | some slot => rfl
    | none => exact findSlotInValues_eq names fields
  | .arr items => findSlotInItems_eq names items
  | .null => rfl
  | .bool _ => rfl
  | .num _ => rfl
  | .str _ => rfl

theorem findSlotInValues_eq (names : List String) : ∀ fields : List (String × Json),
    findSlotInValues names fields = (Json.objectsOfFields fields).findSome? (slotOf names)
  | [] => rfl
  | (_, child) :: fields => by
    simp only [findSlotInValues, Json.objectsOfFields, List.findSome?_append, findSlotValue_eq names child,
      findSlotInValues_eq names fields]
    cases child.objects.findSome? (slotOf names) <;> rfl

theorem findSlotInItems_eq (names : List String) : ∀ items : List Json,
    findSlotInItems names items = (Json.objectsOfItems items).findSome? (slotOf names)
  | [] => rfl
  | item :: items => by
    simp only [findSlotInItems, Json.objectsOfItems, List.findSome?_append, findSlotValue_eq names item,
      findSlotInItems_eq names items]
    cases item.objects.findSome? (slotOf names) <;> rfl

end

/-- Whatever an object carries under a slot key passes as a slot name. -/
theorem isSlot_of_slotOf {names : List String} {fields : List (String × Json)} {slot : String}
    (h : slotOf names fields = some slot) : isSlot slot = true := by
  obtain ⟨name, -, h⟩ := List.exists_of_findSome?_eq_some h
  split at h
  · split at h
    · rename_i hslot
      cases h
      exact hslot
    · cases h
  · cases h

/-! ## What RAUC's status says of the slots -/

/-- A slot entry of a status document: an object that carries a slot name, and whether its `state` says it is booted. -/
structure SlotEntry where
  slot : String
  booted : Bool
  deriving DecidableEq

def slotEntry (fields : List (String × Json)) : Option SlotEntry :=
  (slotOf slotKeys fields).map fun slot =>
    ⟨slot, match fields.lookup "state" with | some (.str state) => state == "booted" | _ => false⟩

/-- The slot entries of a status document, in document order: an object before what it contains, and the values of a map and
the items of a list one after the other. -/
def slotEntries (doc : Json) : List SlotEntry := doc.objects.filterMap slotEntry

/-- `booted` is the name of the one booted slot of the document. -/
def BootedSlot (doc : Json) (booted : String) : Prop :=
  (slotEntries doc).filter (·.booted) = [⟨booted, true⟩]

/-- The slot the document lists first. -/
def firstListedSlot (doc : Json) : Option String := (slotEntries doc).head?.map (·.slot)

/-- The slot recorded after an install is not the booted one. -/
def RecordsInactiveSlot (io : Io) (booted : String) : Prop :=
  ∀ slot, pendingBootSlotAfterInstall io = .ok slot → slot ≠ booted

/-- The first slot name of a list of objects is the slot of its first entry. -/
theorem findSome?_slotOf (objects : List (List (String × Json))) :
    objects.findSome? (slotOf slotKeys) = (objects.filterMap slotEntry).head?.map (·.slot) := by
  induction objects with
  | nil => rfl
  | cons fields objects ih =>
    rw [List.findSome?_cons, List.filterMap_cons]
    cases h : slotOf slotKeys fields with
    | none => simp only [slotEntry, h, Option.map_none]; exact ih
    | some slot => simp only [slotEntry, h, Option.map_some, List.head?_cons]

/-- Without the override, the slot recorded after an install is the one the status document lists first. -/
theorem pendingBootSlotAfterInstall_eq {io : Io} {doc : Json} (hconf : configuredPendingBootSlot io.env = none)
    (hdoc : io.raucStatus = .parsed doc) (slot : String) :
    pendingBootSlotAfterInstall io = .ok slot ↔ firstListedSlot doc = some slot := by
  have hfind : findSlotValue slotKeys doc = firstListedSlot doc := by
    rw [findSlotValue_eq, findSome?_slotOf]
    rfl
  have hslot : ∀ s, firstListedSlot doc = some s → isSlot s = true := by
    intro s hs
    rw [← hfind, findSlotValue_eq] at hs
    obtain ⟨fields, -, hs⟩ := List.exists_of_findSome?_eq_some hs
    exact isSlot_of_slotOf hs
  simp only [pendingBootSlotAfterInstall, hconf, hdoc, hfind]
  cases hf : firstListedSlot doc with
  | none => simp
  | some s => simp [Option.filter, hslot s hf]

/-- The recorded slot is the inactive one exactly when the status document lists a slot with another name first. -/
theorem recordsInactiveSlot_iff {io : Io} {doc : Json} {booted : String}
    (hconf : configuredPendingBootSlot io.env = none) (hdoc : io.raucStatus = .parsed doc) (hbooted : BootedSlot doc booted) :
    RecordsInactiveSlot io booted ↔ ∃ first rest, slotEntries doc = first :: rest ∧ first.slot ≠ booted := by
  constructor
  · intro h
    cases he : slotEntries doc with
    | nil =>
      -- a document with a booted slot lists one
      simp [BootedSlot, he] at hbooted
    | cons first rest =>
      refine ⟨first, rest, rfl, h first.slot ?_⟩
      rw [pendingBootSlotAfterInstall_eq hconf hdoc, firstListedSlot, he]
      rfl
  · rintro ⟨first, rest, he, hne⟩ slot hslot
    rw [pendingBootSlotAfterInstall_eq hconf hdoc, firstListedSlot, he] at hslot
    cases hslot
    exact hne

/-- A status document as RAUC prints it on a device with two slots, for the order in which it lists them. -/
def raucStatusOf (booted : String) (slots : List (String × String × String)) : Json :=
  .obj [("booted", .str booted), ("compatible", .str "suderra-os-x86_64"),
    ("slots", .arr (slots.map fun (name, bootname, state) => .obj [(name, .obj [("bootname", .str bootname),
      ("class", .str "rootfs"), ("state", .str state)])]))]

/-- The document lists the inactive slot first: the install records it. -/
theorem recordsInactiveSlot_inactive_first :
    RecordsInactiveSlot { Io.ordinary "rauc.slot=A" with
      raucStatus := .parsed (raucStatusOf "A" [("rootfs.1", "B", "inactive"), ("rootfs.0", "A", "booted")]) } "A" :=
  (recordsInactiveSlot_iff rfl rfl (by rfl)).2 ⟨⟨"B", false⟩, [⟨"A", true⟩], rfl, by decide⟩

/-- The document lists the booted slot first: the install records the slot that is running. -/
theorem not_recordsInactiveSlot_booted_first :
    BootedSlot (raucStatusOf "A" [("rootfs.0", "A", "booted"), ("rootfs.1", "B", "inactive")]) "A" ∧
    ¬RecordsInactiveSlot { Io.ordinary "rauc.slot=A" with
      raucStatus := .parsed (raucStatusOf "A" [("rootfs.0", "A", "booted"), ("rootfs.1", "B", "inactive")]) } "A" :=
  ⟨rfl, fun h => h "A" rfl rfl⟩

end SuderraOs.Ota
