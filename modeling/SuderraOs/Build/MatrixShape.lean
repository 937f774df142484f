import SuderraOs.Build.Matrix
import SuderraOs.Lib.ValueOrder

/-!
# What a loaded matrix looks like

Whatever the text, a matrix that is loaded has the three sections, entries that are objects of scalars and lists of scalars with one
field for each name, and nothing in any other section (`loaded_of_loadMatrix`). The scripts that share the matrix rely on this shape.
-/

namespace SuderraOs.Build

open PyText Value

def IsScalar : Value → Prop
  | .null | .bool _ | .int _ | .str _ => True
  | _ => False

/-- A scalar, or a list of scalars. -/
def IsFieldValue (v : Value) : Prop := IsScalar v ∨ ∃ items, v = .list items ∧ ∀ item ∈ items, IsScalar item

/-- An entry has one field for each name. -/
structure EntryOk (entry : Fields) : Prop where
  nodup : (entry.map (·.1)).Nodup
  values : ∀ p ∈ entry, IsFieldValue p.2

/-- The items of a section: entries, scans, or none at all. -/
structure SectionOk (name : String) (items : List Value) : Prop where
  entries : IsEntrySection name → ∀ item ∈ items, ∃ entry, item = .dict entry ∧ EntryOk entry
  scans : name = "security_scans" → ∀ item ∈ items, IsScalar item
  others : ¬IsEntrySection name → name ≠ "security_scans" → items = []

/-- A matrix that was loaded. -/
structure Loaded (data : Data) : Prop where
  sections : ["defconfigs", "variants", "security_scans"] <+: data.map (·.1)
  nodup : (data.map (·.1)).Nodup
  items : ∀ p ∈ data, SectionOk p.1 p.2

/-- The reader between two lines: the open entry is the last one of its section, and the pending key is one of its lists. -/
structure Reader.Sound (r : Reader) : Prop where
  loaded : Loaded r.data
  opened : ∀ name, r.openSection = some name → name ∈ r.data.map (·.1)
  current : ∀ entry, r.current = some entry → EntryOk entry ∧
    ∃ name, r.openSection = some name ∧ IsEntrySection name ∧ (r.data.entries name).getLast? = some (.dict entry)
  pending : ∀ key, r.pendingKey = some key → ∃ entry items, r.current = some entry ∧ (key, .list items) ∈ entry

/-! ## Scalars and fields -/

theorem isScalar_of_parseScalar {text : List Char} {v : Value} (h : parseScalar text = .ok v) : IsScalar v := by
  unfold parseScalar at h
  dsimp only at h
  split_ifs at h <;> (obtain rfl := Except.ok.inj h; trivial)

theorem IsScalar.fieldValue {v : Value} (h : IsScalar v) : IsFieldValue v := .inl h

theorem EntryOk.setField {entry : Fields} (h : EntryOk entry) (key : String) {v : Value} (hv : IsFieldValue v) :
    EntryOk (setField entry (key, v)) where
  nodup := nodup_foldl_setField [(key, v)] entry h.nodup
  values := by
    intro p hp
    rcases mem_setField hp with rfl | hp
    · exact hv
    · exact h.values p hp

theorem map_appendItem (entry : Fields) (key : String) (item : Value) : (appendItem entry key item).map (·.1) = entry.map (·.1) := by
  rw [appendItem, List.map_map]
  refine List.map_congr_left fun p _ => ?_
  by_cases hkey : p.1 = key <;> simp [hkey]

theorem EntryOk.appendItem {entry : Fields} (h : EntryOk entry) (key : String) {item : Value} (hitem : IsScalar item) :
    EntryOk (appendItem entry key item) where
  nodup := by
    rw [map_appendItem]
    exact h.nodup
  values := by
    intro p hp
    obtain ⟨q, hq, rfl⟩ := List.mem_map.1 hp
    by_cases hkey : q.1 = key
    · rw [if_pos hkey]
      refine .inr ⟨_, rfl, List.forall_mem_append.2 ⟨?_, List.forall_mem_singleton.2 hitem⟩⟩
      rcases h.values q hq with hscalar | ⟨items, hlist, hitems⟩
      · cases hvalue : q.2 <;> simp [hvalue, asList, IsScalar] at hscalar ⊢
      · rw [hlist]
        exact hitems
    · rw [if_neg hkey]
      exact h.values q hq

/-- The pending list stays one when an item is appended to it. -/
theorem mem_appendItem {entry : Fields} {key : String} {items : List Value} (h : (key, .list items) ∈ entry) (item : Value) :
    (key, .list (items ++ [item])) ∈ appendItem entry key item :=
  List.mem_map.2 ⟨(key, .list items), h, by simp [asList]⟩

/-! ## Sections -/

theorem sectionOk_nil (name : String) : SectionOk name [] := ⟨by simp, by simp, fun _ _ => rfl⟩

theorem Data.map_modify (data : Data) (name : String) (f : List Value → List Value) : (data.modify name f).map (·.1) = data.map (·.1) := by
  rw [modify, List.map_map]
  refine List.map_congr_left fun p _ => ?_
  by_cases hname : p.1 = name <;> simp [hname]

theorem Data.entries_modify {data : Data} {name : String} (h : name ∈ data.map (·.1)) (f : List Value → List Value) :
    (data.modify name f).entries name = f (data.entries name) := by
  induction data with
  | nil => cases h
  | cons p data ih =>
    obtain ⟨key, items⟩ := p
    by_cases hname : key = name
    · simp [Data.modify, Data.entries, hname]
    · have hmem : name ∈ data.map (·.1) := by simpa [Ne.symm hname] using h
      have hne : (name == key) = false := by simpa using Ne.symm hname
      simpa [Data.modify, Data.entries, List.lookup_cons, hname, hne] using ih hmem

/-- A section changed to one that is in order. -/
theorem Loaded.modify {data : Data} (h : Loaded data) (name : String) {f : List Value → List Value}
    (hf : ∀ items, SectionOk name items → SectionOk name (f items)) : Loaded (data.modify name f) where
  sections := by
    rw [Data.map_modify]
    exact h.sections
  nodup := by
    rw [Data.map_modify]
    exact h.nodup
  items := by
    intro p hp
    obtain ⟨q, hq, rfl⟩ := List.mem_map.1 hp
    by_cases hname : q.1 = name
    · rw [if_pos hname]
      exact hname ▸ hf q.2 (hname ▸ h.items q hq)
    · rw [if_neg hname]
      exact h.items q hq

theorem Loaded.setDefault {data : Data} (h : Loaded data) (name : String) : Loaded (data.setDefault name) := by
  unfold Data.setDefault
  split_ifs with hany
  · exact h
  · have hnew : name ∉ data.map (·.1) := by
      intro hmem
      obtain ⟨p, hp, hname⟩ := List.mem_map.1 hmem
      exact hany (List.any_eq_true.2 ⟨p, hp, by simp [hname]⟩)
    refine ⟨?_, ?_, List.forall_mem_append.2 ⟨h.items, List.forall_mem_singleton.2 ?_⟩⟩
    · rw [List.map_append]
      exact h.sections.trans (List.prefix_append _ _)
    · rw [List.map_append, List.nodup_append]
      exact ⟨h.nodup, List.nodup_singleton _, fun a ha b hb hab => hnew (by rwa [hab, List.mem_singleton.1 hb] at ha)⟩
    · exact sectionOk_nil name

theorem mem_setDefault (data : Data) (name : String) : name ∈ (data.setDefault name).map (·.1) := by
  unfold Data.setDefault
  split_ifs with hany
  · obtain ⟨p, hp, hname⟩ := List.any_eq_true.1 hany
    exact List.mem_map.2 ⟨p, hp, by simpa using hname⟩
  · simp

/-! ## Lines -/

theorem Reader.sound_start : Reader.Sound {} where
  loaded := ⟨by decide, by decide, by simp [Data.empty, sectionOk_nil]⟩
  opened := by simp
  current := by simp
  pending := by simp

theorem SectionOk.append_entry {name : String} (hname : IsEntrySection name) {items : List Value} (h : SectionOk name items) {entry : Fields}
    (hentry : EntryOk entry) : SectionOk name (items ++ [.dict entry]) where
  entries := fun _ => List.forall_mem_append.2 ⟨h.entries hname, List.forall_mem_singleton.2 ⟨entry, rfl, hentry⟩⟩
  scans := by
    rintro rfl
    simp [IsEntrySection] at hname
  others := fun hnot => absurd hname hnot

theorem SectionOk.dropLast {name : String} {items : List Value} (h : SectionOk name items) : SectionOk name items.dropLast where
  entries := fun hname item hitem => h.entries hname item (List.mem_of_mem_dropLast hitem)
  scans := fun hname item hitem => h.scans hname item (List.mem_of_mem_dropLast hitem)
  others := fun hname hscans => by rw [h.others hname hscans, List.dropLast_nil]

/-- The reader with an entry in the last place of its section. -/
theorem Reader.Sound.write {r : Reader} (h : r.Sound) {name : String} (hsection : r.openSection = some name) (hname : IsEntrySection name)
    {entry : Fields} (hentry : EntryOk entry) (front : List Value → List Value)
    (hfront : ∀ items, SectionOk name items → SectionOk name (front items)) {pendingKey : Option String}
    (hpending : ∀ key, pendingKey = some key → ∃ items, (key, .list items) ∈ entry) :
    Reader.Sound { r with data := r.data.modify name (front · ++ [.dict entry]), current := some entry, pendingKey } where
  loaded := h.loaded.modify name fun items hitems => (hfront items hitems).append_entry hname hentry
  opened := by
    intro other hother
    rw [Data.map_modify]
    exact h.opened other hother
  current := by
    rintro _ ⟨rfl⟩
    refine ⟨hentry, name, hsection, hname, ?_⟩
    rw [Data.entries_modify (h.opened name hsection), List.getLast?_concat]
  pending := by
    intro key hkey
    obtain ⟨items, hitems⟩ := hpending key hkey
    exact ⟨entry, items, rfl, hitems⟩

theorem Reader.Sound.openEntry {r : Reader} (h : r.Sound) {name : String} (hsection : r.openSection = some name) (hname : IsEntrySection name)
    {entry : Fields} (hentry : EntryOk entry) : (r.openEntry name entry).Sound :=
  h.write hsection hname hentry id (fun _ => id) (by simp)

theorem Reader.Sound.setCurrent {r : Reader} (h : r.Sound) {name : String} (hsection : r.openSection = some name) (hname : IsEntrySection name)
    {entry : Fields} (hentry : EntryOk entry) {pendingKey : Option String}
    (hpending : ∀ key, pendingKey = some key → ∃ items, (key, .list items) ∈ entry) : (r.setCurrent name entry pendingKey).Sound :=
  h.write hsection hname hentry List.dropLast (fun _ => SectionOk.dropLast) hpending

/-- A line of an entry keeps the reader sound. -/
theorem sound_readEntryLine {unsupported : LoadError} {r r' : Reader} (h : r.Sound) {name : String} (hsection : r.openSection = some name)
    (hname : IsEntrySection name) {indent : Nat} {text : List Char} (hread : readEntryLine unsupported r name indent text = .ok r') :
    r'.Sound := by
  unfold readEntryLine at hread
  dsimp only at hread
  by_cases hitem : indent = 2 ∧ startsItem text = true
  · rw [if_pos hitem] at hread
    split_ifs at hread with hrest
    · obtain rfl := Except.ok.inj hread
      exact h.openEntry hsection hname ⟨by simp, by simp⟩
    · obtain ⟨⟨key, value⟩, _, hread⟩ := bind_ok_iff.1 hread
      obtain ⟨v, hv, hread⟩ := bind_ok_iff.1 hread
      obtain rfl := Except.ok.inj hread
      exact h.openEntry hsection hname ⟨by simp, by simpa using (isScalar_of_parseScalar hv).fieldValue⟩
  · rw [if_neg hitem] at hread
    cases hcurrent : r.current with
    | none => simp [hcurrent] at hread
    | some entry =>
      have hentry := (h.current entry hcurrent).1
      simp only [hcurrent] at hread
      by_cases hfour : indent = 4
      · rw [if_pos hfour] at hread
        obtain ⟨⟨key, value⟩, _, hread⟩ := bind_ok_iff.1 hread
        dsimp only at hread
        split_ifs at hread with hvalue
        · obtain rfl := Except.ok.inj hread
          refine h.setCurrent hsection hname (hentry.setField key (.inr ⟨[], rfl, by simp⟩)) ?_
          rintro _ ⟨rfl⟩
          exact ⟨[], mem_setField_iff.2 (by simp)⟩
        · obtain ⟨v, hv, hread⟩ := bind_ok_iff.1 hread
          obtain rfl := Except.ok.inj hread
          exact h.setCurrent hsection hname (hentry.setField key (isScalar_of_parseScalar hv).fieldValue) (by simp)
      · rw [if_neg hfour] at hread
        split at hread
        · split at hread
          · cases hread
          · next key hkey =>
            obtain ⟨item, hitem, hread⟩ := bind_ok_iff.1 hread
            obtain rfl := Except.ok.inj hread
            have hpending := (Option.filter_eq_some_iff.1 hkey).1
            obtain ⟨entry', items, hcurrent', hitems⟩ := h.pending key hpending
            obtain rfl : entry = entry' := Option.some.inj (hcurrent.symm.trans hcurrent')
            refine h.setCurrent hsection hname (hentry.appendItem key (isScalar_of_parseScalar hitem)) ?_
            intro key' hkey'
            obtain rfl : key = key' := Option.some.inj (hpending.symm.trans hkey')
            exact ⟨_, mem_appendItem hitems item⟩
        · cases hread

/-- A scan does not touch the entries. -/
theorem Reader.Sound.appendScan {r : Reader} (h : r.Sound) (hsection : r.openSection = some "security_scans") {item : Value}
    (hitem : IsScalar item) : Reader.Sound { r with data := r.data.modify "security_scans" (· ++ [item]) } where
  loaded := h.loaded.modify _ fun items hitems =>
    { entries := fun hname => by simp [IsEntrySection] at hname
      scans := fun _ => List.forall_mem_append.2 ⟨hitems.scans rfl, List.forall_mem_singleton.2 hitem⟩
      others := fun _ hne => absurd rfl hne }
  opened := by
    intro name hname
    rw [Data.map_modify]
    exact h.opened name hname
  current := by
    intro entry hentry
    obtain ⟨_, name, hname, hentries, _⟩ := h.current entry hentry
    obtain rfl : "security_scans" = name := Option.some.inj (hsection.symm.trans hname)
    simp [IsEntrySection] at hentries
  pending := h.pending

/-- A line keeps the reader sound. -/
theorem sound_readLine {unsupported : LoadError} {r r' : Reader} (h : r.Sound) {line : List Char}
    (hread : readLine unsupported r line = .ok r') : r'.Sound := by
  unfold readLine at hread
  dsimp only at hread
  split at hread
  · obtain rfl := Except.ok.inj hread
    exact { loaded := h.loaded.setDefault _
            opened := by
              rintro _ ⟨rfl⟩
              exact mem_setDefault _ _
            current := by simp
            pending := by simp }
  · split at hread
    · next hsection => exact sound_readEntryLine h hsection (.inl rfl) hread
    · next hsection => exact sound_readEntryLine h hsection (.inr rfl) hread
    · next hsection =>
      split at hread
      · obtain ⟨item, hitem, hread⟩ := bind_ok_iff.1 hread
        obtain rfl := Except.ok.inj hread
        exact h.appendScan hsection (isScalar_of_parseScalar hitem)
      · cases hread
    · cases hread

theorem sound_step {r r' : Reader} (h : r.Sound) {raw : List Char × Nat} (hstep : step r raw = .ok r') : r'.Sound := by
  unfold step at hstep
  dsimp only at hstep
  split_ifs at hstep
  · exact Except.ok.inj hstep ▸ h
  · exact sound_readLine h hstep

/-- Whatever the text, a matrix that is loaded has the shape that the scripts rely on. -/
theorem loaded_of_loadMatrix {text : List Char} {data : Data} (h : loadMatrix text = .ok data) : Loaded data := by
  obtain ⟨r, hr, hdata⟩ := bind_ok_iff.1 h
  obtain rfl := Except.ok.inj hdata
  exact (foldlM_keeps (fun _ _ _ hs => sound_step hs) Reader.sound_start hr).loaded

def sampleText : String := "defconfigs:\n\n  - name: \"a#1\"  # first\n    parts:\n      - 7\n      - yes\n    release: true\nsecurity_scans:\n  - trivy\n"

theorem loaded_of_sampleText : ∃ data, loadMatrix sampleText.toList = .ok data ∧ Loaded data := by
  have hok : (loadMatrix sampleText.toList).isOk = true := by decide +kernel
  cases hload : loadMatrix sampleText.toList with
  | error e => simp [hload, Except.isOk, Except.toBool] at hok
  | ok data => exact ⟨data, rfl, loaded_of_loadMatrix hload⟩

end SuderraOs.Build
