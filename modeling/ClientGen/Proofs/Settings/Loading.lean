import ClientGen.Proofs.File.Tree
import ClientGen.Proofs.Json.Dictionary
import ClientGen.Settings.File

/-!
# Loaded settings

Settings that are loaded, from a file, from overrides or from both, lack nothing, have a package
name if one can be derived, and hold proper values only.  Their custom settings are what stands
under the name for them, to which the settings of unknown names are added.

## Main definitions

* `Settings.IsLoaded` — the form that loaded settings have.

## Main results

* `Settings.isLoaded_of_load` — loaded settings have this form.
* `Settings.custom_of_ofMerged` — where their custom settings come from.
-/

namespace ClientGen

open Json (named putKeys Distinct)

namespace CustomSettings

/-- Custom settings of proper values, none of them there twice. -/
def IsProper : CustomSettings → Prop
  | entries found => Distinct found ∧ ∀ entry ∈ found, entry.2.IsProper
  | other value => value.IsProper

theorem isProper_ofJson {value : Json} (h : value.IsProper) : (ofJson value).IsProper := by
  cases h with
  | obj hkeys hfields =>
    exact ⟨Json.distinct_named.2 hkeys, List.forall_mem_map.2 hfields⟩
  | null => exact .null
  | bool b => exact .bool b
  | int n => exact .int n
  | real hnormal => exact .real hnormal
  | str s => exact .str s
  | arr hitems => exact .arr hitems

theorem IsProper.dictionary {custom : CustomSettings} (h : custom.IsProper)
    {found : List (Json × Json)} (hfound : custom.dictionary = .ok found) :
    Distinct found ∧ ∀ entry ∈ found, entry.2.IsProper := by
  cases custom with
  | entries => exact Except.ok.inj hfound ▸ h
  | other value =>
    exact ⟨Json.distinct_dictionary h hfound, fun _ hentry =>
      Json.IsProper.of_mem_dictionary h hfound hentry⟩

end CustomSettings

namespace Settings

variable {settings changed : Settings} {fields : List (String × Json)}

/-! ## Parts -/

/-- Settings of proper values. -/
structure IsProper (settings : Settings) : Prop where
  fields : ∀ field ∈ settings.fields, field.2.IsProper
  custom : settings.custom.IsProper

theorem isProper_default : IsProper {} where
  fields := by
    simp only [Settings.fields, List.forall_mem_cons]
    exact ⟨.str _, .str _, .str _, .null, .null, .str _, .str _, .bool _, .arr (by simp), .null,
      by simp⟩
  custom := ⟨Json.distinct_nil, by simp⟩

theorem IsProper.set? (h : settings.IsProper) {name : String} {value : Json}
    (hvalue : value.IsProper) (hset : settings.set? name value = some changed) :
    changed.IsProper := by
  have hfields := h.fields
  simp only [Settings.fields, List.forall_mem_cons] at hfields
  unfold Settings.set? at hset
  split at hset
  all_goals first
    | obtain rfl := Option.some.inj hset
      exact ⟨h.fields, CustomSettings.isProper_ofJson hvalue⟩
    | obtain rfl := Option.some.inj hset
      refine ⟨?_, h.custom⟩
      simp only [Settings.fields, List.forall_mem_cons]
      simp [hfields, hvalue]
    | simp at hset

theorem custom_of_set? {name : String} {value : Json}
    (hset : settings.set? name value = some changed) :
    name = "custom" ∧ changed.custom = .ofJson value ∨
      name ≠ "custom" ∧ changed.custom = settings.custom := by
  unfold Settings.set? at hset
  split at hset
  all_goals first
    | obtain rfl := Option.some.inj hset
      exact .inl ⟨rfl, rfl⟩
    | obtain rfl := Option.some.inj hset
      exact .inr ⟨by decide, rfl⟩
    | simp at hset

/-- Settings from values by name, one after another. -/
theorem foldlM_set?
    (h : fields.foldlM (fun settings field => set? settings field.1 field.2) settings
      = some changed) :
    ((∀ field ∈ fields, field.2.IsProper) → settings.IsProper → changed.IsProper) ∧
      ((∃ value, ("custom", value) ∈ fields ∧ changed.custom = .ofJson value) ∨
        "custom" ∉ Entries.keys fields ∧ changed.custom = settings.custom) := by
  induction fields generalizing settings with
  | nil =>
    obtain rfl := Option.some.inj h
    exact ⟨fun _ hsettings => hsettings, .inr ⟨by simp [Entries.keys], rfl⟩⟩
  | cons field rest ih =>
    rw [List.foldlM_cons] at h
    obtain ⟨next, hnext, h⟩ := Option.bind_eq_some_iff.1 h
    obtain ⟨hproper, hcustom⟩ := ih h
    constructor
    · intro hfields hsettings
      obtain ⟨hfield, hrest⟩ := List.forall_mem_cons.1 hfields
      exact hproper hrest (hsettings.set? hfield hnext)
    -- The last field of that name decides, so those behind are asked first.
    · rcases hcustom with ⟨value, hvalue, hcustom⟩ | ⟨hnone, hcustom⟩
      · exact .inl ⟨value, List.mem_cons_of_mem _ hvalue, hcustom⟩
      · obtain ⟨name, value⟩ := field
        rw [hcustom]
        rcases custom_of_set? hnext with ⟨rfl, hchanged⟩ | ⟨hne, hchanged⟩
        · exact .inl ⟨value, List.mem_cons_self, hchanged⟩
        · refine .inr ⟨?_, hchanged⟩
          rw [Entries.keys, List.map_cons, List.mem_cons, not_or]
          exact ⟨Ne.symm hne, hnone⟩

/-- Other custom settings do not change the package name. -/
theorem withPackage_custom (h : settings.withPackage = .ok changed) (custom : CustomSettings) :
    ({ settings with custom := custom } : Settings).withPackage
      = .ok { changed with custom := custom } := by
  unfold withPackage at h ⊢
  dsimp only
  split at h
  · rename_i hgiven
    obtain rfl := Except.ok.inj h
    rw [if_pos hgiven]
  · rename_i hempty
    rw [if_neg hempty]
    split at h
    · rename_i path hpath
      obtain rfl := Except.ok.inj h
      simp only [hpath]
    · simp at h

/-- The package name is derived once. -/
theorem withPackage_spec (h : settings.withPackage = .ok changed) :
    changed.withPackage = .ok changed ∧ changed.custom = settings.custom ∧
      (settings.IsProper → changed.IsProper) := by
  have hwhole := h
  unfold withPackage at h
  split at h
  · obtain rfl := Except.ok.inj h
    exact ⟨hwhole, rfl, fun hproper => hproper⟩
  · rename_i hempty
    split at h
    · rename_i path hpath
      obtain rfl := Except.ok.inj h
      refine ⟨?_, rfl, fun hproper => ⟨?_, hproper.custom⟩⟩
      · unfold withPackage
        split
        · rfl
        · simp only [hpath]
      · have hfields := hproper.fields
        simp only [Settings.fields, List.forall_mem_cons] at hfields ⊢
        simp [hfields, Json.IsProper.str]
    · simp at h

/-! ## Merging -/

/-- Where a value under a first name comes from. -/
theorem exists_of_mem_canonical {entry : String × Json} (h : entry ∈ canonical fields) :
    ∃ field ∈ fields, canonicalName field.1 = entry.1 ∧ field.2 = entry.2 := by
  have hall : ∀ entry ∈ canonical fields,
      ∃ field ∈ fields, canonicalName field.1 = entry.1 ∧ field.2 = entry.2 := by
    refine Entries.forall_mem_putAll (List.forall_mem_map.2 fun field hfield => ?_) (by simp)
    exact ⟨field, hfield, rfl, rfl⟩
  exact hall entry h

theorem isProper_canonical (h : ∀ field ∈ fields, field.2.IsProper) :
    ∀ entry ∈ canonical fields, entry.2.IsProper := by
  intro entry hentry
  obtain ⟨field, hfield, -, heq⟩ := exists_of_mem_canonical hentry
  exact heq ▸ h field hfield

/-- The settings of unknown names. -/
def unknown (fields : List (String × Json)) : List (String × Json) :=
  (canonical fields).filter fun field => !names.contains field.1

theorem ofFields_spec (h : ofFields fields = .ok settings) :
    settings.withPackage = .ok settings ∧
      ((∀ field ∈ fields, field.2.IsProper) → settings.IsProper) ∧
      ((∃ value, ("custom", value) ∈ fields ∧ settings.custom = .ofJson value) ∨
        "custom" ∉ Entries.keys fields ∧ settings.custom = .entries []) := by
  unfold ofFields at h
  split at h
  · rename_i given hgiven
    obtain ⟨hproper, hcustom⟩ := foldlM_set? hgiven
    obtain ⟨hpackage, hkept, hproper'⟩ := withPackage_spec h
    refine ⟨hpackage, fun hfields => hproper' (hproper hfields isProper_default), ?_⟩
    rw [hkept]
    exact hcustom
  · simp at h

/-- Settings of unknown names are added to the custom ones. -/
theorem customOf_eq_ok {existing : Option Json} {custom : List (Json × Json)} :
    customOf existing fields = .ok custom ↔
      ∃ found, (existing.getD (.obj [])).dictionary = .ok found ∧
        putKeys (named fields) found = custom := by
  simp only [customOf, bind_eq_ok, pure_eq_ok, putKeys, named, List.foldl_map]

/-- Known settings, and custom ones to which those of unknown names are added. -/
theorem ofMerged_cases (h : ofMerged fields = .ok settings) :
    (unknown fields = [] ∧
      ofFields ((canonical fields).filter fun field => names.contains field.1) = .ok settings) ∨
    ∃ found known, (((canonical fields).lookup "custom").getD (.obj [])).dictionary = .ok found ∧
      ofFields (((canonical fields).filter fun field => names.contains field.1).filter
        fun field => field.1 != "custom") = .ok known ∧
      settings = { known with custom := .entries (putKeys (named (unknown fields)) found) } := by
  unfold ofMerged at h
  dsimp only at h
  split at h
  · rename_i hempty
    exact .inl ⟨List.isEmpty_iff.1 hempty, h⟩
  · obtain ⟨custom, hcustom, h⟩ := bind_eq_ok.1 h
    obtain ⟨known, hknown, h⟩ := bind_eq_ok.1 h
    obtain ⟨found, hfound, rfl⟩ := customOf_eq_ok.1 hcustom
    exact .inr ⟨found, known, hfound, hknown, (pure_eq_ok.1 h).symm⟩

/-- **Where custom settings come from**: a value under the name for them, if there is one, to which
the settings of unknown names are added. -/
theorem custom_of_ofMerged (h : ofMerged fields = .ok settings) :
    (∃ value, ("custom", value) ∈ canonical fields ∧ (settings.custom = .ofJson value ∨
      ∃ found, value.dictionary = .ok found ∧
        settings.custom = .entries (putKeys (named (unknown fields)) found))) ∨
    "custom" ∉ Entries.keys (canonical fields) ∧
      settings.custom = .entries (putKeys (named (unknown fields)) []) := by
  rcases ofMerged_cases h with ⟨hunknown, h⟩ | ⟨found, known, hfound, -, rfl⟩
  · rw [hunknown]
    rcases (ofFields_spec h).2.2 with ⟨value, hvalue, hcustom⟩ | ⟨hnone, hcustom⟩
    · exact .inl ⟨value, (List.mem_filter.1 hvalue).1, .inl hcustom⟩
    · refine .inr ⟨fun hmem => hnone ?_, hcustom⟩
      obtain ⟨field, hfield, hname⟩ := List.mem_map.1 hmem
      exact List.mem_map.2 ⟨field, List.mem_filter.2 ⟨hfield, by rw [hname]; decide⟩, hname⟩
  · cases hlookup : (canonical fields).lookup "custom" with
    | some value =>
      rw [hlookup] at hfound
      exact .inl ⟨value, Entries.mem_of_lookup_eq_some hlookup, .inr ⟨found, hfound, rfl⟩⟩
    | none =>
      rw [hlookup] at hfound
      obtain rfl := Except.ok.inj hfound
      exact .inr ⟨Entries.lookup_eq_none_iff_notMem.1 hlookup, rfl⟩

theorem isProper_of_ofMerged (h : ofMerged fields = .ok settings)
    (hfields : ∀ field ∈ fields, field.2.IsProper) : settings.IsProper := by
  have hcanonical := isProper_canonical hfields
  rcases ofMerged_cases h with ⟨-, h⟩ | ⟨found, known, hfound, hknown, rfl⟩
  · exact (ofFields_spec h).2.1 fun field hfield => hcanonical field (List.mem_filter.1 hfield).1
  · have hproper := (ofFields_spec hknown).2.1 fun field hfield =>
      hcanonical field (List.mem_filter.1 (List.mem_filter.1 hfield).1).1
    have hvalue : (((canonical fields).lookup "custom").getD (.obj [])).IsProper := by
      cases hlookup : (canonical fields).lookup "custom" with
      | some value => exact hcanonical _ (Entries.mem_of_lookup_eq_some hlookup)
      | none => exact .obj (by simp [Entries.keys]) (by simp)
    refine ⟨hproper.fields, (Json.distinct_dictionary hvalue hfound).putKeys _, ?_⟩
    intro entry hentry
    rcases Json.mem_putKeys hentry with hentry | ⟨pair, hpair, heq, -⟩
    · exact hvalue.of_mem_dictionary hfound hentry
    · obtain ⟨field, hfield, rfl⟩ := List.mem_map.1 hpair
      exact heq ▸ hcanonical field (List.mem_filter.1 hfield).1

theorem withPackage_of_ofMerged (h : ofMerged fields = .ok settings) :
    settings.withPackage = .ok settings := by
  rcases ofMerged_cases h with ⟨-, h⟩ | ⟨found, known, -, hknown, rfl⟩
  · exact (ofFields_spec h).1
  · exact withPackage_custom (ofFields_spec hknown).1 _

/-! ## Loading -/

/-- The form that loaded settings have. -/
structure IsLoaded (settings : Settings) : Prop where
  isProper : settings.IsProper
  package : settings.withPackage = .ok settings
  complete : settings.missing = []

variable {tree : Tree} {file overrides : List (String × Json)}

theorem merge_eq_ok (h : merge file overrides = .ok settings) :
    ofMerged (Entries.putAll (overrides.filter fun field => !field.2.isNull)
      (Entries.putAll file defaults)) = .ok settings ∧ settings.missing = [] := by
  obtain ⟨found, hfound, h⟩ := bind_eq_ok.1 h
  split at h
  · rename_i hmissing
    obtain rfl := pure_eq_ok.1 h
    exact ⟨mapError_eq_ok.1 hfound, List.isEmpty_iff.1 hmissing⟩
  · cases h

theorem isLoaded_of_merge (hfile : ∀ field ∈ file, field.2.IsProper)
    (hoverrides : ∀ field ∈ overrides, field.2.IsProper) (h : merge file overrides = .ok settings) :
    settings.IsLoaded := by
  obtain ⟨hmerged, hmissing⟩ := merge_eq_ok h
  refine ⟨isProper_of_ofMerged hmerged ?_, withPackage_of_ofMerged hmerged, hmissing⟩
  refine Entries.forall_mem_putAll ?_ (Entries.forall_mem_putAll hfile ?_)
  · intro field hfield
    exact hoverrides field (List.mem_filter.1 hfield).1
  · simp only [defaults, List.forall_mem_cons]
    exact ⟨.str _, .str _, .bool _, by simp⟩

/-- The settings of this generator stand among those of others. -/
theorem mem_of_section? {inner : Json} (h : section? fields = some inner) :
    ∃ plugins, ("plugins", .obj plugins) ∈ fields ∧ (sectionName, inner) ∈ plugins := by
  unfold section? at h
  cases hlookup : fields.lookup "plugins" with
  | none => simp [hlookup, Json.get?] at h
  | some value =>
    rw [hlookup] at h
    cases value with
    | obj plugins =>
      exact ⟨plugins, Entries.mem_of_lookup_eq_some hlookup, Entries.mem_of_lookup_eq_some h⟩
    | _ => simp [Json.get?] at h

/-- The settings of a proper document are proper. -/
theorem isProper_of_ofDocument {path : Path} {document : Json} (hdocument : document.IsProper)
    (h : ofDocument path document = .ok file) : ∀ field ∈ file, field.2.IsProper := by
  unfold ofDocument at h
  split at h
  · split at h
    · obtain rfl := Except.ok.inj h
      exact isProper_canonical fun _ hfield => hdocument.of_mem hfield
    · rename_i inner hsection
      obtain rfl := Except.ok.inj h
      obtain ⟨plugins, hplugins, hinner⟩ := mem_of_section? hsection
      have hproper : (Json.obj inner).IsProper := (hdocument.of_mem hplugins).of_mem hinner
      exact isProper_canonical fun _ hfield => hproper.of_mem hfield
    · simp at h
  · simp at h

theorem isProper_of_readFile {path : Path} (h : readFile tree path = .ok file) :
    ∀ field ∈ file, field.2.IsProper := by
  unfold readFile at h
  dsimp only at h
  split at h
  · cases h
  · split at h
    · cases h
    · split at h
      · cases h
      · obtain ⟨text, -, h⟩ := bind_eq_ok.1 h
        split at h
        · cases h
        · cases h
        · rename_i document hdocument
          exact isProper_of_ofDocument (Json.isProper_of_parse hdocument) h

/-- A file that can be read holds the settings of its document. -/
theorem readFile_of_parse {path : Path} {bytes : List UInt8} {text : String} {document : Json}
    (hjson : path.isJson = true) (hbytes : tree.bytes path = .ok bytes)
    (htext : Tree.textOf bytes = .ok text) (hparse : Json.parse text = .ok document) :
    readFile tree path = ofDocument path document := by
  rw [readFile, Tree.contains_of_bytes hbytes, hjson]
  simp [bind, Except.bind, hbytes, htext, formed, Except.mapError, hparse]

/-- A file whose name does not say that it holds JSON is not read. -/
theorem readFile_of_not_isJson {path : Path} {bytes : List UInt8} (hjson : ¬ path.isJson = true)
    (hbytes : tree.bytes path = .ok bytes) :
    readFile tree path = .error (.settings (.notJson path.text)) := by
  rw [Bool.not_eq_true] at hjson
  rw [readFile, Tree.contains_of_bytes hbytes, hjson]
  rfl

theorem load_of_ne {path : String} (hnamed : path ≠ "") :
    load tree overrides (some path) = (do merge (← readFile tree (.ofText path)) overrides) := by
  simp [load, hnamed]

/-- The settings in a file are merged with the overrides. -/
theorem load_of_file {path text : String} {bytes : List UInt8}
    (hjson : (Path.ofText path).isJson = true) (hbytes : tree.bytes (.ofText path) = .ok bytes)
    (htext : Tree.textOf bytes = .ok text) (hparse : Json.parse text = .ok (.obj fields))
    (hfile : ofDocument (.ofText path) (.obj fields) = .ok file) :
    load tree overrides (some path) = merge file overrides := by
  have hnamed : path ≠ "" := by
    rintro rfl
    cases hbytes
  rw [load_of_ne hnamed, readFile_of_parse hjson hbytes htext hparse, hfile]
  rfl

/-- **Loaded settings** are of proper values, lack nothing and have a package name. -/
theorem isLoaded_of_load {path : Option String} (hoverrides : ∀ field ∈ overrides, field.2.IsProper)
    (h : load tree overrides path = .ok settings) : settings.IsLoaded := by
  unfold load at h
  dsimp only at h
  split at h
  · split at h
    · exact isLoaded_of_merge (by simp) hoverrides h
    · obtain ⟨found, hfound, h⟩ := bind_eq_ok.1 h
      exact isLoaded_of_merge (isProper_of_readFile hfound) hoverrides h
  · exact isLoaded_of_merge (by simp) hoverrides h

end Settings

end ClientGen
