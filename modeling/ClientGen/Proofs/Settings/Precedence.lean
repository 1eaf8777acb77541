import ClientGen.Proofs.Settings.Saving
import Mathlib.Data.List.Induction

/-!
# Which source wins

Overrides win over a file and a file over the defaults, setting by setting, however a source spells
the names.  Merging is not written that way: the names of a file are made first names before the
overrides are put over them, those of the overrides afterwards, so that for a while a setting may
stand there twice.  It is the later of the two that counts, and that is the override.

## Main definitions

* `Settings.given?` — what a source says about a setting.
* `Settings.effective?` — what counts for a setting.
* `Settings.IsRegular` — the form of a source for which the names alone decide.
* `Settings.IsMerged` — settings in which the stronger source has won everywhere.

## Main results

* `Settings.lookup_canonical_putAll` — what is put over first names wins under every spelling.
* `Settings.load_precedence` — what is loaded from a file and overrides.
-/

namespace ClientGen

namespace Settings

open Json (named putKeys)

variable {settings changed : Settings} {fields source file overrides : List (String × Json)}

/-! ## Sources -/

/-- What a source says about a setting, under its first name or a second one. -/
def given? (name : String) (source : List (String × Json)) : Option Json :=
  (source.find? fun field => canonicalName field.1 == name).map Prod.snd

/-- The overrides that count. -/
def counted (overrides : List (String × Json)) : List (String × Json) :=
  overrides.filter fun field => !field.2.isNull

/-- What the stronger of the sources that give a setting says about it. -/
def winning? (file overrides : List (String × Json)) (name : String) : Option Json :=
  (given? name (counted overrides)).or (given? name file)

/-- What counts for a setting: what a source says, or the default. -/
def effective? (file overrides : List (String × Json)) (name : String) : Option Json :=
  (winning? file overrides name).or (({} : Settings).fields.lookup name)

/-- The entries of the custom settings that the stronger source gives. -/
def winningCustom (file overrides : List (String × Json)) : List (String × Json) :=
  match winning? file overrides "custom" with
  | some (.obj own) => own
  | _ => []

/-- A text, or nothing. -/
def IsTextOrNull (value : Json) : Prop :=
  value = .null ∨ ∃ text, value = .str text

/-- A source for which the names alone decide. -/
structure IsRegular (source : List (String × Json)) : Prop where
  /-- No setting is given twice, not even under two names. -/
  nodup : (source.map fun field => canonicalName field.1).Nodup
  custom : ∀ value, given? "custom" source = some value →
    ∃ own, value = .obj own ∧ (Entries.keys own).Nodup
  module : ∀ value, given? "module_name" source = some value → IsTextOrNull value

/-- Settings in which the stronger source has won everywhere. -/
structure IsMerged (file overrides : List (String × Json)) (settings : Settings) : Prop where
  fields : ∀ name ∈ Entries.keys settings.fields, name ≠ "package_name" →
    settings.fields.lookup name = effective? file overrides name
  package : some settings.packageName =
    if (effective? file overrides "package_name").any Json.truthy
    then effective? file overrides "package_name"
    else some (.str (Name.packageName settings.modulePath))
  /-- What is given under unknown names is put over the custom settings. -/
  custom : ∃ entries, settings.custom = .entries (named entries) ∧ (Entries.keys entries).Nodup ∧
    ∀ name, entries.lookup name =
      if canonicalName name ∈ names then (winningCustom file overrides).lookup name
      else (winning? file overrides name).or ((winningCustom file overrides).lookup name)

/-! ## Spellings -/

theorem filter_of_nodup (h : (source.map fun field => canonicalName field.1).Nodup)
    (name : String) : (source.filter fun field => canonicalName field.1 == name)
      = (source.find? fun field => canonicalName field.1 == name).toList := by
  induction source with
  | nil => rfl
  | cons field rest ih =>
    obtain ⟨hfresh, hrest⟩ := List.nodup_cons.1 h
    by_cases hname : canonicalName field.1 = name
    · have hnone : rest.filter (fun field => canonicalName field.1 == name) = [] := by
        rw [List.filter_eq_nil_iff]
        intro other hother heq
        exact hfresh (List.mem_map.2 ⟨other, hother, (eq_of_beq heq).trans hname.symm⟩)
      rw [List.filter_cons_of_pos (by simpa using hname), hnone,
        List.find?_cons_of_pos (by simpa using hname)]
      rfl
    · rw [List.filter_cons_of_neg (by simpa using hname), ih hrest,
        List.find?_cons_of_neg (by simpa using hname)]

/-- Of several values for a setting the last one counts. -/
theorem lookup_canonical (fields : List (String × Json)) (name : String) :
    (canonical fields).lookup name
      = (fields.filter fun field => canonicalName field.1 == name).getLast?.map Prod.snd := by
  -- From the back: a later field is put over what the earlier ones make.
  induction fields using List.reverseRecOn with
  | nil => rfl
  | append_singleton fields field ih =>
    have hput : canonical (fields ++ [field])
        = Entries.put (canonicalName field.1) field.2 (canonical fields) := by
      rw [canonical, Entries.ofPairs, Entries.putAll, List.map_append, List.foldl_append]
      rfl
    rw [hput, List.filter_append]
    by_cases hname : canonicalName field.1 = name
    · rw [hname, Entries.lookup_put_self, List.filter_cons_of_pos (by simpa using hname),
        List.filter_nil, List.getLast?_concat]
      rfl
    · rw [Entries.lookup_put_of_ne (Ne.symm hname), ih,
        List.filter_cons_of_neg (by simpa using hname), List.filter_nil, List.append_nil]

theorem lookup_canonical_of_nodup (h : (source.map fun field => canonicalName field.1).Nodup)
    (name : String) : (canonical source).lookup name = given? name source := by
  rw [lookup_canonical, filter_of_nodup h, given?]
  cases source.find? fun field => canonicalName field.1 == name <;> rfl

theorem given?_of_first (h : ∀ field ∈ source, canonicalName field.1 = field.1) (name : String) :
    given? name source = source.lookup name := by
  induction source with
  | nil => rfl
  | cons field rest ih =>
    obtain ⟨hfield, hrest⟩ := List.forall_mem_cons.1 h
    obtain ⟨first, value⟩ := field
    have hcomm : (name == first) = (first == name) := BEq.comm
    rw [given?, List.find?_cons, List.lookup_cons, hfield, hcomm]
    dsimp only
    cases first == name with
    | true => rfl
    | false => exact ih hrest

/-- **What is put over first names wins**, however its names are spelled. -/
theorem lookup_canonical_putAll {weak strong : List (String × Json)}
    (hfirst : ∀ field ∈ weak, canonicalName field.1 = field.1) (hweak : (Entries.keys weak).Nodup)
    (hstrong : (strong.map fun field => canonicalName field.1).Nodup) (name : String) :
    (canonical (Entries.putAll strong weak)).lookup name
      = (given? name strong).or (weak.lookup name) := by
  have hnodup : (weak.map fun field => canonicalName field.1).Nodup := by
    rw [List.map_congr_left hfirst]
    exact hweak
  -- Of each source at most one field is left, and the stronger one stands last.
  rw [lookup_canonical, Entries.filter_putAll (fun key => canonicalName key == name),
    filter_of_nodup hstrong, filter_of_nodup hnodup, ← given?_of_first hfirst, given?, given?]
  cases strong.find? fun field => canonicalName field.1 == name with
  | none => cases weak.find? fun field => canonicalName field.1 == name <;> rfl
  | some field =>
    cases weak.find? fun field => canonicalName field.1 == name with
    | none => rfl
    | some other =>
      simp only [Option.toList_some, Entries.putAll, List.foldl_cons, List.foldl_nil, Entries.put]
      split <;> rfl

theorem canonicalName_of_mem_canonical {field : String × Json} (h : field ∈ canonical fields) :
    canonicalName field.1 = field.1 := by
  obtain ⟨other, -, hname, -⟩ := exists_of_mem_canonical h
  rw [← hname]
  exact canonicalName_canonicalName other.1

theorem nodup_keys_canonical (fields : List (String × Json)) :
    (Entries.keys (canonical fields)).Nodup :=
  Entries.nodup_keys_putAll _ List.nodup_nil

/-- All that is given, the stronger over the weaker. -/
def sources (file overrides : List (String × Json)) : List (String × Json) :=
  Entries.putAll (counted overrides) (Entries.putAll (canonical file) defaults)

/-- **The stronger source wins** over the weaker one, and both over the defaults. -/
theorem lookup_sources (hfile : (file.map fun field => canonicalName field.1).Nodup)
    (hoverrides : ((counted overrides).map fun field => canonicalName field.1).Nodup)
    (name : String) : (canonical (sources file overrides)).lookup name
      = (winning? file overrides name).or (defaults.lookup name) := by
  have hfirst : ∀ field ∈ Entries.putAll (canonical file) defaults,
      canonicalName field.1 = field.1 := by
    refine Entries.forall_mem_putAll (fun field => canonicalName_of_mem_canonical) ?_
    have hall : ∀ name ∈ Entries.keys defaults, canonicalName name = name := by decide
    exact fun field hfield => hall _ (List.mem_map_of_mem hfield)
  rw [sources, lookup_canonical_putAll hfirst (Entries.nodup_keys_putAll _ (by decide)) hoverrides,
    Entries.lookup_putAll_of_nodup (nodup_keys_canonical file), lookup_canonical_of_nodup hfile,
    winning?, Option.or_assoc]

/-- The defaults are those of the settings. -/
theorem or_lookup_defaults (name : String) :
    (defaults.lookup name).or (({} : Settings).fields.lookup name)
      = ({} : Settings).fields.lookup name := by
  have hall : ∀ field ∈ defaults,
      ({} : Settings).fields.lookup field.1 = some field.2 := by
    simp only [defaults, List.forall_mem_cons]
    exact ⟨rfl, rfl, rfl, by simp⟩
  cases hlookup : defaults.lookup name with
  | none => rfl
  | some value => exact (hall _ (Entries.mem_of_lookup_eq_some hlookup)).symm

/-! ## Fields -/

theorem fields_of_set? {name : String} {value : Json}
    (hset : settings.set? name value = some changed) : changed.fields
      = if name = "custom" then settings.fields else Entries.put name value settings.fields := by
  unfold Settings.set? at hset
  split at hset
  all_goals first
    | obtain rfl := Option.some.inj hset
      rfl
    | simp at hset

theorem exists_set? {name : String} (h : name ∈ names) (settings : Settings) (value : Json) :
    ∃ changed, settings.set? name value = some changed := by
  have hall : ∀ name ∈ names, ∃ changed, settings.set? name value = some changed := by
    simp only [names, List.forall_mem_cons]
    exact ⟨⟨_, rfl⟩, ⟨_, rfl⟩, ⟨_, rfl⟩, ⟨_, rfl⟩, ⟨_, rfl⟩, ⟨_, rfl⟩, ⟨_, rfl⟩, ⟨_, rfl⟩, ⟨_, rfl⟩,
      ⟨_, rfl⟩, ⟨_, rfl⟩, by simp⟩
  exact hall name h

/-- Settings with names of their own are put over those that are there. -/
theorem fields_of_foldlM
    (h : fields.foldlM (fun settings field => set? settings field.1 field.2) settings
      = some changed) :
    changed.fields = Entries.putAll (fields.filter (·.1 != "custom")) settings.fields := by
  induction fields generalizing settings with
  | nil =>
    obtain rfl := Option.some.inj h
    rfl
  | cons field rest ih =>
    rw [List.foldlM_cons] at h
    obtain ⟨next, hnext, h⟩ := Option.bind_eq_some_iff.1 h
    rw [ih h, fields_of_set? hnext]
    by_cases hname : field.1 = "custom"
    · rw [if_pos hname, List.filter_cons_of_neg (by simpa using hname)]
    · rw [if_neg hname, List.filter_cons_of_pos (by simpa using hname)]
      rfl

theorem exists_foldlM (h : ∀ field ∈ fields, field.1 ∈ names) (settings : Settings) :
    ∃ changed, fields.foldlM (fun settings field => set? settings field.1 field.2) settings
      = some changed := by
  induction fields generalizing settings with
  | nil => exact ⟨settings, rfl⟩
  | cons field rest ih =>
    obtain ⟨hfield, hrest⟩ := List.forall_mem_cons.1 h
    obtain ⟨next, hnext⟩ := exists_set? hfield settings field.2
    obtain ⟨changed, hchanged⟩ := ih hrest next
    exact ⟨changed, Option.bind_eq_some_iff.2 ⟨next, hnext, hchanged⟩⟩

/-- What the package is called. -/
theorem eq_of_withPackage (h : settings.withPackage = .ok changed) :
    changed = { settings with
      packageName := if settings.packageName.truthy || !settings.moduleName.truthy
        then settings.packageName else .str (Name.packageName settings.modulePath) } := by
  unfold withPackage at h
  split at h
  · rename_i hgiven
    obtain rfl := Except.ok.inj h
    rw [if_pos hgiven]
  · rename_i hempty
    rw [if_neg hempty, modulePath]
    split at h
    · rename_i path hpath
      obtain rfl := Except.ok.inj h
      rw [hpath]
      rfl
    · cases h

theorem exists_withPackage (h : IsTextOrNull settings.moduleName) :
    ∃ changed, settings.withPackage = .ok changed := by
  unfold withPackage
  split
  · exact ⟨_, rfl⟩
  · rename_i hempty
    rcases h with hnull | ⟨path, hpath⟩
    · simp [hnull, Json.truthy] at hempty
    · rw [hpath]
      exact ⟨_, rfl⟩

theorem lookup_of_foldlM (hkeys : (Entries.keys fields).Nodup) {name : String}
    (hname : name ≠ "custom")
    (h : fields.foldlM (fun settings field => set? settings field.1 field.2) settings
      = some changed) :
    changed.fields.lookup name = (fields.lookup name).or (settings.fields.lookup name) := by
  rw [fields_of_foldlM h, Entries.lookup_putAll_of_nodup (Entries.nodup_keys_filter hkeys _),
    Entries.lookup_filter_key (· != "custom"), if_pos (by simpa using hname)]

theorem exists_of_ofFields (h : ofFields fields = .ok settings) : ∃ given : Settings,
    fields.foldlM (fun settings field => set? settings field.1 field.2) ({} : Settings)
      = some given ∧ given.withPackage = .ok settings := by
  unfold ofFields at h
  split at h
  · rename_i given hgiven
    exact ⟨given, hgiven, h⟩
  · cases h

theorem exists_ofFields (hnames : ∀ field ∈ fields, field.1 ∈ names)
    (hkeys : (Entries.keys fields).Nodup)
    (hmodule : ∀ value, fields.lookup "module_name" = some value → IsTextOrNull value) :
    ∃ settings, ofFields fields = .ok settings := by
  obtain ⟨given, hgiven⟩ := exists_foldlM hnames {}
  have hne : "module_name" ≠ "custom" := by decide
  have hlookup : some given.moduleName = (fields.lookup "module_name").or (some (.str "")) :=
    lookup_of_foldlM hkeys hne hgiven
  have hname : IsTextOrNull given.moduleName := by
    cases hvalue : fields.lookup "module_name" with
    | none =>
      rw [hvalue] at hlookup
      exact .inr ⟨"", Option.some.inj hlookup⟩
    | some value =>
      rw [hvalue] at hlookup
      obtain rfl : given.moduleName = value := Option.some.inj hlookup
      exact hmodule _ hvalue
  obtain ⟨settings, hsettings⟩ := exists_withPackage hname
  refine ⟨settings, ?_⟩
  rw [ofFields, hgiven]
  exact hsettings

/-! ## Merging -/

/-- The settings of known names that stand under first ones. -/
def known (fields : List (String × Json)) : List (String × Json) :=
  (canonical fields).filter fun field => names.contains field.1

theorem nodup_keys_known (fields : List (String × Json)) : (Entries.keys (known fields)).Nodup :=
  Entries.nodup_keys_filter (nodup_keys_canonical fields) _

theorem lookup_known {name : String} (h : name ∈ names) (fields : List (String × Json)) :
    (known fields).lookup name = (canonical fields).lookup name := by
  rw [known, Entries.lookup_filter_key (names.contains ·), if_pos (by simpa using h)]

/-- Settings before the package is named: what is given counts more than the defaults. -/
theorem exists_of_ofMerged (h : ofMerged fields = .ok settings) : ∃ given : Settings,
    (∀ name ∈ Entries.keys given.fields, given.fields.lookup name
      = ((canonical fields).lookup name).or (({} : Settings).fields.lookup name)) ∧
    ∃ named, given.withPackage = .ok named ∧ settings.fields = named.fields := by
  rcases ofMerged_cases h with ⟨-, hnamed⟩ | ⟨found, named, -, hnamed, rfl⟩
  · obtain ⟨given, hgiven, hpackage⟩ := exists_of_ofFields hnamed
    refine ⟨given, fun name hname => ?_, settings, hpackage, rfl⟩
    rw [keys_fields, List.mem_filter] at hname
    rw [lookup_of_foldlM (nodup_keys_known fields) (by simpa using hname.2) hgiven,
      lookup_known hname.1]
  · obtain ⟨given, hgiven, hpackage⟩ := exists_of_ofFields hnamed
    refine ⟨given, fun name hname => ?_, named, hpackage, rfl⟩
    rw [keys_fields, List.mem_filter] at hname
    rw [lookup_of_foldlM (Entries.nodup_keys_filter (nodup_keys_known fields) _)
      (by simpa using hname.2) hgiven, Entries.lookup_filter_key (· != "custom"), if_pos hname.2]
    exact congrArg (Option.or · _) (lookup_known hname.1 fields)

/-- A source for which the names alone decide is merged. -/
theorem exists_ofMerged
    (hmodule : ∀ value, (canonical fields).lookup "module_name" = some value → IsTextOrNull value)
    (hcustom : ∀ value, (canonical fields).lookup "custom" = some value →
      ∃ own, value = .obj own) : ∃ settings, ofMerged fields = .ok settings := by
  have hnames : ∀ field ∈ known fields, field.1 ∈ names := fun field hfield => by
    simpa using (List.mem_filter.1 hfield).2
  have hkeys := nodup_keys_known fields
  have hmodule' : ∀ value, (known fields).lookup "module_name" = some value →
      IsTextOrNull value := fun value hvalue =>
    hmodule value (by rwa [lookup_known (by decide)] at hvalue)
  unfold ofMerged
  dsimp only
  rw [← known]
  split
  · exact exists_ofFields hnames hkeys hmodule'
  · have hcustoms : ∃ custom,
        customOf ((canonical fields).lookup "custom") (unknown fields) = .ok custom := by
      cases hvalue : (canonical fields).lookup "custom" with
      | none => exact ⟨_, rfl⟩
      | some value =>
        obtain ⟨own, rfl⟩ := hcustom value hvalue
        exact ⟨_, rfl⟩
    obtain ⟨custom, hcustoms⟩ := hcustoms
    obtain ⟨settings, hsettings⟩ := exists_ofFields
      (fun field hfield => hnames field (List.mem_filter.1 hfield).1)
      (Entries.nodup_keys_filter hkeys (·.1 != "custom"))
      (fun value hvalue => hmodule' value (by
        rwa [Entries.lookup_filter_key (· != "custom"), if_pos (by decide)] at hvalue))
    exact ⟨_, bind_eq_ok.2 ⟨custom, hcustoms, bind_eq_ok.2 ⟨settings, hsettings, rfl⟩⟩⟩

/-- Settings of unknown names are put over an object of custom ones. -/
theorem custom_of_ofMerged_obj {own : List (String × Json)} (h : ofMerged fields = .ok settings)
    (hown : (canonical fields).lookup "custom" = some (.obj own) ∨
      (canonical fields).lookup "custom" = none ∧ own = []) :
    settings.custom = .entries (named (Entries.putAll (unknown fields) own)) := by
  rcases ofMerged_cases h with ⟨hunknown, hknown⟩ | ⟨found, known, hfound, -, rfl⟩
  · rw [hunknown]
    have hlookup : (known fields).lookup "custom" = (canonical fields).lookup "custom" :=
      lookup_known (by decide) fields
    rcases (ofFields_spec hknown).2.2 with ⟨value, hvalue, hcustom⟩ | ⟨hnone, hcustom⟩
    · have hfound := (Entries.lookup_eq_some_iff_mem (nodup_keys_known fields)).2 hvalue
      rw [hlookup] at hfound
      rcases hown with hown | ⟨hown, -⟩
      · obtain rfl := Option.some.inj (hfound.symm.trans hown)
        exact hcustom
      · exact absurd (hfound.symm.trans hown) (by simp)
    · have hfound := Entries.lookup_eq_none_iff_notMem.2 hnone
      rw [← known, hlookup] at hfound
      rcases hown with hown | ⟨-, rfl⟩
      · exact absurd (hfound.symm.trans hown) (by simp)
      · exact hcustom
  · have hdictionary : found = named own := by
      rcases hown with hown | ⟨hown, rfl⟩
      · rw [hown] at hfound
        exact (Except.ok.inj hfound).symm
      · rw [hown] at hfound
        exact (Except.ok.inj hfound).symm
    rw [hdictionary, Json.putKeys_named]

/-! ## Files and overrides -/

theorem forall_winning? {name : String} {p : Json → Prop}
    (hfile : ∀ value, given? name file = some value → p value)
    (hoverrides : ∀ value, given? name (counted overrides) = some value → p value) :
    ∀ value, winning? file overrides name = some value → p value := by
  intro value h
  rw [winning?] at h
  cases hgiven : given? name (counted overrides) with
  | none =>
    apply hfile
    simpa [hgiven] using h
  | some other =>
    apply hoverrides
    simpa [hgiven] using h

section Merging

variable (hfile : IsRegular file) (hoverrides : IsRegular (counted overrides))

include hfile hoverrides

theorem lookup_unknown (name : String) : (unknown (sources file overrides)).lookup name
    = if canonicalName name ∈ names then none else winning? file overrides name := by
  split
  · rename_i hname
    apply Entries.lookup_eq_none_iff_notMem.2
    intro hmem
    obtain ⟨field, hfield, rfl⟩ := List.mem_map.1 hmem
    exact notMem_of_mem_unknown hfield hname
  · rename_i hname
    have hdefaults : defaults.lookup name = none := by
      apply Entries.lookup_eq_none_iff_notMem.2
      intro hmem
      apply notMem_names hname
      have hall : ∀ name ∈ Entries.keys defaults, name ∈ names := by decide
      exact hall name hmem
    rw [unknown, Entries.lookup_filter_key (!names.contains ·),
      if_pos (by simpa using notMem_names hname), lookup_sources hfile.nodup hoverrides.nodup,
      hdefaults, Option.or_none]

theorem custom_cases :
    (canonical (sources file overrides)).lookup "custom"
        = some (.obj (winningCustom file overrides)) ∨
      (canonical (sources file overrides)).lookup "custom" = none ∧
        winningCustom file overrides = [] := by
  rw [lookup_sources hfile.nodup hoverrides.nodup, winningCustom]
  cases hvalue : winning? file overrides "custom" with
  | none => exact .inr ⟨rfl, rfl⟩
  | some value =>
    obtain ⟨own, rfl, -⟩ := forall_winning? hfile.custom hoverrides.custom value hvalue
    exact .inl rfl

theorem nodup_winningCustom : (Entries.keys (winningCustom file overrides)).Nodup := by
  rw [winningCustom]
  split
  · rename_i own hvalue
    obtain ⟨_, heq, hnodup⟩ := forall_winning? hfile.custom hoverrides.custom _ hvalue
    exact Json.obj.inj heq ▸ hnodup
  · exact List.nodup_nil

theorem exists_ofMerged_sources : ∃ settings, ofMerged (sources file overrides) = .ok settings := by
  refine exists_ofMerged (fun value hvalue => ?_) (fun value hvalue => ?_)
  · have hdefaults : defaults.lookup "module_name" = none := rfl
    rw [lookup_sources hfile.nodup hoverrides.nodup, hdefaults, Option.or_none] at hvalue
    exact forall_winning? hfile.module hoverrides.module value hvalue
  · rcases custom_cases hfile hoverrides with hcustom | ⟨hcustom, -⟩
    · exact ⟨_, Option.some.inj (hvalue.symm.trans hcustom)⟩
    · exact absurd (hvalue.symm.trans hcustom) (by simp)

/-- Before the package is named the stronger source has won everywhere. -/
theorem exists_given (h : ofMerged (sources file overrides) = .ok settings) : ∃ given : Settings,
    (∀ name ∈ Entries.keys given.fields,
      given.fields.lookup name = effective? file overrides name) ∧
    settings.fields = Entries.put "package_name"
      (if given.packageName.truthy || !given.moduleName.truthy then given.packageName
        else .str (Name.packageName given.modulePath)) given.fields := by
  obtain ⟨given, hgiven, named, hnamed, hfields⟩ := exists_of_ofMerged h
  refine ⟨given, fun name hname => ?_, ?_⟩
  · rw [hgiven name hname, lookup_sources hfile.nodup hoverrides.nodup, Option.or_assoc,
      or_lookup_defaults, effective?]
  · rw [hfields, eq_of_withPackage hnamed]
    rfl

theorem lookup_fields (h : ofMerged (sources file overrides) = .ok settings) {name : String}
    (hname : name ∈ Entries.keys settings.fields) (hpackage : name ≠ "package_name") :
    settings.fields.lookup name = effective? file overrides name := by
  obtain ⟨given, hgiven, hfields⟩ := exists_given hfile hoverrides h
  rw [hfields, Entries.lookup_put_of_ne hpackage]
  exact hgiven name hname

theorem missing_eq (h : ofMerged (sources file overrides) = .ok settings) :
    settings.missing = ["module_name", "service"].filter
      fun name => !(effective? file overrides name).any Json.truthy := by
  have hlookup : ∀ name ∈ names.filter (· != "custom"), name ≠ "package_name" →
      settings.fields.lookup name = effective? file overrides name := fun name hname =>
    lookup_fields hfile hoverrides h hname
  have hmodule : some settings.moduleName = effective? file overrides "module_name" :=
    hlookup "module_name" (by decide) (by decide)
  have hservice : some settings.service = effective? file overrides "service" :=
    hlookup "service" (by decide) (by decide)
  rw [missing, List.filter_cons, List.filter_cons, List.filter_nil, ← hmodule, ← hservice]
  cases hm : settings.moduleName.truthy <;> cases hs : settings.service.truthy <;> simp [hm, hs]

/-- **Merged settings**, if they lack nothing, are those of the stronger source. -/
theorem isMerged_of_ofMerged (h : ofMerged (sources file overrides) = .ok settings)
    (hcomplete : settings.moduleName.truthy = true) : IsMerged file overrides settings where
  fields := fun name => lookup_fields hfile hoverrides h
  package := by
    obtain ⟨given, hgiven, hfields⟩ := exists_given hfile hoverrides h
    have hmodule : settings.moduleName = given.moduleName :=
      Option.some.inj (congrArg (List.lookup "module_name") hfields)
    have hname : settings.packageName = _ :=
      Option.some.inj (congrArg (List.lookup "package_name") hfields)
    have heffective : some given.packageName = effective? file overrides "package_name" :=
      hgiven "package_name" (by rw [keys_fields]; decide)
    rw [hname, ← heffective, ← hmodule, hcomplete, modulePath, modulePath, hmodule]
    cases htruthy : given.packageName.truthy <;> simp [htruthy]
  custom := by
    refine ⟨_, custom_of_ofMerged_obj h (custom_cases hfile hoverrides),
      Entries.nodup_keys_putAll _ (nodup_winningCustom hfile hoverrides), fun name => ?_⟩
    have hunknown : (Entries.keys (unknown (sources file overrides))).Nodup :=
      Entries.nodup_keys_filter (nodup_keys_canonical _) _
    rw [Entries.lookup_putAll_of_nodup hunknown, lookup_unknown hfile hoverrides]
    split <;> rfl

end Merging

/-- **Which source wins.**  Of a settings file, plain or among the settings of other generators, and
overrides that are not null, whose names alone decide, settings are loaded exactly if a module and a
service are given that are not empty.  Each setting is then the override, however it is spelled,
else what the file says, else the default; an empty package is named after the module.  The custom
settings are the object that is given for them, overlaid with all that is given under unknown
names. -/
theorem load_precedence {tree : Tree} {path text : String} {bytes : List UInt8}
    (hjson : (Path.ofText path).isJson = true) (hbytes : tree.bytes (.ofText path) = .ok bytes)
    (htext : Tree.textOf bytes = .ok text) (hparse : Json.parse text = .ok (.obj fields))
    (hsection : section? fields = none ∧ file = fields ∨ section? fields = some (.obj file))
    (hfile : IsRegular file) (hoverrides : IsRegular (counted overrides)) :
    let lacking := ["module_name", "service"].filter
      fun name => !(effective? file overrides name).any Json.truthy
    (lacking = [] → ∃ settings, load tree overrides (some path) = .ok settings ∧
      IsMerged file overrides settings) ∧
    (lacking ≠ [] →
      load tree overrides (some path) = .error (.settings (.incomplete lacking))) := by
  intro lacking
  have hread : ofDocument (.ofText path) (.obj fields) = .ok (canonical file) := by
    rcases hsection with ⟨hsection, rfl⟩ | hsection
    · rw [ofDocument, hsection]
    · rw [ofDocument, hsection]
  obtain ⟨settings, hsettings⟩ := exists_ofMerged_sources hfile hoverrides
  have hmissing : settings.missing = lacking := missing_eq hfile hoverrides hsettings
  have hmerge : merge (canonical file) overrides = if settings.missing.isEmpty then .ok settings
      else .error (.settings (.incomplete settings.missing)) := by
    show (do
      let settings ← formed (ofMerged (sources file overrides))
      if settings.missing.isEmpty then pure settings
      else throw (Failure.settings (.incomplete settings.missing))) = _
    rw [hsettings]
    rfl
  rw [load_of_file hjson hbytes htext hparse hread, hmerge, hmissing]
  constructor
  · intro hcomplete
    refine ⟨settings, by rw [hcomplete]; rfl, isMerged_of_ofMerged hfile hoverrides hsettings ?_⟩
    by_contra hmodule
    rw [hcomplete, missing, if_neg hmodule] at hmissing
    cases hmissing
  · intro hlacking
    rw [if_neg (by simpa using hlacking)]

namespace Sample

/-- The settings in a file. -/
def layeredFile : List (String × Json) :=
  [("module", .str "m/old"), ("goVersion", .str "1.18"), ("custom", .obj [("kept", .int 1)]),
    ("extra", .int 2)]

/-- A document that holds them among the settings of other generators. -/
def layeredDocument : Json :=
  .obj [("plugins", .obj [("go-codegen", .obj layeredFile)])]

def layeredTree : Tree where
  nodes := [(["s.json"], .file (Tree.encode layeredDocument.pretty))]

/-- Overrides under other names than those in the file. -/
def layeredOverrides : List (String × Json) :=
  [("module_name", .str "m/new"), ("service", .str "a#S"), ("go_version", .null),
    ("extra", .int 3)]

theorem isProper_layeredDocument : layeredDocument.IsProper := by
  have hcustom : (Json.obj [("kept", .int 1)]).IsProper :=
    .obj (by decide) (by simpa using .int 1)
  have hfile : (Json.obj layeredFile).IsProper := by
    refine .obj (by decide) ?_
    simp only [layeredFile, List.forall_mem_cons]
    exact ⟨.str _, .str _, hcustom, .int _, by simp⟩
  have hplugins : (Json.obj [("go-codegen", .obj layeredFile)]).IsProper :=
    .obj (by decide) (by simpa using hfile)
  exact .obj (by decide) (by simpa using hplugins)

theorem isRegular_layeredFile : IsRegular layeredFile where
  nodup := by decide
  custom := fun _ hvalue => ⟨[("kept", .int 1)], (Option.some.inj hvalue).symm, by decide⟩
  module := fun _ hvalue => .inr ⟨"m/old", (Option.some.inj hvalue).symm⟩

theorem isRegular_layeredOverrides : IsRegular (counted layeredOverrides) where
  nodup := by decide
  custom := fun _ hvalue => by cases hvalue
  module := fun _ hvalue => .inr ⟨"m/new", (Option.some.inj hvalue).symm⟩

end Sample

/-- An override wins over an alias in the file, and one that is null does not count. -/
theorem load_precedence_layered : ∃ settings,
    load Sample.layeredTree Sample.layeredOverrides (some "s.json") = .ok settings ∧
    settings.moduleName = .str "m/new" ∧ settings.packageName = .str "new" ∧
    settings.goVersion = .str "1.18" ∧ settings.indentText = .str "\t" ∧
    ∃ entries, settings.custom = .entries (named entries) ∧
      entries.lookup "kept" = some (.int 1) ∧ entries.lookup "extra" = some (.int 3) := by
  have hbytes : Sample.layeredTree.bytes (.ofText "s.json")
      = .ok (Tree.encode Sample.layeredDocument.pretty) := by
    have hpath : Path.ofText "s.json" = ⟨"", ["s.json"]⟩ := by decide
    rw [hpath]
    rfl
  have hparse := Json.parse_pretty Sample.isProper_layeredDocument
  obtain ⟨settings, hload, hmerged⟩ := (load_precedence (by decide) hbytes
    (Json.textOf_encode_pretty _) hparse (.inr rfl) Sample.isRegular_layeredFile
    Sample.isRegular_layeredOverrides).1 rfl
  have hmodule : some settings.moduleName = some (.str "m/new") :=
    hmerged.fields "module_name" (by rw [keys_fields]; decide) (by decide)
  have hversion : some settings.goVersion = some (.str "1.18") :=
    hmerged.fields "go_version" (by rw [keys_fields]; decide) (by decide)
  have hindent : some settings.indentText = some (.str "\t") :=
    hmerged.fields "indent_text" (by rw [keys_fields]; decide) (by decide)
  have hpackage : some settings.packageName = some (.str "new") := by
    have hname : Name.packageName "m/new" = "new" := by decide +kernel
    rw [hmerged.package, modulePath, Option.some.inj hmodule, ← hname]
    rfl
  obtain ⟨entries, hcustom, -, hentries⟩ := hmerged.custom
  exact ⟨settings, hload, Option.some.inj hmodule, Option.some.inj hpackage,
    Option.some.inj hversion, Option.some.inj hindent, entries, hcustom, hentries "kept",
    hentries "extra"⟩

end Settings

end ClientGen
