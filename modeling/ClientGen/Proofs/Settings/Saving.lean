import ClientGen.Proofs.Json.Storing
import ClientGen.Proofs.Settings.Loading

/-!
# Saved settings

Settings are saved as one object, in which the custom settings stand next to those with names of
their own.  Read back, the object falls apart again by names.  So what is saved is loaded again
exactly if the custom settings are some that loading puts there: under texts that are names of no
other settings, neither first nor second ones, and without a part that would be taken for the
settings themselves.  Otherwise something else is loaded, and it is never the same data: a custom
setting either lands elsewhere or would have to hold a part as deep as itself.

## Main definitions

* `Settings.Savable` — the custom settings are told apart from the others by their names.

## Main results

* `Settings.load_save` — what becomes of saved settings.
-/

namespace ClientGen.Settings

open Json (named putKeys Distinct)

variable {settings reloaded : Settings} {fields : List (String × Json)}

/-- The custom settings can be told apart from the others by their names, and are not taken for
settings among those of other generators. -/
def Savable (settings : Settings) : Prop :=
  ∃ fields, settings.custom = .entries (named fields) ∧
    (∀ field ∈ fields, canonicalName field.1 ∉ names) ∧ section? fields = none

/-! ## Documents -/

/-- The entries of the document that holds settings. -/
def written (settings : Settings) (custom : List (Json × Json)) : List (String × Json) :=
  (putKeys custom (named settings.fields)).map fun entry => (keyText entry.1, entry.2)

theorem document_eq_ok {document : Json} : settings.document = .ok document ↔
    ∃ custom, settings.custom.dictionary = .ok custom ∧ .obj (settings.written custom) = document :=
  bind_eq_ok.trans (by simp only [pure_eq_ok]; rfl)

/-- Where an entry of the document comes from. -/
theorem mem_written {custom : List (Json × Json)} {entry : String × Json}
    (h : entry ∈ settings.written custom) : entry ∈ settings.fields ∨
      ∃ pair ∈ custom, entry.2 = pair.2 ∧ ∃ key, entry.1 = keyText key ∧
        (key = pair.1 ∨ key.same pair.1 = true) := by
  obtain ⟨⟨key, value⟩, hput, rfl⟩ := List.mem_map.1 h
  rcases Json.mem_putKeys hput with hown | ⟨pair, hpair, hvalue, hkey⟩
  · obtain ⟨field, hfield, heq⟩ := List.mem_map.1 hown
    obtain ⟨rfl, rfl⟩ := Prod.mk.inj heq
    exact .inl hfield
  · exact .inr ⟨pair, hpair, hvalue, key, rfl, hkey⟩

theorem isProper_written (h : settings.IsProper) {custom : List (Json × Json)}
    (hcustom : settings.custom.dictionary = .ok custom) :
    ∀ entry ∈ settings.written custom, entry.2.IsProper := by
  intro entry hentry
  rcases mem_written hentry with hown | ⟨pair, hpair, hvalue, -⟩
  · exact h.fields entry hown
  · exact hvalue ▸ (h.custom.dictionary hcustom).2 pair hpair

/-- What is saved stands in the file, and the file has a name. -/
theorem bytes_of_save {before after : Tree} {path : Path}
    (hsave : settings.save before path = .ok after) :
    path ≠ .ofText "" ∧ ∃ custom, settings.custom.dictionary = .ok custom ∧
      after.bytes path = .ok (Tree.encode (Json.pretty (.obj (settings.written custom)))) := by
  obtain ⟨document, hdocument, hwrite⟩ := bind_eq_ok.1 hsave
  obtain ⟨custom, hcustom, rfl⟩ := document_eq_ok.1 (mapError_eq_ok.1 hdocument)
  obtain ⟨-, hplace, hnode⟩ := Tree.write_spec (mapError_eq_ok.1 hwrite)
  refine ⟨?_, custom, hcustom, Tree.bytes_eq_ok hplace hnode⟩
  rintro rfl
  cases hwrite

/-- **What is saved is read back**: the entries of the document, of several ones under a name the
last. -/
theorem readFile_of_save {before after : Tree} {path : Path} (h : settings.IsProper)
    (hjson : path.isJson = true) (hsave : settings.save before path = .ok after) :
    ∃ custom, settings.custom.dictionary = .ok custom ∧
      readFile after path = ofDocument path (.obj (Entries.ofPairs (settings.written custom))) := by
  obtain ⟨-, custom, hcustom, hbytes⟩ := bytes_of_save hsave
  exact ⟨custom, hcustom, readFile_of_parse hjson hbytes (Json.textOf_encode_pretty _)
    (Json.parse_pretty_obj (isProper_written h hcustom))⟩

theorem load_of_save {before after : Tree} {path : String}
    (hsave : settings.save before (.ofText path) = .ok after) :
    load after [] (some path) = (do merge (← readFile after (.ofText path)) []) :=
  load_of_ne fun hempty => (bytes_of_save hsave).1 (by rw [hempty])

/-! ## Names -/

theorem canonicalName_of_mem {name : String} (h : name ∈ names) : canonicalName name = name := by
  have hall : ∀ name ∈ names, canonicalName name = name := by decide
  exact hall name h

theorem canonicalName_mem_or (name : String) :
    canonicalName name ∈ names ∨ canonicalName name = name := by
  have hall : ∀ entry ∈ aliases, entry.2 ∈ names := by decide
  unfold canonicalName
  cases hlookup : aliases.lookup name with
  | none => exact .inr rfl
  | some first => exact .inl (hall _ (Entries.mem_of_lookup_eq_some hlookup))

/-- A name that is none of another setting is a first name. -/
theorem canonicalName_of_notMem {name : String} (h : canonicalName name ∉ names) :
    canonicalName name = name :=
  (canonicalName_mem_or name).resolve_left h

theorem notMem_names {name : String} (h : canonicalName name ∉ names) : name ∉ names :=
  fun hmem => h ((canonicalName_of_mem hmem).symm ▸ hmem)

theorem canonicalName_canonicalName (name : String) :
    canonicalName (canonicalName name) = canonicalName name := by
  rcases canonicalName_mem_or name with h | h
  · exact canonicalName_of_mem h
  · rw [h, h]

theorem keys_fields (settings : Settings) :
    Entries.keys settings.fields = names.filter (· != "custom") := rfl

theorem mem_names_of_mem_keys_fields (settings : Settings) :
    ∀ name ∈ Entries.keys settings.fields, name ∈ names := by
  rw [keys_fields]
  exact fun _ h => (List.mem_filter.1 h).1

theorem nodup_keys_fields (settings : Settings) : (Entries.keys settings.fields).Nodup := by
  rw [keys_fields]
  decide

/-- Different first names are kept as they stand. -/
theorem canonical_of_nodup (hnames : ∀ field ∈ fields, canonicalName field.1 = field.1)
    (hkeys : (Entries.keys fields).Nodup) : canonical fields = fields := by
  have hmap : fields.map (fun field => (canonicalName field.1, field.2)) = fields := by
    rw [List.map_congr_left fun field hfield => by rw [hnames field hfield], List.map_id']
  rw [canonical, hmap, Entries.ofPairs_of_nodup hkeys]

/-! ## Settings that can be told apart -/

section Savable

variable (hunknown : ∀ field ∈ fields, canonicalName field.1 ∉ names)
  (hkeys : (Entries.keys fields).Nodup)

include hunknown hkeys in
/-- Next to settings with names of their own, those of unknown names have different names. -/
theorem nodup_keys_append {own : List (String × Json)} (hown : (Entries.keys own).Nodup)
    (hnames : ∀ name ∈ Entries.keys own, name ∈ names) :
    (Entries.keys (own ++ fields)).Nodup := by
  rw [Entries.keys, List.map_append, List.nodup_append]
  refine ⟨hown, hkeys, ?_⟩
  rintro name hname _ hother rfl
  obtain ⟨field, hfield, rfl⟩ := List.mem_map.1 hother
  exact notMem_names (hunknown field hfield) (hnames _ hname)

include hunknown hkeys in
theorem canonical_append {own : List (String × Json)} (hown : (Entries.keys own).Nodup)
    (hnames : ∀ name ∈ Entries.keys own, name ∈ names) :
    canonical (own ++ fields) = own ++ fields := by
  refine canonical_of_nodup (fun field hfield => ?_)
    (nodup_keys_append hunknown hkeys hown hnames)
  rcases List.mem_append.1 hfield with hfield | hfield
  · exact canonicalName_of_mem (hnames _ (List.mem_map_of_mem hfield))
  · exact canonicalName_of_notMem (hunknown field hfield)

include hunknown hkeys in
/-- Settings of unknown names stand behind the others in a document. -/
theorem written_named (settings : Settings) :
    settings.written (named fields) = settings.fields ++ fields := by
  have hnodup : (Entries.keys (settings.fields ++ fields)).Nodup :=
    nodup_keys_append hunknown hkeys settings.nodup_keys_fields
      settings.mem_names_of_mem_keys_fields
  have hnamed : named (settings.fields ++ fields) = named settings.fields ++ named fields :=
    List.map_append
  rw [written, Json.putKeys_of_distinct (by rw [← hnamed]; exact Json.distinct_named.2 hnodup),
    ← hnamed, named, List.map_map]
  exact List.map_id' _

include hunknown hkeys in
/-- All entries of the document have different names, so reading it keeps them as they stand. -/
theorem ofPairs_written_named (settings : Settings) :
    Entries.ofPairs (settings.written (named fields)) = settings.fields ++ fields := by
  rw [written_named hunknown hkeys]
  exact Entries.ofPairs_of_nodup (nodup_keys_append hunknown hkeys settings.nodup_keys_fields
    settings.mem_names_of_mem_keys_fields)

/-- The settings with names of their own, in the order in which they are merged. -/
def merged (settings : Settings) : List (String × Json) :=
  Entries.putAll settings.fields defaults

theorem keys_merged (settings : Settings) : Entries.keys settings.merged
    = ["go_version", "indent_text", "add_comments", "module_name", "service", "package_name",
      "protocol", "service_id", "integrations", "output_dir"] := rfl

theorem ofFields_merged (h : settings.withPackage = .ok settings) :
    ofFields settings.merged = .ok { settings with custom := .entries [] } :=
  withPackage_custom h (.entries [])

include hunknown in
/-- A filter by names parts known settings from those of unknown names behind them. -/
theorem filter_names_append {own : List (String × Json)}
    (hown : ∀ name ∈ Entries.keys own, name ∈ names) :
    (own ++ fields).filter (fun field => names.contains field.1) = own ∧
      (own ++ fields).filter (fun field => !names.contains field.1) = fields := by
  have hknown : ∀ field ∈ own, names.contains field.1 = true := fun field hfield =>
    List.contains_iff_mem.2 (hown _ (List.mem_map_of_mem hfield))
  have hothers : ∀ field ∈ fields, names.contains field.1 = false := by
    intro field hfield
    simpa using notMem_names (hunknown field hfield)
  constructor
  · rw [List.filter_append, List.filter_eq_self.2 hknown, List.filter_eq_nil_iff.2, List.append_nil]
    intro field hfield
    rw [hothers field hfield]
    exact Bool.false_ne_true
  · rw [List.filter_append, List.filter_eq_nil_iff.2, List.filter_eq_self.2, List.nil_append]
    · intro field hfield
      rw [hothers field hfield]
      rfl
    · intro field hfield
      simp only [hknown field hfield, Bool.not_true, Bool.false_eq_true, not_false_eq_true]

include hunknown hkeys in
/-- **Known settings and those of unknown names are told apart.** -/
theorem ofMerged_append (hpackage : settings.withPackage = .ok settings) :
    ofMerged (settings.merged ++ fields)
      = .ok { settings with custom := .entries (named fields) } := by
  have hmerged : ∀ name ∈ Entries.keys settings.merged, name ∈ names := by
    rw [keys_merged]
    decide
  have hcanonical : canonical (settings.merged ++ fields) = settings.merged ++ fields :=
    canonical_append hunknown hkeys (by rw [keys_merged]; decide) hmerged
  obtain ⟨hknown, hothers⟩ := filter_names_append hunknown hmerged
  have hcustom : (settings.merged ++ fields).lookup "custom" = none := by
    rw [Entries.lookup_eq_none_iff_notMem, Entries.keys, List.map_append, List.mem_append, not_or]
    refine ⟨by rw [← Entries.keys, keys_merged]; decide, fun hmem => ?_⟩
    obtain ⟨field, hfield, hname⟩ := List.mem_map.1 hmem
    exact notMem_names (hunknown field hfield) (by rw [hname]; decide)
  have hwithout : settings.merged.filter (fun field => field.1 != "custom") = settings.merged :=
    rfl
  unfold ofMerged
  dsimp only
  rw [hcanonical, hknown, hothers, hcustom]
  split
  · rename_i hempty
    rw [List.isEmpty_iff.1 hempty]
    exact ofFields_merged hpackage
  · have hadded : customOf none fields = .ok (named fields) :=
      customOf_eq_ok.2 ⟨[], rfl, Json.putKeys_of_distinct (Json.distinct_named.2 hkeys)⟩
    rw [hwithout, ofFields_merged hpackage, hadded]
    rfl

include hunknown hkeys in
theorem merge_append (hpackage : settings.withPackage = .ok settings)
    (hcomplete : settings.missing = []) (hcustom : settings.custom = .entries (named fields)) :
    merge (settings.fields ++ fields) [] = .ok settings := by
  have hput : Entries.putAll (settings.fields ++ fields) defaults = settings.merged ++ fields := by
    rw [Entries.putAll, List.foldl_append, ← Entries.putAll, ← Entries.putAll]
    exact Entries.putAll_of_nodup (nodup_keys_append hunknown hkeys
      (by rw [← merged, keys_merged]; decide) (by rw [← merged, keys_merged]; decide))
  have hself : ({ settings with custom := .entries (named fields) } : Settings) = settings := by
    rw [← hcustom]
  rw [merge, List.filter_nil, Entries.putAll, List.foldl_nil, hput,
    ofMerged_append hunknown hkeys hpackage, hself]
  simp [formed, Except.mapError, bind, Except.bind, hcomplete, pure, Except.pure]

end Savable

theorem section?_append (settings : Settings) (own : List (String × Json)) : section?
    (settings.fields ++ own) = section? own := rfl

/-- **What can be told apart is loaded again.** -/
theorem Savable.load_eq {before after : Tree} {path : String} (h : settings.Savable)
    (hloaded : settings.IsLoaded) (hjson : (Path.ofText path).isJson = true)
    (hsave : settings.save before (.ofText path) = .ok after) :
    load after [] (some path) = .ok settings := by
  obtain ⟨fields, hcustom, hunknown, hsection⟩ := h
  obtain ⟨custom, hread, hfile⟩ := readFile_of_save hloaded.isProper hjson hsave
  have hkeys : (Entries.keys fields).Nodup :=
    Json.distinct_named.1 (hloaded.isProper.custom.dictionary (hcustom ▸ rfl)).1
  obtain rfl : named fields = custom := by
    rw [hcustom] at hread
    exact Except.ok.inj hread
  rw [load_of_save hsave, hfile, ofPairs_written_named hunknown hkeys, ofDocument, section?_append,
    hsection]
  dsimp only
  rw [canonical_append hunknown hkeys settings.nodup_keys_fields
    settings.mem_names_of_mem_keys_fields]
  exact merge_append hunknown hkeys hloaded.package hloaded.complete hcustom

/-! ## Settings that cannot be told apart -/

/-- Every custom value is less deep than a bound. -/
def CustomsBelow (bound : Nat) : CustomSettings → Prop
  | .entries found => ∀ entry ∈ found, entry.2.depth < bound
  | .other value => value.depth < bound

variable {bound : Nat} {custom first second : CustomSettings}

theorem customsBelow_ofJson {value : Json} (h : value.depth < bound) :
    CustomsBelow bound (.ofJson value) := by
  unfold CustomSettings.ofJson
  split
  · refine List.forall_mem_map.2 fun field hfield => ?_
    exact Nat.lt_of_le_of_lt (Nat.le_succ_of_le (Json.depth_le_of_mem_fields hfield)) h
  · exact h

/-- An entry that is the same data as one of another dictionary. -/
theorem exists_of_same_entries {found other : List (Json × Json)}
    (h : (CustomSettings.entries found).same (.entries other) = true) {entry : Json × Json}
    (hentry : entry ∈ found) : ∃ partner ∈ other,
      entry.1.same partner.1 = true ∧ entry.2.same partner.2 = true := by
  rw [CustomSettings.same, Bool.and_eq_true] at h
  obtain ⟨partner, hpartner, heq⟩ := List.any_eq_true.1 (List.all_eq_true.1 h.2 entry hentry)
  exact ⟨partner, hpartner, by simpa using heq⟩

theorem CustomsBelow.of_same (h : CustomsBelow bound second) (hsame : first.same second = true) :
    CustomsBelow bound first := by
  cases first with
  | entries found =>
    cases second with
    | entries other =>
      intro entry hentry
      obtain ⟨partner, hpartner, -, hvalue⟩ := exists_of_same_entries hsame hentry
      exact Nat.lt_of_le_of_lt (Json.depth_le_of_same _ _ hvalue) (h partner hpartner)
    | other value => cases hsame
  | other value =>
    cases second with
    | entries found => cases hsame
    | other value' => exact Nat.lt_of_le_of_lt (Json.depth_le_of_same _ _ hsame) h

theorem CustomsBelow.dictionary (h : CustomsBelow bound custom) {found : List (Json × Json)}
    (hfound : custom.dictionary = .ok found) : ∀ entry ∈ found, entry.2.depth < bound := by
  cases custom with
  | entries => exact Except.ok.inj hfound ▸ h
  | other value =>
    exact fun entry hentry =>
      Nat.lt_trans (Json.depth_lt_of_mem_dictionary hfound hentry) h

theorem depth_lt_of_mem_unknown (h : ∀ field ∈ fields, field.2.depth < bound) :
    ∀ field ∈ unknown fields, field.2.depth < bound := by
  intro field hfield
  obtain ⟨other, hother, -, heq⟩ := exists_of_mem_canonical (List.mem_filter.1 hfield).1
  exact heq ▸ h other hother

/-- Custom settings are no deeper than what they come from. -/
theorem customsBelow_of_ofMerged (h : ofMerged fields = .ok settings)
    (hfields : ∀ field ∈ fields, field.2.depth < bound) : CustomsBelow bound settings.custom := by
  have hadded {found : List (Json × Json)} (hfound : ∀ entry ∈ found, entry.2.depth < bound) :
      CustomsBelow bound (.entries (putKeys (named (unknown fields)) found)) := by
    intro entry hentry
    rcases Json.mem_putKeys_named hentry with hentry | hentry
    · exact hfound entry hentry
    · obtain ⟨field, hfield, rfl⟩ := List.mem_map.1 hentry
      exact depth_lt_of_mem_unknown hfields field hfield
  rcases custom_of_ofMerged h with ⟨value, hvalue, hcustom⟩ | ⟨-, hcustom⟩
  · obtain ⟨field, hfield, -, rfl⟩ := exists_of_mem_canonical hvalue
    rcases hcustom with hcustom | ⟨found, hfound, hcustom⟩
    · rw [hcustom]
      exact customsBelow_ofJson (hfields field hfield)
    · rw [hcustom]
      exact hadded fun entry hentry =>
        Nat.lt_trans (Json.depth_lt_of_mem_dictionary hfound hentry) (hfields field hfield)
  · rw [hcustom]
    exact hadded (by simp)

/-- Names of unknown settings are names of no other settings. -/
theorem notMem_of_mem_unknown {field : String × Json} (h : field ∈ unknown fields) :
    canonicalName field.1 ∉ names := by
  obtain ⟨hmem, hname⟩ := List.mem_filter.1 h
  obtain ⟨other, -, heq, -⟩ := exists_of_mem_canonical hmem
  rw [← heq, canonicalName_canonicalName, heq]
  simpa using hname

/-- The custom settings have no second name. -/
theorem eq_custom_of_canonicalName {name : String} (h : canonicalName name = "custom") :
    name = "custom" := by
  have hall : ∀ entry ∈ aliases, entry.2 ≠ "custom" := by decide
  unfold canonicalName at h
  cases hlookup : aliases.lookup name with
  | none => simpa [hlookup] using h
  | some first =>
    rw [hlookup] at h
    exact absurd h (hall _ (Entries.mem_of_lookup_eq_some hlookup))

theorem custom_mem_of_mem_canonical {value : Json} (h : ("custom", value) ∈ canonical fields) :
    ("custom", value) ∈ fields := by
  obtain ⟨⟨name, value⟩, hfield, hname, rfl⟩ := exists_of_mem_canonical h
  exact eq_custom_of_canonicalName hname ▸ hfield

theorem mem_ofPairs {entry : String × Json} (h : entry ∈ Entries.ofPairs fields) :
    entry ∈ fields := by
  have hall : ∀ entry ∈ Entries.ofPairs fields, entry ∈ fields :=
    Entries.forall_mem_putAll (fun _ hentry => hentry) (by simp)
  exact hall entry h

/-- A setting whose name is none of those with names of their own is a custom one. -/
theorem exists_of_mem_written {pairs : List (Json × Json)} {name : String} {value : Json}
    (hname : name ∉ Entries.keys settings.fields)
    (h : (name, value) ∈ Entries.ofPairs (settings.written pairs)) :
    ∃ pair ∈ pairs, value = pair.2 ∧ ∃ key, name = keyText key ∧
      (key = pair.1 ∨ key.same pair.1 = true) := by
  rcases mem_written (mem_ofPairs h) with hown | hpair
  · exact absurd (List.mem_map_of_mem hown) hname
  · exact hpair

/-- **What would be taken for the settings themselves** is deeper than all that is loaded. -/
theorem same_eq_false_of_section {pairs : List (Json × Json)}
    {inner : List (String × Json)} (hpairs : settings.custom.dictionary = .ok pairs)
    (hsection : section? (Entries.ofPairs (settings.written pairs)) = some (.obj inner))
    (hmerged : ofMerged (Entries.putAll (canonical inner) defaults) = .ok reloaded) :
    settings.custom.same reloaded.custom = false := by
  obtain ⟨plugins, hplugins, hinner⟩ := mem_of_section? hsection
  obtain ⟨pair, hpair, hvalue, -⟩ := exists_of_mem_written (by rw [keys_fields]; decide) hplugins
  have hdepth : (Json.obj inner).depth < (Json.obj plugins).depth :=
    Nat.lt_succ_of_le (Json.depth_le_of_mem_fields hinner)
  have hfields : ∀ field ∈ Entries.putAll (canonical inner) defaults,
      field.2.depth < (Json.obj plugins).depth := by
    refine Entries.forall_mem_putAll (fun field hfield => ?_) ?_
    · obtain ⟨other, hother, -, heq⟩ := exists_of_mem_canonical hfield
      have hle : other.2.depth ≤ Json.depthFields inner := Json.depth_le_of_mem_fields hother
      rw [← heq]
      exact Nat.lt_of_le_of_lt (Nat.le_succ_of_le hle) hdepth
    · simp only [defaults, List.forall_mem_cons]
      exact ⟨Nat.succ_pos _, Nat.succ_pos _, Nat.succ_pos _, by simp⟩
  rw [← Bool.not_eq_true]
  intro hsame
  -- What was loaded lies in the section, and the section lies in a value that was saved.
  have hbelow := ((customsBelow_of_ofMerged hmerged hfields).of_same hsame).dictionary hpairs
    pair hpair
  rw [← hvalue] at hbelow
  exact Nat.lt_irrefl _ hbelow

/-- Custom settings that are the same data as an object are less deep than it. -/
theorem depth_lt_of_same_ofJson {found : List (Json × Json)} {value : Json}
    (h : (CustomSettings.entries found).same (.ofJson value) = true) :
    ∀ entry ∈ found, entry.2.depth < value.depth := by
  intro entry hentry
  unfold CustomSettings.ofJson at h
  split at h
  · obtain ⟨partner, hpartner, -, hsame⟩ := exists_of_same_entries h hentry
    obtain ⟨field, hfield, rfl⟩ := List.mem_map.1 hpartner
    exact Nat.lt_succ_of_le
      (Nat.le_trans (Json.depth_le_of_same _ _ hsame) (Json.depth_le_of_mem_fields hfield))
  · cases h

/-- The name for a key that is the same data as a text is the text. -/
theorem keyText_eq_of_same {key other : Json} {name : String}
    (hkey : key = other ∨ key.same other = true) (hother : other.same (.str name) = true) :
    keyText key = name := by
  obtain rfl := Json.eq_str_of_same hother
  rcases hkey with rfl | hkey
  · rfl
  · rw [Json.eq_str_of_same hkey]
    rfl

/-- **A custom setting under the name of all of them** is deeper than what is loaded from it. -/
theorem same_eq_false_of_custom {pairs : List (Json × Json)} {value : Json}
    (hpairs : settings.custom.dictionary = .ok pairs)
    (hvalue : ("custom", value) ∈ Entries.ofPairs (settings.written pairs))
    (hcustom : reloaded.custom = .ofJson value ∨ ∃ found, value.dictionary = .ok found ∧
      reloaded.custom = .entries (putKeys (named (unknown fields)) found)) :
    settings.custom.same reloaded.custom = false := by
  obtain ⟨pair, hpair, rfl, key, hname, hkey⟩ :=
    exists_of_mem_written (by rw [keys_fields]; decide) hvalue
  rw [← Bool.not_eq_true]
  intro hsame
  -- In both cases a value would be the same data as a part of itself, which is less deep.
  cases hkind : settings.custom with
  | other value =>
    rw [hkind] at hpairs hsame
    have hdepth : pair.2.depth < value.depth := Json.depth_lt_of_mem_dictionary hpairs hpair
    rcases hcustom with hcustom | ⟨found, -, hcustom⟩
    · rw [hcustom] at hsame
      have hbelow : CustomsBelow value.depth (.other value) :=
        (customsBelow_ofJson hdepth).of_same hsame
      exact Nat.lt_irrefl _ hbelow
    · rw [hcustom] at hsame
      cases hsame
  | entries own =>
    rw [hkind] at hpairs hsame
    obtain rfl := Except.ok.inj hpairs
    rcases hcustom with hcustom | ⟨found, hfound, hcustom⟩
    · rw [hcustom] at hsame
      exact Nat.lt_irrefl _ (depth_lt_of_same_ofJson hsame pair hpair)
    · rw [hcustom] at hsame
      obtain ⟨partner, hpartner, hkeys, hvalues⟩ := exists_of_same_entries hsame hpair
      rcases Json.mem_putKeys_named hpartner with hpartner | hpartner
      · exact Nat.lt_irrefl _ (Nat.lt_of_le_of_lt (Json.depth_le_of_same _ _ hvalues)
          (Json.depth_lt_of_mem_dictionary hfound hpartner))
      · obtain ⟨field, hfield, rfl⟩ := List.mem_map.1 hpartner
        have hfieldname : field.1 = "custom" := by rw [hname, keyText_eq_of_same hkey hkeys]
        exact notMem_names (notMem_of_mem_unknown hfield) (by rw [hfieldname]; decide)

/-- Custom settings that are the same data as some of unknown names can be told apart. -/
theorem exists_named_of_same {found : List (Json × Json)}
    (h : (CustomSettings.entries found).same
      (.entries (putKeys (named (unknown fields)) [])) = true) :
    ∃ own, found = named own ∧ ∀ field ∈ own, canonicalName field.1 ∉ names := by
  have hall : ∀ entry ∈ found, ∃ name, entry.1 = .str name ∧ canonicalName name ∉ names := by
    intro entry hentry
    obtain ⟨partner, hpartner, hkeys, -⟩ := exists_of_same_entries h hentry
    rcases Json.mem_putKeys_named hpartner with hpartner | hpartner
    · simp at hpartner
    · obtain ⟨field, hfield, rfl⟩ := List.mem_map.1 hpartner
      exact ⟨field.1, Json.eq_str_of_same hkeys, notMem_of_mem_unknown hfield⟩
  refine ⟨found.map fun entry => (keyText entry.1, entry.2), ?_, ?_⟩
  · rw [named, List.map_map]
    refine (List.map_id' found).symm.trans (List.map_congr_left fun entry hentry => ?_)
    obtain ⟨name, hname, -⟩ := hall entry hentry
    have hkey : entry.1 = .str (keyText entry.1) := by
      rw [hname]
      rfl
    exact Prod.ext hkey rfl
  · refine List.forall_mem_map.2 fun entry hentry => ?_
    obtain ⟨name, hname, hunknown⟩ := hall entry hentry
    rw [hname]
    exact hunknown

/-- Settings that can be told apart are saved unless the file cannot be written. -/
theorem Savable.exists_of_save {before : Tree} {path : Path} {failure : Failure}
    (h : settings.Savable) (hsave : settings.save before path = .error failure) :
    ∃ fault, failure = .settings (.unwritable path.text fault) := by
  obtain ⟨fields, hcustom, -, -⟩ := h
  rcases bind_eq_error.1 hsave with hdocument | ⟨document, -, hwrite⟩
  · have hwritten : settings.document = .ok (.obj (settings.written (named fields))) :=
      document_eq_ok.2 ⟨named fields, by rw [hcustom]; rfl, rfl⟩
    rw [hwritten] at hdocument
    cases hdocument
  · obtain ⟨fault, -, rfl⟩ := mapError_eq_error.1 hwrite
    exact ⟨fault, rfl⟩

/-- Merging adds no custom settings to those that a document gives. -/
theorem custom_mem_of_mem_sources {value : Json}
    (h : ("custom", value) ∈ canonical (Entries.putAll (canonical fields) defaults)) :
    ("custom", value) ∈ fields := by
  have hall : ∀ entry ∈ Entries.putAll (canonical fields) defaults,
      entry.1 = "custom" → entry ∈ fields := by
    refine Entries.forall_mem_putAll ?_ (by simp [defaults])
    rintro ⟨_, value⟩ hentry rfl
    exact custom_mem_of_mem_canonical hentry
  exact hall _ (custom_mem_of_mem_canonical h) rfl

/-- Settings can be told apart if loading finds the custom ones among those of unknown names. -/
theorem savable_of_same_unknown {pairs : List (Json × Json)} (hproper : settings.IsProper)
    (hpairs : settings.custom.dictionary = .ok pairs)
    (hsection : section? (Entries.ofPairs (settings.written pairs)) = none)
    (hsame : settings.custom.same (.entries (putKeys (named (unknown fields)) [])) = true) :
    settings.Savable := by
  cases hkind : settings.custom with
  | other value =>
    rw [hkind] at hsame
    cases hsame
  | entries found =>
    rw [hkind] at hsame hpairs
    obtain rfl := Except.ok.inj hpairs
    obtain ⟨own, rfl, hunknown⟩ := exists_named_of_same hsame
    have hkeys : (Entries.keys own).Nodup :=
      Json.distinct_named.1 (hproper.custom.dictionary (hkind ▸ rfl)).1
    rw [ofPairs_written_named hunknown hkeys] at hsection
    exact ⟨own, hkind, hunknown, hsection⟩

/-- **What is the same data when it is loaded again can be told apart.** -/
theorem savable_of_same {path : Path} {file : List (String × Json)} {pairs : List (Json × Json)}
    (hproper : settings.IsProper) (hpairs : settings.custom.dictionary = .ok pairs)
    (hfile : ofDocument path (.obj (Entries.ofPairs (settings.written pairs))) = .ok file)
    (hmerge : merge file [] = .ok reloaded)
    (hsame : settings.custom.same reloaded.custom = true) : settings.Savable := by
  obtain ⟨hmerged, -⟩ := merge_eq_ok hmerge
  rw [List.filter_nil, Entries.putAll, List.foldl_nil] at hmerged
  unfold ofDocument at hfile
  dsimp only at hfile
  split at hfile
  · rename_i hsection
    obtain rfl := Except.ok.inj hfile
    rcases custom_of_ofMerged hmerged with ⟨value, hvalue, hcustom⟩ | ⟨-, hcustom⟩
    · rw [same_eq_false_of_custom hpairs (custom_mem_of_mem_sources hvalue) hcustom] at hsame
      cases hsame
    · rw [hcustom] at hsame
      exact savable_of_same_unknown hproper hpairs hsection hsame
  · rename_i inner hsection
    obtain rfl := Except.ok.inj hfile
    rw [same_eq_false_of_section hpairs hsection hmerged] at hsame
    cases hsame
  · simp at hfile

/-! ## What is saved -/

namespace Sample

/-- Settings for a service, with a custom one. -/
def overrides (name : String) (value : Json) : List (String × Json) :=
  [("module_name", .str "m"), ("service", .str "a#S"), ("custom", .obj [(name, value)])]

theorem isProper_overrides (name : String) {value : Json} (h : value.IsProper) :
    ∀ field ∈ overrides name value, field.2.IsProper := by
  simp only [overrides, List.forall_mem_cons]
  exact ⟨.str _, .str _, .obj (by simp [Entries.keys]) (by simpa using h), by simp⟩

def loaded (name : String) (value : Json) : Settings where
  moduleName := .str "m"
  service := .str "a#S"
  packageName := .str "m"
  custom := .entries [(.str name, value)]

theorem load_overrides (name : String) (value : Json) :
    load {} (overrides name value) = .ok (loaded name value) := by
  rfl

theorem save_eq (name : String) (value : Json) : ∃ after,
    (loaded name value).save {} (.ofText "out.json") = .ok after := by
  have hpath : Path.ofText "out.json" = ⟨"", ["out.json"]⟩ := by decide
  rw [hpath]
  exact ⟨_, rfl⟩

theorem isJson_out : (Path.ofText "out.json").isJson = true := by decide

theorem savable_extra : (loaded "extra" (.int 1)).Savable := by
  refine ⟨[("extra", .int 1)], rfl, ?_, rfl⟩
  simp only [List.forall_mem_singleton]
  decide

/-- What a setting of a known name becomes when it is read back. -/
def mixed : Settings where
  moduleName := .str "m"
  service := .str "b#T"
  packageName := .str "m"

theorem load_mixed {after : Tree}
    (hsave : (loaded "service" (.str "b#T")).save {} (.ofText "out.json") = .ok after) :
    load after [] (some "out.json") = .ok mixed := by
  have hproper := (isLoaded_of_load (isProper_overrides "service" (.str "b#T"))
    (load_overrides "service" (.str "b#T"))).isProper
  obtain ⟨pairs, hpairs, hread⟩ := readFile_of_save hproper isJson_out hsave
  obtain rfl := Except.ok.inj hpairs
  rw [load_of_save hsave, hread]
  rfl

end Sample

/-- **What becomes of saved settings.**  Settings that can be told apart are saved unless the file
cannot be written, and are loaded again as they were if the name of the file says that it holds
JSON; of others nothing that is the same data is ever loaded. -/
theorem load_save {tree : Tree} {overrides : List (String × Json)} {file : Option String}
    (hload : load tree overrides file = .ok settings)
    (hvalues : ∀ field ∈ overrides, field.2.IsProper) (path : String) :
    (settings.Savable → ∀ before,
      (∀ after, settings.save before (.ofText path) = .ok after →
        load after [] (some path) = if (Path.ofText path).isJson then .ok settings
          else .error (.settings (.notJson (Path.ofText path).text))) ∧
      (∀ failure, settings.save before (.ofText path) = .error failure →
        ∃ fault, failure = .settings (.unwritable (Path.ofText path).text fault))) ∧
    (¬ settings.Savable → ∀ before after reloaded, settings.save before (.ofText path) = .ok after →
      load after [] (some path) = .ok reloaded → settings.same reloaded = false) := by
  have hloaded := isLoaded_of_load hvalues hload
  have hunread {before after : Tree} (hjson : ¬ (Path.ofText path).isJson = true)
      (hsave : settings.save before (.ofText path) = .ok after) :
      load after [] (some path) = .error (.settings (.notJson (Path.ofText path).text)) := by
    obtain ⟨-, _, -, hbytes⟩ := bytes_of_save hsave
    rw [load_of_save hsave, readFile_of_not_isJson hjson hbytes]
    rfl
  constructor
  · intro hsavable before
    refine ⟨?_, fun _ hsave => hsavable.exists_of_save hsave⟩
    intro after hsave
    split
    · rename_i hjson
      exact hsavable.load_eq hloaded hjson hsave
    · rename_i hjson
      exact hunread hjson hsave
  · intro hnot before after reloaded hsave hreload
    -- Only a file that is named as JSON is loaded at all, and then sameness would make it savable.
    by_cases hjson : (Path.ofText path).isJson = true
    · obtain ⟨pairs, hpairs, hread⟩ := readFile_of_save hloaded.isProper hjson hsave
      rw [load_of_save hsave, hread] at hreload
      obtain ⟨file, hfile, hmerge⟩ := bind_eq_ok.1 hreload
      rw [← Bool.not_eq_true, same, Bool.and_eq_true, not_and]
      exact fun _ hsame => hnot (savable_of_same hloaded.isProper hpairs hfile hmerge hsame)
    · rw [hunread hjson hsave] at hreload
      cases hreload

/-- A custom setting of an unknown name is there again after saving and loading. -/
theorem load_save_extra :
    load {} (Sample.overrides "extra" (.int 1)) = .ok (Sample.loaded "extra" (.int 1)) ∧
    (∀ field ∈ Sample.overrides "extra" (.int 1), field.2.IsProper) ∧
    (Sample.loaded "extra" (.int 1)).Savable ∧
    ∃ after, (Sample.loaded "extra" (.int 1)).save {} (.ofText "out.json") = .ok after ∧
      load after [] (some "out.json") = .ok (Sample.loaded "extra" (.int 1)) := by
  have hload := Sample.load_overrides "extra" (.int 1)
  have hvalues := Sample.isProper_overrides "extra" (.int 1)
  obtain ⟨after, hsave⟩ := Sample.save_eq "extra" (.int 1)
  have hreload := ((load_save hload hvalues "out.json").1 Sample.savable_extra {}).1 after hsave
  rw [if_pos Sample.isJson_out] at hreload
  exact ⟨hload, hvalues, Sample.savable_extra, after, hsave, hreload⟩

/-- A custom setting whose name is that of another setting takes the place of that setting. -/
theorem load_save_ne :
    load {} (Sample.overrides "service" (.str "b#T"))
      = .ok (Sample.loaded "service" (.str "b#T")) ∧
    ∃ after, (Sample.loaded "service" (.str "b#T")).save {} (.ofText "out.json") = .ok after ∧
      load after [] (some "out.json") = .ok Sample.mixed ∧
      (Sample.loaded "service" (.str "b#T")).same Sample.mixed = false := by
  obtain ⟨after, hsave⟩ := Sample.save_eq "service" (.str "b#T")
  exact ⟨Sample.load_overrides _ _, after, hsave, Sample.load_mixed hsave, rfl⟩

end ClientGen.Settings
