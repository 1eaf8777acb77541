import ClientGen.Json.Dictionary
import ClientGen.Proofs.Json.Proper

/-!
# The entries of dictionaries

A dictionary is put together one entry after another, and none of its keys is there twice.  Its
values are parts of the value that it is read from, so they are proper if that is, and less deep.

## Main definitions

* `Json.putKeys` — gives several keys their values.
* `Json.Distinct` — no key is there twice.
* `Json.depth` — how deep arrays and objects stand in each other.

## Main results

* `Json.putKeys_of_distinct` — new keys go to the end.
* `Json.depth_le_of_same` — values that hold the same data are equally deep.
* `Json.depth_lt_of_mem_dictionary` — the values of a dictionary are less deep than the whole.
-/

namespace ClientGen.Json

/-! ## Keys -/

/-- Gives every key of a list its value, from left to right. -/
def putKeys (pairs entries : List (Json × Json)) : List (Json × Json) :=
  pairs.foldl (fun entries pair => putKey pair.1 pair.2 entries) entries

/-- No key is there twice. -/
def Distinct (entries : List (Json × Json)) : Prop :=
  (Entries.keys entries).Pairwise fun key other => key.same other = false

/-- Names as the keys of a dictionary. -/
def named (fields : List (String × Json)) : List (Json × Json) :=
  fields.map fun field => (.str field.1, field.2)

theorem same_str (a b : String) : (str a).same (str b) = (a == b) := by
  simp [same]

theorem eq_str_of_same {key : Json} {name : String} (h : key.same (str name) = true) :
    key = str name := by
  cases key <;> simp_all [same, number?]

theorem distinct_named {fields : List (String × Json)} :
    Distinct (named fields) ↔ (Entries.keys fields).Nodup := by
  rw [Distinct, named, Entries.keys, Entries.keys, List.Nodup, List.map_map, List.pairwise_map,
    List.pairwise_map]
  simp [same_str]

theorem putKey_named (name : String) (value : Json) (fields : List (String × Json)) :
    putKey (.str name) value (named fields) = named (Entries.put name value fields) := by
  induction fields with
  | nil => rfl
  | cons field rest ih =>
    obtain ⟨key, old⟩ := field
    rw [named, List.map_cons, ← named, putKey, Entries.put, same_str, ih]
    split <;> rfl

/-- Names are put over names. -/
theorem putKeys_named (pairs fields : List (String × Json)) :
    putKeys (named pairs) (named fields) = named (Entries.putAll pairs fields) := by
  induction pairs generalizing fields with
  | nil => rfl
  | cons pair rest ih =>
    rw [named, List.map_cons, ← named, putKeys, List.foldl_cons, ← putKeys, putKey_named, ih]
    rfl

section

variable {entry : Json × Json} {pairs entries : List (Json × Json)}

theorem mem_putKey {key value : Json} (h : entry ∈ putKey key value entries) :
    entry ∈ entries ∨ entry.2 = value ∧ (entry.1 = key ∨ entry.1.same key = true) := by
  induction entries with
  | nil =>
    obtain rfl := List.mem_singleton.1 h
    exact .inr ⟨rfl, .inl rfl⟩
  | cons first rest ih =>
    obtain ⟨k, v⟩ := first
    rw [putKey] at h
    split at h
    · rename_i hsame
      rcases List.mem_cons.1 h with rfl | h
      · exact .inr ⟨rfl, .inr hsame⟩
      · exact .inl (List.mem_cons_of_mem _ h)
    · rcases List.mem_cons.1 h with rfl | h
      · exact .inl List.mem_cons_self
      · exact (ih h).imp_left (List.mem_cons_of_mem _)

/-- **Where an entry comes from**: it stood there, or it was given, perhaps under a key that was
written in another way. -/
theorem mem_putKeys (h : entry ∈ putKeys pairs entries) :
    entry ∈ entries ∨
      ∃ pair ∈ pairs, entry.2 = pair.2 ∧ (entry.1 = pair.1 ∨ entry.1.same pair.1 = true) := by
  induction pairs generalizing entries with
  | nil => exact .inl h
  | cons pair rest ih =>
    rcases ih h with h | ⟨other, hother, hentry⟩
    · rcases mem_putKey h with h | hentry
      · exact .inl h
      · exact .inr ⟨pair, List.mem_cons_self, hentry⟩
    · exact .inr ⟨other, List.mem_cons_of_mem _ hother, hentry⟩

/-- A key that is a name is written in one way only. -/
theorem mem_putKeys_named {fields : List (String × Json)}
    (h : entry ∈ putKeys (named fields) entries) : entry ∈ entries ∨ entry ∈ named fields := by
  rcases mem_putKeys h with h | ⟨pair, hpair, hvalue, hkey⟩
  · exact .inl h
  · obtain ⟨field, hfield, rfl⟩ := List.mem_map.1 hpair
    have hname : entry.1 = .str field.1 := hkey.elim id eq_str_of_same
    exact .inr (List.mem_map.2 ⟨field, hfield, Prod.ext hname.symm hvalue.symm⟩)

theorem keys_putKey (key value : Json) (entries : List (Json × Json)) :
    Entries.keys (putKey key value entries)
      = if entries.any (·.1.same key) then Entries.keys entries
        else Entries.keys entries ++ [key] := by
  induction entries with
  | nil => rfl
  | cons first rest ih =>
    obtain ⟨k, v⟩ := first
    rw [putKey]
    split
    · rename_i hsame
      simp [Entries.keys, hsame]
    · rename_i hsame
      simp only [Entries.keys] at ih
      by_cases hrest : rest.any (·.1.same key) = true
      · simp [Entries.keys, ih, hrest]
      · simp [Entries.keys, ih, hrest, hsame]

theorem Distinct.putKey (h : Distinct entries) (key value : Json) :
    Distinct (putKey key value entries) := by
  rw [Distinct, keys_putKey]
  split
  · exact h
  · rename_i hfresh
    rw [List.pairwise_append]
    refine ⟨h, List.pairwise_singleton _ _, ?_⟩
    simpa [Entries.keys] using hfresh

theorem distinct_nil : Distinct [] :=
  .nil

theorem Distinct.putKeys (h : Distinct entries) (pairs : List (Json × Json)) :
    Distinct (putKeys pairs entries) := by
  induction pairs generalizing entries with
  | nil => exact h
  | cons pair rest ih => exact ih (h.putKey pair.1 pair.2)

theorem putKey_of_fresh {key : Json} (h : ∀ entry ∈ entries, entry.1.same key = false)
    (value : Json) : putKey key value entries = entries ++ [(key, value)] := by
  induction entries with
  | nil => rfl
  | cons first rest ih =>
    obtain ⟨hfirst, hrest⟩ := List.forall_mem_cons.1 h
    rw [putKey, hfirst, if_neg Bool.false_ne_true, ih hrest, List.cons_append]

/-- **New keys go to the end**, one after another. -/
theorem putKeys_of_distinct (h : Distinct (entries ++ pairs)) :
    putKeys pairs entries = entries ++ pairs := by
  induction pairs generalizing entries with
  | nil => exact (List.append_nil entries).symm
  | cons pair rest ih =>
    have hfresh : ∀ entry ∈ entries, entry.1.same pair.1 = false := by
      rw [Distinct, Entries.keys, List.map_append, List.pairwise_append] at h
      exact fun entry hentry =>
        h.2.2 entry.1 (List.mem_map_of_mem hentry) pair.1 (by simp)
    rw [putKeys, List.foldl_cons, putKey_of_fresh hfresh, ← putKeys, ih (by simpa using h),
      List.append_assoc, List.singleton_append]

end

/-! ## Depth -/

mutual

/-- How deep arrays and objects stand in each other. -/
def depth : Json → Nat
  | arr items => depthItems items + 1
  | obj fields => depthFields fields + 1
  | _ => 0
termination_by structural value => value

/-- The depth of the deepest item. -/
def depthItems : List Json → Nat
  | [] => 0
  | item :: rest => max (depth item) (depthItems rest)
termination_by structural items => items

/-- The depth of the deepest value. -/
def depthFields : List (String × Json) → Nat
  | [] => 0
  | (_, value) :: rest => max (depth value) (depthFields rest)
termination_by structural fields => fields

end

theorem depth_le_of_mem_items {items : List Json} {item : Json} (h : item ∈ items) :
    item.depth ≤ depthItems items := by
  induction h with
  | head => exact Nat.le_max_left _ _
  | tail _ _ ih => exact Nat.le_trans ih (Nat.le_max_right _ _)

theorem depth_le_of_mem_fields {fields : List (String × Json)} {field : String × Json}
    (h : field ∈ fields) : field.2.depth ≤ depthFields fields := by
  induction h with
  | head => exact Nat.le_max_left _ _
  | tail _ _ ih => exact Nat.le_trans ih (Nat.le_max_right _ _)

mutual

/-- **Data that is the same is not deeper.** -/
theorem depth_le_of_same : (first second : Json) → first.same second = true →
    first.depth ≤ second.depth
  | arr items, arr others, h => by
    rw [same] at h
    exact Nat.succ_le_succ (depthItems_le_of_same items others h)
  | obj fields, obj others, h => by
    rw [same, Bool.and_eq_true] at h
    exact Nat.succ_le_succ (depthFields_le_of_same fields others h.2)
  | null, _, _ => Nat.zero_le _
  | bool _, _, _ => Nat.zero_le _
  | int _, _, _ => Nat.zero_le _
  | real _, _, _ => Nat.zero_le _
  | str _, _, _ => Nat.zero_le _
termination_by structural first => first

theorem depthItems_le_of_same : (items others : List Json) → sameItems items others = true →
    depthItems items ≤ depthItems others
  | [], _, _ => Nat.zero_le _
  | item :: items, other :: others, h => by
    rw [sameItems, Bool.and_eq_true] at h
    exact max_le_max (depth_le_of_same item other h.1) (depthItems_le_of_same items others h.2)
termination_by structural items => items

theorem depthFields_le_of_same : (fields others : List (String × Json)) →
    sameFields fields others = true → depthFields fields ≤ depthFields others
  | [], _, _ => Nat.zero_le _
  | (key, value) :: fields, others, h => by
    rw [sameFields, Bool.and_eq_true] at h
    refine Nat.max_le.2 ⟨?_, depthFields_le_of_same fields others h.2⟩
    cases hlookup : others.lookup key with
    | none => simp [hlookup] at h
    | some other =>
      rw [hlookup] at h
      exact Nat.le_trans (depth_le_of_same value other h.1)
        (depth_le_of_mem_fields (Entries.mem_of_lookup_eq_some hlookup))
termination_by structural fields => fields

end

/-! ## Dictionaries -/

theorem forIn_entryOf {elements : List Json} {entries found : List (Json × Json)}
    (h : (forIn elements entries fun element entries => do
      let entry ← entryOf element
      pure (ForInStep.yield (putKey entry.1 entry.2 entries))) = Except.ok found) :
    ∃ pairs, elements.mapM entryOf = .ok pairs ∧ found = putKeys pairs entries := by
  induction elements generalizing entries with
  | nil =>
    rw [List.forIn_nil] at h
    exact ⟨[], rfl, (pure_eq_ok.1 h).symm⟩
  | cons element rest ih =>
    rw [List.forIn_cons] at h
    obtain ⟨step, hstep, h⟩ := bind_eq_ok.1 h
    obtain ⟨entry, hentry, hstep⟩ := bind_eq_ok.1 hstep
    obtain rfl := pure_eq_ok.1 hstep
    obtain ⟨pairs, hpairs, rfl⟩ := ih h
    refine ⟨entry :: pairs, ?_, rfl⟩
    rw [List.mapM_cons]
    exact bind_eq_ok.2 ⟨entry, hentry, bind_eq_ok.2 ⟨pairs, hpairs, rfl⟩⟩

/-- A value that is no object is read as the pairs that its elements stand for. -/
theorem exists_of_dictionary {value : Json} {entries : List (Json × Json)}
    (h : value.dictionary = .ok entries) :
    (∃ fields, value = .obj fields ∧ entries = named fields) ∨
      ∃ elements pairs, value.elements = .ok elements ∧ elements.mapM entryOf = .ok pairs ∧
        entries = putKeys pairs [] := by
  unfold dictionary at h
  split at h
  · exact .inl ⟨_, rfl, (Except.ok.inj h).symm⟩
  · obtain ⟨elements, helements, h⟩ := bind_eq_ok.1 h
    obtain ⟨found, hfound, h⟩ := bind_eq_ok.1 h
    obtain rfl := pure_eq_ok.1 h
    obtain ⟨pairs, hpairs, heq⟩ := forIn_entryOf hfound
    exact .inr ⟨elements, pairs, helements, hpairs, heq⟩

theorem elements_of_entryOf {element : Json} {entry : Json × Json}
    (h : entryOf element = .ok entry) : element.elements = .ok [entry.1, entry.2] := by
  obtain ⟨elements, helements, h⟩ := bind_eq_ok.1 h
  split at h
  · split at h
    · rw [helements, ← Except.ok.inj h]
    · simp at h
  · simp at h

/-- A value of a dictionary is a part of an element, unless the dictionary is an object. -/
theorem exists_of_mem_dictionary {value : Json} {entries : List (Json × Json)}
    (h : value.dictionary = .ok entries) {entry : Json × Json} (hentry : entry ∈ entries) :
    (∃ fields, value = .obj fields ∧ ∃ field ∈ fields, entry.2 = field.2) ∨
      ∃ elements element key, value.elements = .ok elements ∧ element ∈ elements ∧
        element.elements = .ok [key, entry.2] := by
  rcases exists_of_dictionary h with ⟨fields, rfl, rfl⟩ | ⟨elements, pairs, helements, hpairs, rfl⟩
  · obtain ⟨field, hfield, rfl⟩ := List.mem_map.1 hentry
    exact .inl ⟨fields, rfl, field, hfield, rfl⟩
  · rcases mem_putKeys hentry with hentry | ⟨pair, hpair, hvalue, -⟩
    · simp at hentry
    · obtain ⟨element, helement, hread⟩ := exists_of_mem_mapM hpairs hpair
      exact .inr ⟨elements, element, pair.1, helements, helement,
        hvalue ▸ elements_of_entryOf hread⟩

theorem depth_le_of_mem_elements {value part : Json} {elements : List Json}
    (h : value.elements = .ok elements) (hpart : part ∈ elements) : part.depth ≤ value.depth := by
  cases value with
  | arr items =>
    obtain rfl := Except.ok.inj h
    exact Nat.le_succ_of_le (depth_le_of_mem_items hpart)
  | obj fields =>
    obtain rfl := Except.ok.inj h
    obtain ⟨field, -, rfl⟩ := List.mem_map.1 hpart
    exact Nat.zero_le _
  | str s =>
    obtain rfl := Except.ok.inj h
    obtain ⟨c, -, rfl⟩ := List.mem_map.1 hpart
    exact Nat.zero_le _
  | null | bool _ | int _ | real _ => simp [Json.elements] at h

/-- **The values of a dictionary are less deep than the whole.** -/
theorem depth_lt_of_mem_dictionary {value : Json} {entries : List (Json × Json)}
    (h : value.dictionary = .ok entries) {entry : Json × Json} (hentry : entry ∈ entries) :
    entry.2.depth < value.depth := by
  rcases exists_of_mem_dictionary h hentry with
    ⟨fields, rfl, field, hfield, heq⟩ | ⟨elements, element, key, helements, helement, hparts⟩
  · rw [heq]
    exact Nat.lt_succ_of_le (depth_le_of_mem_fields hfield)
  · have hle : entry.2.depth ≤ element.depth := depth_le_of_mem_elements hparts (by simp)
    cases value with
    | arr items =>
      obtain rfl := Except.ok.inj helements
      exact Nat.lt_succ_of_le (Nat.le_trans hle (depth_le_of_mem_items helement))
    | obj fields =>
      obtain rfl := Except.ok.inj helements
      obtain ⟨field, -, rfl⟩ := List.mem_map.1 helement
      exact Nat.lt_succ_of_le (Nat.le_trans hle (Nat.zero_le _))
    | str s =>
      obtain rfl := Except.ok.inj helements
      obtain ⟨c, -, rfl⟩ := List.mem_map.1 helement
      simp [Json.elements] at hparts
    | null | bool _ | int _ | real _ => simp [Json.elements] at helements

theorem IsProper.of_mem_elements {value part : Json} {elements : List Json}
    (hvalue : value.IsProper) (h : value.elements = .ok elements) (hpart : part ∈ elements) :
    part.IsProper := by
  cases hvalue with
  | arr hitems =>
    obtain rfl := Except.ok.inj h
    exact hitems part hpart
  | obj =>
    obtain rfl := Except.ok.inj h
    obtain ⟨field, -, rfl⟩ := List.mem_map.1 hpart
    exact .str _
  | str s =>
    obtain rfl := Except.ok.inj h
    obtain ⟨c, -, rfl⟩ := List.mem_map.1 hpart
    exact .str _
  | null | bool _ | int _ | real _ => simp [Json.elements] at h

/-- The values of the dictionary of a proper value are proper. -/
theorem IsProper.of_mem_dictionary {value : Json} {entries : List (Json × Json)}
    (hvalue : value.IsProper) (h : value.dictionary = .ok entries) {entry : Json × Json}
    (hentry : entry ∈ entries) : entry.2.IsProper := by
  rcases exists_of_mem_dictionary h hentry with
    ⟨fields, rfl, field, hfield, heq⟩ | ⟨elements, element, key, helements, helement, hparts⟩
  · exact heq ▸ hvalue.of_mem hfield
  · exact (hvalue.of_mem_elements helements helement).of_mem_elements hparts (by simp)

/-- No key of a dictionary is there twice. -/
theorem distinct_dictionary {value : Json} {entries : List (Json × Json)} (hvalue : value.IsProper)
    (h : value.dictionary = .ok entries) : Distinct entries := by
  rcases exists_of_dictionary h with ⟨fields, rfl, rfl⟩ | ⟨elements, pairs, -, -, rfl⟩
  · exact distinct_named.2 hvalue.nodup_keys
  · exact distinct_nil.putKeys pairs

end ClientGen.Json
