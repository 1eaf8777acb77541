/-!
# Entries in order

A mapping that remembers the order in which its keys were first given, as a list of pairs with
distinct keys.  Reading is `List.lookup`.  Writing a key that is there replaces its value where it
stands; any other key goes to the end.  Main statements: `lookup_put_self` and `lookup_put_of_ne`
say what is read after a write, `lookup_putAll` after several, `keys_put` and `keys_putAll` where
keys stand, and `nodup_keys_put` that they stay distinct; `lookup_foldl_putNew` says that of several
values that are only given where none is, the first is read.
-/

namespace ClientGen.Entries

variable {κ α : Type}

/-- Gives a key a value: in its place if it is there, else at the end. -/
def put [BEq κ] (key : κ) (value : α) : List (κ × α) → List (κ × α)
  | [] => [(key, value)]
  | (k, v) :: rest => if k == key then (k, value) :: rest else (k, v) :: put key value rest

/-- Gives a key a value unless it has one. -/
def putNew [BEq κ] (key : κ) (value : α) (entries : List (κ × α)) : List (κ × α) :=
  if entries.any (·.1 == key) then entries else entries ++ [(key, value)]

/-- Gives every key of a list its value, from left to right. -/
def putAll [BEq κ] (pairs : List (κ × α)) (entries : List (κ × α)) : List (κ × α) :=
  pairs.foldl (fun es pair => put pair.1 pair.2 es) entries

/-- The entries that a list of pairs makes, later values of a key replacing earlier ones. -/
def ofPairs [BEq κ] (pairs : List (κ × α)) : List (κ × α) :=
  putAll pairs []

/-- The keys, in order. -/
def keys (entries : List (κ × α)) : List κ :=
  entries.map Prod.fst

/-- Whether a key is there. -/
def has [BEq κ] (key : κ) (entries : List (κ × α)) : Bool :=
  entries.any (·.1 == key)

section Laws

variable [BEq κ] [LawfulBEq κ]

theorem lookup_put_self (key : κ) (value : α) (entries : List (κ × α)) :
    (put key value entries).lookup key = some value := by
  induction entries with
  | nil => simp [put]
  | cons entry rest ih =>
    obtain ⟨k, v⟩ := entry
    by_cases h : k = key
    · subst h
      simp [put]
    · have hk : (k == key) = false := by simpa using h
      have hk' : (key == k) = false := by simpa using Ne.symm h
      simp [put, hk, List.lookup_cons, hk', ih]

theorem lookup_put_of_ne {key other : κ} (h : other ≠ key) (value : α)
    (entries : List (κ × α)) :
    (put key value entries).lookup other = entries.lookup other := by
  induction entries with
  | nil =>
    have h' : (other == key) = false := by simpa using h
    simp [put, List.lookup_cons, h']
  | cons entry rest ih =>
    obtain ⟨k, v⟩ := entry
    by_cases hk : k = key
    · subst hk
      have h' : (other == k) = false := by simpa using h
      simp [put, List.lookup_cons, h']
    · have hk' : (k == key) = false := by simpa using hk
      simp [put, hk', List.lookup_cons, ih]

/-- A key without a value goes to the end. -/
theorem put_of_lookup_eq_none {key : κ} {entries : List (κ × α)}
    (h : entries.lookup key = none) (value : α) :
    put key value entries = entries ++ [(key, value)] := by
  induction entries with
  | nil => rfl
  | cons entry rest ih =>
    obtain ⟨k, v⟩ := entry
    rw [List.lookup_cons] at h
    by_cases hk : key = k
    · simp [hk] at h
    · have hk' : (key == k) = false := by simpa using hk
      have hk'' : (k == key) = false := by simpa using Ne.symm hk
      rw [hk'] at h
      rw [put, hk'', if_neg Bool.false_ne_true, ih h, List.cons_append]

/-- Giving a key the value that it has changes nothing. -/
theorem put_of_lookup_eq_some {key : κ} {value : α} {entries : List (κ × α)}
    (h : entries.lookup key = some value) : put key value entries = entries := by
  induction entries with
  | nil => simp at h
  | cons entry rest ih =>
    obtain ⟨k, v⟩ := entry
    rw [List.lookup_cons] at h
    by_cases hk : key = k
    · subst hk
      obtain rfl : v = value := by simpa using h
      simp [put]
    · have hk' : (key == k) = false := by simpa using hk
      have hk'' : (k == key) = false := by simpa using Ne.symm hk
      rw [hk'] at h
      rw [put, hk'', if_neg Bool.false_ne_true, ih h]

theorem keys_put (key : κ) (value : α) (entries : List (κ × α)) :
    keys (put key value entries)
      = if key ∈ keys entries then keys entries else keys entries ++ [key] := by
  induction entries with
  | nil => simp [put, keys]
  | cons entry rest ih =>
    obtain ⟨k, v⟩ := entry
    by_cases hk : k = key
    · subst hk
      simp [put, keys]
    · have hk' : (k == key) = false := by simpa using hk
      have hne : ¬ key = k := Ne.symm hk
      simp only [keys] at ih
      simp only [put, hk', keys, List.map_cons, List.mem_cons, hne, false_or, Bool.false_eq_true,
        if_false, ih]
      by_cases hmem : key ∈ List.map Prod.fst rest <;> simp [hmem]

theorem nodup_keys_put (key : κ) (value : α) {entries : List (κ × α)}
    (h : (keys entries).Nodup) : (keys (put key value entries)).Nodup := by
  rw [keys_put]
  split
  · exact h
  · rename_i hnew
    rw [List.nodup_append]
    refine ⟨h, by simp, ?_⟩
    rintro k hk _ hkey rfl
    exact hnew (List.mem_singleton.1 hkey ▸ hk)

/-- **Keys stand where they were first given.** -/
theorem keys_putAll (pairs entries : List (κ × α)) : keys (putAll pairs entries)
    = keys entries ++ ((keys pairs).removeAll (keys entries)).eraseDups := by
  induction pairs generalizing entries with
  | nil => simp [putAll, keys, List.removeAll]
  | cons pair rest ih =>
    have hkeys : keys (pair :: rest) = pair.1 :: keys rest := rfl
    rw [putAll, List.foldl_cons, ← putAll, ih, keys_put, hkeys]
    simp only [List.removeAll, List.filter_cons, List.elem_eq_contains]
    split
    · rename_i hold
      rw [if_neg (by simpa using hold)]
    · rename_i hnew
      rw [if_pos (by simpa using hnew), List.eraseDups_cons, List.filter_filter, List.append_assoc,
        List.singleton_append]
      congr 3
      refine List.filter_congr fun k _ => ?_
      rw [Bool.eq_iff_iff]
      simp [and_comm]

theorem keys_ofPairs (pairs : List (κ × α)) : keys (ofPairs pairs) = (keys pairs).eraseDups := by
  have hall : (keys pairs).removeAll (keys ([] : List (κ × α))) = keys pairs :=
    List.filter_eq_self.2 fun _ _ => rfl
  rw [ofPairs, keys_putAll, hall]
  rfl

theorem nodup_keys_putAll (pairs : List (κ × α)) {entries : List (κ × α)}
    (h : (keys entries).Nodup) : (keys (putAll pairs entries)).Nodup := by
  induction pairs generalizing entries with
  | nil => exact h
  | cons pair rest ih => exact ih (nodup_keys_put pair.1 pair.2 h)

/-- **A key has the value that it was given last.** -/
theorem lookup_putAll (pairs entries : List (κ × α)) (key : κ) :
    (putAll pairs entries).lookup key = (pairs.reverse ++ entries).lookup key := by
  induction pairs generalizing entries with
  | nil => rfl
  | cons pair rest ih =>
    obtain ⟨k, v⟩ := pair
    rw [putAll, List.foldl_cons, ← putAll, ih, List.reverse_cons, List.append_assoc,
      List.singleton_append, List.lookup_append, List.lookup_append, List.lookup_cons]
    by_cases hk : key = k
    · rw [hk, lookup_put_self, beq_self_eq_true]
    · rw [lookup_put_of_ne hk, beq_false_of_ne hk]

theorem lookup_eq_none_iff_notMem {entries : List (κ × α)} {key : κ} :
    entries.lookup key = none ↔ key ∉ keys entries := by
  rw [List.lookup_eq_none_iff, keys, List.mem_map]
  constructor
  · rintro h ⟨entry, hentry, rfl⟩
    simpa using h entry hentry
  · intro h entry hentry
    rw [bne_iff_ne]
    rintro rfl
    exact h ⟨entry, hentry, rfl⟩

theorem mem_of_lookup_eq_some {entries : List (κ × α)} {key : κ} {value : α}
    (h : entries.lookup key = some value) : (key, value) ∈ entries := by
  obtain ⟨front, back, rfl, -⟩ := List.lookup_eq_some_iff.1 h
  simp

/-- New keys, all different, go to the end one after another. -/
theorem putAll_of_nodup {pairs entries : List (κ × α)} (h : (keys (entries ++ pairs)).Nodup) :
    putAll pairs entries = entries ++ pairs := by
  induction pairs generalizing entries with
  | nil => exact (List.append_nil entries).symm
  | cons pair rest ih =>
    have hfresh : pair.1 ∉ keys entries := by
      intro hmem
      rw [keys, List.map_append, List.nodup_append] at h
      exact h.2.2 pair.1 hmem pair.1 (by simp) rfl
    rw [putAll, List.foldl_cons, put_of_lookup_eq_none (lookup_eq_none_iff_notMem.2 hfresh),
      ← putAll, ih (by simpa using h), List.append_assoc, List.singleton_append]

/-- Pairs with distinct keys are entries already. -/
theorem ofPairs_of_nodup {pairs : List (κ × α)} (h : (keys pairs).Nodup) : ofPairs pairs = pairs :=
  putAll_of_nodup h

theorem lookup_filter_key (p : κ → Bool) (key : κ) (entries : List (κ × α)) :
    (entries.filter fun entry => p entry.1).lookup key
      = if p key then entries.lookup key else none := by
  induction entries with
  | nil => simp
  | cons entry rest ih =>
    obtain ⟨k, v⟩ := entry
    rw [List.filter_cons]
    by_cases hk : key = k
    · subst hk
      cases hp : p key with
      | true => simp
      | false => simpa [hp] using ih
    · have hk' : (key == k) = false := by simpa using hk
      cases hp : p k with
      | true => simp [List.lookup_cons, hk', ih]
      | false => simp [List.lookup_cons, hk', ih]

/-- Of keys that are given values once, each has its new value, all others the old ones. -/
theorem lookup_putAll_of_nodup {pairs entries : List (κ × α)} (h : (keys pairs).Nodup) (key : κ) :
    (putAll pairs entries).lookup key = (pairs.lookup key).or (entries.lookup key) := by
  induction pairs generalizing entries with
  | nil => rfl
  | cons pair rest ih =>
    obtain ⟨k, v⟩ := pair
    obtain ⟨hfresh, hrest⟩ := List.nodup_cons.1 h
    rw [putAll, List.foldl_cons, ← putAll, ih hrest]
    by_cases hk : key = k
    · subst hk
      rw [lookup_eq_none_iff_notMem.2 hfresh, lookup_put_self, List.lookup_cons_self]
      rfl
    · have hk' : (key == k) = false := by simpa using hk
      rw [lookup_put_of_ne hk, List.lookup_cons, hk']

theorem filter_put (p : κ → Bool) (key : κ) (value : α) (entries : List (κ × α)) :
    (put key value entries).filter (fun entry => p entry.1)
      = if p key then put key value (entries.filter fun entry => p entry.1)
        else entries.filter fun entry => p entry.1 := by
  induction entries with
  | nil => simp [put, List.filter_cons]
  | cons entry rest ih =>
    obtain ⟨k, v⟩ := entry
    rw [put]
    by_cases hk : k = key
    · subst hk
      cases hp : p k with
      | true => simp [hp, put]
      | false => simp [hp]
    · have hk' : (k == key) = false := by simpa using hk
      rw [hk', if_neg Bool.false_ne_true, List.filter_cons, List.filter_cons, ih]
      cases hp : p k with
      | true => cases hkey : p key <;> simp [put, hk']
      | false => rfl

theorem filter_putAll (p : κ → Bool) (pairs entries : List (κ × α)) :
    (putAll pairs entries).filter (fun entry => p entry.1)
      = putAll (pairs.filter fun pair => p pair.1) (entries.filter fun entry => p entry.1) := by
  induction pairs generalizing entries with
  | nil => rfl
  | cons pair rest ih =>
    rw [putAll, List.foldl_cons, ← putAll, ih, filter_put, List.filter_cons]
    split <;> rfl

/-- A key that has a value keeps it, so reading finds what was given first. -/
theorem lookup_putNew (key other : κ) (value : α) (entries : List (κ × α)) :
    (putNew key value entries).lookup other = (entries ++ [(key, value)]).lookup other := by
  unfold putNew
  split
  · rename_i hthere
    obtain ⟨entry, hentry, heq⟩ := List.any_eq_true.1 hthere
    rw [List.lookup_append]
    cases hold : entries.lookup other with
    | some found => simp
    | none =>
      have hne : (other == key) = false := by
        rw [beq_eq_false_iff_ne]
        rintro rfl
        exact absurd (eq_of_beq heq).symm
          (by simpa using List.lookup_eq_none_iff.1 hold entry hentry)
      simp [List.lookup_cons, hne]
  · rfl

theorem nodup_keys_putNew (key : κ) (value : α) {entries : List (κ × α)}
    (h : (keys entries).Nodup) : (keys (putNew key value entries)).Nodup := by
  unfold putNew
  split
  · exact h
  · rename_i hnew
    rw [keys, List.map_append, List.nodup_append]
    refine ⟨h, by simp, ?_⟩
    rintro _ hold _ hkey rfl
    obtain ⟨entry, hentry, rfl⟩ := List.mem_map.1 hold
    exact hnew (List.any_eq_true.2 ⟨entry, hentry, by simpa using List.mem_singleton.1 hkey⟩)

/-- The values that keys are given first, from left to right. -/
theorem lookup_foldl_putNew (pairs entries : List (κ × α)) (key : κ) :
    (pairs.foldl (fun found pair => putNew pair.1 pair.2 found) entries).lookup key
      = (entries ++ pairs).lookup key := by
  induction pairs generalizing entries with
  | nil => rw [List.foldl_nil, List.append_nil]
  | cons pair rest ih =>
    rw [List.foldl_cons, ih, List.lookup_append, lookup_putNew, ← List.lookup_append,
      List.append_assoc]
    rfl

theorem nodup_keys_foldl_putNew (pairs : List (κ × α)) {entries : List (κ × α)}
    (h : (keys entries).Nodup) :
    (keys (pairs.foldl (fun found pair => putNew pair.1 pair.2 found) entries)).Nodup := by
  induction pairs generalizing entries with
  | nil => exact h
  | cons pair rest ih => exact ih (nodup_keys_putNew pair.1 pair.2 h)

theorem forall_mem_put {p : κ × α → Prop} {key : κ} {value : α} {entries : List (κ × α)}
    (hnew : p (key, value)) (h : ∀ entry ∈ entries, p entry) :
    ∀ entry ∈ put key value entries, p entry := by
  induction entries with
  | nil => simpa [put] using hnew
  | cons entry rest ih =>
    obtain ⟨k, v⟩ := entry
    obtain ⟨hhead, hrest⟩ := List.forall_mem_cons.1 h
    by_cases hk : k = key
    · subst hk
      simpa [put] using ⟨hnew, fun a b hab => hrest (a, b) hab⟩
    · have hk' : (k == key) = false := by simpa using hk
      rw [put, hk']
      exact List.forall_mem_cons.2 ⟨hhead, ih hrest⟩

theorem forall_mem_putAll {p : κ × α → Prop} {pairs entries : List (κ × α)}
    (hnew : ∀ pair ∈ pairs, p pair) (h : ∀ entry ∈ entries, p entry) :
    ∀ entry ∈ putAll pairs entries, p entry := by
  induction pairs generalizing entries with
  | nil => exact h
  | cons pair rest ih =>
    obtain ⟨hhead, hrest⟩ := List.forall_mem_cons.1 hnew
    exact ih hrest (forall_mem_put hhead h)

/-- What is read after an addition at the end was there before, or is what was added. -/
theorem lookup_append_singleton {entries : List (κ × α)} {key other : κ} {value found : α}
    (h : (entries ++ [(key, value)]).lookup other = some found) :
    entries.lookup other = some found ∨ other = key ∧ value = found := by
  rw [List.lookup_append] at h
  cases hold : entries.lookup other with
  | some old => exact .inl (by simpa [hold] using h)
  | none =>
    simp only [hold, Option.none_or, List.lookup_cons, List.lookup_nil] at h
    split at h
    · rename_i heq
      exact .inr ⟨eq_of_beq heq, Option.some.inj h⟩
    · simp at h

/-- Among distinct keys, reading finds exactly the entries. -/
theorem lookup_eq_some_iff_mem {entries : List (κ × α)} (h : (keys entries).Nodup) {key : κ}
    {value : α} : entries.lookup key = some value ↔ (key, value) ∈ entries := by
  induction entries with
  | nil => simp
  | cons entry rest ih =>
    obtain ⟨k, v⟩ := entry
    obtain ⟨hfresh, hrest⟩ := List.nodup_cons.1 h
    by_cases hk : key = k
    · subst hk
      have hmem : (key, value) ∉ rest := fun hmem =>
        hfresh (List.mem_map.2 ⟨(key, value), hmem, rfl⟩)
      simp [hmem, eq_comm]
    · have hk' : (key == k) = false := by simpa using hk
      simp [List.lookup_cons, hk', hk, ih hrest]

end Laws

theorem nodup_keys_filter {entries : List (κ × α)} (h : (keys entries).Nodup) (p : κ × α → Bool) :
    (keys (entries.filter p)).Nodup :=
  h.sublist (List.filter_sublist.map Prod.fst)

/-- Distinct keys are in strict order once they are sorted. -/
theorem pairwise_lt_mergeSort {entries : List (String × α)} (h : (keys entries).Nodup) :
    (keys (entries.mergeSort fun a b => decide (a.1 ≤ b.1))).Pairwise (· < ·) := by
  have hle : (entries.mergeSort fun a b => decide (a.1 ≤ b.1)).Pairwise
      fun a b => decide (a.1 ≤ b.1) = true := by
    refine List.pairwise_mergeSort ?_ ?_ entries
    · intro a b c hab hbc
      exact decide_eq_true (String.le_trans (of_decide_eq_true hab) (of_decide_eq_true hbc))
    · intro a b
      simpa using String.le_total a.1 b.1
  have hne : (keys (entries.mergeSort fun a b => decide (a.1 ≤ b.1))).Nodup :=
    ((List.mergeSort_perm _ _).map Prod.fst).nodup_iff.2 h
  refine List.pairwise_map.2 ((hle.and (List.pairwise_map.1 hne)).imp fun {a b} hab => ?_)
  rw [← String.not_le]
  exact fun hba => hab.2 (String.le_antisymm (of_decide_eq_true hab.1) hba)

end ClientGen.Entries
