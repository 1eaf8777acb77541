import ClientGen.Dependency.Imports
import Mathlib.Data.List.Nodup

/-!
# What a unit imports

The imports of a unit are the packages that were noted for it, without its own, each path and name
once.  The import block lists exactly these.

## Main results

* `Imports.mem_keys_trackAll` — what is imported after some notes.
* `Imports.nodup_keys_trackAll` — nothing is imported twice.
* `Imports.mem_used_trackAll` — of the notes of one path and name, the first is imported.
* `Imports.packages_perm_keys` — the import block holds every import, once.
-/

namespace ClientGen.Imports

variable (imports : Imports)

/-- The paths and names of the imports. -/
def keys (imports : Imports) : List (String × String) :=
  imports.used.map Dependency.key

/-! ## Notes -/

/-- The package of a path is not the own one.  An empty path is that of no own package. -/
def IsForeign (own : Option String) (path : String) : Prop :=
  path = "" ∨ own ≠ some path

theorem isOwn_eq_false_iff {imports : Imports} {dependency : Dependency} :
    imports.isOwn dependency = false ↔ IsForeign imports.ownPath dependency.path := by
  unfold isOwn IsForeign
  cases imports.ownPath with
  | none => simp
  | some path =>
    simp only [Option.any_some, Bool.and_eq_false_iff, Bool.not_eq_false', String.isEmpty_iff,
      beq_eq_false_iff_ne, ne_eq, Option.some.injEq]
    constructor
    · rintro (rfl | hne)
      · exact (em (dependency.path = "")).imp id Ne.symm
      · exact .inr (Ne.symm hne)
    · rintro (hempty | hne)
      · exact (em (path = "")).imp id fun hpath heq => hpath (heq ▸ hempty)
      · exact .inr (Ne.symm hne)

theorem ownPath_track (dependency : Dependency) :
    (imports.track dependency).ownPath = imports.ownPath := by
  unfold track
  split <;> rfl

theorem ownPath_trackAll (dependencies : List Dependency) :
    (imports.trackAll dependencies).ownPath = imports.ownPath := by
  induction dependencies generalizing imports with
  | nil => rfl
  | cons dependency rest ih => exact (ih (imports.track dependency)).trans (ownPath_track _ _)

theorem trackAll_append (first second : List Dependency) :
    imports.trackAll (first ++ second) = (imports.trackAll first).trackAll second :=
  List.foldl_append

theorem contains_eq_true_iff {dependency : Dependency} :
    imports.contains dependency = true ↔ dependency.key ∈ imports.keys := by
  simp [contains, keys]

theorem isOwn_track (dependency other : Dependency) :
    (imports.track dependency).isOwn other = imports.isOwn other := by
  simp only [isOwn, ownPath_track]

theorem mem_keys_track {dependency : Dependency} {key : String × String} :
    key ∈ (imports.track dependency).keys ↔
      key ∈ imports.keys ∨ dependency.key = key ∧ imports.isOwn dependency = false := by
  unfold track
  by_cases hown : imports.isOwn dependency = true
  · simp [hown]
  · rw [Bool.not_eq_true] at hown
    by_cases hmem : imports.contains dependency = true
    · have hkey := (contains_eq_true_iff imports).1 hmem
      simp only [hmem, Bool.or_true, if_true, hown, and_true]
      constructor
      · exact .inl
      · rintro (h | rfl)
        · exact h
        · exact hkey
    · simp [hown, hmem, keys, eq_comm]

/-- **What is imported after some notes**: what was imported before, and every noted package that is
not the unit's own. -/
theorem mem_keys_trackAll {dependencies : List Dependency} {key : String × String} :
    key ∈ (imports.trackAll dependencies).keys ↔
      key ∈ imports.keys ∨
        ∃ dependency ∈ dependencies, dependency.key = key ∧ imports.isOwn dependency = false := by
  induction dependencies generalizing imports with
  | nil => simp [trackAll]
  | cons dependency rest ih =>
    have hstep : imports.trackAll (dependency :: rest) = (imports.track dependency).trackAll rest :=
      rfl
    simp only [hstep, ih, mem_keys_track, isOwn_track, List.exists_mem_cons_iff, or_assoc]

theorem nodup_keys_track {dependency : Dependency} (h : imports.keys.Nodup) :
    (imports.track dependency).keys.Nodup := by
  unfold track
  split
  · exact h
  · rename_i hnew
    have hkey : dependency.key ∉ imports.keys := fun hmem =>
      hnew (by rw [(contains_eq_true_iff imports).2 hmem, Bool.or_true])
    simp only [keys, List.map_append, List.map_cons, List.map_nil] at h hkey ⊢
    rw [← List.concat_eq_append]
    exact List.Nodup.concat hkey h

/-- **Nothing is imported twice.** -/
theorem nodup_keys_trackAll {dependencies : List Dependency} (h : imports.keys.Nodup) :
    (imports.trackAll dependencies).keys.Nodup := by
  induction dependencies generalizing imports with
  | nil => exact h
  | cons dependency rest ih => exact ih _ (nodup_keys_track imports h)

/-! ## First notes -/

theorem isOwn_eq_of_key_eq {dependency other : Dependency} (h : dependency.key = other.key) :
    imports.isOwn dependency = imports.isOwn other := by
  have hpath : dependency.path = other.path := congrArg Prod.fst h
  simp only [isOwn, hpath]

theorem mem_used_track {dependency other : Dependency} :
    other ∈ (imports.track dependency).used ↔ other ∈ imports.used ∨
      other = dependency ∧ imports.isOwn dependency = false ∧ dependency.key ∉ imports.keys := by
  unfold track
  split
  · rename_i hskip
    refine ⟨.inl, fun hor => hor.elim id ?_⟩
    rintro ⟨-, hown, hnew⟩
    rw [hown, Bool.false_or, contains_eq_true_iff] at hskip
    exact absurd hskip hnew
  · rename_i hnew
    rw [Bool.not_eq_true, Bool.or_eq_false_iff, ← Bool.not_eq_true (imports.contains dependency),
      contains_eq_true_iff] at hnew
    simp [hnew]

/-- **Of the notes of one path and name, the first is imported**, unless something was imported
under them before. -/
theorem mem_used_trackAll {dependencies : List Dependency} {dependency : Dependency} :
    dependency ∈ (imports.trackAll dependencies).used ↔ dependency ∈ imports.used ∨
      dependency.key ∉ imports.keys ∧ imports.isOwn dependency = false ∧
        dependencies.find? (·.key == dependency.key) = some dependency := by
  induction dependencies generalizing imports with
  | nil => simp [trackAll]
  | cons head rest ih =>
    have hstep : imports.trackAll (head :: rest) = (imports.track head).trackAll rest := rfl
    rw [hstep, ih, mem_used_track, mem_keys_track, isOwn_track, List.find?_cons]
    -- What has the key of the head comes after it, so only the head itself can be imported.
    by_cases hkey : head.key = dependency.key
    · rw [beq_iff_eq.2 hkey, ← isOwn_eq_of_key_eq imports hkey, hkey]
      simp only [Option.some.injEq]
      constructor
      · rintro ((hused | ⟨rfl, hown, hnew⟩) | ⟨hnot, hown, -⟩)
        · exact .inl hused
        · exact .inr ⟨hnew, hown, rfl⟩
        · exact absurd (.inr ⟨trivial, hown⟩) hnot
      · rintro (hused | ⟨hnew, hown, rfl⟩)
        · exact .inl (.inl hused)
        · exact .inl (.inr ⟨rfl, hown, hnew⟩)
    · have hne : dependency ≠ head := fun heq => hkey (congrArg Dependency.key heq.symm)
      rw [beq_eq_false_iff_ne.2 hkey]
      simp [hkey, hne]

theorem mem_list {dependency : Dependency} :
    dependency ∈ imports.list ↔ dependency ∈ imports.used :=
  (List.mergeSort_perm _ _).mem_iff

/-! ## The import block -/

theorem count_filter_origin (dependencies : List Dependency) (dependency : Dependency)
    (origin : Origin) :
    (dependencies.filter (·.origin == origin)).count dependency
      = if dependency.origin = origin then dependencies.count dependency else 0 := by
  split
  · rename_i h
    exact List.count_filter (by simpa using h)
  · rename_i h
    exact List.count_eq_zero.2 fun hmem => h (by simpa using (List.mem_filter.1 hmem).2)

theorem filter_origins_perm (dependencies : List Dependency) :
    (Origin.all.map fun origin => dependencies.filter (·.origin == origin)).flatten.Perm
      dependencies := by
  -- Every dependency has one origin, so exactly one of the groups counts it.
  rw [List.perm_iff_count]
  intro dependency
  simp only [Origin.all, List.map_cons, List.map_nil, List.flatten_cons, List.flatten_nil,
    List.append_nil, List.count_append, count_filter_origin]
  cases dependency.origin <;> simp

/-- The paths and names in the import block. -/
def packages (imports : Imports) : List (String × String) :=
  imports.groups.flatten.map Dependency.key

/-- **The import block holds every import once.** -/
theorem packages_perm_keys : imports.packages.Perm imports.keys := by
  unfold packages groups
  rw [List.flatten_filter_not_isEmpty]
  exact ((filter_origins_perm _).trans (List.mergeSort_perm _ _)).map _

end ClientGen.Imports
