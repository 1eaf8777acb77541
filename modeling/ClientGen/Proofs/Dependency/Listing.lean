import ClientGen.Proofs.Dependency.Imports
import ClientGen.Proofs.Text.Ascii

/-!
# The list of imports

The list of imports and its groups say what was noted in any number of calls.  The list is strictly
ascending, so it depends on its members only; of the notes of one path and name it holds the first,
unless they are of the own package.  The groups take the list apart by origin, and no two of its
members have one import line, although most lines leave out the name.

## Main definitions

* `Dependency.Before` — the strict order of dependencies by path, then by name.
* `Imports.Call` — a call that notes dependencies.
* `Imports.Consistent` — dependencies that have one path and name are the same.

## Main results

* `Dependency.importLine_inj` — an import line tells the path and the name.
* `Imports.pairwise_before_list` — the list is strictly ascending.
* `Imports.list_eq_of_mem_iff` — the list depends on its members only.
* `Imports.list_after` — what the list and the groups are after any calls.
-/

namespace ClientGen

namespace Dependency

variable {a b c : Dependency}

/-! ## Order -/

/-- The strict order of dependencies by path, then by name. -/
def Before (a b : Dependency) : Prop :=
  a.path < b.path ∨ a.path = b.path ∧ a.name < b.name

theorem le_iff : a.le b = true ↔ a.path < b.path ∨ a.path = b.path ∧ a.name ≤ b.name := by
  simp [le]

theorem le_trans (hab : a.le b = true) (hbc : b.le c = true) : a.le c = true := by
  rw [le_iff] at hab hbc ⊢
  rcases hab with hab | ⟨hab, hname⟩
  · rcases hbc with hbc | ⟨hbc, -⟩
    · exact .inl (String.lt_trans hab hbc)
    · exact .inl (hbc ▸ hab)
  · rcases hbc with hbc | ⟨hbc, hname'⟩
    · exact .inl (hab ▸ hbc)
    · exact .inr ⟨hab.trans hbc, String.le_trans hname hname'⟩

theorem le_total (a b : Dependency) : (a.le b || b.le a) = true := by
  rw [Bool.or_eq_true, le_iff, le_iff]
  rcases Std.lt_trichotomy a.path b.path with h | h | h
  · exact .inl (.inl h)
  · exact (String.le_total a.name b.name).imp (fun hname => .inr ⟨h, hname⟩)
      fun hname => .inr ⟨h.symm, hname⟩
  · exact .inr (.inl h)

theorem before_of_le (h : a.le b = true) (hne : a.key ≠ b.key) : Before a b := by
  refine (le_iff.1 h).imp id fun ⟨hpath, hname⟩ => ⟨hpath, ?_⟩
  rw [← String.not_le]
  exact fun hle => hne (Prod.ext hpath (String.le_antisymm hname hle))

theorem Before.key_ne (h : Before a b) : a.key ≠ b.key := by
  intro heq
  have hpath : a.path = b.path := congrArg Prod.fst heq
  have hname : a.name = b.name := congrArg Prod.snd heq
  rcases h with h | ⟨-, h⟩
  · exact String.lt_irrefl _ (hpath ▸ h)
  · exact String.lt_irrefl _ (hname ▸ h)

theorem Before.asymm (hab : Before a b) : ¬ Before b a := by
  rintro (hba | ⟨hpath, hba⟩)
  · rcases hab with hab | ⟨hpath, -⟩
    · exact String.lt_irrefl _ (String.lt_trans hab hba)
    · exact String.lt_irrefl _ (hpath ▸ hba)
  · rcases hab with hab | ⟨-, hab⟩
    · exact String.lt_irrefl _ (hpath ▸ hab)
    · exact String.lt_irrefl _ (String.lt_trans hab hba)

/-- Ascending lists with the same members are equal. -/
theorem eq_of_pairwise_before {xs ys : List Dependency} (hxs : xs.Pairwise Before)
    (hys : ys.Pairwise Before) (hmem : ∀ dependency, dependency ∈ xs ↔ dependency ∈ ys) :
    xs = ys := by
  have hnodup : ∀ {zs : List Dependency}, zs.Pairwise Before → zs.Nodup := fun h =>
    h.imp fun hbefore heq => hbefore.key_ne (congrArg key heq)
  refine List.Perm.eq_of_pairwise ?_ hxs hys
    ((List.perm_ext_iff_of_nodup (hnodup hxs) (hnodup hys)).2 hmem)
  exact fun _ _ _ _ hab hba => absurd hba hab.asymm

/-! ## Import lines -/

theorem toList_importLine (dependency : Dependency) : dependency.importLine.toList
    = (if dependency.isRenamed then dependency.name.toList ++ [' '] else [])
      ++ Text.Quoted.encodeAscii dependency.path.toList := by
  unfold importLine Text.quoteAscii
  split <;> simp

theorem isRenamed_eq_false_iff : a.isRenamed = false ↔ a.name = a.defaultName := by
  simp [isRenamed]

/-- A line without a name is not a line with one: no quote inside the path stands behind a space. -/
theorem importLine_ne (ha : a.isRenamed = true) (hb : b.isRenamed = false) :
    a.importLine ≠ b.importLine := by
  intro h
  have hline := congrArg String.toList h
  simp only [toList_importLine, ha, hb, if_true, Bool.false_eq_true, if_false, List.nil_append,
    List.append_assoc, List.singleton_append] at hline
  exact Text.Quoted.escapes_encodeCharAscii.literal_ne_append hline.symm

/-- **An import line tells the path and the name**, also if it leaves out the name. -/
theorem importLine_inj (h : a.importLine = b.importLine) : a.key = b.key := by
  -- A renamed import never reads like one under its default name, so both are of one kind.
  cases ha : a.isRenamed with
  | true =>
    cases hb : b.isRenamed with
    | false => exact absurd h (importLine_ne ha hb)
    | true =>
      have hline := congrArg String.toList h
      simp only [toList_importLine, ha, hb, if_true, List.append_assoc,
        List.singleton_append] at hline
      have hname : a.name.toList = b.name.toList :=
        Text.Quoted.escapes_encodeCharAscii.append_literal_inj hline
      rw [hname, List.append_cancel_left_eq, List.cons.injEq] at hline
      exact Prod.ext (String.toList_inj.1 (Text.Quoted.encodeAscii_inj hline.2))
        (String.toList_inj.1 hname)
  | false =>
    cases hb : b.isRenamed with
    | true => exact absurd h.symm (importLine_ne hb ha)
    | false =>
      simp only [importLine, ha, hb, Bool.false_eq_true, if_false] at h
      have hpath : a.path = b.path := Text.quoteAscii_inj h
      have hname : a.name = b.name := by
        rw [isRenamed_eq_false_iff.1 ha, isRenamed_eq_false_iff.1 hb, defaultName, defaultName,
          hpath]
      exact Prod.ext hpath hname

end Dependency

namespace Imports

open Dependency (Before)

variable {imports other : Imports}

/-! ## The list -/

/-- **The list of imports is strictly ascending.** -/
theorem pairwise_before_list (h : imports.keys.Nodup) : imports.list.Pairwise Before := by
  have hle : imports.list.Pairwise fun a b => a.le b = true := by
    refine List.pairwise_mergeSort ?_ ?_ imports.used
    · exact fun _ _ _ => Dependency.le_trans
    · exact Dependency.le_total
  have hne : imports.list.Pairwise fun a b => a.key ≠ b.key :=
    List.pairwise_map.1 (((List.mergeSort_perm _ _).map Dependency.key).nodup_iff.2 h)
  exact (hle.and hne).imp fun hab => Dependency.before_of_le hab.1 hab.2

/-- **The list of imports depends on its members only.** -/
theorem list_eq_of_mem_iff (h : imports.keys.Nodup) (hother : other.keys.Nodup)
    (hmem : ∀ dependency, dependency ∈ imports.used ↔ dependency ∈ other.used) :
    imports.list = other.list :=
  Dependency.eq_of_pairwise_before (pairwise_before_list h) (pairwise_before_list hother)
    fun dependency => by rw [mem_list, mem_list, hmem]

/-! ## Groups -/

theorem mem_groups {group : List Dependency} (h : group ∈ imports.groups) :
    group ≠ [] ∧ ∃ origin, group = imports.list.filter (·.origin == origin) := by
  obtain ⟨hgroup, hne⟩ := List.mem_filter.1 h
  obtain ⟨origin, -, rfl⟩ := List.mem_map.1 hgroup
  exact ⟨by simpa using hne, origin, rfl⟩

/-- The groups are in the order of their origins. -/
theorem pairwise_rank_groups : imports.groups.Pairwise fun group later =>
    ∀ a ∈ group, ∀ b ∈ later, a.origin.rank < b.origin.rank := by
  refine List.Pairwise.filter _ (List.pairwise_map.2 ?_)
  have hall : Origin.all.Pairwise fun a b => a.rank < b.rank := by decide
  refine hall.imp fun {origin later} hrank a ha b hb => ?_
  have horigin : a.origin = origin := by simpa using (List.mem_filter.1 ha).2
  have hlater : b.origin = later := by simpa using (List.mem_filter.1 hb).2
  rw [horigin, hlater]
  exact hrank

/-- **The groups hold every member of the list once.** -/
theorem groups_perm_list : imports.groups.flatten.Perm imports.list := by
  unfold groups
  rw [List.flatten_filter_not_isEmpty]
  exact filter_origins_perm _

/-- **No two lines of the import block are equal.** -/
theorem nodup_importLine_groups (h : imports.keys.Nodup) :
    (imports.groups.flatten.map Dependency.importLine).Nodup := by
  rw [(groups_perm_list.map Dependency.importLine).nodup_iff]
  exact List.pairwise_map.2 ((pairwise_before_list h).imp fun hab heq =>
    hab.key_ne (Dependency.importLine_inj heq))

/-! ## Calls -/

/-- A call that notes dependencies. -/
inductive Call where
  | track (dependency : Dependency)
  | trackAll (dependencies : List Dependency)

/-- The dependencies that a call notes. -/
def Call.dependencies : Call → List Dependency
  | .track dependency => [dependency]
  | .trackAll dependencies => dependencies

/-- The imports after a call. -/
def call (imports : Imports) : Call → Imports
  | .track dependency => imports.track dependency
  | .trackAll dependencies => imports.trackAll dependencies

/-- The imports of a unit of the own package after some calls. -/
def after (own : Option String) (calls : List Call) : Imports :=
  calls.foldl call { ownPath := own }

/-- The dependencies that some calls note, in their order. -/
def tracked (calls : List Call) : List Dependency :=
  calls.flatMap Call.dependencies

/-- Dependencies that have one path and name are the same. -/
def Consistent (dependencies : List Dependency) : Prop :=
  ∀ a ∈ dependencies, ∀ b ∈ dependencies, a.key = b.key → a = b

theorem call_eq_trackAll (imports : Imports) (call : Call) :
    imports.call call = imports.trackAll call.dependencies := by
  cases call <;> rfl

theorem foldl_call (imports : Imports) (calls : List Call) :
    calls.foldl call imports = imports.trackAll (tracked calls) := by
  induction calls generalizing imports with
  | nil => rfl
  | cons call rest ih =>
    rw [List.foldl_cons, ih, call_eq_trackAll, ← trackAll_append]
    rfl

theorem nodup_keys_after (own : Option String) (calls : List Call) :
    (after own calls).keys.Nodup := by
  rw [after, foldl_call]
  exact nodup_keys_trackAll _ List.nodup_nil

/-- **Of the notes of one path and name, the first counts**, if they are not of the own package. -/
theorem mem_used_after {own : Option String} {calls : List Call} {dependency : Dependency} :
    dependency ∈ (after own calls).used ↔ IsForeign own dependency.path ∧
      (tracked calls).find? (·.key == dependency.key) = some dependency := by
  rw [after, foldl_call, mem_used_trackAll, isOwn_eq_false_iff]
  simp [keys]

theorem Consistent.find?_eq_some_iff {dependencies : List Dependency} (h : Consistent dependencies)
    {dependency : Dependency} :
    dependencies.find? (·.key == dependency.key) = some dependency ↔
      dependency ∈ dependencies := by
  refine ⟨List.mem_of_find?_eq_some, fun hmem => ?_⟩
  cases hfind : dependencies.find? (·.key == dependency.key) with
  | none => exact absurd (List.find?_eq_none.1 hfind dependency hmem) (by simp)
  | some found =>
    have hkey : found.key = dependency.key := by simpa using List.find?_some hfind
    rw [h found (List.mem_of_find?_eq_some hfind) dependency hmem hkey]

/-- **Neither the order of calls nor their number matters** if nothing is noted in two ways. -/
theorem list_after_eq {own : Option String} {calls others : List Call}
    (h : Consistent (tracked calls))
    (hmem : ∀ dependency, dependency ∈ tracked others ↔ dependency ∈ tracked calls) :
    (after own others).list = (after own calls).list := by
  have hothers : Consistent (tracked others) := fun a ha b hb =>
    h a ((hmem a).1 ha) b ((hmem b).1 hb)
  refine list_eq_of_mem_iff (nodup_keys_after _ _) (nodup_keys_after _ _) fun dependency => ?_
  rw [mem_used_after, mem_used_after, h.find?_eq_some_iff, hothers.find?_eq_some_iff, hmem]

/-- **What is imported after any calls.**  The list is strictly ascending and holds, of the notes of
each path and name, the first, unless they are of an own package with a path.  If nothing is noted
in two ways, it is the same for all calls that note the same dependencies.  The groups are parts of
the list in its order, of one origin each, in the order of origins; together they hold its members
once, and no two of their lines are equal. -/
theorem listing_after (own : Option String) (calls : List Call) :
    (after own calls).list.Pairwise Before ∧
    (∀ dependency, dependency ∈ (after own calls).list ↔ IsForeign own dependency.path ∧
      (tracked calls).find? (·.key == dependency.key) = some dependency) ∧
    (Consistent (tracked calls) → ∀ others : List Call,
      (∀ dependency, dependency ∈ tracked others ↔ dependency ∈ tracked calls) →
        (after own others).list = (after own calls).list ∧
          (after own others).groups = (after own calls).groups) ∧
    (∀ group ∈ (after own calls).groups, group ≠ [] ∧ group.Sublist (after own calls).list ∧
      ∃ origin, ∀ dependency ∈ group, dependency.origin = origin) ∧
    ((after own calls).groups.Pairwise fun group later =>
      ∀ a ∈ group, ∀ b ∈ later, a.origin.rank < b.origin.rank) ∧
    (after own calls).groups.flatten.Perm (after own calls).list ∧
    ((after own calls).groups.flatten.map Dependency.importLine).Nodup := by
  have hnodup := nodup_keys_after own calls
  refine ⟨pairwise_before_list hnodup, fun _ => by rw [mem_list, mem_used_after], ?_, ?_,
    pairwise_rank_groups, groups_perm_list, nodup_importLine_groups hnodup⟩
  · intro hconsistent others hmem
    have hlist : (after own others).list = (after own calls).list :=
      list_after_eq hconsistent hmem
    exact ⟨hlist, by rw [groups, groups, hlist]⟩
  · intro group hgroup
    obtain ⟨hne, origin, rfl⟩ := mem_groups hgroup
    exact ⟨hne, List.filter_sublist, origin, fun _ hmem => by simpa using (List.mem_filter.1 hmem).2⟩

/-- The same dependencies noted in two ways, one of them in reverse and repeated. -/
theorem listing_after_reversed :
    let known : List Dependency :=
      [.standard "net/http", .own "a/types", .of "a/http" "ahttp" .foreign]
    let calls : List Call := [.trackAll known]
    let others : List Call := .track (.own "a/types") :: known.reverse.map .track
    Consistent (tracked calls) ∧
      (∀ dependency, dependency ∈ tracked others ↔ dependency ∈ tracked calls) ∧
      (after (some "a") others).list = (after (some "a") calls).list ∧
      (after (some "a") others).groups = (after (some "a") calls).groups := by
  intro known calls others
  have hconsistent : Consistent (tracked calls) := by
    unfold Consistent
    decide +kernel
  have hmem : ∀ dependency, dependency ∈ tracked others ↔ dependency ∈ tracked calls := by
    intro dependency
    have hothers : tracked others = .own "a/types" :: known.reverse := rfl
    have hcalls : tracked calls = known := rfl
    rw [hothers, hcalls, List.mem_cons, List.mem_reverse]
    exact or_iff_right_of_imp fun heq => heq ▸ by simp [known]
  exact ⟨hconsistent, hmem, (listing_after (some "a") calls).2.2.1 hconsistent others hmem⟩

/-- An own package without a path excludes nothing, although its path is that of the dependency. -/
theorem list_holds_own_package :
    ¬ ∀ (own : Option String) (calls : List Call) (dependency : Dependency),
      dependency ∈ (after own calls).list ↔ own ≠ some dependency.path ∧
        (tracked calls).find? (·.key == dependency.key) = some dependency := by
  intro h
  have hlisted : Dependency.of "" "z" ∈ (after (some "") [.track (.of "" "z")]).list := by
    rw [mem_list]
    decide +kernel
  exact ((h _ _ _).1 hlisted).1 rfl

end Imports

end ClientGen
