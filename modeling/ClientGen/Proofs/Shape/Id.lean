import ClientGen.Shape.Id
import Mathlib.Data.List.Basic

/-!
# The order and the text of shape ids

Ids are ordered by namespace, name and member.  The order is total and transitive on all ids, but
two ids can be equal in it without being the same: an empty member name counts like none.  Such ids
are the ones that `ShapeId.sortBy?` refuses to compare, so on what it does sort the order is strict.

A text is read by cutting it at its first `#` and what follows at its first `$`.  Without the first
of them the namespace may be given by a fallback.  So every id that is read is complete, and a text
spells one id at most.

## Main definitions

* `ShapeId.Precedes` — one id stands strictly before another.
* `ShapeId.IsReadable` — the namespace holds no `#` and the name no `$`, as in every id that is read
  from a text.
* `ShapeId.Spells` — a text says which shape is meant, in full or with a namespace to fall back on.

## Main results

* `pairwise_precedes_of_sortBy?` — values with distinct ids are sorted strictly.
* `text_eq_text_iff` — which readable ids have one text.
* `text_injective` — those that can be compared are told apart by it.
* `parse_eq_ok_iff` — what is read of a text is the id that it spells.
* `isReadable_of_parse` — reading a text gives a readable id.
-/

namespace ClientGen.ShapeId

variable {a b c : ShapeId}

/-! ## Order -/

/-- The lexicographic comparison behind `ShapeId.le`. -/
def order : ShapeId → ShapeId → Ordering :=
  compareLex (compareOn ns) (compareLex (compareOn name) (compareOn fun id => id.member.getD ""))

theorem le_eq_isLE_order (a b : ShapeId) : a.le b = (order a b).isLE := by
  simp only [le, order, compareLex, compareOn]
  -- Part by part.  Only members are compared by `≤`, the other parts by `compare` on both sides.
  cases compare a.ns b.ns with
  | lt => rfl
  | gt => rfl
  | eq =>
    cases compare a.name b.name with
    | lt => rfl
    | gt => rfl
    | eq =>
      rw [Bool.eq_iff_iff, decide_eq_true_iff]
      exact (isLE_compareOfLessAndEq Std.le_antisymm Std.not_le fun _ _ => Std.le_total).symm

theorem le_trans (hab : a.le b = true) (hbc : b.le c = true) : a.le c = true := by
  rw [le_eq_isLE_order] at hab hbc ⊢
  unfold order at hab hbc ⊢
  exact Std.TransCmp.isLE_trans hab hbc

theorem le_total (a b : ShapeId) : (a.le b || b.le a) = true := by
  rw [le_eq_isLE_order, le_eq_isLE_order, order]
  cases h : compareLex (compareOn ns) (compareLex (compareOn name)
    (compareOn fun id => id.member.getD "")) a b with
  | lt => rfl
  | eq => rfl
  | gt =>
    rw [Std.OrientedCmp.lt_of_gt h]
    rfl

/-- Ids that stand before each other have the same parts, an empty member counting like none. -/
theorem eq_parts_of_le_of_le (hab : a.le b = true) (hba : b.le a = true) :
    a.ns = b.ns ∧ a.name = b.name ∧ a.member.getD "" = b.member.getD "" := by
  rw [le_eq_isLE_order] at hab hba
  have heq : order a b = .eq := by
    unfold order at hab hba ⊢
    exact Std.OrientedCmp.isLE_antisymm hab hba
  simp only [order, compareLex_eq_eq, compareOn, Std.LawfulEqCmp.compare_eq_iff_eq] at heq
  exact heq

/-- One id stands strictly before another. -/
def Precedes (a b : ShapeId) : Prop :=
  a.le b = true ∧ b.le a = false

instance : Decidable (Precedes a b) :=
  inferInstanceAs (Decidable (_ ∧ _))

theorem Precedes.ne (h : Precedes a b) : a ≠ b := by
  rintro rfl
  exact Bool.noConfusion (h.1.symm.trans h.2)

/-- Ids that can be compared are the same if they have the same parts, an empty member name counting
like none. -/
theorem eq_of_parts_eq (hcomp : incomparable a b = false) (hns : a.ns = b.ns)
    (hname : a.name = b.name) (hmember : a.member.getD "" = b.member.getD "") : a = b := by
  obtain ⟨ns, name, member⟩ := a
  obtain ⟨ns', name', member'⟩ := b
  obtain rfl : ns = ns' := hns
  obtain rfl : name = name' := hname
  simp only [incomparable, beq_self_eq_true, Bool.true_and, bne_eq_false_iff_eq] at hcomp
  -- No member and an empty one are told apart only by the comparison.
  cases member with
  | none =>
    cases member' with
    | none => rfl
    | some _ => simp at hcomp
  | some m =>
    cases member' with
    | none => simp at hcomp
    | some m' =>
      obtain rfl : m = m' := hmember
      rfl

/-- Ids that can be compared are the same if each stands before the other. -/
theorem eq_of_le_of_le (hcomp : incomparable a b = false) (hab : a.le b = true)
    (hba : b.le a = true) : a = b := by
  obtain ⟨hns, hname, hmember⟩ := eq_parts_of_le_of_le hab hba
  exact eq_of_parts_eq hcomp hns hname hmember

/-! ## Sorting -/

section Sorting

variable {α : Type} {id : α → ShapeId} {values sorted : List α}

theorem sortBy?_eq_some_iff : sortBy? id values = some sorted ↔
    (∀ x ∈ values, ∀ y ∈ values, incomparable (id x) (id y) = false) ∧
      values.mergeSort (fun x y => (id x).le (id y)) = sorted := by
  unfold sortBy?
  split
  · rename_i h
    obtain ⟨x, hx, hex⟩ := List.any_eq_true.1 h
    obtain ⟨y, hy, hxy⟩ := List.any_eq_true.1 hex
    refine ⟨fun hnone => by simp at hnone, fun hall => ?_⟩
    rw [hall.1 x hx y hy] at hxy
    exact absurd hxy Bool.false_ne_true
  · rename_i h
    simp only [Option.some.injEq, iff_and_self]
    rintro - x hx y hy
    by_contra hxy
    exact h (List.any_eq_true.2 ⟨x, hx, List.any_eq_true.2 ⟨y, hy, by simpa using hxy⟩⟩)

theorem exists_incomparable_of_sortBy? (h : sortBy? id values = none) :
    ∃ x ∈ values, ∃ y ∈ values, incomparable (id x) (id y) = true := by
  unfold sortBy? at h
  split at h
  · rename_i hany
    obtain ⟨x, hx, hany⟩ := List.any_eq_true.1 hany
    obtain ⟨y, hy, hxy⟩ := List.any_eq_true.1 hany
    exact ⟨x, hx, y, hy, hxy⟩
  · simp at h

theorem perm_of_sortBy? (h : sortBy? id values = some sorted) : sorted.Perm values := by
  obtain ⟨-, rfl⟩ := sortBy?_eq_some_iff.1 h
  exact List.mergeSort_perm _ _

theorem incomparable_of_sortBy? (h : sortBy? id values = some sorted) {x y : α}
    (hx : x ∈ sorted) (hy : y ∈ sorted) : incomparable (id x) (id y) = false := by
  have hperm := perm_of_sortBy? h
  exact (sortBy?_eq_some_iff.1 h).1 x (hperm.mem_iff.1 hx) y (hperm.mem_iff.1 hy)

/-- **Sorting is strict on distinct ids.** -/
theorem pairwise_precedes_of_sortBy? (h : sortBy? id values = some sorted)
    (hnodup : (values.map id).Nodup) : sorted.Pairwise fun x y => Precedes (id x) (id y) := by
  have hne : sorted.Pairwise fun x y => id x ≠ id y :=
    List.pairwise_map.1 (((perm_of_sortBy? h).map id).nodup_iff.2 hnodup)
  have hle : sorted.Pairwise fun x y => (id x).le (id y) = true := by
    obtain ⟨-, rfl⟩ := sortBy?_eq_some_iff.1 h
    refine List.pairwise_mergeSort ?_ ?_ values
    · intro x y z
      exact le_trans
    · intro x y
      exact le_total (id x) (id y)
  refine (hle.and hne).imp_of_mem fun {x y} hx hy hxy => ⟨hxy.1, ?_⟩
  by_contra hyx
  have hyx' : (id y).le (id x) = true := by simpa using hyx
  exact hxy.2 (eq_of_le_of_le (incomparable_of_sortBy? h hx hy) hxy.1 hyx')

theorem sortBy?_of_pairwise
    (hcomp : ∀ x ∈ values, ∀ y ∈ values, incomparable (id x) (id y) = false)
    (hle : values.Pairwise fun x y => (id x).le (id y) = true) :
    sortBy? id values = some values :=
  sortBy?_eq_some_iff.2 ⟨hcomp, List.mergeSort_of_pairwise hle⟩

end Sorting

/-! ## Text -/

/-- The namespace holds no `#`, and the name no `$`. -/
def IsReadable (id : ShapeId) : Prop :=
  '#' ∉ id.ns.toList ∧ '$' ∉ id.name.toList

instance (id : ShapeId) : Decidable id.IsReadable :=
  inferInstanceAs (Decidable (_ ∧ _))

/-- What the text of an id adds for its member. -/
def memberText (id : ShapeId) : List Char :=
  match id.member with
  | some member => if member.isEmpty then [] else '$' :: member.toList
  | none => []

theorem toList_text (id : ShapeId) :
    id.text.toList = id.ns.toList ++ '#' :: (id.name.toList ++ id.memberText) := by
  obtain ⟨ns, name, _ | member⟩ := id
  · simp [text, memberText]
  · by_cases h : member.isEmpty = true
    · simp [text, memberText, h]
    · simp [text, memberText, h]

theorem memberText_eq_nil_or_cons (id : ShapeId) :
    id.memberText = [] ∨ ∃ rest, id.memberText = '$' :: rest := by
  unfold memberText
  split
  · split
    · exact .inl rfl
    · exact .inr ⟨_, rfl⟩
  · exact .inl rfl

/-- The name and the member can be told apart in what stands behind the namespace. -/
theorem name_eq_of_append_memberText_eq (ha : a.IsReadable) (hb : b.IsReadable)
    (h : a.name.toList ++ a.memberText = b.name.toList ++ b.memberText) :
    a.name.toList = b.name.toList ∧ a.memberText = b.memberText := by
  rcases memberText_eq_nil_or_cons a with hma | ⟨m, hma⟩ <;>
    rcases memberText_eq_nil_or_cons b with hmb | ⟨m', hmb⟩ <;> rw [hma, hmb] at h ⊢
  · simpa using h
  -- With a member on one side only, its `$` stands in the name on the other side.
  · rw [List.append_nil] at h
    exact absurd (h ▸ by simp) ha.2
  · rw [List.append_nil] at h
    exact absurd (h ▸ by simp) hb.2
  -- With a member on both sides, cut at the first `$`.
  · have hcut := congrArg (Text.cut? '$') h
    rw [Text.cut?_append_cons ha.2, Text.cut?_append_cons hb.2] at hcut
    obtain ⟨hname, hm⟩ := Prod.mk.inj (Option.some.inj hcut)
    exact ⟨hname, by rw [hm]⟩

/-- What is written for a member is its name, an empty one counting like none. -/
theorem memberText_eq_iff : a.memberText = b.memberText ↔ a.member.getD "" = b.member.getD "" := by
  have hwritten : ∀ id : ShapeId, id.memberText
      = if id.member.getD "" = "" then [] else '$' :: (id.member.getD "").toList := by
    rintro ⟨ns, name, _ | member⟩
    · rfl
    · simp [memberText]
  rw [hwritten, hwritten]
  by_cases ha : a.member.getD "" = "" <;> by_cases hb : b.member.getD "" = ""
  · simp [ha, hb]
  · simp [ha, hb, Ne.symm hb]
  · simp [hb, ha]
  · simp [ha, hb, String.toList_inj]

/-- **Readable ids have one text** exactly if they have the same parts, an empty member name
counting like none. -/
theorem text_eq_text_iff (ha : a.IsReadable) (hb : b.IsReadable) :
    a.text = b.text ↔
      a.ns = b.ns ∧ a.name = b.name ∧ a.member.getD "" = b.member.getD "" := by
  constructor
  · intro h
    have htext : (a.ns.toList, a.name.toList ++ a.memberText)
        = (b.ns.toList, b.name.toList ++ b.memberText) := by
      have hcut := congrArg (fun text => Text.cut? '#' text.toList) h
      simpa only [toList_text, Text.cut?_append_cons ha.1, Text.cut?_append_cons hb.1,
        Option.some.injEq] using hcut
    obtain ⟨hns, hrest⟩ := Prod.mk.inj htext
    obtain ⟨hname, hmember⟩ := name_eq_of_append_memberText_eq ha hb hrest
    exact ⟨String.toList_inj.1 hns, String.toList_inj.1 hname, memberText_eq_iff.1 hmember⟩
  · rintro ⟨hns, hname, hmember⟩
    rw [← String.toList_inj, toList_text, toList_text, hns, hname, memberText_eq_iff.2 hmember]

/-- **The text of an id names its shape.**  Readable ids with one text are the same if they can be
compared. -/
theorem text_injective (ha : a.IsReadable) (hb : b.IsReadable)
    (hcomp : incomparable a b = false) (h : a.text = b.text) : a = b := by
  obtain ⟨hns, hname, hmember⟩ := (text_eq_text_iff ha hb).1 h
  exact eq_of_parts_eq hcomp hns hname hmember

/-! ## Reading -/

section Reading

variable {written : String} {fallback : Option String} {id : ShapeId}

/-- Neither the namespace nor the name is empty. -/
structure IsComplete (id : ShapeId) : Prop where
  ns_ne : id.ns ≠ ""
  name_ne : id.name ≠ ""

instance (id : ShapeId) : Decidable id.IsComplete :=
  decidable_of_iff (id.ns ≠ "" ∧ id.name ≠ "") ⟨fun h => ⟨h.1, h.2⟩, fun h => ⟨h.1, h.2⟩⟩

/-- What stands behind the name of an id in a text that it is read from. -/
def writtenMember (id : ShapeId) : List Char :=
  match id.member with
  | some member => '$' :: member.toList
  | none => []

/-- The text says which shape is meant, up to white space around it: it holds a namespace, a name
and perhaps a member, or only what stands behind the namespace, which is then the fallback. -/
structure Spells (fallback : Option String) (written : String) (id : ShapeId) : Prop where
  isComplete : id.IsComplete
  name_readable : '$' ∉ id.name.toList
  text : let cs := Text.trim Text.isBlank written.toList
    let behind := id.name.toList ++ id.writtenMember
    ('#' ∉ id.ns.toList ∧ cs = id.ns.toList ++ '#' :: behind) ∨
      ('#' ∉ cs ∧ fallback = some id.ns ∧ cs = behind)

/-- The namespace ends at the first `#`; without one, it is the fallback if that is not empty. -/
theorem qualified_eq_some_iff {cs ns rest : List Char} :
    qualified cs fallback = some (ns, rest) ↔
      ('#' ∉ ns ∧ cs = ns ++ '#' :: rest) ∨
      ('#' ∉ cs ∧ ∃ given, fallback = some given ∧ given ≠ "" ∧ given.toList = ns ∧ cs = rest) := by
  unfold qualified
  cases hcut : Text.cut? '#' cs with
  | some parts =>
    obtain ⟨rfl, hbefore⟩ := Text.cut?_eq_some_iff.1 hcut
    have hmem : '#' ∈ parts.1 ++ '#' :: parts.2 := by simp
    show some parts = some (ns, rest) ↔ _
    rw [← hcut, Text.cut?_eq_some_iff]
    simp only [hmem, not_true_eq_false, false_and, or_false]
    exact and_comm
  | none =>
    have hnone := Text.cut?_eq_none_iff.1 hcut
    have hfull : ¬ ('#' ∉ ns ∧ cs = ns ++ '#' :: rest) := by
      rintro ⟨-, rfl⟩
      exact hnone (by simp)
    cases fallback with
    | none => simp [hfull]
    | some given =>
      by_cases hgiven : given = ""
      · simp [hgiven, hfull]
      · simp [hgiven, hfull, hnone]

/-- The name ends where the member begins, at the first `$`. -/
theorem cut?_name_iff {rest : List Char} :
    (match Text.cut? '$' rest with
      | some (name, member) => name = id.name.toList ∧ some (String.ofList member) = id.member
      | none => rest = id.name.toList ∧ none = id.member) ↔
    '$' ∉ id.name.toList ∧ rest = id.name.toList ++ id.writtenMember := by
  obtain ⟨ns, name, member⟩ := id
  cases hcut : Text.cut? '$' rest with
  | none =>
    have hnone := Text.cut?_eq_none_iff.1 hcut
    constructor
    · rintro ⟨rfl, rfl⟩
      exact ⟨hnone, (List.append_nil _).symm⟩
    · rintro ⟨-, rfl⟩
      cases member with
      | none => simp [writtenMember]
      | some member => exact absurd (by simp [writtenMember]) hnone
  | some parts =>
    obtain ⟨rfl, hnone⟩ := Text.cut?_eq_some_iff.1 hcut
    constructor
    · rintro ⟨hname, rfl⟩
      rw [← hname]
      exact ⟨hnone, by simp [writtenMember]⟩
    · rintro ⟨hname, heq⟩
      cases member with
      | none =>
        rw [writtenMember, List.append_nil] at heq
        exact absurd (heq ▸ by simp) hname
      | some member =>
        rw [heq, writtenMember, Text.cut?_append_cons hname] at hcut
        obtain rfl := Option.some.inj hcut
        simp

/-- An id is made of the parts that were read unless one that it must have is empty. -/
theorem ite_eq_ok_iff {ns name : List Char} {member : Option String} {fault : Fault} :
    (if ns.isEmpty || name.isEmpty then Except.error fault
      else .ok (⟨String.ofList ns, String.ofList name, member⟩ : ShapeId)) = .ok id ↔
    (id.IsComplete ∧ ns = id.ns.toList) ∧ name = id.name.toList ∧ member = id.member := by
  constructor
  · intro h
    split at h
    · cases h
    · rename_i hparts
      obtain rfl := Except.ok.inj h
      simp only [Bool.or_eq_true, List.isEmpty_iff, not_or] at hparts
      exact ⟨⟨⟨by simpa using hparts.1, by simpa using hparts.2⟩, by simp⟩, by simp, rfl⟩
  · rintro ⟨⟨hcomplete, rfl⟩, rfl, rfl⟩
    have hns := hcomplete.ns_ne
    have hname := hcomplete.name_ne
    simp [hns, hname]

/-- What a text spells, by the parts that it is cut into. -/
theorem spells_iff : Spells fallback written id ↔ ∃ parts,
    qualified (Text.trim Text.isBlank written.toList) fallback = some parts ∧
    (id.IsComplete ∧ parts.1 = id.ns.toList) ∧
    '$' ∉ id.name.toList ∧ parts.2 = id.name.toList ++ id.writtenMember := by
  constructor
  · intro h
    refine ⟨(_, _), qualified_eq_some_iff.2 ?_, ⟨h.isComplete, rfl⟩, h.name_readable, rfl⟩
    refine h.text.imp_right ?_
    rintro ⟨hnone, hfallback, hcs⟩
    exact ⟨hnone, _, hfallback, h.isComplete.ns_ne, rfl, hcs⟩
  · rintro ⟨⟨_, _⟩, hqualified, ⟨hcomplete, rfl⟩, hname, rfl⟩
    refine ⟨hcomplete, hname, (qualified_eq_some_iff.1 hqualified).imp_right ?_⟩
    rintro ⟨hnone, given, hfallback, -, hgiven, hcs⟩
    rw [String.toList_inj] at hgiven
    exact ⟨hnone, hgiven ▸ hfallback, hcs⟩

/-- **What is read of a text** is the id that it spells. -/
theorem parse_eq_ok_iff : parse written fallback = .ok id ↔ Spells fallback written id := by
  rw [spells_iff, parse]
  cases qualified (Text.trim Text.isBlank written.toList) fallback with
  | none => simp
  | some parts =>
    obtain ⟨ns, rest⟩ := parts
    simp only [Option.some.injEq, exists_eq_left', ← cut?_name_iff]
    cases Text.cut? '$' rest with
    | none => exact ite_eq_ok_iff
    | some named => exact ite_eq_ok_iff

/-- **What is read is readable.** -/
theorem isReadable_of_parse (h : parse written = .ok id) : id.IsReadable := by
  have hspells := parse_eq_ok_iff.1 h
  rcases hspells.text with ⟨hns, -⟩ | ⟨-, hfallback, -⟩
  · exact ⟨hns, hspells.name_readable⟩
  · cases hfallback

end Reading

end ClientGen.ShapeId
