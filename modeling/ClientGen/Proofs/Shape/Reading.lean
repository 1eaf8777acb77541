import ClientGen.Proofs.Name.Sanitizer
import ClientGen.Proofs.Shape.Id

/-!
# Ids are read back from their text

What is read of a text is its parts, with the white space around it dropped, and the text of an id
puts the parts together again.  One part is lost on the way: an empty member name is read, but not
written.  So an id is read back from its text unless its member name is empty, and two ids that were
read have one text only if they are the same or differ by an empty member name and none.

## Main definitions

* `ShapeId.DifferByEmptyMember` — two ids that differ by an empty member name and none.

## Main results

* `trim_eq_of_parse` — an id that was read has all characters of its text.
* `parse_text_iff` — which ids are read back, and which are told apart by their text.
-/

namespace ClientGen.ShapeId

variable {written : String} {id : ShapeId}

/-! ## Parts -/

/-- The member is written as it was read unless its name is empty. -/
theorem memberText_eq_writtenMember (h : id.member ≠ some "") :
    id.memberText = id.writtenMember := by
  obtain ⟨ns, name, _ | member⟩ := id
  · rfl
  · have hmember : member ≠ "" := fun heq => h (by rw [heq])
    simp [memberText, writtenMember, hmember]

/-- **What is read of a text are all its characters**, up to the white space around it. -/
theorem trim_eq_of_parse (h : parse written = .ok id) :
    Text.trim Text.isBlank written.toList
      = id.ns.toList ++ '#' :: (id.name.toList ++ id.writtenMember) := by
  rcases (parse_eq_ok_iff.1 h).text with ⟨-, htext⟩ | ⟨-, hfallback, -⟩
  · exact htext
  · cases hfallback

/-- White space around a text makes no difference to what is read. -/
theorem parse_congr {other : String}
    (h : Text.trim Text.isBlank written.toList = Text.trim Text.isBlank other.toList) :
    parse written = parse other := by
  rw [parse, parse, h]

/-! ## Reading back -/

/-- **An id is read back from its text** exactly if its member name is not empty. -/
theorem parse_text_eq_ok_iff (h : parse written = .ok id) :
    parse id.text = .ok id ↔ id.member ≠ some "" := by
  constructor
  · intro hback hmember
    -- With an empty member name the text would have to hold a `$` that it does not.
    have hshort : id.memberText = [] := by simp [memberText, hmember]
    have hlong : id.writtenMember = ['$'] := by simp [writtenMember, hmember]
    have hle := Text.length_trim_le Text.isBlank id.text.toList
    rw [trim_eq_of_parse hback, toList_text, hshort, hlong] at hle
    simp only [List.length_append, List.length_cons, List.length_nil] at hle
    omega
  · intro hmember
    have htext : id.text.toList = Text.trim Text.isBlank written.toList := by
      rw [trim_eq_of_parse h, toList_text, memberText_eq_writtenMember hmember]
    rw [← h]
    exact parse_congr (by rw [htext, Text.trim_trim])

/-- The ids differ by an empty member name and none. -/
def DifferByEmptyMember (a b : ShapeId) : Prop :=
  a.ns = b.ns ∧ a.name = b.name ∧
    (a.member = none ∧ b.member = some "" ∨ a.member = some "" ∧ b.member = none)

/-- **Reading and writing ids.**  An id that was read is read back from its text exactly if its
member name is not empty, and two such ids are told apart by their texts exactly if they do not
differ by an empty member name and none. -/
theorem parse_text_iff {first second : String} {a b : ShapeId} (ha : parse first = .ok a)
    (hb : parse second = .ok b) :
    (parse a.text = .ok a ↔ a.member ≠ some "") ∧
      ((a = b ↔ a.text = b.text) ↔ ¬ DifferByEmptyMember a b) := by
  have htext := text_eq_text_iff (isReadable_of_parse ha) (isReadable_of_parse hb)
  refine ⟨parse_text_eq_ok_iff ha, ?_, ?_⟩
  · rintro hiff ⟨hns, hname, hmember⟩
    have hsame : a = b := by
      apply hiff.2
      apply htext.2
      refine ⟨hns, hname, ?_⟩
      rcases hmember with ⟨hnone, hempty⟩ | ⟨hempty, hnone⟩ <;> simp [hnone, hempty]
    subst hsame
    rcases hmember with ⟨hnone, hempty⟩ | ⟨hempty, hnone⟩ <;> simp [hnone] at hempty
  · intro hnot
    refine ⟨fun h => by rw [h], fun h => ?_⟩
    obtain ⟨hns, hname, hmember⟩ := htext.1 h
    obtain ⟨ns, name, _ | member⟩ := a <;> obtain ⟨ns', name', _ | member'⟩ := b <;>
      obtain rfl : ns = ns' := hns <;> obtain rfl : name = name' := hname
    · rfl
    · exact absurd ⟨rfl, rfl, .inl ⟨rfl, congrArg some (Eq.symm hmember)⟩⟩ hnot
    · exact absurd ⟨rfl, rfl, .inr ⟨congrArg some hmember, rfl⟩⟩ hnot
    · obtain rfl : member = member' := hmember
      rfl

/-- A member id with white space around it, and the id of its shape. -/
theorem parse_text_iff_city :
    parse " a.b#City$name\n" = .ok ⟨"a.b", "City", some "name"⟩ ∧
      parse "a.b#City" = .ok ⟨"a.b", "City", none⟩ ∧
      parse (ShapeId.text ⟨"a.b", "City", some "name"⟩) = .ok ⟨"a.b", "City", some "name"⟩ ∧
      ShapeId.text ⟨"a.b", "City", some "name"⟩ ≠ ShapeId.text ⟨"a.b", "City", none⟩ := by
  have hmember : parse " a.b#City$name\n" = .ok ⟨"a.b", "City", some "name"⟩ := by decide
  have hshape : parse "a.b#City" = .ok ⟨"a.b", "City", none⟩ := by decide
  obtain ⟨hback, htext⟩ := parse_text_iff hmember hshape
  refine ⟨hmember, hshape, hback.2 (by decide), fun heq => ?_⟩
  exact absurd ((htext.2 (by simp [DifferByEmptyMember])).2 heq) (by decide)

/-- An empty member name is read, but it is not written: the id is read back as that of its shape,
which has the same text. -/
theorem parse_text_ne :
    ∃ member shape, parse "a#b$" = .ok member ∧ parse "a#b" = .ok shape ∧ member ≠ shape ∧
      member.text = shape.text ∧ parse member.text = .ok shape :=
  ⟨⟨"a", "b", some ""⟩, ⟨"a", "b", none⟩, by decide⟩

end ClientGen.ShapeId
