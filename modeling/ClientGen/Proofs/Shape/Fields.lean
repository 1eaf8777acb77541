import ClientGen.Declaration.Structure
import ClientGen.Proofs.Model.Document
import ClientGen.Proofs.Name.Clash

/-!
# The fields of a struct

A struct has a field for every member of its shape, if all of them get different names, and for an
error names that none of its methods has.  If not, the first member whose name is taken clashes with
what took it: a method, or the one member in front of it that has the same name.

## Main definitions

* `Shape.fieldNames` — the names of the fields in the order of the members.
* `Shape.methodNames` — the names that fields cannot have.

## Main results

* `Shape.fields_clash_iff` — when names clash.
* `Shape.exists_of_fields_eq_error` — which clash is reported.
* `Shape.fields_eq` — the fields if there is none.
-/

namespace ClientGen

namespace Shape

variable {shape : Shape}

/-- The names of the fields in the order of the members. -/
def fieldNames (shape : Shape) : List String :=
  shape.members.map Member.fieldName

/-- The names of the methods that a shape declares, which fields cannot have. -/
def methodNames (shape : Shape) : List String :=
  if shape.isError then errorMethods else []

/-- What an error's method is called where it clashes. -/
def methodOwner (shape : Shape) (method : String) : String :=
  "method " ++ shape.name ++ "." ++ method

theorem takenFields_eq (shape : Shape) :
    shape.takenFields = shape.methodNames.map fun method => (method, shape.methodOwner method) := by
  unfold takenFields methodNames
  split <;> rfl

theorem keys_takenFields (shape : Shape) : Entries.keys shape.takenFields = shape.methodNames := by
  rw [takenFields_eq, Entries.keys, List.map_map]
  exact List.map_id _

theorem nodup_methodNames (shape : Shape) : shape.methodNames.Nodup := by
  unfold methodNames
  split
  · decide
  · exact List.nodup_nil

/-! ## Clashes -/

/-- Fields are given names one after another. -/
theorem fieldsFrom_eq (shape : Shape) (taken : List (String × String)) (members : List Member) :
    shape.fieldsFrom taken members =
      match Entries.firstTaken? taken
        (members.map fun member => (member.fieldName, member.id.text)) with
      | some (claim, first) => .error {
          identifier := claim.1
          first
          second := claim.2
          scope := shape.name }
      | none => .ok (members.map fun member => (member.fieldName, member)) := by
  induction members generalizing taken with
  | nil => rfl
  | cons member rest ih =>
    rw [fieldsFrom]
    simp only [List.map_cons, Entries.firstTaken?]
    generalize member.fieldName = name
    cases taken.lookup name with
    | some first => rfl
    | none =>
      dsimp only
      rw [ih]
      cases Entries.firstTaken? (taken ++ [(name, member.id.text)])
        (rest.map fun member => (member.fieldName, member.id.text)) <;> rfl

/-- The claims of the methods and the members, one after another. -/
theorem keys_claims (shape : Shape) (members : List Member) :
    Entries.keys (shape.takenFields
        ++ members.map fun member => (member.fieldName, member.id.text))
      = shape.methodNames ++ members.map Member.fieldName := by
  rw [← keys_takenFields, Entries.keys, List.map_append, List.map_map]
  simp only [Entries.keys, Function.comp_def]

/-- **A struct has one field for every member**, all with different names. -/
theorem fields_eq_ok_iff {named : List (String × Member)} : shape.fields = .ok named ↔
    (shape.methodNames ++ shape.fieldNames).Nodup ∧
      named = shape.members.map fun member => (member.fieldName, member) := by
  have htaken : (Entries.keys shape.takenFields).Nodup := by
    rw [keys_takenFields]
    exact shape.nodup_methodNames
  have hnone := Entries.firstTaken?_eq_none_iff htaken
    (shape.members.map fun member => (member.fieldName, member.id.text))
  rw [keys_claims] at hnone
  rw [fields, fieldsFrom_eq, fieldNames, ← hnone]
  cases Entries.firstTaken? shape.takenFields
    (shape.members.map fun member => (member.fieldName, member.id.text)) with
  | some found => simp
  | none => simp [eq_comm]

theorem fields_eq {named : List (String × Member)} (h : shape.fields = .ok named) :
    named = shape.members.map fun member => (member.fieldName, member) :=
  (fields_eq_ok_iff.1 h).2

/-- **When names clash**: two members have one name, or a member of an error has that of a method. -/
theorem fields_clash_iff : (∃ clash, shape.fields = .error clash) ↔
    ¬ shape.fieldNames.Nodup ∨
      shape.isError = true ∧ ∃ name ∈ shape.fieldNames, name ∈ errorMethods := by
  have hiff : (∃ clash, shape.fields = .error clash)
      ↔ ¬ (shape.methodNames ++ shape.fieldNames).Nodup := by
    cases h : shape.fields with
    | ok named => simpa using (fields_eq_ok_iff.1 h).1
    | error clash =>
      refine iff_of_true ⟨clash, rfl⟩ fun hnodup => ?_
      simp [fields_eq_ok_iff.2 ⟨hnodup, rfl⟩] at h
  rw [hiff, List.nodup_append]
  unfold methodNames
  split
  · rename_i herror
    simp only [herror, true_and]
    have hmethods : errorMethods.Nodup := by decide
    simp only [hmethods, true_and, not_and_or]
    refine or_congr Iff.rfl ?_
    constructor
    · intro h
      push Not at h
      obtain ⟨name, hname, _, hmem, rfl⟩ := h
      exact ⟨name, hmem, hname⟩
    · rintro ⟨name, hmem, hname⟩ h
      exact h name hname name hmem rfl
  · rename_i herror
    simp [herror]

/-- **The clash** is that of the first member whose name is taken, with what took it: a method, or
the one member in front of it that has the same name. -/
theorem exists_of_fields_eq_error {clash : Collision} (h : shape.fields = .error clash) :
    ∃ before member after first, shape.members = before ++ member :: after ∧
      (shape.methodNames ++ before.map Member.fieldName).Nodup ∧
      (member.fieldName ∈ shape.methodNames ∧ first = shape.methodOwner member.fieldName ∨
        ∃ earlier ∈ before, earlier.fieldName = member.fieldName ∧ first = earlier.id.text) ∧
      clash = {
        identifier := member.fieldName
        first
        second := member.id.text
        scope := shape.name } := by
  rw [fields, fieldsFrom_eq] at h
  split at h
  · rename_i claim first hfound
    obtain ⟨front, back, hclaims, hnodup, howner⟩ := Entries.exists_of_firstTaken?
      (shape.keys_takenFields ▸ shape.nodup_methodNames) hfound
    obtain ⟨before, rest, hmembers, rfl, hrest⟩ := List.map_eq_append_iff.1 hclaims
    obtain ⟨member, after, rfl, rfl, -⟩ := List.map_eq_cons_iff.1 hrest
    dsimp only at h howner
    refine ⟨before, member, after, first, hmembers, ?_, ?_, (Except.error.inj h).symm⟩
    · rwa [keys_claims] at hnodup
    · rcases List.mem_append.1 howner with howner | howner
      · rw [takenFields_eq] at howner
        obtain ⟨method, hmethod, heq⟩ := List.mem_map.1 howner
        obtain ⟨hname, hfirst⟩ := Prod.mk.inj heq
        rw [hname] at hmethod hfirst
        exact .inl ⟨hmethod, hfirst.symm⟩
      · obtain ⟨earlier, hearlier, heq⟩ := List.mem_map.1 howner
        obtain ⟨hname, hfirst⟩ := Prod.mk.inj heq
        exact .inr ⟨earlier, hearlier, hname, hfirst.symm⟩
  · simp at h

end Shape

end ClientGen
