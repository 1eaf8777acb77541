import ClientGen.Generation.Generator
import ClientGen.Proofs.Agreement
import ClientGen.Proofs.Writer.View
import ClientGen.Shape.EnumValue

/-!
# Shapes that look alike

Two shapes look alike if a run makes the same of them as far as a view shows it: they have the same
id and type, members of the same names and targets, the same traits but for documentation, and the
same enum values.  What a run reads from shapes that look alike is then the same: their kind, the
names of their fields, the labels of their values.

## Main definitions

* `Shape.Alike`, `Member.Alike`, `EnumValue.Alike` — two shapes, members, values look alike.

## Main results

* `Shape.Alike.fields_agree` — the fields of two structures have the same names, or clash alike.
* `EnumValue.labels_agree` — the labels of alike values are the same, or clash alike.
-/

namespace ClientGen

variable {view : View}

/-- A computation agrees with itself. -/
theorem Failure.Alike.agree_self {α : Type} (x : Except Failure α) :
    Agree (Failure.Alike view) Eq x x := by
  cases x with
  | ok a => exact .ok rfl
  | error failure => exact .error rfl

/-! ## Values of enums -/

namespace EnumValue

/-- Two values of enums differ at most in a documentation that is not seen. -/
structure Alike (view : View) (first second : EnumValue) : Prop where
  value : first.value = second.value
  name : first.name = second.name
  documentation : view.documentation first.documentation = view.documentation second.documentation

variable {typeName : String}

theorem Alike.label {value value' : EnumValue} (h : Alike view value value') :
    value.label typeName = value'.label typeName := by
  rw [EnumValue.label, EnumValue.label, source, source, h.name, h.value]

theorem Alike.owner {value value' : EnumValue} (h : Alike view value value') :
    value.owner = value'.owner := by
  rw [EnumValue.owner, EnumValue.owner, h.value]

/-- Two labelled values have the same label and look alike. -/
def AlikeLabelled (view : View) (labelled labelled' : String × EnumValue) : Prop :=
  labelled.1 = labelled'.1 ∧ labelled.2.Alike view labelled'.2

theorem labelsFrom_agree {values values' : List EnumValue}
    (h : List.Forall₂ (Alike view) values values') (taken : List (String × String)) :
    Agree (Failure.Alike view) (List.Forall₂ (AlikeLabelled view))
      (labelsFrom typeName taken values) (labelsFrom typeName taken values') := by
  induction h generalizing taken with
  | nil => exact .ok .nil
  | @cons value value' values values' hvalue _ ih =>
    rw [labelsFrom, labelsFrom, hvalue.label, hvalue.owner]
    refine (Failure.Alike.agree_self _).bind ?_
    rintro label _ rfl
    split
    · exact .error rfl
    · refine (ih _).bind fun labels labels' hlabels => ?_
      exact .ok (.cons ⟨rfl, hvalue⟩ hlabels)

/-- **Labels of values that look alike** are the same, or clash in the same way. -/
theorem labels_agree {values values' : List EnumValue}
    (h : List.Forall₂ (Alike view) values values') :
    Agree (Failure.Alike view) (List.Forall₂ (AlikeLabelled view)) (labels typeName values)
      (labels typeName values') :=
  labelsFrom_agree h _

end EnumValue

/-! ## Members -/

/-- Two members differ at most in traits that no declaration reads and in a documentation that is
not seen. -/
structure Member.Alike (view : View) (member member' : Member) : Prop where
  name : member.name = member'.name
  container : member.container = member'.container
  target : member.target = member'.target
  documentation :
    view.documentation member.documentation = view.documentation member'.documentation

theorem Member.Alike.fieldName {member member' : Member} (h : member.Alike view member') :
    member.fieldName = member'.fieldName := by
  rw [Member.fieldName, Member.fieldName, h.name]

theorem Member.Alike.id {member member' : Member} (h : member.Alike view member') :
    member.id = member'.id := by
  rw [Member.id, Member.id, h.container, h.name]

/-! ## Shapes -/

namespace Shape

/-- Two shapes look alike: a declaration makes the same of both, as far as it is seen. -/
structure Alike (view : View) (shape shape' : Shape) : Prop where
  id : shape.id = shape'.id
  type : shape.type = shape'.type
  members : List.Forall₂ (Member.Alike view) shape.members shape'.members
  trait? : ∀ trait, trait ≠ Trait.documentation → trait ≠ Trait.enum →
    shape.trait? trait = shape'.trait? trait
  hasEnum : shape.hasTrait Trait.enum = shape'.hasTrait Trait.enum
  enumValues : Agree (Failure.Alike view) (List.Forall₂ (EnumValue.Alike view)) shape.enumValues
    shape'.enumValues
  documentation : view.documentation shape.documentation = view.documentation shape'.documentation

namespace Alike

variable {shape shape' : Shape} (h : shape.Alike view shape')
include h

theorem name : shape.name = shape'.name := by
  rw [Shape.name, Shape.name, h.id]

theorem typeName : shape.typeName = shape'.typeName := by
  rw [Shape.typeName, Shape.typeName, h.name]

theorem isBuiltin : shape.isBuiltin = shape'.isBuiltin := by
  rw [Shape.isBuiltin, Shape.isBuiltin, h.id]

theorem isEnum : shape.isEnum = shape'.isEnum := by
  rw [Shape.isEnum, Shape.isEnum, h.type, h.hasEnum]

theorem isError : shape.isError = shape'.isError := by
  have herror : shape.hasTrait Trait.error = shape'.hasTrait Trait.error := by
    rw [hasTrait, hasTrait, has_eq_isSome_lookup, has_eq_isSome_lookup]
    exact congrArg Option.isSome (h.trait? Trait.error (by decide) (by decide))
  rw [Shape.isError, Shape.isError, h.type, herror]

theorem isAggregate : shape.isAggregate = shape'.isAggregate := by
  rw [Shape.isAggregate, Shape.isAggregate, h.type]

theorem takes (generator : Generator) : generator.takes shape = generator.takes shape' := by
  cases generator <;> simp only [Generator.takes, h.type, h.isEnum, h.isAggregate]

/-! ### Fields -/

theorem fieldsFrom_agree {members members' : List Member}
    (hmembers : List.Forall₂ (Member.Alike view) members members')
    (taken : List (String × String)) :
    Agree Eq (List.Forall₂ fun field field' => field.1 = field'.1 ∧ field.2.Alike view field'.2)
      (shape.fieldsFrom taken members) (shape'.fieldsFrom taken members') := by
  induction hmembers generalizing taken with
  | nil => exact .ok .nil
  | @cons member member' members members' hmember _ ih =>
    rw [fieldsFrom, fieldsFrom, hmember.fieldName, hmember.id, h.name]
    split
    · exact .error rfl
    · refine (ih _).bind fun fields fields' hfields => ?_
      exact .ok (.cons ⟨rfl, hmember⟩ hfields)

/-- **The fields of structures that look alike** have the same names, or clash in the same way. -/
theorem fields_agree :
    Agree Eq (List.Forall₂ fun field field' => field.1 = field'.1 ∧ field.2.Alike view field'.2)
      shape.fields shape'.fields := by
  have htaken : shape.takenFields = shape'.takenFields := by
    rw [takenFields, takenFields, h.isError, h.name]
  rw [fields, fields, htaken]
  exact h.fieldsFrom_agree h.members _

end Alike

end Shape

end ClientGen
