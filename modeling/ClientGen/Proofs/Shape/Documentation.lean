import ClientGen.Proofs.Shape.Comparison

/-!
# Shapes without documentation

Shapes and members are documented by a trait, and values of enums inside the trait that makes the
enum.  Taking all of it away leaves what a shape is for its code, so two shapes that are left the
same look alike.

## Main definitions

* `Shape.undocumented` — a shape without documentation.
* `Shape.SameUndocumented` — two shapes are the same but for documentation.

## Main results

* `Shape.SameUndocumented.alike` — such shapes have the same code.
-/

namespace ClientGen

/-! ## Without documentation -/

/-- The definitions of enum values without the documentation in them. -/
def EnumValue.undocumentedAll : Json → Json
  | .arr nodes => .arr (nodes.map undocumented)
  | value => value

/-- Traits without documentation, be it a trait of its own or a part of the values of an enum. -/
def Traits.undocumented (traits : Traits) : Traits :=
  (traits.filter (·.1 != Trait.documentation)).map fun entry =>
    (entry.1, if entry.1 == Trait.enum then EnumValue.undocumentedAll entry.2 else entry.2)

/-- A member without documentation. -/
def Member.undocumented (member : Member) : Member :=
  { member with traits := Traits.undocumented member.traits }

/-- A shape without documentation, on itself and on its members. -/
def Shape.undocumented (shape : Shape) : Shape :=
  { shape with
    traits := Traits.undocumented shape.traits
    members := shape.members.map Member.undocumented }

/-- Two shapes are the same but for documentation. -/
def Shape.SameUndocumented (shape shape' : Shape) : Prop :=
  shape.undocumented = shape'.undocumented

/-! ## What is read -/

theorem Traits.lookup_undocumented (traits : Traits) {trait : String}
    (h : trait ≠ Trait.documentation) :
    (Traits.undocumented traits).lookup trait = (traits.lookup trait).map fun value =>
      if trait == Trait.enum then EnumValue.undocumentedAll value else value := by
  rw [Traits.undocumented, lookup_map_of_key fun key value =>
    if key == Trait.enum then EnumValue.undocumentedAll value else value, lookup_filter_of_ne h]

namespace EnumValue

/-- Definitions that are the same without documentation define values that look alike, or are faulty
alike. -/
theorem ofNode_agree {node node' : Json} (h : undocumented node = undocumented node') :
    Agree (Failure.Alike .code) (Alike .code) (ofNode node) (ofNode node') := by
  have hsame : ∀ {node node' : Json}, node = node' →
      Agree (Failure.Alike .code) (Alike .code) (ofNode node) (ofNode node') := by
    rintro node _ rfl
    exact (Failure.Alike.agree_self _).imp (fun _ _ h => h) fun _ _ heq => heq ▸ ⟨rfl, rfl, rfl⟩
  cases node with
  | obj fields =>
    cases node' with
    | obj fields' =>
      have hfields : fields.filter (·.1 != "documentation")
          = fields'.filter (·.1 != "documentation") := Json.obj.inj h
      have hlookup : ∀ key, key ≠ "documentation" → fields.lookup key = fields'.lookup key := by
        intro key hkey
        rw [← lookup_filter_of_ne hkey fields, hfields, lookup_filter_of_ne hkey]
      simp only [ofNode, hlookup "value" (by decide), hlookup "tags" (by decide),
        hlookup "name" (by decide), hlookup "deprecated" (by decide)]
      split
      · exact .error (congrArg (fun node => Failure.model (.enumValueMissing node)) h)
      · refine (Failure.Alike.agree_self _).bind fun tags _ heq => ?_
        subst heq
        exact .ok ⟨rfl, rfl, rfl⟩
    | _ => exact absurd h (by simp [undocumented])
  | _ =>
    cases node' with
    | obj fields' => exact absurd h (by simp [undocumented])
    | _ => exact hsame h

theorem elements_agree {value value' : Json} (h : undocumentedAll value = undocumentedAll value') :
    Agree (Failure.Alike .code)
      (List.Forall₂ fun node node' => undocumented node = undocumented node')
      (formed value.elements) (formed value'.elements) := by
  have hsame : ∀ {value value' : Json}, value = value' → Agree (Failure.Alike .code)
      (List.Forall₂ fun node node' => undocumented node = undocumented node')
      (formed value.elements) (formed value'.elements) := by
    rintro value _ rfl
    exact (Failure.Alike.agree_self _).imp (fun _ _ h => h) fun _ _ heq =>
      heq ▸ List.forall₂_same.2 fun _ _ => rfl
  cases value with
  | arr nodes =>
    cases value' with
    | arr nodes' =>
      have hnodes : nodes.map undocumented = nodes'.map undocumented := Json.arr.inj h
      exact .ok (map_eq_map_iff_forall₂.1 hnodes)
    | _ => exact absurd h (by simp [undocumentedAll])
  | _ =>
    cases value' with
    | arr nodes' => exact absurd h (by simp [undocumentedAll])
    | _ => exact hsame h

end EnumValue

namespace Shape.SameUndocumented

variable {shape shape' : Shape} (h : shape.SameUndocumented shape')
include h

theorem id : shape.id = shape'.id :=
  show shape.undocumented.id = shape'.undocumented.id from congrArg Shape.id h

theorem type : shape.type = shape'.type :=
  show shape.undocumented.type = shape'.undocumented.type from congrArg Shape.type h

theorem members : List.Forall₂ (fun member member' : Member => member.undocumented
    = member'.undocumented) shape.members shape'.members :=
  map_eq_map_iff_forall₂.1 (show shape.undocumented.members = shape'.undocumented.members from
    congrArg Shape.members h)

theorem targets : shape.targets = shape'.targets := by
  have htargets : ∀ shape : Shape, shape.undocumented.targets = shape.targets := by
    intro shape
    have hmembers : Member.target ∘ Member.undocumented = Member.target := rfl
    simp only [Shape.targets, Shape.undocumented, List.map_map, hmembers]
  rw [← htargets, ← htargets shape', h]

/-- The value of a trait is the same but for documentation in it. -/
theorem map_trait? {trait : String} (htrait : trait ≠ Trait.documentation) :
    (shape.trait? trait).map (fun value =>
        if trait == Trait.enum then EnumValue.undocumentedAll value else value)
      = (shape'.trait? trait).map fun value =>
        if trait == Trait.enum then EnumValue.undocumentedAll value else value := by
  have htraits : Traits.undocumented shape.traits = Traits.undocumented shape'.traits :=
    congrArg Shape.traits h
  rw [Shape.trait?, Shape.trait?, ← Traits.lookup_undocumented _ htrait, htraits,
    Traits.lookup_undocumented _ htrait]

theorem hasTrait {trait : String} (htrait : trait ≠ Trait.documentation) :
    shape.hasTrait trait = shape'.hasTrait trait := by
  have hsome := congrArg Option.isSome (h.map_trait? htrait)
  rw [Option.isSome_map, Option.isSome_map] at hsome
  rwa [Shape.hasTrait, Shape.hasTrait, has_eq_isSome_lookup, has_eq_isSome_lookup]

theorem enumValues_agree : Agree (Failure.Alike .code) (List.Forall₂ (EnumValue.Alike .code))
    shape.enumValues shape'.enumValues := by
  have hexpect : Agree (Failure.Alike .code)
      (fun value value' => EnumValue.undocumentedAll value = EnumValue.undocumentedAll value')
      (shape.expectTrait Trait.enum) (shape'.expectTrait Trait.enum) := by
    have htrait := h.map_trait? (by decide : Trait.enum ≠ Trait.documentation)
    unfold expectTrait
    rw [h.id]
    generalize shape.trait? Trait.enum = value, shape'.trait? Trait.enum = value' at htrait
    cases value with
    | none =>
      obtain rfl : value' = none := by simpa [eq_comm] using htrait
      exact .error rfl
    | some value =>
      cases value' with
      | none => simp at htrait
      | some value' => exact .ok (Option.some.inj htrait)
  refine hexpect.bind fun value value' hvalue => ?_
  refine (EnumValue.elements_agree hvalue).bind fun nodes nodes' hnodes => ?_
  exact Agree.mapM hnodes fun _ _ _ _ hnode => EnumValue.ofNode_agree hnode

/-- **Shapes that are the same but for documentation have the same code.** -/
theorem alike : shape.Alike .code shape' where
  id := h.id
  type := h.type
  members := h.members.imp fun member member' hmember => {
    name := show member.undocumented.name = member'.undocumented.name from congrArg _ hmember
    container := show member.undocumented.container = member'.undocumented.container from
      congrArg _ hmember
    target := show member.undocumented.target = member'.undocumented.target from congrArg _ hmember
    documentation := rfl }
  trait? := by
    intro trait hdocs henum
    have hvalue := h.map_trait? hdocs
    simpa [henum] using hvalue
  hasEnum := h.hasTrait (by decide)
  enumValues := h.enumValues_agree
  documentation := rfl

end Shape.SameUndocumented

end ClientGen
