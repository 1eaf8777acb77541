import ClientGen.Proofs.Generation.Inventory

/-!
# References of generated structs

The fields of a generated struct are the members of its shape, and the type of a field ends in the
name of the type at the end of the member's elements.  The shape of that type is reached from the
service as the struct is, so a run that succeeds has declared it, unless it is built in: shapes of
the prelude's namespace are referred to like all others, but no run declares them.

## Main definitions

* `Step.struct?`, `Outline.structs` — the structs of a unit with their fields.
* `Context.IsFieldOf` — a field has the name and the type of a member.

## Main results

* `Run.references_declared` — every type that a field refers to and that is not built in is
  declared.
-/

namespace ClientGen

/-! ## Reading -/

namespace Step

/-- The field that a line of a struct declares, with the symbol of its type. -/
def field? : Step → Option (String × Symbol)
  | .write (.parts [.text name, .text " ", .pointer type]) => some (name, type)
  | _ => none

/-- The struct that a step at the top of a unit declares, with its fields. -/
def struct? : Step → Option (String × List (String × Symbol))
  | .block opening _ body =>
    match opening.texts with
    | ["type ", name, " struct \x7b"] => some (name, body.filterMap field?)
    | _ => none
  | _ => none

/-- A struct that is read with its fields is a declaration of a struct. -/
theorem declared?_of_struct? {step : Step} {found : String × List (String × Symbol)}
    (h : struct? step = some found) : declared? step = some (.struct found.1) := by
  cases step with
  | block opening closing body =>
    simp only [struct?] at h
    split at h
    · rename_i name htexts
      obtain rfl := Option.some.inj h
      simp only [declared?, htexts]
    · simp at h
  | _ => simp [struct?] at h

theorem filterMap_struct?_eq_nil {steps : List Step} (h : steps.filterMap declared? = []) :
    steps.filterMap struct? = [] := by
  rw [List.filterMap_eq_nil_iff] at h ⊢
  intro step hstep
  cases hfound : struct? step with
  | none => rfl
  | some found =>
    have hdeclared := declared?_of_struct? hfound
    rw [h step hstep] at hdeclared
    simp at hdeclared

end Step

/-- The structs in the unit of a path. -/
def Outline.structs (outline : Outline) (path : String) : List (String × List (String × Symbol)) :=
  (outline.stepsAt path).filterMap Step.struct?

/-- The field has the name and the type of the member. -/
def Context.IsFieldOf (context : Context) (member : Member) (field : String × Symbol) : Prop :=
  field.1 = member.fieldName ∧ context.memberType member = .ok field.2

/-! ## Fields -/

namespace Declaration

variable {context : Context} {shape : Shape}

theorem field?_docs (documentation : Json) :
    (context.docs documentation).filterMap Step.field? = [] := by
  unfold Context.docs
  split <;> rfl

theorem field?_fieldSteps (isFirst : Bool) (field : Field) :
    (fieldSteps context isFirst field).filterMap Step.field? = [(field.name, field.type)] := by
  have hparting : (if !isFirst && context.settings.hasComments && field.documentation.truthy
      then [.blank] else []).filterMap Step.field? = [] := by
    split <;> rfl
  simp only [fieldSteps, List.filterMap_append, hparting, field?_docs]
  rfl

theorem field?_fieldsSteps (fields : List Field) :
    (fieldsSteps context { found := fields }).filterMap Step.field?
      = fields.map fun field => (field.name, field.type) := by
  cases fields with
  | nil => rfl
  | cons first rest =>
    have hrest : (rest.flatMap (fieldSteps context false)).filterMap Step.field?
        = rest.map fun field => (field.name, field.type) := by
      induction rest with
      | nil => rfl
      | cons field rest ih =>
        rw [List.flatMap_cons, List.filterMap_append, field?_fieldSteps, ih]
        rfl
    simp [fieldsSteps, List.filterMap_append, field?_fieldSteps, hrest]

theorem struct?_structSteps (symbol : Symbol) (body : List Step) :
    (structSteps context shape symbol body).filterMap Step.struct?
      = [(symbol.name, body.filterMap Step.field?)] := by
  have hmethods : (if shape.isError then errorMethods context shape symbol else []).filterMap
      Step.struct? = [] := by
    split
    · exact Step.filterMap_struct?_eq_nil (declared_errorMethods symbol)
    · rfl
  have hremark : (if shape.type == .union then
      context.comment "Only one member of this union may be set." else []).filterMap
      Step.struct? = [] := by
    split
    · exact Step.filterMap_struct?_eq_nil (context.filterMap_declared?_comment _)
    · rfl
  have hdocs : (context.docs symbol.documentation).filterMap Step.struct? = [] :=
    Step.filterMap_struct?_eq_nil (context.filterMap_declared?_docs _)
  simp only [structSteps, List.filterMap_append, hmethods, hremark, hdocs]
  simp [List.filterMap_cons, Step.struct?, Phrase.texts, Part.render, Symbol.name_relativeTo]

end Declaration

/-- **The fields of a struct are the members of its shape.** -/
theorem Context.forall₂_isFieldOf {context : Context} {shape : Shape}
    {named : List (String × Member)} {fields : List Declaration.Field}
    (hnamed : shape.fields = .ok named) (hfields : named.mapM context.fieldOf = .ok fields) :
    List.Forall₂ context.IsFieldOf shape.members
      (fields.map fun field => (field.name, field.type)) := by
  have htyped := mapM_eq_ok.1 hfields
  rw [Shape.fields_eq hnamed, List.forall₂_map_left_iff] at htyped
  rw [List.forall₂_map_right_iff]
  apply htyped.imp
  intro member field h
  obtain ⟨type, htype, h⟩ := bind_eq_ok.1 h
  obtain rfl := pure_eq_ok.1 h
  refine ⟨?_, htype⟩
  dsimp only

/-! ## Closedness -/

/-- Inside the package of types its types go by their names alone. -/
theorem Symbol.relativeTo_typeSymbol (modulePath : String) (shape : Shape) :
    (shape.typeSymbol modulePath).relativeTo (some (typesPath modulePath))
      = .named {
          name := shape.typeName
          dependency := Dependency.own (typesPath modulePath)
          isPointer := !shape.isEnum
          documentation := shape.documentation
          unit := shape.typeUnit } := by
  simp [Shape.typeSymbol, Shape.declaredType, relativeTo, Dependency.own, Dependency.of]

/-- A type stands in the unit of a path as a name behind the signs of slices, maps and pointers. -/
def Outline.Mentions (outline : Outline) (path : String) (type : Symbol) (name : String) : Prop :=
  Part.render (outline.unit path).imports.ownPath (.pointer type) = type.wrapping ++ name

/-- A unit of the package of types declares a type of the name. -/
def Outline.DeclaresType (outline : Outline) (name : String) : Prop :=
  ∃ path ∈ [typesUnit, errorsUnit, enumsUnit],
    .struct name ∈ outline.declared path ∨ .type name ∈ outline.declared path

namespace Outline

variable {model : Model} {settings : Settings} {integrations : IntegrationRegistry}
  {outline : Outline} {manifest : Manifest}

/-- The structs of the package of types are those of structures and unions. -/
theorem exists_shape_of_mem_structs (h : Outline.of model settings integrations = .ok outline)
    {path : String} (hpath : path ∈ [typesUnit, errorsUnit])
    {struct : String × List (String × Symbol)} (hmem : struct ∈ outline.structs path) :
    ∃ shape ∈ outline.shapes, shape.isAggregate = true ∧ struct.1 = outline.context.nameOf shape ∧
      List.Forall₂ outline.context.IsFieldOf shape.members struct.2 := by
  obtain ⟨step, hstep, hstruct⟩ := List.mem_filterMap.1 hmem
  obtain ⟨passage, hfiltered, hin⟩ := List.mem_flatMap.1 hstep
  obtain ⟨hpassage, heq⟩ := List.mem_filter.1 hfiltered
  have hread : struct ∈ passage.steps.filterMap Step.struct? :=
    List.mem_filterMap.2 ⟨step, hin, hstruct⟩
  rw [← beq_iff_eq.1 heq] at hpath
  cases source_of_mem h hpassage with
  | @shape shape _ hshape hfor =>
    cases hfor with
    | service => simp [clientUnit, typesUnit, errorsUnit] at hpath
    | enum => simp [enumsUnit, typesUnit, errorsUnit] at hpath
    | aggregate type named fields found typed =>
      rw [Declaration.struct?_structSteps, List.mem_singleton, Declaration.field?_fieldsSteps]
        at hread
      have htype : shape.isType = true := by simp [Shape.isType, type]
      refine ⟨shape, hshape, type, ?_, ?_⟩
      · rw [hread, Context.nameOf_of_isType htype, Shape.name_typeSymbol]
      · rw [hread]
        exact Context.forall₂_isFieldOf found typed
  | serializer => simp [serializersUnit, typesUnit, errorsUnit] at hpath
  | deserializer => simp [deserializersUnit, typesUnit, errorsUnit] at hpath
  | package => simp [Passage.ofPackage, docUnit, typesUnit, errorsUnit] at hpath

theorem packagePath_of_mem {path : String} (h : path ∈ [typesUnit, errorsUnit]) :
    outline.packagePath path = typesPath outline.context.settings.modulePath := by
  obtain ⟨htypes, herrors, -⟩ := Units.directory_units
  simp only [List.mem_cons, List.not_mem_nil, or_false] at h
  rcases h with rfl | rfl
  · exact packagePath_of_types htypes
  · exact packagePath_of_types herrors

/-- The type at the end of a member's elements is what its field mentions. -/
theorem Written.mentions (h : outline.Written manifest) {path : String}
    (hpath : path ∈ [typesUnit, errorsUnit]) {member : Member} {type : Symbol} {target last : Shape}
    (htype : outline.context.memberType member = .ok type)
    (htarget : outline.context.model.shape? member.target = some target)
    (hends : outline.context.model.EndsIn target last) (hlast : last.isType = true) :
    outline.Mentions path type last.typeName := by
  obtain ⟨_, hfound, hsymbol⟩ := bind_eq_ok.1 htype
  obtain rfl := Option.some.inj (htarget.symm.trans (Model.expect_eq_ok.1 hfound))
  -- The core of the field's type is the type itself, which goes by its name in its own package.
  have hcore := Model.core_of_endsIn hends hlast hsymbol
  have hinside := Symbol.core_relativeTo
    (some (typesPath outline.context.settings.modulePath)) type
  rw [hcore] at hinside
  have hqualified : Symbol.qualified (type.relativeTo
      (some (typesPath outline.context.settings.modulePath))).core = last.typeName := by
    rw [Symbol.relativeTo_typeSymbol] at hinside
    rw [Symbol.named.inj hinside, Symbol.qualified]
    simp
  rw [Mentions, h.ownPath_unit, packagePath_of_mem hpath, Part.render, Symbol.pointer_eq,
    Symbol.wrapping_relativeTo, hqualified]

/-- A shape of the run that the package of types declares. -/
theorem DeclaresShapes.declaresType (h : outline.DeclaresShapes) {shape : Shape}
    (hshape : shape ∈ outline.shapes) (htype : shape.isType = true) :
    outline.DeclaresType shape.typeName := by
  have hname : outline.context.nameOf shape = shape.typeName := Context.nameOf_of_isType htype
  by_cases henum : shape.isEnum = true
  · refine ⟨enumsUnit, by simp, .inr ?_⟩
    rw [h.enums, List.mem_flatMap]
    exact ⟨shape, List.mem_filter.2 ⟨hshape, henum⟩, by simp [hname]⟩
  · have haggregate : shape.isAggregate = true := by simpa [Shape.isType, henum] using htype
    by_cases herror : shape.isError = true
    · refine ⟨errorsUnit, by simp, .inl ?_⟩
      rw [h.errors, List.mem_map]
      exact ⟨shape, List.mem_filter.2 ⟨hshape, herror⟩, by rw [hname]⟩
    · refine ⟨typesUnit, by simp, .inl ?_⟩
      rw [h.types, List.mem_map]
      exact ⟨shape, List.mem_filter.2 ⟨hshape, by simp [Shape.isPlain, haggregate, herror]⟩,
        by rw [hname]⟩

end Outline

namespace Run

variable {model : Model} {settings : Settings} {integrations : IntegrationRegistry}
  {manifest : Manifest}

/-- **References are closed.**  The fields of every generated struct are the members of its shape.
Where the elements of a member's target end in a structure, a union or an enum, the field mentions
the name of its type, and unless that type is built in, a unit of the package of types declares
it. -/
theorem references_declared (h : (Run.of model settings integrations).result = .ok manifest) :
    ∃ outline, Outline.of model settings integrations = .ok outline ∧ outline.Written manifest ∧
      ∀ path ∈ [typesUnit, errorsUnit], ∀ struct ∈ outline.structs path,
        ∃ shape ∈ outline.shapes, shape.isAggregate = true ∧
          struct.1 = outline.context.nameOf shape ∧
          List.Forall₂ (fun member field => field.1 = member.fieldName ∧
            ∀ target last, model.shape? member.target = some target →
              model.EndsIn target last → last.isType = true →
              outline.Mentions path field.2 last.typeName ∧
                (last.isBuiltin = false → outline.DeclaresType last.typeName))
            shape.members struct.2 := by
  obtain ⟨outline, houtline, hstarted, hwritten⟩ := exists_outline h
  obtain ⟨closure, hclosure, hfilter⟩ := bind_eq_ok.1 hstarted.shapes
  have hshapes := pure_eq_ok.1 hfilter
  have hmodel : outline.context.model = model := by rw [hstarted.context]
  have hdeclares := Outline.declaresShapes houtline hwritten
  refine ⟨outline, houtline, hwritten, ?_⟩
  intro path hpath struct hstruct
  obtain ⟨shape, hshape, haggregate, hname, hfields⟩ :=
    Outline.exists_shape_of_mem_structs houtline hpath hstruct
  refine ⟨shape, hshape, haggregate, hname, ?_⟩
  obtain ⟨hlength, hzip⟩ := List.forall₂_iff_zip.1 hfields
  refine List.forall₂_iff_zip.2 ⟨hlength, ?_⟩
  intro member field hin
  obtain ⟨hfieldName, hfieldType⟩ := hzip hin
  refine ⟨hfieldName, ?_⟩
  intro target last htarget hends hlast
  rw [← hmodel] at htarget hends
  refine ⟨hwritten.mentions hpath hfieldType htarget hends hlast, ?_⟩
  intro hbuiltin
  refine hdeclares.declaresType ?_ hlast
  rw [← hshapes] at hshape ⊢
  have hmember := Model.target_mem_targets (List.of_mem_zip hin).1
  have htargetMem := Model.target_mem_closure hclosure (List.mem_filter.1 hshape).1 hmember htarget
  exact List.mem_filter.2 ⟨Model.endsIn_mem_closure hclosure hends htargetMem, by simp [hbuiltin]⟩

end Run

/-! ## A run with a reference to the prelude's namespace -/

namespace Run

theorem references_declared_sample : ∃ manifest,
    (Run.of Sample.model Sample.settings {}).result = .ok manifest ∧
      ∃ outline, Outline.of Sample.model Sample.settings {} = .ok outline ∧
        outline.Written manifest ∧
        ∀ path ∈ [typesUnit, errorsUnit], ∀ struct ∈ outline.structs path,
          ∃ shape ∈ outline.shapes, shape.isAggregate = true ∧
            struct.1 = outline.context.nameOf shape ∧
            List.Forall₂ (fun member field => field.1 = member.fieldName ∧
              ∀ target last, Sample.model.shape? member.target = some target →
                Sample.model.EndsIn target last → last.isType = true →
                outline.Mentions path field.2 last.typeName ∧
                  (last.isBuiltin = false → outline.DeclaresType last.typeName))
              shape.members struct.2 := by
  obtain ⟨_, manifest, h, -⟩ := Sample.exists_manifest
  exact ⟨manifest, h, references_declared h⟩

end Run

namespace Sample

variable {outline : Outline}

theorem structs_typesUnit
    (h : Passage.all context .standard none [input, operation, service] = .ok outline.passages) :
    outline.structs typesUnit
      = [("In", [("Next", input.typeSymbol "m"), ("X", foreign.typeSymbol "m")])] := by
  have hread : (Passage.all context .standard none [input, operation, service]).map
      (fun passages => (Passage.stepsAt passages typesUnit).filterMap Step.struct?)
        = .ok [("In", [("Next", input.typeSymbol "m"), ("X", foreign.typeSymbol "m")])] := rfl
  rw [h] at hread
  exact Except.ok.inj hread

/-- No unit of the sample run declares the structure of the prelude's namespace. -/
theorem not_declaresType_foreign (h : outline.DeclaresShapes) (hcontext : outline.context = context)
    (hshapes : outline.shapes = [input, operation, service]) :
    ¬ outline.DeclaresType foreign.typeName := by
  rintro ⟨path, hpath, hdeclared⟩
  simp only [List.mem_cons, List.not_mem_nil, or_false] at hpath
  rcases hpath with rfl | rfl | rfl
  · rw [h.types, hshapes, hcontext] at hdeclared
    exact absurd hdeclared (by decide)
  · rw [h.errors, hshapes, hcontext] at hdeclared
    exact absurd hdeclared (by decide)
  · rw [h.enums, hshapes, hcontext] at hdeclared
    exact absurd hdeclared (by decide)

end Sample

namespace Run

/-- The structure of the prelude's namespace is the target of a member, so a field mentions its
type, but no unit declares it. -/
theorem references_undeclared : ∃ outline manifest,
    (Run.of Sample.model Sample.settings {}).result = .ok manifest ∧
      Outline.of Sample.model Sample.settings {} = .ok outline ∧ outline.Written manifest ∧
      Sample.input ∈ outline.shapes ∧ Sample.foreign.isAggregate = true ∧
      ∃ struct ∈ outline.structs typesUnit, struct.1 = outline.context.nameOf Sample.input ∧
        ∃ member ∈ Sample.input.members,
          Sample.model.shape? member.target = some Sample.foreign ∧
          ∃ field ∈ struct.2, outline.context.IsFieldOf member field ∧
            outline.Mentions typesUnit field.2 Sample.foreign.typeName ∧
            ∀ name, outline.Mentions typesUnit field.2 name → ¬ outline.DeclaresType name := by
  obtain ⟨outline, manifest, h, houtline, hwritten, hcontext, hprotocol, hshapes⟩ :=
    Sample.exists_manifest
  have hdeclares := Outline.declaresShapes houtline hwritten
  have hpassages := Outline.all_eq_ok_of_of houtline
  rw [hcontext, hprotocol, hshapes] at hpassages
  have hstructs := Sample.structs_typesUnit hpassages
  have hfield : outline.context.IsFieldOf
      { name := "x", container := Sample.input.id, target := Sample.foreign.id }
      ("X", Sample.foreign.typeSymbol "m") := by
    rw [hcontext]
    exact ⟨rfl, rfl⟩
  have htarget : outline.context.model.shape? Sample.foreign.id = some Sample.foreign := by
    rw [hcontext]
    rfl
  have hmentions : outline.Mentions typesUnit (Sample.foreign.typeSymbol "m")
      Sample.foreign.typeName :=
    hwritten.mentions List.mem_cons_self hfield.2 htarget (.here _) (by decide)
  have hundeclared := Sample.not_declaresType_foreign hdeclares hcontext hshapes
  refine ⟨outline, manifest, h, houtline, hwritten, by simp [hshapes], by decide, _,
    by rw [hstructs]; exact List.mem_cons_self, ?_, _, List.mem_cons_of_mem _ List.mem_cons_self,
    rfl, _, List.mem_cons_of_mem _ List.mem_cons_self, hfield, hmentions, fun name hname => ?_⟩
  · rw [hcontext]
    rfl
  · rw [String.append_right_inj _ |>.1 (hname.symm.trans hmentions)]
    exact hundeclared

end Run

end ClientGen
