import ClientGen.Proofs.Agreement
import ClientGen.Proofs.Generation.Generator
import ClientGen.Proofs.Name.Sanitizer
import ClientGen.Proofs.Shape.Fields
import ClientGen.Proofs.Writer.Lines

/-!
# What a structure or union is declared as

If names of members clash, no struct is written.  If not, and every member has a type, the unit gets
a struct with one field for every member, in the order of the model: its name, and the pointer form
of the symbol of its target as the unit's package writes it.

## Main definitions

* `Context.IsField` — a field is the one for a member.
* `fieldText` — what a struct says of a field.
* `structLines` — the lines that a struct adds to a unit.

## Main results

* `adds_fieldsSteps` — the steps of fields add their lines.
* `run_ofStruct_spec` — a declaration that is performed adds the lines of its struct, and then those
  of the methods of an error.
* `fields_clash_or_ofStruct_prints` — when names clash and which one does, and what is written if
  none does.
-/

namespace ClientGen

/-! ## Symbols on one line -/

/-- No part of the text of a symbol ends a line. -/
structure Symbol.IsLine (symbol : Symbol) : Prop where
  wrapping : '\n' ∉ symbol.wrapping.toList
  name : '\n' ∉ symbol.core.name.toList
  qualifier : '\n' ∉ symbol.core.qualifier.toList

instance (symbol : Symbol) : Decidable symbol.IsLine :=
  decidable_of_iff ('\n' ∉ symbol.wrapping.toList ∧ '\n' ∉ symbol.core.name.toList ∧
    '\n' ∉ symbol.core.qualifier.toList)
    ⟨fun h => ⟨h.1, h.2.1, h.2.2⟩, fun h => ⟨h.wrapping, h.name, h.qualifier⟩⟩

theorem Name.newline_not_mem_sanitize (name : String) :
    '\n' ∉ (sanitizer.sanitize name).toList :=
  fun hmem => absurd (isAlphanum_of_mem_sanitize _ hmem) (by decide)

namespace Symbol

variable {symbol : Symbol}

theorem IsLine.newline_not_mem_heldIn (h : symbol.IsLine) (path : Option String) :
    '\n' ∉ (symbol.heldIn path).toList := by
  have hqualified : '\n' ∉ (qualified symbol.core).toList := by
    unfold qualified
    split
    · exact h.name
    · simp [h.name, h.qualifier]
  rw [heldIn, String.toList_append, List.mem_append, not_or]
  refine ⟨h.wrapping, ?_⟩
  split
  · exact h.name
  · exact hqualified

theorem IsLine.newline_not_mem_fullName (h : symbol.IsLine) (path : Option String) :
    '\n' ∉ ((symbol.relativeTo path).fullName).toList := by
  have hpointer := h.newline_not_mem_heldIn path
  rw [← pointer_eq_heldIn, pointer_eq_append_fullName, String.toList_append, List.mem_append,
    not_or] at hpointer
  exact hpointer.2

theorem IsLine.slice (h : symbol.IsLine) : symbol.slice.IsLine where
  wrapping := by simpa [Symbol.slice, Symbol.wrapping, Container.text] using h.wrapping
  name := h.name
  qualifier := h.qualifier

theorem IsLine.map (h : symbol.IsLine) : symbol.map.IsLine where
  wrapping := by simpa [Symbol.map, Symbol.wrapping, Container.text] using h.wrapping
  name := h.name
  qualifier := h.qualifier

theorem isLine_named {identity : NamedSymbol} (hname : '\n' ∉ identity.name.toList)
    (hqualifier : '\n' ∉ identity.qualifier.toList) : (named identity).IsLine where
  wrapping := by
    unfold wrapping
    split <;> simp
  name := hname
  qualifier := hqualifier

end Symbol

namespace Shape

variable {modulePath : String} {shape : Shape} {symbol : Symbol}

theorem newline_not_mem_typeName (shape : Shape) : '\n' ∉ shape.typeName.toList :=
  Name.newline_not_mem_sanitize _

theorem isLine_declaredType (modulePath unit : String) (isPointer : Bool) (shape : Shape) :
    (shape.declaredType modulePath unit isPointer).IsLine := by
  have hname := shape.newline_not_mem_typeName
  have hpackage := Dependency.name_own_typesPath modulePath
  simp only [declaredType]
  -- Nothing below may evaluate the two names.
  generalize Dependency.own (typesPath modulePath) = package at hpackage ⊢
  generalize shape.typeName = name at hname ⊢
  refine Symbol.isLine_named hname ?_
  rw [hpackage]
  simp

theorem isLine_of_builtinType? {type : ShapeType} (h : builtinType? type = some symbol) :
    symbol.IsLine := by
  have hall : ∀ type ∈ ShapeType.all, ∀ symbol ∈ builtinType? type, symbol.IsLine := by
    decide
  exact hall type (by cases type <;> decide) symbol h

theorem isLine_of_ownSymbol? (h : shape.ownSymbol? modulePath = some (.ok symbol)) :
    symbol.IsLine := by
  cases owned_of_ownSymbol? h with
  | client => exact Symbol.isLine_named (by simp) (by simp)
  | operation =>
    refine Symbol.isLine_named ?_ (by simp)
    dsimp only
    exact shape.newline_not_mem_typeName
  | resource =>
    refine Symbol.isLine_named ?_ (by simp)
    dsimp only
    exact shape.newline_not_mem_typeName
  | declared => exact isLine_declaredType _ _ _ _
  | builtin hfound => exact isLine_of_builtinType? hfound

end Shape

/-- **The type of a shape is written on one line.** -/
theorem Model.isLine_of_symbolWithin {model : Model} {modulePath : String} {depth : Nat}
    {shape : Shape} {symbol : Symbol} (h : model.symbolWithin modulePath depth shape = .ok symbol) :
    symbol.IsLine := by
  -- On the depth: a shape has a symbol of its own, or one around that of its element.
  induction depth generalizing shape symbol with
  | zero => simp [symbolWithin] at h
  | succ depth ih =>
    rw [symbolWithin] at h
    split at h
    · rename_i own hown
      subst h
      exact Shape.isLine_of_ownSymbol? hown
    · obtain ⟨element, -, h⟩ := bind_eq_ok.1 h
      obtain ⟨inner, hinner, h⟩ := bind_eq_ok.1 h
      obtain rfl := pure_eq_ok.1 h
      split
      · exact (ih hinner).map
      · exact (ih hinner).slice

/-! ## Fields -/

/-- The field has the name, the type and the documentation of the member. -/
structure Context.IsField (context : Context) (member : Member) (field : Declaration.Field) :
    Prop where
  name : field.name = member.fieldName
  type : ∃ target, context.model.shape? member.target = some target ∧
    context.symbolOf target = .ok field.type
  documentation : field.documentation = member.documentation

/-- Fields for the members of a shape have the names that members have there. -/
theorem Context.map_name_fields {context : Context} {shape : Shape}
    {fields : List Declaration.Field}
    (h : List.Forall₂ context.IsField shape.members fields) :
    fields.map Declaration.Field.name = shape.fieldNames := by
  rw [Shape.fieldNames, map_eq_map_iff_forall₂]
  exact h.flip.imp fun _ _ hfield => hfield.name

theorem Context.forall₂_isField {context : Context} {members : List Member}
    {fields : List Declaration.Field}
    (h : (members.map fun member => (member.fieldName, member)).mapM context.fieldOf
      = .ok fields) :
    List.Forall₂ context.IsField members fields := by
  rw [mapM_eq_ok, List.forall₂_map_left_iff] at h
  apply h.imp
  intro member field hfield
  obtain ⟨type, htype, hfield⟩ := bind_eq_ok.1 hfield
  obtain ⟨target, htarget, htype⟩ := bind_eq_ok.1 htype
  dsimp only at hfield
  rw [← pure_eq_ok.1 hfield]
  refine ⟨?_, ⟨target, Model.expect_eq_ok.1 htarget, htype⟩, rfl⟩
  dsimp only

namespace Declaration

/-- What a struct in the package of a path says of a field: its name, and the pointer form of its
type. -/
def fieldText (path : Option String) (field : Field) : String :=
  field.name ++ " " ++ field.type.heldIn path

/-- The lines of a field behind its documentation; an empty line parts a documented field from one
before it. -/
def fieldLines (context : Context) (writer : Writer) (isFirst : Bool) (field : Field) :
    List String :=
  (if !isFirst && context.settings.hasComments && field.documentation.truthy then [""] else [])
    ++ context.commented writer field.documentation
    ++ [writer.margin ++ fieldText writer.imports.ownPath field]

/-- The lines of the fields of a struct. -/
def fieldsLines (context : Context) (writer : Writer) : List Field → List String
  | [] => []
  | first :: rest => fieldLines context writer true first
      ++ rest.flatMap (fieldLines context writer false)

/-- The lines that a struct adds to a unit. -/
def structLines (context : Context) (writer : Writer) (shape : Shape) (fields : List Field) :
    List String :=
  context.commented writer shape.documentation
    ++ (if shape.type == .union then
          context.commented writer (.str "Only one member of this union may be set.")
        else [])
    ++ ([writer.margin ++ ("type " ++ shape.typeName ++ " struct \x7b")]
      ++ fieldsLines context writer.indent fields
      ++ [writer.margin ++ "\x7d"])
    ++ [""]

variable {context : Context} {base : Writer} {member : Member} {field : Field}

/-- A field takes one line. -/
theorem newline_not_mem_fieldText (h : context.IsField member field) (path : Option String) :
    '\n' ∉ (fieldText path field).toList := by
  obtain ⟨target, -, htype⟩ := h.type
  have hname : '\n' ∉ field.name.toList := by
    rw [h.name]
    exact Name.newline_not_mem_sanitize _
  have hheld := (Model.isLine_of_symbolWithin htype).newline_not_mem_heldIn path
  simp [fieldText, hname, hheld]

theorem isBlankText_fieldText (h : context.IsField member field) (path : Option String) :
    Text.isBlankText (fieldText path field).toList = false := by
  have hne : field.name.toList ≠ [] := by
    rw [h.name, ne_eq, String.toList_eq_nil_iff]
    exact Name.sanitize_ne_empty _
  obtain ⟨c, hc⟩ := List.exists_mem_of_ne_nil _ hne
  have halphanum : c.isAlphanum = true := by
    rw [h.name] at hc
    exact Name.isAlphanum_of_mem_sanitize c hc
  exact Text.isBlankText_of_mem (c := c) (by simp [fieldText, hc])
    (Name.isBlank_of_isAlphanum halphanum)

theorem adds_fieldSteps (h : context.IsField member field) (base : Writer) (isFirst : Bool) :
    Step.Adds base (fieldSteps context isFirst field) (fieldLines context base isFirst field) := by
  have hparting : Step.Adds base
      (if !isFirst && context.settings.hasComments && field.documentation.truthy then [.blank]
        else [])
      (if !isFirst && context.settings.hasComments && field.documentation.truthy then [""]
        else []) := by
    split
    · exact Step.adds_blank base
    · exact Step.adds_nil base
  refine (hparting.append (context.adds_docs base _)).append (Step.adds_line_of_not_mem ?_
    (newline_not_mem_fieldText h _) (isBlankText_fieldText h _))
  simp [Part.texts, Part.render, fieldText, Symbol.pointer_eq_heldIn, String.append_assoc]

/-- **The steps of fields add their lines.** -/
theorem adds_fieldsSteps {members : List Member} {fields : List Field}
    (h : List.Forall₂ context.IsField members fields) (base : Writer) :
    Step.Adds base (fieldsSteps context { found := fields }) (fieldsLines context base fields) := by
  have hfield : ∀ field ∈ fields, ∃ member ∈ members, context.IsField member field :=
    fun _ => exists_of_forall₂ h.flip
  cases fields with
  | nil => exact Step.adds_nil base
  | cons first rest =>
    obtain ⟨⟨_, -, hfirst⟩, hrest⟩ := List.forall_mem_cons.1 hfield
    have hadds := (adds_fieldSteps hfirst base true).append (Step.adds_flatMap rest
      fun field hmem => (hrest field hmem).elim fun _ h => adds_fieldSteps h.2 base false)
    simpa [fieldsSteps, fieldsLines] using hadds

/-! ## Structs -/

variable {shape : Shape} {table : SymbolTable} {writer after : Writer}

/-- What stands in front of a struct. -/
theorem adds_remarks (context : Context) (base : Writer) (shape : Shape) :
    Step.Adds base
      (context.docs shape.documentation
        ++ if shape.type == .union then context.comment "Only one member of this union may be set."
          else [])
      (context.commented base shape.documentation
        ++ if shape.type == .union then
            context.commented base (.str "Only one member of this union may be set.")
          else []) := by
  refine (context.adds_docs base _).append ?_
  split
  · exact context.adds_docs base _
  · exact Step.adds_nil base

/-- The block of a struct. -/
theorem adds_block {fields : List Field} (hlevel : 0 ≤ base.level)
    (h : List.Forall₂ context.IsField shape.members fields) (modulePath : String) :
    Step.Adds base
      [.block (.parts ["type ", .name (shape.typeSymbol modulePath), " struct \x7b"]) "\x7d"
        (fieldsSteps context { found := fields })]
      ([base.margin ++ ("type " ++ shape.typeName ++ " struct \x7b")]
        ++ fieldsLines context base.indent fields ++ [base.margin ++ "\x7d"]) := by
  have hopening : base.printed ("type " ++ shape.typeName ++ " struct \x7b")
      = [base.margin ++ ("type " ++ shape.typeName ++ " struct \x7b")] := by
    apply Writer.printed_of_not_mem
    · simp [shape.newline_not_mem_typeName]
    · exact Text.isBlankText_of_mem (c := 't') (by simp) (by decide)
  have hname : (shape.typeSymbol modulePath).name = shape.typeName := shape.name_typeSymbol _
  rw [← hopening, ← Writer.printed_brace]
  refine Step.Adds.block hlevel ?_ (adds_fieldsSteps h _) ?_
  · simp only [Part.texts_cons, Part.texts_nil, Part.render_name, hname, Part.render_text,
      String.append_empty, String.append_assoc]
  · simp

/-- A declaration that is performed consists of the steps of a struct with the fields of its
members, whose names do not clash. -/
theorem exists_fields_of_run (hknows : context.Knows table)
    (hshape : context.model.shape? shape.id = some shape) (haggregate : shape.isAggregate = true)
    (hrun : Step.Run (ofStruct context shape table).1) :
    (shape.methodNames ++ shape.fieldNames).Nodup ∧ ∃ fields,
      List.Forall₂ context.IsField shape.members fields ∧
      (ofStruct context shape table).1
        = structSteps context shape (shape.typeSymbol context.settings.modulePath)
          (fieldsSteps context { found := fields }) := by
  rcases hfound : ofStruct context shape table with ⟨found, table'⟩
  rw [hfound] at hrun
  obtain ⟨hsteps, -⟩ := Generator.ofStruct_spec hknows hshape hfound hrun
  obtain ⟨symbol, hsymbol, hsteps⟩ := bind_eq_ok.1 hsteps
  obtain ⟨named, hnamed, hsteps⟩ := bind_eq_ok.1 hsteps
  obtain ⟨fields, hfields, hpure⟩ := bind_eq_ok.1 hsteps
  obtain ⟨hnodup, rfl⟩ := Shape.fields_eq_ok_iff.1 (mapError_eq_ok.1 hnamed)
  refine ⟨hnodup, fields, Context.forall₂_isField hfields, ?_⟩
  have htype : shape.isType = true := by simp [Shape.isType, haggregate]
  rw [← pure_eq_ok.1 hpure, Except.ok.inj (hsymbol.symm.trans (Model.symbolOf_of_isType htype))]

/-- **A declaration that is performed** adds the lines of its struct; what comes behind them are the
methods of an error. -/
theorem run_ofStruct_spec (hknows : context.Knows table)
    (hshape : context.model.shape? shape.id = some shape) (haggregate : shape.isAggregate = true)
    (hrun : writer.run (ofStruct context shape table).1 = (after, none)) :
    (shape.methodNames ++ shape.fieldNames).Nodup ∧ 0 ≤ writer.level ∧
      ∃ fields between, List.Forall₂ context.IsField shape.members fields ∧
        Writer.Below writer 0 between ∧
        between.lines = writer.lines ++ structLines context writer shape fields ∧
        between.run (if shape.isError then
          errorMethods context shape (shape.typeSymbol context.settings.modulePath) else [])
          = (after, none) := by
  obtain ⟨hnodup, fields, hfields, hsteps⟩ :=
    exists_fields_of_run hknows hshape haggregate ⟨writer, by rw [hrun]⟩
  have hdocumentation : (shape.typeSymbol context.settings.modulePath).documentation
      = shape.documentation := rfl
  rw [hsteps, structSteps, hdocumentation, List.append_assoc] at hrun
  generalize hmethods : (if shape.isError = true then
    errorMethods context shape (shape.typeSymbol context.settings.modulePath) else []) = methods
    at hrun ⊢
  obtain ⟨remarked, hremarks, hremarked, hlines⟩ := adds_remarks context writer shape writer
    ⟨rfl, rfl, (Int.add_zero _).symm⟩
  rw [Writer.run_append, hremarks] at hrun
  dsimp only [Writer.Outcome.andThen] at hrun
  have hblock := (Writer.run_cons_eq (by rw [← List.cons_append, hrun])).1
  have hlevel := (adds_fieldsSteps hfields writer.indent).level_of_block hremarked hblock
  obtain ⟨between, hdeclared, hbetween, hadded⟩ :=
    ((adds_block hlevel hfields _).append (Step.adds_blank writer)) remarked hremarked
  rw [Writer.run_append, ← List.singleton_append, hdeclared] at hrun
  refine ⟨hnodup, hlevel, fields, between, hfields, hbetween, ?_, hrun⟩
  rw [hadded, hlines, structLines]
  simp only [List.append_assoc]

/-! ## Clashes and structs -/

/-- Members of one container are told apart by the texts of their ids. -/
theorem name_eq_of_text_eq {id : ShapeId} (hid : id.IsReadable) {first second : Member}
    (hfirst : first.container = id) (hsecond : second.container = id)
    (h : first.id.text = second.id.text) : first.name = second.name := by
  have hreadable : ∀ name, (id.withMember name).IsReadable := fun _ => hid
  rw [Member.id, Member.id, hfirst, hsecond,
    ShapeId.text_eq_text_iff (hreadable _) (hreadable _)] at h
  exact h.2.2

/-- **When names of members clash, and what is written of a structure or union.**  The members of a
shape that was read are those that its node lists, in their order.  Their names clash if two of them
are the same or, for an error, one is that of a method; the clash is that of the first member whose
name is taken, and it names what took it: the method, or the one member in front of it that has the
same name.  If names do not clash, every member has its field, in the order of the members, all with
different names; and what a declaration that is performed writes is a struct with exactly these
fields, each on a line with its name and the pointer form of the symbol of its target as the package
of the unit writes it. -/
theorem fields_clash_or_ofStruct_prints {document : Json} {model : Model} {shape : Shape}
    (hmodel : Model.ofDocument document = .ok model)
    (hshape : model.shape? shape.id = some shape) (haggregate : shape.isAggregate = true) :
    (Document.Holds document shape ∧
      ∀ node, Document.shape shape.id node = .ok shape → ∃ entries,
        (do Document.entriesOf (← Document.part node "members")) = .ok entries ∧
          shape.members.map Member.name = Entries.keys entries) ∧
    ((∃ clash, shape.fields = .error clash) ↔ ¬ shape.fieldNames.Nodup ∨
      shape.isError = true ∧ ∃ name ∈ shape.fieldNames, name ∈ Shape.errorMethods) ∧
    (∀ clash, shape.fields = .error clash →
      ∃ before member after first, shape.members = before ++ member :: after ∧
        (shape.methodNames ++ before.map Member.fieldName).Nodup ∧
        (member.fieldName ∈ shape.methodNames ∧ first = shape.methodOwner member.fieldName ∨
          ∃ earlier ∈ before, earlier.fieldName = member.fieldName ∧ first = earlier.id.text ∧
            ∀ other ∈ before, other.id.text = first → other = earlier) ∧
        clash = {
          identifier := member.fieldName
          first
          second := member.id.text
          scope := shape.name }) ∧
    (∀ named, shape.fields = .ok named →
      named = shape.members.map (fun member => (member.fieldName, member)) ∧
        shape.fieldNames.Nodup) ∧
    ∀ (context : Context) (table : SymbolTable) (writer after : Writer), context.model = model →
      context.Knows table → writer.run (ofStruct context shape table).1 = (after, none) →
      ∃ fields, List.Forall₂ context.IsField shape.members fields ∧
        (fields.map Field.name).Nodup ∧
        writer.lines ++ structLines context writer shape fields <+: after.lines ∧
        (shape.isError = false →
          after.lines = writer.lines ++ structLines context writer shape fields) ∧
        ∀ field ∈ fields, ∀ path, '\n' ∉ (fieldText path field).toList ∧
          (field.type.isAt path = false → field.type.heldIn path = field.type.pointer) := by
  have hholds := Model.holds_of_isAggregate hmodel hshape haggregate
  refine ⟨⟨hholds, fun node hnode => ?_⟩, Shape.fields_clash_iff, ?_, ?_, ?_⟩
  · obtain ⟨entries, hentries, hnames, -⟩ := Document.members_of_shape hnode haggregate
    exact ⟨entries, hentries, hnames⟩
  · intro clash hclash
    obtain ⟨before, member, after, first, hmembers, hnodup, howner, hclash⟩ :=
      Shape.exists_of_fields_eq_error hclash
    refine ⟨before, member, after, first, hmembers, hnodup, howner.imp_right ?_, hclash⟩
    rintro ⟨earlier, hearlier, hname, rfl⟩
    refine ⟨earlier, hearlier, hname, rfl, fun other hother htext => ?_⟩
    obtain ⟨_, _, entry, -, -, -, -, hentry⟩ := hholds
    obtain ⟨-, -, -, hcontainer⟩ := Document.members_of_shape hentry haggregate
    have hin : ∀ found ∈ before, found ∈ shape.members := fun found hfound => by
      rw [hmembers]
      exact List.mem_append_left _ hfound
    have hsame := name_eq_of_text_eq (Model.hasReadableIds_of_ofDocument hmodel _ _ hshape)
      (hcontainer _ (hin _ hother)) (hcontainer _ (hin _ hearlier)) htext
    refine List.inj_on_of_nodup_map (List.nodup_append.1 hnodup).2.1 hother hearlier ?_
    rw [Member.fieldName, Member.fieldName, hsame]
  · intro named hnamed
    obtain ⟨hnodup, hnamed⟩ := Shape.fields_eq_ok_iff.1 hnamed
    exact ⟨hnamed, (List.nodup_append.1 hnodup).2.1⟩
  · rintro context table writer after rfl hknows hrun
    obtain ⟨hnodup, -, fields, between, hfields, -, hlines, hmethods⟩ :=
      run_ofStruct_spec hknows hshape haggregate hrun
    refine ⟨fields, hfields, ?_, ?_, ?_, ?_⟩
    · rw [Context.map_name_fields hfields]
      exact (List.nodup_append.1 hnodup).2.1
    · rw [← hlines]
      have hprefix := between.prefix_lines_run (if shape.isError then
        errorMethods context shape (shape.typeSymbol context.settings.modulePath) else [])
      rwa [hmethods] at hprefix
    · intro herror
      rw [herror] at hmethods
      rw [← hlines, ← (Prod.mk.inj hmethods).1]
    · intro field hfield path
      obtain ⟨member, -, hmember⟩ := exists_of_forall₂ hfields.flip hfield
      exact ⟨newline_not_mem_fieldText hmember path, Symbol.heldIn_eq_pointer⟩

end Declaration

/-! ## A structure, and a union whose members clash -/

namespace Parcel

/-- A structure of two members, one of which is a structure itself. -/
def parcel : Shape :=
  let id : ShapeId := { ns := "a", name := "Parcel" }
  { id
    type := .struct
    members := [
      { name := "sent-at", container := id, target := { ns := Trait.prelude, name := "Timestamp" } },
      { name := "inner", container := id, target := id }] }

/-- A union whose two members have one name for their fields. -/
def receiver : Shape :=
  let id : ShapeId := { ns := "a", name := "Receiver" }
  let text : ShapeId := { ns := Trait.prelude, name := "String" }
  { id
    type := .union
    members := [
      { name := "poBox", container := id, target := text },
      { name := "po-box", container := id, target := text }] }

def model : Model :=
  .ofShapes [parcel, receiver]

/-- The document that the model is read from. -/
def document : Json :=
  .obj [("shapes", .obj [
    ("a#Parcel", .obj [("type", .str "structure"), ("members", .obj [
      ("sent-at", .obj [("target", .str "smithy.api#Timestamp")]),
      ("inner", .obj [("target", .str "a#Parcel")])])]),
    ("a#Receiver", .obj [("type", .str "union"), ("members", .obj [
      ("poBox", .obj [("target", .str "smithy.api#String")]),
      ("po-box", .obj [("target", .str "smithy.api#String")])])])])]

def context : Context where
  model := model
  settings := { moduleName := .str "m", addComments := .bool false }
  service := parcel

theorem ofDocument_document : Model.ofDocument document = .ok model :=
  rfl

/-- The unit of types before anything is written. -/
def writer : Writer :=
  .start typesUnit "types" (some (typesPath context.settings.modulePath))

end Parcel

namespace Declaration

/-- The structure as it is written, and the union, which is not. -/
theorem fields_clash_or_ofStruct_prints_parcel :
    Model.ofDocument Parcel.document = .ok Parcel.model ∧
      (∃ after fields, Parcel.writer.run (ofStruct Parcel.context Parcel.parcel {}).1
          = (after, none) ∧
        List.Forall₂ Parcel.context.IsField Parcel.parcel.members fields ∧
        after.lines = structLines Parcel.context Parcel.writer Parcel.parcel fields ∧
        after.lines = ["type Parcel struct \x7b", "\tSentAt *time.Time", "\tInner *Parcel",
          "\x7d", ""]) ∧
      ∃ clash, Parcel.receiver.fields = .error clash := by
  have hparcel : Parcel.model.shape? Parcel.parcel.id = some Parcel.parcel := rfl
  have hreceiver : Parcel.model.shape? Parcel.receiver.id = some Parcel.receiver := rfl
  refine ⟨Parcel.ofDocument_document, ?_, ?_⟩
  · have hrun : (Parcel.writer.run (ofStruct Parcel.context Parcel.parcel {}).1).2 = none :=
      Option.isNone_iff_eq_none.1 (by decide)
    obtain ⟨-, -, -, -, hprints⟩ :=
      fields_clash_or_ofStruct_prints Parcel.ofDocument_document hparcel rfl
    obtain ⟨fields, hfields, -, -, hlines, -⟩ := hprints Parcel.context {} Parcel.writer _ rfl
      SymbolTable.Sound.empty (Prod.ext rfl hrun)
    exact ⟨_, fields, Prod.ext rfl hrun, hfields, hlines rfl, by decide⟩
  · obtain ⟨-, hclash, -⟩ :=
      fields_clash_or_ofStruct_prints Parcel.ofDocument_document hreceiver rfl
    exact hclash.2 (.inl (by decide))

end Declaration

end ClientGen
