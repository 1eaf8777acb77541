import ClientGen.Integration.Registry
import ClientGen.Proofs.Generation.References
import ClientGen.Proofs.Symbol.Comparison

/-!
# Declarations that look alike

Two contexts look alike if their settings do, their models are in step, their services are a pair,
and their integrations count for the same services and write the same bodies for operations of a
pair.  The declarations of a pair of shapes then look alike: they start from tables that look alike,
write steps that look alike, and leave tables that look alike.

## Main definitions

* `Settings.Alike`, `Integration.Alike`, `Context.Alike` — what two declarations may differ in.
* `Declaration.Alike` — two declarations look alike.

## Main results

* `Generator.declare_alike` — every generator declares a pair of shapes alike.
-/

namespace ClientGen

variable {view : View}

/-! ## Contexts -/

/-- Settings as they are seen: whether there are comments is not code. -/
def Settings.seen (view : View) (settings : Settings) : Settings :=
  match view with
  | .files => settings
  | .code => { settings with addComments := .null }

namespace Settings

/-- Two settings differ at most in what is not seen. -/
def Alike (view : View) (settings settings' : Settings) : Prop :=
  settings.seen view = settings'.seen view

variable {settings settings' : Settings}

/-- What is read from settings without asking for comments is seen. -/
theorem Alike.congr {α : Type} (h : settings.Alike view settings') (read : Settings → α)
    (hread : ∀ settings : Settings, read { settings with addComments := .null } = read settings) :
    read settings = read settings' := by
  cases view with
  | files => exact congrArg read h
  | code => rw [← hread settings, ← hread settings']; exact congrArg read h

theorem Alike.modulePath (h : settings.Alike view settings') :
    settings.modulePath = settings'.modulePath :=
  h.congr Settings.modulePath fun _ => rfl

theorem Alike.clientId (h : settings.Alike view settings') :
    settings.clientId = settings'.clientId :=
  h.congr Settings.clientId fun _ => rfl

end Settings

/-- Two fields that integrations add look alike. -/
structure ConfigField.Alike (view : View) (field field' : ConfigField) : Prop where
  name : field.name = field'.name
  type : field.type = field'.type
  documentation : view.documentation field.documentation = view.documentation field'.documentation

/-- Two bodies write the same for the operations of a pair, as far as it is seen. -/
def HandlerBody.Alike (view : View) (P : Shape → Shape → Prop) (body body' : HandlerBody) : Prop :=
  ∀ {operation operation'}, P operation operation' → operation.type = .operation → ∀ middleware,
    Step.seenAll view (body.steps operation middleware)
      = Step.seenAll view (body'.steps operation' middleware)

/-- Two bodies of a protocol look alike. -/
structure ProtocolBodies.Alike (view : View) (P : Shape → Shape → Prop)
    (bodies bodies' : ProtocolBodies) : Prop where
  protocol : bodies.protocol = bodies'.protocol
  serialize : bodies.serialize.Alike view P bodies'.serialize
  deserialize : bodies.deserialize.Alike view P bodies'.deserialize

/-- Two integrations look alike: they add fields that look alike, count for the same services, and
write the same bodies. -/
structure Integration.Alike (view : View) (P : Shape → Shape → Prop)
    (integration integration' : Integration) : Prop where
  name : integration.name = integration'.name
  fields : List.Forall₂ (ConfigField.Alike view) integration.fields integration'.fields
  resolver : integration.resolver = integration'.resolver
  applies : ∀ {service service'}, P service service' → service.type = .service →
    integration.applies service = integration'.applies service'
  bodies : Option.Rel (ProtocolBodies.Alike view P) integration.bodies integration'.bodies

/-- Integrations that look alike on some pairs look alike on fewer of them. -/
theorem Integration.Alike.mono {P Q : Shape → Shape → Prop} {integration integration' : Integration}
    (h : integration.Alike view P integration')
    (himp : ∀ shape shape', Q shape shape' → P shape shape') :
    integration.Alike view Q integration' where
  name := h.name
  fields := h.fields
  resolver := h.resolver
  applies := fun hpair => h.applies (himp _ _ hpair)
  bodies := by
    have hbodies := h.bodies
    generalize integration.bodies = bodies, integration'.bodies = bodies' at hbodies ⊢
    cases hbodies with
    | none => exact .none
    | some hbodies =>
      exact .some ⟨hbodies.protocol, fun hpair => hbodies.serialize (himp _ _ hpair),
        fun hpair => hbodies.deserialize (himp _ _ hpair)⟩

/-- Two contexts look alike. -/
structure Context.Alike (view : View) (P : Shape → Shape → Prop) (context context' : Context) :
    Prop where
  models : Model.InStep view P context.model context'.model
  settings : context.settings.Alike view context'.settings
  service : P context.service context'.service
  type : context.service.type = .service
  integrations :
    List.Forall₂ (Integration.Alike view P) context.integrations context'.integrations
  transport : context.transport = context'.transport

namespace Step

theorem seenAll_flatMap_congr {α β : Type} {R : α → β → Prop} {xs : List α} {ys : List β}
    {steps : α → List Step} {steps' : β → List Step} (h : List.Forall₂ R xs ys)
    (hsteps : ∀ x y, R x y → seenAll view (steps x) = seenAll view (steps' y)) :
    seenAll view (xs.flatMap steps) = seenAll view (ys.flatMap steps') := by
  rw [seenAll_flatMap, seenAll_flatMap]
  induction h with
  | nil => rfl
  | cons hxy _ ih => rw [List.flatMap_cons, List.flatMap_cons, hsteps _ _ hxy, ih]

end Step

section

variable {P : Shape → Shape → Prop} {context context' : Context} {shape shape' : Shape}
  {symbol symbol' : Symbol}

namespace Context.Alike

variable (h : context.Alike view P context')
include h

/-- **Documentation is seen alike**, whether there is any or not where only code is seen. -/
theorem docs {documentation documentation' : Json}
    (hdocumentation : view.documentation documentation = view.documentation documentation') :
    Step.seenAll view (context.docs documentation)
      = Step.seenAll view (context'.docs documentation') := by
  unfold Context.docs
  cases view with
  | files =>
    obtain rfl : documentation = documentation' := hdocumentation
    rw [show context.settings = context'.settings from h.settings]
  | code =>
    have hnone : ∀ (shown : Bool) (documentation : Json),
        Step.seenAll .code (if shown then [.docs documentation] else []) = [] := by
      intro shown documentation
      cases shown <;> rfl
    rw [hnone, hnone]

theorem comment (text : String) :
    Step.seenAll view (context.comment text) = Step.seenAll view (context'.comment text) :=
  h.docs rfl

theorem resolve_agree {table table' : SymbolTable} (htable : table.Alike view table')
    (hpair : P shape shape') :
    Agree (Failure.Alike view) (fun found found' => found.1.Alike view found'.1 ∧
        found.2.Alike view found'.2)
      (context.resolve table shape) (context'.resolve table' shape') := by
  rw [Context.resolve, Context.resolve, h.settings.modulePath]
  exact h.models.resolve_agree htable hpair

/-- The same integrations count for the services of a pair. -/
theorem matching :
    List.Forall₂ (Integration.Alike view P) context.matching context'.matching := by
  refine List.rel_filter ?_ h.integrations
  intro integration integration' hintegration
  dsimp only
  rw [hintegration.applies h.service h.type]

end Context.Alike

/-! ## Declarations -/

namespace Declaration

/-- Two declarations look alike: from tables that look alike they write steps that look alike, and
leave tables that look alike. -/
def Alike (view : View) (declaration declaration' : Declaration) : Prop :=
  ∀ table table' : SymbolTable, table.Alike view table' →
    Step.seenAll view (declaration table).1 = Step.seenAll view (declaration' table').1 ∧
      (declaration table).2.Alike view (declaration' table').2

theorem alike_ofSteps {steps steps' : List Step}
    (h : Step.seenAll view steps = Step.seenAll view steps') :
    Alike view (ofSteps steps) (ofSteps steps') :=
  fun _ _ htable => ⟨h, htable⟩

theorem seenAll_fail {failure failure' : Failure} (h : failure.Alike view failure') :
    Step.seenAll view [.fail failure] = Step.seenAll view [.fail failure'] := by
  simp only [Step.seenAll, Step.seen, show failure.seen view = failure'.seen view from h]

theorem alike_withValue {α β : Type} {R : α → β → Prop} {value : Except Failure α}
    {value' : Except Failure β} {rest : α → Declaration} {rest' : β → Declaration}
    (h : Agree (Failure.Alike view) R value value')
    (hrest : ∀ a b, R a b → Alike view (rest a) (rest' b)) :
    Alike view (withValue value rest) (withValue value' rest') := by
  cases h with
  | ok h => exact hrest _ _ h
  | error h => exact alike_ofSteps (seenAll_fail h)

theorem alike_withSymbol (h : context.Alike view P context') (hpair : P shape shape')
    {rest rest' : Symbol → Declaration}
    (hrest : ∀ symbol symbol', symbol.Alike view symbol' →
      Alike view (rest symbol) (rest' symbol')) :
    Alike view (withSymbol context shape rest) (withSymbol context' shape' rest') := by
  intro table table' htable
  have hfound := h.resolve_agree htable hpair
  unfold withSymbol
  generalize context.resolve table shape = found, context'.resolve table' shape' = found' at hfound
  cases hfound with
  | ok hfound => exact hrest _ _ hfound.1 _ _ hfound.2
  | error hfailure => exact ⟨seenAll_fail hfailure, htable⟩

/-! ### Enums -/

section Enum

variable (h : context.Alike view P context') (hsymbol : symbol.Alike view symbol')
include h hsymbol

theorem enumConstant_alike (label : String) {value value' : EnumValue}
    (hvalue : value.Alike view value') :
    Step.seenAll view (enumConstant context symbol label value)
      = Step.seenAll view (enumConstant context' symbol' label value') := by
  simp [enumConstant, Step.line, h.docs hvalue.documentation, hvalue.value, hsymbol.seen_eq]

theorem enumMethod_alike {values values' : List EnumValue}
    (hvalues : List.Forall₂ (EnumValue.Alike view) values values') :
    Step.seenAll view (enumMethod context symbol values)
      = Step.seenAll view (enumMethod context' symbol' values') := by
  have hlisted : (values.map fun value => Step.line [.quoted value.value, ","])
      = values'.map fun value => Step.line [.quoted value.value, ","] :=
    map_eq_map_iff_forall₂.2 (hvalues.imp fun value value' hvalue => by rw [hvalue.value])
  simp [enumMethod, h.comment, hlisted, hsymbol.name, hsymbol.seen_eq]

theorem enumSteps_alike {labels labels' : List (String × EnumValue)}
    (hlabels : List.Forall₂ (EnumValue.AlikeLabelled view) labels labels') :
    Step.seenAll view (enumSteps context symbol labels)
      = Step.seenAll view (enumSteps context' symbol' labels') := by
  have hconstants : Step.seenAll view
        (labels.flatMap fun labelled => enumConstant context symbol labelled.1 labelled.2)
      = Step.seenAll view
        (labels'.flatMap fun labelled => enumConstant context' symbol' labelled.1 labelled.2) := by
    refine Step.seenAll_flatMap_congr hlabels fun labelled labelled' hlabelled => ?_
    rw [hlabelled.1]
    exact enumConstant_alike h hsymbol _ hlabelled.2
  have hvalues : List.Forall₂ (EnumValue.Alike view) (labels.map Prod.snd)
      (labels'.map Prod.snd) := by
    rw [List.forall₂_map_left_iff, List.forall₂_map_right_iff]
    exact hlabels.imp fun _ _ hlabelled => hlabelled.2
  have hmethod := enumMethod_alike h hsymbol hvalues
  simp [enumSteps, Step.line, h.docs hsymbol.documentation, hconstants, hmethod, hsymbol.seen_eq]

end Enum

/-- **Enums of a pair are declared alike.** -/
theorem ofEnum_alike (h : context.Alike view P context') (hpair : P shape shape') :
    Alike view (ofEnum context shape) (ofEnum context' shape') := by
  refine alike_withSymbol h hpair fun symbol symbol' hsymbol => ?_
  refine alike_withValue (R := List.Forall₂ (EnumValue.AlikeLabelled view)) ?_
    fun labels labels' hlabels => alike_ofSteps (enumSteps_alike h hsymbol hlabels)
  rw [← hsymbol.name]
  exact (h.models.alike hpair).enumValues.bind fun _ _ => EnumValue.labels_agree

/-! ### Structures -/

/-- Two fields look alike. -/
structure Field.Alike (view : View) (field field' : Field) : Prop where
  name : field.name = field'.name
  type : field.type.Alike view field'.type
  documentation : view.documentation field.documentation = view.documentation field'.documentation

/-- Two lists of fields look alike, and stop for the same reason if they do. -/
structure Fields.Alike (view : View) (fields fields' : Fields) : Prop where
  found : List.Forall₂ (Field.Alike view) fields.found fields'.found
  stop : Option.Rel (Failure.Alike view) fields.stop fields'.stop

section Struct

variable (h : context.Alike view P context')
include h

theorem memberSymbol_agree (hpair : P shape shape') {member member' : Member}
    (hmem : member ∈ shape.members) (hmember : member.Alike view member')
    {table table' : SymbolTable} (htable : table.Alike view table') :
    Agree (Failure.Alike view) (fun found found' => found.1.Alike view found'.1 ∧
        found.2.Alike view found'.2)
      (memberSymbol context table member) (memberSymbol context' table' member') := by
  obtain ⟨target, target', htarget, hexpect, hexpect'⟩ := h.models.exists_target hpair hmem
  rw [memberSymbol, memberSymbol, ← hmember.target, hexpect, hexpect']
  exact h.resolve_agree htable htarget

theorem typed_alike (hpair : P shape shape') {named named' : List (String × Member)}
    (hnamed : List.Forall₂ (fun field field' => field.1 = field'.1 ∧ field.2.Alike view field'.2)
      named named')
    (hmem : ∀ field ∈ named, field.2 ∈ shape.members) {table table' : SymbolTable}
    (htable : table.Alike view table') :
    (typed context table named).1.Alike view (typed context' table' named').1 ∧
      (typed context table named).2.Alike view (typed context' table' named').2 := by
  induction hnamed generalizing table table' with
  | nil => exact ⟨⟨.nil, .none⟩, htable⟩
  | @cons field field' named named' hfield _ ih =>
    obtain ⟨name, member⟩ := field
    obtain ⟨name', member'⟩ := field'
    obtain ⟨rfl, hmember⟩ := hfield
    obtain ⟨hhead, hrest⟩ := List.forall_mem_cons.1 hmem
    have hfound := memberSymbol_agree h hpair hhead hmember htable
    rw [typed, typed]
    generalize memberSymbol context table member = found,
      memberSymbol context' table' member' = found' at hfound
    cases hfound with
    | error hfailure => exact ⟨⟨.nil, .some hfailure⟩, htable⟩
    | ok hfound =>
      obtain ⟨hfields, htable⟩ := ih hrest hfound.2
      exact ⟨⟨.cons ⟨rfl, hfound.1, hmember.documentation⟩ hfields.found, hfields.stop⟩, htable⟩

theorem fieldSteps_alike (isFirst : Bool) {field field' : Field}
    (hfield : field.Alike view field') :
    Step.seenAll view (fieldSteps context isFirst field)
      = Step.seenAll view (fieldSteps context' isFirst field') := by
  -- What parts documented fields is an empty line, which is seen exactly where documentation is.
  have hblank : Step.seenAll view
        (if !isFirst && context.settings.hasComments && field.documentation.truthy then [.blank]
          else [])
      = Step.seenAll view
        (if !isFirst && context'.settings.hasComments && field'.documentation.truthy then [.blank]
          else []) := by
    cases view with
    | files =>
      rw [show context.settings = context'.settings from h.settings,
        show field.documentation = field'.documentation from hfield.documentation]
    | code =>
      have hnone : ∀ parted : Bool, Step.seenAll .code (if parted then [.blank] else []) = [] := by
        intro parted
        cases parted <;> rfl
      rw [hnone, hnone]
  simp only [fieldSteps, Step.seenAll_append, hblank, h.docs hfield.documentation]
  simp [Step.line, hfield.name, hfield.type.seen_eq]

theorem fieldsSteps_alike {fields fields' : Fields} (hfields : fields.Alike view fields') :
    Step.seenAll view (fieldsSteps context fields)
      = Step.seenAll view (fieldsSteps context' fields') := by
  obtain ⟨found, stop⟩ := fields
  obtain ⟨found', stop'⟩ := fields'
  obtain ⟨hfound, hstop⟩ := hfields
  have hlast : Step.seenAll view (stop.map Step.fail).toList
      = Step.seenAll view (stop'.map Step.fail).toList := by
    cases hstop with
    | none => rfl
    | some hfailure => exact seenAll_fail hfailure
  simp only [fieldsSteps, Step.seenAll_append, hlast]
  cases hfound with
  | nil => rfl
  | cons hfirst hrest =>
    simp only [Step.seenAll_append, fieldSteps_alike h true hfirst,
      Step.seenAll_flatMap_congr hrest fun _ _ => fieldSteps_alike h false]

theorem messageField_eq (hpair : P shape shape') {members members' : List Member}
    (hmembers : List.Forall₂ (Member.Alike view) members members')
    (hmem : ∀ member ∈ members, member ∈ shape.members) :
    messageField context.model members = messageField context'.model members' := by
  induction hmembers with
  | nil => rfl
  | @cons member member' members members' hmember _ ih =>
    obtain ⟨hhead, hrest⟩ := List.forall_mem_cons.1 hmem
    obtain ⟨target, target', htarget, hexpect, hexpect'⟩ := h.models.exists_target hpair hhead
    have halike := h.models.alike htarget
    rw [messageField, messageField, ← hmember.name, ← hmember.target, hexpect, hexpect', ih hrest,
      hmember.fieldName]
    simp only [bind, Except.bind, halike.type, halike.isEnum]

theorem errorMethods_alike (hpair : P shape shape') (hsymbol : symbol.Alike view symbol') :
    Step.seenAll view (errorMethods context shape symbol)
      = Step.seenAll view (errorMethods context' shape' symbol') := by
  have halike := h.models.alike hpair
  have hfault : faultSymbol shape = faultSymbol shape' := by
    rw [faultSymbol, faultSymbol, halike.trait? Trait.error (by decide) (by decide)]
  have hmessage := messageField_eq h hpair halike.members fun _ hmem => hmem
  have hmethod : ∀ field : Option String,
      (messageMethod symbol field).seen view = (messageMethod symbol' field).seen view := by
    intro field
    cases field <;> simp [messageMethod, Step.line, hsymbol.seen_eq]
  unfold errorMethods
  rw [hfault, hmessage]
  cases faultSymbol shape' with
  | error failure => rfl
  | ok fault =>
    cases messageField context'.model shape'.members with
    | error failure => rfl
    | ok field =>
      simp only [bind, Except.bind, pure, Except.pure]
      simp [errorSteps, Step.line, hmethod, halike.name, hsymbol.seen_eq]

theorem structSteps_alike (hpair : P shape shape') (hsymbol : symbol.Alike view symbol')
    {body body' : List Step} (hbody : Step.seenAll view body = Step.seenAll view body') :
    Step.seenAll view (structSteps context shape symbol body)
      = Step.seenAll view (structSteps context' shape' symbol' body') := by
  have halike := h.models.alike hpair
  have hunion : Step.seenAll view
        (if shape.type == .union then context.comment "Only one member of this union may be set."
          else [])
      = Step.seenAll view
        (if shape'.type == .union then context'.comment "Only one member of this union may be set."
          else []) := by
    rw [halike.type]
    split
    · exact h.comment _
    · rfl
  have herror : Step.seenAll view (if shape.isError then errorMethods context shape symbol else [])
      = Step.seenAll view
        (if shape'.isError then errorMethods context' shape' symbol' else []) := by
    rw [halike.isError]
    split
    · exact errorMethods_alike h hpair hsymbol
    · rfl
  simp only [structSteps, Step.seenAll_append, h.docs hsymbol.documentation, hunion, herror]
  simp [hbody, hsymbol.seen_eq]

/-- **Structures and unions of a pair are declared alike.** -/
theorem ofStruct_alike (hpair : P shape shape') :
    Alike view (ofStruct context shape) (ofStruct context' shape') := by
  refine alike_withSymbol h hpair fun symbol symbol' hsymbol table table' htable => ?_
  have hfields := (h.models.alike hpair).fields_agree
  have hmem : ∀ named, shape.fields = .ok named → ∀ field ∈ named, field.2 ∈ shape.members := by
    intro named hnamed field hfield
    rw [Shape.fields_eq hnamed] at hfield
    obtain ⟨member, hmember, rfl⟩ := List.mem_map.1 hfield
    exact hmember
  dsimp only
  generalize hnamed : shape.fields = named at hfields ⊢
  generalize shape'.fields = named' at hfields ⊢
  cases hfields with
  | error hclash =>
    rw [hclash]
    exact ⟨structSteps_alike h hpair hsymbol rfl, htable⟩
  | ok hfields =>
    obtain ⟨hfields, htable⟩ := typed_alike h hpair hfields (hmem _ hnamed) htable
    exact ⟨structSteps_alike h hpair hsymbol (fieldsSteps_alike h hfields), htable⟩

end Struct

/-! ### Services -/

/-- **The fields that integrations add** are alike for the services of a pair, or clash alike. -/
theorem collectFields_agree {integrations integrations' : List Integration}
    (hintegrations : List.Forall₂ (Integration.Alike view P) integrations integrations')
    (hpair : P shape shape') (htype : shape.type = .service) :
    Agree Eq (List.Forall₂ fun found found' => found.2.Alike view found'.2)
      (Integration.collectFields integrations shape)
      (Integration.collectFields integrations' shape') := by
  have hcollect : ∀ {found found' : List (Integration × ConfigField)},
      List.Forall₂ (fun found found' => found.1.owner = found'.1.owner ∧
        found.2.Alike view found'.2) found found' →
      ∀ owners, Agree Eq (List.Forall₂ fun found found' => found.2.Alike view found'.2)
        (Integration.collectFrom owners found) (Integration.collectFrom owners found') := by
    intro found found' hfound
    induction hfound with
    | nil => exact fun _ => .ok .nil
    | @cons first first' rest rest' hfirst _ ih =>
      intro owners
      rw [Integration.collectFrom, Integration.collectFrom, hfirst.2.name, hfirst.1]
      split
      · exact .error rfl
      · exact (ih _).bind fun _ _ hrest => .ok (.cons hfirst.2 hrest)
  refine hcollect (List.rel_flatMap (R := Integration.Alike view P) ?_ ?_) _
  · refine List.rel_filter ?_ hintegrations
    intro integration integration' hintegration
    dsimp only
    rw [hintegration.applies hpair htype]
  · intro integration integration' hintegration
    rw [List.forall₂_map_left_iff, List.forall₂_map_right_iff]
    refine hintegration.fields.imp fun field field' hfield => ⟨?_, hfield⟩
    rw [Integration.owner, Integration.owner, hintegration.name]

section Service

variable (h : context.Alike view P context')
include h

theorem resolvers_eq :
    context.matching.filterMap (·.resolver) = context'.matching.filterMap (·.resolver) := by
  rw [← List.forall₂_eq_eq_eq]
  refine List.rel_filterMap ?_ h.matching
  intro integration integration' hintegration
  dsimp only
  rw [hintegration.resolver]
  cases integration'.resolver with
  | none => exact .none
  | some resolver => exact .some rfl

theorem clientType_alike (hsymbol : symbol.Alike view symbol') :
    Step.seenAll view (clientType context symbol)
      = Step.seenAll view (clientType context' symbol') := by
  simp [clientType, Step.line, h.docs hsymbol.documentation, hsymbol.seen_eq]

theorem clientConstructor_alike (hsymbol : symbol.Alike view symbol') :
    Step.seenAll view (clientConstructor context symbol)
      = Step.seenAll view (clientConstructor context' symbol') := by
  simp [clientConstructor, constructorBody, Step.line, h.comment, resolvers_eq h, hsymbol.name,
    hsymbol.seen_eq]

theorem serviceMethods_alike (hpair : P shape shape') (hsymbol : symbol.Alike view symbol') :
    Step.seenAll view (serviceMethods context shape symbol)
      = Step.seenAll view (serviceMethods context' shape' symbol') := by
  have htitle : clientTitle context shape = clientTitle context' shape' := by
    rw [clientTitle, clientTitle, h.settings.clientId,
      (h.models.alike hpair).trait? Trait.title (by decide) (by decide)]
  simp [serviceMethods, Step.line, h.comment, htitle, h.settings.clientId, hsymbol.seen_eq]

theorem optionsSteps_alike (transport : Transport) {fields fields' : List ConfigField}
    (hfields : List.Forall₂ (ConfigField.Alike view) fields fields') :
    Step.seenAll view (optionsSteps context transport fields)
      = Step.seenAll view (optionsSteps context' transport fields') := by
  have hconfig : Step.seenAll view (fields.flatMap (configField context))
      = Step.seenAll view (fields'.flatMap (configField context')) :=
    Step.seenAll_flatMap_congr hfields fun field field' hfield => by
      simp [configField, Step.line, h.docs hfield.documentation, hfield.name, hfield.type]
  simp [optionsSteps, optionsFields, copyMethod, Step.line, h.comment, hconfig]

/-- **Services of a pair are declared alike.** -/
theorem ofService_alike (hpair : P shape shape') (htype : shape.type = .service) :
    Alike view (ofService context shape) (ofService context' shape') := by
  have halike := h.models.alike hpair
  have htransport : httpTransport context shape = httpTransport context' shape' := by
    rw [httpTransport, httpTransport, h.transport, halike.id]
  rw [ofService, ofService, htransport]
  refine alike_withValue (Failure.Alike.agree_self _) fun transport _ heq => ?_
  subst heq
  refine alike_withSymbol h hpair fun client client' hclient => alike_ofSteps ?_
  have hfields := collectFields_agree h.integrations hpair htype
  simp only [clientSteps, Step.seenAll_append, clientType_alike h hclient,
    clientConstructor_alike h hclient, serviceMethods_alike h hpair hclient]
  generalize Integration.collectFields context.integrations shape = fields,
    Integration.collectFields context'.integrations shape' = fields' at hfields
  cases hfields with
  | error hclash => rw [hclash]
  | ok hfields =>
    refine congrArg _ (optionsSteps_alike h transport ?_)
    rw [List.forall₂_map_left_iff, List.forall₂_map_right_iff]
    exact hfields

end Service

end Declaration

/-- **Every generator declares a pair of shapes alike.** -/
theorem Generator.declare_alike (h : context.Alike view P context') (hpair : P shape shape')
    {generator : Generator} (htakes : generator.takes shape = true) :
    Declaration.Alike view (generator.declare context shape)
      (generator.declare context' shape') := by
  cases generator with
  | service => exact Declaration.ofService_alike h hpair (eq_of_beq htakes)
  | enum => exact Declaration.ofEnum_alike h hpair
  | struct => exact Declaration.ofStruct_alike h hpair
  | remark type =>
    intro table table' htable
    have hstub : Declaration.Alike view
        (Declaration.withSymbol context shape fun symbol =>
          .ofSteps [.line ["// stub ", .name symbol], .blank])
        (Declaration.withSymbol context' shape' fun symbol =>
          .ofSteps [.line ["// stub ", .name symbol], .blank]) :=
      Declaration.alike_withSymbol h hpair fun symbol symbol' hsymbol =>
        Declaration.alike_ofSteps (by simp [Step.line, hsymbol.seen_eq])
    obtain ⟨hsteps, htables⟩ := hstub table table' htable
    refine ⟨?_, htables⟩
    simp only [Generator.declare, remarkOn, Step.seenAll_append,
      h.docs (h.models.alike hpair).documentation, hsteps]

end

end ClientGen
