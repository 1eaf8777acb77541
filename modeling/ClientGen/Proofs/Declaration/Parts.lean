import ClientGen.Proofs.Generation.Declared

/-!
# What declarations are made of

A declaration consists of lines, blocks, comments and empty lines, and it may end in a failure.  It
never uses a template and never changes the indentation by itself.  What is asked of all parts of
its lines, and of its failures, holds for the declaration if it holds for the few symbols that the
declaration writes.

## Main definitions

* `Step.AllMadeOf` — steps are made of parts and failures of some kinds.

## Main results

* `Declaration.madeOf_clientSteps`, `madeOf_enumSteps`, `madeOf_structSteps` — what the declarations
  are made of.
-/

namespace ClientGen

/-- All parts of the phrase are of one kind; a template has no parts. -/
@[simp]
def Phrase.MadeOf (Q : Part → Prop) : Phrase → Prop
  | .parts found => ∀ part ∈ found, Q part
  | .template .. => False

namespace Step

variable {Q : Part → Prop} {R : Failure → Prop}

mutual

/-- The step writes parts of one kind, comments or empty lines, or it is a failure of one kind. -/
@[simp]
def MadeOf (Q : Part → Prop) (R : Failure → Prop) : Step → Prop
  | .write phrase => phrase.MadeOf Q
  | .block opening closing body => opening.MadeOf Q ∧ AllMadeOf Q R body ∧ closing.MadeOf Q
  | .fail failure => R failure
  | .blank | .docs _ => True
  | .packageDocs _ | .indent _ | .dedent _ | .use _ => False
termination_by structural step => step

/-- All steps write parts of one kind or are failures of one kind. -/
@[simp]
def AllMadeOf (Q : Part → Prop) (R : Failure → Prop) : List Step → Prop
  | [] => True
  | step :: rest => MadeOf Q R step ∧ AllMadeOf Q R rest
termination_by structural steps => steps

end

@[simp]
theorem allMadeOf_append {first second : List Step} :
    AllMadeOf Q R (first ++ second) ↔ AllMadeOf Q R first ∧ AllMadeOf Q R second := by
  induction first with
  | nil => simp [AllMadeOf]
  | cons step rest ih => simp [AllMadeOf, ih, and_assoc]

@[simp]
theorem allMadeOf_flatMap {α : Type} {xs : List α} {steps : α → List Step} :
    AllMadeOf Q R (xs.flatMap steps) ↔ ∀ x ∈ xs, AllMadeOf Q R (steps x) := by
  induction xs with
  | nil => simp [AllMadeOf]
  | cons x rest ih => simp [ih]

end Step

/-- A kind of parts to which all texts belong. -/
structure Part.HasTexts (Q : Part → Prop) : Prop where
  text : ∀ literal, Q (.text literal)
  quoted : ∀ literal, Q (.quoted literal)

/-! ## Declarations -/

namespace Integration

/-- The fields that integrations add to the options of a service's client, in their order. -/
def contributed (integrations : List Integration) (service : Shape) : List ConfigField :=
  (integrations.filter (·.applies service)).flatMap (·.fields)

/-- Fields are collected as they are given, as long as each has a name that is not taken. -/
theorem collectFrom_eq_ok {given fields : List (Integration × ConfigField)}
    {owners : List (String × String)} : collectFrom owners given = .ok fields ↔
      fields = given ∧ (owners.map Prod.fst).Disjoint (given.map (·.2.name)) ∧
        (given.map (·.2.name)).Nodup := by
  -- On the fields that are given: each takes its name from those behind it.
  induction given generalizing owners fields with
  | nil => simp [collectFrom, eq_comm]
  | cons head rest ih =>
    obtain ⟨integration, field⟩ := head
    rw [collectFrom]
    cases hlookup : owners.lookup field.name with
    | some first =>
      have htaken : field.name ∈ owners.map Prod.fst := by
        obtain ⟨before, after, rfl, -⟩ := List.lookup_eq_some_iff.1 hlookup
        simp
      simp only [reduceCtorEq, List.map_cons, List.disjoint_cons_right, false_iff]
      exact fun h => h.2.1.1 htaken
    | none =>
      have hfree : field.name ∉ owners.map Prod.fst := by
        rintro hmem
        obtain ⟨entry, hentry, hname⟩ := List.mem_map.1 hmem
        simpa [hname] using List.lookup_eq_none_iff.1 hlookup entry hentry
      simp only [bind_eq_ok, pure_eq_ok, ih, List.map_append, List.map_cons, List.map_nil,
        List.disjoint_append_left, List.singleton_disjoint, List.disjoint_cons_right, hfree,
        List.nodup_cons, not_false_eq_true, true_and]
      constructor
      · rintro ⟨others, ⟨rfl, ⟨hrest, hnew⟩, hnodup⟩, rfl⟩
        exact ⟨rfl, hrest, hnew, hnodup⟩
      · rintro ⟨rfl, hrest, hnew, hnodup⟩
        exact ⟨rest, ⟨rfl, ⟨hrest, hnew⟩, hnodup⟩, rfl⟩

/-- **Fields are collected** exactly if all names are different, those of every client among
them. -/
theorem collectFields_eq_ok {integrations : List Integration} {service : Shape}
    {fields : List (Integration × ConfigField)} :
    collectFields integrations service = .ok fields ↔
      fields = ((integrations.filter (·.applies service)).flatMap fun integration =>
        integration.fields.map fun field => (integration, field)) ∧
      fixedFields.Disjoint ((contributed integrations service).map (·.name)) ∧
      ((contributed integrations service).map (·.name)).Nodup := by
  have hnames : (((integrations.filter (·.applies service)).flatMap fun integration =>
      integration.fields.map fun field => (integration, field)).map (·.2.name))
        = (contributed integrations service).map (·.name) := by
    simp [contributed, List.map_flatMap, Function.comp_def]
  have hfixed : (fixedFields.map fun name => (name, "service client")).map Prod.fst
      = fixedFields := rfl
  rw [collectFields, collectFrom_eq_ok, hnames, hfixed]

/-- What is collected are the fields that integrations add. -/
theorem map_snd_of_collectFields {integrations : List Integration} {service : Shape}
    {fields : List (Integration × ConfigField)}
    (h : collectFields integrations service = .ok fields) :
    fields.map Prod.snd = contributed integrations service := by
  rw [(collectFields_eq_ok.1 h).1]
  simp [contributed, List.map_flatMap, Function.comp_def]

theorem mem_of_collectFields {integrations : List Integration} {service : Shape}
    {fields : List (Integration × ConfigField)}
    (h : collectFields integrations service = .ok fields) {entry : Integration × ConfigField}
    (hmem : entry ∈ fields) :
    entry.1 ∈ integrations ∧ entry.2 ∈ entry.1.fields := by
  rw [(collectFields_eq_ok.1 h).1] at hmem
  obtain ⟨integration, hintegration, hentry⟩ := List.mem_flatMap.1 hmem
  obtain ⟨field, hfield, rfl⟩ := List.mem_map.1 hentry
  exact ⟨(List.mem_filter.1 hintegration).1, hfield⟩

end Integration

namespace Declaration

open Step

variable {context : Context} {shape : Shape} {Q : Part → Prop} {R : Failure → Prop}

@[simp]
theorem madeOf_docs (documentation : Json) : AllMadeOf Q R (context.docs documentation) := by
  unfold Context.docs
  split <;> simp

@[simp]
theorem madeOf_comment (text : String) : AllMadeOf Q R (context.comment text) :=
  madeOf_docs _

/-- **What the declaration of a client is made of**: the client and the types of the options, the
transport and the stack, and the symbols of integrations. -/
theorem madeOf_clientSteps (htexts : Part.HasTexts Q) {transport : Transport} {client : Symbol}
    (hname : Q (.name client)) (hpointer : Q (.pointer client))
    (hoptions : Q (.full optionsType)) (hfunction : Q (.full optionFuncType))
    (hstack : Q (.pointer .stackType)) (hrequest : Q (.pointer transport.request))
    (hresponse : Q (.pointer transport.response))
    (hfields : ∀ integration ∈ context.integrations, ∀ field ∈ integration.fields,
      Q (.pointer field.type))
    (hresolvers : ∀ integration ∈ context.integrations, ∀ resolver ∈ integration.resolver,
      Q (.full resolver))
    (hclash : ∀ clash, Integration.collectFields context.integrations shape = .error clash →
      R (.collision clash)) :
    AllMadeOf Q R (clientSteps context shape transport client) := by
  obtain ⟨htext, hquoted⟩ := htexts
  have hresolve : ∀ resolver integration, integration ∈ context.matching →
      integration.resolver = some resolver → AllMadeOf Q R (resolverSteps resolver) := by
    intro resolver integration hmem hresolver
    have hresolved := hresolvers integration (List.mem_filter.1 hmem).1 resolver hresolver
    simp [resolverSteps, line, htext, hresolved]
  have htype : AllMadeOf Q R (clientType context client) := by
    simp [clientType, line, htext, hname, hoptions]
  have hconstructor : AllMadeOf Q R (clientConstructor context client) := by
    simpa [clientConstructor, constructorBody, line, htext, hname, hpointer, hoptions]
      using hresolve
  have hmethods : AllMadeOf Q R (serviceMethods context shape client) := by
    simp [serviceMethods, line, htext, hquoted, hpointer]
  rw [clientSteps, allMadeOf_append, allMadeOf_append, allMadeOf_append]
  refine ⟨⟨⟨htype, hconstructor⟩, hmethods⟩, ?_⟩
  split
  · rename_i fields hcollect
    have hfield : ∀ field integration, (integration, field) ∈ fields →
        AllMadeOf Q R (configField context field) := by
      intro field integration hentry
      obtain ⟨hintegration, hmem⟩ := Integration.mem_of_collectFields hcollect hentry
      simp [configField, line, htext, hfields integration hintegration field hmem]
    simpa [optionsSteps, optionsFields, transportInterface, copyMethod, line, htext, hoptions,
      hfunction, hstack, hrequest, hresponse] using hfield
  · rename_i clash hcollect
    simpa using hclash clash hcollect

/-- **What the declaration of an enum is made of**: the name of its type. -/
theorem madeOf_enumSteps (htexts : Part.HasTexts Q) {symbol : Symbol}
    {labels : List (String × EnumValue)} (hname : Q (.name symbol)) :
    AllMadeOf Q R (enumSteps context symbol labels) := by
  obtain ⟨htext, hquoted⟩ := htexts
  simp [enumSteps, enumConstant, enumMethod, line, htext, hquoted, hname, List.map_eq_flatMap]

/-- What the methods of an error are made of: its type and its fault, with what the runtime has for
errors. -/
theorem madeOf_errorMethods (htexts : Part.HasTexts Q) {symbol : Symbol}
    (hpointer : Q (.pointer symbol)) (hsprintf : Q (.full .sprintf))
    (htype : Q (.full .errorFaultType))
    (hfault : ∀ fault, faultSymbol shape = .ok fault → Q (.full fault))
    (hnoFault : ∀ failure, faultSymbol shape = .error failure → R failure)
    (hnoMessage : ∀ failure, messageField context.model shape.members = .error failure →
      R failure) :
    AllMadeOf Q R (errorMethods context shape symbol) := by
  obtain ⟨htext, hquoted⟩ := htexts
  unfold errorMethods
  cases hfound : faultSymbol shape with
  | error failure => exact ⟨hnoFault failure hfound, trivial⟩
  | ok fault =>
    cases hmessage : messageField context.model shape.members with
    | error failure => exact ⟨hnoMessage failure hmessage, trivial⟩
    | ok message =>
      have hrendered := hfault fault hfound
      show AllMadeOf Q R (errorSteps shape symbol fault message)
      cases message <;>
        simp [errorSteps, messageMethod, line, htext, hquoted, hpointer, hsprintf, htype, hrendered]

/-- **What the declaration of a structure is made of**: its body, and for an error the methods. -/
theorem madeOf_structSteps (htexts : Part.HasTexts Q) {symbol : Symbol} {body : List Step}
    (hname : Q (.name symbol)) (hbody : AllMadeOf Q R body)
    (hmethods : shape.isError = true → AllMadeOf Q R (errorMethods context shape symbol)) :
    AllMadeOf Q R (structSteps context shape symbol body) := by
  obtain ⟨htext, -⟩ := htexts
  have herror : AllMadeOf Q R
      (if shape.isError then errorMethods context shape symbol else []) := by
    split
    · rename_i h
      exact hmethods h
    · simp
  have hremark : AllMadeOf Q R (if shape.type == .union then
      context.comment "Only one member of this union may be set." else []) := by
    split <;> simp
  simp only [structSteps, allMadeOf_append]
  exact ⟨⟨⟨madeOf_docs _, hremark⟩, by simp [htext, hname, hbody]⟩, herror⟩

/-- The body of a struct is made of its fields and of what stopped the search for their types. -/
theorem madeOf_fieldsSteps (htexts : Part.HasTexts Q) {fields : Fields}
    (hfields : ∀ field ∈ fields.found, Q (.pointer field.type))
    (hstop : ∀ failure ∈ fields.stop, R failure) :
    AllMadeOf Q R (fieldsSteps context fields) := by
  obtain ⟨htext, -⟩ := htexts
  have hfield : ∀ isFirst, ∀ field ∈ fields.found,
      AllMadeOf Q R (fieldSteps context isFirst field) := by
    intro isFirst field hmem
    unfold fieldSteps
    split <;> simp [line, htext, hfields field hmem]
  have hend : AllMadeOf Q R (fields.stop.map Step.fail).toList := by
    cases hfailure : fields.stop with
    | none => simp
    | some failure => simpa using hstop failure hfailure
  rw [fieldsSteps, allMadeOf_append]
  refine ⟨?_, hend⟩
  split
  · simp
  · rename_i first rest hfound
    rw [hfound] at hfield
    have hrest := fun field hmem => hfield false field (List.mem_cons_of_mem first hmem)
    simpa [hfield true first List.mem_cons_self] using hrest

end Declaration

end ClientGen
