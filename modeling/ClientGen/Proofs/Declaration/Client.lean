import ClientGen.Proofs.Declaration.Method

/-!
# What a client offers

The constructor of a client copies the options that it is given, lets every integration resolve
them, and returns a client with the result; the options have fields of the client's own around those
of integrations.  Both are read off the declaration of the service: the constructor as a list of
statements, of which there is one for every step but the empty lines, the options as a list of
fields.

Fields are collected so that their names differ.  They are not compared with the methods of the
options, though, so a field of an integration may have the name of the method that copies the
options; that is the one thing that can be wrong with the type.

## Main definitions

* `Statement`, `Step.statements?` — the statements in the body of a constructor.
* `Step.fieldsOf`, `Step.methodsOf` — the fields and methods of a type that steps declare.
* `Step.IsLegal` — all of them have names of their own.

## Main results

* `Declaration.statements_constructorBody` — what the constructor does, in order.
* `Declaration.fieldsOf_options` — the fields of the options, in order.
* `Declaration.isLegal_clientSteps` — when the options are a legal type.
-/

namespace ClientGen

/-! ## Reading -/

/-- A statement of the constructor. -/
inductive Statement where
  /-- The options are copied. -/
  | copy
  /-- A function is called with the options, and its error is returned at once. -/
  | resolve (function : Symbol)
  /-- A client with the options is built. -/
  | build (client : Symbol)
  /-- The client is returned. -/
  | finish

namespace Step

/-- Whether the step is an empty line. -/
def isBlank : Step → Bool
  | .blank => true
  | _ => false

/-- The statement that a step of the constructor's body makes. -/
def statement? : Step → Option Statement
  | .write (.parts [.text "options = options.Copy()"]) => some .copy
  | .block (.parts [.text "if err := ", .full function, .text "(&options); err != nil \x7b"])
      (.parts [.text "\x7d"]) [.write (.parts [.text "return nil, err"])] =>
    some (.resolve function)
  | .block (.parts [.text "client := &", .name client, .text "\x7b"]) (.parts [.text "\x7d"])
      [.write (.parts [.text "options: options,"])] => some (.build client)
  | .write (.parts [.text "return client, nil"]) => some .finish
  | _ => none

/-- The statements of a body, if it consists of statements and empty lines. -/
def statements? (body : List Step) : Option (List Statement) :=
  (body.filter fun step => !step.isBlank).mapM statement?

/-- The function that a step at the top of a unit declares, with its body. -/
def function? : Step → Option (String × List Step)
  | .block opening _ body =>
    match opening.texts with
    | "func " :: name :: _ => some (name, body)
    | _ => none
  | _ => none

/-- The field that a line of a struct declares, with the text of its type: the line is put together
from the two, or its first word is the name. -/
def typedField? : Step → Option (String × String)
  | .write phrase =>
    match phrase.texts with
    | [name, " ", type] => some (name, type)
    | texts => (Text.cut? ' ' (texts.flatMap String.toList)).map fun parts =>
        (String.ofList parts.1, String.ofList parts.2)
  | _ => none

/-- The struct that a step at the top of a unit declares, with its fields. -/
def typedStruct? : Step → Option (String × List (String × String))
  | .block opening _ body =>
    match opening.texts with
    | ["type ", name, " struct \x7b"] => some (name, body.filterMap typedField?)
    | _ => none
  | _ => none

/-- The fields of the structs of a name. -/
def fieldsOf (type : String) (steps : List Step) : List (String × String) :=
  ((steps.filterMap typedStruct?).filter (·.1 == type)).flatMap Prod.snd

/-- The names of the methods of the type of a name. -/
def methodsOf (type : String) (steps : List Step) : List String :=
  (((steps.filterMap method?).map Method.key).filter (·.1 == type)).map Prod.snd

/-- The fields of the struct of a name have different names, none of them that of a method. -/
def IsLegal (type : String) (steps : List Step) : Prop :=
  ((fieldsOf type steps).map Prod.fst).Nodup ∧
    ((fieldsOf type steps).map Prod.fst).Disjoint (methodsOf type steps)

/-- A struct that is read with its fields is a declaration of a struct. -/
theorem declared?_of_typedStruct? {step : Step} {found : String × List (String × String)}
    (h : typedStruct? step = some found) : declared? step = some (.struct found.1) := by
  cases step with
  | block opening closing body =>
    simp only [typedStruct?] at h
    split at h
    · rename_i name htexts
      obtain rfl := Option.some.inj h
      simp only [declared?, htexts]
    · simp at h
  | _ => simp [typedStruct?] at h

@[simp]
theorem statements?_blank (rest : List Step) : statements? (.blank :: rest) = statements? rest :=
  rfl

theorem statements?_cons {step : Step} {statement : Statement} {rest : List Step}
    (h : statement? step = some statement) :
    statements? (step :: rest) = (statements? rest).map (statement :: ·) := by
  have hnot : step.isBlank = false := by
    cases step with
    | blank => simp [statement?] at h
    | _ => rfl
  simp only [statements?, List.filter_cons, hnot, Bool.not_false, if_true, List.mapM_cons, h]
  cases (rest.filter fun step => !step.isBlank).mapM statement? <;> rfl

theorem filterMap_typedStruct?_eq_nil {steps : List Step} (h : steps.filterMap declared? = []) :
    steps.filterMap typedStruct? = [] := by
  rw [List.filterMap_eq_nil_iff] at h ⊢
  intro step hstep
  cases hfound : typedStruct? step with
  | none => rfl
  | some found =>
    have hdeclared := declared?_of_typedStruct? hfound
    rw [h step hstep] at hdeclared
    simp at hdeclared

end Step

theorem Symbol.relativeTo_none (symbol : Symbol) : symbol.relativeTo none = symbol := by
  induction symbol with
  | named identity => cases h : identity.dependency <;> simp [relativeTo, h]
  | composite container element isPointer ih => rw [relativeTo, ih]

namespace Declaration

open Step

variable {context : Context} {shape : Shape}

/-! ## The constructor -/

/-- Every resolver is called, before what follows. -/
theorem statements?_resolvers (resolvers : List Symbol) {rest : List Step} {last : List Statement}
    (h : statements? rest = some last) :
    statements? (resolvers.flatMap resolverSteps ++ rest)
      = some (resolvers.map .resolve ++ last) := by
  induction resolvers with
  | nil => exact h
  | cons resolver others ih =>
    have hblock : statement? (.block (.parts ["if err := ", .full resolver,
        "(&options); err != nil \x7b"]) "\x7d" [.line ["return nil, err"]])
        = some (.resolve resolver) := rfl
    simp only [List.flatMap_cons, resolverSteps, List.cons_append, List.nil_append, List.map_cons]
    rw [statements?_cons hblock, statements?_blank, ih]
    rfl

/-- **What the constructor does**: it copies the options, calls the resolvers of the integrations
that count for the service of the run, in their order, and returns the client. -/
theorem statements_constructorBody (client : Symbol) :
    statements? (constructorBody context client)
      = some (.copy :: (context.matching.filterMap (·.resolver)).map .resolve
          ++ [.build client, .finish]) := by
  have hcopy : statement? (.line ["options = options.Copy()"]) = some .copy := rfl
  have hlast : statements? [.block (.parts ["client := &", .name client, "\x7b"]) "\x7d"
      [.line ["options: options,"]], .blank, .line ["return client, nil"]]
      = some [.build client, .finish] := rfl
  simp only [constructorBody, List.cons_append, List.nil_append]
  rw [statements?_cons hcopy, statements?_blank, statements?_resolvers _ hlast]
  rfl

@[simp]
theorem functions_docs (documentation : Json) :
    (context.docs documentation).filterMap function? = [] := by
  unfold Context.docs
  split <;> rfl

@[simp]
theorem functions_comment (text : String) : (context.comment text).filterMap function? = [] :=
  functions_docs _

theorem functions_serviceMethods (client : Symbol) :
    (serviceMethods context shape client).filterMap function? = [] := by
  simp only [serviceMethods, List.filterMap_append, functions_comment]
  rfl

theorem functions_optionsSteps (transport : Transport) (fields : List ConfigField) :
    (optionsSteps context transport fields).filterMap function? = [] := by
  simp only [optionsSteps, transportInterface, copyMethod, List.filterMap_append,
    functions_comment]
  rfl

/-- **The one function of a client unit** is the constructor. -/
theorem functions_clientSteps {transport : Transport} {client : Symbol}
    (hrun : Step.Run (clientSteps context shape transport client)) :
    (clientSteps context shape transport client).filterMap function?
      = [("New", constructorBody context client)] := by
  obtain ⟨fields, hfields⟩ := collectFields_of_run hrun
  simp only [clientSteps, hfields, List.filterMap_append, functions_serviceMethods,
    functions_optionsSteps, clientType, clientConstructor, functions_docs, functions_comment]
  rfl

/-! ## The options -/

/-- The fields of the options, with the texts of their types. -/
def optionFields (contributed : List ConfigField) : List (String × String) :=
  ("APIOptions", "[]APIOptionFunc")
    :: contributed.map (fun field => (field.name, field.type.pointer))
    ++ [("HTTPClient", "HTTPClient")]

theorem map_fst_optionFields (contributed : List ConfigField) :
    (optionFields contributed).map Prod.fst
      = "APIOptions" :: contributed.map (·.name) ++ ["HTTPClient"] := by
  simp [optionFields]

theorem typedFields_optionsFields (contributed : List ConfigField) :
    (optionsFields context contributed).filterMap typedField? = optionFields contributed := by
  have hdocs : ∀ documentation, (context.docs documentation).filterMap typedField? = [] := by
    intro documentation
    unfold Context.docs
    split <;> rfl
  have hfields : (contributed.flatMap (configField context)).filterMap typedField?
      = contributed.map fun field => (field.name, field.type.pointer) := by
    induction contributed with
    | nil => rfl
    | cons field rest ih =>
      simp [configField, hdocs, ih, List.filterMap_cons, typedField?, Step.line, Phrase.texts,
        Part.render, Symbol.relativeTo_none]
  have hfirst : typedField? (.line ["APIOptions []", .full optionFuncType])
      = some ("APIOptions", "[]APIOptionFunc") := by decide
  have hlast : typedField? (.line ["HTTPClient HTTPClient"])
      = some ("HTTPClient", "HTTPClient") := by
    decide
  have hblank : typedField? .blank = none := rfl
  simp only [optionsFields, Context.comment, List.filterMap_append, List.filterMap_cons,
    List.filterMap_nil, hdocs, hfields, hfirst, hlast, hblank]
  simp [optionFields]

theorem typedStructs_clientType (client : Symbol) :
    (clientType context client).filterMap typedStruct?
      = [(client.name, [("options", "Options")])] := by
  have hdocs := filterMap_typedStruct?_eq_nil
    (context.filterMap_declared?_docs client.documentation)
  have hfield : typedField? (.line ["options ", .full optionsType])
      = some ("options", "Options") := by
    decide
  simp [clientType, hdocs, List.filterMap_cons, typedStruct?, Phrase.texts, Part.render,
    Symbol.name_relativeTo, hfield]

theorem typedStructs_optionsSteps (transport : Transport) (contributed : List ConfigField) :
    (optionsSteps context transport contributed).filterMap typedStruct?
      = [("Options", optionFields contributed)] := by
  have hoptions : typedStruct? (.block (.parts ["type ", .full optionsType, " struct \x7b"]) "\x7d"
      (optionsFields context contributed)) = some ("Options", optionFields contributed) := by
    have hname : (optionsType.relativeTo none).fullName = "Options" := rfl
    simp [typedStruct?, Phrase.texts, Part.render, hname, typedFields_optionsFields]
  have hothers : (Step.blank :: (transportInterface transport ++ copyMethod context
      ++ [.line ["type ", .full optionFuncType, " func(", .pointer .stackType, ") error"],
        .blank])).filterMap typedStruct? = [] := by
    have hcomment : ∀ text, (context.comment text).filterMap typedStruct? = [] := fun text =>
      filterMap_typedStruct?_eq_nil (context.filterMap_declared?_comment text)
    simp only [transportInterface, copyMethod, List.filterMap_cons, List.filterMap_append, hcomment]
    rfl
  simp only [optionsSteps, List.append_assoc, List.cons_append, List.nil_append,
    List.filterMap_cons, hoptions] at hothers ⊢
  rw [hothers]

/-- The client and the options are the structs of a client unit. -/
theorem typedStructs_clientSteps {transport : Transport} {client : Symbol}
    (hrun : Step.Run (clientSteps context shape transport client)) :
    (clientSteps context shape transport client).filterMap typedStruct?
      = [(client.name, [("options", "Options")]),
        ("Options", optionFields (Integration.contributed context.integrations shape))] := by
  obtain ⟨fields, hfields⟩ := collectFields_of_run hrun
  have hconstructor : (clientConstructor context client).filterMap typedStruct? = [] := by
    simp only [clientConstructor, List.filterMap_append,
      filterMap_typedStruct?_eq_nil (context.filterMap_declared?_comment _)]
    rfl
  have hmethods : (serviceMethods context shape client).filterMap typedStruct? = [] :=
    filterMap_typedStruct?_eq_nil (declared_serviceMethods client)
  simp only [clientSteps, hfields, List.filterMap_append, typedStructs_clientType, hconstructor,
    hmethods, typedStructs_optionsSteps, Integration.map_snd_of_collectFields hfields]
  rfl

/-- **The fields of the options**: the functions that change them, the fields that integrations
contribute, in their order, and the HTTP client. -/
theorem fieldsOf_options {transport : Transport} {client : Symbol}
    (hname : client.name ≠ "Options")
    (hrun : Step.Run (clientSteps context shape transport client)) :
    fieldsOf "Options" (clientSteps context shape transport client)
      = optionFields (Integration.contributed context.integrations shape) := by
  have hother : (client.name == "Options") = false := by simpa using hname
  rw [fieldsOf, typedStructs_clientSteps hrun]
  simp [hother]

/-- **The one method of the options** copies them. -/
theorem methodsOf_options {transport : Transport} {client : Symbol}
    (hname : client.name ≠ "Options")
    (hrun : Step.Run (clientSteps context shape transport client)) :
    methodsOf "Options" (clientSteps context shape transport client) = ["Copy"] := by
  have hother : (client.name == "Options") = false := by simpa using hname
  rw [methodsOf, methods_clientSteps hrun]
  simp [hother]

/-- The names of the fields of the options differ. -/
theorem nodup_optionFields {fields : List (Integration × ConfigField)}
    (h : Integration.collectFields context.integrations shape = .ok fields) :
    ((optionFields (Integration.contributed context.integrations shape)).map Prod.fst).Nodup := by
  obtain ⟨-, hfixed, hnodup⟩ := Integration.collectFields_eq_ok.1 h
  have hfirst : "APIOptions" ∉ (Integration.contributed context.integrations shape).map (·.name) :=
    hfixed (by simp [Integration.fixedFields])
  have hlast : "HTTPClient" ∉ (Integration.contributed context.integrations shape).map (·.name) :=
    hfixed (by simp [Integration.fixedFields])
  rw [map_fst_optionFields, List.cons_append, List.nodup_cons, List.nodup_append]
  refine ⟨?_, hnodup, List.nodup_singleton _, ?_⟩
  · rw [List.mem_append, List.mem_singleton]
    rintro (h | h)
    · exact hfirst h
    · exact absurd h (by decide)
  · rintro name hmem last hmem' rfl
    rw [List.mem_singleton] at hmem'
    exact hlast (hmem' ▸ hmem)

/-- The options of a client are legal unless a field takes the name of their method. -/
theorem isLegal_clientSteps {transport : Transport} {client : Symbol}
    (hname : client.name ≠ "Options")
    (hrun : Step.Run (clientSteps context shape transport client)) :
    IsLegal "Options" (clientSteps context shape transport client) ↔
      "Copy" ∉ (Integration.contributed context.integrations shape).map (·.name) := by
  obtain ⟨fields, hfields⟩ := collectFields_of_run hrun
  rw [IsLegal, fieldsOf_options hname hrun, methodsOf_options hname hrun,
    and_iff_right (nodup_optionFields hfields), map_fst_optionFields]
  simp

end Declaration

end ClientGen
