import ClientGen.Proofs.Declaration.Parts

/-!
# Methods of declared types

A method opens with `func`, a receiver between parentheses, the name of the method and its
parameters.  It is read off a line or the opening of a block in this form, together with the name of
the receiver's type; a block has the body of the method besides.

## Main definitions

* `Method`, `Step.method?` — a method, and the one that a step declares, if it does.

## Main results

* `Middleware.methods_steps` — a middleware has a method for its ID and its handler, and no others.
* `Declaration.methods_clientSteps` — the methods of a client and of its options.
-/

namespace ClientGen

/-- A method of a type.  One that stands on a single line is read without its body. -/
structure Method where
  /-- The name of the type that the method belongs to. -/
  receiver : String
  name : String
  body : List Step := []

/-- The names that tell the method from the others of a package. -/
def Method.key (method : Method) : String × String :=
  (method.receiver, method.name)

/-- All that the method does is to return what an expression stands for. -/
def Method.Returns (method : Method) (expression : String) : Prop :=
  ∃ phrase, method.body = [.write phrase] ∧
    ∀ path, phrase.render path = .ok ("return " ++ expression)

/-! ## Reading -/

/-- The symbol that the part writes as a type. -/
def Part.type? : Part → Option Symbol
  | .full type => some type
  | .pointer type => some type
  | _ => none

namespace Phrase

/-- The name of the method that a line opens, with the name of the receiver's type. -/
def method? : Phrase → Option (String × String)
  | .parts (.text opener :: receiver :: rest) =>
    if "func (".toList.isPrefixOf opener.toList then do
      let type ← receiver.type?
      match Text.cut? '(' (rest.flatMap fun part => (part.render none).toList) with
      | some (')' :: ' ' :: name, _) => some (type.name, String.ofList name)
      | _ => none
    else none
  | _ => none

/-- What stands between the receiver and the parameters is the name. -/
theorem method?_parts {opener : String} {receiver : Part} {type : Symbol} {rest : List Part}
    {name : String} {tail : List Char} (hopener : "func (".toList.isPrefixOf opener.toList = true)
    (htype : receiver.type? = some type) (hname : '(' ∉ name.toList)
    (hrest : (rest.flatMap fun part => (part.render none).toList)
      = (')' :: ' ' :: name.toList) ++ '(' :: tail) :
    method? (.parts (.text opener :: receiver :: rest)) = some (type.name, name) := by
  have hcut : Text.cut? '(' ((')' :: ' ' :: name.toList) ++ '(' :: tail)
      = some (')' :: ' ' :: name.toList, tail) :=
    Text.cut?_append_cons (by simpa using hname) tail
  simp only [method?, hopener, if_true, htype, hrest, hcut, Option.bind_eq_bind, Option.bind_some,
    String.ofList_toList]

end Phrase

namespace Step

/-- The method that a step at the top of a unit declares. -/
def method? : Step → Option Method
  | .block opening _ body => opening.method?.map fun found =>
    { receiver := found.1, name := found.2, body }
  | .write phrase => phrase.method?.map fun found => { receiver := found.1, name := found.2 }
  | _ => none

end Step

namespace Context

@[simp]
theorem filterMap_method?_docs (context : Context) (documentation : Json) :
    (context.docs documentation).filterMap Step.method? = [] := by
  unfold docs
  split <;> rfl

@[simp]
theorem filterMap_method?_comment (context : Context) (text : String) :
    (context.comment text).filterMap Step.method? = [] :=
  context.filterMap_method?_docs _

end Context

/-! ## Middleware -/

namespace Middleware

/-- The method that gives the ID of the middleware. -/
def idOf (middleware : Middleware) : Method where
  receiver := middleware.identifier
  name := "ID"
  body := [.line ["return ", .quoted middleware.identifier]]

/-- The method that handles a step of the stack. -/
def handlerOf (middleware : Middleware) (handler : List Step) : Method where
  receiver := middleware.identifier
  name := middleware.method
  body := handler

/-- The ID is returned as a literal. -/
theorem returns_idOf (middleware : Middleware) :
    middleware.idOf.Returns (Text.quote middleware.identifier) := by
  refine ⟨_, rfl, fun path => ?_⟩
  simp [Phrase.render, Part.render, String.join]

/-- **A middleware has its ID and its handler as methods**, and no others. -/
theorem methods_steps (middleware : Middleware) (fields handler : List Step)
    (hmethod : '(' ∉ middleware.method.toList) :
    (middleware.steps fields handler).filterMap Step.method?
      = [middleware.idOf, middleware.handlerOf handler] := by
  have hid : Phrase.method?
      (.parts ["func (", .pointer middleware.symbol, ") ID() string \x7b"])
      = some (middleware.symbol.name, "ID") :=
    Phrase.method?_parts (by decide) rfl (by decide) rfl
  have hhandler : middleware.signature.method?
      = some (middleware.symbol.name, middleware.method) :=
    Phrase.method?_parts (by decide) rfl hmethod rfl
  have htype : Phrase.method? (.parts ["type ", .name middleware.symbol, " struct \x7b"]) = none :=
    rfl
  simp only [steps, idMethod, List.cons_append, List.nil_append, List.filterMap_cons, Step.method?,
    htype, hid, hhandler, Option.map_some, Option.map_none, List.filterMap_nil]
  rfl

end Middleware

/-! ## Clients -/

namespace Declaration

variable {context : Context} {shape : Shape}

theorem methods_clientType (client : Symbol) :
    (clientType context client).filterMap Step.method? = [] := by
  rw [clientType, List.filterMap_append, context.filterMap_method?_docs]
  rfl

theorem methods_clientConstructor (client : Symbol) :
    (clientConstructor context client).filterMap Step.method? = [] := by
  rw [clientConstructor, List.filterMap_append, context.filterMap_method?_comment]
  rfl

theorem methods_serviceMethods (client : Symbol) :
    (serviceMethods context shape client).filterMap Step.method?
      = [{ receiver := client.name, name := "ServiceID" },
        { receiver := client.name, name := "ServiceName" }] := by
  have hid : Phrase.method? (.parts ["func (c ", .pointer client,
      ") ServiceID() string \x7b return ", .quoted context.settings.clientId, " \x7d"])
      = some (client.name, "ServiceID") :=
    Phrase.method?_parts (by decide) rfl (by decide) rfl
  have htitle : Phrase.method? (.parts ["func (c ", .pointer client,
      ") ServiceName() string \x7b return ", .quoted (clientTitle context shape), " \x7d"])
      = some (client.name, "ServiceName") :=
    Phrase.method?_parts (by decide) rfl (by decide) rfl
  simp [serviceMethods, List.filterMap_cons, Step.method?, Step.line, hid, htitle]

/-- The only method of the options copies them. -/
theorem methods_optionsSteps (transport : Transport) (fields : List ConfigField) :
    ((optionsSteps context transport fields).filterMap Step.method?).map Method.key
      = [("Options", "Copy")] := by
  have hcopy : Phrase.method? (.parts ["func (o ", .full optionsType, ") Copy() ",
      .full optionsType, " \x7b"]) = some (optionsType.name, "Copy") :=
    Phrase.method?_parts (by decide) rfl (by decide) rfl
  have hothers : ∀ rest, Phrase.method? (.parts ("type " :: rest)) = none := by
    rintro (_ | _) <;> rfl
  simp only [optionsSteps, transportInterface, copyMethod, List.filterMap_append,
    context.filterMap_method?_comment, List.filterMap_cons, Step.method?, Step.line, hcopy, hothers,
    Option.map_some, Option.map_none, List.filterMap_nil, List.nil_append, List.append_nil]
  rfl

/-- **The methods of a client**: two that name the service, and one that copies the options. -/
theorem methods_clientSteps {transport : Transport} {client : Symbol}
    (hrun : Step.Run (clientSteps context shape transport client)) :
    ((clientSteps context shape transport client).filterMap Step.method?).map Method.key
      = [(client.name, "ServiceID"), (client.name, "ServiceName"), ("Options", "Copy")] := by
  obtain ⟨fields, hfields⟩ := collectFields_of_run hrun
  simp only [clientSteps, hfields, List.filterMap_append, List.map_append, methods_clientType,
    methods_clientConstructor, methods_serviceMethods, methods_optionsSteps]
  rfl

end Declaration

end ClientGen
