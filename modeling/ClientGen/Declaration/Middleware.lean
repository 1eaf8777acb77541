import ClientGen.Shape.Basic
import ClientGen.Symbol.Known
import ClientGen.Writer.Step

/-!
# Declaration of a middleware

A step of the middleware stack asks for a type with an ID and a handler method of a given name and
signature.  A middleware is declared from these five things, all of which must be given; `Stage`
names the steps whose signatures are known.  The body of the handler is up to the caller: a
`HandlerBody` writes one for every operation, from templates or in any other way.
-/

namespace ClientGen

/-- What must be known to declare a middleware. -/
structure Middleware where
  identifier : String
  method : String
  input : Symbol
  output : Symbol
  handler : Symbol

/-- A middleware of which parts may be missing. -/
structure Middleware.Draft where
  identifier : Option String := none
  method : Option String := none
  input : Option Symbol := none
  output : Option Symbol := none
  handler : Option Symbol := none

/-- The steps of the middleware stack. -/
inductive Stage where
  | initial
  | serialize
  | build
  | finalize
  | deserialize
deriving DecidableEq, Repr

namespace Stage

/-- The steps in the order of the stack. -/
def all : List Stage :=
  [initial, serialize, build, finalize, deserialize]

/-- The word for a step. -/
def word : Stage → String
  | initial => "initialize"
  | serialize => "serialize"
  | build => "build"
  | finalize => "finalize"
  | deserialize => "deserialize"

/-- The step that a word stands for. -/
def ofWord? (word : String) : Option Stage :=
  all.find? (·.word == word)

/-- What the names of a step's method and types are made of. -/
def title (stage : Stage) : String :=
  Name.capitalize stage.word

/-- A type of a step in the runtime. -/
def symbol (stage : Stage) (kind : String) : Symbol :=
  .value (stage.title ++ kind) Dependency.smithyMiddleware

end Stage

namespace Middleware

/-- The name of the generator in messages. -/
def generatorName : String := "StepMiddlewareGenerator"

/-- The parts of a draft that are missing. -/
def Draft.missing (draft : Draft) : List String :=
  (if draft.identifier.all String.isEmpty then ["identifier"] else [])
    ++ (if draft.method.all String.isEmpty then ["handle_method_name"] else [])
    ++ (if draft.input.isNone then ["input_type"] else [])
    ++ (if draft.output.isNone then ["output_type"] else [])
    ++ (if draft.handler.isNone then ["handler_type"] else [])

/-- The middleware of a draft in which nothing is missing. -/
def Draft.complete (draft : Draft) : Except Failure Middleware :=
  match draft with
  | ⟨some identifier, some method, some input, some output, some handler⟩ =>
    if draft.missing.isEmpty then .ok { identifier, method, input, output, handler }
    else .error (.incomplete generatorName draft.missing)
  | _ => .error (.incomplete generatorName draft.missing)

/-- The middleware for a step of the stack. -/
def ofStage (stage : Stage) (identifier : Option String) : Except Failure Middleware :=
  Draft.complete {
    identifier
    method := "Handle" ++ stage.title
    input := stage.symbol "Input"
    output := stage.symbol "Output"
    handler := stage.symbol "Handler" }

/-- The middleware for a step that is given by its word. -/
def ofWord (word : Json) (identifier : Option String) : Except Failure Middleware :=
  if word.isKey then
    match word.text?.bind Stage.ofWord? with
    | some stage => ofStage stage identifier
    | none => .error (.incomplete generatorName ["known step (got " ++ word.shown ++ ")"])
  else .error (.malformed .kind)

/-- The type of the middleware. -/
def symbol (middleware : Middleware) : Symbol :=
  .reference middleware.identifier

/-- What the templates of a body are given. -/
def arguments (middleware : Middleware) : Arguments :=
  [("method", .ofText middleware.method), ("id", .ofText middleware.identifier),
    ("input", .symbol middleware.input), ("output", .symbol middleware.output),
    ("handler", .symbol middleware.handler)]

/-- Templates written one after another with the same arguments. -/
def body (args : Arguments) (templates : List String) : List Step :=
  templates.map fun template => .write (.template template args)

/-- The method that gives the ID, by which the stack orders and replaces steps. -/
def idMethod (middleware : Middleware) : List Step :=
  [.block (.parts ["func (", .pointer middleware.symbol, ") ID() string \x7b"]) "\x7d"
      [.line ["return ", .quoted middleware.identifier]],
    .blank]

/-- The opening line of the handler. -/
def signature (middleware : Middleware) : Phrase :=
  .parts ["func (m ", .pointer middleware.symbol, ") ", middleware.method, "(ctx ",
    .full .contextType, ", in ", .full middleware.input, ", next ", .full middleware.handler,
    ") (\n\tout ", .full middleware.output, ", metadata ", .full .metadataType,
    ", err error,\n) \x7b"]

/-- The type of the middleware, its ID and its handler. -/
def steps (middleware : Middleware) (fields handler : List Step) : List Step :=
  [.use ([Symbol.contextType, .metadataType, middleware.input, middleware.output,
        middleware.handler].flatMap Symbol.dependencies),
    .block (.parts ["type ", .name middleware.symbol, " struct \x7b"]) "\x7d" fields,
    .blank]
    ++ middleware.idMethod
    ++ [.block middleware.signature "\x7d" handler, .blank]

end Middleware

/-- What writes the body of a handler: the steps for an operation in its middleware. -/
structure HandlerBody where
  steps : Shape → Middleware → List Step

namespace HandlerBody

/-- The body that templates give, each with the name of the operation and the parts of the
middleware as arguments. -/
def ofTemplates (templates : List String) : HandlerBody where
  steps operation middleware :=
    Middleware.body (("operation", Value.ofText operation.name) :: middleware.arguments) templates

instance : Coe (List String) HandlerBody := ⟨ofTemplates⟩

end HandlerBody

end ClientGen
