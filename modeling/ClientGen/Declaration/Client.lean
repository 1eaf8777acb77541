import ClientGen.Declaration.Basic

/-!
# Declaration of a client

A service is declared as a client type with a constructor, methods that name the service, the
options of the client, and the interface of the transport.  Integrations add fields to the options
and resolvers to the constructor.
-/

namespace ClientGen.Declaration

/-- The options of a client. -/
def optionsType : Symbol := .value "Options"

/-- The functions that change the options of an operation. -/
def optionFuncType : Symbol := .value "APIOptionFunc"

/-- The transport of a run, which must be HTTP. -/
def httpTransport (context : Context) (shape : Shape) : Except Failure Transport :=
  match context.transport with
  | none => .error (.model (.protocolNotHttp .null shape.id))
  | some transport =>
    if transport.isHttp then .ok transport
    else .error (.model (.protocolNotHttp (.str transport.name) shape.id))

/-- What the client calls its service in full. -/
def clientTitle (context : Context) (shape : Shape) : String :=
  let title := (shape.trait? Trait.title).getD .null
  if title.truthy then title.text else context.settings.clientId

/-- The client type. -/
def clientType (context : Context) (client : Symbol) : List Step :=
  context.docs client.documentation
    ++ [.block (.parts ["type ", .name client, " struct \x7b"]) "\x7d"
          [.line ["options ", .full optionsType]],
        .blank]

/-- The call of an integration's resolver in the constructor; an error is returned at once. -/
def resolverSteps (resolver : Symbol) : List Step :=
  [.block (.parts ["if err := ", .full resolver, "(&options); err != nil \x7b"]) "\x7d"
      [.line ["return nil, err"]],
    .blank]

/-- The body of the constructor. -/
def constructorBody (context : Context) (client : Symbol) : List Step :=
  [.line ["options = options.Copy()"], .blank]
    ++ (context.matching.filterMap (·.resolver)).flatMap resolverSteps
    ++ [.block (.parts ["client := &", .name client, "\x7b"]) "\x7d" [.line ["options: options,"]],
        .blank,
        .line ["return client, nil"]]

/-- The constructor. -/
def clientConstructor (context : Context) (client : Symbol) : List Step :=
  context.comment ("New returns an initialized " ++ client.name ++ " based on the functional options. "
      ++ "Provide additional functional options to further configure the behavior of the client, "
      ++ "such as changing the client's endpoint or adding custom middleware behavior.")
    ++ [.block (.parts ["func ", "New", "(options ", .full optionsType, ") (", .pointer client,
            ", error) \x7b"]) "\x7d"
          (constructorBody context client),
        .blank]

/-- The methods that name the service. -/
def serviceMethods (context : Context) (shape : Shape) (client : Symbol) : List Step :=
  context.comment "ServiceID returns the name of the identifier for the service API."
    ++ [.line ["func (c ", .pointer client, ") ServiceID() string \x7b return ",
          .quoted context.settings.clientId, " \x7d"], .blank]
    ++ context.comment "ServiceName returns the full service title."
    ++ [.line ["func (c ", .pointer client, ") ServiceName() string \x7b return ",
          .quoted (clientTitle context shape), " \x7d"], .blank]

/-- A field that an integration adds to the options. -/
def configField (context : Context) (field : ConfigField) : List Step :=
  context.docs field.documentation ++ [.line [field.name, " ", .pointer field.type], .blank]

/-- The fields of the options. -/
def optionsFields (context : Context) (fields : List ConfigField) : List Step :=
  context.comment ("Set of options to modify how an operation is invoked. These apply to all "
      ++ "operations invoked for this client. Use functional options on operation call to modify "
      ++ "this list for per operation behavior.")
    ++ [.line ["APIOptions []", .full optionFuncType], .blank]
    ++ fields.flatMap (configField context)
    ++ context.comment ("The HTTP client to invoke API calls with. Defaults to client's default "
      ++ "HTTP implementation if nil.")
    ++ [.line ["HTTPClient HTTPClient"]]

/-- The interface of the transport. -/
def transportInterface (transport : Transport) : List Step :=
  [.block (.parts ["type ", "HTTPClient", " interface \x7b"]) "\x7d"
      [.line ["Do(", .pointer transport.request, ") (", .pointer transport.response, ", error)"]],
    .blank]

/-- The method that copies the options. -/
def copyMethod (context : Context) : List Step :=
  context.comment "Copy creates a clone where the APIOptions list is deep copied."
    ++ [.block (.parts ["func (o ", .full optionsType, ") Copy() ", .full optionsType, " \x7b"])
          "\x7d"
          [.line ["to := o"],
            .line ["to.APIOptions = make([]", .full optionFuncType, ", len(o.APIOptions))"],
            .line ["copy(to.APIOptions, o.APIOptions)"],
            .line ["return to"]],
        .blank]

/-- The options, the interface of the transport and the type of option functions. -/
def optionsSteps (context : Context) (transport : Transport) (fields : List ConfigField) :
    List Step :=
  [.block (.parts ["type ", .full optionsType, " struct \x7b"]) "\x7d"
      (optionsFields context fields),
    .blank]
    ++ transportInterface transport
    ++ copyMethod context
    ++ [.line ["type ", .full optionFuncType, " func(", .pointer .stackType, ") error"], .blank]

/-- The client with all that belongs to it. -/
def clientSteps (context : Context) (shape : Shape) (transport : Transport) (client : Symbol) :
    List Step :=
  clientType context client ++ clientConstructor context client ++ serviceMethods context shape client
    ++ (match Integration.collectFields context.integrations shape with
        | .ok fields => optionsSteps context transport (fields.map Prod.snd)
        | .error clash => [.fail (.collision clash)])

/-- The declaration of a service. -/
def ofService (context : Context) (shape : Shape) : Declaration :=
  withValue (httpTransport context shape) fun transport =>
    withSymbol context shape fun client =>
      ofSteps (clientSteps context shape transport client)

end ClientGen.Declaration
