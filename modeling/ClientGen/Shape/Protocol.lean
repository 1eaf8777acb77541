import ClientGen.Model.Basic
import ClientGen.Symbol.Known

/-!
# Protocols of a service

A service says by its traits which protocols it speaks: the known protocols over HTTP, and traits
whose own definition marks them as protocols.  A run uses one protocol, the wanted one or else the
first by name, and supports those over HTTP only.  Main definitions: `Shape.protocols` and
`Shape.chooseProtocol`.
-/

namespace ClientGen

/-- What a client exchanges with the service. -/
structure Transport where
  name : String
  request : Symbol
  response : Symbol

namespace Transport

/-- Requests and responses of HTTP. -/
def http : Transport where
  name := "http"
  request := Symbol.httpRequest
  response := Symbol.httpResponse

/-- Whether a client can be generated for the transport. -/
def isHttp (transport : Transport) : Bool :=
  transport.name == "http"

end Transport

/-- The traits of protocols that are known to use HTTP. -/
def httpProtocols : List String :=
  ["aws.protocols#restJson1", "aws.protocols#restXml", "aws.protocols#awsJson1_0",
    "aws.protocols#awsJson1_1", "aws.protocols#awsQuery", "aws.protocols#ec2Query",
    "smithy.protocols#rpcv2Cbor"]

namespace Shape

/-- Whether a trait selects a protocol. -/
def isProtocol (model : Model) (trait : String) : Except Failure Bool := do
  if httpProtocols.contains trait then return true
  match ← model.find? trait with
  | some shape => return shape.hasTrait Trait.protocolDefinition
  | none => return false

/-- The protocols among some traits. -/
def protocolsAmong (model : Model) : List String → Except Failure (List String)
  | [] => .ok []
  | trait :: rest => do
    -- Every trait is looked up, also behind the first protocol: any of them can fail.
    let isProtocol ← isProtocol model trait
    let others ← protocolsAmong model rest
    return if isProtocol then trait :: others else others

/-- The protocols of a service by name. -/
def protocols (model : Model) (service : Shape) : Except Failure (List String) := do
  return (← protocolsAmong model (Entries.keys service.traits)).mergeSort fun a b => decide (a ≤ b)

/-- A protocol that must be one over HTTP. -/
def overHttp (service : Shape) (protocol : Json) : Except Failure String :=
  match protocol with
  | .str name =>
    if httpProtocols.contains name then .ok name
    else .error (.model (.protocolNotHttp protocol service.id))
  | other =>
    if other.isKey then .error (.model (.protocolNotHttp protocol service.id))
    else .error (.malformed .kind)

/-- The protocol of a run, given the protocols that the service offers.  A wanted protocol must be
one of them if there are any; otherwise the first one is taken. -/
def chooseAmong (service : Shape) (wanted : Json) (offered : List String) :
    Except Failure (Option String) :=
  if wanted.truthy then
    if !offered.isEmpty && !offered.any (fun name => wanted.same (.str name)) then
      .error (.model (.protocolNotOffered wanted offered service.id))
    else (service.overHttp wanted).map some
  else
    match offered with
    | [] => .ok none
    | name :: _ => (service.overHttp (.str name)).map some

/-- The protocol of a run: the wanted one, or else the first one by name, if there is one. -/
def chooseProtocol (model : Model) (service : Shape) (wanted : Json := .null) :
    Except Failure (Option String) := do
  service.chooseAmong wanted (← service.protocols model)

end Shape

end ClientGen
