import ClientGen.Declaration.Middleware
import ClientGen.Model.Basic

/-!
# Integrations

An integration extends the generated client.  It may add fields to the options of the client and a
function that the client's constructor calls to resolve them, and it may supply the bodies of the
middleware that speaks a protocol.  A condition decides for which services it counts.
-/

namespace ClientGen

/-- A field that an integration adds to the options. -/
structure ConfigField where
  name : String
  type : Symbol
  documentation : Json := .null

/-- The bodies of the middleware of a protocol. -/
structure ProtocolBodies where
  protocol : String
  serialize : HandlerBody := .ofTemplates []
  deserialize : HandlerBody := .ofTemplates []

/-- The part of the protocol's id after the namespace. -/
def ProtocolBodies.name (bodies : ProtocolBodies) : String :=
  match Text.cut? '#' bodies.protocol.toList with
  | some (_, name) => String.ofList name
  | none => bodies.protocol

/-- For which services an integration counts. -/
inductive Condition where
  | always
  | constant (holds : Bool)
  /-- Services with one of these traits. -/
  | protocols (traits : List String)
  /-- Services with one of these ids. -/
  | services (ids : List String)
  /-- Services that pass a test of the integration's own, for the model at hand. -/
  | custom (test : Shape → Bool)

/-- Whether the condition holds for a service. -/
def Condition.holds (service : Shape) : Condition → Bool
  | always => true
  | constant value => value
  | protocols traits => traits.any service.hasTrait
  | services ids => ids.contains service.id.text
  | custom test => test service

/-- An extension of the generated client. -/
structure Integration where
  name : String
  fields : List ConfigField := []
  resolver : Option Symbol := none
  condition : Condition := .always
  bodies : Option ProtocolBodies := none

namespace Integration

/-- Whether the integration counts for a service. -/
def applies (integration : Integration) (service : Shape) : Bool :=
  integration.condition.holds service

/-- The fields that the options of every client have. -/
def fixedFields : List String :=
  ["APIOptions", "HTTPClient"]

/-- What claims a field of an integration, in the words of messages. -/
def owner (integration : Integration) : String :=
  "integration " ++ integration.name

/-- Adds fields of an integration to those collected so far, given the owners of their names. -/
def collectFrom (owners : List (String × String)) :
    List (Integration × ConfigField) → Except Collision (List (Integration × ConfigField))
  | [] => .ok []
  | (integration, field) :: rest =>
    match owners.lookup field.name with
    | some first =>
      .error {
        identifier := field.name
        first
        second := integration.owner
        scope := "Options" }
    | none => do
      return (integration, field)
        :: (← collectFrom (owners ++ [(field.name, integration.owner)]) rest)

/-- The fields of the integrations that count for a service, in their order; all names must be
different. -/
def collectFields (integrations : List Integration) (service : Shape) :
    Except Collision (List (Integration × ConfigField)) :=
  let fields := (integrations.filter (·.applies service)).flatMap fun integration =>
    integration.fields.map fun field => (integration, field)
  collectFrom (fixedFields.map fun name => (name, "service client")) fields

end Integration

end ClientGen
