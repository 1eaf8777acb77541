import ClientGen.Failure
import ClientGen.Integration.Basic

/-!
# Registered integrations

Integrations take effect in the order in which they are registered, no two under one name.  Once a
run has started the registration is closed.
-/

namespace ClientGen

/-- The integrations of a run, in order. -/
structure IntegrationRegistry where
  integrations : List Integration := []
  isClosed : Bool := false

namespace IntegrationRegistry

/-- The names, in order. -/
def names (registry : IntegrationRegistry) : List String :=
  registry.integrations.map (·.name)

/-- Adds an integration at the end. -/
def register (registry : IntegrationRegistry) (integration : Integration) :
    Except RegistryFault IntegrationRegistry :=
  if registry.isClosed then .error (.integrationsClosed integration.name)
  else if registry.names.contains integration.name then .error (.integrationTaken integration.name)
  else .ok { registry with integrations := registry.integrations ++ [integration] }

/-- The registry of some integrations. -/
def ofList (integrations : List Integration) : Except RegistryFault IntegrationRegistry :=
  integrations.foldlM register {}

/-- Takes no more integrations. -/
def close (registry : IntegrationRegistry) : IntegrationRegistry :=
  { registry with isClosed := true }

end IntegrationRegistry

end ClientGen
