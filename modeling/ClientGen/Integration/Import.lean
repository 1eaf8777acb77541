import ClientGen.Integration.Registry

/-!
# Integrations by import string

Settings name integrations as `module:attribute`.  A module offers integrations, or functions that
make one, under its attributes; `Library` says which modules there are.
-/

namespace ClientGen

/-- What a module offers under an attribute. -/
inductive Offer where
  | integration (integration : Integration)
  /-- Something that is no integration and does not make one. -/
  | other

/-- A module and what it offers. -/
structure IntegrationModule where
  name : String
  offers : List (String × Offer)

/-- The modules that import strings can name. -/
abbrev Library := List IntegrationModule

namespace Library

/-- The integration that an import string names. -/
def load (library : Library) (written : String) : Except RegistryFault Integration :=
  match Text.cut? ':' written.toList with
  | none => .error (.importIncomplete written)
  | some (moduleName, member) =>
    if moduleName.isEmpty || member.isEmpty then .error (.importIncomplete written)
    else
      let moduleName := String.ofList moduleName
      let member := String.ofList member
      match library.find? (·.name == moduleName) with
      | none => .error (.moduleUnknown moduleName)
      | some found =>
        match found.offers.lookup member with
        | none => .error (.attributeUnknown moduleName member)
        | some .other => .error (.notAnIntegration written)
        | some (.integration integration) => .ok integration

/-- The registry of the integrations that import strings name; each is registered before the next
is loaded. -/
def loadAll (library : Library) (written : List String) :
    Except RegistryFault IntegrationRegistry :=
  written.foldlM (fun registry name => do registry.register (← library.load name)) {}

/-- The registry of the integrations that a setting names. -/
def loadSetting (library : Library) (setting : Json) : Except Failure IntegrationRegistry := do
  let entries ← formed setting.elements
  entries.foldlM (fun registry entry => do
    match entry with
    | .str written =>
      let integration ← (library.load written).mapError .registry
      (registry.register integration).mapError .registry
    | _ => throw (.malformed .part)) {}

end Library

end ClientGen
