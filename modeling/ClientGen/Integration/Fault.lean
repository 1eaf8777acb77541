/-!
# What can be wrong with a registration

Generators and integrations are registered under names, and integrations may be named by import
strings.
-/

namespace ClientGen

/-- Why something cannot be registered or found. -/
inductive RegistryFault where
  /-- Integrations are no longer taken. -/
  | integrationsClosed (name : String)
  /-- An integration has the name already. -/
  | integrationTaken (name : String)
  /-- An import string lacks its module or its attribute. -/
  | importIncomplete (written : String)
  /-- There is no such module. -/
  | moduleUnknown (moduleName : String)
  /-- The module has no such attribute. -/
  | attributeUnknown (moduleName member : String)
  /-- An import string names something else than an integration. -/
  | notAnIntegration (written : String)
  /-- Something else than a generator is registered as one. -/
  | notAGenerator (name : String)
  /-- A generator has the name already. -/
  | generatorTaken (name : String)
  /-- No generator has the name. -/
  | generatorUnknown (name : String) (known : List String)
deriving DecidableEq, Repr

/-- The fault in words. -/
def RegistryFault.message : RegistryFault → String
  | integrationsClosed name =>
    "Cannot register integration '" ++ name ++ "' after generation started"
  | integrationTaken name => "Integration '" ++ name ++ "' is already registered"
  | importIncomplete written =>
    "Integration must be given as 'module:attribute', got '" ++ written ++ "'"
  | moduleUnknown moduleName =>
    "Cannot import integration module '" ++ moduleName ++ "': No module named '" ++ moduleName
      ++ "'"
  | attributeUnknown moduleName member =>
    "'" ++ moduleName ++ "' has no attribute '" ++ member ++ "'"
  | notAnIntegration written => "'" ++ written ++ "' is not an Integration"
  | notAGenerator name => "Generator '" ++ name ++ "' must inherit from ShapeGenerator"
  | generatorTaken name => "Generator '" ++ name ++ "' is already registered"
  | generatorUnknown name known =>
    "No generator registered as: " ++ name ++ ". Available: " ++ ", ".intercalate known

end ClientGen
