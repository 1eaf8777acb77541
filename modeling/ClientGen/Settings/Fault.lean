import ClientGen.File.Fault
import ClientGen.Json.Parser

/-!
# What can be wrong with settings

A settings file may not be there, not be readable or not hold settings, and merged settings may
lack what a run needs.
-/

namespace ClientGen

/-- Why there are no settings. -/
inductive SettingsFault where
  | notFound (path : String)
  | notJson (path : String)
  | badSyntax (path : String) (fault : Json.SyntaxFault)
  | unreadable (path : String) (fault : FileFault)
  | notObject (path : String)
  | sectionNotObject (name path : String)
  | unwritable (path : String) (fault : FileFault)
  /-- Settings that a run needs are not given. -/
  | incomplete (missing : List String)
deriving DecidableEq, Repr

/-- The fault in words. -/
def SettingsFault.message : SettingsFault → String
  | notFound path => "Configuration file not found: " ++ path
  | notJson path => "Configuration file must be JSON: " ++ path
  | badSyntax path fault => "Invalid JSON in configuration file " ++ path ++ ": " ++ fault.message
  | unreadable path fault =>
    "Failed to load configuration file " ++ path ++ ": " ++ fault.message
  | notObject path => "Configuration file must contain a JSON object: " ++ path
  | sectionNotObject name path => "'" ++ name ++ "' settings must be an object: " ++ path
  | unwritable path fault => "Failed to save configuration to " ++ path ++ ": " ++ fault.message
  | incomplete missing => "Missing required settings: " ++ ", ".intercalate missing

end ClientGen
