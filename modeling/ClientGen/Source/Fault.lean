import ClientGen.File.Fault
import ClientGen.Json.Parser
import ClientGen.Model.Fault

/-!
# What can go wrong when a model is loaded

A model document comes from a file or from a URL, and must hold a model.
-/

namespace ClientGen

/-- Why a model cannot be loaded. -/
inductive SourceFault where
  | badSyntax (path : String) (fault : Json.SyntaxFault)
  | unreadable (path : String) (fault : FileFault)
  | notObject (source : String)
  | invalidModel (source : String) (fault : ModelFault)
  | invalidUrl (url : String)
  | timeout (url : String)
  | connection (url : String)
  | status (code : Int) (url : String)
  /-- Any other failure of the request. -/
  | request (url reason : String)
  /-- A value in the response cannot be used. -/
  | response (url reason : String)

/-- The fault in words. -/
def SourceFault.message : SourceFault → String
  | badSyntax path fault => "Invalid JSON in model file " ++ path ++ ": " ++ fault.message
  | unreadable path fault => "Error reading model file " ++ path ++ ": " ++ fault.message
  | notObject source => "Model document must be a JSON object: " ++ source
  | invalidModel source fault => "Invalid model in " ++ source ++ ": " ++ fault.message
  | invalidUrl url => "Invalid URL: " ++ url
  | timeout url => "Request timeout for URL: " ++ url
  | connection url => "Connection error for URL: " ++ url
  | status code url => "HTTP error " ++ toString code ++ " for URL: " ++ url
  | request url reason => "Request error for URL " ++ url ++ ": " ++ reason
  | response url reason => "Invalid JSON response from URL " ++ url ++ ": " ++ reason

end ClientGen
