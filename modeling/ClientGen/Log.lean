import ClientGen.Json.Basic

/-!
# Log channels

Messages for the log are sent through channels whose names form a tree: a name that continues
another one behind a point stands below it.  All channels stand below one root.  Main definition:
`Log.channel`.
-/

namespace ClientGen.Log

/-- The channel above all others. -/
def root : String := "shapegen"

/-- Whether a channel is the root or stands below it. -/
def isInside (name : String) : Bool :=
  name == root || (root ++ ".").toList.isPrefixOf name.toList

/-- The channel of a name: the root if the name is empty, and otherwise the channel of that name
inside the tree. -/
def channel (name : Json) : Except Malformed String :=
  if !name.truthy then .ok root
  else
    match name with
    | .str name => .ok (if isInside name then name else root ++ "." ++ name)
    | _ => .error .part

end ClientGen.Log
