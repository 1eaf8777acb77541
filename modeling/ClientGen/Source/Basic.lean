import ClientGen.File.Tree
import ClientGen.Model.Document
import ClientGen.Source.Url

/-!
# Sources of models

A model document is read from a file or requested from a URL.  Main definition: `loadModel`.  What a
request brings is a parameter of the functions here, so that loading is a function of the file tree
and of the answers of the network.  The limits of the system are a parameter too: nobody looks out
for a source that goes beyond them, so that it fails without words.
-/

namespace ClientGen

/-- What a request brings. -/
inductive Response where
  | reply (status : Int) (body : String)
  /-- The request took too long. -/
  | timeout
  /-- No connection could be made. -/
  | disconnected
  /-- The request failed in another way. -/
  | failed (reason : String)
  /-- The reply holds a value that cannot be used. -/
  | unusable (reason : String)
deriving DecidableEq, Repr

/-- The network: what a request for a URL brings. -/
abbrev Network := String → Response

namespace Source

/-- A document that must be an object. -/
def expectObject (document : Json) (source : String) : Except Failure (List (String × Json)) :=
  match document with
  | .obj fields => .ok fields
  | _ => .error (.source (.notObject source))

/-- What a source may ask of the system: how long names are, and what a reader takes.  The limits
are the usual ones unless others are given. -/
structure Limits where
  names : Tree.NameLimits := { name := some 255, path := some 4095 }
  text : Json.Limits := { digits := some 4300, depth := some 980 }

/-- The document in a file. -/
def readFile (tree : Tree) (path : Path) (limits : Limits := {}) :
    Except Failure (List (String × Json)) := do
  if tree.isTooLong limits.names path then throw (.malformed .content)
  if !tree.contains path then throw (.fileNotFound path.text)
  match tree.bytes path with
  | .error fault => throw (.source (.unreadable path.text fault))
  | .ok bytes =>
    match Json.parse (← formed (Tree.textOf bytes)) limits.text with
    | .error (.fault fault) => throw (.source (.badSyntax path.text fault))
    | .error (.excess excess) => throw (.malformed excess.malformed)
    | .ok document => expectObject document path.text

/-- The body of a reply without the mark of the byte order that may stand in front of it. -/
def withoutMark (body : String) : String :=
  match body.toList with
  -- A mark alone is kept: it is no document either way, but it is reported as a mark.
  | '\ufeff' :: c :: rest => String.ofList (c :: rest)
  | _ => body

/-- The document in a response. -/
def ofResponse (limits : Json.Limits) (url : String) : Response → Except Failure Json
  | .timeout => .error (.source (.timeout url))
  | .disconnected => .error (.source (.connection url))
  | .failed reason => .error (.source (.request url reason))
  | .unusable reason => .error (.source (.response url reason))
  | .reply status body =>
    if 400 ≤ status && status < 600 then .error (.source (.status status url))
    else match Json.parse (withoutMark body) limits with
      | .ok document => .ok document
      | .error (.fault fault) => .error (.source (.request url fault.message))
      | .error (.excess (.digits limit count)) =>
        .error (.source (.response url (Json.Excess.digitsMessage limit count)))
      | .error (.excess .depth) => .error (.malformed .endless)

/-- The document at a URL. -/
def request (network : Network) (url : String) (limits : Limits := {}) :
    Except Failure (List (String × Json)) := do
  if ← formed (Url.isComplete url) then
    expectObject (← ofResponse limits.text url (network url)) url
  else throw (.source (.invalidUrl url))

/-- Whether a source is requested over the network. -/
def isRemote (source : String) : Bool :=
  "http://".toList.isPrefixOf source.toList || "https://".toList.isPrefixOf source.toList

/-- The document of a source. -/
def document (tree : Tree) (network : Network) (source : String) (limits : Limits := {}) :
    Except Failure (List (String × Json)) :=
  if isRemote source then request network source limits
  else readFile tree (.ofText source) limits

end Source

/-- The model of a source. -/
def loadModel (tree : Tree) (network : Network) (source : String) (limits : Source.Limits := {}) :
    Except Failure Model := do
  let fields ← Source.document tree network source limits
  match Model.ofDocument (.obj fields) with
  | .error (.model fault) => throw (.source (.invalidModel source fault))
  | result => result

end ClientGen
