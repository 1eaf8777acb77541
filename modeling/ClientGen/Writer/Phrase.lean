import ClientGen.Template.Basic

/-!
# Phrases

A phrase is what a writer writes at once: parts of text and symbols put one after another, or a
template with its arguments.  A phrase has the packages that it needs and, as seen from a package, a
text.
-/

namespace ClientGen

/-- A part of a phrase. -/
inductive Part where
  /-- Text as it is. -/
  | text (literal : String)
  /-- The full name of a symbol. -/
  | full (symbol : Symbol)
  /-- The pointer form of a symbol. -/
  | pointer (symbol : Symbol)
  /-- The name of a symbol without its package. -/
  | name (symbol : Symbol)
  /-- A text between quotes. -/
  | quoted (literal : String)
deriving Inhabited

namespace Part

/-- The packages that the part needs. -/
def dependencies : Part → List Dependency
  | text _ => []
  | full symbol => symbol.dependencies
  | pointer symbol => symbol.dependencies
  | name symbol => symbol.dependencies
  | quoted _ => []

/-- The text of the part in the package of a path. -/
def render (path : Option String) : Part → String
  | text literal => literal
  | full symbol => (symbol.relativeTo path).fullName
  | pointer symbol => (symbol.relativeTo path).pointer
  | name symbol => (symbol.relativeTo path).name
  | quoted literal => Text.quote literal

end Part

instance : Coe String Part := ⟨.text⟩

/-- What a writer writes at once. -/
inductive Phrase where
  | parts (parts : List Part)
  | template (source : String) (args : Arguments)
deriving Inhabited

namespace Phrase

/-- The names that an argument of a template cannot have. -/
def takenNames : List String :=
  ["self", "template"]

/-- The packages that the phrase needs. -/
def dependencies : Phrase → List Dependency
  | parts found => found.flatMap Part.dependencies
  | template _ args => Value.dependenciesFields args

/-- Whether the arguments of the phrase have names that they can have. -/
def isCallable : Phrase → Bool
  | parts _ => true
  | template _ args => !takenNames.any fun name => Entries.has name args

/-- The text of the phrase in the package of a path. -/
def render (path : Option String) : Phrase → Except Failure String
  | parts found => .ok (String.join (found.map (Part.render path)))
  | template source args => Template.renderText source (Value.relativeToFields path args)

end Phrase

instance : Coe String Phrase := ⟨fun text => .parts [.text text]⟩

instance : Coe (List Part) Phrase := ⟨.parts⟩

end ClientGen
