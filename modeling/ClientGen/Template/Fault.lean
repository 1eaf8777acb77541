import ClientGen.Text.Notation

/-!
# What can be wrong with a template

A template may ask for a filter that does not exist, which shows before anything is written, or for
a value that it was not given.
-/

namespace ClientGen

/-- Why a template cannot be rendered. -/
inductive TemplateFault where
  /-- No value has the name. -/
  | undefined (name : String)
  /-- A value of the described kind has no part of the name. -/
  | noAttribute (owner name : String)
  /-- A value of the described kind has no element at the place. -/
  | noElement (owner : String) (index : Nat)
  /-- No filter has the name. -/
  | noFilter (name : String)
  /-- A print statement is not written as one. -/
  | unreadable (reason : String)
deriving DecidableEq, Repr

/-- The fault in words. -/
def TemplateFault.message : TemplateFault → String
  | undefined name => Text.shown name ++ " is undefined"
  | noAttribute owner name => Text.shown owner ++ " has no attribute " ++ Text.shown name
  | noElement owner index => owner ++ " has no element " ++ toString index
  | noFilter name => "No filter named " ++ Text.shown name ++ "."
  | unreadable reason => reason

/-- A template: one given as text, or one of the layouts of a whole file. -/
inductive TemplateName where
  | text (template : String)
  | file (name : String)
deriving DecidableEq, Repr

/-- A template as messages name it. -/
def TemplateName.message : TemplateName → String
  | text template => "template string " ++ Text.shown template
  | file name => "template " ++ name

end ClientGen
