/-!
# Malformed values

Models and settings are data from outside, and some of it is used as it comes.  When such a value
turns out to have the wrong form at its first use, the failure says only in which way; it has no
text of its own.
-/

namespace ClientGen

/-- In which way a value used unchecked has the wrong form. -/
inductive Malformed where
  /-- The use does not take values of this kind. -/
  | kind
  /-- The value has no part of the wanted name. -/
  | part
  /-- The value is of a kind that the use takes, but not one of the values it takes. -/
  | content
  /-- The bytes are not text. -/
  | encoding
  /-- The value leads on further than it can be followed, as one does that refers to itself. -/
  | endless
deriving DecidableEq, Repr

end ClientGen
