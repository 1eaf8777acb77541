import ClientGen.Name.Sanitizer

/-!
# Words that Go keeps for itself

The keywords of Go, the names that its universe block declares, and those that every generated
client declares.  The sanitizer of the generator avoids the first two.
-/

namespace ClientGen.Name

/-- The keywords of Go. -/
def keywords : List String :=
  ["break", "case", "chan", "const", "continue", "default", "defer", "else", "fallthrough", "for",
    "func", "go", "goto", "if", "import", "interface", "map", "package", "range", "return",
    "select", "struct", "switch", "type", "var"]

/-- The names of the universe block, which may be declared again but should not be. -/
def predeclared : List String :=
  ["any", "bool", "byte", "comparable", "complex64", "complex128", "error", "float32", "float64",
    "int", "int8", "int16", "int32", "int64", "rune", "string", "uint", "uint8", "uint16",
    "uint32", "uint64", "uintptr", "true", "false", "iota", "nil", "append", "cap", "clear",
    "close", "complex", "copy", "delete", "imag", "len", "make", "max", "min", "new", "panic",
    "print", "println", "real", "recover"]

/-- The names that the client package declares for itself. -/
def clientNames : List String :=
  ["Client", "Options", "HTTPClient", "APIOptionFunc", "New"]

/-- The sanitizer that avoids keywords and predeclared names. -/
def sanitizer : Sanitizer where
  reserved := keywords
  builtins := predeclared

end ClientGen.Name
