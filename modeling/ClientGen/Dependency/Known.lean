import ClientGen.Dependency.Basic

/-!
# Packages that generated code knows

Generated clients use a few packages of the standard library and the packages of one runtime
module, which provides errors and the middleware stack.
-/

namespace ClientGen.Dependency

/-- The module of the runtime. -/
def runtimeModule : String := "github.com/awslabs/smithy-go"

/-- The version of the runtime. -/
def runtimeVersion : String := "v0.1.1"

/-- A package of the runtime; an empty package path stands for the module itself. -/
def runtime (package : String := "") (name : String := "") : Dependency :=
  let path := if package.isEmpty then runtimeModule else runtimeModule ++ "/" ++ package
  let chosen := if name.isEmpty && package.isEmpty then "smithy" else name
  of path chosen .foreign (some runtimeModule) (some runtimeVersion)

def context : Dependency := standard "context"

def fmt : Dependency := standard "fmt"

def mathBig : Dependency := standard "math/big"

def netHttp : Dependency := standard "net/http"

def time : Dependency := standard "time"

/-- The error abstraction of the runtime. -/
def smithy : Dependency := runtime

/-- The middleware stack of the runtime. -/
def smithyMiddleware : Dependency := runtime "middleware"

end ClientGen.Dependency
