import ClientGen.Dependency.Known
import ClientGen.Symbol.Basic

/-!
# Symbols that generated code knows

What generated clients use of the standard library and of the runtime.
-/

namespace ClientGen.Symbol

/-- The context that every handler takes. -/
def contextType : Symbol := value "Context" Dependency.context

/-- The metadata of a result. -/
def metadataType : Symbol := value "Metadata" Dependency.smithyMiddleware

/-- The middleware stack. -/
def stackType : Symbol := reference "Stack" Dependency.smithyMiddleware

/-- The type of the party at fault. -/
def errorFaultType : Symbol := value "ErrorFault" Dependency.smithy

/-- The fault of the client. -/
def faultClient : Symbol := value "FaultClient" Dependency.smithy

/-- The fault of the server. -/
def faultServer : Symbol := value "FaultServer" Dependency.smithy

/-- A fault of nobody known. -/
def faultUnknown : Symbol := value "FaultUnknown" Dependency.smithy

/-- The function that formats a text. -/
def sprintf : Symbol := value "Sprintf" Dependency.fmt

/-- The request of an HTTP call. -/
def httpRequest : Symbol := reference "Request" Dependency.netHttp

/-- The response of an HTTP call. -/
def httpResponse : Symbol := reference "Response" Dependency.netHttp

end ClientGen.Symbol
