import ClusterAgent.Protocol.Command
import ClusterAgent.Protocol.FormEncoding

/-!
# Requests

A request is a verb, a wildcard flag (the request is about every context of a node), the route
of the node it concerns (empty for none) and an ordered list of parameters. Names and values are
byte strings, since some come from a proxy's own reports.

On the wire a request is a head and a body. The body lists `JVMRoute=<route>` when there is a
route, then the parameters, as a form-encoded list (`Request.body`). The head is the request
line `VERB <base>[*] HTTP/1.1`, a `Host` header, a `Content-Length` header exactly when the body
is not empty, and fixed `User-Agent` and `Connection` headers, each line ended by CRLF and the
head by an empty line.
-/

namespace ClusterAgent

/-- A protocol request. -/
structure Request where
  command : Command
  wildcard : Bool := false
  route : Bytes := []
  params : List (Bytes × Bytes) := []
  deriving DecidableEq, Repr

namespace Request

/-- The name of the parameter that carries the route. -/
def routeParam : Bytes := Bytes.ofString "JVMRoute"

/-- The pairs the body carries: the route first, when there is one, then the parameters. -/
def fields (r : Request) : List (Bytes × Bytes) :=
  (if r.route.isEmpty then [] else [(routeParam, r.route)]) ++ r.params

/-- The form-encoded body. -/
def body (r : Request) : Bytes := FormEncoding.encodePairs r.fields

/-- The value of the first parameter with a name. -/
def param? (r : Request) (name : Bytes) : Option Bytes := r.params.lookup name

/-- The one-line description: the verb, ` *` when wildcard, ` route=R` when routed, then
` name=value` for each parameter. -/
def text (r : Request) : Bytes :=
  Bytes.ofString r.command.verb ++ (if r.wildcard then Bytes.ofString " *" else []) ++
    (if r.route.isEmpty then [] else Bytes.ofString " route=" ++ r.route) ++
    r.params.flatMap fun (n, v) => [0x20] ++ n ++ [0x3D] ++ v

/-- The request head, for a body of `bodyLength` bytes. -/
def head (r : Request) (basePath hostHeader : String) (bodyLength : Nat) : String :=
  r.command.verb ++ " " ++ basePath ++ (if r.wildcard then "*" else "") ++ " HTTP/1.1\r\n" ++
    "Host: " ++ hostHeader ++ "\r\n" ++
    (if bodyLength > 0 then "Content-Length: " ++ toString bodyLength ++ "\r\n" else "") ++
    "User-Agent: ClusterListener/1.0\r\n" ++ "Connection: Keep-Alive\r\n" ++ "\r\n"

/-- The bytes written for a request: head, then body. -/
def wire (r : Request) (basePath hostHeader : String) : Bytes :=
  Bytes.ofString (r.head basePath hostHeader r.body.length) ++ r.body

end Request

end ClusterAgent
