import Storefront.Error
import Storefront.Http.Target
import Storefront.Json

/-! # Requests and responses

A response has a status and perhaps a body.  Requests that the service cannot make
sense of are refused with a bare status; those it understands and refuses are answered
with the wording and the kind of the error.
-/
namespace Storefront.Http

/-- What a request wants to do with its target. -/
inductive Method where
  | get
  | head
  | post
  | put
  | options
  | other
  deriving DecidableEq

/-- The method of a name, in capitals. -/
def Method.parse : String → Method
  | "GET" => get
  | "HEAD" => head
  | "POST" => post
  | "PUT" => put
  | "OPTIONS" => options
  | _ => other

/-- A request. -/
structure Request where
  method : Method
  target : Target
  contentType : Option String
  /-- The body as text in UTF-8.  Requests whose body is not such text are left out. -/
  body : String

/-- The largest body that is read, in bytes: two mebibytes, the default of the server. -/
def Request.maxBodySize : Nat := 2097152

/-- What a response carries. -/
inductive Body where
  | empty
  | json (j : Json)
  | lines (ls : List String)

/-- A response. -/
structure Response where
  status : Nat
  body : Body

/-- The status that goes with a kind of error. -/
def statusFor : ErrorKind → Nat
  | .validation => 400
  | .notFound => 404
  | .invalidTransition | .inactive | .conflict => 409
  | .insufficientStock => 422
  | .infrastructure => 500

/-- Why a request is refused. -/
inductive Refusal where
  /-- The request makes no sense; there is only a status to say so. -/
  | bare (status : Nat)
  /-- The request says something that has no meaning. -/
  | badRequest (message : String)
  /-- The command was refused. -/
  | domain (cause : Error)

namespace Refusal

/-- The status of the refusal. -/
def status : Refusal → Nat
  | bare status => status
  | badRequest _ => statusFor .validation
  | domain cause => statusFor cause.kind

/-- A message and a kind, as they are told. -/
def bodyOf (message : String) (kind : ErrorKind) : Body :=
  .json (.obj [("error", .str message), ("kind", .str kind.name)])

/-- The response of the refusal. -/
def response (r : Refusal) : Response where
  status := r.status
  body :=
    match r with
    | bare _ => .empty
    | badRequest message => bodyOf message .validation
    | domain cause => bodyOf cause.message cause.kind

end Refusal

end Storefront.Http
