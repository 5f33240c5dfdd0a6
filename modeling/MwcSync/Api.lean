import MwcSync.Basic

set_option autoImplicit false

namespace MwcSync.Api

/-- `StatusCode::OK`. -/
def ok : Nat := 200

/-- A response as `Response::builder()` assembles it: the status, the headers in the order they
are added, and the body. -/
structure Response where
  status : Nat
  headers : List (String × String)
  body : String
deriving DecidableEq, Repr

def corsHeaders : List (String × String) :=
  [("access-control-allow-origin", "*"),
    ("access-control-allow-headers", "Content-Type, Authorization")]

/-- `hyper::header::CONTENT_TYPE` set to JSON. -/
def jsonContentType : String × String := ("content-type", "application/json")

/-- `response`: the CORS headers, and the JSON content type when the status is OK. -/
def response (status : Nat) (text : String) : Response :=
  ⟨status, corsHeaders ++ (if status = ok then [jsonContentType] else []), text⟩

end MwcSync.Api
