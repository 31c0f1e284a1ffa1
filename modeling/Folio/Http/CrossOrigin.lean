import Folio.Http.Message

/-!
# Requests from other origins

Requests that carry an origin are answered with headers that say whether pages
of that origin may see the response.  Before unusual requests a browser asks
whether they would be allowed.
-/

namespace Folio.Http.CrossOrigin

def methods : List String :=
  ["DELETE", "GET", "HEAD", "OPTIONS", "PATCH", "POST", "PUT"]

def originHeaders (allowed : List Text) (origin : String) :
    List (String × String) :=
  ("access-control-allow-credentials", "true") ::
    if allowed.contains origin then [("access-control-allow-origin", origin)]
    else []

/-- The header by which a browser asks to reach into a private network.  No
origin may do so. -/
def privateNetworkHeader : String := "access-control-request-private-network"

/-- What is not allowed of a question by an origin about a method. -/
def failures (allowed : List Text) (request : Request)
    (origin method : String) : List String :=
  (if allowed.contains origin then [] else ["origin"]) ++
    (if methods.contains method then [] else ["method"]) ++
    (if (request.header? privateNetworkHeader).isSome then ["private-network"]
      else [])

def preflight (allowed : List Text) (request : Request)
    (origin method : String) : Response :=
  let failures := failures allowed request origin method
  (if failures.isEmpty then Response.ofText 200 "OK"
    else
      Response.ofText 400 ("Disallowed CORS " ++ ", ".intercalate failures)).withHeaders
    (originHeaders allowed origin)

/-- The answer to a request before the service is asked, if there is one. -/
def preflight? (allowed : List Text) (request : Request) : Option Response := do
  let origin ← request.header? "origin"
  let method ← request.header? "access-control-request-method"
  if request.method = "OPTIONS" then some (preflight allowed request origin method)
  else none

def annotate (allowed : List Text) (request : Request) (response : Response) :
    Response :=
  match request.header? "origin" with
  | some origin => response.withHeaders (originHeaders allowed origin)
  | none => response

end Folio.Http.CrossOrigin
