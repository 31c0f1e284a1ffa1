import Folio.Fault
import Folio.Issue
import Folio.Text.Blank
import Folio.Text.Split

/-!
# Messages

The requests that a service gets and the responses that it gives.
-/

namespace Folio.Http

inductive Content
  | absent
  | json (value : Json)
  | text (text : String)

structure Request where
  method : String
  path : String
  query : String
  headers : List (String × String)
  content : Content

inductive Body
  | empty
  | json (value : Json)
  | text (text : String)

structure Response where
  status : Nat
  body : Body
  headers : List (String × String)

/-- A declared type is one of JSON: `application/json`, or any `application` type
that ends in `+json`.  Parameters after a semicolon are left aside. -/
def isJsonType (declared : String) : Bool :=
  let essence :=
    Text.trimBy (fun character : Char => Text.isSeparator character)
      (declared.toList.takeWhile (· != ';'))
  match Text.splitOn '/' (essence.map Char.toLower) with
  | [major, minor] =>
      major == "application".toList &&
        (minor == "json".toList || "+json".toList.isSuffixOf minor)
  | _ => false

namespace Request

/-- The first header with a name, which is compared without regard to case. -/
def header? (request : Request) (name : String) : Option String :=
  (request.headers.find? fun header => header.1.toLower == name).map (·.2)

def declaresJson (request : Request) : Bool :=
  ((request.header? "content-type").map isJsonType).getD false

end Request

namespace Response

def ofJson (status : Nat) (value : Json) : Response where
  status
  body := .json value
  headers := [("content-type", "application/json")]

def ofText (status : Nat) (text : String) : Response where
  status
  body := .text text
  headers := [("content-type", "text/plain; charset=utf-8")]

def ofAnswer (answer : Answer) : Response :=
  ofJson answer.status answer.body

def detail (status : Nat) (sentence : Text) : Response :=
  ofAnswer (.detail status sentence)

def withHeaders (headers : List (String × String)) (response : Response) :
    Response :=
  { response with headers := response.headers ++ headers }

end Response

/-- A step of the way to a part, as a report names it. -/
def placeJson : Place → Json
  | .member name => .str name
  | .item index => .ofNat index

def issueJson (issue : Issue) : Json :=
  .obj (("type", .str issue.complaint.code) ::
    ("loc", .arr (issue.place.map placeJson)) ::
      Members.optional "msg" (issue.complaint.sentence?.map .str))

def Response.ofIssues (issues : List Issue) : Response :=
  .ofJson 422 (.obj [("detail", .arr (issues.map issueJson))])

end Folio.Http
