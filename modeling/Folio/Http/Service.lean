import Folio.ArticleStore
import Folio.Http.CrossOrigin
import Folio.Http.Route
import Folio.Json.Reader
import Folio.Text.Encoding

/-!
# The service

A service over a store of articles: it lists pages of them, shows one and stores
new ones.
-/

namespace Folio.Http

structure Service where
  contract : Contract
  origins : List Text
  store : ArticleStore

namespace Service

def start (settings : Settings) (store : ArticleStore) : Except Failure Service := do
  let schema ← (EntityModel.article.schema none).orFail
  let contract ← Contract.build schema settings.limits (some .article)
  return { contract, origins := settings.corsOrigins, store }

/-! ## Answers about articles -/

/-- The page of a listing, if all of it can be written. -/
def pageFor (service : Service) (request : PageRequest) : Except Failure Page := do
  let (articles, total) ← service.store.listPage service.contract request
  if articles.all (·.isWritable) then
    Page.ofEntities (articles.map Article.toJson) total request
  else .error .unwritable

def list (service : Service) (query : Members) : Except Failure Response :=
  match PageRequest.decode service.contract.requestModel query with
  | .error (.fault fault) => .ok (.ofAnswer fault.answer)
  | .error failure => .error failure
  | .ok request => do
      let page ← service.pageFor request
      return .ofJson 200 page.toJson

/-- The response that shows one article, if all of it can be written. -/
def articleResponse (status : Nat) (article : Article) : Except Failure Response :=
  if article.isWritable then .ok (.ofJson status article.toJson)
  else .error .unwritable

def articleById (service : Service) (text : String) : Except Failure Response :=
  match Uuid.ofJson (.str text) with
  | .error complaint =>
      .ok (.ofIssues
        [{ place := [.member "path", .member "article_id"], complaint }])
  | .ok id =>
      match service.store.get? id with
      | some article => articleResponse 200 article
      | none => .ok (.detail 404 ("Article '" ++ id.toText ++ "' not found"))

/-! ## New articles -/

def refusedBody (complaint : Complaint) (position? : Option Nat) : Response :=
  .ofIssues
    [{ place := .member "body" :: (position?.map Place.item).toList, complaint }]

/-- The value that a body denotes, or the response to a body that is not JSON. -/
def readBody (text : Text) : Except Response Json :=
  match Json.read text with
  | .ok value => .ok value
  | .error fault =>
      match fault.position? text.toList.length with
      | some position => .error (refusedBody .notJson (some position))
      | none => .error (.detail 400 "There was an error parsing the body")

/-- The value in the body of a request, or the response to a body that has
none.  A body that is not declared to be JSON has none of use. -/
def readContent (request : Request) : Except Response Json :=
  match request.content with
  | .absent => .error (refusedBody .missing none)
  | .json value =>
      if request.declaresJson then .ok value
      else .error (refusedBody .bodyNotObject none)
  | .text text =>
      if text = "" then .error (refusedBody .missing none)
      else if !request.declaresJson then
        .error (refusedBody .bodyNotObject none)
      else
        match Text.receive? (text.toList.flatMap Text.octetsOf) with
        | some received => readBody received
        | none => .error (.detail 400 "There was an error parsing the body")

def newArticle (fresh : Fresh) : Json → Checked Article :=
  Members.whole .bodyNotObject (Article.ofMembers fresh)

/-- The part of a body that an issue is about: a member, or the whole where the
member is missing. -/
def subject (body : Json) (issue : Issue) : Json :=
  match issue.place with
  | .member name :: _ => (body.member? name).getD body
  | _ => body

/-- The report of the issues with a body.  It repeats what they are about, so
that has to be writable. -/
def reportIssues (body : Json) (issues : List Issue) : Except Failure Response :=
  if issues.all fun issue => (subject body issue).isWritable then
    .ok (.ofIssues (issues.map fun issue =>
      { issue with place := .member "body" :: issue.place }))
  else .error .unwritable

/-- Store a new article.  It stays in the store also when it cannot be shown. -/
def create (fresh : Fresh) (service : Service) (request : Request) :
    Except Failure Response × ArticleStore :=
  match readContent request with
  | .error response => (.ok response, service.store)
  | .ok value =>
      match newArticle fresh value with
      | .ok article => (articleResponse 201 article, service.store.add article)
      | .error issues =>
          match Failure.ofIssues issues with
          | .invalid issues => (reportIssues value issues, service.store)
          | failure => (.error failure, service.store)

/-! ## All requests -/

/-- The response that shows a document.  Its text is no concern of the
service. -/
def documentResponse (document : Document) : Response where
  status := 200
  body := .empty
  headers := [("content-type", document.contentType)]

def perform (fresh : Fresh) (service : Service) (request : Request) :
    Target → Except Failure Response × ArticleStore
  | .showDocument document => (.ok (documentResponse document), service.store)
  | .listArticles => (service.list (readQuery request.query), service.store)
  | .showArticle id => (service.articleById id, service.store)
  | .createArticle => service.create fresh request
  | .showHealth =>
      (.ok (.ofJson 200 (.obj [("status", .str "healthy")])), service.store)

def route (fresh : Fresh) (service : Service) (request : Request) :
    Except Failure Response × ArticleStore :=
  match findTarget request with
  | .ok target => service.perform fresh request target
  | .error response => (.ok response, service.store)

/-- The response to a request, and the service after it.  When an operation
fails, nothing is said to other origins. -/
def respond (fresh : Fresh) (service : Service) (request : Request) :
    Response × Service :=
  match CrossOrigin.preflight? service.origins request with
  | some response => (response, service)
  | none =>
      let (outcome, store) := service.route fresh request
      let response :=
        match outcome with
        | .ok response => CrossOrigin.annotate service.origins request response
        | .error _ => .ofAnswer .internalError
      (response, { service with store })

end Service

end Folio.Http
