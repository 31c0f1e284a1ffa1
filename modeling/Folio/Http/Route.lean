import Folio.Http.Message
import Folio.Http.Query

/-!
# Routes

The paths that the service answers, and what becomes of the others: a path may
be known under another method or without its trailing slash.
-/

namespace Folio.Http

inductive Document
  | description
  | reference
  | signIn
  | overview
  deriving DecidableEq

namespace Document

def path : Document → String
  | description => "/openapi.json"
  | reference => "/docs"
  | signIn => "/docs/oauth2-redirect"
  | overview => "/redoc"

def contentType : Document → String
  | description => "application/json"
  | reference => "text/html; charset=utf-8"
  | signIn => "text/html; charset=utf-8"
  | overview => "text/html; charset=utf-8"

end Document

inductive Route
  | showDocument (document : Document)
  | listArticles
  | showArticle
  | createArticle
  | showHealth
  deriving DecidableEq

inductive Target
  | showDocument (document : Document)
  | listArticles
  | showArticle (id : String)
  | createArticle
  | showHealth
  deriving DecidableEq

namespace Route

def all : List Route :=
  [showDocument .description, showDocument .reference, showDocument .signIn,
    showDocument .overview, listArticles, showArticle, createArticle, showHealth]

def methods : Route → List String
  | showDocument _ => ["GET", "HEAD"]
  | listArticles => ["GET"]
  | showArticle => ["GET"]
  | createArticle => ["POST"]
  | showHealth => ["GET"]

def articlesPath : String := "/api/v1/articles"

/-- The path of a route, with the name of its variable part in braces. -/
def template : Route → String
  | showDocument document => document.path
  | listArticles => articlesPath
  | showArticle => articlesPath ++ "/\x7barticle_id\x7d"
  | createArticle => articlesPath
  | showHealth => "/health"

/-- The path is a fixed one.  A line break may follow it. -/
def isPath (path : String) (characters : List Char) : Bool :=
  characters == path.toList || characters == path.toList ++ ['\n']

def articlePart? (characters : List Char) : Option String :=
  let head := (articlesPath ++ "/").toList
  let part := characters.drop head.length
  if head.isPrefixOf characters && !part.isEmpty && !part.contains '/' then
    some (String.ofList part)
  else none

/-- What a path asks for on a route, if it is a path of that route. -/
def target? (route : Route) (characters : List Char) : Option Target :=
  match route with
  | showDocument document =>
      if isPath document.path characters then some (.showDocument document)
      else none
  | listArticles =>
      if isPath articlesPath characters then some .listArticles else none
  | showArticle => (articlePart? characters).map .showArticle
  | createArticle =>
      if isPath articlesPath characters then some .createArticle else none
  | showHealth => if isPath "/health" characters then some .showHealth else none

/-- The routes of a path, each with what the path asks for. -/
def candidates (characters : List Char) : List (Route × Target) :=
  all.filterMap fun route =>
    (route.target? characters).map fun target => (route, target)

/-- The path with its trailing slashes removed, or with one if it has none. -/
def alternative (characters : List Char) : List Char :=
  if characters.getLast? = some '/' then
    (characters.reverse.dropWhile (· == '/')).reverse
  else characters ++ ['/']

end Route

def isLocationChar (character : Char) : Bool :=
  character.isAlphanum || "_.-~:/%#?=@[]!$&'()*+,;".toList.contains character

def upperHexDigit (value : Nat) : Char :=
  (Text.hexDigit value).toUpper

def octetEscape (octet : Nat) : List Char :=
  ['%', upperHexDigit (octet / 16), upperHexDigit (octet % 16)]

/-- A location with the characters escaped that may not stand in it. -/
def locationText (characters : List Char) : String :=
  String.ofList (characters.flatMap fun character =>
    if isLocationChar character then [character]
    else (Text.octetsOf character).flatMap octetEscape)

def redirect (path : List Char) (query : String) : Response where
  status := 307
  body := .empty
  headers :=
    let suffix := if query = "" then [] else '?' :: query.toList
    [("location", locationText ("http://testserver".toList ++ path ++ suffix))]

/-- The response to a path that is known under other methods. -/
def wrongMethod (route : Route) : Response :=
  (Response.detail 405 "Method Not Allowed").withHeaders
    [("allow", ", ".intercalate route.methods)]

/-- What a request asks for, or the response to a request that no route
takes. -/
def findTarget (request : Request) : Except Response Target :=
  let path := unescape request.path.toList
  let found := Route.candidates path
  match found.find? fun candidate =>
      candidate.1.methods.contains request.method with
  | some (_, target) => .ok target
  | none =>
      match found with
      | (route, _) :: _ => .error (wrongMethod route)
      | [] =>
          if path ≠ ['/'] ∧ Route.candidates (Route.alternative path) ≠ [] then
            .error (redirect (Route.alternative path) request.query)
          else .error (.detail 404 "Not Found")

/-- The methods of the routes under a path template, as documents name them. -/
def documentedMethods (template : String) : List String :=
  (Route.all.filter (·.template == template)).flatMap fun route =>
    route.methods.map String.toLower

/-- The paths of the service with their methods, in alphabetical order.  The
documents are not among them. -/
def documentedPaths : List (String × List String) :=
  ([Route.listArticles, Route.showArticle, Route.showHealth].map
    Route.template).map fun template => (template, documentedMethods template)

end Folio.Http
