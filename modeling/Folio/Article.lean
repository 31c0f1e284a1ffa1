import Folio.Instant.Reader
import Folio.Json.Lenient
import Folio.Json.Record
import Folio.Uuid

/-!
# Articles

The entity that the service keeps.  An article that comes without an identifier
or a creation time gets those that are at hand when it is read.  It remembers
which of its columns came with it.
-/

namespace Folio

inductive ArticleColumn
  | id
  | title
  | author
  | body
  | publishedAt
  | createdAt
  deriving DecidableEq

namespace ArticleColumn

def name : ArticleColumn → Text
  | id => "id"
  | title => "title"
  | author => "author"
  | body => "body"
  | publishedAt => "published_at"
  | createdAt => "created_at"

def all : List ArticleColumn := [id, title, author, body, publishedAt, createdAt]

def ofName? (text : Text) : Option ArticleColumn :=
  all.find? (·.name == text)

end ArticleColumn

structure Article where
  id : Uuid
  title : String
  author : Text
  body : Text
  publishedAt? : Option Instant
  createdAt : Instant
  given : List ArticleColumn
  title_nonempty : 0 < title.length
  deriving DecidableEq

/-- What an article gets when it does not bring it along. -/
structure Fresh where
  id : Uuid
  now : Instant
  deriving DecidableEq

namespace Article

def asTitle (value : Json) :
    Except Complaint { title : String // 1 ≤ title.length } :=
  match value.asTextOfLength 1 with
  | .ok title =>
      if nonempty : 1 ≤ title.length then .ok ⟨title, nonempty⟩
      else .error (.tooShort 1)
  | .error complaint => .error complaint

def givenColumns (members : Members) : List ArticleColumn :=
  ArticleColumn.all.filter fun column => (Members.find? column.name members).isSome

def ofMembers (fresh : Fresh) (members : Members) : Checked Article :=
  (Checked.both (Members.defaulted "id" fresh.id Uuid.ofJson members)
    (Checked.both (Members.required "title" asTitle members)
      (Checked.both (Members.required "author" Json.asText members)
        (Checked.both (Members.defaulted "body" ("" : Text) Json.asText members)
          (Checked.both
            (Members.defaulted "published_at" none
              (Json.asOptional Instant.ofJson) members)
            (Members.defaulted "created_at" fresh.now Instant.ofJson
              members)))))).map
    fun (id, title, author, body, publishedAt?, createdAt) =>
      { id, title := title.1, author, body, publishedAt?, createdAt
        given := givenColumns members
        title_nonempty := title.2 }

def ofJson (fresh : Fresh) : Json → Checked Article :=
  Members.whole .notObject (ofMembers fresh)

/-- The article can be written: what it keeps of its author and its body can be
encoded. -/
def isWritable (article : Article) : Bool :=
  article.author.isEncodable && article.body.isEncodable

def toJson (article : Article) : Json :=
  .obj [("id", .str article.id.toText),
    ("title", .str article.title),
    ("author", .str article.author),
    ("body", .str article.body),
    ("published_at", .ofText? (article.publishedAt?.map (Text.ofString ·.toText))),
    ("created_at", .str article.createdAt.toText)]

end Article

end Folio
