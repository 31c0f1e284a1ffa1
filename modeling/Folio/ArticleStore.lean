import Folio.ArticleAttribute
import Folio.Contract
import Folio.PageRequest
import Folio.Text.Case

/-!
# The article store

Articles in the order in which their identifiers were first stored, and the
listing of those that match a search, ordered by a column.  Articles without a
value in the column come last in both directions, and articles with equal values
keep their order.
-/

namespace Folio

structure ArticleStore where
  articles : List Article
  ids_nodup : (articles.map (·.id)).Nodup

inductive SortKey
  | number (value : Nat)
  | text (value : Text)
  deriving DecidableEq

namespace SortKey

-- The order of lists that comes with the language.
attribute [local instance (2000)] List.instLE

/-- The first key does not come after the second.  Numbers come before texts,
which are compared by the codes of their code points. -/
def le : SortKey → SortKey → Bool
  | number left, number right => decide (left ≤ right)
  | text left, text right => decide (left.codes ≤ right.codes)
  | number _, text _ => true
  | text _, number _ => false

end SortKey

namespace ArticleColumn

/-- The key of an article in a column, unless the article has none. -/
def key? (column : ArticleColumn) (article : Article) : Option SortKey :=
  match column with
  | id => some (.number article.id.bits.toNat)
  | title => some (.text article.title)
  | author => some (.text article.author)
  | body => some (.text article.body)
  | publishedAt =>
      article.publishedAt?.map fun instant => .number instant.microseconds
  | createdAt => some (.number article.createdAt.microseconds)

/-- What an article has in a column is the value of the field that the column names: a
text itself, an identifier by its bits and an instant by its microseconds.  There is
nothing in the column of a publication that has not taken place. -/
inductive Has (article : Article) : ArticleColumn → SortKey → Prop
  | id : Has article .id (.number article.id.bits.toNat)
  | title : Has article .title (.text article.title)
  | author : Has article .author (.text article.author)
  | body : Has article .body (.text article.body)
  | publishedAt {instant : Instant} (published : article.publishedAt? = some instant) :
      Has article .publishedAt (.number instant.microseconds)
  | createdAt : Has article .createdAt (.number article.createdAt.microseconds)

theorem key?_eq_some_iff {column : ArticleColumn} {article : Article} {key : SortKey} :
    column.key? article = some key ↔ column.Has article key := by
  constructor
  · intro found
    cases column with
    | publishedAt =>
        obtain ⟨instant, published, same⟩ := Option.map_eq_some_iff.mp found
        subst same
        exact .publishedAt published
    | _ =>
        cases found
        constructor
  · intro has
    cases has with
    | publishedAt published => rw [key?, published, Option.map_some]
    | _ => rfl

/-- The first article does not come after the second in ascending order. -/
def le (column : ArticleColumn) (left right : Article) : Bool :=
  match column.key? left, column.key? right with
  | some leftKey, some rightKey => leftKey.le rightKey
  | none, _ => true
  | some _, none => false

def mayPrecede (column : ArticleColumn) (direction : SortDirection)
    (left right : Article) : Bool :=
  match direction with
  | .ascending => column.le left right
  | .descending => column.le right left

/-- Articles in the order of a column, those without a value last. -/
def arrange (column : ArticleColumn) (direction : SortDirection)
    (articles : List Article) : List Article :=
  let (present, missing) :=
    articles.partition fun article => (column.key? article).isSome
  present.mergeSort (column.mayPrecede direction) ++ missing

end ArticleColumn

namespace ArticleStore

def empty : ArticleStore where
  articles := []
  ids_nodup := List.nodup_nil

/-- Articles after one more was stored.  An article with the same identifier is
replaced where it stands. -/
def insertArticle (article : Article) : List Article → List Article
  | [] => [article]
  | present :: later =>
      if present.id = article.id then article :: later
      else present :: insertArticle article later

theorem map_id_insertArticle (article : Article) (articles : List Article) :
    (insertArticle article articles).map (·.id) =
      if article.id ∈ articles.map (·.id) then articles.map (·.id)
      else articles.map (·.id) ++ [article.id] := by
  induction articles with
  | nil => simp [insertArticle]
  | cons present later inductionHypothesis =>
      unfold insertArticle
      by_cases same : present.id = article.id
      · simp [same]
      · simp only [same, ↓reduceIte, List.map_cons, inductionHypothesis,
          List.mem_cons, Ne.symm same, false_or]
        split <;> simp

def add (article : Article) (store : ArticleStore) : ArticleStore where
  articles := insertArticle article store.articles
  ids_nodup := by
    rw [map_id_insertArticle]
    split
    · exact store.ids_nodup
    · rename_i absent
      rw [List.nodup_append]
      refine ⟨store.ids_nodup, by simp, ?_⟩
      intro left leftMember right rightMember same
      simp only [List.mem_singleton] at rightMember
      subst rightMember
      subst same
      exact absent leftMember

def ofList (articles : List Article) : ArticleStore :=
  articles.foldl (fun store article => store.add article) empty

def get? (store : ArticleStore) (id : Uuid) : Option Article :=
  store.articles.find? (·.id == id)

def mentions (term : Text) (article : Article) : Bool :=
  let needle := (Text.lower term).toList
  Text.occursIn needle (Text.lower article.title).toList ||
    Text.occursIn needle (Text.lower article.body).toList

/-- The articles that match a search; an empty term matches all. -/
def matching (store : ArticleStore) (term? : Option Text) : List Article :=
  match term? with
  | none => store.articles
  | some term =>
      if term = "" then store.articles else store.articles.filter (mentions term)

def slice {α : Type} (offset limit : Nat) (items : List α) : List α :=
  (items.drop offset).take limit

/-- Matching articles in the order of a named column, or of another attribute.
A name that articles do not have shows as soon as there is an article. -/
def arrangeBy (columnName : Text) (direction : SortDirection)
    (found : List Article) : Except Failure (List Article) :=
  match ArticleColumn.ofName? columnName, ArticleAttribute.ofName? columnName with
  | some column, _ => .ok (column.arrange direction found)
  | none, some kind => kind.arrange direction found
  | none, none => if found.isEmpty then .ok [] else .error .missingAttribute

def listing (store : ArticleStore) (contract : Contract) (request : PageRequest) :
    Except Failure (List Article) :=
  match request.orderMember? with
  | none => .error .missingAttribute
  | some order => do
      let column ← contract.columnFor order.identifier
      arrangeBy column request.direction (store.matching request.search)

/-- One page of the articles that a request asks for, and their total number. -/
def listPage (store : ArticleStore) (contract : Contract) (request : PageRequest) :
    Except Failure (List Article × Nat) := do
  let found ← store.listing contract request
  return (slice request.offset request.limit found, found.length)

end ArticleStore

end Folio
