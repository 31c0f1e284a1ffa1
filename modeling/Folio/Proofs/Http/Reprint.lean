import Folio.Proofs.Article
import Folio.Proofs.Http.ArticleListing
import Folio.Proofs.StoreReplay

/-!
# Articles that come back

What is shown of an article is read as the same article, however its identifier and its
times were spelled at first.  An article that comes back in this way replaces itself.
-/

namespace Folio

/-! ## Stores -/

namespace ArticleStore

variable {store : ArticleStore} {article other : Article}

theorem insertArticle_insertArticle (article : Article) (articles : List Article) :
    insertArticle article (insertArticle article articles) =
      insertArticle article articles := by
  induction articles with
  | nil => simp [insertArticle]
  | cons present later inductionHypothesis =>
      by_cases same : present.id = article.id
      · simp [insertArticle, same]
      · simp [insertArticle, same, inductionHypothesis]

theorem id_eq_of_content_eq (same : other.content = article.content) :
    other.id = article.id := by
  rw [← Article.content_id, same, Article.content_id]

/-- An article that says the same takes the place of one without a trace. -/
theorem map_content_add (found : store.get? article.id = some article)
    (same : other.content = article.content) :
    (store.add other).articles.map Article.content = store.articles.map Article.content := by
  have sameId := id_eq_of_content_eq same
  have present : other.id ∈ store.articles.map (·.id) := by
    rw [← isSome_get?_iff, sameId, found]
    rfl
  have replaced : (store.add other).articles =
      store.articles.map fun stored => if stored.id = other.id then other else stored :=
    insertArticle_of_present store.ids_nodup present
  rw [replaced, List.map_map]
  apply List.map_congr_left
  intro stored storedMember
  by_cases replacing : stored.id = other.id
  · -- Under the identifier there is only the article itself.
    have storedFound := store.get?_of_mem storedMember
    rw [replacing, sameId, found] at storedFound
    rw [Function.comp_apply, if_pos replacing, same, Option.some.inj storedFound]
  · rw [Function.comp_apply, if_neg replacing]

theorem get?_content_add (found : store.get? article.id = some article)
    (same : other.content = article.content) (id : Uuid) :
    ((store.add other).get? id).map Article.content = (store.get? id).map Article.content := by
  have sameId := id_eq_of_content_eq same
  by_cases itself : id = other.id
  · rw [itself, get?_add_self, sameId, found, Option.map_some, Option.map_some, same]
  · rw [get?_add_other store itself]

end ArticleStore

/-! ## Answers -/

namespace Http.Service

variable {fresh : Fresh} {value : Json} {article : Article}

theorem articleResponse_eq_ok_iff {status : Nat} {response : Response} :
    articleResponse status article = .ok response ↔
      article.isWritable = true ∧ response = .ofJson status article.toJson := by
  unfold articleResponse
  split
  · rename_i writable
    simp [writable, eq_comm]
  · rename_i unwritable
    simp [unwritable]

/-- What becomes of an article that a value is read as, once it is shown and comes
back. -/
structure Reprints (fresh : Fresh) (value : Json) (article : Article) : Prop where
  /-- The article is accepted in a request as well. -/
  accepted : newArticle fresh value = .ok article
  /-- It is shown exactly if neither the author nor the body of the value holds half of a
  surrogate pair. -/
  shown : (∃ response, articleResponse 200 article = .ok response) ↔
    ∀ column ∈ [ArticleColumn.author, ArticleColumn.body], ∀ text,
      value.member? column.name = some (.str text) → text.isEncodable = true
  /-- What is shown is read as an article that says the same and is shown in the same
  way, at any time and in a request as well. -/
  reread : ∀ response, articleResponse 200 article = .ok response →
    ∃ printed, response = .ofJson 200 printed ∧ ∀ again, ∃ other,
      Article.ofJson again printed = .ok other ∧ newArticle again printed = .ok other ∧
        other.content = article.content ∧ articleResponse 200 other = .ok response
  /-- A store that holds the article says the same after it came back, and does not
  change any more when it comes back again. -/
  readded : ∀ response, articleResponse 200 article = .ok response →
    ∀ printed, response = .ofJson 200 printed →
      ∀ again other, Article.ofJson again printed = .ok other →
        ∀ store : ArticleStore, store.get? article.id = some article →
          (store.add other).articles.map Article.content =
              store.articles.map Article.content ∧
            (∀ id, ((store.add other).get? id).map Article.content =
              (store.get? id).map Article.content) ∧
              ((store.add other).add other).articles = (store.add other).articles
  /-- A request with what is shown is answered with it, and the store says the same as
  before. -/
  reposted : ∀ response, articleResponse 200 article = .ok response →
    ∀ printed, response = .ofJson 200 printed →
      ∀ (service : Service) again request, service.store.get? article.id = some article →
        findTarget request = .ok .createArticle → readContent request = .ok printed →
          (service.respond again request).1.status = 201 ∧
            (service.respond again request).1.body = .json printed ∧
              (service.respond again request).2.store.articles.map Article.content =
                service.store.articles.map Article.content

theorem ofJson_body_injective {status : Nat} {left right : Json}
    (same : Response.ofJson status left = .ofJson status right) : left = right := by
  simpa [Response.ofJson] using same

/-- What is shown of an accepted article is accepted again, says the same and leaves the
store as it is. -/
theorem reprints_of_ofJson (read : Article.ofJson fresh value = .ok article) :
    Reprints fresh value article := by
  obtain ⟨members, rfl, membersRead⟩ := Article.whole_eq_ok_iff.mp read
  have back : ∀ again complaint,
      Members.whole complaint (Article.ofMembers again) article.toJson =
        .ok article.reread :=
    fun again complaint => Article.whole_toJson again complaint
  constructor
  case accepted => exact Article.whole_eq_ok_iff.mpr ⟨members, rfl, membersRead⟩
  case shown =>
    simp only [articleResponse_eq_ok_iff, exists_and_left, exists_eq, and_true]
    exact Article.isWritable_iff membersRead
  case reread =>
    intro response shown
    obtain ⟨writable, rfl⟩ := articleResponse_eq_ok_iff.mp shown
    refine ⟨article.toJson, rfl, ?_⟩
    intro again
    refine ⟨article.reread, back again _, back again _, Article.reread_content, ?_⟩
    exact articleResponse_eq_ok_iff.mpr ⟨writable, rfl⟩
  case readded =>
    intro response shown printed same again other otherRead store found
    obtain ⟨writable, rfl⟩ := articleResponse_eq_ok_iff.mp shown
    obtain rfl := ofJson_body_injective same
    obtain rfl : article.reread = other :=
      Except.ok.inj ((back again _).symm.trans otherRead)
    exact ⟨ArticleStore.map_content_add found Article.reread_content,
      ArticleStore.get?_content_add found Article.reread_content,
      ArticleStore.insertArticle_insertArticle _ _⟩
  case reposted =>
    intro response shown printed same service again request found target content
    obtain ⟨writable, rfl⟩ := articleResponse_eq_ok_iff.mp shown
    obtain rfl := ofJson_body_injective same
    have posted : posted? again request = some article.reread :=
      posted?_eq_some_iff.mpr ⟨target, article.toJson, content, back again _⟩
    obtain ⟨after, answered⟩ := respond_of_posted service posted
    rw [Article.reread_isWritable, if_pos writable, Article.reread_toJson] at answered
    refine ⟨answered.1, answered.2, ?_⟩
    rw [after]
    exact ArticleStore.map_content_add found Article.reread_content

/-- A raw article with an identifier and a time that are not spelled as they are
shown. -/
def spelledNotice : Json :=
  .obj [("id", .str "urn:uuid:11111111-1111-1111-1111-11111111111A"),
    ("title", .str "Notice"), ("author", .str "Ada"), ("published_at", .null),
    ("created_at", .str "2024-03-01T00:30+02:00")]

theorem spelledNotice_reprints :
    ∃ article, Article.ofJson firstFresh spelledNotice = .ok article ∧
      article.toJson.member? "id" = some (.str "11111111-1111-1111-1111-11111111111a") ∧
        article.toJson.member? "created_at" = some (.str "2024-02-29T22:30:00Z") ∧
          Reprints firstFresh spelledNotice article := by
  obtain ⟨article, read, id, createdAt⟩ :
      ∃ article, Article.ofJson firstFresh spelledNotice = .ok article ∧
        article.id.toText = "11111111-1111-1111-1111-11111111111a" ∧
          article.createdAt.toText = "2024-02-29T22:30:00Z" :=
    ⟨_, rfl, by decide +kernel, by decide +kernel⟩
  refine ⟨article, read, ?_, ?_, reprints_of_ofJson read⟩
  · rw [← id]
    rfl
  · rw [← createdAt]
    rfl

/-- An article with half of a surrogate pair is accepted, but never shown. -/
theorem halvedBody_unshown :
    ∃ article, Article.ofJson firstFresh halvedBody = .ok article ∧
      ∀ status response, articleResponse status article ≠ .ok response := by
  obtain ⟨article, read, halved⟩ :
      ∃ article, Article.ofJson firstFresh halvedBody = .ok article ∧
        article.isWritable = false := ⟨_, rfl, rfl⟩
  refine ⟨article, read, ?_⟩
  intro status response shown
  have writable := (articleResponse_eq_ok_iff.mp shown).1
  rw [halved] at writable
  cases writable

end Http.Service

end Folio
