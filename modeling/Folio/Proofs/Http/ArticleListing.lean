import Folio.Proofs.ArticleStore
import Folio.Proofs.Http.NewArticle
import Folio.Proofs.Listing
import Folio.Proofs.RefusedParameter

/-!
# Answers to listings

A listing is answered with the page that the query asks for, or else with the
errors of its parameters.  Nothing but an article that cannot be written makes it
fail.
-/

namespace Folio

-- Powers of natural numbers, as in the definitions.
attribute [local instance (2000)] instPowNat

/-! ## Pages of a store -/

namespace ArticleStore

variable {store : ArticleStore} {contract : Contract} {request : PageRequest}

/-- The page that answers a request, with its articles. -/
structure Serves (store : ArticleStore) (contract : Contract) (request : PageRequest)
    (articles : List Article) (page : Page) : Prop where
  /-- The store lists the articles and the number of matches. -/
  listed : store.listPage contract request = .ok (articles, page.total)
  matching : ∀ article ∈ articles, article ∈ store.matching request.search
  total : page.total = (store.matching request.search).length
  /-- The page holds these articles, as they are written. -/
  enveloped :
    Page.ofEntities (articles.map Article.toJson) page.total request = .ok page
  items : page.items = articles.map Article.toJson
  number : page.page = request.page
  positive : 1 ≤ page.page
  /-- A page has as many items as there are left, up to the limit. -/
  size : page.items.length =
    min request.limit (page.total - (page.page - 1) * request.limit)
  /-- There are items exactly up to the last page, unless the limit is so large
  that not even the first page is counted. -/
  occupied : page.total ≤ 2 ^ 53 → 1 ≤ request.limit →
    ((page.items ≠ [] ↔ page.page ≤ page.pages) ↔
      (page.total * 2 ^ (1075 : Nat) ≤ request.limit →
        page.total = 0 ∨ 1 < page.page))

/-- The matches are listed for every request that is accepted. -/
theorem exists_listing (store : ArticleStore) (coherent : contract.IsCoherent)
    (columns : ∀ field ∈ contract.schema.orderableFields,
      field.name ∈ ArticleColumn.all.map ArticleColumn.name)
    {source : PageRequest.Source}
    (accepted : PageRequest.read contract.requestModel source = .ok request) :
    ∃ whole, store.listing contract request = .ok whole ∧
      whole.Perm (store.matching request.search) := by
  obtain ⟨column, member, ordered, found⟩ := coherent.exists_listsBy columns accepted
  exact ⟨_, store.listing_eq ordered found, column.arrange_perm request.direction _⟩

theorem exists_serves (coherent : contract.IsCoherent)
    (columns : ∀ field ∈ contract.schema.orderableFields,
      field.name ∈ ArticleColumn.all.map ArticleColumn.name)
    {source : PageRequest.Source}
    (accepted : PageRequest.read contract.requestModel source = .ok request) :
    ∃ articles page, store.Serves contract request articles page := by
  obtain ⟨whole, listed, complete⟩ :=
    store.exists_listing coherent columns accepted
  have total := complete.length_eq
  -- A total of this size has a quotient, whatever the limit.
  have bounded : whole.length ≤ 2 ^ (128 : Nat) := by
    rw [total]
    exact store.length_matching_le request.search
  obtain ⟨pages, counted⟩ := Page.exists_pageCount bounded request.limit
  have first := PageRequest.one_le_page accepted
  have sized := length_slice whole request.offset request.limit
  refine ⟨slice request.offset request.limit whole,
    { total := whole.length, page := request.page, pages := pages.toNat
      items := (slice request.offset request.limit whole).map Article.toJson }, ?_⟩
  exact {
    listed := by
      rw [listPage, listed]
      rfl
    matching := by
      intro article present
      apply complete.mem_iff.mp
      exact List.mem_of_mem_drop (List.mem_of_mem_take present)
    total
    enveloped := by
      rw [Page.ofEntities, counted]
      rfl
    items := rfl
    number := rfl
    positive := first
    size := by
      rw [List.length_map, sized]
      rfl
    occupied := by
      intro few positive
      rw [Page.pageCount_of_few few positive] at counted
      rw [← List.length_pos_iff]
      apply Page.occupied_iff positive first
      · rw [← Except.ok.inj counted, Int.toNat_natCast]
      · rw [List.length_map, sized]
        rfl }

/-- A single match is on the first page. -/
theorem Serves.articles_eq_singleton {articles : List Article} {page : Page}
    (served : store.Serves contract request articles page) {article : Article}
    (only : store.matching request.search = [article]) (first : request.page = 1)
    (positive : 1 ≤ request.limit) : articles = [article] := by
  have total : page.total = 1 := by
    rw [served.total, only, List.length_singleton]
  have size : articles.length = 1 := by
    have sized := served.size
    rw [served.items, List.length_map, total, served.number, first] at sized
    omega
  obtain ⟨shown, rfl⟩ := List.length_eq_one_iff.mp size
  have present := served.matching shown List.mem_cons_self
  rw [only, List.mem_singleton] at present
  rw [present]

end ArticleStore

/-! ## Answers -/

theorem Fault.answer_of_parameterErrors? {fault : Fault} {errors : ParameterErrors}
    (reported : fault.parameterErrors? = some errors) :
    fault.answer = { status := 422, body := .obj [("errors", errors.toJson)] } := by
  unfold Fault.answer
  rw [reported]

namespace Http.Service

/-- The contract of the service is one of articles. -/
structure IsSound (service : Service) : Prop where
  coherent : service.contract.IsCoherent
  columns : ∀ field ∈ service.contract.schema.orderableFields,
    field.name ∈ ArticleColumn.all.map ArticleColumn.name

theorem IsSound.withStore {service : Service} (sound : service.IsSound)
    (store : ArticleStore) : IsSound { service with store } :=
  ⟨sound.coherent, sound.columns⟩

/-- The response answers a listing with this query. -/
structure Lists (service : Service) (query : Members) (response : Response) : Prop where
  /-- A refused query is answered with the errors of its fault, one for each of the
  refused parameters. -/
  refused : ∀ failure,
    PageRequest.decode service.contract.requestModel query = .error failure →
      ∃ fault errors, failure = .fault fault ∧ fault.parameterErrors? = some errors ∧
        response.status = 422 ∧
          response.body = .json (.obj [("errors", errors.toJson)]) ∧
            (errors.map (·.1)).Nodup ∧
              ∀ name, name ∈ errors.map (·.1) ↔ ∃ parameter, parameter.wireName = name ∧
                PageRequest.Refuses service.contract.requestModel query parameter
  /-- An accepted query is answered with its page, as long as the articles on it
  can be written. -/
  listed : ∀ request,
    PageRequest.decode service.contract.requestModel query = .ok request →
      ∃ articles page, service.store.Serves service.contract request articles page ∧
        if ∀ article ∈ articles, article.isWritable = true then
          response.status = 200 ∧ response.body = .json page.toJson
        else response.status = 500
  /-- Nothing fails where all articles can be written. -/
  unfailing : (∀ article ∈ service.store.articles, article.isWritable = true) →
    response.status = 200 ∨ response.status = 422

variable {service : Service} {query : Members} {settings : Settings}

theorem exists_article_schema :
    ∃ schema, EntityModel.article.schema none = .ok schema ∧
      schema.resolve.isOk = true ∧ schema.HasEncodableOrders ∧
        '\x00' ∉ schema.name.toList ∧
          ∀ field ∈ schema.orderableFields,
            field.name ∈ ArticleColumn.all.map ArticleColumn.name := by
  refine ⟨_, rfl, ?_, ?_, ?_, ?_⟩
  · decide +kernel
  · decide +kernel
  · decide +kernel
  · decide +kernel

/-- The service starts with all settings and all articles. -/
theorem exists_start (settings : Settings) (store : ArticleStore) :
    ∃ service, start settings store = .ok service ∧ service.store = store ∧
      service.IsSound ∧ service.contract.requestModel.limits = settings.limits := by
  obtain ⟨schema, made, resolves, encodable, named, columns⟩ := exists_article_schema
  obtain ⟨fieldSet, resolved⟩ : ∃ fieldSet, schema.resolve = .ok fieldSet := by
    cases outcome : schema.resolve with
    | ok fieldSet => exact ⟨fieldSet, rfl⟩
    | error fault =>
        rw [outcome] at resolves
        cases resolves
  obtain ⟨contract, built⟩ := Contract.exists_build_of_resolve resolved encodable named
    settings.limits (some .article)
  obtain ⟨coherent, sameSchema, sameLimits, -⟩ := Contract.build_eq_ok_iff.mp built
  refine ⟨{ contract, origins := settings.corsOrigins, store }, ?_, rfl,
    ⟨coherent, ?_⟩, sameLimits⟩
  · unfold start
    rw [made]
    simp only [Checked.orFail, bind, Except.bind, built]
    rfl
  · rwa [sameSchema]

theorem list_of_refused {failure : Failure}
    (refused : PageRequest.decode service.contract.requestModel query = .error failure) :
    ∃ fault, failure = .fault fault ∧
      fault.parameterErrors? =
          some (PageRequest.refusals service.contract.requestModel query) ∧
        service.list query = .ok (.ofAnswer fault.answer) := by
  obtain rfl := PageRequest.eq_refusalFault_of_decode refused
  refine ⟨_, rfl, PageRequest.refusalFault_parameterErrors? _ _, ?_⟩
  rw [list, refused]

theorem pageFor_of_serves {request : PageRequest} {articles : List Article} {page : Page}
    (served : service.store.Serves service.contract request articles page) :
    service.pageFor request =
      if ∀ article ∈ articles, article.isWritable = true then .ok page
      else .error .unwritable := by
  rw [pageFor, served.listed]
  simp only [bind, Except.bind, List.all_eq_true, served.enveloped]

theorem list_of_serves {request : PageRequest} {articles : List Article} {page : Page}
    (accepted : PageRequest.decode service.contract.requestModel query = .ok request)
    (served : service.store.Serves service.contract request articles page) :
    service.list query =
      if ∀ article ∈ articles, article.isWritable = true then .ok (.ofJson 200 page.toJson)
      else .error .unwritable := by
  rw [list, accepted]
  dsimp only
  rw [pageFor_of_serves served]
  split <;> rfl

theorem exists_serves_of_decode (sound : service.IsSound) {request : PageRequest}
    (accepted : PageRequest.decode service.contract.requestModel query = .ok request) :
    ∃ articles page, service.store.Serves service.contract request articles page :=
  ArticleStore.exists_serves sound.coherent sound.columns
    (PageRequest.decode_eq_ok_iff.mp accepted)

/-- What counts in a response is its status and its body. -/
theorem Lists.of_same {response other : Response} (lists : service.Lists query response)
    (sameStatus : other.status = response.status) (sameBody : other.body = response.body) :
    service.Lists query other := by
  constructor
  · rw [sameStatus, sameBody]
    exact lists.refused
  · rw [sameStatus, sameBody]
    exact lists.listed
  · rw [sameStatus]
    exact lists.unfailing

/-- What is replied to a listing answers it. -/
theorem list_lists (sound : service.IsSound) (query : Members) :
    service.Lists query (reply (service.list query)) := by
  constructor
  case refused =>
    intro failure refused
    obtain ⟨fault, sameFault, errors, listed⟩ := list_of_refused refused
    have answer := Fault.answer_of_parameterErrors? errors
    rw [listed, answer]
    exact ⟨fault, _, sameFault, errors, rfl, rfl, PageRequest.refusals_nodup,
      fun name => PageRequest.mem_refusals_iff⟩
  case listed =>
    intro request accepted
    obtain ⟨articles, page, served⟩ := exists_serves_of_decode sound accepted
    refine ⟨articles, page, served, ?_⟩
    rw [list_of_serves accepted served]
    split
    · exact ⟨rfl, rfl⟩
    · rfl
  case unfailing =>
    intro writable
    cases decoded : PageRequest.decode service.contract.requestModel query with
    | error failure =>
        obtain ⟨fault, -, errors, listed⟩ := list_of_refused decoded
        right
        rw [listed, Fault.answer_of_parameterErrors? errors]
        rfl
    | ok request =>
        obtain ⟨articles, page, served⟩ := exists_serves_of_decode sound decoded
        left
        rw [list_of_serves decoded served, if_pos]
        · rfl
        · intro article present
          exact writable article
            (service.store.mem_matching_iff.mp (served.matching article present)).1

theorem respond_lists_of_sound (sound : service.IsSound) (fresh : Fresh)
    (request : Request) (get : request.method = "GET")
    (addressed : unescape request.path.toList = Route.articlesPath.toList) :
    service.Lists (readQuery request.query) (service.respond fresh request).1 := by
  have direct : request.method ≠ "OPTIONS" := by
    rw [get]
    decide
  obtain ⟨sameStatus, sameBody, -⟩ :=
    respond_of_direct service fresh (CrossOrigin.preflight?_eq_none direct)
  rw [route_of_target service fresh (findTarget_list get addressed)]
    at sameStatus sameBody
  exact (list_lists sound (readQuery request.query)).of_same sameStatus sameBody

/-- A GET under the path of the articles is answered with the page that its query
asks for, or else with the errors of the query. -/
theorem respond_lists (settings : Settings) (store : ArticleStore) :
    ∃ service, start settings store = .ok service ∧ service.store = store ∧
      ∀ fresh request, request.method = "GET" →
        unescape request.path.toList = Route.articlesPath.toList →
          service.Lists (readQuery request.query) (service.respond fresh request).1 := by
  obtain ⟨service, started, sameStore, sound, -⟩ := exists_start settings store
  refine ⟨service, started, sameStore, ?_⟩
  intro fresh request get addressed
  exact respond_lists_of_sound sound fresh request get addressed

def listingRequest (query : String) : Request where
  method := "GET"
  path := Route.articlesPath
  query
  headers := []
  content := .absent

def postRequest (body : Json) : Request where
  method := "POST"
  path := Route.articlesPath
  query := ""
  headers := [("content-type", "application/json")]
  content := .json body

def firstFresh : Fresh where
  id := { bits := 1 }
  now := ⟨0, by decide⟩

/-- A page of two drafts is answered with. -/
theorem drafts_respond_lists :
    ∃ service, start .standard (.ofList [ArticleStore.draft 1, ArticleStore.draft 2]) =
        .ok service ∧
      service.Lists (readQuery "limit=2")
        (service.respond firstFresh (listingRequest "limit=2")).1 := by
  obtain ⟨service, started, -, lists⟩ := respond_lists .standard
    (.ofList [ArticleStore.draft 1, ArticleStore.draft 2])
  exact ⟨service, started,
    lists firstFresh (listingRequest "limit=2") rfl unescape_articlesPath⟩

/-- An article whose text holds half of a surrogate pair. -/
def halvedBody : Json :=
  .obj [("title", .str "x"), ("author", .str "y"),
    ("body", .str (.ofList [.ofNat 0xd83d, .ofChar 'x']))]

theorem posted?_postRequest {body : Json} {article : Article}
    (created : newArticle firstFresh body = .ok article) :
    posted? firstFresh (postRequest body) = some article := by
  have declared : (postRequest .null).declaresJson = true := by
    decide +kernel
  apply posted?_eq_some_iff.mpr
  exact ⟨findTarget_create rfl unescape_articlesPath, body, if_pos declared, created⟩

/-- Once an article is stored that cannot be written, the listing fails, although
nothing is wrong with the query. -/
theorem halvedBody_fails :
    ∃ service, start .standard .empty = .ok service ∧
      (∃ request, PageRequest.decode service.contract.requestModel (readQuery "") =
        .ok request) ∧
      ((service.respond firstFresh (postRequest halvedBody)).2.respond firstFresh
        (listingRequest "")).1.status = 500 := by
  obtain ⟨service, started, sameStore, sound, sameLimits⟩ :=
    exists_start .standard .empty
  obtain ⟨article, created, halved⟩ :
      ∃ article, newArticle firstFresh halvedBody = .ok article ∧
        article.isWritable = false := ⟨_, rfl, rfl⟩
  obtain ⟨after, -⟩ := respond_of_posted service (posted?_postRequest created)
  obtain ⟨request, same⟩ : ∃ request : PageRequest, request =
      { model := service.contract.requestModel, page? := none, limit? := none
        search? := none, sort? := none, order? := none } := ⟨_, rfl⟩
  have decoded : PageRequest.decode service.contract.requestModel (readQuery "") =
      .ok request := by
    rw [same]
    exact PageRequest.decode_nil
  have first : request.page = 1 := by
    simp [same, PageRequest.page, sameLimits, Settings.standard, PageLimits.standard]
  have ten : request.limit = 10 := by
    simp [same, PageRequest.limit, sameLimits, Settings.standard, PageLimits.standard]
  refine ⟨service, started, ⟨request, decoded⟩, ?_⟩
  rw [after, sameStore]
  have lists := respond_lists_of_sound (sound.withStore (ArticleStore.empty.add article))
    firstFresh (listingRequest "") rfl unescape_articlesPath
  obtain ⟨articles, page, served, answered⟩ := lists.listed request decoded
  have only : (ArticleStore.empty.add article).matching request.search = [article] := by
    rw [same]
    rfl
  obtain rfl := served.articles_eq_singleton only first (by omega)
  rw [if_neg] at answered
  · exact answered
  · intro writable
    have contradiction := writable article List.mem_cons_self
    rw [halved] at contradiction
    cases contradiction

end Http.Service

end Folio
