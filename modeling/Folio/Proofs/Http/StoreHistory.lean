import Folio.Proofs.ArticleStore
import Folio.Proofs.Http.ArticleListing
import Folio.Proofs.Uuid

/-!
# Histories of a store

Requests come in one after the other.  The store changes only by articles that are
answered with, and every one of them can be read back until it is replaced, as long
as no article is posted that cannot be written.
-/

namespace Folio.Http

structure Visit where
  fresh : Fresh
  request : Request

namespace Visit

/-- The article that is posted, if there is one, can be written. -/
def IsWritable (visit : Visit) : Prop :=
  ∀ article, Service.posted? visit.fresh visit.request = some article →
    article.isWritable = true

end Visit

/-- The response says that an article was stored under this identifier. -/
def Response.Stores (response : Response) (id : Uuid) : Prop :=
  response.status = 201 ∧ ∃ body, response.body = .json body ∧
    body.member? "id" = some (.str id.toText)

theorem Response.Stores.unique {response : Response} {id other : Uuid}
    (stores : response.Stores id) (storesOther : response.Stores other) : id = other := by
  obtain ⟨-, body, shown, named⟩ := stores
  obtain ⟨-, otherBody, otherShown, otherNamed⟩ := storesOther
  obtain rfl : body = otherBody := by
    simpa [shown] using otherShown
  apply Uuid.toText_injective
  simpa [named] using otherNamed

namespace Service

variable {service : Service} {visit : Visit}

/-! ## Runs -/

def answer (service : Service) (visit : Visit) : Response :=
  (service.respond visit.fresh visit.request).1

def next (service : Service) (visit : Visit) : Service :=
  (service.respond visit.fresh visit.request).2

/-- The service after visits. -/
def after (service : Service) (visits : List Visit) : Service :=
  visits.foldl next service

/-- The answers to visits, one after the other. -/
def answers (service : Service) : List Visit → List Response
  | [] => []
  | visit :: later => service.answer visit :: (service.next visit).answers later

@[simp] theorem after_nil : service.after [] = service := rfl

@[simp] theorem after_cons {later : List Visit} :
    service.after (visit :: later) = (service.next visit).after later := rfl

theorem after_append {earlier later : List Visit} :
    service.after (earlier ++ later) = (service.after earlier).after later :=
  List.foldl_append

/-! ## Steps -/

/-- What one visit does to the store. -/
structure KeepsStore (service : Service) (visit : Visit) : Prop where
  /-- Only a POST that is answered with 201 changes anything. -/
  changed : service.next visit ≠ service →
    visit.request.method = "POST" ∧ (service.answer visit).status = 201
  /-- The article of such an answer is stored under its identifier, and nothing
  else changes. -/
  stored : (service.answer visit).status = 201 →
    ∃ article, (service.answer visit).body = .json article.toJson ∧
      article.isWritable = true ∧ (service.answer visit).Stores article.id ∧
        (service.next visit).store.get? article.id = some article ∧
          (∀ id, id ≠ article.id →
            (service.next visit).store.get? id = service.store.get? id) ∧
            (service.next visit).store.articles.filter (·.id != article.id) =
                service.store.articles.filter (·.id != article.id) ∧
              (service.next visit).store.articles.length =
                service.store.articles.length +
                  if (service.store.get? article.id).isSome then 0 else 1
  /-- What fails changes nothing. -/
  failed : 400 ≤ (service.answer visit).status → service.next visit = service

theorem next_of_unposted (nothing : posted? visit.fresh visit.request = none) :
    service.next visit = service :=
  (respond_of_unposted service nothing).1

/-- A GET changes nothing. -/
theorem next_of_get (get : visit.request.method = "GET") :
    service.next visit = service := by
  apply next_of_unposted
  cases posted : posted? visit.fresh visit.request with
  | none => rfl
  | some article =>
      rw [method_of_posted posted] at get
      exact absurd get (by decide)

theorem stores_toJson {response : Response} {article : Article}
    (created : response.status = 201) (shown : response.body = .json article.toJson) :
    response.Stores article.id :=
  ⟨created, article.toJson, shown, rfl⟩

theorem keepsStore (service : Service) (writable : visit.IsWritable) :
    service.KeepsStore visit := by
  cases posted : posted? visit.fresh visit.request with
  | none =>
      obtain ⟨same, other⟩ := respond_of_unposted service posted
      constructor
      · intro changes
        exact absurd same changes
      · intro created
        exact absurd created other
      · intro failure
        exact same
  | some article =>
      obtain ⟨after, answered⟩ := respond_of_posted service posted
      have whole := writable article posted
      rw [if_pos whole] at answered
      obtain ⟨created, shown⟩ := answered
      have store : (service.next visit).store = service.store.add article :=
        congrArg Service.store after
      constructor
      · intro changes
        exact ⟨method_of_posted posted, created⟩
      · intro _
        refine ⟨article, shown, whole, stores_toJson created shown, ?_⟩
        rw [store]
        exact ⟨service.store.get?_add_self article,
          fun id different => service.store.get?_add_other different,
          service.store.filter_add article, service.store.length_add article⟩
      · intro failure
        rw [answer, created] at failure
        omega

theorem contract_next : (service.next visit).contract = service.contract := by
  cases posted : posted? visit.fresh visit.request with
  | none => rw [next_of_unposted posted]
  | some article =>
      have stored : service.next visit =
          { service with store := service.store.add article } :=
        (respond_of_posted service posted).1
      rw [stored]

theorem contract_after (service : Service) (visits : List Visit) :
    (service.after visits).contract = service.contract := by
  induction visits generalizing service with
  | nil => rfl
  | cons visit later inductionHypothesis =>
      rw [after_cons, inductionHypothesis, contract_next]

theorem isSound_after (sound : service.IsSound) (visits : List Visit) :
    (service.after visits).IsSound := by
  constructor
  · rw [contract_after]
    exact sound.coherent
  · rw [contract_after]
    exact sound.columns

/-! ## Reading back -/

/-- An article stays until another one is stored under its identifier. -/
theorem get?_after {id : Uuid} {article : Article} {visits : List Visit}
    (writable : ∀ visit ∈ visits, visit.IsWritable)
    (kept : ∀ earlier visit later, visits = earlier ++ visit :: later →
      ¬ ((service.after earlier).answer visit).Stores id)
    (present : service.store.get? id = some article) :
    (service.after visits).store.get? id = some article := by
  induction visits generalizing service with
  | nil => exact present
  | cons visit later inductionHypothesis =>
      rw [after_cons]
      apply inductionHypothesis
      · intro other otherPresent
        exact writable other (List.mem_cons_of_mem _ otherPresent)
      · intro earlier other rest same
        exact kept (visit :: earlier) other rest (congrArg (visit :: ·) same)
      · -- What the first visit stores, if anything, has another identifier.
        have step := keepsStore service (writable visit List.mem_cons_self)
        by_cases changes : service.next visit = service
        · rw [changes]
          exact present
        · obtain ⟨stored, -, -, stores, -, others, -⟩ := step.stored (step.changed changes).2
          have different : id ≠ stored.id := by
            rintro rfl
            exact kept [] visit later rfl stores
          rw [others id different]
          exact present

/-- An article is read back under every spelling of its identifier. -/
theorem answer_of_get {id : Uuid} {article : Article}
    (present : service.store.get? id = some article)
    (writable : article.isWritable = true) {text : String}
    (spelled : Uuid.ofJson (.str text) = .ok id) (get : visit.request.method = "GET")
    (addressed : unescape visit.request.path.toList =
      (Route.articlesPath ++ "/" ++ text).toList) :
    (service.answer visit).status = 200 ∧
      (service.answer visit).body = .json article.toJson := by
  have characters : Uuid.ofChars? text.toList = some id := by
    rw [Uuid.ofJson, Json.readCharacters_ofString, Uuid.ofText] at spelled
    split at spelled
    · rename_i found same
      rw [same, Except.ok.inj spelled]
    · cases spelled
  have nonempty : text ≠ "" := by
    rintro rfl
    exact Uuid.ne_nil_of_ofChars? characters rfl
  have direct : visit.request.method ≠ "OPTIONS" := by
    rw [get]
    decide
  have found := findTarget_article get nonempty
    (Uuid.slash_notMem_of_ofChars? characters) addressed
  obtain ⟨sameStatus, sameBody, -⟩ :=
    respond_of_direct service visit.fresh (CrossOrigin.preflight?_eq_none direct)
  have shown : (service.route visit.fresh visit.request).1 =
      .ok (.ofJson 200 article.toJson) := by
    rw [route_of_target service visit.fresh found, perform, articleById, spelled]
    dsimp only
    rw [present]
    exact if_pos writable
  rw [shown] at sameStatus sameBody
  exact ⟨sameStatus, sameBody⟩

/-! ## Histories -/

/-- Without some visits that are GETs the others are answered in the same way. -/
theorem answers_of_kept (service : Service) {marked : List (Visit × Bool)}
    (dropped : ∀ entry ∈ marked, entry.2 = false → entry.1.request.method = "GET") :
    (((service.answers (marked.map (·.1))).zip (marked.map (·.2))).filter (·.2)).map
        (·.1) =
      service.answers ((marked.filter (·.2)).map (·.1)) := by
  induction marked generalizing service with
  | nil => rfl
  | cons entry later inductionHypothesis =>
      obtain ⟨visit, keeps⟩ := entry
      have rest := fun service => inductionHypothesis service fun other present =>
        dropped other (List.mem_cons_of_mem _ present)
      cases keeps with
      | true => simp [answers, rest]
      | false =>
          -- The later visits find the same store with and without this one.
          have get := dropped (visit, false) List.mem_cons_self rfl
          simp [answers, next_of_get get, rest]

/-- What holds of the visits to a service. -/
structure History (service : Service) (visits : List Visit) : Prop where
  /-- Every visit keeps the store as it is or stores what it is answered with. -/
  kept : ∀ earlier visit later, visits = earlier ++ visit :: later →
    (service.after earlier).KeepsStore visit
  /-- Whichever GETs are left out, the other visits are answered in the same way. -/
  undisturbed : ∀ marked : List (Visit × Bool), marked.map (·.1) = visits →
    (∀ entry ∈ marked, entry.2 = false → entry.1.request.method = "GET") →
      (((service.answers visits).zip (marked.map (·.2))).filter (·.2)).map (·.1) =
        service.answers ((marked.filter (·.2)).map (·.1))
  /-- What is stored is read back under every spelling of its identifier until
  something else is stored there. -/
  readBack : ∀ earlier writer between reader later,
    visits = earlier ++ writer :: (between ++ reader :: later) →
      ∀ id body, ((service.after earlier).answer writer).Stores id →
        ((service.after earlier).answer writer).body = .json body →
          (∀ first other rest, between = first ++ other :: rest →
            ¬ ((service.after (earlier ++ writer :: first)).answer other).Stores id) →
            ∀ text : String, Uuid.ofJson (.str text) = .ok id →
              reader.request.method = "GET" →
                unescape reader.request.path.toList =
                    (Route.articlesPath ++ "/" ++ text).toList →
                  ((service.after (earlier ++ writer :: between)).answer reader).status =
                      200 ∧
                    ((service.after (earlier ++ writer :: between)).answer reader).body =
                      .json body
  /-- The total that is answered to a listing of all articles is their number. -/
  totalled : ∀ earlier reader later, visits = earlier ++ reader :: later →
    reader.request.method = "GET" →
      unescape reader.request.path.toList = Route.articlesPath.toList →
        ∀ request, PageRequest.decode service.contract.requestModel
            (readQuery reader.request.query) = .ok request →
          request.search.getD "" = "" →
            ((service.after earlier).answer reader).status = 200 →
              ∃ page : Page, ((service.after earlier).answer reader).body =
                  .json page.toJson ∧
                page.total = (service.after earlier).store.articles.length

theorem history (sound : service.IsSound) {visits : List Visit}
    (writable : ∀ visit ∈ visits, visit.IsWritable) : service.History visits := by
  constructor
  case kept =>
    rintro earlier visit later rfl
    exact keepsStore _ (writable visit (by simp))
  case undisturbed =>
    rintro marked rfl dropped
    exact answers_of_kept service dropped
  case readBack =>
    rintro earlier writer between reader later rfl id body stores shown unreplaced text
      spelled get addressed
    have written : ∀ visit ∈ writer :: between, visit.IsWritable := by
      intro visit present
      apply writable visit
      rcases List.mem_cons.mp present with rfl | inBetween
      · simp
      · simp [inBetween]
    have step := keepsStore (service.after earlier) (written writer List.mem_cons_self)
    obtain ⟨article, articleShown, whole, articleStores, present, -⟩ :=
      step.stored stores.1
    obtain rfl := stores.unique articleStores
    obtain rfl : body = article.toJson := by
      simpa [shown] using articleShown
    rw [after_append, after_cons]
    apply answer_of_get _ whole spelled get addressed
    apply get?_after (fun visit inBetween => written visit (List.mem_cons_of_mem _ inBetween))
      _ present
    intro first other rest same
    have unstored := unreplaced first other rest same
    rwa [after_append, after_cons] at unstored
  case totalled =>
    rintro earlier reader later rfl get addressed request accepted unfiltered succeeded
    have lists := respond_lists_of_sound (isSound_after sound earlier) reader.fresh
      reader.request get addressed
    rw [← contract_after service earlier] at accepted
    obtain ⟨articles, page, served, answered⟩ := lists.listed request accepted
    have total : page.total = (service.after earlier).store.articles.length := by
      rw [served.total, ArticleStore.matching_of_empty _ unfiltered]
    split at answered
    · exact ⟨page, answered.2, total⟩
    · have failure : ((service.after earlier).answer reader).status = 500 := answered
      omega

/-- Whatever the settings and the articles at the start, every history of visits that
post nothing unwritable keeps its promises. -/
theorem exists_start_history (settings : Settings) (seed : ArticleStore) :
    ∃ service, start settings seed = .ok service ∧ service.store = seed ∧
      ∀ visits : List Visit, (∀ visit ∈ visits, visit.IsWritable) →
        service.History visits := by
  obtain ⟨service, started, sameStore, sound, -⟩ := exists_start settings seed
  refine ⟨service, started, sameStore, ?_⟩
  intro visits writable
  exact history sound writable

def plainBody : Json :=
  .obj [("title", .str "x"), ("author", .str "y")]

theorem isWritable_plainPost :
    Visit.IsWritable ⟨firstFresh, postRequest plainBody⟩ := by
  obtain ⟨article, created, whole⟩ :
      ∃ article, newArticle firstFresh plainBody = .ok article ∧
        article.isWritable = true := ⟨_, rfl, rfl⟩
  intro other posted
  rw [posted?_postRequest created] at posted
  rw [← Option.some.inj posted, whole]

theorem isWritable_listing (query : String) :
    Visit.IsWritable ⟨firstFresh, listingRequest query⟩ := by
  intro article posted
  exact absurd (method_of_posted posted) (by simp [listingRequest])

/-- An article is posted and all are listed. -/
theorem plainBody_history :
    ∃ service, start .standard .empty = .ok service ∧
      service.History
        [⟨firstFresh, postRequest plainBody⟩, ⟨firstFresh, listingRequest ""⟩] := by
  obtain ⟨service, started, -, histories⟩ := exists_start_history .standard .empty
  refine ⟨service, started, histories _ ?_⟩
  intro visit present
  rcases List.mem_cons.mp present with rfl | listing
  · exact isWritable_plainPost
  · rw [List.mem_singleton.mp listing]
    exact isWritable_listing ""

/-- A post that fails because its article cannot be written leaves the article in the
store. -/
theorem halvedBody_kept :
    ∃ service, start .standard .empty = .ok service ∧
      (service.answer ⟨firstFresh, postRequest halvedBody⟩).status = 500 ∧
        service.store.articles.length = 0 ∧
          (service.next ⟨firstFresh, postRequest halvedBody⟩).store.articles.length =
            1 := by
  obtain ⟨service, started, sameStore, -⟩ := exists_start .standard .empty
  obtain ⟨article, created, halved⟩ :
      ∃ article, newArticle firstFresh halvedBody = .ok article ∧
        article.isWritable = false := ⟨_, rfl, rfl⟩
  obtain ⟨after, answered⟩ := respond_of_posted service (posted?_postRequest created)
  rw [if_neg (by simp [halved])] at answered
  have stored : service.next ⟨firstFresh, postRequest halvedBody⟩ =
      { service with store := service.store.add article } := after
  refine ⟨service, started, answered, ?_, ?_⟩
  · rw [sameStore]
    rfl
  · rw [stored, sameStore]
    rfl

end Service

end Folio.Http
