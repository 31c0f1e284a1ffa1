import Folio.Proofs.Http.Dispatch

/-!
# What a request stores

Whether a request stores an article, and which one, is settled by the request
alone.  The answer 201 is given for stored articles and for nothing else.
-/

namespace Folio.Http.Service

variable {fresh : Fresh} {request : Request}

/-- The article that a request stores. -/
def posted? (fresh : Fresh) (request : Request) : Option Article :=
  match findTarget request with
  | .ok .createArticle =>
      match readContent request with
      | .ok value => (newArticle fresh value).toOption
      | .error _ => none
  | _ => none

theorem posted?_eq_some_iff {article : Article} :
    posted? fresh request = some article ↔
      findTarget request = .ok .createArticle ∧
        ∃ value, readContent request = .ok value ∧
          newArticle fresh value = .ok article := by
  unfold posted?
  cases findTarget request with
  | error response => simp
  | ok target =>
      cases target with
      | createArticle =>
          cases readContent request with
          | error response => simp
          | ok value =>
              cases created : newArticle fresh value <;>
                simp [created, Except.toOption]
      | _ => simp

theorem method_of_posted {article : Article} (posted : posted? fresh request = some article) :
    request.method = "POST" :=
  method_of_createArticle (posted?_eq_some_iff.mp posted).1

/-! ## Articles that are stored -/

/-- A posted article is stored.  It is answered with, if it can be written. -/
theorem respond_of_posted (service : Service) {article : Article}
    (posted : posted? fresh request = some article) :
    (service.respond fresh request).2 =
        { service with store := service.store.add article } ∧
      if article.isWritable = true then
        (service.respond fresh request).1.status = 201 ∧
          (service.respond fresh request).1.body = .json article.toJson
      else (service.respond fresh request).1.status = 500 := by
  obtain ⟨found, value, content, created⟩ := posted?_eq_some_iff.mp posted
  have direct : request.method ≠ "OPTIONS" := by
    rw [method_of_posted posted]
    decide
  obtain ⟨sameStatus, sameBody, after⟩ :=
    respond_of_direct service fresh (CrossOrigin.preflight?_eq_none direct)
  have performed : service.route fresh request =
      (articleResponse 201 article, service.store.add article) := by
    rw [route_of_target service fresh found, perform, create, content]
    dsimp only
    rw [created]
  rw [performed] at sameStatus sameBody after
  refine ⟨after, ?_⟩
  rw [sameStatus, sameBody, articleResponse]
  split
  · exact ⟨rfl, rfl⟩
  · rfl

/-! ## Other requests -/

theorem fault_status_ne (fault : Fault) : fault.answer.status ≠ 201 := by
  unfold Fault.answer
  split
  · exact Nat.ne_of_beq_eq_false rfl
  · split <;> exact Nat.ne_of_beq_eq_false rfl

theorem list_status_ne (service : Service) (query : Members) :
    (reply (service.list query)).status ≠ 201 := by
  unfold list
  split
  · exact fault_status_ne _
  · exact Nat.ne_of_beq_eq_false rfl
  · rename_i pageRequest _
    cases service.pageFor pageRequest <;> exact Nat.ne_of_beq_eq_false rfl

theorem articleById_status_ne (service : Service) (text : String) :
    (reply (service.articleById text)).status ≠ 201 := by
  unfold articleById articleResponse
  split
  · exact Nat.ne_of_beq_eq_false rfl
  · split
    · split <;> exact Nat.ne_of_beq_eq_false rfl
    · exact Nat.ne_of_beq_eq_false rfl

theorem readBody_status_ne {text : Text} {response : Response}
    (refused : readBody text = .error response) : response.status ≠ 201 := by
  unfold readBody at refused
  split at refused
  · cases refused
  · split at refused <;> cases refused <;> exact Nat.ne_of_beq_eq_false rfl

theorem readContent_status_ne {response : Response}
    (refused : readContent request = .error response) : response.status ≠ 201 := by
  unfold readContent at refused
  split at refused
  · cases refused
    exact Nat.ne_of_beq_eq_false rfl
  · split at refused
    · cases refused
    · cases refused
      exact Nat.ne_of_beq_eq_false rfl
  · split at refused
    · cases refused
      exact Nat.ne_of_beq_eq_false rfl
    · split at refused
      · cases refused
        exact Nat.ne_of_beq_eq_false rfl
      · split at refused
        · exact readBody_status_ne refused
        · cases refused
          exact Nat.ne_of_beq_eq_false rfl

theorem findTarget_status_ne {response : Response}
    (refused : findTarget request = .error response) : response.status ≠ 201 := by
  unfold findTarget at refused
  dsimp only at refused
  split at refused
  · cases refused
  · split at refused
    · cases refused
      exact Nat.ne_of_beq_eq_false rfl
    · split at refused <;> cases refused <;> exact Nat.ne_of_beq_eq_false rfl

/-- A body that is no article is not stored. -/
theorem create_of_refused (service : Service)
    (refused : ∀ value, readContent request = .ok value →
      ∀ article, newArticle fresh value ≠ .ok article) :
    (reply (service.create fresh request).1).status ≠ 201 ∧
      (service.create fresh request).2 = service.store := by
  unfold create
  cases content : readContent request with
  | error response => exact ⟨readContent_status_ne content, rfl⟩
  | ok value =>
      dsimp only
      cases created : newArticle fresh value with
      | ok article => exact absurd created (refused value content article)
      | error issues =>
          dsimp only
          split
          · unfold reportIssues
            split <;> exact ⟨Nat.ne_of_beq_eq_false rfl, rfl⟩
          · exact ⟨Nat.ne_of_beq_eq_false rfl, rfl⟩

theorem preflight_status_ne {allowed : List Text} {response : Response}
    (answered : CrossOrigin.preflight? allowed request = some response) :
    response.status ≠ 201 := by
  obtain ⟨origin, -, rest⟩ := Option.bind_eq_some_iff.mp answered
  obtain ⟨method, -, decided⟩ := Option.bind_eq_some_iff.mp rest
  split at decided
  · cases decided
    unfold CrossOrigin.preflight
    dsimp only
    split <;> exact Nat.ne_of_beq_eq_false rfl
  · cases decided

theorem route_of_unposted (service : Service) (nothing : posted? fresh request = none) :
    (reply (service.route fresh request).1).status ≠ 201 ∧
      (service.route fresh request).2 = service.store := by
  unfold route
  cases found : findTarget request with
  | error response => exact ⟨findTarget_status_ne found, rfl⟩
  | ok target =>
      cases target with
      | showDocument document => exact ⟨Nat.ne_of_beq_eq_false rfl, rfl⟩
      | listArticles => exact ⟨service.list_status_ne _, rfl⟩
      | showArticle id => exact ⟨service.articleById_status_ne id, rfl⟩
      | createArticle =>
          apply create_of_refused
          intro value content article created
          have posted := posted?_eq_some_iff.mpr ⟨found, value, content, created⟩
          rw [nothing] at posted
          cases posted
      | showHealth => exact ⟨Nat.ne_of_beq_eq_false rfl, rfl⟩

/-- Where no article is posted, nothing is stored and nothing is said to be. -/
theorem respond_of_unposted (service : Service) (nothing : posted? fresh request = none) :
    (service.respond fresh request).2 = service ∧
      (service.respond fresh request).1.status ≠ 201 := by
  cases answered : CrossOrigin.preflight? service.origins request with
  | some response =>
      rw [respond, answered]
      exact ⟨rfl, preflight_status_ne answered⟩
  | none =>
      obtain ⟨other, sameStore⟩ := route_of_unposted service nothing
      obtain ⟨sameStatus, -, after⟩ := respond_of_direct service fresh answered
      rw [after, sameStore, sameStatus]
      exact ⟨rfl, other⟩

end Folio.Http.Service
