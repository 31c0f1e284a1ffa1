import Folio.Proofs.ArticleStore
import Folio.Proofs.Contract
import Folio.Proofs.Page
import Folio.Proofs.PageRequest

/-!
# Pages of a listing

A listing holds every matching article once.  The pages that are served one by
one make up the whole listing, and their number is the one that goes with every
page.
-/

namespace Folio

-- Powers of natural numbers, as in the definitions.
attribute [local instance (2000)] instPowNat

namespace ArticleColumn

@[simp] theorem ofName?_name (column : ArticleColumn) :
    ofName? column.name = some column := by
  cases column <;> decide +kernel

theorem arrange_perm (column : ArticleColumn) (direction : SortDirection)
    (articles : List Article) :
    (column.arrange direction articles).Perm articles := by
  unfold arrange
  rw [List.partition_eq_filter_filter]
  have sorted := List.mergeSort_perm
    (articles.filter fun article => (column.key? article).isSome)
    (column.mayPrecede direction)
  exact (sorted.append_right _).trans (List.filter_append_perm _ articles)

end ArticleColumn

/-- Where the fields of a schema are columns, orders lead to columns. -/
theorem Contract.IsCoherent.exists_column {contract : Contract}
    (coherent : contract.IsCoherent)
    (columns : ∀ field ∈ contract.schema.orderableFields,
      field.name ∈ ArticleColumn.all.map ArticleColumn.name) :
    ∀ member ∈ contract.orders.members, ∃ column : ArticleColumn,
      contract.columnFor member.identifier = .ok column.name := by
  intro member present
  obtain ⟨found, looked, orderable | createdAt⟩ := coherent.exists_columnFor present
  · obtain ⟨field, fieldMember, rfl⟩ := List.mem_map.mp orderable
    obtain ⟨column, -, name⟩ := List.mem_map.mp (columns field fieldMember)
    exact ⟨column, looked.trans (congrArg Except.ok name.symm)⟩
  · exact ⟨.createdAt, looked.trans (congrArg Except.ok createdAt)⟩

/-- The order of a request leads to a column of articles. -/
def Contract.ListsBy (contract : Contract) (request : PageRequest)
    (column : ArticleColumn) : Prop :=
  ∃ member, request.orderMember? = some member ∧
    contract.columnFor member.identifier = .ok column.name

/-- Where the fields of a schema are columns, every accepted request is ordered by
one. -/
theorem Contract.IsCoherent.exists_listsBy {contract : Contract}
    (coherent : contract.IsCoherent)
    (columns : ∀ field ∈ contract.schema.orderableFields,
      field.name ∈ ArticleColumn.all.map ArticleColumn.name)
    {source : PageRequest.Source} {request : PageRequest}
    (accepted : PageRequest.read contract.requestModel source = .ok request) :
    ∃ column, contract.ListsBy request column := by
  obtain ⟨default, named, enumerated⟩ := coherent.exists_default
  obtain ⟨member, present, ordered⟩ := PageRequest.exists_orderMember? enumerated
    (OrderEnum.mem_members_of_member? named) accepted
  obtain ⟨column, found⟩ := coherent.exists_column columns member present
  exact ⟨column, member, ordered, found⟩

namespace ArticleStore

variable {store : ArticleStore}

theorem nodup_articles (store : ArticleStore) : store.articles.Nodup :=
  List.Nodup.of_map _ store.ids_nodup

theorem nodup_matching (store : ArticleStore) (term? : Option Text) :
    (store.matching term?).Nodup :=
  store.nodup_articles.sublist (store.matching_sublist term?)

/-! ## Listings -/

section Listing

variable {contract : Contract} {request : PageRequest} {member : OrderEntry}
  {column : ArticleColumn}

theorem listing_eq (store : ArticleStore)
    (ordered : request.orderMember? = some member)
    (found : contract.columnFor member.identifier = .ok column.name) :
    store.listing contract request =
      .ok (column.arrange request.direction (store.matching request.search)) := by
  unfold listing
  rw [ordered]
  dsimp only
  rw [found]
  simp [bind, Except.bind, arrangeBy]

theorem listPage_atPage {whole : List Article}
    (listed : store.listing contract request = .ok whole) (number : Nat) :
    store.listPage contract (request.atPage number) =
      .ok (slice ((number - 1) * request.limit) request.limit whole, whole.length) := by
  have sameListing : store.listing contract (request.atPage number) = .ok whole :=
    listed
  unfold listPage
  rw [sameListing]
  rfl

end Listing

/-- The pages of a listing make up the whole of it. -/
structure IsPaged (store : ArticleStore) (contract : Contract)
    (source : PageRequest.Source) (request : PageRequest) (whole : List Article)
    (pages : Nat → List Article) (count : Nat) : Prop where
  /-- The whole is the listing that is asked for. -/
  listed : store.listing contract request = .ok whole
  /-- It holds the matching articles, each of them once. -/
  complete : whole.Perm (store.matching request.search)
  unrepeated : whole.Nodup
  /-- Every page can be asked for and comes with the number of matches. -/
  served : ∀ number, 1 ≤ number →
    PageRequest.read contract.requestModel (source.atPage number) =
        .ok (request.atPage number) ∧
      store.listPage contract (request.atPage number) =
        .ok (pages number, (store.matching request.search).length)
  /-- Every page is answered with the same number of pages. -/
  counted : ∀ number, 1 ≤ number → ∀ items, ∃ page,
    Page.ofEntities items (store.matching request.search).length
        (request.atPage number) = .ok page ∧
      page.total = (store.matching request.search).length ∧ page.pages = count
  /-- The pages are the whole, one after the other. -/
  joined : (List.range count).flatMap (fun index => pages (index + 1)) = whole
  /-- All pages before the last one are full. -/
  full : ∀ number, 1 ≤ number → number < count →
    (pages number).length = request.limit
  /-- The last page is neither empty nor too long. -/
  last : 1 ≤ count →
    1 ≤ (pages count).length ∧ (pages count).length ≤ request.limit
  /-- After the last page there is nothing. -/
  beyond : ∀ number, count < number → pages number = []

theorem ofEntities_atPage {request : PageRequest} {total : Nat}
    (few : total ≤ 2 ^ 53) (positive : 1 ≤ request.limit)
    (bounded : request.limit ≤ 2 ^ (1000 : Nat)) (number : Nat) (items : List Json) :
    Page.ofEntities items total (request.atPage number) =
      .ok { total, page := number, pages := Page.countFor total request.limit,
            items } := by
  have computed : Page.pageCount (.ofNat total) (request.atPage number).limit =
      .ok (Page.countFor total request.limit : Int) :=
    Page.pageCount_ofNat few positive bounded
  unfold Page.ofEntities
  rw [computed]
  simp [bind, Except.bind, pure, Except.pure, PageRequest.atPage, PageRequest.page]

theorem exists_isPaged {schema : EntitySchema} {limits : PageLimits}
    {response? : Option EntityModel} {contract : Contract}
    (built : Contract.build schema limits response? = .ok contract)
    (columns : ∀ member ∈ contract.orders.members, ∃ column : ArticleColumn,
      contract.columnFor member.identifier = .ok column.name)
    {source : PageRequest.Source} {request : PageRequest}
    (accepted : PageRequest.read contract.requestModel source = .ok request)
    (positive : 1 ≤ request.limit) (bounded : request.limit ≤ 2 ^ (1000 : Nat))
    (few : (store.matching request.search).length ≤ 2 ^ 53) :
    ∃ whole pages count, store.IsPaged contract source request whole pages count := by
  obtain ⟨coherent, -⟩ := Contract.build_eq_ok_iff.mp built
  obtain ⟨default, named, enumerated⟩ := coherent.exists_default
  obtain ⟨member, present, ordered⟩ := PageRequest.exists_orderMember? enumerated
    (OrderEnum.mem_members_of_member? named) accepted
  obtain ⟨column, found⟩ := columns member present
  have listed := store.listing_eq ordered found
  have complete :=
    column.arrange_perm request.direction (store.matching request.search)
  have total := complete.length_eq
  generalize column.arrange request.direction (store.matching request.search) = whole
    at listed complete total
  refine ⟨whole, fun number => slice ((number - 1) * request.limit) request.limit whole,
    Page.countFor whole.length request.limit, ?_⟩
  exact {
    listed
    complete
    unrepeated := complete.nodup_iff.mpr (store.nodup_matching _)
    served := by
      intro number first
      refine ⟨PageRequest.read_atPage accepted first, ?_⟩
      rw [← total]
      exact listPage_atPage listed number
    counted := by
      intro number first items
      refine ⟨_, ofEntities_atPage few positive bounded number items, rfl, ?_⟩
      rw [total]
    joined := flatMap_slice_countFor whole positive
    full := by
      intro number first earlier
      apply length_slice_of_lt whole positive
      omega
    last := by
      intro first
      constructor
      · apply length_slice_pos whole positive
        omega
      · rw [length_slice]
        exact Nat.min_le_left _ _
    beyond := by
      intro number later
      apply slice_eq_nil whole positive
      omega }

def articleSchema : EntitySchema where
  name := "Article"
  fields := [.make "title" true false, .make "published_at" true true]
  name_nonempty := by decide
  names_nodup := by decide
  one_default := by decide

def draft (number : Fin 1000) : Article where
  id := { bits := BitVec.ofNat 128 number }
  title := "Draft"
  author := "Anonymous"
  body := ""
  publishedAt? := none
  createdAt := ⟨number, Nat.lt_trans number.isLt (by decide)⟩
  given := []
  title_nonempty := by decide

/-- Three articles, of which two go on a page. -/
theorem drafts_isPaged :
    ∃ contract request whole pages count,
      Contract.build articleSchema .standard none = .ok contract ∧
        PageRequest.read contract.requestModel
            (PageRequest.ofQuery [("limit", .int 2)]) = .ok request ∧
        (ofList [draft 1, draft 2, draft 3]).IsPaged contract
          (PageRequest.ofQuery [("limit", .int 2)]) request whole pages count := by
  obtain ⟨contract, built⟩ :
      ∃ contract, Contract.build articleSchema .standard none = .ok contract := by
    apply Contract.exists_of_isOk
    decide +kernel
  obtain ⟨coherent, sameSchema, sameLimits, -⟩ := Contract.build_eq_ok_iff.mp built
  have columns := coherent.exists_column (by
    rw [sameSchema]
    decide +kernel)
  obtain ⟨request, same⟩ : ∃ request : PageRequest, request =
      { model := contract.requestModel, page? := none, limit? := some 2,
        search? := none, sort? := none, order? := none } := ⟨_, rfl⟩
  have accepted : PageRequest.read contract.requestModel
      (PageRequest.ofQuery [("limit", .int 2)]) = .ok request := by
    rw [same]
    exact PageRequest.read_eq_ok_iff.mpr ⟨rfl, rfl, rfl, rfl, rfl, rfl⟩
  have limit : request.limit = 2 := by
    simp [same, PageRequest.limit, sameLimits, PageLimits.standard]
  have bounded : request.limit ≤ 2 ^ (1000 : Nat) := by
    rw [limit]
    exact Nat.le_of_lt (Binary64.two_pow_lt_two_pow 1 1000 (by decide))
  have three : ((ofList [draft 1, draft 2, draft 3]).matching none).length = 3 := by
    decide +kernel
  have few : ((ofList [draft 1, draft 2, draft 3]).matching
      request.search).length ≤ 2 ^ 53 := by
    rw [same, PageRequest.search, three]
    decide
  obtain ⟨whole, pages, count, paged⟩ :=
    exists_isPaged built columns accepted (by omega) bounded few
  exact ⟨contract, request, whole, pages, count, built, accepted, paged⟩

end ArticleStore

end Folio
