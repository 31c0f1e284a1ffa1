import Folio.Proofs.Chronology
import Folio.Proofs.StoreReplay

/-!
# Listings that forget the order of insertion

Where a column tells the matching articles apart, a listing by it depends on nothing but
which articles there are, and it is turned around with the direction.
-/

namespace Folio

namespace SortDirection

def opposite : SortDirection → SortDirection
  | ascending => descending
  | descending => ascending

/-- Two values are admitted in one direction as they are in the other one the other way
round. -/
theorem admits_opposite_iff {direction : SortDirection} {left right : Option SortKey}
    (leftValued : left.isSome = true) (rightValued : right.isSome = true) :
    direction.opposite.Admits left right ↔ direction.Admits right left := by
  obtain ⟨leftKey, rfl⟩ := Option.isSome_iff_exists.mp leftValued
  obtain ⟨rightKey, rfl⟩ := Option.isSome_iff_exists.mp rightValued
  cases direction with
  | ascending => exact Iff.rfl
  | descending => exact Iff.rfl

end SortDirection

/-! ## Articles that are told apart -/

namespace ArticleColumn

variable {column : ArticleColumn} {direction : SortDirection}
  {articles other found whole : List Article}

/-- Every article has a value in the column, and no two have the same. -/
structure Separates (column : ArticleColumn) (articles : List Article) : Prop where
  valued : ∀ article ∈ articles, (column.key? article).isSome = true
  distinct : (articles.map column.key?).Nodup

namespace Separates

theorem length_filter_le (separates : column.Separates articles) (key? : Option SortKey) :
    (articles.filter fun article => column.key? article = key?).length ≤ 1 := by
  have distinct : ((articles.filter fun article => column.key? article = key?).map
      column.key?).Nodup :=
    separates.distinct.sublist (List.filter_sublist.map column.key?)
  have level : ∀ key ∈ (articles.filter fun article => column.key? article = key?).map
      column.key?, key = key? := by
    intro key present
    obtain ⟨article, chosen, rfl⟩ := List.mem_map.mp present
    exact of_decide_eq_true (List.mem_filter.mp chosen).2
  rw [List.eq_replicate_of_mem level, List.nodup_replicate, List.length_map] at distinct
  exact distinct

/-- At most one article has a given value, so that it does not matter how the articles
stand. -/
theorem filter_eq_of_perm (separates : column.Separates articles)
    (sameArticles : articles.Perm other) (key? : Option SortKey) :
    articles.filter (fun article => column.key? article = key?) =
      other.filter (fun article => column.key? article = key?) := by
  have few := separates.length_filter_le key?
  have sameChosen := sameArticles.filter fun article => column.key? article = key?
  generalize articles.filter (fun article => column.key? article = key?) = chosen
    at few sameChosen
  cases chosen with
  | nil => exact sameChosen.nil_eq
  | cons only later =>
      have none : later = [] :=
        List.eq_nil_of_length_eq_zero (Nat.le_zero.mp (Nat.le_of_succ_le_succ few))
      rw [none] at sameChosen ⊢
      exact (List.perm_singleton.mp sameChosen.symm).symm

theorem arrange_eq_of_perm (separates : column.Separates articles)
    (sameArticles : articles.Perm other) (direction : SortDirection) :
    column.arrange direction articles = column.arrange direction other := by
  have arranged := column.arrange_isArranged direction articles
  apply (column.arrange_isArranged direction other).unique
  constructor
  case complete => exact arranged.complete.trans sameArticles
  case ordered => exact arranged.ordered
  case steady =>
    intro key?
    rw [arranged.steady, separates.filter_eq_of_perm sameArticles]

/-- In the other direction the articles stand the other way round. -/
theorem arrange_opposite (separates : column.Separates articles)
    (direction : SortDirection) :
    column.arrange direction.opposite articles =
      (column.arrange direction articles).reverse := by
  have arranged := column.arrange_isArranged direction articles
  have turned := (List.reverse_perm (column.arrange direction articles)).trans
    arranged.complete
  symm
  apply (column.arrange_isArranged direction.opposite articles).unique
  constructor
  case complete => exact turned
  case ordered =>
    rw [List.pairwise_reverse]
    apply arranged.ordered.imp_of_mem
    intro left right leftMember rightMember admitted
    have leftValued := separates.valued left (arranged.complete.mem_iff.mp leftMember)
    have rightValued := separates.valued right (arranged.complete.mem_iff.mp rightMember)
    exact (SortDirection.admits_opposite_iff rightValued leftValued).mpr admitted
  case steady =>
    intro key?
    exact (separates.filter_eq_of_perm turned.symm key?).symm

end Separates

/-! ## What articles say -/

@[simp] theorem key?_content (column : ArticleColumn) (article : Article) :
    column.key? article.content = column.key? article := by
  cases column <;> rfl

theorem Separates.map_content (separates : column.Separates articles) :
    column.Separates (articles.map Article.content) where
  valued := by
    intro said present
    obtain ⟨article, member, rfl⟩ := List.mem_map.mp present
    rw [key?_content]
    exact separates.valued article member
  distinct := by
    rw [List.map_map]
    have sameKeys : column.key? ∘ Article.content = column.key? :=
      funext fun article => column.key?_content article
    rw [sameKeys]
    exact separates.distinct

/-- It does not matter which columns came along with articles. -/
theorem map_content_arrange (column : ArticleColumn) (direction : SortDirection)
    (articles : List Article) :
    (column.arrange direction articles).map Article.content =
      column.arrange direction (articles.map Article.content) := by
  have arranged := column.arrange_isArranged direction articles
  have chosen : ∀ key? (items : List Article),
      (items.map Article.content).filter (fun said => column.key? said = key?) =
        (items.filter fun article => column.key? article = key?).map Article.content := by
    intro key? items
    rw [List.filter_map]
    congr 2
  apply (column.arrange_isArranged direction (articles.map Article.content)).unique
  constructor
  case complete => exact arranged.complete.map Article.content
  case ordered =>
    rw [List.pairwise_map]
    simpa using arranged.ordered
  case steady =>
    intro key?
    rw [chosen, chosen, arranged.steady]

end ArticleColumn

/-! ## Stores -/

/-- The request in the other direction. -/
def PageRequest.turned (request : PageRequest) : PageRequest :=
  { request with sort? := some request.direction.opposite }

namespace ArticleStore

variable {left right : ArticleStore} {contract : Contract} {request : PageRequest}
  {column : ArticleColumn}

/-- The stores hold articles that say the same, in whatever order. -/
def HoldsSame (left right : ArticleStore) : Prop :=
  ∀ said, said ∈ left.articles.map Article.content ↔ said ∈ right.articles.map Article.content

theorem mem_map_content_matching_iff (store : ArticleStore) {term? : Option Text}
    {said : Article} :
    said ∈ (store.matching term?).map Article.content ↔
      said ∈ store.articles.map Article.content ∧ said.Matches term? := by
  simp only [List.mem_map, mem_matching_iff]
  constructor
  · intro found
    obtain ⟨article, ⟨stored, matched⟩, rfl⟩ := found
    exact ⟨⟨article, stored, rfl⟩, matched⟩
  · intro found
    obtain ⟨⟨article, stored, rfl⟩, matched⟩ := found
    exact ⟨article, ⟨stored, matched⟩, rfl⟩

theorem nodup_map_content_matching (store : ArticleStore) (term? : Option Text) :
    ((store.matching term?).map Article.content).Nodup := by
  apply List.Nodup.of_map (·.id)
  rw [List.map_map]
  exact store.ids_nodup.sublist ((store.matching_sublist term?).map (·.id))

theorem HoldsSame.matching_perm (same : left.HoldsSame right) (term? : Option Text) :
    ((left.matching term?).map Article.content).Perm
      ((right.matching term?).map Article.content) := by
  apply (List.perm_ext_iff_of_nodup (left.nodup_map_content_matching term?)
    (right.nodup_map_content_matching term?)).mpr
  intro said
  rw [mem_map_content_matching_iff, mem_map_content_matching_iff, same said]

/-- What is under an identifier settles what a store holds. -/
theorem holdsSame_of_get? (same : ∀ id, (left.get? id).map Article.content =
    (right.get? id).map Article.content) : left.HoldsSame right := by
  have kept : ∀ {store other : ArticleStore}, (∀ id, (store.get? id).map Article.content =
      (other.get? id).map Article.content) → ∀ said,
        said ∈ store.articles.map Article.content →
          said ∈ other.articles.map Article.content := by
    intro store other same said present
    obtain ⟨article, stored, rfl⟩ := List.mem_map.mp present
    have found := same article.id
    rw [store.get?_of_mem stored, Option.map_some, eq_comm, Option.map_eq_some_iff] at found
    obtain ⟨again, againFound, againSaid⟩ := found
    rw [← againSaid]
    exact List.mem_map_of_mem (List.mem_of_find?_eq_some againFound)
  intro said
  exact ⟨kept same said, kept (fun id => (same id).symm) said⟩

/-- Histories that end with the same article under each identifier lead to stores that
hold the same. -/
theorem holdsSame_ofList {earlier later : List Article}
    (same : ∀ id, (latest? earlier id).map Article.content =
      (latest? later id).map Article.content) :
    (ofList earlier).HoldsSame (ofList later) := by
  apply holdsSame_of_get?
  intro id
  rw [(holdsLatest_ofList earlier).latest, (holdsLatest_ofList later).latest, same]

/-! ## Listings -/

/-- Two stores are listed alike, whatever order their articles were stored in. -/
structure ListsAlike (left right : ArticleStore) (contract : Contract)
    (request : PageRequest) : Prop where
  /-- Both serve a page, the articles on it say the same, and so does the total. -/
  served : ∃ leftItems rightItems total,
    left.listPage contract request = .ok (leftItems, total) ∧
      right.listPage contract request = .ok (rightItems, total) ∧
        leftItems.map Article.content = rightItems.map Article.content
  /-- Stores of the very same articles serve the very same page. -/
  exact : (∀ article, article ∈ left.articles ↔ article ∈ right.articles) →
    left.listPage contract request = right.listPage contract request
  /-- In the other direction the whole listing is turned around. -/
  turned : ∃ whole, left.listing contract request = .ok whole ∧
    left.listing contract request.turned = .ok whole.reverse

theorem map_slice {α β : Type} (convert : α → β) (offset limit : Nat) (items : List α) :
    (slice offset limit items).map convert = slice offset limit (items.map convert) := by
  rw [slice, slice, List.map_take, List.map_drop]

/-- Stores that hold the same are listed alike by a column that tells the matches
apart. -/
theorem listsAlike (same : left.HoldsSame right) (listed : contract.ListsBy request column)
    (separates : column.Separates (left.matching request.search)) :
    left.ListsAlike right contract request := by
  have sameSaid := same.matching_perm request.search
  constructor
  case served =>
    have total : (left.matching request.search).length =
        (right.matching request.search).length := by
      simpa using sameSaid.length_eq
    have leftServed := left.listPage_eq listed
    rw [total] at leftServed
    refine ⟨_, _, _, leftServed, right.listPage_eq listed, ?_⟩
    rw [map_slice, map_slice, column.map_content_arrange, column.map_content_arrange,
      separates.map_content.arrange_eq_of_perm sameSaid]
  case exact =>
    intro sameArticles
    have sameMatches : (left.matching request.search).Perm (right.matching request.search) := by
      apply (List.perm_ext_iff_of_nodup (left.nodup_matching _) (right.nodup_matching _)).mpr
      intro article
      rw [mem_matching_iff, mem_matching_iff, sameArticles]
    rw [left.listPage_eq listed, right.listPage_eq listed, sameMatches.length_eq,
      separates.arrange_eq_of_perm sameMatches]
  case turned =>
    obtain ⟨member, ordered, found⟩ := listed
    have orderedTurned : request.turned.orderMember? = some member := ordered
    refine ⟨_, left.listing_eq ordered found, ?_⟩
    rw [← separates.arrange_opposite request.direction]
    exact left.listing_eq orderedTurned found

/-- A draft as it was at first. -/
def earlierDraft (number : Fin 1000) : Article :=
  { draft number with body := "Notes" }

/-- Drafts are listed in the same way, although one store got them the other way round
and held another version of one of them before. -/
theorem drafts_listsAlike :
    ∃ contract request, Contract.build articleSchema .standard none = .ok contract ∧
      contract.ListsBy request .createdAt ∧
        (ofList [draft 1, draft 2, draft 3]).ListsAlike
          (ofList [earlierDraft 3, draft 3, draft 2, draft 1]) contract request := by
  obtain ⟨contract, built, listsBy⟩ := articleSchema_listsBy_createdAt
  obtain ⟨request, sameRequest⟩ : ∃ request : PageRequest, request =
      { model := contract.requestModel, page? := none, limit? := none, search? := none
        sort? := none, order? := some (.member (.ofIdentifier Identifier.createdAt)) } :=
    ⟨_, rfl⟩
  have listed : contract.ListsBy request .createdAt := by
    apply listsBy
    rw [sameRequest]
  have same : (ofList [draft 1, draft 2, draft 3]).HoldsSame
      (ofList [earlierDraft 3, draft 3, draft 2, draft 1]) := by
    apply holdsSame_ofList
    intro id
    have replaced : (earlierDraft 3).id = (draft 3).id := rfl
    by_cases first : (draft 1).id = id
    · subst first
      rfl
    · by_cases second : (draft 2).id = id
      · subst second
        rfl
      · by_cases third : (draft 3).id = id
        · subst third
          rfl
        · simp [latest?, first, second, third, replaced]
  have separates : ArticleColumn.createdAt.Separates
      ((ofList [draft 1, draft 2, draft 3]).matching request.search) := by
    have unsearched : request.search = none := by
      rw [sameRequest]
      rfl
    rw [unsearched]
    exact ⟨by decide +kernel, by decide +kernel⟩
  exact ⟨contract, request, built, listed, listsAlike same listed separates⟩

end ArticleStore

end Folio
