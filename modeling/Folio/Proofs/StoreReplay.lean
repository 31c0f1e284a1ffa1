import Folio.Proofs.Arrangement

/-!
# Stores and the articles that were added

A store is settled by the articles that were added to it, one after the other.  It
holds the last one under each identifier, at the place where the identifier first
came up.  Adding an article again changes neither the others nor their order in any
listing.
-/

namespace Folio.ArticleStore

variable {store : ArticleStore} {history : List Article} {article : Article}

def addAll (store : ArticleStore) (added : List Article) : ArticleStore :=
  added.foldl (fun store article => store.add article) store

theorem addAll_append (store : ArticleStore) (earlier later : List Article) :
    store.addAll (earlier ++ later) = (store.addAll earlier).addAll later :=
  List.foldl_append

theorem ofList_eq_addAll (articles : List Article) : ofList articles = empty.addAll articles :=
  rfl

/-- The article that was added last under an identifier. -/
def latest? (history : List Article) (id : Uuid) : Option Article :=
  history.reverse.find? (·.id == id)

theorem latest?_append_singleton (history : List Article) (article : Article) (id : Uuid) :
    latest? (history ++ [article]) id =
      if article.id = id then some article else latest? history id := by
  rw [latest?, List.reverse_append, List.reverse_singleton, List.singleton_append]
  by_cases same : article.id = id
  · rw [if_pos same]
    exact List.find?_cons_of_pos (beq_iff_eq.mpr same)
  · rw [if_neg same]
    exact List.find?_cons_of_neg (by simpa using same)

/-- The last article under an identifier is followed by articles under other
identifiers only. -/
theorem latest?_eq_some_iff {id : Uuid} :
    latest? history id = some article ↔
      article.id = id ∧ ∃ earlier later, history = earlier ++ article :: later ∧
        id ∉ later.map (·.id) := by
  rw [latest?, List.find?_eq_some_iff_append, beq_iff_eq]
  apply and_congr_right
  intro _
  constructor
  · rintro ⟨later, earlier, turned, others⟩
    refine ⟨earlier.reverse, later.reverse, ?_, ?_⟩
    · rw [← List.reverse_inj, turned]
      simp
    · intro present
      obtain ⟨other, member, same⟩ := List.mem_map.mp present
      have different := others other (List.mem_reverse.mp member)
      simp [same] at different
  · rintro ⟨earlier, later, rfl, others⟩
    refine ⟨later.reverse, earlier.reverse, by simp, ?_⟩
    intro other member
    have different : other.id ≠ id := by
      rintro rfl
      exact others (List.mem_map_of_mem (List.mem_reverse.mp member))
    simpa using different

theorem latest?_eq_none_iff {id : Uuid} :
    latest? history id = none ↔ id ∉ history.map (·.id) := by
  simp [latest?]

theorem eraseDups_append_singleton {α : Type} [DecidableEq α] (items : List α) (item : α) :
    (items ++ [item]).eraseDups =
      if item ∈ items then items.eraseDups else items.eraseDups ++ [item] := by
  rw [List.eraseDups_append, List.removeAll]
  by_cases present : item ∈ items
  · rw [if_pos present, List.filter_cons_of_neg (by simpa using present)]
    simp
  · rw [if_neg present, List.filter_cons_of_pos (by simpa using present)]
    simp [List.eraseDups_cons]

/-! ## Steps and runs -/

/-- The store holds the last article under each identifier, and the identifiers stand
in the order in which they came up. -/
structure HoldsLatest (store : ArticleStore) (history : List Article) : Prop where
  ids : store.articles.map (·.id) = (history.map (·.id)).eraseDups
  latest : ∀ id, store.get? id = latest? history id

theorem holdsLatest_empty : empty.HoldsLatest [] := by
  constructor
  · rfl
  · intro id
    rfl

/-- One more article is one more step of the history. -/
theorem HoldsLatest.add (holds : store.HoldsLatest history) (article : Article) :
    (store.add article).HoldsLatest (history ++ [article]) := by
  constructor
  · have stored : (store.add article).articles.map (·.id) =
        if article.id ∈ store.articles.map (·.id) then store.articles.map (·.id)
        else store.articles.map (·.id) ++ [article.id] :=
      map_id_insertArticle article store.articles
    rw [stored, holds.ids, List.map_append, List.map_singleton,
      eraseDups_append_singleton]
    simp only [List.mem_eraseDups]
  · intro id
    rw [latest?_append_singleton]
    by_cases same : article.id = id
    · rw [if_pos same, ← same, get?_add_self]
    · rw [if_neg same, store.get?_add_other (Ne.symm same), holds.latest]

theorem HoldsLatest.addAll (holds : store.HoldsLatest history) (added : List Article) :
    (store.addAll added).HoldsLatest (history ++ added) := by
  induction added generalizing store history with
  | nil => rwa [List.append_nil]
  | cons article later inductionHypothesis =>
      rw [← List.singleton_append, ← List.append_assoc]
      exact inductionHypothesis (holds.add article)

theorem holdsLatest_ofList (articles : List Article) :
    (ofList articles).HoldsLatest articles := by
  rw [ofList_eq_addAll]
  exact holdsLatest_empty.addAll articles

/-! ## Contents -/

theorem get?_of_mem (store : ArticleStore) (present : article ∈ store.articles) :
    store.get? article.id = some article :=
  find?_eq_some_of_nodup store.ids_nodup present

/-- The articles are those that are found under their identifiers. -/
theorem articles_eq_filterMap (store : ArticleStore) :
    store.articles = (store.articles.map (·.id)).filterMap store.get? := by
  rw [List.filterMap_map]
  have found : store.articles.filterMap (store.get? ∘ (·.id)) =
      store.articles.filterMap some := by
    apply List.filterMap_congr
    intro article present
    exact store.get?_of_mem present
  rw [found, List.filterMap_some]

theorem insertArticle_of_absent {articles : List Article}
    (absent : article.id ∉ articles.map (·.id)) :
    insertArticle article articles = articles ++ [article] := by
  induction articles with
  | nil => rfl
  | cons present later inductionHypothesis =>
      rw [List.map_cons, List.mem_cons, not_or] at absent
      rw [insertArticle, if_neg (Ne.symm absent.1), inductionHypothesis absent.2,
        List.cons_append]

theorem insertArticle_of_present {articles : List Article}
    (distinct : (articles.map (·.id)).Nodup)
    (present : article.id ∈ articles.map (·.id)) :
    insertArticle article articles =
      articles.map fun other => if other.id = article.id then article else other := by
  induction articles with
  | nil => cases present
  | cons first later inductionHypothesis =>
      rw [List.map_cons, List.nodup_cons] at distinct
      rw [insertArticle, List.map_cons]
      by_cases same : first.id = article.id
      · -- Behind its identifier no article is touched.
        have untouched : ∀ other ∈ later,
            (if other.id = article.id then article else other) = other := by
          intro other member
          apply if_neg
          intro again
          apply distinct.1
          rw [same, ← again]
          exact List.mem_map_of_mem member
        rw [if_pos same, if_pos same, List.map_congr_left untouched, List.map_id']
      · rw [List.map_cons, List.mem_cons, or_iff_right (Ne.symm same)] at present
        rw [if_neg same, if_neg same, inductionHypothesis distinct.2 present]

/-- The other matches stay as they are, in their order. -/
theorem filter_matching_add (store : ArticleStore) (article : Article)
    (term? : Option Text) :
    ((store.add article).matching term?).filter (·.id != article.id) =
      (store.matching term?).filter (·.id != article.id) := by
  unfold matching
  split
  · exact store.filter_add article
  · split
    · exact store.filter_add article
    · rename_i term _
      rw [List.filter_comm, store.filter_add, List.filter_comm]

/-- Adding an article leaves the others where they are in every listing. -/
theorem filter_arrange_add (store : ArticleStore) (article : Article)
    (term? : Option Text) (column : ArticleColumn) (direction : SortDirection) :
    (column.arrange direction ((store.add article).matching term?)).filter
        (·.id != article.id) =
      (column.arrange direction (store.matching term?)).filter
        (·.id != article.id) := by
  rw [column.filter_arrange, column.filter_arrange, filter_matching_add]

theorem HoldsLatest.length_eq (holds : store.HoldsLatest history) :
    store.articles.length = (history.map (·.id)).toFinset.card := by
  have sameIds : (store.articles.map (·.id)).toFinset = (history.map (·.id)).toFinset := by
    ext id
    rw [holds.ids, List.mem_toFinset, List.mem_toFinset, List.mem_eraseDups]
  rw [← sameIds, List.toFinset_card_of_nodup store.ids_nodup, List.length_map]

/-! ## Replays -/

/-- What is in a store after a history of articles that were added. -/
structure Replays (store : ArticleStore) (history : List Article) : Prop where
  /-- No identifier occurs twice. -/
  distinct : (store.articles.map (·.id)).Nodup
  /-- Behind an identifier stands the article that was added last under it. -/
  found : ∀ id article, store.get? id = some article ↔
    article.id = id ∧ ∃ earlier later, history = earlier ++ article :: later ∧
      id ∉ later.map (·.id)
  absent : ∀ id, store.get? id = none ↔ id ∉ history.map (·.id)
  /-- The articles stand where their identifiers first came up. -/
  placed : store.articles = (history.map (·.id)).eraseDups.filterMap store.get?
  /-- A page of all articles comes with the number of identifiers. -/
  totalled : ∀ contract request items total, request.search.getD "" = ("" : Text) →
    store.listPage contract request = .ok (items, total) →
      total = (history.map (·.id)).toFinset.card
  /-- There is such a page wherever the order leads to a column. -/
  listed : ∀ contract request column, contract.ListsBy request column →
    ∃ items total, store.listPage contract request = .ok (items, total)
  /-- An article under a new identifier comes after all others. -/
  appended : ∀ article, article.id ∉ history.map (·.id) →
    (store.add article).articles = store.articles ++ [article]
  /-- An article under a known identifier takes the place of the one that is there. -/
  overwritten : ∀ article, article.id ∈ history.map (·.id) →
    (store.add article).articles =
      store.articles.map fun other => if other.id = article.id then article else other
  /-- The others keep their order in the listings for every search, by every column
  and in both directions. -/
  undisturbed : ∀ article term? column direction whole wholeAfter,
    store.Arranges term? column direction whole →
      (store.add article).Arranges term? column direction wholeAfter →
        wholeAfter.filter (·.id != article.id) = whole.filter (·.id != article.id)

theorem Arranges.eq_arrange {term? : Option Text} {column : ArticleColumn}
    {direction : SortDirection} {whole : List Article}
    (arranges : store.Arranges term? column direction whole) :
    whole = column.arrange direction (store.matching term?) :=
  (arranges.only _ (column.arrange_isArranged direction _)).symm

theorem HoldsLatest.replays (holds : store.HoldsLatest history) : store.Replays history := by
  have known : ∀ id, id ∈ store.articles.map (·.id) ↔ id ∈ history.map (·.id) := by
    intro id
    rw [holds.ids, List.mem_eraseDups]
  constructor
  case distinct => exact store.ids_nodup
  case found =>
    intro id article
    rw [holds.latest, latest?_eq_some_iff]
  case absent =>
    intro id
    rw [holds.latest, latest?_eq_none_iff]
  case placed =>
    rw [← holds.ids]
    exact store.articles_eq_filterMap
  case totalled =>
    intro contract request items total unfiltered served
    rw [total_of_listPage served, matching_of_empty _ unfiltered, holds.length_eq]
  case listed =>
    intro contract request column listed
    exact ⟨_, _, store.listPage_eq listed⟩
  case appended =>
    intro article new
    exact insertArticle_of_absent (mt (known article.id).mp new)
  case overwritten =>
    intro article old
    exact insertArticle_of_present store.ids_nodup ((known article.id).mpr old)
  case undisturbed =>
    intro article term? column direction whole wholeAfter arranges arrangesAfter
    rw [arranges.eq_arrange, arrangesAfter.eq_arrange]
    exact filter_arrange_add store article term? column direction

/-- Articles at the start are as good as articles that are added later, and at every
moment the store holds what was added so far. -/
theorem ofList_replays (seed added : List Article) :
    ofList seed = empty.addAll seed ∧
      (ofList seed).addAll added = ofList (seed ++ added) ∧
        ∀ earlier later, added = earlier ++ later →
          ((ofList seed).addAll earlier).Replays (seed ++ earlier) := by
  refine ⟨ofList_eq_addAll seed, ?_, ?_⟩
  · rw [ofList_eq_addAll, ofList_eq_addAll, addAll_append]
  · rintro earlier later rfl
    exact ((holdsLatest_ofList seed).addAll earlier).replays

end Folio.ArticleStore
