import Folio.ArticleStore
import Folio.Proofs.Text.Lowering
import Mathlib.Data.Fintype.Card

/-!
# Storing articles

Storing an article changes the entry of its identifier and no other one.  There is
one article more exactly if the identifier is new.  A search finds the articles in
whose title or body the term occurs in lowercase.
-/

-- Powers of natural numbers, as in the definitions.
attribute [local instance (2000)] instPowNat

namespace Folio

/-- The term occurs in the title or in the body, all in lowercase.  Without a term
every article matches. -/
def Article.Matches (article : Article) (term? : Option Text) : Prop :=
  term?.getD "" = "" ∨
    (Text.lower (term?.getD "")).toList <:+: (Text.lower article.title).toList ∨
      (Text.lower (term?.getD "")).toList <:+: (Text.lower article.body).toList

namespace ArticleStore

variable {article : Article}

theorem find?_insertArticle_self (article : Article) (articles : List Article) :
    (insertArticle article articles).find? (·.id == article.id) = some article := by
  induction articles with
  | nil => simp [insertArticle]
  | cons present later inductionHypothesis =>
      rw [insertArticle]
      by_cases same : present.id = article.id
      · simp [same]
      · simp [same, inductionHypothesis]

theorem find?_insertArticle_other {id : Uuid} (different : id ≠ article.id)
    (articles : List Article) :
    (insertArticle article articles).find? (·.id == id) =
      articles.find? (·.id == id) := by
  induction articles with
  | nil => simp [insertArticle, Ne.symm different]
  | cons present later inductionHypothesis =>
      rw [insertArticle]
      by_cases same : present.id = article.id
      · simp [same, Ne.symm different]
      · rw [if_neg same, List.find?_cons, List.find?_cons, inductionHypothesis]

theorem filter_insertArticle (article : Article) (articles : List Article) :
    (insertArticle article articles).filter (·.id != article.id) =
      articles.filter (·.id != article.id) := by
  induction articles with
  | nil => simp [insertArticle]
  | cons present later inductionHypothesis =>
      rw [insertArticle]
      by_cases same : present.id = article.id
      · simp [same]
      · simp [same, inductionHypothesis]

@[simp] theorem get?_add_self (store : ArticleStore) (article : Article) :
    (store.add article).get? article.id = some article :=
  find?_insertArticle_self article store.articles

theorem get?_add_other (store : ArticleStore) {id : Uuid} (different : id ≠ article.id) :
    (store.add article).get? id = store.get? id :=
  find?_insertArticle_other different store.articles

/-- The other articles stay as they are, in their order. -/
theorem filter_add (store : ArticleStore) (article : Article) :
    (store.add article).articles.filter (·.id != article.id) =
      store.articles.filter (·.id != article.id) :=
  filter_insertArticle article store.articles

theorem isSome_get?_iff (store : ArticleStore) {id : Uuid} :
    (store.get? id).isSome = true ↔ id ∈ store.articles.map (·.id) := by
  rw [get?, List.find?_isSome, List.mem_map]
  simp only [beq_iff_eq]

theorem length_add (store : ArticleStore) (article : Article) :
    (store.add article).articles.length =
      store.articles.length + if (store.get? article.id).isSome then 0 else 1 := by
  have ids := congrArg List.length (map_id_insertArticle article store.articles)
  rw [List.length_map] at ids
  simp only [isSome_get?_iff]
  rw [add, ids]
  split
  · rw [List.length_map, Nat.add_zero]
  · rw [List.length_append, List.length_map, List.length_singleton]

/-! ## Matches -/

/-- There are no more articles than identifiers. -/
theorem length_articles_le (store : ArticleStore) :
    store.articles.length ≤ 2 ^ (128 : Nat) := by
  have distinct : (store.articles.map fun article => article.id.bits.toFin).Nodup := by
    have injective : Function.Injective fun id : Uuid => id.bits.toFin := by
      intro left right same
      cases left
      cases right
      exact congrArg Uuid.mk (BitVec.eq_of_toFin_eq same)
    have mapped := store.ids_nodup.map injective
    rwa [List.map_map] at mapped
  have bounded := distinct.length_le_card
  rwa [List.length_map, Fintype.card_fin] at bounded

/-- Matches stand in the order of the store. -/
theorem matching_sublist (store : ArticleStore) (term? : Option Text) :
    (store.matching term?).Sublist store.articles := by
  unfold matching
  split
  · exact List.Sublist.refl _
  · split
    · exact List.Sublist.refl _
    · exact List.filter_sublist

theorem length_matching_le (store : ArticleStore) (term? : Option Text) :
    (store.matching term?).length ≤ 2 ^ (128 : Nat) :=
  Nat.le_trans (store.matching_sublist term?).length_le store.length_articles_le

theorem mem_matching_iff (store : ArticleStore) {term? : Option Text} :
    article ∈ store.matching term? ↔
      article ∈ store.articles ∧ article.Matches term? := by
  unfold matching Article.Matches
  cases term? with
  | none => simp
  | some term =>
      rw [Option.getD_some]
      dsimp only
      split
      · rename_i empty
        simp [empty]
      · rename_i nonempty
        rw [List.mem_filter, mentions, Bool.or_eq_true, Text.occursIn_iff_isInfix,
          Text.occursIn_iff_isInfix, or_iff_right nonempty]

/-- Without a term to search for, all articles match. -/
theorem matching_of_empty (store : ArticleStore) {term? : Option Text}
    (unfiltered : term?.getD "" = "") : store.matching term? = store.articles := by
  cases term? with
  | none => rfl
  | some term => exact if_pos unfiltered

end ArticleStore

end Folio
