import Folio.Proofs.ArticleStore
import Folio.Proofs.Listing
import Folio.Proofs.LocalTime
import Folio.Proofs.Uuid

/-!
# Articles in the order of a column

Articles with a value in the column come first, in the order of their values, and
articles without one come last.  Wherever two articles have the same value, or both
have none, they keep their order.  No other list of the same articles has these
properties, so that articles can be left out before or after they are put in order.
-/

namespace Folio

/-! ## Lists ordered by a key -/

section Keyed

variable {α κ : Type} {key : α → κ} {left right : List α}

/-- A stable sort leaves items that may stand in any order where they are. -/
theorem filter_mergeSort {precedes : α → α → Bool} {chosen : α → Bool}
    (transitive : ∀ first second third, precedes first second = true →
      precedes second third = true → precedes first third = true)
    (total : ∀ first second, (precedes first second || precedes second first) = true)
    (level : ∀ first second, chosen first = true → chosen second = true →
      precedes first second = true) (items : List α) :
    (items.mergeSort precedes).filter chosen = items.filter chosen := by
  have sorted : (items.filter chosen).Pairwise (precedes · ·) := by
    apply List.pairwise_iff_forall_sublist.mpr
    intro first second part
    have firstMember := part.subset (List.mem_cons_self (a := first))
    have secondMember := part.subset (List.mem_cons_of_mem first List.mem_cons_self)
    exact level first second (List.mem_filter.mp firstMember).2
      (List.mem_filter.mp secondMember).2
  have kept : (items.filter chosen).Sublist (items.mergeSort precedes) :=
    List.sublist_mergeSort transitive total sorted List.filter_sublist
  have keptAgain := kept.filter chosen
  rw [List.filter_filter] at keptAgain
  simp only [Bool.and_self] at keptAgain
  have sameLength := ((List.mergeSort_perm items precedes).filter chosen).length_eq
  exact (keptAgain.eq_of_length sameLength.symm).symm

/-- Lists that are ordered by their keys are settled by the items of each key. -/
theorem eq_of_filter_key_eq [DecidableEq κ] {before : κ → κ → Prop}
    (antisymmetric : ∀ first second, before first second → before second first →
      first = second)
    (leftOrdered : left.Pairwise fun first second => before (key first) (key second))
    (rightOrdered : right.Pairwise fun first second => before (key first) (key second))
    (same : ∀ value, left.filter (fun item => key item = value) =
      right.filter (fun item => key item = value)) : left = right := by
  induction left generalizing right with
  | nil =>
      cases right with
      | nil => rfl
      | cons head tail =>
          have impossible := same (key head)
          simp at impossible
  | cons leftHead leftTail inductionHypothesis =>
      cases right with
      | nil =>
          have impossible := same (key leftHead)
          simp at impossible
      | cons rightHead rightTail =>
          rw [List.pairwise_cons] at leftOrdered rightOrdered
          -- Each head occurs on the other side, so that neither key comes first.
          have leftMember : leftHead ∈ rightHead :: rightTail := by
            have member : leftHead ∈ (leftHead :: leftTail).filter
                (fun item => key item = key leftHead) := by simp
            rw [same] at member
            exact List.mem_of_mem_filter member
          have rightMember : rightHead ∈ leftHead :: leftTail := by
            have member : rightHead ∈ (rightHead :: rightTail).filter
                (fun item => key item = key rightHead) := by simp
            rw [← same] at member
            exact List.mem_of_mem_filter member
          have sameKey : key leftHead = key rightHead := by
            rcases List.mem_cons.mp leftMember with sameHead | leftLater
            · rw [sameHead]
            · rcases List.mem_cons.mp rightMember with sameHead | rightLater
              · rw [sameHead]
              · exact antisymmetric _ _ (leftOrdered.1 _ rightLater)
                  (rightOrdered.1 _ leftLater)
          have sameHead : leftHead = rightHead := by
            have heads := same (key leftHead)
            simp only [List.filter_cons, decide_true, ↓reduceIte, ← sameKey,
              List.cons.injEq] at heads
            exact heads.1
          subst sameHead
          congr 1
          apply inductionHypothesis leftOrdered.2 rightOrdered.2
          intro value
          have tails := same value
          rw [List.filter_cons, List.filter_cons] at tails
          split at tails
          · exact (List.cons.inj tails).2
          · exact tails

end Keyed

/-! ## Keys -/

namespace SortKey

theorem le_total (left right : SortKey) : (left.le right || right.le left) = true := by
  cases left with
  | number leftValue =>
      cases right with
      | number rightValue => simpa [le] using Nat.le_total leftValue rightValue
      | text rightValue => rfl
  | text leftValue =>
      cases right with
      | number rightValue => rfl
      | text rightValue =>
          simpa [le] using List.le_total leftValue.codes rightValue.codes

theorem le_trans {first second third : SortKey} (earlier : first.le second = true)
    (later : second.le third = true) : first.le third = true := by
  cases first <;> cases second <;> cases third <;>
    simp only [le, decide_eq_true_eq, Bool.false_eq_true] at earlier later ⊢
  · exact Nat.le_trans earlier later
  · exact List.le_trans earlier later

theorem le_antisymm {left right : SortKey} (forward : left.le right = true)
    (backward : right.le left = true) : left = right := by
  cases left <;> cases right <;>
    simp only [le, decide_eq_true_eq, Bool.false_eq_true] at forward backward
  · rw [Nat.le_antisymm forward backward]
  · rw [Text.codes_injective (List.le_antisymm forward backward)]

end SortKey

/-- The key may stand before the other one.  A missing key stands behind all others
in both directions. -/
def SortDirection.Admits (direction : SortDirection) :
    Option SortKey → Option SortKey → Prop
  | some left, some right =>
      match direction with
      | .ascending => left.le right = true
      | .descending => right.le left = true
  | none, some _ => False
  | _, none => True

theorem SortDirection.Admits.antisymm {direction : SortDirection}
    {left right : Option SortKey} (forward : direction.Admits left right)
    (backward : direction.Admits right left) : left = right := by
  cases left with
  | none =>
      cases right with
      | none => rfl
      | some rightKey => cases forward
  | some leftKey =>
      cases right with
      | none => cases backward
      | some rightKey =>
          cases direction with
          | ascending => rw [SortKey.le_antisymm forward backward]
          | descending => rw [SortKey.le_antisymm backward forward]

namespace ArticleColumn

variable {column : ArticleColumn} {direction : SortDirection}
  {found whole other : List Article}

/-! ## Comparing articles -/

/-- Two articles have the same key exactly if the same is written for the column that
they are put in order by. -/
theorem key?_eq_key?_iff {left right : Article} :
    column.key? left = column.key? right ↔
      left.toJson.member? column.name = right.toJson.member? column.name := by
  have instants : ∀ earlier later : Instant,
      earlier.microseconds = later.microseconds ↔ earlier.toText = later.toText := by
    intro earlier later
    rw [Instant.toText_injective.eq_iff, Instant.mk.injEq]
  have ids : ∀ id other : Uuid,
      id.bits.toNat = other.bits.toNat ↔ id.toText = other.toText := by
    intro id other
    rw [Uuid.toText_injective.eq_iff, Uuid.mk.injEq, BitVec.toNat_inj]
  cases column with
  | publishedAt =>
      cases leftPublished : left.publishedAt? <;>
        cases rightPublished : right.publishedAt? <;>
        simp [key?, Article.toJson, Json.member?, Members.find?, name, leftPublished,
          rightPublished, Json.ofText?, instants]
  | _ => simp [key?, Article.toJson, Json.member?, Members.find?, name, ids, instants]

theorem le_total (column : ArticleColumn) (left right : Article) :
    (column.le left right || column.le right left) = true := by
  unfold le
  cases column.key? left with
  | none => rfl
  | some leftKey =>
      cases column.key? right with
      | none => rfl
      | some rightKey => exact SortKey.le_total leftKey rightKey

theorem le_trans (column : ArticleColumn) {first second third : Article}
    (earlier : column.le first second = true) (later : column.le second third = true) :
    column.le first third = true := by
  unfold le at earlier later ⊢
  cases firstKey : column.key? first <;> cases secondKey : column.key? second <;>
    cases thirdKey : column.key? third <;> simp_all only [Bool.false_eq_true]
  exact SortKey.le_trans earlier later

theorem mayPrecede_total (column : ArticleColumn) (direction : SortDirection)
    (left right : Article) :
    (column.mayPrecede direction left right ||
      column.mayPrecede direction right left) = true := by
  cases direction with
  | ascending => exact column.le_total left right
  | descending => exact column.le_total right left

theorem mayPrecede_trans (column : ArticleColumn) (direction : SortDirection)
    (first second third : Article)
    (earlier : column.mayPrecede direction first second = true)
    (later : column.mayPrecede direction second third = true) :
    column.mayPrecede direction first third = true := by
  cases direction with
  | ascending => exact column.le_trans earlier later
  | descending => exact column.le_trans later earlier

/-- Articles with the same key may stand in any order. -/
theorem mayPrecede_of_key?_eq (direction : SortDirection) {left right : Article}
    (same : column.key? left = column.key? right) :
    column.mayPrecede direction left right = true := by
  have level : column.le left right = column.le right left := by
    unfold le
    rw [same]
  have total := column.mayPrecede_total direction left right
  cases direction <;> simpa [mayPrecede, level] using total

theorem admits_of_mayPrecede {left right : Article}
    (leftValued : (column.key? left).isSome = true)
    (rightValued : (column.key? right).isSome = true)
    (precedes : column.mayPrecede direction left right = true) :
    direction.Admits (column.key? left) (column.key? right) := by
  obtain ⟨leftKey, leftFound⟩ := Option.isSome_iff_exists.mp leftValued
  obtain ⟨rightKey, rightFound⟩ := Option.isSome_iff_exists.mp rightValued
  cases direction <;>
    simpa [mayPrecede, le, leftFound, rightFound, SortDirection.Admits] using precedes

/-! ## Arrangements -/

/-- The whole holds the articles that were found, in the order of a column. -/
structure IsArranged (column : ArticleColumn) (direction : SortDirection)
    (found whole : List Article) : Prop where
  /-- Nothing is lost, added or repeated. -/
  complete : whole.Perm found
  /-- Values go up or down with the direction, and articles without a value come
  after all others. -/
  ordered : whole.Pairwise fun left right =>
    direction.Admits (column.key? left) (column.key? right)
  /-- Articles with the same value keep their order, and so do articles without
  one. -/
  steady : ∀ key?, whole.filter (fun article => column.key? article = key?) =
    found.filter (fun article => column.key? article = key?)

namespace IsArranged

/-- There is only one arrangement of articles. -/
theorem unique (arranged : column.IsArranged direction found whole)
    (arrangedOther : column.IsArranged direction found other) : other = whole := by
  have antisymmetric : ∀ left right, direction.Admits left right →
      direction.Admits right left → left = right := by
    intro left right forward backward
    exact forward.antisymm backward
  apply eq_of_filter_key_eq antisymmetric arrangedOther.ordered arranged.ordered
  intro key?
  rw [arrangedOther.steady, arranged.steady]

theorem filter (arranged : column.IsArranged direction found whole)
    (chosen : Article → Bool) :
    column.IsArranged direction (found.filter chosen) (whole.filter chosen) where
  complete := arranged.complete.filter chosen
  ordered := arranged.ordered.filter chosen
  steady := by
    intro key?
    have swapped : ∀ articles : List Article,
        (articles.filter chosen).filter (fun article => column.key? article = key?) =
          (articles.filter fun article => column.key? article = key?).filter chosen := by
      intro articles
      rw [List.filter_filter, List.filter_filter]
      congr 1
      funext article
      exact Bool.and_comm _ _
    rw [swapped, swapped, arranged.steady]

end IsArranged

theorem arrange_eq (column : ArticleColumn) (direction : SortDirection)
    (articles : List Article) :
    column.arrange direction articles =
      (articles.filter fun article => (column.key? article).isSome).mergeSort
          (column.mayPrecede direction) ++
        articles.filter fun article => !(column.key? article).isSome := by
  unfold arrange
  rw [List.partition_eq_filter_filter]
  rfl

theorem arrange_isArranged (column : ArticleColumn) (direction : SortDirection)
    (articles : List Article) :
    column.IsArranged direction articles (column.arrange direction articles) := by
  have valued : ∀ article ∈ (articles.filter fun article =>
      (column.key? article).isSome).mergeSort (column.mayPrecede direction),
      (column.key? article).isSome = true := by
    intro article present
    rw [List.mem_mergeSort, List.mem_filter] at present
    exact present.2
  have valueless : ∀ article ∈ articles.filter fun article =>
      !(column.key? article).isSome, column.key? article = none := by
    intro article present
    simpa using (List.mem_filter.mp present).2
  constructor
  case complete => exact column.arrange_perm direction articles
  case ordered =>
    rw [arrange_eq, List.pairwise_append]
    refine ⟨?_, ?_, ?_⟩
    · have sorted := List.pairwise_mergeSort (column.mayPrecede_trans direction)
        (column.mayPrecede_total direction)
        (articles.filter fun article => (column.key? article).isSome)
      apply sorted.imp_of_mem
      intro left right leftMember rightMember precedes
      exact admits_of_mayPrecede (valued left leftMember) (valued right rightMember)
        precedes
    · apply List.pairwise_of_forall_mem_list
      intro left leftMember right rightMember
      rw [valueless left leftMember, valueless right rightMember]
      trivial
    · intro left leftMember right rightMember
      rw [valueless right rightMember]
      cases column.key? left <;> trivial
  case steady =>
    intro key?
    rw [arrange_eq, List.filter_append,
      filter_mergeSort (column.mayPrecede_trans direction)
        (column.mayPrecede_total direction)]
    · -- The articles of one key are all in the first part or all in the second.
      rw [List.filter_filter, List.filter_filter]
      cases key? with
      | none =>
          have first : articles.filter (fun article =>
              decide (column.key? article = none) && (column.key? article).isSome) =
                [] := by
            apply List.filter_eq_nil_iff.mpr
            simp +contextual
          rw [first, List.nil_append]
          apply List.filter_congr
          simp +contextual
      | some key =>
          have second : articles.filter (fun article =>
              decide (column.key? article = some key) &&
                !(column.key? article).isSome) = [] := by
            apply List.filter_eq_nil_iff.mpr
            simp +contextual
          rw [second, List.append_nil]
          apply List.filter_congr
          simp +contextual
    · intro left right leftKey rightKey
      apply mayPrecede_of_key?_eq
      rw [of_decide_eq_true leftKey, of_decide_eq_true rightKey]

/-- Articles can be left out before or after the others are put in order. -/
theorem filter_arrange (column : ArticleColumn) (direction : SortDirection)
    (articles : List Article) (chosen : Article → Bool) :
    (column.arrange direction articles).filter chosen =
      column.arrange direction (articles.filter chosen) :=
  (column.arrange_isArranged direction (articles.filter chosen)).unique
    ((column.arrange_isArranged direction articles).filter chosen)

end ArticleColumn

namespace ArticleAttribute

theorem arrange_perm {kind : ArticleAttribute} {direction : SortDirection}
    {articles arranged : List Article}
    (succeeded : kind.arrange direction articles = .ok arranged) :
    arranged.Perm articles := by
  cases kind with
  | valueless =>
      cases succeeded
      exact .refl _
  | uniform =>
      cases succeeded
      exact .refl _
  | incomparable =>
      rw [arrange] at succeeded
      split at succeeded
      · cases succeeded
        exact .refl _
      · cases succeeded
  | given =>
      cases succeeded
      cases direction with
      | ascending => exact Bisection.sort_perm _ _
      | descending =>
          exact (List.reverse_perm _).trans
            ((Bisection.sort_perm _ _).trans (List.reverse_perm _))

end ArticleAttribute

/-! ## Listings -/

namespace ArticleStore

/-- The whole is what is listed of a store for a search, by a column and in a
direction. -/
structure Arranges (store : ArticleStore) (term? : Option Text)
    (column : ArticleColumn) (direction : SortDirection) (whole : List Article) :
    Prop where
  /-- Exactly the stored articles that match are listed. -/
  matched : ∀ article, article ∈ store.matching term? ↔
    article ∈ store.articles ∧ article.Matches term?
  /-- Matches come in the order in which their identifiers were stored. -/
  inserted : (store.matching term?).Sublist store.articles
  arranged : column.IsArranged direction (store.matching term?) whole
  /-- No other list is arranged in this way. -/
  only : ∀ other, column.IsArranged direction (store.matching term?) other →
    other = whole
  /-- Every request is answered with a slice of the whole and with a total that
  depends on nothing but the search. -/
  sliced : ∀ contract request, contract.ListsBy request column →
    request.direction = direction → request.search = term? →
      store.listPage contract request =
        .ok ((whole.drop request.offset).take request.limit,
          (store.matching term?).length)
  /-- A slice that covers everything is the whole. -/
  covered : ∀ contract request, contract.ListsBy request column →
    request.direction = direction → request.search = term? → request.offset = 0 →
      (store.matching term?).length ≤ request.limit →
        store.listPage contract request = .ok (whole, (store.matching term?).length)

theorem arrangeBy_perm {columnName : Text} {direction : SortDirection}
    {found whole : List Article}
    (arranged : arrangeBy columnName direction found = .ok whole) :
    whole.Perm found := by
  unfold arrangeBy at arranged
  split at arranged
  · cases arranged
    exact ArticleColumn.arrange_perm _ _ _
  · exact ArticleAttribute.arrange_perm arranged
  · split at arranged
    · rename_i empty
      cases arranged
      rw [List.isEmpty_iff.mp empty]
    · cases arranged

/-- Whatever matches are ordered by, all of them are counted. -/
theorem total_of_listPage {store : ArticleStore} {contract : Contract}
    {request : PageRequest} {items : List Article} {total : Nat}
    (served : store.listPage contract request = .ok (items, total)) :
    total = (store.matching request.search).length := by
  obtain ⟨whole, listed, page⟩ := bind_eq_ok_iff.mp served
  cases page
  unfold listing at listed
  split at listed
  · cases listed
  · obtain ⟨columnName, -, arranged⟩ := bind_eq_ok_iff.mp listed
    exact (arrangeBy_perm arranged).length_eq

theorem listPage_eq (store : ArticleStore) {contract : Contract}
    {request : PageRequest} {column : ArticleColumn}
    (listed : contract.ListsBy request column) :
    store.listPage contract request =
      .ok (slice request.offset request.limit
          (column.arrange request.direction (store.matching request.search)),
        (store.matching request.search).length) := by
  obtain ⟨member, ordered, found⟩ := listed
  have total := (column.arrange_perm request.direction
    (store.matching request.search)).length_eq
  rw [← total, listPage, store.listing_eq ordered found]
  rfl

/-- Whatever is stored and searched for, it is listed in one way by every column and
in both directions. -/
theorem exists_arranges (store : ArticleStore) (term? : Option Text)
    (column : ArticleColumn) (direction : SortDirection) :
    ∃ whole, store.Arranges term? column direction whole := by
  have arranged := column.arrange_isArranged direction (store.matching term?)
  refine ⟨column.arrange direction (store.matching term?), ?_⟩
  constructor
  case matched => exact fun _ => store.mem_matching_iff
  case inserted => exact store.matching_sublist term?
  case arranged => exact arranged
  case only => exact fun _ arrangedOther => arranged.unique arrangedOther
  case sliced =>
    rintro contract request listed rfl rfl
    exact store.listPage_eq listed
  case covered =>
    rintro contract request listed rfl rfl first enough
    have complete := arranged.complete.length_eq
    rw [store.listPage_eq listed, slice, first, List.drop_zero,
      List.take_of_length_le (by omega)]

/-- Two of three articles are served, newest first. -/
theorem drafts_arranges :
    ∃ contract request column whole,
      Contract.build articleSchema .standard none = .ok contract ∧
        PageRequest.decode contract.requestModel [("limit", .int 2)] = .ok request ∧
        contract.ListsBy request column ∧
        (ofList [draft 1, draft 2, draft 3]).Arranges none column .descending whole ∧
        (ofList [draft 1, draft 2, draft 3]).listPage contract request =
          .ok (whole.take 2, 3) := by
  obtain ⟨contract, built⟩ :
      ∃ contract, Contract.build articleSchema .standard none = .ok contract := by
    apply Contract.exists_of_isOk
    decide +kernel
  obtain ⟨coherent, sameSchema, sameLimits, -⟩ := Contract.build_eq_ok_iff.mp built
  have accepted : PageRequest.read contract.requestModel
      (PageRequest.ofQuery [("limit", .int 2)]) = .ok
        { model := contract.requestModel, page? := none, limit? := some 2,
          search? := none, sort? := none, order? := none } :=
    PageRequest.read_eq_ok_iff.mpr ⟨rfl, rfl, rfl, rfl, rfl, rfl⟩
  obtain ⟨column, listed⟩ := coherent.exists_listsBy (by
    rw [sameSchema]
    decide +kernel) accepted
  obtain ⟨whole, arranges⟩ :=
    exists_arranges (ofList [draft 1, draft 2, draft 3]) none column .descending
  refine ⟨contract, _, column, whole, built, PageRequest.decode_eq_ok_iff.mpr accepted,
    listed, arranges, ?_⟩
  rw [arranges.sliced contract _ listed rfl rfl]
  simp [PageRequest.offset, PageRequest.page, PageRequest.limit, sameLimits,
    PageLimits.standard, matching]
  rfl

end ArticleStore

end Folio
