import Folio.Proofs.Arrangement

/-!
# Searching for what is written

A search finds the articles that hold its term character for character, wherever the
capital sigmas of the term end words in the article exactly if they do in the term.
The terms that are found in all articles that hold them are the settled ones, among
them all terms without a capital sigma.
-/

namespace Folio

namespace Article

variable {article : Article} {term : Text}

/-- The term stands in the title or in the body, character for character. -/
def Holds (article : Article) (term : Text) : Prop :=
  term.toList <:+: (Text.ofString article.title).toList ∨
    term.toList <:+: article.body.toList

/-- The term stands in the title or in the body at a place where it keeps its
sigmas. -/
def HoldsSteadily (article : Article) (term : Text) : Prop :=
  ∃ before after, Text.KeepsSigmas before term.toList after ∧
    ((Text.ofString article.title).toList = before ++ term.toList ++ after ∨
      article.body.toList = before ++ term.toList ++ after)

theorem HoldsSteadily.matches (holds : article.HoldsSteadily term) :
    article.Matches (some term) := by
  obtain ⟨before, after, keeps, title | body⟩ := holds
  · refine .inr (.inl ?_)
    rw [Text.toList_lower, Text.toList_lower, title]
    exact keeps.isInfix_lowerChars
  · refine .inr (.inr ?_)
    rw [Text.toList_lower, Text.toList_lower, body]
    exact keeps.isInfix_lowerChars

/-- A settled term keeps its sigmas wherever it stands. -/
theorem Holds.holdsSteadily (holds : article.Holds term)
    (settled : Text.IsSettled term.toList) : article.HoldsSteadily term := by
  rcases holds with ⟨before, after, title⟩ | ⟨before, after, body⟩
  · exact ⟨before, after, settled.keepsSigmas before after, .inl title.symm⟩
  · exact ⟨before, after, settled.keepsSigmas before after, .inr body.symm⟩

end Article

namespace ArticleStore

/-- A search for the term finds the article. -/
structure Finds (store : ArticleStore) (term : Text) (article : Article) : Prop where
  matched : article ∈ store.matching (some term)
  /-- Wherever pages hold anything, the article is on one of them, and it is counted
  in the total. -/
  served : ∀ contract request column, contract.ListsBy request column →
    request.search = some term → 1 ≤ request.limit →
      ∃ number items, 1 ≤ number ∧
        store.listPage contract (request.atPage number) =
          .ok (items, (store.matching (some term)).length) ∧ article ∈ items

theorem finds_of_mem_matching {store : ArticleStore} {term : Text} {article : Article}
    (matched : article ∈ store.matching (some term)) : store.Finds term article := by
  refine ⟨matched, ?_⟩
  intro contract request column listed searched positive
  have present : article ∈ column.arrange request.direction
      (store.matching request.search) := by
    rw [searched]
    exact (column.arrange_perm request.direction _).mem_iff.mpr matched
  rw [← flatMap_slice_countFor (column.arrange request.direction
    (store.matching request.search)) positive, List.mem_flatMap] at present
  obtain ⟨index, -, onPage⟩ := present
  have listedThere : contract.ListsBy (request.atPage (index + 1)) column := listed
  refine ⟨index + 1, _, Nat.le_add_left 1 index, ?_, onPage⟩
  rw [store.listPage_eq listedThere, ← searched]
  rfl

def titled (title : String) (nonempty : 0 < title.length) (body : Text) : Article :=
  { draft 0 with title, body, title_nonempty := nonempty }

/-- What is found under every title is found in the body. -/
theorem isInfix_of_matches_titled {body term : Text}
    (matched : ∀ title nonempty, (titled title nonempty body).Matches (some term)) :
    Text.lowerChars term.toList <:+: Text.lowerChars body.toList := by
  have inside : ∀ title : String, 0 < title.length →
      Text.lowerChars term.toList <:+: (Text.lower (Text.ofString title)).toList ∨
        Text.lowerChars term.toList <:+: Text.lowerChars body.toList := by
    intro title nonempty
    rcases matched title nonempty with empty | inTitle | inBody
    · rw [show term = "" from empty]
      exact .inr List.nil_infix
    · exact .inl inTitle
    · exact .inr inBody
  -- Nothing but the empty term is found in each of two titles without a common letter.
  rcases inside "x" (by decide) with inFirst | inBody
  · rcases inside "y" (by decide) with inSecond | inBody
    · have first : (Text.lower (Text.ofString "x")).toList = ['x'] := by decide +kernel
      have second : (Text.lower (Text.ofString "y")).toList = ['y'] := by decide +kernel
      rw [first] at inFirst
      rw [second] at inSecond
      rcases List.sublist_singleton.mp inFirst.sublist with nothing | letter
      · rw [nothing]
        exact List.nil_infix
      · rw [letter] at inSecond
        cases List.sublist_singleton.mp inSecond.sublist with
        | inl absurd => cases absurd
        | inr same => cases CodePoint.ofChar_inj.mp (List.cons.inj same).1
    · exact inBody
  · exact inBody

/-- What is held where it keeps its sigmas is found, and what is held anywhere is found
for settled terms only. -/
theorem finds_held (term : Text) :
    (∀ (store : ArticleStore) (article : Article), article ∈ store.articles →
        article.HoldsSteadily term → store.Finds term article) ∧
      (Text.IsSettled term.toList ↔
        ∀ (store : ArticleStore) (article : Article), article ∈ store.articles →
          article.Holds term → store.Finds term article) ∧
      (Text.capitalSigma ∉ term.toList → Text.IsSettled term.toList) := by
  have steady : ∀ (store : ArticleStore) (article : Article),
      article ∈ store.articles → article.HoldsSteadily term →
        store.Finds term article := by
    intro store article stored holds
    exact finds_of_mem_matching (store.mem_matching_iff.mpr ⟨stored, holds.matches⟩)
  refine ⟨steady, ⟨?_, ?_⟩, Text.isSettled_of_notMem⟩
  · intro settled store article stored holds
    exact steady store article stored (holds.holdsSteadily settled)
  · intro found
    rw [Text.isSettled_iff]
    intro before after
    -- The text around the term is the body of the only article.
    have matched : ∀ title nonempty,
        (titled title nonempty (.ofList (before ++ term.toList ++ after))).Matches
          (some term) := by
      intro title nonempty
      have finds := found (ofList [titled title nonempty _]) (titled title nonempty _)
        (List.mem_singleton_self _) (.inr ⟨before, after, rfl⟩)
      exact ((ofList [titled title nonempty _]).mem_matching_iff.mp finds.matched).2
    exact isInfix_of_matches_titled matched

/-- A sigma that ends the term stands inside a word of the title. -/
theorem finalSigma_missed :
    ¬ ∀ (store : ArticleStore) (article : Article) (term : Text),
      article ∈ store.articles → term ≠ "" → article.Holds term →
        store.Finds term article := by
  intro found
  have finds := found (ofList [titled "ΣΩΣΤΟ" (by decide) ""])
    (titled "ΣΩΣΤΟ" (by decide) "") "ΣΩΣ" (List.mem_singleton_self _) (by decide)
    (.inl ⟨[], (Text.ofString "ΤΟ").toList, by decide⟩)
  have nothing :
      (ofList [titled "ΣΩΣΤΟ" (by decide) ""]).matching (some "ΣΩΣ") = [] := by
    decide +kernel
  have matched := finds.matched
  rw [nothing] at matched
  cases matched

end ArticleStore

end Folio
