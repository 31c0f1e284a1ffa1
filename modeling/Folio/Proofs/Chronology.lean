import Folio.Proofs.Arrangement
import Folio.Proofs.Article
import Folio.Proofs.CreationTime

/-!
# Articles in the order of time

An article keeps the moments of the times that it was read from, whatever offsets they
were given with.  A listing by such a column goes from moment to moment, and comparing
articles never fails.
-/

namespace Folio

/-! ## Moments that are kept -/

namespace Article

variable {fresh : Fresh} {value : Json} {article : Article} {column : ArticleColumn}
  {clock : LocalReading}

/-- What becomes of the times that a value gives for an article. -/
structure KeepsMoments (fresh : Fresh) (value : Json) : Prop where
  /-- The check fails for the calendar exactly if some moment lies outside the years 1
  to 9999. -/
  overflow : (ofJson fresh value).orFail = .error .outOfRange ↔
    ∃ column ∈ ArticleColumn.ofInstants, ∃ clock,
      value.GivesTime column clock ∧ ¬ clock.IsInCalendar
  /-- The instant of an accepted article reads as a time of the calendar, at the very
  moment that the local time shows. -/
  kept : ∀ article, ofJson fresh value = .ok article →
    ∀ column ∈ ArticleColumn.ofInstants, ∀ clock, value.GivesTime column clock →
      ∃ instant, column.instant? article = some instant ∧
        instant.reading.isValid = true ∧ instant.reading.date.year ≤ 9999 ∧
          (instant.reading.microseconds : Int) = clock.moment
  /-- A time without an offset never leads outside the calendar and is kept as it
  stands. -/
  unshifted : ∀ column ∈ ArticleColumn.ofInstants, ∀ clock,
    value.GivesTime column clock → clock.offset? = none →
      clock.IsInCalendar ∧ ∀ article, ofJson fresh value = .ok article →
        ∃ instant, column.instant? article = some instant ∧
          instant.reading = clock.reading

theorem exists_instant (read : ofJson fresh value = .ok article)
    (holdsInstants : column ∈ ArticleColumn.ofInstants)
    (given : value.GivesTime column clock) :
    ∃ instant, column.instant? article = some instant ∧
      (instant.microseconds : Int) = clock.moment := by
  obtain ⟨members, rfl, read⟩ := whole_eq_ok_iff.mp read
  exact exists_instant_of_givesTime read holdsInstants given

theorem keepsMoments (fresh : Fresh) (value : Json) : KeepsMoments fresh value := by
  constructor
  case overflow =>
    rw [Checked.orFail_eq_outOfRange_iff]
    cases value with
    | obj members => exact leavesCalendar_ofMembers
    | _ => simp [ofJson, Members.whole, Checked.here, Checked.LeavesCalendar,
        Json.GivesTime, Json.member?]
  case kept =>
    intro article read column holdsInstants clock given
    obtain ⟨instant, stored, shown⟩ := exists_instant read holdsInstants given
    refine ⟨instant, stored, instant.isValid_reading, instant.year_reading_le, ?_⟩
    rw [instant.microseconds_reading, shown]
  case unshifted =>
    intro column holdsInstants clock given unshifted
    obtain ⟨text, found, read⟩ := given
    refine ⟨LocalReading.isInCalendar_of_unshifted unshifted read, ?_⟩
    intro article accepted
    obtain ⟨instant, stored, shown⟩ := exists_instant accepted holdsInstants ⟨text, found, read⟩
    exact ⟨instant, stored, LocalReading.reading_eq_of_unshifted unshifted read shown⟩

/-- The article was read from a value that gives this time. -/
def WasGiven (article : Article) (column : ArticleColumn) (clock : LocalReading) : Prop :=
  ∃ fresh value, ofJson fresh value = .ok article ∧ value.GivesTime column clock

end Article

/-! ## Moments in order -/

/-- Of two different items of a list, one comes before the other. -/
theorem pair_sublist_or {α : Type} {first second : α} {items : List α}
    (firstMember : first ∈ items) (secondMember : second ∈ items)
    (different : first ≠ second) :
    [first, second].Sublist items ∨ [second, first].Sublist items := by
  induction items with
  | nil => cases firstMember
  | cons head later inductionHypothesis =>
      cases firstMember with
      | head =>
          have secondLater := List.mem_of_ne_of_mem (Ne.symm different) secondMember
          exact .inl ((List.singleton_sublist.mpr secondLater).cons_cons first)
      | tail _ firstLater =>
          cases secondMember with
          | head => exact .inr ((List.singleton_sublist.mpr firstLater).cons_cons second)
          | tail _ secondLater =>
              exact (inductionHypothesis firstLater secondLater).imp
                (List.Sublist.cons head) (List.Sublist.cons head)

/-- Two items in the order in which a direction lists them: the lower one first when it
ascends, and last when it descends. -/
def SortDirection.pair {α : Type} (direction : SortDirection) (lower upper : α) : List α :=
  match direction with
  | .ascending => [lower, upper]
  | .descending => [upper, lower]

theorem SortDirection.Admits.refl (direction : SortDirection) (key? : Option SortKey) :
    direction.Admits key? key? := by
  cases key? with
  | none => trivial
  | some key =>
      have level : key.le key = true := by
        simpa using SortKey.le_total key key
      cases direction with
      | ascending => exact level
      | descending => exact level

namespace ArticleColumn

variable {column : ArticleColumn} {direction : SortDirection} {found whole : List Article}
  {first second : Article}

theorem key?_eq_of_holdsInstants (holdsInstants : column ∈ ofInstants) (article : Article) :
    column.key? article =
      (column.instant? article).map fun instant => .number instant.microseconds := by
  cases column with
  | publishedAt => rfl
  | createdAt => rfl
  | _ => simp [ofInstants] at holdsInstants

/-- An article that must not come second comes first. -/
theorem IsArranged.pair_sublist (arranged : column.IsArranged direction found whole)
    (firstMember : first ∈ whole) (secondMember : second ∈ whole)
    (unfit : ¬ direction.Admits (column.key? second) (column.key? first)) :
    [first, second].Sublist whole := by
  have different : first ≠ second := by
    intro same
    rw [same] at unfit
    exact unfit (.refl direction _)
  cases pair_sublist_or firstMember secondMember different with
  | inl inOrder => exact inOrder
  | inr turned => exact absurd (List.pairwise_iff_forall_sublist.mp arranged.ordered turned) unfit

theorem IsArranged.pair_of_instants (arranged : column.IsArranged direction found whole)
    (holdsInstants : column ∈ ofInstants) {earlier later : Article}
    (earlierMember : earlier ∈ whole) (laterMember : later ∈ whole) {first second : Instant}
    (earlierStored : column.instant? earlier = some first)
    (laterStored : column.instant? later = some second)
    (before : first.microseconds < second.microseconds) :
    (direction.pair earlier later).Sublist whole := by
  have earlierKey : column.key? earlier = some (.number first.microseconds) := by
    rw [key?_eq_of_holdsInstants holdsInstants, earlierStored, Option.map_some]
  have laterKey : column.key? later = some (.number second.microseconds) := by
    rw [key?_eq_of_holdsInstants holdsInstants, laterStored, Option.map_some]
  cases direction with
  | ascending =>
      apply arranged.pair_sublist earlierMember laterMember
      rw [earlierKey, laterKey]
      simpa [SortDirection.Admits, SortKey.le] using before
  | descending =>
      apply arranged.pair_sublist laterMember earlierMember
      rw [earlierKey, laterKey]
      simpa [SortDirection.Admits, SortKey.le] using before

end ArticleColumn

namespace ArticleStore

variable {store : ArticleStore} {contract : Contract} {request : PageRequest}
  {column : ArticleColumn}

/-- The whole is the listing of a request, in which articles go from moment to
moment. -/
structure IsChronological (store : ArticleStore) (contract : Contract)
    (request : PageRequest) (column : ArticleColumn) (whole : List Article) : Prop where
  /-- Articles are compared without a failure. -/
  listed : store.listing contract request = .ok whole
  served : store.listPage contract request =
    .ok (slice request.offset request.limit whole, whole.length)
  complete : whole.Perm (store.matching request.search)
  /-- The earlier instant comes first when the listing ascends, and last when it
  descends. -/
  ordered : ∀ earlier ∈ whole, ∀ later ∈ whole, ∀ first second,
    column.instant? earlier = some first → column.instant? later = some second →
      first.microseconds < second.microseconds →
        (request.direction.pair earlier later).Sublist whole
  /-- The same holds of moments, whatever offsets the times were given with, if any. -/
  given : ∀ earlier ∈ whole, ∀ later ∈ whole, ∀ earlierClock laterClock,
    earlier.WasGiven column earlierClock → later.WasGiven column laterClock →
      earlierClock.moment < laterClock.moment →
        (request.direction.pair earlier later).Sublist whole
  /-- Articles without an instant come after all others. -/
  timeless : ∀ timed ∈ whole, ∀ timeless ∈ whole, (column.instant? timed).isSome = true →
    column.instant? timeless = none → [timed, timeless].Sublist whole

theorem exists_isChronological (holdsInstants : column ∈ ArticleColumn.ofInstants)
    (listed : contract.ListsBy request column) :
    ∃ whole, store.IsChronological contract request column whole := by
  have arranged := column.arrange_isArranged request.direction (store.matching request.search)
  have paged := store.listPage_eq listed
  obtain ⟨member, ordered, found⟩ := listed
  have listing := store.listing_eq ordered found
  rw [← arranged.complete.length_eq] at paged
  refine ⟨column.arrange request.direction (store.matching request.search), ?_⟩
  constructor
  case listed => exact listing
  case served => exact paged
  case complete => exact arranged.complete
  case ordered =>
    intro earlier earlierMember later laterMember first second earlierStored laterStored
    exact arranged.pair_of_instants holdsInstants earlierMember laterMember earlierStored
      laterStored
  case given =>
    intro earlier earlierMember later laterMember earlierClock laterClock earlierGiven
      laterGiven before
    obtain ⟨_, _, earlierRead, earlierTime⟩ := earlierGiven
    obtain ⟨first, earlierStored, firstMoment⟩ :=
      Article.exists_instant earlierRead holdsInstants earlierTime
    obtain ⟨_, _, laterRead, laterTime⟩ := laterGiven
    obtain ⟨second, laterStored, secondMoment⟩ :=
      Article.exists_instant laterRead holdsInstants laterTime
    apply arranged.pair_of_instants holdsInstants earlierMember laterMember earlierStored
      laterStored
    omega
  case timeless =>
    intro timed timedMember timeless timelessMember hasInstant hasNone
    obtain ⟨instant, stored⟩ := Option.isSome_iff_exists.mp hasInstant
    apply arranged.pair_sublist timedMember timelessMember
    rw [ArticleColumn.key?_eq_of_holdsInstants holdsInstants,
      ArticleColumn.key?_eq_of_holdsInstants holdsInstants, stored, hasNone]
    exact id

end ArticleStore

/-- Days are counted from the first day of the year 1, moments are kept to the
microsecond, and listings go from moment to moment. -/
theorem moments_kept_and_listed (store : ArticleStore) {contract : Contract}
    {request : PageRequest} {column : ArticleColumn}
    (holdsInstants : column ∈ ArticleColumn.ofInstants)
    (listed : contract.ListsBy request column) :
    (∀ date : Date, date.isValid = true → Date.next^[date.dayNumber] Date.first = date) ∧
      (∀ fresh value, Article.KeepsMoments fresh value) ∧
        ∃ whole, store.IsChronological contract request column whole := by
  refine ⟨?_, Article.keepsMoments, ArticleStore.exists_isChronological holdsInstants listed⟩
  intro date valid
  exact Date.iterate_next_dayNumber valid

/-- Articles can be listed by the time of their creation. -/
theorem articleSchema_listsBy_createdAt :
    ∃ contract, Contract.build ArticleStore.articleSchema .standard none = .ok contract ∧
      ∀ request : PageRequest,
        request.order? = some (.member (.ofIdentifier Identifier.createdAt)) →
          contract.ListsBy request .createdAt := by
  obtain ⟨contract, built⟩ : ∃ contract,
      Contract.build ArticleStore.articleSchema .standard none = .ok contract := by
    apply Contract.exists_of_isOk
    decide +kernel
  obtain ⟨-, sameSchema, -⟩ := Contract.build_eq_ok_iff.mp built
  have absent : ∀ field ∈ contract.schema.orderableFields,
      field.identifier ≠ Identifier.createdAt := by
    rw [sameSchema]
    decide +kernel
  refine ⟨contract, built, ?_⟩
  intro request ordered
  refine ⟨.ofIdentifier Identifier.createdAt, ?_,
    Contract.columnFor_createdAt_of_absent absent⟩
  rw [PageRequest.orderMember?, PageRequest.order, ordered]
  rfl

/-- A raw article that gives the time of its creation. -/
def rawNotice (createdAt : String) : Json :=
  .obj [("title", .str "Notice"), ("author", .str "Ada"), ("created_at", .str createdAt)]

/-- The first notice is of a leap day, although its clock is in March already.  The
second one came later, although it shows an earlier time. -/
theorem notices_listed :
    ∃ contract request first second whole,
      Contract.build ArticleStore.articleSchema .standard none = .ok contract ∧
        contract.ListsBy request .createdAt ∧ request.direction = .ascending ∧
          Article.ofJson { id := { bits := 1 }, now := ⟨0, by decide⟩ }
              (rawNotice "2024-03-01T00:30+02:00") = .ok first ∧
            Article.ofJson { id := { bits := 2 }, now := ⟨0, by decide⟩ }
                (rawNotice "2024-02-29T23:00") = .ok second ∧
              (ArticleStore.ofList [second, first]).IsChronological contract request
                  .createdAt whole ∧
                [first, second].Sublist whole := by
  obtain ⟨contract, built, listsBy⟩ := articleSchema_listsBy_createdAt
  obtain ⟨request, same⟩ : ∃ request : PageRequest, request =
      { model := contract.requestModel, page? := none, limit? := none, search? := none
        sort? := some .ascending
        order? := some (.member (.ofIdentifier Identifier.createdAt)) } := ⟨_, rfl⟩
  have listed : contract.ListsBy request .createdAt := by
    apply listsBy
    rw [same]
  have ascending : request.direction = .ascending := by
    rw [same]
    rfl
  obtain ⟨first, firstRead, firstId⟩ : ∃ first, Article.ofJson
      { id := { bits := 1 }, now := ⟨0, by decide⟩ }
        (rawNotice "2024-03-01T00:30+02:00") = .ok first ∧ first.id = { bits := 1 } :=
    ⟨_, rfl, rfl⟩
  obtain ⟨second, secondRead, secondId⟩ : ∃ second, Article.ofJson
      { id := { bits := 2 }, now := ⟨0, by decide⟩ }
        (rawNotice "2024-02-29T23:00") = .ok second ∧ second.id = { bits := 2 } :=
    ⟨_, rfl, rfl⟩
  have different : second.id ≠ first.id := by
    rw [firstId, secondId]
    decide
  have stored : (ArticleStore.ofList [second, first]).matching request.search =
      [second, first] := by
    rw [same]
    simp [ArticleStore.matching, ArticleStore.ofList, ArticleStore.add, ArticleStore.empty,
      ArticleStore.insertArticle, PageRequest.search, different]
  obtain ⟨-, -, whole, chronological⟩ := moments_kept_and_listed (.ofList [second, first])
    (show .createdAt ∈ ArticleColumn.ofInstants by decide) listed
  have complete := chronological.complete
  rw [stored] at complete
  refine ⟨contract, request, first, second, whole, built, listed, ascending, firstRead,
    secondRead, chronological, ?_⟩
  have inOrder := chronological.given first (complete.mem_iff.mpr (by simp)) second
    (complete.mem_iff.mpr (by simp)) _ _ ⟨_, _, firstRead, _, rfl, rfl⟩
    ⟨_, _, secondRead, _, rfl, rfl⟩ (by decide +kernel)
  rwa [ascending] at inOrder

end Folio
