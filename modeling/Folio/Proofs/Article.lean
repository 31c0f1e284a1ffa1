import Folio.Proofs.LocalTime
import Folio.Proofs.RefusedParameter
import Folio.Proofs.Settings
import Folio.Proofs.Uuid

/-!
# What articles are read as

An article is accepted exactly if each of its members can be read.  It is read again
from what is written for it, now with all of its columns given.  A moment outside the
calendar is no matter of validity and goes before all complaints.
-/

namespace Folio

variable {fresh : Fresh} {value : Json} {members : Members} {article : Article}

/-! ## Members -/

namespace Members

theorem required_eq_ok_iff {α : Type} {name : Text} {found : α}
    {reading : Json → Except Complaint α} :
    required name reading members = .ok found ↔
      ∃ raw, find? name members = some raw ∧ reading raw = .ok found := by
  unfold required
  cases find? name members with
  | none => simp [Checked.ofMember]
  | some raw => cases outcome : reading raw <;> simp [outcome, Checked.ofMember]

end Members

namespace Article

theorem ofMembers_eq_ok_iff :
    ofMembers fresh members = .ok article ↔
      Members.defaulted "id" fresh.id Uuid.ofJson members = .ok article.id ∧
        Members.required "title" asTitle members =
            .ok ⟨article.title, article.title_nonempty⟩ ∧
          Members.required "author" Json.asText members = .ok article.author ∧
            Members.defaulted "body" ("" : Text) Json.asText members = .ok article.body ∧
              Members.defaulted "published_at" none (Json.asOptional Instant.ofJson)
                  members = .ok article.publishedAt? ∧
                Members.defaulted "created_at" fresh.now Instant.ofJson members =
                    .ok article.createdAt ∧
                  article.given = givenColumns members := by
  rw [ofMembers, map_eq_ok_iff]
  constructor
  · intro made
    obtain ⟨⟨id, title, author, body, publishedAt?, createdAt⟩, parts, same⟩ := made
    simp only [Checked.both_eq_ok_iff] at parts
    cases same
    obtain ⟨idRead, titleRead, authorRead, bodyRead, publishedRead, createdRead⟩ := parts
    exact ⟨idRead, titleRead, authorRead, bodyRead, publishedRead, createdRead, rfl⟩
  · intro parts
    obtain ⟨idRead, titleRead, authorRead, bodyRead, publishedRead, createdRead,
      sameGiven⟩ := parts
    refine ⟨(article.id, ⟨article.title, article.title_nonempty⟩, article.author,
      article.body, article.publishedAt?, article.createdAt), ?_, ?_⟩
    · simp only [Checked.both_eq_ok_iff]
      exact ⟨idRead, titleRead, authorRead, bodyRead, publishedRead, createdRead⟩
    · rw [← sameGiven]

/-- Only an object is read as an article, whatever is said about other values. -/
theorem whole_eq_ok_iff {complaint : Complaint} :
    Members.whole complaint (ofMembers fresh) value = .ok article ↔
      ∃ members, value = .obj members ∧ ofMembers fresh members = .ok article := by
  cases value <;> simp [Members.whole, Checked.here]

/-- An article can be written exactly if neither its author nor its body holds half of a
surrogate pair. -/
theorem isWritable_iff (read : ofMembers fresh members = .ok article) :
    article.isWritable = true ↔
      ∀ column ∈ [ArticleColumn.author, ArticleColumn.body], ∀ text,
        Members.find? column.name members = some (.str text) → text.isEncodable = true := by
  obtain ⟨-, -, authorRead, bodyRead, -⟩ := ofMembers_eq_ok_iff.mp read
  have author : Members.find? ArticleColumn.author.name members =
      some (.str article.author) := by
    obtain ⟨raw, found, text⟩ := Members.required_eq_ok_iff.mp authorRead
    rw [← Json.asText_eq_ok_iff.mp text]
    exact found
  have body : article.body.isEncodable = true ↔
      ∀ text, Members.find? ArticleColumn.body.name members = some (.str text) →
        text.isEncodable = true := by
    have named : Text.ofString "body" = ArticleColumn.body.name := rfl
    rw [Members.defaulted_eq_ok_iff, named] at bodyRead
    cases found : Members.find? ArticleColumn.body.name members with
    | none =>
        rw [found] at bodyRead
        simp [show article.body = "" from bodyRead]
    | some raw =>
        rw [found] at bodyRead
        simp [Json.asText_eq_ok_iff.mp bodyRead]
  rw [isWritable, Bool.and_eq_true, List.forall_mem_cons, List.forall_mem_singleton, body,
    author]
  simp

/-! ## Reading back -/

/-- What an article says, whichever of its columns came along. -/
def content (article : Article) : Article :=
  { article with given := [] }

@[simp] theorem content_id : article.content.id = article.id := rfl

/-- The article as it comes back: all of its columns came along. -/
def reread (article : Article) : Article :=
  { article with given := ArticleColumn.all }

@[simp] theorem reread_content : article.reread.content = article.content := rfl

@[simp] theorem reread_toJson : article.reread.toJson = article.toJson := rfl

@[simp] theorem reread_isWritable : article.reread.isWritable = article.isWritable := rfl

/-- An article comes back from what is written for it. -/
theorem whole_toJson (fresh : Fresh) (complaint : Complaint) :
    Members.whole complaint (ofMembers fresh) article.toJson =
      .ok article.reread := by
  have id : Uuid.ofJson (.str article.id.toText) = .ok article.id := by
    rw [Uuid.ofJson, Json.readCharacters_ofString, Uuid.ofText, Uuid.ofChars?_toText]
  have title : asTitle (.str article.title) =
      .ok ⟨article.title, article.title_nonempty⟩ := by
    have atLeast : 1 ≤ article.title.length := article.title_nonempty
    have read : (Json.str article.title).asTextOfLength 1 = .ok article.title :=
      Json.asTextOfLength_eq_ok_iff.mpr ⟨rfl, atLeast⟩
    simp [asTitle, read, atLeast]
  have published : Json.asOptional Instant.ofJson
      (.ofText? (article.publishedAt?.map (Text.ofString ·.toText))) =
        .ok article.publishedAt? := by
    cases article.publishedAt? with
    | none => rfl
    | some instant =>
        have read : Instant.ofJson (.str instant.toText) = .ok instant := by
          rw [Instant.ofJson, Json.readCharacters_ofString, instant.ofText_toText]
        rw [Option.map_some, Json.ofText?, Json.asOptional, read]
        rfl
        intro impossible
        cases impossible
  have created : Instant.ofJson (.str article.createdAt.toText) = .ok article.createdAt := by
    rw [Instant.ofJson, Json.readCharacters_ofString, article.createdAt.ofText_toText]
  apply whole_eq_ok_iff.mpr
  refine ⟨_, rfl, ofMembers_eq_ok_iff.mpr ?_⟩
  simp only [Members.defaulted_eq_ok_iff, Members.required_eq_ok_iff]
  exact ⟨id, ⟨_, rfl, title⟩, ⟨_, rfl, rfl⟩, rfl, published, created, rfl⟩

end Article

/-! ## Moments outside the calendar -/

theorem Failure.ofComplaint?_eq_some_iff {complaint : Complaint} {failure : Failure} :
    Failure.ofComplaint? complaint = some failure ↔
      complaint = .momentOutOfRange ∧ failure = .outOfRange := by
  cases complaint <;> simp [Failure.ofComplaint?, eq_comm]

theorem Failure.ofIssues_eq_outOfRange_iff {issues : List Issue} :
    Failure.ofIssues issues = .outOfRange ↔
      ∃ issue ∈ issues, issue.complaint = .momentOutOfRange := by
  unfold Failure.ofIssues
  constructor
  · intro failed
    cases found : issues.findSome? fun issue => Failure.ofComplaint? issue.complaint with
    | none =>
        rw [found] at failed
        cases failed
    | some failure =>
        obtain ⟨issue, present, amounts⟩ := List.exists_of_findSome?_eq_some found
        exact ⟨issue, present, (Failure.ofComplaint?_eq_some_iff.mp amounts).1⟩
  · intro outside
    obtain ⟨issue, present, complained⟩ := outside
    cases found : issues.findSome? fun issue => Failure.ofComplaint? issue.complaint with
    | none =>
        have valid := List.findSome?_eq_none_iff.mp found issue present
        rw [complained] at valid
        cases valid
    | some failure =>
        obtain ⟨other, -, amounts⟩ := List.exists_of_findSome?_eq_some found
        exact (Failure.ofComplaint?_eq_some_iff.mp amounts).2

namespace Checked

variable {α β : Type} {check : Checked α}

/-- The check met a moment outside the calendar. -/
def LeavesCalendar (check : Checked α) : Prop :=
  ∃ issue ∈ check.issues, issue.complaint = .momentOutOfRange

theorem orFail_eq_outOfRange_iff :
    check.orFail = .error .outOfRange ↔ check.LeavesCalendar := by
  cases check with
  | ok value => simp [orFail, LeavesCalendar]
  | error issues => simp [orFail, LeavesCalendar, Failure.ofIssues_eq_outOfRange_iff]

@[simp] theorem leavesCalendar_both {first : Checked α} {second : Checked β} :
    (both first second).LeavesCalendar ↔
      first.LeavesCalendar ∨ second.LeavesCalendar := by
  simp only [LeavesCalendar, issues_both, List.mem_append, or_and_right, exists_or]

@[simp] theorem leavesCalendar_map {convert : α → β} :
    LeavesCalendar (check.map convert) ↔ check.LeavesCalendar := by
  simp only [LeavesCalendar, issues_map]

@[simp] theorem leavesCalendar_ofMember {name : Text} {outcome : Except Complaint α} :
    (ofMember name outcome).LeavesCalendar ↔ outcome = .error .momentOutOfRange := by
  cases outcome <;> simp [LeavesCalendar, ofMember]

@[simp] theorem leavesCalendar_required {name : Text}
    {reading : Json → Except Complaint α} :
    (Members.required name reading members).LeavesCalendar ↔
      ∃ raw, Members.find? name members = some raw ∧
        reading raw = .error .momentOutOfRange := by
  unfold Members.required
  cases Members.find? name members <;> simp

@[simp] theorem leavesCalendar_defaulted {name : Text} {fallback : α}
    {reading : Json → Except Complaint α} :
    (Members.defaulted name fallback reading members).LeavesCalendar ↔
      ∃ raw, Members.find? name members = some raw ∧
        reading raw = .error .momentOutOfRange := by
  unfold Members.defaulted
  cases Members.find? name members with
  | none => simp [LeavesCalendar]
  | some raw => simp

end Checked

namespace ArticleColumn

/-- The columns that hold instants. -/
def ofInstants : List ArticleColumn :=
  [publishedAt, createdAt]

/-- The instant of an article in a column, unless the article has none. -/
def instant? (column : ArticleColumn) (article : Article) : Option Instant :=
  match column with
  | publishedAt => article.publishedAt?
  | createdAt => some article.createdAt
  | _ => none

end ArticleColumn

/-- The value gives the time that a clock shows in a column. -/
def Json.GivesTime (value : Json) (column : ArticleColumn) (clock : LocalReading) : Prop :=
  ∃ text : String, value.member? column.name = some (.str text) ∧
    LocalReading.ofChars? text.toList = some clock

theorem Json.asOptional_eq_outOfRange_iff {raw : Json} :
    Json.asOptional Instant.ofJson raw = .error .momentOutOfRange ↔
      Instant.ofJson raw = .error .momentOutOfRange := by
  cases raw with
  | null =>
      constructor
      · intro refused
        cases refused
      · intro refused
        cases refused
  | _ =>
      rw [Json.asOptional]
      · cases Instant.ofJson _ <;> simp [Except.map]
      · intro impossible
        cases impossible

namespace Article

theorem asText_ne_outOfRange {raw : Json} : raw.asText ≠ .error .momentOutOfRange := by
  cases raw <;> simp [Json.asText]

theorem asTitle_ne_outOfRange {raw : Json} : asTitle raw ≠ .error .momentOutOfRange := by
  intro refused
  unfold asTitle at refused
  split at refused
  · split at refused <;> cases refused
  · rename_i complaint measured
    cases refused
    cases raw with
    | str text =>
        obtain ⟨string, -, short⟩ := Json.exists_of_readCharacters_eq_error measured nofun
        unfold Json.ofLength at short
        split at short <;> cases short
    | _ => cases measured

theorem readId_ne_outOfRange {raw : Json} : Uuid.ofJson raw ≠ .error .momentOutOfRange := by
  intro refused
  cases raw with
  | str text =>
      obtain ⟨string, -, unread⟩ := Json.exists_of_readCharacters_eq_error refused nofun
      unfold Uuid.ofText at unread
      split at unread <;> cases unread
  | _ => cases refused

/-- Only the members that hold instants can lead outside the calendar. -/
theorem leavesCalendar_ofMembers :
    (ofMembers fresh members).LeavesCalendar ↔
      ∃ column ∈ ArticleColumn.ofInstants, ∃ clock,
        (Json.obj members).GivesTime column clock ∧ ¬ clock.IsInCalendar := by
  have given : ∀ column : ArticleColumn,
      (∃ raw, Members.find? column.name members = some raw ∧
        Instant.ofJson raw = .error .momentOutOfRange) ↔
          ∃ clock, (Json.obj members).GivesTime column clock ∧ ¬ clock.IsInCalendar := by
    intro column
    simp only [Instant.ofJson_eq_outOfRange_iff, Json.GivesTime, Json.member?]
    constructor
    · intro outside
      obtain ⟨raw, found, text, clock, rfl, read, beyond⟩ := outside
      exact ⟨clock, ⟨text, found, read⟩, beyond⟩
    · intro outside
      obtain ⟨clock, ⟨text, found, read⟩, beyond⟩ := outside
      exact ⟨.str text, found, text, clock, rfl, read, beyond⟩
  have published := given .publishedAt
  have created := given .createdAt
  simp only [ArticleColumn.name] at published created
  simp only [ofMembers, Checked.leavesCalendar_map, Checked.leavesCalendar_both,
    Checked.leavesCalendar_required, Checked.leavesCalendar_defaulted,
    Json.asOptional_eq_outOfRange_iff, asText_ne_outOfRange, asTitle_ne_outOfRange,
    readId_ne_outOfRange, and_false, exists_false, false_or, published, created]
  simp only [ArticleColumn.ofInstants, List.mem_cons, List.not_mem_nil, or_false,
    exists_eq_or_imp, exists_eq_left]

/-- The instant that is kept is the moment that the clock shows. -/
theorem exists_instant_of_givesTime {column : ArticleColumn} {clock : LocalReading}
    (read : ofMembers fresh members = .ok article)
    (holdsInstants : column ∈ ArticleColumn.ofInstants)
    (given : (Json.obj members).GivesTime column clock) :
    ∃ instant, column.instant? article = some instant ∧
      (instant.microseconds : Int) = clock.moment := by
  obtain ⟨text, found, clockRead⟩ := given
  obtain ⟨-, -, -, -, publishedRead, createdRead, -⟩ := ofMembers_eq_ok_iff.mp read
  rw [Members.defaulted_eq_ok_iff] at publishedRead createdRead
  simp only [ArticleColumn.ofInstants, List.mem_cons, List.not_mem_nil, or_false]
    at holdsInstants
  cases holdsInstants with
  | inl published =>
      subst published
      have named : Members.find? "published_at" members = some (.str text) := found
      rw [named] at publishedRead
      cases outcome : Instant.ofJson (.str text) with
      | error complaint => simp [Json.asOptional, outcome, Except.map] at publishedRead
      | ok instant =>
          have kept : some instant = article.publishedAt? := by
            simpa [Json.asOptional, outcome, Except.map] using publishedRead
          exact ⟨instant, kept.symm, (Instant.ofJson_eq_ok_of_clock clockRead).mp outcome⟩
  | inr created =>
      subst created
      have named : Members.find? "created_at" members = some (.str text) := found
      rw [named] at createdRead
      exact ⟨article.createdAt, rfl, (Instant.ofJson_eq_ok_of_clock clockRead).mp createdRead⟩

end Article

end Folio
