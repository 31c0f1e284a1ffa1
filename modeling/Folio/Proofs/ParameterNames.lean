import Folio.Proofs.RefusedParameter
import Folio.Proofs.Settings

/-!
# Names of parameters

A request depends on the raw values of its five parameters and on nothing else.  A query
gives them by their names in queries and may hold whatever else; keywords give each of
them by that name or by the name of its attribute, and the former goes first.
-/

namespace Folio

/-! ## Names -/

namespace Parameter

theorem attributeName_injective : Function.Injective attributeName := by
  intro left right same
  cases left <;> cases right <;> first | rfl | simp [attributeName] at same

theorem wireName_ne_attributeName (left right : Parameter) :
    left.wireName ≠ right.attributeName := by
  cases left <;> cases right <;> simp [wireName, attributeName]

/-- The name of a parameter as a keyword, which may be that of its attribute. -/
def keywordName (asAttribute : Parameter → Bool) (parameter : Parameter) : Text :=
  if asAttribute parameter then parameter.attributeName else parameter.wireName

theorem keywordName_of_attribute {asAttribute : Parameter → Bool} {parameter : Parameter}
    (picked : asAttribute parameter = true) :
    keywordName asAttribute parameter = parameter.attributeName :=
  if_pos picked

theorem keywordName_of_wire {asAttribute : Parameter → Bool} {parameter : Parameter}
    (left : asAttribute parameter = false) :
    keywordName asAttribute parameter = parameter.wireName := by
  rw [keywordName, left, if_neg Bool.false_ne_true]

theorem keywordName_eq_wireName_iff {asAttribute : Parameter → Bool}
    {parameter other : Parameter} :
    keywordName asAttribute other = parameter.wireName ↔
      other = parameter ∧ asAttribute parameter = false := by
  cases picked : asAttribute other with
  | true =>
      rw [keywordName_of_attribute picked]
      constructor
      · intro same
        exact absurd same.symm (wireName_ne_attributeName parameter other)
      · rintro ⟨rfl, left⟩
        rw [picked] at left
        cases left
  | false =>
      rw [keywordName_of_wire picked, PageRequest.wireName_injective.eq_iff]
      constructor
      · rintro rfl
        exact ⟨rfl, picked⟩
      · exact And.left

theorem keywordName_eq_attributeName_iff {asAttribute : Parameter → Bool}
    {parameter other : Parameter} :
    keywordName asAttribute other = parameter.attributeName ↔
      other = parameter ∧ asAttribute parameter = true := by
  cases picked : asAttribute other with
  | true =>
      rw [keywordName_of_attribute picked, attributeName_injective.eq_iff]
      constructor
      · rintro rfl
        exact ⟨rfl, picked⟩
      · exact And.left
  | false =>
      rw [keywordName_of_wire picked]
      constructor
      · intro same
        exact absurd same (wireName_ne_attributeName other parameter)
      · rintro ⟨rfl, left⟩
        rw [picked] at left
        cases left

theorem keywordName_injective (asAttribute : Parameter → Bool) :
    Function.Injective (keywordName asAttribute) := by
  intro left right same
  cases picked : asAttribute right with
  | true =>
      rw [keywordName_of_attribute picked] at same
      exact (keywordName_eq_attributeName_iff.mp same).1
  | false =>
      rw [keywordName_of_wire picked] at same
      exact (keywordName_eq_wireName_iff.mp same).1

end Parameter

namespace PageRequest

variable {model : RequestModel} {source other : Source} {query keywords : Members}
  {request : PageRequest} {parameter : Parameter}

/-- What a source has for a parameter, whatever name it goes by. -/
def Source.raw? (source : Source) (parameter : Parameter) : Option Json :=
  (source parameter).map (·.2)

/-- What keywords say about a parameter.  Its name in a query goes before that of its
attribute. -/
def keyword? (keywords : Members) (parameter : Parameter) : Option Json :=
  (Members.find? parameter.wireName keywords).or
    (Members.find? parameter.attributeName keywords)

/-- The parameters of a query as keywords, those that are picked under the names of their
attributes. -/
def keywordsOf (asAttribute : Parameter → Bool) (query : Members) : Members :=
  Parameter.all.filterMap fun parameter =>
    (Members.find? parameter.wireName query).map fun raw =>
      (parameter.keywordName asAttribute, raw)

@[simp]
theorem raw?_ofQuery :
    (ofQuery query).raw? parameter = Members.find? parameter.wireName query := by
  simp [Source.raw?, ofQuery, Function.comp_def]

@[simp]
theorem raw?_ofKeywords : (ofKeywords keywords).raw? parameter = keyword? keywords parameter := by
  unfold Source.raw? ofKeywords keyword?
  cases Members.find? parameter.wireName keywords with
  | some raw => rfl
  | none => simp [Function.comp_def]

/-! ## Sources with the same values -/

section Values

variable (same : ∀ parameter, source.raw? parameter = other.raw? parameter)

include same

theorem given?_eq_of_raw? : source.given? parameter = other.given? parameter := by
  have equal := same parameter
  unfold Source.raw? at equal
  unfold Source.given?
  cases first : source parameter with
  | none =>
      rw [first, Option.map_none, eq_comm, Option.map_eq_none_iff] at equal
      rw [equal]
  | some entry =>
      rw [first, Option.map_some, eq_comm, Option.map_eq_some_iff] at equal
      obtain ⟨⟨name, raw⟩, second, value⟩ := equal
      obtain ⟨firstName, firstRaw⟩ := entry
      obtain rfl : raw = firstRaw := value
      rw [second]
      cases raw <;> rfl

theorem readParameter_eq_ok_iff_of_raw? {α : Type} {reading : Json → Except Complaint α}
    {found : Option α} :
    readParameter source parameter reading = .ok found ↔
      readParameter other parameter reading = .ok found := by
  rw [readParameter_eq_ok_iff, readParameter_eq_ok_iff, given?_eq_of_raw? same]

/-- Sources with the same values are read as the same request. -/
theorem read_eq_ok_iff_of_raw? :
    read model source = .ok request ↔ read model other = .ok request := by
  simp only [read_eq_ok_iff, readParameter_eq_ok_iff_of_raw? same]

/-- Sources with the same values are refused with the same complaints, under the names
that the values go by. -/
theorem complaints_eq_of_raw? :
    (Checked.issues (read model source)).map (·.complaint) =
      (Checked.issues (read model other)).map (·.complaint) := by
  rw [issues_read, issues_read, List.map_filterMap, List.map_filterMap]
  apply List.filterMap_congr
  intro parameter _
  have complaint : ∀ given : Source, (issue? model given parameter).map (·.complaint) =
      (given.raw? parameter).bind fun raw => complaint? model raw parameter := by
    intro given
    unfold issue? Source.raw?
    cases given parameter with
    | none => rfl
    | some entry => simp [Function.comp_def]
  rw [complaint, complaint, same]

end Values

/-! ## Queries and keywords -/

/-- A query is decoded by its source and its values alone. -/
theorem decode_eq_of_parameters {changed : Members}
    (same : ∀ parameter : Parameter, Members.find? parameter.wireName changed =
      Members.find? parameter.wireName query) :
    decode model changed = decode model query := by
  have sources : ofQuery changed = ofQuery query := by
    funext parameter
    rw [ofQuery, ofQuery, same]
  have faults : refusalFault model changed = refusalFault model query := by
    have refused : refusedParameters model changed = refusedParameters model query := by
      rw [refusedParameters, refusedParameters, sources]
    have messages : refusalMessage model changed = refusalMessage model query := by
      funext parameter
      rw [refusalMessage, refusalMessage, same]
    rw [refusalFault, refusalFault, refusals, refusals, refused, messages]
  cases outcome : decode model query with
  | ok request =>
      rw [decode_eq_ok_iff] at outcome ⊢
      rw [sources]
      exact outcome
  | error failure =>
      rw [eq_refusalFault_of_decode outcome, ← faults]
      cases changedOutcome : decode model changed with
      | ok request =>
          rw [decode_eq_ok_iff, sources, ← decode_eq_ok_iff, outcome] at changedOutcome
          cases changedOutcome
      | error other => rw [eq_refusalFault_of_decode changedOutcome]

theorem find?_keywordName (asAttribute : Parameter → Bool) :
    Members.find? (parameter.keywordName asAttribute) (keywordsOf asAttribute query) =
      Members.find? parameter.wireName query := by
  apply Members.find?_filterMap (Parameter.mem_all parameter)
  intro other _ same
  exact Parameter.keywordName_injective asAttribute same

theorem find?_keywordsOf_eq_none {asAttribute : Parameter → Bool} {name : Text}
    (unnamed : ∀ parameter : Parameter, parameter.keywordName asAttribute ≠ name) :
    Members.find? name (keywordsOf asAttribute query) = none := by
  apply Members.find?_filterMap_eq_none
  intro other _ same
  exact absurd same (unnamed other)

/-- However they are named, the parameters keep their values. -/
theorem keyword?_keywordsOf (asAttribute : Parameter → Bool) :
    keyword? (keywordsOf asAttribute query) parameter =
      Members.find? parameter.wireName query := by
  have named : Members.find? (parameter.keywordName asAttribute)
      (keywordsOf asAttribute query) = Members.find? parameter.wireName query :=
    find?_keywordName asAttribute
  unfold keyword?
  cases picked : asAttribute parameter with
  | true =>
      rw [Parameter.keywordName_of_attribute picked] at named
      rw [named, find?_keywordsOf_eq_none, Option.none_or]
      intro other same
      rw [Parameter.keywordName_eq_wireName_iff, picked] at same
      cases same.2
  | false =>
      rw [Parameter.keywordName_of_wire picked] at named
      rw [named]
      cases Members.find? parameter.wireName query with
      | some raw => rfl
      | none =>
          rw [find?_keywordsOf_eq_none, Option.none_or]
          intro other same
          rw [Parameter.keywordName_eq_attributeName_iff, picked] at same
          cases same.2

/-- Keywords are read by what they say about the parameters. -/
theorem construct_eq_ok_iff_of_keyword?
    (same : ∀ parameter : Parameter,
      keyword? keywords parameter = Members.find? parameter.wireName query) :
    construct model keywords = .ok request ↔ decode model query = .ok request := by
  rw [decode_eq_ok_iff]
  apply read_eq_ok_iff_of_raw?
  intro parameter
  rw [raw?_ofKeywords, raw?_ofQuery, same]

/-- Where a parameter goes by its name in queries, the name of its attribute is not
looked at. -/
theorem ofKeywords_eq {changed : Members}
    (same : ∀ parameter : Parameter, Members.find? parameter.wireName changed =
      Members.find? parameter.wireName keywords)
    (sameAttribute : ∀ parameter : Parameter,
      Members.find? parameter.wireName keywords = none →
        Members.find? parameter.attributeName changed =
          Members.find? parameter.attributeName keywords) :
    ofKeywords changed = ofKeywords keywords := by
  funext parameter
  unfold ofKeywords
  rw [same]
  cases named : Members.find? parameter.wireName keywords with
  | some raw => rfl
  | none => rw [sameAttribute parameter named]

end PageRequest

/-- Only the values of the five parameters matter to a request, and not the way in which
they are named. -/
structure RequestModel.ReadsValues (model : RequestModel) : Prop where
  /-- Queries with the same values for the parameters have the same request or the same
  fault, whatever else they hold. -/
  unread : ∀ query changed : Members,
    (∀ parameter : Parameter, Members.find? parameter.wireName changed =
      Members.find? parameter.wireName query) →
    PageRequest.decode model changed = PageRequest.decode model query
  /-- Decoding a query comes to the same as giving its parameters as keywords. -/
  constructed : ∀ (query : Members) (request : PageRequest),
    PageRequest.decode model query = .ok request ↔
      PageRequest.construct model (PageRequest.keywordsOf (fun _ => false) query) =
        .ok request
  /-- Any of the keywords can go by the name of the attribute. -/
  renamed : ∀ (asAttribute : Parameter → Bool) (query : Members) (request : PageRequest),
    PageRequest.construct model (PageRequest.keywordsOf asAttribute query) =
        .ok request ↔
      PageRequest.construct model (PageRequest.keywordsOf (fun _ => false) query) =
        .ok request
  /-- Keywords that are refused are refused with the same complaints in the same order. -/
  refused : ∀ (asAttribute : Parameter → Bool) (query : Members),
    (PageRequest.construct model
        (PageRequest.keywordsOf asAttribute query)).issues.map (·.complaint) =
      (PageRequest.construct model
        (PageRequest.keywordsOf (fun _ => false) query)).issues.map (·.complaint)
  /-- Of two values for one parameter, the one under its name in queries counts: the
  keywords can have anything under the name of its attribute. -/
  preferred : ∀ keywords changed : Members,
    (∀ parameter : Parameter, Members.find? parameter.wireName changed =
      Members.find? parameter.wireName keywords) →
    (∀ parameter : Parameter, Members.find? parameter.wireName keywords = none →
      Members.find? parameter.attributeName changed =
        Members.find? parameter.attributeName keywords) →
    PageRequest.construct model changed = PageRequest.construct model keywords

theorem RequestModel.readsValues (model : RequestModel) : model.ReadsValues where
  unread := by
    intro query changed same
    exact PageRequest.decode_eq_of_parameters same
  constructed := by
    intro query request
    exact (PageRequest.construct_eq_ok_iff_of_keyword? fun _ =>
      PageRequest.keyword?_keywordsOf _).symm
  renamed := by
    intro asAttribute query request
    rw [PageRequest.construct_eq_ok_iff_of_keyword? fun _ =>
      PageRequest.keyword?_keywordsOf asAttribute,
      PageRequest.construct_eq_ok_iff_of_keyword? fun _ =>
        PageRequest.keyword?_keywordsOf fun _ => false]
  refused := by
    intro asAttribute query
    apply PageRequest.complaints_eq_of_raw?
    intro parameter
    simp only [PageRequest.raw?_ofKeywords, PageRequest.keyword?_keywordsOf]
  preferred := by
    intro keywords changed same sameAttribute
    rw [PageRequest.construct, PageRequest.construct,
      PageRequest.ofKeywords_eq same sameAttribute]

example :
    (PageRequest.construct .plain [("requested_page", .int 3), ("page", .int 2)]).map
      (·.page) = .ok 2 := rfl

end Folio
