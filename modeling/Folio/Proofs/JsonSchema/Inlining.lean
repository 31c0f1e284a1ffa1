import Folio.Proofs.JsonSchema.FirstFailure

/-!
# What inlining comes to

A reference is left in a result only where an object is made one by what another
reference leads to, which takes a definition that is a bare text.  A result without
references is not changed by inlining again, whatever is defined.
-/

namespace Folio.JsonSchema

open Relation

variable {definitions available : Members} {node : Json}

/-! ## What is left -/

/-- An object that is no reference becomes one: the text in it is what another reference
leads to. -/
def CompletesReference (definitions members : Members) : Prop :=
  referenceName? members = none ∧
    ∃ value text, Members.find? "$ref" members = some value ∧
      inlineReferences definitions value = .ok (.str text) ∧
        text.startsWith referenceHead = true

/-- Such an object is reached. -/
def LeavesReference (definitions : Members) (node : Json) : Prop :=
  ∃ members, ReflTransGen (Leads definitions) node (.obj members) ∧
    CompletesReference definitions members

theorem leavesReference_iff :
    LeavesReference definitions node ↔
      (∃ members, node = .obj members ∧ CompletesReference definitions members) ∨
        ∃ child, Leads definitions node child ∧ LeavesReference definitions child := by
  constructor
  · intro leaves
    obtain ⟨members, path, completes⟩ := leaves
    cases path.cases_head with
    | inl same => exact .inl ⟨members, same, completes⟩
    | inr further =>
        obtain ⟨child, leads, rest⟩ := further
        exact .inr ⟨child, leads, members, rest, completes⟩
  · intro leaves
    cases leaves with
    | inl itself =>
        obtain ⟨members, rfl, completes⟩ := itself
        exact ⟨members, .refl, completes⟩
    | inr below =>
        obtain ⟨child, leads, members, rest, completes⟩ := below
        exact ⟨members, rest.head leads, completes⟩

theorem leavesReference_reference {members : Members} {name : Text} {target : Json}
    (referring : referenceName? members = some name)
    (found : Members.find? name definitions = some target) :
    LeavesReference definitions (.obj members) ↔ LeavesReference definitions target := by
  rw [leavesReference_iff]
  simp only [leads_reference_iff referring, found, Option.some.injEq, exists_eq_left']
  apply or_iff_right
  intro itself
  obtain ⟨_, same, unreferring, -⟩ := itself
  cases same
  rw [referring] at unreferring
  cases unreferring

theorem leavesReference_object {members : Members}
    (unreferring : referenceName? members = none) :
    LeavesReference definitions (.obj members) ↔
      CompletesReference definitions members ∨
        ∃ member ∈ members, LeavesReference definitions member.2 := by
  rw [leavesReference_iff]
  simp only [leads_object_iff unreferring, Json.obj.injEq, exists_eq_left']
  apply or_congr_right
  constructor
  · intro below
    obtain ⟨child, ⟨member, present, rfl⟩, leaves⟩ := below
    exact ⟨member, present, leaves⟩
  · intro below
    obtain ⟨member, present, leaves⟩ := below
    exact ⟨member.2, ⟨member, present, rfl⟩, leaves⟩

theorem leavesReference_list {items : List Json} :
    LeavesReference definitions (.arr items) ↔
      ∃ item ∈ items, LeavesReference definitions item := by
  rw [leavesReference_iff]
  simp only [leads_list_iff, reduceCtorEq, false_and, exists_false, false_or]

theorem not_leavesReference (noObject : ∀ members, node ≠ .obj members)
    (noList : ∀ items, node ≠ .arr items) : ¬ LeavesReference definitions node := by
  rw [leavesReference_iff]
  intro leaves
  cases leaves with
  | inl itself =>
      obtain ⟨members, same, -⟩ := itself
      exact noObject members same
  | inr below =>
      obtain ⟨child, leads, -⟩ := below
      exact not_leads noObject noList leads

theorem forall_iff_of_forall₂ {α β : Type} {left : α → Prop} {right : β → Prop}
    {values : List α} {results : List β}
    (paired : List.Forall₂ (fun value result => left value ↔ right result) values results) :
    (∀ value ∈ values, left value) ↔ ∀ result ∈ results, right result := by
  induction paired with
  | nil => simp
  | cons same _ inductionHypothesis => simp [same, inductionHypothesis]

/-- The members keep their names, so that they are found where they were. -/
theorem find?_of_paired (related : Json → Json → Prop) {members results : Members}
    (paired : List.Forall₂ (fun member result => result.1 = member.1 ∧
      related member.2 result.2) members results) (name : Text) :
    Option.Rel related (Members.find? name members) (Members.find? name results) := by
  induction paired with
  | nil => exact .none
  | @cons member result later rest same _ inductionHypothesis =>
      obtain ⟨key, value⟩ := member
      obtain ⟨resultKey, inlined⟩ := result
      obtain ⟨rfl, holds⟩ := same
      rw [Members.find?, Members.find?]
      split
      · exact .some holds
      · exact inductionHypothesis

theorem referenceName?_eq_none_iff {members : Members} :
    referenceName? members = none ↔
      ∀ text, Members.find? "$ref" members = some (.str text) →
        ¬ text.startsWith referenceHead = true := by
  unfold referenceName?
  split
  · rename_i text found
    simp [found]
  · rename_i noText
    simp only [true_iff]
    intro text found
    exact absurd found (noText text)

/-- An object is a reference once its members are inlined exactly if it completes one. -/
theorem referenceName?_of_paired {members results : Members}
    (unreferring : referenceName? members = none)
    (paired : List.Forall₂ (fun member result => result.1 = member.1 ∧
      inlineReferences definitions member.2 = .ok result.2) members results) :
    referenceName? results = none ↔ ¬ CompletesReference definitions members := by
  have named := find?_of_paired
    (fun value result => inlineReferences definitions value = .ok result) paired "$ref"
  rw [referenceName?_eq_none_iff]
  constructor
  · intro unfinished completes
    obtain ⟨-, value, text, found, inlined, head⟩ := completes
    rw [found] at named
    cases resultFound : Members.find? "$ref" results with
    | none =>
        rw [resultFound] at named
        cases named
    | some result =>
        rw [resultFound] at named
        cases named with
        | some holds =>
            rw [inlined] at holds
            cases holds
            exact unfinished text resultFound head
  · intro complete text resultFound head
    rw [resultFound] at named
    cases found : Members.find? "$ref" members with
    | none =>
        rw [found] at named
        cases named
    | some value =>
        rw [found] at named
        cases named with
        | some inlined => exact complete ⟨unreferring, value, text, found, inlined, head⟩

/-- No reference is left in a result exactly if none was completed on the way. -/
theorem isClosed_iff_of_inlineValue {result : Json}
    (inlined : inlineValue definitions available node = .ok result) :
    IsPartOf available definitions →
      (isClosed result = true ↔ ¬ LeavesReference definitions node) := by
  revert inlined
  apply inlineValue_ok_induction (motive := fun available node result =>
    IsPartOf available definitions →
      (isClosed result = true ↔ ¬ LeavesReference definitions node))
  case reference =>
    intro available members name target result referring found inductionHypothesis part
    rw [inductionHypothesis (part.without name),
      leavesReference_reference referring (part name target found)]
  case object =>
    intro available members results unreferring paired part
    have whole : List.Forall₂ (fun member result => result.1 = member.1 ∧
        inlineReferences definitions member.2 = .ok result.2) members results := by
      apply paired.imp
      intro member result parts
      exact ⟨parts.1, inlineValue_of_isPartOf parts.2.1 definitions part⟩
    have each : (∀ member ∈ members, ¬ LeavesReference definitions member.2) ↔
        ∀ result ∈ results, isClosed result.2 = true := by
      apply forall_iff_of_forall₂
      apply paired.imp
      intro member result parts
      exact (parts.2.2 part).symm
    rw [isClosed, Bool.and_eq_true, Option.isNone_iff_eq_none, areClosedMembers_iff, ← each,
      referenceName?_of_paired unreferring whole, leavesReference_object unreferring, not_or]
    simp only [not_exists, not_and]
  case list =>
    intro available items results paired part
    have each : (∀ item ∈ items, ¬ LeavesReference definitions item) ↔
        ∀ result ∈ results, isClosed result = true := by
      apply forall_iff_of_forall₂
      apply paired.imp
      intro item result parts
      exact (parts.2 part).symm
    rw [isClosed, areClosed_iff, ← each, leavesReference_list]
    simp only [not_exists, not_and]
  case plain =>
    intro available node noObject noList part
    exact iff_of_true (isClosed.eq_3 _ noObject noList) (not_leavesReference noObject noList)

/-- What is inlined although nothing is defined has no references. -/
theorem isClosed_of_undefined {result : Json}
    (inlined : inlineReferences [] node = .ok result) : isClosed node = true := by
  have undefined : ∀ available node result, inlineValue [] available node = .ok result →
      available = [] → isClosed node = true := by
    apply inlineValue_ok_induction (motive := fun available node _ =>
      available = [] → isClosed node = true)
    case reference =>
      intro available members name target result referring found inductionHypothesis empty
      rw [empty] at found
      cases found
    case object =>
      intro available members results unreferring paired empty
      rw [isClosed, unreferring, Option.isNone_none, Bool.true_and, areClosedMembers_iff]
      exact forall_of_forall₂ (fun member => isClosed member.2 = true) paired
        fun _ _ parts => parts.2.2 empty
    case list =>
      intro available items results paired empty
      rw [isClosed, areClosed_iff]
      exact forall_of_forall₂ (fun item => isClosed item = true) paired
        fun _ _ parts => parts.2 empty
    case plain =>
      intro available node noObject noList empty
      exact isClosed.eq_3 _ noObject noList
  exact undefined [] node result inlined rfl

theorem isClosed_iff_unchanged :
    isClosed node = true ↔ ∀ definitions, inlineReferences definitions node = .ok node := by
  constructor
  · intro closed definitions
    exact (inlineValue_of_isClosed definitions).1 definitions node closed
  · intro unchanged
    exact isClosed_of_undefined (unchanged [])

/-! ## All of it -/

/-- What inlining the references of a node comes to. -/
structure Inlines (definitions : Members) (node : Json) : Prop where
  /-- It succeeds exactly if every reference that is reached has a definition and none
  leads back to itself. -/
  succeeds : (∃ result, inlineReferences definitions node = .ok result) ↔
    Resolvable definitions node
  /-- It fails for a missing name or for a loop, whichever the traversal meets first. -/
  fails : ∀ failure, inlineReferences definitions node = .error failure ↔
    Meets definitions node failure
  /-- A reference is left in the result only where an object is made one by what another
  reference leads to. -/
  closed : ∀ result, inlineReferences definitions node = .ok result →
    (isClosed result = true ↔ ¬ LeavesReference definitions node)
  /-- This takes a definition that is a bare text. -/
  textless : Textless definitions → ∀ result,
    inlineReferences definitions node = .ok result → isClosed result = true
  /-- A result is changed by nothing any more exactly if no reference is left in it. -/
  again : ∀ result, inlineReferences definitions node = .ok result →
    (isClosed result = true ↔ ∀ others, inlineReferences others result = .ok result)
  /-- A node without references is left as it is. -/
  unchanged : isClosed node = true → inlineReferences definitions node = .ok node

theorem inlines (definitions : Members) (node : Json) : Inlines definitions node where
  succeeds := exists_inlineReferences_iff
  fails := fun _ => inlineReferences_eq_error_iff
  closed := fun _ inlined => isClosed_iff_of_inlineValue inlined (.refl definitions)
  textless := fun textless result inlined =>
    (isClosed_of_inlineValue definitions).1 definitions node textless result inlined
  again := fun _ _ => isClosed_iff_unchanged
  unchanged := fun closed => isClosed_iff_unchanged.mp closed definitions

/-- A reference stands for the name in another one, which is left.  Beside a reference
nothing is looked at, be it a reference without a definition. -/
theorem namedByReference_left :
    inlineReferences [("A", .str "#/$defs/B"), ("B", .int 5)]
        (.obj [("$ref", .obj [("$ref", .str "#/$defs/A")])]) =
          .ok (.obj [("$ref", .str "#/$defs/B")]) ∧
      isClosed (.obj [("$ref", .str "#/$defs/B")]) = false ∧
        inlineReferences [("A", .str "#/$defs/B"), ("B", .int 5)]
            (.obj [("$ref", .str "#/$defs/B")]) = .ok (.int 5) ∧
          inlineReferences [("A", .int 1)]
              (.obj [("$ref", .str "#/$defs/A"),
                ("x", .obj [("$ref", .str "#/$defs/B")])]) =
            .ok (.int 1) := by
  have plain : ∀ {definitions available node}, isClosed node = true →
      inlineValue definitions available node = .ok node :=
    fun closed => (inlineValue_of_isClosed _).1 _ _ closed
  have toA : referenceName? [("$ref", .str "#/$defs/A")] = some "A" := by
    decide +kernel
  have toB : referenceName? [("$ref", .str "#/$defs/B")] = some "B" := by
    decide +kernel
  have besideB : referenceName? [("$ref", .str "#/$defs/A"),
      ("x", .obj [("$ref", .str "#/$defs/B")])] = some "A" := by
    decide +kernel
  refine ⟨?_, ?_, ?_, ?_⟩
  · apply (inlineValue_obj_eq_ok_iff rfl).mpr
    refine ⟨_, inlineMembers_cons_eq_ok_iff.mpr ⟨_, [], ?_, ?_, rfl⟩, rfl⟩
    · rw [inlineValue_reference toA rfl]
      exact plain rfl
    · rw [inlineMembers]
  · rw [isClosed, toB]
    rfl
  · rw [inlineReferences, inlineValue_reference toB rfl]
    exact plain rfl
  · rw [inlineReferences, inlineValue_reference besideB rfl]
    exact plain rfl

end Folio.JsonSchema
