import Folio.Proofs.JsonSchema.Reference
import Mathlib.Data.List.Forall2
import Mathlib.Logic.Relation

/-!
# References that can be followed

A reference leads to its definition and on to what that consists of.  Inlining succeeds
only where every reference that is reached has a definition and none leads back to
itself.  It does not matter whether definitions that are not needed may be followed.
-/

namespace Folio.JsonSchema

open Relation

variable {definitions available : Members} {node : Json}

/-! ## Reachable nodes -/

/-- What is looked at below a node: the items of a list, the members of an object, and
only the definition of a reference. -/
inductive Leads (definitions : Members) : Json → Json → Prop
  | item {items : List Json} {item : Json} (present : item ∈ items) :
      Leads definitions (.arr items) item
  | member {members : Members} {name : Text} {value : Json}
      (unreferring : referenceName? members = none) (present : (name, value) ∈ members) :
      Leads definitions (.obj members) value
  | definition {members : Members} {name : Text} {target : Json}
      (referring : referenceName? members = some name)
      (found : Members.find? name definitions = some target) :
      Leads definitions (.obj members) target

section Children

variable {members : Members} {name : Text} {items : List Json} {child : Json}

theorem leads_list_iff : Leads definitions (.arr items) child ↔ child ∈ items := by
  constructor
  · intro leads
    cases leads with
    | item present => exact present
  · exact .item

theorem leads_object_iff (unreferring : referenceName? members = none) :
    Leads definitions (.obj members) child ↔ ∃ member ∈ members, member.2 = child := by
  constructor
  · intro leads
    cases leads with
    | member _ present => exact ⟨_, present, rfl⟩
    | definition referring _ =>
        rw [unreferring] at referring
        cases referring
  · intro present
    obtain ⟨member, present, rfl⟩ := present
    exact .member unreferring present

theorem leads_reference_iff (referring : referenceName? members = some name) :
    Leads definitions (.obj members) child ↔
      Members.find? name definitions = some child := by
  constructor
  · intro leads
    cases leads with
    | member unreferring _ =>
        rw [referring] at unreferring
        cases unreferring
    | definition otherReferring found =>
        obtain rfl := Option.some.inj (referring.symm.trans otherReferring)
        exact found
  · exact .definition referring

theorem not_leads (noObject : ∀ members, node ≠ .obj members)
    (noList : ∀ items, node ≠ .arr items) : ¬ Leads definitions node child := by
  intro leads
  cases leads with
  | item _ => exact noList _ rfl
  | member _ _ => exact noObject _ rfl
  | definition _ _ => exact noObject _ rfl

end Children

/-- The node is a reference to the definition of a name. -/
def RefersTo (node : Json) (name : Text) : Prop :=
  ∃ members, node = .obj members ∧ referenceName? members = some name

/-- The references that are reached from a node can all be followed to an end. -/
structure Resolvable (definitions : Members) (node : Json) : Prop where
  /-- Every reference has a definition. -/
  defined : ∀ reference name, ReflTransGen (Leads definitions) node reference →
    RefersTo reference name → ∃ target, Members.find? name definitions = some target
  /-- No reference leads back to itself. -/
  acyclic : ∀ reference name, ReflTransGen (Leads definitions) node reference →
    RefersTo reference name → ¬ TransGen (Leads definitions) reference reference

theorem Resolvable.of_leads {child : Json} (resolvable : Resolvable definitions node)
    (leads : Leads definitions node child) : Resolvable definitions child where
  defined := by
    intro reference name reached
    exact resolvable.defined reference name (reached.head leads)
  acyclic := by
    intro reference name reached
    exact resolvable.acyclic reference name (reached.head leads)

/-! ## Definitions that may be followed -/

/-- Whatever may be followed is defined. -/
def IsPartOf (available definitions : Members) : Prop :=
  ∀ name target, Members.find? name available = some target →
    Members.find? name definitions = some target

theorem IsPartOf.refl (definitions : Members) : IsPartOf definitions definitions :=
  fun _ _ found => found

theorem find?_without (name other : Text) (available : Members) :
    Members.find? other (without name available) =
      if other = name then none else Members.find? other available := by
  induction available with
  | nil => simp [without, Members.find?]
  | cons definition later inductionHypothesis =>
      obtain ⟨key, body⟩ := definition
      unfold without at inductionHypothesis ⊢
      by_cases removed : key = name
      · subst removed
        rw [List.filter_cons_of_neg (by simp), inductionHypothesis, Members.find?]
        split
        · rfl
        · rename_i different
          rw [if_neg (Ne.symm different)]
      · rw [List.filter_cons_of_pos (by simpa using removed), Members.find?, Members.find?,
          inductionHypothesis]
        by_cases same : key = other
        · subst same
          rw [if_pos rfl, if_neg removed, if_pos rfl]
        · rw [if_neg same, if_neg same]

theorem IsPartOf.without (part : IsPartOf available definitions) (name : Text) :
    IsPartOf (without name available) definitions := by
  intro other target found
  rw [find?_without] at found
  split at found
  · cases found
  · exact part other target found

/-! ## Successful runs -/

theorem forall_of_forall₂ {α β : Type} {related : α → β → Prop} {values : List α}
    {results : List β} (property : α → Prop) (paired : List.Forall₂ related values results)
    (implies : ∀ value result, related value result → property value) :
    ∀ value ∈ values, property value := by
  have each := paired.imp fun value result holds => And.intro (implies value result holds) holds
  exact ((List.forall₂_and_left values results).mp each).1

theorem inlineItems_eq_ok_iff {items results : List Json} :
    inlineItems definitions available items = .ok results ↔
      List.Forall₂ (fun item result => inlineValue definitions available item = .ok result)
        items results := by
  induction items generalizing results with
  | nil =>
      rw [inlineItems]
      simp [eq_comm]
  | cons item later inductionHypothesis =>
      rw [inlineItems_cons_eq_ok_iff, List.forall₂_cons_left_iff]
      simp only [inductionHypothesis]

theorem inlineMembers_eq_ok_iff {members results : Members} :
    inlineMembers definitions available members = .ok results ↔
      List.Forall₂ (fun member result => result.1 = member.1 ∧
        inlineValue definitions available member.2 = .ok result.2) members results := by
  induction members generalizing results with
  | nil =>
      rw [inlineMembers]
      simp [eq_comm]
  | cons member later inductionHypothesis =>
      obtain ⟨name, value⟩ := member
      rw [inlineMembers_cons_eq_ok_iff, List.forall₂_cons_left_iff]
      simp only [inductionHypothesis, Prod.exists]
      constructor
      · intro inlined
        obtain ⟨first, rest, firstInlined, restInlined, rfl⟩ := inlined
        exact ⟨name, first, rest, ⟨rfl, firstInlined⟩, restInlined, rfl⟩
      · intro inlined
        obtain ⟨_, first, rest, ⟨rfl, firstInlined⟩, restInlined, rfl⟩ := inlined
        exact ⟨first, rest, firstInlined, restInlined, rfl⟩

/-- What holds of all successful runs: it holds of a reference if it does of its
definition, of objects and lists if it does of what they consist of, and of whatever is
left as it is. -/
theorem inlineValue_ok_induction {motive : Members → Json → Json → Prop}
    (reference : ∀ available members name target result,
      referenceName? members = some name → Members.find? name available = some target →
        motive (without name available) target result →
          motive available (.obj members) result)
    (object : ∀ available members results, referenceName? members = none →
      List.Forall₂ (fun member result => result.1 = member.1 ∧
        inlineValue definitions available member.2 = .ok result.2 ∧
          motive available member.2 result.2) members results →
        motive available (.obj members) (.obj results))
    (list : ∀ available items results,
      List.Forall₂ (fun item result => inlineValue definitions available item = .ok result ∧
        motive available item result) items results →
        motive available (.arr items) (.arr results))
    (plain : ∀ available node, (∀ members, node ≠ .obj members) →
      (∀ items, node ≠ .arr items) → motive available node node) :
    ∀ available node result, inlineValue definitions available node = .ok result →
      motive available node result := by
  apply inlineValue.induct
    (fun available node => ∀ result, inlineValue definitions available node = .ok result →
      motive available node result)
    (fun available items => ∀ results, inlineItems definitions available items = .ok results →
      List.Forall₂ (fun item result => inlineValue definitions available item = .ok result ∧
        motive available item result) items results)
    (fun available members => ∀ results,
      inlineMembers definitions available members = .ok results →
        List.Forall₂ (fun member result => result.1 = member.1 ∧
          inlineValue definitions available member.2 = .ok result.2 ∧
            motive available member.2 result.2) members results)
  case case1 =>
    intro available members name referring target found inductionHypothesis result inlined
    rw [inlineValue_reference referring found] at inlined
    exact reference _ _ _ _ _ referring found (inductionHypothesis result inlined)
  case case2 =>
    intro available members name referring missing result inlined
    rw [inlineValue_missing referring missing] at inlined
    cases inlined
  case case3 =>
    intro available members unreferring inductionHypothesis result inlined
    obtain ⟨results, membersInlined, rfl⟩ := (inlineValue_obj_eq_ok_iff unreferring).mp inlined
    exact object _ _ _ unreferring (inductionHypothesis results membersInlined)
  case case4 =>
    intro available items inductionHypothesis result inlined
    obtain ⟨results, itemsInlined, rfl⟩ := inlineValue_arr_eq_ok_iff.mp inlined
    exact list _ _ _ (inductionHypothesis results itemsInlined)
  case case5 =>
    intro available other noObject noList result inlined
    rw [inlineValue.eq_3 _ _ _ noObject noList] at inlined
    cases inlined
    exact plain _ _ noObject noList
  case case6 =>
    intro available results inlined
    rw [inlineItems] at inlined
    cases inlined
    exact .nil
  case case7 =>
    intro available item later itemHypothesis laterHypothesis results inlined
    obtain ⟨first, rest, firstInlined, restInlined, rfl⟩ :=
      inlineItems_cons_eq_ok_iff.mp inlined
    exact .cons ⟨firstInlined, itemHypothesis first firstInlined⟩
      (laterHypothesis rest restInlined)
  case case8 =>
    intro available results inlined
    rw [inlineMembers] at inlined
    cases inlined
    exact .nil
  case case9 =>
    intro available name value later valueHypothesis laterHypothesis results inlined
    obtain ⟨first, rest, firstInlined, restInlined, rfl⟩ :=
      inlineMembers_cons_eq_ok_iff.mp inlined
    exact .cons ⟨rfl, firstInlined, valueHypothesis first firstInlined⟩
      (laterHypothesis rest restInlined)

/-- A run that succeeds does so whatever else may be followed. -/
theorem inlineValue_of_isPartOf {result : Json}
    (inlined : inlineValue definitions available node = .ok result) :
    ∀ more, IsPartOf available more → inlineValue definitions more node = .ok result := by
  revert inlined
  apply inlineValue_ok_induction (motive := fun available node result =>
    ∀ more, IsPartOf available more → inlineValue definitions more node = .ok result)
  case reference =>
    intro available members name target result referring found inductionHypothesis more part
    rw [inlineValue_reference referring (part name target found)]
    apply inductionHypothesis
    intro other body bodyFound
    rw [find?_without] at bodyFound ⊢
    split at bodyFound
    · cases bodyFound
    · rename_i different
      rw [if_neg different]
      exact part other body bodyFound
  case object =>
    intro available members results unreferring paired more part
    apply (inlineValue_obj_eq_ok_iff unreferring).mpr
    refine ⟨results, inlineMembers_eq_ok_iff.mpr (paired.imp ?_), rfl⟩
    intro member result parts
    exact ⟨parts.1, parts.2.2 more part⟩
  case list =>
    intro available items results paired more part
    apply inlineValue_arr_eq_ok_iff.mpr
    refine ⟨results, inlineItems_eq_ok_iff.mpr (paired.imp ?_), rfl⟩
    intro item result parts
    exact parts.2 more part
  case plain =>
    intro available node noObject noList more part
    exact inlineValue.eq_3 _ _ _ noObject noList

/-- What is below a node is inlined with it. -/
theorem exists_inlineReferences_of_leads {child : Json}
    (succeeds : ∃ result, inlineReferences definitions node = .ok result)
    (leads : Leads definitions node child) :
    ∃ result, inlineReferences definitions child = .ok result := by
  obtain ⟨result, inlined⟩ := succeeds
  unfold inlineReferences at inlined ⊢
  cases leads with
  | item present =>
      obtain ⟨results, itemsInlined, -⟩ := inlineValue_arr_eq_ok_iff.mp inlined
      exact forall_of_forall₂
        (fun item => ∃ result, inlineValue definitions definitions item = .ok result)
        (inlineItems_eq_ok_iff.mp itemsInlined) (fun _ result inlined => ⟨result, inlined⟩)
        child present
  | member unreferring present =>
      obtain ⟨results, membersInlined, -⟩ := (inlineValue_obj_eq_ok_iff unreferring).mp inlined
      exact forall_of_forall₂
        (fun member => ∃ result, inlineValue definitions definitions member.2 = .ok result)
        (inlineMembers_eq_ok_iff.mp membersInlined)
        (fun _ result inlined => ⟨result.2, inlined.2⟩) _ present
  | definition referring found =>
      rw [inlineValue_reference referring found] at inlined
      exact ⟨result, inlineValue_of_isPartOf inlined definitions ((IsPartOf.refl _).without _)⟩

/-- What is inlined comes to an end everywhere below. -/
theorem acc_of_inlineValue {result : Json}
    (inlined : inlineValue definitions available node = .ok result) :
    IsPartOf available definitions →
      Acc (fun child parent => Leads definitions parent child) node := by
  revert inlined
  apply inlineValue_ok_induction (motive := fun available node _ =>
    IsPartOf available definitions →
      Acc (fun child parent => Leads definitions parent child) node)
  case reference =>
    intro available members name target result referring found inductionHypothesis part
    constructor
    intro child leads
    have only := (leads_reference_iff referring).mp leads
    obtain rfl := Option.some.inj ((part name target found).symm.trans only)
    exact inductionHypothesis (part.without name)
  case object =>
    intro available members results unreferring paired part
    constructor
    intro child leads
    obtain ⟨member, present, rfl⟩ := (leads_object_iff unreferring).mp leads
    exact forall_of_forall₂
      (fun member => Acc (fun child parent => Leads definitions parent child) member.2)
      paired (fun _ _ parts => parts.2.2 part) member present
  case list =>
    intro available items results paired part
    constructor
    intro child leads
    exact forall_of_forall₂ (Acc fun child parent => Leads definitions parent child) paired
      (fun _ _ parts => parts.2 part) child (leads_list_iff.mp leads)
  case plain =>
    intro available node noObject noList part
    constructor
    intro child leads
    exact absurd leads (not_leads noObject noList)

theorem not_transGen_self_of_acc {α : Type} {leads : α → α → Prop} {start : α}
    (ends : Acc (fun next item => leads item next) start) : ¬ TransGen leads start start := by
  induction ends with
  | intro item _ inductionHypothesis =>
      intro loop
      -- The first step of a loop leads to another loop, further down.
      obtain ⟨next, first, back⟩ := TransGen.head'_iff.mp loop
      exact inductionHypothesis next first (TransGen.tail' back first)

/-- What is inlined can be followed to an end. -/
theorem resolvable_of_inlineReferences
    (succeeds : ∃ result, inlineReferences definitions node = .ok result) :
    Resolvable definitions node := by
  have reached : ∀ {other}, ReflTransGen (Leads definitions) node other →
      ∃ result, inlineReferences definitions other = .ok result := by
    intro other path
    induction path with
    | refl => exact succeeds
    | tail _ leads inductionHypothesis =>
        exact exists_inlineReferences_of_leads inductionHypothesis leads
  constructor
  case defined =>
    intro reference name path refers
    obtain ⟨members, rfl, referring⟩ := refers
    cases found : Members.find? name definitions with
    | some target => exact ⟨target, rfl⟩
    | none =>
        obtain ⟨result, inlined⟩ := reached path
        rw [inlineReferences, inlineValue_missing referring found] at inlined
        cases inlined
  case acyclic =>
    intro reference name path refers
    obtain ⟨result, inlined⟩ := reached path
    exact not_transGen_self_of_acc (acc_of_inlineValue inlined (.refl definitions))

end Folio.JsonSchema
