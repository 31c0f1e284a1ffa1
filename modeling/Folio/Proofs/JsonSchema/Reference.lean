import Folio.JsonSchema.Reference

/-!
# What is left after inlining

No reference is left in a value whose references have been replaced, as long as no
definition is a bare text.  Values without references are not changed.
-/

namespace Folio.JsonSchema

mutual

/-- No object in the value is a reference to a definition. -/
def isClosed : Json → Bool
  | .obj members => (referenceName? members).isNone && areClosedMembers members
  | .arr items => areClosed items
  | _ => true

def areClosed : List Json → Bool
  | [] => true
  | item :: later => isClosed item && areClosed later

def areClosedMembers : Members → Bool
  | [] => true
  | (_, value) :: later => isClosed value && areClosedMembers later

end

theorem areClosed_iff {items : List Json} :
    areClosed items = true ↔ ∀ item ∈ items, isClosed item = true := by
  induction items with
  | nil => simp [areClosed]
  | cons item later inductionHypothesis => simp [areClosed, inductionHypothesis]

theorem areClosedMembers_iff {members : Members} :
    areClosedMembers members = true ↔ ∀ member ∈ members, isClosed member.2 = true := by
  induction members with
  | nil => simp [areClosedMembers]
  | cons member later inductionHypothesis => simp [areClosedMembers, inductionHypothesis]

section Steps

variable {definitions available : Members}

theorem inlineValue_obj_eq_ok_iff {members : Members}
    (unreferring : referenceName? members = none) {result : Json} :
    inlineValue definitions available (.obj members) = .ok result ↔
      ∃ inlined, inlineMembers definitions available members = .ok inlined ∧
        result = .obj inlined := by
  rw [inlineValue]
  split
  · rename_i name referring
    rw [unreferring] at referring
    cases referring
  · cases inlineMembers definitions available members <;> simp [Except.map, eq_comm]

theorem inlineValue_reference {members : Members} {name : Text} {target : Json}
    (referring : referenceName? members = some name)
    (found : Members.find? name available = some target) :
    inlineValue definitions available (.obj members) =
      inlineValue definitions (without name available) target := by
  rw [inlineValue]
  split
  · rename_i other otherReferring
    obtain rfl := Option.some.inj (referring.symm.trans otherReferring)
    split
    · rename_i otherTarget otherFound
      obtain rfl := Option.some.inj (found.symm.trans otherFound)
      rfl
    · rename_i missing
      rw [found] at missing
      cases missing
  · rename_i unreferring
    rw [referring] at unreferring
    cases unreferring

theorem inlineValue_missing {members : Members} {name : Text}
    (referring : referenceName? members = some name)
    (missing : Members.find? name available = none) :
    inlineValue definitions available (.obj members) =
      .error (unfollowed definitions name) := by
  rw [inlineValue]
  split
  · rename_i other otherReferring
    obtain rfl := Option.some.inj (referring.symm.trans otherReferring)
    split
    · rename_i target found
      rw [missing] at found
      cases found
    · rfl
  · rename_i unreferring
    rw [referring] at unreferring
    cases unreferring

theorem inlineValue_arr_eq_ok_iff {items : List Json} {result : Json} :
    inlineValue definitions available (.arr items) = .ok result ↔
      ∃ inlined, inlineItems definitions available items = .ok inlined ∧
        result = .arr inlined := by
  rw [inlineValue]
  cases inlineItems definitions available items <;> simp [Except.map, eq_comm]

theorem inlineItems_cons_eq_ok_iff {item : Json} {later result : List Json} :
    inlineItems definitions available (item :: later) = .ok result ↔
      ∃ first rest, inlineValue definitions available item = .ok first ∧
        inlineItems definitions available later = .ok rest ∧
          result = first :: rest := by
  rw [inlineItems]
  cases inlineValue definitions available item <;>
    cases inlineItems definitions available later <;>
      simp [bind, Except.bind, pure, Except.pure, eq_comm]

theorem inlineMembers_cons_eq_ok_iff {name : Text} {value : Json}
    {later result : Members} :
    inlineMembers definitions available ((name, value) :: later) = .ok result ↔
      ∃ first rest, inlineValue definitions available value = .ok first ∧
        inlineMembers definitions available later = .ok rest ∧
          result = (name, first) :: rest := by
  rw [inlineMembers]
  cases inlineValue definitions available value <;>
    cases inlineMembers definitions available later <;>
      simp [bind, Except.bind, pure, Except.pure, eq_comm]

end Steps

/-! ## Values without references -/

/-- Whatever is defined, a value without references is not changed. -/
theorem inlineValue_of_isClosed (definitions : Members) :
    (∀ available node, isClosed node = true →
      inlineValue definitions available node = .ok node) ∧
    (∀ available items, areClosed items = true →
      inlineItems definitions available items = .ok items) ∧
    ∀ available members, areClosedMembers members = true →
      inlineMembers definitions available members = .ok members := by
  apply inlineValue.mutual_induct
  case case1 =>
    intro available members name referring target found inductionHypothesis closed
    simp [isClosed, referring] at closed
  case case2 =>
    intro available members name referring missing closed
    simp [isClosed, referring] at closed
  case case3 =>
    intro available members unreferring inductionHypothesis closed
    rw [isClosed, Bool.and_eq_true] at closed
    apply (inlineValue_obj_eq_ok_iff unreferring).mpr
    exact ⟨members, inductionHypothesis closed.2, rfl⟩
  case case4 =>
    intro available items inductionHypothesis closed
    rw [isClosed] at closed
    exact inlineValue_arr_eq_ok_iff.mpr ⟨items, inductionHypothesis closed, rfl⟩
  case case5 =>
    intro available other noObject noList closed
    exact inlineValue.eq_3 _ _ _ noObject noList
  case case6 =>
    intro available closed
    rw [inlineItems]
  case case7 =>
    intro available item later itemHypothesis laterHypothesis closed
    rw [areClosed, Bool.and_eq_true] at closed
    apply inlineItems_cons_eq_ok_iff.mpr
    exact ⟨item, later, itemHypothesis closed.1, laterHypothesis closed.2, rfl⟩
  case case8 =>
    intro available closed
    rw [inlineMembers]
  case case9 =>
    intro available name value later valueHypothesis laterHypothesis closed
    rw [areClosedMembers, Bool.and_eq_true] at closed
    apply inlineMembers_cons_eq_ok_iff.mpr
    exact ⟨value, later, valueHypothesis closed.1, laterHypothesis closed.2, rfl⟩

/-! ## Results -/

/-- No definition is a bare text, which could complete a reference. -/
def Textless (definitions : Members) : Prop :=
  ∀ name text, (name, Json.str text) ∉ definitions

theorem Textless.without {available : Members} (textless : Textless available)
    (name : Text) : Textless (without name available) := by
  intro other text present
  exact textless other text (List.mem_filter.mp present).1

theorem mem_of_find? {name : Text} {members : Members} {value : Json}
    (found : Members.find? name members = some value) : (name, value) ∈ members := by
  induction members with
  | nil => cases found
  | cons member later inductionHypothesis =>
      obtain ⟨key, present⟩ := member
      rw [Members.find?] at found
      split at found
      · rename_i same
        cases found
        rw [same]
        exact List.mem_cons_self
      · exact List.mem_cons_of_mem _ (inductionHypothesis found)

section Texts

variable {definitions : Members}

/-- A text is only what a text is replaced by. -/
theorem eq_str_of_inlineValue (available : Members) (node : Json) :
    Textless available → ∀ text,
      inlineValue definitions available node = .ok (.str text) → node = .str text := by
  apply inlineValue.induct
    (fun available node => Textless available → ∀ text,
      inlineValue definitions available node = .ok (.str text) → node = .str text)
    (fun _ _ => True) (fun _ _ => True)
  case case1 =>
    intro available members name referring target found inductionHypothesis
      textless text inlined
    rw [inlineValue_reference referring found] at inlined
    rw [inductionHypothesis (textless.without name) text inlined] at found
    exact absurd (mem_of_find? found) (textless name text)
  case case2 =>
    intro available members name referring missing textless text inlined
    rw [inlineValue_missing referring missing] at inlined
    cases inlined
  case case3 =>
    intro available members unreferring inductionHypothesis textless text inlined
    obtain ⟨result, -, impossible⟩ := (inlineValue_obj_eq_ok_iff unreferring).mp inlined
    cases impossible
  case case4 =>
    intro available items inductionHypothesis textless text inlined
    obtain ⟨result, -, impossible⟩ := inlineValue_arr_eq_ok_iff.mp inlined
    cases impossible
  case case5 =>
    intro available other noObject noList textless text inlined
    rw [inlineValue.eq_3 _ _ _ noObject noList] at inlined
    exact Except.ok.inj inlined
  all_goals
    intros
    trivial

theorem find?_of_inlineMembers {available members : Members}
    (textless : Textless available) {result : Members}
    (inlined : inlineMembers definitions available members = .ok result)
    {name text : Text} (found : Members.find? name result = some (.str text)) :
    Members.find? name members = some (.str text) := by
  induction members generalizing result with
  | nil =>
      rw [inlineMembers] at inlined
      cases inlined
      exact found
  | cons member later inductionHypothesis =>
      obtain ⟨key, value⟩ := member
      obtain ⟨first, rest, firstInlined, restInlined, rfl⟩ :=
        inlineMembers_cons_eq_ok_iff.mp inlined
      rw [Members.find?] at found ⊢
      by_cases same : key = name
      · rw [if_pos same] at found ⊢
        cases found
        rw [eq_str_of_inlineValue available value textless text firstInlined]
      · rw [if_neg same] at found ⊢
        exact inductionHypothesis restInlined found

/-- Inlining makes no reference of an object that was none. -/
theorem referenceName?_of_inlineMembers {available members : Members}
    (textless : Textless available) {result : Members}
    (inlined : inlineMembers definitions available members = .ok result)
    (unreferring : referenceName? members = none) :
    referenceName? result = none := by
  cases referring : referenceName? result with
  | none => rfl
  | some name =>
      unfold referenceName? at referring
      split at referring
      · rename_i text found
        rw [referenceName?, find?_of_inlineMembers textless inlined found] at unreferring
        exact referring.symm.trans unreferring
      · cases referring

end Texts

/-- No reference is left in what inlining gives. -/
theorem isClosed_of_inlineValue (definitions : Members) :
    (∀ available node, Textless available → ∀ result,
      inlineValue definitions available node = .ok result → isClosed result = true) ∧
    (∀ available items, Textless available → ∀ result,
      inlineItems definitions available items = .ok result → areClosed result = true) ∧
    ∀ available members, Textless available → ∀ result,
      inlineMembers definitions available members = .ok result →
        areClosedMembers result = true := by
  apply inlineValue.mutual_induct
  case case1 =>
    intro available members name referring target found inductionHypothesis
      textless result inlined
    rw [inlineValue_reference referring found] at inlined
    exact inductionHypothesis (textless.without name) result inlined
  case case2 =>
    intro available members name referring missing textless result inlined
    rw [inlineValue_missing referring missing] at inlined
    cases inlined
  case case3 =>
    intro available members unreferring inductionHypothesis textless result inlined
    obtain ⟨found, foundInlined, rfl⟩ := (inlineValue_obj_eq_ok_iff unreferring).mp inlined
    -- The object is no reference even after its members are replaced.
    rw [isClosed, inductionHypothesis textless found foundInlined,
      referenceName?_of_inlineMembers textless foundInlined unreferring]
    rfl
  case case4 =>
    intro available items inductionHypothesis textless result inlined
    obtain ⟨found, foundInlined, rfl⟩ := inlineValue_arr_eq_ok_iff.mp inlined
    rw [isClosed]
    exact inductionHypothesis textless found foundInlined
  case case5 =>
    intro available other noObject noList textless result inlined
    rw [inlineValue.eq_3 _ _ _ noObject noList] at inlined
    cases inlined
    exact isClosed.eq_3 _ noObject noList
  case case6 =>
    intro available textless result inlined
    rw [inlineItems] at inlined
    cases inlined
    rfl
  case case7 =>
    intro available item later itemHypothesis laterHypothesis textless result inlined
    obtain ⟨first, rest, firstInlined, restInlined, rfl⟩ :=
      inlineItems_cons_eq_ok_iff.mp inlined
    rw [areClosed, itemHypothesis textless first firstInlined,
      laterHypothesis textless rest restInlined]
    rfl
  case case8 =>
    intro available textless result inlined
    rw [inlineMembers] at inlined
    cases inlined
    rfl
  case case9 =>
    intro available name value later valueHypothesis laterHypothesis textless result
      inlined
    obtain ⟨first, rest, firstInlined, restInlined, rfl⟩ :=
      inlineMembers_cons_eq_ok_iff.mp inlined
    rw [areClosedMembers, valueHypothesis textless first firstInlined,
      laterHypothesis textless rest restInlined]
    rfl

end Folio.JsonSchema
