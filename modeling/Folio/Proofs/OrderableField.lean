import Folio.Proofs.PageRequest
import Folio.Proofs.Settings
import Mathlib.Data.List.Forall2

/-!
# Fields that are marked orderable

A raw field has two marks, each of which may be left out: that it is orderable, and that
it is the default order.  The field is orderable exactly if one of the marks says so, or
if the mark of the default order is a word for false.  Such a word denies the default
order and still counts as set.
-/

namespace Folio

/-! ## Checks of lists -/

namespace Checked

variable {α β : Type}

theorem within_eq_ok_iff {place : Place} {check : Checked α} {value : α} :
    within place check = .ok value ↔ check = .ok value := by
  cases check <;> simp [within]

theorem all_cons_eq_ok_iff {check : Checked α} {later : List (Checked α)}
    {results : List α} :
    all (check :: later) = .ok results ↔
      ∃ first rest, check = .ok first ∧ all later = .ok rest ∧ results = first :: rest := by
  rw [all, map_eq_ok_iff]
  constructor
  · rintro ⟨⟨first, rest⟩, accepted, rfl⟩
    rw [both_eq_ok_iff] at accepted
    exact ⟨first, rest, accepted.1, accepted.2, rfl⟩
  · rintro ⟨first, rest, accepted, restAccepted, rfl⟩
    exact ⟨(first, rest), both_eq_ok_iff.mpr ⟨accepted, restAccepted⟩, rfl⟩

/-- The items of a list are accepted exactly if each of them is, one for one. -/
theorem items_eq_ok_iff {check : α → Checked β} {values : List α} {results : List β} :
    items check values = .ok results ↔
      List.Forall₂ (fun value result => check value = .ok result) values results := by
  unfold items
  -- The place of an item does not matter, so the induction leaves it open.
  suffices placed : ∀ place : Nat → Place,
      all (values.mapIdx fun index value => within (place index) (check value)) =
          .ok results ↔
        List.Forall₂ (fun value result => check value = .ok result) values results by
    exact placed .item
  induction values generalizing results with
  | nil =>
      intro place
      simp [all, eq_comm]
  | cons value later inductionHypothesis =>
      intro place
      rw [List.mapIdx_cons, all_cons_eq_ok_iff, List.forall₂_cons_left_iff]
      simp only [within_eq_ok_iff, inductionHypothesis fun index => place (index + 1)]

end Checked

theorem exists_of_forall₂ {α β : Type} {related : α → β → Prop} {values : List α}
    {results : List β} (paired : List.Forall₂ related values results) :
    ∀ value ∈ values, ∃ result ∈ results, related value result := by
  induction paired with
  | nil => nofun
  | @cons first result later rest holds _ inductionHypothesis =>
      intro value member
      rcases List.mem_cons.mp member with rfl | inside
      · exact ⟨result, List.mem_cons_self, holds⟩
      · obtain ⟨other, otherMember, otherHolds⟩ := inductionHypothesis value inside
        exact ⟨other, List.mem_cons_of_mem _ otherMember, otherHolds⟩

/-! ## Truth values that count as set -/

theorem Binary64.eq_zero_of_toInteger? {negative : Bool} {significand : Nat}
    {exponent integer : Int}
    (equal : toInteger? (.finite negative significand exponent) = some integer) :
    integer = 0 ↔ significand = 0 := by
  have unscaled : numerator significand exponent = 0 ↔ significand = 0 := by
    rw [numerator, Nat.mul_eq_zero]
    exact or_iff_left (Nat.ne_of_gt (Nat.two_pow_pos _))
  rw [toInteger?] at equal
  split at equal
  · rename_i divisible
    have positive : 0 < denominator exponent := Nat.two_pow_pos _
    have magnitude : numerator significand exponent / denominator exponent = 0 ↔
        significand = 0 := by
      rw [← unscaled, Nat.div_eq_zero_iff_lt positive]
      constructor
      · intro small
        rwa [Nat.mod_eq_of_lt small] at divisible
      · intro zero
        rwa [zero]
    have sign : integer = 0 ↔
        ((numerator significand exponent / denominator exponent : Nat) : Int) = 0 := by
      cases Option.some.inj equal
      split
      · exact Int.neg_eq_zero
      · exact Iff.rfl
    rw [sign, ← magnitude, Int.natCast_eq_zero]
  · cases equal

namespace Json

theorem integerFlag_eq_ok {value : Int} {flag : Bool}
    (read : integerFlag value = .ok flag) : flag = true ↔ value ≠ 0 := by
  unfold integerFlag at read
  split at read
  · rename_i zero
    simp_all
  · split at read
    · simp_all
    · cases read

/-- The integer that a number equals is zero exactly if the number is. -/
theorem isZero_of_integerOfReal {value : Binary64} {integer : Int}
    (read : integerOfReal value = .ok integer) : value.isZero = true ↔ integer = 0 := by
  cases value with
  | finite negative significand exponent =>
      rw [Binary64.isZero, beq_iff_eq]
      rw [integerOfReal, Binary64.isFinite, if_pos rfl] at read
      split at read
      · rename_i found equal
        obtain rfl : found = integer := by
          split at read
          · exact Except.ok.inj read
          · cases read
        exact (Binary64.eq_zero_of_toInteger? equal).symm
      · cases read
  | _ => cases read

/-- A truth value that can be read counts as set if it is true, and also if it is a
word for false. -/
theorem isTruthy_iff_of_asFlag {raw : Json} {flag : Bool} (read : raw.asFlag = .ok flag) :
    raw.isTruthy = true ↔
      flag = true ∨ ∃ text : String, raw = .str text ∧ text.toLower ∈ falseWords := by
  cases raw with
  | bool value =>
      cases read
      simp [isTruthy]
  | int value =>
      rw [asFlag] at read
      split at read
      · simp [isTruthy, integerFlag_eq_ok read]
      · cases read
  | real value =>
      rw [asFlag] at read
      cases found : integerOfReal value with
      | error complaint => simp [found] at read
      | ok integer =>
          rw [found] at read
          have zero := isZero_of_integerOfReal found
          simp [isTruthy, integerFlag_eq_ok read, ← zero]
  | str text =>
      obtain ⟨string, rfl, spelled⟩ := readCharacters_eq_ok_iff.mp read
      have written : string.toLower ∈ falseWords ∨ string.toLower ∈ trueWords →
          Text.ofString string ≠ "" := by
        rw [Ne, Text.ofString_inj]
        rintro worded rfl
        revert worded
        decide +kernel
      rw [flagOfText] at spelled
      split at spelled
      · rename_i denies
        simp [isTruthy, denies, written (.inl denies)]
      · split at spelled
        · rename_i affirms
          cases spelled
          simp [isTruthy, written (.inr affirms)]
        · cases spelled
  | _ => cases read

end Json

namespace FieldDescriptor

variable {raw : Json} {field : FieldDescriptor}

/-- What a mark of a raw field says.  A mark that is left out says no. -/
def mark (name : Text) (raw : Json) : Except Complaint Bool :=
  match raw.member? name with
  | none => .ok false
  | some value => value.asFlag

/-- One of the marks says that the field is orderable. -/
def AsksForOrder (raw : Json) : Prop :=
  mark "orderable" raw = .ok true ∨ mark "is_default_order" raw = .ok true

/-- The mark of the default order is a word for false. -/
def DeniesInWords (raw : Json) : Prop :=
  ∃ text : String, raw.member? "is_default_order" = some (.str text) ∧
    text.toLower ∈ Json.falseWords

/-- What a field takes from the marks of a raw one. -/
structure ReadsMarks (raw : Json) (field : FieldDescriptor) : Prop where
  default : mark "is_default_order" raw = .ok field.isDefaultOrder
  /-- The default order is orderable. -/
  implied : field.isDefaultOrder = true → field.orderable = true
  /-- Next to a mark that can be read, the default order is all that matters, exactly
  unless that is denied in words and the mark says no. -/
  either : ∀ given, mark "orderable" raw = .ok given →
    (field.orderable = (given || field.isDefaultOrder) ↔
      (DeniesInWords raw → given = true))
  /-- A field that is not the default order keeps its mark, with the same exception. -/
  kept : ∀ given, mark "orderable" raw = .ok given → field.isDefaultOrder = false →
    (field.orderable = given ↔ (DeniesInWords raw → given = true))
  /-- Whatever the marks are, only these fields are orderable. -/
  exposed : field.orderable = true ↔ AsksForOrder raw ∨ DeniesInWords raw

theorem defaulted_eq_ok_iff_mark {members : Members} {name : Text} {flag : Bool} :
    Members.defaulted name false Json.asFlag members = .ok flag ↔
      mark name (.obj members) = .ok flag := by
  rw [Members.defaulted_eq_ok_iff, mark, Json.member?]
  cases Members.find? name members <;> simp [eq_comm]

theorem mark_of_deniesInWords (denied : DeniesInWords raw) :
    mark "is_default_order" raw = .ok false := by
  obtain ⟨text, said, word⟩ := denied
  rw [mark, said]
  dsimp only
  rw [Json.asFlag, Json.readCharacters_ofString, Json.flagOfText, if_pos word]

theorem marksDefault_iff {members : Members} {flag : Bool}
    (read : mark "is_default_order" (.obj members) = .ok flag) :
    marksDefault members = true ↔ flag = true ∨ DeniesInWords (.obj members) := by
  unfold DeniesInWords
  rw [mark, Json.member?] at read
  rw [marksDefault, Json.member?]
  cases said : Members.find? "is_default_order" members with
  | none =>
      rw [said] at read
      cases read
      simp
  | some value =>
      rw [said] at read
      simpa using Json.isTruthy_iff_of_asFlag read

/-- The mark of the default order goes first: set or denied in words, it makes the field
orderable, and otherwise the other mark is kept. -/
theorem marks_of_ofJson (accepted : ofJson raw = .ok field) :
    mark "is_default_order" raw = .ok field.isDefaultOrder ∧
      (field.isDefaultOrder = true ∨ DeniesInWords raw → field.orderable = true) ∧
        (¬ (field.isDefaultOrder = true ∨ DeniesInWords raw) →
          mark "orderable" raw = .ok field.orderable) := by
  cases raw with
  | obj members =>
      obtain ⟨⟨name, orderable, isDefaultOrder⟩, parts, rfl⟩ :=
        map_eq_ok_iff.mp accepted
      simp only [Checked.both_eq_ok_iff, defaulted_eq_ok_iff_mark] at parts
      obtain ⟨-, marked, default⟩ := parts
      have counts := marksDefault_iff default
      rw [orderableMark] at marked
      refine ⟨default, ?_, ?_⟩
      · intro set
        rw [if_pos (counts.mpr set)] at marked
        cases marked
        rfl
      · intro unset
        rw [if_neg (mt counts.mp unset), defaulted_eq_ok_iff_mark] at marked
        have other : isDefaultOrder = false :=
          Bool.eq_false_iff.mpr fun set => unset (.inl set)
        change _ = Except.ok (orderable || isDefaultOrder)
        rw [marked, other, Bool.or_false]
  | _ => cases accepted

theorem readsMarks_of_ofJson (accepted : ofJson raw = .ok field) :
    ReadsMarks raw field := by
  obtain ⟨default, set, unset⟩ := marks_of_ofJson accepted
  have denied : DeniesInWords raw → field.isDefaultOrder = false := by
    intro denies
    rw [mark_of_deniesInWords denies] at default
    exact (Except.ok.inj default).symm
  have either : ∀ given, mark "orderable" raw = .ok given →
      (field.orderable = (given || field.isDefaultOrder) ↔
        (DeniesInWords raw → given = true)) := by
    intro given said
    by_cases decides : field.isDefaultOrder = true ∨ DeniesInWords raw
    · rw [set decides]
      rcases decides with isDefault | denies
      · have undenied : ¬ DeniesInWords raw := by
          intro denies
          rw [denied denies] at isDefault
          cases isDefault
        simp [isDefault, undenied]
      · simp [denied denies, denies, eq_comm]
    · have kept := unset decides
      rw [said, Except.ok.injEq] at kept
      rw [not_or, Bool.not_eq_true] at decides
      simp [kept, decides.1, decides.2]
  constructor
  case default => exact default
  case implied => exact field.default_orderable
  case either => exact either
  case kept =>
    intro given said other
    rw [← either given said, other, Bool.or_false]
  case exposed =>
    unfold AsksForOrder
    rw [default, Except.ok.injEq]
    by_cases decides : field.isDefaultOrder = true ∨ DeniesInWords raw
    · rw [or_assoc]
      exact iff_of_true (set decides) (.inr decides)
    · rw [unset decides, Except.ok.injEq, or_assoc, or_iff_left decides]

end FieldDescriptor

/-! ## The fields of a schema -/

namespace EntitySchema

open FieldDescriptor (AsksForOrder DeniesInWords)

variable {raw : Json} {schema : EntitySchema}

/-- The raw fields of a raw schema. -/
def rawFields (raw : Json) : List Json :=
  match raw.member? "fields" with
  | some (.arr items) => items
  | _ => []

/-- What a schema exposes of the raw fields that it is made of. -/
structure Exposes (schema : EntitySchema) (raw : Json) : Prop where
  /-- The fields are read one by one. -/
  described :
    List.Forall₂ (fun rawField field => FieldDescriptor.ofJson rawField = .ok field)
      (rawFields raw) schema.fields
  orderable : ∀ rawField ∈ rawFields raw, ∀ field,
    FieldDescriptor.ofJson rawField = .ok field →
      (field ∈ schema.orderableFields ↔ AsksForOrder rawField ∨ DeniesInWords rawField)
  /-- Only fields that ask for it are orderable, exactly as long as no other one denies
  the default order in words. -/
  asked : (∀ rawField ∈ rawFields raw, ∀ field ∈ schema.orderableFields,
      FieldDescriptor.ofJson rawField = .ok field → AsksForOrder rawField) ↔
    ∀ rawField ∈ rawFields raw, DeniesInWords rawField → AsksForOrder rawField
  /-- The creation time apart, every identifier is that of such a field. -/
  resolved : ∀ fieldSet, schema.resolve = .ok fieldSet →
    ∀ identifier ∈ fieldSet.fields, identifier = Identifier.createdAt ∨
      ∃ rawField ∈ rawFields raw, ∃ field,
        FieldDescriptor.ofJson rawField = .ok field ∧ identifier = field.identifier ∧
          (AsksForOrder rawField ∨ DeniesInWords rawField)

theorem repeated?_eq_none_iff {seen names : List Text} :
    repeated? seen names = none ↔ names.Nodup ∧ ∀ name ∈ names, name ∉ seen := by
  induction names generalizing seen with
  | nil => simp [repeated?]
  | cons name later inductionHypothesis =>
      rw [repeated?, List.nodup_cons, List.forall_mem_cons]
      by_cases present : name ∈ seen
      · simp [present]
      · rw [if_neg present, inductionHypothesis]
        constructor
        · rintro ⟨distinct, fresh⟩
          refine ⟨⟨?_, distinct⟩, present, ?_⟩
          · intro again
            exact fresh name again (by simp)
          · intro other member inside
            exact fresh other member (List.mem_append_left _ inside)
        · rintro ⟨⟨once, distinct⟩, -, fresh⟩
          refine ⟨distinct, ?_⟩
          intro other member inside
          rcases List.mem_append.mp inside with before | same
          · exact fresh other member before
          · rw [List.mem_singleton] at same
            exact once (same ▸ member)

theorem checkNamed_eq_ok_iff {name : Text} {fields : List FieldDescriptor}
    {schema : EntitySchema} :
    checkNamed name fields = .ok schema ↔
      Text.ofString schema.name = name ∧ schema.fields = fields := by
  constructor
  · intro checked
    unfold checkNamed check at checked
    split at checked
    · rename_i string known
      rw [Text.toString?_eq_some_iff] at known
      split at checked
      · split at checked
        · cases checked
        · split at checked
          · cases checked
            exact ⟨known.symm, rfl⟩
          · cases checked
      · cases checked
    · cases checked
  · rintro ⟨rfl, rfl⟩
    simp only [checkNamed, Text.toString?_ofString]
    rw [dif_pos schema.name_nonempty, check]
    split
    · rename_i twice found
      have unrepeated : repeated? [] (schema.fields.map (·.name)) = none :=
        repeated?_eq_none_iff.mpr ⟨schema.names_nodup, by simp⟩
      rw [unrepeated] at found
      cases found
    · exact dif_pos schema.one_default

theorem described_of_ofJson (accepted : EntitySchema.ofJson raw = .ok schema) :
    List.Forall₂ (fun rawField field => FieldDescriptor.ofJson rawField = .ok field)
      (rawFields raw) schema.fields := by
  cases raw with
  | obj members =>
      obtain ⟨⟨name, fields⟩, parts, checked⟩ := bind_eq_ok_iff.mp accepted
      obtain ⟨-, listed⟩ := Checked.both_eq_ok_iff.mp parts
      rw [(checkNamed_eq_ok_iff.mp checked).2, rawFields, Json.member?]
      rw [fieldsOf] at listed
      split at listed
      · rename_i absent
        cases listed
        rw [absent]
        exact .nil
      · rename_i items present
        rw [present]
        exact Checked.items_eq_ok_iff.mp (Checked.within_eq_ok_iff.mp listed)
      · cases listed
  | _ => cases accepted

theorem exposes_of_ofJson (accepted : EntitySchema.ofJson raw = .ok schema) :
    schema.Exposes raw := by
  have described := described_of_ofJson accepted
  have present := exists_of_forall₂ described
  have origin := exists_of_forall₂ described.flip
  have orderable : ∀ rawField ∈ rawFields raw, ∀ field,
      FieldDescriptor.ofJson rawField = .ok field →
        (field ∈ schema.orderableFields ↔
          AsksForOrder rawField ∨ DeniesInWords rawField) := by
    intro rawField member field read
    obtain ⟨found, foundMember, foundRead⟩ := present rawField member
    rw [read, Except.ok.injEq] at foundRead
    rw [orderableFields, List.mem_filter, foundRead, and_iff_right foundMember,
      ← foundRead, (FieldDescriptor.readsMarks_of_ofJson read).exposed]
  constructor
  case described => exact described
  case orderable => exact orderable
  case asked =>
    constructor
    · intro only rawField member denies
      obtain ⟨field, -, read⟩ := present rawField member
      exact only rawField member field ((orderable rawField member field read).mpr
        (.inr denies)) read
    · intro all rawField member field exposed read
      exact ((orderable rawField member field read).mp exposed).elim id
        (all rawField member)
  case resolved =>
    intro fieldSet resolved identifier member
    obtain ⟨-, -, fields, -⟩ := resolve_eq_ok_iff.mp resolved
    rw [fields, List.mem_cons] at member
    refine member.imp_right fun own => ?_
    obtain ⟨field, fieldMember, rfl⟩ := List.mem_map.mp own
    have exposed := (mem_ownFields_iff.mp fieldMember).1
    obtain ⟨rawField, rawMember, read⟩ := origin field (List.mem_filter.mp exposed).1
    exact ⟨rawField, rawMember, field, read, rfl,
      (orderable rawField rawMember field read).mp exposed⟩

/-- The marks decide which fields are orderable, in a single field and in a schema: those
that ask for it, and those that deny the default order in words. -/
theorem marks_decide (raw : Json) :
    (∀ field, FieldDescriptor.ofJson raw = .ok field →
        FieldDescriptor.ReadsMarks raw field) ∧
      ∀ schema, EntitySchema.ofJson raw = .ok schema → schema.Exposes raw := by
  constructor
  · intro field accepted
    exact FieldDescriptor.readsMarks_of_ofJson accepted
  · intro schema accepted
    exact exposes_of_ofJson accepted

/-- A raw field that is neither orderable nor the default order. -/
def rawPassword : Json :=
  .obj [("name", .str "password"), ("is_default_order", .str "false")]

def rawAccount : Json :=
  .obj [("name", .str "Account"),
    ("fields", .arr [.obj [("name", .str "email"), ("orderable", .str "yes")], rawPassword])]

def accountSchema : EntitySchema where
  name := "Account"
  fields := [.make "email" true false, .make "password" true false]
  name_nonempty := by decide
  names_nodup := by decide
  one_default := by decide

theorem rawPassword_ofJson :
    FieldDescriptor.ofJson rawPassword = .ok (.make "password" true false) := by
  decide +kernel

theorem rawAccount_ofJson : EntitySchema.ofJson rawAccount = .ok accountSchema := by
  decide +kernel

theorem rawAccount_marks_decide :
    (FieldDescriptor.ofJson rawPassword = .ok (.make "password" true false) ∧
        FieldDescriptor.ReadsMarks rawPassword (.make "password" true false)) ∧
      EntitySchema.ofJson rawAccount = .ok accountSchema ∧
        accountSchema.Exposes rawAccount :=
  ⟨⟨rawPassword_ofJson, (marks_decide rawPassword).1 _ rawPassword_ofJson⟩,
    rawAccount_ofJson, (marks_decide rawAccount).2 _ rawAccount_ofJson⟩

/-- Neither of its marks says so, and still the account can be ordered by the
password. -/
theorem rawPassword_exposed :
    FieldDescriptor.mark "orderable" rawPassword = .ok false ∧
      FieldDescriptor.mark "is_default_order" rawPassword = .ok false ∧
        FieldDescriptor.ofJson rawPassword = .ok (.make "password" true false) ∧
          EntitySchema.ofJson rawAccount = .ok accountSchema ∧
            accountSchema.resolve.map (·.fields) =
              .ok ["CreatedAt", "Email", "Password"] :=
  ⟨by decide +kernel, by decide +kernel, rawPassword_ofJson, rawAccount_ofJson,
    by decide +kernel⟩

end EntitySchema

end Folio
