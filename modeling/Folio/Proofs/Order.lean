import Folio.Order
import Folio.Proofs.Resolution
import Mathlib.Data.List.Nodup

/-!
# Enumerations of proper identifiers

An enumeration takes proper identifiers as they are: it refuses none, passes over
none, and every one of them is an entry.  Each entry is a member of its own
exactly if no two identifiers look alike.
-/

namespace Folio

theorem SortDirection.exists_ofWire?_iff {text : Text} :
    (∃ direction, ofWire? text = some direction) ↔ text ∈ all.map (·.wire) := by
  rw [← Option.isSome_iff_exists, ofWire?, List.find?_isSome, List.mem_map]
  simp only [beq_iff_eq]

namespace OrderEntry

variable {identifier : Text}

theorem not_isPrefixOf_of_unseparated (fence : List CodePoint)
    {characters : List CodePoint} (unseparated : Identifier.separator ∉ characters) :
    (Identifier.separator :: fence).isPrefixOf characters = false := by
  cases characters with
  | nil => rfl
  | cons first later =>
      have different : Identifier.separator ≠ first := by
        rintro rfl
        exact unseparated List.mem_cons_self
      simp [List.isPrefixOf, different]

theorem not_isFenced_of_isProper (proper : Identifier.IsProper identifier)
    (width : Nat) :
    isFenced (width + 1) identifier.toList = false := by
  have unfenced := not_isPrefixOf_of_unseparated (List.replicate width Identifier.separator)
    proper.unseparated
  simp [isFenced, List.replicate_succ, unfenced]

theorem not_isPrivate_of_isProper (proper : Identifier.IsProper identifier)
    (enumName : Text) :
    isPrivate enumName identifier = false := by
  have unfenced := not_isPrefixOf_of_unseparated
    (enumName.toList ++ [Identifier.separator, Identifier.separator])
    proper.unseparated
  simp [isPrivate, unfenced]

private theorem separator_mem_of_special :
    ∀ text ∈ Text.ofString "__slots__" :: (reserved ++ essential),
      Identifier.separator ∈ text.toList := by
  decide +kernel

private theorem not_special_of_isProper (proper : Identifier.IsProper identifier) :
    identifier ∉ Text.ofString "__slots__" :: (reserved ++ essential) :=
  fun special => proper.unseparated (separator_mem_of_special identifier special)

private theorem not_isCapital_m : ¬ Text.IsCapital 'm' := by
  unfold Text.IsCapital
  decide +kernel

theorem not_isForbidden_of_isProper (proper : Identifier.IsProper identifier)
    (enumName : Text) :
    isForbidden enumName identifier = false := by
  have ordinary := not_special_of_isProper proper
  have notMro : identifier ≠ "mro" := by
    rintro rfl
    exact not_isCapital_m (proper.capital 'm' (by decide))
  have notSlots : identifier ≠ "__slots__" := by
    rintro rfl
    exact ordinary List.mem_cons_self
  simp [isForbidden, proper.nonempty, notMro, notSlots,
    not_isFenced_of_isProper proper 0]

theorem not_isSkipped_of_isProper (proper : Identifier.IsProper identifier)
    (enumName : Text) :
    isSkipped enumName identifier = false := by
  have ordinary := not_special_of_isProper proper
  simp only [List.mem_cons, List.mem_append, not_or] at ordinary
  simp [isSkipped, not_isPrivate_of_isProper proper,
    not_isFenced_of_isProper proper 1, ordinary.2.1]

theorem not_isEssential_of_isProper (proper : Identifier.IsProper identifier) :
    essential.contains identifier = false := by
  have ordinary := not_special_of_isProper proper
  simp only [List.mem_cons, List.mem_append, not_or] at ordinary
  simpa using ordinary.2.2

end OrderEntry

namespace OrderEnum

def ofIdentifiers (entity : Text) (identifiers : List Text) : OrderEnum where
  name := nameFor entity
  entries := identifiers.map OrderEntry.ofIdentifier
  asides := []

/-- Proper identifiers are enumerated wherever a type can be named. -/
theorem build_of_isProper {fieldSet : FieldSet}
    (proper : ∀ identifier ∈ fieldSet.fields, Identifier.IsProper identifier)
    (entity : Text) :
    build entity fieldSet =
      entity.checkTypeName.map fun _ => ofIdentifiers entity fieldSet.fields := by
  have allowed : fieldSet.fields.any
      (OrderEntry.isForbidden (nameFor entity)) = false := by
    rw [List.any_eq_false]
    intro identifier member
    simp [OrderEntry.not_isForbidden_of_isProper (proper identifier member)]
  have ordinary : fieldSet.fields.any OrderEntry.essential.contains = false := by
    rw [List.any_eq_false]
    intro identifier member
    simpa using OrderEntry.not_isEssential_of_isProper (proper identifier member)
  have whole : fieldSet.fields.partition
      (OrderEntry.isSkipped (nameFor entity)) = ([], fieldSet.fields) := by
    rw [List.partition_eq_filter_filter, Prod.mk.injEq, List.filter_eq_nil_iff,
      List.filter_eq_self]
    constructor
    · intro identifier member
      simp [OrderEntry.not_isSkipped_of_isProper (proper identifier member)]
    · intro identifier member
      simp [OrderEntry.not_isSkipped_of_isProper (proper identifier member)]
  unfold build
  simp only [allowed, ordinary, Bool.false_eq_true, ↓reduceIte, whole, List.map_nil]
  cases entity.checkTypeName <;> rfl

theorem build_eq_ok_of_isProper {fieldSet : FieldSet}
    (proper : ∀ identifier ∈ fieldSet.fields, Identifier.IsProper identifier)
    {entity : Text} (namable : entity.canNameType = true) :
    build entity fieldSet = .ok (ofIdentifiers entity fieldSet.fields) := by
  rw [build_of_isProper proper, Text.checkTypeName_eq_ok_iff.mpr namable]
  rfl

/-! ## Members and other names -/

section Members

variable {orders : OrderEnum}

/-- Every entry is a member exactly if no wire form occurs twice. -/
theorem forall_isMember_iff (fresh : orders.entries.Nodup) :
    (∀ entry ∈ orders.entries, orders.isMember entry = true) ↔
      orders.entryWires.Nodup := by
  simp only [isMember, beq_iff_eq]
  constructor
  · intro own
    apply List.Nodup.map_on _ fresh
    intro left leftMember right rightMember same
    have found := own left leftMember
    rw [same, own right rightMember] at found
    exact (Option.some.inj found).symm
  · intro distinct entry entryMember
    exact find?_eq_some_of_nodup distinct entryMember

theorem mem_members_of_ofWire? {wire : Text} {entry : OrderEntry}
    (found : orders.ofWire? wire = some entry) : entry ∈ orders.members := by
  have same : entry.wire = wire := by
    simpa using List.find?_some found
  apply List.mem_filter.mpr
  refine ⟨List.mem_of_find?_eq_some found, ?_⟩
  rw [isMember, same, found]
  exact beq_self_eq_true _

theorem mem_members_of_member? {identifier : Text} {entry : OrderEntry}
    (found : orders.member? identifier = some entry) : entry ∈ orders.members := by
  obtain ⟨named, -, wired⟩ := Option.bind_eq_some_iff.mp found
  exact mem_members_of_ofWire? wired

theorem exists_ofWire?_iff {wire : Text} :
    (∃ entry, orders.ofWire? wire = some entry) ↔ wire ∈ orders.entryWires := by
  rw [← Option.isSome_iff_exists, ofWire?, List.find?_isSome, entryWires, List.mem_map]
  simp only [beq_iff_eq]

theorem members_eq_entries_iff :
    orders.members = orders.entries ↔
      ∀ entry ∈ orders.entries, orders.isMember entry = true :=
  List.filter_eq_self

/-- The members have the wire forms of all entries exactly if none occurs
twice. -/
theorem wires_eq_entryWires_iff (fresh : orders.entries.Nodup) :
    orders.wires = orders.entryWires ↔ orders.entryWires.Nodup := by
  rw [← forall_isMember_iff fresh, ← members_eq_entries_iff]
  constructor
  · intro same
    have lengths := congrArg List.length same
    rw [wires, entryWires, List.length_map, List.length_map] at lengths
    exact List.filter_sublist.eq_of_length lengths
  · intro same
    rw [wires, same, entryWires]

theorem mem_wires_iff {wire : Text} :
    wire ∈ orders.wires ↔ wire ∈ orders.entryWires := by
  constructor
  · intro allowed
    obtain ⟨member, present, same⟩ := List.mem_map.mp allowed
    exact List.mem_map.mpr ⟨member, (List.mem_filter.mp present).1, same⟩
  · intro listed
    obtain ⟨member, found⟩ := exists_ofWire?_iff.mpr listed
    have same : member.wire = wire := by
      simpa using List.find?_some found
    exact List.mem_map.mpr ⟨member, mem_members_of_ofWire? found, same⟩

/-- An entry that is no member is another name of one. -/
theorem aliases_eq_nil_iff :
    orders.aliases = [] ↔
      ∀ entry ∈ orders.entries, orders.isMember entry = true := by
  rw [aliases, List.filterMap_eq_nil_iff]
  constructor
  · intro unaliased entry entryMember
    by_contra other
    have missing := unaliased entry entryMember
    rw [if_neg other, Option.map_eq_none_iff] at missing
    have absent := List.find?_eq_none.mp missing entry entryMember
    exact absent (beq_self_eq_true entry.wire)
  · intro own entry entryMember
    rw [if_pos (own entry entryMember)]

end Members

section OfIdentifiers

variable (entity : Text) {identifiers : List Text} {identifier : Text}

@[simp] theorem ofIdentifiers_entries :
    (ofIdentifiers entity identifiers).entries =
      identifiers.map OrderEntry.ofIdentifier := rfl

@[simp] theorem ofIdentifiers_entryWires :
    (ofIdentifiers entity identifiers).entryWires =
      identifiers.map Identifier.camelize := by
  simp [entryWires, OrderEntry.ofIdentifier, Function.comp_def]

theorem entry?_ofIdentifiers (member : identifier ∈ identifiers) :
    OrderEnum.entry? (ofIdentifiers entity identifiers) identifier =
      some (OrderEntry.ofIdentifier identifier) := by
  have present : (identifiers.find? (· == identifier)).isSome := by
    rw [List.find?_isSome]
    exact ⟨identifier, member, beq_self_eq_true identifier⟩
  obtain ⟨found, same⟩ := Option.isSome_iff_exists.mp present
  obtain rfl : found = identifier := by
    simpa using List.find?_some same
  unfold entry?
  simp [List.find?_map, Function.comp_def, OrderEntry.ofIdentifier, same]

/-- Every identifier names a member: that of its own, or the one with its wire
form. -/
theorem exists_member?_ofIdentifiers (member : identifier ∈ identifiers) :
    ∃ entry, (ofIdentifiers entity identifiers).member? identifier = some entry := by
  rw [member?, entry?_ofIdentifiers entity member, Option.bind_some,
    exists_ofWire?_iff, ofIdentifiers_entryWires]
  exact List.mem_map_of_mem member

theorem entries_nodup_ofIdentifiers (fresh : identifiers.Nodup) :
    (ofIdentifiers entity identifiers).entries.Nodup := by
  apply List.Nodup.map _ fresh
  intro left right same
  exact congrArg OrderEntry.identifier same

theorem isMember_ofIdentifiers
    (distinct : (identifiers.map Identifier.camelize).Nodup) :
    ∀ entry ∈ (ofIdentifiers entity identifiers).entries,
      (ofIdentifiers entity identifiers).isMember entry = true := by
  apply (forall_isMember_iff _).mpr
  · rwa [ofIdentifiers_entryWires]
  · exact entries_nodup_ofIdentifiers entity (List.Nodup.of_map _ distinct)

/-- Where wire forms differ, the wire form of an identifier leads to it. -/
theorem ofWire?_ofIdentifiers
    (distinct : (identifiers.map Identifier.camelize).Nodup)
    (member : identifier ∈ identifiers) :
    (ofIdentifiers entity identifiers).ofWire? (Identifier.camelize identifier) =
      some (OrderEntry.ofIdentifier identifier) := by
  have own := isMember_ofIdentifiers entity distinct
    (OrderEntry.ofIdentifier identifier)
    (by simpa using List.mem_map_of_mem member)
  simpa [isMember, OrderEntry.ofIdentifier] using own

theorem member?_ofIdentifiers
    (distinct : (identifiers.map Identifier.camelize).Nodup)
    (member : identifier ∈ identifiers) :
    (ofIdentifiers entity identifiers).member? identifier =
      some (OrderEntry.ofIdentifier identifier) := by
  rw [member?, entry?_ofIdentifiers entity member]
  exact ofWire?_ofIdentifiers entity distinct member

theorem wires_ofIdentifiers
    (distinct : (identifiers.map Identifier.camelize).Nodup) :
    (ofIdentifiers entity identifiers).wires =
      identifiers.map Identifier.camelize := by
  rw [wires, members_eq_entries_iff.mpr (isMember_ofIdentifiers entity distinct)]
  exact ofIdentifiers_entryWires entity

end OfIdentifiers

/-! ## Members of their own -/

/-- Every one of the identifiers names a member of its own. -/
structure Separates (orders : OrderEnum) (identifiers : List Text) : Prop where
  own : ∀ identifier ∈ identifiers,
    orders.member? identifier = some (OrderEntry.ofIdentifier identifier)
  as_many : orders.members.length = identifiers.length
  unaliased : orders.aliases = []

theorem separates_ofIdentifiers_iff {entity : Text} {identifiers : List Text}
    (fresh : identifiers.Nodup) :
    (ofIdentifiers entity identifiers).Separates identifiers ↔
      (identifiers.map Identifier.camelize).Nodup := by
  constructor
  · intro separates
    rw [← ofIdentifiers_entryWires entity,
      ← forall_isMember_iff (entries_nodup_ofIdentifiers entity fresh)]
    exact aliases_eq_nil_iff.mp separates.unaliased
  · intro distinct
    have every := isMember_ofIdentifiers entity distinct
    refine ⟨?_, ?_, aliases_eq_nil_iff.mpr every⟩
    · intro identifier member
      exact member?_ofIdentifiers entity distinct member
    · rw [members_eq_entries_iff.mpr every, ofIdentifiers_entries, List.length_map]

end OrderEnum

namespace FieldSet

variable {schema : EntitySchema} {fieldSet : FieldSet}

/-- The wire forms of resolved identifiers differ exactly if no two of the
identifiers look alike. -/
theorem nodup_wires_iff (resolved : schema.resolve = .ok fieldSet) :
    (fieldSet.fields.map Identifier.camelize).Nodup ↔
      fieldSet.fields.Pairwise fun first second =>
        ¬ Identifier.LookAlike first second := by
  have proper := isProper_of_resolve resolved
  rw [List.Nodup, List.pairwise_map]
  constructor
  · intro distinct
    apply distinct.imp
    intro first second different alike
    exact different alike.camelize_eq
  · intro apart
    apply (apart.and fieldSet.fields_nodup).imp_of_mem
    intro first second firstMember secondMember together same
    rcases (Identifier.camelize_eq_iff (proper first firstMember)
      (proper second secondMember)).mp same with equal | alike
    · exact together.2 equal
    · exact together.1 alike

/-- Every identifier of a resolved schema is a member of its own exactly if no
two of the identifiers look alike and the enumeration can be named. -/
theorem orders_separate_iff (resolved : schema.resolve = .ok fieldSet)
    (entity : Text) :
    ((fieldSet.fields.map Identifier.camelize).Nodup ↔
      fieldSet.fields.Pairwise fun first second =>
        ¬ Identifier.LookAlike first second) ∧
    ((∃ orders, OrderEnum.build entity fieldSet = .ok orders ∧
        orders.Separates fieldSet.fields) ↔
      entity.canNameType = true ∧
        fieldSet.fields.Pairwise fun first second =>
          ¬ Identifier.LookAlike first second) := by
  refine ⟨nodup_wires_iff resolved, ?_⟩
  rw [OrderEnum.build_of_isProper (isProper_of_resolve resolved),
    ← nodup_wires_iff resolved, ← Text.checkTypeName_eq_ok_iff]
  cases entity.checkTypeName with
  | error failure => simp [Except.map]
  | ok done =>
      simp [Except.map, OrderEnum.separates_ofIdentifiers_iff fieldSet.fields_nodup]

end FieldSet

def bookSchema : EntitySchema where
  name := "Book"
  fields := [.make "title" true false, .make "subtitle" true true]
  name_nonempty := by decide
  names_nodup := by decide
  one_default := by decide

def bookFieldSet : FieldSet where
  fields := ["CreatedAt", "Title", "Subtitle"]
  default := "Subtitle"
  starts_createdAt := rfl
  fields_nodup := by decide
  default_mem := by decide

theorem bookSchema_resolve : bookSchema.resolve = .ok bookFieldSet := by
  decide +kernel

theorem bookSchema_orders_separate :
    ∃ orders, OrderEnum.build "Book" bookFieldSet = .ok orders ∧
      orders.Separates ["CreatedAt", "Title", "Subtitle"] := by
  have exactly := FieldSet.orders_separate_iff bookSchema_resolve "Book"
  apply exactly.2.mpr
  refine ⟨by decide, exactly.1.mp ?_⟩
  decide +kernel

/-- A unit with two fields whose identifiers look alike: the letter K and the
sign of the kelvin. -/
def unitSchema : EntitySchema where
  name := "Unit"
  fields := [.make "k" true false, .make "\u212a" true false]
  name_nonempty := by decide
  names_nodup := by decide
  one_default := by decide

def unitFieldSet : FieldSet where
  fields := ["CreatedAt", "K", "\u212a"]
  default := "K"
  starts_createdAt := rfl
  fields_nodup := by decide
  default_mem := by decide

/-- The second field of the unit has the wire form of the first one, and no
member of its own. -/
theorem unitSchema_loses_order :
    unitSchema.resolve = .ok unitFieldSet ∧
      unitFieldSet.fields.map Identifier.camelize = ["createdAt", "k", "k"] ∧
      ∃ orders, OrderEnum.build "Unit" unitFieldSet = .ok orders ∧
        orders.members.length = 2 ∧
        orders.aliases = [(⟨"\u212a", "k"⟩, ⟨"K", "k"⟩)] ∧
        ¬ orders.Separates unitFieldSet.fields := by
  have resolved : unitSchema.resolve = .ok unitFieldSet := by
    decide +kernel
  refine ⟨resolved, by decide +kernel,
    OrderEnum.ofIdentifiers "Unit" unitFieldSet.fields, ?_, by decide +kernel,
    by decide +kernel, ?_⟩
  · exact OrderEnum.build_eq_ok_of_isProper
      (FieldSet.isProper_of_resolve resolved) (by decide)
  · intro separates
    exact absurd separates.as_many (by decide +kernel)

end Folio
