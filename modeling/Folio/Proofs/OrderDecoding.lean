import Folio.Proofs.RefusedParameter

/-!
# Orders from wire forms

An enumeration keeps one member for each wire form, namely the first identifier that
has it.  Every identifier leads to the member with its wire form, and exactly the wire
forms of the members can be asked for.
-/

namespace Folio

namespace OrderEnum

variable {orders : OrderEnum}

/-! ## The first entry of each wire form -/

/-- An entry is a member exactly if no earlier one has its wire form. -/
theorem isMember_iff_of_split {earlier later : List OrderEntry} {entry : OrderEntry}
    (split : orders.entries = earlier ++ entry :: later) (fresh : entry ∉ earlier) :
    orders.isMember entry = true ↔ entry.wire ∉ earlier.map (·.wire) := by
  rw [isMember, beq_iff_eq, ofWire?, split, List.find?_append, List.mem_map]
  cases found : earlier.find? (·.wire == entry.wire) with
  | none =>
      have absent := List.find?_eq_none.mp found
      refine iff_of_true (by simp) ?_
      rintro ⟨other, present, same⟩
      exact absent other present (beq_iff_eq.mpr same)
  | some other =>
      have present := List.mem_of_find?_eq_some found
      have same : other.wire = entry.wire := by
        simpa using List.find?_some found
      rw [Option.some_or, Option.some.injEq]
      refine iff_of_false ?_ (not_not_intro ⟨other, present, same⟩)
      rintro rfl
      exact fresh present

theorem ofWire?_of_mem_members {member : OrderEntry} (present : member ∈ orders.members) :
    orders.ofWire? member.wire = some member :=
  beq_iff_eq.mp (List.mem_filter.mp present).2

theorem eq_of_mem_members {member other : OrderEntry} (present : member ∈ orders.members)
    (otherPresent : other ∈ orders.members) (same : other.wire = member.wire) :
    other = member := by
  have found := ofWire?_of_mem_members otherPresent
  rw [same, ofWire?_of_mem_members present] at found
  exact (Option.some.inj found).symm

/-- No wire form is offered twice. -/
theorem wires_nodup (fresh : orders.entries.Nodup) : orders.wires.Nodup := by
  apply List.Nodup.map_on _ (fresh.sublist List.filter_sublist)
  intro other otherPresent member present same
  exact eq_of_mem_members present otherPresent same

/-- What an enumeration makes of identifiers, of which the creation time is the
first. -/
structure Enumerates (orders : OrderEnum) (identifiers : List Text) : Prop where
  /-- The members stand in the order of the identifiers. -/
  ordered : orders.members.Sublist (identifiers.map OrderEntry.ofIdentifier)
  /-- An identifier is a member exactly if no earlier one has its wire form. -/
  first : ∀ earlier identifier later, identifiers = earlier ++ identifier :: later →
    (OrderEntry.ofIdentifier identifier ∈ orders.members ↔
      Identifier.camelize identifier ∉ earlier.map Identifier.camelize)
  opening : orders.members.head? =
    some { identifier := "CreatedAt", wire := "createdAt" }
  /-- Every identifier, and no other one, leads to the member with its wire form. -/
  named : ∀ identifier ∈ identifiers, ∃ member ∈ orders.members,
    orders.member? identifier = some member ∧
      member.wire = Identifier.camelize identifier
  unnamed : ∀ identifier, identifier ∉ identifiers → orders.member? identifier = none
  distinct : orders.wires.Nodup

section OfIdentifiers

variable {entity identifier : Text} {identifiers : List Text}

theorem mem_members_ofIdentifiers_iff (fresh : identifiers.Nodup)
    {earlier later : List Text} (split : identifiers = earlier ++ identifier :: later) :
    OrderEntry.ofIdentifier identifier ∈ (ofIdentifiers entity identifiers).members ↔
      Identifier.camelize identifier ∉ earlier.map Identifier.camelize := by
  have entries : (ofIdentifiers entity identifiers).entries =
      earlier.map OrderEntry.ofIdentifier ++
        OrderEntry.ofIdentifier identifier :: later.map OrderEntry.ofIdentifier := by
    rw [ofIdentifiers_entries, split, List.map_append, List.map_cons]
  have unseen : OrderEntry.ofIdentifier identifier ∉
      earlier.map OrderEntry.ofIdentifier := by
    have distinct := entries_nodup_ofIdentifiers entity fresh
    rw [entries, List.nodup_append] at distinct
    intro seen
    exact distinct.2.2 _ seen _ List.mem_cons_self rfl
  rw [members, List.mem_filter, isMember_iff_of_split entries unseen, List.map_map, entries]
  exact and_iff_right (List.mem_append_right _ List.mem_cons_self)

theorem head?_members_ofIdentifiers (later : List Text) :
    (ofIdentifiers entity (identifier :: later)).members.head? =
      some (OrderEntry.ofIdentifier identifier) := by
  have own : (ofIdentifiers entity (identifier :: later)).isMember
      (OrderEntry.ofIdentifier identifier) = true :=
    (isMember_iff_of_split (List.nil_append _).symm List.not_mem_nil).mpr List.not_mem_nil
  rw [members, ofIdentifiers_entries, List.map_cons, List.filter_cons_of_pos own,
    List.head?_cons]

theorem exists_member_ofIdentifiers (present : identifier ∈ identifiers) :
    ∃ member ∈ (ofIdentifiers entity identifiers).members,
      (ofIdentifiers entity identifiers).member? identifier = some member ∧
        member.wire = Identifier.camelize identifier := by
  obtain ⟨member, found⟩ := exists_member?_ofIdentifiers entity present
  refine ⟨member, mem_members_of_member? found, found, ?_⟩
  rw [member?, entry?_ofIdentifiers entity present, Option.bind_some] at found
  simpa [OrderEntry.ofIdentifier] using List.find?_some found

theorem member?_ofIdentifiers_of_notMem (absent : identifier ∉ identifiers) :
    (ofIdentifiers entity identifiers).member? identifier = none := by
  have unknown : OrderEnum.entry? (ofIdentifiers entity identifiers) identifier = none := by
    unfold entry?
    rw [ofIdentifiers_entries, List.find?_eq_none]
    intro entry present
    obtain ⟨other, otherPresent, rfl⟩ := List.mem_map.mp present
    rw [beq_iff_eq]
    rintro rfl
    exact absent otherPresent
  rw [member?, unknown, Option.bind_none]

theorem enumerates_ofIdentifiers (fresh : identifiers.Nodup)
    (opens : identifiers.head? = some Identifier.createdAt) (entity : Text) :
    (ofIdentifiers entity identifiers).Enumerates identifiers where
  ordered := by
    rw [← ofIdentifiers_entries entity]
    exact List.filter_sublist
  first := by
    intro earlier identifier later split
    exact mem_members_ofIdentifiers_iff fresh split
  opening := by
    have createdAt : OrderEntry.ofIdentifier Identifier.createdAt =
        { identifier := "CreatedAt", wire := "createdAt" } := by
      decide +kernel
    obtain ⟨later, rfl⟩ := List.head?_eq_some_iff.mp opens
    rw [head?_members_ofIdentifiers, createdAt]
  named := by
    intro identifier present
    exact exists_member_ofIdentifiers present
  unnamed := by
    intro identifier absent
    exact member?_ofIdentifiers_of_notMem absent
  distinct := wires_nodup (entries_nodup_ofIdentifiers entity fresh)

end OfIdentifiers

end OrderEnum

namespace RequestModel

variable {model : RequestModel} {orders : OrderEnum} {default : OrderEntry}

/-- How a model reads a query of nothing but an order. -/
structure DecodesOrders (model : RequestModel) (orders : OrderEnum) : Prop where
  offered : model.allowedOrders = orders.wires
  /-- Exactly the texts that are offered are accepted; a null leaves the order open. -/
  accepted : ∀ raw,
    (∃ request, PageRequest.decode model [("order", raw)] = .ok request) ↔
      raw = .null ∨ ∃ wire ∈ model.allowedOrders, raw = .str wire
  /-- A text stands for the only member with this wire form. -/
  chosen : ∀ wire request, PageRequest.decode model [("order", .str wire)] = .ok request →
    ∃ member, request.order = some (.member member) ∧ ∀ other,
      other ∈ orders.members ∧ other.wire = wire ↔ other = member
  /-- Without a text, the order is the default one. -/
  unchosen : ∀ request, PageRequest.decode model [("order", .null)] = .ok request →
    request.order = model.defaultOrder?.map .member

theorem exists_decode_order_iff (enumerated : model.orderRule = .among orders default)
    {raw : Json} :
    (∃ request, PageRequest.decode model [("order", raw)] = .ok request) ↔
      raw = .null ∨ ∃ wire ∈ orders.wires, raw = .str wire := by
  have judged : (∃ request, PageRequest.decode model [("order", raw)] = .ok request) ↔
      PageRequest.complaint? model raw .order = none :=
    @PageRequest.exists_decode_single_iff model .order raw
  rw [judged]
  cases raw with
  | null => simp [PageRequest.complaint?, Json.asOptional, PageRequest.refusal?]
  | str wire =>
      rw [PageRequest.complaint?_order_str enumerated, ← OrderEnum.mem_wires_iff]
      simp
  | _ =>
      simp [PageRequest.complaint?, Json.asOptional, PageRequest.asOrder, enumerated,
        PageRequest.refusal?, Except.map]

theorem decodesOrders (enumerated : model.orderRule = .among orders default) :
    model.DecodesOrders orders := by
  have offered : model.allowedOrders = orders.wires := by
    rw [allowedOrders, orders?, enumerated]
  constructor
  case offered => exact offered
  case accepted =>
    intro raw
    rw [offered]
    exact exists_decode_order_iff enumerated
  case chosen =>
    intro wire request accepted
    obtain ⟨listed, wired, same⟩ :=
      ((exists_decode_order_iff enumerated).mp ⟨request, accepted⟩).resolve_left nofun
    cases same
    obtain ⟨member, found⟩ :=
      OrderEnum.exists_ofWire?_iff.mpr (OrderEnum.mem_wires_iff.mp wired)
    have form : member.wire = wire := by
      simpa using List.find?_some found
    have present := OrderEnum.mem_members_of_ofWire? found
    rw [PageRequest.decode_wire enumerated found, Except.ok.injEq] at accepted
    refine ⟨member, by rw [← accepted]; rfl, ?_⟩
    intro other
    constructor
    · rintro ⟨otherPresent, otherForm⟩
      exact OrderEnum.eq_of_mem_members present otherPresent (otherForm.trans form.symm)
    · rintro rfl
      exact ⟨present, form⟩
  case unchosen =>
    intro request accepted
    obtain ⟨sameModel, -, -, -, -, ordered⟩ :=
      PageRequest.read_eq_ok_iff.mp (PageRequest.decode_eq_ok_iff.mp accepted)
    have left : request.order? = none := (Except.ok.inj ordered).symm
    rw [PageRequest.order, left, Option.none_or, sameModel]

/-- For resolved identifiers, the enumeration keeps the first identifier of each wire
form, and the model reads exactly the wire forms of these. -/
theorem exists_enumerates_decodesOrders {schema : EntitySchema} {fieldSet : FieldSet}
    {entity : Text} (resolved : schema.resolve = .ok fieldSet)
    (encodable : entity.isEncodable = true)
    (named : CodePoint.ofChar '\x00' ∉ entity.toList) (limits : PageLimits) :
    ∃ orders, OrderEnum.build entity fieldSet = .ok orders ∧
      orders.Enumerates fieldSet.fields ∧
        (schema.HasEncodableOrders →
          ∃ model, build entity fieldSet limits = .ok model ∧
            model.DecodesOrders orders ∧
              model.defaultOrder? = orders.member? fieldSet.default) := by
  have namable := Text.canNameType_iff.mpr ⟨encodable, named⟩
  refine ⟨_, OrderEnum.build_of_resolve resolved namable,
    OrderEnum.enumerates_ofIdentifiers fieldSet.fields_nodup fieldSet.starts_createdAt entity,
    ?_⟩
  intro described
  obtain ⟨default, found, built⟩ :=
    exists_build_of_resolve resolved described namable limits
  exact ⟨_, built, decodesOrders rfl, found.symm⟩

/-- The unit with two fields that look alike: the second one is another name of the
first. -/
theorem unitSchema_decodesOrders :
    unitSchema.resolve = .ok unitFieldSet ∧ unitSchema.HasEncodableOrders ∧
      ∃ orders model, OrderEnum.build "Unit" unitFieldSet = .ok orders ∧
        build "Unit" unitFieldSet .standard = .ok model ∧
          orders.Enumerates unitFieldSet.fields ∧ model.DecodesOrders orders ∧
            model.defaultOrder? = orders.member? unitFieldSet.default := by
  have resolved : unitSchema.resolve = .ok unitFieldSet := by
    decide +kernel
  have described : unitSchema.HasEncodableOrders := by
    decide
  have encodable : (Text.ofString "Unit").isEncodable = true := by
    decide
  have named : CodePoint.ofChar '\x00' ∉ (Text.ofString "Unit").toList := by
    decide
  obtain ⟨orders, enumerated, enumerates, modelled⟩ :=
    exists_enumerates_decodesOrders resolved encodable named .standard
  obtain ⟨model, built, decodes, defaulted⟩ := modelled described
  exact ⟨resolved, described, orders, model, enumerated, built, enumerates, decodes,
    defaulted⟩

/-- Half of a surrogate pair is no name of a type, although it is not the null
character. -/
theorem halvedName_unenumerated :
    bookSchema.resolve = .ok bookFieldSet ∧
      CodePoint.ofChar '\x00' ∉ (Text.ofList [.ofNat 0xd83d]).toList ∧
        OrderEnum.build (.ofList [.ofNat 0xd83d]) bookFieldSet = .error .unencodable := by
  have proper := FieldSet.isProper_of_resolve bookSchema_resolve
  refine ⟨bookSchema_resolve, by decide, ?_⟩
  rw [OrderEnum.build_of_isProper proper]
  rfl

end RequestModel

end Folio
