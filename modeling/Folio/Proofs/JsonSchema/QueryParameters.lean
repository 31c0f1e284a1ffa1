import Folio.JsonSchema.QueryParameters
import Folio.Proofs.JsonSchema.DefinitionKey
import Folio.Proofs.JsonSchema.Reference
import Folio.Proofs.RefusedParameter

/-!
# Documents of query parameters

The documented query parameters are those that requests are read from: the choices
and minima in their schemas are what is accepted.
-/

namespace Folio.JsonSchema

/-! ## Parts of documents -/

def isNamed (name : Text) (entry : Json) : Bool :=
  match entry.member? "name" with
  | some (.str text) => text == name
  | _ => false

/-- The schema that is documented for a parameter. -/
def documentedSchema (entries : List Json) (parameter : Parameter) : Json :=
  ((entries.find? (isNamed parameter.wireName)).bind (·.member? "schema")).getD .null

def alternatives (schema : Json) : List Json :=
  match schema.member? "anyOf" with
  | some (.arr options) => options
  | _ => []

def texts : Json → List Text
  | .arr items => items.filterMap fun
      | .str text => some text
      | _ => none
  | _ => []

/-- The texts that the alternatives of a schema enumerate. -/
def enumerated (schema : Json) : List Text :=
  (alternatives schema).flatMap fun option =>
    ((option.member? "enum").map texts).getD []

/-- The minima that the alternatives of a schema name. -/
def minima (schema : Json) : List Int :=
  (alternatives schema).filterMap fun option =>
    match option.member? "minimum" with
    | some (.int minimum) => some minimum
    | _ => none

/-- The entries document the query parameters of requests that this model reads. -/
structure Documents (model : RequestModel) (entries : List Json) : Prop where
  /-- Each parameter has one entry, in the order of the parameters. -/
  named : entries.map (·.member? "name") =
    Parameter.all.map fun parameter => some (.str parameter.wireName)
  /-- All are optional parameters of the query. -/
  optional : ∀ entry ∈ entries,
    entry.member? "in" = some (.str "query") ∧
      entry.member? "required" = some (.bool false)
  /-- No reference is left. -/
  closed : areClosed entries = true
  /-- The enumerated orders are the accepted ones. -/
  ordered : ∀ text, text ∈ enumerated (documentedSchema entries .order) ↔
    ∃ request, PageRequest.decode model [("order", .str text)] = .ok request
  /-- They are the allowed ones, whatever their order and number. -/
  allowed : ∀ text, text ∈ enumerated (documentedSchema entries .order) ↔
    text ∈ model.allowedOrders
  /-- The enumerated directions are the accepted ones. -/
  sorted : ∀ text, text ∈ enumerated (documentedSchema entries .sort) ↔
    ∃ request, PageRequest.decode model [("sort", .str text)] = .ok request
  /-- Pages are accepted from the documented minimum on. -/
  paged : ∃ minimum, minima (documentedSchema entries .page) = [minimum] ∧
    ∀ number : Int,
      (∃ request, PageRequest.decode model [("page", .int number)] = .ok request) ↔
        minimum ≤ number
  /-- So are limits. -/
  limited : ∃ minimum, minima (documentedSchema entries .limit) = [minimum] ∧
    ∀ number : Int,
      (∃ request, PageRequest.decode model [("limit", .int number)] = .ok request) ↔
        minimum ≤ number

/-! ## Documents without references -/

theorem isClosed_of_find? {members : Members} (closed : areClosedMembers members = true)
    {name : Text} {value : Json} (found : Members.find? name members = some value) :
    isClosed value = true := by
  induction members with
  | nil => cases found
  | cons member later inductionHypothesis =>
      obtain ⟨key, present⟩ := member
      rw [areClosedMembers, Bool.and_eq_true] at closed
      rw [Members.find?] at found
      split at found
      · cases found
        exact closed.1
      · exact inductionHypothesis closed.2 found

theorem isClosed_of_member? {object : Json} (closed : isClosed object = true)
    {name : Text} {value : Json} (found : object.member? name = some value) :
    isClosed value = true := by
  cases object with
  | obj members =>
      rw [isClosed, Bool.and_eq_true] at closed
      exact isClosed_of_find? closed.2 found
  | _ => cases found

theorem isClosed_parameterEntry (parameter : Parameter) {property : Json}
    (closed : isClosed property = true) :
    isClosed (parameterEntry parameter property) = true := by
  have described : ∀ text, property.member? "description" = some text →
      isClosed text = true := fun text => isClosed_of_member? closed
  have exemplified : ∀ first later,
      property.member? "examples" = some (.arr (first :: later)) →
        isClosed first = true := by
    intro first later found
    have examples := isClosed_of_member? closed found
    rw [isClosed, areClosed, Bool.and_eq_true] at examples
    exact examples.1
  unfold parameterEntry
  cases found : property.member? "description" with
  | none =>
      split
      · rename_i first later sampled
        simp [isClosed, areClosedMembers, referenceName?, Members.find?,
          Members.optional, closed,
          exemplified first later sampled]
      · simp [isClosed, areClosedMembers, referenceName?, Members.find?,
          Members.optional, closed]
  | some text =>
      split
      · rename_i first later sampled
        simp [isClosed, areClosedMembers, referenceName?, Members.find?,
          Members.optional, closed,
          described text found, exemplified first later sampled]
      · simp [isClosed, areClosedMembers, referenceName?, Members.find?,
          Members.optional, closed, described text found]

/-! ## Inlined properties -/

section Inlining

variable {definitions available : Members} {key : Text} {target : Json}

theorem inlineValue_reference_eq_ok (unslashed : CodePoint.ofChar '/' ∉ key.toList)
    (found : Members.find? key available = some target)
    (closed : isClosed target = true) :
    inlineValue definitions available (reference key) = .ok target := by
  have refers : referenceName? [("$ref", .str (referenceHead ++ key))] = some key := by
    have head : (referenceHead ++ key).startsWith referenceHead = true := by
      rw [Text.startsWith, List.isPrefixOf_iff_prefix, Text.toList_append]
      exact List.prefix_append _ _
    rw [referenceName?, Members.find?, if_pos rfl]
    dsimp only
    rw [if_pos head, lastSegment_reference unslashed]
  rw [reference, inlineValue_reference refers found]
  exact (inlineValue_of_isClosed definitions).1 _ target closed

/-- The definition takes the place of the reference to it. -/
theorem inlineReferences_requestProperty (unslashed : CodePoint.ofChar '/' ∉ key.toList)
    (found : Members.find? key definitions = some target)
    (closed : isClosed target = true) (description : Text) :
    inlineReferences definitions
        (requestProperty (orNull (reference key)) description []) =
      .ok (requestProperty (orNull target) description []) := by
  have replaced : inlineValue definitions definitions (reference key) = .ok target :=
    inlineValue_reference_eq_ok unslashed found closed
  obtain ⟨-, itemsKept, membersKept⟩ := inlineValue_of_isClosed definitions
  apply (inlineValue_obj_eq_ok_iff rfl).mpr
  refine ⟨_, inlineMembers_cons_eq_ok_iff.mpr ⟨orNull target, _, ?_,
    membersKept definitions _ rfl, rfl⟩, rfl⟩
  apply inlineValue_arr_eq_ok_iff.mpr
  exact ⟨_, inlineItems_cons_eq_ok_iff.mpr ⟨target, _, replaced,
    itemsKept definitions _ rfl, rfl⟩, rfl⟩

theorem isClosed_enumeration (title : Text) (description? : Option Text)
    (values : List Text) : isClosed (enumeration title description? values) = true := by
  have listed : areClosed (values.map .str) = true := by
    apply areClosed_iff.mpr
    intro item present
    obtain ⟨text, -, rfl⟩ := List.mem_map.mp present
    rfl
  cases description? <;>
    simp [enumeration, isClosed, areClosedMembers, referenceName?, Members.find?,
      Members.optional, listed]

end Inlining

theorem parameterOf?_of_inlined {definitions properties : Members}
    {parameter : Parameter} {property inlined : Json}
    (found : Members.find? parameter.wireName properties = some property)
    (inlines : inlineReferences definitions property = .ok inlined) :
    parameterOf? definitions properties parameter =
      .ok (some (parameterEntry parameter inlined)) := by
  rw [parameterOf?, found]
  dsimp only
  rw [inlines]
  rfl

section Properties

variable {orders : OrderEnum} {default : OrderEntry}

/-- The schema of a parameter, with the enumerations in their places. -/
def inlinedProperty (orders : OrderEnum) (default : OrderEntry) : Parameter → Json
  | .sort => requestProperty (orNull directions) "Sort direction" []
  | .order =>
      requestProperty
        (orNull (enumeration orders.name orders.description? orders.entryWires))
        ("Field to order by (default: " ++ default.wire ++ ")") []
  | parameter =>
      (Members.find? parameter.wireName
        (requestProperties (.among orders default))).getD .null

theorem isClosed_inlinedProperty (parameter : Parameter) :
    isClosed (inlinedProperty orders default parameter) = true := by
  cases parameter with
  | order =>
      have listed := isClosed_enumeration orders.name orders.description?
        orders.entryWires
      simp [inlinedProperty, requestProperty, orNull, isClosed, areClosedMembers,
        areClosed, referenceName?, Members.find?, listed, typed]
  | _ => rfl

theorem parameterOf?_eq_ok (distinct : ordersKey orders ≠ Text.ofString "SortDirection")
    (parameter : Parameter) :
    parameterOf? (requestDefinitions (.among orders default))
        (requestProperties (.among orders default)) parameter =
      .ok (some (parameterEntry parameter (inlinedProperty orders default parameter))) := by
  obtain ⟨kept, -, -⟩ :=
    inlineValue_of_isClosed (requestDefinitions (.among orders default))
  cases parameter with
  | page => exact parameterOf?_of_inlined rfl (kept _ _ rfl)
  | limit => exact parameterOf?_of_inlined rfl (kept _ _ rfl)
  | search => exact parameterOf?_of_inlined rfl (kept _ _ rfl)
  | sort =>
      apply parameterOf?_of_inlined rfl
      apply inlineReferences_requestProperty (by decide) _ rfl
      rw [requestDefinitions, Members.find?, if_neg distinct]
      rfl
  | order =>
      apply parameterOf?_of_inlined rfl
      apply inlineReferences_requestProperty (slash_notMem_definitionKey _ _) _
        (isClosed_enumeration _ _ _)
      exact if_pos rfl

/-- The entries of all parameters, in their order. -/
def inlinedEntries (orders : OrderEnum) (default : OrderEntry) : List Json :=
  Parameter.all.map fun parameter =>
    parameterEntry parameter (inlinedProperty orders default parameter)

theorem queryParameters_eq_ok {model : RequestModel}
    (rule : model.orderRule = .among orders default)
    (distinct : ordersKey orders ≠ Text.ofString "SortDirection") :
    queryParameters model = .ok (inlinedEntries orders default) := by
  obtain ⟨name, limits, orderRule⟩ := model
  obtain rfl : orderRule = .among orders default := rule
  have entries : parameterOf? (requestDefinitions (.among orders default))
      (requestProperties (.among orders default)) =
        fun parameter => pure (some (parameterEntry parameter
          (inlinedProperty orders default parameter))) :=
    funext (parameterOf?_eq_ok distinct)
  have definitions : membersOf "$defs"
      (ofRequestModel { name, limits, orderRule := .among orders default }) =
        requestDefinitions (.among orders default) := rfl
  have properties : membersOf "properties"
      (ofRequestModel { name, limits, orderRule := .among orders default }) =
        requestProperties (.among orders default) := rfl
  unfold queryParameters parametersOf
  dsimp only
  rw [definitions, properties, entries, List.mapM_pure]
  rfl

theorem texts_map (values : List Text) : texts (.arr (values.map .str)) = values := by
  rw [texts, List.filterMap_map]
  exact List.filterMap_some

theorem texts_enumeration (title : Text) (description? : Option Text)
    (values : List Text) :
    ((enumeration title description? values).member? "enum").map texts =
      some values := by
  have listed : (enumeration title description? values).member? "enum" =
      some (.arr (values.map .str)) := by
    cases description? <;> rfl
  rw [listed, Option.map_some, texts_map]

/-- All entries are enumerated, also those that are another name of a member. -/
theorem enumerated_order :
    enumerated (documentedSchema (inlinedEntries orders default) .order) =
      orders.entryWires := by
  have alternatives : alternatives
      (documentedSchema (inlinedEntries orders default) .order) =
        [enumeration orders.name orders.description? orders.entryWires,
          typed "null"] := rfl
  rw [enumerated, alternatives, List.flatMap_cons, texts_enumeration]
  exact List.append_nil _

theorem enumerated_sort :
    enumerated (documentedSchema (inlinedEntries orders default) .sort) =
      SortDirection.all.map (·.wire) := rfl

theorem documents_inlinedEntries {model : RequestModel}
    (rule : model.orderRule = .among orders default) :
    Documents model (inlinedEntries orders default) := by
  constructor
  case named => rfl
  case optional =>
    intro entry present
    obtain ⟨parameter, -, rfl⟩ := List.mem_map.mp present
    exact ⟨rfl, rfl⟩
  case closed =>
    apply areClosed_iff.mpr
    intro entry present
    obtain ⟨parameter, -, rfl⟩ := List.mem_map.mp present
    exact isClosed_parameterEntry parameter (isClosed_inlinedProperty parameter)
  case ordered =>
    intro text
    rw [enumerated_order, ← PageRequest.complaint?_order_str rule]
    exact PageRequest.exists_decode_single_iff.symm
  case allowed =>
    intro text
    rw [enumerated_order, RequestModel.allowedOrders, RequestModel.orders?, rule]
    exact OrderEnum.mem_wires_iff.symm
  case sorted =>
    intro text
    rw [enumerated_sort]
    exact PageRequest.complaint?_sort_str.symm.trans
      PageRequest.exists_decode_single_iff.symm
  case paged =>
    refine ⟨1, rfl, ?_⟩
    intro number
    exact PageRequest.exists_decode_single_iff.trans PageRequest.complaint?_page_int
  case limited =>
    refine ⟨0, rfl, ?_⟩
    intro number
    exact PageRequest.exists_decode_single_iff.trans PageRequest.complaint?_limit_int

end Properties

end Folio.JsonSchema

namespace Folio.RequestModel

open JsonSchema

variable {schema : EntitySchema} {fieldSet : FieldSet} {entity : Text}

/-- The key of an enumeration of orders is not that of the directions. -/
theorem ordersKey_ofIdentifiers_ne (entity : Text) (identifiers : List Text) :
    ordersKey (.ofIdentifiers entity identifiers) ≠ "SortDirection" := by
  have ends : (OrderEnum.nameFor entity).toList =
      entity.toList ++ (Text.ofString "PaginationOrder").toList := by
    rw [OrderEnum.nameFor, Text.toList_append]
  have plain : ∀ character ∈ (Text.ofString "PaginationOrder").toList,
      IsPlain character :=
    List.forall_iff_forall_mem.mp (by decide)
  -- Even what the name ends with is longer than the key of the directions.
  obtain ⟨kept, found⟩ := definitionKey_append "request_generator" ends plain
  intro same
  have longer := congrArg (fun key => key.toList.length) same
  have key : ordersKey (.ofIdentifiers entity identifiers) =
      definitionKey "request_generator" (OrderEnum.nameFor entity) := rfl
  simp only [key, found, List.length_append] at longer
  have shorter : (Text.ofString "SortDirection").toList.length <
      (Text.ofString "PaginationOrder").toList.length := by
    decide
  omega

/-- The documents of a generated model agree with what it reads.  Exactly where
two identifiers look alike, an order is enumerated twice that is allowed once. -/
theorem exists_documents_of_resolve (resolved : schema.resolve = .ok fieldSet)
    (encodable : schema.HasEncodableOrders) (named : entity.canNameType = true)
    (limits : PageLimits) :
    ∃ model entries, build entity fieldSet limits = .ok model ∧
      queryParameters model = .ok entries ∧ Documents model entries ∧
        (enumerated (documentedSchema entries .order) = model.allowedOrders ↔
          fieldSet.fields.Pairwise fun first second =>
            ¬ Identifier.LookAlike first second) := by
  obtain ⟨default, -, built⟩ :=
    RequestModel.exists_build_of_resolve resolved encodable named limits
  refine ⟨_, inlinedEntries (.ofIdentifiers entity fieldSet.fields) default, built,
    queryParameters_eq_ok rfl (ordersKey_ofIdentifiers_ne entity fieldSet.fields),
    documents_inlinedEntries rfl, ?_⟩
  have fresh := OrderEnum.entries_nodup_ofIdentifiers entity fieldSet.fields_nodup
  rw [enumerated_order, allowedOrders, orders?, eq_comm,
    OrderEnum.wires_eq_entryWires_iff fresh, OrderEnum.ofIdentifiers_entryWires]
  exact FieldSet.nodup_wires_iff resolved

theorem bookSchema_documents :
    bookSchema.resolve = .ok bookFieldSet ∧ bookSchema.HasEncodableOrders ∧
      ∃ model entries, build "Book" bookFieldSet .standard = .ok model ∧
        queryParameters model = .ok entries ∧ Documents model entries ∧
          (enumerated (documentedSchema entries .order) = model.allowedOrders ↔
            bookFieldSet.fields.Pairwise fun first second =>
              ¬ Identifier.LookAlike first second) := by
  have encodable : bookSchema.HasEncodableOrders := by
    decide
  have named : (Text.ofString "Book").canNameType = true := by
    decide
  exact ⟨bookSchema_resolve, encodable,
    exists_documents_of_resolve bookSchema_resolve encodable named .standard⟩

/-- For the unit with two fields that look alike one order is enumerated twice, but
allowed once. -/
theorem unitSchema_enumerates_twice :
    unitSchema.resolve = .ok unitFieldSet ∧
      ∃ model entries, build "Unit" unitFieldSet .standard = .ok model ∧
        queryParameters model = .ok entries ∧
          enumerated (documentedSchema entries .order) = ["createdAt", "k", "k"] ∧
            model.allowedOrders = ["createdAt", "k"] := by
  have resolved : unitSchema.resolve = .ok unitFieldSet := by
    decide +kernel
  have encodable : unitSchema.HasEncodableOrders := by
    decide
  have named : (Text.ofString "Unit").canNameType = true := by
    decide
  obtain ⟨default, -, built⟩ :=
    RequestModel.exists_build_of_resolve resolved encodable named .standard
  have allowed : (OrderEnum.ofIdentifiers "Unit" unitFieldSet.fields).wires =
      ["createdAt", "k"] := by
    decide +kernel
  refine ⟨resolved, _, _, built,
    queryParameters_eq_ok rfl (ordersKey_ofIdentifiers_ne _ _), ?_, allowed⟩
  rw [enumerated_order]
  decide +kernel

end Folio.RequestModel
