import Folio.Proofs.Contract
import Folio.Proofs.PageRequest

/-!
# Refused parameters

A query is refused because of its parameters, each of which is looked at by
itself.  The fault of a query has one message for each parameter that is refused
and says nothing about the others.
-/

namespace Folio

/-! ## Issues of checks -/

namespace Checked

variable {α β : Type}

def issues : Checked α → List Issue
  | .ok _ => []
  | .error issues => issues

@[simp] theorem issues_ok (value : α) : issues (.ok value) = [] := rfl

@[simp] theorem issues_error (found : List Issue) :
    issues (.error found : Checked α) = found := rfl

@[simp] theorem issues_both (first : Checked α) (second : Checked β) :
    issues (both first second) = issues first ++ issues second := by
  cases first <;> cases second <;> simp [both]

@[simp] theorem isOk_both (first : Checked α) (second : Checked β) :
    (both first second).isOk = (first.isOk && second.isOk) := by
  cases first <;> cases second <;> rfl

@[simp] theorem issues_map (check : Checked α) (convert : α → β) :
    issues (check.map convert) = issues check := by
  cases check <;> rfl

@[simp] theorem isOk_map (check : Checked α) (convert : α → β) :
    (check.map convert).isOk = check.isOk := by
  cases check <;> rfl

theorem isOk_iff_exists (check : Checked α) :
    check.isOk = true ↔ ∃ value, check = .ok value := by
  cases check <;> simp [Except.isOk, Except.toBool]

end Checked

theorem ParameterErrors.add_of_not_mem {parameter message : Text}
    {errors : ParameterErrors} (absent : parameter ∉ errors.map (·.1)) :
    errors.add parameter message = errors ++ [(parameter, [message])] := by
  induction errors with
  | nil => rfl
  | cons entry later inductionHypothesis =>
      rw [List.map_cons, List.mem_cons, not_or] at absent
      rw [add, if_neg (Ne.symm absent.1), inductionHypothesis absent.2, List.cons_append]

namespace PageRequest

variable {model : RequestModel} {source : Source} {query : Members}
  {request : PageRequest} {parameter : Parameter}

/-! ## Complaints about parameters -/

/-- The complaint about a value that is not accepted. -/
def refusal? {α : Type} : Except Complaint α → Option Complaint
  | .ok _ => none
  | .error complaint => some complaint

/-- What is wrong with the raw value of a parameter. -/
def complaint? (model : RequestModel) (raw : Json) : Parameter → Option Complaint
  | .page => refusal? (Json.asOptional (Json.asNatural 1) raw)
  | .limit => refusal? (Json.asOptional (Json.asNatural 0) raw)
  | .search => refusal? (Json.asOptional Json.asText raw)
  | .sort => refusal? (Json.asOptional asDirection raw)
  | .order => refusal? (Json.asOptional (asOrder model) raw)

/-- What is wrong with a parameter, if it is given. -/
def issue? (model : RequestModel) (source : Source) (parameter : Parameter) :
    Option Issue :=
  (source parameter).bind fun (name, raw) =>
    (complaint? model raw parameter).map fun complaint =>
      { place := [.member name], complaint }

section Reading

variable {α : Type} (reading : Json → Except Complaint α)

theorem issues_readParameter :
    Checked.issues (readParameter source parameter reading) =
      ((source parameter).bind fun (name, raw) =>
        (refusal? (Json.asOptional reading raw)).map fun complaint =>
          { place := [.member name], complaint }).toList := by
  unfold readParameter
  cases source parameter with
  | none => rfl
  | some given =>
      obtain ⟨name, raw⟩ := given
      cases outcome : Json.asOptional reading raw <;>
        simp [outcome, Checked.ofMember, refusal?]

theorem isOk_readParameter :
    (readParameter source parameter reading).isOk =
      (Checked.issues (readParameter source parameter reading)).isEmpty := by
  unfold readParameter
  cases source parameter with
  | none => rfl
  | some given =>
      obtain ⟨name, raw⟩ := given
      cases outcome : Json.asOptional reading raw <;>
        simp [outcome, Checked.ofMember, Except.isOk, Except.toBool]

end Reading

/-- The issues with a request are those with its parameters, in their order. -/
theorem issues_read (model : RequestModel) (source : Source) :
    Checked.issues (read model source) = Parameter.all.filterMap (issue? model source) := by
  rw [List.filterMap_eq_flatMap_toList]
  simp only [read, Checked.issues_map, Checked.issues_both, issues_readParameter]
  simp [Parameter.all, issue?, complaint?]

theorem isOk_read (model : RequestModel) (source : Source) :
    (read model source).isOk = (Checked.issues (read model source)).isEmpty := by
  simp only [read, Checked.isOk_map, Checked.isOk_both, Checked.issues_map,
    Checked.issues_both, isOk_readParameter]
  apply Bool.eq_iff_iff.mpr
  simp

/-- A request is accepted exactly if nothing is wrong with any parameter. -/
theorem exists_read_iff :
    (∃ request, read model source = .ok request) ↔
      ∀ parameter, issue? model source parameter = none := by
  rw [← Checked.isOk_iff_exists, isOk_read, issues_read, List.isEmpty_iff,
    List.filterMap_eq_nil_iff]
  constructor
  · intro flawless parameter
    exact flawless parameter (Parameter.mem_all parameter)
  · intro flawless parameter _
    exact flawless parameter

/-! ## Single parameters -/

theorem exists_decode_iff :
    (∃ request, decode model query = .ok request) ↔
      ∀ parameter, issue? model (ofQuery query) parameter = none := by
  simp only [decode_eq_ok_iff]
  exact exists_read_iff

theorem wireName_injective : Function.Injective Parameter.wireName := by
  intro left right same
  have found := congrArg Parameter.ofWireName? same
  rw [Parameter.ofWireName?_wireName, Parameter.ofWireName?_wireName] at found
  exact Option.some.inj found

/-- A parameter alone is accepted exactly if nothing is wrong with its value. -/
theorem exists_decode_single_iff {raw : Json} :
    (∃ request, decode model [(parameter.wireName, raw)] = .ok request) ↔
      complaint? model raw parameter = none := by
  rw [exists_decode_iff]
  constructor
  · intro flawless
    have own := flawless parameter
    rw [issue?, ofQuery, Members.find?, if_pos rfl, Option.map_some, Option.bind_some,
      Option.map_eq_none_iff] at own
    exact own
  · intro accepted other
    rw [issue?, ofQuery, Members.find?]
    split
    · rename_i same
      obtain rfl := wireName_injective same
      simp [accepted]
    · rfl

theorem refusal?_asNatural_int {minimum : Nat} {value : Int} :
    refusal? (Json.asOptional (Json.asNatural minimum) (.int value)) = none ↔
      (minimum : Int) ≤ value := by
  have bounded : refusal? (Json.asOptional (Json.asNatural minimum) (.int value)) =
      if value < minimum then some (.belowMinimum minimum) else none := by
    simp only [Json.asOptional, Json.asNatural, Json.asInteger]
    split <;> rfl
  rw [bounded, ← Int.not_lt]
  split <;> simp_all

theorem complaint?_page_int {value : Int} :
    complaint? model (.int value) .page = none ↔ 1 ≤ value :=
  refusal?_asNatural_int

theorem complaint?_limit_int {value : Int} :
    complaint? model (.int value) .limit = none ↔ 0 ≤ value :=
  refusal?_asNatural_int

theorem complaint?_sort_str {text : Text} :
    complaint? model (.str text) .sort = none ↔
      text ∈ SortDirection.all.map (·.wire) := by
  rw [← SortDirection.exists_ofWire?_iff]
  simp only [complaint?, Json.asOptional, asDirection]
  cases SortDirection.ofWire? text <;> simp [refusal?, Except.map]

/-- A text is accepted for an order exactly if it is the wire form of an entry. -/
theorem complaint?_order_str {orders : OrderEnum} {default : OrderEntry}
    (enumerated : model.orderRule = .among orders default) {text : Text} :
    complaint? model (.str text) .order = none ↔ text ∈ orders.entryWires := by
  rw [← OrderEnum.exists_ofWire?_iff]
  simp only [complaint?, Json.asOptional, asOrder, enumerated]
  cases orders.ofWire? text <;> simp [refusal?, Except.map]

/-- The parameter is given, and its value is not accepted even alone. -/
def Refuses (model : RequestModel) (query : Members) (parameter : Parameter) : Prop :=
  ∃ raw, Members.find? parameter.wireName query = some raw ∧
    ¬ ∃ request, decode model [(parameter.wireName, raw)] = .ok request

theorem refuses_iff :
    Refuses model query parameter ↔
      (issue? model (ofQuery query) parameter).isSome = true := by
  unfold Refuses issue? ofQuery
  simp only [exists_decode_single_iff]
  cases Members.find? parameter.wireName query with
  | none => simp
  | some raw => simp [Option.ne_none_iff_isSome]

/-! ## The fault of a query -/

section Plain

variable {raw : Json} {complaint : Complaint}

theorem ofComplaint?_of_asInteger (refused : Json.asInteger raw = .error complaint) :
    Failure.ofComplaint? complaint = none := by
  unfold Json.asInteger Json.readCharacters Json.integerOfText Json.integerOfReal at refused
  grind [Failure.ofComplaint?]

theorem ofComplaint?_of_asNatural {minimum : Nat}
    (refused : Json.asNatural minimum raw = .error complaint) :
    Failure.ofComplaint? complaint = none := by
  unfold Json.asNatural at refused
  cases found : Json.asInteger raw with
  | ok integer => grind [Failure.ofComplaint?]
  | error other =>
      rw [found] at refused
      cases refused
      exact ofComplaint?_of_asInteger found

theorem ofComplaint?_of_asText (refused : Json.asText raw = .error complaint) :
    Failure.ofComplaint? complaint = none := by
  unfold Json.asText at refused
  grind [Failure.ofComplaint?]

theorem ofComplaint?_of_asDirection (refused : asDirection raw = .error complaint) :
    Failure.ofComplaint? complaint = none := by
  unfold asDirection at refused
  grind [Failure.ofComplaint?]

theorem ofComplaint?_of_asOrder (refused : asOrder model raw = .error complaint) :
    Failure.ofComplaint? complaint = none := by
  unfold asOrder at refused
  grind [Failure.ofComplaint?, noMember]

theorem refusal?_asOptional_eq_some {α : Type} {reading : Json → Except Complaint α}
    (refused : refusal? (Json.asOptional reading raw) = some complaint) :
    reading raw = .error complaint := by
  unfold Json.asOptional at refused
  split at refused
  · cases refused
  · cases found : reading raw with
    | ok value => simp [found, refusal?, Except.map] at refused
    | error other => simpa [found, refusal?, Except.map] using refused

/-- A complaint about a parameter is a matter of validity. -/
theorem ofComplaint?_of_complaint? {parameter : Parameter}
    (refused : complaint? model raw parameter = some complaint) :
    Failure.ofComplaint? complaint = none := by
  cases parameter with
  | page => exact ofComplaint?_of_asNatural (refusal?_asOptional_eq_some refused)
  | limit => exact ofComplaint?_of_asNatural (refusal?_asOptional_eq_some refused)
  | search => exact ofComplaint?_of_asText (refusal?_asOptional_eq_some refused)
  | sort => exact ofComplaint?_of_asDirection (refusal?_asOptional_eq_some refused)
  | order => exact ofComplaint?_of_asOrder (refusal?_asOptional_eq_some refused)

end Plain

theorem issue?_ofQuery_eq_some_iff {issue : Issue} :
    issue? model (ofQuery query) parameter = some issue ↔
      ∃ raw complaint, Members.find? parameter.wireName query = some raw ∧
        complaint? model raw parameter = some complaint ∧
          issue = { place := [.member parameter.wireName], complaint } := by
  unfold issue? ofQuery
  cases Members.find? parameter.wireName query with
  | none => simp
  | some raw =>
      cases refused : complaint? model raw parameter <;> simp [refused, eq_comm]

/-- The parameters of a query that are refused, in their order. -/
def refusedParameters (model : RequestModel) (query : Members) : List Parameter :=
  Parameter.all.filter fun parameter =>
    (issue? model (ofQuery query) parameter).isSome

theorem mem_refusedParameters_iff :
    parameter ∈ refusedParameters model query ↔ Refuses model query parameter := by
  rw [refusedParameters, List.mem_filter, refuses_iff]
  exact and_iff_right (Parameter.mem_all parameter)

/-- The message for a refused parameter of a query. -/
def refusalMessage (model : RequestModel) (query : Members) (parameter : Parameter) :
    Text :=
  parameter.message model.allowedOrders
    ((Members.find? parameter.wireName query).getD .null)

/-- One message for each parameter that is refused. -/
def refusals (model : RequestModel) (query : Members) : ParameterErrors :=
  (refusedParameters model query).map fun parameter =>
    (parameter.wireName, [refusalMessage model query parameter])

theorem mem_refusals_iff {name : Text} :
    name ∈ (refusals model query).map (·.1) ↔
      ∃ parameter, parameter.wireName = name ∧ Refuses model query parameter := by
  simp only [refusals, List.map_map, List.mem_map, Function.comp_apply,
    mem_refusedParameters_iff, and_comm]

theorem refusedParameters_nodup : (refusedParameters model query).Nodup :=
  List.Nodup.filter _ (by decide)

theorem refusals_nodup : ((refusals model query).map (·.1)).Nodup := by
  rw [refusals, List.map_map]
  exact refusedParameters_nodup.map wireName_injective

theorem queryErrors_of_read (model : RequestModel) (query : Members) :
    (Checked.issues (read model (ofQuery query))).filterMap (queryError model query) =
      (refusedParameters model query).map fun parameter =>
        (parameter, refusalMessage model query parameter) := by
  rw [issues_read, List.filterMap_filterMap, refusedParameters,
    ← List.filterMap_eq_map, List.filterMap_filter]
  apply List.filterMap_congr
  intro parameter _
  cases found : issue? model (ofQuery query) parameter with
  | none => rfl
  | some issue =>
      obtain ⟨raw, complaint, present, -, rfl⟩ := issue?_ofQuery_eq_some_iff.mp found
      simp [queryError, refusalMessage]

/-- Messages about different parameters stay apart when they are put together. -/
theorem foldl_add_of_nodup {messageOf : Parameter → Text}
    {parameters : List Parameter} (distinct : parameters.Nodup) {errors : ParameterErrors}
    (fresh : ∀ parameter ∈ parameters, parameter.wireName ∉ errors.map (·.1)) :
    parameters.foldl (fun errors parameter =>
        ParameterErrors.add parameter.wireName (messageOf parameter) errors) errors =
      errors ++ parameters.map fun parameter =>
        (parameter.wireName, [messageOf parameter]) := by
  induction parameters generalizing errors with
  | nil => simp
  | cons parameter later inductionHypothesis =>
      rw [List.nodup_cons] at distinct
      rw [List.forall_mem_cons] at fresh
      obtain ⟨new, laterNew⟩ := fresh
      rw [List.foldl_cons, ParameterErrors.add_of_not_mem new,
        inductionHypothesis distinct.2, List.append_assoc, List.map_cons,
        List.singleton_append]
      intro other present named
      rw [List.map_append, List.mem_append, List.map_singleton,
        List.mem_singleton] at named
      rcases named with earlier | same
      · exact laterNew other present earlier
      · exact distinct.1 (wireName_injective same ▸ present)

/-- The fault of the refused parameters of a query.  It is that of an unknown
order as soon as the order is among them. -/
def refusalFault (model : RequestModel) (query : Members) : Fault :=
  if .order ∈ refusedParameters model query then
    .unknownOrder (refusals model query) model.allowedOrders
  else .malformed (refusals model query)

theorem refusalFault_parameterErrors? (model : RequestModel) (query : Members) :
    (refusalFault model query).parameterErrors? = some (refusals model query) := by
  unfold refusalFault
  split <;> rfl

theorem queryFault_of_read {issues : List Issue}
    (refused : read model (ofQuery query) = .error issues) :
    queryFault model query issues = refusalFault model query := by
  have found := queryErrors_of_read model query
  rw [refused, Checked.issues_error] at found
  have grouped : ((issues.filterMap (queryError model query)).foldl
      (fun errors found => ParameterErrors.add found.1.wireName found.2 errors) []) =
        refusals model query := by
    rw [found, List.foldl_map]
    exact foldl_add_of_nodup refusedParameters_nodup (by simp)
  have ordered : Parameter.order.wireName ∈ (refusals model query).map (·.1) ↔
      .order ∈ refusedParameters model query := by
    simp [mem_refusals_iff, mem_refusedParameters_iff, wireName_injective.eq_iff]
  simp only [queryFault, grouped, ordered, refusalFault]

/-- What goes wrong with a query is the fault of its refused parameters. -/
theorem eq_refusalFault_of_decode {failure : Failure}
    (failed : decode model query = .error failure) :
    failure = .fault (refusalFault model query) := by
  unfold decode at failed
  cases outcome : read model (ofQuery query) with
  | ok request => simp [outcome] at failed
  | error issues =>
      have valid : ∀ issue ∈ issues, Failure.ofComplaint? issue.complaint = none := by
        intro issue present
        rw [← Checked.issues_error (α := PageRequest) issues, ← outcome, issues_read,
          List.mem_filterMap] at present
        obtain ⟨parameter, -, found⟩ := present
        obtain ⟨raw, complaint, -, refused, rfl⟩ := issue?_ofQuery_eq_some_iff.mp found
        exact ofComplaint?_of_complaint? refused
      have invalid : Failure.ofIssues issues = .invalid issues := by
        rw [Failure.ofIssues, List.findSome?_eq_none_iff.mpr valid, Option.getD_none]
      rw [outcome] at failed
      dsimp only at failed
      rw [invalid] at failed
      rw [← Except.error.inj failed, queryFault_of_read outcome]

end PageRequest

end Folio
