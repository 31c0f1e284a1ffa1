import Folio.PageRequest
import Folio.Proofs.Order

/-!
# What a query is read as

A query is accepted exactly if each of its parameters can be read.  A parameter
that is not there is absent from the request.
-/

namespace Folio

namespace PageRequest

variable {model : RequestModel} {source : Source} {query : Members}
  {request : PageRequest}

theorem read_eq_ok_iff :
    read model source = .ok request ↔
      request.model = model ∧
        readParameter source .page (Json.asNatural 1) = .ok request.page? ∧
        readParameter source .limit (Json.asNatural 0) = .ok request.limit? ∧
        readParameter source .search Json.asText = .ok request.search? ∧
        readParameter source .sort asDirection = .ok request.sort? ∧
        readParameter source .order (asOrder model) = .ok request.order? := by
  obtain ⟨ownModel, page?, limit?, search?, sort?, order?⟩ := request
  rw [read, map_eq_ok_iff]
  constructor
  · rintro ⟨⟨page, limit, search, sort, order⟩, parts, same⟩
    simp only [Checked.both_eq_ok_iff] at parts
    cases same
    exact ⟨rfl, parts⟩
  · rintro ⟨rfl, parts⟩
    refine ⟨(page?, limit?, search?, sort?, order?), ?_, rfl⟩
    simpa only [Checked.both_eq_ok_iff] using parts

/-- A query is accepted exactly if it can be read. -/
theorem decode_eq_ok_iff :
    decode model query = .ok request ↔ read model (ofQuery query) = .ok request := by
  unfold decode
  cases outcome : read model (ofQuery query) with
  | ok accepted => simp
  | error issues =>
      cases kind : Failure.ofIssues issues <;> simp [kind]

/-- The raw value of a parameter, unless it is left open: by a null or by nothing at
all. -/
def Source.given? (source : Source) (parameter : Parameter) : Option Json :=
  match source parameter with
  | none => none
  | some (_, .null) => none
  | some (_, raw) => some raw

section Parameters

variable {α : Type} {parameter : Parameter} {reading : Json → Except Complaint α}

theorem readParameter_eq_ok_iff {found : Option α} :
    readParameter source parameter reading = .ok found ↔
      match source.given? parameter with
      | none => found = none
      | some raw => ∃ value, reading raw = .ok value ∧ found = some value := by
  unfold readParameter Source.given?
  cases source parameter with
  | none => simp [eq_comm]
  | some entry =>
      obtain ⟨name, raw⟩ := entry
      have settled : ∀ outcome : Except Complaint α,
          Checked.ofMember name (outcome.map some) = .ok found ↔
            ∃ value, outcome = .ok value ∧ found = some value := by
        intro outcome
        cases outcome <;> simp [Checked.ofMember, Except.map, eq_comm]
      cases raw with
      | null => simp [Json.asOptional, Checked.ofMember, eq_comm]
      | _ => exact settled _

theorem readParameter_of_absent (absent : source parameter = none) :
    readParameter source parameter reading = .ok none := by
  rw [readParameter, absent]

/-- What a parameter is read as comes from a raw value. -/
theorem exists_of_readParameter_eq_some {value : α}
    (present : readParameter source parameter reading = .ok (some value)) :
    ∃ raw, reading raw = .ok value := by
  rw [readParameter_eq_ok_iff] at present
  split at present
  · cases present
  · rename_i raw _
    obtain ⟨found, accepted, same⟩ := present
    cases same
    exact ⟨raw, accepted⟩

theorem ofQuery_of_absent
    (absent : Members.find? parameter.wireName query = none) :
    ofQuery query parameter = none := by
  rw [ofQuery, absent, Option.map_none]

end Parameters

theorem one_le_page (accepted : read model source = .ok request) : 1 ≤ request.page := by
  obtain ⟨sameModel, paged, -⟩ := read_eq_ok_iff.mp accepted
  unfold page
  cases given : request.page? with
  | none => exact request.model.limits.defaultPage_pos
  | some number =>
      rw [given] at paged
      obtain ⟨raw, read⟩ := exists_of_readParameter_eq_some paged
      exact (Json.asNatural_eq_ok_iff.mp read).2

/-! ## The order -/

section Order

variable {orders : OrderEnum} {default : OrderEntry}

theorem asOrder_wire (enumerated : model.orderRule = .among orders default)
    {wire : Text} {member : OrderEntry} (found : orders.ofWire? wire = some member) :
    asOrder model (.str wire) = .ok (.member member) := by
  simp [asOrder, enumerated, found]

theorem asOrder_eq_ok (enumerated : model.orderRule = .among orders default)
    {raw : Json} {choice : OrderChoice} (accepted : asOrder model raw = .ok choice) :
    ∃ member ∈ orders.members, choice = .member member := by
  unfold asOrder at accepted
  rw [enumerated] at accepted
  cases raw with
  | str wire =>
      dsimp only at accepted
      cases found : orders.ofWire? wire with
      | none => simp [found] at accepted
      | some entry =>
          refine ⟨entry, OrderEnum.mem_members_of_ofWire? found, ?_⟩
          simpa [found, eq_comm] using accepted
  | _ => cases accepted

theorem exists_orderMember? (enumerated : model.orderRule = .among orders default)
    (defaultMember : default ∈ orders.members)
    (accepted : read model source = .ok request) :
    ∃ member ∈ orders.members, request.orderMember? = some member := by
  obtain ⟨sameModel, -, -, -, -, ordered⟩ := read_eq_ok_iff.mp accepted
  unfold orderMember? order
  cases chosen : request.order? with
  | none =>
      refine ⟨default, defaultMember, ?_⟩
      simp [sameModel, RequestModel.defaultOrder?, enumerated]
  | some choice =>
      rw [chosen] at ordered
      obtain ⟨raw, read⟩ := exists_of_readParameter_eq_some ordered
      obtain ⟨member, present, rfl⟩ := asOrder_eq_ok enumerated read
      exact ⟨member, present, rfl⟩

/-- A query of nothing but an order is accepted when that is the wire form of a
member. -/
theorem decode_wire (enumerated : model.orderRule = .among orders default)
    {wire : Text} {member : OrderEntry} (found : orders.ofWire? wire = some member) :
    decode model [("order", .str wire)] =
      .ok { model, page? := none, limit? := none, search? := none, sort? := none,
            order? := some (.member member) } := by
  rw [decode_eq_ok_iff, read_eq_ok_iff]
  refine ⟨rfl, rfl, rfl, rfl, rfl, ?_⟩
  simp [readParameter, ofQuery, Members.find?, Parameter.wireName, Json.asOptional,
    asOrder_wire enumerated found, Except.map, Checked.ofMember]

theorem decode_nil :
    decode model [] =
      .ok { model, page? := none, limit? := none, search? := none, sort? := none,
            order? := none } := by
  rw [decode_eq_ok_iff, read_eq_ok_iff]
  exact ⟨rfl, rfl, rfl, rfl, rfl, rfl⟩

/-- An accepted query without an order asks for the default. -/
theorem orderMember?_of_unordered
    (enumerated : model.orderRule = .among orders default)
    (accepted : decode model query = .ok request)
    (unordered : Members.find? "order" query = none) :
    request.orderMember? = some default := by
  obtain ⟨sameModel, -, -, -, -, ordered⟩ :=
    read_eq_ok_iff.mp (decode_eq_ok_iff.mp accepted)
  have absent : ofQuery query .order = none := ofQuery_of_absent unordered
  rw [readParameter_of_absent absent, Except.ok.injEq] at ordered
  simp [orderMember?, order, ← ordered, sameModel, RequestModel.defaultOrder?,
    enumerated]

end Order

/-! ## Other pages -/

/-- The request for the page with this number, and otherwise the same. -/
def atPage (request : PageRequest) (number : Nat) : PageRequest :=
  { request with page? := some number }

/-- The source of the page with this number, and otherwise the same. -/
def Source.atPage (source : Source) (number : Nat) : Source := fun parameter =>
  if parameter = .page then some ("page", .ofNat number) else source parameter

theorem asNatural_ofNat {minimum number : Nat} (allowed : minimum ≤ number) :
    Json.asNatural minimum (.ofNat number) = .ok number :=
  Json.asNatural_eq_ok_iff.mpr ⟨rfl, allowed⟩

/-- Asking for another page changes nothing but the page. -/
theorem read_atPage (accepted : read model source = .ok request) {number : Nat}
    (positive : 1 ≤ number) :
    read model (source.atPage number) = .ok (request.atPage number) := by
  obtain ⟨sameModel, -, limit, search, sort, order⟩ := read_eq_ok_iff.mp accepted
  rw [read_eq_ok_iff]
  refine ⟨sameModel, ?_, limit, search, sort, order⟩
  have numbered : source.atPage number .page =
      some (Parameter.page.wireName, .ofNat number) := rfl
  rw [readParameter, numbered]
  dsimp only
  rw [Json.ofNat, Json.asOptional, ← Json.ofNat, asNatural_ofNat positive]
  · rfl
  · nofun

end PageRequest

end Folio
