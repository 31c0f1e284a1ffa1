import Folio.Proofs.Contract
import Folio.Proofs.PageRequest
import Folio.Proofs.Settings

/-!
# The bounds of page requests

Every accepted request asks for a page from the first on, for no more items than the
settings allow, and for the items after those of the earlier pages.  What a client
gives is taken as the integer that it spells, and what it leaves open is taken from
the settings.
-/

namespace Folio

namespace RequestModel

/-- Models of requests whose limits are these: with an enumeration of their own or
with one that is there already. -/
inductive IsBuiltWith (limits : PageLimits) : RequestModel → Prop
  | build {entity : Text} {fieldSet : FieldSet} {model : RequestModel} :
      RequestModel.build entity fieldSet limits = .ok model → IsBuiltWith limits model
  | ofOrders {entity default : Text} {orders : OrderEnum} {model : RequestModel} :
      RequestModel.ofOrders entity orders default limits = .ok model →
        IsBuiltWith limits model

theorem limits_of_ofOrders {entity default : Text} {orders : OrderEnum}
    {limits : PageLimits} {model : RequestModel}
    (built : ofOrders entity orders default limits = .ok model) :
    model.limits = limits := by
  obtain ⟨-, -, member, -, same⟩ := ofOrders_eq_ok_iff.mp built
  rw [same]

theorem IsBuiltWith.limits_eq {limits : PageLimits} {model : RequestModel}
    (built : IsBuiltWith limits model) : model.limits = limits := by
  cases built with
  | build built =>
      obtain ⟨orders, -, built⟩ := bind_eq_ok_iff.mp built
      exact limits_of_ofOrders built
  | ofOrders built => exact limits_of_ofOrders built

end RequestModel

namespace PageRequest

variable {model : RequestModel} {limits : PageLimits} {source : Source}
  {request : PageRequest}

/-- What the numbers of a request are. -/
structure IsBounded (limits : PageLimits) (source : Source) (request : PageRequest) :
    Prop where
  /-- Pages are counted from one. -/
  first : 1 ≤ request.page
  /-- There is a page for every integer that is given, and a default page. -/
  pageGiven : ∀ raw, source.given? .page = some raw →
    raw.asInteger = .ok (request.page : Int)
  pageOpen : source.given? .page = none → request.page = limits.defaultPage
  /-- No request exceeds the bound. -/
  capped : request.limit ≤ limits.maxLimit
  /-- An integer that is given is not negative, and it is cut off at the bound. -/
  limitGiven : ∀ raw, source.given? .limit = some raw → ∃ number : Nat,
    raw.asInteger = .ok (number : Int) ∧ request.limit = min number limits.maxLimit
  /-- The default is not cut off. -/
  limitOpen : source.given? .limit = none → request.limit = limits.defaultLimit
  /-- The items of the earlier pages are passed over; their number is not negative. -/
  offset : (request.offset : Int) = ((request.page : Int) - 1) * (request.limit : Int)

theorem isBounded_of_read (limited : model.limits = limits)
    (accepted : read model source = .ok request) : request.IsBounded limits source := by
  have first := one_le_page accepted
  obtain ⟨sameModel, paged, limitPart, -⟩ := read_eq_ok_iff.mp accepted
  have sameLimits : request.model.limits = limits := by
    rw [sameModel, limited]
  rw [readParameter_eq_ok_iff] at paged limitPart
  constructor
  case first => exact first
  case pageGiven =>
    intro raw given
    rw [given] at paged
    obtain ⟨number, spelled, found⟩ := paged
    rw [page, found, Option.getD_some]
    exact (Json.asNatural_eq_ok_iff.mp spelled).1
  case pageOpen =>
    intro nothing
    rw [nothing] at paged
    rw [page, paged, Option.getD_none, sameLimits]
  case capped =>
    rw [limit, sameLimits]
    exact Nat.min_le_right _ _
  case limitGiven =>
    intro raw given
    rw [given] at limitPart
    obtain ⟨number, spelled, found⟩ := limitPart
    refine ⟨number, (Json.asNatural_eq_ok_iff.mp spelled).1, ?_⟩
    rw [limit, found, Option.getD_some, sameLimits]
  case limitOpen =>
    intro nothing
    rw [nothing] at limitPart
    rw [limit, limitPart, Option.getD_none, sameLimits]
    exact Nat.min_eq_left limits.default_le_max
  case offset =>
    rw [PageRequest.offset, Int.natCast_mul, Int.natCast_sub first]
    rfl

end PageRequest

/-- All requests of a model, from queries and from keywords, keep within limits. -/
structure RequestModel.IsBounded (limits : PageLimits) (model : RequestModel) : Prop where
  decoded : ∀ query request, PageRequest.decode model query = .ok request →
    request.IsBounded limits (PageRequest.ofQuery query)
  constructed : ∀ keywords request, PageRequest.construct model keywords = .ok request →
    request.IsBounded limits (PageRequest.ofKeywords keywords)

theorem RequestModel.isBounded_of_limits {model : RequestModel} {limits : PageLimits}
    (limited : model.limits = limits) : model.IsBounded limits where
  decoded := by
    intro query request accepted
    exact PageRequest.isBounded_of_read limited (PageRequest.decode_eq_ok_iff.mp accepted)
  constructed := by
    intro keywords request accepted
    exact PageRequest.isBounded_of_read limited accepted

namespace Settings

/-- Whatever settings are loaded, they have the limits that are asked for, and every
model that is built with them keeps within these limits.  The plain model keeps within
the standard ones. -/
theorem bounds_of_load {environment : Environment} {keywords : Members}
    {settings : Settings} (loaded : load environment keywords = .ok settings) :
    Configures environment keywords settings.limits ∧
      (∀ model, RequestModel.IsBuiltWith settings.limits model →
        model.IsBounded settings.limits) ∧
        RequestModel.plain.IsBounded .standard := by
  refine ⟨configures_of_load loaded, ?_, RequestModel.isBounded_of_limits rfl⟩
  intro model built
  exact RequestModel.isBounded_of_limits built.limits_eq

/-- A variable lowers the bound, and a request for more is cut off there. -/
theorem loweredBound_bounds :
    ∃ settings model request,
      load [("PAGING_MAX_LIMIT", "50")] [("default_limit", .int 20)] = .ok settings ∧
        RequestModel.build "Book" bookFieldSet settings.limits = .ok model ∧
        PageRequest.decode model [("limit", .int 5000)] = .ok request ∧
        request.IsBounded settings.limits (PageRequest.ofQuery [("limit", .int 5000)]) ∧
        request.limit = 50 := by
  obtain ⟨settings, loaded, bound⟩ : ∃ settings : Settings,
      load [("PAGING_MAX_LIMIT", "50")] [("default_limit", .int 20)] = .ok settings ∧
        settings.limits.maxLimit = 50 := by
    have known : (load [("PAGING_MAX_LIMIT", "50")]
        [("default_limit", .int 20)]).toOption.map (·.limits.maxLimit) = some 50 := by
      decide +kernel
    cases outcome : load [("PAGING_MAX_LIMIT", "50")] [("default_limit", .int 20)] with
    | error failure =>
        rw [outcome] at known
        cases known
    | ok settings =>
        rw [outcome] at known
        exact ⟨settings, rfl, Option.some.inj known⟩
  have encodable : bookSchema.HasEncodableOrders := by
    decide
  have named : (Text.ofString "Book").canNameType = true := by
    decide
  obtain ⟨model, built⟩ : ∃ model,
      RequestModel.build "Book" bookFieldSet settings.limits = .ok model := by
    obtain ⟨default, -, built⟩ :=
      RequestModel.exists_build_of_resolve bookSchema_resolve encodable named
        settings.limits
    exact ⟨_, built⟩
  have offered := RequestModel.IsBuiltWith.build built
  obtain ⟨-, bounded, -⟩ := bounds_of_load loaded
  have accepted : PageRequest.decode model [("limit", .int 5000)] = .ok
      { model, page? := none, limit? := some 5000, search? := none, sort? := none,
        order? := none } := by
    rw [PageRequest.decode_eq_ok_iff, PageRequest.read_eq_ok_iff]
    exact ⟨rfl, rfl, rfl, rfl, rfl, rfl⟩
  refine ⟨settings, model, _, loaded, built, accepted,
    (bounded model offered).decoded _ _ accepted, ?_⟩
  rw [PageRequest.limit, offered.limits_eq, bound]
  rfl

end Settings

end Folio
