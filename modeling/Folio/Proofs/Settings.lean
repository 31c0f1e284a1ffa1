import Folio.Settings

/-!
# What settings are loaded as

The numbers among loaded settings are the integers that keywords and variables spell,
or else the standard ones.  Every number that is out of its range is refused.
-/

namespace Folio

/-! ## Numbers -/

namespace Settings

theorem asPositive_eq_ok_iff {raw : Json} {number : { number : Nat // 1 ≤ number }} :
    asPositive raw = .ok number ↔ raw.asInteger = .ok (number.1 : Int) := by
  obtain ⟨number, positive⟩ := number
  unfold asPositive
  cases raw.asInteger with
  | error complaint => simp
  | ok integer =>
      by_cases atLeast : 1 ≤ integer
      · simp [atLeast]
        omega
      · simp [atLeast]
        omega

end Settings

/-! ## Members -/

namespace Members

theorem defaulted_eq_ok_iff {α : Type} {name : Text} {fallback found : α}
    {reading : Json → Except Complaint α} {members : Members} :
    defaulted name fallback reading members = .ok found ↔
      match find? name members with
      | none => found = fallback
      | some raw => reading raw = .ok found := by
  unfold defaulted
  cases find? name members with
  | none => simp [eq_comm]
  | some raw =>
      cases outcome : reading raw <;> simp [outcome, Checked.ofMember]

section Gathered

variable {α : Type} {key : α → Text} {items : List α} {value? : α → Option Json}

/-- Nothing is found under a name if all that is gathered under it has no value. -/
theorem find?_filterMap_eq_none {name : Text}
    (silent : ∀ item ∈ items, key item = name → value? item = none) :
    find? name (items.filterMap fun item => (value? item).map fun value => (key item, value)) =
      none := by
  induction items with
  | nil => rfl
  | cons first others inductionHypothesis =>
      rw [List.forall_mem_cons] at silent
      have later := inductionHypothesis silent.2
      rw [List.filterMap_cons]
      cases said : value? first with
      | none => exact later
      | some value =>
          have different : key first ≠ name := by
            intro same
            rw [silent.1 same] at said
            cases said
          exact (if_neg different).trans later

/-- What is gathered under keys of its own is found under these. -/
theorem find?_filterMap {item : α} (present : item ∈ items)
    (own : ∀ other ∈ items, key other = key item → other = item) :
    find? (key item)
        (items.filterMap fun item => (value? item).map fun value => (key item, value)) =
      value? item := by
  cases said : value? item with
  | none =>
      apply find?_filterMap_eq_none
      intro other member same
      rw [own other member same, said]
  | some value =>
      induction items with
      | nil => cases present
      | cons first others inductionHypothesis =>
          rw [List.forall_mem_cons] at own
          rw [List.filterMap_cons]
          by_cases same : key first = key item
          · rw [own.1 same, said]
            exact if_pos rfl
          · have different : item ≠ first := by
              rintro rfl
              exact same rfl
            have later := inductionHypothesis
              ((List.mem_cons.mp present).resolve_left different) own.2
            cases value? first with
            | none => exact later
            | some other => exact (if_neg same).trans later

end Gathered

end Members

namespace Settings

variable {environment : Environment} {keywords : Members} {settings : Settings}

/-- What is said about a number among the settings: by a keyword or else by a
variable. -/
def said? (environment : Environment) (keywords : Members) (name : Text) :
    Option Json :=
  (keyword? keywords name).or
    ((lookup (LookupRules.ofKeywords keywords) environment name).map .str)

theorem find?_gather {rules : LookupRules} {origins? : Option Json} {name : Text}
    (present : name ∈ names) (number : name ≠ "cors_origins") :
    Members.find? name (gather rules environment origins? keywords) =
      (keyword? keywords name).or ((lookup rules environment name).map .str) := by
  have found := @Members.find?_filterMap Text id names
    (fun name =>
      (keyword? keywords name).or
        (if name = "cors_origins" then origins?
          else (lookup rules environment name).map .str)) name present fun _ _ => id
  rw [if_neg number] at found
  exact found

/-- A number is the integer that a raw value spells, or the standard one where nothing
is said. -/
def Settles (standard : Nat) (said? : Option Json) (number : Nat) : Prop :=
  match said? with
  | none => number = standard
  | some raw => raw.asInteger = .ok (number : Int)

theorem settles_of_defaulted {α : Type} {members : Members} {name : Text}
    {fallback found : α} {reading : Json → Except Complaint α} (number : α → Nat)
    (spelled : ∀ raw, reading raw = .ok found →
      raw.asInteger = .ok (number found : Int))
    (accepted : Members.defaulted name fallback reading members = .ok found) :
    Settles (number fallback) (Members.find? name members) (number found) := by
  rw [Members.defaulted_eq_ok_iff] at accepted
  unfold Settles
  cases said : Members.find? name members with
  | none =>
      rw [said] at accepted
      exact congrArg number accepted
  | some raw =>
      rw [said] at accepted
      exact spelled raw accepted

/-- The limits are the ones that keywords and variables ask for. -/
structure Configures (environment : Environment) (keywords : Members)
    (limits : PageLimits) : Prop where
  defaultPage : Settles 1 (said? environment keywords "default_page") limits.defaultPage
  defaultLimit :
    Settles 10 (said? environment keywords "default_limit") limits.defaultLimit
  maxLimit : Settles 1000 (said? environment keywords "max_limit") limits.maxLimit
  /-- The first page can be the default, and the bound leaves room for one item. -/
  positive : 1 ≤ limits.defaultPage ∧ 1 ≤ limits.maxLimit
  /-- The default does not exceed the bound. -/
  capped : limits.defaultLimit ≤ limits.maxLimit

theorem checkLimits_eq_ok_iff {defaultPage defaultLimit maxLimit : Nat}
    {pagePositive : 1 ≤ defaultPage} {maxPositive : 1 ≤ maxLimit} {limits : PageLimits} :
    checkLimits defaultPage defaultLimit maxLimit pagePositive maxPositive = .ok limits ↔
      limits.defaultPage = defaultPage ∧ limits.defaultLimit = defaultLimit ∧
        limits.maxLimit = maxLimit := by
  obtain ⟨ownPage, ownLimit, ownMax, -, -, capped⟩ := limits
  unfold checkLimits
  split
  · simp [eq_comm]
  · rename_i exceeds
    simp only [Checked.broken, reduceCtorEq, false_iff]
    rintro ⟨-, rfl, rfl⟩
    exact exceeds capped

/-- Loaded settings have the limits that are asked for. -/
theorem configures_of_load (loaded : load environment keywords = .ok settings) :
    Configures environment keywords settings.limits := by
  obtain ⟨origins?, -, checked⟩ := bind_eq_ok_iff.mp loaded
  rw [Checked.orFail_eq_ok_iff] at checked
  obtain ⟨⟨page, limit, bound, level, origins, nothing⟩, parts, rest⟩ :=
    bind_eq_ok_iff.mp checked
  obtain ⟨limits, compared, made⟩ := bind_eq_ok_iff.mp rest
  obtain rfl := Except.ok.inj made
  obtain ⟨samePage, sameLimit, sameMax⟩ := checkLimits_eq_ok_iff.mp compared
  simp only [Checked.both_eq_ok_iff] at parts
  obtain ⟨pagePart, limitPart, boundPart, -⟩ := parts
  have pageSettled := settles_of_defaulted (fun number => number.1)
    (fun _ read => asPositive_eq_ok_iff.mp read) pagePart
  have limitSettled := settles_of_defaulted (fun number => number)
    (fun _ read => (Json.asNatural_eq_ok_iff.mp read).1) limitPart
  have boundSettled := settles_of_defaulted (fun number => number.1)
    (fun _ read => asPositive_eq_ok_iff.mp read) boundPart
  rw [find?_gather (by decide) (by decide)] at pageSettled limitSettled boundSettled
  constructor
  case defaultPage =>
    rw [samePage]
    exact pageSettled
  case defaultLimit =>
    rw [sameLimit]
    exact limitSettled
  case maxLimit =>
    rw [sameMax]
    exact boundSettled
  case positive => exact ⟨limits.defaultPage_pos, limits.maxLimit_pos⟩
  case capped => exact limits.default_le_max

end Settings

end Folio
