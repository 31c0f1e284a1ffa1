import Folio.Failure
import Folio.Json.Lenient
import Folio.Json.Reader
import Folio.Json.Record
import Folio.Text.Case

/-!
# Settings

The defaults and bounds of page requests, with the other settings of the
service.  Settings come from keywords and from environment variables; a keyword
goes before a variable, and names match in any letter case.
-/

namespace Folio

structure PageLimits where
  defaultPage : Nat
  defaultLimit : Nat
  maxLimit : Nat
  defaultPage_pos : 1 ≤ defaultPage
  maxLimit_pos : 1 ≤ maxLimit
  default_le_max : defaultLimit ≤ maxLimit
  deriving DecidableEq

def PageLimits.standard : PageLimits where
  defaultPage := 1
  defaultLimit := 10
  maxLimit := 1000
  defaultPage_pos := by decide
  maxLimit_pos := by decide
  default_le_max := by decide

structure Settings where
  limits : PageLimits
  logLevel : Text
  corsOrigins : List Text
  deriving DecidableEq

/-- The variables with their values.  A value may hold any code points. -/
abbrev Environment := List (Text × Text)

namespace Settings

def standard : Settings where
  limits := .standard
  logLevel := "INFO"
  corsOrigins := ["http://localhost:5173", "http://localhost:8000"]

def names : List Text :=
  ["default_page", "default_limit", "max_limit", "log_level", "cors_origins"]

/-! ## The environment -/

structure LookupRules where
  /-- What the name of a variable starts with, before that of the setting. -/
  leading : Text
  exactCase : Bool
  skipsEmpty : Bool
  unsetText? : Option Text
  deriving DecidableEq

def LookupRules.standard : LookupRules where
  leading := "PAGING_"
  exactCase := false
  skipsEmpty := false
  unsetText? := none

def LookupRules.fold (rules : LookupRules) (name : Text) : Text :=
  if rules.exactCase then name else Text.lower name

/-- The variable of a setting.  Of variables whose names match the last one
counts, empty ones left out where they set nothing. -/
def lookup (rules : LookupRules) (environment : Environment) (name : Text) :
    Option Text :=
  let wanted := rules.fold (rules.leading ++ name)
  let found? := environment.reverse.find? fun (entry : Text × Text) =>
    rules.fold entry.1 == wanted && !(rules.skipsEmpty && entry.2 == "")
  (found?.map (·.2)).filter fun text => rules.unsetText? != some text

/-- The origins in the environment, written as JSON.  A null sets nothing. -/
def originsVariable (rules : LookupRules) (environment : Environment) :
    Except Failure (Option Json) :=
  match lookup rules environment "cors_origins" with
  | none => .ok none
  | some text =>
      match Json.read text with
      | .ok .null => .ok none
      | .ok value => .ok (some value)
      | .error _ => .error .unreadableSettings

/-! ## Keywords -/

/-- The keywords that say how settings are looked up elsewhere than in the
environment.  They have no effect on an environment. -/
def idleKeywords : List Text :=
  ["_nested_model_default_partial_update", "_env_file", "_env_file_encoding",
    "_env_nested_delimiter", "_env_nested_max_split", "_env_parse_enums",
    "_cli_prog_name", "_cli_parse_args", "_cli_settings_source",
    "_cli_parse_none_str", "_cli_hide_none_type", "_cli_avoid_json",
    "_cli_enforce_required", "_cli_use_class_docs_for_groups",
    "_cli_exit_on_error", "_cli_prefix", "_cli_flag_prefix_char",
    "_cli_implicit_flags", "_cli_ignore_unknown_args", "_cli_kebab_case",
    "_cli_shortcuts", "_secrets_dir"]

def ruleKeywords : List Text :=
  ["_case_sensitive", "_env_prefix", "_env_ignore_empty", "_env_parse_none_str"]

def isRuleKeyword (name : Text) : Bool :=
  ruleKeywords.contains name || idleKeywords.contains name

/-- A text in a keyword, unless the keyword leaves it open. -/
def keywordText? (name : Text) (keywords : Members) : Option Text :=
  match Members.find? name keywords with
  | some (.str text) => some text
  | _ => none

def keywordFlag (name : Text) (keywords : Members) : Bool :=
  ((Members.find? name keywords).map Json.isTruthy).getD false

def LookupRules.ofKeywords (keywords : Members) : LookupRules where
  leading := (keywordText? "_env_prefix" keywords).getD standard.leading
  exactCase := keywordFlag "_case_sensitive" keywords
  skipsEmpty := keywordFlag "_env_ignore_empty" keywords
  unsetText? := keywordText? "_env_parse_none_str" keywords

/-- The keyword of a setting.  Of keywords that differ only in letter case the
first one counts. -/
def keyword? (keywords : Members) (name : Text) : Option Json :=
  (List.find? (fun member => Text.lower member.1 == name) keywords).map (·.2)

def gather (rules : LookupRules) (environment : Environment)
    (origins? : Option Json) (keywords : Members) : Members :=
  names.filterMap fun name : Text =>
    let written? :=
      if name = "cors_origins" then origins?
      else (lookup rules environment name).map .str
    ((keyword? keywords name).or written?).map fun value => (name, value)

def isUnknownKeyword (name : Text) : Bool :=
  !names.contains (Text.lower name) && !isRuleKeyword name

def unknownKeywords (keywords : Members) : Checked Unit :=
  match keywords.filter fun member => isUnknownKeyword member.1 with
  | [] => .ok ()
  | unknown =>
      .error (unknown.map fun member =>
        { place := [.member member.1], complaint := .unexpected })

/-! ## Checking -/

def originsOf (members : Members) : Checked (List Text) :=
  match Members.find? "cors_origins" members with
  | none => .ok standard.corsOrigins
  | some (.arr items) =>
      Checked.within (.member "cors_origins")
        (Checked.items (fun item => Checked.here item.asText) items)
  | some _ => Checked.ofMember "cors_origins" (.error .notList)

/-- The limits with these numbers, unless the default exceeds the bound. -/
def checkLimits (defaultPage defaultLimit maxLimit : Nat)
    (defaultPage_pos : 1 ≤ defaultPage) (maxLimit_pos : 1 ≤ maxLimit) :
    Checked PageLimits :=
  if default_le_max : defaultLimit ≤ maxLimit then
    .ok { defaultPage, defaultLimit, maxLimit, defaultPage_pos, maxLimit_pos,
          default_le_max }
  else
    .broken ("default_limit (" ++ toString defaultLimit ++
      ") exceeds max_limit (" ++ toString maxLimit ++ ")")

theorem one_le_toNat {integer : Int} (positive : 1 ≤ integer) : 1 ≤ integer.toNat := by
  omega

def asPositive (value : Json) : Except Complaint { number : Nat // 1 ≤ number } :=
  match value.asInteger with
  | .ok integer =>
      if positive : 1 ≤ integer then .ok ⟨integer.toNat, one_le_toNat positive⟩
      else .error (.belowMinimum 1)
  | .error complaint => .error complaint

/-- Settings from raw ones.  The bound is compared once all parts are valid. -/
def ofMembers (members : Members) (keywords : Members) : Checked Settings := do
  let (defaultPage, defaultLimit, maxLimit, logLevel, corsOrigins, _) ←
    Checked.both
      (Members.defaulted "default_page" ⟨1, by decide⟩ asPositive members)
      (Checked.both
        (Members.defaulted "default_limit" standard.limits.defaultLimit
          (Json.asNatural 0) members)
        (Checked.both
          (Members.defaulted "max_limit" ⟨1000, by decide⟩ asPositive members)
          (Checked.both
            (Members.defaulted "log_level" standard.logLevel Json.asText members)
            (Checked.both (originsOf members) (unknownKeywords keywords)))))
  let limits ← checkLimits defaultPage.1 defaultLimit maxLimit.1 defaultPage.2
    maxLimit.2
  return { limits, logLevel, corsOrigins }

def load (environment : Environment) (keywords : Members) :
    Except Failure Settings := do
  let rules := LookupRules.ofKeywords keywords
  let origins? ← originsVariable rules environment
  (ofMembers (gather rules environment origins? keywords) keywords).orFail

def toJson (settings : Settings) : Json :=
  .obj [("default_page", .ofNat settings.limits.defaultPage),
    ("default_limit", .ofNat settings.limits.defaultLimit),
    ("max_limit", .ofNat settings.limits.maxLimit),
    ("log_level", .str settings.logLevel),
    ("cors_origins", .arr (settings.corsOrigins.map .str))]

end Settings

end Folio
