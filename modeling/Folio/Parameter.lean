import Folio.Json.Literal

/-!
# Query parameters

The five parameters of a page request, with their names and the messages for
values that cannot be used.
-/

namespace Folio

inductive Parameter
  | page
  | limit
  | search
  | sort
  | order
  deriving DecidableEq

namespace Parameter

def all : List Parameter := [page, limit, search, sort, order]

def wireName : Parameter → Text
  | page => "page"
  | limit => "limit"
  | search => "search"
  | sort => "sort"
  | order => "order"

def attributeName : Parameter → Text
  | page => "requested_page"
  | limit => "requested_limit"
  | search => "requested_search"
  | sort => "requested_sort"
  | order => "requested_order"

def ofWireName? (name : Text) : Option Parameter :=
  all.find? (·.wireName == name)

@[simp]
theorem ofWireName?_wireName (parameter : Parameter) :
    ofWireName? parameter.wireName = some parameter := by
  cases parameter <;> rfl

theorem mem_all (parameter : Parameter) : parameter ∈ all := by
  cases parameter <;> decide

/-- The message for an unusable value.  An unknown order is named together with
the allowed ones. -/
def message (allowed : List Text) (raw : Json) : Parameter → Text
  | page => "must be a positive integer"
  | limit => "must be a non-negative integer"
  | search => "must be a string"
  | sort => "must be one of: asc, desc"
  | order =>
      "unknown order field '" ++ raw.shown ++ "', expected one of: " ++
        Text.intercalate ", " allowed

end Parameter

end Folio
