import Folio.Article
import Folio.Bisection
import Folio.Failure
import Folio.Order

/-!
# Attributes of articles

What can be asked of every article besides its columns.  A listing may be
ordered by such an attribute as well, as far as its values can be compared.
-/

namespace Folio

inductive ArticleAttribute
  | valueless
  | uniform
  | incomparable
  | given
  deriving DecidableEq

namespace ArticleAttribute

def valuelessNames : List Text :=
  ["model_extra", "__hash__", "__weakref__", "__pydantic_extra__",
    "__pydantic_parent_namespace__", "__pydantic_post_init__",
    "__pydantic_private__"]

def uniformNames : List Text :=
  ["__doc__", "__module__", "__slots__", "__class_vars__", "__abstractmethods__",
    "__pydantic_complete__", "__pydantic_custom_init__",
    "__pydantic_root_model__"]

def givenNames : List Text :=
  ["model_fields_set", "__fields_set__", "__pydantic_fields_set__"]

/-- The attributes whose values cannot be compared: what can be done with an
article, and how articles are described. -/
def incomparableNames : List Text :=
  List.map Text.ofString [
    "construct", "copy", "dict", "from_orm", "json", "model_computed_fields",
    "model_config", "model_construct", "model_copy", "model_dump",
    "model_dump_json", "model_fields", "model_json_schema",
    "model_parametrized_name", "model_post_init", "model_rebuild",
    "model_validate", "model_validate_json", "model_validate_strings",
    "normalize_to_utc", "parse_file", "parse_obj", "parse_raw", "schema",
    "schema_json", "update_forward_refs", "validate", "_abc_impl",
    "__annotations__", "__class__", "__class_getitem__", "__copy__",
    "__deepcopy__", "__delattr__", "__dict__", "__dir__", "__eq__", "__format__",
    "__ge__", "__getattr__", "__getattribute__", "__getstate__", "__gt__",
    "__init__", "__init_subclass__", "__iter__", "__le__", "__lt__", "__ne__",
    "__new__", "__pretty__", "__private_attributes__", "__reduce__",
    "__reduce_ex__", "__replace__", "__repr__", "__repr_args__",
    "__repr_name__", "__repr_recursion__", "__repr_str__", "__rich_repr__",
    "__setattr__", "__setstate__", "__signature__", "__sizeof__", "__str__",
    "__subclasshook__", "__pydantic_computed_fields__",
    "__pydantic_core_schema__", "__pydantic_decorators__",
    "__pydantic_fields__", "__pydantic_generic_metadata__",
    "__pydantic_init_subclass__", "__pydantic_serializer__",
    "__pydantic_setattr_handlers__", "__pydantic_validator__"]

def ofName? (name : Text) : Option ArticleAttribute :=
  if valuelessNames.contains name then some valueless
  else if uniformNames.contains name then some uniform
  else if givenNames.contains name then some given
  else if incomparableNames.contains name then some incomparable
  else none

/-- Fewer columns came with the first article: only some of those of the
second. -/
def givesLess (left right : Article) : Bool :=
  left.given.all right.given.contains && !right.given.all left.given.contains

/-- Articles in the order of the columns that came with them.  Descending, the
articles are turned around before and after they are sorted. -/
def arrangeGiven (direction : SortDirection) (articles : List Article) :
    List Article :=
  match direction with
  | .ascending => Bisection.sort givesLess articles
  | .descending => (Bisection.sort givesLess articles.reverse).reverse

/-- Articles in the order of an attribute.  Where there is nothing to compare,
they stay as they are. -/
def arrange (kind : ArticleAttribute) (direction : SortDirection)
    (articles : List Article) : Except Failure (List Article) :=
  match kind with
  | valueless => .ok articles
  | uniform => .ok articles
  | given => .ok (arrangeGiven direction articles)
  | incomparable =>
      if articles.length ≤ 1 then .ok articles else .error .wrongType

end ArticleAttribute

end Folio
