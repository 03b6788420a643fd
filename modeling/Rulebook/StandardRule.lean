/-!
# The rules that come with the library

`StandardRule` lists them.  A rule has a name under which a registry offers it and a function name,
which labels the rule where it is used without going through a registry.
-/

set_option autoImplicit false

namespace Rulebook

/-- A rule that comes with the library. -/
inductive StandardRule where
  | required | nullable | empty | sometimes
  | number | integer | numberBetween
  | numberLessThan | numberLessThanOrEquals | numberGreaterThan | numberGreaterThanOrEquals
  | numberEquals | numberIsDifferentFrom
  | string | nonNullString | length | minLength | maxLength | startsWithOneOf | endsWithOneOf
  | email | url | fileName | uuid | json | hexColor | regex
  | decimalPlaces
  | array | arrayMinLength | arrayMaxLength | arrayLength | arrayContains | arrayUnique
deriving DecidableEq

namespace StandardRule

/-- Every rule, in the order in which a registry takes them in. -/
def all : List StandardRule :=
  [.required, .nullable, .empty, .sometimes, .number, .integer, .numberBetween, .numberLessThan,
    .numberLessThanOrEquals, .numberGreaterThan, .numberGreaterThanOrEquals, .numberEquals,
    .numberIsDifferentFrom, .string, .nonNullString, .length, .minLength, .maxLength,
    .startsWithOneOf, .endsWithOneOf, .email, .url, .fileName, .uuid, .json, .hexColor, .regex,
    .decimalPlaces, .array, .arrayMinLength, .arrayMaxLength, .arrayLength, .arrayContains,
    .arrayUnique]

/-- The name under which a registry offers the rule. -/
def name : StandardRule → String
  | required => "Required"
  | nullable => "Nullable"
  | empty => "Empty"
  | sometimes => "Sometimes"
  | number => "Number"
  | integer => "Integer"
  | numberBetween => "NumberBetween"
  | numberLessThan => "NumberLessThan"
  | numberLessThanOrEquals => "NumberLessThanOrEquals"
  | numberGreaterThan => "NumberGreaterThan"
  | numberGreaterThanOrEquals => "NumberGreaterThanOrEquals"
  | numberEquals => "NumberEquals"
  | numberIsDifferentFrom => "NumberIsDifferentFrom"
  | string => "String"
  | nonNullString => "NonNullString"
  | length => "Length"
  | minLength => "MinLength"
  | maxLength => "MaxLength"
  | startsWithOneOf => "StartsWithOneOf"
  | endsWithOneOf => "EndsWithOneOf"
  | email => "Email"
  | url => "Url"
  | fileName => "FileName"
  | uuid => "UUID"
  | json => "JSON"
  | hexColor => "HexColor"
  | regex => "Regex"
  | decimalPlaces => "DecimalPlaces"
  | array => "Array"
  | arrayMinLength => "ArrayMinLength"
  | arrayMaxLength => "ArrayMaxLength"
  | arrayLength => "ArrayLength"
  | arrayContains => "ArrayContains"
  | arrayUnique => "ArrayUnique"

/-- The name of the rule's own function. -/
def functionName : StandardRule → String
  | required => "required"
  | nullable => "nullable"
  | empty => "empty"
  | sometimes => "sometimes"
  | number => "is_number"
  | integer => "is_integer"
  | numberBetween => "number_between"
  | numberLessThan => "number_less_than"
  | numberLessThanOrEquals => "number_less_than_or_equals"
  | numberGreaterThan => "number_greater_than"
  | numberGreaterThanOrEquals => "number_greater_than_or_equals"
  | numberEquals => "number_equals"
  | numberIsDifferentFrom => "number_is_different_from"
  | string => "is_string"
  | nonNullString => "non_null_string"
  | length => "length"
  | minLength => "min_length"
  | maxLength => "max_length"
  | startsWithOneOf => "starts_with_one_of"
  | endsWithOneOf => "ends_with_one_of"
  | email => "email"
  | url => "url"
  | fileName => "file_name"
  | uuid => "uuid"
  | json => "json_string"
  | hexColor => "hex_color"
  | regex => "regex"
  | decimalPlaces => "decimal_places"
  | array => "is_array"
  | arrayMinLength => "array_min_length"
  | arrayMaxLength => "array_max_length"
  | arrayLength => "array_length"
  | arrayContains => "array_contains"
  | arrayUnique => "array_unique"

/-- The rule offered under a name. -/
def ofName? (s : String) : Option StandardRule := all.find? fun r ↦ r.name == s

/-- Other spellings of rule names, and the rule each stands for. -/
def spellings : List (String × StandardRule) :=
  [("NumberDifferentFrom", .numberIsDifferentFrom), ("NumberNotEqual", .numberIsDifferentFrom)]

end StandardRule
end Rulebook
