import Rulebook.Translator

/-!
# The catalogs that come with the library

The messages of the rules and of the validator, in English and in French.
-/

set_option autoImplicit false

namespace Rulebook
namespace Catalog

/-- The place for a value in a message. -/
def hole (name : String) : String := "%" ++ openBrace ++ name ++ closeBrace

/-- A message under its key. -/
def message (key text : String) : Entry := (.text key, .text text)

/-- Messages under a common key. -/
def group (key : String) (messages : List Entry) : Entry := (.text key, .dict messages)

/-- The messages in English. -/
def english : Catalog := [group "validator" [
  group "separators" [
    message "multiple" ", "],
  message "invalidRule" ("Invalid validation rule: " ++ hole "rule"),
  message "invalidMessage" ("Invalid value for rule " ++ hole "rule"),
  message "invalidRuleParams"
    ("Invalid parameters for rule " ++ hole "rule" ++ ": " ++ hole "ruleParams"),
  group "failedForNFields" [
    message "one" "Validation failed for 1 field",
    message "other" ("Validation failed for " ++ hole "count" ++ " fields")],
  message "required" "This field is required",
  message "number" "Please enter a valid number",
  message "integer" "Please enter a valid integer",
  message "string" "Please enter a valid string",
  message "nonNullString" "Please enter a non-empty string",
  message "numberLessThan" ("Please enter a number less than " ++ hole "ruleParams"),
  message "numberLessThanOrEquals"
    ("Please enter a number less than or equal to " ++ hole "ruleParams"),
  message "numberGreaterThan" ("Please enter a number greater than " ++ hole "ruleParams"),
  message "numberGreaterThanOrEquals"
    ("Please enter a number greater than or equal to " ++ hole "ruleParams"),
  message "numberEquals" ("Please enter a number equal to " ++ hole "ruleParams"),
  message "numberIsDifferentFrom" ("Please enter a number different from " ++ hole "ruleParams"),
  message "numberBetween" ("Please enter a number between " ++ hole "min" ++ " and " ++ hole "max"),
  message "length" ("This field must be exactly " ++ hole "length" ++ " characters long"),
  message "lengthRange"
    ("This field must be between " ++ hole "minLength" ++ " and " ++ hole "maxLength" ++
      " characters long"),
  message "minLength" ("This field must be at least " ++ hole "minLength" ++ " characters long"),
  message "maxLength" ("This field must be at most " ++ hole "maxLength" ++ " characters long"),
  message "email" "Please enter a valid email address",
  message "url" "Please enter a valid URL",
  message "fileName" "Please enter a valid file name",
  message "startsWithOneOf" ("This field must start with one of: " ++ hole "prefixes"),
  message "endsWithOneOf" ("This field must end with one of: " ++ hole "endings"),
  message "uuid" "Please enter a valid UUID",
  message "json" "Please enter valid JSON",
  message "hexColor" "Please enter a valid hex color",
  message "regex" ("This field must match the pattern " ++ hole "pattern"),
  message "decimalPlaces" ("Please enter a number with " ++ hole "places" ++ " decimal places"),
  message "array" "This field must be an array",
  message "arrayMinLength" ("This field must contain at least " ++ hole "minLength" ++ " items"),
  message "arrayMaxLength" ("This field must contain at most " ++ hole "maxLength" ++ " items"),
  message "arrayLength" ("This field must contain exactly " ++ hole "length" ++ " items"),
  message "arrayContains" ("This field must contain: " ++ hole "requiredValues"),
  message "arrayUnique" "This field must contain unique items"]]

/-- The messages in French. -/
def french : Catalog := [group "validator" [
  group "separators" [
    message "multiple" ", "],
  message "invalidRule" ("Règle de validation invalide : " ++ hole "rule"),
  message "invalidMessage" ("Valeur invalide pour la règle " ++ hole "rule"),
  message "invalidRuleParams"
    ("Paramètres invalides pour la règle " ++ hole "rule" ++ " : " ++ hole "ruleParams"),
  group "failedForNFields" [
    message "one" "La validation a échoué pour 1 champ",
    message "other" ("La validation a échoué pour " ++ hole "count" ++ " champs")],
  message "required" "Ce champ est obligatoire",
  message "number" "Veuillez saisir un nombre valide",
  message "integer" "Veuillez saisir un entier valide",
  message "string" "Veuillez saisir une chaîne valide",
  message "nonNullString" "Veuillez saisir une chaîne non vide",
  message "numberLessThan" ("Veuillez saisir un nombre inférieur à " ++ hole "ruleParams"),
  message "numberLessThanOrEquals"
    ("Veuillez saisir un nombre inférieur ou égal à " ++ hole "ruleParams"),
  message "numberGreaterThan" ("Veuillez saisir un nombre supérieur à " ++ hole "ruleParams"),
  message "numberGreaterThanOrEquals"
    ("Veuillez saisir un nombre supérieur ou égal à " ++ hole "ruleParams"),
  message "numberEquals" ("Veuillez saisir un nombre égal à " ++ hole "ruleParams"),
  message "numberIsDifferentFrom" ("Veuillez saisir un nombre différent de " ++ hole "ruleParams"),
  message "numberBetween"
    ("Veuillez saisir un nombre entre " ++ hole "min" ++ " et " ++ hole "max"),
  message "length" ("Ce champ doit contenir exactement " ++ hole "length" ++ " caractères"),
  message "lengthRange"
    ("Ce champ doit contenir entre " ++ hole "minLength" ++ " et " ++ hole "maxLength" ++
      " caractères"),
  message "minLength" ("Ce champ doit contenir au moins " ++ hole "minLength" ++ " caractères"),
  message "maxLength" ("Ce champ doit contenir au plus " ++ hole "maxLength" ++ " caractères"),
  message "email" "Veuillez saisir une adresse e-mail valide",
  message "url" "Veuillez saisir une URL valide",
  message "fileName" "Veuillez saisir un nom de fichier valide",
  message "startsWithOneOf" ("Ce champ doit commencer par l'un de : " ++ hole "prefixes"),
  message "endsWithOneOf" ("Ce champ doit se terminer par l'un de : " ++ hole "endings"),
  message "uuid" "Veuillez saisir un UUID valide",
  message "json" "Veuillez saisir un JSON valide",
  message "hexColor" "Veuillez saisir une couleur hexadécimale valide",
  message "regex" ("Ce champ doit correspondre au motif " ++ hole "pattern"),
  message "decimalPlaces" ("Veuillez saisir un nombre avec " ++ hole "places" ++ " décimales"),
  message "array" "Ce champ doit être un tableau",
  message "arrayMinLength" ("Ce champ doit contenir au moins " ++ hole "minLength" ++ " éléments"),
  message "arrayMaxLength" ("Ce champ doit contenir au plus " ++ hole "maxLength" ++ " éléments"),
  message "arrayLength" ("Ce champ doit contenir exactement " ++ hole "length" ++ " éléments"),
  message "arrayContains" ("Ce champ doit contenir : " ++ hole "requiredValues"),
  message "arrayUnique" "Ce champ doit contenir des éléments uniques"]]

/-- The catalogs by locale. -/
def bundled : List (String × Catalog) := [("en", english), ("fr", french)]

end Catalog

namespace Translator

/-- A translator with the bundled catalogs laid over its own. -/
def withBundled (t : Translator) : Translator :=
  Catalog.bundled.foldl (fun t e ↦ t.register e.1 e.2) t

/-- A translator of the bundled catalogs. -/
def bundled (current fallback : String) : Translator := (new current fallback).withBundled

end Translator
end Rulebook
