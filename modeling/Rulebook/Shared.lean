import Rulebook.Catalog.Bundled
import Rulebook.Record.Validation

/-!
# The shared validator

A program that asks for no validator of its own uses one that is shared by the whole program.  Its
registry is empty at first; the standard rules are registered when the validator is used for the
first time (`Shared.use`), and names that are bound by then keep their rules.
-/

set_option autoImplicit false

namespace Rulebook

/-- The shared validator, and whether it has been used. -/
structure Shared where
  validator : Validator
  used : Bool

namespace Shared

/-- The shared validator at the beginning. -/
def initial : Shared where
  validator :=
    { registry := .empty, translator := .bundled "en" "en", store := [], hierarchy := [] }
  used := false

/-- The shared validator once it is used.  When its rules cannot be registered it counts as unused,
and what has been registered stays. -/
def use [Platform] (s : Shared) : Shared × Option Failure :=
  if s.used then (s, none)
  else
    match s.validator.registry.registerStandard false with
    | (registry, _, failure) =>
      ({ validator := { s.validator with registry }, used := failure.isNone }, failure)

end Shared
end Rulebook
