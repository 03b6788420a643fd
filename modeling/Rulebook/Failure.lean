import Rulebook.Value
import Rulebook.Text.Quoted

/-!
# Failures

Everything that can go wrong while values are compared, shown and validated, by cause.  A failure
thrown by a caller's function is carried as it is (`thrown`); each of the others states what the
library refused to do.  `Failure.kind` gives the family under which a failure is reported,
`Failure.message` the wording of the library's own failures, and `Failure.arguments` what a failure
holds when it is handed around as a value.
-/

set_option autoImplicit false

namespace Rulebook

/-- What is done with something that may be nested. -/
inductive Descent where
  /-- Showing a value. -/
  | shown
  /-- Writing a value as JSON. -/
  | written
  /-- Reading an array, or an object, of a JSON document. -/
  | read (object : Bool)
  /-- Reading a group of a pattern. -/
  | grouped
deriving DecidableEq

/-- The cause of a failure. -/
inductive Failure where
  /-- Thrown by a function of the caller. -/
  | thrown (kind : FailureKind) (args : List Value)
  /-- An integer beyond all doubles where a double is needed. -/
  | integerTooLarge
  /-- An integer with too many digits to be shown. -/
  | integerTooLong
  /-- A numeral with too many digits to be read. -/
  | numeralTooLong (digits : Nat)
  /-- A numeral without any character. -/
  | emptyNumeral
  /-- A word, shown, that is none of the words for truth values. -/
  | unknownTruth (word : String)
  /-- A code point beyond all characters; whether it is also beyond all machine integers. -/
  | codeTooLarge (beyondWords : Bool)
  /-- A signalling not-a-number where a double is needed. -/
  | signallingNaN
  /-- A signalling not-a-number in a comparison. -/
  | signallingComparison
  /-- Two values that have no order. -/
  | unordered (left right : String)
  /-- A key that the text of a mapping cannot show. -/
  | unwritableKey (type : String)
  /-- A value without items where items are needed. -/
  | notIterable (type : String)
  /-- A value without the attribute that is asked for. -/
  | noAttribute (type name : String)
  /-- An attribute asked for by something other than a text. -/
  | attributeNameNotText (type : String)
  /-- An item that is not a text among texts to be joined. -/
  | joinedNotText (position : Nat) (type : String)
  /-- A message that is not a text where its text is asked for. -/
  | messageNotText (type : String)
  /-- A value that cannot be called. -/
  | notCallable (type : String)
  /-- A class called with an argument. -/
  | unexpectedArguments (name : String)
  /-- An attachment called without the property it is for. -/
  | attachmentCall
  /-- A message builder called as a rule. -/
  | builderCall (name : String)
  /-- A repetition count beyond what patterns support. -/
  | repetitionTooLarge
  /-- A pattern that asks for two character tables at once. -/
  | incompatibleFlags
  /-- Nesting that is too deep for what is done. -/
  | nestedTooDeep (descent : Descent)
  /-- Options of an unsupported kind, shown. -/
  | unsupportedOptions (shown : String)
  /-- A rule name that is no text or blank, shown. -/
  | blankRuleName (shown : String)
  /-- A rule that cannot be called. -/
  | uncallableRule (name : String)
  /-- An alias that is no text or blank, shown. -/
  | blankAlias (shown : String)
  /-- An alias for a name without a rule of its own. -/
  | unknownCanonical (aliased canonical : String)
  /-- A container that can change, where a key is needed. -/
  | unhashable (type : String)
  /-- A signalling not-a-number where a key is needed. -/
  | signallingKey
  /-- A catalog file that cannot be read. -/
  | unreadableCatalog (path : String)
  /-- A catalog file that holds no mapping. -/
  | catalogNotMapping (path : String)
  /-- A directory of catalogs that does not exist. -/
  | noCatalogDirectory (path : String)
  /-- Bases that no linear order of ancestors respects. -/
  | inconsistentBases (names : List String)
  /-- A base that is named twice. -/
  | duplicateBase (name : String)
  /-- A class name that holds a null character. -/
  | nullInClassName
  /-- A file that does not exist. -/
  | missingFile (path : String)
  /-- A byte that is not part of a UTF-8 text. -/
  | undecodable (start finish : Nat) (byte : UInt8) (reason : String)
  /-- A day or time outside the calendar, in words. -/
  | calendar (reason : String)
  /-- A text that is no numeral of the base. -/
  | invalidNumeral (base : Nat) (shown : String)
  /-- A text that is no number, shown. -/
  | invalidFloat (shown : String)

/-- How it is said what was done. -/
def Descent.wording : Descent → String
  | shown => " while getting the repr of an object"
  | written => " while encoding a JSON object"
  | read object =>
    " while decoding a JSON " ++ (if object then "object" else "array") ++ " from a unicode string"
  | grouped => ""

namespace Failure

/-- The family under which a failure is reported. -/
def kind : Failure → FailureKind
  | thrown k _ => k
  | integerTooLarge | repetitionTooLarge | codeTooLarge true => .overflow
  | integerTooLong | numeralTooLong _ | signallingNaN | codeTooLarge false => .valueError
  | emptyNumeral => .index
  | unknownTruth _ => .keyError
  | signallingComparison => .invalidOperation
  | unordered .. | unwritableKey _ | notIterable _ | attributeNameNotText _ | joinedNotText ..
  | messageNotText _ | notCallable _ | unexpectedArguments _ | attachmentCall | builderCall _
  | unsupportedOptions _ | inconsistentBases _ | duplicateBase _ | unhashable _
  | signallingKey => .typeError
  | noAttribute .. => .missingAttribute
  | nestedTooDeep _ => .recursion
  | blankRuleName _ | uncallableRule _ | blankAlias _ | unknownCanonical .. => .registration
  | unreadableCatalog _ | catalogNotMapping _ | noCatalogDirectory _ => .catalog
  | missingFile _ => .exception
  | nullInClassName | calendar _ | invalidNumeral .. | invalidFloat _ | incompatibleFlags => .valueError
  | undecodable .. => .decoding

/-- The wording of the library's own failures. -/
def message : Failure → String
  | thrown .. => ""
  | integerTooLarge => "int too large to convert to float"
  | integerTooLong =>
    "Exceeds the limit (4300 digits) for integer string conversion; " ++
      "use sys.set_int_max_str_digits() to increase the limit"
  | numeralTooLong n =>
    "Exceeds the limit (4300 digits) for integer string conversion: value has " ++ toString n ++
      " digits; use sys.set_int_max_str_digits() to increase the limit"
  | emptyNumeral => "string index out of range"
  | unknownTruth w => w
  | codeTooLarge false => "chr() arg not in range(0x110000)"
  | codeTooLarge true => "Python int too large to convert to C int"
  | signallingNaN => "cannot convert signaling NaN to float"
  | signallingComparison => "[<class 'decimal.InvalidOperation'>]"
  | unordered a b => "'<' not supported between instances of '" ++ a ++ "' and '" ++ b ++ "'"
  | unwritableKey t => "keys must be str, int, float, bool or None, not " ++ t
  | notIterable t => "'" ++ t ++ "' object is not iterable"
  | noAttribute t n => "'" ++ t ++ "' object has no attribute '" ++ n ++ "'"
  | attributeNameNotText t => "attribute name must be string, not '" ++ t ++ "'"
  | joinedNotText i t =>
    "sequence item " ++ toString i ++ ": expected str instance, " ++ t ++ " found"
  | messageNotText t => "__str__ returned non-string (type " ++ t ++ ")"
  | notCallable t => "'" ++ t ++ "' object is not callable"
  | unexpectedArguments n => n ++ "() takes no arguments"
  | attachmentCall =>
    "PropertyAnnotation.__call__() missing 1 required positional argument: 'property_name'"
  | builderCall n => n ++ "() missing 2 required positional arguments: 'message' and 'details'"
  | repetitionTooLarge => "the repetition number is too large"
  | incompatibleFlags => "ASCII and UNICODE flags are incompatible"
  | nestedTooDeep descent => "maximum recursion depth exceeded" ++ descent.wording
  | unsupportedOptions s => "Unsupported validation options: " ++ s
  | blankRuleName s => "Rule name must be a non-empty string, got " ++ s
  | uncallableRule n => "Rule '" ++ n ++ "' must be callable"
  | blankAlias s => "Alias name must be a non-empty string, got " ++ s
  | unknownCanonical a c => "Cannot alias '" ++ a ++ "': rule '" ++ c ++ "' is not registered"
  | unhashable t => "unhashable type: '" ++ t ++ "'"
  | signallingKey => "Cannot hash a signaling NaN value"
  | unreadableCatalog p => "Cannot load translation catalog " ++ p
  | catalogNotMapping p => "Translation catalog " ++ p ++ " must contain a mapping"
  | noCatalogDirectory p => "Translation directory not found: " ++ p
  | inconsistentBases ns =>
    "Cannot create a consistent method resolution\norder (MRO) for bases " ++
      String.intercalate ", " ns
  | duplicateBase n => "duplicate base class " ++ n
  | nullInClassName => "type name must not contain null characters"
  | missingFile p => "[Errno 2] No such file or directory: '" ++ p ++ "'"
  | undecodable start finish byte reason =>
    if finish - start ≤ 1 then
      "'utf-8' codec can't decode byte 0x" ++ String.ofList (Text.hexDigits 2 byte.toNat) ++
        " in position " ++ toString start ++ ": " ++ reason
    else
      "'utf-8' codec can't decode bytes in position " ++ toString start ++ "-" ++
        toString (finish - 1) ++ ": " ++ reason
  | calendar reason => reason
  | invalidNumeral base s =>
    "invalid literal for int() with base " ++ toString base ++ ": " ++ s
  | invalidFloat s => "could not convert string to float: " ++ s

/-- What a failure holds when it is handed around as a value. -/
def arguments : Failure → List Value
  | thrown _ args => args
  | unknownTruth w => [.text w]
  | f => [.text f.message]

/-- Whether a failure is stopped at the border of a rule.  A cancellation passes through. -/
def isOrdinary (f : Failure) : Bool := f.kind != .cancelled

end Failure

/-- Why a text is not read as what it should be: because it does not have the form, or with a failure
of its own. -/
inductive Refusal where
  | malformed
  | failed (f : Failure)

end Rulebook
