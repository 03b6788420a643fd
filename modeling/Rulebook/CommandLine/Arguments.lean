/-!
# Arguments of a command line

Words on a command line are options or operands.  An option is written out after two hyphens, or as
one letter after one hyphen, where letters may be written together.  An option may take a value: the
rest of its word, or else the next word, whatever that is.  After the word `--` everything is an
operand.

`Arguments.read` sorts words by this; it gives nothing when an option is not known, lacks its value,
or has a value that it does not take.
-/

set_option autoImplicit false

namespace Rulebook

/-- An option: its name, the letter it may be written as, and whether it takes a value. -/
structure OptionForm where
  name : String
  letter : Option Char
  takesValue : Bool
deriving DecidableEq

/-- The options given, each with the name of its form and its value, and the operands. -/
structure Arguments where
  given : List (String × String)
  operands : List String

namespace Arguments

/-- Only operands. -/
def ofOperands (words : List String) : Arguments := ⟨[], words⟩

/-- Arguments with an operand in front. -/
def withOperand (word : String) (a : Arguments) : Arguments :=
  { a with operands := word :: a.operands }

/-- What letters written together say: the options among them, and perhaps the name of one that takes
the next word as its value. -/
def letters (forms : List OptionForm) :
    List Char → Option (List (String × String) × Option String)
  | [] => some ([], none)
  | c :: r =>
    match forms.find? (·.letter == some c) with
    | none => none
    | some f =>
      if f.takesValue then
        if r.isEmpty then some ([], some f.name) else some ([(f.name, String.ofList r)], none)
      else (letters forms r).map fun (given, open?) ↦ ((f.name, "") :: given, open?)

/-- What a word that begins with a hyphen says: the options in it, and perhaps the name of one that
takes the next word as its value. -/
def option (forms : List OptionForm) (word : List Char) :
    Option (List (String × String) × Option String) :=
  let name := word.takeWhile (· != '=')
  let value := word.drop (name.length + 1)
  match word with
  | '-' :: '-' :: _ =>
    match forms.find? fun f ↦ '-' :: '-' :: f.name.toList == name with
    | none => none
    | some f =>
      if f.takesValue then
        if name.length < word.length then some ([(f.name, String.ofList value)], none)
        else some ([], some f.name)
      else if name.length < word.length then none
      else some ([(f.name, "")], none)
  | _ => letters forms (word.drop 1)

/-- Whether a word is an option: a hyphen and something behind it. -/
def isOption (word : String) : Bool :=
  match word.toList with
  | '-' :: _ :: _ => true
  | _ => false

/-- Sorts words into options and operands.  Unless they may be `mixed`, the first operand ends the
options. -/
def read (forms : List OptionForm) (mixed : Bool) : List String → Option Arguments
  | [] => some ⟨[], []⟩
  | word :: r =>
    if word = "--" then some (ofOperands r)
    else if isOption word then
      match option forms word.toList with
      | none => none
      | some (given, none) =>
        (read forms mixed r).map fun a ↦ { a with given := given ++ a.given }
      | some (given, some name) =>
        match r with
        | [] => none
        | value :: rest =>
          (read forms mixed rest).map fun a ↦ { a with given := given ++ (name, value) :: a.given }
    else if mixed then (read forms mixed r).map (withOperand word)
    else some (ofOperands (word :: r))

/-- Whether an option is given. -/
def has (a : Arguments) (name : String) : Bool := a.given.any (·.1 == name)

/-- The values of an option, in order. -/
def values (a : Arguments) (name : String) : List String :=
  a.given.filterMap fun e ↦ if e.1 = name then some e.2 else none

/-- The value that counts of an option: the last one. -/
def value? (a : Arguments) (name : String) : Option String := (a.values name).getLast?

end Arguments
end Rulebook
