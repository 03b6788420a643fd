import Rulebook.Yaml.Resolution
import Rulebook.Yaml.Token

/-!
# The nodes of a YAML document

A document is a tree of scalars, sequences and mappings, each with a tag that says what it is.
`Node.ofTokens` reads the one document that the tokens of a text may hold.  An alias is replaced by
the node it stands for; a node that would contain itself is refused.
-/

set_option autoImplicit false

namespace Rulebook
namespace Yaml

/-- A node. -/
inductive Node where
  | scalar (tag : Tag) (text : String)
  | sequence (tag : Tag) (items : List Node)
  | mapping (tag : Tag) (entries : List (Node × Node))

/-- What is known while tokens are read. -/
structure Nodes where
  rest : List Token
  /-- The nodes that aliases can stand for; one that is not complete is there without its node. -/
  anchors : List (String × Option Node)
  /-- What the handles of tags stand for. -/
  handles : List (String × String)

/-- A reader of nodes. -/
abbrev NodeReader := StateT Nodes (Except Refusal)

namespace NodeReader

/-- The next token, which stays. -/
def peek : NodeReader (Option Token) := return (← get).rest.head?

/-- Moves on by one token. -/
def skip : NodeReader Unit := modify fun s ↦ { s with rest := s.rest.drop 1 }

/-- Refuses the document at the next token. -/
def unexpected {α : Type} : NodeReader α := do
  match ← peek with
  | some (.refused r) => throw r
  | _ => throw .malformed

/-- The node of an empty place. -/
def emptyNode : Node := .scalar .null ""

/-- An anchor, if it is next. -/
def anchor? : NodeReader (Option String) := do
  match ← peek with
  | some (.anchor n) => skip; return some n
  | _ => return none

/-- A tag, if it is next, with its handle replaced. -/
def tag? : NodeReader (Option String) := do
  match ← peek with
  | some (.tag handle suffix) =>
    skip
    match handle with
    | none => return some suffix
    | some h =>
      match (← get).handles.lookup h with
      | some replacement => return some (replacement ++ suffix)
      | none => throw .malformed
  | _ => return none

/-- Takes down what an anchor stands for. -/
def define (anchor : Option String) (node : Option Node) : NodeReader Unit :=
  match anchor with
  | none => return ()
  | some n => modify fun s ↦ { s with anchors := (n, node) :: s.anchors }

/-- Takes down an anchor whose node begins here.  Each name is used once. -/
def announce (anchor : Option String) : NodeReader Unit := do
  match anchor with
  | none => return ()
  | some n =>
    if ((← get).anchors.lookup n).isSome then throw .malformed
    define anchor none

/-- The tag of a collection. -/
def collectionTag (tag : Option String) (usual : Tag) : Tag :=
  match tag with
  | none | some "!" => usual
  | some t => .ofName t

/-- The tag of a scalar: as given, or by its form when it is plain or asks for that. -/
def scalarTag (tag : Option String) (plain : Bool) (text : String) : Tag :=
  match tag with
  | none => if plain then .ofPlain text.toList else .text
  | some "!" => .ofPlain text.toList
  | some t => .ofName t

/-- Whether the next token is one of those that a test accepts. -/
def isNext (test : Token → Bool) : NodeReader Bool := return (← peek).any test

/-- Whether a token begins an item or ends the block. -/
def endsItem : Token → Bool
  | .item | .blockEnd => true
  | _ => false

/-- Whether a token begins an item or goes on with the mapping around it. -/
def endsIndentless : Token → Bool
  | .item | .key | .value | .blockEnd => true
  | _ => false

/-- Whether a token ends a part of a block mapping. -/
def endsPart : Token → Bool
  | .key | .value | .blockEnd => true
  | _ => false

/-- Whether a token is a value indicator. -/
def isValue : Token → Bool
  | .value => true
  | _ => false

/-- Whether a token is a key indicator. -/
def isKey : Token → Bool
  | .key => true
  | _ => false

/-- Whether a token is a comma. -/
def isComma : Token → Bool
  | .comma => true
  | _ => false

/-- Whether a token begins an item. -/
def isItem : Token → Bool
  | .item => true
  | _ => false

/-- Whether a token ends a block. -/
def isBlockEnd : Token → Bool
  | .blockEnd => true
  | _ => false

/-- Whether a token ends a sequence in brackets. -/
def isSequenceEnd : Token → Bool
  | .sequenceEnd => true
  | _ => false

/-- Whether a token ends a mapping in braces. -/
def isMappingEnd : Token → Bool
  | .mappingEnd => true
  | _ => false

/-- The kinds of places a node can be at. -/
inductive Place where
  /-- Inside brackets. -/
  | flow
  | block
  /-- In a block mapping, where the items of a sequence need not be indented. -/
  | blockValue
deriving DecidableEq

mutual

/-- A node. -/
def node (place : Place) : (fuel : Nat) → NodeReader Node
  | 0 => throw .malformed
  | fuel + 1 => do
    match ← peek with
    | some (.alias n) => do
      skip
      match (← get).anchors.lookup n with
      | some (some node) => return node
      | _ => throw .malformed
    | _ => do
      let before ← anchor?
      let tag ← tag?
      let anchor ← if before.isSome then pure before else if tag.isSome then anchor? else pure none
      announce anchor
      let result ← content place anchor tag fuel
      define anchor (some result)
      return result

/-- What follows the anchor and the tag of a node. -/
def content (place : Place) (anchor tag : Option String) : (fuel : Nat) → NodeReader Node
  | 0 => throw .malformed
  | fuel + 1 => do
    match ← peek with
    | some (.scalar text plain) => do
      skip
      return .scalar (scalarTag tag plain text) text
    | some .sequenceStart => do
      skip
      return .sequence (collectionTag tag .sequence) (← flowItems fuel [])
    | some .mappingStart => do
      skip
      return .mapping (collectionTag tag .mapping) (← flowEntries fuel [])
    | t =>
      match place, t with
      | .blockValue, some .item =>
        return .sequence (collectionTag tag .sequence) (← blockItems true fuel [])
      | .block, some .blockSequenceStart | .blockValue, some .blockSequenceStart => do
        skip
        return .sequence (collectionTag tag .sequence) (← blockItems false fuel [])
      | .block, some .blockMappingStart | .blockValue, some .blockMappingStart => do
        skip
        return .mapping (collectionTag tag .mapping) (← blockEntries fuel [])
      | _, _ =>
        if anchor.isSome || tag.isSome then return .scalar (scalarTag tag true "") ""
        else unexpected

/-- The items of a block sequence.  One that is not indented ends without a token of its own. -/
def blockItems (indentless : Bool) : (fuel : Nat) → List Node → NodeReader (List Node)
  | 0, _ => throw .malformed
  | fuel + 1, done => do
    if ← isNext isItem then
      skip
      if ← isNext (if indentless then endsIndentless else endsItem) then
        blockItems indentless fuel (emptyNode :: done)
      else
        let n ← node .block fuel
        blockItems indentless fuel (n :: done)
    else if indentless then return done.reverse
    else if ← isNext isBlockEnd then
      skip
      return done.reverse
    else unexpected

/-- A part of an entry of a block mapping, whose indicator is consumed. -/
def blockPart : (fuel : Nat) → NodeReader Node
  | 0 => throw .malformed
  | fuel + 1 => do
    skip
    if ← isNext endsPart then return emptyNode else node .blockValue fuel

/-- The entries of a block mapping. -/
def blockEntries : (fuel : Nat) → List (Node × Node) → NodeReader (List (Node × Node))
  | 0, _ => throw .malformed
  | fuel + 1, done => do
    if ← isNext isKey then
      let key ← blockPart fuel
      let value ← if ← isNext isValue then blockPart fuel else pure emptyNode
      blockEntries fuel ((key, value) :: done)
    else if ← isNext isBlockEnd then
      skip
      return done.reverse
    else unexpected

/-- A part of a pair in brackets, whose indicator is consumed. -/
def flowPart (ends : Token → Bool) : (fuel : Nat) → NodeReader Node
  | 0 => throw .malformed
  | fuel + 1 => do
    skip
    if ← isNext ends then return emptyNode else node .flow fuel

/-- The items of a sequence in brackets.  An item may be a pair: a mapping with one entry. -/
def flowItems : (fuel : Nat) → List Node → NodeReader (List Node)
  | 0, _ => throw .malformed
  | fuel + 1, done => do
    if ← isNext isSequenceEnd then
      skip
      return done.reverse
    else
      if !done.isEmpty then
        if ← isNext isComma then skip else unexpected
      if ← isNext isKey then
        let key ← flowPart (fun t ↦ isValue t || isComma t || isSequenceEnd t) fuel
        let value ← if ← isNext isValue then
            flowPart (fun t ↦ isComma t || isSequenceEnd t) fuel
          else pure emptyNode
        flowItems fuel (.mapping .mapping [(key, value)] :: done)
      else if ← isNext isSequenceEnd then
        skip
        return done.reverse
      else
        let n ← node .flow fuel
        flowItems fuel (n :: done)

/-- The entries of a mapping in braces. -/
def flowEntries : (fuel : Nat) → List (Node × Node) → NodeReader (List (Node × Node))
  | 0, _ => throw .malformed
  | fuel + 1, done => do
    if ← isNext isMappingEnd then
      skip
      return done.reverse
    else
      if !done.isEmpty then
        if ← isNext isComma then skip else unexpected
      if ← isNext isKey then
        let key ← flowPart (fun t ↦ isValue t || isComma t || isMappingEnd t) fuel
        let value ← if ← isNext isValue then
            flowPart (fun t ↦ isComma t || isMappingEnd t) fuel
          else pure emptyNode
        flowEntries fuel ((key, value) :: done)
      else if ← isNext isMappingEnd then
        skip
        return done.reverse
      else
        let n ← node .flow fuel
        flowEntries fuel ((n, emptyNode) :: done)

end

/-- The directives before a document, with the handles and whether there was a version. -/
def directives : (fuel : Nat) → (versioned : Bool) → List (String × String) →
    NodeReader (List (String × String))
  | 0, _, _ => throw .malformed
  | fuel + 1, versioned, done => do
    match ← peek with
    | some (.directive d) => do
      skip
      match d with
      | .version major _ =>
        if versioned || major != 1 then throw .malformed
        directives fuel true done
      | .handle name replacement =>
        if (done.lookup name).isSome then throw .malformed
        directives fuel versioned ((name, replacement) :: done)
      | .other => directives fuel versioned done
    | _ => return done

/-- What the two handles stand for that need no directive. -/
def usualHandles : List (String × String) := [("!", "!"), ("!!", "tag:yaml.org,2002:")]

/-- Skips tokens that end documents. -/
def skipEnds : (fuel : Nat) → NodeReader Unit
  | 0 => return ()
  | fuel + 1 => do
    match ← peek with
    | some .documentEnd => skip; skipEnds fuel
    | _ => return ()

/-- Whether a document without content ends at a token. -/
def endsDocument : Option Token → Bool
  | none | some (.directive _) | some .documentStart | some .documentEnd => true
  | _ => false

/-- The document of a text; nothing when there is none, and refusal of a second one. -/
def document (fuel : Nat) : NodeReader (Option Node) := do
  let found ← match ← peek with
    | none => return none
    | some (.directive _) | some .documentStart => do
      let given ← directives fuel false []
      match ← peek with
      | some .documentStart => skip
      | _ => unexpected
      modify fun s ↦ { s with handles := given ++ usualHandles }
      if endsDocument (← peek) then pure emptyNode else node .block fuel
    | _ => node .block fuel
  skipEnds fuel
  if (← peek).isNone then return some found else unexpected

end NodeReader

/-- The node of the one document that tokens hold, if they hold any. -/
def Node.ofTokens (ts : List Token) : Except Refusal (Option Node) := do
  let (n, _) ← (NodeReader.document (4 * ts.length + 4)).run ⟨ts, [], NodeReader.usualHandles⟩
  return n

end Yaml
end Rulebook
