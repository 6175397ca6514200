import Messenger.Yaml.Lexer

set_option relaxedAutoImplicit false
set_option autoImplicit false

/-!
# Events

The structure of a document as a row of events: scalars, and the beginnings and ends of sequences
and mappings. A node that is left out is an empty scalar.

## Main definitions

* `Messenger.Yaml.Event`: the events.
* `Messenger.Yaml.Reader`: what is needed to go on from event to event.
* `Messenger.Yaml.Reader.step`: the next event.
* `Messenger.Yaml.Reader.begin`: the beginning of the next document.

## Design

What can come next is a stack of expectations. Each step takes the topmost one, looks at the next
token, and replaces the expectation by others.
-/

namespace Messenger.Yaml

/-- An event. -/
inductive Event
  | alias (anchor : List Char)
  | scalar (anchor : Option (List Char)) (tag : Option TagText) (text : String) (style : Style)
  | sequenceStart (anchor : Option (List Char))
  | sequenceEnd
  | mappingStart (anchor : Option (List Char))
  | mappingEnd
  deriving DecidableEq, Repr, Inhabited

/-- What is expected next. A collection knows where it begins, and whether an item has been read. -/
inductive Expectation
  /-- The content of a document. -/
  | content
  /-- A node, within a collection by indentation or within brackets. A key or a value may be a
  sequence that is not indented. -/
  | node (block : Bool) (unindented : Bool)
  | blockItem (began : Mark)
  | unindentedItem
  | blockKey (began : Mark)
  | blockValue (began : Mark)
  | flowItem (began : Mark) (first : Bool)
  /-- The parts of a single pair within a sequence in brackets. -/
  | pairKey
  | pairValue
  | pairEnd
  | flowKey (began : Mark) (first : Bool)
  | flowValue
  | flowNoValue
  deriving DecidableEq, Repr, Inhabited

/-- What is needed to go on from event to event. -/
structure Reader where
  lexer : Lexer
  /-- The handles of tags and what they stand for. -/
  shorthands : List (TagText × TagText) := []
  expected : List Expectation := []
  deriving Repr, Inhabited

/-- An event with the mark of its beginning. -/
abbrev Marked := Event × Mark

namespace Reader

/-- The beginning of a text. -/
def start (text : List Char) : Reader := { lexer := .start text }

/-- The next token. -/
def peek (r : Reader) : Except Problem (Placed × Reader) :=
  (r.lexer.peek).map fun (t, lexer) => (t, { r with lexer := lexer })

/-- Goes on behind the next token. -/
def take (r : Reader) : Reader := { r with lexer := r.lexer.take }

/-- More is expected first. -/
def expect (es : List Expectation) (r : Reader) : Reader :=
  { r with expected := es ++ r.expected }

/-- A node that is left out. -/
def empty (mark : Mark) (r : Reader) : Marked × Reader :=
  ((.scalar none none "" .plain, mark), r)

/-! ### Nodes -/

/-- The anchor and the tag of a node, with the mark where the node begins and the mark of the
tag. -/
structure Properties where
  anchor : Option (List Char) := none
  tag : Option (TagText × TagText) := none
  start : Mark
  tagMark : Mark
  deriving Repr, Inhabited

/-- Reads anchor and tag of a node in either order. -/
def readProperties (r : Reader) : Except Problem (Properties × Placed × Reader) := do
  let (t, r) ← r.peek
  match t.token with
  | .anchor name =>
    let (u, r) ← r.take.peek
    match u.token with
    | .tag handle suffix =>
      let (v, r) ← r.take.peek
      return (⟨some name, some (handle, suffix), t.start, u.start⟩, v, r)
    | _ => return (⟨some name, none, t.start, t.start⟩, u, r)
  | .tag handle suffix =>
    let (u, r) ← r.take.peek
    match u.token with
    | .anchor name =>
      let (v, r) ← r.take.peek
      return (⟨some name, some (handle, suffix), t.start, t.start⟩, v, r)
    | _ => return (⟨none, some (handle, suffix), t.start, t.start⟩, u, r)
  | _ => return (⟨none, none, t.start, t.start⟩, t, r)

/-- The whole tag of a node. -/
def resolveTag (p : Properties) (r : Reader) : Except Problem (Option TagText) :=
  match p.tag with
  | none => .ok none
  | some ([], suffix) => .ok (some suffix)
  | some (handle, suffix) =>
    match r.shorthands.lookup handle with
    | some start => .ok (some (start ++ suffix))
    | none =>
      .error {
        cause := "found undefined tag handle"
        mark := p.tagMark
        context := some ("while parsing a node", p.start) }

/-- The tag that says nothing. -/
def bareTag : TagText := bytesOf ['!']

/-- A node. -/
def readNode (block unindented : Bool) (r : Reader) : Except Problem (Marked × Reader) := do
  let (t, r) ← r.peek
  if let .alias name := t.token then return ((.alias name, t.start), r.take)
  let (p, t, r) ← readProperties r
  let tag ← resolveTag p r
  let event (e : Event) : Marked := (e, p.start)
  match t.token, block with
  | .scalar text style, _ =>
    let kept := if tag = some bareTag then none else tag
    return (event (.scalar p.anchor kept (String.ofList text) style), r.take)
  | .flowSequenceStart, _ =>
    return (event (.sequenceStart p.anchor), r.take.expect [.flowItem t.start true])
  | .flowMappingStart, _ =>
    return (event (.mappingStart p.anchor), r.take.expect [.flowKey t.start true])
  | .blockSequenceStart, true =>
    return (event (.sequenceStart p.anchor), r.take.expect [.blockItem t.start])
  | .blockMappingStart, true =>
    return (event (.mappingStart p.anchor), r.take.expect [.blockKey t.start])
  | .blockEntry, _ =>
    if unindented then return (event (.sequenceStart p.anchor), r.expect [.unindentedItem])
    else missing p tag t r
  | _, _ => missing p tag t r
where
  /-- A node without content: with a property it is empty, otherwise something is missing. -/
  missing (p : Properties) (tag : Option TagText) (t : Placed) (r : Reader) :
      Except Problem (Marked × Reader) :=
    if p.anchor.isSome || tag.isSome then
      .ok ((.scalar p.anchor tag "" .plain, p.start), r)
    else
      .error {
        cause := "did not find expected node content"
        mark := t.start
        context := some
          (if block then "while parsing a block node" else "while parsing a flow node", p.start) }

/-! ### Collections -/

/-- The problem of a collection that does not go on. -/
def collectionProblem (what cause : String) (began : Mark) (t : Placed) : Problem :=
  { cause := cause, mark := t.start, context := some (what, began) }

/-- An item of a sequence by indentation, or its end. -/
def readBlockItem (began : Mark) (r : Reader) : Except Problem (Marked × Reader) := do
  let (t, r) ← r.peek
  match t.token with
  | .blockEntry =>
    let (u, r) ← r.take.peek
    let r := r.expect [.blockItem began]
    if u.token = .blockEntry ∨ u.token = .blockEnd then return r.empty t.stop
    else readNode true false r
  | .blockEnd => return ((.sequenceEnd, t.start), r.take)
  | _ =>
    throw (collectionProblem "while parsing a block collection"
      "did not find expected '-' indicator" began t)

/-- Nothing of a value comes here, within a mapping by indentation. -/
def endsValue (t : Token) : Bool :=
  t = .key || t = .value || t = .blockEnd

/-- An item of a sequence that is not indented, or its end. -/
def readUnindentedItem (r : Reader) : Except Problem (Marked × Reader) := do
  let (t, r) ← r.peek
  match t.token with
  | .blockEntry =>
    let (u, r) ← r.take.peek
    let r := r.expect [.unindentedItem]
    if u.token = .blockEntry || endsValue u.token then return r.empty t.stop
    else readNode true false r
  | _ => return ((.sequenceEnd, t.start), r)

/-- A key of a mapping by indentation, or its end. -/
def readBlockKey (began : Mark) (r : Reader) : Except Problem (Marked × Reader) := do
  let (t, r) ← r.peek
  match t.token with
  | .key =>
    let (u, r) ← r.take.peek
    let r := r.expect [.blockValue began]
    if endsValue u.token then return r.empty t.stop else readNode true true r
  | .blockEnd => return ((.mappingEnd, t.start), r.take)
  | _ =>
    throw (collectionProblem "while parsing a block mapping" "did not find expected key" began t)

/-- A value of a mapping by indentation. -/
def readBlockValue (began : Mark) (r : Reader) : Except Problem (Marked × Reader) := do
  let (t, r) ← r.peek
  match t.token with
  | .value =>
    let (u, r) ← r.take.peek
    let r := r.expect [.blockKey began]
    if endsValue u.token then return r.empty t.stop else readNode true true r
  | _ => return (r.expect [.blockKey began]).empty t.start

/-- Goes on behind the comma in front of an item within brackets. Before the first item none is
needed. -/
def skipComma (what cause : String) (began : Mark) (first : Bool) (t : Placed) (r : Reader) :
    Except Problem (Placed × Reader) :=
  if first then .ok (t, r)
  else if t.token = .flowEntry then r.take.peek
  else .error (collectionProblem what cause began t)

/-- An item of a sequence in brackets, or its end. -/
def readFlowItem (began : Mark) (first : Bool) (r : Reader) :
    Except Problem (Marked × Reader) := do
  let (t, r) ← r.peek
  if t.token = .flowSequenceEnd then return ((.sequenceEnd, t.start), r.take)
  let (t, r) ← skipComma "while parsing a flow sequence" "did not find expected ',' or ']'"
    began first t r
  let more := r.expect [.flowItem began false]
  match t.token with
  | .key => return ((.mappingStart none, t.start), more.take.expect [.pairKey])
  | .flowSequenceEnd => return ((.sequenceEnd, t.start), r.take)
  | _ => readNode false false more

/-- The key of a single pair. -/
def readPairKey (r : Reader) : Except Problem (Marked × Reader) := do
  let (t, r) ← r.peek
  let more := r.expect [.pairValue]
  match t.token with
  | .value | .flowEntry | .flowSequenceEnd => return more.take.empty t.stop
  | _ => readNode false false more

/-- The value of a single pair. -/
def readPairValue (r : Reader) : Except Problem (Marked × Reader) := do
  let (t, r) ← r.peek
  let more := r.expect [.pairEnd]
  match t.token with
  | .value =>
    let (u, r) ← r.take.peek
    match u.token with
    | .flowEntry | .flowSequenceEnd => return (r.expect [.pairEnd]).empty u.start
    | _ => readNode false false (r.expect [.pairEnd])
  | _ => return more.empty t.start

/-- A key of a mapping in brackets, or its end. -/
def readFlowKey (began : Mark) (first : Bool) (r : Reader) :
    Except Problem (Marked × Reader) := do
  let (t, r) ← r.peek
  if t.token = .flowMappingEnd then return ((.mappingEnd, t.start), r.take)
  let (t, r) ← skipComma "while parsing a flow mapping" "did not find expected ',' or '\x7d'"
    began first t r
  let more := r.expect [.flowKey began false]
  match t.token with
  | .key =>
    let (u, r) ← r.take.peek
    let more := r.expect [.flowValue, .flowKey began false]
    match u.token with
    | .value | .flowEntry | .flowMappingEnd => return more.empty u.start
    | _ => readNode false false more
  | .flowMappingEnd => return ((.mappingEnd, t.start), r.take)
  | _ => readNode false false (more.expect [.flowNoValue])

/-- A value of a mapping in brackets. -/
def readFlowValue (r : Reader) : Except Problem (Marked × Reader) := do
  let (t, r) ← r.peek
  match t.token with
  | .value =>
    let (u, r) ← r.take.peek
    match u.token with
    | .flowEntry | .flowMappingEnd => return r.empty u.start
    | _ => readNode false false r
  | _ => return r.empty t.start

/-- The content of a document, which may be left out. -/
def readContent (r : Reader) : Except Problem (Marked × Reader) := do
  let (t, r) ← r.peek
  match t.token with
  | .version _ _ | .shorthand _ _ | .documentStart | .documentEnd | .streamEnd =>
    return r.empty t.start
  | _ => readNode true false r

/-! ### Documents -/

/-- The next event of a document, if there is one. -/
def step (r : Reader) : Except Problem (Option (Marked × Reader)) :=
  match r.expected with
  | [] => .ok none
  | e :: rest =>
    let r := { r with expected := rest }
    some <$> match e with
      | .content => r.readContent
      | .node block unindented => r.readNode block unindented
      | .blockItem began => r.readBlockItem began
      | .unindentedItem => r.readUnindentedItem
      | .blockKey began => r.readBlockKey began
      | .blockValue began => r.readBlockValue began
      | .flowItem began first => r.readFlowItem began first
      | .pairKey => r.readPairKey
      | .pairValue => r.readPairValue
      | .pairEnd => do
        let (t, r) ← r.peek
        return ((.mappingEnd, t.start), r)
      | .flowKey began first => r.readFlowKey began first
      | .flowValue => r.readFlowValue
      | .flowNoValue => do
        let (t, r) ← r.peek
        return r.empty t.start

/-- The handles that need no directive. -/
def standardShorthands : List (TagText × TagText) :=
  [(bytesOf ['!'], bytesOf ['!']), (bytesOf ['!', '!'], bytesOf "tag:yaml.org,2002:".toList)]

/-- Reads directives, so many at most. -/
def readDirectives : Nat → Bool → List (TagText × TagText) → Reader →
    Except Problem (List (TagText × TagText) × Reader)
  | 0, _, shorthands, r => .ok (shorthands, r)
  | n + 1, versioned, shorthands, r => do
    let (t, r) ← r.peek
    let refuse (cause : String) : Problem := { cause := cause, mark := t.start }
    match t.token with
    | .version major minor =>
      if versioned then throw (refuse "found duplicate %YAML directive")
      if major ≠ 1 ∨ (minor ≠ 1 ∧ minor ≠ 2) then
        throw (refuse "found incompatible YAML document")
      readDirectives n true shorthands r.take
    | .shorthand handle start =>
      if (shorthands.lookup handle).isSome then throw (refuse "found duplicate %TAG directive")
      readDirectives n versioned (shorthands ++ [(handle, start)]) r.take
    | _ => return (shorthands ++ standardShorthands, r)

/-- Skips the ends of documents, so many at most. -/
def skipEnds : Nat → Reader → Except Problem (Placed × Reader)
  | 0, r => r.peek
  | n + 1, r => do
    let (t, r) ← r.peek
    if t.token = .documentEnd then skipEnds n r.take else return (t, r)

/-- How many tokens can be left. -/
def bound (r : Reader) : Nat :=
  r.lexer.cursor.size + r.lexer.queue.length + 3

/-- The beginning of the next document, if there is one. The first document needs no sign. -/
def begin (first : Bool) (r : Reader) : Except Problem (Option Reader) := do
  let (t, r) ← if first then r.peek else skipEnds r.bound r
  match t.token with
  | .streamEnd => return none
  | .version _ _ | .shorthand _ _ | .documentStart => explicit r
  | _ =>
    if first then
      return some { r with shorthands := standardShorthands, expected := [.node true false] }
    else explicit r
where
  /-- A document that begins with directives and a sign. -/
  explicit (r : Reader) : Except Problem (Option Reader) := do
    let (shorthands, r) ← readDirectives r.bound false [] r
    let (t, r) ← r.peek
    if t.token ≠ .documentStart then
      throw { cause := "did not find expected <document start>", mark := t.start }
    return some { r.take with shorthands := shorthands, expected := [.content] }

/-- Goes on behind the end of a document. -/
def finish (r : Reader) : Except Problem Reader := do
  let (t, r) ← r.peek
  return if t.token = .documentEnd then r.take else r

end Reader

end Messenger.Yaml
