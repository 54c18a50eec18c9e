import InstallWatch.Yaml.Node
import InstallWatch.Yaml.Scalar
import InstallWatch.Yaml.Token.Lexer

/-!
Putting tokens together to documents. A document may have directives in front, which give it handles for
tags, and its nodes and anchors are its own. An anchor may be set once, and an alias has to follow its anchor.
-/

namespace InstallWatch.Yaml

/-- The tokens that are left, what is wrong behind them, and the document's nodes and anchors so far. -/
structure Progress where
  tokens : List Token
  stop : Stop
  graph : Graph
  anchors : List (String × NodeId)

/-- Handles of tags and what they stand for. -/
abbrev Handles := List (String × String)

def standardHandles : Handles := [("!", "!"), ("!!", "tag:yaml.org,2002:")]

abbrev Composing := StateT Progress (Except Stop)

namespace Composing

def refuse {α : Type} : Composing α := throw .malformed

/-- The next token. Where there is none, the text is broken off. -/
def peek : Composing Token := do
  let p ← get
  match p.tokens with
  | t :: _ => return t
  | [] => throw p.stop

def skip : Composing Unit := modify fun p => { p with tokens := p.tokens.tail }

def expect (t : Token) : Composing Unit := do
  if (← peek) = t then skip else refuse

/-- Skips the token if it comes next, and says whether it did. -/
def skipIf (t : Token) : Composing Bool := do
  if (← peek) = t then do skip; return true else return false

/-- Adds a node, under an anchor if it has one, which must be new. -/
def add (anchor : Option String) (n : Node) : Composing NodeId := do
  let p ← get
  if (anchor.bind fun name => p.anchors.lookup name).isSome then refuse
  let id := p.graph.size
  set { p with graph := p.graph.push n, anchors := (anchor.map (·, id)).toList ++ p.anchors }
  return id

/-- Puts in the place of a node what it has turned out to be. -/
def settle (id : NodeId) (n : Node) : Composing Unit :=
  modify fun p => { p with graph := p.graph.set id n }

end Composing

open Composing

/-- The null that stands where a node is left out. -/
def missingNode : Composing NodeId := add none .missing

/-- The anchor and the tag in front of a node, in either order. -/
def properties : Composing (Option String × Option TagText) := do
  match ← peek with
  | .anchor a =>
    skip
    match ← peek with
    | .tag t => skip; return (some a, some t)
    | _ => return (some a, none)
  | .tag t =>
    skip
    match ← peek with
    | .anchor a => skip; return (some a, some t)
    | _ => return (none, some t)
  | _ => return (none, none)

/-- The tag that is written, with its handle resolved. -/
def resolveTag (handles : Handles) : Option TagText → Composing (Option Tag)
  | none => return none
  | some ⟨none, rest⟩ => return some rest
  | some ⟨some handle, rest⟩ => match handles.lookup handle with
    | some leader => return some (leader ++ rest)
    | none => refuse

/-- The tag of a collection: the lone mark and no tag leave it as it is. -/
def collectionTag (usual : Tag) : Option Tag → Tag
  | none => usual
  | some t => if t = "!" then usual else t

/-- The tag of a scalar: without one, a plain scalar has the tag of its look. -/
def scalarTag (text : String) (plain : Bool) : Option Tag → Tag
  | none => if plain then Look.tagOf text else Tag.str
  | some t => if t = "!" then Look.tagOf text else t

/-- Where a node stands. Blocks start in blocks only, and a sequence needs no indentation of its own where it is
a key or value of a block mapping. -/
inductive Place where
  | block
  | blockEntry
  | flow
deriving DecidableEq

mutual

/-- The next node, with room for so many nodes inside each other. -/
def node (handles : Handles) : Nat → (room : Nat) → Place → Composing NodeId
  | 0, _, _ => refuse
  | _ + 1, 0, _ => throw .tooDeep
  | fuel + 1, room + 1, place => do
    match ← peek with
    | .alias name =>
      skip
      match (← get).anchors.lookup name with
      | some id => return id
      | none => refuse
    | _ =>
      let (anchor, written) ← properties
      let tag ← resolveTag handles written
      let sequence (items : Composing (List NodeId)) : Composing NodeId := do
        let t := collectionTag Tag.seq tag
        let id ← add anchor (.sequence t [])
        settle id (.sequence t (← items))
        return id
      let mapping (entries : Composing (List NodeEntry)) : Composing NodeId := do
        let t := collectionTag Tag.map tag
        let id ← add anchor (.mapping t [])
        settle id (.mapping t (← entries))
        return id
      match ← peek, place with
      | .blockEntry, .blockEntry => sequence (indentless handles fuel room [])
      | .scalar s plain, _ =>
        skip
        add anchor (.scalar (scalarTag s plain tag) s)
      | .flowSequenceStart, _ =>
        skip
        sequence (flowItems handles fuel room true [])
      | .flowMappingStart, _ =>
        skip
        mapping (flowEntries handles fuel room true [])
      | .blockSequenceStart, .block | .blockSequenceStart, .blockEntry =>
        skip
        sequence (blockItems handles fuel room [])
      | .blockMappingStart, .block | .blockMappingStart, .blockEntry =>
        skip
        mapping (blockEntries handles fuel room [])
      | _, _ =>
        if anchor.isNone && tag.isNone then refuse
        add anchor (.scalar (scalarTag "" (tag.isNone) tag) "")

/-- A node, unless one of the tokens comes that end it before it began. -/
def nodeUnless (handles : Handles) : Nat → (room : Nat) → Place → List Token → Composing NodeId
  | 0, _, _, _ => refuse
  | fuel + 1, room, place, enders => do
    if enders.contains (← peek) then missingNode else node handles fuel room place

/-- The items of a block sequence, the ones before in reverse. -/
def blockItems (handles : Handles) : Nat → (room : Nat) → List NodeId → Composing (List NodeId)
  | 0, _, _ => refuse
  | fuel + 1, room, done => do
    if ← skipIf .blockEntry then
      let n ← nodeUnless handles fuel room .block [.blockEntry, .blockEnd]
      blockItems handles fuel room (n :: done)
    else
      expect .blockEnd
      return done.reverse

/-- The items of a sequence at the indentation of its mapping. -/
def indentless (handles : Handles) : Nat → (room : Nat) → List NodeId → Composing (List NodeId)
  | 0, _, _ => refuse
  | fuel + 1, room, done => do
    if ← skipIf .blockEntry then
      let n ← nodeUnless handles fuel room .block [.blockEntry, .key, .value, .blockEnd]
      indentless handles fuel room (n :: done)
    else return done.reverse

def blockEntries (handles : Handles) : Nat → (room : Nat) → List NodeEntry → Composing (List NodeEntry)
  | 0, _, _ => refuse
  | fuel + 1, room, done => do
    if ← skipIf .key then
      let k ← nodeUnless handles fuel room .blockEntry [.key, .value, .blockEnd]
      let v ← blockValue handles fuel room
      blockEntries handles fuel room ((k, v) :: done)
    else
      expect .blockEnd
      return done.reverse

/-- The value of an entry of a block mapping, which may be left out. -/
def blockValue (handles : Handles) : Nat → (room : Nat) → Composing NodeId
  | 0, _ => refuse
  | fuel + 1, room => do
    if ← skipIf .value then nodeUnless handles fuel room .blockEntry [.key, .value, .blockEnd]
    else missingNode

/-- The items of a flow sequence. An entry of a mapping may stand for a mapping of its own. -/
def flowItems (handles : Handles) :
    Nat → (room : Nat) → (first : Bool) → List NodeId → Composing (List NodeId)
  | 0, _, _, _ => refuse
  | fuel + 1, room, first, done => do
    if ← skipIf .flowSequenceEnd then return done.reverse
    else
      if !first then expect .flowEntry
      if ← skipIf .key then
        let id ← pairMapping handles fuel room
        flowItems handles fuel room false (id :: done)
      else if ← skipIf .flowSequenceEnd then return done.reverse
      else
        let n ← node handles fuel room .flow
        flowItems handles fuel room false (n :: done)

/-- The mapping of one entry that an item of a flow sequence stands for. -/
def pairMapping (handles : Handles) : Nat → (room : Nat) → Composing NodeId
  | 0, _ => refuse
  | _ + 1, 0 => throw .tooDeep
  | fuel + 1, room + 1 => do
    let id ← add none (.mapping Tag.map [])
    let k ← nodeUnless handles fuel room .flow [.value, .flowEntry, .flowSequenceEnd]
    let v ← flowValue handles fuel room [.flowEntry, .flowSequenceEnd]
    settle id (.mapping Tag.map [(k, v)])
    return id

def flowEntries (handles : Handles) :
    Nat → (room : Nat) → (first : Bool) → List NodeEntry → Composing (List NodeEntry)
  | 0, _, _, _ => refuse
  | fuel + 1, room, first, done => do
    if ← skipIf .flowMappingEnd then return done.reverse
    else
      if !first then expect .flowEntry
      if ← skipIf .key then
        let k ← nodeUnless handles fuel room .flow [.value, .flowEntry, .flowMappingEnd]
        let v ← flowValue handles fuel room [.flowEntry, .flowMappingEnd]
        flowEntries handles fuel room false ((k, v) :: done)
      else if ← skipIf .flowMappingEnd then return done.reverse
      else
        let k ← node handles fuel room .flow
        let v ← missingNode
        flowEntries handles fuel room false ((k, v) :: done)

/-- The value of an entry in a flow collection, which may be left out. -/
def flowValue (handles : Handles) : Nat → (room : Nat) → List Token → Composing NodeId
  | 0, _, _ => refuse
  | fuel + 1, room, enders => do
    if ← skipIf .value then nodeUnless handles fuel room .flow enders else missingNode

end

/-- The directives in front of a document: at most one version, which is 1, and handles for tags. -/
def directives : Nat → (versioned : Bool) → Handles → Composing Handles
  | 0, _, _ => refuse
  | fuel + 1, versioned, handles => do
    match ← peek with
    | .directive (.version major) =>
      if versioned || major ≠ 1 then refuse
      skip
      directives fuel true handles
    | .directive (.tag handle leader) =>
      if (handles.lookup handle).isSome then refuse
      skip
      directives fuel versioned ((handle, leader) :: handles)
    | .directive .other =>
      skip
      directives fuel versioned handles
    | _ => return handles

variable [Room]

/-- A document of its own nodes. -/
def inDocument (root : Composing NodeId) : Composing Document := do
  modify fun p => { p with graph := .empty, anchors := [] }
  let id ← root
  return ⟨(← get).graph, id⟩

/-- A document without a start mark. -/
def bareDocument (fuel : Nat) : Composing Document := do
  let d ← inDocument (node standardHandles fuel Room.nodes .block)
  let _ ← skipIf .documentEnd
  return d

/-- The directives and the start mark of a document, and the handles it has. -/
def documentStart (fuel : Nat) : Composing Handles := do
  let own ← directives fuel false []
  expect .documentStart
  return own ++ standardHandles.filter fun h => (own.lookup h.1).isNone

/-- A document with a start mark, which may be all there is of it. -/
def markedDocument (fuel : Nat) : Composing Document := do
  let handles ← documentStart fuel
  let d ← inDocument do
    match ← peek with
    | .directive _ | .documentStart | .documentEnd | .streamEnd => missingNode
    | _ => node handles fuel Room.nodes .block
  let _ ← skipIf .documentEnd
  return d

def skipEnds : Nat → Composing Unit
  | 0 => refuse
  | fuel + 1 => do if ← skipIf .documentEnd then skipEnds fuel

/-- The first document, if there is one. It needs no start mark. -/
def firstDocument (fuel : Nat) : Composing (Option Document) := do
  match ← peek with
  | .streamEnd => return none
  | .directive _ | .documentStart => return some (← markedDocument fuel)
  | _ => return some (← bareDocument fuel)

/-- The next document behind another one, if there is one. -/
def nextDocument (fuel : Nat) : Composing (Option Document) := do
  skipEnds fuel
  if (← peek) = .streamEnd then return none else return some (← markedDocument fuel)

/-- The document of a text that may hold one only. Of another one nothing is read but its start. -/
def soleDocument (fuel : Nat) : Composing (Option Document) := do
  match ← firstDocument fuel with
  | none => return none
  | some d =>
    skipEnds fuel
    if (← peek) = .streamEnd then return some d
    else
      let _ ← documentStart fuel
      refuse

/-- The documents up to the first that is not well formed, and what is wrong with that one. -/
def documentsFrom (bound : Nat) : Nat → (next : Composing (Option Document)) → Progress →
    List Document × Option Stop
  | 0, _, _ => ([], some .malformed)
  | fuel + 1, next, p =>
    match next.run p with
    | .error stop => ([], some stop)
    | .ok (none, _) => ([], none)
    | .ok (some d, p) =>
      let (ds, stop) := documentsFrom bound fuel (nextDocument bound) p
      (d :: ds, stop)

/-- A bound on the calls that the tokens of a text take. -/
def callBound (tokens : List Token) : Nat := 4 * tokens.length + 8

def Progress.start (s : List Char) : Progress :=
  let (tokens, stop) := tokenize s
  ⟨tokens, stop.getD .malformed, .empty, []⟩

/-- The document of a text, if it holds one; it may not hold another. -/
def documentOf (s : List Char) : Except Stop (Option Document) :=
  let p := Progress.start s
  ((soleDocument (callBound p.tokens)).run p).map (·.1)

/-- The documents of a text. -/
def documentsOf (s : List Char) : List Document × Option Stop :=
  let p := Progress.start s
  let bound := callBound p.tokens
  documentsFrom bound (p.tokens.length + 2) (firstDocument bound) p

end InstallWatch.Yaml
