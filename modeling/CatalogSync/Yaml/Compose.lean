import CatalogSync.Yaml.Scan
import CatalogSync.Yaml.Scalar

/-!
# YAML: from tokens to a tree

The composer reads the tokens of one document into a tree of nodes, taking each token only
when the grammar needs it, so that a problem further on in the text is only met once the
tree reaches it. Every node gets its tag here: a plain scalar by what its text means,
another scalar `str`, a sequence `seq` and a mapping `map`, unless the document names a tag.
An alias stands for a copy of the node its anchor marks.

A stream holds at most one document. An implicit document starts with its content, an
explicit one with `---`, after any directives; an empty stream holds none.
-/

namespace CatalogSync.Yaml

/-- A node of a document: a scalar, a sequence or a mapping, with its tag and the place it
starts. -/
inductive Node where
  | scalar (tag : String) (text : String) (start : Mark)
  | sequence (tag : String) (items : List Node) (start : Mark)
  | mapping (tag : String) (pairs : List (Node × Node)) (start : Mark)
  deriving Inhabited

def Node.tag : Node → String
  | .scalar t _ _ | .sequence t _ _ | .mapping t _ _ => t

def Node.start : Node → Mark
  | .scalar _ _ m | .sequence _ _ m | .mapping _ _ m => m

def Node.id : Node → String
  | .scalar .. => "scalar"
  | .sequence .. => "sequence"
  | .mapping .. => "mapping"

def defaultHandles : List (String × String) := [("!", "!"), ("!!", typeTag "")]

/-- The state of composing: the scanner, the nodes marked by anchors so far, and the tag
handles of the document with their prefixes. -/
structure Composer where
  scanner : Scanner
  anchors : List (String × Node) := []
  handles : List (String × String) := defaultHandles

abbrev ComposeM := StateT Composer (Except Problem)

def scanning {α : Type} (act : ScanM α) : ComposeM α := fun c =>
  match act.run c.scanner with
  | .ok (a, s) => .ok (a, { c with scanner := s })
  | .error e => .error e

def peekTok : ComposeM Token := scanning peekToken

def takeTok : ComposeM Token := scanning takeToken

def tokenBound : ComposeM Nat := do
  return 4 * ((← get).scanner.chars.size + 2)

def emptyScalar (m : Mark) : Node := .scalar (resolve "") "" m

def Problem.within (context : String) (contextMark : Mark) (problem : String) (place : Mark) : Problem :=
  .marked (some context) (some contextMark) problem (some place)

/-- The full tag of a tag token: the prefix of its handle, then its suffix. A handle the
document has not declared is unknown; by default `!` stands for itself and `!!` for the YAML
types. -/
def fullTag (start : Mark) (t : Token) : ComposeM String := do
  match t.handle with
  | none => pure t.text
  | some handle =>
    match (← get).handles.lookup handle with
    | some pfx => pure (pfx ++ t.text)
    | none =>
      throw (.within "while parsing a node" start ("found undefined tag handle " ++ Text.literal handle) t.start)

mutual

def node : Nat → Bool → Bool → ComposeM Node
  | 0, _, _ => throw .tooDeep
  | fuel + 1, block, indentless => do
    let t ← peekTok
    if t.kind == .reference then
      let _ ← takeTok
      match (← get).anchors.lookup t.text with
      | some n => return n
      | none => throw (.marked none none ("found undefined alias " ++ Text.literal t.text) (some t.start))
    let mut anchor : Option String := none
    let mut tagToken : Option Token := none
    let mut propertiesStart : Option Mark := none
    if t.kind == .anchor then
      let _ ← takeTok
      propertiesStart := some t.start
      anchor := some t.text
      let t2 ← peekTok
      if t2.kind == .tag then
        let _ ← takeTok
        tagToken := some t2
    else if t.kind == .tag then
      let _ ← takeTok
      propertiesStart := some t.start
      tagToken := some t
      let t2 ← peekTok
      if t2.kind == .anchor then
        let _ ← takeTok
        anchor := some t2.text
    let tag : Option String ← match tagToken with
      | some tt => some <$> fullTag (propertiesStart.getD tt.start) tt
      | none => pure none
    let start := propertiesStart.getD (← peekTok).start
    let implicit := tag.isNone || tag == some "!"
    let t ← peekTok
    if let some a := anchor then
      if let some first := (← get).anchors.lookup a then
        throw (.within ("found duplicate anchor " ++ Text.literal a ++ "; first occurrence") first.start
          "second occurrence" start)
    let collectionTag (default : String) : String := if implicit then typeTag default else tag.getD ""
    let n ←
      if indentless && t.kind == .blockEntry then indentlessSequence fuel (collectionTag "seq") start
      else if t.kind == .scalar then do
        let _ ← takeTok
        let resolved := match tag with
          | none => if t.plain then resolve t.text else typeTag "str"
          | some "!" => resolve t.text
          | some explicit => explicit
        pure (Node.scalar resolved t.text start)
      else if t.kind == .flowSequenceStart then flowSequence fuel (collectionTag "seq") start
      else if t.kind == .flowMappingStart then flowMapping fuel (collectionTag "map") start
      else if block && t.kind == .blockSequenceStart then blockSequence fuel (collectionTag "seq") start
      else if block && t.kind == .blockMappingStart then blockMapping fuel (collectionTag "map") start
      else if anchor.isSome || tag.isSome then
        pure (Node.scalar (if implicit then resolve "" else tag.getD "") "" start)
      else
        throw (.within ("while parsing a " ++ (if block then "block" else "flow") ++ " node") start
          ("expected the node content, but found " ++ Text.literal t.kind.id) t.start)
    if let some a := anchor then
      modify fun c => { c with anchors := c.anchors ++ [(a, n)] }
    return n

def blockSequence : Nat → String → Mark → ComposeM Node
  | 0, _, _ => throw .tooDeep
  | fuel + 1, tag, start => do
    let opening ← takeTok
    let mut items : List Node := []
    for _ in [0:(← tokenBound)] do
      let t ← peekTok
      if t.kind == .blockEntry then
        let _ ← takeTok
        let next ← peekTok
        if next.kind == .blockEntry || next.kind == .blockEnd then
          items := items ++ [emptyScalar t.stop]
        else items := items ++ [← node fuel true false]
      else if t.kind == .blockEnd then
        let _ ← takeTok
        return .sequence tag items start
      else
        throw (.within "while parsing a block collection" opening.start
          ("expected <block end>, but found " ++ Text.literal t.kind.id) t.start)
    throw .tooDeep

def indentlessSequence : Nat → String → Mark → ComposeM Node
  | 0, _, _ => throw .tooDeep
  | fuel + 1, tag, start => do
    let mut items : List Node := []
    for _ in [0:(← tokenBound)] do
      let t ← peekTok
      if t.kind == .blockEntry then
        let _ ← takeTok
        let next ← peekTok
        if [Kind.blockEntry, .key, .value, .blockEnd].contains next.kind then
          items := items ++ [emptyScalar t.stop]
        else items := items ++ [← node fuel true false]
      else return .sequence tag items start
    throw .tooDeep

def blockMapping : Nat → String → Mark → ComposeM Node
  | 0, _, _ => throw .tooDeep
  | fuel + 1, tag, start => do
    let opening ← takeTok
    let mut pairs : List (Node × Node) := []
    for _ in [0:(← tokenBound)] do
      let t ← peekTok
      if t.kind == .key then
        let _ ← takeTok
        let next ← peekTok
        let k ← if [Kind.key, .value, .blockEnd].contains next.kind then pure (emptyScalar t.stop)
          else node fuel true true
        let t2 ← peekTok
        let v ← if t2.kind == .value then do
            let _ ← takeTok
            let next ← peekTok
            if [Kind.key, .value, .blockEnd].contains next.kind then pure (emptyScalar t2.stop)
            else node fuel true true
          else pure (emptyScalar t2.start)
        pairs := pairs ++ [(k, v)]
      else if t.kind == .blockEnd then
        let _ ← takeTok
        return .mapping tag pairs start
      else
        throw (.within "while parsing a block mapping" opening.start
          ("expected <block end>, but found " ++ Text.literal t.kind.id) t.start)
    throw .tooDeep

def flowSequence : Nat → String → Mark → ComposeM Node
  | 0, _, _ => throw .tooDeep
  | fuel + 1, tag, start => do
    let opening ← takeTok
    let mut items : List Node := []
    let mut first := true
    for _ in [0:(← tokenBound)] do
      let t ← peekTok
      if t.kind != .flowSequenceEnd then
        if !first then
          if t.kind == .flowEntry then
            let _ ← takeTok
          else
            throw (.within "while parsing a flow sequence" opening.start
              ("expected ',' or ']', but got " ++ Text.literal t.kind.id) t.start)
        first := false
        let t ← peekTok
        if t.kind == .key then
          let keyToken ← takeTok
          let next ← peekTok
          let k ← if [Kind.value, .flowEntry, .flowSequenceEnd].contains next.kind then
              pure (emptyScalar keyToken.stop)
            else node fuel false false
          let t2 ← peekTok
          let v ← if t2.kind == .value then do
              let valueToken ← takeTok
              let next ← peekTok
              if [Kind.flowEntry, .flowSequenceEnd].contains next.kind then pure (emptyScalar valueToken.stop)
              else node fuel false false
            else pure (emptyScalar t2.start)
          items := items ++ [.mapping (typeTag "map") [(k, v)] t.start]
          continue
        else if t.kind != .flowSequenceEnd then
          items := items ++ [← node fuel false false]
          continue
      let _ ← takeTok
      return .sequence tag items start
    throw .tooDeep

def flowMapping : Nat → String → Mark → ComposeM Node
  | 0, _, _ => throw .tooDeep
  | fuel + 1, tag, start => do
    let opening ← takeTok
    let mut pairs : List (Node × Node) := []
    let mut first := true
    for _ in [0:(← tokenBound)] do
      let t ← peekTok
      if t.kind != .flowMappingEnd then
        if !first then
          if t.kind == .flowEntry then
            let _ ← takeTok
          else
            throw (.within "while parsing a flow mapping" opening.start
              ("expected ',' or '\x7d', but got " ++ Text.literal t.kind.id) t.start)
        first := false
        let t ← peekTok
        if t.kind == .key then
          let keyToken ← takeTok
          let next ← peekTok
          let k ← if [Kind.value, .flowEntry, .flowMappingEnd].contains next.kind then
              pure (emptyScalar keyToken.stop)
            else node fuel false false
          let t2 ← peekTok
          let v ← if t2.kind == .value then do
              let valueToken ← takeTok
              let next ← peekTok
              if [Kind.flowEntry, .flowMappingEnd].contains next.kind then pure (emptyScalar valueToken.stop)
              else node fuel false false
            else pure (emptyScalar t2.start)
          pairs := pairs ++ [(k, v)]
          continue
        else if t.kind != .flowMappingEnd then
          let k ← node fuel false false
          pairs := pairs ++ [(k, emptyScalar (← peekTok).start)]
          continue
      let _ ← takeTok
      return .mapping tag pairs start
    throw .tooDeep

end

/-- Starts the next explicit document: past any `...`, then its directives and `---`.
Nothing at the end of the stream; otherwise the place the document starts. One `%YAML`
directive of version 1 may stand among the directives, and each `%TAG` directive declares a
new handle, which replaces a default one of the same name. -/
def startDocument : ComposeM (Option Mark) := do
  for _ in [0:(← tokenBound)] do
    if (← peekTok).kind == .documentEnd then
      let _ ← takeTok
    else break
  let t ← peekTok
  if t.kind == .streamEnd then return none
  let mut versioned := false
  let mut handles : List (String × String) := []
  for _ in [0:(← tokenBound)] do
    let d ← peekTok
    if d.kind != .directive then break
    let _ ← takeTok
    match d.directive with
    | .version major _ =>
      if versioned then throw (.marked none none "found duplicate YAML directive" (some d.start))
      if major != 1 then
        throw (.marked none none "found incompatible YAML document (version 1.* is required)"
          (some d.start))
      versioned := true
    | .tagPrefix handle pfx =>
      if (handles.lookup handle).isSome then
        throw (.marked none none ("duplicate tag handle " ++ Text.literal handle) (some d.start))
      handles := handles ++ [(handle, pfx)]
    | .other => pure ()
  let declared := handles
  modify fun c => { c with handles := declared ++ defaultHandles.filter fun h =>
    (declared.lookup h.1).isNone }
  let t2 ← peekTok
  if t2.kind != .documentStart then
    throw (.marked none none ("expected '<document start>', but found " ++ Text.literal t2.kind.id)
      (some t2.start))
  let _ ← takeTok
  return some t.start

def endDocument : ComposeM Unit := do
  if (← peekTok).kind == .documentEnd then
    let _ ← takeTok

def single : ComposeM (Option Node) := do
  let depth ← tokenBound
  let _ ← takeTok
  let t ← peekTok
  let document ←
    if !([Kind.directive, .documentStart, .streamEnd].contains t.kind) then do
      let n ← node depth true false
      endDocument
      pure (some n)
    else
      match ← startDocument with
      | none => pure none
      | some _ => do
        let t ← peekTok
        let n ← if [Kind.directive, .documentStart, .documentEnd, .streamEnd].contains t.kind then
            pure (emptyScalar t.start)
          else node depth true false
        endDocument
        pure (some n)
  if let some d := document then
    if let some second ← startDocument then
      throw (.within "expected a single document in the stream" d.start "but found another document" second)
  return document

end CatalogSync.Yaml
