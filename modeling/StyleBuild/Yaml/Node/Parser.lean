import StyleBuild.Yaml.Node
import StyleBuild.Yaml.Token.Lexer

/-!
# Reading documents

The tokens of a document are put together to a tree. Reading fails, without saying why, on a
text that is malformed or holds more than one document.
-/

namespace StyleBuild.Yaml

/-- The state of reading: the tokens left, the shorthands of tags, and the anchors set so far. -/
structure Composing where
  tokens : List Placed
  shorthands : List (String × String) := []
  anchors : List (String × Nat) := []

/-- A step of reading, which fails where the tokens do not fit. -/
abbrev Compose := StateT Composing Option

namespace Compose

/-- The next token. -/
def peek : Compose Placed := fun s =>
  match s.tokens with
  | t :: _ => some (t, s)
  | [] => none

/-- Drop the next token. -/
def skip : Compose Unit := fun s => some ((), { s with tokens := s.tokens.drop 1 })

/-- Fail. -/
def malformed {α : Type} : Compose α := fun _ => none

/-- Set an anchor. Its number is the count of names known before, so a name that is set again
shares its number with the next new name. -/
def setAnchor (name : String) : Compose Nat := fun s =>
  let n := s.anchors.length
  some (n, { s with anchors := (name, n) :: s.anchors.filter (·.1 != name) })

/-- The number of an anchor that an alias names. -/
def anchor (name : String) : Compose Nat := fun s => (s.anchors.lookup name).map (·, s)

/-- The tag that a handle and a suffix stand for. -/
def tag (handle suffix : String) : Compose String := fun s =>
  if handle.isEmpty then some (suffix, s)
  else ((s.shorthands ++ [("!", "!"), ("!!", "tag:yaml.org,2002:")]).lookup handle).map fun e =>
    (e ++ suffix, s)

/-- Read the properties of a node: an anchor and a tag in any order. -/
def properties : Compose (Option Mark × Option String × Option String) := do
  let t ← peek
  match t.token with
  | .anchor a =>
    skip
    match (← peek).token with
    | .tag h x =>
      skip
      return (t.start, some a, some (← tag h x))
    | _ => return (t.start, some a, none)
  | .tag h x =>
    skip
    match (← peek).token with
    | .anchor a =>
      skip
      return (t.start, some a, some (← tag h x))
    | _ => return (t.start, none, some (← tag h x))
  | _ => return (none, none, none)

/-- Whether a token ends the place where a node of a block mapping might stand. -/
def endsEntry (t : Token) : Bool := t == .key || t == .value || t == .blockEnd

mutual

/-- Read a node. -/
def node (isBlock indentless : Bool) : Nat → Compose Node
  | 0 => malformed
  | n + 1 => do
    let first ← peek
    match first.token with
    | .alias name =>
      skip
      return .alias first.start (← anchor name)
    | _ =>
      let (start, anchorName, tag) ← properties
      let t ← peek
      let mark := start.getD t.start
      let label : Compose Label := do
        let a ← anchorName.mapM setAnchor
        return ⟨mark, tag, a⟩
      match t.token, isBlock with
      | .scalar text isPlain, _ =>
        skip
        return .scalar (← label) text isPlain
      | .flowSequenceStart, _ =>
        skip
        return .sequence (← label) (← flowItems true n)
      | .flowMappingStart, _ =>
        skip
        return .mapping (← label) (← flowEntries true n)
      | .blockSequenceStart, true =>
        skip
        return .sequence (← label) (← blockItems n)
      | .blockMappingStart, true =>
        skip
        return .mapping (← label) (← blockEntries n)
      | .blockEntry, _ =>
        if indentless then return .sequence (← label) (← looseItems n)
        else if start.isSome then return .scalar (← label) "" true
        else malformed
      | _, _ => if start.isSome then return .scalar (← label) "" true else malformed

/-- Read the items of a block sequence and its end. -/
def blockItems : Nat → Compose (List Node)
  | 0 => malformed
  | n + 1 => do
    let t ← peek
    match t.token with
    | .blockEntry =>
      skip
      let next := (← peek).token
      let item ← if next == .blockEntry || next == .blockEnd then pure (.empty t.stop)
        else node true false n
      return item :: (← blockItems n)
    | .blockEnd =>
      skip
      return []
    | _ => malformed

/-- Read the items of a block sequence that is not indented. -/
def looseItems : Nat → Compose (List Node)
  | 0 => malformed
  | n + 1 => do
    let t ← peek
    match t.token with
    | .blockEntry =>
      skip
      let next := (← peek).token
      let item ← if next == .blockEntry || endsEntry next then pure (.empty t.stop)
        else node true false n
      return item :: (← looseItems n)
    | _ => return []

/-- Read the entries of a block mapping and its end. -/
def blockEntries : Nat → Compose (List (Node × Node))
  | 0 => malformed
  | n + 1 => do
    let t ← peek
    match t.token with
    | .key =>
      skip
      let key ← if endsEntry (← peek).token then pure (.empty t.stop) else node true true n
      let t ← peek
      let value ← if t.token == .value then do
          skip
          if endsEntry (← peek).token then pure (.empty t.stop) else node true true n
        else pure (.empty t.start)
      return (key, value) :: (← blockEntries n)
    | .blockEnd =>
      skip
      return []
    | _ => malformed

/-- Read the items of a flow sequence and its end; one with a question mark or a colon is a
mapping of one entry. -/
def flowItems (isFirst : Bool) : Nat → Compose (List Node)
  | 0 => malformed
  | n + 1 => do
    if (← peek).token == .flowSequenceEnd then
      skip
      return []
    if !isFirst then
      if (← peek).token == .flowEntry then skip else malformed
    let t ← peek
    match t.token with
    | .flowSequenceEnd =>
      skip
      return []
    | .key =>
      skip
      let ends (t : Token) : Bool := t == .flowEntry || t == .flowSequenceEnd
      let next ← peek
      let key ← if next.token == .value || ends next.token then do
          skip
          pure (.empty next.stop)
        else node false false n
      let next ← peek
      let value ← if next.token == .value then do
          skip
          let next ← peek
          if ends next.token then pure (.empty next.start) else node false false n
        else pure (.empty next.start)
      return .mapping { mark := t.start } [(key, value)] :: (← flowItems false n)
    | _ =>
      let item ← node false false n
      return item :: (← flowItems false n)

/-- Read the entries of a flow mapping and its end. -/
def flowEntries (isFirst : Bool) : Nat → Compose (List (Node × Node))
  | 0 => malformed
  | n + 1 => do
    if (← peek).token == .flowMappingEnd then
      skip
      return []
    if !isFirst then
      if (← peek).token == .flowEntry then skip else malformed
    let ends (t : Token) : Bool := t == .flowEntry || t == .flowMappingEnd
    let t ← peek
    match t.token with
    | .flowMappingEnd =>
      skip
      return []
    | .key =>
      skip
      let next ← peek
      let key ← if next.token == .value || ends next.token then pure (.empty next.start)
        else node false false n
      let next ← peek
      let value ← if next.token == .value then do
          skip
          let next ← peek
          if ends next.token then pure (.empty next.start) else node false false n
        else pure (.empty next.start)
      return (key, value) :: (← flowEntries false n)
    | _ =>
      let key ← node false false n
      let value := Node.empty (← peek).start
      return (key, value) :: (← flowEntries false n)

end

/-- Read directives: at most one version, which has to be known, and shorthands, each once. -/
def directives (hasVersion : Bool) : Nat → Compose Unit
  | 0 => malformed
  | n + 1 => do
    match (← peek).token with
    | .version major minor =>
      if hasVersion || major != 1 || (minor != 1 && minor != 2) then malformed
      skip
      directives true n
    | .tagShorthand handle expansion =>
      let s ← get
      if (s.shorthands.lookup handle).isSome then malformed
      set { s with shorthands := (handle, expansion) :: s.shorthands }
      skip
      directives hasVersion n
    | _ => return

/-- Drop marks of the end of a document. -/
def skipEnds : Nat → Compose Unit
  | 0 => return
  | n + 1 => do
    if (← peek).token == .documentEnd then
      skip
      skipEnds n

/-- Read the only document of a text. -/
def document (size : Nat) : Compose Node := do
  let t ← peek
  let isDirective (t : Token) : Bool := match t with
    | .version _ _ | .tagShorthand _ _ => true
    | _ => false
  if t.token == .streamEnd then return .nothing t.start
  let root ← if isDirective t.token || t.token == .documentStart then do
      directives false size
      if (← peek).token != .documentStart then malformed
      skip
      let t ← peek
      if isDirective t.token || [.documentStart, .documentEnd, .streamEnd].contains t.token then
        pure (.empty t.start)
      else node true false size
    else node true false size
  skipEnds size
  if (← peek).token == .streamEnd then return root else malformed

end Compose

/-- Read a document. -/
def Document.read (text : String) : Option Document := do
  let tokens ← tokenize text
  let (root, _) ← (Compose.document (2 * tokens.length + 4)).run { tokens }
  return .ofRoot root

end StyleBuild.Yaml
