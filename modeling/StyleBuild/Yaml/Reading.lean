import StyleBuild.Data.Reading
import StyleBuild.Yaml.Node
import StyleBuild.Yaml.Scalar

/-!
# Reading typed data from documents

A `Spot` is a node on its way from the root of a document. The functions here read it as text,
as a list or as a map, or as plain data, and say where and why that fails. Aliases are followed
where data is read, not where it is ignored; how deep data may be nested and how many aliases
may be followed is limited.
-/

namespace StyleBuild.Yaml

/-- Why a document cannot be read. -/
inductive Cause where
  | mismatch (m : Mismatch)
  | endOfInput
  | tooDeep
  | tooManyAliases
  deriving Repr, Inhabited

/-- A fault: its cause, and the path and the place of the node, if known. -/
structure Fault where
  cause : Cause
  path : String := ""
  mark : Option Mark := none
  deriving Repr, Inhabited

/-- The cause in words. -/
def Cause.message : Cause → String
  | .mismatch m => m.message
  | .endOfInput => "EOF while parsing a value"
  | .tooDeep => "recursion limit exceeded"
  | .tooManyAliases => "repetition limit exceeded"

/-- The fault in words. The very start of a text is not worth mentioning. -/
def Fault.message (f : Fault) : String :=
  (if f.path.isEmpty then "" else f.path ++ ": ") ++ f.cause.message ++
    (match f.mark with
     | some m => if m.line = 0 ∧ m.column = 0 then "" else " at " ++ m.text
     | none => "")

/-- Reading counts the aliases that it follows. -/
abbrev Read := StateT Nat (Except Fault)

/-- Fail with a mismatch whose place is not known yet. -/
def mismatch {α : Type} (m : Mismatch) : Read α := throw { cause := .mismatch m }

/-- A node on its way from the root, and how many levels may follow below it. -/
structure Spot where
  document : Document
  node : Node
  path : String := ""
  depth : Nat := 128
  deriving Inhabited

namespace Spot

/-- The root of a document. -/
def root (d : Document) : Spot := { document := d, node := d.root }

/-- Give a mismatch without a place the place of a spot. -/
def locate {α : Type} (s : Spot) (r : Read α) : Read α := fun n =>
  match r n with
  | .error ⟨.mismatch m, _, none⟩ => .error ⟨.mismatch m, s.path, some s.node.mark⟩
  | result => result

/-- Follow an alias. -/
def target (s : Spot) : Read Spot :=
  match s.node with
  | .alias _ a => do
    let n ← get
    if s.document.root.events * 100 ≤ n then throw { cause := .tooManyAliases }
    set (n + 1)
    match s.document.anchors.lookup a with
    | some node => return { s with node }
    | none => throw { cause := .tooManyAliases }
  | _ => return s

/-- The path of an entry. -/
def entryPath (s : Spot) (key : Node) : String :=
  let name := match key with
    | .scalar _ t _ => t
    | _ => "?"
  if s.path.isEmpty then name else s.path ++ "." ++ name

/-- The spots of the entries of a mapping. -/
def entries (s : Spot) (depth : Nat) (es : List (Node × Node)) : List (Spot × Spot) :=
  es.map fun (k, v) =>
    ({ s with node := k, depth }, { s with node := v, depth, path := s.entryPath k })

/-- The spots of the items of a sequence. -/
def items (s : Spot) (depth : Nat) (ns : List Node) : List Spot :=
  ns.zipIdx.map fun (node, i) =>
    { s with node, depth, path := s.path ++ "[" ++ decimalText i ++ "]" }

/-- Go one level down. -/
def below (s : Spot) : Read Nat :=
  match s.depth with
  | 0 => throw ⟨.tooDeep, "", some s.node.mark⟩
  | n + 1 => return n

end Spot

/-! ## Scalars -/

/-- The prefix of the tags of standard types. -/
def standardTag (name : String) : String := "tag:yaml.org,2002:" ++ name

/-- The data of a scalar with its tag. -/
def readScalar (tag : Option String) (text : String) (isPlain : Bool) : Except Mismatch Scalar :=
  let wrong (expected : String) : Except Mismatch Scalar := .error (.value (.text text) expected)
  match tag with
  | none => .ok (if isPlain then .ofPlain text else .text text)
  | some t =>
    if t = standardTag "bool" then
      match readBool text with
      | some b => .ok (.bool b)
      | none => wrong "a boolean"
    else if t = standardTag "int" then
      match readInteger text.toList with
      | some n => .ok (.integer n)
      | none => wrong "an integer"
    else if t = standardTag "float" then
      match readFloat text.toList with
      | some x => .ok (.float x)
      | none => wrong "a float"
    else if t = standardTag "null" then
      if isNull text then .ok .null else wrong "null"
    else if t.startsWith "!" ∧ isPlain then .ok (.ofPlain text)
    else .ok (.text text)

/-- Whether an integer fits plain data. -/
def fitsWord (n : Int) : Bool := -(Nat.pow 2 63 : Int) ≤ n && n < Nat.pow 2 64

/-- How a scalar is called in errors. -/
def Scalar.found : Scalar → Found
  | .null => .unit
  | .bool b => .bool b
  | .integer n =>
    if fitsWord n then .integer n
    else
      .other ("integer \x60" ++ integerText n ++ "\x60 as " ++
        (if n < 0 then "i128" else "u128"))
  | .float x => .float x.positionalText
  | .text s => .text s

/-- Fail because a node has the wrong type. -/
def wrongType {α : Type} (node : Node) (expected : String) : Read α :=
  match node with
  | .scalar l text isPlain =>
    match readScalar l.tag text isPlain with
    | .ok x => mismatch (.type x.found expected)
    | .error m => mismatch m
  | .sequence _ _ => mismatch (.type .sequence expected)
  | .mapping _ _ => mismatch (.type .map expected)
  | .alias _ _ | .nothing _ => throw { cause := .endOfInput }

/-- Whether a node is written as nothing at all. -/
def isVoid : Node → Bool
  | .scalar _ text isPlain => text.isEmpty && isPlain
  | .nothing _ => true
  | _ => false

namespace Spot

/-- Read a spot as text, and the text with `read`. Any scalar is text as it stands. -/
def textWith {α : Type} (s : Spot) (expected : String) (read : String → Read α) : Read α := do
  let s ← s.target
  s.locate (match s.node with
    | .scalar _ text _ => read text
    | node => wrongType node expected)

/-- Read a spot as text. -/
def text (s : Spot) : Read String := s.textWith "a string" pure

/-- Read a spot as a list, and the list with `read`. -/
def list {α : Type} (s : Spot) (read : List Spot → Read α) : Read α := do
  let s ← s.target
  s.locate (match s.node with
    | .sequence _ ns => do read (s.items (← s.below) ns)
    | node => if isVoid node then read [] else wrongType node "a sequence")

/-- Read a spot as a map, and its entries with `read`. -/
def map {α : Type} (s : Spot) (expected : String) (read : List (Spot × Spot) → Read α) :
    Read α := do
  let s ← s.target
  s.locate (match s.node with
    | .mapping _ es => do read (s.entries (← s.below) es)
    | node => if isVoid node then read [] else wrongType node expected)

/-- Read a spot that may hold nothing. -/
def optional {α : Type} (s : Spot) (read : Spot → Read α) : Read (Option α) := do
  let s ← s.target
  match s.node with
  | .nothing _ => return none
  | .scalar l text isPlain =>
    if !isPlain then some <$> read s
    else match l.tag with
      | some t =>
        if t ≠ standardTag "null" then some <$> read s
        else if isNull text then return none
        else mismatch (.value (.text text) "null")
      | none => if text.isEmpty || isNull text then return none else some <$> read s
  | _ => some <$> read s

end Spot

/-! ## Plain data -/

/-- A scalar as data. -/
def readScalarValue (l : Label) (text : String) (isPlain : Bool) : Read Value :=
  match readScalar l.tag text isPlain with
  | .error m => mismatch m
  | .ok .null => return .null
  | .ok (.bool b) => return .bool b
  | .ok (.integer n) =>
    if fitsWord n then return .number (.integer n)
    else mismatch (.type (Scalar.integer n).found "any value")
  | .ok (.float x) => return .number (.float x)
  | .ok (.text s) => return .text s

/-- Whether a node has a tag of its own. -/
def hasOwnTag : Node → Bool
  | .scalar l _ _ | .sequence l _ | .mapping l _ => l.tag.any (·.startsWith "!")
  | _ => false

/-- Read plain data, with a bound on its depth. -/
def readValueTo : Nat → Spot → Read Value
  | 0, s => throw ⟨.tooDeep, "", some s.node.mark⟩
  | bound + 1, s => do
    let s ← s.target
    s.locate (
      if hasOwnTag s.node then mismatch .tagged
      else match s.node with
        | .scalar l text isPlain => readScalarValue l text isPlain
        | .sequence _ ns => do
          return .list (← (s.items (← s.below) ns).mapM (readValueTo bound))
        | .mapping _ es => do
          return .map (← (s.entries (← s.below) es).mapM fun (k, v) => do
            return (← readValueTo bound k, ← readValueTo bound v))
        | .alias _ _ | .nothing _ => return .null)

/-- Read plain data. -/
def Spot.value (s : Spot) : Read Value := readValueTo (s.depth + 1) s

/-! ## Repeated keys -/

mutual

/-- Fail if a map in some data has a key twice. -/
def checkKeys : Value → Except Mismatch Unit
  | .list vs => checkItems vs
  | .map es => checkEntries [] es
  | _ => .ok ()

/-- Fail if a map in some items has a key twice. -/
def checkItems : List Value → Except Mismatch Unit
  | [] => .ok ()
  | v :: vs => do
    checkKeys v
    checkItems vs

/-- Fail if a key of some entries repeats one before it, or a map in them has a key twice. -/
def checkEntries (seen : List Value) : List (Value × Value) → Except Mismatch Unit
  | [] => .ok ()
  | (k, v) :: es => do
    checkKeys k
    if seen.any k.same then .error (.duplicateKey k)
    checkKeys v
    checkEntries (k :: seen) es

end

end StyleBuild.Yaml
