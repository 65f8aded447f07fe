import StyleBuild.Json.Scalar

/-!
# Forms of data in JSON

A form says how one type of data is read, both from JSON text and from a JSON value. Forms are put
together from those of texts and numbers: lists of a form, records with a form for each field, and
choices between named variants. A record may also be given as the list of its fields.
-/

namespace StyleBuild

open Json (Reader)

/-- How a JSON value is called in errors. -/
def Json.found : Json → Found
  | .null => .null
  | .bool b => .bool b
  | .number (.integer n) => .integer n
  | .number (.float x) => .float (Number.float x).jsonText
  | .text s => .text s
  | .array _ => .sequence
  | .object _ => .map

/-- How to read data of one type. -/
structure Form (α : Type) where
  fromText : Reader α
  fromJson : Json → Except Mismatch α

namespace Form

variable {α β : Type}

/-! ## Scalars -/

/-- Stop because what comes is not what was expected. -/
def wrongType (expected : String) : Reader α := do
  match ← Reader.peek with
  | some 'n' => do
    Reader.advance
    Reader.word "ull".toList
    Reader.unfitHere (.type .null expected)
  | some 't' => do
    Reader.advance
    Reader.word "rue".toList
    Reader.unfitHere (.type (.bool true) expected)
  | some 'f' => do
    Reader.advance
    Reader.word "alse".toList
    Reader.unfitHere (.type (.bool false) expected)
  | some '"' => do
    Reader.advance
    let s ← Reader.text
    Reader.unfitHere (.type (.text s) expected)
  | some '[' => Reader.unfitHere (.type .sequence expected)
  | some '\x7b' => Reader.unfitHere (.type .map expected)
  | some c =>
    if c = '-' ∨ c.isDigit then do
      let n ← Reader.number
      Reader.unfitHere (.type (Json.number n).found expected)
    else Reader.flawAhead .noValue
  | none => Reader.flawAhead .noValue

/-- A text that stands for something. -/
def parsed (expected : String) (parse : String → Except String α) : Form α where
  fromText := do
    match ← Reader.peekBehindSpace with
    | none => Reader.flawAhead .endOfValue
    | some '"' => do
      Reader.advance
      match parse (← Reader.text) with
      | .ok x => return x
      | .error reason => Reader.unfitHere (.other reason)
    | some _ => wrongType expected
  fromJson
    | .text s => (parse s).mapError .other
    | j => .error (.type j.found expected)

/-- A text. -/
def text : Form String := parsed "a string" .ok

/-- A count, if a number is one of 64 bits without a sign. -/
def countOf : Number → Except Mismatch Nat
  | .integer n =>
    if 0 ≤ n ∧ n < Nat.pow 2 64 then .ok n.toNat else .error (.value (.integer n) "usize")
  | n => .error (.type (Json.number n).found "usize")

/-- A count. -/
def count : Form Nat where
  fromText := do
    match ← Reader.peekBehindSpace with
    | none => Reader.flawAhead .endOfValue
    | some c =>
      if c = '-' ∨ c.isDigit then do
        match countOf (← Reader.number) with
        | .ok n => return n
        | .error m => Reader.unfitHere m
      else wrongType "usize"
  fromJson
    | .number n => countOf n
    | j => .error (.type j.found "usize")

/-- Nothing. -/
def nothing : Form Unit where
  fromText := do
    match ← Reader.peekBehindSpace with
    | none => Reader.flawAhead .endOfValue
    | some 'n' => do
      Reader.advance
      Reader.word "ull".toList
    | some _ => wrongType "unit"
  fromJson
    | .null => .ok ()
    | j => .error (.type j.found "unit")

/-- Data that may be missing. -/
def optional (f : Form α) : Form (Option α) where
  fromText := do
    match ← Reader.peekBehindSpace with
    | some 'n' => do
      Reader.advance
      Reader.word "ull".toList
      return none
    | _ => return some (← f.fromText)
  fromJson
    | .null => .ok none
    | j => some <$> f.fromJson j

/-! ## Lists -/

/-- Read the items of a list up to its end. -/
def itemsFrom (read : Reader α) : Nat → Bool → Reader (List α)
  | 0, _ => return []
  | fuel + 1, first => do
    if ← Reader.moreItems first then do
      let x ← read
      return x :: (← itemsFrom read fuel false)
    else return []

/-- A list. -/
def list (f : Form α) : Form (List α) where
  fromText := do
    match ← Reader.peekBehindSpace with
    | none => Reader.flawAhead .endOfValue
    | some '[' => do
      Reader.advance
      let fuel := (← get).rest.length + 1
      Reader.enclosed (itemsFrom f.fromText fuel true) Reader.closeList
    | some _ => wrongType "a sequence"
  fromJson
    | .array js => js.mapM f.fromJson
    | j => .error (.type j.found "a sequence")

/-! ## Records -/

/-- A field of a record of which a part has been read. -/
structure Field (β : Type) where
  name : String
  isGiven : β → Bool
  fromText : β → Reader β
  fromJson : β → Json → Except Mismatch β

/-- A field in a form, from a view of the record and an update. -/
def field (name : String) (f : Form α) (view : β → Option α) (give : β → α → β) : Field β where
  name := name
  isGiven b := (view b).isSome
  fromText b := do return give b (← f.fromText)
  fromJson b j := give b <$> f.fromJson j

/-- A number of fields in words. -/
def fieldsText (what : String) (n : Nat) : String :=
  what ++ " with " ++ decimalText n ++ (if n = 1 then " element" else " elements")

/-- Read the entries of an object into a record. Entries with other names are skipped. -/
def entriesFrom (fields : List (Field β)) : Nat → Bool → β → Reader β
  | 0, _, b => return b
  | fuel + 1, first, b => do
    if ← Reader.moreEntries first then do
      Reader.advance
      let key ← Reader.text
      match fields.find? fun f => f.name == key with
      | some f => do
        if f.isGiven b then Reader.unfitSomewhere (.duplicateField key)
        Reader.colon
        entriesFrom fields fuel false (← f.fromText b)
      | none => do
        Reader.colon
        Reader.skipValue
        entriesFrom fields fuel false b
    else return b

/-- Read the fields of a record in order from the items of a list. -/
def fieldsInOrder (what : String) (total : Nat) : List (Field β) → Bool → β → Reader β
  | [], _, b => return b
  | f :: fs, first, b => do
    if ← Reader.moreItems first then do fieldsInOrder what total fs false (← f.fromText b)
    else Reader.unfitSomewhere (.length (total - (fs.length + 1)) (fieldsText what total))

/-- Read the entries of an object value into a record. -/
def entriesOf (fields : List (Field β)) : List (String × Json) → β → Except Mismatch β
  | [], b => .ok b
  | (key, j) :: es, b =>
    match fields.find? fun f => f.name == key with
    | some f => do
      if f.isGiven b then throw (.duplicateField key)
      entriesOf fields es (← f.fromJson b j)
    | none => entriesOf fields es b

/-- Read the fields of a record in order from list values. -/
def fieldsOf (what : String) (total : Nat) : List (Field β) → List Json → β → Except Mismatch β
  | [], [], b => .ok b
  | [], extra, _ => .error (.length (total + extra.length) "fewer elements in array")
  | fs, [], _ => .error (.length (total - fs.length) (fieldsText what total))
  | f :: fs, j :: js, b => do fieldsOf what total fs js (← f.fromJson b j)

/-- A record: what it is called, its fields, the record of which nothing has been read, and how to
make it when all has been read. -/
def record (what : String) (fields : List (Field β)) (start : β) (finish : β → Except Mismatch α) :
    Form α where
  fromText := do
    match ← Reader.peekBehindSpace with
    | none => Reader.flawAhead .endOfValue
    | some '\x7b' => do
      Reader.advance
      let fuel := (← get).rest.length + 1
      let body : Reader α := do
        match finish (← entriesFrom fields fuel true start) with
        | .ok x => return x
        | .error m => Reader.unfitSomewhere m
      Reader.enclosed body Reader.closeObject
    | some '[' => do
      Reader.advance
      let body : Reader α := do
        match finish (← fieldsInOrder what fields.length fields true start) with
        | .ok x => return x
        | .error m => Reader.unfitSomewhere m
      Reader.enclosed body Reader.closeList
    | some _ => wrongType what
  fromJson
    | .object es => do finish (← entriesOf fields es start)
    | .array js => do finish (← fieldsOf what fields.length fields js start)
    | j => .error (.type j.found what)

/-- A field that has to be given. -/
def required (name : String) : Option α → Except Mismatch α
  | some x => .ok x
  | none => .error (.missing name)

/-! ## Choices -/

/-- A variant of a choice: it stands for itself, or it has fields. -/
inductive Variant (α : Type) where
  | plain (x : α)
  | withFields (f : Form α)

/-- A variant by its name. -/
def variant (variants : List (String × Variant α)) (name : String) :
    Except Mismatch (Variant α) :=
  match variants.lookup name with
  | some v => .ok v
  | none => .error (.unknownVariant name (variants.map Prod.fst))

/-- Read the name of a variant. -/
def variantName (variants : List (String × Variant α)) : Reader (Variant α) := do
  match variant variants (← (parsed "variant identifier" .ok).fromText) with
  | .ok v => return v
  | .error m => Reader.unfitHere m

/-- A choice between variants. One that stands for itself is its name; one with fields is an
object whose only entry is the name with the fields. -/
def choice (variants : List (String × Variant α)) : Form α where
  fromText := do
    match ← Reader.peekBehindSpace with
    | some '\x7b' => do
      Reader.advance
      let v ← variantName variants
      Reader.colon
      let x ← match v with
        | .plain x => do
          nothing.fromText
          pure x
        | .withFields f => f.fromText
      match ← Reader.peekBehindSpace with
      | some '\x7d' => do
        Reader.advance
        return x
      | some _ => Reader.flawHere .noValue
      | none => Reader.flawHere .endOfObject
    | some '"' => do
      match ← variantName variants with
      | .plain x => return x
      | .withFields _ => Reader.unfitSomewhere (.type .unitVariant "struct variant")
    | some _ => Reader.flawAhead .noValue
    | none => Reader.flawAhead .endOfValue
  fromJson
    | .text name => do
      match ← variant variants name with
      | .plain x => return x
      | .withFields _ => throw (.type .unitVariant "struct variant")
    | .object [(name, j)] => do
      match ← variant variants name with
      | .plain x => do
        nothing.fromJson j
        return x
      | .withFields f =>
        match j with
        | .object es => f.fromJson (.object es)
        | j => throw (.type j.found "struct variant")
    | .object _ => throw (.value .map "map with a single key")
    | j => throw (.type j.found "string or map")

/-! ## Whole texts -/

/-- Read data from a text that holds nothing else. -/
def read (f : Form α) (text : String) : Except Json.Stop α :=
  let whole : Reader α := do
    let x ← f.fromText
    if (← Reader.peekBehindSpace).isSome then Reader.flawAhead .trailing
    return x
  (whole ⟨text.toList, {}⟩).map Prod.fst

end Form

end StyleBuild
