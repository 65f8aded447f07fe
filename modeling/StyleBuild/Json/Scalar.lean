import StyleBuild.Json.Basic
import StyleBuild.Json.Reader

/-!
# Scalars in JSON text

Texts with their escapes, and numbers. A number without point and exponent is an integer if it has
64 bits; any other is a floating-point number, found by scaling its leading digits once by a power
of ten. Values that nobody asked for are skipped.
-/

namespace StyleBuild.Json.Reader

/-! ## Texts -/

/-- Read four hexadecimal digits as a code. -/
def hexCode : Reader Nat := do
  let c ← get
  if (String.ofList c.rest).utf8ByteSize < 4 then
    throw (.flawed .endOfText (c.place.afterBytes (4 * c.rest.length) c.rest))
  let ds := c.rest.take 4
  if ds.all isHexDigit then do
    set (c.skip 4)
    return valueOfDigits 16 ds
  else throw (.flawed .escape (c.place.afterBytes 4 c.rest))

/-- Whether a code is the first half of a pair. -/
def isLeading (n : Nat) : Bool := 0xD800 ≤ n && n ≤ 0xDBFF

/-- Whether a code is the second half of a pair. -/
def isTrailing (n : Nat) : Bool := 0xDC00 ≤ n && n ≤ 0xDFFF

/-- Read a character that the second half of a pair has to start with. -/
def pairMark (mark : Char) : Reader Unit := do
  match ← peek with
  | none => flawHere .endOfText
  | some c => if c = mark then advance else flawAhead .unfinishedEscape

/-- Read an escape by code. Characters beyond the first plane are pairs of codes. -/
def codeEscape : Reader Char := do
  let n ← hexCode
  if isTrailing n then flawHere .loneSurrogate
  else if isLeading n then do
    pairMark '\\'
    pairMark 'u'
    let m ← hexCode
    if isTrailing m then return Char.ofNat (0x10000 + (n - 0xD800) * 0x400 + (m - 0xDC00))
    else flawHere .loneSurrogate
  else return Char.ofNat n

/-- The character that an escape of one letter stands for. -/
def letterEscape? : Char → Option Char
  | '"' => some '"'
  | '\\' => some '\\'
  | '/' => some '/'
  | 'b' => some '\x08'
  | 'f' => some '\x0c'
  | 'n' => some '\n'
  | 'r' => some '\r'
  | 't' => some '\t'
  | _ => none

/-- Read an escape behind its backslash. -/
def escape : Reader Char := do
  match ← peek with
  | none => flawHere .endOfText
  | some 'u' => do advance; codeEscape
  | some c =>
    match letterEscape? c with
    | some d => do advance; return d
    | none => flawAhead .escape

/-- Read an escape behind its backslash without asking whether codes make pairs. -/
def skipEscape : Reader Unit := do
  match ← peek with
  | none => flawHere .endOfText
  | some 'u' => do advance; discard hexCode
  | some c => if (letterEscape? c).isSome then advance else flawAhead .escape

/-- Read characters up to the closing quote. -/
def textFrom : Nat → Reader (List Char)
  | 0 => flawHere .endOfText
  | fuel + 1 => do
    match ← peek with
    | none => flawHere .endOfText
    | some '"' => do advance; return []
    | some '\\' => do
      advance
      let c ← escape
      return c :: (← textFrom fuel)
    | some c =>
      if c.toNat < 32 then flawAhead .control
      else do
        advance
        return c :: (← textFrom fuel)

/-- Read a text behind its opening quote. -/
def text : Reader String := do return String.ofList (← textFrom ((← get).rest.length + 1))

/-- Skip characters up to the closing quote. -/
def skipTextFrom : Nat → Reader Unit
  | 0 => flawHere .endOfText
  | fuel + 1 => do
    match ← peek with
    | none => flawHere .endOfText
    | some '"' => advance
    | some '\\' => do
      advance
      skipEscape
      skipTextFrom fuel
    | some c =>
      if c.toNat < 32 then flawHere .control
      else do
        advance
        skipTextFrom fuel

/-- Skip a text behind its opening quote. -/
def skipText : Reader Unit := do skipTextFrom ((← get).rest.length + 1)

/-! ## Numbers -/

/-- The parts of a number without its sign. -/
structure Numeral where
  whole : List Char
  fraction : Option (List Char) := none
  exponent : Option (Bool × List Char) := none
  deriving DecidableEq, Repr, Inhabited

/-- Read the digits before the point. -/
def wholePart (atEnd : Flaw) : Reader (List Char) := do
  match ← peek with
  | none => flawHere atEnd
  | some '0' => do
    advance
    match ← peek with
    | some c => if c.isDigit then flawAhead .number else return ['0']
    | none => return ['0']
  | some c => if c.isDigit then takeWhile Char.isDigit else flawAhead .number

/-- Read the digits behind the point, if there is one. -/
def fractionPart (atEnd : Flaw) : Reader (Option (List Char)) := do
  match ← peek with
  | some '.' => do
    advance
    let ds ← takeWhile Char.isDigit
    if ds.isEmpty then flawAhead (if (← peek).isSome then .number else atEnd)
    return some ds
  | _ => return none

/-- Read the exponent, if there is one: whether it is negative, and its digits. -/
def exponentPart (atEnd : Flaw) : Reader (Option (Bool × List Char)) := do
  match ← peek with
  | some 'e' | some 'E' => do
    advance
    let sign ← peek
    if sign = some '-' ∨ sign = some '+' then advance
    match ← peek with
    | none => flawHere atEnd
    | some c =>
      if c.isDigit then do return some (sign = some '-', ← takeWhile Char.isDigit)
      else flawAhead .number
  | _ => return none

/-- Read a number behind its sign. What is wrong with a number that ends too early is up to the
caller. -/
def numeral (atEnd : Flaw) : Reader Numeral := do
  let whole ← wholePart atEnd
  let fraction ← fractionPart atEnd
  return ⟨whole, fraction, ← exponentPart atEnd⟩

/-- Add digits to a number of 64 bits as long as there is room: the number, and the digits for
which there is none. -/
def gather (n : Nat) : List Char → Nat × List Char
  | [] => (n, [])
  | d :: ds =>
    let m := n * 10 + valueOfDigits 10 [d]
    if m < Nat.pow 2 64 then gather m ds else (n, d :: ds)

/-- The greatest power of ten that is a floating-point number. -/
def greatestPower : Nat := 308

/-- A number scaled by a power of ten; nothing if that is too great. Powers beyond the greatest
are taken in steps. -/
def scaled (x : Binary64) (exponent : Int) : Nat → Option Binary64
  | 0 => some x
  | fuel + 1 =>
    if exponent.natAbs ≤ greatestPower then
      let power := Binary64.ofNat (Nat.pow 10 exponent.natAbs)
      let y := if 0 ≤ exponent then x.product power else x.quotient power
      if y.isFinite then some y else none
    else if x.same (.ofNat 0) then some x
    else if 0 ≤ exponent then none
    else scaled (x.quotient (.ofNat (Nat.pow 10 greatestPower))) (exponent + greatestPower) fuel

/-- The exponent of ten beyond which nothing changes. -/
def farExponent : Int := 2147483647

/-- The value of a number as a floating-point number; nothing if it is too great. -/
def Numeral.float? (isNegative : Bool) (n : Numeral) : Option Binary64 :=
  let (m, more) := gather 0 n.whole
  let (m, left) := gather m (n.fraction.getD [])
  let places : Int := more.length - ((n.fraction.getD []).length - left.length : Nat)
  let shift : Int := match n.exponent with
    | some (true, ds) => -valueOfDigits 10 ds
    | some (false, ds) => valueOfDigits 10 ds
    | none => 0
  let exponent := max (-farExponent) (min farExponent (places + shift))
  -- below this no number is left, so more steps are not needed
  (scaled (.ofNat m) exponent 4).map fun x => if isNegative then x.negated else x

/-- The value of a number; nothing if it is too great. -/
def Numeral.value? (isNegative : Bool) (n : Numeral) : Option Number :=
  let whole := valueOfDigits 10 n.whole
  if n.fraction.isNone ∧ n.exponent.isNone ∧
      (if isNegative then 0 < whole ∧ whole ≤ Nat.pow 2 63 else whole < Nat.pow 2 64) then
    some (.integer (if isNegative then -whole else whole))
  else (n.float? isNegative).map .float

/-- How many digits stand behind the one with which a number gets beyond the far exponent. -/
def digitsBeyond (n : Nat) : List Char → Nat
  | [] => 0
  | d :: ds =>
    let m := n * 10 + valueOfDigits 10 [d]
    if farExponent < m then ds.length else digitsBeyond m ds

/-- How many digits of the exponent are beyond what can change a number. -/
def Numeral.excess (n : Numeral) : Nat := (n.exponent.map fun e => digitsBeyond 0 e.2).getD 0

/-- Read a number. One that is too great is noticed at the digit of its exponent that makes it so
by itself, or else behind it. -/
def number : Reader Number := do
  let isNegative := (← peek) = some '-'
  if isNegative then advance
  let n ← numeral .endOfValue
  match n.value? isNegative with
  | some n => return n
  | none => do
    let p := (← get).place
    throw (.flawed .range ⟨p.line, p.column - n.excess⟩)

/-! ## Skipping -/

/-- Skip a scalar that starts with a given character. -/
def skipScalar (c : Char) : Reader Unit := do
  if c = '"' then do
    advance
    skipText
  else if c = '-' then do
    advance
    discard (numeral .number)
  else if c.isDigit then discard (numeral .number)
  else match ['n', 't', 'f'].idxOf? c with
    | some i => do
      advance
      word ((["ull", "rue", "alse"][i]?.getD "").toList)
    | none => flawAhead .noValue

/-- What stands around a value: a list, or else an object. -/
abbrev Frame := Bool

/-- Skip the key of an entry, and the colon behind it. -/
def skipKey : Reader Unit := do
  match ← peekBehindSpace with
  | some '"' => do
    advance
    skipText
    colon
  | some _ => flawAhead .keyNotText
  | none => flawAhead .endOfObject

/-- Skip the brackets that close here. What is left are the frames in which another value
follows. -/
def skipClosings : Nat → Bool → List Frame → Reader (List Frame)
  | _, _, [] => return []
  | 0, _, frames => return frames
  | fuel + 1, behindValue, isList :: frames => do
    match ← peekBehindSpace with
    | none => flawAhead (if isList then .endOfList else .endOfObject)
    | some c =>
      if c = ',' ∧ behindValue then do
        advance
        return isList :: frames
      else if c = (if isList then ']' else '\x7d') then do
        advance
        skipClosings fuel true frames
      else if behindValue then flawAhead (if isList then .noItem else .noEntry)
      else return isList :: frames

/-- Skip a value and what follows in the frames around it. -/
def skipFrom : Nat → List Frame → Reader Unit
  | 0, _ => flawHere .endOfValue
  | fuel + 1, frames => do
    match ← peekBehindSpace with
    | none => flawAhead .endOfValue
    | some c => do
      let opens := c = '[' ∨ c = '\x7b'
      if opens then advance else skipScalar c
      let inside := if opens then (c == '[') :: frames else frames
      let left ← skipClosings ((← get).rest.length + 1) (!opens) inside
      match left with
      | [] => return ()
      | isList :: _ => do
        if !isList then skipKey
        skipFrom fuel left

/-- Skip a value. -/
def skipValue : Reader Unit := do skipFrom ((← get).rest.length + 1) []

end StyleBuild.Json.Reader
