import StyleBuild.Css.Printing

/-!
# Math expressions

`calc()` and its kin, over values of one kind such as lengths or times. An expression is
simplified while it is built: like terms are added, factors are multiplied out, and `min()`,
`max()` and `clamp()` keep only the arguments that cannot be decided. What is left of a sum keeps
the order in which it was written.
-/

namespace StyleBuild.Css

/-- The functions that may stay in an expression. -/
inductive MathFunction where
  | min
  | max
  | clamp
  | round (mode : RoundingMode)
  | rem
  | mod
  | abs
  | sign
  | hypot
  deriving DecidableEq, Repr, Inhabited

/-- Whether the value of a function has the sign that all of its arguments have. -/
def MathFunction.keepsSign : MathFunction → Bool
  | .min | .max | .clamp | .round _ | .sign => true
  | .rem | .mod | .abs | .hypot => false

mutual

/-- An expression. -/
inductive Calc (α : Type) where
  | value (v : α)
  | number (n : Float32)
  | sum (a b : Calc α)
  | product (n : Float32) (c : Calc α)
  /-- An expression inside `calc()`. -/
  | calc (c : Calc α)
  | call (f : MathFunction) (args : Calcs α)
  deriving BEq, Repr

/-- Arguments of a function. -/
inductive Calcs (α : Type) where
  | nil
  | cons (c : Calc α) (cs : Calcs α)
  deriving BEq, Repr

end

instance {α : Type} : Inhabited (Calc α) := ⟨.number 0⟩

/-- What values have to offer for expressions over them. -/
class Quantity (α : Type) where
  /-- Combine the numbers of two values that have a unit in common. -/
  combine? (f : Float32 → Float32 → Float32) (a b : α) : Option α
  /-- Compare two values that have a unit in common. -/
  compare? (a b : α) : Option Ordering
  /-- Change the number of a value, where its sign and size are known. -/
  map? (f : Float32 → Float32) (a : α) : Option α
  /-- Multiply a value. -/
  scale (n : Float32) (a : α) : α
  /-- The number of a value. -/
  amount (a : α) : Float32
  /-- The value as printed inside an expression. -/
  textInside (p : Printing) (a : α) : String

namespace Calcs

variable {α : Type}

/-- The arguments of a list. -/
def ofList : List (Calc α) → Calcs α
  | [] => .nil
  | c :: cs => .cons c (ofList cs)

/-- The arguments as a list. -/
def toList : Calcs α → List (Calc α)
  | .nil => []
  | .cons c cs => c :: cs.toList

theorem toList_ofList (cs : List (Calc α)) : (ofList cs).toList = cs := by
  induction cs with
  | nil => rfl
  | cons c cs ih => simp [ofList, toList, ih]

end Calcs

namespace Calc

variable {α : Type} [Quantity α]

mutual

/-- The sign of an expression, where it is known: of a value, a product, or a function that has
the sign that all of its arguments have. -/
def sign? : Calc α → Option Float32
  | .value v => some (signOf (Quantity.amount v))
  | .number n => some (signOf n)
  | .sum _ _ => none
  | .product n c => c.sign?.map (signOf n * ·)
  | .calc c => c.sign?
  | .call .abs _ => some 1
  | .call f args => if f.keepsSign then signOfAll? args else none

/-- The common sign of arguments. -/
def signOfAll? : Calcs α → Option Float32
  | .nil => none
  | .cons c .nil => c.sign?
  | .cons c cs =>
    match c.sign?, signOfAll? cs with
    | some a, some b => if a == b then some a else none
    | _, _ => none

end

/-- Whether an expression has a minus sign in front. -/
def isNegative (c : Calc α) : Bool :=
  match c.sign? with
  | some x => hasMinus x
  | none => false

/-- Whether the sign of an expression is known, and no minus. -/
def isPositive (c : Calc α) : Bool :=
  match c.sign? with
  | some x => !hasMinus x
  | none => false

/-- Whether an expression is a value of zero. -/
def isZeroValue : Calc α → Bool
  | .value v => Quantity.amount v == 0
  | _ => false

/-- Multiply an expression. -/
def scale (k : Float32) : Calc α → Calc α
  | .value v => if k == 1 then .value v else .value (Quantity.scale k v)
  | .number n => .number (n * k)
  | .sum a b => .sum (a.scale k) (b.scale k)
  | .product n c => if n * k == 1 then c else .product (n * k) c
  | .calc c => .calc (c.scale k)
  | .call f args => if k == 1 then .call f args else .product k (.call f args)

/-- Join two terms that have no unit in common: zero vanishes, and a term with a minus sign goes
behind one without. -/
def join (a b : Calc α) : Calc α :=
  if a.isZeroValue then b
  else if b.isZeroValue then a
  else if a.isNegative && b.isPositive then .sum b a
  else .sum a b

/-- Add a value to the term of an expression that has a unit in common with it. -/
def absorb? (v : α) : Calc α → Option (Calc α)
  | .value w => (Quantity.combine? (· + ·) v w).map .value
  | .sum a b =>
    match absorb? v a with
    | some a => some (join a b)
    | none => (absorb? v b).map (join a)
  | _ => none

/-- Add an expression to the term of a sum that has a unit in common with it. -/
def merge? : Calc α → Calc α → Option (Calc α)
  | .value v, c => absorb? v c
  | .sum a b, c =>
    match merge? a c with
    | some a => some (join a b)
    | none => (merge? b c).map (join a)
  | _, _ => none

/-- The sum of two expressions. -/
def add : Calc α → Calc α → Calc α
  | .number a, .number b => .number (a + b)
  | .sum (.number a) b, .number c => .sum (.number (a + c)) b
  | .sum a (.number b), .number c => .sum a (.number (b + c))
  | .number a, .sum (.number b) c => .sum (.number (a + b)) c
  | .number a, .sum b (.number c) => .sum (.number (a + c)) b
  | .value a, .value b => ((absorb? a (.value b)).getD (join (.value a) (.value b)))
  | .value a, .sum b c => (absorb? a (.sum b c)).getD (join (.value a) (.sum b c))
  | .sum a b, .value c => (merge? (.sum a b) (.value c)).getD (join (.sum a b) (.value c))
  | .sum a b, .sum c d => (merge? (.sum a b) (.sum c d)).getD (join (.sum a b) (.sum c d))
  | a, b => .sum a b

/-- How one value or number compares with another; other expressions do not. -/
def compare? : Calc α → Calc α → Option Ordering
  | .value v, .value w => Quantity.compare? v w
  | .number m, .number n => compareNumbers? m n
  | _, _ => none

/-- Take one more argument of `min()` or `max()`: of comparable ones only the one that is ordered
as `keep` says stays. -/
def keepExtreme (keep : Ordering) (arg : Calc α) : List (Calc α) → List (Calc α)
  | [] => [arg]
  | c :: rest =>
    match compare? arg c with
    | some o => if o = keep then arg :: rest else c :: rest
    | none => c :: keepExtreme keep arg rest

/-- The least or greatest of the arguments. -/
def extreme (f : MathFunction) (keep : Ordering) (args : List (Calc α)) : Calc α :=
  match args.foldl (fun kept arg => keepExtreme keep arg kept) [] with
  | [c] => c
  | kept => .call f (.ofList kept)

/-- A value held between two bounds; the lower one wins. -/
def clamp (low mid high : Calc α) : Calc α :=
  let (mid, high) : Calc α × Option (Calc α) := match compare? mid high with
    | some .gt => (high, none)
    | some _ => (mid, none)
    | none => (mid, some high)
  let (mid, low) : Calc α × Option (Calc α) := match compare? mid low with
    | some .lt => (low, none)
    | some _ => (mid, none)
    | none => (mid, some low)
  match low, high with
  | none, none => mid
  | some low, none => .call .max (.ofList [low, mid])
  | none, some high => .call .min (.ofList [mid, high])
  | some low, some high => .call .clamp (.ofList [low, mid, high])

/-- A function of two arguments, applied where both are known. -/
def apply₂ (f : MathFunction) (op : Float32 → Float32 → Float32) (a b : Calc α) : Calc α :=
  let kept : Calc α := .call f (.ofList [a, b])
  match a, b with
  | .number m, .number n => .number (op m n)
  | .value v, .value w => match Quantity.combine? op v w with
    | some u => .value u
    | none => kept
  | _, _ => kept

/-- A function of one argument, applied where it is known. -/
def apply₁ (f : MathFunction) (op : Float32 → Float32) (a : Calc α) : Calc α :=
  let kept : Calc α := .call f (.ofList [a])
  match a with
  | .number n => .number (op n)
  | .value v => match Quantity.map? op v with
    | some u => .value u
    | none => kept
  | _ => kept

/-- The sign of an expression, where it is known. -/
def signum (a : Calc α) : Calc α :=
  match a with
  | .number n => .number (signOf n)
  | .value v => match Quantity.map? signOf v with
    | some u => .number (signOf (Quantity.amount u))
    | none => .call .sign (.ofList [a])
  | _ => .call .sign (.ofList [a])

end Calc

/-! ## Support -/

/-- The feature that browsers need for a function. -/
def MathFunction.feature : MathFunction → Feature
  | .min | .max => .minMax
  | .clamp => .clamp
  | .round _ | .rem | .mod => .rounding
  | .abs | .sign => .signs
  | .hypot => .hypot

mutual

/-- The features that a browser needs to understand an expression, by those of its values. -/
def Calc.needs {α : Type} (ofValue : α → List Feature) : Calc α → List Feature
  | .value v => ofValue v
  | .number _ => []
  | .sum a b => .calc :: (a.needs ofValue ++ b.needs ofValue)
  | .product _ c => .calc :: c.needs ofValue
  | .calc c => .calc :: c.needs ofValue
  | .call f args => f.feature :: args.needs ofValue

/-- The features that a browser needs to understand arguments. -/
def Calcs.needs {α : Type} (ofValue : α → List Feature) : Calcs α → List Feature
  | .nil => []
  | .cons c cs => c.needs ofValue ++ cs.needs ofValue

end

/-! ## Printing -/

/-- The name of a function. -/
def MathFunction.name : MathFunction → String
  | .min => "min"
  | .max => "max"
  | .clamp => "clamp"
  | .round _ => "round"
  | .rem => "rem"
  | .mod => "mod"
  | .abs => "abs"
  | .sign => "sign"
  | .hypot => "hypot"

/-- The arguments that are keywords. -/
def MathFunction.keywords : MathFunction → List String
  | .round .up => ["up"]
  | .round .down => ["down"]
  | .round .toZero => ["to-zero"]
  | _ => []

/-- An expression times a number; a factor below one is written as a divisor. -/
def productText (l : Layout) (n : Float32) (inner : String) : String :=
  if n.abs < 1 then inner ++ l.around "/" ++ numberText (1 / n)
  else numberText n ++ l.around "*" ++ inner

/-- A function as printed, by the texts of its arguments. Targets without `clamp()` get the least
and the greatest. -/
def MathFunction.text (p : Printing) (f : MathFunction) (args : List String) : String :=
  match f, args with
  | .clamp, [low, mid, high] =>
    if p.lacks .clamp then "max(" ++ p.layout.commas [low, "min(" ++ p.layout.commas [mid, high]] ++
      "))"
    else "clamp(" ++ p.layout.commas [low, mid, high] ++ ")"
  | f, args => f.name ++ "(" ++ p.layout.commas (f.keywords ++ args) ++ ")"

mutual

/-- An expression as printed inside another one, or its negation. Behind an expression a negative
one is subtracted. -/
def Calc.textSigned {α : Type} [Quantity α] (p : Printing) (negated : Bool) : Calc α → String
  | .value v => Quantity.textInside p (if negated then Quantity.scale (-1) v else v)
  | .number n => numberText (if negated then -n else n)
  | .sum a b =>
    let minus := (if negated then b.scale (-1) else b).isNegative
    a.textSigned p negated ++ (if minus then " - " else " + ") ++ b.textSigned p (negated != minus)
  | .product n c =>
    let n := if negated then -n else n
    if negated && n == 1 then c.textSigned p false
    else productText p.layout n (c.textSigned p false)
  | .calc c => "calc(" ++ c.textSigned p negated ++ ")"
  | .call f args =>
    let t := f.text p (args.texts p)
    if negated then productText p.layout (-1) t else t

/-- The arguments of a function as printed. -/
def Calcs.texts {α : Type} [Quantity α] (p : Printing) : Calcs α → List String
  | .nil => []
  | .cons c cs => c.textSigned p false :: cs.texts p

end

/-- An expression as printed. -/
def Calc.text {α : Type} [Quantity α] (p : Printing) (c : Calc α) : String := c.textSigned p false

end StyleBuild.Css
