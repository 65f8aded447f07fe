import StyleBuild.Css.Component
import StyleBuild.Css.Quantity

/-!
# Reading math expressions

`readCalc` reads an expression that is written as a function, such as `calc()` or `min()`. What
may stand at its leaves besides numbers is up to a `CalcKind`. Around `+` and `-` white space is
needed; one side of `*` and the right side of `/` must be numbers.
-/

namespace StyleBuild.Css

/-- What the leaves of an expression may be. -/
structure CalcKind (α : Type) where
  /-- A value by its token. -/
  ofToken? : Token → Option α
  /-- A number by its name. -/
  named? : String → Option Float32 := fun _ => none
  /-- A value by its name. -/
  value? : String → Option α := fun _ => none
  /-- A value that an angle stands for. -/
  ofAngle? : Angle → Option α := fun _ => none

namespace CalcKind

/-- Lengths. -/
def length : CalcKind Length := { ofToken? := Length.ofToken? }

/-- Lengths and percentages. -/
def lengthPercentage : CalcKind LengthPercentage := { ofToken? := LengthPercentage.ofToken? }

/-- Percentages. -/
def percentage : CalcKind Percentage := { ofToken? := Percentage.ofToken? }

/-- Angles. -/
def angle : CalcKind Angle := { ofToken? := Angle.ofToken?, ofAngle? := some }

/-- Times. -/
def time : CalcKind Time := { ofToken? := Time.ofToken? }

/-- Numbers, some of which may have names. -/
def number (named? : String → Option Float32) : CalcKind Float32 :=
  { ofToken? := fun _ => none, named? }

end CalcKind

/-- A number by the name of a constant. -/
def calcConstant? (name : String) : Option Float32 :=
  match name.toLower with
  | "e" => some 2.71828182845905
  | "pi" => some Angle.pi
  | "infinity" => some (1 / 0)
  | "-infinity" => some (-1 / 0)
  | "nan" => some (0 / 0)
  | _ => none

/-- A rounding mode by its keyword. -/
def RoundingMode.ofName? (name : String) : Option RoundingMode :=
  match name.toLower with
  | "nearest" => some .nearest
  | "up" => some .up
  | "down" => some .down
  | "to-zero" => some .toZero
  | _ => none

/-- The remainder that has the sign of the divisor. -/
def moduloOf (a b : Float32) : Float32 := remainder (remainder a b + b) b

/-- Functions of one number. -/
def numericFunction? (name : String) : Option (Float32 → Float32) :=
  match name with
  | "sqrt" => some Float32.sqrt
  | "exp" => some Float32.exp
  | _ => none

/-- Functions from angles to numbers. -/
def circular? (name : String) : Option (Float32 → Float32) :=
  match name with
  | "sin" => some Float32.sin
  | "cos" => some Float32.cos
  | "tan" => some Float32.tan
  | _ => none

/-- Functions from numbers to angles. -/
def inverseCircular? (name : String) : Option (Float32 → Float32) :=
  match name with
  | "asin" => some Float32.asin
  | "acos" => some Float32.acos
  | "atan" => some Float32.atan
  | _ => none

/-- The square root of a sum of squares. -/
def hypotOf (a b : Float32) : Float32 :=
  Float.toFloat32 (Float.sqrt (a.toFloat * a.toFloat + b.toFloat * b.toFloat))

namespace Calc

/-- The number that an expression is. -/
def number? {α : Type} : Calc α → Option Float32
  | .number n => some n
  | _ => none

/-- The value of `hypot()`, where all arguments are known. -/
def hypot? {α : Type} [Quantity α] : List (Calc α) → Option (Calc α)
  | [] => none
  | [a] => some a
  | [a, b] =>
    match a.apply₂ .hypot hypotOf b with
    | .call _ _ => none
    | c => some c
  | a :: rest =>
    let square (x : Float32) : Float32 := x * x
    let sum := rest.foldl
      (fun (acc : Option (Calc α)) (c : Calc α) => acc.bind fun acc =>
        match acc.apply₂ .hypot (fun s x => s + square x) c with
        | .call _ _ => none
        | c => some c)
      (match a.apply₁ .hypot square with
       | .call _ _ => none
       | c => some c)
    sum.bind fun c =>
      match c.apply₁ .hypot Float32.sqrt with
      | .call _ _ => none
      | c => some c

end Calc

mutual

/-- Read an expression that is a function. The first number bounds the depth of the reading. -/
def readCalcFunction : Nat → (α : Type) → [Quantity α] → CalcKind α → String → Components →
    Option (Calc α)
  | 0, _, _, _, _, _ => none
  | fuel + 1, α, _, kind, name, body =>
    let whole (c : Calc α × Components) : Option (Calc α) :=
      if c.2.isBlank then some c.1 else none
    let sum (cs : Components) : Option (Calc α) := (readSum fuel α kind cs).bind whole
    let numeric (cs : Components) : Option (Float32 × Components) :=
      match readSum fuel Float32 (.number kind.named?) cs with
      | some (.number n, rest) => some (n, rest)
      | _ => none
    let pair (f : MathFunction) (op : Float32 → Float32 → Float32) (cs : Components) :
        Option (Calc α) := do
      let (a, cs) ← readSum fuel α kind cs
      let b ← sum (← cs.dropComma?)
      return a.apply₂ f op b
    let angle (cs : Components) : Option (Calc Angle) :=
      match readSum fuel Angle { CalcKind.angle with named? := kind.named? } cs with
      | some (c, rest) => if rest.isBlank then some c else none
      | none => none
    match name.toLower with
    | "calc" => (sum body).map fun c => match c with
      | .value _ | .number _ => c
      | c => .calc c
    | "min" => (body.splitCommas.mapM sum).map (Calc.extreme .min .lt)
    | "max" => (body.splitCommas.mapM sum).map (Calc.extreme .max .gt)
    | "clamp" => do
      let (low, cs) ← readSum fuel α kind body
      let (mid, cs) ← readSum fuel α kind (← cs.dropComma?)
      let high ← sum (← cs.dropComma?)
      return low.clamp mid high
    | "round" =>
      match body.skipBlank with
      | .token (.ident m) _ rest =>
        match RoundingMode.ofName? m with
        | some mode => do
          pair (.round mode) (fun a b => roundTo mode (a / b) * b) (← rest.dropComma?)
        | none => pair (.round .nearest) (fun a b => roundTo .nearest (a / b) * b) body
      | _ => pair (.round .nearest) (fun a b => roundTo .nearest (a / b) * b) body
    | "rem" => pair .rem remainder body
    | "mod" => pair .mod moduloOf body
    | "abs" => (sum body).map (Calc.apply₁ .abs Float32.abs)
    | "sign" => (sum body).map Calc.signum
    | "hypot" => (body.splitCommas.mapM sum).map fun args =>
      (Calc.hypot? args).getD (.call .hypot (.ofList args))
    | "pow" => do
      let (a, cs) ← numeric body
      let (b, cs) ← numeric (← cs.dropComma?)
      if cs.isBlank then some (.number (Float32.pow a b)) else none
    | "log" => do
      let (a, cs) ← numeric body
      match cs.dropComma? with
      | none => if cs.isBlank then some (.number (Float32.log a)) else none
      | some cs =>
        let (b, cs) ← numeric cs
        if cs.isBlank then some (.number (Float32.log a / Float32.log b)) else none
    | "atan2" => do
      let radians ←
        ((((readSlope fuel Length .length body).or
          (readSlope fuel Percentage .percentage body)).or
          (readSlope fuel Angle .angle body)).or
          (readSlope fuel Time .time body)).or
          (readSlope fuel Float32 (.number kind.named?) body)
      return .value (← kind.ofAngle? ⟨radians, .radians⟩)
    | lower =>
      match numericFunction? lower with
      | some f => do
        let (a, cs) ← numeric body
        if cs.isBlank then some (.number (f a)) else none
      | none =>
        match circular? lower with
        | some f => do
          match ← angle body with
          | .value a => some (.number (f a.radians))
          | .number n => some (.number (f n))
          | _ => none
        | none => do
          let f ← inverseCircular? lower
          match ← angle body with
          | .number n =>
            let x := f n
            if x == x then (kind.ofAngle? ⟨x, .radians⟩).map .value else some (.number x)
          | _ => none

/-- Read two values, and give the angle of the line through the point that they name. -/
def readSlope : Nat → (α : Type) → [Quantity α] → CalcKind α → Components → Option Float32
  | 0, _, _, _, _ => none
  | fuel + 1, α, _, kind, cs => do
    let (a, cs) ← readSum fuel α kind cs
    let (b, cs) ← readSum fuel α kind (← cs.dropComma?)
    if !cs.isBlank then none
    else match a, b with
      | .value a, .value b => (Quantity.combine? Float32.atan2 a b).map Quantity.amount
      | .number a, .number b => some (Float32.atan2 a b)
      | _, _ => none

/-- Read a sum: products joined by `+` and `-` between white space. -/
def readSum : Nat → (α : Type) → [Quantity α] → CalcKind α → Components →
    Option (Calc α × Components)
  | 0, _, _, _, _ => none
  | fuel + 1, α, _, kind, cs => do
    let (c, rest) ← readProduct fuel α kind cs
    readSumTail fuel α kind c rest

/-- Read what is added to the sum so far. -/
def readSumTail : Nat → (α : Type) → [Quantity α] → CalcKind α → Calc α → Components →
    Option (Calc α × Components)
  | 0, _, _, _, _, _ => none
  | fuel + 1, α, _, kind, sum, cs =>
    match cs with
    | .token (.blank _) _ rest =>
      match rest.skipBlank with
      | .done p => some (sum, .done p)
      | .token (.delim '+') _ rest => do
        let (c, rest) ← readProduct fuel α kind rest
        readSumTail fuel α kind (sum.add c) rest
      | .token (.delim '-') _ rest => do
        let (c, rest) ← readProduct fuel α kind rest
        readSumTail fuel α kind (sum.add (c.scale (-1))) rest
      | _ => none
    | cs => some (sum, cs)

/-- Read a product: values joined by `*` and `/`. -/
def readProduct : Nat → (α : Type) → [Quantity α] → CalcKind α → Components →
    Option (Calc α × Components)
  | 0, _, _, _, _ => none
  | fuel + 1, α, _, kind, cs => do
    let (c, rest) ← readCalcValue fuel α kind cs
    readProductTail fuel α kind c rest

/-- Read what the product so far is multiplied with. -/
def readProductTail : Nat → (α : Type) → [Quantity α] → CalcKind α → Calc α → Components →
    Option (Calc α × Components)
  | 0, _, _, _, _, _ => none
  | fuel + 1, α, _, kind, product, cs =>
    match cs.skipBlank with
    | .token (.delim '*') _ rest => do
      let (c, rest) ← readCalcValue fuel α kind rest
      match c, product with
      | .number n, _ => readProductTail fuel α kind (product.scale n) rest
      | _, .number n => readProductTail fuel α kind (c.scale n) rest
      | _, _ => none
    | .token (.delim '/') _ rest => do
      let (c, rest) ← readCalcValue fuel α kind rest
      match c with
      | .number n => if n == 0 then none else
        readProductTail fuel α kind (product.scale (1 / n)) rest
      | _ => none
    | _ => some (product, cs)

/-- Read one value. -/
def readCalcValue : Nat → (α : Type) → [Quantity α] → CalcKind α → Components →
    Option (Calc α × Components)
  | 0, _, _, _, _ => none
  | fuel + 1, α, _, kind, cs =>
    match cs.skipBlank with
    | .block (.function name) _ body rest =>
      -- names are known in the outermost function only
      let kind : CalcKind α := { kind with named? := fun _ => none, value? := fun _ => none }
      (readCalcFunction fuel α kind name body).map fun c => match c with
        | .calc c => (c, rest)
        | c => (c, rest)
    | .block (.plain .round) _ body rest => do
      let (c, tail) ← readSum fuel α kind body
      if tail.isBlank then some (c, rest) else none
    | .token (.number n) _ rest => some (.number n.value, rest)
    | .token (.ident name) _ rest =>
      (((calcConstant? name).or (kind.named? name)).map fun n => (.number n, rest)).or
        ((kind.value? name).map fun v => (.value v, rest))
    | .token t _ rest => (kind.ofToken? t).map fun v => (.value v, rest)
    | _ => none

end

/-- Read an expression that is written as a function with this name. -/
def readCalc {α : Type} [Quantity α] (kind : CalcKind α) (name : String) (body : Components) :
    Option (Calc α) :=
  readCalcFunction (4 * body.size + 8) α kind name body

/-- Read a value or an expression in front. -/
def readQuantity {α : Type} [Quantity α] (kind : CalcKind α) (cs : Components) :
    Option (Calc α × Components) :=
  match cs.skipBlank with
  | .block (.function name) _ body rest => (readCalc kind name body).map (·, rest)
  | .token t _ rest => (kind.ofToken? t).map fun v => (.value v, rest)
  | _ => none

/-- Read a value in front whose expressions always have a known value. -/
def readKnown {α : Type} [Quantity α] (kind : CalcKind α) (cs : Components) :
    Option (α × Components) :=
  match readQuantity kind cs with
  | some (.value v, rest) => some (v, rest)
  | _ => none

/-- Read a number in front; some numbers may have names. -/
def readNamedNumber (named? : String → Option Float32) (cs : Components) :
    Option (Float32 × Components) :=
  match cs.skipBlank with
  | .block (.function name) _ body rest =>
    match readCalc (.number named?) name body with
    | some (.number n) => some (n, rest)
    | _ => none
  | .token (.number n) _ rest => some (n.value, rest)
  | _ => none

/-- Read a number in front. -/
def readNumberValue (cs : Components) : Option (Float32 × Components) :=
  readNamedNumber (fun _ => none) cs

/-- Read a number, or a percentage as a share of one. -/
def readNumberOrPercentage (cs : Components) : Option (Float32 × Components) :=
  match readNumberValue cs with
  | some r => some r
  | none => (readKnown .percentage cs).map fun (p, rest) => (p.share, rest)

/-- Read an angle in front; a plain zero may stand for none. -/
def readAngle (zeroAllowed : Bool) (cs : Components) : Option (Angle × Components) :=
  match cs.skipBlank with
  | .token (.number n) _ rest =>
    if zeroAllowed && n.value == 0 then some (⟨0, .degrees⟩, rest) else none
  | cs => readKnown .angle cs

end StyleBuild.Css
