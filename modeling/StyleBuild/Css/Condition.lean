import StyleBuild.Css.SyntaxError

/-!
# Conditions

`@media`, `@container` and `@supports` ask for conditions: tests joined by `and`, `or` and `not`.
How a single test is read and printed is a parameter. Of the connectives one level holds only one
kind, so every condition has one printed form: a negation, or a condition joined in another way,
stands in parentheses inside of another condition.
-/

namespace StyleBuild.Css

/-- A condition over tests. -/
inductive Condition (α : Type) where
  | test (t : α)
  | not (c : Condition α)
  | both (a b : Condition α)
  | either (a b : Condition α)
  deriving BEq, Repr, Inhabited

/-- The connectives. -/
inductive Connective where
  | and
  | or
  deriving DecidableEq, Repr, Inhabited

/-- The word for a connective. -/
def Connective.text : Connective → String
  | .and => "and"
  | .or => "or"

/-- The connective in front, and what follows. -/
def Components.connective? (cs : Components) : Option (Connective × Components) :=
  match cs.skipBlank with
  | .token (.ident n) _ rest =>
    match n.toLower with
    | "and" => some (.and, rest)
    | "or" => some (.or, rest)
    | _ => none
  | _ => none

/-- How the tests of a kind of condition are read. -/
structure TestGrammar (α : Type) where
  /-- The test inside a pair of parentheses, and what is left there. -/
  inside : Components → Except SyntaxError (α × Components)
  /-- The test that is written as a function, if a function of that name is one. -/
  call? : String → Components → Option (Except SyntaxError α) := fun _ _ => none

namespace Condition

variable {α : Type}

/-- Join two conditions. -/
def join : Connective → Condition α → Condition α → Condition α
  | .and => .both
  | .or => .either

/-- The connective of a joined condition. -/
def connective? : Condition α → Option Connective
  | .both _ _ => some .and
  | .either _ _ => some .or
  | _ => none

/-- Change the tests of a condition. -/
def map {β : Type} (f : α → β) : Condition α → Condition β
  | .test t => .test (f t)
  | .not c => .not (c.map f)
  | .both a b => .both (a.map f) (b.map f)
  | .either a b => .either (a.map f) (b.map f)

/-- Whether some test of a condition has a property. -/
def any (f : α → Bool) : Condition α → Bool
  | .test t => f t
  | .not c => c.any f
  | .both a b => a.any f || b.any f
  | .either a b => a.any f || b.any f

/-! ## Reading -/

mutual

/-- Read a condition in front; `orAllowed` tells whether `or` may join its parts. The number bounds
the depth of the reading. -/
def readWithin (g : TestGrammar α) : Nat → Bool → Components →
    Except SyntaxError (Condition α × Components)
  | 0, _, cs => .error cs.unexpected
  | fuel + 1, orAllowed, cs =>
    match cs.skipBlank with
    | .token (.ident n) _ rest =>
      if n.toLower = "not" then
        (readOperand g fuel rest).map fun (c, rest) => (.not c, rest)
      else .error cs.unexpected
    | _ => do
      let (c, rest) ← readOperand g fuel cs
      match rest.connective? with
      | none => return (c, rest)
      | some (k, rest) =>
        if k = .or ∧ !orAllowed then throw ⟨.unexpectedToken (.ident "or"), cs.start⟩
        let (d, rest) ← readOperand g fuel rest
        readJoined g fuel k (join k c d) rest

/-- Read what is joined to a condition by the connective that it has. -/
def readJoined (g : TestGrammar α) : Nat → Connective → Condition α → Components →
    Except SyntaxError (Condition α × Components)
  | 0, _, c, cs => .ok (c, cs)
  | fuel + 1, k, c, cs =>
    match cs.connective? with
    | none => .ok (c, cs)
    | some (j, rest) =>
      if j = k then do
        let (d, rest) ← readOperand g fuel rest
        readJoined g fuel k (join k c d) rest
      else .ok (c, cs)

/-- Read a condition in parentheses, or a test. -/
def readOperand (g : TestGrammar α) : Nat → Components →
    Except SyntaxError (Condition α × Components)
  | 0, cs => .error cs.unexpected
  | fuel + 1, cs =>
    match cs.skipBlank with
    | .block (.plain .round) _ body rest => do
      if body.isBlank then throw ⟨.emptyBrackets, body.start⟩
      let (c, tail) ← match readWithin g fuel true body with
        | .ok r => pure r
        | .error _ => (g.inside body).map fun (t, tail) => (.test t, tail)
      expectNothing tail
      return (c, rest)
    | .block (.function n) _ body rest =>
      match g.call? n body with
      | some r => r.map fun t => (.test t, rest)
      | none => .error cs.unexpected
    | _ => .error cs.unexpected

end

/-- Read a condition in front. -/
def read (g : TestGrammar α) (orAllowed : Bool) (cs : Components) :
    Except SyntaxError (Condition α × Components) :=
  readWithin g (2 * cs.size + 4) orAllowed cs

end Condition

/-! ## Printing -/

/-- A text in parentheses where they are needed. -/
def parenthesized (needed : Bool) (t : String) : String := if needed then "(" ++ t ++ ")" else t

/-- How the tests of a kind of condition are printed. -/
structure TestPrinter (α : Type) where
  text : α → String
  /-- Whether a test stands in parentheses, inside a negation or joined by a connective. -/
  isOpen : Option Connective → α → Bool := fun _ _ => false
  /-- Whether a negation is printed as the contrary where that is known. -/
  turns : Bool := false
  /-- The test for the contrary. -/
  contrary? : α → Option α := fun _ => none

namespace Condition

variable {α : Type}

/-- Whether a condition stands in parentheses, inside a negation or joined by a connective. -/
def isOpen (q : TestPrinter α) (around : Option Connective) : Condition α → Bool
  | .test t => q.isOpen around t
  | .not _ => true
  | .both _ _ => around != some .and
  | .either _ _ => around != some .or

/-- Print a condition that stands alone. -/
def text (q : TestPrinter α) : Condition α → String
  | .test t => q.text t
  | .not (.not c) => if q.turns then c.text q else "not (" ++ (Condition.not c).text q ++ ")"
  | .not (.test t) =>
    match if q.turns then q.contrary? t else none with
    | some u => q.text u
    | none => "not " ++ parenthesized (q.isOpen none t) (q.text t)
  | .not c => "not (" ++ c.text q ++ ")"
  | .both a b =>
    parenthesized (a.isOpen q (some .and)) (a.text q) ++ " and " ++
      parenthesized (b.isOpen q (some .and)) (b.text q)
  | .either a b =>
    parenthesized (a.isOpen q (some .or)) (a.text q) ++ " or " ++
      parenthesized (b.isOpen q (some .or)) (b.text q)

end Condition

end StyleBuild.Css
