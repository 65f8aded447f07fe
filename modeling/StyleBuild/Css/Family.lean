import StyleBuild.Css.Component
import StyleBuild.Css.Printing

/-!
# Font families

A font family is a generic one, or one by name. A name is printed as words where they are shorter
than a string and read back as the name.
-/

namespace StyleBuild.Css

/-- A font family. -/
inductive Family where
  | generic (keyword : String)
  | named (name : String)
  deriving DecidableEq, Repr, Inhabited

namespace Family

/-- The generic font families. -/
def generics : List String :=
  ["serif", "sans-serif", "cursive", "fantasy", "monospace", "system-ui", "emoji", "math",
   "fangsong", "ui-serif", "ui-sans-serif", "ui-monospace", "ui-rounded"] ++ wideKeywords

/-- The features that a browser needs to understand a font family. -/
def needs : Family → List Feature
  | .named _ => []
  | .generic k =>
    match k with
    | "system-ui" => [.systemUiFont]
    | "ui-serif" | "ui-sans-serif" | "ui-monospace" | "ui-rounded" => [.extendedSystemFonts]
    | _ => []

/-- The words of a level: identifiers only. -/
def words? : Components → Option (List String)
  | .done _ => some []
  | .token (.blank _) _ rest => words? rest
  | .token (.ident n) _ rest => (words? rest).map (n :: ·)
  | _ => none

/-- Read a font family: a generic keyword, a string, or words. -/
def read? (cs : Components) : Option Family :=
  match cs.skipBlank with
  | .token (.quoted t) _ rest => if rest.isBlank then some (.named t) else none
  | .token (.ident k) _ rest =>
    if generics.contains k.toLower then
      if rest.isBlank then some (.generic k.toLower) else none
    else (words? rest).map fun ws => .named (String.intercalate " " (k :: ws))
  | _ => none

/-- Read font families with commas between them. -/
def readList? (cs : Components) : Option (List Family) := cs.splitCommas.mapM read?

/-- The words of a name, each written as an identifier. -/
def spacedIdents (name : String) : String :=
  String.intercalate " " ((name.toList.splitOn ' ').map fun w => writeIdent (String.ofList w))

/-- Whether a text holds two spaces in a row. -/
def hasDoubleSpace : List Char → Bool
  | ' ' :: ' ' :: _ => true
  | _ :: cs => hasDoubleSpace cs
  | [] => false

/-- The printed form; a name is quoted where words would be longer or mean something else. -/
def text : Family → String
  | .generic k => k
  | .named name =>
    let words := spacedIdents name
    if name.isEmpty ∨ generics.contains name.toLower ∨ hasDoubleSpace name.toList ∨
        name.utf8ByteSize + 2 ≤ words.utf8ByteSize then
      writeQuoted name
    else words

end Family

end StyleBuild.Css
