import StyleBuild.Regex.Parser
import StyleBuild.Text.NameSet
import StyleBuild.Glob.Pattern

/-!
# Content sources

An extractor finds the tokens of a text that may be class names. It is a regular expression, each
of whose matches is a token once its trailing colons are dropped.

A content source says which files to scan, by globs, and how to find class names in them.
-/

namespace StyleBuild

/-! ## Extractors -/

/-- An extractor: the text of a regular expression, and the expression. -/
structure Extractor where
  pattern : String
  regex : Regex
  deriving DecidableEq, Repr, Inhabited

namespace Extractor

/-- The extractor that a pattern describes. -/
def read (pattern : String) : Except Regex.Refusal Extractor :=
  match Regex.read pattern with
  | .ok r => .ok ⟨pattern, r⟩
  | .error f => .error f

/-- The characters of class names with variants: letters, digits, underscores, dashes, slashes and
colons. -/
def classChars : CharSet := ⟨[(45, 45), (47, 58), (65, 90), (95, 95), (97, 122)]⟩

/-- The extractor used when none is given: the longest runs of characters of class names. -/
def standard : Extractor := ⟨"[A-Za-z0-9_\\-/:]+", .plus (.oneOf classChars) true⟩

/-- A token without the colons at its end. -/
def trimColons (cs : List Char) : List Char := (cs.reverse.dropWhile (· == ':')).reverse

/-- The tokens of a text, from left to right. -/
def tokens (e : Extractor) (text : String) : List String :=
  (((e.regex.tokens none text.toList).map trimColons).filter (!·.isEmpty)).map String.ofList

/-- The set of tokens of a text. -/
def classes (e : Extractor) (text : String) : NameSet := .ofList (e.tokens text)

end Extractor

/-! ## Sources -/

/-- Globs and an extractor. -/
structure ContentSource where
  patterns : List String
  extractor : Extractor
  deriving DecidableEq, Repr, Inhabited

/-- What is wrong with a content source. -/
inductive SourceFault where
  | glob (pattern : String) (fault : Glob.Fault)
  | extractor (pattern : String) (fault : Regex.Refusal)
  deriving DecidableEq, Repr, Inhabited

/-- The fault in words. -/
def SourceFault.message : SourceFault → String
  | .glob p f => "invalid content glob '" ++ p ++ "': " ++ f.message
  | .extractor p f => "invalid extractor '" ++ p ++ "': " ++ f.report p

namespace ContentSource

/-- The fault of the first glob that has one. -/
def globFault? (patterns : List String) : Option SourceFault :=
  patterns.findSome? fun p =>
    match Glob.read p with
    | .ok _ => none
    | .error f => some (.glob p f)

/-- A content source with the given globs and the given extractor or the standard one. -/
def read (patterns : List String) (extractor : Option String) : Except SourceFault ContentSource :=
  match globFault? patterns, extractor with
  | some f, _ => .error f
  | none, none => .ok ⟨patterns, .standard⟩
  | none, some p =>
    match Extractor.read p with
    | .ok e => .ok ⟨patterns, e⟩
    | .error f => .error (.extractor p f)

/-- What a scan depends on, as text. -/
def key (s : ContentSource) : List String × String := (s.patterns, s.extractor.pattern)

end ContentSource

end StyleBuild
