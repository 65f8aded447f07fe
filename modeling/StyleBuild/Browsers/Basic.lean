/-!
# Browser targets

The oldest version of each browser that a sheet has to work in. A browser that is not named sets no
limit. What these versions mean for a sheet is said by `Feature.isSupported` and
`Prefixed.needs`.
-/

namespace StyleBuild

/-- A browser version. -/
structure Version where
  major : Nat
  minor : Nat := 0
  patch : Nat := 0
  deriving DecidableEq, Repr, Inhabited

namespace Version

/-- The version as one number, for comparison. -/
def code (v : Version) : Nat := (v.major * 256 + v.minor) * 256 + v.patch

/-- Whether a version is no later than another. -/
def le (a b : Version) : Bool := a.code ≤ b.code

end Version

/-- The browsers that targets distinguish. -/
inductive Browser where
  | android
  | chrome
  | edge
  | firefox
  | ie
  | ios
  | opera
  | safari
  | samsung
  deriving DecidableEq, Repr, Inhabited

namespace Browser

/-- All browsers, in alphabetical order of their names. -/
def all : List Browser :=
  [.android, .chrome, .edge, .firefox, .ie, .ios, .opera, .safari, .samsung]

/-- The name of a browser in queries. -/
def name : Browser → String
  | .android => "android"
  | .chrome => "chrome"
  | .edge => "edge"
  | .firefox => "firefox"
  | .ie => "ie"
  | .ios => "ios_saf"
  | .opera => "opera"
  | .safari => "safari"
  | .samsung => "samsung"

end Browser

/-- The oldest version of each browser to be supported. -/
structure Browsers where
  oldest : List (Browser × Version)
  deriving DecidableEq, Repr, Inhabited

namespace Browsers

/-- The oldest version of one browser. -/
def get? (bs : Browsers) (b : Browser) : Option Version := bs.oldest.lookup b

/-- Lower the limit of a browser to a version, if that is earlier. -/
def lower (bs : Browsers) (b : Browser) (v : Version) : Browsers :=
  match bs.get? b with
  | none => ⟨bs.oldest ++ [(b, v)]⟩
  | some old => if old.le v then bs else ⟨bs.oldest.map fun p => if p.1 = b then (b, v) else p⟩

end Browsers

end StyleBuild
