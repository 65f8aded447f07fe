import StyleBuild.Browsers.Basic

/-!
# Features

The features of the language that some browsers lack, with the first version of each browser that
has one. A feature is supported by targets if every one of them has it.
-/

namespace StyleBuild

/-- Features of the language that some browsers lack. -/
inductive Feature where
  | nesting
  | mediaRanges
  | mediaIntervals
  | isSelector
  | notSelectorList
  | hasSelector
  | nthOfSelector
  | caseFlags
  | shadowTree
  | shadowPart
  | placeholder
  | namespaces
  | generatedContent
  | firstLetter
  | firstLine
  | selectors2
  | selectors3
  | anyLink
  | indeterminate
  | fullscreen
  | focusVisible
  | focusWithin
  | defaultState
  | dirSelector
  | optionalState
  | placeholderShown
  | readWrite
  | formValidation
  | inRange
  | autofill
  | selection
  | markerElement
  | backdrop
  | cue
  | cueCall
  | hexAlphaColors
  | spacedColors
  | labColors
  | oklabColors
  | p3Colors
  | colorFunction
  | lightDark
  | accentColors
  | systemUiFont
  | extendedSystemFonts
  | shortResolution
  | calc
  | minMax
  | clamp
  | rounding
  | signs
  | hypot
  | quarterMillimetres
  | rootEm
  | xHeight
  | zeroWidth
  | capHeight
  | ideographWidth
  | lineHeight
  | rootLineHeight
  | rootCapHeight
  | rootFontUnits
  | viewportUnits
  | viewportMin
  | viewportMax
  | dynamicViewport
  | containerUnits
  | stringMarkers
  | symbolMarkers
  | simpleMarkers
  | alphabeticMarkers
  | scriptMarkers
  | ideographMarkers
  | recentMarkers
  | disclosureMarkers
  | animationTimelines
  deriving DecidableEq, Repr, Inhabited

namespace Feature

/-- The first versions, as major and minor numbers, of the browsers that have a feature. -/
def firstVersions : Feature → List (Browser × Nat × Nat)
  | .nesting =>
    [(.android, 144, 0), (.chrome, 120, 0), (.edge, 120, 0), (.firefox, 117, 0), (.ios, 17, 2),
     (.opera, 80, 0), (.safari, 17, 2), (.samsung, 25, 0)]
  | .mediaRanges =>
    [(.android, 104, 0), (.chrome, 104, 0), (.edge, 104, 0), (.firefox, 63, 0), (.ios, 16, 4),
     (.opera, 71, 0), (.safari, 16, 4), (.samsung, 20, 0)]
  | .mediaIntervals =>
    [(.android, 104, 0), (.chrome, 104, 0), (.edge, 104, 0), (.firefox, 102, 0), (.ios, 16, 4),
     (.opera, 71, 0), (.safari, 16, 4), (.samsung, 20, 0)]
  | .isSelector =>
    [(.android, 144, 0), (.chrome, 88, 0), (.edge, 88, 0), (.firefox, 78, 0), (.ios, 14, 0),
     (.opera, 75, 0), (.safari, 14, 0), (.samsung, 15, 0)]
  | .notSelectorList =>
    [(.android, 144, 0), (.chrome, 88, 0), (.edge, 88, 0), (.firefox, 84, 0), (.ios, 9, 0),
     (.opera, 75, 0), (.safari, 9, 0), (.samsung, 15, 0)]
  | .hasSelector =>
    [(.android, 144, 0), (.chrome, 105, 0), (.edge, 105, 0), (.firefox, 121, 0), (.ios, 15, 4),
     (.opera, 80, 0), (.safari, 15, 4), (.samsung, 20, 0)]
  | .nthOfSelector =>
    [(.android, 111, 0), (.chrome, 111, 0), (.edge, 111, 0), (.firefox, 113, 0), (.ios, 9, 0),
     (.opera, 75, 0), (.safari, 9, 0), (.samsung, 22, 0)]
  | .caseFlags =>
    [(.android, 144, 0), (.chrome, 49, 0), (.edge, 79, 0), (.firefox, 47, 0), (.ios, 9, 0),
     (.opera, 36, 0), (.safari, 9, 0), (.samsung, 5, 0)]
  | .shadowTree =>
    [(.android, 144, 0), (.chrome, 53, 0), (.edge, 79, 0), (.firefox, 63, 0), (.ios, 11, 0),
     (.opera, 41, 0), (.safari, 10, 0), (.samsung, 6, 4)]
  | .shadowPart =>
    [(.android, 73, 0), (.chrome, 73, 0), (.edge, 79, 0), (.firefox, 72, 0), (.ios, 13, 4),
     (.opera, 52, 0), (.safari, 13, 1), (.samsung, 11, 0)]
  | .placeholder =>
    [(.android, 144, 0), (.chrome, 57, 0), (.edge, 79, 0), (.firefox, 51, 0), (.ios, 10, 3),
     (.opera, 44, 0), (.safari, 10, 1), (.samsung, 7, 2)]
  | .namespaces =>
    [(.android, 2, 1), (.chrome, 4, 0), (.edge, 12, 0), (.firefox, 2, 0), (.ie, 9, 0),
     (.ios, 4, 0), (.opera, 9, 0), (.safari, 4, 0), (.samsung, 4, 0)]
  | .generatedContent =>
    [(.android, 2, 1), (.chrome, 4, 0), (.edge, 12, 0), (.firefox, 2, 0), (.ie, 9, 0),
     (.ios, 3, 2), (.opera, 9, 0), (.safari, 3, 1), (.samsung, 4, 0)]
  | .firstLetter =>
    [(.android, 3, 0), (.chrome, 9, 0), (.edge, 12, 0), (.firefox, 3, 5), (.ie, 9, 0),
     (.ios, 5, 1), (.opera, 11, 6), (.safari, 5, 1), (.samsung, 4, 0)]
  | .firstLine =>
    [(.android, 2, 1), (.chrome, 4, 0), (.edge, 12, 0), (.firefox, 2, 0), (.ie, 9, 0),
     (.ios, 3, 2), (.opera, 9, 0), (.safari, 3, 1), (.samsung, 4, 0)]
  | .selectors2 =>
    [(.android, 2, 1), (.chrome, 4, 0), (.edge, 12, 0), (.firefox, 2, 0), (.ie, 7, 0),
     (.ios, 3, 2), (.opera, 9, 0), (.safari, 3, 1), (.samsung, 4, 0)]
  | .selectors3 =>
    [(.android, 2, 1), (.chrome, 4, 0), (.edge, 12, 0), (.firefox, 3, 5), (.ie, 9, 0),
     (.ios, 3, 2), (.opera, 9, 6), (.safari, 3, 2), (.samsung, 4, 0)]
  | .anyLink =>
    [(.android, 144, 0), (.chrome, 65, 0), (.edge, 79, 0), (.firefox, 50, 0), (.ios, 9, 0),
     (.opera, 52, 0), (.safari, 9, 0), (.samsung, 9, 2)]
  | .indeterminate =>
    [(.android, 144, 0), (.chrome, 39, 0), (.edge, 79, 0), (.firefox, 51, 0), (.ios, 12, 2),
     (.opera, 26, 0), (.safari, 10, 1), (.samsung, 4, 0)]
  | .fullscreen =>
    [(.android, 144, 0), (.chrome, 71, 0), (.edge, 79, 0), (.firefox, 64, 0), (.opera, 58, 0),
     (.safari, 16, 4), (.samsung, 10, 1)]
  | .focusVisible =>
    [(.android, 144, 0), (.chrome, 86, 0), (.edge, 86, 0), (.firefox, 85, 0), (.ios, 15, 4),
     (.opera, 72, 0), (.safari, 15, 4), (.samsung, 14, 0)]
  | .focusWithin =>
    [(.android, 144, 0), (.chrome, 60, 0), (.edge, 79, 0), (.firefox, 52, 0), (.ios, 10, 3),
     (.opera, 47, 0), (.safari, 10, 1), (.samsung, 8, 2)]
  | .defaultState =>
    [(.android, 144, 0), (.chrome, 51, 0), (.edge, 79, 0), (.firefox, 4, 0), (.ios, 10, 3),
     (.opera, 38, 0), (.safari, 10, 1), (.samsung, 5, 0)]
  | .dirSelector =>
    [(.android, 144, 0), (.chrome, 120, 0), (.edge, 120, 0), (.firefox, 49, 0), (.ios, 16, 4),
     (.opera, 80, 0), (.safari, 16, 4), (.samsung, 25, 0)]
  | .optionalState =>
    [(.android, 4, 4), (.chrome, 15, 0), (.edge, 12, 0), (.firefox, 4, 0), (.ie, 10, 0),
     (.ios, 5, 0), (.opera, 10, 0), (.safari, 5, 0), (.samsung, 4, 0)]
  | .placeholderShown =>
    [(.android, 144, 0), (.chrome, 47, 0), (.edge, 79, 0), (.firefox, 51, 0), (.ios, 9, 0),
     (.opera, 34, 0), (.safari, 9, 0), (.samsung, 5, 0)]
  | .readWrite =>
    [(.android, 144, 0), (.chrome, 36, 0), (.edge, 13, 0), (.firefox, 78, 0), (.ios, 9, 0),
     (.opera, 23, 0), (.safari, 9, 0), (.samsung, 4, 0)]
  | .formValidation =>
    [(.android, 144, 0), (.chrome, 10, 0), (.edge, 12, 0), (.firefox, 4, 0), (.ie, 10, 0),
     (.ios, 10, 3), (.opera, 10, 0), (.safari, 10, 1), (.samsung, 4, 0)]
  | .inRange =>
    [(.android, 144, 0), (.chrome, 53, 0), (.edge, 79, 0), (.firefox, 50, 0), (.ios, 10, 3),
     (.opera, 40, 0), (.safari, 10, 1), (.samsung, 6, 2)]
  | .autofill =>
    [(.android, 144, 0), (.chrome, 110, 0), (.edge, 110, 0), (.firefox, 86, 0), (.ios, 15, 0),
     (.opera, 80, 0), (.safari, 15, 0), (.samsung, 21, 0)]
  | .selection =>
    [(.android, 4, 4), (.chrome, 4, 0), (.edge, 12, 0), (.firefox, 62, 0), (.ie, 9, 0),
     (.opera, 9, 5), (.safari, 3, 1), (.samsung, 4, 0)]
  | .markerElement =>
    [(.android, 144, 0), (.chrome, 86, 0), (.edge, 86, 0), (.firefox, 68, 0), (.opera, 72, 0),
     (.samsung, 14, 0)]
  | .backdrop =>
    [(.android, 144, 0), (.chrome, 37, 0), (.edge, 79, 0), (.firefox, 98, 0), (.ios, 15, 4),
     (.opera, 24, 0), (.safari, 15, 4), (.samsung, 4, 0)]
  | .cue =>
    [(.android, 37, 0), (.chrome, 26, 0), (.edge, 79, 0), (.firefox, 55, 0), (.ios, 7, 0),
     (.opera, 14, 0), (.safari, 7, 0), (.samsung, 1, 5)]
  | .cueCall =>
    [(.android, 37, 0), (.chrome, 26, 0), (.edge, 79, 0), (.ios, 7, 0), (.opera, 14, 0),
     (.safari, 7, 0), (.samsung, 1, 5)]
  | .hexAlphaColors =>
    [(.android, 144, 0), (.chrome, 62, 0), (.edge, 79, 0), (.firefox, 49, 0), (.ios, 10, 0),
     (.opera, 47, 0), (.safari, 10, 0), (.samsung, 8, 0)]
  | .spacedColors =>
    [(.android, 65, 0), (.chrome, 65, 0), (.edge, 79, 0), (.firefox, 52, 0), (.ios, 12, 2),
     (.opera, 47, 0), (.safari, 12, 1), (.samsung, 9, 0)]
  | .labColors =>
    [(.android, 111, 0), (.chrome, 111, 0), (.edge, 111, 0), (.firefox, 113, 0), (.ios, 15, 0),
     (.opera, 75, 0), (.safari, 15, 0), (.samsung, 22, 0)]
  | .oklabColors =>
    [(.android, 111, 0), (.chrome, 111, 0), (.edge, 111, 0), (.firefox, 113, 0), (.ios, 15, 4),
     (.opera, 75, 0), (.safari, 15, 4), (.samsung, 22, 0)]
  | .p3Colors =>
    [(.android, 111, 0), (.chrome, 111, 0), (.edge, 111, 0), (.firefox, 113, 0), (.ios, 10, 3),
     (.opera, 75, 0), (.safari, 10, 1), (.samsung, 22, 0)]
  | .colorFunction =>
    [(.android, 111, 0), (.chrome, 111, 0), (.edge, 111, 0), (.firefox, 113, 0), (.ios, 10, 3),
     (.opera, 75, 0), (.safari, 10, 1), (.samsung, 22, 0)]
  | .lightDark =>
    [(.android, 123, 0), (.chrome, 123, 0), (.edge, 123, 0), (.firefox, 120, 0), (.ios, 17, 5),
     (.opera, 82, 0), (.safari, 17, 5), (.samsung, 27, 0)]
  | .accentColors => [(.firefox, 103, 0), (.ios, 16, 5), (.safari, 16, 5)]
  | .systemUiFont =>
    [(.android, 144, 0), (.chrome, 56, 0), (.edge, 79, 0), (.firefox, 92, 0), (.ios, 11, 0),
     (.opera, 43, 0), (.safari, 11, 0), (.samsung, 6, 2)]
  | .extendedSystemFonts => [(.ios, 13, 4), (.safari, 13, 1)]
  | .shortResolution =>
    [(.android, 68, 0), (.chrome, 68, 0), (.edge, 79, 0), (.firefox, 62, 0), (.ios, 16, 0),
     (.opera, 48, 0), (.safari, 16, 0), (.samsung, 10, 1)]
  | .calc =>
    [(.android, 4, 4), (.chrome, 26, 0), (.edge, 12, 0), (.firefox, 16, 0), (.ie, 9, 0),
     (.ios, 7, 0), (.opera, 15, 0), (.safari, 7, 0), (.samsung, 4, 0)]
  | .minMax =>
    [(.android, 79, 0), (.chrome, 79, 0), (.edge, 79, 0), (.firefox, 75, 0), (.ios, 11, 3),
     (.opera, 57, 0), (.safari, 11, 1), (.samsung, 12, 0)]
  | .clamp =>
    [(.android, 79, 0), (.chrome, 79, 0), (.edge, 79, 0), (.firefox, 75, 0), (.ios, 13, 4),
     (.opera, 57, 0), (.safari, 13, 1), (.samsung, 12, 0)]
  | .rounding =>
    [(.android, 125, 0), (.chrome, 125, 0), (.edge, 125, 0), (.firefox, 118, 0), (.ios, 15, 4),
     (.opera, 83, 0), (.safari, 15, 4), (.samsung, 27, 0)]
  | .signs =>
    [(.android, 138, 0), (.chrome, 138, 0), (.edge, 138, 0), (.firefox, 118, 0), (.ios, 15, 4),
     (.opera, 91, 0), (.safari, 15, 4)]
  | .hypot =>
    [(.android, 120, 0), (.chrome, 120, 0), (.edge, 120, 0), (.firefox, 118, 0), (.ios, 15, 4),
     (.opera, 80, 0), (.safari, 15, 4), (.samsung, 25, 0)]
  | .quarterMillimetres =>
    [(.android, 63, 0), (.chrome, 63, 0), (.edge, 79, 0), (.firefox, 49, 0), (.ios, 13, 4),
     (.opera, 46, 0), (.safari, 13, 1), (.samsung, 8, 0)]
  | .rootEm =>
    [(.android, 2, 0), (.chrome, 4, 0), (.edge, 12, 0), (.firefox, 3, 6), (.ie, 9, 0),
     (.ios, 4, 0), (.opera, 11, 6), (.safari, 5, 0), (.samsung, 1, 0)]
  | .xHeight =>
    [(.android, 1, 0), (.chrome, 1, 0), (.edge, 12, 0), (.firefox, 1, 0), (.ie, 4, 0),
     (.ios, 1, 0), (.opera, 7, 0), (.safari, 1, 0), (.samsung, 1, 0)]
  | .zeroWidth =>
    [(.android, 37, 0), (.chrome, 27, 0), (.edge, 12, 0), (.firefox, 1, 0), (.ie, 9, 0),
     (.ios, 7, 0), (.opera, 15, 0), (.safari, 7, 0), (.samsung, 1, 5)]
  | .capHeight =>
    [(.android, 118, 0), (.chrome, 118, 0), (.edge, 118, 0), (.firefox, 97, 0), (.ios, 17, 2),
     (.opera, 79, 0), (.safari, 17, 2), (.samsung, 25, 0)]
  | .ideographWidth =>
    [(.android, 106, 0), (.chrome, 106, 0), (.edge, 106, 0), (.firefox, 97, 0), (.ios, 15, 4),
     (.opera, 72, 0), (.safari, 15, 4), (.samsung, 20, 0)]
  | .lineHeight =>
    [(.android, 109, 0), (.chrome, 109, 0), (.edge, 109, 0), (.firefox, 120, 0), (.ios, 16, 4),
     (.opera, 74, 0), (.safari, 16, 4), (.samsung, 21, 0)]
  | .rootLineHeight =>
    [(.android, 111, 0), (.chrome, 111, 0), (.edge, 111, 0), (.firefox, 120, 0), (.ios, 16, 4),
     (.opera, 75, 0), (.safari, 16, 4), (.samsung, 22, 0)]
  | .rootCapHeight =>
    [(.android, 118, 0), (.chrome, 118, 0), (.edge, 118, 0), (.firefox, 147, 0), (.ios, 17, 2),
     (.opera, 79, 0), (.safari, 17, 2), (.samsung, 25, 0)]
  | .rootFontUnits =>
    [(.android, 111, 0), (.chrome, 111, 0), (.edge, 111, 0), (.firefox, 147, 0), (.ios, 17, 2),
     (.opera, 75, 0), (.safari, 17, 2), (.samsung, 22, 0)]
  | .viewportUnits =>
    [(.android, 4, 4), (.chrome, 20, 0), (.edge, 12, 0), (.firefox, 19, 0), (.ie, 9, 0),
     (.ios, 6, 0), (.opera, 14, 0), (.safari, 6, 0), (.samsung, 1, 5)]
  | .viewportMin =>
    [(.android, 4, 4), (.chrome, 20, 0), (.edge, 12, 0), (.firefox, 19, 0), (.ie, 10, 0),
     (.ios, 6, 0), (.opera, 14, 0), (.safari, 6, 0), (.samsung, 1, 5)]
  | .viewportMax =>
    [(.android, 4, 4), (.chrome, 26, 0), (.edge, 16, 0), (.firefox, 19, 0), (.ios, 7, 0),
     (.opera, 14, 0), (.safari, 7, 0), (.samsung, 1, 5)]
  | .dynamicViewport =>
    [(.android, 108, 0), (.chrome, 108, 0), (.edge, 108, 0), (.firefox, 101, 0), (.ios, 15, 4),
     (.opera, 73, 0), (.safari, 15, 4), (.samsung, 21, 0)]
  | .containerUnits =>
    [(.android, 105, 0), (.chrome, 105, 0), (.edge, 105, 0), (.firefox, 110, 0), (.ios, 16, 0),
     (.opera, 72, 0), (.safari, 16, 0), (.samsung, 20, 0)]
  | .stringMarkers =>
    [(.android, 79, 0), (.chrome, 79, 0), (.edge, 79, 0), (.firefox, 39, 0), (.ios, 14, 5),
     (.opera, 57, 0), (.safari, 14, 1), (.samsung, 12, 0)]
  | .symbolMarkers => [(.firefox, 35, 0)]
  | .simpleMarkers =>
    [(.android, 4, 0), (.chrome, 18, 0), (.edge, 12, 0), (.firefox, 1, 0), (.ie, 4, 0),
     (.ios, 1, 0), (.opera, 7, 0), (.safari, 1, 0), (.samsung, 1, 5)]
  | .alphabeticMarkers =>
    [(.android, 4, 0), (.chrome, 18, 0), (.edge, 12, 0), (.firefox, 1, 0), (.ie, 8, 0),
     (.ios, 1, 0), (.opera, 7, 0), (.safari, 1, 0), (.samsung, 1, 5)]
  | .scriptMarkers =>
    [(.android, 4, 0), (.chrome, 18, 0), (.edge, 79, 0), (.firefox, 33, 0), (.ios, 5, 0),
     (.opera, 14, 0), (.safari, 5, 1), (.samsung, 1, 5)]
  | .ideographMarkers =>
    [(.android, 45, 0), (.chrome, 45, 0), (.edge, 79, 0), (.firefox, 28, 0), (.ios, 15, 4),
     (.opera, 32, 0), (.safari, 15, 4), (.samsung, 5, 0)]
  | .recentMarkers =>
    [(.android, 91, 0), (.chrome, 91, 0), (.edge, 91, 0), (.firefox, 33, 0), (.ios, 15, 4),
     (.opera, 64, 0), (.safari, 15, 4), (.samsung, 16, 0)]
  | .disclosureMarkers =>
    [(.android, 89, 0), (.chrome, 89, 0), (.edge, 89, 0), (.firefox, 33, 0), (.ios, 15, 4),
     (.opera, 63, 0), (.safari, 15, 4), (.samsung, 15, 0)]
  | .animationTimelines =>
    [(.android, 115, 0), (.chrome, 115, 0), (.edge, 115, 0), (.opera, 77, 0), (.samsung, 23, 0)]

/-- The first version of a browser that has a feature, if any has. -/
def since (f : Feature) (b : Browser) : Option Version :=
  (f.firstVersions.lookup b).map fun (major, minor) => ⟨major, minor, 0⟩

/-- Whether a version of a browser has a feature. -/
def isIn (f : Feature) (b : Browser) (v : Version) : Bool :=
  match f.since b with
  | some first => first.le v
  | none => false

/-- Whether every target has a feature. -/
def isSupported (f : Feature) (bs : Browsers) : Bool := bs.oldest.all fun (b, v) => f.isIn b v

/-- Whether some target has a feature. -/
def isPartlySupported (f : Feature) (bs : Browsers) : Bool :=
  bs.oldest.any fun (b, v) => f.isIn b v

/-- Whether a feature may be used as it is: there are no targets, or all have it. -/
def isUsable (f : Feature) : Option Browsers → Bool
  | none => true
  | some bs => f.isSupported bs

/-- Whether all features of a list may be used as they are. -/
def areUsable (targets : Option Browsers) (fs : List Feature) : Bool := fs.all (isUsable · targets)

end Feature

/-- Whom a part of a sheet is for: the targets, and the features that they are known to have
there. -/
structure Audience where
  targets : Option Browsers := none
  granted : List Feature := []
  deriving DecidableEq, Repr, Inhabited

namespace Audience

/-- Whether a feature has to be avoided. -/
def lacks (a : Audience) (f : Feature) : Bool := !a.granted.contains f && !f.isUsable a.targets

/-- An audience that is known to have further features. -/
def grant (a : Audience) (fs : List Feature) : Audience := { a with granted := a.granted ++ fs }

end Audience

end StyleBuild
