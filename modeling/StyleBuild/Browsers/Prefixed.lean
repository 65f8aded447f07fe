import StyleBuild.Browsers.Basic

/-!
# Vendor prefixes

The features that browsers know under a vendor's prefix, and in which versions they do.
-/

namespace StyleBuild

/-- Features that some browsers know under a vendor prefix. -/
inductive Prefixed where
  | userSelect
  | flexDisplay
  | order
  | transform
  | animation
  | placeholder
  | anyOf
  | resolutionQuery
  deriving DecidableEq, Repr

/-- The vendors of prefixes. -/
inductive Vendor where
  | webkit
  | moz
  | ms
  | opera
  deriving DecidableEq, Repr

/-- The versions, first and last, in which a browser knows a feature under a vendor prefix. -/
def Prefixed.spans : Prefixed → Browser → List (Vendor × Version × Version)
  | .userSelect, b => match b with
    | .android => [(.webkit, ⟨2, 1, 0⟩, ⟨4, 4, 4⟩)]
    | .chrome => [(.webkit, ⟨4, 0, 0⟩, ⟨53, 0, 0⟩)]
    | .edge => [(.ms, ⟨12, 0, 0⟩, ⟨18, 0, 0⟩)]
    | .firefox => [(.moz, ⟨2, 0, 0⟩, ⟨68, 0, 0⟩)]
    | .ie => [(.ms, ⟨10, 0, 0⟩, ⟨255, 0, 0⟩)]
    | .ios => [(.webkit, ⟨3, 2, 0⟩, ⟨255, 0, 0⟩)]
    | .opera => [(.webkit, ⟨15, 0, 0⟩, ⟨40, 0, 0⟩)]
    | .safari => [(.webkit, ⟨3, 1, 0⟩, ⟨255, 0, 0⟩)]
    | .samsung => [(.webkit, ⟨4, 0, 0⟩, ⟨5, 4, 0⟩)]
  | .flexDisplay, b | .order, b => match b with
    | .android => [(.webkit, ⟨2, 1, 0⟩, ⟨4, 3, 0⟩)]
    | .chrome => [(.webkit, ⟨4, 0, 0⟩, ⟨28, 0, 0⟩)]
    | .firefox => [(.moz, ⟨2, 0, 0⟩, ⟨21, 0, 0⟩)]
    | .ie => [(.ms, ⟨10, 0, 0⟩, ⟨10, 0, 0⟩)]
    | .ios => [(.webkit, ⟨3, 2, 0⟩, ⟨8, 1, 0⟩)]
    | .opera => [(.webkit, ⟨15, 0, 0⟩, ⟨16, 0, 0⟩)]
    | .safari => [(.webkit, ⟨3, 1, 0⟩, ⟨8, 0, 0⟩)]
    | .edge | .samsung => []
  | .transform, b => match b with
    | .android => [(.webkit, ⟨2, 1, 0⟩, ⟨4, 4, 4⟩)]
    | .chrome => [(.webkit, ⟨4, 0, 0⟩, ⟨35, 0, 0⟩)]
    | .firefox => [(.moz, ⟨3, 5, 0⟩, ⟨15, 0, 0⟩)]
    | .ie => [(.ms, ⟨0, 0, 0⟩, ⟨9, 0, 0⟩)]
    | .ios => [(.webkit, ⟨3, 2, 0⟩, ⟨8, 1, 0⟩)]
    | .opera => [(.opera, ⟨10, 5, 0⟩, ⟨12, 0, 0⟩), (.webkit, ⟨15, 0, 0⟩, ⟨22, 0, 0⟩)]
    | .safari => [(.webkit, ⟨3, 1, 0⟩, ⟨8, 0, 0⟩)]
    | .edge | .samsung => []
  | .animation, b => match b with
    | .android => [(.webkit, ⟨2, 1, 0⟩, ⟨4, 4, 4⟩)]
    | .chrome => [(.webkit, ⟨4, 0, 0⟩, ⟨42, 0, 0⟩)]
    | .firefox => [(.moz, ⟨5, 0, 0⟩, ⟨15, 0, 0⟩)]
    | .ios => [(.webkit, ⟨3, 2, 0⟩, ⟨8, 1, 0⟩)]
    | .opera => [(.opera, ⟨0, 0, 0⟩, ⟨12, 0, 0⟩), (.webkit, ⟨15, 0, 0⟩, ⟨29, 0, 0⟩)]
    | .safari => [(.webkit, ⟨4, 0, 0⟩, ⟨8, 0, 0⟩)]
    | .edge | .ie | .samsung => []
  | .placeholder, b => match b with
    | .android => [(.webkit, ⟨2, 1, 0⟩, ⟨4, 4, 4⟩)]
    | .chrome => [(.webkit, ⟨4, 0, 0⟩, ⟨56, 0, 0⟩)]
    | .edge => [(.ms, ⟨12, 0, 0⟩, ⟨18, 0, 0⟩)]
    | .firefox => [(.moz, ⟨18, 0, 0⟩, ⟨50, 0, 0⟩)]
    | .ie => [(.ms, ⟨10, 0, 0⟩, ⟨255, 0, 0⟩)]
    | .ios => [(.webkit, ⟨4, 3, 0⟩, ⟨10, 2, 0⟩)]
    | .opera => [(.webkit, ⟨15, 0, 0⟩, ⟨43, 0, 0⟩)]
    | .safari => [(.webkit, ⟨5, 0, 0⟩, ⟨10, 0, 0⟩)]
    | .samsung => [(.webkit, ⟨4, 0, 0⟩, ⟨6, 4, 0⟩)]
  | .anyOf, b => match b with
    | .android => [(.webkit, ⟨37, 0, 0⟩, ⟨87, 0, 0⟩)]
    | .chrome => [(.webkit, ⟨12, 0, 0⟩, ⟨87, 0, 0⟩)]
    | .edge => [(.webkit, ⟨79, 0, 0⟩, ⟨87, 0, 0⟩)]
    | .firefox => [(.moz, ⟨4, 0, 0⟩, ⟨77, 0, 0⟩)]
    | .ios => [(.webkit, ⟨5, 0, 0⟩, ⟨13, 0, 0⟩)]
    | .opera => [(.webkit, ⟨15, 0, 0⟩, ⟨73, 0, 0⟩)]
    | .safari => [(.webkit, ⟨5, 0, 0⟩, ⟨13, 0, 0⟩)]
    | .samsung => [(.webkit, ⟨1, 0, 0⟩, ⟨14, 0, 0⟩)]
    | .ie => []
  | .resolutionQuery, b => match b with
    | .android => [(.webkit, ⟨2, 3, 0⟩, ⟨4, 3, 0⟩)]
    | .chrome => [(.webkit, ⟨4, 0, 0⟩, ⟨28, 0, 0⟩)]
    | .firefox => [(.moz, ⟨3, 5, 0⟩, ⟨15, 0, 0⟩)]
    | .ios => [(.webkit, ⟨4, 0, 0⟩, ⟨15, 6, 0⟩)]
    | .opera => [(.opera, ⟨9, 5, 0⟩, ⟨12, 0, 0⟩)]
    | .safari => [(.webkit, ⟨4, 0, 0⟩, ⟨15, 6, 0⟩)]
    | .edge | .ie | .samsung => []

/-- Whether some target knows a feature under a vendor's prefix. -/
def Prefixed.needs (f : Prefixed) (vendor : Vendor) (bs : Browsers) : Bool :=
  bs.oldest.any fun (b, v) => (f.spans b).any fun (w, first, last) =>
    w = vendor && first.le v && v.le last

/-- Whether some target knows only the first draft of flexible boxes. -/
def needsOldFlex (bs : Browsers) : Bool :=
  bs.oldest.any fun (b, v) => match b with
    | .android => v.le ⟨4, 3, 0⟩
    | .chrome => v.le ⟨20, 0, 0⟩
    | .ios => v.le ⟨6, 1, 0⟩
    | .safari => v.le ⟨6, 0, 0⟩
    | .firefox => v.le ⟨21, 0, 0⟩
    | _ => false

end StyleBuild
