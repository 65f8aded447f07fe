import StyleBuild.Regex.Property.Age
import StyleBuild.Regex.Property.Segment

/-!
# Properties of characters

The sets that a regular expression names by a property, alone or with a value: general categories,
scripts, ages, the classes for cutting texts and the properties that hold or not. Names count
without case, spaces, underscores and dashes.
-/

namespace StyleBuild

namespace CharSet

/-- The names of the properties, each one's full name first. -/
def propertyNames : List (List String) := [
    ["alphabetic", "alpha"], ["asciihexdigit", "ahex"], ["bidicontrol", "bidic"],
    ["bidimirrored", "bidim"], ["caseignorable", "ci"], ["cased"],
    ["changeswhencasefolded", "cwcf"], ["changeswhencasemapped", "cwcm"],
    ["changeswhenlowercased", "cwl"], ["changeswhentitlecased", "cwt"],
    ["changeswhenuppercased", "cwu"], ["dash"], ["defaultignorablecodepoint", "di"],
    ["deprecated", "dep"], ["diacritic", "dia"], ["emoji"], ["emojicomponent", "ecomp"],
    ["emojimodifier", "emod"], ["emojimodifierbase", "ebase"], ["emojipresentation", "epres"],
    ["extendedpictographic", "extpict"], ["extender", "ext"], ["graphemebase", "grbase"],
    ["graphemeextend", "grext"], ["graphemelink", "grlink"], ["hexdigit", "hex"], ["hyphen"],
    ["idcompatmathcontinue"], ["idcompatmathstart"], ["idcontinue", "idc"],
    ["idsbinaryoperator", "idsb"], ["idstart", "ids"], ["idstrinaryoperator", "idst"],
    ["idsunaryoperator", "idsu"], ["ideographic", "ideo"], ["joincontrol", "joinc"],
    ["logicalorderexception", "loe"], ["lowercase", "lower"], ["math"],
    ["modifiercombiningmark", "mcm"], ["noncharactercodepoint", "nchar"],
    ["otheralphabetic", "oalpha"], ["otherdefaultignorablecodepoint", "odi"],
    ["othergraphemeextend", "ogrext"], ["otheridcontinue", "oidc"], ["otheridstart", "oids"],
    ["otherlowercase", "olower"], ["othermath", "omath"], ["otheruppercase", "oupper"],
    ["patternsyntax", "patsyn"], ["patternwhitespace", "patws"],
    ["prependedconcatenationmark", "pcm"], ["quotationmark", "qmark"], ["radical"],
    ["regionalindicator", "ri"], ["sentenceterminal", "sterm"], ["softdotted", "sd"],
    ["terminalpunctuation", "term"], ["unifiedideograph", "uideo"], ["uppercase", "upper"],
    ["variationselector", "vs"], ["whitespace", "space", "wspace"], ["xidcontinue", "xidc"],
    ["xidstart", "xids"], ["age"], ["block", "blk"], ["bidiclass", "bc"],
    ["bidimirroringglyph", "bmg"], ["bidipairedbracket", "bpb"], ["bidipairedbrackettype", "bpt"],
    ["canonicalcombiningclass", "ccc"], ["casefolding", "cf"],
    ["changeswhennfkccasefolded", "cwkcf"], ["compositionexclusion", "ce"],
    ["decompositionmapping", "dm"], ["decompositiontype", "dt"], ["eastasianwidth", "ea"],
    ["equivalentunifiedideograph", "equideo"], ["expandsonnfc", "xonfc"],
    ["expandsonnfd", "xonfd"], ["expandsonnfkc", "xonfkc"], ["expandsonnfkd", "xonfkd"],
    ["fcnfkcclosure", "fcnfkc"], ["fullcompositionexclusion", "compex"],
    ["generalcategory", "gc"], ["graphemeclusterbreak", "gcb"], ["hangulsyllabletype", "hst"],
    ["indicconjunctbreak", "incb"], ["indicpositionalcategory", "inpc"],
    ["indicsyllabiccategory", "insc"], ["isocomment", "isc"], ["jamoshortname", "jsn"],
    ["joininggroup", "jg"], ["joiningtype", "jt"], ["kaccountingnumeric", "cjkaccountingnumeric"],
    ["kcompatibilityvariant", "cjkcompatibilityvariant"], ["kehcat"], ["kehdesc"], ["kehhg"],
    ["kehifao"], ["kehjsesh"], ["kehnomirror"], ["kehnorotate"], ["kiicore", "cjkiicore"],
    ["kirggsource", "cjkirggsource"], ["kirghsource", "cjkirghsource"],
    ["kirgjsource", "cjkirgjsource"], ["kirgkpsource", "cjkirgkpsource"],
    ["kirgksource", "cjkirgksource"], ["kirgmsource", "cjkirgmsource"],
    ["kirgssource", "cjkirgssource"], ["kirgtsource", "cjkirgtsource"],
    ["kirguksource", "cjkirguksource"], ["kirgusource", "cjkirgusource"],
    ["kirgvsource", "cjkirgvsource"], ["kothernumeric", "cjkothernumeric"],
    ["kprimarynumeric", "cjkprimarynumeric"],
    ["krsunicode", "cjkrsunicode", "unicoderadicalstroke", "urs"], ["linebreak", "lb"],
    ["lowercasemapping", "lc"], ["name", "na"], ["namealias"], ["nfcquickcheck", "nfcqc"],
    ["nfdquickcheck", "nfdqc"], ["nfkccasefold", "nfkccf"], ["nfkcquickcheck", "nfkcqc"],
    ["nfkcsimplecasefold", "nfkcscf"], ["nfkdquickcheck", "nfkdqc"], ["numerictype", "nt"],
    ["numericvalue", "nv"], ["script", "sc"], ["scriptextensions", "scx"],
    ["sentencebreak", "sb"], ["simplecasefolding", "scf", "sfc"],
    ["simplelowercasemapping", "slc"], ["simpletitlecasemapping", "stc"],
    ["simpleuppercasemapping", "suc"], ["titlecasemapping", "tc"], ["unicode1name", "na1"],
    ["uppercasemapping", "uc"], ["verticalorientation", "vo"], ["wordbreak", "wb"]]

/-- The names of general categories and of their groups, with the short names of what they hold;
a short name of one letter stands for all that start with it. -/
def categoryNames : List (List String × List String) := [
  (["l", "letter"], ["l"]), (["m", "mark", "combiningmark"], ["m"]),
  (["n", "number"], ["n"]), (["p", "punctuation", "punct"], ["p"]),
  (["s", "symbol"], ["s"]), (["z", "separator"], ["z"]), (["c", "other"], ["c"]),
  (["lc", "casedletter"], ["lu", "ll", "lt"]),
  (["cc", "control", "cntrl"], ["cc"]), (["cf", "format"], ["cf"]),
  (["cn", "unassigned"], ["cn"]), (["co", "privateuse"], ["co"]),
  (["ll", "lowercaseletter"], ["ll"]),
  (["lm", "modifierletter"], ["lm"]), (["lo", "otherletter"], ["lo"]),
  (["lt", "titlecaseletter"], ["lt"]), (["lu", "uppercaseletter"], ["lu"]),
  (["mc", "spacingmark"], ["mc"]), (["me", "enclosingmark"], ["me"]),
  (["mn", "nonspacingmark"], ["mn"]), (["nd", "decimalnumber", "digit"], ["nd"]),
  (["nl", "letternumber"], ["nl"]), (["no", "othernumber"], ["no"]),
  (["pc", "connectorpunctuation"], ["pc"]), (["pd", "dashpunctuation"], ["pd"]),
  (["pe", "closepunctuation"], ["pe"]), (["pf", "finalpunctuation"], ["pf"]),
  (["pi", "initialpunctuation"], ["pi"]), (["po", "otherpunctuation"], ["po"]),
  (["ps", "openpunctuation"], ["ps"]), (["sc", "currencysymbol"], ["sc"]),
  (["sk", "modifiersymbol"], ["sk"]), (["sm", "mathsymbol"], ["sm"]),
  (["so", "othersymbol"], ["so"]), (["zl", "lineseparator"], ["zl"]),
  (["zp", "paragraphseparator"], ["zp"]), (["zs", "spaceseparator"], ["zs"])]

/-- The categories whose short names start in one of some ways. -/
def categoriesOf (shorts : List String) : List Category :=
  (Category.named.filter fun (name, _) => shorts.any fun s => name.startsWith s).map Prod.snd

/-- Why a property names no set. -/
inductive PropertyFault where
  | property
  | value
  deriving DecidableEq, Repr, Inhabited

/-- A set, or the fault of a value without one. -/
def orValueFault (s : Option CharSet) : Except PropertyFault CharSet :=
  match s with
  | some s => .ok s
  | none => .error .value

/-- The characters of a general category or a group of them, by its plain name; `none` if nothing
has the name. Surrogates are no characters. -/
def ofCategory? (name : String) : Option (Except PropertyFault CharSet) :=
  match name with
  | "any" => some (.ok ⟨[(0, lastCode)]⟩)
  | "ascii" => some (.ok ⟨[(0, 127)]⟩)
  | "assigned" => some (.ok (Category.charSet [.cn]).complement)
  | "cs" | "surrogate" => some (.error .value)
  | _ => (categoryNames.find? fun (names, _) => names.contains name).map fun (_, shorts) =>
    .ok (Category.charSet (categoriesOf shorts))

/-- The characters of a script, or those it extends to, by its plain name; `none` if nothing has
the name. -/
def ofScript? (extended : Bool) (name : String) : Option (Except PropertyFault CharSet) :=
  if Script.emptyNames.contains name then some (.error .value)
  else (Script.find? name).map fun s => .ok (if extended then s.extension else s.charSet)

/-- The plain form of a name: in lower case, without separators and without a leading `is`. -/
def plainName (name : String) : String :=
  let cs := name.toList
  let isPrefixed := match cs with
    | a :: b :: _ => a.toLower == 'i' && b.toLower == 's'
    | _ => false
  let kept := (if isPrefixed then cs.drop 2 else cs).filter fun c =>
    c.toNat < 128 && !(c == ' ' || c == '_' || c == '-')
  let plain := String.ofList (kept.map Char.toLower)
  if isPrefixed && plain == "c" then "isc" else plain

/-- The full name of a property. -/
def fullName? (plain : String) : Option String :=
  (propertyNames.find? fun names => names.contains plain).bind List.head?

/-- The short names that mean general categories although properties have them too. -/
def categoriesFirst : List String := ["cf", "sc", "lc"]

/-- The characters with a named property. -/
def ofProperty (name : String) : Except PropertyFault CharSet :=
  let plain := plainName name
  match if categoriesFirst.contains plain then none else fullName? plain with
  | some full =>
    match ofBinary? full with
    | some s => .ok s
    | none => .error .property
  | none => ((ofCategory? plain).or (ofScript? false plain)).getD (.error .property)

/-- The characters for which a named property has a value. -/
def ofPropertyValue (name value : String) : Except PropertyFault CharSet :=
  let value := plainName value
  match fullName? (plainName name) with
  | some "generalcategory" => (ofCategory? value).getD (.error .value)
  | some "script" => (ofScript? false value).getD (.error .value)
  | some "scriptextensions" => (ofScript? true value).getD (.error .value)
  | some "age" => orValueFault (ofVersion? (versionName value))
  | some "graphemeclusterbreak" => orValueFault (graphemeClass? value)
  | some "wordbreak" => orValueFault (wordClass? value)
  | some "sentencebreak" => orValueFault (sentenceClass? value)
  | some _ => .error .value
  | none => .error .property

end CharSet

end StyleBuild
