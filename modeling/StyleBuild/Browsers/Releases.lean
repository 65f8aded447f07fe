import StyleBuild.Browsers.Basic
import StyleBuild.Text.Digits

/-!
# Releases

The releases of each browser that queries can name, from the oldest to those announced. A release
is written as its version, or as the first and the last version of a span, with a dash between.
Frames that embed a browser have releases of their own, each of which stands for one of it.
-/

namespace StyleBuild

/-- A release by its text, such as `10`, `10.1` or `10.0-10.2`. -/
abbrev Release := String

/-- A release of a browser, which is given by its query name. -/
abbrev BrowserRelease := String × Release

/-- Consecutive whole versions. -/
def wholeReleases (first last : Nat) : List Release :=
  (List.range (last + 1 - first)).map fun i => decimalText (first + i)

/-- The releases of a browser by its query name. -/
def releasesOf? : String → Option (List Release)
  | "ie" => some (["5.5"] ++ wholeReleases 6 11)
  | "edge" => some (wholeReleases 12 18 ++ wholeReleases 79 143)
  | "firefox" => some (["2", "3", "3.5", "3.6"] ++ wholeReleases 4 149)
  | "chrome" => some (wholeReleases 4 146)
  | "safari" => some (["3.1", "3.2", "4", "5", "5.1", "6", "6.1", "7", "7.1", "8", "9", "9.1",
      "10", "10.1", "11", "11.1", "12", "12.1", "13", "13.1", "14", "14.1", "15", "15.1",
      "15.2-15.3", "15.4", "15.5", "15.6", "16.0", "16.1", "16.2", "16.3", "16.4", "16.5",
      "16.6", "17.0", "17.1", "17.2", "17.3", "17.4", "17.5", "17.6", "18.0", "18.1", "18.2",
      "18.3", "18.4", "18.5-18.6", "26.0", "26.1", "26.2", "26.3", "TP"])
  | "opera" => some (["9", "9.5-9.6", "10.0-10.1", "10.5", "10.6", "11", "11.1", "11.5", "11.6",
      "12", "12.1"] ++ wholeReleases 15 123)
  | "ios_saf" => some ["3.2", "4.0-4.1", "4.2-4.3", "5.0-5.1", "6.0-6.1", "7.0-7.1", "8",
      "8.1-8.4", "9.0-9.2", "9.3", "10.0-10.2", "10.3", "11.0-11.2", "11.3-11.4", "12.0-12.1",
      "12.2-12.5", "13.0-13.1", "13.2", "13.3", "13.4-13.7", "14.0-14.4", "14.5-14.8",
      "15.0-15.1", "15.2-15.3", "15.4", "15.5", "15.6-15.8", "16.0", "16.1", "16.2", "16.3",
      "16.4", "16.5", "16.6-16.7", "17.0", "17.1", "17.2", "17.3", "17.4", "17.5", "17.6-17.7",
      "18.0", "18.1", "18.2", "18.3", "18.4", "18.5-18.6", "26.0", "26.1", "26.2", "26.3"]
  | "android" => some ["2.1", "2.2", "2.3", "3", "4", "4.1", "4.2-4.3", "4.4", "4.4.3-4.4.4",
      "143"]
  | "samsung" => some ["4", "5.0-5.4", "6.2-6.4", "7.2-7.4", "8.2", "9.2", "10.1", "11.1-11.2",
      "12.0", "13.0", "14.0", "15.0", "16.0", "17.0", "18.0", "19.0", "20", "21", "22", "23",
      "24", "25", "26", "27", "28", "29"]
  | "op_mob" => some ["10", "11", "11.1", "11.5", "12", "12.1", "80"]
  | "op_mini" => some ["all"]
  | "and_chr" => some ["143"]
  | "and_ff" => some ["146"]
  | "and_uc" => some ["15.5"]
  | "and_qq" => some ["14.9"]
  | "baidu" => some ["13.18"]
  | "kaios" => some ["2.5", "3.0-3.1"]
  | "bb" => some ["7", "10"]
  | "ie_mob" => some ["10", "11"]
  | _ => none

/-- The releases that are announced but not out yet. -/
def announcedOf : String → List Release
  | "firefox" => wholeReleases 147 149
  | "chrome" => wholeReleases 144 146
  | "safari" => ["26.3", "TP"]
  | "ios_saf" => ["26.3"]
  | _ => []

/-- The query names of all browsers. -/
def browserNames : List String :=
  ["ie", "edge", "firefox", "chrome", "safari", "opera", "ios_saf", "op_mini", "android", "bb",
    "op_mob", "and_chr", "and_ff", "ie_mob", "and_uc", "samsung", "and_qq", "baidu", "kaios"]

/-- The releases of a browser that are out. -/
def publishedOf (name : String) : List Release :=
  ((releasesOf? name).getD []).filter fun r => !(announcedOf name).contains r

/-- The query name that a written name stands for. -/
def queryName (written : String) : String :=
  match written.toLower with
  | "fx" | "ff" => "firefox"
  | "ios" => "ios_saf"
  | "explorer" => "ie"
  | "blackberry" => "bb"
  | "explorermobile" => "ie_mob"
  | "operamini" => "op_mini"
  | "operamobile" => "op_mob"
  | "chromeandroid" => "and_chr"
  | "firefoxandroid" => "and_ff"
  | "ucandroid" => "and_uc"
  | "qqandroid" => "and_qq"
  | name => name

/-- The browser among the targets that a query name counts for. -/
def browserOf? : String → Option Browser
  | "android" => some .android
  | "chrome" | "and_chr" => some .chrome
  | "edge" => some .edge
  | "firefox" | "and_ff" => some .firefox
  | "ie" => some .ie
  | "ios_saf" => some .ios
  | "opera" | "op_mob" => some .opera
  | "safari" => some .safari
  | "samsung" => some .samsung
  | _ => none

/-! ## Versions of releases -/

/-- The number that digits make, if it has 32 bits. -/
def versionNumber? (ds : List Char) : Option Nat :=
  let n := valueOfDigits 10 ds
  if ds.isEmpty || !ds.all Char.isDigit || Nat.pow 2 32 ≤ n then none else some n

/-- The first version of a release, in three parts between points. -/
def versionParts (release : List Char) : List (Option Nat) :=
  (((release.takeWhile (· ≠ '-')).splitOn '.').take 3).map versionNumber?

/-- The place of a release in the order of versions. One that is not made of numbers comes before
all others. -/
def versionOrder (release : List Char) : Nat × Nat × Nat :=
  match (versionParts release).mapM id with
  | some ns => (ns.getD 0 0, ns.getD 1 0, ns.getD 2 0)
  | none => (0, 0, 0)

/-- Whether a version is no later than another. -/
def versionLe : Nat × Nat × Nat → Nat × Nat × Nat → Bool
  | (a, b, c), (x, y, z) => a < x || (a == x && (b < y || (b == y && c ≤ z)))

/-- The version that a release counts as: the first of its span. -/
def versionOf? (release : Release) : Option Version :=
  let ns := versionParts release.toList
  (ns.getD 0 none).map fun major =>
    ⟨major % 256, ((ns.getD 1 none).getD 0) % 256, ((ns.getD 2 none).getD 0) % 256⟩

/-- Whether a release is a version, or a span that begins or ends with it. -/
def releaseCovers (version : String) (release : Release) : Bool :=
  if release = version then true
  else match release.toList.splitOn '-' with
    | [lo, hi] => version.toList = lo || version.toList = hi
    | _ => false

/-- The release that a version names. A browser with one release has no other to name. -/
def namedRelease? (releases : List Release) (version : String) : Option Release :=
  match releases.find? (releaseCovers version), releases with
  | some r, _ => some r
  | none, [only] => some only
  | none, _ => none

/-- A version without the `.0`s at its end. -/
def withoutZeros : List Char → List Char
  | '0' :: '.' :: rest => withoutZeros rest
  | cs => cs

/-- The version written the other way: without `.0` at its end, or with it. -/
def alternateVersion (version : String) : String :=
  if version.toList.contains '.' then
    String.ofList (withoutZeros version.toList.reverse).reverse
  else version ++ ".0"

/-- The release that a version names, written in one way or the other. -/
def findRelease? (releases : List Release) (version : String) : Option Release :=
  (namedRelease? releases version).or (namedRelease? releases (alternateVersion version))

/-! ## Frames that embed a browser -/

/-- The releases of the desktop frame, as a major version, its number of minor ones, and the
version of the embedded browser. -/
def frameSeries : List (Nat × Nat × Nat) :=
  [(2, 2, 61), (3, 2, 66), (4, 3, 69), (5, 1, 73), (6, 2, 76), (7, 4, 78), (8, 6, 80), (9, 5, 83),
    (10, 5, 85), (11, 6, 87), (12, 3, 89), (13, 7, 91), (14, 3, 93), (15, 6, 94), (16, 3, 96),
    (17, 5, 98), (18, 4, 100), (19, 2, 102), (20, 4, 104), (21, 5, 106), (22, 4, 108),
    (23, 4, 110), (24, 9, 112), (25, 10, 114), (26, 7, 116), (27, 4, 118), (28, 4, 120),
    (29, 5, 122), (30, 6, 124), (31, 8, 126), (32, 4, 128), (33, 5, 130), (34, 6, 132),
    (35, 8, 134), (36, 10, 136), (37, 11, 138), (38, 8, 140), (39, 3, 142)]

/-- The first releases of the desktop frame, each with the version of the embedded browser. -/
def firstFrames : List ((Nat × Nat) × Nat) :=
  [((0, 20), 39), ((0, 21), 41), ((0, 22), 41), ((0, 23), 41), ((0, 24), 41), ((0, 25), 42),
    ((0, 26), 42), ((0, 27), 43), ((0, 28), 43), ((0, 29), 43), ((0, 30), 44), ((0, 31), 45),
    ((0, 32), 45), ((0, 33), 45), ((0, 34), 45), ((0, 35), 45), ((0, 36), 47), ((0, 37), 49),
    ((1, 0), 49), ((1, 1), 50), ((1, 2), 51), ((1, 3), 52), ((1, 4), 53), ((1, 5), 54),
    ((1, 6), 56), ((1, 7), 58), ((1, 8), 59)]

/-- All releases of the desktop frame, each with the version of the embedded browser. -/
def frames : List ((Nat × Nat) × Nat) :=
  firstFrames ++ frameSeries.flatMap fun (major, count, chrome) =>
    (List.range count).map fun minor => ((major, minor), chrome)

/-- The major versions of the server runtime, each with its number of minor ones. -/
def serverSeries : List (Nat × Nat) :=
  [(4, 10), (5, 13), (6, 18), (7, 11), (8, 18), (9, 12), (10, 25), (11, 16), (12, 23), (13, 15),
    (14, 22), (15, 15), (16, 21), (17, 10), (18, 21), (19, 10), (20, 20), (21, 8), (22, 22),
    (23, 12), (24, 12), (25, 3)]

/-- The releases of the server runtime. -/
def serverReleases : List (Nat × Nat × Nat) :=
  ((List.range 13).drop 2).map (fun minor => (0, minor, 0)) ++
    serverSeries.flatMap fun (major, count) => (List.range count).map fun minor => (major, minor, 0)

end StyleBuild
