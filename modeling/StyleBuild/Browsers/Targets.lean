import StyleBuild.Browsers.Query

/-!
# From queries to targets

The terms of a query add releases, keep some of those found so far or take some away. `resolve`
turns the queries of a stage into the oldest version of each browser that they name.
-/

namespace StyleBuild

/-- The releases that the term `defaults` stands for. -/
def defaultReleases : List BrowserRelease :=
  [("android", "143"), ("chrome", "109"), ("edge", "142"), ("firefox", "128"),
   ("ios_saf", "18.5-18.6"), ("op_mob", "80"), ("safari", "26.1"), ("samsung", "28")]

namespace VersionRange

/-- The text of the version that a written version names: that of its release, if there is one. -/
def resolved (releases : List Release) (version : String) : List Char :=
  ((namedRelease? releases version).getD version).toList

/-- Whether a version stands in a comparison with another. -/
def compares (c : Comparison) (a b : Nat × Nat × Nat) : Bool :=
  match c with
  | .atLeast => versionLe b a
  | .atMost => versionLe a b
  | .above => !versionLe a b
  | .below => !versionLe b a

/-- The releases of a browser within a range. -/
def releases (name : String) : VersionRange → Except QueryError (List BrowserRelease)
  | .exactly version =>
    match releasesOf? (queryName name) with
    | none => .error (.unknownBrowser name)
    | some all =>
      match findRelease? all version with
      | some r => .ok [(queryName name, r)]
      | none => .error (.unknownVersion name version)
  | .between first last =>
    match releasesOf? (queryName name) with
    | none => .error (.unknownBrowser name)
    | some all =>
      let lo := versionOrder (resolved all first)
      let hi := versionOrder (resolved all last)
      .ok (((publishedOf (queryName name)).filter fun r =>
        versionLe lo (versionOrder r.toList) && versionLe (versionOrder r.toList) hi).map
          (queryName name, ·))
  | .compared c version =>
    match releasesOf? (queryName name) with
    | none => .error (.unknownBrowser name)
    | some all =>
      let limit := versionOrder (resolved all version)
      .ok (((publishedOf (queryName name)).filter fun r =>
        compares c (versionOrder r.toList) limit).map (queryName name, ·))

/-- The first two numbers of a version of the desktop frame; a third one does not count. -/
def frameVersion? (version : String) : Option (Nat × Nat) :=
  match (version.toList.splitOn '.').map versionNumber? with
  | [some a] => some (a, 0)
  | [some a, some b] | [some a, some b, _] => some (a, b)
  | _ => none

/-- The browser releases that the desktop frames within a range embed. -/
def frameReleases (range : VersionRange) : Except QueryError (List BrowserRelease) :=
  let number (version : String) : Except QueryError (Nat × Nat × Nat) :=
    match frameVersion? version with
    | some (a, b) => .ok (a, b, 0)
    | none => .error (.unknownFrame version)
  let within (p : Nat × Nat × Nat → Bool) : List BrowserRelease :=
    (frames.filter fun ((a, b), _) => p (a, b, 0)).map fun (_, v) => ("chrome", decimalText v)
  match range with
  | .exactly version => do
    let n ← number version
    match within (· == n) with
    | [] => .error (.unknownFrame version)
    | rs => .ok rs
  | .between first last => do
    let lo ← number first
    let hi ← number last
    return within fun n => versionLe lo n && versionLe n hi
  | .compared c version => do
    let limit ← number version
    return within fun n => compares c n limit

/-- Check that an exact version of the server runtime exists. None of its releases is a browser. -/
def serverReleases : VersionRange → Except QueryError (List BrowserRelease)
  | .exactly version =>
    let ns := (version.toList.splitOn '.').map versionNumber?
    let agrees := fun (a, b, c) =>
      ([some a, some b, some c].zip ns).all fun (x, y) => x == y
    if StyleBuild.serverReleases.any agrees then .ok [] else .error (.unknownServer version)
  | _ => .ok []

end VersionRange

/-- The last releases of a browser that are out. -/
def latestReleases (count : Nat) (majors : Bool) (name : String) : List BrowserRelease :=
  let all := publishedOf name
  let major (r : Release) : Nat := (versionOrder r.toList).1
  let kept :=
    if majors then
      let numbers := (all.map major).eraseDups
      all.filter fun r => (numbers.drop (numbers.length - count)).contains (major r)
    else all.drop (all.length - (if name = "android" then min count 1 else count))
  kept.map (name, ·)

namespace QueryTerm

/-- The releases that are no longer in use. -/
def deadReleases : Except QueryError (List BrowserRelease) := do
  let parts ← [("baidu", VersionRange.compared .atLeast "0"), ("ie", .compared .atMost "11"),
    ("ie_mob", .compared .atMost "11"), ("bb", .compared .atMost "10"),
    ("op_mob", .compared .atMost "12.1"), ("samsung", .exactly "4")].mapM
      fun (name, range) => range.releases name
  return parts.flatten

/-- The releases that a term names. -/
def releases : QueryTerm → Except QueryError (List BrowserRelease)
  | .defaults => .ok defaultReleases
  | .dead => deadReleases
  | .longSupport => .ok [("firefox", "128")]
  | .mini => .ok [("op_mini", "all")]
  | .serverSupport => .ok []
  | .phantom second => .ok [("safari", if second then "6" else "5")]
  | .latest count majors none => .ok (browserNames.flatMap (latestReleases count majors))
  | .latest count majors (some name) =>
    if (releasesOf? (queryName name)).isSome then
      .ok (latestReleases count majors (queryName name))
    else .error (.unknownBrowser name)
  | .frame range => range.frameReleases
  | .server range => range.serverReleases
  | .browser name range => range.releases name
  | .unknown text => .error (.unknownTerm text)

end QueryTerm

/-- Answer the terms of a query in order. -/
def answer (found : List BrowserRelease) :
    List QueryPart → Except QueryError (List BrowserRelease)
  | [] => .ok found
  | p :: ps =>
    match p.term.releases with
    | .error e => .error e
    | .ok rs =>
      if p.negated then answer (found.filter (!rs.contains ·)) ps
      else match p.join with
        | .keep => answer (found.filter rs.contains) ps
        | .add => answer (found ++ rs) ps

/-- The oldest version of each browser among some releases. -/
def oldestOf (found : List BrowserRelease) : Browsers :=
  found.foldl (fun bs (name, r) => match browserOf? name, versionOf? r with
    | some b, some v => bs.lower b v
    | _, _ => bs) ⟨[]⟩

/-- The browsers that a list of queries names; none if it names no known browser. -/
def resolve (queries : List String) : Except QueryError (Option Browsers) := do
  if queries.isEmpty then throw .noQuery
  let parts ← readQuery (String.intercalate ", " queries)
  match parts with
  | p :: _ => if p.negated then throw (.negatedFirst p.text)
  | [] => pure ()
  let bs := oldestOf (← answer [] parts)
  return if bs.oldest.isEmpty then none else some bs

end StyleBuild
