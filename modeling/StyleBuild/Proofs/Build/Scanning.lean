import StyleBuild.Build.Run
import StyleBuild.Proofs.Pipeline.Composed

/-!
# What a build scans

A build scans each content source once and hands the scan to every stage that asks for it. The
stages see none of that: what a stage is given is the scan of its own content
(`scanFrom_scans`), the build stops at the first stage whose own scan fails (`scanFrom_stop`), and
up to there it tells of every scan and warns of every pattern that matched nothing
(`scanFrom_events`, `scanFrom_warnings`). What carries these is that the scans that were made are
those of the sources with their keys (`CacheSound`).
-/

namespace StyleBuild

/-! ## A stage's own content -/

namespace BoundStage

variable (t : FileTree) (base : String) (s : BoundStage)

/-- The scan of the stage's own content, if it asks for some. -/
def ownScan : Option (Except ScanFault Scan) :=
  s.transformer.content.map fun source => (source.scan t base).result

/-- The fault of the stage's own scan, if it fails. -/
def scanFault? : Option ScanFault :=
  match s.ownScan t base with
  | some (.error f) => some f
  | _ => none

/-- What the stage's own scan finds, if it succeeds. -/
def content? : Option Scan :=
  match s.ownScan t base with
  | some (.ok scan) => some scan
  | _ => none

/-- The error of a build that stops at the scan of the stage. -/
def scanError? : Option BuildError := (s.scanFault? t base).map (BuildError.scan s.index)

/-- Whether the stage's content can be scanned, or it asks for none. -/
def scans : Bool := (s.scanFault? t base).isNone

/-- A stage whose content source, if it has one, has been read. -/
def ReadsSource : Prop := ∀ source, s.transformer.content = some source → source.IsRead

variable {t base s}

theorem scanFault?_of_error {f : ScanFault} (h : s.ownScan t base = some (.error f)) :
    s.scanFault? t base = some f := by
  rw [scanFault?, h]

theorem scanFault?_of_ok {scan : Scan} (h : s.ownScan t base = some (.ok scan)) :
    s.scanFault? t base = none := by
  rw [scanFault?, h]

theorem content?_of_ok {scan : Scan} (h : s.ownScan t base = some (.ok scan)) :
    s.content? t base = some scan := by
  rw [content?, h]

theorem ownScan_of_content_none (h : s.transformer.content = none) : s.ownScan t base = none := by
  rw [ownScan, h]
  rfl

theorem ownScan_of_content {source : ContentSource} (h : s.transformer.content = some source) :
    s.ownScan t base = some (source.scan t base).result := by
  rw [ownScan, h]
  rfl

end BoundStage

namespace Build

/-- What is told of a scan: that it was made, and its warnings. -/
def scanEvents (stage : Nat) (scan : Scan) : List BuildEvent :=
  .scanned stage scan.files.length scan.classes.names.length ::
    (warningsOf stage scan).map .warned

/-- The warnings on a stage's own content. -/
def ownWarnings (t : FileTree) (base : String) (s : BoundStage) : List ContentWarning :=
  (s.content? t base).elim [] (warningsOf s.index)

/-- What is told of a stage's own content. -/
def ownScanEvents (t : FileTree) (base : String) (s : BoundStage) : List BuildEvent :=
  (s.content? t base).elim [] (scanEvents s.index)

@[simp] theorem events_scannedTrail (stage : Nat) (scan : Scan) :
    Trail.events (scannedTrail stage scan) = scanEvents stage scan := by
  have h : ∀ ws : List ContentWarning,
      Trail.events (ws.flatMap fun w => [note .warn w.message, .event (.warned w)]) =
        ws.map .warned := by
    intro ws
    induction ws with
    | nil => rfl
    | cons w ws ih =>
      rw [List.flatMap_cons, Trail.events_append, ih]
      rfl
  rw [scannedTrail, Trail.events_event, h, scanEvents]

/-! ## The scans that were made -/

variable {t : FileTree} {base : String}

/-- The scans that were made are those of the sources with their keys. -/
def CacheSound (t : FileTree) (base : String) (cache : Cache) : Prop :=
  ∀ source : ContentSource, source.IsRead → ∀ scan, cache.lookup source.key = some scan →
    (source.scan t base).result = .ok scan

theorem CacheSound.nil : CacheSound t base [] := by
  intro source _ scan h
  cases h

theorem CacheSound.cons {cache : Cache} (hc : CacheSound t base cache) {source : ContentSource}
    (hs : source.IsRead) {scan : Scan} (h : (source.scan t base).result = .ok scan) :
    CacheSound t base ((source.key, scan) :: cache) := by
  intro source' hs' scan' hl
  rw [List.lookup_cons] at hl
  cases hk : source'.key == source.key with
  | true =>
    simp only [hk, Option.some.injEq] at hl
    rw [ContentSource.eq_of_key_eq hs' hs (by simpa using hk), h, hl]
  | false =>
    simp only [hk] at hl
    exact hc source' hs' scan' hl

/-- Looking a source up gives its scan, whether it was made before or not. -/
theorem lookUp_result {cache : Cache} (hc : CacheSound t base cache) {source : ContentSource}
    (hs : source.IsRead) :
    (Scanning.lookUp t base cache source).1.result = (source.scan t base).result := by
  unfold Scanning.lookUp
  split
  · next scan h => exact (hc source hs scan h).symm
  · dsimp only
    split <;> rfl

theorem CacheSound.lookUp {cache : Cache} (hc : CacheSound t base cache) {source : ContentSource}
    (hs : source.IsRead) : CacheSound t base (Scanning.lookUp t base cache source).2 := by
  unfold Scanning.lookUp
  split
  · exact hc
  · dsimp only
    split
    · next scan h => exact hc.cons hs h
    · exact hc

/-! ## The loop -/

/-- One step of scanning: the stage asks for nothing, its own scan succeeds and is added, or its own
scan fails and scanning ends. -/
theorem scanFrom_cons {g : Scanning} (hc : CacheSound t base g.cache) {s : BoundStage}
    (hs : s.ReadsSource) (rest : List BoundStage) :
    (s.ownScan t base = none ∧
      scanFrom t base g (s :: rest) =
        scanFrom t base { g with scans := g.scans ++ [none] } rest) ∨
    (∃ scan notes cache, s.ownScan t base = some (.ok scan) ∧ CacheSound t base cache ∧
      scanFrom t base g (s :: rest) = scanFrom t base (g.add s.index notes cache scan) rest) ∨
    (∃ f notes, s.ownScan t base = some (.error f) ∧
      scanFrom t base g (s :: rest) =
        ({ g with trail := g.trail ++ Trail.ofNotes notes }, some (.scan s.index f))) := by
  cases h : s.transformer.content with
  | none => exact .inl ⟨BoundStage.ownScan_of_content_none h, by rw [scanFrom, h]⟩
  | some source =>
    have hr := lookUp_result hc (hs source h)
    have hc' := hc.lookUp (hs source h)
    rw [BoundStage.ownScan_of_content h, ← hr]
    rcases hl : Scanning.lookUp t base g.cache source with ⟨⟨result, notes⟩, cache⟩
    rw [hl] at hc'
    cases result with
    | ok scan =>
      exact .inr (.inl ⟨scan, notes, cache, rfl, hc', by rw [scanFrom, h]; simp only [hl]⟩)
    | error f => exact .inr (.inr ⟨f, notes, rfl, by rw [scanFrom, h]; simp only [hl]⟩)

/-- **Scanning stops at the first stage whose own scan fails.** -/
theorem scanFrom_stop {g : Scanning} (hc : CacheSound t base g.cache) {stages : List BoundStage}
    (hs : ∀ s ∈ stages, s.ReadsSource) :
    (scanFrom t base g stages).2 = stages.findSome? (BoundStage.scanError? t base) := by
  induction stages generalizing g with
  | nil => rfl
  | cons s rest ih =>
    have hrest : ∀ s ∈ rest, s.ReadsSource := fun s h => hs s (List.mem_cons_of_mem _ h)
    rw [List.findSome?_cons]
    rcases scanFrom_cons hc (hs s List.mem_cons_self) rest with
      ⟨ho, h⟩ | ⟨scan, notes, cache, ho, hc', h⟩ | ⟨f, notes, ho, h⟩
    · rw [h, ih (g := { g with scans := g.scans ++ [none] }) hc hrest]
      simp [BoundStage.scanError?, BoundStage.scanFault?, ho]
    · rw [h, ih (g := g.add s.index notes cache scan) hc' hrest]
      simp [BoundStage.scanError?, BoundStage.scanFault?_of_ok ho]
    · rw [h]
      simp [BoundStage.scanError?, BoundStage.scanFault?_of_error ho]

/-- Where no scan fails, every stage is given the scan of its own content. -/
theorem scanFrom_scans {g : Scanning} (hc : CacheSound t base g.cache) {stages : List BoundStage}
    (hs : ∀ s ∈ stages, s.ReadsSource) (hn : (scanFrom t base g stages).2 = none) :
    (scanFrom t base g stages).1.scans = g.scans ++ stages.map (BoundStage.content? t base) := by
  induction stages generalizing g with
  | nil => simp [scanFrom]
  | cons s rest ih =>
    have hrest : ∀ s ∈ rest, s.ReadsSource := fun s h => hs s (List.mem_cons_of_mem _ h)
    rcases scanFrom_cons hc (hs s List.mem_cons_self) rest with
      ⟨ho, h⟩ | ⟨scan, notes, cache, ho, hc', h⟩ | ⟨f, notes, ho, h⟩
    · rw [h] at hn ⊢
      rw [ih (g := { g with scans := g.scans ++ [none] }) hc hrest hn]
      simp [BoundStage.content?, ho]
    · rw [h] at hn ⊢
      rw [ih (g := g.add s.index notes cache scan) hc' hrest hn]
      simp [Scanning.add, BoundStage.content?_of_ok ho]
    · rw [h] at hn
      cases hn

/-- Warnings are given on the stages before the first one whose own scan fails. -/
theorem scanFrom_warnings {g : Scanning} (hc : CacheSound t base g.cache)
    {stages : List BoundStage} (hs : ∀ s ∈ stages, s.ReadsSource) :
    (scanFrom t base g stages).1.warnings =
      g.warnings ++ (stages.takeWhile (BoundStage.scans t base)).flatMap (ownWarnings t base) := by
  induction stages generalizing g with
  | nil => simp [scanFrom]
  | cons s rest ih =>
    have hrest : ∀ s ∈ rest, s.ReadsSource := fun s h => hs s (List.mem_cons_of_mem _ h)
    rcases scanFrom_cons hc (hs s List.mem_cons_self) rest with
      ⟨ho, h⟩ | ⟨scan, notes, cache, ho, hc', h⟩ | ⟨f, notes, ho, h⟩
    · rw [h, ih (g := { g with scans := g.scans ++ [none] }) hc hrest]
      simp [BoundStage.scans, BoundStage.scanFault?, ownWarnings, BoundStage.content?, ho]
    · rw [h, ih (g := g.add s.index notes cache scan) hc' hrest]
      simp [BoundStage.scans, BoundStage.scanFault?_of_ok ho, Scanning.add, ownWarnings,
        BoundStage.content?_of_ok ho]
    · rw [h]
      simp [BoundStage.scans, BoundStage.scanFault?_of_error ho]

/-- Scans and warnings are told of for the stages before the first one whose own scan fails. -/
theorem scanFrom_events {g : Scanning} (hc : CacheSound t base g.cache)
    {stages : List BoundStage} (hs : ∀ s ∈ stages, s.ReadsSource) :
    Trail.events (scanFrom t base g stages).1.trail = Trail.events g.trail ++
      (stages.takeWhile (BoundStage.scans t base)).flatMap (ownScanEvents t base) := by
  induction stages generalizing g with
  | nil => simp [scanFrom]
  | cons s rest ih =>
    have hrest : ∀ s ∈ rest, s.ReadsSource := fun s h => hs s (List.mem_cons_of_mem _ h)
    rcases scanFrom_cons hc (hs s List.mem_cons_self) rest with
      ⟨ho, h⟩ | ⟨scan, notes, cache, ho, hc', h⟩ | ⟨f, notes, ho, h⟩
    · rw [h, ih (g := { g with scans := g.scans ++ [none] }) hc hrest]
      simp [BoundStage.scans, BoundStage.scanFault?, ownScanEvents, BoundStage.content?, ho]
    · rw [h, ih (g := g.add s.index notes cache scan) hc' hrest]
      simp [BoundStage.scans, BoundStage.scanFault?_of_ok ho, Scanning.add, ownScanEvents,
        BoundStage.content?_of_ok ho]
    · rw [h]
      simp [BoundStage.scans, BoundStage.scanFault?_of_error ho]

end Build

end StyleBuild
