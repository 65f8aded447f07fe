import StyleBuild.Proofs.Build.History
import StyleBuild.Proofs.Pipeline.Composed

/-!
# Builds over different content

Two builds of a pipeline on the same source agree as long as the stages that they reach do the same
(`recordsAfter_congr`). A stage that every build knows looks at few of the classes that content
uses, so content with the same of these classes gives the same build (`run_agrees`).
-/

namespace StyleBuild

open BuildState

namespace Build

variable {t t' : FileTree} {base : String} {stages : List BoundStage} {css : String}

/-- Stages that are reached over one tree do the same over the other. -/
def Alike (t t' : FileTree) (base css : String) (stages : List BoundStage) : Prop :=
  ∀ k s before, stages[k]? = some s →
    (stages.take k).foldlM (BoundStage.apply t base) css = .ok before →
    s.apply t base before = s.apply t' base before

theorem Alike.head {s : BoundStage} (h : Alike t t' base css (s :: stages)) :
    s.apply t base css = s.apply t' base css := h 0 s css rfl rfl

theorem Alike.tail {s : BoundStage} {out : String} (h : Alike t t' base css (s :: stages))
    (hs : s.apply t base css = .ok out) : Alike t t' base out stages := by
  intro k s' before hk hb
  refine h (k + 1) s' before hk ?_
  rw [List.take_succ_cons, List.foldlM_cons, hs]
  exact hb

theorem foldlM_attempt_congr (h : Alike t t' base css stages) :
    stages.foldlM (BoundStage.attempt t base) css =
      stages.foldlM (BoundStage.attempt t' base) css := by
  induction stages generalizing css with
  | nil => rfl
  | cons s stages ih =>
    have hs : s.attempt t base css = s.attempt t' base css := by
      rw [BoundStage.attempt, BoundStage.attempt, h.head]
    rw [List.foldlM_cons, List.foldlM_cons, ← hs]
    cases hout : s.apply t base css with
    | error e =>
      rw [BoundStage.attempt_of_error hout]
      rfl
    | ok out =>
      rw [BoundStage.attempt_of_ok hout]
      exact ih (h.tail hout)

/-- **Records over two trees**: where the stages that are reached do the same, they differ in times
only. -/
theorem recordsAfter_congr (clock clock' : Clock) (h : Alike t t' base css stages)
    (rs : List StageRecord) :
    (recordsAfter clock t base css stages rs).map (update StageState.timeless) =
      (recordsAfter clock' t' base css stages rs).map (update StageState.timeless) := by
  induction stages generalizing css rs with
  | nil => simp [recordsAfter]
  | cons s stages ih =>
    cases rs with
    | nil => simp [recordsAfter]
    | cons r rs =>
      rw [recordsAfter, recordsAfter, ← h.head]
      cases hout : s.apply t base css with
      | error e => rfl
      | ok out =>
        rw [List.map_cons, List.map_cons, ih (h.tail hout)]
        rfl

/-- A build on a fresh state whose content can be scanned: its result and its records. -/
theorem run_fresh_of_scans {p : Pipeline} (hp : p.Composed)
    (hs : ∀ s ∈ p.stages, s.scans t p.baseDir = true) (clock : Clock) (source : String)
    (id : Uuid) :
    let done := run p t clock source (.fresh id p)
    done.result = p.stages.foldlM (BoundStage.attempt t p.baseDir) source ∧
      done.state.stages =
        recordsAfter clock t p.baseDir source p.stages (p.stages.map recordOf) := by
  have hn := findSome?_scanError_eq_none_iff.2 hs
  have hl := (length_stages_fresh id p).ge
  exact ⟨(run_of_scans hp hn hl).1, congrArg BuildState.stages (run_of_scans hp hn hl).2.1⟩

/-- **Content matters only through the classes that stages look at.** If two trees agree on the
classes of the theme of each stage that generates utilities, and on the classes of the sheet that
reaches each stage that prunes, builds over them return the same and leave the same records, times
aside. -/
theorem run_agrees {c : Config} {p : Pipeline} (hp : Pipeline.compose c .builtin = .ok p)
    {source : String} (hs : ∀ s ∈ p.stages, s.scans t p.baseDir = true)
    (hs' : ∀ s ∈ p.stages, s.scans t' p.baseDir = true)
    (hg : ∀ (i : Nat) spec s, c.stages[i]? = some spec → p.stages[i]? = some s →
      spec.kind = "utility-generation" → (s.context t p.baseDir).AgreesOn (s.context t' p.baseDir)
        ((spec.theme c).utilities.map Utility.name))
    (hr : ∀ (i : Nat) s css sheet, p.stages[i]? = some s → s.kind = "rule-pruning" →
      p.text t source i = .ok css → readSheet css = .ok sheet →
      (s.context t p.baseDir).AgreesOn (s.context t' p.baseDir) sheet.classes.names)
    (clock clock' : Clock) (id id' : Uuid) :
    let done := run p t clock source (.fresh id p)
    let done' := run p t' clock' source (.fresh id' p)
    done.result = done'.result ∧ done.state.stages.map (update StageState.timeless) =
      done'.state.stages.map (update StageState.timeless) := by
  have halike : Alike t t' p.baseDir source p.stages := by
    intro i s css hi hcss
    obtain ⟨spec, hspec, hkind, hb⟩ :=
      Pipeline.isBuiltIn_of_bindStages (Pipeline.bindStages_of_compose hp) hi
    exact hb.result_run_congr (fun hk => hg i spec s hspec hi hk)
      fun hk sheet => hr i s css sheet hi (hkind.trans hk) hcss
  have hcomposed : p.Composed := ⟨c, .builtin, Registry.readsSources_builtin, hp⟩
  obtain ⟨hresult, hrecords⟩ := run_fresh_of_scans hcomposed hs clock source id
  obtain ⟨hresult', hrecords'⟩ := run_fresh_of_scans hcomposed hs' clock' source id'
  refine ⟨?_, ?_⟩
  · rw [hresult, hresult', foldlM_attempt_congr halike]
  · rw [hrecords, hrecords', recordsAfter_congr clock clock' halike]

end Build

/-! ## An example -/

namespace Pipeline

/-- A configuration whose stages look for content in one file. -/
def pageConfig : Config :=
  let content : Options := (default : Options).insert "content" (.list [.text "a.html"])
  { name := "site"
    theme := some (Theme.empty.withFonts "sans" ["Arial"])
    stages := [
      { kind := "utility-generation", options := content },
      { kind := "rule-pruning", options := content }] }

/-- The pipeline of the configuration. -/
def page : Pipeline :=
  ⟨"site", ".", [
    ⟨0, "utility-generation", "utility-generation",
      Generation.transformer (Theme.empty.withFonts "sans" ["Arial"]) .empty
        ⟨["a.html"], .standard⟩⟩,
    ⟨1, "rule-pruning", "rule-pruning", Pruning.transformer .empty ⟨["a.html"], .standard⟩⟩]⟩

theorem compose_page : compose pageConfig .builtin = .ok page := by cbv

end Pipeline

namespace FileTree

/-- A tree that holds one file. -/
def ofPage (bytes : List UInt8) : FileTree := { nodes := [(["a.html"], .file bytes)] }

variable (bytes : List UInt8)

theorem locate_ofPage (e : Ending) : (ofPage bytes).locate "a.html" e = .ok ["a.html"] := by cbv

theorem search_ofPage (fuel : Nat) :
    Glob.search (ofPage bytes) false (fuel + 3) "." [.literal ".", .literal "a.html"] =
      ["a.html"] := by
  have hfolder : (ofPage bytes).isFolder "." = true := by cbv
  have hthere : (ofPage bytes).isThere "a.html" = true := by
    rw [isThere, at?, locate_ofPage]
    rfl
  have hhere : Glob.below "." "." = "." := by cbv
  have hname : Glob.below "." "a.html" = "a.html" := by cbv
  simp [Glob.search, hfolder, hthere, hhere, hname, Glob.wanted]

theorem expand_ofPage : Glob.expand (ofPage bytes) "./a.html" = .ok ["a.html"] := by
  have hread : Glob.read "./a.html" = .ok ("./a.html".toList.map .char) := by decide +kernel
  have hparts : Glob.parts "./a.html" = .ok [.literal ".", .literal "a.html"] := by decide +kernel
  have habsolute : Path.isAbsolute "./a.html" = false := by cbv
  have hend : "./a.html".endsWith "/" = false := by decide +kernel
  have hdepth : Glob.depthBound (ofPage bytes) [.literal ".", .literal "a.html"] = 381 + 3 := by
    simp [Glob.depthBound, ofPage, mostLinks]
  rw [Glob.expand, hread, hparts]
  simp only [discard, Functor.discard, bind, Except.bind, Functor.mapConst, Except.map,
    Function.comp, Function.const, pure, Except.pure]
  rw [habsolute, hend, hdepth, if_neg Bool.false_ne_true, search_ofPage]

/-- The scan of the file. -/
theorem scan_ofPage (e : Extractor) :
    (ContentSource.scan ⟨["a.html"], e⟩ (ofPage bytes) ".").result = .ok
      { files := ["a.html"]
        classes := .ofList (e.tokens (String.ofList (Utf8.readLenient bytes))) } := by
  have hresolve : Scan.resolve "." "a.html" = "./a.html" := by cbv
  have hfile : (ofPage bytes).isFile "a.html" = true := by
    rw [isFile, at?, locate_ofPage]
    rfl
  have hread : (ofPage bytes).read "a.html" = .ok bytes := by
    rw [read, locate_ofPage]
    rfl
  have hmatched : Scan.matched (ofPage bytes) "." "a.html" = .ok ["a.html"] := by
    rw [Scan.matched, hresolve, expand_ofPage]
    simp [hfile]
  simp [ContentSource.scan, Scan.find, hmatched, Scan.Finding.add, Scan.Index.add, Scan.readFiles,
    hread, NameSet.ofList]

end FileTree

namespace Build

open FileTree

/-- What a stage sees over one file. -/
theorem context_ofPage {s : BoundStage} (hs : s ∈ Pipeline.page.stages) (bytes : List UInt8) :
    s.scans (ofPage bytes) "." = true ∧
      s.context (ofPage bytes) "." = ⟨s.index, some
        { files := ["a.html"]
          classes := .ofList
            (Extractor.standard.tokens (String.ofList (Utf8.readLenient bytes))) }⟩ := by
  have hc : s.transformer.content = some ⟨["a.html"], .standard⟩ := by
    simp only [Pipeline.page, List.mem_cons, List.not_mem_nil, or_false] at hs
    rcases hs with rfl | rfl <;> rfl
  have ho := (BoundStage.ownScan_of_content hc).trans (congrArg some (scan_ofPage bytes .standard))
  refine ⟨?_, ?_⟩
  · rw [BoundStage.scans, BoundStage.scanFault?_of_ok ho]
    rfl
  · rw [BoundStage.context, BoundStage.content?_of_ok ho]

/-- A page that uses one class. -/
def cardPage : FileTree := ofPage [99, 97, 114, 100]

/-- A page that uses one more class, which no theme and no sheet names. -/
def markedPage : FileTree := ofPage [99, 97, 114, 100, 32, 120]

variable {s : BoundStage}

theorem context_cardPage (hs : s ∈ Pipeline.page.stages) : s.context cardPage "." =
    ⟨s.index, some { files := ["a.html"], classes := ⟨["card"]⟩ }⟩ := by
  have hbytes : Utf8.readLenient [99, 97, 114, 100] = "card".toList := by cbv
  have htokens : NameSet.ofList (Extractor.standard.tokens (String.ofList "card".toList)) =
      ⟨["card"]⟩ := by decide +kernel
  rw [cardPage, (context_ofPage hs _).2, hbytes, htokens]

theorem context_markedPage (hs : s ∈ Pipeline.page.stages) : s.context markedPage "." =
    ⟨s.index, some { files := ["a.html"], classes := ⟨["card", "x"]⟩ }⟩ := by
  have hbytes : Utf8.readLenient [99, 97, 114, 100, 32, 120] = "card x".toList := by cbv
  have htokens : NameSet.ofList (Extractor.standard.tokens (String.ofList "card x".toList)) =
      ⟨["card", "x"]⟩ := by decide +kernel
  rw [markedPage, (context_ofPage hs _).2, hbytes, htokens]

theorem agreesOn_pages (hs : s ∈ Pipeline.page.stages) {names : List String}
    (hx : "x" ∉ names) : (s.context cardPage ".").AgreesOn (s.context markedPage ".") names := by
  intro name hn
  have hne : name ≠ "x" := fun h => hx (h ▸ hn)
  rw [context_cardPage hs, context_markedPage hs]
  simp [StageContext.uses, NameSet.contains, hne]

/-- Content that uses one more class, which neither the theme nor the sheet names. -/
theorem run_agrees_page :
    Pipeline.compose Pipeline.pageConfig .builtin = .ok .page ∧
    (∀ s ∈ Pipeline.page.stages, (s.context markedPage ".").uses "x" = true ∧
      (s.context cardPage ".").uses "x" = false) ∧
    (let done := run .page cardPage {} ".card\x7border:1\x7d" (.fresh default .page)
     let done' := run .page markedPage {} ".card\x7border:1\x7d" (.fresh default .page)
     done.result = done'.result ∧ done.state.stages.map (update StageState.timeless) =
      done'.state.stages.map (update StageState.timeless)) := by
  have hfirst : Pipeline.page.text cardPage ".card\x7border:1\x7d" 1 =
      .ok ".card\x7border:1\x7d" := by
    have hs : Pipeline.page.stages[0] ∈ Pipeline.page.stages := List.mem_cons_self
    have happly : Pipeline.page.stages[0].apply cardPage "." ".card\x7border:1\x7d" =
        .ok ".card\x7border:1\x7d" := by
      rw [BoundStage.apply, context_cardPage hs]
      decide +kernel
    rw [Pipeline.text_succ (k := 0) rfl]
    exact happly
  refine ⟨Pipeline.compose_page, fun s hs => ?_, ?_⟩
  · rw [context_cardPage hs, context_markedPage hs]
    exact ⟨rfl, rfl⟩
  refine run_agrees Pipeline.compose_page (fun s hs => (context_ofPage hs _).1)
    (fun s hs => (context_ofPage hs _).1)
    (fun i spec s hspec hs hk => agreesOn_pages (List.mem_of_getElem? hs) ?_)
    (fun i s css sheet hs hk hcss hsheet => agreesOn_pages (List.mem_of_getElem? hs) ?_)
    {} {} default default
  · rcases i with _ | _ | i
    · cases hspec
      have hnames : (StageSpec.theme Pipeline.pageConfig
          Pipeline.pageConfig.stages[0]).utilities.map Utility.name = ["font-sans"] := by cbv
      exact hnames ▸ by decide
    · cases hspec
      exact absurd hk (by decide)
    · cases hspec
  · rcases i with _ | _ | i
    · cases hs
      exact absurd hk (by decide)
    · obtain rfl := Except.ok.inj (hfirst.symm.trans hcss)
      have hnames : (readSheet ".card\x7border:1\x7d").map (fun sheet => sheet.classes.names) =
          .ok ["card"] := by decide +kernel
      rw [hsheet] at hnames
      obtain hnames : sheet.classes.names = ["card"] := by simpa [Except.map] using hnames
      exact hnames ▸ by decide
    · cases hs

end Build

end StyleBuild
