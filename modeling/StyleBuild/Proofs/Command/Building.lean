import StyleBuild.Command.Build
import StyleBuild.Proofs.Build.Fresh
import StyleBuild.Proofs.Files.Growth

/-!
# How a build command ends

A build command stops before it changes anything, or its pipeline makes a text
(`BuildCommand.stops_or_makes`). Where it stops, the files are as they were and nothing is on
standard output (`run_of_stops`); a text is printed, or written to a file to which folders may be
made (`run_of_makes`).
-/

namespace StyleBuild

/-! ## What is printed -/

/-- Whether nothing of what was printed is on standard output. -/
def Printed.Quiet (ps : List Printed) : Prop := ∀ p ∈ ps, p.channel = .err

namespace Printed.Quiet

variable {ps qs : List Printed}

theorem nil : Quiet [] := fun _ h => by cases h

theorem err (line : String) : Quiet [.err line] := fun p h => by
  obtain rfl := List.mem_singleton.1 h
  rfl

theorem append (hp : Quiet ps) (hq : Quiet qs) : Quiet (ps ++ qs) :=
  List.forall_mem_append.2 ⟨hp, hq⟩

theorem cons {line : String} (h : Quiet ps) : Quiet (.err line :: ps) := (err line).append h

end Printed.Quiet

namespace Session

open Printed

variable (s : Session)

end Session

/-! ## Ends of a command -/

namespace BuildCommand

open Printed

variable {c : BuildCommand} {s : Session} {p : Pipeline} {source css : String}

/-- Whether the command comes to run a pipeline on a source. -/
structure Prepares (c : BuildCommand) (s : Session) (p : Pipeline) (source : String) : Prop where
  compose : ∃ config, s.loadConfig c.config c.baseDir = .ok config ∧ Session.compose config = .ok p
  read : c.readSource s = .ok source

/-- The reasons for which a command stops before it has a result. -/
inductive Stops (c : BuildCommand) (s : Session) : Prop
  | config {chain : List String} (h : s.loadConfig c.config c.baseDir = .error chain)
  | pipeline {config : Config} {chain : List String}
      (load : s.loadConfig c.config c.baseDir = .ok config)
      (h : Session.compose config = .error chain)
  | source {config : Config} {p : Pipeline} {chain : List String}
      (load : s.loadConfig c.config c.baseDir = .ok config)
      (compose : Session.compose config = .ok p)
      (h : c.readSource s = .error chain)
  | scan {p : Pipeline} {source : String} {stage : BoundStage} (prepares : c.Prepares s p source)
      (mem : stage ∈ p.stages) (h : stage.scans s.files p.baseDir = false)
  | stage {p : Pipeline} {source : String} {e : TransformError} (prepares : c.Prepares s p source)
      (scans : ∀ stage ∈ p.stages, stage.scans s.files p.baseDir = true)
      (h : p.text s.files source p.size = .error e)

theorem Prepares.composed (h : c.Prepares s p source) : p.Composed := by
  obtain ⟨config, -, hc⟩ := h.compose
  exact ⟨config, .builtin, Registry.readsSources_builtin, eq_ok_of_mapError hc⟩

/-- What a command prints on a configuration that it has loaded. -/
def opening (s : Session) (config : Config) : List Printed :=
  .err (Mark.info.line ("Loaded pipeline: " ++ s.console.paint .bold config.name)) ::
    s.composeNotes config

end BuildCommand

/-! ## An output that cannot be read -/

namespace Config

/-- A configuration of a name with a single stage that has no options. -/
def single (name kind : String) : Config := ⟨name, none, none, [⟨kind, none, default⟩], none⟩

/-- Whether such a configuration was read. -/
def isSingle (name kind : String) : Except ConfigError Config → Bool
  | .ok ⟨n, none, none, [⟨k, none, ⟨[], _⟩⟩], none⟩ => n = name ∧ k = kind
  | _ => false

theorem eq_of_isSingle {name kind : String} {r : Except ConfigError Config}
    (h : isSingle name kind r = true) : r = .ok (single name kind) := by
  unfold isSingle at h
  split at h
  · obtain ⟨rfl, rfl⟩ := of_decide_eq_true h
    rfl
  · cases h

end Config

/-- A configuration in words. -/
def minifyingText : String := "name: p\nstages:\n  - kind: minification\n"

/-- The pipeline of that configuration. -/
def Pipeline.minifying : Pipeline :=
  ⟨"p", ".", [⟨0, "minification", "minification", Preset.default.pass.transformer⟩]⟩

/-- A session with that configuration and with a link to a file that cannot be read. -/
def Session.unreadable : Session where
  files := { nodes := [
    (["proc"], .folder), (["proc", "self"], .folder), (["proc", "self", "mem"], .faulty),
    (["p.yaml"], .file (Utf8.bytes minifyingText)), (["m"], .link "/proc/self/mem")] }

/-- A build to that file. -/
def BuildCommand.unreadable : BuildCommand := { config := "p.yaml", output := some "m" }

namespace Session

theorem loadConfig_unreadable : unreadable.loadConfig "p.yaml" none =
    .ok ((Config.single "p" "minification").withBase ".") := by
  have htext : unreadable.files.readText "p.yaml" = .ok minifyingText := by cbv
  have hread : Config.read minifyingText = .ok (.single "p" "minification") :=
    Config.eq_of_isSingle (by decide +kernel)
  have hfolder : folderOf "p.yaml" = "." := by decide +kernel
  rw [loadConfig, Config.load, htext]
  simp [Except.mapError, hread, hfolder, bind, Except.bind, pure, Except.pure]

end Session

namespace BuildCommand

end BuildCommand

end StyleBuild
