import SiteWeave.Build.Basic

/-!
# Running a build

## Main definitions

* `BuildSummary`: how many pages were changed, were the same and were left alone.
* `Build.processPages`, `Build.run`: all pages of an open build.
* `buildSite`: open a build and run it.
-/

namespace SiteWeave

open BuildM

/-- How many pages were changed, were the same and were left alone. -/
structure BuildSummary where
  updated : Nat := 0
  unchanged : Nat := 0
  skipped : Nat := 0
deriving DecidableEq, Repr

/-- The summary with one more page. -/
def BuildSummary.add (summary : BuildSummary) : PageStatus → BuildSummary
  | .updated => { summary with updated := summary.updated + 1 }
  | .unchanged => { summary with unchanged := summary.unchanged + 1 }
  | .notFound | .unreadable => { summary with skipped := summary.skipped + 1 }

namespace Build

/-- Bring the fragments into pages one after the other. -/
def processPages (build : Build) : BuildSummary → List String → BuildM BuildSummary
  | summary, [] => return summary
  | summary, path :: paths => do
    let status ← build.processPage path
    say ("  " ++ status.describe ++ ": " ++ path ++ "\n")
    processPages build (summary.add status) paths

/-- Bring the fragments into all pages of the site. -/
def run (build : Build) : BuildM BuildSummary := do
  let pages ← build.pages
  say ("\nProcessing " ++ toString pages.length ++ " HTML files...\n")
  if !pages.contains indexPath then say "Blog index not found, skipping dynamic update\n"
  build.processPages {} pages

end Build

/-- Build the site at a root. -/
def buildSite (root : RawPath) : BuildM BuildSummary := do
  say "Building site...\n\n"
  let build ← Build.load root
  let summary ← build.run
  say ("\nBuild complete! " ++ toString summary.updated ++ " updated, " ++
    toString summary.unchanged ++ " unchanged, " ++ toString summary.skipped ++ " skipped.\n")
  return summary

end SiteWeave
