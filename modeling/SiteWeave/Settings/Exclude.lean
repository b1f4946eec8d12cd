import SiteWeave.Settings.Basic
import SiteWeave.Glob.Match

/-!
# Excluded pages

## Main definitions

* `Settings.excluded`: the patterns of the pages that are left alone.
-/

namespace SiteWeave

/-- The patterns of the pages that are left alone; the first text that is no pattern is reported. -/
def Settings.excluded (settings : Settings) : Except GlobError (List Glob) :=
  settings.exclude.mapM Glob.parse

end SiteWeave
