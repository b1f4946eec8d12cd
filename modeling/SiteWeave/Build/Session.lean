import SiteWeave.Log
import SiteWeave.SiteData
import SiteWeave.FileTree.Walk
import SiteWeave.Glob.Basic
import SiteWeave.Settings.Reading

/-!
# Build sessions

A build works on a file tree, tells what it does and may fail. Whatever it did before it fails stays
done.

## Main definitions

* `BuildError`: why a build fails, with its message.
* `Session`: the file tree, what was logged and what was printed.
* `BuildM`: an action in a session that may fail.
-/

namespace SiteWeave

/-- Why a build fails. -/
inductive BuildError where
  | file (error : FileError)
  | data (error : DataError)
  | settings (error : SettingsError)
  | pattern (error : GlobError)
  | walk (error : WalkError)

/-- The message of an error. -/
def BuildError.message : BuildError → String
  | file error => "IO error: " ++ error.message ++ "."
  | data error => error.message
  | settings error => error.describe
  | pattern error => "Exclude pattern error: " ++ error.message ++ "."
  | walk error => "Directory walk error: " ++ error.message ++ "."

/-- The file tree, what was logged and what was printed. -/
structure Session where
  tree : FileTree
  /-- The log records, the first one first. -/
  log : List LogRecord := []
  printed : String := ""

/-- An action in a session that may fail. -/
abbrev BuildM := ExceptT BuildError (StateM Session)

namespace BuildM

/-- Log records. -/
def note (records : List LogRecord) : BuildM Unit :=
  modify fun session => { session with log := session.log ++ records }

/-- Print a text. -/
def say (text : String) : BuildM Unit :=
  modify fun session => { session with printed := session.printed ++ text }

/-- The file tree as it is now. -/
def tree : BuildM FileTree :=
  return (← get).tree

/-- Change the file tree. -/
def replaceTree (tree : FileTree) : BuildM Unit :=
  modify fun session => { session with tree := tree }

/-- Go on with a result, or fail. -/
def check {ε α : Type} (asError : ε → BuildError) : Except ε α → BuildM α
  | .ok value => pure value
  | .error error => throw (asError error)

end BuildM

end SiteWeave
