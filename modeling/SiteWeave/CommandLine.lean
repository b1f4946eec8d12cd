import SiteWeave.Build.Run

/-!
# The command line

The program takes the root of a site and a flag for verbose logs. What is wrong with the arguments
is reported at the first one that is wrong; behind two hyphens all arguments are roots.

## Main definitions

* `Arguments`, `ArgumentError`: the arguments, and what keeps them from being used.
* `Arguments.parse`: the arguments from the words of a command line.
* `RunResult`, `Arguments.run`: what the program prints and its exit code.
-/

namespace SiteWeave

/-- The arguments of the program. -/
structure Arguments where
  root : String := "."
  verbose : Bool := false
deriving DecidableEq, Repr

/-- What keeps arguments from being used. -/
inductive ArgumentError where
  | unknown
  /-- A flag that was given before. -/
  | repeatedFlag
  /-- A value for a flag that takes none. -/
  | flagValue
  | emptyRoot
  | helpAsked
  | versionAsked
deriving DecidableEq, Repr

namespace ArgumentError

/-- The exit code for an error; a question is none. -/
def exitCode : ArgumentError → Nat
  | helpAsked | versionAsked => 0
  | _ => 2

/-- The message of an error, or the answer to a question. -/
def message : ArgumentError → String
  | unknown => "error: unexpected argument found"
  | repeatedFlag => "error: the argument '--verbose' cannot be used multiple times"
  | flagValue => "error: unexpected value for a flag found; no more were expected"
  | emptyRoot => "error: a value is required for '[ROOT]' but none was supplied"
  | helpAsked =>
    "Usage: sitepatch [OPTIONS] [ROOT]\n\n  [ROOT]         Site root [default: .]\n" ++
      "  -v, --verbose  Enable verbose logging output\n  -h, --help     Print help\n" ++
      "  -V, --version  Print version"
  | versionAsked => "sitepatch 0.3.1"

end ArgumentError

namespace Arguments

/-- The arguments so far. -/
structure Draft where
  root : Option String := none
  verbose : Bool := false
deriving DecidableEq, Repr

/-- What a flag asks for. -/
inductive Flag where
  | verbose
  | help
  | version
deriving DecidableEq, Repr

/-- The flag with a letter. -/
def Flag.ofLetter? : Char → Option Flag
  | 'v' => some verbose
  | 'h' => some help
  | 'V' => some version
  | _ => none

/-- The flag with a name. -/
def Flag.ofName? (name : Text) : Option Flag :=
  if name = "verbose".toList then some verbose
  else if name = "help".toList then some help
  else if name = "version".toList then some version
  else none

/-- The draft once its root is known to be one. -/
def Draft.settle (draft : Draft) : Except ArgumentError Draft :=
  if draft.root = some "" then .error .emptyRoot else .ok draft

/-- The draft with one more flag. -/
def Draft.addFlag (draft : Draft) (flag : Flag) : Except ArgumentError Draft := do
  let draft ← draft.settle
  match flag with
  | .help => throw .helpAsked
  | .version => throw .versionAsked
  | .verbose =>
    if draft.verbose then throw .repeatedFlag else return { draft with verbose := true }

/-- The draft with flags that are given by their letters. -/
def Draft.addLetters (draft : Draft) : Text → Except ArgumentError Draft
  | [] => .ok draft
  | c :: rest =>
    match Flag.ofLetter? c with
    | none => .error .unknown
    | some flag => do
      let draft ← draft.addFlag flag
      draft.addLetters rest

/-- The draft with a flag that is given by its name. -/
def Draft.addName (draft : Draft) (word : Text) : Except ArgumentError Draft :=
  let name := word.takeWhile (· ≠ '=')
  match Flag.ofName? name with
  | none => .error .unknown
  | some flag => if name.length < word.length then .error .flagValue else draft.addFlag flag

/-- The draft with a root, of which there can be one. -/
def Draft.addRoot (draft : Draft) (root : String) : Except ArgumentError Draft :=
  if draft.root.isSome then .error .unknown else .ok { draft with root := some root }

/-- Read words; behind two hyphens none is a flag. -/
def parseFrom (draft : Draft) (flagsEnded : Bool) : List String → Except ArgumentError Draft
  | [] => draft.settle
  | word :: words => do
    match flagsEnded, word.toList with
    | false, ['-', '-'] => parseFrom draft true words
    | false, '-' :: '-' :: name => parseFrom (← draft.addName name) false words
    | false, '-' :: c :: letters => parseFrom (← draft.addLetters (c :: letters)) false words
    | _, _ => parseFrom (← draft.addRoot word) flagsEnded words

/-- The arguments from the words of a command line. -/
def parse (words : List String) : Except ArgumentError Arguments := do
  let draft ← parseFrom {} false words
  return ⟨draft.root.getD ".", draft.verbose⟩

end Arguments

/-- What the program prints, what it reports, and its exit code. -/
structure RunResult where
  exitCode : Nat
  output : String
  report : String
deriving DecidableEq, Repr

/-- Whether a log record is shown. -/
def LogRecord.isShown (verbose : Bool) (record : LogRecord) : Bool :=
  verbose || record.level ≠ .debug

/-- The lines of log records that are shown. -/
def reportLog (verbose : Bool) (log : List LogRecord) : String :=
  String.join ((log.filter (LogRecord.isShown verbose)).map fun record => record.line ++ "\n")

/-- Build a site: what the program prints and reports, and the file tree that it leaves. -/
def Arguments.run (arguments : Arguments) (tree : FileTree) : RunResult × FileTree :=
  let action := buildSite (Bytes.ofString arguments.root)
  let (result, session) := StateT.run (ExceptT.run action) { tree := tree }
  let log := reportLog arguments.verbose session.log
  let outcome : RunResult := match result with
    | .ok _ => ⟨0, session.printed, log⟩
    | .error error => ⟨1, session.printed, log ++ error.message ++ "\n"⟩
  (outcome, session.tree)

end SiteWeave
