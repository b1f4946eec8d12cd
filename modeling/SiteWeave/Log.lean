/-!
# Log records

A build tells more than its result: decisions, anomalies and failures that it survived, each with
its severity and the part of the build that it comes from.

## Main definitions

* `LogLevel`, `LogSource`, `LogRecord`.
* `LogRecord.line`: how a record is shown.
-/

namespace SiteWeave

/-- The severity of a log record. -/
inductive LogLevel where
  | debug
  | warn
  | error
deriving DecidableEq, Repr

/-- The part of a build that a log record comes from. -/
inductive LogSource where
  | blog
  | builder
  | config
  | data
  | fragments
  | patcher
deriving DecidableEq, Repr

/-- One log record. -/
structure LogRecord where
  level : LogLevel
  source : LogSource
  message : String
deriving DecidableEq, Repr

/-- The name of a severity. -/
def LogLevel.name : LogLevel → String
  | debug => "DEBUG"
  | warn => "WARN"
  | error => "ERROR"

/-- The name under which a part of the build logs. -/
def LogSource.target : LogSource → String
  | blog => "sitepatch::blog"
  | builder => "sitepatch::builder"
  | config => "sitepatch::config"
  | data => "sitepatch::data"
  | fragments => "sitepatch::fragments"
  | patcher => "sitepatch::patcher"

namespace LogRecord

/-- The record in brackets and text, the names of the severities filled up to five letters. -/
def line (record : LogRecord) : String :=
  let name := record.level.name
  "[" ++ name ++ "".pushn ' ' (5 - name.length) ++ " " ++ record.source.target ++ "] " ++
    record.message

end LogRecord

end SiteWeave
