import SiteWeave.Yaml.Cursor

/-!
# Faults of a YAML text

## Main definitions

* `Yaml.Problem`: what is wrong with a text.
* `Yaml.Activity`: what was being read.
* `Yaml.Fault`: a problem with its place, and its message.
-/

namespace SiteWeave.Yaml

/-- What is wrong with a text. -/
inductive Problem where
  | controlCharacter
  | noToken
  | missingColon
  | misplacedItem
  | misplacedKey
  | misplacedValue
  | unknownDirective
  | directiveName
  | directiveLetter
  | versionSeparator
  | longVersion
  | versionNumber
  | missingBlank
  | missingBlankOrBreak
  | missingCommentOrBreak
  | missingWord
  | missingAngle
  | missingExclamation
  | missingTag
  | badOctet
  | badLeadingOctet
  | badTrailingOctet
  | zeroIndent
  | tabIndent
  | documentMarker
  | endOfText
  | unknownEscape
  | missingDigit
  | badCodePoint
  | misplacedColon
  | misplacedTab
  | missingDocumentStart
  | undefinedHandle
  | missingNode
  | missingItem
  | missingKey
  | missingListEnd
  | missingMapEnd
  | repeatedVersion
  | unknownVersion
  | repeatedHandle
deriving DecidableEq, Repr

/-- The message of a problem. -/
def Problem.message : Problem → String
  | controlCharacter => "control characters are not allowed"
  | noToken => "found character that cannot start any token"
  | missingColon => "could not find expected ':'"
  | misplacedItem => "block sequence entries are not allowed in this context"
  | misplacedKey => "mapping keys are not allowed in this context"
  | misplacedValue => "mapping values are not allowed in this context"
  | unknownDirective => "found unknown directive name"
  | directiveName => "could not find expected directive name"
  | directiveLetter => "found unexpected non-alphabetical character"
  | versionSeparator => "did not find expected digit or '.' character"
  | longVersion => "found extremely long version number"
  | versionNumber => "did not find expected version number"
  | missingBlank => "did not find expected whitespace"
  | missingBlankOrBreak => "did not find expected whitespace or line break"
  | missingCommentOrBreak => "did not find expected comment or line break"
  | missingWord => "did not find expected alphabetic or numeric character"
  | missingAngle => "did not find the expected '>'"
  | missingExclamation => "did not find expected '!'"
  | missingTag => "did not find expected tag URI"
  | badOctet => "did not find URI escaped octet"
  | badLeadingOctet => "found an incorrect leading UTF-8 octet"
  | badTrailingOctet => "found an incorrect trailing UTF-8 octet"
  | zeroIndent => "found an indentation indicator equal to 0"
  | tabIndent => "found a tab character where an indentation space is expected"
  | documentMarker => "found unexpected document indicator"
  | endOfText => "found unexpected end of stream"
  | unknownEscape => "found unknown escape character"
  | missingDigit => "did not find expected hexdecimal number"
  | badCodePoint => "found invalid Unicode character escape code"
  | misplacedColon => "found unexpected ':'"
  | misplacedTab => "found a tab character that violates indentation"
  | missingDocumentStart => "did not find expected <document start>"
  | undefinedHandle => "found undefined tag handle"
  | missingNode => "did not find expected node content"
  | missingItem => "did not find expected '-' indicator"
  | missingKey => "did not find expected key"
  | missingListEnd => "did not find expected ',' or ']'"
  | missingMapEnd => "did not find expected ',' or '\x7d'"
  | repeatedVersion => "found duplicate %YAML directive"
  | unknownVersion => "found incompatible YAML document"
  | repeatedHandle => "found duplicate %TAG directive"

/-- What was being read. -/
inductive Activity where
  | nextToken
  | simpleKey
  | directive
  | versionDirective
  | tagDirective
  | anchor
  | reference
  | tag
  | blockScalar
  | quotedScalar
  | escape
  | plainScalar
  | node
  | blockNode
  | flowNode
  | blockSequence
  | blockMapping
  | flowSequence
  | flowMapping
deriving DecidableEq, Repr

/-- The words for an activity. -/
def Activity.describe : Activity → String
  | nextToken => "while scanning for the next token"
  | simpleKey => "while scanning a simple key"
  | directive => "while scanning a directive"
  | versionDirective => "while scanning a %YAML directive"
  | tagDirective => "while scanning a %TAG directive"
  | anchor => "while scanning an anchor"
  | reference => "while scanning an alias"
  | tag => "while scanning a tag"
  | blockScalar => "while scanning a block scalar"
  | quotedScalar => "while scanning a quoted scalar"
  | escape => "while parsing a quoted scalar"
  | plainScalar => "while scanning a plain scalar"
  | node => "while parsing a node"
  | blockNode => "while parsing a block node"
  | flowNode => "while parsing a flow node"
  | blockSequence => "while parsing a block collection"
  | blockMapping => "while parsing a block mapping"
  | flowSequence => "while parsing a flow sequence"
  | flowMapping => "while parsing a flow mapping"

/-- A problem with its place, and with what was being read since when. -/
structure Fault where
  problem : Problem
  mark : Mark
  context : Option (Activity × Mark) := none
deriving DecidableEq, Repr

/-- The message of a fault. Places at the start of the text are not told, and neither is a second
place that is the same as the first. -/
def Fault.message (fault : Fault) : String :=
  let place (mark : Mark) : String := if mark.isStart then "" else " at " ++ mark.describe
  fault.problem.message ++ place fault.mark ++
    match fault.context with
    | none => ""
    | some (activity, since) =>
      ", " ++ activity.describe ++
        if since.line = fault.mark.line ∧ since.column = fault.mark.column then "" else place since

end SiteWeave.Yaml
