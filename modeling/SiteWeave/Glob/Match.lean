import SiteWeave.Glob.Basic
import SiteWeave.Text.Utf8

/-!
# Matching paths with glob patterns

A path is matched from its first byte to its last. While the tokens of a pattern are worked off, the
places of the path that the tokens so far can lead to are kept as a front: one flag for the place in
front of every byte, and one for the end.

## Main definitions

* `Glob.Front`, `Glob.advance`, `Glob.spread`: fronts, and their steps over one byte and any bytes.
* `Glob.front`: the front behind tokens.
* `Glob.isMatch`, `Glob.anyMatch`: whether a pattern, or one of several, describes a path.
-/

namespace SiteWeave

namespace Glob

/-- For each place in a path, whether it can be reached. -/
abbrev Front := List Bool

/-- The front at the start of a path. -/
def startFront (path : Bytes) : Front :=
  true :: path.map fun _ => false

/-- The front behind one byte that is accepted. -/
def advance (accepts : UInt8 → Bool) (path : Bytes) (front : Front) : Front :=
  false :: List.zipWith (fun b reached => reached && accepts b) path front

/-- The front behind any number of bytes; `reached` tells of the places before. -/
def spreadFrom (reached : Bool) : Front → Front
  | [] => []
  | here :: rest => (reached || here) :: spreadFrom (reached || here) rest

/-- The front behind any number of bytes. -/
def spread (front : Front) : Front :=
  spreadFrom false front

/-- The places of either front. -/
def union (front other : Front) : Front :=
  List.zipWith (fun a b => a || b) front other

/-- The front behind a slash. -/
def advanceSlash (path : Bytes) (front : Front) : Front :=
  advance (fun b => b = 0x2F) path front

/-- The front behind given bytes. -/
def advanceBytes (path : Bytes) : Bytes → Front → Front
  | [], front => front
  | byte :: bytes, front => advanceBytes path bytes (advance (fun b => b = byte) path front)

/-- Whether a byte lies in a range of characters: between the last byte of the first one and the
first byte of the last one, or among the other bytes of the two. -/
def inRange (b : UInt8) (range : Char × Char) : Bool :=
  let first := Bytes.ofString range.1.toString
  let last := Bytes.ofString range.2.toString
  if range.1 = range.2 then first.contains b
  else
    first.contains b || last.contains b ||
      (first.getLast?.getD 0 ≤ b && b ≤ last.head?.getD 0)

mutual

/-- Whether tokens stand for nothing at all: all of them are groups without an alternative that
stands for something. -/
def isBlank : List GlobToken → Bool
  | [] => true
  | .alternatives choices :: rest => areBlank choices && isBlank rest
  | _ :: _ => false

/-- Whether all of the alternatives stand for nothing. -/
def areBlank : List (List GlobToken) → Bool
  | [] => true
  | choice :: choices => isBlank choice && areBlank choices

end

mutual

/-- The front behind tokens. Alternatives that stand for nothing are left out. -/
def front (path : Bytes) : List GlobToken → Front → Front
  | [], reached => reached
  | token :: rest, reached => front path rest (tokenFront path token reached)

/-- The front behind one token. -/
def tokenFront (path : Bytes) : GlobToken → Front → Front
  | .literal c, reached => advanceBytes path (Bytes.ofString c.toString) reached
  | .anyByte, reached => advance (fun _ => true) path reached
  | .anyBytes, reached => spread reached
  | .leadingDirectories, reached => union reached (advanceSlash path (spread reached))
  | .anythingBelow, reached => spread (advanceSlash path reached)
  | .innerDirectories, reached =>
    let behind := advanceSlash path reached
    union behind (advanceSlash path (spread behind))
  | .charClass negated ranges, reached =>
    advance (fun b => ranges.any (inRange b) != negated) path reached
  | .alternatives choices, reached =>
    if areBlank choices then reached else choicesFront path choices reached

/-- The front behind one of several alternatives. -/
def choicesFront (path : Bytes) : List (List GlobToken) → Front → Front
  | [], reached => reached.map fun _ => false
  | choice :: choices, reached =>
    let others := choicesFront path choices reached
    if isBlank choice then others else union (front path choice reached) others

end

/-- Whether a token is a character. -/
def isLiteral : GlobToken → Bool
  | .literal _ => true
  | _ => false

/-- Whether a token is a character that may stand in a file name. -/
def isNameLiteral : GlobToken → Bool
  | .literal c => c ≠ '/'
  | _ => false

/-- Whether a token is a character that may stand in an extension. -/
def isExtensionLiteral : GlobToken → Bool
  | .literal c => c ≠ '/' && c ≠ '.'
  | _ => false

/-- The tokens without those for directories at their start. -/
def dropLeading : List GlobToken → List GlobToken
  | .leadingDirectories :: rest => rest
  | tokens => tokens

/-- Whether tokens are directories and a file name. -/
def isFileName : List GlobToken → Bool
  | .leadingDirectories :: rest => !rest.isEmpty && rest.all isNameLiteral
  | _ => false

/-- Whether tokens are an asterisk and an extension, perhaps behind directories. -/
def isExtension (tokens : List GlobToken) : Bool :=
  match dropLeading tokens with
  | .anyBytes :: .literal '.' :: rest => rest.all isExtensionLiteral
  | _ => false

/-- Whether tokens are an asterisk and characters, perhaps behind directories. -/
def isEnding (tokens : List GlobToken) : Bool :=
  match dropLeading tokens with
  | .anyBytes :: rest => rest.all isLiteral
  | rest => rest.all isLiteral

/-- Whether the last tokens are an extension. -/
def endsInExtension (tokens : List GlobToken) : Bool :=
  match tokens.reverse.dropWhile isExtensionLiteral with
  | .literal '.' :: _ => true
  | _ => false

/-- Whether the file name of a path decides over it: a path that ends in a step up has none. -/
def needsFileName (tokens : List GlobToken) : Bool :=
  isFileName tokens || isExtension tokens || !isEnding tokens && endsInExtension tokens

/-- Whether a path ends in a step up. -/
def endsInStepUp (path : Bytes) : Bool :=
  path.reverse.takeWhile (· ≠ 0x2F) = [0x2E, 0x2E]

/-- Whether a pattern describes a path. A pattern of two asterisks alone describes all paths. -/
def isMatch (glob : Glob) (path : Bytes) : Bool :=
  match glob.tokens with
  | [.leadingDirectories] => true
  | tokens =>
    !(needsFileName tokens && endsInStepUp path) &&
      (front path tokens (startFront path)).getLast?.getD false

/-- Whether one of several patterns describes a path. -/
def anyMatch (globs : List Glob) (path : Bytes) : Bool :=
  globs.any fun glob => glob.isMatch path

end Glob

end SiteWeave
