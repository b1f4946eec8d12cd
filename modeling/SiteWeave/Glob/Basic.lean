import SiteWeave.Text.Search

/-!
# Glob patterns

A glob pattern describes paths. A question mark stands for one byte and an asterisk for any bytes,
slashes too; two asterisks that fill a segment stand for any number of directories. Brackets hold a
class of characters, braces hold alternatives, and a backslash takes the special meaning from the
character behind it.

## Main definitions

* `GlobToken`: the parts of a pattern.
* `GlobError`: why a text is not a pattern, with its message.
* `Glob`, `Glob.parse`: a pattern, and its tokens from its text.
-/

namespace SiteWeave

/-- A part of a glob pattern. -/
inductive GlobToken where
  | literal (c : Char)
  | anyByte
  | anyBytes
  /-- Any number of directories at the start of a path. -/
  | leadingDirectories
  /-- Anything below a directory. -/
  | anythingBelow
  /-- A slash, or any number of directories between two slashes. -/
  | innerDirectories
  /-- One character of the ranges, or one of no range. -/
  | charClass (negated : Bool) (ranges : List (Char × Char))
  | alternatives (choices : List (List GlobToken))

/-- Why a text is not a glob pattern. -/
inductive GlobCause where
  | unclosedClass
  | invalidRange (first last : Char)
  | unopenedAlternatives
  | unclosedAlternatives
  | danglingEscape
deriving DecidableEq, Repr

/-- The message of a cause. -/
def GlobCause.message : GlobCause → String
  | unclosedClass => "unclosed character class; missing ']'"
  | invalidRange first last =>
    "invalid range; '" ++ first.toString ++ "' > '" ++ last.toString ++ "'"
  | unopenedAlternatives =>
    "unopened alternate group; missing '\x7b' (maybe escape '\x7d' with '[\x7d]'?)"
  | unclosedAlternatives =>
    "unclosed alternate group; missing '\x7d' (maybe escape '\x7b' with '[\x7b]'?)"
  | danglingEscape => "dangling '\\'"

/-- A text that is not a glob pattern, with the cause. -/
structure GlobError where
  text : String
  cause : GlobCause
deriving DecidableEq, Repr

/-- The message of an error. -/
def GlobError.message (error : GlobError) : String :=
  "error parsing glob '" ++ error.text ++ "': " ++ error.cause.message

/-- A glob pattern. -/
structure Glob where
  tokens : List GlobToken

namespace Glob

/-- The state of reading a pattern. -/
structure Draft where
  /-- The tokens of the alternative that is being read, the last one first. -/
  current : List GlobToken := []
  /-- The groups that are open, the innermost first: the tokens in front of the group and its
  finished alternatives, the last ones first. -/
  groups : List (List GlobToken × List (List GlobToken)) := []

namespace Draft

/-- The draft with one more token. -/
def push (draft : Draft) (token : GlobToken) : Draft :=
  { draft with current := token :: draft.current }

/-- The draft with two asterisks that stand for themselves. -/
def pushAsterisks (draft : Draft) : Draft :=
  (draft.push .anyBytes).push .anyBytes

/-- The draft with its last token replaced, unless that one stands for directories at the start or
for anything below. -/
def replaceLast (draft : Draft) (token : GlobToken) : Draft :=
  match draft.current with
  | .leadingDirectories :: _ => draft
  | .anythingBelow :: _ => draft
  | _ :: before => { draft with current := token :: before }
  | [] => draft.push token

/-- Open a group. -/
def openGroup (draft : Draft) : Draft :=
  ⟨[], (draft.current, []) :: draft.groups⟩

/-- Go on to the next alternative of the innermost group; outside of groups a comma is a character.
-/
def nextAlternative (draft : Draft) : Draft :=
  match draft.groups with
  | [] => draft.push (.literal ',')
  | (before, done) :: groups => ⟨[], (before, draft.current.reverse :: done) :: groups⟩

/-- Close the innermost group. -/
def closeGroup (draft : Draft) : Except GlobCause Draft :=
  match draft.groups with
  | [] => .error .unopenedAlternatives
  | (before, done) :: groups =>
    .ok ⟨.alternatives (draft.current.reverse :: done).reverse :: before, groups⟩

/-- The tokens of a pattern that was read to its end. -/
def finish (draft : Draft) : Except GlobCause (List GlobToken) :=
  if draft.groups.isEmpty then .ok draft.current.reverse else .error .unclosedAlternatives

/-- Whether two asterisks behind `previous` start a segment. -/
def startsSegment (draft : Draft) (previous : Option Char) : Bool :=
  previous = some '/' ||
    !draft.groups.isEmpty && (previous = some ',' || previous = some '{')

end Draft

/-- The ranges of a class that is being read. -/
structure ClassDraft where
  negated : Bool
  /-- The ranges, the last one first. -/
  ranges : List (Char × Char) := []
  /-- Whether a hyphen was read that may make a range of the last character. -/
  inRange : Bool := false

namespace ClassDraft

/-- The class with one more character, which may end a range. -/
def push (draft : ClassDraft) (c : Char) : Except GlobCause ClassDraft :=
  match draft.inRange, draft.ranges with
  | true, (first, _) :: ranges =>
    if c < first then .error (.invalidRange first c)
    else .ok { draft with ranges := (first, c) :: ranges, inRange := false }
  | _, ranges => .ok { draft with ranges := (c, c) :: ranges, inRange := false }

/-- The class as a token; a hyphen at its end stands for itself. -/
def token (draft : ClassDraft) : GlobToken :=
  .charClass draft.negated
    (if draft.inRange then ('-', '-') :: draft.ranges else draft.ranges).reverse

end ClassDraft

mutual

/-- Read a pattern; `previous` is the character in front. -/
def parseTokens (draft : Draft) (previous : Option Char) :
    List Char → Except GlobCause (List GlobToken)
  | [] => draft.finish
  | '*' :: '*' :: rest =>
    match draft.current.isEmpty, rest with
    | true, [] => (draft.push .leadingDirectories).finish
    | true, '/' :: rest => parseTokens (draft.push .leadingDirectories) (some '/') rest
    | true, rest => parseTokens draft.pushAsterisks (some '*') rest
    | false, rest =>
      if !draft.startsSegment previous then parseTokens draft.pushAsterisks (some '*') rest
      else
        match rest with
        | [] => (draft.replaceLast .anythingBelow).finish
        | '/' :: rest => parseTokens (draft.replaceLast .innerDirectories) (some '/') rest
        | c :: rest =>
          if !draft.groups.isEmpty && (c = ',' || c = '}') then
            parseTokens (draft.replaceLast .anythingBelow) (some '*') (c :: rest)
          else parseTokens draft.pushAsterisks (some '*') (c :: rest)
  | '*' :: rest => parseTokens (draft.push .anyBytes) (some '*') rest
  | '?' :: rest => parseTokens (draft.push .anyByte) (some '?') rest
  | '[' :: '!' :: rest => parseClass draft ⟨true, [], false⟩ true rest
  | '[' :: '^' :: rest => parseClass draft ⟨true, [], false⟩ true rest
  | '[' :: rest => parseClass draft ⟨false, [], false⟩ true rest
  | '{' :: rest => parseTokens draft.openGroup (some '{') rest
  | '}' :: rest =>
    match draft.closeGroup with
    | .ok draft => parseTokens draft (some '}') rest
    | .error cause => .error cause
  | ',' :: rest => parseTokens draft.nextAlternative (some ',') rest
  | ['\\'] => .error .danglingEscape
  | '\\' :: c :: rest => parseTokens (draft.push (.literal c)) (some c) rest
  | c :: rest => parseTokens (draft.push (.literal c)) (some c) rest

/-- Read a class; its first character stands for itself. -/
def parseClass (draft : Draft) (ranges : ClassDraft) (isFirst : Bool) :
    List Char → Except GlobCause (List GlobToken)
  | [] => .error .unclosedClass
  | c :: rest =>
    if c = ']' && !isFirst then parseTokens (draft.push ranges.token) (some ']') rest
    else if c = '-' && !isFirst && !ranges.inRange then
      parseClass draft { ranges with inRange := true } false rest
    else
      match ranges.push c with
      | .ok ranges => parseClass draft ranges false rest
      | .error cause => .error cause

end

/-- The pattern that a text describes. -/
def parse (text : String) : Except GlobError Glob :=
  match parseTokens {} none text.toList with
  | .ok tokens => .ok ⟨tokens⟩
  | .error cause => .error ⟨text, cause⟩

end Glob

end SiteWeave
