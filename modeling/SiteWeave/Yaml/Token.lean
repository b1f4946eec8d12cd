import SiteWeave.Text.Utf8
import SiteWeave.Yaml.Scalar

/-!
# YAML tokens

## Main definitions

* `Yaml.Tag`: the bytes of a tag.
* `Yaml.TokenKind`, `Yaml.Token`: the tokens of a text.
* `Yaml.readName`, `Yaml.readTag`, `Yaml.readDirective`: the tokens that start with one character of
  their own.
-/

namespace SiteWeave.Yaml

/-- The bytes of a tag. -/
abbrev Tag := Bytes

/-- The tokens of a text. -/
inductive TokenKind where
  | streamEnd
  | version (major minor : Nat)
  /-- A short form of tags and what it stands for. -/
  | tagHandle (handle : Text) (start : Tag)
  | documentStart
  | documentEnd
  | blockSequenceStart
  | blockMappingStart
  | blockEnd
  | flowSequenceStart
  | flowSequenceEnd
  | flowMappingStart
  | flowMappingEnd
  /-- The mark in front of an item of a block sequence. -/
  | item
  /-- The mark between the entries of a flow collection. -/
  | entry
  | key
  | value
  /-- An alias for the node with an anchor. -/
  | reference (name : String)
  | anchor (name : String)
  | tag (handle : Text) (suffix : Tag)
  | scalar (text : String) (isPlain : Bool)
deriving DecidableEq, Repr

/-- A token with the places in front of it and behind it. -/
structure Token where
  kind : TokenKind
  start : Mark
  stop : Mark
deriving DecidableEq, Repr

/-- Read the name of an anchor or an alias from its first character on. -/
def readName (activity : Activity) (cursor : Cursor) : Except Fault (String × Cursor) :=
  let start := cursor.mark
  let (name, cursor) := cursor.advance.takeWhile isWord
  let isEnded := cursor.atSpacing || cursor.peek?.any fun c => "?:,]\x7d%@\x60".toList.contains c
  if name.isEmpty || !isEnded then
    .error ⟨.missingWord, cursor.mark, some (activity, start)⟩
  else .ok (String.ofList name, cursor)

/-! ### Tags -/

/-- Whether a character may stand in a tag; `verbatim` allows flow indicators. -/
def isTagChar (verbatim : Bool) (c : Char) : Bool :=
  isWord c || ";/?:@&=+$.%!~*'()".toList.contains c || verbatim && ",[]".toList.contains c

/-- The number of bytes of a character by its first byte. -/
def octetCount? (first : Nat) : Option Nat :=
  if first < 0x80 then some 1
  else if 0xC0 ≤ first ∧ first < 0xE0 then some 2
  else if 0xE0 ≤ first ∧ first < 0xF0 then some 3
  else if 0xF0 ≤ first ∧ first < 0xF8 then some 4
  else none

/-- Read one escaped byte. -/
def readOctet (context : Activity × Mark) (cursor : Cursor) : Except Fault (Nat × Cursor) :=
  match cursor.unread with
  | '%' :: a :: b :: _ =>
    match Text.toNat? 16 [a, b] with
    | some octet => .ok (octet, cursor.advance 3)
    | none => .error ⟨.badOctet, cursor.mark, some context⟩
  | _ => .error ⟨.badOctet, cursor.mark, some context⟩

/-- Read the escaped bytes behind the first one of a character. -/
def readOctets (context : Activity × Mark) : Nat → Cursor → Except Fault (Tag × Cursor)
  | 0, cursor => .ok ([], cursor)
  | count + 1, cursor => do
    let (octet, next) ← readOctet context cursor
    if octet < 0x80 ∨ 0xC0 ≤ octet then
      throw ⟨.badTrailingOctet, cursor.mark, some context⟩
    let (octets, cursor) ← readOctets context count next
    return (UInt8.ofNat octet :: octets, cursor)

/-- Read a character that is written as escaped bytes. -/
def readOctetChar (context : Activity × Mark) (cursor : Cursor) : Except Fault (Tag × Cursor) := do
  let (first, next) ← readOctet context cursor
  match octetCount? first with
  | none => throw ⟨.badLeadingOctet, cursor.mark, some context⟩
  | some count =>
    let (octets, cursor) ← readOctets context (count - 1) next
    return (UInt8.ofNat first :: octets, cursor)

/-- Read the characters of a tag; a text as long as the unread one bounds their number. -/
def readTagChars (verbatim : Bool) (context : Activity × Mark) :
    Text → Cursor → Except Fault (Tag × Cursor)
  | [], cursor => .ok ([], cursor)
  | _ :: bound, cursor =>
    match cursor.peek? with
    | none => .ok ([], cursor)
    | some c =>
      if !isTagChar verbatim c then .ok ([], cursor)
      else do
        let (bytes, cursor) ←
          if c = '%' then readOctetChar context cursor
          else pure (Bytes.ofString c.toString, cursor.advance)
        let (others, cursor) ← readTagChars verbatim context bound cursor
        return (bytes ++ others, cursor)

/-- Read the characters of a tag; there has to be one unless `mayBeEmpty`. -/
def readSuffix (verbatim mayBeEmpty : Bool) (context : Activity × Mark) (cursor : Cursor) :
    Except Fault (Tag × Cursor) := do
  let (bytes, next) ← readTagChars verbatim context cursor.unread cursor
  if bytes.isEmpty && !mayBeEmpty then throw ⟨.missingTag, next.mark, some context⟩
  return (bytes, next)

/-- Read the short form at the front of a tag: words, between exclamation marks if it is complete.
-/
def readHandle (context : Activity × Mark) (cursor : Cursor) : Except Fault (Text × Cursor) :=
  if cursor.peek? ≠ some '!' then .error ⟨.missingExclamation, cursor.mark, some context⟩
  else
    let (word, cursor) := cursor.advance.takeWhile isWord
    if cursor.peek? = some '!' then .ok ('!' :: word ++ ['!'], cursor.advance)
    else .ok ('!' :: word, cursor)

/-- Whether a short form is complete. -/
def isHandle (handle : Text) : Bool :=
  2 ≤ handle.length && handle.getLast? = some '!'

/-- Read a tag from its exclamation mark on. -/
def readTag (inFlow : Bool) (cursor : Cursor) : Except Fault (TokenKind × Cursor) := do
  let context := (Activity.tag, cursor.mark)
  let (tag, next) ←
    if (cursor.advance).peek? = some '<' then do
      let (suffix, next) ← readSuffix true false context (cursor.advance 2)
      if next.peek? ≠ some '>' then throw ⟨.missingAngle, next.mark, some context⟩
      pure (TokenKind.tag [] suffix, next.advance)
    else do
      let (handle, next) ← readHandle context cursor
      if isHandle handle then
        let (suffix, next) ← readSuffix false false context next
        pure (TokenKind.tag handle suffix, next)
      else
        let (rest, next) ← readSuffix false true context next
        let suffix := Bytes.ofString (String.ofList (handle.drop 1)) ++ rest
        pure (if suffix.isEmpty then .tag [] (Bytes.ofString "!") else .tag ['!'] suffix, next)
  if next.atSpacing || inFlow && next.peek? = some ',' then return (tag, next)
  else throw ⟨.missingBlankOrBreak, next.mark, some context⟩

/-! ### Directives -/

/-- Read one number of a version. -/
def readVersionNumber (start : Mark) (cursor : Cursor) : Except Fault (Nat × Cursor) :=
  let context := some (Activity.versionDirective, start)
  let (digits, next) := cursor.takeWhile Char.isDigit
  if digits.isEmpty then .error ⟨.versionNumber, next.mark, context⟩
  else if 9 < digits.length then .error ⟨.longVersion, (cursor.advance 9).mark, context⟩
  else .ok (digits.foldl (fun value c => value * 10 + (c.toNat - '0'.toNat)) 0, next)

/-- Read the version behind the name of its directive. -/
def readVersion (start : Mark) (cursor : Cursor) : Except Fault (TokenKind × Cursor) := do
  let (major, next) ← readVersionNumber start (cursor.skipWhile isBlank)
  if next.peek? ≠ some '.' then
    throw ⟨.versionSeparator, next.mark, some (.versionDirective, start)⟩
  let (minor, next) ← readVersionNumber start next.advance
  return (.version major minor, next)

/-- Read the short form and what it stands for behind the name of their directive. -/
def readTagHandle (start : Mark) (cursor : Cursor) : Except Fault (TokenKind × Cursor) := do
  let context := (Activity.tagDirective, start)
  let (handle, next) ← readHandle context (cursor.skipWhile isBlank)
  if !isHandle handle && handle ≠ ['!'] then
    throw ⟨.missingExclamation, next.mark, some context⟩
  if !next.peek?.any isBlank then throw ⟨.missingBlank, next.mark, some context⟩
  let (bytes, next) ← readSuffix true false context (next.skipWhile isBlank)
  if next.atSpacing then return (.tagHandle handle bytes, next)
  else throw ⟨.missingBlankOrBreak, next.mark, some context⟩

/-- Read a directive from its percent sign on, with the rest of its line. -/
def readDirective (cursor : Cursor) : Except Fault (TokenKind × Cursor) := do
  let start := cursor.mark
  let context := some (Activity.directive, start)
  let (name, next) := cursor.advance.takeWhile isWord
  if name.isEmpty then throw ⟨.directiveName, next.mark, context⟩
  if !next.atSpacing then throw ⟨.directiveLetter, next.mark, context⟩
  let (kind, next) ←
    if name = "YAML".toList then readVersion start next
    else if name = "TAG".toList then readTagHandle start next
    else throw ⟨.unknownDirective, next.mark, context⟩
  let next := next.skipComment
  if next.atLineEnd then return (kind, next.passBreak.2)
  else throw ⟨.missingCommentOrBreak, next.mark, context⟩

end SiteWeave.Yaml
