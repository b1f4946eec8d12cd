import Mathlib.Data.List.Basic
import SiteWeave.Json.Reader

/-!
# JSON as it is written

The grammar of JSON as syntax trees that keep every character of the text, blanks and escapes
included. A tree is well formed by its type, so that the texts of all trees are the texts of JSON.

## Main definitions

* `JsonText.Letter`, `JsonText.decode?`: the characters of a string and the text they stand for.
* `JsonText.Word`: the words and the numbers.
* `JsonText.Value`, `JsonText.Items`, `JsonText.Members`: values and what collections hold.
* `JsonText.Document`: a text whose only value is an object.

## Main results

* `JsonText.Word.isBare_text`: words and numbers consist of letters, digits, signs and points.
* `JsonText.Value.text_eq_cons`: the characters that a value may start with.
-/

namespace SiteWeave.JsonText

/-- Characters between two tokens. -/
structure Blank where
  text : Text
  isSpace : ∀ c ∈ text, Reader.isSpace c

/-- No characters. -/
def Blank.empty : Blank := ⟨[], by simp⟩

/-- The characters of two blanks. -/
def Blank.append (a b : Blank) : Blank where
  text := a.text ++ b.text
  isSpace c hc := (List.mem_append.1 hc).elim (a.isSpace c) (b.isSpace c)

@[simp]
theorem Blank.text_append (a b : Blank) : (a.append b).text = a.text ++ b.text := rfl

/-! ### Strings -/

/-- A character of a string as it is written. -/
inductive Letter where
  | plain (c : Char) (h : 0x20 ≤ c.toNat ∧ c ≠ '"' ∧ c ≠ '\\')
  | short (c escaped : Char) (h : Reader.shortEscape? c = some escaped)
  /-- A code unit in four hexadecimal digits. -/
  | unit (digits : Text) (code : Nat) (h : digits.length = 4 ∧ Text.toNat? 16 digits = some code)

/-- The text of a character. -/
def Letter.text : Letter → Text
  | plain c _ => [c]
  | short c _ _ => ['\\', c]
  | unit digits _ _ => '\\' :: 'u' :: digits

/-- The text between the quotes of a string. -/
def body (letters : List Letter) : Text :=
  letters.flatMap Letter.text

/-- The text of a string with its quotes. -/
def inQuotes (letters : List Letter) : Text :=
  '"' :: (body letters ++ ['"'])

@[simp]
theorem body_nil : body [] = [] := rfl

@[simp]
theorem body_cons (letter : Letter) (letters : List Letter) :
    body (letter :: letters) = letter.text ++ body letters := rfl

/-- Whether a code unit is the first half of a pair of surrogates. -/
def isHigh (code : Nat) : Bool :=
  0xD800 ≤ code && code ≤ 0xDBFF

/-- Whether a code unit is the second half of a pair of surrogates. -/
def isLow (code : Nat) : Bool :=
  0xDC00 ≤ code && code ≤ 0xDFFF

/-- The text that the characters of a string stand for: two escapes are one character where they are
a pair of surrogates, and half a pair stands for nothing. -/
def decode? : List Letter → Option Text
  | [] => some []
  | .plain c _ :: letters => (decode? letters).map (c :: ·)
  | .short _ c _ :: letters => (decode? letters).map (c :: ·)
  | .unit _ code _ :: letters =>
    if isLow code then none
    else if isHigh code then
      match letters with
      | .unit _ low _ :: letters =>
        if isLow low then
          (decode? letters).map
            (Char.ofNat (0x10000 + (code - 0xD800) * 0x400 + (low - 0xDC00)) :: ·)
        else none
      | _ => none
    else (decode? letters).map (Char.ofNat code :: ·)

/-! ### Words and numbers -/

/-- Digits, at least one of them. -/
def IsDigits (text : Text) : Prop :=
  text ≠ [] ∧ ∀ c ∈ text, c.isDigit

/-- The exponent of a number. -/
structure Exponent where
  letter : Char
  sign : Option Char
  digits : Text
  letter_eq : letter = 'e' ∨ letter = 'E'
  sign_eq : ∀ c ∈ sign, c = '+' ∨ c = '-'
  isDigits : IsDigits digits

/-- The text of an exponent. -/
def Exponent.text (exponent : Exponent) : Text :=
  exponent.letter :: (exponent.sign.toList ++ exponent.digits)

/-- A number; a zero stands in front of the point on its own only. -/
structure Numeral where
  isNegative : Bool
  whole : Text
  fraction : Option Text
  exponent : Option Exponent
  isDigits_whole : IsDigits whole
  eq_zero : whole.head? = some '0' → whole = ['0']
  isDigits_fraction : ∀ digits ∈ fraction, IsDigits digits

/-- The text of a number. -/
def Numeral.text (numeral : Numeral) : Text :=
  (if numeral.isNegative then ['-'] else []) ++ numeral.whole ++
    numeral.fraction.elim [] ('.' :: ·) ++ numeral.exponent.elim [] Exponent.text

/-- A value that is no string and no collection. -/
inductive Word where
  | null
  | true
  | false
  | number (numeral : Numeral)

/-- The text of a word. -/
def Word.text : Word → Text
  | null => "null".toList
  | true => "true".toList
  | false => "false".toList
  | number numeral => numeral.text

/-- Whether a character may stand in a word. -/
def isBare (c : Char) : Bool :=
  c.isAlphanum || c = '-' || c = '+' || c = '.'

theorem isBare_of_isDigit {c : Char} (h : c.isDigit) : isBare c := by
  simp [isBare, Char.isAlphanum, h]

theorem IsDigits.isBare {text : Text} (h : IsDigits text) : ∀ c ∈ text, isBare c :=
  fun c hc => isBare_of_isDigit (h.2 c hc)

theorem Exponent.isBare_text (exponent : Exponent) : ∀ c ∈ exponent.text, isBare c := by
  intro c hc
  simp only [text, List.mem_cons, List.mem_append, Option.mem_toList] at hc
  rcases hc with rfl | hc | hc
  · rcases exponent.letter_eq with h | h <;> rw [h] <;> rfl
  · rcases exponent.sign_eq c hc with rfl | rfl <;> decide
  · exact exponent.isDigits.isBare c hc

theorem Numeral.isBare_text (numeral : Numeral) : ∀ c ∈ numeral.text, isBare c := by
  intro c hc
  simp only [text, List.mem_append] at hc
  obtain ((hc | hc) | hc) | hc := hc
  · split at hc
    · simp_all [isBare]
    · simp at hc
  · exact numeral.isDigits_whole.isBare c hc
  · cases h : numeral.fraction with
    | none => simp [h] at hc
    | some digits =>
      simp only [h, Option.elim_some, List.mem_cons] at hc
      rcases hc with rfl | hc
      · rfl
      · exact (numeral.isDigits_fraction digits h).isBare c hc
  · cases h : numeral.exponent with
    | none => simp [h] at hc
    | some exponent => exact exponent.isBare_text c (by simpa [h] using hc)

/-- **Words and numbers** consist of letters, digits, signs and points. -/
theorem Word.isBare_text (word : Word) : ∀ c ∈ word.text, isBare c := by
  cases word with
  | number numeral => exact numeral.isBare_text
  | _ => exact List.all_eq_true.1 rfl

/-- Whether a word may start with a character in front of a text. -/
def startsWord (c : Char) (rest : Text) : Bool :=
  c.isAlphanum || c = '-' && rest.head?.any Char.isDigit

/-- A word starts with a letter or a digit, or with a minus sign and a digit. -/
theorem Word.text_eq_cons (word : Word) :
    ∃ c rest, word.text = c :: rest ∧ startsWord c rest := by
  cases word with
  | number numeral =>
    obtain ⟨d, digits, hd⟩ := List.exists_cons_of_ne_nil numeral.isDigits_whole.1
    have hdigit : d.isDigit := numeral.isDigits_whole.2 d (by simp [hd])
    simp only [text, Numeral.text, hd, List.append_assoc]
    cases numeral.isNegative with
    | true => exact ⟨_, _, rfl, by simp [startsWord, hdigit]⟩
    | false => exact ⟨_, _, rfl, by simp [startsWord, Char.isAlphanum, hdigit]⟩
  | _ => exact ⟨_, _, rfl, rfl⟩

theorem ne_of_startsWord {c d : Char} {rest : Text} (h : startsWord c rest)
    (hd : (d.isAlphanum || d = '-') = false) : c ≠ d := by
  rintro rfl
  simp_all [startsWord]

/-! ### Values -/

mutual

/-- A value. -/
inductive Value where
  | word (word : Word)
  | string (letters : List Letter)
  /-- A list with the characters in front of its closing bracket. -/
  | array (items : Items) (inner : Blank)
  /-- An object with the characters in front of its closing bracket. -/
  | object (members : Members) (inner : Blank)

/-- The items of a list, each with the characters around it. -/
inductive Items where
  | nil
  | cons (front : Blank) (value : Value) (behind : Blank) (rest : Items)

/-- The members of an object, each with the characters around its key and its value. -/
inductive Members where
  | nil
  | cons (front : Blank) (key : List Letter) (gap inner : Blank) (value : Value) (behind : Blank)
    (rest : Members)

end

mutual

/-- The text of a value. -/
def Value.text : Value → Text
  | .word word => word.text
  | .string letters => inQuotes letters
  | .array items inner => '[' :: (items.text true ++ inner.text ++ [']'])
  | .object members inner => '\x7b' :: (members.text true ++ inner.text ++ ['\x7d'])

/-- The text of items; a comma stands in front of each but the first one. -/
def Items.text (isFirst : Bool) : Items → Text
  | .nil => []
  | .cons front value behind rest =>
    (if isFirst then [] else [',']) ++ front.text ++ value.text ++ behind.text ++ rest.text false

/-- The text of members; a comma stands in front of each but the first one. -/
def Members.text (isFirst : Bool) : Members → Text
  | .nil => []
  | .cons front key gap inner value behind rest =>
    (if isFirst then [] else [',']) ++ front.text ++ inQuotes key ++ gap.text ++
      ':' :: inner.text ++ value.text ++ behind.text ++ rest.text false

end

@[simp]
theorem Value.text_word (word : Word) : (Value.word word).text = word.text := by
  rw [text]

@[simp]
theorem Value.text_string (letters : List Letter) :
    (Value.string letters).text = '"' :: (body letters ++ ['"']) := by
  rw [text, inQuotes]

@[simp]
theorem Value.text_array (items : Items) (inner : Blank) :
    (Value.array items inner).text = '[' :: (items.text true ++ inner.text ++ [']']) := by
  rw [text]

@[simp]
theorem Value.text_object (members : Members) (inner : Blank) :
    (Value.object members inner).text =
      '\x7b' :: (members.text true ++ inner.text ++ ['\x7d']) := by
  rw [text]

/-- Whether a value may start with a character. -/
def startsValue (c : Char) : Bool :=
  c.isAlphanum || c = '-' || c = '"' || c = '[' || c = '\x7b'

theorem startsValue_of_startsWord {c : Char} {rest : Text} (h : startsWord c rest) :
    startsValue c := by
  simp only [startsWord, Bool.or_eq_true, Bool.and_eq_true] at h
  rcases h with h | ⟨h, -⟩ <;> simp [startsValue, h]

theorem ne_of_startsValue {c d : Char} (h : startsValue c) (hd : startsValue d = false) :
    c ≠ d := by
  rintro rfl
  exact Bool.false_ne_true (hd.symm.trans h)

theorem not_isSpace_of_startsValue {c : Char} (h : startsValue c) : Reader.isSpace c = false := by
  by_contra hspace
  simp only [Reader.isSpace, Bool.not_eq_false, Bool.or_eq_true, decide_eq_true_eq] at hspace
  rcases hspace with ((rfl | rfl) | rfl) | rfl <;> exact absurd h (by decide)

theorem Value.text_eq_cons (value : Value) : ∃ c rest, value.text = c :: rest ∧ startsValue c := by
  cases value with
  | word word =>
    obtain ⟨c, rest, htext, h⟩ := word.text_eq_cons
    exact ⟨c, rest, by rw [text_word, htext], startsValue_of_startsWord h⟩
  | string letters => exact ⟨_, _, text_string letters, rfl⟩
  | array items inner => exact ⟨_, _, text_array items inner, rfl⟩
  | object members inner => exact ⟨_, _, text_object members inner, rfl⟩

/-- The text that a value stands for, if it is a string. -/
def Value.string? : Value → Option String
  | .string letters => (decode? letters).map String.ofList
  | _ => none

/-- The values of a list. -/
def Items.toList : Items → List Value
  | nil => []
  | cons _ value _ rest => value :: rest.toList

/-- A member of an object with the characters between its key and the colon. -/
structure Member where
  key : List Letter
  gap : Blank
  value : Value

/-- The members of an object. -/
def Members.toList : Members → List Member
  | nil => []
  | cons _ key gap _ value _ rest => ⟨key, gap, value⟩ :: rest.toList

/-- A text whose only value is an object. -/
structure Document where
  front : Blank
  members : Members
  inner : Blank
  behind : Blank

/-- The text of a document. -/
def Document.text (document : Document) : Text :=
  document.front.text ++ (Value.object document.members document.inner).text ++
    document.behind.text

end SiteWeave.JsonText
