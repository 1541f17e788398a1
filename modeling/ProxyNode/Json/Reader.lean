import ProxyNode.Json.Value
import ProxyNode.Number.Decimal

/-!
# Json — Reader

JSON text to values.  Beyond the standard the names `NaN`, `Infinity` and `-Infinity` are numbers;
of a field that occurs twice the last value counts, in the place of the first.  What is left of the
text stands for a position in it, and a fault names the position where it was noticed.

* `position_le`: a fault lies within the text or just behind it.
-/

namespace ProxyNode.Json

open Text Numeral

/-- What is wrong with a text. -/
inductive Complaint where
  | value
  | extra
  | name
  | colon
  | comma
  | unterminated
  | control
  | escape
  | codeEscape
  | byteOrderMark
  deriving DecidableEq, Repr

def Complaint.message : Complaint → String
  | .value => "Expecting value"
  | .extra => "Extra data"
  | .name => "Expecting property name enclosed in double quotes"
  | .colon => "Expecting ':' delimiter"
  | .comma => "Expecting ',' delimiter"
  | .unterminated => "Unterminated string starting at"
  | .control => "Invalid control character at"
  | .escape => "Invalid \\escape"
  | .codeEscape => "Invalid \\uXXXX escape"
  | .byteOrderMark => "Unexpected UTF-8 BOM (decode using utf-8-sig)"

/-- The values that hold others. -/
inductive Nested where
  | array
  | object
  deriving DecidableEq, Repr

def Nested.name : Nested → String
  | .array => "array"
  | .object => "object"

/-- How many arrays and objects may stand within each other. -/
def maxDepth : Nat := 990

/-- Why reading stopped: a complaint with the number of characters left from its place on, a numeral
of too many digits, or an array or object within too many others. -/
inductive Stop where
  | complaint (what : Complaint) (left : Nat)
  | numeral (digits : Nat)
  | tooDeep (nested : Nested)
  deriving DecidableEq, Repr

/-- What a reader of a part returns: the part and the rest of the text. -/
abbrev Parsed (α : Type) := Except Stop (α × List Char)

def isSpace (c : Char) : Bool := c = ' ' || c = '\t' || c = '\n' || c = '\r'

def skipSpace (cs : List Char) : List Char := cs.dropWhile isSpace

/-- What follows `word` in a text that starts with it. -/
def dropWord? : List Char → List Char → Option (List Char)
  | [], cs => some cs
  | _ :: _, [] => none
  | w :: word, c :: cs => if w = c then dropWord? word cs else none

/-- The code of four hexadecimal digits, and what follows them, which must not be nothing. -/
def readCode : List Char → Option (Nat × List Char)
  | a :: b :: c :: d :: e :: rest =>
    match hexDigit? a, hexDigit? b, hexDigit? c, hexDigit? d with
    | some a, some b, some c, some d => some (((a * 16 + b) * 16 + c) * 16 + d, e :: rest)
    | _, _, _, _ => none
  | _ => none

/-- The half `high` of a surrogate pair, or the character of the pair if its other half follows in
a second escape. -/
def joinSurrogates (high : Surrogate) (rest : List Char) : Parsed RawChar :=
  match dropWord? ['\\', 'u'] rest with
  | none => .ok (.half high, rest)
  | some more =>
    if (more.drop 4).isEmpty then .ok (.half high, rest)
    else match readCode more with
      | none => .error (.complaint .codeEscape (more.length + 1))
      | some (low, after) =>
        if 0xDC00 ≤ low ∧ low ≤ 0xDFFF then
          .ok (.char (Char.ofNat (0x10000 + (high.code - 0xD800) * 0x400 + (low - 0xDC00))), after)
        else .ok (.half high, rest)

/-- What an escape stands for, from behind its backslash; `opened` is the text from behind the
quotation mark in front. -/
def readEscape (opened : List Char) : List Char → Parsed RawChar
  | [] => .error (.complaint .unterminated (opened.length + 1))
  | 'u' :: rest =>
    match readCode rest with
    | none => .error (.complaint .codeEscape (rest.length + 1))
    | some (code, after) =>
      if h : 0xD800 ≤ code ∧ code ≤ 0xDFFF then
        if code ≤ 0xDBFF then joinSurrogates ⟨code, h.1, h.2⟩ after
        else .ok (.half ⟨code, h.1, h.2⟩, after)
      else .ok (.char (Char.ofNat code), after)
  | '"' :: rest => .ok (.char '"', rest)
  | '\\' :: rest => .ok (.char '\\', rest)
  | '/' :: rest => .ok (.char '/', rest)
  | 'b' :: rest => .ok (.char '\x08', rest)
  | 'f' :: rest => .ok (.char '\x0c', rest)
  | 'n' :: rest => .ok (.char '\n', rest)
  | 'r' :: rest => .ok (.char '\r', rest)
  | 't' :: rest => .ok (.char '\t', rest)
  | _ :: rest => .error (.complaint .escape (rest.length + 2))

/-- The rest of a text value, `before` holding its characters so far, the last one first, of which
none is half of a pair.  Each round takes at least one character, so the length of the text bounds
the rounds. -/
def readText (opened : List Char) : Nat → List Char → List Char → Parsed RawText
  | 0, _, _ => .error (.complaint .unterminated (opened.length + 1))
  | _ + 1, _, [] => .error (.complaint .unterminated (opened.length + 1))
  | _ + 1, before, '"' :: rest => .ok (.whole (String.ofList before.reverse), rest)
  | rounds + 1, before, '\\' :: rest =>
    match readEscape opened rest with
    | .error stop => .error stop
    | .ok (.char c, after) => readText opened rounds (c :: before) after
    | .ok (.half h, after) =>
      match readText opened rounds [] after with
      | .error stop => .error stop
      | .ok (t, rest) => .ok (.torn (String.ofList before.reverse) h t, rest)
  | rounds + 1, before, c :: rest =>
    if c.toNat < 0x20 then .error (.complaint .control (rest.length + 1))
    else readText opened rounds (c :: before) rest

/-- A text value from behind its opening quotation mark. -/
def readQuoted (rounds : Nat) (cs : List Char) : Parsed RawText := readText cs rounds [] cs

/-- The digits of a whole number: a single zero, or digits that do not start with one. -/
def spanWhole : List Char → List Char × List Char
  | '0' :: rest => (['0'], rest)
  | cs => Decimal.spanDigits cs

/-- The part of a number behind its point, if the point is followed by a digit. -/
def spanFraction : List Char → List Char × List Char
  | '.' :: rest => if startsWithDigit rest then Decimal.spanDigits rest else ([], '.' :: rest)
  | cs => ([], cs)

/-- A number; its value is whole unless it has a fraction or an exponent. -/
def readNumber (cs : List Char) : Parsed Json :=
  let (negative, body) := match cs with
    | '-' :: rest => (true, rest)
    | _ => (false, cs)
  let (whole, afterWhole) := spanWhole body
  if whole.isEmpty then .error (.complaint .value cs.length)
  else
    let (fraction, afterFraction) := spanFraction afterWhole
    let (exponent, rest) := Decimal.readExponent afterFraction
    if fraction.isEmpty && rest.length = afterFraction.length then
      if whole.length > maxDigits then .error (.numeral whole.length)
      else .ok (.int (signed negative (Decimal.digitsValue whole)), rest)
    else
      let decimal : Decimal :=
        ⟨negative, Decimal.digitsValue (whole ++ fraction), exponent - fraction.length⟩
      .ok (.real decimal.toFloat, rest)

/-- The values that are written as a word. -/
def words : List (List Char × Json) :=
  [("null".toList, .null), ("true".toList, .bool true), ("false".toList, .bool false),
   ("NaN".toList, .real (0.0 / 0.0)), ("Infinity".toList, .real (1.0 / 0.0)),
   ("-Infinity".toList, .real (-1.0 / 0.0))]

/-- The value whose word the text starts with, and what follows the word. -/
def readWord (cs : List Char) : Option (Json × List Char) :=
  words.findSome? fun w => (dropWord? w.1 cs).map fun rest => (w.2, rest)

mutual

/-- A value at the very front of the text, with at most `depth` arrays and objects within each
other. -/
def readValue : Nat → Nat → List Char → Parsed Json
  | 0, _, cs => .error (.complaint .value cs.length)
  | rounds + 1, depth, cs =>
    match cs with
    | [] => .error (.complaint .value 0)
    | '"' :: rest =>
      match readQuoted rounds rest with
      | .error stop => .error stop
      | .ok (s, after) => .ok (.text s, after)
    | '[' :: rest =>
      if depth = 0 then .error (.tooDeep .array)
      else match skipSpace rest with
        | ']' :: after => .ok (.array [], after)
        | items => readItems rounds (depth - 1) [] items
    | '{' :: rest =>
      if depth = 0 then .error (.tooDeep .object)
      else match skipSpace rest with
        | '}' :: after => .ok (.object [], after)
        | fields => readFields rounds (depth - 1) [] fields
    | _ =>
      match readWord cs with
      | some found => .ok found
      | none => readNumber cs

/-- The rest of an array from one of its items on; `before` holds the items so far, the last one
first. -/
def readItems : Nat → Nat → List Json → List Char → Parsed Json
  | 0, _, _, cs => .error (.complaint .value cs.length)
  | rounds + 1, depth, before, cs =>
    match readValue rounds depth cs with
    | .error stop => .error stop
    | .ok (item, rest) =>
      match skipSpace rest with
      | ']' :: after => .ok (.array (item :: before).reverse, after)
      | ',' :: after => readItems rounds depth (item :: before) (skipSpace after)
      | other => .error (.complaint .comma other.length)

/-- The rest of an object from one of its field names on, with the fields so far. -/
def readFields : Nat → Nat → List (RawText × Json) → List Char → Parsed Json
  | 0, _, _, cs => .error (.complaint .name cs.length)
  | rounds + 1, depth, fields, cs =>
    match cs with
    | '"' :: quoted =>
      match readQuoted rounds quoted with
      | .error stop => .error stop
      | .ok (name, rest) =>
        match skipSpace rest with
        | ':' :: value =>
          match readValue rounds depth (skipSpace value) with
          | .error stop => .error stop
          | .ok (v, rest) =>
            match skipSpace rest with
            | '}' :: after => .ok (.object (OrderedMap.put name v fields), after)
            | ',' :: after =>
              readFields rounds depth (OrderedMap.put name v fields) (skipSpace after)
            | other => .error (.complaint .comma other.length)
        | other => .error (.complaint .colon other.length)
    | _ => .error (.complaint .name cs.length)

end

/-- A value alone in its text, blanks aside.  Every second round takes a character. -/
def readChars (cs : List Char) : Except Stop Json :=
  match cs with
  | '\uFEFF' :: _ => .error (.complaint .byteOrderMark cs.length)
  | _ =>
    match readValue (2 * cs.length + 2) maxDepth (skipSpace cs) with
    | .error stop => .error stop
    | .ok (v, rest) =>
      match skipSpace rest with
      | [] => .ok v
      | other => .error (.complaint .extra other.length)

/-- Why a text is not a JSON value. -/
inductive ReadFault where
  | complaint (what : Complaint) (line column position : Nat)
  | numeral (digits : Nat)
  | tooDeep (nested : Nested)
  deriving DecidableEq, Repr

def ReadFault.message : ReadFault → String
  | .complaint what line column position =>
    s!"{what.message}: line {line} column {column} (char {position})"
  | .numeral digits => (Numeral.Fault.tooLong digits).message
  | .tooDeep nested =>
    s!"maximum recursion depth exceeded while decoding a JSON {nested.name} from a unicode string"

/-- The place in the text with `left` characters left: line and column from one, position from
zero. -/
def locate (what : Complaint) (cs : List Char) (left : Nat) : ReadFault :=
  let before := cs.take (cs.length - left)
  .complaint what (before.count '\n' + 1)
    ((before.reverse.takeWhile fun c => c ≠ '\n').length + 1) before.length

/-- Reads a JSON text. -/
def read (s : String) : Except ReadFault Json :=
  match readChars s.toList with
  | .ok v => .ok v
  | .error (.numeral digits) => .error (.numeral digits)
  | .error (.tooDeep nested) => .error (.tooDeep nested)
  | .error (.complaint what left) => .error (locate what s.toList left)

theorem position_le {what what' : Complaint} {cs : List Char} {left line column position : Nat}
    (h : locate what cs left = .complaint what' line column position) :
    position ≤ cs.length := by
  unfold locate at h
  cases h
  simp only [List.length_take]
  omega

end ProxyNode.Json
