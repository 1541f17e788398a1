import ProxyNode.Text.Quoted

/-!
# Text — Raw

Texts as the panel may send them.  An escape can name half of a surrogate pair without the other
half.  Such a half is no character; it is kept where it stands, and a text that holds one has no
UTF-8 bytes.

* `encode_eq_ok_iff`: which texts have bytes, and what they are.
* `quote_whole`: a text without halves is quoted like any other text.
-/

namespace ProxyNode

/-- The UTF-8 bytes of a text. -/
def utf8 (s : String) : List UInt8 := s.toUTF8.data.toList

/-- Half of a surrogate pair, by its code unit. -/
structure Surrogate where
  code : Nat
  least : 0xD800 ≤ code
  most : code ≤ 0xDFFF
  deriving DecidableEq, Repr

/-- The half as an escape. -/
def Surrogate.escape (h : Surrogate) : List Char := '\\' :: 'u' :: Text.hexDigits 4 h.code

/-- What an escape can stand for. -/
inductive RawChar where
  | char (c : Char)
  | half (h : Surrogate)
  deriving DecidableEq, Repr

/-- Why a text has no bytes: the first half in it, the number of characters in front of that, and how
many halves follow each other from there. -/
structure Unencodable where
  half : Surrogate
  position : Nat
  row : Nat
  deriving DecidableEq, Repr

def Unencodable.message (u : Unencodable) : String :=
  if u.row = 1 then
    s!"'utf-8' codec can't encode character '{String.ofList u.half.escape}' in position {u.position}: surrogates not allowed"
  else
    s!"'utf-8' codec can't encode characters in position {u.position}-{u.position + u.row - 1}: surrogates not allowed"

/-- A text: all of it characters, or the characters up to the first half, the half, and the rest. -/
inductive RawText where
  | whole (s : String)
  | torn (before : String) (half : Surrogate) (after : RawText)
  deriving DecidableEq, Repr

namespace RawText

instance : Coe String RawText := ⟨whole⟩

/-- How many halves stand at the front of a text. -/
def lead : RawText → Nat
  | whole _ => 0
  | torn before _ after => if before = "" then after.lead + 1 else 0

/-- The bytes of a text. -/
def encode : RawText → Except Unencodable (List UInt8)
  | whole s => .ok (utf8 s)
  | torn before half after => .error ⟨half, before.length, after.lead + 1⟩

/-- The bytes of a text, none where it has none. -/
def bytes : RawText → List UInt8
  | whole s => utf8 s
  | torn .. => []

/-- The text if all of it is characters. -/
def whole? : RawText → Option String
  | whole s => some s
  | torn .. => none

/-- Whether all of a text is characters. -/
def isWhole (t : RawText) : Bool := t.whole?.isSome

/-- The characters of a text, its halves left out. -/
def chars : RawText → List Char
  | whole s => s.toList
  | torn before _ after => before.toList ++ after.chars

/-- What stands for a text between two marks `mark`. -/
def quoteBody (mark : Char) : RawText → List Char
  | whole s => s.toList.flatMap (Text.quoteChar mark)
  | torn before half after =>
    before.toList.flatMap (Text.quoteChar mark) ++ half.escape ++ after.quoteBody mark

/-- The text between quotation marks. -/
def quote (t : RawText) : String :=
  let mark := Text.quoteMark t.chars
  String.ofList (mark :: t.quoteBody mark ++ [mark])

/-- The text with its halves as escapes, which is how it gets into a log. -/
def shown : RawText → String
  | whole s => s
  | torn before half after => before ++ String.ofList half.escape ++ after.shown

/-- The texts of one character or one half that a text consists of. -/
def pieces : RawText → List RawText
  | whole s => s.toList.map fun c => whole (String.ofList [c])
  | torn before half after =>
    (before.toList.map fun c => whole (String.ofList [c])) ++ torn "" half "" :: after.pieces

theorem encode_eq_ok_iff {t : RawText} {b : List UInt8} :
    t.encode = .ok b ↔ t.isWhole = true ∧ b = t.bytes := by
  cases t with
  | whole s => simp [encode, isWhole, whole?, bytes, eq_comm]
  | torn before half after => simp [encode, isWhole, whole?]

theorem encode_of_isWhole {t : RawText} (h : t.isWhole = true) : t.encode = .ok t.bytes :=
  encode_eq_ok_iff.mpr ⟨h, rfl⟩

/-- A text with bytes is all characters. -/
theorem isWhole_of_bytes {t : RawText} (h : 0 < t.bytes.length) : t.isWhole = true := by
  cases t with
  | whole s => rfl
  | torn before half after => exact absurd h (Nat.lt_irrefl 0)

theorem quote_whole (s : String) : quote s = Text.quote s := rfl

end RawText

end ProxyNode
