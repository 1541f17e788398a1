import ProxyNode.Text.Printable

/-!
# Text — Quoted

A text between quotation marks, as it is shown inside a message.  Single quotes are used unless the
text has a single quote and no double one; the chosen quote, the backslash and all characters that
are not printable are escaped.

* `quote_of_plain`: a text without either quote, backslash or control is only put between quotes.
-/

namespace ProxyNode.Text

def hexDigit (n : Nat) : Char :=
  if n < 10 then Char.ofNat (48 + n) else Char.ofNat (87 + n)

/-- The last `width` hexadecimal digits of a number. -/
def hexDigits : Nat → Nat → List Char
  | 0, _ => []
  | width + 1, n => hexDigits width (n / 16) ++ [hexDigit (n % 16)]

/-- The escape of a character by its code point, in the shortest of the three forms that hold it. -/
def escapeCode (c : Char) : List Char :=
  if c.toNat < 0x100 then '\\' :: 'x' :: hexDigits 2 c.toNat
  else if c.toNat < 0x10000 then '\\' :: 'u' :: hexDigits 4 c.toNat
  else '\\' :: 'U' :: hexDigits 8 c.toNat

/-- One character of a text between two marks `mark`. -/
def quoteChar (mark c : Char) : List Char :=
  if c = mark ∨ c = '\\' then ['\\', c]
  else if c = '\n' then ['\\', 'n']
  else if c = '\r' then ['\\', 'r']
  else if c = '\t' then ['\\', 't']
  else if isPrintable c then [c]
  else escapeCode c

/-- The mark that a text is put between. -/
def quoteMark (cs : List Char) : Char :=
  if cs.contains '\'' && !cs.contains '"' then '"' else '\''

def quoteChars (cs : List Char) : List Char :=
  quoteMark cs :: cs.flatMap (quoteChar (quoteMark cs)) ++ [quoteMark cs]

/-- The text between quotation marks. -/
def quote (s : String) : String := String.ofList (quoteChars s.toList)

theorem flatMap_eq_self {f : Char → List Char} {cs : List Char} (h : ∀ c ∈ cs, f c = [c]) :
    cs.flatMap f = cs := by
  induction cs with
  | nil => rfl
  | cons c rest ih =>
    rw [List.flatMap_cons, h c (List.mem_cons_self ..),
      ih fun x hx => h x (List.mem_cons_of_mem _ hx)]
    rfl

theorem quote_of_plain {cs : List Char}
    (h : ∀ c ∈ cs, c ≠ '\'' ∧ c ≠ '\\' ∧ c ≠ '\n' ∧ c ≠ '\r' ∧ c ≠ '\t' ∧ isPrintable c) :
    quoteChars cs = '\'' :: cs ++ ['\''] := by
  have hm : quoteMark cs = '\'' := by
    have hn : '\'' ∉ cs := fun hc => (h _ hc).1 rfl
    simp [quoteMark, hn]
  have hf : cs.flatMap (quoteChar '\'') = cs := flatMap_eq_self fun c hc => by
    obtain ⟨h₁, h₂, h₃, h₄, h₅, h₆⟩ := h c hc
    simp [quoteChar, h₁, h₂, h₃, h₄, h₅, h₆]
  simp only [quoteChars, hm, hf]

end ProxyNode.Text
