import ProxyNode.Text.CaseTable

/-!
# Text — Case

Lower and upper case of a text in any script.  A letter may become several, and a capital sigma is
written as a final one where it ends a word.

* `lower_ascii`, `upper_ascii`: on ASCII letters both are the familiar shift by 32.
-/

namespace ProxyNode.Text

/-- The code point a table of runs maps `n` to, `n` itself if it is in no run. -/
def mapRuns : List CaseRun → Nat → Nat
  | [], n => n
  | r :: rest, n =>
    if r.first ≤ n ∧ n ≤ r.last ∧ (n - r.first) % r.step = 0 then (n + r.shift).toNat
    else mapRuns rest n

/-- One character under a case mapping. -/
def mapCase (runs : List CaseRun) (expansions : List (Nat × List Nat)) (c : Char) : List Char :=
  match expansions.lookup c.toNat with
  | some several => several.map Char.ofNat
  | none => [Char.ofNat (mapRuns runs c.toNat)]

def lowerChar (c : Char) : List Char :=
  if c.toNat < 128 then [c.toLower] else mapCase lowerRuns lowerExpansions c

def upperChar (c : Char) : List Char :=
  if c.toNat < 128 then [c.toUpper] else mapCase upperRuns upperExpansions c

/-- Whether the nearest character that shows a case, those that a word's case passes over left
out, exists in the list. -/
def meetsCased (cs : List Char) : Bool :=
  match cs.dropWhile (inSpans caseIgnorableSpans) with
  | [] => false
  | c :: _ => inSpans casedSpans c

/-- The lower case of a capital sigma between the characters `before` it, nearest first, and those
after it. -/
def lowerSigma (before after : List Char) : Char :=
  if meetsCased before && !meetsCased after then 'ς' else 'σ'

/-- The lower case of a text whose part `before`, nearest character first, is already read. -/
def lowerFrom (before : List Char) : List Char → List Char
  | [] => []
  | c :: rest =>
    (if c = 'Σ' then [lowerSigma before rest] else lowerChar c) ++ lowerFrom (c :: before) rest

def lower (s : String) : String := String.ofList (lowerFrom [] s.toList)

def upper (s : String) : String := String.ofList (s.toList.flatMap upperChar)

theorem lower_ascii {c : Char} (h : c.toNat < 128) : lowerChar c = [c.toLower] := if_pos h

theorem upper_ascii {c : Char} (h : c.toNat < 128) : upperChar c = [c.toUpper] := if_pos h

end ProxyNode.Text
