/-!
# Text — Span

Sets of characters given as a list of spans of code points.
-/

namespace ProxyNode.Text

/-- The code points from the first to the second, both included. -/
abbrev Span := Nat × Nat

def inSpans (spans : List Span) (c : Char) : Bool :=
  spans.any fun s => s.1 ≤ c.toNat && c.toNat ≤ s.2

theorem inSpans_iff {spans : List Span} {c : Char} :
    inSpans spans c ↔ ∃ s ∈ spans, s.1 ≤ c.toNat ∧ c.toNat ≤ s.2 := by
  simp [inSpans]

end ProxyNode.Text
