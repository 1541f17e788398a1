import ProxyNode.Json.Value
import ProxyNode.Number.Decimal

/-!
# Json — Whole

Whole numbers out of JSON values: a number loses its fraction, a truth value counts as zero or one,
and a text is read as a numeral.

* `whole_int`: a whole number is itself.
* `isInfinite_of_whole`: only an infinite number fails as too large.
-/

namespace ProxyNode.Json

/-- Why a value is not a whole number. -/
inductive NotWhole where
  | kind
  | numeral (fault : Numeral.Fault)
  | nan
  | infinite
  deriving DecidableEq, Repr

/-- The whole number that a value stands for. -/
def whole : Json → Except NotWhole Int
  | .bool b => .ok (if b then 1 else 0)
  | .int i => .ok i
  | .real x =>
    match Binary64.truncate x with
    | .ok i => .ok i
    | .error .nan => .error .nan
    | .error .infinite => .error .infinite
  | .text (.whole s) =>
    match Numeral.read s with
    | .ok i => .ok i
    | .error fault => .error (.numeral fault)
  | .text (.torn before half after) =>
    .error (.numeral (.malformed (RawText.torn before half after).shown))
  | .null | .array _ | .object _ => .error .kind

theorem whole_int (i : Int) : whole (.int i) = .ok i := rfl

theorem isInfinite_of_whole {v : Json} (h : whole v = .error .infinite) :
    ∃ x, v = .real x ∧ Binary64.truncate x = .error .infinite := by
  cases v with
  | real x =>
    refine ⟨x, rfl, ?_⟩
    simp only [whole] at h
    split at h
    · cases h
    · cases h
    · assumption
  | text s =>
    cases s with
    | whole s =>
      simp only [whole] at h
      split at h <;> cases h
    | torn before half after => cases h
  | bool b => cases h
  | int i => cases h
  | null => cases h
  | array items => cases h
  | object fields => cases h

end ProxyNode.Json
