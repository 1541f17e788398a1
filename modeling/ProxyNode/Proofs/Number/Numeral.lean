import Mathlib.Logic.Function.Basic
import ProxyNode.Number.Numeral

/-!
# Number — Numeral, written and read back

The decimal text of a whole number is a numeral of that number.

* `readChars_toString`: reading the text of a number gives its sign, its size and its digits.
* `read_toString_iff`: a number is read back from its text just if it can be written out.
* `denoted_toString`: the text of a number denotes it, however long it is.
* `toString_injective`: two numbers have two texts.
-/

namespace ProxyNode.Numeral

open Text

/-- The digits of a natural number are ASCII digits. -/
theorem asciiDigit?_of_isDigit {c : Char} (h : c.isDigit = true) :
    asciiDigit? c = some (c.toNat - '0'.toNat) := by
  have hc : '0' ≤ c ∧ c ≤ '9' := by simpa [Char.isDigit, Char.le_def] using h
  rw [asciiDigit?, if_pos hc]
  rfl

/-- A run of digits is read to its end, whatever was read before it. -/
theorem digitRun_of_isDigit {cs : List Char} (h : ∀ c ∈ cs, c.isDigit = true)
    (value count : Nat) :
    digitRun value count cs = some (Nat.ofDigitChars 10 cs value, count + cs.length, []) := by
  induction cs generalizing value count with
  | nil => simp [digitRun]
  | cons c rest ih =>
      have hc : c.isDigit = true := h c List.mem_cons_self
      have hne : c ≠ '_' := by
        rintro rfl
        simp at hc
      rw [digitRun, asciiDigit?_of_isDigit hc]
      · dsimp only
        rw [ih fun d hd => h d (List.mem_cons_of_mem c hd), Nat.ofDigitChars_cons, List.length_cons,
          Nat.mul_comm, Nat.add_assoc, Nat.add_comm 1]
      · exact hne

theorem isDigit_of_mem_toDigits {n : Nat} {c : Char} (h : c ∈ Nat.toDigits 10 n) :
    c.isDigit = true :=
  Nat.isDigit_of_mem_toDigits (by decide) (by decide) h

theorem toNat_of_isDigit {c : Char} (h : c.isDigit = true) : 48 ≤ c.toNat ∧ c.toNat ≤ 57 := by
  simpa [Char.isDigit, Char.le_def, UInt32.le_iff_toNat_le] using h

/-- The text of a number is in ASCII, sign and all. -/
theorem plainNumeral_toString (v : Int) :
    plainNumeral (toString v)
      = (if 0 ≤ v then [] else ['-']) ++ Nat.toDigits 10 v.natAbs := by
  have hd (n : Nat) : (Nat.toDigits 10 n).map plainChar = Nat.toDigits 10 n := by
    refine (List.map_congr_left fun c hc => ?_).trans (List.map_id _)
    have := (toNat_of_isDigit (isDigit_of_mem_toDigits hc)).2
    exact plainChar_of_ascii (by omega)
  rw [plainNumeral, Int.toString_eq_repr, Int.repr_eq_if]
  split
  · have hv : v.toNat = v.natAbs := by omega
    rw [Nat.toList_repr, hd, hv, List.nil_append]
  · have hv : (-v).toNat = v.natAbs := by omega
    have hs : plainChar '-' = '-' := plainChar_of_ascii (by decide)
    rw [String.toList_append, Nat.toList_repr, List.map_append, hd, hv]
    simp [hs]

theorem splitSign_of_digit {c : Char} {cs : List Char} (h : c.isDigit = true) :
    splitSign (c :: cs) = (false, c :: cs) := by
  have h1 : c ≠ '-' := by rintro rfl; simp at h
  have h2 : c ≠ '+' := by rintro rfl; simp at h
  unfold splitSign
  split <;> simp_all

theorem not_isNumeralBlank_of_digit {c : Char} (h : c.isDigit = true) :
    isNumeralBlank c = false := by
  have := toNat_of_isDigit h
  by_contra hb
  simp only [isNumeralBlank, Bool.not_eq_false, Bool.or_eq_true, decide_eq_true_iff] at hb
  rcases hb with ((((rfl | rfl) | rfl) | rfl) | rfl) | rfl <;> simp at this

/-- Reading the text of a number gives its sign, its size and the number of its digits. -/
theorem readChars_toString (v : Int) :
    readChars (plainNumeral (toString v))
      = some (decide (v < 0), v.natAbs, (Nat.toDigits 10 v.natAbs).length, []) := by
  obtain ⟨c, cs, hc⟩ := List.exists_cons_of_ne_nil (Nat.toDigits_ne_nil (n := v.natAbs) (b := 10))
  have hd : ∀ d ∈ c :: cs, d.isDigit = true := fun d h => isDigit_of_mem_toDigits (hc ▸ h)
  have hdc : c.isDigit = true := hd c List.mem_cons_self
  have hrun : digitRun 0 0 (c :: cs) = some (v.natAbs, (c :: cs).length, []) := by
    rw [digitRun_of_isDigit hd, ← hc, Nat.ofDigitChars_ten_toDigits, Nat.zero_add]
  have hstart : startsWithDigit (c :: cs) = true := by
    rw [startsWithDigit, asciiDigit?_of_isDigit hdc]
    rfl
  rw [plainNumeral_toString, hc]
  by_cases hv : 0 ≤ v
  · have hneg : decide (v < 0) = false := decide_eq_false (by omega)
    rw [if_pos hv, List.nil_append, readChars,
      List.dropWhile_cons_of_neg (by simp [not_isNumeralBlank_of_digit hdc]),
      splitSign_of_digit hdc, hneg]
    dsimp only
    rw [if_pos hstart, hrun]
  · have hneg : decide (v < 0) = true := decide_eq_true (by omega)
    have hb : ¬ isNumeralBlank '-' = true := by decide
    rw [if_neg hv, List.singleton_append, readChars, List.dropWhile_cons_of_neg hb, splitSign, hneg]
    dsimp only
    rw [if_pos hstart, hrun]

theorem signed_natAbs (v : Int) : signed (decide (v < 0)) v.natAbs = v := by
  by_cases h : v < 0
  · simp only [signed, h, decide_true, if_true]
    omega
  · simp only [signed, h, decide_false, Bool.false_eq_true, if_false]
    omega

theorem length_toDigits_le_iff {n k : Nat} (hk : 0 < k) :
    (Nat.toDigits 10 n).length ≤ k ↔ n < powerOfTen k :=
  Nat.length_toDigits_le_iff (by decide) hk

/-- A number that can be written out is read back from its text. -/
theorem read_toString {v : Int} (h : isWritable v = true) : read (toString v) = .ok v := by
  have hlen : (Nat.toDigits 10 v.natAbs).length ≤ maxDigits :=
    (length_toDigits_le_iff (by decide)).mpr (of_decide_eq_true h)
  rw [read, readChars_toString]
  dsimp only
  rw [if_neg (Nat.not_lt.mpr hlen), signed_natAbs]
  rfl

/-- A number is read back from its text just if it can be written out. -/
theorem read_toString_iff {v : Int} : read (toString v) = .ok v ↔ isWritable v = true := by
  refine ⟨fun h => ?_, read_toString⟩
  rw [read, readChars_toString] at h
  dsimp only at h
  split at h
  · cases h
  · next hlen =>
    exact decide_eq_true ((length_toDigits_le_iff (by decide)).mp (Nat.not_lt.mp hlen))

/-- The number that a text denotes as a numeral, however long it is. -/
def denoted (s : String) : Option Int :=
  match readChars (plainNumeral s) with
  | none => none
  | some (negative, value, _, rest) =>
    if rest.all isNumeralBlank then some (signed negative value) else none

/-- A numeral that is read is read as the number that it denotes. -/
theorem denoted_of_read {s : String} {v : Int} (h : read s = .ok v) : denoted s = some v := by
  -- The two differ only where a numeral has too many digits, and there nothing is read.
  unfold read at h
  unfold denoted
  cases hs : readChars (plainNumeral s) with
  | none =>
      rw [hs] at h
      cases h
  | some parts =>
      obtain ⟨negative, value, count, rest⟩ := parts
      rw [hs] at h
      dsimp only at h ⊢
      split at h
      · cases h
      · split at h
        · next hrest =>
          cases h
          exact if_pos hrest
        · cases h

/-- The text of a number denotes it. -/
theorem denoted_toString (v : Int) : denoted (toString v) = some v := by
  rw [denoted, readChars_toString]
  dsimp only
  rw [signed_natAbs]
  rfl

/-- Two numbers have two texts. -/
theorem toString_injective : Function.Injective (toString : Int → String) := by
  intro v w h
  have hd : denoted (toString v) = denoted (toString w) := congrArg denoted h
  rw [denoted_toString, denoted_toString] at hd
  exact Option.some.inj hd

end ProxyNode.Numeral
