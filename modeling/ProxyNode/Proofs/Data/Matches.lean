import Mathlib.Data.List.Forall2
import ProxyNode.Proofs.Data.OrderedMap

/-!
# Data — Matches, two maps with the same keys

Two maps that have the same keys in the same order, and related values.  What one does to both maps
alike leaves them so.

* `Matches.get?`: a key is bound in both or in neither.
* `Matches.insert`, `Matches.erase`: the same write to both.
* `matches_ofList`: two lists of bindings.
* `matches_eq_iff`: maps whose values are the same are the same.
-/

namespace ProxyNode.OrderedMap

variable {κ α : Type} {R : α → α → Prop}

/-- The same key, with related values. -/
def Bound (R : α → α → Prop) (b b' : κ × α) : Prop := b'.1 = b.1 ∧ R b.2 b'.2

/-- The same keys in the same order, with related values. -/
def Matches (R : α → α → Prop) (m m' : OrderedMap κ α) : Prop :=
  List.Forall₂ (Bound R) m.entries m'.entries

section Lists

variable [DecidableEq κ] {l l' : List (κ × α)}

theorem rel_find (h : List.Forall₂ (Bound R) l l') (k : κ) :
    Option.Rel R (find k l) (find k l') := by
  induction h with
  | nil => exact .none
  | cons hb _ ih =>
      rw [find, find, hb.1]
      split
      · exact .some hb.2
      · exact ih

theorem rel_put (h : List.Forall₂ (Bound R) l l') (k : κ) {v v' : α} (hv : R v v') :
    List.Forall₂ (Bound R) (put k v l) (put k v' l') := by
  induction h with
  | nil => exact .cons ⟨rfl, hv⟩ .nil
  | cons hb hrest ih =>
      rw [put, put, hb.1]
      split
      · exact .cons ⟨rfl, hv⟩ hrest
      · exact .cons ⟨rfl, hb.2⟩ ih

end Lists

namespace Matches

variable {m m' : OrderedMap κ α}

theorem keys (h : Matches R m m') : m'.keys = m.keys := by
  have hk : List.Forall₂ (· = ·) m.keys m'.keys := by
    rw [OrderedMap.keys, OrderedMap.keys, List.forall₂_map_left_iff, List.forall₂_map_right_iff]
    exact List.Forall₂.imp (fun _ _ hb => hb.1.symm) h
  rw [List.forall₂_eq_eq_eq] at hk
  exact hk.symm

theorem values (h : Matches R m m') : List.Forall₂ R m.values m'.values := by
  rw [OrderedMap.values, OrderedMap.values, List.forall₂_map_left_iff, List.forall₂_map_right_iff]
  exact List.Forall₂.imp (fun _ _ hb => hb.2) h

theorem size (h : Matches R m m') : m'.size = m.size := (List.Forall₂.length_eq h).symm

variable [DecidableEq κ]

theorem get? (h : Matches R m m') (k : κ) : Option.Rel R (m.get? k) (m'.get? k) := rel_find h k

theorem contains (h : Matches R m m') (k : κ) : m'.contains k = m.contains k := by
  have hg := h.get? k
  rw [OrderedMap.contains, OrderedMap.contains]
  generalize m.get? k = v, m'.get? k = v' at hg
  cases hg <;> rfl

theorem insert (h : Matches R m m') (k : κ) {v v' : α} (hv : R v v') :
    Matches R (m.insert k v) (m'.insert k v') :=
  rel_put h k hv

theorem erase (h : Matches R m m') (k : κ) : Matches R (m.erase k) (m'.erase k) :=
  List.rel_filter (fun b b' hb => by simp [hb.1]) h

end Matches

theorem matches_empty : Matches R (empty : OrderedMap κ α) empty := .nil

theorem matches_eq_iff {m m' : OrderedMap κ α} : Matches Eq m m' ↔ m' = m := by
  have he : (Bound Eq : κ × α → κ × α → Prop) = Eq := by
    funext b b'
    exact propext ⟨fun h => Prod.ext h.1.symm h.2, fun h => h ▸ ⟨rfl, rfl⟩⟩
  rw [Matches, he, List.forall₂_eq_eq_eq]
  exact ⟨fun h => ext h.symm, fun h => h ▸ rfl⟩

theorem matches_ofList [DecidableEq κ] {l l' : List (κ × α)}
    (h : List.Forall₂ (Bound R) l l') : Matches R (ofList l) (ofList l') :=
  List.rel_foldl (fun _ _ hm _ _ hb => by rw [hb.1]; exact hm.insert _ hb.2) matches_empty h

end ProxyNode.OrderedMap
