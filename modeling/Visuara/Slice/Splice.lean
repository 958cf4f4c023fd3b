/-
  Visuara.Slice.Splice
  ────────────────────
  **OVERWRITING A PART OF A LIST.**

  `splice l start u` is `l` with `u` written over it from `start` on.  What it
  does is said once, position by position (`getElem?_splice`).  `FirstAt l n p`
  says that `p` is the first position at which `n` occurs in `l`; writing behind
  that occurrence neither removes it nor makes an earlier one (`firstAt_splice`),
  since an earlier one would lie in front of what is written.
-/
import Mathlib.Data.List.Basic

namespace Slice

variable {α : Type} {l n u v : List α} {start p q i : Nat}

/-! ## §1. Overwriting. -/

/-- `l` with `u` written over it, from position `start` on. -/
def splice (l : List α) (start : Nat) (u : List α) : List α :=
  l.take start ++ u ++ l.drop (start + u.length)

theorem length_splice (h : start + u.length ≤ l.length) :
    (splice l start u).length = l.length := by
  simp only [splice, List.length_append, List.length_take, List.length_drop]
  omega

/-- **What stands where after overwriting.** -/
theorem getElem?_splice (h : start + u.length ≤ l.length) (i : Nat) :
    (splice l start u)[i]?
      = if i < start then l[i]? else if i < start + u.length then u[i - start]? else l[i]? := by
  have hlen : (l.take start).length = start := by
    rw [List.length_take]
    omega
  by_cases hi : i < start
  · rw [if_pos hi, splice, List.append_assoc, List.getElem?_append_left (by omega),
      List.getElem?_take_of_lt hi]
  · rw [if_neg hi, splice, List.append_assoc, List.getElem?_append_right (by omega), hlen]
    by_cases hu : i < start + u.length
    · rw [if_pos hu, List.getElem?_append_left (by omega)]
    · rw [if_neg hu, List.getElem?_append_right (by omega), List.getElem?_drop]
      congr 1
      omega

/-- Only what is overwritten changes. -/
theorem splice_changes (h : start + u.length ≤ l.length)
    (hi : (splice l start u)[i]? ≠ l[i]?) : start ≤ i ∧ i < start + u.length := by
  rw [getElem?_splice h] at hi
  by_cases hlt : i < start
  · exact absurd (by rw [if_pos hlt]) hi
  · by_cases hu : i < start + u.length
    · exact ⟨Nat.le_of_not_lt hlt, hu⟩
    · exact absurd (by rw [if_neg hlt, if_neg hu]) hi

/-- What has been written can be read again. -/
theorem take_drop_splice (h : start + u.length ≤ l.length) :
    ((splice l start u).drop start).take u.length = u := by
  have hlen : (l.take start).length = start := by
    rw [List.length_take]
    omega
  rw [splice, List.append_assoc, List.drop_append_of_le_length (by omega),
    List.drop_of_length_le (by omega), List.nil_append, List.take_left]

/-- A second write of the same length leaves nothing of the first. -/
theorem splice_splice (h : start + u.length ≤ l.length) (hv : v.length = u.length) :
    splice (splice l start u) start v = splice l start v := by
  have hlen := length_splice h
  apply List.ext_getElem?
  intro i
  have hsecond := @getElem?_splice _ (splice l start u) v start (by omega) i
  have hdirect := @getElem?_splice _ l v start (by omega) i
  rw [hsecond, hdirect, getElem?_splice h, hv]
  by_cases hi : i < start
  · simp only [if_pos hi]
  · by_cases hu : i < start + u.length
    · simp only [if_neg hi, if_pos hu]
    · simp only [if_neg hi, if_neg hu]

/-- Writing what stands there changes nothing. -/
theorem splice_self (h : start + u.length ≤ l.length) (hu : (l.drop start).take u.length = u) :
    splice l start u = l := by
  rw [splice, ← hu, List.length_take, List.length_drop, List.append_assoc]
  rw [show start + min u.length (l.length - start) = start + u.length by omega]
  rw [← List.drop_drop, List.take_append_drop, List.take_append_drop]

/-! ## §2. The first occurrence. -/

/-- `n` occurs in `l` at position `p`. -/
def OccursAt (l n : List α) (p : Nat) : Prop := n <+: l.drop p

theorem occursAt_iff : OccursAt l n p ↔ ∀ i, i < n.length → l[p + i]? = n[i]? := by
  rw [OccursAt, List.prefix_iff_getElem?]
  constructor
  · intro h i hi
    rw [← List.getElem?_drop, h i hi, List.getElem?_eq_getElem hi]
  · intro h i hi
    rw [List.getElem?_drop, h i hi, List.getElem?_eq_getElem hi]

theorem OccursAt.le_length (h : OccursAt l n p) (hn : n ≠ []) : p + n.length ≤ l.length := by
  have hpos := List.length_pos_iff.mpr hn
  have hlen := h.length_le
  rw [List.length_drop] at hlen
  omega

/-- An occurrence in front of what is written is one in the list before. -/
theorem occursAt_splice (h : start + u.length ≤ l.length) (hp : p + n.length ≤ start) :
    OccursAt (splice l start u) n p ↔ OccursAt l n p := by
  rw [occursAt_iff, occursAt_iff]
  apply forall_congr'
  intro i
  apply imp_congr_right
  intro hi
  rw [getElem?_splice h, if_pos (by omega)]

/-- `p` is the first position at which `n` occurs in `l`. -/
def FirstAt (l n : List α) (p : Nat) : Prop := OccursAt l n p ∧ ∀ q, q < p → ¬ OccursAt l n q

theorem FirstAt.le (h : FirstAt l n p) (hq : OccursAt l n q) : p ≤ q :=
  Nat.le_of_not_lt fun hlt => h.2 q hlt hq

theorem FirstAt.unique (hp : FirstAt l n p) (hq : FirstAt l n q) : p = q :=
  Nat.le_antisymm (hp.le hq.1) (hq.le hp.1)

/-- **Writing behind the first occurrence keeps it the first.** -/
theorem firstAt_splice (h : start + u.length ≤ l.length) (hp : p + n.length ≤ start) :
    FirstAt (splice l start u) n p ↔ FirstAt l n p := by
  rw [FirstAt, FirstAt, occursAt_splice h hp]
  apply and_congr_right
  intro _
  apply forall_congr'
  intro q
  apply imp_congr_right
  intro hq
  -- an earlier occurrence ends before this one does, so it lies in front
  rw [occursAt_splice h (by omega)]

/-! ## §3. The front of a list. -/

theorem occursAt_take {k : Nat} : OccursAt (l.take k) n q ↔ OccursAt l n q ∧ n.length ≤ k - q := by
  rw [OccursAt, OccursAt, List.drop_take, List.prefix_take_iff]

/-- The first occurrence stays the first where the front holds it. -/
theorem firstAt_take {k : Nat} (h : FirstAt l n p) (hk : p + n.length ≤ k) :
    FirstAt (l.take k) n p := by
  refine ⟨occursAt_take.mpr ⟨h.1, by omega⟩, fun q hq hocc => ?_⟩
  exact h.2 q hq (occursAt_take.mp hocc).1

/-- Where the front does not hold it, there is no other. -/
theorem not_occursAt_take {k : Nat} (h : FirstAt l n p) (hk : k < p + n.length) (hn : n ≠ []) :
    ¬ OccursAt (l.take k) n q := by
  intro hocc
  obtain ⟨hq, hlen⟩ := occursAt_take.mp hocc
  have hle := h.le hq
  have hpos := List.length_pos_iff.mpr hn
  omega

end Slice
