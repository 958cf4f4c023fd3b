/-
  Visuara.Sequence.Preceded
  ─────────────────────────
  **WHAT COMES BEFORE WHAT.**

  In a list that grows at its end, everything of one kind may come after
  something of another kind.  It is enough to look at what is appended
  (`Preceded.append`), and then holds of everything that was read from the list
  in order (`Preceded.getElem?`).
-/
import Mathlib.Data.List.Basic

namespace Sequence

variable {α : Type} {P Q : α → Prop} {l l' : List α}

/-- Before everything of kind `P` there is something of kind `Q`. -/
def Preceded (P Q : α → Prop) (l : List α) : Prop :=
  ∀ l₁ x l₂, l = l₁ ++ x :: l₂ → P x → ∃ q ∈ l₁, Q q

theorem preceded_nil : Preceded P Q ([] : List α) :=
  fun _ _ _ h => absurd h (by simp)

/-- What is appended has its predecessor, in the list or with what is appended. -/
theorem Preceded.append (h : Preceded P Q l)
    (h' : ∀ l₁ x l₂, l' = l₁ ++ x :: l₂ → P x → ∃ q ∈ l ++ l₁, Q q) : Preceded P Q (l ++ l') := by
  intro l₁ x l₂ heq hx
  rcases List.append_eq_append_iff.mp heq with ⟨m, rfl, hm⟩ | ⟨m, rfl, hm⟩
  · exact h' m x l₂ hm hx
  · cases m with
    | nil =>
      obtain ⟨q, hq, hQ⟩ := h' [] x l₂ hm.symm hx
      exact ⟨q, by simpa using hq, hQ⟩
    | cons y m =>
      obtain ⟨rfl, -⟩ := List.cons.inj hm
      exact h l₁ x m rfl hx

/-- One more element. -/
theorem Preceded.concat (h : Preceded P Q l) {x : α} (hx : P x → ∃ q ∈ l, Q q) :
    Preceded P Q (l ++ [x]) := by
  refine h.append fun l₁ y l₂ heq hy => ?_
  cases l₁ with
  | nil =>
    obtain ⟨rfl, -⟩ := List.cons.inj heq
    simpa using hx hy
  | cons z l₁ => exact absurd (List.cons.inj heq).2 (by simp)

/-- Nothing of kind `P` is appended. -/
theorem Preceded.append_none (h : Preceded P Q l) (h' : ∀ x ∈ l', ¬ P x) : Preceded P Q (l ++ l') := by
  refine h.append fun l₁ x l₂ heq hx => absurd hx (h' x ?_)
  rw [heq]
  exact List.mem_append_right _ List.mem_cons_self

/-- If nothing of kind `P` is there, nothing is missing. -/
theorem preceded_of_none (h : ∀ x ∈ l, ¬ P x) : Preceded P Q l := by
  rw [← List.nil_append l]
  exact preceded_nil.append_none h

/-- What is at place `i` has its predecessor before place `i`. -/
theorem Preceded.getElem? (h : Preceded P Q l) {i : Nat} {x : α} (hi : l[i]? = some x) (hx : P x) :
    ∃ q ∈ l.take i, Q q := by
  obtain ⟨hlt, rfl⟩ := List.getElem?_eq_some_iff.mp hi
  have hsplit : l = l.take i ++ l[i] :: l.drop (i + 1) := by
    rw [← List.drop_eq_getElem_cons hlt, List.take_append_drop]
  exact h _ _ _ hsplit hx

/-- What is among the first `k` has its predecessor there. -/
theorem Preceded.take (h : Preceded P Q l) {k : Nat} {x : α} (hx : x ∈ l.take k) (hP : P x) :
    ∃ q ∈ l.take k, Q q := by
  obtain ⟨l₁, l₂, hl⟩ := List.append_of_mem hx
  have hsplit : l = l₁ ++ x :: (l₂ ++ l.drop k) := by
    rw [← List.cons_append, ← List.append_assoc, ← hl, List.take_append_drop]
  obtain ⟨q, hq, hQ⟩ := h l₁ x _ hsplit hP
  refine ⟨q, ?_, hQ⟩
  rw [hl]
  exact List.mem_append_left _ hq

/-- An element, and another of its kind before it. -/
theorem two_le_countP {p : α → Bool} {i : Nat} {x q : α} (hi : l[i]? = some x) (hx : p x = true)
    (hq : q ∈ l.take i) (hpq : p q = true) : 2 ≤ l.countP p := by
  obtain ⟨hlt, rfl⟩ := List.getElem?_eq_some_iff.mp hi
  have hsplit : l = l.take i ++ l[i] :: l.drop (i + 1) := by
    rw [← List.drop_eq_getElem_cons hlt, List.take_append_drop]
  have hpos : 0 < (l.take i).countP p := List.countP_pos_iff.mpr ⟨q, hq, hpq⟩
  rw [hsplit, List.countP_append, List.countP_cons_of_pos hx]
  omega

/-- Whatever is there, has been taken, is taken next or later. -/
theorem take_of_getElem? {i : Nat} {x : α} (hi : l[i]? = some x) : l.take (i + 1) = l.take i ++ [x] := by
  rw [List.take_add_one, hi]
  rfl

end Sequence
