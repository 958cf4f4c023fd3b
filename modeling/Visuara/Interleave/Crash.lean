/-
  Visuara.Interleave.Crash
  ────────────────────────
  **PROGRAMS THAT MAY BE KILLED.**

  `Cuts exec A p s s'`: started in `s`, alone, `p` may be killed in `s'`.
  `crash exec A C p Q s`: it keeps `C` wherever it is killed, and ends in `Q`
  if it is not.  It is a `wp` with a condition for every point on the way, and
  has its rules:

    • `crash_bind`, `crash_mono` — sequencing and consequence;
    • `crash_of_follows` — an invariant of every operation it performs;
    • `crash_via` — a program over a part of the state, with the rest as frame;
    • `Cuts.crash`, `Runs.crash` — what it says about runs.
-/
import Visuara.Interleave.Outcome

namespace Interleave.Prog

variable {Op Op' : Type} {Res : Op → Type} {Res' : Op' → Type} {Draw σ σ' α β : Type}

section

variable (exec : (o : Op) → Draw → σ → Res o × σ) (A : σ → Op → Draw → Prop)

/-- Where `p` may be killed, the end included. -/
inductive Cuts : Prog Op Res α → σ → σ → Prop where
  | here (p : Prog Op Res α) (s : σ) : Cuts p s s
  | call {o : Op} {k : Res o → Prog Op Res α} {s s' : σ} (d : Draw) (hA : A s o d)
      (h : Cuts (k (exec o d s).1) (exec o d s).2 s') : Cuts (call o k) s s'

def crash (C : σ → Prop) : Prog Op Res α → (α → σ → Prop) → σ → Prop
  | ret a, Q, s => C s ∧ Q a s
  | call o k, Q, s => C s ∧ ∀ d, A s o d → crash C (k (exec o d s).1) Q (exec o d s).2

variable {exec A} {C C' : σ → Prop} {s s' : σ}

/-- It may be killed right away. -/
theorem crash_here {p : Prog Op Res α} {Q : α → σ → Prop} (h : crash exec A C p Q s) : C s := by
  cases p with
  | ret a => exact h.1
  | call o k => exact h.1

/-- The rule of consequence. -/
theorem crash_mono {p : Prog Op Res α} {Q Q' : α → σ → Prop} (h : crash exec A C p Q s)
    (hC : ∀ s, C s → C' s) (hQ : ∀ a s, Q a s → Q' a s) : crash exec A C' p Q' s := by
  induction p generalizing s with
  | ret a => exact ⟨hC s h.1, hQ a s h.2⟩
  | call o k ih => exact ⟨hC s h.1, fun d hd => ih _ (h.2 d hd)⟩

/-- The rule for sequencing. -/
theorem crash_bind {p : Prog Op Res α} {f : α → Prog Op Res β} {Q : β → σ → Prop}
    (h : crash exec A C p (fun a s' => crash exec A C (f a) Q s') s) :
    crash exec A C (p >>= f) Q s := by
  induction p generalizing s with
  | ret a => exact h.2
  | call o k ih => exact ⟨h.1, fun d hd => ih _ (h.2 d hd)⟩

/-- What every operation of `p` keeps, holds wherever it is killed and at the end. -/
theorem crash_of_follows {P : Op → Prop} {p : Prog Op Res α} {h : List (Call Op Res)}
    (hp : Follows (fun _ o => P o) (fun _ _ => True) p h)
    (hC : ∀ s o d, P o → A s o d → C s → C (exec o d s).2) (hs : C s) :
    crash exec A C p (fun _ s => C s) s := by
  induction p generalizing h s with
  | ret a => exact ⟨hs, hs⟩
  | call o k ih => exact ⟨hs, fun d hd => ih _ (hp.2 _) (hC s o d hp.1 hd hs)⟩

/-- **Wherever it is killed**, the condition holds. -/
theorem Cuts.crash {p : Prog Op Res α} {Q : α → σ → Prop} (hcut : Cuts exec A p s s')
    (h : crash exec A C p Q s) : C s' := by
  induction hcut with
  | here p s => exact crash_here h
  | call d hA _ ih => exact ih (h.2 d hA)

/-- **When it returns**, the postcondition holds. -/
theorem Runs.crash {p : Prog Op Res α} {Q : α → σ → Prop} {a : α} (hrun : Runs exec A p s a s')
    (h : crash exec A C p Q s) : Q a s' := by
  induction hrun with
  | ret a s => exact h.2
  | call d hA _ ih => exact ih (h.2 d hA)

/-- Where it stops when its draws run out, it may be killed. -/
theorem cuts_cut {p : Prog Op Res α} {draws : List Draw} {calls : List (Call Op Res)}
    (hA : ∀ s o, ∀ d ∈ draws, A s o d) : Cuts exec A p s (cut exec p draws (calls, s)).2 := by
  induction p generalizing s draws calls with
  | ret a => exact .here _ s
  | call o k ih =>
    cases draws with
    | nil => exact .here _ s
    | cons d draws =>
      refine .call d (hA s o d List.mem_cons_self) (ih _ ?_)
      exact fun s o d hd => hA s o d (List.mem_cons_of_mem _ hd)

end

/-! ## §1. A part of the state. -/

/-- The program with `f o` in place of `o`. -/
def via (f : Op → Op') (back : (o : Op) → Res' (f o) → Res o) : Prog Op Res α → Prog Op' Res' α
  | ret a => ret a
  | call o k => call (f o) fun r => via f back (k (back o r))

theorem follows_via {f : Op → Op'} {back : (o : Op) → Res' (f o) → Res o} {P : Op' → Prop}
    (hP : ∀ o, P (f o)) (p : Prog Op Res α) (h : List (Call Op' Res')) :
    Follows (fun _ o => P o) (fun _ _ => True) (via f back p) h := by
  induction p generalizing h with
  | ret a => trivial
  | call o k ih => exact ⟨hP o, fun r => ih _ _⟩

/-- What a program does on its part of the state (`R`), while the rest keeps `I`. -/
theorem crash_via {exec : (o : Op) → Draw → σ → Res o × σ}
    {exec' : (o : Op') → Draw → σ' → Res' o × σ'} {A : σ' → Op' → Draw → Prop} {f : Op → Op'}
    {back : (o : Op) → Res' (f o) → Res o} {R : σ' → σ → Prop} {I : σ' → Prop}
    (hR : ∀ o d s' s, R s' s → back o (exec' (f o) d s').1 = (exec o d s).1
      ∧ R (exec' (f o) d s').2 (exec o d s).2)
    (hI : ∀ o d s', I s' → I (exec' (f o) d s').2) {p : Prog Op Res α} {Q : α → σ → Prop} {s : σ}
    {s' : σ'} (hp : wp exec (fun _ _ _ => True) p Q s) (hs : R s' s) (hs' : I s') :
    crash exec' A I (via f back p) (fun a s' => (∃ s, R s' s ∧ Q a s) ∧ I s') s' := by
  induction p generalizing s s' with
  | ret a => exact ⟨hs', ⟨s, hs, hp⟩, hs'⟩
  | call o k ih =>
    refine ⟨hs', fun d _ => ?_⟩
    obtain ⟨hres, hnext⟩ := hR o d s' s hs
    show crash exec' A I (via f back (k (back o (exec' (f o) d s').1))) _ _
    rw [hres]
    exact ih _ (hp d trivial) hnext (hI o d s' hs')

end Interleave.Prog
