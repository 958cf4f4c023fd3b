/-
  Visuara.Interleave.Outcome
  ──────────────────────────
  **ONE PROGRAM ALONE, IN A DECIDED ENVIRONMENT.**

  `Prog.Runs` lets the environment choose a draw at every operation.  Where a
  program performs no operation twice, all its choices can be made at once, as
  a function of the operation; its run is then a computation, `outcome`:

    • `runs_outcome`        — the outcome is a run;
    • `calls`               — what it has performed on the way;
    • `Runs.exists_outcome` — without repetitions every run is an outcome.

  A program that is killed on the way stops where its draws run out, `cut`.
-/
import Visuara.Interleave.Prog
import Mathlib.Logic.Function.Basic

namespace Interleave.Prog

variable {Op : Type} {Res : Op → Type} {Draw σ α β : Type}
variable (exec : (o : Op) → Draw → σ → Res o × σ)

/-! ## §1. The outcome. -/

/-- Run `p` alone, with `env o` as the draw of operation `o`. -/
def outcome (env : Op → Draw) : Prog Op Res α → σ → α × σ
  | ret a, s => (a, s)
  | call o k, s => outcome env (k (exec o (env o) s).1) (exec o (env o) s).2

variable {exec} {env : Op → Draw}

@[simp] theorem outcome_ret (a : α) (s : σ) :
    outcome exec env (ret a : Prog Op Res α) s = (a, s) := rfl

@[simp] theorem outcome_pure (a : α) (s : σ) :
    outcome exec env (pure a : Prog Op Res α) s = (a, s) := rfl

@[simp] theorem outcome_call (o : Op) (k : Res o → Prog Op Res α) (s : σ) :
    outcome exec env (call o k) s
      = outcome exec env (k (exec o (env o) s).1) (exec o (env o) s).2 := rfl

/-- The rule for sequencing. -/
@[simp] theorem outcome_bind (p : Prog Op Res α) (f : α → Prog Op Res β) (s : σ) :
    outcome exec env (p >>= f) s
      = outcome exec env (f (outcome exec env p s).1) (outcome exec env p s).2 := by
  induction p generalizing s with
  | ret a => rfl
  | call o k ih => exact ih _ _

theorem runs_outcome (p : Prog Op Res α) (s : σ) :
    Runs exec (fun _ o d => d = env o) p s (outcome exec env p s).1 (outcome exec env p s).2 := by
  induction p generalizing s with
  | ret a => exact .ret a s
  | call o k ih => exact .call (env o) rfl (ih _ _)

variable (exec env) in
/-- The calls of this run, in order. -/
def calls : Prog Op Res α → σ → List (Call Op Res)
  | ret _, _ => []
  | call o k, s => ⟨o, (exec o (env o) s).1⟩ :: calls (k (exec o (env o) s).1) (exec o (env o) s).2

theorem calls_call (o : Op) (k : Res o → Prog Op Res α) (s : σ) :
    calls exec env (call o k) s
      = ⟨o, (exec o (env o) s).1⟩ :: calls exec env (k (exec o (env o) s).1) (exec o (env o) s).2 := rfl

/-! ## §2. Programs without repetitions. -/

/-- After the calls `h`, no operation is performed a second time. -/
@[irreducible] def Once (p : Prog Op Res α) (h : List (Call Op Res)) : Prop :=
  Follows (fun h o => ∀ x ∈ h, x.op ≠ o) (fun _ _ => True) p h

theorem once_call {o : Op} {k : Res o → Prog Op Res α} {h : List (Call Op Res)} :
    Once (call o k) h ↔ (∀ x ∈ h, x.op ≠ o) ∧ ∀ r, Once (k r) (⟨o, r⟩ :: h) := by
  unfold Once
  rfl

theorem Once.ret {a : α} {h : List (Call Op Res)} : Once (.ret a : Prog Op Res α) h := by
  unfold Once
  trivial

theorem Once.call {o : Op} {k : Res o → Prog Op Res α} {h : List (Call Op Res)}
    (ho : ∀ x ∈ h, x.op ≠ o) (hk : ∀ r, Once (k r) (⟨o, r⟩ :: h)) : Once (.call o k) h :=
  once_call.mpr ⟨ho, hk⟩

/-- What has been performed already is not looked up again. -/
theorem outcome_update [DecidableEq Op] {p : Prog Op Res α} {h : List (Call Op Res)}
    (hp : Once p h) {o : Op} (ho : ∃ x ∈ h, x.op = o) (d : Draw) (s : σ) :
    outcome exec (Function.update env o d) p s = outcome exec env p s := by
  induction p generalizing h s with
  | ret a => rfl
  | call o' k ih =>
    obtain ⟨x, hx, hxo⟩ := ho
    obtain ⟨hnew, hp⟩ := once_call.mp hp
    have hne : o' ≠ o := fun heq => hnew x hx (hxo.trans heq.symm)
    have hrest (r : Res o') (s : σ) :
        outcome exec (Function.update env o d) (k r) s = outcome exec env (k r) s :=
      ih r (hp r) ⟨x, List.mem_cons_of_mem _ hx, hxo⟩ s
    rw [outcome_call, outcome_call, Function.update_of_ne hne, hrest]

/-- Every run of a program without repetitions is the outcome in some environment. -/
theorem Runs.exists_outcome [DecidableEq Op] [Nonempty Draw] {A : σ → Op → Draw → Prop}
    {p : Prog Op Res α} {h : List (Call Op Res)} (hp : Once p h) {s s' : σ} {a : α}
    (hrun : Runs exec A p s a s') : ∃ env, outcome exec env p s = (a, s') := by
  induction hrun generalizing h with
  | ret a s => exact ⟨fun _ => Classical.arbitrary Draw, rfl⟩
  | @call o k s s' a d hA hrun ih =>
    obtain ⟨-, hp⟩ := once_call.mp hp
    obtain ⟨env, henv⟩ := ih (hp _)
    -- the rest of the run does not come back to `o`
    refine ⟨Function.update env o d, ?_⟩
    rw [outcome_call, Function.update_self,
      outcome_update (hp (exec o d s).1) ⟨_, List.mem_cons_self, rfl⟩, henv]

/-! ## §3. Programs that are interrupted. -/

variable (exec) in
/-- Run `p` alone on the given draws, and stop when they run out: the calls
completed by then, newest first, and the state. -/
def cut : Prog Op Res α → List Draw → List (Call Op Res) × σ → List (Call Op Res) × σ
  | ret _, _, v => v
  | call _ _, [], v => v
  | call o k, d :: ds, v => cut (k (exec o d v.2).1) ds (⟨o, (exec o d v.2).1⟩ :: v.1, (exec o d v.2).2)

/-- What every licensed operation keeps true of the calls completed so far and
the state, holds wherever the program is interrupted. -/
theorem cut_of_licensed {Φ : List (Call Op Res) → Op → Prop} {Ψ : List (Call Op Res) → α → Prop}
    {J : List (Call Op Res) → σ → Prop} {p : Prog Op Res α} {v : List (Call Op Res) × σ}
    (hp : Follows Φ Ψ p v.1)
    (hJ : ∀ h s o d, Φ h o → J h s → J (⟨o, (exec o d s).1⟩ :: h) (exec o d s).2)
    (hv : J v.1 v.2) (draws : List Draw) :
    J (cut exec p draws v).1 (cut exec p draws v).2 := by
  induction p generalizing v draws with
  | ret a => exact hv
  | call o k ih =>
    cases draws with
    | nil => exact hv
    | cons d draws =>
      have hnext := hJ v.1 v.2 o d hp.1 hv
      exact ih _ (hp.2 _) hnext draws

end Interleave.Prog
