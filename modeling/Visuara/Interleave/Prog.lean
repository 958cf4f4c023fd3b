/-
  Visuara.Interleave.Prog
  ───────────────────────
  **PROGRAMS OVER ATOMIC OPERATIONS.**

  A handler is a finite tree: it either returns, or performs ONE atomic
  operation and continues with that operation's result.  What an operation
  does is not fixed here, so the same tree is run to completion (`wp`), or
  step by step among other programs (`Visuara.Interleave.Machine`).

  Two reasoning principles, both structural on the tree:

    • `Prog.Follows Φ Ψ p h` — whatever the environment answers, every
      operation `p` performs is licensed by `Φ`, given the calls `h` it has
      already completed, and its result satisfies `Ψ`;
    • `Prog.wp exec A p Q s` — `p` run to completion from `s`, with no one
      else running, ends in `Q`.

  Both turn a `bind` into nesting of postconditions, so a handler's fact is
  assembled from the facts of the functions it calls.
-/
import Mathlib.Control.Basic
import Mathlib.Data.List.Basic

namespace Interleave

/-- A program over atomic operations `Op`, whose results have type `Res o`. -/
inductive Prog (Op : Type) (Res : Op → Type) (α : Type) : Type where
  /-- Finished. -/
  | ret (a : α)
  /-- Perform `o` atomically, then continue with its result. -/
  | call (o : Op) (k : Res o → Prog Op Res α)

/-- A completed operation with the result it returned. -/
structure Call (Op : Type) (Res : Op → Type) where
  op : Op
  res : Res op

instance {Op : Type} {Res : Op → Type} [DecidableEq Op] [∀ o, DecidableEq (Res o)] :
    DecidableEq (Call Op Res)
  | ⟨o, r⟩, ⟨o', r'⟩ =>
    match o', r', decEq o o' with
    | _, r', isTrue rfl => decidable_of_iff (r = r') (by simp)
    | _, _, isFalse h => isFalse fun heq => h (Call.mk.inj heq).1

namespace Prog

variable {Op : Type} {Res : Op → Type} {Draw σ α β γ : Type}

/-! ## §1. Sequencing. -/

/-- Run `p`, then `f` on its result. -/
protected def bind : Prog Op Res α → (α → Prog Op Res β) → Prog Op Res β
  | ret a, f => f a
  | call o k, f => call o (fun r => (k r).bind f)

instance : Monad (Prog Op Res) where
  pure := ret
  bind := Prog.bind

/-- Perform one operation and return its result. -/
def perform (o : Op) : Prog Op Res (Res o) := call o ret

@[simp] theorem ret_bind (a : α) (f : α → Prog Op Res β) :
    (ret a : Prog Op Res α) >>= f = f a := rfl

@[simp] theorem call_bind (o : Op) (k : Res o → Prog Op Res α) (f : α → Prog Op Res β) :
    (call o k) >>= f = call o (fun r => k r >>= f) := rfl

@[simp] theorem perform_bind (o : Op) (f : Res o → Prog Op Res β) :
    (perform o : Prog Op Res (Res o)) >>= f = call o f := rfl

@[simp] theorem map_ret (f : α → β) (a : α) :
    f <$> (ret a : Prog Op Res α) = ret (f a) := rfl

@[simp] theorem map_call (f : α → β) (o : Op) (k : Res o → Prog Op Res α) :
    f <$> (call o k) = call o (fun r => f <$> k r) := rfl

theorem bind_ret (p : Prog Op Res α) : p >>= (ret : α → Prog Op Res α) = p := by
  induction p with
  | ret a => rfl
  | call o k ih => exact congrArg (call o) (funext ih)

theorem bind_assoc' (p : Prog Op Res α) (f : α → Prog Op Res β) (g : β → Prog Op Res γ) :
    (p >>= f) >>= g = p >>= fun a => f a >>= g := by
  induction p with
  | ret a => rfl
  | call o k ih => exact congrArg (call o) (funext ih)

instance : LawfulMonad (Prog Op Res) :=
  LawfulMonad.mk' _ (fun p => bind_ret p) (fun _ _ => rfl) bind_assoc'

/-- The program has nothing left to do. -/
def done : Prog Op Res α → Bool
  | ret _ => true
  | call _ _ => false

/-! ## §2. What a program does, whatever the environment answers. -/

/-- Every operation of `p` is licensed by `Φ` given the calls completed so far
(newest first), and the result satisfies `Ψ`.  The results of the operations
are arbitrary: nothing is assumed about the other programs. -/
def Follows (Φ : List (Call Op Res) → Op → Prop) (Ψ : List (Call Op Res) → α → Prop) :
    Prog Op Res α → List (Call Op Res) → Prop
  | ret a, h => Ψ h a
  | call o k, h => Φ h o ∧ ∀ r, Follows Φ Ψ (k r) (⟨o, r⟩ :: h)

section Follows

variable {Φ : List (Call Op Res) → Op → Prop}

@[simp] theorem follows_ret (Ψ : List (Call Op Res) → α → Prop) (a : α) (h : List (Call Op Res)) :
    Follows Φ Ψ (ret a) h ↔ Ψ h a := Iff.rfl

@[simp] theorem follows_call (Ψ : List (Call Op Res) → α → Prop) (o : Op)
    (k : Res o → Prog Op Res α) (h : List (Call Op Res)) :
    Follows Φ Ψ (call o k) h ↔ Φ h o ∧ ∀ r, Follows Φ Ψ (k r) (⟨o, r⟩ :: h) := Iff.rfl

@[simp] theorem follows_pure (Ψ : List (Call Op Res) → α → Prop) (a : α) (h : List (Call Op Res)) :
    Follows Φ Ψ (pure a) h ↔ Ψ h a := Iff.rfl

@[simp] theorem follows_perform (o : Op) (Ψ : List (Call Op Res) → Res o → Prop)
    (h : List (Call Op Res)) :
    Follows Φ Ψ (perform o) h ↔ Φ h o ∧ ∀ r, Ψ (⟨o, r⟩ :: h) r := Iff.rfl

/-- The rule for sequencing. -/
@[simp] theorem follows_bind (Ψ : List (Call Op Res) → β → Prop) (p : Prog Op Res α)
    (f : α → Prog Op Res β) (h : List (Call Op Res)) :
    Follows Φ Ψ (p >>= f) h ↔ Follows Φ (fun h' a => Follows Φ Ψ (f a) h') p h := by
  induction p generalizing h with
  | ret a => rfl
  | call o k ih =>
    simp only [call_bind, follows_call]
    exact and_congr_right fun _ => forall_congr' fun r => ih r _

/-- The rule of consequence: a weaker licence, a weaker postcondition. -/
theorem Follows.mono {Φ' : List (Call Op Res) → Op → Prop} {Ψ Ψ' : List (Call Op Res) → α → Prop}
    {p : Prog Op Res α} {h : List (Call Op Res)}
    (hp : Follows Φ Ψ p h) (hΦ : ∀ h o, Φ h o → Φ' h o) (hΨ : ∀ h a, Ψ h a → Ψ' h a) :
    Follows Φ' Ψ' p h := by
  induction p generalizing h with
  | ret a => exact hΨ _ _ hp
  | call o k ih => exact ⟨hΦ _ _ hp.1, fun r => ih r (hp.2 r)⟩

/-- Every program does something. -/
theorem follows_trivial (p : Prog Op Res α) (h : List (Call Op Res)) :
    Follows (fun _ _ => True) (fun _ _ => True) p h := by
  induction p generalizing h with
  | ret a => trivial
  | call o k ih => exact ⟨trivial, fun r => ih r _⟩

/-- What has been done stays done. -/
theorem follows_suffix (p : Prog Op Res α) (h : List (Call Op Res)) :
    Follows (fun _ _ => True) (fun h' _ => h <:+ h') p h := by
  induction p generalizing h with
  | ret a => exact List.suffix_refl h
  | call o k ih =>
    refine ⟨trivial, fun r => (ih r _).mono (fun _ _ h => h) fun h' _ hsuffix => ?_⟩
    exact (List.suffix_cons _ h).trans hsuffix

/-- Both licences hold of what is licensed twice. -/
theorem Follows.and {Φ' : List (Call Op Res) → Op → Prop} {Ψ Ψ' : List (Call Op Res) → α → Prop}
    {p : Prog Op Res α} {h : List (Call Op Res)} (hp : Follows Φ Ψ p h) (hp' : Follows Φ' Ψ' p h) :
    Follows (fun h o => Φ h o ∧ Φ' h o) (fun h a => Ψ h a ∧ Ψ' h a) p h := by
  induction p generalizing h with
  | ret a => exact ⟨hp, hp'⟩
  | call o k ih => exact ⟨⟨hp.1, hp'.1⟩, fun r => ih r (hp.2 r) (hp'.2 r)⟩

/-- What is to hold at the end has been brought about by what is left to do, and
by what has been done. -/
theorem Follows.reaches {P : Op → Prop} {Ψ : List (Call Op Res) → α → Prop}
    {p : Prog Op Res α} {h g : List (Call Op Res)} (hres : ∀ o, Nonempty (Res o))
    (hp : Follows Φ Ψ p h) (hleft : Follows (fun _ o => ¬ P o) (fun _ _ => True) p g) :
    ∃ h' a, Ψ h' a ∧ ∀ c ∈ h', P c.op → c ∈ h := by
  induction p generalizing h g with
  | ret a => exact ⟨h, a, hp, fun _ hc _ => hc⟩
  | call o k ih =>
    obtain ⟨r⟩ := hres o
    obtain ⟨h', a, hΨ, hold⟩ := ih r (hp.2 r) (hleft.2 r)
    refine ⟨h', a, hΨ, fun c hc hP => ?_⟩
    rcases List.mem_cons.mp (hold c hc hP) with rfl | hc
    · exact absurd hP hleft.1
    · exact hc

end Follows

/-! ## §3. Running to completion, alone. -/

section Run

variable (exec : (o : Op) → Draw → σ → Res o × σ) (A : σ → Op → Draw → Prop)

/-- The big-step relation: `p` started in `s`, with nobody else running and
every draw of the environment admitted by `A`, returns `a` in state `s'`. -/
inductive Runs : Prog Op Res α → σ → α → σ → Prop where
  | ret (a : α) (s : σ) : Runs (ret a) s a s
  | call {o : Op} {k : Res o → Prog Op Res α} {s s' : σ} {a : α} (d : Draw) (hA : A s o d)
      (h : Runs (k (exec o d s).1) (exec o d s).2 a s') : Runs (call o k) s a s'

/-- The weakest precondition for `p` to end in `Q` when it runs alone. -/
def wp : Prog Op Res α → (α → σ → Prop) → σ → Prop
  | ret a, Q, s => Q a s
  | call o k, Q, s => ∀ d, A s o d → wp (k (exec o d s).1) Q (exec o d s).2

/-- Run `p` alone on the given draws, one for each operation; `none` when the
draws run out.  The executable counterpart of `Runs`. -/
def run : Prog Op Res α → List Draw → σ → Option (α × σ)
  | ret a, _, s => some (a, s)
  | call _ _, [], _ => none
  | call o k, d :: ds, s => run (k (exec o d s).1) ds (exec o d s).2

variable {exec A}

@[simp] theorem wp_ret (Q : α → σ → Prop) (a : α) (s : σ) :
    wp exec A (ret a : Prog Op Res α) Q s ↔ Q a s := Iff.rfl

@[simp] theorem wp_pure (Q : α → σ → Prop) (a : α) (s : σ) :
    wp exec A (pure a : Prog Op Res α) Q s ↔ Q a s := Iff.rfl

@[simp] theorem wp_call (Q : α → σ → Prop) (o : Op) (k : Res o → Prog Op Res α) (s : σ) :
    wp exec A (call o k) Q s ↔ ∀ d, A s o d → wp exec A (k (exec o d s).1) Q (exec o d s).2 := Iff.rfl

@[simp] theorem wp_perform (o : Op) (Q : Res o → σ → Prop) (s : σ) :
    wp exec A (perform o : Prog Op Res (Res o)) Q s
      ↔ ∀ d, A s o d → Q (exec o d s).1 (exec o d s).2 := Iff.rfl

/-- The rule for sequencing. -/
@[simp] theorem wp_bind (p : Prog Op Res α) (f : α → Prog Op Res β) (Q : β → σ → Prop) (s : σ) :
    wp exec A (p >>= f) Q s ↔ wp exec A p (fun a s' => wp exec A (f a) Q s') s := by
  induction p generalizing s with
  | ret a => rfl
  | call o k ih =>
    simp only [call_bind, wp_call]
    exact forall_congr' fun d => imp_congr_right fun _ => ih _ _

/-- The rule of consequence. -/
theorem wp_mono {p : Prog Op Res α} {Q Q' : α → σ → Prop} {s : σ}
    (hp : wp exec A p Q s) (hQ : ∀ a s, Q a s → Q' a s) : wp exec A p Q' s := by
  induction p generalizing s with
  | ret a => exact hQ _ _ hp
  | call o k ih => exact fun d hd => ih _ (hp d hd)

/-- `wp` speaks about exactly the completed runs. -/
theorem wp_sound {p : Prog Op Res α} {Q : α → σ → Prop} {s s' : σ} {a : α}
    (h : Runs exec A p s a s') (hp : wp exec A p Q s) : Q a s' := by
  induction h with
  | ret a s => exact hp
  | call d hA _ ih => exact ih (hp d hA)

/-- What `wp` says holds after every completed run, and nothing else does. -/
theorem wp_iff_runs {p : Prog Op Res α} {Q : α → σ → Prop} {s : σ} :
    wp exec A p Q s ↔ ∀ a s', Runs exec A p s a s' → Q a s' := by
  constructor
  · exact fun hp a s' h => wp_sound h hp
  · intro h
    induction p generalizing s with
    | ret a => exact h a s (.ret a s)
    | call o k ih => exact fun d hd => ih _ fun a s' hr => h a s' (.call d hd hr)

/-- An operation that has one outcome only. -/
theorem wp_settled {o : Op} {k : Res o → Prog Op Res α} {Q : α → σ → Prop} {s s' : σ} {r : Res o}
    (hsome : ∃ d, A s o d) (h : ∀ d, A s o d → exec o d s = (r, s')) :
    wp exec A (call o k) Q s ↔ wp exec A (k r) Q s' := by
  rw [wp_call]
  constructor
  · intro hp
    obtain ⟨d, hd⟩ := hsome
    have hnext := hp d hd
    rwa [h d hd] at hnext
  · intro hp d hd
    rwa [h d hd]

/-- **Every program runs to completion**, where each operation has a draw. -/
theorem exists_runs (hA : ∀ s o, ∃ d, A s o d) (p : Prog Op Res α) (s : σ) :
    ∃ a s', Runs exec A p s a s' := by
  induction p generalizing s with
  | ret a => exact ⟨a, s, .ret a s⟩
  | call o k ih =>
    obtain ⟨d, hd⟩ := hA s o
    obtain ⟨a, s', h⟩ := ih (exec o d s).1 (exec o d s).2
    exact ⟨a, s', .call d hd h⟩

theorem run_runs {p : Prog Op Res α} {ds : List Draw} (hA : ∀ s o, ∀ d ∈ ds, A s o d)
    {s s' : σ} {a : α} (h : run exec p ds s = some (a, s')) : Runs exec A p s a s' := by
  induction p generalizing ds s with
  | ret b =>
    simp only [run, Option.some.injEq, Prod.mk.injEq] at h
    obtain ⟨rfl, rfl⟩ := h
    exact .ret _ _
  | call o k ih =>
    cases ds with
    | nil => simp [run] at h
    | cons d ds =>
      refine .call d (hA _ _ d List.mem_cons_self) (ih _ ?_ h)
      exact fun s o d hd => hA s o d (List.mem_cons_of_mem _ hd)

/-- An invariant that every operation `p` may perform keeps, `p` keeps. -/
theorem wp_of_follows {I : σ → Prop} {P : Op → Prop} {p : Prog Op Res α} {h : List (Call Op Res)}
    (hp : Follows (fun _ o => P o) (fun _ _ => True) p h)
    (hI : ∀ s o d, P o → A s o d → I s → I (exec o d s).2) {s : σ} (hs : I s) :
    wp exec A p (fun _ s' => I s') s := by
  induction p generalizing h s with
  | ret a => exact hs
  | call o k ih => exact fun d hd => ih _ (hp.2 _) (hI s o d hp.1 hd hs)

/-- What every licensed operation keeps true of the calls completed so far and
the state, holds at the end of a run. -/
theorem wp_of_licensed {Φ : List (Call Op Res) → Op → Prop} {Ψ : List (Call Op Res) → α → Prop}
    {J : List (Call Op Res) → σ → Prop} {p : Prog Op Res α} {h : List (Call Op Res)}
    (hp : Follows Φ Ψ p h)
    (hJ : ∀ h s o d, Φ h o → A s o d → J h s → J (⟨o, (exec o d s).1⟩ :: h) (exec o d s).2)
    {s : σ} (hs : J h s) : wp exec A p (fun a s' => ∃ h', Ψ h' a ∧ J h' s') s := by
  induction p generalizing h s with
  | ret a => exact ⟨h, hp, hs⟩
  | call o k ih => exact fun d hd => ih _ (hp.2 _) (hJ h s o d hp.1 hd hs)

end Run

/-! ## §4. Early returns and loops. -/

/-- Both ways a fallible step can end. -/
theorem forall_except {ε : Type} {P : Except ε α → Prop} :
    (∀ r, P r) ↔ (∀ a, P (.ok a)) ∧ ∀ e, P (.error e) := by
  constructor
  · exact fun h => ⟨fun a => h (.ok a), fun e => h (.error e)⟩
  · rintro ⟨hok, herr⟩ (e | a)
    · exact herr e
    · exact hok a

/-- The rule for `for`-like traversals: each round keeps the invariant. -/
theorem follows_mapM {Φ : List (Call Op Res) → Op → Prop} (I : List (Call Op Res) → Prop)
    {f : β → Prog Op Res α} {l : List β}
    (hf : ∀ b ∈ l, ∀ h, I h → Follows Φ (fun h' _ => I h') (f b) h) {h : List (Call Op Res)}
    (hI : I h) : Follows Φ (fun h' _ => I h') (l.mapM f) h := by
  induction l generalizing h with
  | nil => exact hI
  | cons b l ih =>
    simp only [List.mapM_cons, follows_bind, follows_pure]
    refine (hf b List.mem_cons_self h hI).mono (fun _ _ h => h) fun h' a hI' => ?_
    exact (ih (fun b hb => hf b (List.mem_cons_of_mem _ hb)) hI').mono (fun _ _ h => h)
      fun _ _ h => h

/-- The rule for traversals that collect results: each result stands in `Q` to
its element, and what has been done since does not change that. -/
theorem follows_mapM_forall₂ {Φ : List (Call Op Res) → Op → Prop}
    {Q : List (Call Op Res) → β → α → Prop}
    (hQ : ∀ h h' b a, h <:+ h' → Q h b a → Q h' b a) {f : β → Prog Op Res α}
    (hf : ∀ b h, Follows Φ (fun h' a => Q h' b a) (f b) h) (l : List β) (h : List (Call Op Res)) :
    Follows Φ (fun h' as => List.Forall₂ (Q h') l as) (l.mapM f) h := by
  induction l generalizing h with
  | nil => exact .nil
  | cons b l ih =>
    simp only [List.mapM_cons, follows_bind, follows_pure]
    refine (hf b h).mono (fun _ _ h => h) fun h₁ a ha => ?_
    refine ((ih h₁).and (follows_suffix _ h₁)).mono (fun _ _ h => h.1) ?_
    rintro h₂ as ⟨has, hsuffix⟩
    exact .cons (hQ h₁ h₂ b a hsuffix ha) has

end Prog

end Interleave
