/-
  Visuara.Interleave.Machine
  ──────────────────────────
  **A POOL OF PROGRAMS THAT SHARE A STATE.**

  A `System` says what an atomic operation does (`exec`), which program each
  task runs (`body`), when a task may start (`admits`) and which tasks are
  never run at the same time (`conflict`).  A `World` holds the shared state,
  the log of everything that happened (newest first) and the running jobs.

  `Step` interleaves the jobs freely: any job may perform its next operation
  at any moment, new tasks may start, the environment may disturb the state.
  `Serial` is the opposite discipline: one task after the other, each from
  start to finish.

    • `Reachable.invariant`  — induction over runs;
    • `Reachable.split_log`  — every event of the log was produced by a step
      from a reachable world whose log is what precedes it;
    • `Reachable.follows`    — a job's remaining program keeps to its protocol,
      given the calls the job itself made (`Prog.Follows`);
    • `Serial.reachable`     — a serial run is one of the interleavings.
-/
import Visuara.Interleave.Prog
import Mathlib.Logic.Function.Basic
import Mathlib.Logic.Relation

namespace Interleave

/-- One thing that happened in a run. -/
inductive Event (Op : Type) (Res : Op → Type) (Task Env : Type) where
  /-- Task `t` started as job `j`. -/
  | start (j : Nat) (t : Task)
  /-- Job `j`, running task `t`, completed a call. -/
  | call (j : Nat) (t : Task) (c : Call Op Res)
  /-- The environment disturbed the state. -/
  | env (e : Env)

instance {Op : Type} {Res : Op → Type} {Task Env : Type} [DecidableEq (Call Op Res)]
    [DecidableEq Task] [DecidableEq Env] : DecidableEq (Event Op Res Task Env)
  | .start j t, .start j' t' => decidable_of_iff (j = j' ∧ t = t') (by simp)
  | .call j t c, .call j' t' c' => decidable_of_iff (j = j' ∧ t = t' ∧ c = c') (by simp)
  | .env e, .env e' => decidable_of_iff (e = e') (by simp)
  | .start .., .call .. | .start .., .env _ | .call .., .start .. | .call .., .env _
  | .env _, .start .. | .env _, .call .. => isFalse nofun

/-- The shared state, with the log (newest first) and the next job number. -/
structure View (Op : Type) (Res : Op → Type) (σ Task Env : Type) where
  st : σ
  log : List (Event Op Res Task Env)
  next : Nat

/-- A view and the jobs of the pool. -/
structure World (Op : Type) (Res : Op → Type) (σ Task Env α : Type)
    extends View Op Res σ Task Env where
  jobs : Nat → Option (Task × Prog Op Res α)

/-- Shared-state programs: the meaning of operations and tasks. -/
structure System (Op : Type) (Res : Op → Type) (Draw σ Task Env α : Type) where
  /-- One atomic operation; what is random or may fail is in the draw. -/
  exec : (o : Op) → Draw → σ → Res o × σ
  /-- The program of a task. -/
  body : Task → Prog Op Res α
  /-- When a task may start. -/
  admits : Task → σ → Bool
  /-- The change of state that comes with the start. -/
  begins : Task → σ → σ
  /-- Tasks that never run at the same time. -/
  conflict : Task → Task → Bool
  /-- What the environment does to the state, at any moment. -/
  disturb : Env → σ → σ
  /-- Whether that ends every running job. -/
  kills : Env → Bool

section

variable {Op : Type} {Res : Op → Type} {Draw σ Task Env α : Type}

/-- What a run assumes about the draws, given everything that happened. -/
abbrev Assumption (Op : Type) (Res : Op → Type) (Draw Task Env : Type) :=
  List (Event Op Res Task Env) → Op → Draw → Bool

/-! ## §1. The log. -/

/-- The calls of job `j`, newest first. -/
def hist (j : Nat) : List (Event Op Res Task Env) → List (Call Op Res)
  | [] => []
  | .call i _ c :: l => if i = j then c :: hist j l else hist j l
  | _ :: l => hist j l

@[simp] theorem hist_nil (j : Nat) : hist j ([] : List (Event Op Res Task Env)) = [] := rfl

@[simp] theorem hist_start (j i : Nat) (t : Task) (l : List (Event Op Res Task Env)) :
    hist j (.start i t :: l) = hist j l := rfl

@[simp] theorem hist_env (j : Nat) (e : Env) (l : List (Event Op Res Task Env)) :
    hist j (.env e :: l) = hist j l := rfl

@[simp] theorem hist_own (j : Nat) (t : Task) (c : Call Op Res) (l : List (Event Op Res Task Env)) :
    hist j (.call j t c :: l) = c :: hist j l := by
  simp [hist]

theorem hist_other {j i : Nat} (h : i ≠ j) (t : Task) (c : Call Op Res)
    (l : List (Event Op Res Task Env)) : hist j (.call i t c :: l) = hist j l := by
  simp [hist, h]

/-- A call of the job's history is an event of the log. -/
theorem mem_of_mem_hist {j : Nat} {c : Call Op Res} {l : List (Event Op Res Task Env)}
    (h : c ∈ hist j l) : ∃ t, Event.call j t c ∈ l := by
  induction l with
  | nil => simp at h
  | cons e l ih =>
    cases e with
    | start i t =>
      obtain ⟨t', ht⟩ := ih h
      exact ⟨t', List.mem_cons_of_mem _ ht⟩
    | env e =>
      obtain ⟨t', ht⟩ := ih h
      exact ⟨t', List.mem_cons_of_mem _ ht⟩
    | call i t c' =>
      by_cases hij : i = j
      · subst hij
        rw [hist_own] at h
        rcases List.mem_cons.mp h with rfl | h
        · exact ⟨t, List.mem_cons_self⟩
        · obtain ⟨t', ht⟩ := ih h
          exact ⟨t', List.mem_cons_of_mem _ ht⟩
      · rw [hist_other hij] at h
        obtain ⟨t', ht⟩ := ih h
        exact ⟨t', List.mem_cons_of_mem _ ht⟩

/-- A call of the log is in its job's history. -/
theorem mem_hist {j : Nat} {t : Task} {c : Call Op Res} {l : List (Event Op Res Task Env)}
    (h : Event.call j t c ∈ l) : c ∈ hist j l := by
  induction l with
  | nil => exact absurd h List.not_mem_nil
  | cons e l ih =>
    rcases List.mem_cons.mp h with rfl | hm
    · rw [hist_own]
      exact List.mem_cons_self
    · cases e with
      | start i t' => exact ih hm
      | env e => exact ih hm
      | call i t' c' =>
        by_cases hij : i = j
        · subst hij
          rw [hist_own]
          exact List.mem_cons_of_mem _ (ih hm)
        · rw [hist_other hij]
          exact ih hm

/-! ## §2. Steps and runs. -/

/-- The world in which nothing has happened yet. -/
def World.initial (s : σ) : World Op Res σ Task Env α := ⟨⟨s, [], 0⟩, fun _ => none⟩

namespace System

variable (S : System Op Res Draw σ Task Env α) (A : Assumption Op Res Draw Task Env)

/-- Start `t` as the next job. -/
def startView (t : Task) (v : View Op Res σ Task Env) : View Op Res σ Task Env :=
  ⟨S.begins t v.st, .start v.next t :: v.log, v.next + 1⟩

/-- Perform `o` for job `j` and log it. -/
def callView (j : Nat) (t : Task) (o : Op) (d : Draw) (v : View Op Res σ Task Env) :
    Res o × View Op Res σ Task Env :=
  ((S.exec o d v.st).1,
   ⟨(S.exec o d v.st).2, .call j t ⟨o, (S.exec o d v.st).1⟩ :: v.log, v.next⟩)

/-- Let the environment act and log it. -/
def envView (e : Env) (v : View Op Res σ Task Env) : View Op Res σ Task Env :=
  ⟨S.disturb e v.st, .env e :: v.log, v.next⟩

/-- No unfinished job of `w` conflicts with `t`. -/
def Free (t : Task) (w : World Op Res σ Task Env α) : Prop :=
  ∀ j t' p, w.jobs j = some (t', p) → S.conflict t t' = true → p.done = true

/-- One step of the pool. -/
inductive Step : World Op Res σ Task Env α → World Op Res σ Task Env α → Prop where
  | start {w : World Op Res σ Task Env α} (t : Task) (hadm : S.admits t w.st = true)
      (hfree : S.Free t w) :
      Step w ⟨S.startView t w.toView, Function.update w.jobs w.next (some (t, S.body t))⟩
  | call {w : World Op Res σ Task Env α} {j : Nat} {t : Task} {o : Op} {k : Res o → Prog Op Res α}
      (d : Draw) (hj : w.jobs j = some (t, .call o k)) (hA : A w.log o d = true) :
      Step w ⟨(S.callView j t o d w.toView).2,
              Function.update w.jobs j (some (t, k (S.callView j t o d w.toView).1))⟩
  | env {w : World Op Res σ Task Env α} (e : Env) :
      Step w ⟨S.envView e w.toView, if S.kills e then fun _ => none else w.jobs⟩

/-- Runs of the pool from `w₀`, under the assumption `A` on the draws. -/
abbrev Reachable (w₀ w : World Op Res σ Task Env α) : Prop :=
  Relation.ReflTransGen (S.Step A) w₀ w

/-- A task that was run from start to finish: the state it found, its result,
and the state it left. -/
structure Turn (σ Task α : Type) where
  task : Task
  before : σ
  result : α
  after : σ

/-- Serial runs from `s₀` with draws that satisfy `B`, and the turns they
consist of, newest first. -/
inductive Serial (B : Op → Draw → Bool) (s₀ : σ) : List (Turn σ Task α) → σ → Prop where
  | start : Serial B s₀ [] s₀
  | turn {l : List (Turn σ Task α)} {s s' : σ} {a : α} (h : Serial B s₀ l s) (t : Task)
      (hadm : S.admits t s = true)
      (hrun : Prog.Runs S.exec (fun _ o d => B o d = true) (S.body t) (S.begins t s) a s') :
      Serial B s₀ (⟨t, s, a, s'⟩ :: l) s'
  | env {l : List (Turn σ Task α)} {s : σ} (h : Serial B s₀ l s) (e : Env) :
      Serial B s₀ l (S.disturb e s)

/-! ## §3. Facts of every run. -/

variable {S A}

/-- Every step adds exactly one event. -/
theorem Step.log_eq {w w' : World Op Res σ Task Env α} (h : S.Step A w w') :
    ∃ e, w'.log = e :: w.log := by
  cases h with
  | start t _ _ => exact ⟨_, rfl⟩
  | call d _ _ => exact ⟨_, rfl⟩
  | env e => exact ⟨_, rfl⟩

/-- **Induction over runs.**  What holds at the start and is kept by every step
from a reachable world, holds in every reachable world. -/
theorem Reachable.invariant {w₀ : World Op Res σ Task Env α}
    (I : World Op Res σ Task Env α → Prop) (h0 : I w₀)
    (hstep : ∀ w w', S.Reachable A w₀ w → I w → S.Step A w w' → I w')
    {w : World Op Res σ Task Env α} (h : S.Reachable A w₀ w) : I w := by
  induction h with
  | refl => exact h0
  | tail hr hs ih => exact hstep _ _ hr ih hs

/-- The log only grows, at its front. -/
theorem Reachable.log_suffix {w w' : World Op Res σ Task Env α} (h : S.Reachable A w w') :
    ∃ l, w'.log = l ++ w.log := by
  induction h with
  | refl => exact ⟨[], rfl⟩
  | tail _ hs ih =>
    obtain ⟨l, hl⟩ := ih
    obtain ⟨e, he⟩ := hs.log_eq
    exact ⟨e :: l, by rw [he, hl]; rfl⟩

theorem Reachable.mem_log {w w' : World Op Res σ Task Env α} (h : S.Reachable A w w')
    {e : Event Op Res Task Env} (he : e ∈ w.log) : e ∈ w'.log := by
  obtain ⟨l, hl⟩ := h.log_suffix
  rw [hl]
  exact List.mem_append_right l he

/-- **Every event has its moment**: it was produced by one step, from a
reachable world whose log is exactly what precedes the event. -/
theorem Reachable.split_log {s : σ} {w : World Op Res σ Task Env α}
    (h : S.Reachable A (World.initial s) w) :
    ∀ {l₁ l₂ : List (Event Op Res Task Env)} {e : Event Op Res Task Env},
      w.log = l₁ ++ e :: l₂ →
      ∃ w₁ w₂, S.Reachable A (World.initial s) w₁ ∧ S.Step A w₁ w₂ ∧ S.Reachable A w₂ w
        ∧ w₁.log = l₂ ∧ w₂.log = e :: l₂ := by
  induction h with
  | refl => intro l₁ l₂ e he; simp [World.initial] at he
  | @tail w w' hr hs ih =>
    intro l₁ l₂ e he
    obtain ⟨e', he'⟩ := hs.log_eq
    rw [he'] at he
    cases l₁ with
    | nil =>
      obtain ⟨rfl, rfl⟩ := List.cons.inj he
      exact ⟨w, w', hr, hs, .refl, rfl, he'⟩
    | cons a l₁ =>
      obtain ⟨-, hl⟩ := List.cons.inj he
      obtain ⟨w₁, w₂, h1, h2, h3, h4, h5⟩ := ih hl
      exact ⟨w₁, w₂, h1, h2, h3.tail hs, h4, h5⟩

/-- The same, for an event somewhere in the log. -/
theorem Reachable.moment {s : σ} {w : World Op Res σ Task Env α}
    (h : S.Reachable A (World.initial s) w) {e : Event Op Res Task Env} (he : e ∈ w.log) :
    ∃ w₁ w₂, S.Reachable A (World.initial s) w₁ ∧ S.Step A w₁ w₂ ∧ S.Reachable A w₂ w
      ∧ w₂.log = e :: w₁.log := by
  obtain ⟨l₁, l₂, hl⟩ := List.append_of_mem he
  obtain ⟨w₁, w₂, h1, h2, h3, h4, h5⟩ := h.split_log hl
  exact ⟨w₁, w₂, h1, h2, h3, by rw [h4, h5]⟩

/-- What happened later happened in a world reached from here. -/
theorem Reachable.moment_after {w w' : World Op Res σ Task Env α} (h : S.Reachable A w w')
    {e : Event Op Res Task Env} (he : e ∈ w'.log) (hnew : e ∉ w.log) :
    ∃ w₁ w₂, S.Reachable A w w₁ ∧ S.Step A w₁ w₂ ∧ S.Reachable A w₂ w' ∧ w₂.log = e :: w₁.log := by
  induction h with
  | refl => exact absurd he hnew
  | @tail w₁ w₂ hr hs ih =>
    obtain ⟨e', hlog⟩ := hs.log_eq
    rw [hlog] at he
    rcases List.mem_cons.mp he with rfl | he
    · exact ⟨w₁, w₂, hr, hs, .refl, hlog⟩
    · obtain ⟨u₁, u₂, h1, hstep, h2, hlog'⟩ := ih he
      exact ⟨u₁, u₂, h1, hstep, h2.tail hs, hlog'⟩

/-- A step that logs a call is that call: it was performed by its job, on the
state of that moment. -/
theorem Step.of_call {w w' : World Op Res σ Task Env α} (h : S.Step A w w')
    {j : Nat} {t : Task} {c : Call Op Res} (hlog : w'.log = .call j t c :: w.log) :
    ∃ (d : Draw) (k : Res c.op → Prog Op Res α), w.jobs j = some (t, .call c.op k)
      ∧ A w.log c.op d = true ∧ c.res = (S.exec c.op d w.st).1
      ∧ w'.st = (S.exec c.op d w.st).2
      ∧ w'.jobs = Function.update w.jobs j (some (t, k c.res)) := by
  cases h with
  | start t' _ _ => simp [startView] at hlog
  | env e => simp [envView] at hlog
  | call d hj hA =>
    simp only [callView, List.cons.injEq, Event.call.injEq, and_true] at hlog
    obtain ⟨rfl, rfl, rfl⟩ := hlog
    exact ⟨d, _, hj, hA, rfl, rfl, rfl⟩

/-! ## §4. Job numbers and the tasks they belong to. -/

/-- Numbers are handed out in order, and a job keeps its task. -/
structure Numbered (w : World Op Res σ Task Env α) : Prop where
  job_lt : ∀ j t p, w.jobs j = some (t, p) → j < w.next
  start_lt : ∀ j t, Event.start j t ∈ w.log → j < w.next
  job_start : ∀ j t p, w.jobs j = some (t, p) → Event.start j t ∈ w.log
  call_start : ∀ j t c, Event.call j t c ∈ w.log → Event.start j t ∈ w.log
  start_unique : ∀ j t t', Event.start j t ∈ w.log → Event.start j t' ∈ w.log → t = t'

theorem numbered_initial (s : σ) :
    Numbered (World.initial s : World Op Res σ Task Env α) where
  job_lt := by simp [World.initial]
  start_lt := by simp [World.initial]
  job_start := by simp [World.initial]
  call_start := by simp [World.initial]
  start_unique := by simp [World.initial]

theorem Step.numbered {w w' : World Op Res σ Task Env α} (h : S.Step A w w')
    (hw : Numbered w) : Numbered w' := by
  cases h with
  | start t _ _ =>
    refine ⟨?_, ?_, ?_, ?_, ?_⟩
    · intro j t' p hj
      show j < w.next + 1
      by_cases hjn : j = w.next
      · omega
      · have := hw.job_lt j t' p (by simpa [Function.update_of_ne hjn] using hj)
        omega
    · intro j t' hj
      show j < w.next + 1
      rcases List.mem_cons.mp hj with h | h
      · injection h with h1 _
        omega
      · have := hw.start_lt j t' h
        omega
    · intro j t' p hj
      by_cases hjn : j = w.next
      · subst hjn
        simp only [Function.update_self, Option.some.injEq, Prod.mk.injEq] at hj
        obtain ⟨rfl, -⟩ := hj
        exact List.mem_cons_self
      · exact List.mem_cons_of_mem _ (hw.job_start j t' p (by
          simpa [Function.update_of_ne hjn] using hj))
    · intro j t' c hc
      rcases List.mem_cons.mp hc with h | h
      · exact absurd h (by simp)
      · exact List.mem_cons_of_mem _ (hw.call_start j t' c h)
    · intro j t₁ t₂ h1 h2
      rcases List.mem_cons.mp h1 with h1 | h1 <;> rcases List.mem_cons.mp h2 with h2 | h2
      · injection h1 with _ h1
        injection h2 with _ h2
        rw [h1, h2]
      · injection h1 with h1 _
        have := hw.start_lt j t₂ h2
        omega
      · injection h2 with h2 _
        have := hw.start_lt j t₁ h1
        omega
      · exact hw.start_unique j t₁ t₂ h1 h2
  | @call i t o k d hj hA =>
    have hi := hw.job_start i t _ hj
    have hold : ∀ j t', Event.start j t' ∈ (S.callView i t o d w.toView).2.log →
        Event.start j t' ∈ w.log := by
      intro j t' h
      rcases List.mem_cons.mp h with h | h
      · exact absurd h (by simp)
      · exact h
    refine ⟨?_, fun j t' h => hw.start_lt j t' (hold j t' h), ?_, ?_,
      fun j t₁ t₂ h1 h2 => hw.start_unique j t₁ t₂ (hold j t₁ h1) (hold j t₂ h2)⟩
    · intro j t' p hjp
      by_cases hji : j = i
      · subst hji
        exact hw.job_lt j t _ hj
      · exact hw.job_lt j t' p (by simpa [Function.update_of_ne hji] using hjp)
    · intro j t' p hjp
      by_cases hji : j = i
      · subst hji
        simp only [Function.update_self, Option.some.injEq, Prod.mk.injEq] at hjp
        obtain ⟨rfl, -⟩ := hjp
        exact List.mem_cons_of_mem _ hi
      · exact List.mem_cons_of_mem _ (hw.job_start j t' p (by
          simpa [Function.update_of_ne hji] using hjp))
    · intro j t' c hc
      rcases List.mem_cons.mp hc with h | h
      · injection h with h1 h2 _
        subst h1 h2
        exact List.mem_cons_of_mem _ hi
      · exact List.mem_cons_of_mem _ (hw.call_start j t' c h)
  | env e =>
    have hold : ∀ j t', Event.start j t' ∈ (S.envView e w.toView).log →
        Event.start j t' ∈ w.log := by
      intro j t' h
      rcases List.mem_cons.mp h with h | h
      · exact absurd h (by simp)
      · exact h
    have hjobs : ∀ j t' p, (if S.kills e then fun _ => none else w.jobs) j = some (t', p) →
        w.jobs j = some (t', p) := by
      intro j t' p h
      split at h
      · exact absurd h (by simp)
      · exact h
    refine ⟨fun j t' p h => hw.job_lt j t' p (hjobs j t' p h),
      fun j t' h => hw.start_lt j t' (hold j t' h),
      fun j t' p h => List.mem_cons_of_mem _ (hw.job_start j t' p (hjobs j t' p h)), ?_,
      fun j t₁ t₂ h1 h2 => hw.start_unique j t₁ t₂ (hold j t₁ h1) (hold j t₂ h2)⟩
    intro j t' c hc
    rcases List.mem_cons.mp hc with h | h
    · exact absurd h (by simp)
    · exact List.mem_cons_of_mem _ (hw.call_start j t' c h)

theorem Reachable.numbered {s : σ} {w : World Op Res σ Task Env α}
    (h : S.Reachable A (World.initial s) w) : Numbered w :=
  Reachable.invariant Numbered (numbered_initial s) (fun _ _ _ hw hs => hs.numbered hw) h

/-- All calls of one job belong to one task. -/
theorem Reachable.call_task {s : σ} {w : World Op Res σ Task Env α}
    (h : S.Reachable A (World.initial s) w) {j : Nat} {t t' : Task} {c c' : Call Op Res}
    (hc : Event.call j t c ∈ w.log) (hc' : Event.call j t' c' ∈ w.log) : t = t' :=
  h.numbered.start_unique j t t' (h.numbered.call_start j t c hc)
    (h.numbered.call_start j t' c' hc')

/-- A job not yet numbered has made no call. -/
theorem Numbered.hist_next {w : World Op Res σ Task Env α} (hw : Numbered w) :
    hist w.next w.log = [] := by
  by_contra hne
  obtain ⟨c, hc⟩ := List.exists_mem_of_ne_nil _ hne
  obtain ⟨t, ht⟩ := mem_of_mem_hist hc
  have := hw.start_lt _ t (hw.call_start _ t c ht)
  omega

/-! ## §5. Jobs keep to their protocol. -/

/-- **What a task's program follows alone, its job follows in the pool.** -/
theorem Reachable.follows {Φ : Task → List (Call Op Res) → Op → Prop}
    {Ψ : Task → List (Call Op Res) → α → Prop}
    (hbody : ∀ t, Prog.Follows (Φ t) (Ψ t) (S.body t) []) {s : σ}
    {w : World Op Res σ Task Env α} (h : S.Reachable A (World.initial s) w) :
    ∀ j t p, w.jobs j = some (t, p) → Prog.Follows (Φ t) (Ψ t) p (hist j w.log) := by
  induction h with
  | refl => intro j t p hj; simp [World.initial] at hj
  | @tail w w' hr hs ih =>
    have hn := Reachable.numbered hr
    intro j t p hj
    cases hs with
    | start t' _ _ =>
      by_cases hjn : j = w.next
      · subst hjn
        simp only [Function.update_self, Option.some.injEq, Prod.mk.injEq] at hj
        obtain ⟨rfl, rfl⟩ := hj
        show Prog.Follows _ _ _ (hist w.next (.start w.next t' :: w.log))
        rw [hist_start, hn.hist_next]
        exact hbody t'
      · exact ih j t p (by simpa [Function.update_of_ne hjn] using hj)
    | @call i t' o k d hi hA =>
      by_cases hji : j = i
      · subst hji
        simp only [Function.update_self, Option.some.injEq, Prod.mk.injEq] at hj
        obtain ⟨rfl, rfl⟩ := hj
        show Prog.Follows _ _ _ (hist j (.call j t' ⟨o, _⟩ :: w.log))
        rw [hist_own]
        exact (ih j t' _ hi).2 _
      · show Prog.Follows _ _ _ (hist j (.call i t' _ :: w.log))
        rw [hist_other (fun h => hji h.symm)]
        exact ih j t p (by simpa [Function.update_of_ne hji] using hj)
    | env e =>
      refine ih j t p ?_
      simp only at hj
      split at hj
      · exact absurd hj (by simp)
      · exact hj

/-- **Every logged call was licensed** by what its job had done before. -/
theorem Reachable.licensed {Φ : Task → List (Call Op Res) → Op → Prop}
    {Ψ : Task → List (Call Op Res) → α → Prop}
    (hbody : ∀ t, Prog.Follows (Φ t) (Ψ t) (S.body t) []) {s : σ}
    {w : World Op Res σ Task Env α} (h : S.Reachable A (World.initial s) w)
    {l₁ l₂ : List (Event Op Res Task Env)} {j : Nat} {t : Task} {c : Call Op Res}
    (hlog : w.log = l₁ ++ .call j t c :: l₂) : Φ t (hist j l₂) c.op := by
  obtain ⟨w₁, w₂, h1, hs, -, h4, h5⟩ := h.split_log hlog
  have hlog₂ : w₂.log = .call j t c :: w₁.log := by rw [h5, h4]
  obtain ⟨d, k, hj, -⟩ := hs.of_call hlog₂
  have := (Reachable.follows hbody h1 j t _ hj).1
  rwa [h4] at this

/-! ## §6. Conflicting tasks never run together. -/

/-- Of two conflicting jobs, one has finished. -/
def Exclusive (S : System Op Res Draw σ Task Env α) (w : World Op Res σ Task Env α) : Prop :=
  ∀ i j ti tj pi pj, i ≠ j → w.jobs i = some (ti, pi) → w.jobs j = some (tj, pj) →
    S.conflict ti tj = true → pi.done = true ∨ pj.done = true

theorem Reachable.exclusive (hsymm : ∀ t t', S.conflict t t' = S.conflict t' t) {s : σ}
    {w : World Op Res σ Task Env α} (h : S.Reachable A (World.initial s) w) : S.Exclusive w := by
  induction h with
  | refl => intro i j ti tj pi pj _ hi; simp [World.initial] at hi
  | @tail w w' hr hs ih =>
    have hn := Reachable.numbered hr
    intro i j ti tj pi pj hij hi hj hc
    cases hs with
    | start t hadm hfree =>
      dsimp only at hi hj
      by_cases hin : i = w.next
      · subst hin
        simp only [Function.update_self, Option.some.injEq, Prod.mk.injEq] at hi
        obtain ⟨rfl, -⟩ := hi
        rw [Function.update_of_ne (fun h => hij h.symm)] at hj
        exact .inr (hfree j tj pj hj hc)
      · rw [Function.update_of_ne hin] at hi
        by_cases hjn : j = w.next
        · subst hjn
          simp only [Function.update_self, Option.some.injEq, Prod.mk.injEq] at hj
          obtain ⟨rfl, -⟩ := hj
          exact .inl (hfree i ti pi hi (by rw [hsymm]; exact hc))
        · rw [Function.update_of_ne hjn] at hj
          exact ih i j ti tj pi pj hij hi hj hc
    | @call m t o k d hm hA =>
      dsimp only at hi hj
      by_cases him : i = m
      · subst him
        simp only [Function.update_self, Option.some.injEq, Prod.mk.injEq] at hi
        obtain ⟨rfl, rfl⟩ := hi
        rw [Function.update_of_ne (fun h => hij h.symm)] at hj
        rcases ih i j t tj _ pj hij hm hj hc with h | h
        · exact absurd h (by simp [Prog.done])
        · exact .inr h
      · rw [Function.update_of_ne him] at hi
        by_cases hjm : j = m
        · subst hjm
          simp only [Function.update_self, Option.some.injEq, Prod.mk.injEq] at hj
          obtain ⟨rfl, rfl⟩ := hj
          rcases ih i j ti t pi _ hij hi hm hc with h | h
          · exact .inl h
          · exact absurd h (by simp [Prog.done])
        · rw [Function.update_of_ne hjm] at hj
          exact ih i j ti tj pi pj hij hi hj hc
    | env e =>
      simp only at hi hj
      split at hi
      · exact absurd hi (by simp)
      · rename_i hk
        rw [if_neg hk] at hj
        exact ih i j ti tj pi pj hij hi hj hc

/-! ## §7. Serial runs are interleavings. -/

/-- Running a program alone is a sequence of steps of its job. -/
theorem runs_reachable {B : Op → Draw → Bool} (j : Nat) (t : Task) {p : Prog Op Res α} {s s' : σ}
    {a : α} (h : Prog.Runs S.exec (fun _ o d => B o d = true) p s a s') :
    ∀ (u : View Op Res σ Task Env) (jobs : Nat → Option (Task × Prog Op Res α)), u.st = s →
      jobs j = some (t, p) → ∃ u', u'.st = s' ∧ u'.next = u.next
        ∧ S.Reachable (fun _ o d => B o d) ⟨u, jobs⟩
          ⟨u', Function.update jobs j (some (t, .ret a))⟩ := by
  induction h with
  | ret a s =>
    intro u jobs hu hj
    refine ⟨u, hu, rfl, ?_⟩
    rw [← hj, Function.update_eq_self]
  | @call o k s s' a d hB _ ih =>
    intro u jobs hu hj
    subst hu
    obtain ⟨u', hst, hnext, hr⟩ := ih (S.callView j t o d u).2
      (Function.update jobs j (some (t, k (S.callView j t o d u).1))) rfl (by simp [callView])
    rw [Function.update_idem] at hr
    exact ⟨u', hst, hnext, hr.head (Step.call d hj hB)⟩

/-- Every job has finished. -/
def Idle (w : World Op Res σ Task Env α) : Prop :=
  ∀ j t p, w.jobs j = some (t, p) → p.done = true

/-- **A serial run is one of the interleavings.** -/
theorem Serial.reachable {B : Op → Draw → Bool} {s₀ s : σ} {l : List (Turn σ Task α)}
    (h : S.Serial B s₀ l s) :
    ∃ w, S.Reachable (fun _ o d => B o d) (World.initial s₀) w ∧ w.st = s ∧ Idle w := by
  induction h with
  | start => exact ⟨_, .refl, rfl, fun j t p hj => by simp [World.initial] at hj⟩
  | turn _ t hadm hrun ih =>
    obtain ⟨w, hr, rfl, hw⟩ := ih
    have hstart : S.Step (fun _ o d => B o d) w ⟨S.startView t w.toView,
        Function.update w.jobs w.next (some (t, S.body t))⟩ :=
      .start t hadm fun j t' p hj _ => hw j t' p hj
    obtain ⟨u', hst, -, hr'⟩ := runs_reachable w.next t hrun (S.startView t w.toView)
      (Function.update w.jobs w.next (some (t, S.body t))) rfl (by simp)
    refine ⟨_, (hr.tail hstart).trans hr', hst, ?_⟩
    intro j t' p hj
    by_cases hjn : j = w.next
    · subst hjn
      simp only [Function.update_self, Option.some.injEq, Prod.mk.injEq] at hj
      obtain ⟨-, rfl⟩ := hj
      rfl
    · simp only [Function.update_of_ne hjn] at hj
      exact hw j t' p hj
  | env _ e ih =>
    obtain ⟨w, hr, rfl, hw⟩ := ih
    refine ⟨_, hr.tail (.env e), rfl, ?_⟩
    intro j t p hj
    simp only at hj
    split at hj
    · exact absurd hj (by simp)
    · exact hw j t p hj

/-! ## §8. An executable scheduler. -/

/-- A choice of the scheduler. -/
inductive Move (Draw Task Env : Type) where
  | start (t : Task)
  | step (j : Nat) (d : Draw)
  | env (e : Env)

variable (S A)

/-- Carry out one choice, if it is possible. -/
def play : Move Draw Task Env → World Op Res σ Task Env α → Option (World Op Res σ Task Env α)
  | .start t, w =>
    if S.admits t w.st && (List.range w.next).all (fun j =>
        match w.jobs j with
        | some (t', p) => !S.conflict t t' || p.done
        | none => true)
    then some ⟨S.startView t w.toView, Function.update w.jobs w.next (some (t, S.body t))⟩
    else none
  | .step j d, w =>
    match w.jobs j with
    | some (t, .call o k) =>
      if A w.log o d
      then some ⟨(S.callView j t o d w.toView).2,
        Function.update w.jobs j (some (t, k (S.callView j t o d w.toView).1))⟩
      else none
    | _ => none
  | .env e, w => some ⟨S.envView e w.toView, if S.kills e then fun _ => none else w.jobs⟩

/-- Carry out a whole schedule. -/
def playAll : List (Move Draw Task Env) → World Op Res σ Task Env α →
    Option (World Op Res σ Task Env α)
  | [], w => some w
  | m :: ms, w => (S.play A m w).bind (playAll ms)

variable {S A}

theorem play_step {m : Move Draw Task Env} {w w' : World Op Res σ Task Env α} (hw : Numbered w)
    (h : S.play A m w = some w') : S.Step A w w' := by
  cases m with
  | start t =>
    simp only [play] at h
    split at h
    next hc =>
      injection h with h
      subst h
      simp only [Bool.and_eq_true, List.all_eq_true, List.mem_range] at hc
      refine .start t hc.1 fun j t' p hj hcon => ?_
      have := hc.2 j (hw.job_lt j t' p hj)
      simp only [hj, hcon, Bool.not_true, Bool.false_or] at this
      exact this
    next => exact absurd h (by simp)
  | step j d =>
    simp only [play] at h
    split at h
    next t o k hj =>
      split at h
      next hA =>
        injection h with h
        subst h
        exact .call d hj hA
      next => exact absurd h (by simp)
    next => exact absurd h (by simp)
  | env e =>
    injection h with h
    subst h
    exact .env e

/-- Only a start starts a task. -/
theorem play_starts {P : Task → Bool} {w w' : World Op Res σ Task Env α} {m : Move Draw Task Env}
    (hm : ∀ t, m = .start t → P t = true) (hplay : S.play A m w = some w') (j : Nat) (t : Task)
    (hlog : w'.log = .start j t :: w.log) : P t = true := by
  cases m with
  | start t' =>
    simp only [play] at hplay
    split at hplay
    · obtain rfl := Option.some.inj hplay
      obtain ⟨-, rfl⟩ := Event.start.inj (List.cons.inj hlog).1
      exact hm t' rfl
    · exact absurd hplay (by simp)
  | step j' d =>
    simp only [play] at hplay
    split at hplay
    · split at hplay
      · obtain rfl := Option.some.inj hplay
        exact absurd (List.cons.inj hlog).1 (by simp)
      · exact absurd hplay (by simp)
    · exact absurd hplay (by simp)
  | env e =>
    obtain rfl := Option.some.inj hplay
    exact absurd (List.cons.inj hlog).1 (by simp)

/-- A start that plays is logged. -/
theorem play_start_log {w w' : World Op Res σ Task Env α} {t : Task}
    (hplay : S.play A (.start t) w = some w') : w'.log = .start w.next t :: w.log := by
  simp only [play] at hplay
  split at hplay
  · obtain rfl := Option.some.inj hplay
    rfl
  · exact absurd hplay (by simp)

/-- A schedule that plays through leads from one world to the other. -/
theorem playAll_from {s : σ} {w : World Op Res σ Task Env α} :
    ∀ {ms : List (Move Draw Task Env)} {w' : World Op Res σ Task Env α},
      S.Reachable A (World.initial s) w → S.playAll A ms w = some w' → S.Reachable A w w'
  | [], w', _, h => by
      injection h with h
      subst h
      exact .refl
  | m :: ms, w', hw, h => by
      simp only [playAll, Option.bind_eq_some_iff] at h
      obtain ⟨w₁, h1, h2⟩ := h
      have hstep : S.Step A w w₁ := play_step hw.numbered h1
      exact (playAll_from (hw.tail hstep) h2).head hstep

/-- **A schedule that plays through is a run.** -/
theorem playAll_reachable {s : σ} {w w' : World Op Res σ Task Env α}
    {ms : List (Move Draw Task Env)} (hw : S.Reachable A (World.initial s) w)
    (h : S.playAll A ms w = some w') : S.Reachable A (World.initial s) w' :=
  hw.trans (playAll_from hw h)

variable (S) in
/-- Run tasks one after the other, each on its own draws. -/
def serveAll : List (Task × List Draw) → List (Turn σ Task α) × σ →
    Option (List (Turn σ Task α) × σ)
  | [], x => some x
  | (t, ds) :: ms, (l, s) =>
    if S.admits t s then
      (Prog.run S.exec (S.body t) ds (S.begins t s)).bind fun r =>
        serveAll ms (⟨t, s, r.1, r.2⟩ :: l, r.2)
    else none

/-- **Tasks that are served one after the other are a serial run.** -/
theorem serveAll_serial {B : Op → Draw → Bool} (good : Draw → Bool)
    (hgood : ∀ o d, good d = true → B o d = true) {s₀ : σ} :
    ∀ {ms : List (Task × List Draw)} {x x' : List (Turn σ Task α) × σ},
      S.Serial B s₀ x.1 x.2 → (ms.all fun m => m.2.all good) = true →
      S.serveAll ms x = some x' → S.Serial B s₀ x'.1 x'.2
  | [], x, x', hx, _, h => by
      injection h with h
      subst h
      exact hx
  | (t, ds) :: ms, (l, s), x', hx, hds, h => by
      simp only [List.all_cons, Bool.and_eq_true, List.all_eq_true] at hds
      simp only [serveAll] at h
      split at h
      next hadm =>
        obtain ⟨⟨a, s'⟩, hrun, hrest⟩ := Option.bind_eq_some_iff.mp h
        refine serveAll_serial good hgood (.turn hx t hadm ?_) ?_ hrest
        · exact Prog.run_runs (fun _ o d hd => hgood o d (hds.1 d hd)) hrun
        · simpa [List.all_eq_true] using hds.2
      next => exact absurd h (by simp)

/-- What job `j` does next. -/
def next? (w : World Op Res σ Task Env α) (j : Nat) : Option (Task × Op) :=
  match w.jobs j with
  | some (t, .call o _) => some (t, o)
  | _ => none

variable (S A) in
/-- A job that has something to do can do it. -/
theorem step_of_next? {w : World Op Res σ Task Env α} {j : Nat} {t : Task} {o : Op}
    (h : next? w j = some (t, o)) (d : Draw) (hA : A w.log o d = true) :
    ∃ w', S.Step A w w' ∧ w'.log = .call j t ⟨o, (S.exec o d w.st).1⟩ :: w.log := by
  unfold next? at h
  split at h
  next t' o' k hj =>
    simp only [Option.some.injEq, Prod.mk.injEq] at h
    obtain ⟨rfl, rfl⟩ := h
    exact ⟨_, .call d hj hA, rfl⟩
  next => exact absurd h (by simp)

end System

end

/-- A check of a result, under any proof that there is one. -/
theorem get_of_any {β : Type} {x : Option β} {p : β → Bool} (h : x.any p = true)
    (hx : x.isSome = true) : p (x.get hx) = true :=
  Option.get_of_any_eq_true p x h

/-- A list that is known at its first two positions. -/
theorem eq_cons_cons {β : Type} {l : List β} {x y : β} (hx : l[0]? = some x)
    (hy : l[1]? = some y) : l = x :: y :: l.drop 2 := by
  cases l with
  | nil => exact absurd hx (by simp)
  | cons x' l =>
    cases l with
    | nil => exact absurd hy (by simp)
    | cons y' rest =>
      obtain rfl : x' = x := by simpa using hx
      obtain rfl : y' = y := by simpa using hy
      rfl

end Interleave
