/-
  Visuara.Interleave.Rules
  ────────────────────────
  **PROOF RULES FOR POOLS OF PROGRAMS.**

  What a task's program follows when it runs alone (`hbody`) is the premise
  of every rule here:

    • `Reachable.rule`       — an invariant of state and log, where each call
      may be assumed licensed;
    • `Reachable.assertion`  — what a running job may rely on: kept by its own
      calls and by everything that does not conflict with its task;
    • `event_unique`, `Reachable.once` — what happens at most once;
    • `ReachableWhen`        — runs whose steps all meet a condition;
    • `Serial.invariant`     — the same for runs of one task after the other.
-/
import Visuara.Interleave.Machine

namespace Interleave

variable {Op : Type} {Res : Op → Type} {Draw σ Task Env α : Type}

namespace System

variable {S : System Op Res Draw σ Task Env α} {A : Assumption Op Res Draw Task Env}

/-! ## §1. Invariants of state and log. -/

section Protocol

variable {Φ : Task → List (Call Op Res) → Op → Prop} {Ψ : Task → List (Call Op Res) → α → Prop}

/-- The next call of a job is licensed. -/
theorem Reachable.next_licensed (hbody : ∀ t, Prog.Follows (Φ t) (Ψ t) (S.body t) []) {s : σ}
    {w : World Op Res σ Task Env α} (h : S.Reachable A (World.initial s) w) {j : Nat} {t : Task}
    {o : Op} {k : Res o → Prog Op Res α} (hj : w.jobs j = some (t, .call o k)) :
    Φ t (hist j w.log) o :=
  (Reachable.follows hbody h j t _ hj).1

/-- What a finished job has done. -/
theorem Reachable.finished (hbody : ∀ t, Prog.Follows (Φ t) (Ψ t) (S.body t) []) {s : σ}
    {w : World Op Res σ Task Env α} (h : S.Reachable A (World.initial s) w) {j : Nat} {t : Task}
    {a : α} (hj : w.jobs j = some (t, .ret a)) : Ψ t (hist j w.log) a :=
  Reachable.follows hbody h j t _ hj

/-- **Induction over runs of licensed calls.** -/
theorem Reachable.rule (hbody : ∀ t, Prog.Follows (Φ t) (Ψ t) (S.body t) []) {s : σ}
    (I : View Op Res σ Task Env → Prop) (h0 : I ⟨s, [], 0⟩)
    (hstart : ∀ (w : World Op Res σ Task Env α) t, S.Reachable A (World.initial s) w →
      I w.toView → S.admits t w.st = true → I (S.startView t w.toView))
    (hcall : ∀ (w : World Op Res σ Task Env α) j t o k d, S.Reachable A (World.initial s) w →
      I w.toView → w.jobs j = some (t, .call o k) → Φ t (hist j w.log) o → A w.log o d = true →
      I (S.callView j t o d w.toView).2)
    (henv : ∀ (w : World Op Res σ Task Env α) e, S.Reachable A (World.initial s) w →
      I w.toView → I (S.envView e w.toView))
    {w : World Op Res σ Task Env α} (h : S.Reachable A (World.initial s) w) : I w.toView := by
  refine Reachable.invariant (fun w => I w.toView) h0 ?_ h
  intro w w' hr hI hs
  cases hs with
  | start t hadm _ => exact hstart w t hr hI hadm
  | call d hj hA => exact hcall w _ _ _ _ d hr hI hj (hr.next_licensed hbody hj) hA
  | env e => exact henv w e hr hI

/-! ## §2. What a running job may rely on. -/

/-- **The assertion of a running job.**  `J t h s` holds of every unfinished
job of task `t` that has made the calls `h`, if it holds when the task starts,
its own calls keep it up, and nothing that may run beside `t` breaks it. -/
theorem Reachable.assertion (hbody : ∀ t, Prog.Follows (Φ t) (Ψ t) (S.body t) [])
    (hsymm : ∀ t t', S.conflict t t' = S.conflict t' t)
    (J : Task → List (Call Op Res) → σ → Prop)
    (hstart : ∀ t s, S.admits t s = true → J t [] (S.begins t s))
    (hown : ∀ t h o d s, J t h s → Φ t h o →
      J t (⟨o, (S.exec o d s).1⟩ :: h) (S.exec o d s).2)
    (hother : ∀ t h t' h' o d s, S.conflict t t' = false → J t h s → J t' h' s → Φ t' h' o →
      J t h (S.exec o d s).2)
    (hbegin : ∀ t h t' s, S.conflict t t' = false → J t h s → S.admits t' s = true →
      J t h (S.begins t' s))
    (henv : ∀ t h e s, S.kills e = false → J t h s → J t h (S.disturb e s))
    {s : σ} {w : World Op Res σ Task Env α} (h : S.Reachable A (World.initial s) w) :
    ∀ j t p, w.jobs j = some (t, p) → p.done = false → J t (hist j w.log) w.st := by
  induction h with
  | refl => intro j t p hj; simp [World.initial] at hj
  | @tail w w' hr hs ih =>
    have hn := Reachable.numbered hr
    have hex := Reachable.exclusive hsymm hr
    intro j t p hj hp
    cases hs with
    | start t' hadm hfree =>
      dsimp only at hj
      by_cases hjn : j = w.next
      · subst hjn
        simp only [Function.update_self, Option.some.injEq, Prod.mk.injEq] at hj
        obtain ⟨rfl, rfl⟩ := hj
        show J _ (hist w.next (.start w.next t' :: w.log)) (S.begins t' w.st)
        rw [hist_start, hn.hist_next]
        exact hstart t' w.st hadm
      · rw [Function.update_of_ne hjn] at hj
        have hcon : S.conflict t t' = false := by
          by_contra hc
          rw [Bool.not_eq_false, hsymm] at hc
          rw [hfree j t p hj hc] at hp
          exact absurd hp (by simp)
        exact hbegin t _ t' w.st hcon (ih j t p hj hp) hadm
    | @call i t' o k d hi hA =>
      have hΦ := Reachable.next_licensed hbody hr hi
      dsimp only at hj
      by_cases hji : j = i
      · subst hji
        simp only [Function.update_self, Option.some.injEq, Prod.mk.injEq] at hj
        obtain ⟨rfl, rfl⟩ := hj
        show J _ (hist j (.call j t' ⟨o, _⟩ :: w.log)) _
        rw [hist_own]
        exact hown t' _ o d w.st (ih j t' _ hi rfl) hΦ
      · rw [Function.update_of_ne hji] at hj
        show J t (hist j (.call i t' _ :: w.log)) _
        rw [hist_other (fun h => hji h.symm)]
        have hcon : S.conflict t t' = false := by
          by_contra hc
          rw [Bool.not_eq_false] at hc
          rcases hex j i t t' p _ hji hj hi hc with hd | hd
          · rw [hd] at hp
            exact absurd hp (by simp)
          · exact absurd hd (by simp [Prog.done])
        exact hother t _ t' _ o d w.st hcon (ih j t p hj hp) (ih i t' _ hi rfl) hΦ
    | env e =>
      simp only at hj
      split at hj
      · exact absurd hj (by simp)
      · rename_i hk
        exact henv t _ e w.st (by simpa using hk) (ih j t p hj hp)

end Protocol

/-! ## §3. The order of events. -/

/-- Of two events of a log, one comes first, unless they are the same. -/
theorem mem_order {β : Type} {l : List β} {e e' : β} (he : e ∈ l) (he' : e' ∈ l) :
    e = e' ∨ (∃ l₁ l₂, l = l₁ ++ e :: l₂ ∧ e' ∈ l₂) ∨ ∃ l₁ l₂, l = l₁ ++ e' :: l₂ ∧ e ∈ l₂ := by
  obtain ⟨l₁, l₂, rfl⟩ := List.append_of_mem he
  rcases List.mem_append.mp he' with h | h
  · obtain ⟨m₁, m₂, rfl⟩ := List.append_of_mem h
    refine .inr (.inr ⟨m₁, m₂ ++ e :: l₂, by simp, ?_⟩)
    exact List.mem_append_right _ List.mem_cons_self
  · rcases List.mem_cons.mp h with h | h
    · exact .inl h.symm
    · exact .inr (.inl ⟨l₁, l₂, rfl, h⟩)

/-- **At most once.**  If nothing of kind `P` ever precedes anything of kind
`P`, any two events of that kind are the same. -/
theorem event_unique {β : Type} (P : β → Prop) {l : List β}
    (h : ∀ l₁ e l₂, l = l₁ ++ e :: l₂ → P e → ∀ e' ∈ l₂, ¬ P e') {e e' : β}
    (he : e ∈ l) (he' : e' ∈ l) (hP : P e) (hP' : P e') : e = e' := by
  rcases mem_order he he' with heq | ⟨l₁, l₂, hl, hm⟩ | ⟨l₁, l₂, hl, hm⟩
  · exact heq
  · exact absurd hP' (h l₁ e l₂ hl hP e' hm)
  · exact absurd hP (h l₁ e' l₂ hl hP' e hm)

/-- What a job has done is in the log, under its task. -/
theorem Reachable.event_of_hist {s : σ} {w : World Op Res σ Task Env α}
    (h : S.Reachable A (World.initial s) w) {j : Nat} {t : Task} {p : Prog Op Res α}
    (hj : w.jobs j = some (t, p)) {c : Call Op Res} (hc : c ∈ hist j w.log) :
    Event.call j t c ∈ w.log := by
  have hn := Reachable.numbered h
  obtain ⟨t', ht'⟩ := mem_of_mem_hist hc
  rwa [hn.start_unique j t t' (hn.job_start j t p hj) (hn.call_start j t' c ht')]

/-- What never precedes itself is there at most once. -/
theorem countP_le_one {β : Type} (P : β → Bool) {l : List β}
    (h : ∀ l₁ e l₂, l = l₁ ++ e :: l₂ → P e = true → ∀ e' ∈ l₂, P e' = false) :
    l.countP P ≤ 1 := by
  induction l with
  | nil => exact Nat.zero_le 1
  | cons e l ih =>
    have htail : l.countP P ≤ 1 := by
      apply ih
      rintro l₁ e' l₂ rfl
      exact h (e :: l₁) e' l₂ rfl
    cases he : P e with
    | false =>
      rw [List.countP_cons_of_neg (by simp [he])]
      exact htail
    | true =>
      have hnone : l.countP P = 0 := by
        rw [List.countP_eq_zero]
        intro e' he'
        rw [h [] e l rfl he e' he']
        exact Bool.false_ne_true
      have hone : (e :: l).countP P = 1 := by rw [List.countP_cons_of_pos he, hnone]
      exact Nat.le_of_eq hone

/-- **Once for each draw.**  If only the job that got the answer `g` may perform
operations of kind `P`, and only one, none precedes another. -/
theorem Reachable.not_before {Φ : Task → List (Call Op Res) → Op → Prop}
    {Ψ : Task → List (Call Op Res) → α → Prop}
    (hbody : ∀ t, Prog.Follows (Φ t) (Ψ t) (S.body t) []) {s : σ} {w : World Op Res σ Task Env α}
    (h : S.Reachable A (World.initial s) w) (P : Op → Prop) (g : Call Op Res)
    (hlic : ∀ t h o, Φ t h o → P o → g ∈ h ∧ ∀ c ∈ h, ¬ P c.op)
    (hg : ∀ j j' t t', Event.call j t g ∈ w.log → Event.call j' t' g ∈ w.log → j = j')
    {l₁ l₂ : List (Event Op Res Task Env)} {j j' : Nat} {t t' : Task} {c c' : Call Op Res}
    (hlog : w.log = l₁ ++ .call j t c :: l₂) (hP : P c.op)
    (hc' : Event.call j' t' c' ∈ l₂) : ¬ P c'.op := by
  intro hP'
  obtain ⟨m₁, m₂, rfl⟩ := List.append_of_mem hc'
  obtain ⟨hmem, hfirst⟩ := hlic _ _ _ (h.licensed hbody hlog) hP
  have hlog' : w.log = (l₁ ++ .call j t c :: m₁) ++ .call j' t' c' :: m₂ := by
    rw [hlog]
    simp
  obtain ⟨hmem', -⟩ := hlic _ _ _ (h.licensed hbody hlog') hP'
  -- both jobs got the answer `g`, so they are one
  obtain ⟨v, hv⟩ := mem_of_mem_hist hmem
  obtain ⟨v', hv'⟩ := mem_of_mem_hist hmem'
  have hij : j = j' := hg j j' v v' (by rw [hlog]; simp [hv]) (by rw [hlog']; simp [hv'])
  subst hij
  exact hfirst c' (mem_hist hc') hP'

/-- Any two of them are the same. -/
theorem Reachable.once {Φ : Task → List (Call Op Res) → Op → Prop}
    {Ψ : Task → List (Call Op Res) → α → Prop}
    (hbody : ∀ t, Prog.Follows (Φ t) (Ψ t) (S.body t) []) {s : σ} {w : World Op Res σ Task Env α}
    (h : S.Reachable A (World.initial s) w) (P : Op → Prop) (g : Call Op Res)
    (hlic : ∀ t h o, Φ t h o → P o → g ∈ h ∧ ∀ c ∈ h, ¬ P c.op)
    (hg : ∀ j j' t t', Event.call j t g ∈ w.log → Event.call j' t' g ∈ w.log → j = j')
    {j j' : Nat} {t t' : Task} {c c' : Call Op Res} (hc : Event.call j t c ∈ w.log)
    (hc' : Event.call j' t' c' ∈ w.log) (hP : P c.op) (hP' : P c'.op) :
    (Event.call j t c : Event Op Res Task Env) = .call j' t' c' := by
  refine event_unique (fun e => ∃ j t c, e = Event.call j t c ∧ P c.op) ?_ hc hc'
    ⟨j, t, c, rfl, hP⟩ ⟨j', t', c', rfl, hP'⟩
  rintro l₁ _ l₂ hlog ⟨i, u, b, rfl, hb⟩ _ he ⟨i', u', b', rfl, hb'⟩
  exact h.not_before hbody P g hlic hg hlog hb he hb'

/-! ### What has happened since the pool was last emptied. -/

/-- The end of the log behind the last event that ended all jobs. -/
def sinceKill (S : System Op Res Draw σ Task Env α) (l : List (Event Op Res Task Env)) :
    List (Event Op Res Task Env) :=
  l.takeWhile fun e =>
    match e with
    | .env e => !S.kills e
    | _ => true

theorem mem_of_mem_sinceKill {l : List (Event Op Res Task Env)} {e : Event Op Res Task Env}
    (h : e ∈ S.sinceKill l) : e ∈ l :=
  List.takeWhile_subset _ h

/-- A job that is still there has done all it has done since then. -/
theorem Reachable.recent {s : σ} {w : World Op Res σ Task Env α}
    (h : S.Reachable A (World.initial s) w) : ∀ j t p, w.jobs j = some (t, p) →
      ∀ c ∈ hist j w.log, Event.call j t c ∈ S.sinceKill w.log := by
  induction h with
  | refl => intro j t p hj; exact absurd hj.symm (Option.some_ne_none _)
  | @tail w w' hr hs ih =>
    intro j t p hj c hc
    cases hs with
    | start t' _ _ =>
      by_cases hjn : j = w.next
      · subst hjn
        have hnil : hist w.next (.start w.next t' :: w.log) = [] := (Reachable.numbered hr).hist_next
        exact absurd (hnil ▸ hc) List.not_mem_nil
      · dsimp only at hj
        rw [Function.update_of_ne hjn] at hj
        exact List.mem_cons_of_mem _ (ih j t p hj c hc)
    | @call i t' o k d hi _ =>
      dsimp only at hj
      by_cases hji : j = i
      · subst hji
        simp only [Function.update_self, Option.some.injEq, Prod.mk.injEq] at hj
        obtain ⟨rfl, -⟩ := hj
        have hc' : c ∈ hist j (.call j t' ⟨o, (S.exec o d w.st).1⟩ :: w.log) := hc
        rw [hist_own] at hc'
        rcases List.mem_cons.mp hc' with rfl | hc'
        · exact List.mem_cons_self
        · exact List.mem_cons_of_mem _ (ih j t' _ hi c hc')
      · rw [Function.update_of_ne hji] at hj
        have hc' : c ∈ hist j (.call i t' ⟨o, (S.exec o d w.st).1⟩ :: w.log) := hc
        rw [hist_other (fun h => hji h.symm)] at hc'
        exact List.mem_cons_of_mem _ (ih j t p hj c hc')
    | env e =>
      dsimp only at hj
      split at hj
      next => exact absurd hj.symm (Option.some_ne_none _)
      next hk =>
        have hcons : S.sinceKill (.env e :: w.log) = .env e :: S.sinceKill w.log := by
          rw [sinceKill, List.takeWhile_cons_of_pos (by simpa using hk)]
          rfl
        show Event.call j t c ∈ S.sinceKill (.env e :: w.log)
        rw [hcons]
        exact List.mem_cons_of_mem _ (ih j t p hj c hc)

variable (S A) in
/-- The event `e` of the run from `s` to `w` happened in a world that satisfies `P`. -/
def Happened (s : σ) (w : World Op Res σ Task Env α) (e : Event Op Res Task Env)
    (P : World Op Res σ Task Env α → Prop) : Prop :=
  ∃ w₁ w₂, S.Reachable A (World.initial s) w₁ ∧ S.Step A w₁ w₂ ∧ S.Reachable A w₂ w
    ∧ w₂.log = e :: w₁.log ∧ P w₁

/-- An event of the log happened, and what holds whenever it happens held. -/
theorem Reachable.happened {s : σ} {w : World Op Res σ Task Env α}
    (h : S.Reachable A (World.initial s) w) {e : Event Op Res Task Env} (he : e ∈ w.log)
    {P : World Op Res σ Task Env α → Prop}
    (hP : ∀ w₁ w₂, S.Reachable A (World.initial s) w₁ → S.Step A w₁ w₂ →
      w₂.log = e :: w₁.log → P w₁) : S.Happened A s w e P := by
  obtain ⟨w₁, w₂, h1, hs, h2, hlog⟩ := h.moment he
  exact ⟨w₁, w₂, h1, hs, h2, hlog, hP w₁ w₂ h1 hs hlog⟩

/-! ## §4. Runs under a condition. -/

variable (S A) in
/-- Runs from `w₀` all of whose steps meet `C`. -/
abbrev ReachableWhen (C : World Op Res σ Task Env α → World Op Res σ Task Env α → Prop)
    (w₀ w : World Op Res σ Task Env α) : Prop :=
  Relation.ReflTransGen (fun w w' => S.Step A w w' ∧ C w w') w₀ w

theorem ReachableWhen.reachable
    {C : World Op Res σ Task Env α → World Op Res σ Task Env α → Prop}
    {w₀ w : World Op Res σ Task Env α} (h : S.ReachableWhen A C w₀ w) : S.Reachable A w₀ w :=
  Relation.ReflTransGen.mono (fun _ _ h => h.1) _ _ h

theorem ReachableWhen.mono
    {C C' : World Op Res σ Task Env α → World Op Res σ Task Env α → Prop}
    {w₀ w : World Op Res σ Task Env α} (h : S.ReachableWhen A C w₀ w)
    (hC : ∀ w w', C w w' → C' w w') : S.ReachableWhen A C' w₀ w :=
  Relation.ReflTransGen.mono (fun _ _ h => ⟨h.1, hC _ _ h.2⟩) _ _ h

/-- Every event of such a run came with a step that met the condition. -/
theorem ReachableWhen.moment
    {C : World Op Res σ Task Env α → World Op Res σ Task Env α → Prop} {s : σ}
    {w : World Op Res σ Task Env α} (h : S.ReachableWhen A C (World.initial s) w)
    {e : Event Op Res Task Env} (he : e ∈ w.log) :
    ∃ w₁ w₂, S.Reachable A (World.initial s) w₁ ∧ S.Step A w₁ w₂ ∧ C w₁ w₂
      ∧ w₂.log = e :: w₁.log := by
  induction h with
  | refl => exact absurd he List.not_mem_nil
  | tail hr hs ih =>
    obtain ⟨e', he'⟩ := hs.1.log_eq
    rw [he'] at he
    rcases List.mem_cons.mp he with rfl | he
    · exact ⟨_, _, ReachableWhen.reachable hr, hs.1, hs.2, he'⟩
    · exact ih he

variable (S A) in
/-- Carry out a schedule as long as every step meets `C`. -/
def playAllWhen (C : World Op Res σ Task Env α → World Op Res σ Task Env α → Bool) :
    List (Move Draw Task Env) → World Op Res σ Task Env α → Option (World Op Res σ Task Env α)
  | [], w => some w
  | m :: ms, w =>
    (S.play A m w).bind fun w' => if C w w' then playAllWhen C ms w' else none

theorem playAllWhen_reachable {s : σ}
    {C : World Op Res σ Task Env α → World Op Res σ Task Env α → Bool} :
    ∀ {ms : List (Move Draw Task Env)} {w w' : World Op Res σ Task Env α},
      S.ReachableWhen A (fun w w' => C w w' = true) (World.initial s) w →
      S.playAllWhen A C ms w = some w' →
      S.ReachableWhen A (fun w w' => C w w' = true) (World.initial s) w'
  | [], w, w', hw, h => by
      injection h with h
      subst h
      exact hw
  | m :: ms, w, w', hw, h => by
      simp only [playAllWhen, Option.bind_eq_some_iff] at h
      obtain ⟨w₁, h1, h2⟩ := h
      split at h2
      next hC =>
        exact playAllWhen_reachable (hw.tail ⟨play_step (Reachable.numbered hw.reachable) h1, hC⟩) h2
      next => exact absurd h2 (by simp)

/-- A job stays among the jobs, until the pool is emptied. -/
theorem Step.job_stays {w w' : World Op Res σ Task Env α} (h : S.Step A w w') (hw : Numbered w)
    {j : Nat} {t : Task} {p : Prog Op Res α} (hj : w.jobs j = some (t, p)) :
    (∃ q, w'.jobs j = some (t, q)) ∨ ∃ e, S.kills e = true ∧ w'.log = .env e :: w.log := by
  cases h with
  | start t' _ _ =>
    have hlt := hw.job_lt j t p hj
    exact .inl ⟨p, (Function.update_of_ne (Nat.ne_of_lt hlt) _ _).trans hj⟩
  | @call i t' o k d hi _ =>
    by_cases hji : j = i
    · subst hji
      obtain ⟨rfl, rfl⟩ := Prod.mk.inj (Option.some.inj (hj.symm.trans hi))
      exact .inl ⟨_, Function.update_self _ _ _⟩
    · exact .inl ⟨p, (Function.update_of_ne hji _ _).trans hj⟩
  | env e =>
    by_cases hkills : S.kills e = true
    · exact .inr ⟨e, hkills, rfl⟩
    · exact .inl ⟨p, by rw [if_neg hkills, hj]⟩

/-- What has just been started is at its beginning. -/
theorem Step.of_start {w w' : World Op Res σ Task Env α} (h : S.Step A w w') {j : Nat} {t : Task}
    (hlog : w'.log = .start j t :: w.log) : w'.jobs j = some (t, S.body t) := by
  cases h with
  | start t' _ _ =>
    obtain ⟨rfl, rfl⟩ := Event.start.inj (List.cons.inj hlog).1
    exact Function.update_self _ _ _
  | call d _ _ => exact absurd (List.cons.inj hlog).1 (by simp)
  | env e => exact absurd (List.cons.inj hlog).1 (by simp)

/-- A job there was there before, and did nothing or the last call; or it is new. -/
theorem Step.job_cases {w w' : World Op Res σ Task Env α} (h : S.Step A w w') {j : Nat} {t : Task}
    {p : Prog Op Res α} (hj : w'.jobs j = some (t, p)) :
    w.jobs j = some (t, p)
      ∨ (∃ o k r, w.jobs j = some (t, .call o k) ∧ p = k r
        ∧ w'.log = .call j t ⟨o, r⟩ :: w.log)
      ∨ (j = w.next ∧ w'.log = .start j t :: w.log) := by
  cases h with
  | start t' _ _ =>
    dsimp only at hj
    by_cases hjn : j = w.next
    · subst hjn
      rw [Function.update_self] at hj
      obtain ⟨rfl, -⟩ := Prod.mk.inj (Option.some.inj hj)
      exact .inr (.inr ⟨rfl, rfl⟩)
    · rw [Function.update_of_ne hjn] at hj
      exact .inl hj
  | @call i t' o k d hi _ =>
    dsimp only at hj
    by_cases hji : j = i
    · subst hji
      rw [Function.update_self] at hj
      obtain ⟨rfl, rfl⟩ := Prod.mk.inj (Option.some.inj hj)
      exact .inr (.inl ⟨o, k, _, hi, rfl, rfl⟩)
    · rw [Function.update_of_ne hji] at hj
      exact .inl hj
  | env e =>
    dsimp only at hj
    split at hj
    · exact absurd hj (by simp)
    · exact .inl hj

/-! ## §5. Serial runs. -/

section Serial

variable {B : Op → Draw → Bool} {s₀ s : σ} {l : List (Turn σ Task α)}

variable (S B) in
/-- The turn was admitted, and its task ran from start to finish. -/
structure Turn.Ran (turn : Turn σ Task α) : Prop where
  admitted : S.admits turn.task turn.before = true
  runs : Prog.Runs S.exec (fun _ o d => B o d = true) (S.body turn.task)
    (S.begins turn.task turn.before) turn.result turn.after

/-- What holds at the end of every run of the task holds after the turn. -/
theorem Turn.Ran.sound {turn : Turn σ Task α} (h : turn.Ran S B) {Q : α → σ → Prop}
    (hQ : Prog.wp S.exec (fun _ o d => B o d = true) (S.body turn.task) Q
      (S.begins turn.task turn.before)) : Q turn.result turn.after :=
  Prog.wp_sound h.runs hQ

theorem Serial.ran (h : S.Serial B s₀ l s) {turn : Turn σ Task α} (hturn : turn ∈ l) :
    turn.Ran S B := by
  induction h with
  | start => exact absurd hturn List.not_mem_nil
  | turn _ t hadm hrun ih =>
    rcases List.mem_cons.mp hturn with rfl | hturn
    · exact ⟨hadm, hrun⟩
    · exact ih hturn
  | env _ e ih => exact ih hturn

/-- What went before a turn is a run to where it started. -/
theorem Serial.upTo (h : S.Serial B s₀ l s) {l₁ l₂ : List (Turn σ Task α)} {turn : Turn σ Task α}
    (hl : l = l₁ ++ turn :: l₂) : S.Serial B s₀ l₂ turn.before := by
  induction h generalizing l₁ with
  | start => exact absurd hl (by simp)
  | turn hrun _ _ _ ih =>
    cases l₁ with
    | nil =>
      obtain ⟨rfl, rfl⟩ := List.cons.inj hl
      exact hrun
    | cons v l₁ => exact ih (List.cons.inj hl).2
  | env _ e ih => exact ih hl

/-- **Induction over serial runs.**  What holds at the start and is kept by every
turn there is holds before every turn, and at the end. -/
theorem Serial.invariant {I : σ → Prop} (h : S.Serial B s₀ l s) (h0 : I s₀)
    (hkeep : ∀ turn ∈ l, turn.Ran S B → I turn.before → I turn.after)
    (henv : ∀ e s, I s → I (S.disturb e s)) : I s ∧ ∀ turn ∈ l, I turn.before := by
  induction h with
  | start => exact ⟨h0, fun _ hturn => absurd hturn List.not_mem_nil⟩
  | turn _ t hadm hrun ih =>
    obtain ⟨hs, hl⟩ := ih fun turn hturn => hkeep turn (List.mem_cons_of_mem _ hturn)
    refine ⟨hkeep _ List.mem_cons_self ⟨hadm, hrun⟩ hs, fun turn hturn => ?_⟩
    rcases List.mem_cons.mp hturn with rfl | hturn
    · exact hs
    · exact hl turn hturn
  | env _ e ih =>
    obtain ⟨hs, hl⟩ := ih hkeep
    exact ⟨henv e _ hs, hl⟩

/-- What holds after a turn and is kept from then on holds before all later ones. -/
theorem Serial.later {I : σ → Prop} (h : S.Serial B s₀ l s) {l₁ l₂ : List (Turn σ Task α)}
    {turn : Turn σ Task α} (hl : l = l₁ ++ turn :: l₂) (h0 : I turn.after)
    (hkeep : ∀ u ∈ l₁, u.Ran S B → I u.before → I u.after)
    (henv : ∀ e s, I s → I (S.disturb e s)) : I s ∧ ∀ u ∈ l₁, I u.before := by
  induction h generalizing l₁ with
  | start => exact absurd hl (by simp)
  | turn _ t hadm hrun ih =>
    cases l₁ with
    | nil =>
      obtain ⟨rfl, -⟩ := List.cons.inj hl
      exact ⟨h0, fun _ hu => absurd hu List.not_mem_nil⟩
    | cons v l₁ =>
      obtain ⟨rfl, rfl⟩ := List.cons.inj hl
      obtain ⟨hs, hall⟩ := ih rfl fun u hu => hkeep u (List.mem_cons_of_mem _ hu)
      refine ⟨hkeep _ List.mem_cons_self ⟨hadm, hrun⟩ hs, fun u hu => ?_⟩
      rcases List.mem_cons.mp hu with rfl | hu
      · exact hs
      · exact hall u hu
  | env _ e ih =>
    obtain ⟨hs, hall⟩ := ih hl hkeep
    exact ⟨henv e _ hs, hall⟩

end Serial

end System

end Interleave
