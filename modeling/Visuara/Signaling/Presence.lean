/-
  Visuara.Signaling.Presence
  ──────────────────────────
  **WHO IS ONLINE, AND AS WHAT.**

  `device_online` and `otp` are written by the turns of many connections and
  by the HTTP requests that kick a device, and cleared by device id, without
  a look at whose entry it is.  What makes this safe is that no two
  connections ever hold the same `my_device_id`:

    • `Knows`    — what a running task may rely on about its own connection;
    • `Ids`      — every `my_device_id` was drawn by a turn of that connection,
      so fresh ids make it the only one (`Ids.unique`);
    • `Online`   — every entry belongs to the connection that holds its id;
    • `Cleared`  — a connection whose cleanup is over has left nothing behind.
-/
import Visuara.Signaling.Licence

namespace Visuara.Signaling

open Interleave

/-! ## §1. What a task knows of its connection. -/

/-- The phase of a task's connection while the task runs. -/
def Task.phase : Task → Phase
  | .close _ => .ended
  | _ => .live

theorem Task.phase_ne_fresh (t : Task) : t.phase ≠ .fresh := by
  cases t <;> exact fun h => Phase.noConfusion h

/-- A running task has its connection's phase, and its knowledge of
`my_device_id`, to itself. -/
def Knows (t : Task) (h : Calls) (s : Server) : Prop :=
  ∀ c, t.connection = some c → (s.socket c).phase = t.phase
    ∧ ∀ d, knownDeviceId c h = some d → (s.socket c).myDeviceId = d

theorem connection_ne {t t' : Task} {c : ConnectionId} (h : t.overlaps t' = false)
    (ht : t.connection = some c) : t'.connection ≠ some c := by
  intro ht'
  simp [Task.overlaps, ht, ht'] at h

/-- Starting a task leaves the connections of the others alone. -/
theorem begin_socket {t : Task} {c : ConnectionId} (hc : t.connection ≠ some c) (s : Server) :
    (t.begin s).socket c = s.socket c := by
  cases t with
  | connect c' =>
    exact Function.update_of_ne (fun h => hc (by rw [h]; rfl)) _ _
  | close c' =>
    exact Function.update_of_ne (fun h => hc (by rw [h]; rfl)) _ _
  | _ => rfl

/-- A start touches only its own connection, and a connection starts without an id. -/
theorem begin_myDeviceId {t : Task} {s : Server} {c : ConnectionId} {d : DeviceId}
    (h : ((t.begin s).socket c).myDeviceId = some d) : (s.socket c).myDeviceId = some d := by
  by_cases hc : t.connection = some c
  · cases t with
    | connect c' =>
      obtain rfl : c' = c := by simpa [Task.connection] using hc
      simp [Task.begin, Server.setSocket, Server.setChannel] at h
    | close c' =>
      obtain rfl : c' = c := by simpa [Task.connection] using hc
      simpa [Task.begin, Server.setSocket] using h
    | _ => exact h
  · rwa [begin_socket hc] at h

theorem begin_phase {t : Task} {s : Server} {c : ConnectionId}
    (h : (s.socket c).phase ≠ .fresh) : ((t.begin s).socket c).phase ≠ .fresh := by
  by_cases hc : t.connection = some c
  · cases t with
    | connect c' =>
      obtain rfl : c' = c := by simpa [Task.connection] using hc
      simp [Task.begin, Server.setSocket, Server.setChannel]
    | close c' =>
      obtain rfl : c' = c := by simpa [Task.connection] using hc
      simp [Task.begin, Server.setSocket]
    | _ => exact h
  · rwa [begin_socket hc]

theorem begin_deviceOnline (t : Task) (s : Server) : (t.begin s).deviceOnline = s.deviceOnline := by
  cases t <;> rfl

theorem begin_otp (t : Task) (s : Server) : (t.begin s).otp = s.otp := by
  cases t <;> rfl

section

variable [Crates]

/-- Only a turn of `c` sets `my_device_id` of `c`. -/
theorem myDeviceId_of_other {t : Task} {h : Calls} {o : Op} (hmay : May t h o) {c : ConnectionId}
    (hc : t.connection ≠ some c) (d : Draw) (s : Server) :
    ((o.exec d s).2.socket c).myDeviceId = (s.socket c).myDeviceId := by
  rw [Op.exec_myDeviceId]
  cases o with
  | setMyDeviceId c' x =>
    obtain ⟨name, account, rfl, -⟩ := hmay
    exact if_neg fun heq => hc (by rw [← heq]; rfl)
  | _ => rfl

/-- The task's own operations keep its knowledge up to date. -/
theorem Knows.own {t : Task} {h : Calls} {s : Server} (hJ : Knows t h s) (o : Op) (d : Draw) :
    Knows t (⟨o, (o.exec d s).1⟩ :: h) (o.exec d s).2 := by
  intro c hc
  obtain ⟨hphase, hknown⟩ := hJ c hc
  refine ⟨(Op.exec_phase o d s c).trans hphase, fun x hx => ?_⟩
  show ((o.exec d s).2.socket c).myDeviceId = x
  rw [Op.exec_myDeviceId]
  cases o with
  | myDeviceId c' =>
    by_cases hcc : c' = c
    · subst hcc
      simp only [knownDeviceId, if_true, Option.some.injEq] at hx
      exact hx
    · exact hknown x (by simpa [knownDeviceId, hcc] using hx)
  | setMyDeviceId c' y =>
    by_cases hcc : c' = c
    · subst hcc
      simpa [knownDeviceId] using hx
    · simp only [hcc, if_false]
      exact hknown x (by simpa [knownDeviceId, hcc] using hx)
  | _ => exact hknown x hx

theorem knows {A : Assumption Op Op.Res Draw Task Env} {s₀ : Server} {w : ServerWorld}
    (h : Run A s₀ w) {j : Nat} {t : Task} {p : Act (Option Response)}
    (hj : w.jobs j = some (t, p)) (hp : p.done = false) : Knows t (hist j w.log) w.st := by
  refine System.Reachable.assertion Task.follows Task.overlaps_comm Knows ?_ ?_ ?_ ?_ ?_ h j t p hj hp
  · intro t s hadm c hc
    refine ⟨?_, fun d hd => absurd hd (by simp [knownDeviceId])⟩
    cases t with
    | connect c' =>
      obtain rfl : c' = c := by simpa [Task.connection] using hc
      simp [server, Task.begin, Task.phase, Server.setSocket, Server.setChannel]
    | close c' =>
      obtain rfl : c' = c := by simpa [Task.connection] using hc
      simp [server, Task.begin, Task.phase, Server.setSocket]
    | message c' m =>
      obtain rfl : c' = c := by simpa [Task.connection] using hc
      simpa [server, Task.admitted, Task.begin, Task.phase] using hadm
    | malformed c' e =>
      obtain rfl : c' = c := by simpa [Task.connection] using hc
      simpa [server, Task.admitted, Task.begin, Task.phase] using hadm
    | http req => simp [Task.connection] at hc
  · exact fun t h o d s hJ _ => hJ.own o d
  · intro t h t' h' o d s hcon hJ _ hmay c hc
    obtain ⟨hphase, hknown⟩ := hJ c hc
    refine ⟨(Op.exec_phase o d s c).trans hphase, fun x hx => ?_⟩
    exact (myDeviceId_of_other hmay (connection_ne hcon hc) d s).trans (hknown x hx)
  · intro t h t' s hcon hJ _ c hc
    show ((t'.begin s).socket c).phase = _ ∧ ∀ d, _ → ((t'.begin s).socket c).myDeviceId = d
    rw [begin_socket (connection_ne hcon hc)]
    exact hJ c hc
  · intro t h e s hk hJ
    cases e with
    | sendTaskStops c' => exact hJ
    | restart => exact absurd hk (by simp [server])

/-! ## §2. No two connections hold one device id. -/

/-- Where the ids the connections hold come from. -/
def Ids (v : ServerView) : Prop :=
  ∀ c d, (v.st.socket c).myDeviceId = some d → (v.st.socket c).phase ≠ .fresh
    ∧ ∃ j t, t.connection = some c ∧ Event.call j t ⟨.generateDeviceId, d⟩ ∈ v.log

theorem ids {A : Assumption Op Op.Res Draw Task Env} {db : Db} {config : Config} {files : Files}
    {w : ServerWorld} (h : Run A (Server.start db config files) w) : Ids w.toView := by
  refine System.Reachable.rule Task.follows Ids ?_ ?_ ?_ ?_ h
  · intro c d hc
    simp [Server.start] at hc
  · intro w t _ hI _ c d hc
    obtain ⟨hphase, j, t', ht', hm⟩ := hI c d (begin_myDeviceId hc)
    exact ⟨begin_phase hphase, j, t', ht', List.mem_cons_of_mem _ hm⟩
  · intro w j t o k d hr hI hj hmay _ c x hc
    rw [show ((server.callView j t o d w.toView).2.st.socket c).myDeviceId
      = _ from Op.exec_myDeviceId o d w.st c] at hc
    have hold : (w.st.socket c).myDeviceId = some x →
        ((o.exec d w.st).2.socket c).phase ≠ .fresh ∧ ∃ j' t', t'.connection = some c ∧
          Event.call j' t' ⟨.generateDeviceId, x⟩ ∈ (server.callView j t o d w.toView).2.log := by
      intro hc
      obtain ⟨hphase, j', t', ht', hm⟩ := hI c x hc
      exact ⟨by rwa [Op.exec_phase], j', t', ht', List.mem_cons_of_mem _ hm⟩
    cases o with
    | setMyDeviceId c' y =>
      by_cases hcc : c' = c
      · subst hcc
        obtain rfl : y = x := by simpa using hc
        obtain ⟨name, account, rfl, -, hgen, -⟩ := hmay
        refine ⟨?_, j, _, rfl, List.mem_cons_of_mem _ (hr.event_of_hist hj hgen)⟩
        show (((Op.setMyDeviceId c' y).exec d w.st).2.socket c').phase ≠ .fresh
        rw [Op.exec_phase, (knows hr hj rfl c' rfl).1]
        exact Phase.noConfusion
      · exact hold (by simpa [hcc] using hc)
    | _ => exact hold hc
  · intro w e _ hI c d hc
    cases e with
    | sendTaskStops c' =>
      obtain ⟨hphase, j, t, ht, hm⟩ := hI c d hc
      exact ⟨hphase, j, t, ht, List.mem_cons_of_mem _ hm⟩
    | restart =>
      have hsock : (w.st.restart.socket c).myDeviceId = some d := hc
      simp only [Server.restart] at hsock
      by_cases hf : (w.st.socket c).phase = .fresh
      · rw [if_pos hf] at hsock
        exact absurd hf (hI c d hsock).1
      · rw [if_neg hf] at hsock
        obtain ⟨-, j, t, ht, hm⟩ := hI c d hsock
        refine ⟨?_, j, t, ht, List.mem_cons_of_mem _ hm⟩
        show (w.st.restart.socket c).phase ≠ .fresh
        simp [Server.restart, hf]

/-- **No two connections hold one device id.** -/
theorem Ids.unique {db : Db} {config : Config} {files : Files} {w : ServerWorld}
    (h : Run freshIds (Server.start db config files) w) {c c' : ConnectionId} {d : DeviceId}
    (hc : (w.st.socket c).myDeviceId = some d) (hc' : (w.st.socket c').myDeviceId = some d) :
    c = c' := by
  obtain ⟨-, j, t, ht, hm⟩ := ids h c d hc
  obtain ⟨-, j', t', ht', hm'⟩ := ids h c' d hc'
  obtain ⟨-, rfl⟩ := deviceId_unique h hm hm'
  exact Option.some.inj (ht.symm.trans ht')

/-! ## §3. Entries belong to their connections. -/

/-- A device id once held is held for good. -/
theorem myDeviceId_stays {A : Assumption Op Op.Res Draw Task Env} {db : Db} {config : Config}
    {files : Files} {w w' : ServerWorld} (h : Run A (Server.start db config files) w)
    (hs : server.Step A w w') {c : ConnectionId} {d : DeviceId}
    (hc : (w.st.socket c).myDeviceId = some d) : (w'.st.socket c).myDeviceId = some d := by
  have hphase := (ids h c d hc).1
  cases hs with
  | start t hadm _ =>
    show ((t.begin w.st).socket c).myDeviceId = some d
    by_cases ht : t.connection = some c
    · cases t with
      | connect c' =>
        obtain rfl : c' = c := by simpa [Task.connection] using ht
        exact absurd (of_decide_eq_true hadm) hphase
      | close c' =>
        obtain rfl : c' = c := by simpa [Task.connection] using ht
        simpa [Task.begin, Server.setSocket] using hc
      | _ => exact hc
    · rwa [begin_socket ht]
  | @call j t o k draw hj _ =>
    have hmay := h.next_licensed Task.follows hj
    show ((o.exec draw w.st).2.socket c).myDeviceId = some d
    rw [Op.exec_myDeviceId]
    cases o with
    | setMyDeviceId c' y =>
      obtain ⟨name, account, rfl, hknown, -⟩ := hmay
      have hne : c' ≠ c := by
        rintro rfl
        have := (knows h hj rfl c' rfl).2 none hknown
        rw [hc] at this
        exact absurd this (by simp)
      simp only [hne, if_false]
      exact hc
    | _ => exact hc
  | env e =>
    cases e with
    | sendTaskStops c' => exact hc
    | restart =>
      show (w.st.restart.socket c).myDeviceId = some d
      simp only [Server.restart, hphase, if_false]
      exact hc

/-- Every entry belongs to the connection that holds its id. -/
structure Online (w : ServerWorld) : Prop where
  owner : ∀ d c, w.st.deviceOnline d = some c → (w.st.socket c).myDeviceId = some d
  inserted : ∀ d c, w.st.deviceOnline d = some c → ∃ j name,
    Event.call j (.message c (.registerDevice name)) ⟨.deviceOnlineInsert d c, ()⟩ ∈ w.log
  password : ∀ d v, w.st.otp d = some v → ∃ c, (w.st.socket c).myDeviceId = some d

theorem online {A : Assumption Op Op.Res Draw Task Env} {db : Db} {config : Config}
    {files : Files} {w : ServerWorld} (h : Run A (Server.start db config files) w) : Online w := by
  refine System.Reachable.invariant Online ?_ ?_ h
  · exact ⟨fun d c hd => absurd hd (by simp [World.initial, Server.start]),
      fun d c hd => absurd hd (by simp [World.initial, Server.start]),
      fun d v hd => absurd hd (by simp [World.initial, Server.start])⟩
  intro w w' hr hI hs
  -- an entry that was there before keeps its owner and its event
  have hstays : ∀ d c, (w.st.socket c).myDeviceId = some d →
      (w'.st.socket c).myDeviceId = some d := fun d c => myDeviceId_stays hr hs
  have hlog : ∀ e, e ∈ w.log → e ∈ w'.log := by
    obtain ⟨e, he⟩ := hs.log_eq
    exact fun e' he' => he ▸ List.mem_cons_of_mem _ he'
  have hkeep : ∀ d c, w.st.deviceOnline d = some c → ∃ j name,
      Event.call j (.message c (.registerDevice name)) ⟨.deviceOnlineInsert d c, ()⟩ ∈ w'.log := by
    intro d c hd
    obtain ⟨j, name, hm⟩ := hI.inserted d c hd
    exact ⟨j, name, hlog _ hm⟩
  have hkeepOtp : ∀ d v, w.st.otp d = some v → ∃ c, (w'.st.socket c).myDeviceId = some d := by
    intro d v hd
    obtain ⟨c, hc⟩ := hI.password d v hd
    exact ⟨c, hstays d c hc⟩
  cases hs with
  | start t _ _ =>
    have hd := begin_deviceOnline t w.st
    exact ⟨fun d c h => hstays d c (hI.owner d c (hd ▸ h)), fun d c h => hkeep d c (hd ▸ h),
      fun d v h => hkeepOtp d v (begin_otp t w.st ▸ h)⟩
  | @call j t o k draw hj _ =>
    have hmay := hr.next_licensed Task.follows hj
    refine ⟨fun d c hd => ?_, fun d c hd => ?_, fun d v hd => ?_⟩
    · rcases Op.exec_deviceOnline_some o draw w.st hd with rfl | hd
      · obtain ⟨name, rfl, hknown, -⟩ := hmay
        exact hstays d c ((knows hr hj rfl c rfl).2 _ hknown)
      · exact hstays d c (hI.owner d c hd)
    · rcases Op.exec_deviceOnline_some o draw w.st hd with rfl | hd
      · obtain ⟨name, rfl, -⟩ := hmay
        exact ⟨j, name, List.mem_cons_self⟩
      · exact hkeep d c hd
    · rcases Op.exec_otp_some o draw w.st hd with rfl | hd
      · obtain ⟨c, name, rfl, hknown⟩ := hmay
        exact ⟨c, hstays d c ((knows hr hj rfl c rfl).2 _ hknown)⟩
      · exact hkeepOtp d v hd
  | env e =>
    cases e with
    | sendTaskStops c' =>
      exact ⟨fun d c h => hstays d c (hI.owner d c h), hkeep, hkeepOtp⟩
    | restart =>
      refine ⟨fun d c hd => ?_, fun d c hd => ?_, fun d v hd => ?_⟩
      · exact absurd hd (Option.some_ne_none c).symm
      · exact absurd hd (Option.some_ne_none c).symm
      · exact absurd hd (Option.some_ne_none v).symm

/-! ## §4. What is left after a disconnect. -/

/-- A cleanup of `c` is under way, and has yet to perform an operation of kind `P`. -/
def Pending (P : Op → Prop) (c : ConnectionId) (w : ServerWorld) : Prop :=
  ∃ j p, w.jobs j = some (.close c, p) ∧ p.done = false ∧ ∀ x ∈ hist j w.log, ¬ P x.op

/-- What a step makes of it: still under way, performed, or over without. -/
theorem Pending.step {A : Assumption Op Op.Res Draw Task Env} {s₀ : Server} {w w' : ServerWorld}
    (h : Run A s₀ w) {P : Op → Prop} {c : ConnectionId} (hp : Pending P c w)
    (hs : server.Step A w w') :
    Pending P c w' ∨ w'.st = w.st.restart
      ∨ (∃ o draw, w'.st = (o.exec draw w.st).2 ∧ P o ∧ ∃ j k, w.jobs j = some (.close c, .call o k))
      ∨ (w'.st.socket c).myDeviceId = none
      ∨ ∃ j d r, (∀ x ∈ hist j w'.log, ¬ P x.op) ∧ Did (hist j w'.log) (.deviceOnlineRemove d) r
        ∧ Did (hist j w'.log) (.otpRemove d) () := by
  have h' : Run A s₀ w' := h.tail hs
  obtain ⟨j, p, hj, hp, hno⟩ := hp
  cases hs with
  | start t _ _ =>
    have hlt := h.numbered.job_lt j _ p hj
    exact .inl ⟨j, p, (Function.update_of_ne (Nat.ne_of_lt hlt) _ _).trans hj, hp, hno⟩
  | @call i t o k draw hi _ =>
    by_cases hij : j = i
    · subst hij
      obtain ⟨rfl, rfl⟩ := Prod.mk.inj (Option.some.inj (hj.symm.trans hi))
      by_cases hPo : P o
      · exact .inr (.inr (.inl ⟨o, draw, rfl, hPo, j, k, hi⟩))
      -- the cleanup has gone one step further, and has not performed it yet
      have hno' : ∀ x ∈ hist j (.call j (.close c) ⟨o, (o.exec draw w.st).1⟩ :: w.log), ¬ P x.op := by
        intro x hx
        rw [hist_own] at hx
        rcases List.mem_cons.mp hx with rfl | hx
        · exact hPo
        · exact hno x hx
      have hnext := Function.update_self j (some (Task.close c, k (o.exec draw w.st).1)) w.jobs
      cases hk : k (o.exec draw w.st).1 with
      | call o' k' => exact .inl ⟨j, _, hnext, by rw [hk]; rfl, hno'⟩
      | ret a =>
        have hdone : Done (.close c) (hist j (.call j (.close c) ⟨o, (o.exec draw w.st).1⟩ :: w.log)) :=
          h'.finished Task.follows (hnext.trans (by rw [hk]))
        rw [hist_own] at hdone
        rcases hdone with hnone | ⟨d, r, -, hd, ho⟩
        · exact .inr (.inr (.inr (.inl ((((knows h hi rfl).own o draw) c rfl).2 none hnone))))
        · rw [← hist_own j (.close c)] at hd ho
          exact .inr (.inr (.inr (.inr ⟨j, d, r, hno', hd, ho⟩)))
    · refine .inl ⟨j, p, (Function.update_of_ne hij _ _).trans hj, hp, ?_⟩
      intro x hx
      exact hno x (by rwa [← hist_other (fun h => hij h.symm) t _ w.log])
  | env e =>
    cases e with
    | sendTaskStops c' => exact .inl ⟨j, p, hj, hp, hno⟩
    | restart => exact .inr (.inl rfl)

/-- What the cleanup takes out of `device_online`, and out of `otp`. -/
def removesOnline : Op → Prop
  | .deviceOnlineRemove _ => True
  | _ => False

def removesOtp : Op → Prop
  | .otpRemove _ => True
  | _ => False

/-- A connection that has ended has left nothing behind, or its cleanup is
still under way. -/
structure Gone (w : ServerWorld) : Prop where
  online : ∀ c, (w.st.socket c).phase = .ended →
    (∀ d, w.st.deviceOnline d ≠ some c) ∨ Pending removesOnline c w
  password : ∀ c d, (w.st.socket c).phase = .ended → (w.st.socket c).myDeviceId = some d →
    w.st.otp d = none ∨ Pending removesOtp c w

/-- A step that ends no connection but those whose cleanup it starts. -/
theorem ended_before {A : Assumption Op Op.Res Draw Task Env} {s₀ : Server} {w w' : ServerWorld}
    (h : Run A s₀ w) (hs : server.Step A w w') {c : ConnectionId} (hc : (w'.st.socket c).phase = .ended) :
    (w.st.socket c).phase = .ended ∨ (∀ P, Pending P c w') ∨ w'.st = w.st.restart := by
  cases hs with
  | start t hadm _ =>
    by_cases ht : t.connection = some c
    · cases t with
      | close c' =>
        obtain rfl : c' = c := by simpa [Task.connection] using ht
        refine .inr (.inl fun P => ⟨w.next, _, Function.update_self _ _ _, rfl, fun x hx => ?_⟩)
        have hnil : hist w.next (.start w.next (.close c') :: w.log) = [] := h.numbered.hist_next
        exact absurd (hnil ▸ hx) List.not_mem_nil
      | connect c' =>
        obtain rfl : c' = c := by simpa [Task.connection] using ht
        simp [System.startView, server, Task.begin, Server.setSocket, Server.setChannel] at hc
      | message | malformed => exact .inl hc
      | http => exact .inl hc
    · have hc' : ((t.begin w.st).socket c).phase = .ended := hc
      rw [begin_socket ht] at hc'
      exact .inl hc'
  | call draw _ _ => exact .inl ((Op.exec_phase _ draw w.st c).symm.trans hc)
  | env e =>
    cases e with
    | sendTaskStops c' => exact .inl hc
    | restart => exact .inr (.inr rfl)

/-- New entries are made by connections that have not ended. -/
theorem entry_before {A : Assumption Op Op.Res Draw Task Env} {s₀ : Server} {w w' : ServerWorld}
    (h : Run A s₀ w) (hs : server.Step A w w') {c : ConnectionId} {d : DeviceId}
    (hd : w'.st.deviceOnline d = some c) :
    w.st.deviceOnline d = some c ∨ (w.st.socket c).phase = .live := by
  cases hs with
  | start t _ _ => exact .inl (begin_deviceOnline t w.st ▸ hd)
  | @call j t o k draw hj _ =>
    rcases Op.exec_deviceOnline_some o draw w.st hd with rfl | hd
    · obtain ⟨name, rfl, -⟩ := h.next_licensed Task.follows hj
      exact .inr (knows h hj rfl c rfl).1
    · exact .inl hd
  | env e =>
    cases e with
    | sendTaskStops c' => exact .inl hd
    | restart => exact absurd hd (Option.some_ne_none c).symm

theorem password_before {A : Assumption Op Op.Res Draw Task Env} {s₀ : Server} {w w' : ServerWorld}
    (h : Run A s₀ w) (hs : server.Step A w w') {d : DeviceId} {v : String}
    (hd : w'.st.otp d = some v) : w.st.otp d = some v
      ∨ ∃ c, (w.st.socket c).phase = .live ∧ (w.st.socket c).myDeviceId = some d := by
  cases hs with
  | start t _ _ => exact .inl (begin_otp t w.st ▸ hd)
  | @call j t o k draw hj _ =>
    rcases Op.exec_otp_some o draw w.st hd with rfl | hd
    · obtain ⟨c, name, rfl, hknown⟩ := h.next_licensed Task.follows hj
      obtain ⟨hphase, hk⟩ := knows h hj rfl c rfl
      exact .inr ⟨c, hphase, hk _ hknown⟩
    · exact .inl hd
  | env e =>
    cases e with
    | sendTaskStops c' => exact .inl hd
    | restart => exact absurd hd (Option.some_ne_none v).symm

/-- A connection that has ended takes no new id. -/
theorem held_before {A : Assumption Op Op.Res Draw Task Env} {s₀ : Server} {w w' : ServerWorld}
    (h : Run A s₀ w) (hs : server.Step A w w') {c : ConnectionId} {d : DeviceId}
    (hd : (w'.st.socket c).myDeviceId = some d) :
    (w.st.socket c).myDeviceId = some d ∨ (w.st.socket c).phase = .live := by
  cases hs with
  | start t _ _ => exact .inl (begin_myDeviceId hd)
  | @call j t o k draw hj _ =>
    have hmay := h.next_licensed Task.follows hj
    by_cases ht : t.connection = some c
    · cases o with
      | setMyDeviceId c' x =>
        obtain ⟨name, account, rfl, -⟩ := hmay
        obtain rfl : c' = c := by simpa [Task.connection] using ht
        exact .inr (knows h hj rfl c' rfl).1
      | _ => exact .inl ((Op.exec_myDeviceId _ draw w.st c).symm.trans hd)
    · exact .inl ((myDeviceId_of_other hmay ht draw w.st).symm.trans hd)
  | env e =>
    cases e with
    | sendTaskStops c' => exact .inl hd
    | restart =>
      have hd' : (w.st.restart.socket c).myDeviceId = some d := hd
      simp only [Server.restart] at hd'
      split at hd' <;> exact .inl hd'

theorem gone {db : Db} {config : Config} {files : Files} {w : ServerWorld}
    (h : Run freshIds (Server.start db config files) w) : Gone w := by
  refine System.Reachable.invariant Gone ?_ ?_ h
  · exact ⟨fun c hc => absurd hc (by simp [World.initial, Server.start]),
      fun c d hc => absurd hc (by simp [World.initial, Server.start])⟩
  intro w w' hr hI hs
  have hon' := online (hr.tail hs)
  refine ⟨fun c hc => ?_, fun c d hc hd => ?_⟩
  · rcases ended_before hr hs hc with hend | hpend | hrestart
    · have hlive : (w.st.socket c).phase ≠ .live := by simp [hend]
      rcases hI.online c hend with hclean | hpend
      · exact .inl fun d hd => hclean d ((entry_before hr hs hd).resolve_right hlive)
      · rcases hpend.step hr hs with hp | hrestart | ⟨o, draw, hst, hPo, j, k, hj⟩ | hnone
          | ⟨j, d, r, hno, hdid, -⟩
        · exact .inr hp
        · exact .inl fun d => by rw [hrestart]; exact (Option.some_ne_none c).symm
        · left
          cases o with
          | deviceOnlineRemove x =>
            obtain ⟨c', hcc, hknown⟩ | hrem := hr.next_licensed Task.follows hj
            · injection hcc with hcc
              subst hcc
              have hx := (knows hr hj rfl c rfl).2 _ hknown
              intro d hd
              have hd₀ := (entry_before hr hs hd).resolve_right hlive
              obtain rfl : x = d := Option.some.inj (hx.symm.trans ((online hr).owner d c hd₀))
              rw [hst, Op.exec_deviceOnline] at hd
              simp at hd
            · rcases hrem with ⟨_, h⟩ | ⟨_, _, h⟩ <;> exact absurd h (by simp)
          | _ => exact hPo.elim
        · exact .inl fun d hd => by
            rw [hon'.owner d c hd] at hnone
            exact absurd hnone (by simp)
        · exact absurd trivial (hno _ hdid)
    · exact .inr (hpend _)
    · exact .inl fun d => by rw [hrestart]; exact (Option.some_ne_none c).symm
  · rcases ended_before hr hs hc with hend | hpend | hrestart
    · have hlive : (w.st.socket c).phase ≠ .live := by simp [hend]
      have hd₀ := (held_before hr hs hd).resolve_right hlive
      rcases hI.password c d hend hd₀ with hnone | hpend
      · left
        cases hv : w'.st.otp d with
        | none => rfl
        | some v =>
          rcases password_before hr hs hv with hv | ⟨c', hlive', hc'⟩
          · rw [hnone] at hv
            exact absurd hv (by simp)
          · obtain rfl := Ids.unique hr hd₀ hc'
            exact absurd hlive' hlive
      · rcases hpend.step hr hs with hp | hrestart | ⟨o, draw, hst, hPo, j, k, hj⟩ | hnone
          | ⟨j, d', r, hno, -, hdid⟩
        · exact .inr hp
        · exact .inl (by rw [hrestart]; rfl)
        · left
          cases o with
          | otpRemove x =>
            obtain ⟨c', r, hcc, hknown, -⟩ | hrem := hr.next_licensed Task.follows hj
            · injection hcc with hcc
              subst hcc
              have hx := (knows hr hj rfl c rfl).2 _ hknown
              obtain rfl : x = d := Option.some.inj (hx.symm.trans hd₀)
              rw [hst, Op.exec_otp]
              simp
            · rcases hrem with ⟨_, h⟩ | ⟨_, _, h⟩ <;> exact absurd h (by simp)
          | _ => exact hPo.elim
        · rw [hd] at hnone
          exact absurd hnone (by simp)
        · exact absurd trivial (hno _ hdid)
    · exact .inr (hpend _)
    · exact .inl (by rw [hrestart]; rfl)

/-- `handle_socket` of `c` is over. -/
def CleanedUp (c : ConnectionId) (w : ServerWorld) : Prop :=
  (w.st.socket c).phase = .ended ∧ ∀ j p, w.jobs j = some (.close c, p) → p.done = true

theorem CleanedUp.step {A : Assumption Op Op.Res Draw Task Env} {w w' : ServerWorld}
    {c : ConnectionId} (hc : CleanedUp c w) (hs : server.Step A w w') : CleanedUp c w' := by
  obtain ⟨hphase, hdone⟩ := hc
  cases hs with
  | start t hadm _ =>
    have ht : t.connection ≠ some c := by
      intro ht
      cases t with
      | http req => simp [Task.connection] at ht
      | connect | message | malformed | close =>
        obtain rfl := Option.some.inj ht
        have := of_decide_eq_true hadm
        rw [hphase] at this
        exact absurd this (by simp)
    refine ⟨?_, fun j p hj => ?_⟩
    · show ((t.begin w.st).socket c).phase = .ended
      rwa [begin_socket ht]
    · dsimp only at hj
      by_cases hjn : j = w.next
      · subst hjn
        simp only [Function.update_self, Option.some.injEq, Prod.mk.injEq] at hj
        exact absurd (by rw [hj.1]; rfl) ht
      · rw [Function.update_of_ne hjn] at hj
        exact hdone j p hj
  | @call i t o k draw hi _ =>
    refine ⟨(Op.exec_phase o draw w.st c).trans hphase, fun j p hj => ?_⟩
    dsimp only at hj
    by_cases hji : j = i
    · subst hji
      simp only [Function.update_self, Option.some.injEq, Prod.mk.injEq] at hj
      obtain ⟨rfl, -⟩ := hj
      exact absurd (hdone j _ hi) Bool.false_ne_true
    · rw [Function.update_of_ne hji] at hj
      exact hdone j p hj
  | env e =>
    cases e with
    | sendTaskStops c' => exact ⟨hphase, hdone⟩
    | restart =>
      refine ⟨?_, fun j p hj => absurd hj (by simp [server])⟩
      show (w.st.restart.socket c).phase = .ended
      simp [Server.restart, hphase]

theorem CleanedUp.stays {A : Assumption Op Op.Res Draw Task Env} {w w' : ServerWorld}
    {c : ConnectionId} (hc : CleanedUp c w) (h : server.Reachable A w w') : CleanedUp c w' := by
  induction h with
  | refl => exact hc
  | tail _ hs ih => exact ih.step hs

omit [Crates] in
theorem CleanedUp.not_pending {w : ServerWorld} {c : ConnectionId} (hc : CleanedUp c w)
    (P : Op → Prop) : ¬ Pending P c w := by
  rintro ⟨j, p, hj, hp, -⟩
  rw [hc.2 j p hj] at hp
  exact absurd hp (by simp)

/-- Nothing is online at a connection whose cleanup is over. -/
theorem CleanedUp.offline {db : Db} {config : Config} {files : Files} {w : ServerWorld}
    (h : Run freshIds (Server.start db config files) w) {c : ConnectionId} (hc : CleanedUp c w)
    (d : DeviceId) : w.st.deviceOnline d ≠ some c :=
  ((gone h).online c hc.1).resolve_right (hc.not_pending _) d

/-- The entry `d → c` was made by a `RegisterDevice` of `c`, which held `d` then. -/
def InsertedItself (d : DeviceId) (c : ConnectionId) (s₀ : Server) (w : ServerWorld) : Prop :=
  ∃ j name w₁ w₂, Run freshIds s₀ w₁ ∧ server.Step freshIds w₁ w₂
    ∧ server.Reachable freshIds w₂ w
    ∧ w₂.log = .call j (.message c (.registerDevice name)) ⟨.deviceOnlineInsert d c, ()⟩ :: w₁.log
    ∧ (w₁.st.socket c).myDeviceId = some d

theorem insertedItself {db : Db} {config : Config} {files : Files} {w : ServerWorld}
    (h : Run freshIds (Server.start db config files) w) {d : DeviceId} {c : ConnectionId}
    (hd : w.st.deviceOnline d = some c) :
    InsertedItself d c (Server.start db config files) w := by
  obtain ⟨j, name, hm⟩ := (online h).inserted d c hd
  obtain ⟨w₁, w₂, h1, hs, h2, hlog⟩ := h.moment hm
  obtain ⟨draw, k, hj, -⟩ := hs.of_call hlog
  obtain ⟨name', heq, hknown, -⟩ := h1.next_licensed Task.follows hj
  exact ⟨j, name, w₁, w₂, h1, hs, h2, hlog, (knows h1 hj rfl c rfl).2 _ hknown⟩

/-- Only `c` itself, a device deletion or a restart touches the entries of the
device that `c` holds. -/
theorem touched_by {db : Db} {config : Config} {files : Files} {w w' : ServerWorld}
    (h : Run freshIds (Server.start db config files) w) {c : ConnectionId} {d : DeviceId}
    (hc : (w.st.socket c).myDeviceId = some d) (hs : server.Step freshIds w w')
    (hne : w'.st.deviceOnline d ≠ w.st.deviceOnline d ∨ w'.st.otp d ≠ w.st.otp d) :
    (∃ j t call, w'.log = .call j t call :: w.log ∧ (t.connection = some c ∨ t.removes d))
      ∨ w'.log = .env .restart :: w.log := by
  cases hs with
  | start t _ _ =>
    rcases hne with hne | hne
    · exact absurd (congrFun (begin_deviceOnline t w.st) d) hne
    · exact absurd (congrFun (begin_otp t w.st) d) hne
  | @call j t o k draw hj _ =>
    have hmay := h.next_licensed Task.follows hj
    -- whoever holds `d` is `c`
    have hsame : ∀ c', t.connection = some c' → knownDeviceId c' (hist j w.log) = some (some d) →
        t.connection = some c := by
      intro c' ht hknown
      rw [Ids.unique h hc ((knows h hj rfl c' ht).2 _ hknown)]
      exact ht
    refine .inl ⟨j, t, _, rfl, ?_⟩
    rcases hne with hne | hne
    · rcases Op.exec_deviceOnline_ne o draw w.st hne with ⟨c', rfl⟩ | rfl
      · obtain ⟨name, ht, hknown, -⟩ := hmay
        exact .inl (hsame c' (by rw [ht]; rfl) hknown)
      · rcases hmay with ⟨c', ht, hknown⟩ | hrem
        · exact .inl (hsame c' (by rw [ht]; rfl) hknown)
        · exact .inr hrem
    · rcases Op.exec_otp_ne o draw w.st hne with ⟨v, rfl⟩ | rfl
      · obtain ⟨c', name, ht, hknown⟩ := hmay
        exact .inl (hsame c' (by rw [ht]; rfl) hknown)
      · rcases hmay with ⟨c', r, ht, hknown, -⟩ | hrem
        · exact .inl (hsame c' (by rw [ht]; rfl) hknown)
        · exact .inr hrem
  | env e =>
    cases e with
    | sendTaskStops c' => exact absurd rfl (hne.resolve_left fun h => h rfl)
    | restart => exact .inr rfl

/-! ## §5. No ghost and no stolen presence. -/

/-- **Presence is never a ghost and never stolen.**  In every interleaving,
with fresh ids: an entry was made by the connection it names, which held the
id; once `handle_socket` of `c` is over, no entry of `c` is there in any later
state; and while `c` holds `d`, only `c` itself or a deletion of `d` touches
what is stored for `d` (or a restart, which ends `c`). -/
theorem no_ghost_no_stolen_presence {db : Db} {config : Config} {files : Files} {w : ServerWorld}
    (h : Run freshIds (Server.start db config files) w) :
    (∀ d c, w.st.deviceOnline d = some c →
      (w.st.socket c).myDeviceId = some d ∧ InsertedItself d c (Server.start db config files) w)
    ∧ (∀ c, CleanedUp c w → ∀ w', server.Reachable freshIds w w' →
      (∀ d, w'.st.deviceOnline d ≠ some c)
        ∧ ∀ d, (w'.st.socket c).myDeviceId = some d → w'.st.otp d = none)
    ∧ ∀ c d w', (w.st.socket c).myDeviceId = some d → server.Step freshIds w w' →
      w'.st.deviceOnline d ≠ w.st.deviceOnline d ∨ w'.st.otp d ≠ w.st.otp d →
      (∃ j t call, w'.log = .call j t call :: w.log ∧ (t.connection = some c ∨ t.removes d))
        ∨ w'.log = .env .restart :: w.log := by
  refine ⟨fun d c hd => ⟨(online h).owner d c hd, insertedItself h hd⟩, ?_,
    fun c d w' hc hs hne => touched_by h hc hs hne⟩
  intro c hclean w' hww'
  have hclean' : CleanedUp c w' := hclean.stays hww'
  exact ⟨hclean'.offline (h.trans hww'), fun d hd =>
    ((gone (h.trans hww')).password c d hclean'.1 hd).resolve_right (hclean'.not_pending _)⟩

end

section Schedule

open scoped Transparent

/-- A host connects, registers an account and then its device. -/
def hostOnline : List ServerMove :=
  .start (.connect "host") :: steps 0 1
    ++ .start (.message "host" (.register "host@example.com" "pw")) :: steps 1 8
    ++ .start (.message "host" (.registerDevice "pc")) :: steps 2 9

theorem hostOnline_plays :
    (server.playAll freshIds hostOnline (World.initial (Server.blank true))).isSome = true := by
  decide +kernel

theorem no_ghost_no_stolen_presence_host : ∃ w, Run freshIds (Server.blank true) w
    ∧ w.st.deviceOnline "002 003 004" = some "host"
    ∧ InsertedItself "002 003 004" "host" (Server.blank true) w := by
  have h : Run freshIds (Server.blank true) (Option.get _ hostOnline_plays) :=
    System.playAll_reachable .refl (Option.some_get hostOnline_plays).symm
  have hd : (Option.get _ hostOnline_plays).st.deviceOnline "002 003 004" = some "host" := by
    decide +kernel
  exact ⟨_, h, hd, ((no_ghost_no_stolen_presence h).1 _ _ hd).2⟩

end Schedule

end Visuara.Signaling
