/-
  Visuara.Signaling.CutOff
  ────────────────────────
  **A CONNECTION THAT HAS BEEN LOST STAYS LOST.**

  A relayed message is refused because its session is unknown, or because the
  other side can no longer be reached.  Neither happens by accident:

    • `session_kept` — a session is there as long as one of its connections is;
    • `CutOff.stays` — a connection that was not found, or whose send task has
      ended, is not reached by any later turn (`CutOff.not_sent`).
-/
import Visuara.Signaling.Queues
import Visuara.Signaling.Relay

namespace Visuara.Signaling

open Interleave

/-! ## §1. The life of a connection. -/

/-- A turn of `c` has taken it out of the fresh ones. -/
theorem begin_started {t : Task} {s : Server} {c : ConnectionId} (hadm : t.admitted s = true)
    (ht : t.connection = some c) : ((t.begin s).socket c).phase ≠ .fresh := by
  cases t with
  | connect c' =>
    obtain rfl : c' = c := Option.some.inj ht
    simp [Task.begin, Server.setSocket, Server.setChannel]
  | message | malformed | close =>
    obtain rfl := Option.some.inj ht
    have hlive := of_decide_eq_true hadm
    exact begin_phase (by rw [hlive]; exact Phase.noConfusion)
  | http => exact absurd ht.symm (Option.some_ne_none c)

theorem restart_not_live (c : ConnectionId) (s : Server) :
    (s.restart.socket c).phase ≠ .live := by
  unfold Server.restart
  by_cases hfresh : (s.socket c).phase = .fresh <;> simp [hfresh]

variable [Crates] {A : Assumption Op Op.Res Draw Task Env} {s₀ : Server} {db : Db}
  {config : Config} {files : Files} {w w' : ServerWorld}

/-- A connection that is there now was there before, or has just been made. -/
theorem live_before (hs : server.Step A w w') {c : ConnectionId}
    (hstarted : (w.st.socket c).phase ≠ .fresh) (hlive : (w'.st.socket c).phase = .live) :
    (w.st.socket c).phase = .live := by
  cases hs with
  | start t hadm _ =>
    have hlive' : ((t.begin w.st).socket c).phase = .live := hlive
    by_cases ht : t.connection = some c
    · cases t with
      | connect c' =>
        obtain rfl : c' = c := Option.some.inj ht
        exact absurd (of_decide_eq_true hadm) hstarted
      | message | malformed | close =>
        obtain rfl := Option.some.inj ht
        exact of_decide_eq_true hadm
      | http => exact absurd ht.symm (Option.some_ne_none c)
    · rwa [begin_socket ht] at hlive'
  | @call j t o k d hj hA => exact (Op.exec_phase o d w.st c).symm.trans hlive
  | env e =>
    cases e with
    | sendTaskStops c' => exact hlive
    | restart => exact absurd hlive (restart_not_live c w.st)

theorem started_stays (hs : server.Step A w w') {c : ConnectionId}
    (hstarted : (w.st.socket c).phase ≠ .fresh) : (w'.st.socket c).phase ≠ .fresh := by
  cases hs with
  | start t _ _ => exact begin_phase hstarted
  | @call j t o k d hj hA =>
    show ((o.exec d w.st).2.socket c).phase ≠ .fresh
    rwa [Op.exec_phase]
  | env e =>
    cases e with
    | sendTaskStops c' => exact hstarted
    | restart =>
      show (w.st.restart.socket c).phase ≠ .fresh
      simp [Server.restart, hstarted]

/-- What is there now was there ever since it was made. -/
theorem live_earlier (hw : server.Reachable A w w') {c : ConnectionId}
    (hstarted : (w.st.socket c).phase ≠ .fresh) (hlive : (w'.st.socket c).phase = .live) :
    (w.st.socket c).phase = .live := by
  induction hw using Relation.ReflTransGen.head_induction_on with
  | refl => exact hlive
  | head hs _ ih => exact live_before hs hstarted (ih (started_stays hs hstarted))

/-- A session is there until a restart, and no connection outlives one. -/
theorem session_kept {w₁ : ServerWorld} (h₁ : Run freshIds (Server.start db config files) w₁)
    (hw : server.Reachable freshIds w₁ w) {s : SessionId} {p : SessionPeers}
    (hp : w₁.st.sessions s = some p) {c : ConnectionId}
    (hstarted : (w₁.st.socket c).phase ≠ .fresh) :
    (w.st.socket c).phase ≠ .fresh
      ∧ ((w.st.socket c).phase = .live → w.st.sessions s = some p) := by
  induction hw with
  | refl => exact ⟨hstarted, fun _ => hp⟩
  | @tail u u' hu hs ih =>
    obtain ⟨hstarted', hkept⟩ := ih
    refine ⟨started_stays hs hstarted', fun hlive => ?_⟩
    have hsession : u.st.sessions s = some p := hkept (live_before hs hstarted' hlive)
    have hr : Run freshIds (Server.start db config files) u := h₁.trans hu
    cases hs with
    | start t _ _ =>
      have hsame : (t.begin u.st).sessions = u.st.sessions := by cases t <;> rfl
      exact (congrFun hsame s).trans hsession
    | @call i t o k d hi hA =>
      have hr' := Relation.ReflTransGen.tail hr (System.Step.call d hi hA)
      show (o.exec d u.st).2.sessions s = some p
      rw [Op.exec_sessions]
      cases o with
      | sessionsInsert s' p' =>
        by_cases hss : s = s'
        · -- no session is created twice
          subst hss
          obtain ⟨j, _, _, hm⟩ := created_session hr s p hsession
          have hpp : p' = p :=
            createSession_once hr' List.mem_cons_self (List.mem_cons_of_mem _ hm)
          rw [hpp]
          exact Function.update_self _ _ _
        · exact (Function.update_of_ne hss _ _).trans hsession
      | _ => exact hsession
    | env e =>
      cases e with
      | sendTaskStops c' => exact hsession
      | restart => exact absurd hlive (restart_not_live c u.st)

/-- The turns of a connection that is there are all among the jobs. -/
structure Retained (c : ConnectionId) (w : ServerWorld) : Prop where
  fresh : (w.st.socket c).phase = .fresh → ∀ j t, t.connection = some c → Event.start j t ∉ w.log
  live : (w.st.socket c).phase = .live → ∀ j t, t.connection = some c → Event.start j t ∈ w.log →
    ∃ p, w.jobs j = some (t, p)

theorem retained (h : Run A s₀ w) (c : ConnectionId) : Retained c w := by
  refine System.Reachable.invariant (Retained c) ?_ ?_ h
  · exact ⟨fun _ j t _ he => absurd he List.not_mem_nil,
      fun _ j t _ he => absurd he List.not_mem_nil⟩
  intro w w' hr hI hs
  have hn : System.Numbered w := System.Reachable.numbered hr
  -- what has started before is among the jobs of `w`
  have hold : (w'.st.socket c).phase = .live → ∀ {j t}, t.connection = some c →
      Event.start j t ∈ w.log → ∃ p, w.jobs j = some (t, p) := by
    intro hlive j t ht he
    by_cases hfresh : (w.st.socket c).phase = .fresh
    · exact absurd he (hI.fresh hfresh j t ht)
    · exact hI.live (live_before hs hfresh hlive) j t ht he
  have hnone : (w'.st.socket c).phase = .fresh → ∀ {j t}, t.connection = some c →
      Event.start j t ∉ w.log := by
    intro hfresh j t ht
    refine hI.fresh ?_ j t ht
    by_contra hne
    exact started_stays hs hne hfresh
  cases hs with
  | start t' hadm _ =>
    refine ⟨fun hfresh j t ht he => ?_, fun hlive j t ht he => ?_⟩
    · rcases List.mem_cons.mp he with heq | he
      · obtain ⟨-, rfl⟩ := Event.start.inj heq
        exact begin_started hadm ht hfresh
      · exact hnone hfresh ht he
    · rcases List.mem_cons.mp he with heq | he
      · obtain ⟨rfl, rfl⟩ := Event.start.inj heq
        exact ⟨_, Function.update_self _ _ _⟩
      · obtain ⟨p, hp⟩ := hold hlive ht he
        have hlt := hn.start_lt j t he
        exact ⟨p, (Function.update_of_ne (Nat.ne_of_lt hlt) _ _).trans hp⟩
  | @call i t' o k d hi hA =>
    have hstart : ∀ {j t}, Event.start j t ∈ (server.callView i t' o d w.toView).2.log →
        Event.start j t ∈ w.log := fun he => (List.mem_cons.mp he).resolve_left (by simp)
    refine ⟨fun hfresh j t ht he => hnone hfresh ht (hstart he), fun hlive j t ht he => ?_⟩
    obtain ⟨p, hp⟩ := hold hlive ht (hstart he)
    by_cases hji : j = i
    · subst hji
      obtain ⟨rfl, rfl⟩ := Prod.mk.inj (Option.some.inj (hp.symm.trans hi))
      exact ⟨_, Function.update_self _ _ _⟩
    · exact ⟨p, (Function.update_of_ne hji _ _).trans hp⟩
  | env e =>
    have hstart : ∀ {j t}, Event.start j t ∈ (server.envView e w.toView).log →
        Event.start j t ∈ w.log := fun he => (List.mem_cons.mp he).resolve_left (by simp)
    refine ⟨fun hfresh j t ht he => hnone hfresh ht (hstart he), fun hlive j t ht he => ?_⟩
    cases e with
    | sendTaskStops c' => exact hold hlive ht (hstart he)
    | restart => exact absurd hlive (restart_not_live c w.st)

/-- While a turn of a connection is not over, the connection is there. -/
theorem turn_live (h : Run A s₀ w) {c : ConnectionId} : ∀ {j m p},
    w.jobs j = some (.message c m, p) → p.done = false → (w.st.socket c).phase = .live := by
  induction h with
  | refl => exact fun hj => absurd hj.symm (Option.some_ne_none _)
  | @tail w w' hr hs ih =>
    intro j m p hj hp
    -- the job was there before, and so was the connection
    have hold : ∀ {q}, w.jobs j = some (.message c m, q) → q.done = false →
        (w.st.socket c).phase = .live := fun hq hdone => ih hq hdone
    cases hs with
    | start t hadm hfree =>
      show ((t.begin w.st).socket c).phase = .live
      dsimp only at hj
      by_cases hjn : j = w.next
      · subst hjn
        rw [Function.update_self] at hj
        obtain ⟨rfl, -⟩ := Prod.mk.inj (Option.some.inj hj)
        exact of_decide_eq_true hadm
      · rw [Function.update_of_ne hjn] at hj
        have hlive := hold hj hp
        by_cases ht : t.connection = some c
        · -- no other turn of `c` starts now
          have hconflict : t.overlaps (.message c m) = true := by
            unfold Task.overlaps
            rw [ht]
            exact decide_eq_true rfl
          have hdone := hfree j _ p hj hconflict
          exact absurd (hdone.symm.trans hp) (by simp)
        · rw [begin_socket ht]
          exact hlive
    | @call i t o k d hi hA =>
      show ((o.exec d w.st).2.socket c).phase = .live
      rw [Op.exec_phase]
      dsimp only at hj
      by_cases hji : j = i
      · subst hji
        rw [Function.update_self] at hj
        obtain ⟨rfl, -⟩ := Prod.mk.inj (Option.some.inj hj)
        exact hold hi rfl
      · rw [Function.update_of_ne hji] at hj
        exact hold hj hp
    | env e =>
      cases e with
      | sendTaskStops c' => exact hold hj hp
      | restart => exact absurd hj (by simp [server])

/-! ## §2. Cut off. -/

/-- The first turn of `c` is over. -/
def Entered (c : ConnectionId) (w : ServerWorld) : Prop :=
  (w.st.socket c).phase ≠ .fresh ∧ ∀ j p, w.jobs j = some (.connect c, p) → p.done = true

theorem Entered.step {c : ConnectionId} (h : Entered c w) (hs : server.Step A w w') :
    Entered c w' := by
  obtain ⟨hstarted, hdone⟩ := h
  refine ⟨started_stays hs hstarted, fun j p hj => ?_⟩
  cases hs with
  | start t hadm _ =>
    dsimp only at hj
    by_cases hjn : j = w.next
    · subst hjn
      rw [Function.update_self] at hj
      obtain ⟨rfl, -⟩ := Prod.mk.inj (Option.some.inj hj)
      exact absurd (of_decide_eq_true hadm) hstarted
    · rw [Function.update_of_ne hjn] at hj
      exact hdone j p hj
  | @call i t o k d hi hA =>
    dsimp only at hj
    by_cases hji : j = i
    · subst hji
      rw [Function.update_self] at hj
      obtain ⟨rfl, -⟩ := Prod.mk.inj (Option.some.inj hj)
      exact absurd (hdone j _ hi) Bool.false_ne_true
    · rw [Function.update_of_ne hji] at hj
      exact hdone j p hj
  | env e =>
    cases e with
    | sendTaskStops c' => exact hdone j p hj
    | restart => exact absurd hj (by simp [server])

/-- Whoever has sent a message has been entered before. -/
theorem entered (h : Run A (Server.start db config files) w) {c : ConnectionId} :
    ∀ {j m}, Event.start j (.message c m) ∈ w.log → Entered c w := by
  induction h with
  | refl => exact fun he => absurd he List.not_mem_nil
  | @tail w w' hr hs ih =>
    intro j m he
    obtain ⟨e, hlog⟩ := hs.log_eq
    rw [hlog] at he
    rcases List.mem_cons.mp he with rfl | he
    · refine Entered.step ?_ hs
      cases hs with
      | start t hadm hfree =>
        obtain ⟨-, rfl⟩ := Event.start.inj (List.cons.inj hlog).1
        have hlive : (w.st.socket c).phase = .live := of_decide_eq_true hadm
        refine ⟨by rw [hlive]; exact Phase.noConfusion, fun i p hi => ?_⟩
        exact hfree i _ p hi (decide_eq_true rfl)
      | call d hi hA => exact absurd (List.cons.inj hlog).1 (by simp)
      | env e => exact absurd (List.cons.inj hlog).1 (by simp)
    · exact (ih he).step hs

/-- The outbound channel of `c` has lost its receiving half. -/
def Dead (c : ConnectionId) (w : ServerWorld) : Prop :=
  (w.st.socket c).phase ≠ .fresh ∧ (w.st.channel c).alive = false

theorem Dead.step {c : ConnectionId} (h : Dead c w) (hs : server.Step A w w') : Dead c w' := by
  obtain ⟨hstarted, hdead⟩ := h
  refine ⟨started_stays hs hstarted, ?_⟩
  cases hs with
  | start t hadm _ =>
    show ((t.begin w.st).channel c).alive = false
    cases t with
    | connect c' =>
      have hne : c ≠ c' := by
        rintro rfl
        exact hstarted (of_decide_eq_true hadm)
      show (Function.update w.st.channel c' _ c).alive = false
      rwa [Function.update_of_ne hne]
    | _ => exact hdead
  | @call j t o k d hj hA => exact (exec_dead j t hdead).1
  | env e =>
    cases e with
    | sendTaskStops c' =>
      show (Function.update w.st.channel c' { w.st.channel c' with alive := false } c).alive = false
      by_cases hc : c = c'
      · subst hc
        rw [Function.update_self]
      · rwa [Function.update_of_ne hc]
    | restart => rfl

theorem Dead.stays {c : ConnectionId} (h : Dead c w) (hw : server.Reachable A w w') :
    Dead c w' := by
  induction hw with
  | refl => exact h
  | tail _ hs ih => exact ih.step hs

/-- **Nobody will reach `c` any more**: it has been taken out of `connections`, or
its channel has lost its receiving half. -/
def CutOff (c : ConnectionId) (w : ServerWorld) : Prop :=
  Entered c w ∧ (w.st.connections c = none ∨ (w.st.channel c).alive = false)

theorem CutOff.step (h : Run A s₀ w) {c : ConnectionId} (hc : CutOff c w)
    (hs : server.Step A w w') : CutOff c w' := by
  obtain ⟨hentered, hlost⟩ := hc
  refine ⟨hentered.step hs, ?_⟩
  rcases hlost with hnone | hdead
  · left
    cases hs with
    | start t _ _ =>
      have hsame : (t.begin w.st).connections = w.st.connections := by cases t <;> rfl
      exact (congrFun hsame c).trans hnone
    | @call j t o k d hj hA =>
      show (o.exec d w.st).2.connections c = none
      cases hentry : (o.exec d w.st).2.connections c with
      | none => rfl
      | some tx =>
        rcases Op.exec_connections_some o d w.st hentry with rfl | hold
        · -- only the first turn of `c` enters it
          obtain ⟨rfl, -⟩ := h.next_licensed Task.follows hj
          exact absurd (hentered.2 j _ hj) Bool.false_ne_true
        · exact absurd (hold.symm.trans hnone) (Option.some_ne_none tx)
    | env e =>
      cases e with
      | sendTaskStops c' => exact hnone
      | restart => rfl
  · exact .inr (Dead.step ⟨hentered.1, hdead⟩ hs).2

theorem CutOff.stays (h : Run A s₀ w) {c : ConnectionId} (hc : CutOff c w)
    (hw : server.Reachable A w w') : CutOff c w' := by
  induction hw with
  | refl => exact hc
  | tail hu hs ih => exact ih.step (h.trans hu) hs

/-- Who has been found has been found under its own name. -/
theorem connection_found (h : Run A (Server.start db config files) w) {j : Nat} {t : Task}
    {c : ConnectionId} {tx : Sender} (he : Event.call j t ⟨.connectionsGet c, some tx⟩ ∈ w.log) :
    tx = c := by
  obtain ⟨w₁, w₂, h₁, hs, -, hlog⟩ := h.moment he
  obtain ⟨draw, k, -, -, hfound, -⟩ := hs.of_call hlog
  exact connections_own h₁ c tx hfound.symm

/-- A turn that starts afterwards passes nothing on to it. -/
theorem CutOff.not_sent {w₁ : ServerWorld} (h₁ : Run freshIds (Server.start db config files) w₁)
    {c : ConnectionId} (hc : CutOff c w₁) (hw : server.Reachable freshIds w₁ w)
    (hs : server.Step freshIds w w') {j : Nat} (hj : w₁.next ≤ j) {t : Task} {msg : ServerMessage}
    {r : Except String Unit} (hlog : w'.log = .call j t ⟨.send c msg, r⟩ :: w.log)
    {s : SessionId} (hmsg : msg.relayedUnder = some s) : r ≠ .ok () := by
  have hr : Run freshIds (Server.start db config files) w := h₁.trans hw
  obtain ⟨draw, k, hjob, -, hres, -⟩ := hs.of_call hlog
  have hmay : May t (hist j w.log) (.send c msg) := hr.next_licensed Task.follows hjob
  have hget : ∃ other, Did (hist j w.log) (.connectionsGet other) (some c) := by
    cases msg with
    | connectionEstablished => exact absurd hmsg (by simp [ServerMessage.relayedUnder])
    | _ =>
      obtain ⟨_, _, _, other, -, -, -, -, hget⟩ := hmay s hmsg
      exact ⟨other, hget⟩
  obtain ⟨other, hget⟩ := hget
  -- the turn has looked the connection up after it was cut off, and found it
  have hnew : Event.call j t ⟨.connectionsGet other, some c⟩ ∉ w₁.log := by
    intro he
    have hlt := (System.Reachable.numbered h₁).start_lt j t
      ((System.Reachable.numbered h₁).call_start j t _ he)
    omega
  obtain rfl : c = other := connection_found hr (hr.event_of_hist hjob hget)
  obtain ⟨v₁, v₂, hv₁, hsv, hv₂, hlogv⟩ := hw.moment_after (hr.event_of_hist hjob hget) hnew
  obtain ⟨draw', k', -, -, hfound, -⟩ := hsv.of_call hlogv
  have hentry : v₁.st.connections c = some c := hfound.symm
  obtain ⟨hentered, hnone | hdead⟩ := hc.stays h₁ hv₁
  · exact absurd (hentry.symm.trans hnone) (Option.some_ne_none c)
  · have hdead' : Dead c w := (Dead.step ⟨hentered.1, hdead⟩ hsv).stays hv₂
    have hres' : r = ((Op.send c msg).exec draw w.st).1 := hres
    simp only [Op.exec, hdead'.2, Bool.false_eq_true, if_false] at hres'
    rw [hres']
    simp

/-! ## §3. The two sides of a session. -/

/-- One has asked for the connection, the other had registered a device. -/
theorem session_parties (h : Run freshIds (Server.start db config files) w) {j : Nat} {t : Task}
    {s : SessionId} {p : SessionPeers} (he : Event.call j t ⟨.sessionsInsert s p, ()⟩ ∈ w.log) :
    (∃ d credential, t = .message p.a (.requestConnection d credential))
      ∧ ∃ i name, Event.start i (.message p.b (.registerDevice name)) ∈ w.log := by
  obtain ⟨w₁, w₂, h₁, hs, h₂, hlog⟩ := h.moment he
  obtain ⟨draw, k, hj, -⟩ := hs.of_call hlog
  obtain ⟨d, credential, ht, hrequested, -⟩ := h₁.next_licensed Task.follows hj
  refine ⟨⟨d, credential, ht⟩, ?_⟩
  obtain ⟨v₁, v₂, hv₁, hsv, hv₂, hlogv⟩ := h₁.moment (h₁.event_of_hist hj hrequested.online)
  obtain ⟨draw', k', -, -, honline, -⟩ := hsv.of_call hlogv
  obtain ⟨i, name, hm⟩ := (online hv₁).inserted d p.b honline.symm
  have hlater : server.Reachable freshIds v₁ w := (hv₂.head hsv).trans (h₂.head hs)
  exact ⟨i, name, hlater.mem_log ((System.Reachable.numbered hv₁).call_start i _ _ hm)⟩

/-- Both have been entered. -/
theorem peer_entered (h : Run freshIds (Server.start db config files) w) {j : Nat} {t : Task}
    {s : SessionId} {p : SessionPeers} (he : Event.call j t ⟨.sessionsInsert s p, ()⟩ ∈ w.log)
    {x y : ConnectionId} (hother : p.other x = some y) : Entered y w := by
  obtain ⟨⟨d, credential, rfl⟩, i, name, hstart⟩ := session_parties h he
  obtain ⟨-, rfl⟩ | ⟨-, rfl⟩ := SessionPeers.other_eq_some hother
  · exact entered h hstart
  · exact entered h ((System.Reachable.numbered h).call_start j _ _ he)

end Visuara.Signaling
