/-
  Visuara.Signaling.Pairing
  ─────────────────────────
  **THE LIFE OF A PAIRING SESSION.**

  `RequestConnection` writes a record into `sessions`; the events that should
  end the session, the disconnect of either end and the removal of the device,
  happen in other handlers, none of which looks at `sessions`.

    • `task_linked`   — a new record pairs two open connections, and those are
      in `connections` until they close;
    • `sessions_live_with_their_ends` — the ends of every record stay there
      exactly as long as neither disconnects; and a removed device is no longer
      negotiated with if its sessions had lost an end when it was removed;
    • `session_outlives_its_ends` — runs in which neither is so.
-/
import Visuara.Signaling.Ownership
import Visuara.Signaling.Presence

namespace Visuara.Signaling

open Interleave Relational

/-! ## §1. Both ends of a record. -/

/-- Both ends of every session are connected. -/
def Paired (s : Server) : Prop :=
  ∀ k p, s.sessions k = some p →
    (s.connections p.a).isSome = true ∧ (s.connections p.b).isSome = true

/-- The connection is an end of no session. -/
def Server.Unpaired (s : Server) (c : ConnectionId) : Prop :=
  ∀ k p, s.sessions k = some p → p.a ≠ c ∧ p.b ≠ c

/-- Open connections are in `connections`, devices are online over open ones,
and the ends of the sessions are in a phase that `P` admits. -/
structure Linked (P : Phase → Prop) (s : Server) : Prop where
  connected : ∀ c, (s.socket c).phase = .live → (s.connections c).isSome = true
  online : ∀ d c, s.deviceOnline d = some c →
    (s.socket c).phase = .live ∧ (s.socket c).myDeviceId = some d
  ends : ∀ k p, s.sessions k = some p → P (s.socket p.a).phase ∧ P (s.socket p.b).phase

theorem Linked.paired {s : Server} (h : Linked (· = .live) s) : Paired s := by
  intro k p hp
  exact ⟨h.connected _ (h.ends k p hp).1, h.connected _ (h.ends k p hp).2⟩

/-- What a task can rely on while it runs alone: it knows its connection, and
the hosts it has found online are open. -/
structure Linking (P : Phase → Prop) (t : Task) (h : Calls) (s : Server) : Prop
    extends Linked P s where
  knows : Knows t h s
  found : ∀ d b, Did h (.deviceOnlineGet d) (some b) → (s.socket b).phase = .live

section

variable [Crates] {A : Server → Op → Draw → Prop} {s : Server} {P : Phase → Prop}

/-- **One operation** that takes no connection out. -/
theorem Linking.step {t : Task} {h : Calls} {o : Op} (hlive : P .live) (hI : Linking P t h s)
    (hmay : May t h o) (ho : ∀ c, o ≠ .connectionsRemove c) (d : Draw) :
    Linking P t (⟨o, (o.exec d s).1⟩ :: h) (o.exec d s).2 where
  connected := by
    intro c hlive
    rw [Op.exec_phase] at hlive
    have hthere := hI.connected c hlive
    rw [Op.exec_connections]
    cases o with
    | connectionsInsert c' tx =>
      by_cases hc : c = c'
      · rw [hc]
        simp
      · simpa [Function.update_of_ne hc] using hthere
    | connectionsRemove c' => exact absurd rfl (ho c')
    | _ => exact hthere
  online := by
    intro x c hx
    rw [Op.exec_phase, Op.exec_myDeviceId]
    rcases Op.exec_deviceOnline_some o d s hx with rfl | hold
    · -- a connection puts itself online, as the device it knows to be its own
      obtain ⟨name, rfl, hknown, -⟩ := hmay
      obtain ⟨hphase, hmine⟩ := hI.knows c rfl
      exact ⟨hphase, hmine _ hknown⟩
    · obtain ⟨hlive, hmine⟩ := hI.online x c hold
      refine ⟨hlive, ?_⟩
      cases o with
      | setMyDeviceId c' y =>
        -- whoever obtains a device had none, and so was not online
        obtain ⟨name, account, rfl, hnone, -⟩ := hmay
        have hno := (hI.knows c' rfl).2 _ hnone
        by_cases hc : c' = c
        · subst hc
          exact absurd (hno.symm.trans hmine) (by simp)
        · simpa [hc] using hmine
      | _ => exact hmine
  ends := by
    intro k p hp
    rw [Op.exec_phase, Op.exec_phase]
    rcases Op.exec_sessions_some o d s hp with rfl | hold
    · -- the requester, and a host that was online
      obtain ⟨x, credential, rfl, hrequested, -⟩ := hmay
      have ha : (s.socket p.a).phase = .live := (hI.knows p.a rfl).1
      rw [ha, hI.found x p.b hrequested.online]
      exact ⟨hlive, hlive⟩
    · exact hI.ends k p hold
  knows := hI.knows.own o d
  found := by
    intro x b hm
    rw [Op.exec_phase]
    rcases List.mem_cons.mp hm with heq | hm
    · obtain ⟨rfl, hres⟩ := Call.mk.inj heq
      have hget : s.deviceOnline x = some b := (eq_of_heq hres).symm
      exact (hI.online x b hget).1
    · exact hI.found x b hm

/-! ## §2. Turns. -/

omit [Crates] in
/-- A new connection is not yet anywhere. -/
theorem linked_connect {c : ConnectionId} (hno : ¬ P .fresh) (h : Linked P s)
    (hfresh : (s.socket c).phase = .fresh) :
    Linked P { (s.setSocket c ⟨.live, .unauthenticated, none⟩).setChannel c ⟨true, []⟩ with
      connections := s.connections.insert c c } where
  connected := by
    intro c' hlive
    by_cases hc : c' = c
    · subst hc
      simp
    · have hlive' : (Function.update s.socket c ⟨.live, .unauthenticated, none⟩ c').phase = .live :=
        hlive
      rw [Function.update_of_ne hc] at hlive'
      simpa [Function.update_of_ne hc] using h.connected c' hlive'
  online := by
    intro d c' hd
    obtain ⟨hlive, hmine⟩ := h.online d c' hd
    have hc : c' ≠ c := by
      intro hc
      rw [hc, hfresh] at hlive
      exact absurd hlive (by simp)
    simpa [Server.setSocket, Server.setChannel, Function.update_of_ne hc] using ⟨hlive, hmine⟩
  ends := by
    intro k p hp
    obtain ⟨ha, hb⟩ := h.ends k p hp
    have hne : ∀ x, P (s.socket x).phase → x ≠ c := by
      intro x hx hc
      rw [hc, hfresh] at hx
      exact hno hx
    simpa [Server.setSocket, Server.setChannel, Function.update_of_ne (hne _ ha),
      Function.update_of_ne (hne _ hb)] using ⟨ha, hb⟩

/-- What the end of a connection leaves: the connection is out of `connections`,
and its device offline. -/
structure Closed (c : ConnectionId) (s s' : Server) : Prop where
  socket : s'.socket = Function.update s.socket c { s.socket c with phase := .ended }
  connections : s'.connections = s.connections.remove c
  sessions : s'.sessions = s.sessions
  online : ∀ d x, s'.deviceOnline d = some x →
    s.deviceOnline d = some x ∧ (s.socket c).myDeviceId ≠ some d

theorem wp_closeSocket {c : ConnectionId} :
    Prog.wp Op.exec A (closeSocket c) (fun _ s' => Closed c s s')
      (s.setSocket c { s.socket c with phase := .ended }) := by
  simp only [closeSocket, perform, Prog.perform_bind]
  intro draw₁ _ draw₂ _
  simp only [Op.exec]
  cases hmine : ((s.setSocket c { s.socket c with phase := .ended }).socket c).myDeviceId with
  | none =>
    have hmine' : (s.socket c).myDeviceId = none := by simpa [Server.setSocket] using hmine
    intro draw₃ _
    refine ⟨rfl, rfl, rfl, fun d x hd => ⟨hd, ?_⟩⟩
    simp [hmine']
  | some own =>
    have hmine' : (s.socket c).myDeviceId = some own := by simpa [Server.setSocket] using hmine
    intro draw₃ _ draw₄ _ draw₅ _
    refine ⟨rfl, rfl, rfl, fun d x hd => ?_⟩
    have hd' : Function.update s.deviceOnline own none d = some x := hd
    by_cases hown : d = own
    · subst hown
      rw [Function.update_self] at hd'
      exact absurd hd' (by simp)
    · rw [Function.update_of_ne hown] at hd'
      refine ⟨hd', fun heq => hown ?_⟩
      exact Option.some.inj (heq.symm.trans hmine')

/-- The turn that ends a connection. -/
theorem task_close {c : ConnectionId} : Prog.wp Op.exec A (server.body (.close c))
    (fun _ s' => Closed c s s') (server.begins (.close c) s) := by
  show Prog.wp _ _ (closeSocket c >>= fun _ => pure none) _ _
  rw [Prog.wp_bind]
  exact Prog.wp_mono wp_closeSocket fun _ _ hs' => hs'

omit [Crates] in
/-- A connection that closes leaves the maps linked, if it was an end of no
session or its new phase will do. -/
theorem Linked.closed {c : ConnectionId} {s' : Server} (h : Linked P s)
    (hfree : P .ended ∨ s.Unpaired c) (hclosed : Closed c s s') : Linked P s' := by
  have hother : ∀ x, x ≠ c → s'.socket x = s.socket x := by
    intro x hx
    rw [hclosed.socket, Function.update_of_ne hx]
  have hended : (s'.socket c).phase = .ended := by
    rw [hclosed.socket, Function.update_self]
  constructor
  · intro x hlive
    by_cases hx : x = c
    · rw [hx, hended] at hlive
      exact absurd hlive (by simp)
    · rw [hother x hx] at hlive
      rw [hclosed.connections]
      simpa [Function.update_of_ne hx] using h.connected x hlive
  · intro d x hd
    obtain ⟨hold, hnot⟩ := hclosed.online d x hd
    obtain ⟨hlive, hmine⟩ := h.online d x hold
    have hx : x ≠ c := by
      rintro rfl
      exact hnot hmine
    rw [hother x hx]
    exact ⟨hlive, hmine⟩
  · intro k p hp
    rw [hclosed.sessions] at hp
    have hend : ∀ x, (x = p.a ∨ x = p.b) → P (s.socket x).phase → P (s'.socket x).phase := by
      intro x hx hPx
      by_cases hxc : x = c
      · rw [hxc, hended]
        rcases hfree with hP | hfree
        · exact hP
        · rcases hx with hx | hx
          · exact absurd (hx.symm.trans hxc) (hfree k p hp).1
          · exact absurd (hx.symm.trans hxc) (hfree k p hp).2
      · rwa [hother x hxc]
    obtain ⟨ha, hb⟩ := h.ends k p hp
    exact ⟨hend _ (.inl rfl) ha, hend _ (.inr rfl) hb⟩

/-- **Every turn keeps the maps linked**, under the same condition. -/
theorem task_linked (hlive : P .live) (hno : ¬ P .fresh) (t : Task) (h : Linked P s)
    (hadm : t.admitted s = true) (hfree : P .ended ∨ ∀ c, t = .close c → s.Unpaired c) :
    Prog.wp Op.exec A (server.body t) (fun _ s' => Linked P s') (server.begins t s) := by
  by_cases hopen : ∃ c, t = .connect c
  · obtain ⟨c, rfl⟩ := hopen
    intro draw _
    exact linked_connect hno h (of_decide_eq_true hadm)
  by_cases hclose : ∃ c, t = .close c
  · obtain ⟨c, rfl⟩ := hclose
    exact Prog.wp_mono task_close fun _ _ hclosed =>
      h.closed (hfree.imp_right fun hfree => hfree c rfl) hclosed
  -- all other turns start where the last one ended
  have hbegin : server.begins t s = s := by
    cases t with
    | connect c => exact absurd ⟨c, rfl⟩ hopen
    | close c => exact absurd ⟨c, rfl⟩ hclose
    | _ => rfl
  rw [hbegin]
  have honly : Only t.performs (server.body t) ([] : Calls) := t.only
  refine Prog.wp_mono (Prog.wp_of_licensed (J := Linking P t) (t.follows.and honly) ?_ ?_) ?_
  · intro h s o d ho _ hI
    refine hI.step hlive ho.1 (fun c heq => hclose ?_) d
    rw [heq] at ho
    cases t with
    | close c => exact ⟨c, rfl⟩
    | message c m => cases m <;> exact absurd ho.2 Bool.false_ne_true
    | http req => cases req <;> exact absurd ho.2 Bool.false_ne_true
    | _ => exact absurd ho.2 Bool.false_ne_true
  · refine ⟨h, fun c hc => ⟨?_, fun d hd => absurd hd (by simp [knownDeviceId])⟩,
      fun _ _ hm => absurd hm List.not_mem_nil⟩
    cases t with
    | connect c' => exact absurd ⟨c', rfl⟩ hopen
    | close c' => exact absurd ⟨c', rfl⟩ hclose
    | http req => exact absurd hc (by simp [Task.connection])
    | message c' m | malformed c' e =>
      obtain rfl : c' = c := by simpa [Task.connection] using hc
      exact of_decide_eq_true hadm
  · intro _ s' h
    obtain ⟨_, _, hI⟩ := h
    exact hI.toLinked

/-- A connection that has been taken out of `connections` does not come back. -/
theorem task_disconnected (t : Task) {c : ConnectionId} (h : s.connections c = none)
    (hused : (s.socket c).phase ≠ .fresh) (hadm : t.admitted s = true) :
    Prog.wp Op.exec A (server.body t) (fun _ s' => s'.connections c = none)
      (server.begins t s) := by
  have hbegin : (server.begins t s).connections c = none := by
    cases t <;> exact h
  refine Prog.wp_mono (Prog.wp_of_licensed (J := fun _ s' => s'.connections c = none)
    t.follows ?_ hbegin) fun _ _ hI => ?_
  · intro h s' o d hmay _ hI
    rw [Op.exec_connections]
    cases o with
    | connectionsInsert c' tx =>
      -- only a connection that has just been made is entered
      obtain ⟨rfl, -⟩ := hmay
      have hne : c ≠ c' := by
        rintro rfl
        exact hused (of_decide_eq_true hadm)
      simpa [Function.update_of_ne hne] using hI
    | connectionsRemove c' =>
      by_cases hc : c = c'
      · rw [hc]
        simp
      · simpa [Function.update_of_ne hc] using hI
    | _ => exact hI
  · obtain ⟨_, -, hI⟩ := hI
    exact hI

/-! ## §3. Relaying under a session. -/

/-- Only a request for a connection writes `sessions`. -/
theorem task_sessions {t : Task} (ht : ∀ c d credential,
      t ≠ .message c (.requestConnection d credential)) :
    Prog.wp Op.exec A (server.body t) (fun _ s' => s'.sessions = s.sessions)
      (server.begins t s) := by
  have hbegin : (server.begins t s).sessions = s.sessions := by
    cases t <;> rfl
  have honly : Only t.performs (server.body t) ([] : Calls) := t.only
  refine Prog.wp_of_follows honly (fun s' o draw ho _ hI => ?_) hbegin
  rw [Op.exec_sessions]
  cases o with
  | sessionsInsert k p =>
    cases t with
    | message c m =>
      cases m with
      | requestConnection d credential => exact absurd rfl (ht c d credential)
      | _ => exact absurd ho Bool.false_ne_true
    | http req => cases req <;> exact absurd ho Bool.false_ne_true
    | _ => exact absurd ho Bool.false_ne_true
  | _ => exact hI

/-- No message removes a row. -/
theorem task_keepsRow {c : ConnectionId} {m : ClientMessage} {d : DeviceId}
    (h : s.db.HasDevice d) : Prog.wp Op.exec A (server.body (.message c m))
      (fun _ s' => s'.db.HasDevice d) s := by
  have honly : Only (Task.performs (.message c m)) (server.body (.message c m)) ([] : Calls) :=
    Task.only _
  refine Prog.wp_of_follows honly (fun s' o draw ho _ hI => Db.HasDevice.exec_op hI ?_ draw) h
  cases o with
  | db q =>
    cases q with
    | deleteDevice | deleteAccount => cases m <;> exact absurd ho Bool.false_ne_true
    | _ => rfl
  | _ => rfl

omit [Crates] in
/-- If session `k` is recorded, one of its ends is gone. -/
def Severed (k : SessionId) (s : Server) : Prop :=
  ∀ p, s.sessions k = some p → s.connections p.a = none ∨ s.connections p.b = none

/-- Under such a session nothing is relayed. -/
theorem wp_relay_severed {c : ConnectionId} {k : SessionId} {msg : ServerMessage}
    (hk : Severed k s) (hc : (s.connections c).isSome = true) :
    Prog.wp Op.exec A (relay c k msg).run (fun r s' => (∃ e, r = .error e) ∧ s' = s) s := by
  have hthere : s.connections c ≠ none := by
    intro hnone
    rw [hnone] at hc
    exact absurd hc (by simp)
  simp only [relay, Handler.perform_bind, Handler.okOr_bind]
  intro draw _
  simp only [Op.exec]
  cases hp : s.sessions k with
  | none => exact ⟨⟨_, rfl⟩, rfl⟩
  | some p =>
    dsimp only
    cases hother : p.other c with
    | none => exact ⟨⟨_, rfl⟩, rfl⟩
    | some other =>
      -- the sender is there, so it is the other end that is gone
      have hgone : s.connections other = none := by
        unfold SessionPeers.other at hother
        split at hother
        next ha =>
          rw [← Option.some.inj hother]
          exact (hk p hp).resolve_left (by rwa [ha])
        next =>
          split at hother
          next hb =>
            rw [← Option.some.inj hother]
            exact (hk p hp).resolve_right (by rwa [hb])
          next => exact absurd hother (by simp)
      intro draw₂ _
      simp only [Op.exec, hgone]
      exact ⟨⟨_, rfl⟩, rfl⟩

omit [Crates] in
theorem relays_of_sends {t : Task} {x : ConnectionId} {k : SessionId} {msg : ServerMessage}
    (h : t.sends x msg = true) (hmsg : msg.relayedUnder = some k) :
    ∃ c m, t = .message c m ∧ m.relayed = some (k, msg) := by
  cases t with
  | message c m =>
    refine ⟨c, m, rfl, ?_⟩
    -- the message is in the queue as the handler has built it
    have hany : (m.relayed.any fun r => r.2 = msg) = true := by
      cases msg with
      | sdpOffer | sdpAnswer | iceCandidate => cases m <;> exact h
      | _ => exact absurd hmsg (by simp [ServerMessage.relayedUnder])
    obtain ⟨⟨k', msg'⟩, hm, hmsg'⟩ := (Option.any_eq_true _ _).mp hany
    obtain rfl : msg' = msg := of_decide_eq_true hmsg'
    have hunder : msg'.relayedUnder = some k' := by
      cases m with
      | sdpOffer | sdpAnswer | iceCandidate =>
        simp only [ClientMessage.relayed, Option.some.injEq, Prod.mk.injEq] at hm
        obtain ⟨rfl, rfl⟩ := hm
        rfl
      | _ => exact absurd hm (by simp [ClientMessage.relayed])
    rw [hm, Option.some.inj (hunder.symm.trans hmsg)]
  | http req =>
    cases msg with
    | sdpOffer | sdpAnswer | iceCandidate => cases req <;> exact absurd h Bool.false_ne_true
    | _ => exact absurd hmsg (by simp [ServerMessage.relayedUnder])
  | _ =>
    cases msg with
    | sdpOffer | sdpAnswer | iceCandidate => exact absurd h Bool.false_ne_true
    | _ => exact absurd hmsg (by simp [ServerMessage.relayedUnder])

end

/-- The turn passed a message on under session `k`. -/
def PassesOn (turn : ServerTurn) (k : SessionId) : Prop :=
  ∃ x msg, Enqueues turn x msg ∧ msg.relayedUnder = some k

section

variable [Crates] {B : Op → Draw → Bool} {s : Server} {l : List ServerTurn}

theorem not_passesOn {turn : ServerTurn} (hran : turn.Ran server B) {k : SessionId}
    (hlinked : Linked (· ≠ .fresh) turn.before) (hk : Severed k turn.before) : ¬ PassesOn turn k := by
  intro h
  obtain ⟨x, msg, hsent, hmsg⟩ := h
  obtain ⟨c, m, ht, hm⟩ := relays_of_sends (sends_of_enqueues hran hsent) hmsg
  have hconnected : (turn.before.connections c).isSome = true := by
    have hadm := hran.admitted
    rw [ht] at hadm
    exact hlinked.connected c (of_decide_eq_true hadm)
  obtain ⟨sent, hqueue, hin⟩ := hsent
  have herror : ∃ e, (turn.after.channel x).queue = (turn.before.channel x).queue
      ∨ (turn.after.channel x).queue = (turn.before.channel x).queue ++ [.error e] := by
    refine hran.sound (Q := fun _ s' => ∃ e, (s'.channel x).queue = (turn.before.channel x).queue
      ∨ (s'.channel x).queue = (turn.before.channel x).queue ++ [.error e]) ?_
    rw [ht]
    refine wp_message ?_
    have hrelay : (handleMessage c m).run = (relay c k msg).run := by
      cases m with
      | sdpOffer | sdpAnswer | iceCandidate =>
        simp only [ClientMessage.relayed, Option.some.injEq, Prod.mk.injEq] at hm
        obtain ⟨rfl, rfl⟩ := hm
        rfl
      | _ => exact absurd hm (by simp [ClientMessage.relayed])
    rw [onMessage_eq, hrelay, Prog.wp_bind]
    refine Prog.wp_mono (wp_relay_severed hk hconnected) fun r s' hr => ?_
    obtain ⟨⟨e, rfl⟩, rfl⟩ := hr
    intro draw _
    refine ⟨e, ?_⟩
    show (((Op.send c (.error e)).exec draw turn.before).2.channel x).queue = _
      ∨ (((Op.send c (.error e)).exec draw turn.before).2.channel x).queue = _
    rw [Op.exec_channel]
    dsimp only
    split
    · by_cases hx : x = c
      · subst hx
        exact .inr (by rw [Function.update_self])
      · exact .inl (by rw [Function.update_of_ne hx])
    · exact .inl rfl
  obtain ⟨e, hsame | hadded⟩ := herror
  · have hnil : sent = [] :=
      List.append_cancel_left ((hqueue.symm.trans hsame).trans (List.append_nil _).symm)
    rw [hnil] at hin
    exact absurd hin List.not_mem_nil
  · rw [List.append_cancel_left (hqueue.symm.trans hadded), List.mem_singleton] at hin
    rw [hin] at hmsg
    exact absurd hmsg (by simp [ServerMessage.relayedUnder])

/-! ## §4. Runs. -/

omit [Crates] in
/-- The device for which session `k` was recorded last. -/
def establishedFor (k : SessionId) : List ServerTurn → Option DeviceId
  | [] => none
  | turn :: l =>
    if turn.after.sessions k = turn.before.sessions k then establishedFor k l
    else match turn.task with
      | .message _ (.requestConnection d _) => some d
      | _ => none

omit [Crates] in
/-- **When a removal spares the sessions.**  Every session that was established
for the device whose row the turn removes has lost an end, if it is recorded. -/
def SparesSessions (turn : ServerTurn) (l : List ServerTurn) : Prop :=
  ∀ d, Removes turn d → ∀ k, establishedFor k l = some d → Severed k turn.before

theorem removes_http {turn : ServerTurn} (hran : turn.Ran server B) {d : DeviceId}
    (h : Removes turn d) : ∀ c m, turn.task ≠ .message c m := by
  intro c m ht
  refine h.2 (hran.sound (Q := fun _ s' => s'.db.HasDevice d) ?_)
  rw [ht]
  exact task_keepsRow h.1

variable {db : Db} {config : Config} {files : Files} {P : Phase → Prop}

omit [Crates] in
theorem linked_start : Linked P (Server.start db config files) where
  connected := fun _ hlive => absurd hlive (by simp [Server.start])
  online := fun _ _ hd => absurd hd (by simp [Server.start])
  ends := fun _ _ hp => absurd hp (by simp [Server.start])

omit [Crates] in
theorem linked_disturb (e : Env) (h : Linked P s) : Linked P (e.disturb s) := by
  cases e with
  | sendTaskStops c => exact ⟨h.connected, h.online, h.ends⟩
  | restart =>
    constructor
    · intro c hlive
      simp only [Env.disturb, Server.restart] at hlive
      split at hlive
      next hfresh => exact absurd (hfresh.symm.trans hlive) (by simp)
      next => exact absurd hlive (by simp)
    · intro d c hd
      exact absurd hd.symm (Option.some_ne_none c)
    · intro k p hp
      exact absurd hp.symm (Option.some_ne_none p)

/-- The maps are linked in every run. -/
theorem serial_linked (h : server.Serial B (Server.start db config files) l s) :
    Linked (· ≠ .fresh) s ∧ ∀ turn ∈ l, Linked (· ≠ .fresh) turn.before :=
  h.invariant linked_start (fun turn _ hran hI => hran.sound (task_linked (by simp) (by simp)
    turn.task hI hran.admitted (.inl (by simp)))) fun e _ => linked_disturb e

/-- The ends of every session are connected in every state of a run, exactly
if no end of a session disconnects. -/
theorem paired_iff (h : server.Serial B (Server.start db config files) l s) :
    (Paired s ∧ ∀ turn ∈ l, Paired turn.before ∧ Paired turn.after)
      ↔ ∀ turn ∈ l, ∀ c, turn.task = .close c → turn.before.Unpaired c := by
  constructor
  · intro hpaired turn hturn c ht k p hp
    have hclosed := (h.ran hturn).sound (Q := fun _ s' => Closed c turn.before s')
      (by rw [ht]; exact task_close)
    -- the record stays, but the connection is gone
    have hp' : turn.after.sessions k = some p := hclosed.sessions ▸ hp
    obtain ⟨ha, hb⟩ := (hpaired.2 turn hturn).2 k p hp'
    rw [hclosed.connections] at ha hb
    constructor
    · intro hc
      rw [hc] at ha
      simp at ha
    · intro hc
      rw [hc] at hb
      simp at hb
  · intro hfree
    have hkeep : ∀ turn ∈ l, turn.Ran server B → Linked (· = .live) turn.before →
        Linked (· = .live) turn.after := fun turn hturn hran hI =>
      hran.sound (task_linked (P := (· = .live)) rfl (by simp) turn.task hI hran.admitted
        (.inr (hfree turn hturn)))
    obtain ⟨hs, hl⟩ := h.invariant linked_start hkeep fun e _ => linked_disturb e
    refine ⟨hs.paired, fun turn hturn => ⟨(hl turn hturn).paired, ?_⟩⟩
    exact (hkeep turn hturn (h.ran hturn) (hl turn hturn)).paired

/-- A session that has lost an end does not get it back. -/
theorem severed_turn {turn : ServerTurn} (hran : turn.Ran server B) {k : SessionId}
    (hlinked : Linked (· ≠ .fresh) turn.before) (hk : Severed k turn.before)
    (hsame : turn.after.sessions k = turn.before.sessions k) : Severed k turn.after := by
  intro p hp
  rw [hsame] at hp
  obtain ⟨ha, hb⟩ := hlinked.ends k p hp
  rcases hk p hp with hgone | hgone
  · exact .inl (hran.sound (task_disconnected turn.task hgone ha hran.admitted))
  · exact .inr (hran.sound (task_disconnected turn.task hgone hb hran.admitted))

/-- **Sessions live only as long as both ends**, whatever fails: the ends of
every record are connected in every state of a serial run if and only if no end
of a session disconnects; and in a run in which every session of a device has
lost an end when the device is removed, nothing is relayed any more under a
session that had been established for a removed device. -/
theorem sessions_live_with_their_ends (h : server.Serial B (Server.start db config files) l s) :
    ((Paired s ∧ ∀ turn ∈ l, Paired turn.before ∧ Paired turn.after)
      ↔ ∀ turn ∈ l, ∀ c, turn.task = .close c → turn.before.Unpaired c)
    ∧ ((∀ l₁ turn l₂, l = l₁ ++ turn :: l₂ → SparesSessions turn l₂) →
      ∀ l₁ u l₂ v l₃ d k, l = l₁ ++ u :: (l₂ ++ v :: l₃) → Removes v d →
        establishedFor k l₃ = some d → (∀ w ∈ l₂, w.after.sessions k = w.before.sessions k) →
        ¬ PassesOn u k) := by
  refine ⟨paired_iff h, ?_⟩
  intro hspares l₁ u l₂ v l₃ d k hl hremoves hfor hsame
  have hv : v ∈ l := by
    rw [hl]
    simp
  have hranv := h.ran hv
  have hlinked := (serial_linked h).2
  have hlost : Severed k v.before :=
    hspares (l₁ ++ u :: l₂) v l₃ (by rw [hl]; simp) d hremoves k hfor
  -- the removal records nothing, and neither does any turn up to `u`
  have hkept : v.after.sessions = v.before.sessions :=
    hranv.sound (task_sessions fun c d credential => removes_http hranv hremoves c _)
  have hafter : Severed k v.after := severed_turn hranv (hlinked v hv) hlost (by rw [hkept])
  have hlater := (h.upTo hl).later (I := Severed k) rfl hafter (fun w hw hran hI => ?_)
    fun e s hI => ?_
  · have hu : u ∈ l := hl ▸ List.mem_append_right _ List.mem_cons_self
    exact not_passesOn (h.ran hu) (hlinked u hu) hlater.1
  · have hw' : w ∈ l := by
      rw [hl]
      simp [hw]
    exact severed_turn hran (hlinked w hw') hI (hsame w hw)
  · cases e with
    | sendTaskStops c => exact hI
    | restart => exact fun _ _ => .inl rfl

end

section Schedule

open scoped Transparent

/-- Ann's device. -/
def pc : DeviceId := generateDeviceId (Draw.from 7).rng

/-- The session that Bob's connection obtains. -/
def pairing : SessionId := newV4 (Draw.from 9).rng

/-- Bob's connection is paired with Ann's host. -/
def pairUp : List (Task × List Draw) :=
  openAndRegister ++ [(.connect "h", [Draw.from 5]),
    (.message "h" (.login "ann@example.com" "pw"), List.replicate 5 (Draw.from 6)),
    (.message "h" (.registerDevice "pc"), List.replicate 9 (Draw.from 7)),
    (.message "c" (.requestConnection pc
      (.oneTimePassword (generateOneTimePassword (Draw.from 7).rng))),
      List.replicate 9 (Draw.from 9))]

/-- Bob's connection closes. -/
def pairAndClose : List (Task × List Draw) :=
  pairUp ++ [(.close "c", List.replicate 5 (Draw.from 10))]

/-- Ann removes the device, and Bob's connection sends an offer. -/
def pairAndRemove : List (Task × List Draw) :=
  pairUp ++ [(.http (.deleteOwn annHeaders pc), List.replicate 9 (Draw.from 10)),
    (.message "c" (.sdpOffer pairing "offer"), List.replicate 4 (Draw.from 11))]

def Task.closes : Task → Bool
  | .close _ => true
  | _ => false

/-- No connection closes, and the two ends are in a session. -/
theorem pairUp_shows : (server.serveAll pairUp ([], Server.blank true)).any (fun r =>
    (r.1.all fun turn => !turn.task.closes)
      && decide (r.2.sessions pairing = some ⟨"c", "h"⟩)) = true := by
  decide +kernel

/-- The session outlives one of its ends. -/
theorem pairAndClose_shows : (server.serveAll pairAndClose ([], Server.blank true)).any (fun r =>
    decide (r.2.sessions pairing = some ⟨"c", "h"⟩ ∧ r.2.connections "c" = none)) = true := by
  decide +kernel

/-- The last turn passes the offer on; the one before it removes the device. -/
theorem pairAndRemove_shows : (server.serveAll pairAndRemove ([], Server.blank true)).any (fun r =>
    (r.1[0]?.any fun turn => decide ((turn.after.channel "h").queue
        = (turn.before.channel "h").queue ++ [.sdpOffer pairing "offer"]))
      && (r.1[1]?.any fun turn => decide (turn.before.db.HasDevice pc
        ∧ ¬ turn.after.db.HasDevice pc))
      && decide (establishedFor pairing (r.1.drop 2) = some pc)) = true := by
  decide +kernel

theorem pairUp_served : (server.serveAll pairUp ([], Server.blank true)).isSome = true :=
  Option.isSome_of_any pairUp_shows

theorem pairUp_serial : server.Serial dbWorks (Server.blank true)
    (Option.get _ pairUp_served).1 (Option.get _ pairUp_served).2 :=
  served_serial (by decide +kernel) pairUp_served

theorem sessions_live_with_their_ends_pairing :
    (Option.get _ pairUp_served).2.sessions pairing = some ⟨"c", "h"⟩
      ∧ Paired (Option.get _ pairUp_served).2 := by
  have hshows := get_of_any pairUp_shows pairUp_served
  simp only [Bool.and_eq_true, decide_eq_true_eq] at hshows
  obtain ⟨hopen, hrecord⟩ := hshows
  refine ⟨hrecord, ?_⟩
  refine ((sessions_live_with_their_ends pairUp_serial).1.mpr fun turn hturn c ht => ?_).1
  -- no connection closes
  have hno := List.all_eq_true.mp hopen turn hturn
  rw [ht] at hno
  exact absurd hno (by simp [Task.closes])

/-- After the first run `sessions` names a connection that is gone; in the second
an offer is relayed to a device that has been removed. -/
theorem session_outlives_its_ends :
    (¬ ∀ l s, server.Serial dbWorks (Server.blank true) l s → Paired s)
    ∧ ¬ ∀ l s, server.Serial dbWorks (Server.blank true) l s → ∀ l₁ u l₂ v l₃ d k,
      l = l₁ ++ u :: (l₂ ++ v :: l₃) → Removes v d → establishedFor k l₃ = some d →
        (∀ w ∈ l₂, w.after.sessions k = w.before.sessions k) → ¬ PassesOn u k := by
  constructor
  · intro h
    have hserved := Option.isSome_of_any pairAndClose_shows
    have hserial := served_serial (by decide +kernel) hserved
    have hshows := get_of_any pairAndClose_shows hserved
    simp only [decide_eq_true_eq] at hshows
    obtain ⟨hrecord, hgone⟩ := hshows
    have hthere := (h _ _ hserial _ _ hrecord).1
    rw [hgone] at hthere
    exact absurd hthere (by simp)
  · intro h
    have hserved := Option.isSome_of_any pairAndRemove_shows
    have hserial := served_serial (by decide +kernel) hserved
    have hshows := get_of_any pairAndRemove_shows hserved
    simp only [Bool.and_eq_true, Option.any_eq_true, decide_eq_true_eq] at hshows
    obtain ⟨⟨⟨u, hu, hqueue⟩, v, hv, hremoves⟩, hfor⟩ := hshows
    exact h _ _ hserial [] u [] v _ pc pairing (eq_cons_cons hu hv) hremoves hfor
      (fun _ hw => absurd hw List.not_mem_nil)
      ⟨"h", .sdpOffer pairing "offer", .of_last hqueue, rfl⟩

end Schedule

end Visuara.Signaling
