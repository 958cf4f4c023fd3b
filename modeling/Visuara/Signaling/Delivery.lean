/-
  Visuara.Signaling.Delivery
  ──────────────────────────
  **WHAT BECOMES OF A MESSAGE THAT IS TO BE PASSED ON.**

  The turn of an SDP or ICE message puts it on the queue of the other side, or
  answers with an `Error`, never both (`Task.relays`).  So, read in the order in
  which the server takes the messages of one side up, those not answered with
  an `Error` are what the other side's queue holds (`delivered_in_order`).
-/
import Visuara.Signaling.CutOff
import Visuara.Signaling.Told

namespace Visuara.Signaling

open Interleave

/-! ## §1. The turns of a connection. -/

/-- The job that the event starts on a message of `c`, and the message. -/
def turn? (c : ConnectionId) : ServerEvent → Option (Nat × ClientMessage)
  | .start j (.message c' m) => if c' = c then some (j, m) else none
  | _ => none

/-- The messages of `c` the server has taken up, oldest first, with their jobs. -/
def turns (c : ConnectionId) (l : List ServerEvent) : List (Nat × ClientMessage) :=
  (l.filterMap (turn? c)).reverse

theorem turn?_eq_some {c : ConnectionId} {e : ServerEvent} {x : Nat × ClientMessage} :
    turn? c e = some x ↔ e = .start x.1 (.message c x.2) := by
  constructor
  · intro h
    unfold turn? at h
    split at h
    next j c' m =>
      split at h
      next hc =>
        obtain rfl := Option.some.inj h
        rw [hc]
      next => exact absurd h.symm (Option.some_ne_none x)
    next => exact absurd h.symm (Option.some_ne_none x)
  · rintro rfl
    exact if_pos rfl

theorem turns_cons_none {c : ConnectionId} {e : ServerEvent} (h : turn? c e = none)
    (l : List ServerEvent) : turns c (e :: l) = turns c l := by
  rw [turns, List.filterMap_cons_none h]
  rfl

theorem turns_cons_some {c : ConnectionId} {e : ServerEvent} {x : Nat × ClientMessage}
    (h : turn? c e = some x) (l : List ServerEvent) : turns c (e :: l) = turns c l ++ [x] := by
  rw [turns, List.filterMap_cons_some h, List.reverse_cons]
  rfl

theorem mem_turns {c : ConnectionId} {l : List ServerEvent} {x : Nat × ClientMessage} :
    x ∈ turns c l ↔ Event.start x.1 (.message c x.2) ∈ l := by
  rw [turns, List.mem_reverse, List.mem_filterMap]
  constructor
  · rintro ⟨e, he, hx⟩
    rwa [← turn?_eq_some.mp hx]
  · exact fun he => ⟨_, he, turn?_eq_some.mpr rfl⟩

/-! ## §2. One turn. -/

section

variable {c : ConnectionId} {s : SessionId} {msg : ServerMessage}

theorem relayedUnder_of_relayed {m : ClientMessage} (h : m.relayed = some (s, msg)) :
    msg.relayedUnder = some s := by
  cases m with
  | sdpOffer | sdpAnswer | iceCandidate =>
    simp only [ClientMessage.relayed, Option.some.injEq, Prod.mk.injEq] at h
    obtain ⟨rfl, rfl⟩ := h
    rfl
  | _ => exact absurd h (by simp [ClientMessage.relayed])

/-- The queue on which `relay` puts the message. -/
def Reached (c : ConnectionId) (s : SessionId) (h : Calls) (tx : Sender) : Prop :=
  ∃ peers other, Did h (.sessionsGet s) (some peers) ∧ peers.other c = some other
    ∧ Did h (.connectionsGet other) (some tx)

/-- Why `relay` has failed. -/
def Refused (c : ConnectionId) (s : SessionId) (msg : ServerMessage) (h : Calls) : Prop :=
  Did h (.sessionsGet s) none ∨ ∃ peers, Did h (.sessionsGet s) (some peers)
    ∧ (peers.other c = none ∨ ∃ other, peers.other c = some other
      ∧ (Did h (.connectionsGet other) none ∨ ∃ tx e, Did h (.connectionsGet other) (some tx)
        ∧ Did h (.send tx msg) (.error e)))

theorem Refused.cons {h : Calls} (hr : Refused c s msg h) (x : Call Op Op.Res) :
    Refused c s msg (x :: h) := by
  obtain hnone | ⟨peers, hget, hother⟩ := hr
  · exact .inl (List.mem_cons_of_mem _ hnone)
  · refine .inr ⟨peers, List.mem_cons_of_mem _ hget, ?_⟩
    obtain hno | ⟨other, ho, hnone | ⟨tx, e, htx, hsent⟩⟩ := hother
    · exact .inl hno
    · exact .inr ⟨other, ho, .inl (List.mem_cons_of_mem _ hnone)⟩
    · exact .inr ⟨other, ho, .inr ⟨tx, e, List.mem_cons_of_mem _ htx,
        List.mem_cons_of_mem _ hsent⟩⟩

/-- Nothing has been sent but the message, and that in vain. -/
def InVain (msg : ServerMessage) (h : Calls) : Prop :=
  ∀ tx msg' r, Did h (.send tx msg') r → msg' = msg ∧ r ≠ .ok ()

/-- What a turn that is to pass `msg` on has done before it does something. -/
def Relays (c : ConnectionId) (s : SessionId) (msg : ServerMessage) (h : Calls) (o : Op) : Prop :=
  InVain msg h ∧ ∀ tx msg', o = .send tx msg' → (msg' = msg ∧ Reached c s h tx)
    ∨ ((∃ e, msg' = .error e) ∧ tx = c ∧ Refused c s msg h)

/-- What it has done in the end: passed the message on, or answered with an `Error`. -/
def Relayed (c : ConnectionId) (s : SessionId) (msg : ServerMessage) (h : Calls) : Prop :=
  (∃ tx, Reached c s h tx ∧ Did h (.send tx msg) (.ok ()))
    ∨ (Refused c s msg h ∧ ∃ e r, Did h (.send c (.error e)) r)

/-- The function itself fails before anything is sent, or passes the message on. -/
theorem relays_relay (hmsg : ∀ e, msg ≠ .error e) : Prog.Follows (Relays c s msg)
    (fun h r => match r with
      | .ok _ => ∃ tx, Reached c s h tx ∧ Did h (.send tx msg) (.ok ())
      | .error _ => InVain msg h ∧ Refused c s msg h)
    (relay c s msg).run [] := by
  simp only [relay, Handler.perform_bind, Handler.okOr_bind, Prog.follows_call]
  refine ⟨⟨by simp [InVain], by simp⟩, fun found => ?_⟩
  cases found with
  | none => exact ⟨by simp [InVain], .inl (by simp)⟩
  | some peers =>
    dsimp only
    cases ho : peers.other c with
    | none => exact ⟨by simp [InVain], .inr ⟨peers, by simp, .inl ho⟩⟩
    | some other =>
      refine ⟨⟨by simp [InVain], by simp⟩, fun tx => ?_⟩
      cases tx with
      | none => exact ⟨by simp [InVain], .inr ⟨peers, by simp, .inr ⟨other, ho, .inl (by simp)⟩⟩⟩
      | some tx =>
        refine ⟨⟨by simp [InVain], ?_⟩, fun sent => ?_⟩
        · rintro tx' msg' heq
          obtain ⟨rfl, rfl⟩ := Op.send.inj heq
          exact .inl ⟨rfl, peers, other, by simp, ho, by simp⟩
        · cases sent with
          | ok _ => exact ⟨tx, ⟨peers, other, by simp, ho, by simp⟩, by simp⟩
          | error e =>
            refine ⟨?_, .inr ⟨peers, by simp, .inr ⟨other, ho, .inr ⟨tx, e, by simp, by simp⟩⟩⟩⟩
            intro tx' msg' r hsent
            simp only [List.mem_cons, Call.mk.injEq, Op.send.injEq] at hsent
            obtain ⟨⟨rfl, rfl⟩, hr⟩ | h | h | h := hsent
            · exact ⟨rfl, by rw [eq_of_heq hr]; simp⟩
            · exact absurd h.1 (by simp)
            · exact absurd h.1 (by simp)
            · exact absurd h List.not_mem_nil

variable [Crates]

/-- **A turn passes its message on, or answers with an `Error`.** -/
theorem Task.relays (t : Task) : Prog.Follows
    (fun h o => ∀ c m s msg, t = .message c m → m.relayed = some (s, msg) → Relays c s msg h o)
    (fun h _ => ∀ c m s msg, t = .message c m → m.relayed = some (s, msg) → Relayed c s msg h)
    (server.body t) [] := by
  by_cases ht : ∃ c m s msg, t = .message c m ∧ m.relayed = some (s, msg)
  · obtain ⟨c, m, s, msg, rfl, hm⟩ := ht
    have hmsg : ∀ e, msg ≠ .error e := by
      rintro e rfl
      exact absurd (relayedUnder_of_relayed hm) (by simp [ServerMessage.relayedUnder])
    have hhandle : handleMessage c m = relay c s msg := by
      cases m with
      | sdpOffer | sdpAnswer | iceCandidate =>
        simp only [ClientMessage.relayed, Option.some.injEq, Prod.mk.injEq] at hm
        obtain ⟨rfl, rfl⟩ := hm
        rfl
      | _ => exact absurd hm (by simp [ClientMessage.relayed])
    suffices h : Prog.Follows (Relays c s msg) (fun h _ => Relayed c s msg h)
        (server.body (.message c m)) [] by
      refine h.mono (fun h o hrel => ?_) fun h _ hrel => ?_
      all_goals
        rintro c' m' s' msg' heq hm'
        obtain ⟨rfl, rfl⟩ := Task.message.inj heq
        obtain ⟨rfl, rfl⟩ := Prod.mk.inj (Option.some.inj (hm.symm.trans hm'))
        exact hrel
    show Prog.Follows _ _ (onMessage c m >>= _) _
    rw [Prog.follows_bind, onMessage_eq, hhandle, Prog.follows_bind]
    refine (relays_relay hmsg).mono (fun _ _ h => h) fun h r hr => ?_
    cases r with
    | ok _ => exact .inl hr
    | error e =>
      obtain ⟨hvain, hrefused⟩ := hr
      refine ⟨⟨hvain, ?_⟩, fun r => ?_⟩
      · rintro tx msg' heq
        obtain ⟨rfl, rfl⟩ := Op.send.inj heq
        exact .inr ⟨⟨e, rfl⟩, rfl, hrefused⟩
      · exact .inr ⟨hrefused.cons _, e, r, by simp⟩
  · refine t.only_does.mono (fun h o _ c m s msg heq hm => ?_) fun h _ _ c m s msg heq hm => ?_
    all_goals exact absurd ⟨c, m, s, msg, heq, hm⟩ ht

end

/-! ## §3. Sessions, and what is passed on under them. -/

section

variable [Crates] {A : Assumption Op Op.Res Draw Task Env} {db : Db} {config : Config}
  {files : Files} {w : ServerWorld}

/-- A send works if and only if the receiving half is there. -/
theorem exec_send_ok {tx : Sender} {msg : ServerMessage} {d : Draw} {st : Server}
    (h : ((Op.send tx msg).exec d st).1 = .ok ()) : (st.channel tx).alive = true := by
  by_contra hdead
  rw [Op.exec, if_neg hdead] at h
  exact absurd h (by simp)

theorem exec_send_error {tx : Sender} {msg : ServerMessage} {d : Draw} {st : Server} {e : String}
    (h : ((Op.send tx msg).exec d st).1 = .error e) : (st.channel tx).alive = false := by
  by_contra halive
  rw [Op.exec, if_pos (by simpa using halive)] at h
  exact absurd h (by simp)

/-- The session `s` is, or has been, there, with the sides `p`. -/
def Opened (s : SessionId) (p : SessionPeers) (l : List ServerEvent) : Prop :=
  ∃ j t, Event.call j t ⟨.sessionsInsert s p, ()⟩ ∈ l

theorem Opened.later {w' : ServerWorld} {s : SessionId} {p : SessionPeers} (h : Opened s p w.log)
    (hw : server.Reachable freshIds w w') : Opened s p w'.log := by
  obtain ⟨j, t, he⟩ := h
  exact ⟨j, t, hw.mem_log he⟩

theorem Opened.unique (h : Run freshIds (Server.start db config files) w) {s : SessionId}
    {p p' : SessionPeers} (hp : Opened s p w.log) (hp' : Opened s p' w.log) : p = p' := by
  obtain ⟨j, t, he⟩ := hp
  obtain ⟨j', t', he'⟩ := hp'
  exact createSession_once h he he'

theorem opened_of_session (h : Run freshIds (Server.start db config files) w) {s : SessionId}
    {p : SessionPeers} (hp : w.st.sessions s = some p) : Opened s p w.log := by
  obtain ⟨j, d, credential, he⟩ := created_session h s p hp
  exact ⟨j, _, he⟩

/-- A session that has been found has been opened. -/
theorem opened_of_found (h : Run freshIds (Server.start db config files) w) {j : Nat} {t : Task}
    {s : SessionId} {p : SessionPeers} (he : Event.call j t ⟨.sessionsGet s, some p⟩ ∈ w.log) :
    Opened s p w.log := by
  obtain ⟨w₁, w₂, h₁, hs, h₂, hlog⟩ := h.moment he
  obtain ⟨draw, k, -, -, hfound, -⟩ := hs.of_call hlog
  exact (opened_of_session h₁ hfound.symm).later (h₂.head hs)

/-- A side of a session that has been found can rely on it. -/
theorem kept_of_found (h : Run freshIds (Server.start db config files) w) {j : Nat} {t : Task}
    {s : SessionId} {p : SessionPeers} (he : Event.call j t ⟨.sessionsGet s, some p⟩ ∈ w.log)
    {x y : ConnectionId} (hother : p.other x = some y)
    (hlive : (w.st.socket y).phase = .live) : w.st.sessions s = some p := by
  obtain ⟨w₁, w₂, h₁, hs, h₂, hlog⟩ := h.moment he
  obtain ⟨draw, k, -, -, hfound, -⟩ := hs.of_call hlog
  have hsession : w₁.st.sessions s = some p := hfound.symm
  obtain ⟨i, t', hins⟩ := opened_of_session h₁ hsession
  have hstarted : (w₁.st.socket y).phase ≠ .fresh := (peer_entered h₁ hins hother).1
  exact (session_kept h₁ (h₂.head hs) hsession hstarted).2 hlive

/-- Who passes a message on, and to whom. -/
theorem relayed_by (h : Run freshIds (Server.start db config files) w) {j : Nat} {t : Task}
    {y : ConnectionId} {msg : ServerMessage} {r : Except String Unit}
    (he : Event.call j t ⟨.send y msg, r⟩ ∈ w.log) {s : SessionId}
    (hmsg : msg.relayedUnder = some s) : ∃ x m p, t = .message x m ∧ m.relayed = some (s, msg)
      ∧ p.other x = some y ∧ Opened s p w.log
      ∧ ((w.st.socket y).phase = .live → w.st.sessions s = some p) := by
  obtain ⟨w₁, w₂, h₁, hs, h₂, hlog⟩ := h.moment he
  obtain ⟨draw, k, hj, -⟩ := hs.of_call hlog
  have hmay : May t (hist j w₁.log) (.send y msg) := h₁.next_licensed Task.follows hj
  have hrelay : ∃ x m peers other, t = .message x m ∧ m.relayed = some (s, msg)
      ∧ Did (hist j w₁.log) (.sessionsGet s) (some peers) ∧ peers.other x = some other
      ∧ Did (hist j w₁.log) (.connectionsGet other) (some y) := by
    cases msg with
    | connectionEstablished => exact absurd hmsg (by simp [ServerMessage.relayedUnder])
    | _ => exact hmay s hmsg
  obtain ⟨x, m, p, other, rfl, hm, hget, hother, htx⟩ := hrelay
  obtain rfl : y = other := connection_found h₁ (h₁.event_of_hist hj htx)
  have hfound := System.Reachable.mem_log (h₂.head hs) (h₁.event_of_hist hj hget)
  exact ⟨x, m, p, rfl, hm, hother, opened_of_found h hfound, kept_of_found h hfound hother⟩

/-- **What is over has arrived, unless the other side is lost.**  The turn of `x`
started when `s` was there; `x` has not ended yet. -/
theorem relayed_or_cutOff {w₁ : ServerWorld} (h₁ : Run freshIds (Server.start db config files) w₁)
    (hw : server.Reachable freshIds w₁ w) {s : SessionId} {p : SessionPeers}
    (hp : w₁.st.sessions s = some p) {x y : ConnectionId} (hother : p.other x = some y)
    (hstarted : (w₁.st.socket x).phase ≠ .fresh) (hlive : (w.st.socket x).phase = .live)
    {j : Nat} (hj : w₁.next ≤ j) {m : ClientMessage} {msg : ServerMessage}
    (hm : m.relayed = some (s, msg)) {a : Option Response}
    (hjob : w.jobs j = some (.message x m, .ret a)) : msg ∈ enqueued y w.log ∨ CutOff y w := by
  have h : Run freshIds (Server.start db config files) w := h₁.trans hw
  have hopened : Opened s p w.log := (opened_of_session h₁ hp).later hw
  have hentered : ∀ {v}, server.Reachable freshIds w₁ v → Entered y v := by
    intro v hv
    obtain ⟨i, t, he⟩ := (opened_of_session h₁ hp).later hv
    exact peer_entered (h₁.trans hv) he hother
  -- what the turn has seen, it has seen since `w₁`
  have hseen : ∀ {o : Op} {r : o.Res}, Did (hist j w.log) o r → ∃ v v' draw,
      server.Reachable freshIds w₁ v ∧ server.Step freshIds v v' ∧ server.Reachable freshIds v' w
        ∧ r = (o.exec draw v.st).1 := by
    intro o r hdid
    have hnew : Event.call j (.message x m) ⟨o, r⟩ ∉ w₁.log := by
      intro he
      have hlt := (System.Reachable.numbered h₁).start_lt j _
        ((System.Reachable.numbered h₁).call_start j _ _ he)
      omega
    obtain ⟨v, v', hv, hs, hv', hlog⟩ := hw.moment_after (h.event_of_hist hjob hdid) hnew
    obtain ⟨draw, k, -, -, hres, -⟩ := hs.of_call hlog
    exact ⟨v, v', draw, hv, hs, hv', hres⟩
  have hsame : ∀ {p'}, Did (hist j w.log) (.sessionsGet s) (some p') → p' = p := fun hget =>
    Opened.unique h (opened_of_found h (h.event_of_hist hjob hget)) hopened
  obtain ⟨tx, ⟨p', other, hget, ho, htx⟩, hsent⟩ | ⟨hrefused, -⟩ :=
    h.finished Task.relays hjob x m s msg rfl hm
  · obtain rfl := hsame hget
    obtain rfl : tx = other := connection_found h (h.event_of_hist hjob htx)
    obtain rfl : tx = y := Option.some.inj (ho.symm.trans hother)
    exact .inl (mem_enqueued.mpr ⟨j, _, h.event_of_hist hjob hsent⟩)
  · right
    obtain hnone | ⟨p', hget, hfailed⟩ := hrefused
    · -- the session has been there all the time
      obtain ⟨v, v', draw, hv, hs, hv', hres⟩ := hseen hnone
      obtain ⟨hstarted', hkept⟩ := session_kept h₁ hv hp hstarted
      have hlive' : (v.st.socket x).phase = .live := live_earlier (hv'.head hs) hstarted' hlive
      have hgone : v.st.sessions s = none := hres.symm
      exact absurd ((hkept hlive').symm.trans hgone) (Option.some_ne_none p)
    · obtain rfl := hsame hget
      obtain hno | ⟨other, ho, hlost⟩ := hfailed
      · exact absurd (hother.symm.trans hno) (Option.some_ne_none y)
      obtain rfl : y = other := Option.some.inj (hother.symm.trans ho)
      obtain hnone | ⟨tx, e, htx, hsent⟩ := hlost
      · obtain ⟨v, v', draw, hv, hs, hv', hres⟩ := hseen hnone
        have hcut : CutOff y v := ⟨hentered hv, .inl hres.symm⟩
        exact hcut.stays (h₁.trans hv) (hv'.head hs)
      · obtain rfl : tx = y := connection_found h (h.event_of_hist hjob htx)
        obtain ⟨v, v', draw, hv, hs, hv', hres⟩ := hseen hsent
        have hdead : (v.st.channel tx).alive = false := exec_send_error hres.symm
        have hcut : CutOff tx v := ⟨hentered hv, .inr hdead⟩
        exact hcut.stays (h₁.trans hv) (hv'.head hs)

/-- A request looks for the host's connection when it has opened the session. -/
def LooksUp (t : Task) (h : Calls) : Op → Prop
  | .connectionsGet b => ∀ a d credential, t = .message a (.requestConnection d credential) →
      ∃ s, Did h (.sessionsInsert s ⟨a, b⟩) ()
  | _ => True

theorem looksUp_requestConnection (c : ConnectionId) (d : DeviceId)
    (credential : ConnectCredential) :
    Prog.Follows (LooksUp (.message c (.requestConnection d credential))) (fun _ _ => True)
      (handleMessage c (.requestConnection d credential)).run [] := by
  simp only [handleMessage, requireAuth_bind, Prog.follows_call]
  refine ⟨trivial, fun st => ?_⟩
  cases st with
  | unauthenticated => trivial
  | authenticated account =>
    simp only [Handler.query_bind, Handler.okOr_bind, Prog.follows_call]
    refine ⟨trivial, fun found => ?_⟩
    rcases found with e | (_ | device)
    · trivial
    · trivial
    · refine follows_checkCredential trivial (fun _ => ⟨trivial, fun _ => trivial⟩) fun l _ _ => ?_
      simp only [Handler.perform_bind, Handler.okOr_bind, Prog.follows_call, Bool.not_true,
        Bool.false_eq_true, if_false]
      refine ⟨trivial, fun host => ?_⟩
      cases host with
      | none => trivial
      | some b =>
        refine ⟨trivial, fun s => ⟨trivial, fun _ => ⟨?_, fun tx => ?_⟩⟩⟩
        · intro a d' credential' heq
          obtain ⟨rfl, -⟩ := Task.message.inj heq
          exact ⟨s, by simp⟩
        · cases tx with
          | none => exact ⟨trivial, fun _ => trivial⟩
          | some tx =>
            refine ⟨trivial, fun sent => ?_⟩
            cases sent with
            | error e => trivial
            | ok _ => exact ⟨trivial, fun _ => trivial⟩

theorem Task.looksUp (t : Task) :
    Prog.Follows (LooksUp t) (fun _ _ => True) (server.body t) [] := by
  by_cases ht : ∃ a d credential, t = .message a (.requestConnection d credential)
  · obtain ⟨a, d, credential, rfl⟩ := ht
    show Prog.Follows _ _ (onMessage a (.requestConnection d credential) >>= _) _
    rw [Prog.follows_bind, onMessage_eq, Prog.follows_bind]
    refine (looksUp_requestConnection a d credential).mono (fun _ _ h => h) fun h r _ => ?_
    cases r with
    | ok _ => trivial
    | error e => exact ⟨trivial, fun _ => trivial⟩
  · refine t.only_does.mono (fun h o _ => ?_) fun _ _ h => h
    cases o with
    | connectionsGet b => exact fun a d credential heq => absurd ⟨a, d, credential, heq⟩ ht
    | _ => trivial

/-- Who is told of a session it has opened before can rely on it. -/
theorem kept_of_sent {u u' : ServerWorld} (hu : Run freshIds (Server.start db config files) u)
    (hs : server.Step freshIds u u') (hw : server.Reachable freshIds u' w) {j : Nat} {t : Task}
    {c : ConnectionId} {msg : ServerMessage}
    (hlog : u'.log = .call j t ⟨.send c msg, .ok ()⟩ :: u.log) {s : SessionId} {p : SessionPeers}
    (hins : Did (hist j u.log) (.sessionsInsert s p) ()) :
    Opened s p w.log ∧ ((w.st.socket c).phase = .live → w.st.sessions s = some p) := by
  obtain ⟨draw, k, hj, -, hres, -⟩ := hs.of_call hlog
  have hsession : u.st.sessions s = some p :=
    session_stays hu (hu.recent j _ _ hj _ hins)
  have hsent : ((Op.send c msg).exec draw u.st).1 = .ok () := hres.symm
  have halive : (u.st.channel c).alive = true := exec_send_ok hsent
  have hstarted : (u.st.socket c).phase ≠ .fresh := by
    intro hfresh
    exact absurd halive (by simp [((queued hu c).fresh hfresh).1])
  exact ⟨(opened_of_session hu hsession).later (hw.head hs),
    (session_kept hu (hw.head hs) hsession hstarted).2⟩

/-- `IncomingConnection` goes to the side that had registered the device. -/
theorem opened_of_incoming (h : Run freshIds (Server.start db config files) w) {b : ConnectionId}
    {s : SessionId} {sender : Option DeviceId}
    (hm : .incomingConnection s sender ∈ enqueued b w.log) : ∃ a, Opened s ⟨a, b⟩ w.log
      ∧ ((w.st.socket b).phase = .live → w.st.sessions s = some ⟨a, b⟩) := by
  obtain ⟨j, t, he⟩ := mem_enqueued.mp hm
  obtain ⟨u, u', hu, hs, hw, hlog⟩ := h.moment he
  obtain ⟨draw, k, hj, -⟩ := hs.of_call hlog
  obtain ⟨a, b', d, credential, -, -, hins, hget, -⟩ := hu.next_licensed Task.tells hj
  obtain rfl : b = b' := connection_found hu (hu.event_of_hist hj hget)
  exact ⟨a, kept_of_sent hu hs hw hlog hins⟩

/-- `ConnectionEstablished` goes to the side that had asked, after the other side
was told or could not be found. -/
theorem opened_of_established (h : Run freshIds (Server.start db config files) w)
    {a : ConnectionId} {s : SessionId} {d : DeviceId}
    (hm : .connectionEstablished s d ∈ enqueued a w.log) : ∃ b, Opened s ⟨a, b⟩ w.log
      ∧ ((w.st.socket a).phase = .live → w.st.sessions s = some ⟨a, b⟩)
      ∧ ((∃ sender, .incomingConnection s sender ∈ enqueued b w.log) ∨ CutOff b w) := by
  obtain ⟨j, t, he⟩ := mem_enqueued.mp hm
  obtain ⟨u, u', hu, hs, hw, hlog⟩ := h.moment he
  obtain ⟨draw, k, hj, -⟩ := hs.of_call hlog
  obtain ⟨b, credential, rfl, hins, htold⟩ := hu.next_licensed Task.tells hj
  obtain ⟨hopened, hkept⟩ := kept_of_sent hu hs hw hlog hins
  refine ⟨b, hopened, hkept, ?_⟩
  have hlater : server.Reachable freshIds u w := hw.head hs
  obtain hnone | ⟨host, hget, hsent⟩ := htold
  · right
    obtain ⟨v, v', hv, hsv, hv', hlogv⟩ := hu.moment (hu.event_of_hist hj hnone)
    obtain ⟨draw', k', hjob, -, hres, -⟩ := hsv.of_call hlogv
    obtain ⟨s', hins'⟩ := hv.next_licensed Task.looksUp hjob a d credential rfl
    have hentered : Entered b v := peer_entered hv (hv.event_of_hist hjob hins') (by
      rw [SessionPeers.other, if_pos rfl])
    have hcut : CutOff b v := ⟨hentered, .inl hres.symm⟩
    exact hcut.stays hv ((hv'.head hsv).trans hlater)
  · left
    obtain rfl : host = b := connection_found hu (hu.event_of_hist hj hget)
    exact ⟨none, mem_enqueued.mpr ⟨j, _, hlater.mem_log (hu.event_of_hist hj hsent)⟩⟩

/-! ## §4. The order of delivery. -/

/-- The turn has answered its own connection with an `Error`. -/
def answeredWithError (c : ConnectionId) (j : Nat) (l : List ServerEvent) : Bool :=
  l.any fun e =>
    match e with
    | .call i _ ⟨.send tx (.error _), _⟩ => i = j && tx = c
    | _ => false

/-- What the turn passes on under `s`: its message, once the turn is over and
unless it has answered with an `Error`. -/
def accepted (w : ServerWorld) (s : SessionId) (c : ConnectionId) (x : Nat × ClientMessage) :
    Option ServerMessage :=
  match x.2.relayed with
  | some (s', msg) =>
    if s' = s && (w.jobs x.1).any (·.2.done) && !answeredWithError c x.1 w.log then some msg
    else none
  | none => none

/-- The messages passed on under `s`, of a queue. -/
def passedOn (s : SessionId) (queue : List ServerMessage) : List ServerMessage :=
  queue.filter fun msg => msg.relayedUnder = some s

omit [Crates] in
theorem answeredWithError_iff {c : ConnectionId} {j : Nat} {l : List ServerEvent} :
    answeredWithError c j l = true ↔ ∃ e r, Did (hist j l) (.send c (.error e)) r := by
  unfold answeredWithError
  rw [List.any_eq_true]
  constructor
  · rintro ⟨ev, hev, hp⟩
    split at hp
    next i t tx e r =>
      simp only [Bool.and_eq_true, decide_eq_true_eq] at hp
      obtain ⟨rfl, rfl⟩ := hp
      exact ⟨e, r, mem_hist hev⟩
    next => exact absurd hp Bool.false_ne_true
  · rintro ⟨e, r, hdid⟩
    obtain ⟨t, ht⟩ := mem_of_mem_hist hdid
    exact ⟨_, ht, by simp⟩

omit [Crates] in
/-- Nothing but the turn's own calls changes whether it has passed something on. -/
theorem accepted_congr {w w' : ServerWorld} {s : SessionId} {c : ConnectionId}
    {x : Nat × ClientMessage} (hjobs : w'.jobs x.1 = w.jobs x.1)
    (hhist : hist x.1 w'.log = hist x.1 w.log) : accepted w' s c x = accepted w s c x := by
  have hanswer : answeredWithError c x.1 w'.log = answeredWithError c x.1 w.log := by
    rw [Bool.eq_iff_iff, answeredWithError_iff, answeredWithError_iff, hhist]
  rw [accepted, accepted, hjobs, hanswer]

omit [Crates] in
theorem accepted_eq_some {w : ServerWorld} {s : SessionId} {c : ConnectionId}
    {x : Nat × ClientMessage} {msg : ServerMessage} (h : accepted w s c x = some msg) :
    x.2.relayed = some (s, msg) ∧ (∃ t p, w.jobs x.1 = some (t, p) ∧ p.done = true)
      ∧ ∀ e r, ¬ Did (hist x.1 w.log) (.send c (.error e)) r := by
  unfold accepted at h
  split at h
  next s' msg' hm =>
    split at h
    next hc =>
      simp only [Bool.and_eq_true, decide_eq_true_eq, Bool.not_eq_true'] at hc
      obtain ⟨⟨rfl, hdone⟩, hanswer⟩ := hc
      obtain ⟨⟨t, q⟩, hjob, hq⟩ := (Option.any_eq_true _ _).mp hdone
      refine ⟨hm.trans (by rw [Option.some.inj h]), ⟨t, q, hjob, hq⟩, fun e r hdid => ?_⟩
      rw [answeredWithError_iff.mpr ⟨e, r, hdid⟩] at hanswer
      exact absurd hanswer (by simp)
    next => exact absurd h.symm (Option.some_ne_none msg)
  next => exact absurd h.symm (Option.some_ne_none msg)

omit [Crates] in
theorem accepted_eq_none {w : ServerWorld} {s : SessionId} {c : ConnectionId}
    {x : Nat × ClientMessage} (h : (∀ msg, x.2.relayed ≠ some (s, msg))
      ∨ (∃ t p, w.jobs x.1 = some (t, p) ∧ p.done = false)
      ∨ ∃ e r, Did (hist x.1 w.log) (.send c (.error e)) r) : accepted w s c x = none := by
  cases hacc : accepted w s c x with
  | none => rfl
  | some msg =>
    obtain ⟨hm, ⟨t, p, hjob, hdone⟩, hno⟩ := accepted_eq_some hacc
    obtain hother | ⟨t', p', hjob', hdone'⟩ | ⟨e, r, hdid⟩ := h
    · exact absurd hm (hother msg)
    · obtain ⟨-, rfl⟩ := Prod.mk.inj (Option.some.inj (hjob.symm.trans hjob'))
      exact absurd (hdone.symm.trans hdone') (by simp)
    · exact absurd hdid (hno e r)

/-- A turn that is not over is the last one of its connection. -/
theorem last_turn (h : Run A (Server.start db config files) w) {c : ConnectionId} :
    ∀ {j m p}, w.jobs j = some (.message c m, p) → p.done = false →
      ∃ l, turns c w.log = l ++ [(j, m)] ∧ ∀ x ∈ l, x.1 < j := by
  induction h with
  | refl => exact fun hj => absurd hj.symm (Option.some_ne_none _)
  | @tail w w' hr hs ih =>
    intro j m p hj hp
    cases hs with
    | start t _ hfree =>
      by_cases hjn : j = w.next
      · subst hjn
        have hj' := (Function.update_self w.next (some (t, server.body t)) w.jobs).symm.trans hj
        obtain ⟨rfl, -⟩ := Prod.mk.inj (Option.some.inj hj')
        have hturn : turn? c (.start w.next (.message c m) : ServerEvent) = some (w.next, m) :=
          if_pos rfl
        refine ⟨turns c w.log, turns_cons_some hturn _, fun x hx => ?_⟩
        exact (System.Reachable.numbered hr).start_lt x.1 _ (mem_turns.mp hx)
      · have hj' : w.jobs j = some (.message c m, p) :=
          (Function.update_of_ne hjn _ _).symm.trans hj
        obtain ⟨l, hl, hlt⟩ := ih hj' hp
        refine ⟨l, ?_, hlt⟩
        cases ht : turn? c (.start w.next t : ServerEvent) with
        | none => exact (turns_cons_none ht _).trans hl
        | some x =>
          -- no other turn of `c` starts now
          obtain ⟨-, rfl⟩ := Event.start.inj (turn?_eq_some.mp ht)
          have hdone := hfree j _ p hj' (decide_eq_true rfl)
          exact absurd (hdone.symm.trans hp) (by simp)
    | @call i t o k d hi _ =>
      have hj' : ∃ q, w.jobs j = some (.message c m, q) ∧ q.done = false := by
        by_cases hji : j = i
        · subst hji
          have hj' := (Function.update_self j (some (t, k (o.exec d w.st).1)) w.jobs).symm.trans hj
          obtain ⟨rfl, -⟩ := Prod.mk.inj (Option.some.inj hj')
          exact ⟨_, hi, rfl⟩
        · exact ⟨p, (Function.update_of_ne hji _ _).symm.trans hj, hp⟩
      obtain ⟨q, hq, hdone⟩ := hj'
      obtain ⟨l, hl, hlt⟩ := ih hq hdone
      exact ⟨l, (turns_cons_none rfl _).trans hl, hlt⟩
    | env e =>
      cases e with
      | sendTaskStops c' =>
        obtain ⟨l, hl, hlt⟩ := ih hj hp
        exact ⟨l, (turns_cons_none rfl _).trans hl, hlt⟩
      | restart => exact absurd hj (by simp [server])

omit [Crates] in
/-- Each side of a session is the other side of one side only. -/
theorem SessionPeers.other_inj {p : SessionPeers} {x x' y : ConnectionId}
    (h : p.other x = some y) (h' : p.other x' = some y) : x = x' := by
  obtain ⟨rfl, rfl⟩ | ⟨rfl, rfl⟩ := other_eq_some h
  · obtain ⟨rfl, -⟩ | ⟨rfl, hb⟩ := other_eq_some h'
    · rfl
    · exact hb.symm
  · obtain ⟨rfl, ha⟩ | ⟨rfl, -⟩ := other_eq_some h'
    · exact ha.symm
    · rfl

/-- **One call of a turn** puts on the other side's queue what the turn thereby
passes on. -/
theorem call_delivers {w' : ServerWorld} (h : Run freshIds (Server.start db config files) w)
    (hs : server.Step freshIds w w') {j : Nat} {x y : ConnectionId} {m : ClientMessage}
    {call : Call Op Op.Res} (hlog : w'.log = .call j (.message x m) call :: w.log) {s : SessionId}
    {msg : ServerMessage} (hm : m.relayed = some (s, msg)) {p : SessionPeers}
    (hopened : Opened s p w'.log) (hother : p.other x = some y) :
    passedOn s (enqueued? y (.call j (.message x m) call)).toList
      = (accepted w' s x (j, m)).toList := by
  have h' : Run freshIds (Server.start db config files) w' := h.tail hs
  obtain ⟨draw, k, hj, -, -, -, hjobs⟩ := hs.of_call hlog
  have hj' : w'.jobs j = some (.message x m, k call.res) := by
    rw [hjobs]
    exact Function.update_self _ _ _
  have hhist : hist j w'.log = call :: hist j w.log := by
    rw [hlog]
    exact hist_own j _ call w.log
  obtain ⟨hvain, hsends⟩ := h.next_licensed Task.relays hj x m s msg rfl hm
  have hunder : msg.relayedUnder = some s := relayedUnder_of_relayed hm
  by_cases hok : ∃ tx msg', call = ⟨.send tx msg', .ok ()⟩ ∧ ∀ e, msg' ≠ .error e
  · -- the message is passed on, and with that the turn is over
    obtain ⟨tx, msg', rfl, hnoerror⟩ := hok
    obtain ⟨rfl, p', other, hget, ho, htx⟩ | ⟨⟨e, rfl⟩, -⟩ := hsends tx msg' rfl
    · obtain rfl : p' = p := Opened.unique h'
        (opened_of_found h' (System.Reachable.mem_log (.single hs) (h.event_of_hist hj hget))) hopened
      obtain rfl : tx = other := connection_found h (h.event_of_hist hj htx)
      obtain rfl : tx = y := Option.some.inj (ho.symm.trans hother)
      have hacc : accepted w' s x (j, m) = some msg' := by
        have hdone : (k (.ok ())).done = true := by
          cases hk : k (.ok ()) with
          | ret a => rfl
          | call o' k' =>
            obtain ⟨hvain', -⟩ := h'.next_licensed Task.relays (hj'.trans (by rw [hk])) x m s msg'
              rfl hm
            exact absurd rfl (hvain' tx msg' (.ok ()) (hhist ▸ List.mem_cons_self)).2
        have hanswer : answeredWithError x j w'.log = false := by
          rw [Bool.eq_false_iff, Ne, answeredWithError_iff]
          rintro ⟨e, r, hdid⟩
          rw [hhist] at hdid
          rcases List.mem_cons.mp hdid with heq | hdid
          · have hop := (Call.mk.inj heq).1
            exact hnoerror e (Op.send.inj hop).2.symm
          · exact hnoerror e (hvain x _ r hdid).1.symm
        simp [accepted, hm, hj', hdone, hanswer]
      have hqueue : enqueued? tx (.call j (.message x m) ⟨.send tx msg', .ok ()⟩) = some msg' :=
        if_pos rfl
      rw [hqueue, hacc]
      simp [passedOn, hunder]
    · exact absurd rfl (hnoerror e)
  · -- nothing is passed on, and if the turn is over, it has answered with an `Error`
    have hqueue : passedOn s (enqueued? y (.call j (.message x m) call)).toList = [] := by
      cases he : enqueued? y (.call j (.message x m) call) with
      | none => rfl
      | some msg' =>
        obtain ⟨i, t, heq⟩ := enqueued?_eq_some.mp he
        obtain ⟨-, -, rfl⟩ := Event.call.inj heq
        by_cases herror : ∃ e, msg' = .error e
        · obtain ⟨e, rfl⟩ := herror
          simp [passedOn, ServerMessage.relayedUnder]
        · exact absurd ⟨y, msg', rfl, fun e hmsg => herror ⟨e, hmsg⟩⟩ hok
    have hacc : accepted w' s x (j, m) = none := by
      apply accepted_eq_none
      cases hk : k call.res with
      | call o' k' => exact .inr (.inl ⟨_, _, hj', by rw [hk]; rfl⟩)
      | ret a =>
        obtain ⟨tx, -, hsent⟩ | ⟨-, herror⟩ :=
          h'.finished Task.relays (hj'.trans (by rw [hk])) x m s msg rfl hm
        · rw [hhist] at hsent
          rcases List.mem_cons.mp hsent with heq | hsent
          · refine absurd ⟨tx, msg, heq.symm, ?_⟩ hok
            rintro e rfl
            exact absurd hunder (by simp [ServerMessage.relayedUnder])
          · exact absurd rfl (hvain tx msg _ hsent).2
        · exact .inr (.inr herror)
    rw [hqueue, hacc]
    rfl

theorem body_unfinished {c : ConnectionId} {m : ClientMessage} {s : SessionId}
    {msg : ServerMessage} (hm : m.relayed = some (s, msg)) :
    (server.body (.message c m)).done = false := by
  cases m with
  | sdpOffer | sdpAnswer | iceCandidate => rfl
  | _ => exact absurd hm (by simp [ClientMessage.relayed])

/-- A new session has had nothing passed on under it. -/
theorem new_session_empty {w' : ServerWorld} (h : Run freshIds (Server.start db config files) w)
    (hs : server.Step freshIds w w') {j : Nat} {t : Task} {s : SessionId} {p : SessionPeers}
    (hlog : w'.log = .call j t ⟨.sessionsInsert s p, ()⟩ :: w.log) :
    (∀ y, passedOn s (enqueued y w'.log) = [])
      ∧ ∀ x, (turns x w'.log).filterMap (accepted w' s x) = [] := by
  have h' : Run freshIds (Server.start db config files) w' := h.tail hs
  have hnew : ∀ p', ¬ Opened s p' w.log := by
    rintro p' ⟨i, t', he⟩
    have hsplit : w'.log = [] ++ .call j t ⟨.sessionsInsert s p, ()⟩ :: w.log := hlog
    exact h'.not_before Task.follows (fun o => ∃ p, o = .sessionsInsert s p) ⟨.newV4, s⟩
      (fun _ _ _ => createSession_drawn) (fun _ _ _ _ hg hg' => (uuid_unique h' hg hg').1)
      hsplit ⟨p, rfl⟩ he ⟨p', rfl⟩
  constructor
  · intro y
    rw [hlog, enqueued_cons_none rfl, passedOn, List.filter_eq_nil_iff]
    intro msg hmsg hunder
    obtain ⟨i, t', he⟩ := mem_enqueued.mp hmsg
    obtain ⟨_, _, p', -, -, -, hopened, -⟩ := relayed_by h he (of_decide_eq_true hunder)
    exact hnew p' hopened
  · intro x
    rw [List.filterMap_eq_nil_iff]
    intro e he
    cases hacc : accepted w' s x e with
    | none => rfl
    | some msg =>
      obtain ⟨hm, ⟨t', q, hjob, hdone⟩, hno⟩ := accepted_eq_some hacc
      have htask : t' = .message x e.2 := h'.numbered.start_unique e.1 _ _
        (h'.numbered.job_start e.1 _ _ hjob) (mem_turns.mp he)
      subst htask
      cases q with
      | call o k => exact absurd hdone Bool.false_ne_true
      | ret a =>
        -- the turn has found the session, before it was there
        obtain ⟨tx, ⟨p', -, hget, -⟩, -⟩ | ⟨-, e', r, herror⟩ :=
          h'.finished Task.relays hjob x e.2 s msg rfl hm
        · have hfound := h'.event_of_hist hjob hget
          rw [hlog] at hfound
          rcases List.mem_cons.mp hfound with heq | hfound
          · exact absurd (Event.call.inj heq).2.2 (by simp)
          · exact absurd (opened_of_found h hfound) (hnew p')
        · exact absurd herror (hno e' r)

/-- The queue under `s` of one side is what the other side's turns pass on. -/
def InOrder (w : ServerWorld) : Prop :=
  ∀ s p x y, w.st.sessions s = some p → p.other x = some y →
    passedOn s (enqueued y w.log) = (turns x w.log).filterMap (accepted w s x)

theorem InOrder.start {w' : ServerWorld} (h : Run freshIds (Server.start db config files) w)
    (hI : InOrder w) {t : Task} (hlog : w'.log = .start w.next t :: w.log)
    (hsessions : w'.st.sessions = w.st.sessions)
    (hjobs : w'.jobs = Function.update w.jobs w.next (some (t, server.body t))) : InOrder w' := by
  intro s p x y hp hother
  have hold := hI s p x y (hsessions ▸ hp) hother
  have hcongr : (turns x w.log).filterMap (accepted w' s x)
      = (turns x w.log).filterMap (accepted w s x) := by
    refine List.filterMap_congr fun e he => accepted_congr ?_ (by rw [hlog]; rfl)
    have hlt := (System.Reachable.numbered h).start_lt e.1 _ (mem_turns.mp he)
    rw [hjobs]
    exact Function.update_of_ne (Nat.ne_of_lt hlt) _ _
  rw [hlog, enqueued_cons_none rfl, hold]
  cases ht : turn? x (.start w.next t : ServerEvent) with
  | none => rw [turns_cons_none ht, hcongr]
  | some e =>
    -- the new turn has not passed anything on yet
    obtain ⟨hnext, rfl⟩ := Event.start.inj (turn?_eq_some.mp ht)
    have hnone : accepted w' s x e = none := by
      apply accepted_eq_none
      by_cases hm : ∃ msg, e.2.relayed = some (s, msg)
      · obtain ⟨msg, hm⟩ := hm
        have hjob : w'.jobs e.1 = some (.message x e.2, server.body (.message x e.2)) := by
          rw [hjobs, hnext]
          exact Function.update_self _ _ _
        exact .inr (.inl ⟨_, _, hjob, body_unfinished hm⟩)
      · exact .inl fun msg hmsg => hm ⟨msg, hmsg⟩
    rw [turns_cons_some ht, List.filterMap_append, hcongr, List.filterMap_cons_none hnone,
      List.filterMap_nil, List.append_nil]

omit [Crates] in
theorem passedOn_cons (s : SessionId) (y : ConnectionId) (e : ServerEvent) (l : List ServerEvent) :
    passedOn s (enqueued y (e :: l))
      = passedOn s (enqueued y l) ++ passedOn s (enqueued? y e).toList := by
  cases he : enqueued? y e with
  | none =>
    rw [enqueued_cons_none he]
    exact (List.append_nil _).symm
  | some msg =>
    rw [enqueued_cons_some he]
    exact List.filter_append _ _

theorem InOrder.call {w' : ServerWorld} (h : Run freshIds (Server.start db config files) w)
    (hI : InOrder w) (hs : server.Step freshIds w w') {j : Nat} {t : Task} {c : Call Op Op.Res}
    (hlog : w'.log = .call j t c :: w.log) : InOrder w' := by
  intro s p x y hp hother
  have h' : Run freshIds (Server.start db config files) w' := h.tail hs
  obtain ⟨draw, k, hj, -, hres, hst, hjobs⟩ := hs.of_call hlog
  have hopened : Opened s p w'.log := opened_of_session h' hp
  rw [hst] at hp
  rcases Op.exec_sessions_some c.op draw w.st hp with hop | hsession
  · obtain ⟨o, r⟩ := c
    obtain rfl : o = .sessionsInsert s p := hop
    obtain ⟨hqueue, hturns⟩ := new_session_empty h hs hlog
    rw [hqueue y, hturns x]
  have hold := hI s p x y hsession hother
  -- the turns of other jobs pass on what they did before
  have hcongr : ∀ e : Nat × ClientMessage, e.1 ≠ j → accepted w' s x e = accepted w s x e := by
    intro e he
    refine accepted_congr ?_ ?_
    · rw [hjobs]
      exact Function.update_of_ne he _ _
    · rw [hlog]
      exact hist_other (Ne.symm he) _ _ _
  by_cases hmine : ∃ m msg, t = .message x m ∧ m.relayed = some (s, msg)
  · obtain ⟨m, msg, rfl, hm⟩ := hmine
    obtain ⟨l, hl, hlt⟩ := last_turn h hj rfl
    have hunfinished : accepted w s x (j, m) = none :=
      accepted_eq_none (.inr (.inl ⟨_, _, hj, rfl⟩))
    have hbefore : l.filterMap (accepted w' s x) = l.filterMap (accepted w s x) :=
      List.filterMap_congr fun e he => hcongr e (Nat.ne_of_lt (hlt e he))
    have hlast : [(j, m)].filterMap (accepted w' s x) = (accepted w' s x (j, m)).toList := by
      cases hacc : accepted w' s x (j, m) <;> simp [hacc]
    have hturns : turns x w'.log = l ++ [(j, m)] := by
      rw [hlog, turns_cons_none rfl, hl]
    rw [hturns, List.filterMap_append, hbefore, hlast, ← call_delivers h hs hlog hm hopened hother,
      hlog, passedOn_cons, hold, hl, List.filterMap_append, List.filterMap_cons_none hunfinished,
      List.filterMap_nil, List.append_nil]
  · have hnone : passedOn s (enqueued? y (.call j t c)).toList = [] := by
      cases he : enqueued? y (.call j t c) with
      | none => rfl
      | some msg =>
        obtain ⟨i, t', heq⟩ := enqueued?_eq_some.mp he
        obtain ⟨-, -, rfl⟩ := Event.call.inj heq
        rw [Option.toList_some, passedOn, List.filter_eq_nil_iff]
        intro msg' hmsg' hunder
        obtain rfl := List.mem_singleton.mp hmsg'
        -- only the other side passes anything on to `y`
        have hmem : Event.call j t ⟨.send y msg', .ok ()⟩ ∈ w'.log := hlog ▸ List.mem_cons_self
        obtain ⟨x', m, p', rfl, hm, hother', hopened', -⟩ :=
          relayed_by h' hmem (of_decide_eq_true hunder)
        obtain rfl := Opened.unique h' hopened' hopened
        obtain rfl := SessionPeers.other_inj hother hother'
        exact absurd ⟨m, msg', rfl, hm⟩ hmine
    rw [hlog, passedOn_cons, hnone, List.append_nil, hold, turns_cons_none rfl]
    refine List.filterMap_congr fun e he => ?_
    by_cases hej : e.1 = j
    · have hn : System.Numbered w := System.Reachable.numbered h
      have htask : t = .message x e.2 :=
        hn.start_unique j t _ (hn.job_start j _ _ hj) (hej ▸ mem_turns.mp he)
      have hno : ∀ msg, e.2.relayed ≠ some (s, msg) := fun msg hm => hmine ⟨e.2, msg, htask, hm⟩
      rw [accepted_eq_none (.inl hno), accepted_eq_none (.inl hno)]
    · exact (hcongr e hej).symm

/-- **In order, and each once.**  In every interleaving, with fresh ids: under a
session that is there, the queue of one side holds the messages of the other
side that the server has taken up and has not answered with an `Error`. -/
theorem delivered_in_order (h : Run freshIds (Server.start db config files) w) {s : SessionId}
    {p : SessionPeers} {x y : ConnectionId} (hp : w.st.sessions s = some p)
    (hother : p.other x = some y) :
    passedOn s (w.st.channel y).queue = (turns x w.log).filterMap (accepted w s x) := by
  have hI : InOrder w := by
    refine System.Reachable.invariant InOrder ?_ ?_ h
    · exact fun s p x y hp => absurd hp.symm (Option.some_ne_none p)
    intro w w' hr hI hs
    have hstep := hs
    cases hs with
    | start t _ _ =>
      have hsame : (t.begin w.st).sessions = w.st.sessions := by cases t <;> rfl
      exact hI.start hr rfl hsame rfl
    | call d _ _ => exact hI.call hr hstep rfl
    | env e =>
      intro s p x y hp hother
      cases e with
      | sendTaskStops c =>
        have hold := hI s p x y hp hother
        show passedOn s (enqueued y (.env (.sendTaskStops c) :: w.log))
          = (turns x (.env (.sendTaskStops c) :: w.log)).filterMap _
        rw [enqueued_cons_none rfl, turns_cons_none rfl, hold]
        exact List.filterMap_congr fun e _ => (accepted_congr rfl rfl).symm
      | restart => exact absurd hp.symm (Option.some_ne_none p)
  rw [queue_eq h]
  exact hI s p x y hp hother

end

end Visuara.Signaling
