/-
  Visuara.Client.Handshake
  ────────────────────────
  **WHETHER THE OFFER OF A SESSION IS ANSWERED.**

  A host that has been told of a session asks for TURN credentials and takes
  the next message, whatever it is, for the reply (`handle_one_connection`).
  The controller may have sent its offer by then, and the server may take the
  two up in either order; the offer is then dropped, and host and controller
  wait for each other (`offer_lost`).

    • `Handshaken`           — the steps in which nothing of this kind happens;
    • `offers_once`          — a host is sent one offer under a session;
    • `offer_passed`         — the offer gets to the host;
    • `offer_answered_when`  — in such runs it is answered, and nobody is stuck.
-/
import Visuara.Client.Ordered

namespace Visuara

/-- The message is an offer under `s`. -/
def ServerMessage.isOfferOf (s : SessionId) : ServerMessage → Bool
  | .sdpOffer s' _ => s' = s
  | _ => false

theorem ServerMessage.isOfferOf_iff {s : SessionId} {msg : ServerMessage} :
    msg.isOfferOf s = true ↔ msg.IsOffer s := by
  cases msg <;> simp [ServerMessage.isOfferOf, ServerMessage.IsOffer]

namespace Client

open Interleave Sequence Signaling

namespace Net

/-! ## §1. The handshake of a session. -/

/-- `b` receives its next message in this step. -/
def Receives (b : ConnectionId) (msg : ServerMessage) (n n' : Net) : Prop :=
  (n.queue b)[(n.client b).received]? = some msg
    ∧ (n'.client b).received = (n.client b).received + 1

/-- The step is one in which the offer of `s` does not get lost. -/
structure Handshaken (s : SessionId) (n n' : Net) : Prop where
  /-- No host takes it for the reply to its request for TURN credentials. -/
  turn : ∀ b email password name msg,
    (n.client b).program = .host email password name (.awaitingTurn s) →
    Receives b msg n n' → ¬ msg.IsOffer s
  /-- The calls of `webrtc` do not fail on it. -/
  webrtc : ∀ b email password name sdp,
    (n.client b).program = .host email password name (.awaitingOffer s) →
    Receives b (.sdpOffer s sdp) n n' → ∃ rtc, rtc.fault = none ∧ n'.client b
      = { (n.client b).turn ((n.client b).program.receive rtc (.sdpOffer s sdp)) with
        received := (n.client b).received + 1 }
  /-- The turn that passes it on finds the other end connected. -/
  reached : ∀ j a sdp call,
    n'.world.log = .call j (.message a (.sdpOffer s sdp)) call :: n.world.log →
    ∀ p b, n.world.st.sessions s = some p → p.other a = some b →
      n.world.st.connections b ≠ none ∧ (n.world.st.channel b).alive = true
  /-- And it is not cut short by a restart. -/
  finished : n'.world.log = .env .restart :: n.world.log →
    ∀ j a sdp q, n.world.jobs j = some (.message a (.sdpOffer s sdp), q) → q.done = true

/-- If a host that serves `s` receives an offer of `s` in this step, it sets it
and answers it. -/
def OfferAnswered (s : SessionId) (n n' : Net) : Prop :=
  ∀ b email password name phase sdp,
    (n.client b).program = .host email password name phase → .handle s ∈ (n.client b).outputs →
    Receives b (.sdpOffer s sdp) n n' → ∃ answer, (n'.client b).outputs
      = (n.client b).outputs ++ [.setRemoteDescription s sdp, .send (.sdpAnswer s answer)]

/-- Of what `c` sends and is sent, nothing of `s` is on its way. -/
structure Quiet (s : SessionId) (n : Net) (c : ConnectionId) : Prop where
  sent : ∀ m ∈ (n.client c).sent.drop (n.client c).taken, ∀ msg, m.relayed ≠ some (s, msg)
  served : ∀ j m q msg, n.world.jobs j = some (.message c m, q) → m.relayed = some (s, msg) →
    q.done = true
  queued : ∀ msg ∈ (n.queue c).drop (n.client c).received, msg.session ≠ some s

/-- A host waits for the offer of `s`, a controller for the answer, and nothing
of `s` is on its way. -/
def Stuck (s : SessionId) (n : Net) : Prop :=
  ∃ a b, (∃ email password target credential, (n.client a).program
      = .controller email password target credential (.awaitingAnswer s))
    ∧ (∃ email password name, (n.client b).program = .host email password name (.awaitingOffer s))
    ∧ Quiet s n a ∧ Quiet s n b

section

variable [Crates] {db : Db} {config : Config} {files : Files} {roles : ConnectionId → Role}
  {n n' : Net} {s : SessionId} {p : SessionPeers} {x y : ConnectionId}

/-- A client that receives has not ended, and takes the turn of the message. -/
theorem Receives.turn {msg : ServerMessage} (h : Receives x msg n n') (hs : Step n n') :
    (n.client x).program.isEnded = false ∧ ∃ rtc, n'.client x
      = { (n.client x).turn ((n.client x).program.receive rtc msg) with
        received := (n.client x).received + 1 } := by
  obtain ⟨hqueue, hnext⟩ := h
  cases hs with
  | @takes w c m _ _ _ =>
    by_cases hc : x = c
    · subst hc
      rw [setClient_self] at hnext
      exact absurd hnext (by simp)
    · rw [setClient_ne hc] at hnext
      exact absurd hnext (by simp)
  | serves => exact absurd hnext (by simp)
  | @acts c k hacts =>
    by_cases hc : x = c
    · subst hc
      rw [setClient_self] at hnext ⊢
      cases hacts with
      | receives rtc hmsg hopen =>
        obtain rfl := Option.some.inj (hqueue.symm.trans hmsg)
        exact ⟨hopen, rtc, rfl⟩
      | gathers | sends | closes => exact absurd hnext (by simp [Party.turn])
    · rw [setClient_ne hc] at hnext
      exact absurd hnext (by simp)

/-- What happened in such a run happened in such a step. -/
theorem ReachableWhen.moment {P : Net → Net → Prop} {n₀ : Net} (h : ReachableWhen P n₀ n)
    {e : ServerEvent} (he : e ∈ n.world.log) (hnew : e ∉ n₀.world.log) :
    ∃ n₁ n₂, ReachableWhen P n₀ n₁ ∧ Step n₁ n₂ ∧ P n₁ n₂ ∧ ReachableWhen P n₂ n
      ∧ n₂.world.log = e :: n₁.world.log := by
  induction h with
  | refl => exact absurd he hnew
  | @tail n₁ n₂ h₁ hs ih =>
    obtain ⟨hstep, hP⟩ := hs
    by_cases hbefore : e ∈ n₁.world.log
    · obtain ⟨m₁, m₂, hm, hms, hmP, hm', hlog⟩ := ih hbefore
      exact ⟨m₁, m₂, hm, hms, hmP, hm'.tail ⟨hstep, hP⟩, hlog⟩
    · refine ⟨n₁, n₂, h₁, hstep, hP, .refl, ?_⟩
      rcases hstep.server with hsame | hserver
      · rw [hsame] at he
        exact absurd he hbefore
      · obtain ⟨e', hlog⟩ := hserver.log_eq
        rw [hlog] at he
        rcases List.mem_cons.mp he with rfl | he
        · exact hlog
        · exact absurd he hbefore

theorem ReachableWhen.imp {P Q : Net → Net → Prop} {n₀ : Net}
    (himp : ∀ n n', Reachable n₀ n → Step n n' → P n n' → Q n n') (h : ReachableWhen P n₀ n) :
    ReachableWhen Q n₀ n := by
  induction h with
  | refl => exact .refl
  | tail h₁ hs ih => exact ih.tail ⟨hs.1, himp _ _ (ReachableWhen.reachable h₁) hs.1 hs.2⟩

/-! ## §2. One offer. -/

/-- A client that offers once has offered in one turn. -/
theorem offers_in_one_turn (h : Reachable (initial (Server.start db config files) roles) n)
    (hx : (roles x).isController = true) {j j' : Nat} {m m' : ClientMessage}
    (hj : (j, m) ∈ turns x n.world.log) (hj' : (j', m') ∈ turns x n.world.log)
    (hm : m.IsOffer s) (hm' : m'.IsOffer s) : j = j' := by
  by_contra hne
  obtain ⟨_, _, _, _, _, -, hdid⟩ := controller_of_role h hx
  have honce : (turns x n.world.log).countP (fun t => t.2.isOffer) ≤ 1 := by
    have hmap : (turns x n.world.log).countP (fun t => t.2.isOffer)
        = ((turns x n.world.log).map Prod.snd).countP ClientMessage.isOffer := by
      rw [List.countP_map]
      rfl
    rw [hmap, (taken_in_order h x).2]
    exact Nat.le_trans (List.Sublist.countP_le (List.take_sublist _ _)) hdid.once
  obtain ⟨l₁, l₂, hl⟩ := List.append_of_mem hj
  have hrest : (j', m') ∈ l₁ ++ l₂ := by
    rw [hl] at hj'
    rcases List.mem_append.mp hj' with h' | h'
    · exact List.mem_append_left _ h'
    · rcases List.mem_cons.mp h' with heq | h'
      · exact absurd (Prod.mk.inj heq).1.symm hne
      · exact List.mem_append_right _ h'
  have hpos : 0 < (l₁ ++ l₂).countP (fun t => t.2.isOffer) :=
    List.countP_pos_iff.mpr ⟨_, hrest, isOffer_iff.mpr ⟨s, hm'⟩⟩
  have hoffer : m.isOffer = true := isOffer_iff.mpr ⟨s, hm⟩
  rw [hl, List.countP_append, List.countP_cons, hoffer] at honce
  rw [List.countP_append] at hpos
  simp only [if_true] at honce
  omega

/-- **A host is sent one offer under a session.** -/
theorem offers_once (h : Reachable (initial (Server.start db config files) roles) n)
    (hatt : Attended roles s n.world.log) (y : ConnectionId) :
    (n.queue y).countP (ServerMessage.isOfferOf s) ≤ 1 := by
  rw [queue_eq h, countP_enqueued]
  have hkind : ∀ e ∈ n.world.log, (enqueued? y e).any (ServerMessage.isOfferOf s) = true →
      ∃ j x m sdp p, e = .call j (.message x m) ⟨.send y (.sdpOffer s sdp), .ok ()⟩
        ∧ m.relayed = some (s, .sdpOffer s sdp) ∧ m.IsOffer s ∧ p.other x = some y
        ∧ Opened s p n.world.log ∧ (j, m) ∈ turns x n.world.log := by
    intro e he hoffer
    obtain ⟨msg, hmsg, hs⟩ := (Option.any_eq_true _ _).mp hoffer
    obtain ⟨j, t, rfl⟩ := enqueued?_eq_some.mp hmsg
    obtain ⟨sdp, rfl⟩ := ServerMessage.isOfferOf_iff.mp hs
    obtain ⟨x, m, p, rfl, hm, hother, hopened, -⟩ := relayed_by h.run he rfl
    exact ⟨j, x, m, sdp, p, rfl, hm, (kind_of_relayed hm).1 ⟨sdp, rfl⟩, hother, hopened,
      mem_turns.mpr ((System.Reachable.numbered h.run).call_start j _ _ he)⟩
  apply System.countP_le_one
  intro l₁ e l₂ hlog he e' he'
  by_contra hne
  have hmem : e ∈ n.world.log := by
    rw [hlog]
    exact List.mem_append_right _ List.mem_cons_self
  have hmem' : e' ∈ n.world.log := by
    rw [hlog]
    exact List.mem_append_right _ (List.mem_cons_of_mem _ he')
  obtain ⟨j, x, m, sdp, p, rfl, hm, hoffer, hother, hopened, hturn⟩ := hkind e hmem he
  obtain ⟨j', x', m', sdp', p', rfl, hm', hoffer', hother', hopened', hturn'⟩ :=
    hkind e' hmem' (by simpa using hne)
  obtain rfl : p' = p := Opened.unique h.run hopened' hopened
  obtain rfl : x = x' := SessionPeers.other_inj hother hother'
  have hx : (roles x).isController = true := by
    obtain ⟨rfl, -⟩ | ⟨rfl, -⟩ := SessionPeers.other_eq_some hother
    · exact controller_at h hopened (hatt p' hopened).1
    · obtain ⟨_, _, _, _, -, hdid⟩ := host_of_role h (host_at h hopened (hatt p' hopened).2)
      have hsent := sent_of_start h (mem_turns.mp hturn)
      exact absurd hoffer ((hdid.sent m hsent).2 s)
  obtain rfl : j = j' := offers_in_one_turn h hx hturn hturn' hoffer hoffer'
  -- the same turn passes its message on once
  obtain ⟨w₁, w₂, h₁, hs, -, rfl, hlog₁⟩ := System.Reachable.split_log h.run hlog
  obtain ⟨draw, k, hjob, -⟩ := hs.of_call hlog₁
  obtain ⟨hvain, -⟩ := h₁.next_licensed Task.relays hjob x m s _ rfl hm
  exact (hvain y _ _ (mem_hist he')).2 rfl

/-! ## §3. The way of an offer. -/

/-- **A host is told of the session before it gets the offer.** -/
theorem told_first (h : Reachable (initial (Server.start db config files) roles) n)
    (hatt : Attended roles s n.world.log) (y : ConnectionId) :
    Preceded (ServerMessage.IsOffer s) (ServerMessage.IsIncoming s) (n.queue y) := by
  refine queue_preceded h y fun n₁ n₂ j t msg h₁ hs h₂ hlog hoffer => ?_
  have hunder : msg.relayedUnder = some s := by
    obtain ⟨sdp, rfl⟩ := hoffer
    rfl
  obtain ⟨x, m, p, n₀, rfl, hm, hother, hopened, h₀, hn, hsent, hlive, hfree, hreached⟩ :=
    passed_moment h₁ hs hlog hunder
  have h₂' : Reachable (initial (Server.start db config files) roles) n₂ := h₁.tail hs
  have hatt₂ := hatt.earlier h₂
  have hmine : m ∈ (n₀.client x).sent := List.mem_of_getElem? hsent
  have hkind : m.IsOffer s := (kind_of_relayed hm).1 hoffer
  obtain ⟨rfl, rfl⟩ | ⟨rfl, rfl⟩ := SessionPeers.other_eq_some hother
  · obtain ⟨_, _, _, _, _, -, hdid⟩ :=
      controller_of_role h₀ (controller_at h₂' hopened (hatt₂ p hopened).1)
    obtain ⟨-, msg', hmsg', d, rfl⟩ := hdid.offered s m hmine hkind
    have hestablished : .connectionEstablished s d ∈ enqueued p.a n₀.world.log := by
      rw [← queue_eq h₀]
      exact List.mem_of_mem_take hmsg'
    obtain ⟨b, hopened', -, htold⟩ := opened_of_established h₀.run hestablished
    have hlater : Opened s ⟨p.a, b⟩ n₂.world.log := hopened'.later (Reachable.server (hn.tail hs))
    have hp : p = ⟨p.a, b⟩ := Opened.unique h₂'.run hopened hlater
    have hb : p.b = b := by
      rw [hp]
    rcases htold with ⟨sender, hincoming⟩ | hcut
    · rw [← hb, ← queue_eq h₀] at hincoming
      exact ⟨_, (Reachable.queue_prefix h₀ hn p.b).subset hincoming, sender, rfl⟩
    · rw [← hb] at hcut
      exact absurd hcut hreached
  · -- a host makes no offers
    obtain ⟨_, _, _, _, -, hdid⟩ := host_of_role h₀ (host_at h₂' hopened (hatt₂ p hopened).2)
    exact absurd hkind ((hdid.sent m hmine).2 s)

/-- The session is there while the controller's offer is under way. -/
theorem session_under_way (h : Reachable (initial (Server.start db config files) roles) n)
    (hx : (roles x).isController = true) {j : Nat} {sdp : String} {q : Act (Option Response)}
    (hjob : n.world.jobs j = some (.message x (.sdpOffer s sdp), q)) (hq : q.done = false) :
    ∃ b, n.world.st.sessions s = some ⟨x, b⟩ := by
  obtain ⟨n₁, h₁, hn, hnext, hsent, hlive₁, -⟩ :=
    taken_moment h ((System.Reachable.numbered h.run).job_start j _ _ hjob)
  obtain ⟨_, _, _, _, _, -, hdid⟩ := controller_of_role h₁ hx
  obtain ⟨-, msg, hmsg, d, rfl⟩ := hdid.offered s _ (List.mem_of_getElem? hsent) ⟨sdp, rfl⟩
  have hestablished : .connectionEstablished s d ∈ enqueued x n₁.world.log := by
    rw [← queue_eq h₁]
    exact List.mem_of_mem_take hmsg
  obtain ⟨b, -, hkept, -⟩ := opened_of_established h₁.run hestablished
  have hstarted : (n₁.world.st.socket x).phase ≠ .fresh := by
    rw [hlive₁]
    exact Phase.noConfusion
  exact ⟨b, (session_kept h₁.run hn.server (hkept hlive₁) hstarted).2 (turn_live h.run hjob hq)⟩

/-- Where the offer is on its way, nothing the turn looks for is missing. -/
theorem not_refused (h : ReachableWhen (Handshaken s) (initial (Server.start db config files) roles) n)
    (hx : (roles x).isController = true) {j : Nat} {sdp : String} {q : Act (Option Response)}
    (hjob : n.world.jobs j = some (.message x (.sdpOffer s sdp), q)) :
    ¬ Signaling.Refused x s (.sdpOffer s sdp) (hist j n.world.log) := by
  have hn := h.reachable
  -- each call was made in a step of the run, with the session there
  have hcall : ∀ {o : Op} {r : o.Res}, Did (hist j n.world.log) o r →
      ∃ (st : Server) (draw : Draw) (b : ConnectionId), r = (o.exec draw st).1
        ∧ st.sessions s = some ⟨x, b⟩ ∧ Opened s ⟨x, b⟩ n.world.log
        ∧ st.connections b ≠ none ∧ (st.channel b).alive = true := by
    intro o r hdid
    have he := hn.run.event_of_hist hjob hdid
    obtain ⟨v, v', hv, hs, hP, hv', hlog⟩ := h.moment he List.not_mem_nil
    have hserver : server.Step freshIds v.world v'.world := by
      rcases hs.server with hsame | hstep
      · rw [hsame] at hlog
        exact absurd hlog.symm (List.cons_ne_self _ _)
      · exact hstep
    obtain ⟨draw, k, hj, -, hres, -⟩ := hserver.of_call hlog
    obtain ⟨b, hsession⟩ := session_under_way hv.reachable hx hj rfl
    have hother : (SessionPeers.mk x b).other x = some b := if_pos rfl
    obtain ⟨hconnected, halive⟩ := hP.reached j x sdp _ hlog _ b hsession hother
    have hlater : Reachable v n := hv'.reachable.head hs
    exact ⟨v.world.st, draw, b, hres, hsession,
      (opened_of_session hv.reachable.run hsession).later hlater.server, hconnected, halive⟩
  have hsame : ∀ {b p}, Opened s ⟨x, b⟩ n.world.log →
      Did (hist j n.world.log) (.sessionsGet s) (some p) → p = ⟨x, b⟩ := fun hopened hget =>
    Opened.unique hn.run (opened_of_found hn.run (hn.run.event_of_hist hjob hget)) hopened
  rintro (hnone | ⟨p, hget, hno | ⟨other, hother, hnone | ⟨tx, e, htx, hsent⟩⟩⟩)
  · obtain ⟨st, draw, b, hres, hsession, -⟩ := hcall hnone
    have hgone : st.sessions s = none := hres.symm
    exact absurd (hsession.symm.trans hgone) (Option.some_ne_none _)
  · obtain ⟨st, draw, b, -, -, hopened, -⟩ := hcall hget
    obtain rfl := hsame hopened hget
    exact absurd hno (by simp [SessionPeers.other])
  · obtain ⟨st, draw, b, hres, -, hopened, hconnected, -⟩ := hcall hnone
    obtain rfl := hsame hopened hget
    obtain rfl : b = other := by simpa [SessionPeers.other] using hother
    exact hconnected hres.symm
  · obtain ⟨st, draw, b, hres, -, hopened, -, halive⟩ := hcall hsent
    obtain rfl := hsame hopened hget
    obtain rfl : b = other := by simpa [SessionPeers.other] using hother
    obtain rfl : tx = b := connection_found hn.run (hn.run.event_of_hist hjob htx)
    have hdead : (st.channel tx).alive = false := exec_send_error hres.symm
    exact absurd (halive.symm.trans hdead) (by simp)

/-- **A turn that is over has passed the offer on.** -/
theorem offer_passed (h : ReachableWhen (Handshaken s) (initial (Server.start db config files) roles) n)
    (hx : (roles x).isController = true) {j : Nat} {sdp : String} {r : Option Response}
    (hjob : n.world.jobs j = some (.message x (.sdpOffer s sdp), .ret r)) :
    ∃ p y, Opened s p n.world.log ∧ p.other x = some y ∧ .sdpOffer s sdp ∈ n.queue y := by
  have hn := h.reachable
  obtain ⟨tx, ⟨p, y, hget, hother, htx⟩, hsent⟩ | ⟨hrefused, -⟩ :=
    hn.run.finished Task.relays hjob x _ s _ rfl rfl
  · obtain rfl : tx = y := connection_found hn.run (hn.run.event_of_hist hjob htx)
    refine ⟨p, tx, opened_of_found hn.run (hn.run.event_of_hist hjob hget), hother, ?_⟩
    rw [queue_eq hn]
    exact mem_enqueued.mpr ⟨j, _, hn.run.event_of_hist hjob hsent⟩
  · exact absurd hrefused (not_refused h hx hjob)

/-- An offer that has been taken up is under way, or has got to the other end. -/
theorem offer_taken (h : ReachableWhen (Handshaken s) (initial (Server.start db config files) roles) n)
    (hx : (roles x).isController = true) {j : Nat} {sdp : String}
    (hstart : Event.start j (.message x (.sdpOffer s sdp)) ∈ n.world.log) :
    (∃ q, n.world.jobs j = some (.message x (.sdpOffer s sdp), q) ∧ q.done = false)
      ∨ ∃ p y, Opened s p n.world.log ∧ p.other x = some y ∧ .sdpOffer s sdp ∈ n.queue y := by
  induction h with
  | refl => exact absurd hstart List.not_mem_nil
  | @tail n₁ n₂ h₁ hs ih =>
    have h₂ : ReachableWhen (Handshaken s) (initial (Server.start db config files) roles) n₂ :=
      h₁.tail hs
    obtain ⟨hstep, hP⟩ := hs
    -- the turn as it is now
    have hjob : ∀ {q}, n₂.world.jobs j = some (.message x (.sdpOffer s sdp), q) →
        (∃ q, n₂.world.jobs j = some (.message x (.sdpOffer s sdp), q) ∧ q.done = false)
          ∨ ∃ p y, Opened s p n₂.world.log ∧ p.other x = some y ∧ .sdpOffer s sdp ∈ n₂.queue y := by
      intro q hq
      cases q with
      | ret r => exact .inr (offer_passed h₂ hx hq)
      | call o k => exact .inl ⟨_, hq, rfl⟩
    rcases hstep.server with hsame | hserver
    · rw [hsame] at hstart
      rcases ih hstart with ⟨q, hq, hdone⟩ | ⟨p, y, hopened, hother, hqueued⟩
      · rw [hsame]
        exact .inl ⟨q, hq, hdone⟩
      · refine .inr ⟨p, y, hsame ▸ hopened, hother, ?_⟩
        rwa [queue, hsame]
    · by_cases hbefore : Event.start j (.message x (.sdpOffer s sdp)) ∈ n₁.world.log
      · rcases ih hbefore with ⟨q, hq, hdone⟩ | ⟨p, y, hopened, hother, hqueued⟩
        · rcases hserver.job_stays (System.Reachable.numbered (ReachableWhen.reachable h₁).run) hq
            with ⟨q', hq'⟩ | ⟨e, hkills, hlog⟩
          · exact hjob hq'
          · obtain rfl : e = .restart := of_decide_eq_true hkills
            exact absurd ((hP.finished hlog j x sdp q hq).symm.trans hdone) (by simp)
        · refine .inr ⟨p, y, hopened.later (.single hserver), hother, ?_⟩
          exact (Reachable.queue_prefix (ReachableWhen.reachable h₁) (.single hstep) y).subset hqueued
      · obtain ⟨e, hlog⟩ := hserver.log_eq
        rw [hlog] at hstart
        obtain rfl := (List.mem_cons.mp hstart).resolve_right hbefore
        exact hjob (hserver.of_start hlog)

/-! ## §4. At the host. -/

omit [Crates] in
/-- A host comes to wait for the offer of `s` when it is told of it. -/
theorem awaits_offer {phase phase' : HostPhase} {msg : ServerMessage} {outputs : List Output}
    (h : HostTurn phase msg phase' outputs)
    (hphase : phase' = .awaitingTurn s ∨ phase' = .awaitingOffer s) :
    phase = .awaitingTurn s ∨ (phase = .awaitingOffer s ∧ ¬ msg.IsOffer s)
      ∨ (phase = .serving ∧ msg.IsIncoming s) := by
  cases h with
  | idle _ _ hmsg =>
    rcases hphase with rfl | rfl
    · exact .inl rfl
    · exact .inr (.inl ⟨rfl, hmsg s rfl⟩)
  | prepares _ _ hp' _ => rcases hphase with rfl | rfl <;> exact absurd hp' (by simp [HostPhase.session])
  | told s' sender =>
    obtain rfl : s' = s := by simpa using hphase
    exact .inr (.inr ⟨rfl, sender, rfl⟩)
  | builds s' _ servers =>
    obtain rfl : s' = s := by simpa using hphase
    exact .inl rfl
  | answers s' sdp answer => exact absurd hphase (by simp)
  | adds s' candidate hp =>
    rcases hphase with rfl | rfl
    · exact .inl rfl
    · exact .inr (.inl ⟨rfl, by simp [ServerMessage.IsOffer]⟩)
  | fails => exact absurd hphase (by simp)

/-- A client that has received one more has received it in this step. -/
theorem receives_of_inbox (h : Reachable (initial (Server.start db config files) roles) n)
    (hs : Step n n') {msg : ServerMessage} (hnext : (n.queue x)[(n.client x).received]? = some msg)
    (hinbox : n'.inbox x = n.inbox x ++ [msg]) : Receives x msg n n' := by
  have h' : Reachable (initial (Server.start db config files) roles) n' := h.tail hs
  have hlength : ∀ {m : Net}, Reachable (initial (Server.start db config files) roles) m →
      (m.inbox x).length = (m.client x).received :=
    fun hm => List.length_take_of_le (received_le hm x)
  refine ⟨hnext, ?_⟩
  rw [← hlength h', hinbox, List.length_append, hlength h]
  rfl

/-- **A host that waits for the offer has not dropped it.** -/
theorem unread (h : ReachableWhen (Handshaken s) (initial (Server.start db config files) roles) n)
    (hatt : Attended roles s n.world.log) {email password name : String} {phase : HostPhase}
    (hprogram : (n.client x).program = .host email password name phase)
    (hphase : phase = .awaitingTurn s ∨ phase = .awaitingOffer s) :
    ∀ msg ∈ n.inbox x, ¬ msg.IsOffer s := by
  induction h generalizing phase with
  | refl =>
    have hstart : (roles x).start.1 = .host email password name phase := hprogram
    rcases hphase with rfl | rfl <;>
      cases hrole : roles x <;> simp [hrole, Role.start, Host.start] at hstart
  | @tail n₁ n₂ h₁ hs ih =>
    obtain ⟨hstep, hP⟩ := hs
    have hn₁ := ReachableWhen.reachable h₁
    have hn₂ : Reachable (initial (Server.start db config files) roles) n₂ := hn₁.tail hstep
    have hatt₁ := hatt.earlier (.single hstep)
    have hhost : (roles x).isHost = true := by
      rw [← role_kept hn₂ x, hprogram]
      rfl
    obtain ⟨email', password', name', phase', hprogram₁, hdid⟩ := host_of_role hn₁ hhost
    obtain ⟨hp, -, hi⟩ | ⟨rtc, msg, hnext, -, hp, -, hi⟩ | ⟨candidate, turn, hturn, hp, -, -⟩
      | ⟨m, -, hp, -, -⟩ | ⟨hp, -, -⟩ := hstep.moves hn₁ x
    · rw [hi]
      exact ih hatt₁ (hp.symm.trans hprogram) hphase
    · rw [hprogram, hprogram₁] at hp
      have hturn := Host.turn email' password' name' rtc phase' msg
      obtain ⟨rfl, rfl, rfl, rfl⟩ := Program.host.inj hp
      rw [hi]
      intro msg' hmsg'
      rcases List.mem_append.mp hmsg' with hold | hnew
      · rcases awaits_offer hturn hphase with rfl | ⟨rfl, -⟩ | ⟨-, hincoming⟩
        · exact ih hatt₁ hprogram₁ (.inl rfl) msg' hold
        · exact ih hatt₁ hprogram₁ (.inr rfl) msg' hold
        · -- the offer would have come behind another `IncomingConnection`
          intro hoffer
          obtain ⟨q, hq, sender', rfl⟩ := (told_first hn₁ hatt₁ x).take hold hoffer
          obtain ⟨sender, rfl⟩ := hincoming
          have htwo : 2 ≤ (n₁.queue x).countP (isIncomingOf s) :=
            two_le_countP hnext (decide_eq_true rfl) hq (decide_eq_true rfl)
          have hone := incoming_at_most_once hn₁.run s x
          exact absurd (Nat.le_trans htwo hone) (by omega)
      · obtain rfl := List.mem_singleton.mp hnew
        rcases awaits_offer hturn hphase with rfl | ⟨-, hno⟩ | ⟨-, sender, rfl⟩
        · exact hP.turn x _ _ _ msg' hprogram₁ (receives_of_inbox hn₁ hstep hnext hi)
        · exact hno
        · simp [ServerMessage.IsOffer]
    · rw [hprogram] at hp
      rw [hprogram₁] at hturn
      obtain ⟨turn', hturn', rfl⟩ := Option.map_eq_some_iff.mp hturn
      obtain ⟨-, -, -, rfl⟩ := Program.host.inj hp
      cases phase' with
      | streaming s' =>
        obtain rfl := Option.some.inj hturn'
        exact absurd hphase (by simp)
      | _ => exact absurd hturn'.symm (Option.some_ne_none _)
    · rw [hprogram] at hp
      exact Program.noConfusion hp
    · rw [hprogram, hprogram₁] at hp
      obtain ⟨-, -, -, rfl⟩ := Program.host.inj hp
      exact absurd hphase (by simp)

/-! ## §5. Both. -/

/-- What a host that serves `s` receives as an offer of `s` it answers. -/
theorem offer_answered (h : ReachableWhen (Handshaken s) (initial (Server.start db config files) roles) n)
    (hatt : Attended roles s n.world.log) (hs : Step n n') (hP : Handshaken s n n') :
    OfferAnswered s n n' := by
  intro b email password name phase sdp hprogram hhandle hreceives
  have hn := h.reachable
  have hdid := hostDid hn hprogram
  have hopen := (hreceives.turn hs).1
  rw [hprogram] at hopen
  have hsession : phase.session = some s := by
    refine (hdid.handles s hhandle).resolve_right fun hended => ?_
    cases phase with
    | ended e => exact absurd hopen (by simp [Program.isEnded])
    | _ => exact absurd hended (by simp [HostPhase.isEnded])
  cases phase with
  | awaitingTurn s' =>
    obtain rfl := Option.some.inj hsession
    exact absurd ⟨sdp, rfl⟩ (hP.turn b _ _ _ _ hprogram hreceives)
  | awaitingOffer s' =>
    obtain rfl := Option.some.inj hsession
    obtain ⟨rtc, hfault, hparty⟩ := hP.webrtc b _ _ _ sdp hprogram hreceives
    refine ⟨rtc.sdp, ?_⟩
    rw [hparty, hprogram]
    show _ ++ (Host.receive email password name rtc (.awaitingOffer s') (.sdpOffer s' sdp)).2 = _
    simp [Host.receive, hfault]
  | streaming s' =>
    obtain rfl := Option.some.inj hsession
    -- it would be the second one
    obtain ⟨⟨offer, hoffer, hkind⟩, -⟩ := hdid.streaming s' rfl
    have htwo : 2 ≤ (n.queue b).countP (ServerMessage.isOfferOf s') :=
      two_le_countP hreceives.1 (decide_eq_true rfl) hoffer (ServerMessage.isOfferOf_iff.mpr hkind)
    have hone := offers_once hn hatt b
    omega
  | _ => exact absurd hsession.symm (Option.some_ne_none s)

/-- The ends of `s`, where one waits for the offer and the other for the answer. -/
theorem ends_of_waiting (h : Reachable (initial (Server.start db config files) roles) n)
    {email password : String} {target : DeviceId} {credential : ConnectCredential}
    (hx : (n.client x).program = .controller email password target credential (.awaitingAnswer s))
    {email' password' name : String}
    (hy : (n.client y).program = .host email' password' name (.awaitingOffer s))
    (hopened : Opened s p n.world.log) {z : ConnectionId} (hother : p.other x = some z) : z = y := by
  obtain ⟨-, incoming, hincoming, sender, rfl⟩ := (hostDid h hy).told s rfl
  have hqueued : .incomingConnection s sender ∈ enqueued y n.world.log := by
    rw [← queue_eq h]
    exact List.mem_of_mem_take hincoming
  obtain ⟨a, hopened', -⟩ := opened_of_incoming h.run hqueued
  obtain rfl : p = ⟨a, y⟩ := Opened.unique h.run hopened hopened'
  obtain ⟨-, rfl⟩ | ⟨rfl, -⟩ := SessionPeers.other_eq_some hother
  · rfl
  · rw [hx] at hy
    exact Program.noConfusion hy

theorem not_stuck (h : ReachableWhen (Handshaken s) (initial (Server.start db config files) roles) n)
    (hatt : Attended roles s n.world.log) : ¬ Stuck s n := by
  rintro ⟨a, b, ⟨email, password, target, credential, ha⟩, ⟨email', password', name, hb⟩, hquiet,
    hquiet'⟩
  have hn := h.reachable
  have hx : (roles a).isController = true := by
    rw [← role_kept hn a, ha]
    rfl
  -- the offer has been sent, and taken up
  obtain ⟨-, m, hm, sdp, rfl⟩ := (controllerDid hn ha).waiting s rfl
  have htaken : .sdpOffer s sdp ∈ (n.client a).sent.take (n.client a).taken := by
    have hsent : .sdpOffer s sdp ∈ (n.client a).sent := hm
    rw [← List.take_append_drop (n.client a).taken (n.client a).sent] at hsent
    refine (List.mem_append.mp hsent).resolve_right fun hdrop => ?_
    exact hquiet.sent _ hdrop _ rfl
  rw [← (taken_in_order hn a).2] at htaken
  obtain ⟨⟨j, m'⟩, hturn, rfl⟩ := List.mem_map.mp htaken
  rcases offer_taken h hx (mem_turns.mp hturn) with ⟨q, hq, hdone⟩ | ⟨p, y, hopened, hother, hqueued⟩
  · exact absurd ((hquiet.served j _ q _ hq rfl).symm.trans hdone) (by simp)
  · -- it has got to the host, and the host has not read it
    obtain rfl : y = b := ends_of_waiting hn ha hb hopened hother
    have hread : .sdpOffer s sdp ∈ n.inbox y := by
      rw [← List.take_append_drop (n.client y).received (n.queue y)] at hqueued
      refine (List.mem_append.mp hqueued).resolve_right fun hdrop => ?_
      exact hquiet'.queued _ hdrop rfl
    exact unread h hatt hb (.inr rfl) _ hread ⟨sdp, rfl⟩

/-- **No offer is lost** in the runs in which no host takes the offer for the
reply to its request for TURN credentials, in which `webrtc` works on it, and in
which the turn that passes it on finds the host and comes to its end. -/
theorem offer_answered_when
    (h : ReachableWhen (Handshaken s) (initial (Server.start db config files) roles) n)
    (hatt : Attended roles s n.world.log) :
    (∀ n', Step n n' → Handshaken s n n' → OfferAnswered s n n') ∧ ¬ Stuck s n :=
  ⟨fun _ hs hP => offer_answered h hatt hs hP, not_stuck h hatt⟩

end

/-! ## §6. A controller and a host. -/

section Schedule

open Signaling.Transparent

/-- The condition, as a check of one step of the pair. -/
def handshakes (n n' : Net) : Bool :=
  (match (n.client "host").program, (n.queue "host")[(n.client "host").received]? with
    | .host _ _ _ (.awaitingTurn _), some (.sdpOffer _ _) =>
      (n'.client "host").received ≠ (n.client "host").received + 1
    | .host _ _ _ (.awaitingOffer _), some (.sdpOffer _ _) => !(n'.client "host").program.isEnded
    | _, _ => true)
  && (match n'.world.log.head? with
    | some (.call _ (.message a (.sdpOffer _ _)) _) =>
      ((n.world.st.sessions met).bind (·.other a)).all fun b =>
        (n.world.st.connections b).isSome && (n.world.st.channel b).alive
    | some (.env .restart) => false
    | _ => true)

theorem handshaken_of_check {n n' : Net} (h : Reachable (initial (Server.blank true) pair) n) (hs : Step n n')
    (hc : handshakes n n' = true) : Handshaken met n n' := by
  unfold handshakes at hc
  obtain ⟨hhost, hserver⟩ := Bool.and_eq_true_iff.mp hc
  have hname : ∀ {b email password name phase},
      (n.client b).program = .host email password name phase → b = "host" := by
    intro b email password name phase hb
    have hrole : pair b = .host email password name := by
      rw [← role_kept h b, hb]
      rfl
    unfold pair at hrole
    split at hrole
    next heq => exact heq
    next => split at hrole <;> exact Role.noConfusion hrole
  constructor
  · rintro b email password name msg hb hreceives ⟨sdp, rfl⟩
    obtain rfl := hname hb
    rw [hb, hreceives.1] at hhost
    exact absurd hreceives.2 (by simpa using hhost)
  · intro b email password name sdp hb hreceives
    obtain rfl := hname hb
    obtain ⟨-, rtc, hparty⟩ := hreceives.turn hs
    refine ⟨rtc, ?_, hparty⟩
    rw [hb, hreceives.1] at hhost
    rw [hparty, hb] at hhost
    cases hfault : rtc.fault with
    | none => rfl
    | some e => simp [Party.turn, Program.receive, Host.receive, hfault, Program.isEnded] at hhost
  · intro j a sdp call hlog p b hsession hother
    rw [hlog] at hserver
    simpa [hsession, hother, Option.isSome_iff_ne_none] using hserver
  · intro hlog
    rw [hlog] at hserver
    exact absurd hserver (by simp)

theorem exchange_shows : (playAll handshakes exchange
    (initial (Server.blank true) pair)).any (fun n =>
      decide (n.world.st.sessions met = some ⟨"ctl", "host"⟩)) = true := by
  decide +kernel

theorem exchange_handshakes : (playAll handshakes exchange
    (initial (Server.blank true) pair)).isSome = true :=
  Option.isSome_of_any exchange_shows

theorem offer_answered_exchange :
    (∀ n', Step (Option.get _ exchange_handshakes) n' →
      Handshaken met (Option.get _ exchange_handshakes) n' →
      OfferAnswered met (Option.get _ exchange_handshakes) n')
    ∧ ¬ Stuck met (Option.get _ exchange_handshakes) := by
  have hchecked := playAll_reachable (P := fun n n' => handshakes n n' = true)
    (fun _ _ hc => hc) .refl (Option.some_get exchange_handshakes).symm
  have hsession := get_of_any exchange_shows exchange_handshakes
  simp only [decide_eq_true_eq] at hsession
  exact offer_answered_when (hchecked.imp fun _ _ hn hs hc => handshaken_of_check hn hs hc)
    (pair_attended (ReachableWhen.reachable hchecked) hsession)

/-- The server takes the offer up before the request for TURN credentials. -/
def offerFirst : List Move := meet ++ turn "ctl" 8 3

/-- No turn of `c` under `s` is under way, as a check of the jobs there are. -/
def served (s : SessionId) (c : ConnectionId) (n : Net) : Bool :=
  (List.range n.world.next).all fun j =>
    match n.world.jobs j with
    | some (.message c' m, q) => c' ≠ c || m.relayed.map Prod.fst ≠ some s || q.done
    | _ => true

theorem quiet_of_served {s : SessionId} {c : ConnectionId} {n : Net}
    (h : System.Numbered n.world)
    (hsent : (n.client c).sent.drop (n.client c).taken = []) (hserved : served s c n = true)
    (hqueued : (n.queue c).drop (n.client c).received = []) : Quiet s n c where
  sent m hm := by
    rw [hsent] at hm
    exact absurd hm List.not_mem_nil
  served j m q msg hj hm := by
    have hall := List.all_eq_true.mp hserved j (List.mem_range.mpr (h.job_lt j _ _ hj))
    rw [hj] at hall
    simpa [hm] using hall
  queued msg hm := by
    rw [hqueued] at hm
    exact absurd hm List.not_mem_nil

/-- The host takes the offer for the reply; then it receives the reply and passes it
over, and the two wait. -/
theorem offerFirst_shows : (playAll (fun _ _ => true) offerFirst
    (initial (Server.blank true) pair)).any (fun n =>
      decide (n.world.st.sessions met = some ⟨"ctl", "host"⟩
        ∧ (n.client "host").program = .host "host@example.com" "pw" "pc" (.awaitingTurn met)
        ∧ .handle met ∈ (n.client "host").outputs
        ∧ (n.queue "host")[(n.client "host").received]? = some (.sdpOffer met "v=0"))
      && (play (.receives "host" works) n).any fun n' =>
        decide ((n'.client "host").received = (n.client "host").received + 1
          ∧ (n'.client "host").outputs.getLast? = some (.buildPeerConnection met []))
        && (playAll (fun _ _ => true) (turn "host" 9 3 ++ [.receives "host" works]) n').any fun n'' =>
          decide (n''.world.st.sessions met = some ⟨"ctl", "host"⟩
            ∧ (n''.client "ctl").program = .controller "host@example.com" "pw" "002 003 004"
              (.oneTimePassword "0002 0003") (.awaitingAnswer met)
            ∧ (n''.client "host").program
              = .host "host@example.com" "pw" "pc" (.awaitingOffer met)
            ∧ ∀ c ∈ ["ctl", "host"], (n''.client c).sent.drop (n''.client c).taken = []
              ∧ served met c n'' = true
              ∧ (n''.queue c).drop (n''.client c).received = [])) = true := by
  decide +kernel

/-- The offer is dropped, although `webrtc` works; then the two wait for each other. -/
theorem offer_lost :
    (¬ ∀ (roles : ConnectionId → Role) (s : SessionId) (n n' : Net),
      Reachable (initial (Server.blank true) roles) n → Attended roles s n.world.log →
      Step n n' → OfferAnswered s n n')
    ∧ ¬ ∀ (roles : ConnectionId → Role) (s : SessionId) (n : Net),
      Reachable (initial (Server.blank true) roles) n → Attended roles s n.world.log →
      ¬ Stuck s n := by
  have hshows := offerFirst_shows
  simp only [Option.any_eq_true, Bool.and_eq_true, decide_eq_true_eq] at hshows
  obtain ⟨n, hoffer, ⟨hsession, hprogram, hhandles, hmsg⟩, n', htaken, ⟨hreceived, hlast⟩, n'',
    hreply, hsession', hctl, hhost, hquiet⟩ := hshows
  have hn : Reachable (initial (Server.blank true) pair) n :=
    (playAll_reachable (P := fun _ _ => True) (fun _ _ _ => trivial) .refl hoffer).reachable
  have hstep : Step n n' := play_step (System.Reachable.numbered hn.run) htaken
  constructor
  · intro h
    obtain ⟨answer, hanswer⟩ := h pair met n n' hn (pair_attended hn hsession) hstep "host" _ _ _ _
      "v=0" hprogram hhandles ⟨hmsg, hreceived⟩
    rw [hanswer] at hlast
    exact absurd hlast (by simp)
  · intro h
    have hn' : Reachable (initial (Server.blank true) pair) n' := hn.tail hstep
    have hn'' : Reachable (initial (Server.blank true) pair) n'' :=
      hn'.trans (playAll_reachable (P := fun _ _ => True) (fun _ _ _ => trivial) hn'.run
        hreply).reachable
    have hnumbered := System.Reachable.numbered hn''.run
    have hstill : ∀ c ∈ ["ctl", "host"], Quiet met n'' c := by
      intro c hc
      obtain ⟨hsent, hserved, hqueued⟩ := hquiet c hc
      exact quiet_of_served hnumbered hsent hserved hqueued
    exact h pair met n'' hn'' (pair_attended hn'' hsession') ⟨"ctl", "host", ⟨_, _, _, _, hctl⟩,
      ⟨_, _, _, hhost⟩, hstill "ctl" (by simp), hstill "host" (by simp)⟩

end Schedule

end Net

end Client

end Visuara
