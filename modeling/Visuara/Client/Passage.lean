/-
  Visuara.Client.Passage
  ──────────────────────
  **WHAT PASSES FROM ONE END OF A SESSION TO THE OTHER.**

  A session has two ends: a controller, which has asked for it, and a host,
  which had registered the device.  What one end finds on its queue under the
  session the other end has sent; so what is known of each client for itself
  (`HostDid`, `ControllerDid`) says something about the other one.

    • `controller_at` / `host_at` — which end is which;
    • `offer_sent`, `answer_sent`, `candidate_sent` — who has sent what is on a queue;
    • `turn_over`                 — what a client sent before has been dealt with;
    • `queue_preceded`            — an order on a queue, from its last message.
-/
import Visuara.Client.Signals

namespace Visuara

namespace Client

open Interleave Sequence Signaling

namespace Role

def isHost : Role → Bool
  | .host .. => true
  | _ => false

def isController : Role → Bool
  | .controller .. => true
  | _ => false

theorem not_both {r : Role} (hhost : r.isHost = true) : r.isController = false := by
  cases r with
  | host => rfl
  | _ => exact absurd hhost (by simp [isHost])

end Role

namespace Net

section

variable [Crates] {db : Db} {config : Config} {files : Files} {roles : ConnectionId → Role}
  {n n' : Net} {s : SessionId} {p : SessionPeers} {x y : ConnectionId}

/-! ## §1. The ends of a session. -/

/-- At both ends of `s` runs a host or a controller. -/
def Attended (roles : ConnectionId → Role) (s : SessionId) (l : List ServerEvent) : Prop :=
  ∀ p, Opened s p l → roles p.a ≠ .other ∧ roles p.b ≠ .other

theorem Attended.earlier (h : Attended roles s n'.world.log) (hn : Reachable n n') :
    Attended roles s n.world.log :=
  fun p hp => h p (hp.later hn.server)

/-- A host, and what is known of it. -/
theorem host_of_role (h : Reachable (initial (Server.start db config files) roles) n)
    (hx : (roles x).isHost = true) : ∃ email password name phase,
      (n.client x).program = .host email password name phase
        ∧ HostDid phase (n.client x).outputs (n.inbox x) := by
  rw [← role_kept h x] at hx
  cases hprogram : (n.client x).program with
  | host email password name phase => exact ⟨_, _, _, _, rfl, hostDid h hprogram⟩
  | _ => rw [hprogram] at hx; exact absurd hx (by simp [Program.role, Role.isHost])

/-- A controller, and what is known of it. -/
theorem controller_of_role (h : Reachable (initial (Server.start db config files) roles) n)
    (hx : (roles x).isController = true) : ∃ email password target credential phase,
      (n.client x).program = .controller email password target credential phase
        ∧ ControllerDid phase (n.client x).outputs (n.inbox x) := by
  rw [← role_kept h x] at hx
  cases hprogram : (n.client x).program with
  | controller email password target credential phase =>
    exact ⟨_, _, _, _, _, rfl, controllerDid h hprogram⟩
  | _ => rw [hprogram] at hx; exact absurd hx (by simp [Program.role, Role.isController])

/-- What the server has taken up the client has sent. -/
theorem sent_of_start (h : Reachable (initial (Server.start db config files) roles) n) {j : Nat}
    {m : ClientMessage} (he : Event.start j (.message x m) ∈ n.world.log) :
    m ∈ (n.client x).sent := by
  obtain ⟨-, hturns⟩ := taken_in_order h x
  have hm : m ∈ (turns x n.world.log).map Prod.snd :=
    List.mem_map.mpr ⟨(j, m), mem_turns.mpr he, rfl⟩
  rw [hturns] at hm
  exact List.mem_of_mem_take hm

/-- The end that has asked for the session is a controller. -/
theorem controller_at (h : Reachable (initial (Server.start db config files) roles) n)
    (hp : Opened s p n.world.log) (hr : roles p.a ≠ .other) : (roles p.a).isController = true := by
  obtain ⟨j, t, he⟩ := hp
  obtain ⟨⟨d, credential, rfl⟩, -⟩ := session_parties h.run he
  have hsent := sent_of_start h ((System.Reachable.numbered h.run).call_start j _ _ he)
  cases hrole : roles p.a with
  | controller => rfl
  | other => exact absurd hrole hr
  | host =>
    obtain ⟨_, _, _, _, -, hdid⟩ := host_of_role h (x := p.a) (by rw [hrole]; rfl)
    exact absurd ⟨d, credential, rfl⟩ (hdid.sent _ hsent).1

/-- The end that had registered the device is a host. -/
theorem host_at (h : Reachable (initial (Server.start db config files) roles) n)
    (hp : Opened s p n.world.log) (hr : roles p.b ≠ .other) : (roles p.b).isHost = true := by
  obtain ⟨j, t, he⟩ := hp
  obtain ⟨-, i, name, hstart⟩ := session_parties h.run he
  have hsent := sent_of_start h hstart
  cases hrole : roles p.b with
  | host => rfl
  | other => exact absurd hrole hr
  | controller =>
    obtain ⟨_, _, _, _, _, -, hdid⟩ := controller_of_role h (x := p.b) (by rw [hrole]; rfl)
    exact absurd ⟨name, rfl⟩ (hdid.sent _ hsent).1

/-! ## §2. What is on a queue. -/

omit [Crates] in
theorem kind_of_relayed {m : ClientMessage} {msg : ServerMessage} (h : m.relayed = some (s, msg)) :
    (msg.IsOffer s → m.IsOffer s) ∧ (msg.IsAnswer s → m.IsAnswer s)
      ∧ (msg.IsCandidate s → m.IsCandidate s) := by
  cases m with
  | sdpOffer | sdpAnswer | iceCandidate =>
    obtain ⟨rfl, rfl⟩ := Prod.mk.inj (Option.some.inj h)
    simp [ServerMessage.IsOffer, ServerMessage.IsAnswer, ServerMessage.IsCandidate,
      ClientMessage.IsOffer, ClientMessage.IsAnswer, ClientMessage.IsCandidate]
  | _ => exact absurd h.symm (Option.some_ne_none _)

/-- What is on a queue under a session the other end has sent. -/
theorem sent_of_queued (h : Reachable (initial (Server.start db config files) roles) n)
    {msg : ServerMessage} (hmsg : msg ∈ n.queue y) (hunder : msg.relayedUnder = some s) :
    ∃ x m p, m ∈ (n.client x).sent ∧ m.relayed = some (s, msg) ∧ p.other x = some y
      ∧ Opened s p n.world.log := by
  rw [queue_eq h] at hmsg
  obtain ⟨j, t, he⟩ := mem_enqueued.mp hmsg
  obtain ⟨x, m, p, rfl, hm, hother, hopened, -⟩ := relayed_by h.run he hunder
  have hstart := (System.Reachable.numbered h.run).call_start j _ _ he
  exact ⟨x, m, p, sent_of_start h hstart, hm, hother, hopened⟩

/-- An offer comes to the host, and from the controller. -/
theorem offer_sent (h : Reachable (initial (Server.start db config files) roles) n)
    (hatt : Attended roles s n.world.log) {msg : ServerMessage} (hmsg : msg ∈ n.queue y)
    (hkind : msg.IsOffer s) : ∃ p, Opened s p n.world.log ∧ y = p.b
      ∧ ∃ m ∈ (n.client p.a).sent, m.IsOffer s ∧ m.relayed = some (s, msg) := by
  have hunder : msg.relayedUnder = some s := by
    obtain ⟨sdp, rfl⟩ := hkind
    rfl
  obtain ⟨x, m, p, hm, hrelayed, hother, hopened⟩ := sent_of_queued h hmsg hunder
  have hoffer : m.IsOffer s := (kind_of_relayed hrelayed).1 hkind
  obtain ⟨rfl, rfl⟩ | ⟨rfl, rfl⟩ := SessionPeers.other_eq_some hother
  · exact ⟨p, hopened, rfl, m, hm, hoffer, hrelayed⟩
  · -- a host makes no offers
    obtain ⟨_, _, _, _, -, hdid⟩ := host_of_role h (host_at h hopened (hatt p hopened).2)
    exact absurd hoffer ((hdid.sent m hm).2 s)

/-- An answer comes to the controller, and from the host. -/
theorem answer_sent (h : Reachable (initial (Server.start db config files) roles) n)
    (hatt : Attended roles s n.world.log) {msg : ServerMessage} (hmsg : msg ∈ n.queue y)
    (hkind : msg.IsAnswer s) : ∃ p, Opened s p n.world.log ∧ y = p.a
      ∧ ∃ m ∈ (n.client p.b).sent, m.IsAnswer s := by
  have hunder : msg.relayedUnder = some s := by
    obtain ⟨sdp, rfl⟩ := hkind
    rfl
  obtain ⟨x, m, p, hm, hrelayed, hother, hopened⟩ := sent_of_queued h hmsg hunder
  have hanswer : m.IsAnswer s := (kind_of_relayed hrelayed).2.1 hkind
  obtain ⟨rfl, rfl⟩ | ⟨rfl, rfl⟩ := SessionPeers.other_eq_some hother
  · -- a controller answers no offers
    obtain ⟨_, _, _, _, _, -, hdid⟩ :=
      controller_of_role h (controller_at h hopened (hatt p hopened).1)
    exact absurd hanswer ((hdid.sent m hm).2 s)
  · exact ⟨p, hopened, rfl, m, hm, hanswer⟩

/-- A candidate comes from the other end. -/
theorem candidate_sent (h : Reachable (initial (Server.start db config files) roles) n)
    {msg : ServerMessage} (hmsg : msg ∈ n.queue y) (hkind : msg.IsCandidate s) :
    ∃ p, Opened s p n.world.log
      ∧ ((y = p.b ∧ ∃ m ∈ (n.client p.a).sent, m.IsCandidate s)
        ∨ (y = p.a ∧ ∃ m ∈ (n.client p.b).sent, m.IsCandidate s)) := by
  have hunder : msg.relayedUnder = some s := by
    obtain ⟨candidate, rfl⟩ := hkind
    rfl
  obtain ⟨x, m, p, hm, hrelayed, hother, hopened⟩ := sent_of_queued h hmsg hunder
  have hcandidate : m.IsCandidate s := (kind_of_relayed hrelayed).2.2 hkind
  refine ⟨p, hopened, ?_⟩
  obtain ⟨rfl, rfl⟩ | ⟨rfl, rfl⟩ := SessionPeers.other_eq_some hother
  · exact .inl ⟨rfl, m, hm, hcandidate⟩
  · exact .inr ⟨rfl, m, hm, hcandidate⟩

/-! ## §3. The order of what is passed on. -/

/-- What a client sent before the turn that starts now has been dealt with. -/
theorem turn_over (h : Reachable (initial (Server.start db config files) roles) n)
    (hlive : (n.world.st.socket x).phase = .live) {m : ClientMessage}
    (hfree : server.Free (.message x m) n.world) {q : ClientMessage}
    (hq : q ∈ (n.client x).sent.take (n.client x).taken) :
    ∃ i a, Event.start i (.message x q) ∈ n.world.log
      ∧ n.world.jobs i = some (.message x q, .ret a) := by
  rw [← (taken_in_order h x).2] at hq
  obtain ⟨⟨i, q'⟩, hturn, rfl⟩ := List.mem_map.mp hq
  have hstart := mem_turns.mp hturn
  obtain ⟨prog, hjob⟩ := (retained h.run x).live hlive i _ rfl hstart
  have hdone : prog.done = true := hfree i _ prog hjob (decide_eq_true rfl)
  cases prog with
  | ret a => exact ⟨i, a, hstart, hjob⟩
  | call o k => exact absurd hdone Bool.false_ne_true

/-- A step puts at most one message on a queue. -/
theorem queue_step (h : Reachable (initial (Server.start db config files) roles) n)
    (hs : Step n n') (y : ConnectionId) : n'.queue y = n.queue y
      ∨ ∃ j t msg, n'.world.log = .call j t ⟨.send y msg, .ok ()⟩ :: n.world.log
        ∧ n'.queue y = n.queue y ++ [msg] := by
  rcases hs.server with hsame | hstep
  · left
    rw [queue, queue, hsame]
  obtain ⟨e, hlog⟩ := hstep.log_eq
  rw [queue_eq h, queue_eq (h.tail hs), hlog]
  cases he : enqueued? y e with
  | none => exact .inl (enqueued_cons_none he _)
  | some msg =>
    obtain ⟨j, t, rfl⟩ := enqueued?_eq_some.mp he
    exact .inr ⟨j, t, msg, rfl, enqueued_cons_some he _⟩

/-- **An order on a queue**: whatever of kind `P` comes on it, something of kind
`Q` is on it already. -/
theorem queue_preceded {P Q : ServerMessage → Prop}
    (h : Reachable (initial (Server.start db config files) roles) n) (y : ConnectionId)
    (hstep : ∀ n₁ n₂ j t msg, Reachable (initial (Server.start db config files) roles) n₁ →
      Step n₁ n₂ → Reachable n₂ n →
      n₂.world.log = .call j t ⟨.send y msg, .ok ()⟩ :: n₁.world.log → P msg →
      ∃ q ∈ n₁.queue y, Q q) : Preceded P Q (n.queue y) := by
  suffices hall : ∀ m, Reachable (initial (Server.start db config files) roles) m →
      Reachable m n → Preceded P Q (m.queue y) from hall n h .refl
  intro m hm
  induction hm with
  | refl => exact fun _ => preceded_nil
  | @tail n₁ n₂ h₁ hs ih =>
    intro h₂
    have hold := ih (h₂.head hs)
    rcases queue_step h₁ hs y with hsame | ⟨j, t, msg, hlog, hqueue⟩
    · rwa [hsame]
    · rw [hqueue]
      exact hold.concat (hstep n₁ n₂ j t msg h₁ hs h₂ hlog)

/-- The turn of what is passed on, at its start: the client had sent it, and
could still be reached. -/
theorem passed_moment (h : Reachable (initial (Server.start db config files) roles) n)
    (hs : Step n n') {j : Nat} {t : Task} {msg : ServerMessage}
    (hlog : n'.world.log = .call j t ⟨.send y msg, .ok ()⟩ :: n.world.log)
    (hunder : msg.relayedUnder = some s) : ∃ x m p n₁, t = .message x m
      ∧ m.relayed = some (s, msg) ∧ p.other x = some y ∧ Opened s p n'.world.log
      ∧ Reachable (initial (Server.start db config files) roles) n₁ ∧ Reachable n₁ n
      ∧ (n₁.client x).sent[(n₁.client x).taken]? = some m
      ∧ (n₁.world.st.socket x).phase = .live ∧ server.Free (.message x m) n₁.world
      ∧ ¬ CutOff y n₁.world := by
  have he : Event.call j t ⟨.send y msg, .ok ()⟩ ∈ n'.world.log := by
    rw [hlog]
    exact List.mem_cons_self
  have h' : Reachable (initial (Server.start db config files) roles) n' := h.tail hs
  obtain ⟨x, m, p, rfl, hm, hother, hopened, -⟩ := relayed_by h'.run he hunder
  have hserver : server.Step freshIds n.world n'.world := by
    rcases hs.server with hsame | hstep
    · rw [hsame] at hlog
      exact absurd hlog.symm (List.cons_ne_self _ _)
    · exact hstep
  obtain ⟨draw, k, hjob, -⟩ := hserver.of_call hlog
  have hstart := (System.Reachable.numbered h.run).job_start j _ _ hjob
  obtain ⟨n₁, h₁, hn, hnext, hsent, hlive, hfree⟩ := taken_moment h hstart
  refine ⟨x, m, p, n₁, rfl, hm, hother, hopened, h₁, hn, hsent, hlive, hfree, fun hcut => ?_⟩
  exact hcut.not_sent h₁.run hn.server hserver (Nat.le_of_eq hnext) hlog hunder rfl

end

end Net

end Client

end Visuara
