/-
  Visuara.Client.Ordered
  ──────────────────────
  **NO CANDIDATE COMES BEFORE ITS SESSION DESCRIPTION.**

  The server passes on what one end of a session sends in this order, each
  message once (`delivered_in_order`).  A host sends its candidates behind its
  answer, and a controller sends its own when it has been answered; so whoever
  hands a candidate to `webrtc` has the other's description (`relayed_in_order`).
-/
import Visuara.Client.Passage

namespace Visuara

namespace Client

open Interleave Sequence Signaling

/-! ## §1. When candidates are added. -/

namespace Output

/-- A candidate of `s` is added. -/
def Adds (s : SessionId) (o : Output) : Prop := ∃ candidate, o = .addIceCandidate s candidate

/-- The description of the other end is set. -/
def Describes (s : SessionId) (o : Output) : Prop := ∃ sdp, o = .setRemoteDescription s sdp

end Output

namespace Program

/-- The session whose candidates the program takes. -/
def exchanges : Program → Option SessionId
  | .host _ _ _ (.awaitingOffer s) | .host _ _ _ (.streaming s) => some s
  | .controller _ _ _ _ (.awaitingAnswer s) | .controller _ _ _ _ (.exchanging s) => some s
  | _ => none

/-- The session for which the program calls `add_ice_candidate` on this message,
whether the call works or not. -/
def adds (p : Program) : ServerMessage → Option SessionId
  | .iceCandidate s _ => if p.exchanges = some s then some s else none
  | _ => none

theorem adds_eq_some {p : Program} {msg : ServerMessage} {s : SessionId} (h : p.adds msg = some s) :
    msg.IsCandidate s ∧ p.exchanges = some s := by
  cases msg with
  | iceCandidate s' candidate =>
    rw [adds] at h
    by_cases hp : p.exchanges = some s'
    · rw [if_pos hp] at h
      obtain rfl := Option.some.inj h
      exact ⟨⟨candidate, rfl⟩, hp⟩
    · rw [if_neg hp] at h
      exact absurd h.symm (Option.some_ne_none s)
  | _ => exact absurd h.symm (Option.some_ne_none s)

/-- A candidate that has been added came with the message. -/
theorem adds_of_receive {p : Program} {rtc : Webrtc} {msg : ServerMessage} {s : SessionId}
    {candidate : String} (h : .addIceCandidate s candidate ∈ (p.receive rtc msg).2) :
    p.adds msg = some s := by
  cases p with
  | host email password name phase =>
    have hturn := Host.turn email password name rtc phase msg
    have hout : .addIceCandidate s candidate
        ∈ (Host.receive email password name rtc phase msg).2 := h
    generalize Host.receive email password name rtc phase msg = turn at hturn hout
    obtain ⟨phase', outputs⟩ := turn
    cases hturn with
    | prepares _ _ _ houtputs =>
      obtain ⟨m, heq, -⟩ := houtputs _ hout
      exact Output.noConfusion heq
    | adds s' candidate' hp =>
      obtain ⟨rfl, -⟩ := Output.addIceCandidate.inj (List.mem_singleton.mp hout)
      rcases hp with rfl | rfl <;> exact if_pos rfl
    | idle | told | builds | answers | fails => exact absurd hout (by simp)
  | controller email password target credential phase =>
    have hturn := Controller.turn email password target credential rtc phase msg
    have hout : .addIceCandidate s candidate
        ∈ (Controller.receive email password target credential rtc phase msg).2 := h
    generalize Controller.receive email password target credential rtc phase msg = turn
      at hturn hout
    obtain ⟨phase', outputs⟩ := turn
    cases hturn with
    | prepares _ _ _ houtputs =>
      obtain ⟨m, heq, -⟩ := houtputs _ hout
      exact Output.noConfusion heq
    | adds s' candidate' hp =>
      obtain ⟨rfl, -⟩ := Output.addIceCandidate.inj (List.mem_singleton.mp hout)
      rcases hp with rfl | rfl <;> exact if_pos rfl
    | idle | offers | accepts | fails => exact absurd hout (by simp)
  | other => exact absurd h List.not_mem_nil

/-- A candidate that has been gathered is sent, and that is all. -/
theorem sends_of_gathered {p : Program} {candidate : String} {turn : Program × List Output}
    (h : p.gathered candidate = some turn) : ∀ o ∈ turn.2, ∃ m, o = .send m := by
  cases p with
  | host email password name phase =>
    obtain ⟨turn', hturn', rfl⟩ := Option.map_eq_some_iff.mp h
    cases phase with
    | streaming s =>
      obtain rfl := Option.some.inj hturn'
      simp
    | _ => exact absurd hturn'.symm (Option.some_ne_none _)
  | controller email password target credential phase =>
    obtain ⟨turn', hturn', rfl⟩ := Option.map_eq_some_iff.mp h
    cases phase with
    | exchanging s =>
      obtain rfl := Option.some.inj hturn'
      simp
    | _ => exact absurd hturn'.symm (Option.some_ne_none _)
  | other => exact absurd h.symm (Option.some_ne_none _)

end Program

namespace Net

section

variable [Crates] {db : Db} {config : Config} {files : Files} {roles : ConnectionId → Role}
  {n n' : Net} {s : SessionId} {p : SessionPeers} {x y : ConnectionId}

/-! ## §2. At the controller. -/

/-- An answer that has been dealt with has arrived, or the controller is lost. -/
theorem answer_arrives (h : Reachable (initial (Server.start db config files) roles) n)
    (hn : Reachable n n') (hopened : Opened s p n'.world.log) (hhost : (roles p.b).isHost = true)
    (hother : p.other p.b = some p.a) (hlive : (n.world.st.socket p.b).phase = .live) {i : Nat}
    {q : ClientMessage} {a : Option Response} (hq : q.IsAnswer s)
    (hstart : Event.start i (.message p.b q) ∈ n.world.log)
    (hjob : n.world.jobs i = some (.message p.b q, .ret a)) :
    (∃ msg ∈ n.queue p.a, msg.IsAnswer s) ∨ CutOff p.a n.world := by
  have h' : Reachable (initial (Server.start db config files) roles) n' := h.trans hn
  -- the answer was taken up when the host had been sent an offer
  obtain ⟨n₁, h₁, hn₁, hnext, hsent, hlive₁, -⟩ := taken_moment h hstart
  obtain ⟨_, _, _, _, -, hdid⟩ := host_of_role h₁ hhost
  obtain ⟨-, offer, hoffer, hkind⟩ := hdid.answered s q (List.mem_of_getElem? hsent) hq
  have hqueued : offer ∈ enqueued p.b n₁.world.log := by
    rw [← queue_eq h₁]
    exact List.mem_of_mem_take hoffer
  have hunder : offer.relayedUnder = some s := by
    obtain ⟨sdp, rfl⟩ := hkind
    rfl
  obtain ⟨j, t, he⟩ := mem_enqueued.mp hqueued
  obtain ⟨x, m, p', -, -, -, hopened', hkept⟩ := relayed_by h₁.run he hunder
  have hlater : Opened s p' n'.world.log := (hopened'.later hn₁.server).later hn.server
  obtain rfl : p' = p := Opened.unique h'.run hlater hopened
  obtain ⟨sdp, rfl⟩ := hq
  have hstarted : (n₁.world.st.socket p'.b).phase ≠ .fresh := by
    rw [hlive₁]
    exact Phase.noConfusion
  rcases relayed_or_cutOff h₁.run hn₁.server (hkept hlive₁) hother hstarted hlive
    (Nat.le_of_eq hnext) rfl hjob with harrived | hcut
  · rw [← queue_eq h] at harrived
    exact .inl ⟨_, harrived, sdp, rfl⟩
  · exact .inr hcut

/-- **A controller finds the answer before the candidates.** -/
theorem answers_first (h : Reachable (initial (Server.start db config files) roles) n)
    (hatt : Attended roles s n.world.log) (hy : (roles y).isController = true) :
    Preceded (ServerMessage.IsCandidate s) (ServerMessage.IsAnswer s) (n.queue y) := by
  refine queue_preceded h y fun n₁ n₂ j t msg h₁ hs h₂ hlog hcandidate => ?_
  have hunder : msg.relayedUnder = some s := by
    obtain ⟨candidate, rfl⟩ := hcandidate
    rfl
  obtain ⟨x, m, p, n₀, rfl, hm, hother, hopened, h₀, hn, hsent, hlive, hfree, hreached⟩ :=
    passed_moment h₁ hs hlog hunder
  have h₂' : Reachable (initial (Server.start db config files) roles) n₂ := h₁.tail hs
  have hatt₂ := hatt.earlier h₂
  obtain ⟨rfl, rfl⟩ | ⟨rfl, rfl⟩ := SessionPeers.other_eq_some hother
  · -- the other end would be a host
    have hhost := host_at h₂' hopened (hatt₂ p hopened).2
    rw [Role.not_both hhost] at hy
    exact absurd hy (by simp)
  have hhost : (roles p.b).isHost = true := host_at h₂' hopened (hatt₂ p hopened).2
  obtain ⟨_, _, _, _, -, hdid⟩ := host_of_role h₀ hhost
  obtain ⟨q, hq, hanswer⟩ := (hdid.candidates s).getElem? hsent ((kind_of_relayed hm).2.2 hcandidate)
  obtain ⟨i, a, hstart, hjob⟩ := turn_over h₀ hlive hfree hq
  rcases answer_arrives h₀ (hn.tail hs) hopened hhost hother hlive hanswer hstart hjob
    with harrived | hcut
  · obtain ⟨msg', hmsg', hkind⟩ := harrived
    exact ⟨msg', (Reachable.queue_prefix h₀ hn p.a).subset hmsg', hkind⟩
  · exact absurd hcut hreached

/-- Whoever is sent an answer has sent an offer. -/
theorem offered_of_answer (h : Reachable (initial (Server.start db config files) roles) n)
    (hatt : Attended roles s n.world.log) {msg : ServerMessage} (hmsg : msg ∈ n.queue y)
    (hkind : msg.IsAnswer s) : ∃ m ∈ (n.client y).sent, m.IsOffer s := by
  obtain ⟨p, hopened, rfl, m, hm, hanswer⟩ := answer_sent h hatt hmsg hkind
  obtain ⟨_, _, _, _, -, hdid⟩ := host_of_role h (host_at h hopened (hatt p hopened).2)
  obtain ⟨-, offer, hoffer, hkind'⟩ := hdid.answered s m hm hanswer
  obtain ⟨p', hopened', -, m', hm', hsent, -⟩ :=
    offer_sent h hatt (List.mem_of_mem_take hoffer) hkind'
  obtain rfl : p' = p := Opened.unique h.run hopened' hopened
  exact ⟨m', hm', hsent⟩

omit [Crates] in
/-- A controller comes to wait for the answer of `s` with its offer. -/
theorem awaits_answer {phase : ControllerPhase} {msg : ServerMessage} {outputs : List Output}
    (h : ControllerTurn phase msg (.awaitingAnswer s) outputs) :
    (phase = .awaitingAnswer s ∧ ¬ msg.IsAnswer s) ∨ (phase.session = none ∧ msg.IsEstablished s) := by
  cases h with
  | idle _ _ hmsg => exact .inl ⟨rfl, hmsg s rfl⟩
  | prepares _ hp hp' _ => exact absurd hp' (by simp [ControllerPhase.session])
  | offers hp s d servers sdp => exact .inr ⟨hp, d, rfl⟩
  | adds s' candidate hp => exact .inl ⟨rfl, by simp [ServerMessage.IsAnswer]⟩

/-- A controller that waits for an answer has not been sent one. -/
theorem unanswered (h : Reachable (initial (Server.start db config files) roles) n)
    (hatt : Attended roles s n.world.log) {email password : String} {target : DeviceId}
    {credential : ConnectCredential} (hprogram : (n.client x).program
      = .controller email password target credential (.awaitingAnswer s)) :
    ∀ msg ∈ n.inbox x, ¬ msg.IsAnswer s := by
  induction h with
  | refl =>
    have hstart : (roles x).start.1
        = .controller email password target credential (.awaitingAnswer s) := hprogram
    cases hrole : roles x <;> simp [hrole, Role.start, Controller.start] at hstart
  | @tail n₁ n₂ h₁ hs ih =>
    have h₂ : Reachable (initial (Server.start db config files) roles) n₂ := h₁.tail hs
    have hatt₁ := hatt.earlier (.single hs)
    have hcontroller : (roles x).isController = true := by
      rw [← role_kept h₂ x, hprogram]
      rfl
    obtain ⟨email', password', target', credential', phase, hprogram₁, hdid⟩ :=
      controller_of_role h₁ hcontroller
    obtain ⟨hp, -, hi⟩ | ⟨rtc, msg, -, hopen, hp, -, hi⟩ | ⟨candidate, turn, hturn, hp, -, -⟩
      | ⟨m, -, hp, -, -⟩ | ⟨hp, -, -⟩ := hs.moves h₁ x
    · rw [hi]
      exact ih hatt₁ (hp.symm.trans hprogram)
    · rw [hprogram, hprogram₁] at hp
      rw [hprogram₁] at hopen
      have hturn := Controller.turn email' password' target' credential' rtc phase msg
      obtain ⟨rfl, rfl, rfl, rfl, hphase⟩ := Program.controller.inj hp
      rw [← hphase] at hturn
      rw [hi]
      intro msg' hmsg'
      rcases List.mem_append.mp hmsg' with hold | hnew
      · obtain ⟨rfl, -⟩ | ⟨hnone, -⟩ := awaits_answer hturn
        · exact ih hatt₁ hprogram₁ msg' hold
        · -- an answer comes after the offer, and the offer is not out yet
          intro hanswer
          obtain ⟨m, hm, hoffer⟩ := offered_of_answer h₁ hatt₁ (List.mem_of_mem_take hold) hanswer
          refine hdid.no_offer ?_ hnone m hm s hoffer
          cases phase with
          | ended e => exact absurd hopen (by simp [Program.isEnded])
          | _ => rfl
      · rw [List.mem_singleton.mp hnew]
        obtain ⟨-, hno⟩ | ⟨-, d, rfl⟩ := awaits_answer hturn
        · exact hno
        · simp [ServerMessage.IsAnswer]
    · rw [hprogram] at hp
      rw [hprogram₁] at hturn
      obtain ⟨turn', hturn', rfl⟩ := Option.map_eq_some_iff.mp hturn
      obtain ⟨-, -, -, -, hphase⟩ := Program.controller.inj hp
      cases phase with
      | exchanging s' =>
        obtain rfl := Option.some.inj hturn'
        exact ControllerPhase.noConfusion hphase
      | _ => exact absurd hturn'.symm (Option.some_ne_none _)
    · rw [hprogram] at hp
      exact Program.noConfusion hp
    · rw [hprogram, hprogram₁] at hp
      obtain ⟨-, -, -, -, hphase⟩ := Program.controller.inj hp
      exact ControllerPhase.noConfusion hphase

/-! ## §3. At the host. -/

/-- A candidate of the controller comes after the host's answer. -/
theorem answered_of_candidate (h : Reachable (initial (Server.start db config files) roles) n)
    (hatt : Attended roles s n.world.log) (hy : (roles y).isHost = true) {msg : ServerMessage}
    (hmsg : msg ∈ n.queue y) (hkind : msg.IsCandidate s) :
    ∃ m ∈ (n.client y).sent, m.IsAnswer s := by
  obtain ⟨p, hopened, hends⟩ := candidate_sent h hmsg hkind
  have hcontroller : (roles p.a).isController = true := controller_at h hopened (hatt p hopened).1
  obtain ⟨rfl, m, hm, hcandidate⟩ | ⟨rfl, -⟩ := hends
  · obtain ⟨_, _, _, _, _, -, hdid⟩ := controller_of_role h hcontroller
    obtain ⟨answer, hanswer, hkind'⟩ := hdid.candidates s m hm hcandidate
    obtain ⟨p', hopened', -, hsent⟩ := answer_sent h hatt (List.mem_of_mem_take hanswer) hkind'
    obtain rfl : p' = p := Opened.unique h.run hopened' hopened
    exact hsent
  · rw [Role.not_both hy] at hcontroller
    exact absurd hcontroller (by simp)

/-! ## §4. At both. -/

/-- **Who is about to add a candidate has the description of the other end.** -/
theorem described (h : Reachable (initial (Server.start db config files) roles) n)
    (hatt : Attended roles s n.world.log) {msg : ServerMessage}
    (hnext : (n.queue x)[(n.client x).received]? = some msg)
    (hadds : (n.client x).program.adds msg = some s) :
    ∃ sdp, .setRemoteDescription s sdp ∈ (n.client x).outputs := by
  obtain ⟨hcandidate, hexchanges⟩ := Program.adds_eq_some hadds
  have hrole := role_kept h x
  cases hprogram : (n.client x).program with
  | host email password name phase =>
    rw [hprogram] at hexchanges hrole
    have hdid := hostDid h hprogram
    cases phase with
    | awaitingOffer s' =>
      obtain rfl := Option.some.inj hexchanges
      -- the host would have answered already
      have hhost : (roles x).isHost = true := by
        rw [← hrole]
        rfl
      obtain ⟨m, hm, hanswer⟩ :=
        answered_of_candidate h hatt hhost (List.mem_of_getElem? hnext) hcandidate
      exact absurd (hdid.answered s' m hm hanswer).1 (by simp [HostPhase.isEnded])
    | streaming s' =>
      obtain rfl := Option.some.inj hexchanges
      exact (hdid.streaming s' rfl).2.1
    | _ => exact absurd hexchanges.symm (Option.some_ne_none s)
  | controller email password target credential phase =>
    rw [hprogram] at hexchanges hrole
    cases phase with
    | awaitingAnswer s' =>
      obtain rfl := Option.some.inj hexchanges
      -- the controller would have found the answer already
      have hcontroller : (roles x).isController = true := by
        rw [← hrole]
        rfl
      obtain ⟨answer, hanswer, hkind⟩ :=
        (answers_first h hatt hcontroller).getElem? hnext hcandidate
      exact absurd hkind (unanswered h hatt hprogram answer hanswer)
    | exchanging s' =>
      obtain rfl := Option.some.inj hexchanges
      exact ((controllerDid h hprogram).exchanging s' rfl).2
    | _ => exact absurd hexchanges.symm (Option.some_ne_none s)
  | other =>
    rw [hprogram] at hexchanges
    exact absurd hexchanges.symm (Option.some_ne_none s)

/-- Every candidate that has been added was added with the description there. -/
theorem added_after (h : Reachable (initial (Server.start db config files) roles) n)
    (hatt : Attended roles s n.world.log) (x : ConnectionId) :
    Preceded (Output.Adds s) (Output.Describes s) (n.client x).outputs := by
  induction h with
  | refl =>
    show Preceded _ _ (roles x).start.2
    refine preceded_of_none ?_
    cases roles x <;> simp [Role.start, Host.start, Controller.start, Output.Adds]
  | @tail n₁ n₂ h₁ hs ih =>
    have hatt₁ := hatt.earlier (.single hs)
    have hold := ih hatt₁
    obtain ⟨-, ho, -⟩ | ⟨rtc, msg, hnext, -, -, ho, -⟩ | ⟨candidate, turn, hturn, -, ho, -⟩
      | ⟨m, -, -, ho, -⟩ | ⟨-, ho, -⟩ := hs.moves h₁ x
    all_goals rw [ho]
    · exact hold
    · refine hold.append fun l₁ o l₂ heq hadds => ?_
      obtain ⟨candidate, rfl⟩ := hadds
      have hout : .addIceCandidate s candidate ∈ ((n₁.client x).program.receive rtc msg).2 := by
        rw [heq]
        exact List.mem_append_right _ List.mem_cons_self
      obtain ⟨sdp, hset⟩ := described h₁ hatt₁ hnext (Program.adds_of_receive hout)
      exact ⟨_, List.mem_append_left _ hset, sdp, rfl⟩
    · refine hold.append_none fun o ho => ?_
      rintro ⟨candidate', rfl⟩
      exact absurd (Program.sends_of_gathered hturn _ ho) (by simp)
    · exact hold.append_none (by simp [Output.Adds])
    · exact hold

/-- **Exactly once, in order, and no candidate before its description**, in every
interleaving of the server, hosts and controllers. -/
theorem relayed_in_order (h : Reachable (initial (Server.start db config files) roles) n)
    (s : SessionId) :
    (∀ p x y, n.world.st.sessions s = some p → p.other x = some y →
      (turns x n.world.log).map Prod.snd = (n.client x).sent.take (n.client x).taken
        ∧ passedOn s (n.queue y) = (turns x n.world.log).filterMap (accepted n.world s x))
    ∧ (Attended roles s n.world.log → ∀ c,
      (∀ msg, (n.queue c)[(n.client c).received]? = some msg →
        (n.client c).program.adds msg = some s →
        ∃ sdp, .setRemoteDescription s sdp ∈ (n.client c).outputs)
        ∧ Preceded (Output.Adds s) (Output.Describes s) (n.client c).outputs) := by
  constructor
  · intro p x y hp hother
    exact ⟨(taken_in_order h x).2, delivered_in_order h.run hp hother⟩
  · intro hatt c
    exact ⟨fun msg hnext hadds => described h hatt hnext hadds, added_after h hatt c⟩

end

/-! ## §5. A controller and a host. -/

section Schedule

open Signaling.Transparent

/-- The host and the controller of one device, and others. -/
def pair (c : ConnectionId) : Role :=
  if c = "host" then .host "host@example.com" "pw" "pc"
  else if c = "ctl" then
    .controller "host@example.com" "pw" "002 003 004" (.oneTimePassword "0002 0003")
  else .other

def works : Webrtc := ⟨none, "v=0"⟩

def joins (c : ConnectionId) (j : Nat) : List Move :=
  .serves (.start (.connect c)) :: (steps j 1).map .serves

/-- The server takes the next message of `c` up, in job `j` of `k` operations. -/
def turn (c : ConnectionId) (j k : Nat) : List Move := .takes c :: (steps j k).map .serves

/-- Up to where the controller has sent its offer and the host has been told. -/
def meet : List Move :=
  joins "host" 0 ++ turn "host" 1 8 ++ .receives "host" works :: turn "host" 2 9
    ++ .receives "host" works :: joins "ctl" 3 ++ turn "ctl" 4 2
    ++ .receives "ctl" works :: turn "ctl" 5 4 ++ .receives "ctl" works :: turn "ctl" 6 3
    ++ .receives "ctl" works :: turn "ctl" 7 9 ++ [.receives "ctl" works, .receives "host" works]

/-- The session the two are given. -/
def met : SessionId := newV4 (Draw.from 7).rng

theorem pair_attended {n : Net} (h : Reachable (initial (Server.blank true) pair) n)
    (hsession : n.world.st.sessions met = some ⟨"ctl", "host"⟩) :
    Attended pair met n.world.log := by
  intro p hp
  obtain rfl : p = ⟨"ctl", "host"⟩ := Opened.unique h.run hp (opened_of_session h.run hsession)
  exact ⟨by decide, by decide⟩

/-- They exchange descriptions, and a candidate each. -/
def exchange : List Move :=
  meet ++ turn "host" 8 3 ++ .receives "host" works :: turn "ctl" 9 3
    ++ .receives "host" works :: .gathers "host" "a=host" :: turn "host" 10 3 ++ turn "host" 11 3
    ++ .receives "ctl" works :: .receives "ctl" works :: .gathers "ctl" "a=ctl" :: turn "ctl" 12 3
    ++ [.receives "host" works]

theorem exchange_plays : (playAll (fun _ _ => true) exchange
    (initial (Server.blank true) pair)).isSome = true := by
  decide +kernel

theorem exchange_reachable :
    Reachable (initial (Server.blank true) pair) (Option.get _ exchange_plays) :=
  (playAll_reachable (P := fun _ _ => True) (fun _ _ _ => trivial) .refl
    (Option.some_get exchange_plays).symm).reachable

theorem exchange_session :
    (Option.get _ exchange_plays).world.st.sessions met = some ⟨"ctl", "host"⟩ := by
  decide +kernel

theorem relayed_in_order_exchange :
    passedOn met ((Option.get _ exchange_plays).queue "ctl")
        = [.sdpAnswer met "v=0", .iceCandidate met "a=host"]
      ∧ passedOn met ((Option.get _ exchange_plays).queue "ctl")
        = (turns "host" (Option.get _ exchange_plays).world.log).filterMap
          (accepted (Option.get _ exchange_plays).world met "host")
      ∧ Preceded (Output.Adds met) (Output.Describes met)
        ((Option.get _ exchange_plays).client "ctl").outputs :=
  ⟨by decide +kernel,
    ((relayed_in_order exchange_reachable met).1 _ _ _ exchange_session (by decide)).2,
    ((relayed_in_order exchange_reachable met).2
      (pair_attended exchange_reachable exchange_session) "ctl").2⟩

end Schedule

end Net

end Client

end Visuara
