/-
  Visuara.Client.Admitted
  ───────────────────────
  **NO ONE MEETS A STRANGER.**

  Host and controller act on a session description or a candidate because the
  server passes it on; neither looks at where it comes from.  What they rely on
  is that the server has admitted the session: somebody logged in, named a
  device and presented a credential that opens it.

    • `Output.actsOn`     — the message of the other end behind an output;
    • `Met`               — what a client has received before it acts;
    • `Admitted`          — what the server has checked for a session;
    • `acts_on_admitted`  — both ends, with any clients around them.
-/
import Visuara.Client.Authenticate
import Visuara.Client.Ordered

namespace Visuara

namespace Client

open Interleave Sequence Signaling

/-! ## §1. What a client acts on. -/

namespace Role

/-- The session description that comes from the other end. -/
def description : Role → SessionId → String → ClientMessage
  | .controller .., s, sdp => .sdpAnswer s sdp
  | _, s, sdp => .sdpOffer s sdp

/-- The message tells the client about the session. -/
def Told : Role → SessionId → ServerMessage → Prop
  | .host .., s, msg => msg.IsIncoming s
  | .controller .., s, msg => msg.IsEstablished s
  | .other, _, _ => False

/-- The end of a session that the client `c` is, and the one it faces. -/
def Faces (c peer a b : ConnectionId) : Role → Prop
  | .host .. => c = b ∧ peer = a
  | .controller .. => c = a ∧ peer = b
  | .other => False

theorem Faces.of_other {r : Role} {c peer a b x : ConnectionId} (h : r.Faces c peer a b)
    (hx : SessionPeers.other ⟨a, b⟩ x = some c) : x = peer := by
  cases r with
  | host =>
    obtain ⟨rfl, rfl⟩ := h
    obtain ⟨rfl, -⟩ | ⟨rfl, heq⟩ := SessionPeers.other_eq_some hx
    · rfl
    · exact heq
  | controller =>
    obtain ⟨rfl, rfl⟩ := h
    obtain ⟨rfl, heq⟩ | ⟨rfl, -⟩ := SessionPeers.other_eq_some hx
    · exact heq
    · rfl
  | other => exact h.elim

end Role

/-- The message of the other end that the output acts on, and its session. -/
def Output.actsOn (r : Role) : Output → Option (SessionId × ClientMessage)
  | .setRemoteDescription s sdp => some (s, r.description s sdp)
  | .addIceCandidate s candidate => some (s, .iceCandidate s candidate)
  | _ => none

def Program.session : Program → Option SessionId
  | .host _ _ _ p => p.session
  | .controller _ _ _ _ p => p.session
  | .other => none

/-- What a client with this session has received before it acts. -/
structure Met (r : Role) (session : Option SessionId) (outputs : List Output)
    (inbox : List ServerMessage) : Prop where
  told : ∀ s, session = some s → ∃ msg ∈ inbox, r.Told s msg
  acted : ∀ o ∈ outputs, ∀ s m, o.actsOn r = some (s, m) →
    (∃ msg ∈ inbox, m.relayed = some (s, msg)) ∧ ∃ msg ∈ inbox, r.Told s msg

namespace Met

variable {r : Role} {session session' : Option SessionId} {outputs outputs' : List Output}
  {inbox : List ServerMessage}

theorem start (h : ∀ o ∈ outputs, ∃ m, o = .send m) : Met r none outputs [] where
  told _ hs := absurd hs nofun
  acted o ho s m hm := by
    obtain ⟨m', rfl⟩ := h o ho
    exact absurd hm nofun

/-- **A turn.** What it acts on is what it receives, under the session it is in. -/
theorem turn (h : Met r session outputs inbox) {msg : ServerMessage}
    (hsession : ∀ s, session' = some s → session = some s ∨ r.Told s msg)
    (hacts : ∀ o ∈ outputs', ∀ s m, o.actsOn r = some (s, m) →
      session = some s ∧ m.relayed = some (s, msg)) :
    Met r session' (outputs ++ outputs') (inbox ++ [msg]) where
  told s hs := by
    obtain hs | htold := hsession s hs
    · obtain ⟨msg', hmsg', htold⟩ := h.told s hs
      exact ⟨msg', List.mem_append_left _ hmsg', htold⟩
    · exact ⟨msg, List.mem_append_right _ (List.mem_singleton.mpr rfl), htold⟩
  acted o ho s m hm := by
    rcases List.mem_append.mp ho with ho | ho
    · obtain ⟨⟨msg', hmsg', hrelayed⟩, msg'', hmsg'', htold⟩ := h.acted o ho s m hm
      exact ⟨⟨msg', List.mem_append_left _ hmsg', hrelayed⟩,
        msg'', List.mem_append_left _ hmsg'', htold⟩
    · obtain ⟨hs, hrelayed⟩ := hacts o ho s m hm
      obtain ⟨msg', hmsg', htold⟩ := h.told s hs
      exact ⟨⟨msg, List.mem_append_right _ (List.mem_singleton.mpr rfl), hrelayed⟩,
        msg', List.mem_append_left _ hmsg', htold⟩

/-- Between two messages a client sends something, or ends. -/
theorem sends (h : Met r session outputs inbox)
    (hsession : ∀ s, session' = some s → session = some s)
    (hsends : ∀ o ∈ outputs', ∃ m, o = .send m) : Met r session' (outputs ++ outputs') inbox where
  told s hs := h.told s (hsession s hs)
  acted o ho s m hm := by
    rcases List.mem_append.mp ho with ho | ho
    · exact h.acted o ho s m hm
    · obtain ⟨m', rfl⟩ := hsends o ho
      exact absurd hm nofun

end Met

/-! ## §2. The turns. -/

theorem HostTurn.acts {p p' : HostPhase} {msg : ServerMessage} {outputs : List Output}
    (h : HostTurn p msg p' outputs) (email password name : String) :
    (∀ s, p'.session = some s → p.session = some s
      ∨ (Role.host email password name).Told s msg)
    ∧ ∀ o ∈ outputs, ∀ s m, o.actsOn (.host email password name) = some (s, m) →
      p.session = some s ∧ m.relayed = some (s, msg) := by
  cases h with
  | idle => exact ⟨fun s hs => .inl hs, fun o ho => absurd ho List.not_mem_nil⟩
  | prepares msg hp hp' houtputs =>
    refine ⟨fun s hs => absurd (hp'.symm.trans hs) nofun, fun o ho s m hm => ?_⟩
    obtain ⟨m', rfl, -⟩ := houtputs o ho
    exact absurd hm nofun
  | told s sender =>
    refine ⟨fun s' hs => .inr ?_, fun o ho s' m hm => ?_⟩
    · obtain rfl := Option.some.inj hs
      exact ⟨sender, rfl⟩
    · simp only [List.mem_cons, List.not_mem_nil, or_false] at ho
      obtain rfl | rfl := ho <;> exact absurd hm nofun
  | builds s msg servers =>
    refine ⟨fun s' hs => .inl hs, fun o ho s' m hm => ?_⟩
    obtain rfl := List.mem_singleton.mp ho
    exact absurd hm nofun
  | answers s sdp answer =>
    refine ⟨fun s' hs => .inl hs, fun o ho s' m hm => ?_⟩
    simp only [List.mem_cons, List.not_mem_nil, or_false] at ho
    obtain rfl | rfl := ho
    · obtain ⟨rfl, rfl⟩ := Prod.mk.inj (Option.some.inj hm)
      exact ⟨rfl, rfl⟩
    · exact absurd hm nofun
  | adds s candidate hp =>
    refine ⟨fun s' hs => .inl hs, fun o ho s' m hm => ?_⟩
    obtain rfl := List.mem_singleton.mp ho
    obtain ⟨rfl, rfl⟩ := Prod.mk.inj (Option.some.inj hm)
    obtain rfl | rfl := hp <;> exact ⟨rfl, rfl⟩
  | fails p msg e =>
    exact ⟨fun s hs => absurd hs nofun, fun o ho => absurd ho List.not_mem_nil⟩

theorem ControllerTurn.acts {p p' : ControllerPhase} {msg : ServerMessage} {outputs : List Output}
    (h : ControllerTurn p msg p' outputs) (email password : String) (target : DeviceId)
    (credential : ConnectCredential) :
    (∀ s, p'.session = some s → p.session = some s
      ∨ (Role.controller email password target credential).Told s msg)
    ∧ ∀ o ∈ outputs, ∀ s m, o.actsOn (.controller email password target credential) = some (s, m) →
      p.session = some s ∧ m.relayed = some (s, msg) := by
  cases h with
  | idle => exact ⟨fun s hs => .inl hs, fun o ho => absurd ho List.not_mem_nil⟩
  | prepares msg hp hp' houtputs =>
    refine ⟨fun s hs => absurd (hp'.symm.trans hs) nofun, fun o ho s m hm => ?_⟩
    obtain ⟨m', rfl, -⟩ := houtputs o ho
    exact absurd hm nofun
  | offers hp s d servers sdp =>
    refine ⟨fun s' hs => .inr ?_, fun o ho s' m hm => ?_⟩
    · obtain rfl := Option.some.inj hs
      exact ⟨d, rfl⟩
    · simp only [List.mem_cons, List.not_mem_nil, or_false] at ho
      obtain rfl | rfl := ho <;> exact absurd hm nofun
  | accepts s sdp =>
    refine ⟨fun s' hs => .inl hs, fun o ho s' m hm => ?_⟩
    obtain rfl := List.mem_singleton.mp ho
    obtain ⟨rfl, rfl⟩ := Prod.mk.inj (Option.some.inj hm)
    exact ⟨rfl, rfl⟩
  | adds s candidate hp =>
    refine ⟨fun s' hs => .inl hs, fun o ho s' m hm => ?_⟩
    obtain rfl := List.mem_singleton.mp ho
    obtain ⟨rfl, rfl⟩ := Prod.mk.inj (Option.some.inj hm)
    obtain rfl | rfl := hp <;> exact ⟨rfl, rfl⟩
  | fails p msg e =>
    exact ⟨fun s hs => absurd hs nofun, fun o ho => absurd ho List.not_mem_nil⟩

/-- A controller asks for its target only, with its own credential. -/
theorem Controller.asks {email password : String} {target d : DeviceId}
    {credential asked : ConnectCredential} {rtc : Webrtc} {p : ControllerPhase}
    {msg : ServerMessage} (h : .send (.requestConnection d asked)
      ∈ (Controller.receive email password target credential rtc p msg).2) :
    d = target ∧ asked = credential := by
  cases p with
  | awaitingTurn =>
    obtain ⟨rfl, rfl⟩ := ClientMessage.requestConnection.inj (Output.send.inj (List.mem_singleton.mp h))
    exact ⟨rfl, rfl⟩
  | authenticating step =>
    simp only [receive] at h
    split at h
    · simp at h
    next step' reply hauth =>
      obtain ⟨-, -, rfl⟩ := authenticate_continues hauth
      simp at h
    · simp at h
  | requesting | awaitingAnswer | exchanging | ended => cases msg <;> grind [receive]

/-! ## §3. In every run. -/

/-- What is passed on tells what has been sent. -/
theorem relayed_inj {m m' : ClientMessage} {s : SessionId} {msg : ServerMessage}
    (h : m.relayed = some (s, msg)) (h' : m'.relayed = some (s, msg)) : m = m' := by
  cases m with
  | sdpOffer | sdpAnswer | iceCandidate =>
    obtain ⟨rfl, rfl⟩ := Prod.mk.inj (Option.some.inj h)
    cases m' <;> simp_all [ClientMessage.relayed]
  | _ => cases h

theorem Program.met_receive {p : Program} {outputs : List Output} {inbox : List ServerMessage}
    (h : Met p.role p.session outputs inbox) (rtc : Webrtc) (msg : ServerMessage) :
    Met (p.receive rtc msg).1.role (p.receive rtc msg).1.session
      (outputs ++ (p.receive rtc msg).2) (inbox ++ [msg]) := by
  cases p with
  | host email password name phase =>
    obtain ⟨hsession, hacts⟩ := (Host.turn email password name rtc phase msg).acts email password name
    exact h.turn hsession hacts
  | controller email password target credential phase =>
    obtain ⟨hsession, hacts⟩ := (Controller.turn email password target credential rtc phase msg).acts
      email password target credential
    exact h.turn hsession hacts
  | other => exact h.turn (fun s hs => absurd hs nofun) fun o ho => absurd ho List.not_mem_nil

/-- What a client does with a candidate it has gathered. -/
theorem Program.gathered_turn {p : Program} {candidate : String} {turn : Program × List Output}
    (h : p.gathered candidate = some turn) : turn.1.role = p.role ∧ turn.1.session = p.session
      ∧ ∃ s, turn.2 = [.send (.iceCandidate s candidate)] := by
  cases p with
  | host email password name phase =>
    obtain ⟨turn', hturn', rfl⟩ := Option.map_eq_some_iff.mp h
    cases phase with
    | streaming s =>
      obtain rfl := Option.some.inj hturn'
      exact ⟨rfl, rfl, s, rfl⟩
    | _ => exact absurd hturn' nofun
  | controller email password target credential phase =>
    obtain ⟨turn', hturn', rfl⟩ := Option.map_eq_some_iff.mp h
    cases phase with
    | exchanging s =>
      obtain rfl := Option.some.inj hturn'
      exact ⟨rfl, rfl, s, rfl⟩
    | _ => exact absurd hturn' nofun
  | other => exact absurd h nofun

/-- What the server has checked before it made the session of `a` and `b`. -/
def Admitted [Crates] (s₀ : Server) (w : ServerWorld) (s : SessionId) (a b : ConnectionId)
    (d : DeviceId) (credential : ConnectCredential) : Prop :=
  ∃ i, Past s₀ w
    (.call i (.message a (.requestConnection d credential)) ⟨.sessionsInsert s ⟨a, b⟩, ()⟩)
    fun w₁ => RequestChecked s₀ w₁ i a b d credential

namespace Net

section

variable [Crates] {db : Db} {config : Config} {files : Files} {roles : ConnectionId → Role}
  {n : Net} {s : SessionId} {a b c : ConnectionId}

theorem met_kept (h : Reachable (initial (Server.start db config files) roles) n) (c : ConnectionId) :
    Met (roles c) (n.client c).program.session (n.client c).outputs (n.inbox c) := by
  rw [← role_kept h c]
  refine Reachable.client (fun p outputs inbox => Met p.role p.session outputs inbox)
    ?_ ?_ ?_ ?_ ?_ h c
  · intro r
    cases r with
    | host | controller => exact Met.start fun o ho => ⟨_, List.mem_singleton.mp ho⟩
    | other => exact Met.start fun o ho => absurd ho List.not_mem_nil
  · exact fun p outputs inbox rtc msg _ hmet => Program.met_receive hmet rtc msg
  · intro p outputs inbox candidate turn hturn hmet
    obtain ⟨hrole, hsession, s, houtputs⟩ := Program.gathered_turn hturn
    rw [hrole, hsession, houtputs]
    exact hmet.sends (fun s hs => hs) fun o ho => ⟨_, List.mem_singleton.mp ho⟩
  · exact fun outputs inbox m hmet =>
      hmet.sends (fun s hs => hs) fun o ho => ⟨m, List.mem_singleton.mp ho⟩
  · intro p outputs inbox hmet
    refine ⟨fun s hs => ?_, ?_⟩
    · cases p <;> exact absurd hs nofun
    · cases p <;> exact hmet.acted

/-- What a controller has asked for. -/
theorem asked (h : Reachable (initial (Server.start db config files) roles) n)
    {email password : String} {target : DeviceId} {credential : ConnectCredential}
    (hc : roles c = .controller email password target credential) {d : DeviceId}
    {asked : ConnectCredential} (hsent : .requestConnection d asked ∈ (n.client c).sent) :
    d = target ∧ asked = credential := by
  refine Reachable.client (fun p outputs _ => p.role = .controller email password target credential →
    .requestConnection d asked ∈ messages outputs → d = target ∧ asked = credential)
    ?_ ?_ ?_ ?_ ?_ h c (role_kept h c |>.trans hc) hsent
  · rintro (_ | _ | _) hrole hm
    all_goals simp [Role.start, Host.start, Controller.start, messages, Output.message?] at hm
  · intro p outputs inbox rtc msg _ hold hrole hm
    cases p with
    | controller email' password' target' credential' phase =>
      obtain ⟨rfl, rfl, rfl, rfl⟩ := Role.controller.inj hrole
      rw [messages_append] at hm
      rcases List.mem_append.mp hm with hm | hm
      · exact hold rfl hm
      · exact Controller.asks (mem_messages.mp hm)
    | _ => cases hrole
  · intro p outputs inbox candidate turn hturn hold hrole hm
    obtain ⟨hsame, -, s, houtputs⟩ := Program.gathered_turn hturn
    rw [houtputs, messages_append] at hm
    rcases List.mem_append.mp hm with hm | hm
    · exact hold (hsame.symm.trans hrole) hm
    · cases List.mem_singleton.mp hm
  · intro _ _ _ _ hrole
    cases hrole
  · intro p outputs inbox hold hrole hm
    cases p with
    | controller => exact hold hrole hm
    | _ => cases hrole

/-! ## §4. Both ends. -/

theorem admitted_of_opened {foreignKeys : Bool} {w : ServerWorld}
    (h : Run freshIds (Server.start (Db.fresh foreignKeys) config files) w)
    (hopened : Opened s ⟨a, b⟩ w.log) : ∃ d credential,
      Admitted (Server.start (Db.fresh foreignKeys) config files) w s a b d credential := by
  obtain ⟨i, t, he⟩ := hopened
  obtain ⟨⟨d, credential, rfl⟩, -⟩ := session_parties h he
  refine ⟨d, credential, i, h.happened he fun w₁ w₂ h₁ hs₁ hlog₁ => ?_⟩
  obtain ⟨_, _, hi, -⟩ := hs₁.of_call hlog₁
  obtain ⟨d', credential', heq, hreq, -, -⟩ := h₁.next_licensed Task.follows hi
  obtain ⟨-, heq⟩ := Task.message.inj heq
  obtain ⟨rfl, rfl⟩ := ClientMessage.requestConnection.inj heq
  exact request_checked h₁ (fun c hc => h₁.event_of_hist hi hc) hreq

/-- Who asks for a session as a controller has named its target, and presented
its own credential. -/
theorem asked_of_admitted {s₀ : Server} (h : Reachable (initial (Server.start db config files) roles) n)
    {d : DeviceId} {credential : ConnectCredential}
    (hadmitted : Admitted s₀ n.world s a b d credential) {email password : String}
    {target : DeviceId} {presented : ConnectCredential}
    (ha : roles a = .controller email password target presented) :
    d = target ∧ credential = presented := by
  obtain ⟨i, w₁, w₂, -, -, hle, hlog, -⟩ := hadmitted
  have he := hle.mem_log (hlog ▸ List.mem_cons_self)
  exact asked h ha (sent_of_start h ((System.Reachable.numbered h.run).call_start i _ _ he))

/-- The session a client has been told about. -/
theorem opened_of_told (h : Reachable (initial (Server.start db config files) roles) n)
    {msg : ServerMessage} (hmsg : msg ∈ n.inbox c) (htold : (roles c).Told s msg) :
    ∃ a b peer, Opened s ⟨a, b⟩ n.world.log ∧ (roles c).Faces c peer a b := by
  have hqueued : msg ∈ enqueued c n.world.log := by
    rw [← queue_eq h]
    exact List.mem_of_mem_take hmsg
  cases hrole : roles c with
  | host email password name =>
    rw [hrole] at htold
    obtain ⟨sender, rfl⟩ := htold
    obtain ⟨a, hopened, -⟩ := opened_of_incoming h.run hqueued
    exact ⟨a, c, a, hopened, rfl, rfl⟩
  | controller email password target credential =>
    rw [hrole] at htold
    obtain ⟨d, rfl⟩ := htold
    obtain ⟨b, hopened, -⟩ := opened_of_established h.run hqueued
    exact ⟨c, b, b, hopened, rfl, rfl⟩
  | other =>
    rw [hrole] at htold
    exact htold.elim

/-- **No one meets a stranger.**  In every run of the server among hosts, controllers
and other programs: when a host or a controller acts on a session description
or a candidate of session `s`, the server has admitted `s` for a device this
host has registered, or this controller has named; and all it acts on under
`s` the client at the other end of `s` has sent, as it is. -/
theorem acts_on_admitted {foreignKeys : Bool}
    (h : Reachable (initial (Server.start (Db.fresh foreignKeys) config files) roles) n)
    {o : Output} {m : ClientMessage} (ho : o ∈ (n.client c).outputs)
    (hm : o.actsOn (roles c) = some (s, m)) :
    ∃ a b d credential peer,
      Admitted (Server.start (Db.fresh foreignKeys) config files) n.world s a b d credential
        ∧ (roles c).Faces c peer a b
        ∧ (∀ email password target presented,
          roles a = .controller email password target presented →
          d = target ∧ credential = presented)
        ∧ ∀ o ∈ (n.client c).outputs, ∀ m, o.actsOn (roles c) = some (s, m) →
          m ∈ (n.client peer).sent := by
  have hmet := met_kept h c
  obtain ⟨-, told, htold, hs⟩ := hmet.acted o ho s m hm
  obtain ⟨a, b, peer, hopened, hfaces⟩ := opened_of_told h htold hs
  obtain ⟨d, credential, hadmitted⟩ := admitted_of_opened h.run hopened
  refine ⟨a, b, d, credential, peer, hadmitted, hfaces,
    fun _ _ _ _ ha => asked_of_admitted h hadmitted ha, fun o ho m hm => ?_⟩
  obtain ⟨⟨msg, hmsg, hrelayed⟩, -⟩ := hmet.acted o ho s m hm
  obtain ⟨x, m', p, hsent, hrelayed', hother, hopened'⟩ :=
    sent_of_queued h (List.mem_of_mem_take hmsg) (relayedUnder_of_relayed hrelayed)
  obtain rfl := Opened.unique h.run hopened' hopened
  obtain rfl := hfaces.of_other hother
  rwa [← relayed_inj hrelayed' hrelayed]

end

section Schedule

open Signaling.Transparent

theorem acts_on_admitted_exchange : ∃ a d credential,
    Admitted (Server.blank true) (Option.get _ exchange_plays).world met a "host" d credential
      ∧ .sdpOffer met "v=0" ∈ ((Option.get _ exchange_plays).client a).sent := by
  have ho : .setRemoteDescription met "v=0"
      ∈ ((Option.get _ exchange_plays).client "host").outputs := by decide +kernel
  obtain ⟨a, b, d, credential, peer, hadmitted, ⟨rfl, rfl⟩, -, hsent⟩ :=
    acts_on_admitted exchange_reachable ho rfl
  exact ⟨peer, d, credential, hadmitted, hsent _ ho _ rfl⟩

end Schedule

end Net

end Client

end Visuara
