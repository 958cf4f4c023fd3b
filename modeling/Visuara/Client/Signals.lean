/-
  Visuara.Client.Signals
  ──────────────────────
  **WHAT A CLIENT SENDS, AND WHAT IT HAS RECEIVED BEFORE.**

  `HostTurn` and `ControllerTurn` list what a turn can be; everything that is
  known of a client for itself (`HostDid`, `ControllerDid`) is read off them.
-/
import Visuara.Client.Net

namespace Visuara

/-! ## §1. The kinds of messages. -/

namespace ClientMessage

def IsOffer (s : SessionId) (m : ClientMessage) : Prop := ∃ sdp, m = .sdpOffer s sdp

def IsAnswer (s : SessionId) (m : ClientMessage) : Prop := ∃ sdp, m = .sdpAnswer s sdp

def IsCandidate (s : SessionId) (m : ClientMessage) : Prop := ∃ candidate, m = .iceCandidate s candidate

/-- An offer, of any session. -/
def isOffer : ClientMessage → Bool
  | .sdpOffer _ _ => true
  | _ => false

/-- What opens a session, or names a host. -/
def IsRequest (m : ClientMessage) : Prop := ∃ d credential, m = .requestConnection d credential

def IsRegistration (m : ClientMessage) : Prop := ∃ name, m = .registerDevice name

end ClientMessage

namespace ServerMessage

def IsIncoming (s : SessionId) (m : ServerMessage) : Prop := ∃ sender, m = .incomingConnection s sender

def IsEstablished (s : SessionId) (m : ServerMessage) : Prop := ∃ d, m = .connectionEstablished s d

def IsOffer (s : SessionId) (m : ServerMessage) : Prop := ∃ sdp, m = .sdpOffer s sdp

def IsAnswer (s : SessionId) (m : ServerMessage) : Prop := ∃ sdp, m = .sdpAnswer s sdp

def IsCandidate (s : SessionId) (m : ServerMessage) : Prop := ∃ candidate, m = .iceCandidate s candidate

end ServerMessage

namespace Client

open Interleave Sequence Signaling

/-! ## §2. The turns of a host. -/

namespace HostPhase

/-- The session the host is busy with. -/
def session : HostPhase → Option SessionId
  | .awaitingTurn s | .awaitingOffer s | .streaming s => some s
  | _ => none

end HostPhase

/-- What a turn of a host can be. -/
inductive HostTurn : HostPhase → ServerMessage → HostPhase → List Output → Prop where
  /-- The message is passed over; an offer that is waited for is not. -/
  | idle (p : HostPhase) (msg : ServerMessage)
      (hmsg : ∀ s, p = .awaitingOffer s → ¬ msg.IsOffer s) : HostTurn p msg p []
  /-- Before it serves anyone. -/
  | prepares {p p' : HostPhase} {outputs : List Output} (msg : ServerMessage)
      (hp : p.session = none) (hp' : p'.session = none)
      (houtputs : ∀ o ∈ outputs, ∃ m, o = .send m ∧ m.relayed = none ∧ ¬ m.IsRequest) :
      HostTurn p msg p' outputs
  | told (s : SessionId) (sender : Option DeviceId) :
      HostTurn .serving (.incomingConnection s sender) (.awaitingTurn s)
        [.handle s, .send .requestTurnCredentials]
  | builds (s : SessionId) (msg : ServerMessage) (servers : List IceServer) :
      HostTurn (.awaitingTurn s) msg (.awaitingOffer s) [.buildPeerConnection s servers]
  | answers (s : SessionId) (sdp answer : String) :
      HostTurn (.awaitingOffer s) (.sdpOffer s sdp) (.streaming s)
        [.setRemoteDescription s sdp, .send (.sdpAnswer s answer)]
  | adds {p : HostPhase} (s : SessionId) (candidate : String)
      (hp : p = .awaitingOffer s ∨ p = .streaming s) :
      HostTurn p (.iceCandidate s candidate) p [.addIceCandidate s candidate]
  | fails (p : HostPhase) (msg : ServerMessage) (e : ClientError) : HostTurn p msg (.ended e) []

/-- **Every turn of a host is one of these.** -/
theorem Host.turn (email password name : String) (rtc : Webrtc) (p : HostPhase)
    (msg : ServerMessage) : HostTurn p msg (Host.receive email password name rtc p msg).1
      (Host.receive email password name rtc p msg).2 := by
  have hadd : ∀ {p s candidate}, p = .awaitingOffer s ∨ p = .streaming s →
      HostTurn p (.iceCandidate s candidate) (addCandidate rtc p s candidate).1
        (addCandidate rtc p s candidate).2 := by
    intro p s candidate hp
    unfold addCandidate
    cases rtc.fault with
    | none => exact .adds s candidate hp
    | some e => exact .fails _ _ _
  cases p with
  | authenticating step =>
    simp only [receive]
    split
    next =>
      refine .prepares msg rfl rfl fun o ho =>
        ⟨.registerDevice name, List.mem_singleton.mp ho, rfl, ?_⟩
      simp [ClientMessage.IsRequest]
    next step' reply hauth =>
      refine .prepares msg rfl rfl fun o ho => ⟨reply, List.mem_singleton.mp ho, ?_⟩
      -- the reply is a `Login`
      have hreply : reply = .login email password := by
        unfold authenticate at hauth
        split at hauth <;> simp_all
      rw [hreply]
      exact ⟨rfl, by simp [ClientMessage.IsRequest]⟩
    next => exact .fails _ _ _
  | registering =>
    cases msg with
    | deviceRegistered d otp =>
      exact .prepares _ rfl rfl fun o ho => absurd ho List.not_mem_nil
    | _ => exact .fails _ _ _
  | serving =>
    cases msg with
    | incomingConnection s sender => exact .told s sender
    | _ => exact .idle _ _ (by simp)
  | awaitingTurn s =>
    simp only [receive]
    cases rtc.fault with
    | none => exact .builds s msg _
    | some e => exact .fails _ _ _
  | awaitingOffer s =>
    cases msg with
    | sdpOffer s' sdp =>
      simp only [receive]
      split
      next hs =>
        subst hs
        cases rtc.fault with
        | none => exact .answers s' sdp _
        | some e => exact .fails _ _ _
      next hs => exact .idle _ _ (by simpa [ServerMessage.IsOffer] using hs)
    | iceCandidate s' candidate =>
      simp only [receive]
      split
      next hs => exact hs ▸ hadd (.inl (by rw [hs]))
      next => exact .idle _ _ (by simp [ServerMessage.IsOffer])
    | _ => exact .idle _ _ (by simp [ServerMessage.IsOffer])
  | streaming s =>
    cases msg with
    | iceCandidate s' candidate =>
      simp only [receive]
      split
      next hs => exact hs ▸ hadd (.inr (by rw [hs]))
      next => exact .idle _ _ (by simp)
    | _ => exact .idle _ _ (by simp)
  | ended e => exact .idle _ _ (by simp)

/-- What is known of a host in phase `p` that has done and received this. -/
structure HostDid (p : HostPhase) (outputs : List Output) (inbox : List ServerMessage) : Prop where
  /-- It neither asks for connections nor makes offers. -/
  sent : ∀ m ∈ messages outputs, ¬ m.IsRequest ∧ ∀ s, ¬ m.IsOffer s
  handles : ∀ s, .handle s ∈ outputs → p.session = some s ∨ p.isEnded = true
  told : ∀ s, p.session = some s → .handle s ∈ outputs ∧ ∃ m ∈ inbox, m.IsIncoming s
  answered : ∀ s, ∀ m ∈ messages outputs, m.IsAnswer s →
    (p = .streaming s ∨ p.isEnded = true) ∧ ∃ m ∈ inbox, m.IsOffer s
  streaming : ∀ s, p = .streaming s → (∃ m ∈ inbox, m.IsOffer s)
    ∧ (∃ sdp, .setRemoteDescription s sdp ∈ outputs) ∧ ∃ m ∈ messages outputs, m.IsAnswer s
  candidates : ∀ s, Preceded (ClientMessage.IsCandidate s) (ClientMessage.IsAnswer s)
    (messages outputs)

theorem messages_append (l l' : List Output) : messages (l ++ l') = messages l ++ messages l' :=
  List.filterMap_append

theorem mem_messages {outputs : List Output} {m : ClientMessage} :
    m ∈ messages outputs ↔ .send m ∈ outputs := by
  rw [messages, List.mem_filterMap]
  constructor
  · rintro ⟨o, ho, hm⟩
    cases o with
    | send m' => rwa [← Option.some.inj hm]
    | _ => exact absurd hm.symm (Option.some_ne_none m)
  · exact fun h => ⟨_, h, rfl⟩

/-- What is not relayed belongs to no handshake. -/
theorem not_signal {m : ClientMessage} (h : m.relayed = none) (s : SessionId) :
    ¬ m.IsOffer s ∧ ¬ m.IsAnswer s ∧ ¬ m.IsCandidate s := by
  refine ⟨?_, ?_, ?_⟩
  all_goals
    intro hm
    obtain ⟨x, rfl⟩ := hm
    exact absurd h (by simp [ClientMessage.relayed])

/-- A turn with one message. -/
theorem mem_messages_concat {l l' : List Output} {m m' : ClientMessage} (h : messages l' = [m']) :
    m ∈ messages (l ++ l') ↔ m ∈ messages l ∨ m = m' := by
  rw [messages_append, h, List.mem_append, List.mem_singleton]

namespace HostDid

variable {p : HostPhase} {outputs : List Output} {inbox : List ServerMessage}

theorem inbox_append (h : HostDid p outputs inbox) (l : List ServerMessage) :
    HostDid p outputs (inbox ++ l) where
  sent := h.sent
  handles := h.handles
  told s hs := by
    obtain ⟨hhandle, m, hm, hincoming⟩ := h.told s hs
    exact ⟨hhandle, m, List.mem_append_left l hm, hincoming⟩
  answered s m hm hans := by
    obtain ⟨hp, m', hm', hoffer⟩ := h.answered s m hm hans
    exact ⟨hp, m', List.mem_append_left l hm', hoffer⟩
  streaming s hs := by
    obtain ⟨⟨m, hm, hoffer⟩, hrest⟩ := h.streaming s hs
    exact ⟨⟨m, List.mem_append_left l hm, hoffer⟩, hrest⟩
  candidates := h.candidates

theorem ended (h : HostDid p outputs inbox) (e : ClientError) : HostDid (.ended e) outputs inbox where
  sent := h.sent
  handles _ _ := .inr rfl
  told s hs := absurd hs.symm (Option.some_ne_none s)
  answered s m hm hans := ⟨.inr rfl, (h.answered s m hm hans).2⟩
  streaming _ hs := HostPhase.noConfusion hs
  candidates := h.candidates

/-- It waits for something else, about the same session. -/
theorem rephase (h : HostDid p outputs inbox) {p' : HostPhase} (hsession : p'.session = p.session)
    (hopen : p.isEnded = false) (hp : ∀ s, p ≠ .streaming s) (hp' : ∀ s, p' ≠ .streaming s) :
    HostDid p' outputs inbox where
  sent := h.sent
  handles s hs := by
    rw [hsession]
    refine .inl ((h.handles s hs).resolve_right fun hended => ?_)
    rw [hopen] at hended
    exact absurd hended (by simp)
  told s hs := h.told s (hsession ▸ hs)
  answered s m hm hans := by
    rcases (h.answered s m hm hans).1 with hstreaming | hended
    · exact absurd hstreaming (hp s)
    · rw [hopen] at hended
      exact absurd hended (by simp)
  streaming s hs := absurd hs (hp' s)
  candidates := h.candidates

/-- Something is done that is no message and starts nothing. -/
theorem output (h : HostDid p outputs inbox) {o : Output} (ho : o.message? = none)
    (hno : ∀ s, o ≠ .handle s) : HostDid p (outputs ++ [o]) inbox := by
  have hsame : messages (outputs ++ [o]) = messages outputs := by
    rw [messages_append]
    simp [messages, ho]
  refine ⟨?_, fun s hs => ?_, fun s hs => ?_, ?_, fun s hs => ?_, ?_⟩
  · rw [hsame]
    exact h.sent
  · refine h.handles s ((List.mem_append.mp hs).resolve_right fun hmem => ?_)
    exact hno s (List.mem_singleton.mp hmem).symm
  · obtain ⟨hhandle, hincoming⟩ := h.told s hs
    exact ⟨List.mem_append_left _ hhandle, hincoming⟩
  · rw [hsame]
    exact h.answered
  · rw [hsame]
    obtain ⟨hoffer, ⟨sdp, hset⟩, hanswer⟩ := h.streaming s hs
    exact ⟨hoffer, ⟨sdp, List.mem_append_left _ hset⟩, hanswer⟩
  · rw [hsame]
    exact h.candidates

/-- Of a session nobody has told it of, the host has sent nothing. -/
theorem idle_of_session (h : HostDid p outputs inbox) (hopen : p.isEnded = false)
    (hp : p.session = none) : (∀ s, .handle s ∉ outputs)
      ∧ ∀ s, ∀ m ∈ messages outputs, ¬ m.IsAnswer s := by
  constructor
  · intro s hs
    rcases h.handles s hs with hsession | hended
    · exact absurd (hsession.symm.trans hp) (Option.some_ne_none s)
    · rw [hopen] at hended
      exact absurd hended (by simp)
  · intro s m hm hans
    rcases (h.answered s m hm hans).1 with rfl | hended
    · exact absurd hp (by simp [HostPhase.session])
    · rw [hopen] at hended
      exact absurd hended (by simp)

end HostDid

/-- **What is known of a host stays true with every turn.** -/
theorem HostDid.turn {p p' : HostPhase} {outputs outputs' : List Output}
    {inbox : List ServerMessage} {msg : ServerMessage} (h : HostDid p outputs inbox)
    (hopen : p.isEnded = false) (hturn : HostTurn p msg p' outputs') :
    HostDid p' (outputs ++ outputs') (inbox ++ [msg]) := by
  cases hturn with
  | idle =>
    rw [List.append_nil]
    exact h.inbox_append _
  | prepares msg hp hp' hnew =>
    obtain ⟨hno, hnone⟩ := h.idle_of_session hopen hp
    have hnew' : ∀ m ∈ messages outputs', m.relayed = none ∧ ¬ m.IsRequest := by
      intro m hm
      obtain ⟨m', hsend, hm'⟩ := hnew _ (mem_messages.mp hm)
      rwa [Output.send.inj hsend]
    have hnorelay : ∀ m ∈ messages outputs', ∀ s,
        ¬ m.IsOffer s ∧ ¬ m.IsAnswer s ∧ ¬ m.IsCandidate s := by
      intro m hm
      exact not_signal (hnew' m hm).1
    refine ⟨?_, fun s hs => ?_, fun s hs => ?_, fun s m hm hans => ?_, fun s hs => ?_, fun s => ?_⟩
    · rw [messages_append]
      intro m hm
      rcases List.mem_append.mp hm with hm | hm
      · exact h.sent m hm
      · exact ⟨(hnew' m hm).2, fun s => (hnorelay m hm s).1⟩
    · rcases List.mem_append.mp hs with hs | hs
      · exact absurd hs (hno s)
      · obtain ⟨m, heq, -⟩ := hnew _ hs
        exact Output.noConfusion heq
    · exact absurd (hs.symm.trans hp') (Option.some_ne_none s)
    · rw [messages_append] at hm
      rcases List.mem_append.mp hm with hm | hm
      · exact absurd hans (hnone s m hm)
      · exact absurd hans (hnorelay m hm s).2.1
    · subst hs
      exact absurd hp' (by simp [HostPhase.session])
    · rw [messages_append]
      exact (h.candidates s).append_none fun m hm => (hnorelay m hm s).2.2
  | told s sender =>
    obtain ⟨hno, hnone⟩ := h.idle_of_session hopen rfl
    have hmessages : messages [.handle s, .send .requestTurnCredentials]
        = [ClientMessage.requestTurnCredentials] := rfl
    refine ⟨?_, fun s' hs => ?_, fun s' hs => ?_, fun s' m hm hans => ?_, fun s' hs => ?_,
      fun s' => ?_⟩
    · intro m hm
      rcases (mem_messages_concat hmessages).mp hm with hm | rfl
      · exact h.sent m hm
      · exact ⟨by simp [ClientMessage.IsRequest], by simp [ClientMessage.IsOffer]⟩
    · rcases List.mem_append.mp hs with hs | hs
      · exact absurd hs (hno s')
      · obtain rfl : s' = s := by simpa using hs
        exact .inl rfl
    · obtain rfl : s = s' := Option.some.inj hs
      exact ⟨by simp, _, List.mem_append_right _ List.mem_cons_self, sender, rfl⟩
    · rcases (mem_messages_concat hmessages).mp hm with hm | rfl
      · exact absurd hans (hnone s' m hm)
      · exact absurd hans (by simp [ClientMessage.IsAnswer])
    · exact HostPhase.noConfusion hs
    · rw [messages_append, hmessages]
      exact (h.candidates s').append_none fun m hm => by
        rw [List.mem_singleton.mp hm]
        simp [ClientMessage.IsCandidate]
  | builds s msg servers =>
    have hbuilt : HostDid (.awaitingTurn s) (outputs ++ [.buildPeerConnection s servers])
        (inbox ++ [msg]) := (h.inbox_append _).output rfl (by simp)
    exact hbuilt.rephase rfl rfl (by simp) (by simp)
  | answers s sdp answer =>
    have hmessages : messages [.setRemoteDescription s sdp, .send (.sdpAnswer s answer)]
        = [ClientMessage.sdpAnswer s answer] := rfl
    have hoffer : ∃ m ∈ inbox ++ [.sdpOffer s sdp], m.IsOffer s :=
      ⟨_, List.mem_append_right _ List.mem_cons_self, sdp, rfl⟩
    refine ⟨?_, fun s' hs => ?_, fun s' hs => ?_, fun s' m hm hans => ?_, fun s' hs => ?_,
      fun s' => ?_⟩
    · intro m hm
      rcases (mem_messages_concat hmessages).mp hm with hm | rfl
      · exact h.sent m hm
      · exact ⟨by simp [ClientMessage.IsRequest], by simp [ClientMessage.IsOffer]⟩
    · exact .inl ((h.handles s' (by simpa using hs)).resolve_right (by simp [HostPhase.isEnded]))
    · obtain ⟨hhandle, m, hm, hincoming⟩ := h.told s' hs
      exact ⟨List.mem_append_left _ hhandle, m, List.mem_append_left _ hm, hincoming⟩
    · rcases (mem_messages_concat hmessages).mp hm with hm | rfl
      · -- nothing has been answered before
        rcases (h.answered s' m hm hans).1 with hp | hended
        · exact HostPhase.noConfusion hp
        · exact absurd hended (by simp [HostPhase.isEnded])
      · obtain ⟨sdp', heq⟩ := hans
        obtain ⟨rfl, -⟩ := ClientMessage.sdpAnswer.inj heq
        exact ⟨.inl rfl, hoffer⟩
    · obtain rfl := HostPhase.streaming.inj hs
      refine ⟨hoffer, ⟨sdp, by simp⟩, ?_⟩
      rw [messages_append, hmessages]
      exact ⟨_, List.mem_append_right _ List.mem_cons_self, answer, rfl⟩
    · rw [messages_append, hmessages]
      exact (h.candidates s').append_none fun m hm => by
        rw [List.mem_singleton.mp hm]
        simp [ClientMessage.IsCandidate]
  | adds s candidate hp => exact (h.inbox_append _).output rfl (by simp)
  | fails _ _ e =>
    rw [List.append_nil]
    exact (h.inbox_append _).ended e

/-- Its candidates a host sends behind its answer. -/
theorem HostDid.gathered {p : HostPhase} {outputs : List Output} {inbox : List ServerMessage}
    {candidate : String} {turn : HostPhase × List Output} (h : HostDid p outputs inbox)
    (hturn : Host.gathered candidate p = some turn) :
    HostDid turn.1 (outputs ++ turn.2) inbox := by
  cases p with
  | streaming s =>
    obtain rfl := Option.some.inj hturn
    have hmessages : messages [.send (.iceCandidate s candidate)]
        = [ClientMessage.iceCandidate s candidate] := rfl
    obtain ⟨hoffer, ⟨sdp, hset⟩, hanswer⟩ := h.streaming s rfl
    refine ⟨?_, fun s' hs => ?_, fun s' hs => ?_, fun s' m hm hans => ?_, fun s' hs => ?_,
      fun s' => ?_⟩
    · intro m hm
      rcases (mem_messages_concat hmessages).mp hm with hm | rfl
      · exact h.sent m hm
      · exact ⟨by simp [ClientMessage.IsRequest], by simp [ClientMessage.IsOffer]⟩
    · exact h.handles s' (by simpa using hs)
    · obtain ⟨hhandle, hincoming⟩ := h.told s' hs
      exact ⟨List.mem_append_left _ hhandle, hincoming⟩
    · rcases (mem_messages_concat hmessages).mp hm with hm | rfl
      · exact h.answered s' m hm hans
      · exact absurd hans (by simp [ClientMessage.IsAnswer])
    · obtain ⟨hoffer', ⟨sdp', hset'⟩, m, hm, hans⟩ := h.streaming s' hs
      refine ⟨hoffer', ⟨sdp', List.mem_append_left _ hset'⟩, m, ?_, hans⟩
      rw [messages_append]
      exact List.mem_append_left _ hm
    · rw [messages_append, hmessages]
      refine (h.candidates s').concat ?_
      rintro ⟨candidate', heq⟩
      obtain ⟨rfl, -⟩ := ClientMessage.iceCandidate.inj heq
      exact hanswer
  | _ => exact absurd hturn.symm (Option.some_ne_none turn)

/-! ## §3. The turns of a controller. -/

namespace ControllerPhase

/-- The session the controller has been given. -/
def session : ControllerPhase → Option SessionId
  | .awaitingAnswer s | .exchanging s => some s
  | _ => none

def isEnded : ControllerPhase → Bool
  | .ended _ => true
  | _ => false

end ControllerPhase

/-- What a turn of a controller can be. -/
inductive ControllerTurn :
    ControllerPhase → ServerMessage → ControllerPhase → List Output → Prop where
  /-- The message is passed over; an answer that is waited for is not. -/
  | idle (p : ControllerPhase) (msg : ServerMessage)
      (hmsg : ∀ s, p = .awaitingAnswer s → ¬ msg.IsAnswer s) : ControllerTurn p msg p []
  /-- Before it has a session. -/
  | prepares {p p' : ControllerPhase} {outputs : List Output} (msg : ServerMessage)
      (hp : p.session = none) (hp' : p'.session = none)
      (houtputs : ∀ o ∈ outputs, ∃ m, o = .send m ∧ m.relayed = none ∧ ¬ m.IsRegistration) :
      ControllerTurn p msg p' outputs
  | offers {p : ControllerPhase} (hp : p.session = none) (s : SessionId) (d : DeviceId)
      (servers : List IceServer) (sdp : String) :
      ControllerTurn p (.connectionEstablished s d) (.awaitingAnswer s)
        [.buildPeerConnection s servers, .send (.sdpOffer s sdp)]
  | accepts (s : SessionId) (sdp : String) :
      ControllerTurn (.awaitingAnswer s) (.sdpAnswer s sdp) (.exchanging s)
        [.setRemoteDescription s sdp]
  | adds {p : ControllerPhase} (s : SessionId) (candidate : String)
      (hp : p = .awaitingAnswer s ∨ p = .exchanging s) :
      ControllerTurn p (.iceCandidate s candidate) p [.addIceCandidate s candidate]
  | fails (p : ControllerPhase) (msg : ServerMessage) (e : ClientError) :
      ControllerTurn p msg (.ended e) []

/-- **Every turn of a controller is one of these.** -/
theorem Controller.turn (email password : String) (target : DeviceId)
    (credential : ConnectCredential) (rtc : Webrtc) (p : ControllerPhase) (msg : ServerMessage) :
    ControllerTurn p msg (Controller.receive email password target credential rtc p msg).1
      (Controller.receive email password target credential rtc p msg).2 := by
  cases p with
  | authenticating step =>
    simp only [receive]
    split
    next =>
      refine .prepares msg rfl rfl fun o ho =>
        ⟨.requestTurnCredentials, List.mem_singleton.mp ho, rfl, ?_⟩
      simp [ClientMessage.IsRegistration]
    next step' reply hauth =>
      refine .prepares msg rfl rfl fun o ho => ⟨reply, List.mem_singleton.mp ho, ?_⟩
      -- the reply is a `Login`
      have hreply : reply = .login email password := by
        unfold authenticate at hauth
        split at hauth <;> simp_all
      rw [hreply]
      exact ⟨rfl, by simp [ClientMessage.IsRegistration]⟩
    next => exact .fails _ _ _
  | awaitingTurn =>
    refine .prepares msg rfl rfl fun o ho =>
      ⟨.requestConnection target credential, List.mem_singleton.mp ho, rfl, ?_⟩
    simp [ClientMessage.IsRegistration]
  | requesting servers =>
    cases msg with
    | connectionEstablished s d =>
      simp only [receive]
      cases rtc.fault with
      | none => exact .offers rfl s d servers rtc.sdp
      | some e => exact .fails _ _ _
    | _ => exact .fails _ _ _
  | awaitingAnswer s =>
    cases msg with
    | sdpAnswer s' sdp =>
      simp only [receive]
      split
      next hs =>
        subst hs
        cases rtc.fault with
        | none => exact .accepts s' sdp
        | some e => exact .fails _ _ _
      next hs => exact .idle _ _ (by simpa [ServerMessage.IsAnswer] using hs)
    | iceCandidate s' candidate =>
      simp only [receive]
      split
      next hs =>
        subst hs
        cases rtc.fault with
        | none => exact .adds s' candidate (.inl rfl)
        | some e => exact .fails _ _ _
      next => exact .idle _ _ (by simp [ServerMessage.IsAnswer])
    | _ => exact .idle _ _ (by simp [ServerMessage.IsAnswer])
  | exchanging s =>
    cases msg with
    | iceCandidate s' candidate =>
      simp only [receive]
      split
      next hs =>
        obtain ⟨rfl, -⟩ := hs
        exact .adds s' candidate (.inr rfl)
      next => exact .idle _ _ (by simp)
    | _ => exact .idle _ _ (by simp)
  | ended e => exact .idle _ _ (by simp)

/-- What is known of a controller in phase `p` that has done and received this. -/
structure ControllerDid (p : ControllerPhase) (outputs : List Output)
    (inbox : List ServerMessage) : Prop where
  /-- It neither registers a device nor answers offers. -/
  sent : ∀ m ∈ messages outputs, ¬ m.IsRegistration ∧ ∀ s, ¬ m.IsAnswer s
  offered : ∀ s, ∀ m ∈ messages outputs, m.IsOffer s →
    (p.session = some s ∨ p.isEnded = true) ∧ ∃ m ∈ inbox, m.IsEstablished s
  once : (messages outputs).countP ClientMessage.isOffer ≤ 1
  waiting : ∀ s, p.session = some s →
    (∃ m ∈ inbox, m.IsEstablished s) ∧ ∃ m ∈ messages outputs, m.IsOffer s
  exchanging : ∀ s, p = .exchanging s →
    (∃ m ∈ inbox, m.IsAnswer s) ∧ ∃ sdp, .setRemoteDescription s sdp ∈ outputs
  candidates : ∀ s, ∀ m ∈ messages outputs, m.IsCandidate s → ∃ m ∈ inbox, m.IsAnswer s

namespace ControllerDid

variable {p : ControllerPhase} {outputs : List Output} {inbox : List ServerMessage}

theorem inbox_append (h : ControllerDid p outputs inbox) (l : List ServerMessage) :
    ControllerDid p outputs (inbox ++ l) where
  sent := h.sent
  offered s m hm hoffer := by
    obtain ⟨hp, m', hm', hest⟩ := h.offered s m hm hoffer
    exact ⟨hp, m', List.mem_append_left l hm', hest⟩
  once := h.once
  waiting s hs := by
    obtain ⟨⟨m, hm, hest⟩, hoffer⟩ := h.waiting s hs
    exact ⟨⟨m, List.mem_append_left l hm, hest⟩, hoffer⟩
  exchanging s hs := by
    obtain ⟨⟨m, hm, hans⟩, hset⟩ := h.exchanging s hs
    exact ⟨⟨m, List.mem_append_left l hm, hans⟩, hset⟩
  candidates s m hm hcand := by
    obtain ⟨m', hm', hans⟩ := h.candidates s m hm hcand
    exact ⟨m', List.mem_append_left l hm', hans⟩

theorem ended (h : ControllerDid p outputs inbox) (e : ClientError) :
    ControllerDid (.ended e) outputs inbox where
  sent := h.sent
  offered s m hm hoffer := ⟨.inr rfl, (h.offered s m hm hoffer).2⟩
  once := h.once
  waiting s hs := absurd hs.symm (Option.some_ne_none s)
  exchanging _ hs := ControllerPhase.noConfusion hs
  candidates := h.candidates

/-- Something is done that is no message. -/
theorem output (h : ControllerDid p outputs inbox) {o : Output} (ho : o.message? = none) :
    ControllerDid p (outputs ++ [o]) inbox := by
  have hsame : messages (outputs ++ [o]) = messages outputs := by
    rw [messages_append]
    simp [messages, ho]
  refine ⟨?_, ?_, ?_, ?_, fun s hs => ?_, ?_⟩
  · rw [hsame]
    exact h.sent
  · rw [hsame]
    exact h.offered
  · rw [hsame]
    exact h.once
  · rw [hsame]
    exact h.waiting
  · obtain ⟨hans, sdp, hset⟩ := h.exchanging s hs
    exact ⟨hans, sdp, List.mem_append_left _ hset⟩
  · rw [hsame]
    exact h.candidates

/-- Without a session nothing has been offered. -/
theorem no_offer (h : ControllerDid p outputs inbox) (hopen : p.isEnded = false)
    (hp : p.session = none) : ∀ m ∈ messages outputs, ∀ s, ¬ m.IsOffer s := by
  intro m hm s hoffer
  rcases (h.offered s m hm hoffer).1 with hsession | hended
  · exact absurd (hsession.symm.trans hp) (Option.some_ne_none s)
  · rw [hopen] at hended
    exact absurd hended (by simp)

end ControllerDid

theorem isOffer_iff {m : ClientMessage} : m.isOffer = true ↔ ∃ s, m.IsOffer s := by
  cases m <;> simp [ClientMessage.isOffer, ClientMessage.IsOffer]

theorem countP_offer {l : List ClientMessage} (h : ∀ m ∈ l, ∀ s, ¬ m.IsOffer s) :
    l.countP ClientMessage.isOffer = 0 := by
  rw [List.countP_eq_zero]
  intro m hm hoffer
  obtain ⟨s, hs⟩ := isOffer_iff.mp hoffer
  exact h m hm s hs

/-- **What is known of a controller stays true with every turn.** -/
theorem ControllerDid.turn {p p' : ControllerPhase} {outputs outputs' : List Output}
    {inbox : List ServerMessage} {msg : ServerMessage} (h : ControllerDid p outputs inbox)
    (hopen : p.isEnded = false) (hturn : ControllerTurn p msg p' outputs') :
    ControllerDid p' (outputs ++ outputs') (inbox ++ [msg]) := by
  cases hturn with
  | idle =>
    rw [List.append_nil]
    exact h.inbox_append _
  | prepares msg hp hp' hnew =>
    have hnone := h.no_offer hopen hp
    have hnew' : ∀ m ∈ messages outputs', m.relayed = none ∧ ¬ m.IsRegistration := by
      intro m hm
      obtain ⟨m', hsend, hm'⟩ := hnew _ (mem_messages.mp hm)
      rwa [Output.send.inj hsend]
    have hnorelay : ∀ m ∈ messages outputs', ∀ s,
        ¬ m.IsOffer s ∧ ¬ m.IsAnswer s ∧ ¬ m.IsCandidate s := by
      intro m hm
      exact not_signal (hnew' m hm).1
    refine ⟨?_, fun s m hm hoffer => ?_, ?_, fun s hs => ?_, fun s hs => ?_,
      fun s m hm hcand => ?_⟩
    · rw [messages_append]
      intro m hm
      rcases List.mem_append.mp hm with hm | hm
      · exact h.sent m hm
      · exact ⟨(hnew' m hm).2, fun s => (hnorelay m hm s).2.1⟩
    · rw [messages_append] at hm
      rcases List.mem_append.mp hm with hm | hm
      · exact absurd hoffer (hnone m hm s)
      · exact absurd hoffer (hnorelay m hm s).1
    · rw [messages_append, List.countP_append, countP_offer hnone,
        countP_offer fun m hm s => (hnorelay m hm s).1]
      exact Nat.zero_le 1
    · exact absurd (hs.symm.trans hp') (Option.some_ne_none s)
    · subst hs
      exact absurd hp' (by simp [ControllerPhase.session])
    · rw [messages_append] at hm
      rcases List.mem_append.mp hm with hm | hm
      · obtain ⟨m', hm', hans⟩ := h.candidates s m hm hcand
        exact ⟨m', List.mem_append_left _ hm', hans⟩
      · exact absurd hcand (hnorelay m hm s).2.2
  | offers hp s d servers sdp =>
    have hnone := h.no_offer hopen hp
    have hmessages : messages [.buildPeerConnection s servers, .send (.sdpOffer s sdp)]
        = [ClientMessage.sdpOffer s sdp] := rfl
    have hest : ∃ m ∈ inbox ++ [.connectionEstablished s d], m.IsEstablished s :=
      ⟨_, List.mem_append_right _ List.mem_cons_self, d, rfl⟩
    refine ⟨?_, fun s' m hm hoffer => ?_, ?_, fun s' hs => ?_, fun s' hs => ?_,
      fun s' m hm hcand => ?_⟩
    · intro m hm
      rcases (mem_messages_concat hmessages).mp hm with hm | rfl
      · exact h.sent m hm
      · exact ⟨by simp [ClientMessage.IsRegistration], by simp [ClientMessage.IsAnswer]⟩
    · rcases (mem_messages_concat hmessages).mp hm with hm | rfl
      · exact absurd hoffer (hnone m hm s')
      · obtain ⟨sdp', heq⟩ := hoffer
        obtain ⟨rfl, -⟩ := ClientMessage.sdpOffer.inj heq
        exact ⟨.inl rfl, hest⟩
    · rw [messages_append, hmessages, List.countP_append, countP_offer hnone]
      exact Nat.le_refl 1
    · obtain rfl : s = s' := Option.some.inj hs
      refine ⟨hest, ?_⟩
      rw [messages_append, hmessages]
      exact ⟨_, List.mem_append_right _ List.mem_cons_self, sdp, rfl⟩
    · exact ControllerPhase.noConfusion hs
    · rcases (mem_messages_concat hmessages).mp hm with hm | rfl
      · obtain ⟨m', hm', hans⟩ := h.candidates s' m hm hcand
        exact ⟨m', List.mem_append_left _ hm', hans⟩
      · exact absurd hcand (by simp [ClientMessage.IsCandidate])
  | accepts s sdp =>
    have hset : ControllerDid (.awaitingAnswer s) (outputs ++ [.setRemoteDescription s sdp])
        (inbox ++ [.sdpAnswer s sdp]) := (h.inbox_append _).output rfl
    refine ⟨hset.sent, hset.offered, hset.once, hset.waiting, fun s' hs => ?_, hset.candidates⟩
    obtain rfl := ControllerPhase.exchanging.inj hs
    exact ⟨⟨_, List.mem_append_right _ List.mem_cons_self, sdp, rfl⟩, sdp, by simp⟩
  | adds s candidate hp => exact (h.inbox_append _).output rfl
  | fails _ _ e =>
    rw [List.append_nil]
    exact (h.inbox_append _).ended e

/-- Its candidates a controller sends when it has been answered. -/
theorem ControllerDid.gathered {p : ControllerPhase} {outputs : List Output}
    {inbox : List ServerMessage} {candidate : String} {turn : ControllerPhase × List Output}
    (h : ControllerDid p outputs inbox) (hturn : Controller.gathered candidate p = some turn) :
    ControllerDid turn.1 (outputs ++ turn.2) inbox := by
  cases p with
  | exchanging s =>
    obtain rfl := Option.some.inj hturn
    have hmessages : messages [.send (.iceCandidate s candidate)]
        = [ClientMessage.iceCandidate s candidate] := rfl
    refine ⟨?_, fun s' m hm hoffer => ?_, ?_, fun s' hs => ?_, fun s' hs => ?_,
      fun s' m hm hcand => ?_⟩
    · intro m hm
      rcases (mem_messages_concat hmessages).mp hm with hm | rfl
      · exact h.sent m hm
      · exact ⟨by simp [ClientMessage.IsRegistration], by simp [ClientMessage.IsAnswer]⟩
    · rcases (mem_messages_concat hmessages).mp hm with hm | rfl
      · exact h.offered s' m hm hoffer
      · exact absurd hoffer (by simp [ClientMessage.IsOffer])
    · rw [messages_append, hmessages, List.countP_append]
      exact h.once
    · obtain ⟨hest, m, hm, hoffer⟩ := h.waiting s' hs
      refine ⟨hest, m, ?_, hoffer⟩
      rw [messages_append]
      exact List.mem_append_left _ hm
    · obtain ⟨hans, sdp, hset⟩ := h.exchanging s' hs
      exact ⟨hans, sdp, List.mem_append_left _ hset⟩
    · rcases (mem_messages_concat hmessages).mp hm with hm | rfl
      · exact h.candidates s' m hm hcand
      · obtain ⟨candidate', heq⟩ := hcand
        obtain ⟨rfl, -⟩ := ClientMessage.iceCandidate.inj heq
        exact (h.exchanging s rfl).1
  | _ => exact absurd hturn.symm (Option.some_ne_none turn)

/-! ## §4. In every run. -/

namespace Net

variable [Crates] {db : Db} {config : Config} {files : Files} {roles : ConnectionId → Role}
  {n : Net}

theorem hostDid (h : Reachable (initial (Server.start db config files) roles) n)
    {c : ConnectionId} {email password name : String} {p : HostPhase}
    (hc : (n.client c).program = .host email password name p) :
    HostDid p (n.client c).outputs (n.inbox c) := by
  refine Reachable.client (fun program outputs inbox => ∀ email password name p,
    program = .host email password name p → HostDid p outputs inbox) ?_ ?_ ?_ ?_ ?_ h c _ _ _ _ hc
  · rintro (⟨email, password, name⟩ | _ | _) e pw nm p heq
    · obtain ⟨rfl, rfl, rfl, rfl⟩ := Program.host.inj heq
      exact ⟨by simp [Role.start, Host.start, messages, Output.message?, ClientMessage.IsRequest,
          ClientMessage.IsOffer], by simp [Role.start, Host.start],
        fun s hs => absurd hs.symm (Option.some_ne_none s),
        by simp [Role.start, Host.start, messages, Output.message?, ClientMessage.IsAnswer],
        fun s hs => HostPhase.noConfusion hs, fun s => preceded_of_none (by
          simp [Role.start, Host.start, messages, Output.message?, ClientMessage.IsCandidate])⟩
    · exact Program.noConfusion heq
    · exact Program.noConfusion heq
  · rintro (⟨email, password, name, p⟩ | _ | _) outputs inbox rtc msg hopen hJ e pw nm p' heq
    · obtain ⟨rfl, rfl, rfl, rfl⟩ := Program.host.inj heq
      have hp : p.isEnded = false := by
        cases p with
        | ended e => exact absurd hopen (by simp [Program.isEnded])
        | _ => rfl
      exact (hJ _ _ _ _ rfl).turn hp (Host.turn email password name rtc p msg)
    · exact Program.noConfusion heq
    · exact Program.noConfusion heq
  · rintro (⟨email, password, name, p⟩ | _ | _) outputs inbox candidate turn hturn hJ e pw nm p' heq
    · obtain ⟨turn', hturn', rfl⟩ := Option.map_eq_some_iff.mp hturn
      obtain ⟨rfl, rfl, rfl, rfl⟩ := Program.host.inj heq
      exact (hJ _ _ _ _ rfl).gathered hturn'
    · obtain ⟨turn', -, rfl⟩ := Option.map_eq_some_iff.mp hturn
      exact Program.noConfusion heq
    · exact absurd hturn.symm (Option.some_ne_none turn)
  · exact fun _ _ _ _ _ _ _ _ heq => Program.noConfusion heq
  · rintro (⟨email, password, name, p⟩ | _ | _) outputs inbox hJ e pw nm p' heq
    · obtain ⟨rfl, rfl, rfl, rfl⟩ := Program.host.inj heq
      exact (hJ _ _ _ _ rfl).ended _
    · exact Program.noConfusion heq
    · exact Program.noConfusion heq

theorem controllerDid (h : Reachable (initial (Server.start db config files) roles) n)
    {c : ConnectionId} {email password : String} {target : DeviceId}
    {credential : ConnectCredential} {p : ControllerPhase}
    (hc : (n.client c).program = .controller email password target credential p) :
    ControllerDid p (n.client c).outputs (n.inbox c) := by
  refine Reachable.client (fun program outputs inbox => ∀ email password target credential p,
    program = .controller email password target credential p → ControllerDid p outputs inbox)
    ?_ ?_ ?_ ?_ ?_ h c _ _ _ _ _ hc
  · rintro (_ | ⟨email, password, target, credential⟩ | _) e pw tg cr p heq
    · exact Program.noConfusion heq
    · obtain ⟨rfl, rfl, rfl, rfl, rfl⟩ := Program.controller.inj heq
      exact ⟨by simp [Role.start, Controller.start, messages, Output.message?,
          ClientMessage.IsRegistration, ClientMessage.IsAnswer],
        by simp [Role.start, Controller.start, messages, Output.message?, ClientMessage.IsOffer],
        by simp [Role.start, Controller.start, messages, Output.message?, ClientMessage.isOffer],
        fun s hs => absurd hs.symm (Option.some_ne_none s),
        fun s hs => ControllerPhase.noConfusion hs,
        by simp [Role.start, Controller.start, messages, Output.message?,
          ClientMessage.IsCandidate]⟩
    · exact Program.noConfusion heq
  · rintro (_ | ⟨email, password, target, credential, p⟩ | _) outputs inbox rtc msg hopen hJ
      e pw tg cr p' heq
    · exact Program.noConfusion heq
    · obtain ⟨rfl, rfl, rfl, rfl, rfl⟩ := Program.controller.inj heq
      have hp : p.isEnded = false := by
        cases p with
        | ended e => exact absurd hopen (by simp [Program.isEnded])
        | _ => rfl
      exact (hJ _ _ _ _ _ rfl).turn hp
        (Controller.turn email password target credential rtc p msg)
    · exact Program.noConfusion heq
  · rintro (_ | ⟨email, password, target, credential, p⟩ | _) outputs inbox candidate turn hturn
      hJ e pw tg cr p' heq
    · obtain ⟨turn', -, rfl⟩ := Option.map_eq_some_iff.mp hturn
      exact Program.noConfusion heq
    · obtain ⟨turn', hturn', rfl⟩ := Option.map_eq_some_iff.mp hturn
      obtain ⟨rfl, rfl, rfl, rfl, rfl⟩ := Program.controller.inj heq
      exact (hJ _ _ _ _ _ rfl).gathered hturn'
    · exact absurd hturn.symm (Option.some_ne_none turn)
  · exact fun _ _ _ _ _ _ _ _ _ heq => Program.noConfusion heq
  · rintro (_ | ⟨email, password, target, credential, p⟩ | _) outputs inbox hJ e pw tg cr p' heq
    · exact Program.noConfusion heq
    · obtain ⟨rfl, rfl, rfl, rfl, rfl⟩ := Program.controller.inj heq
      exact (hJ _ _ _ _ _ rfl).ended _
    · exact Program.noConfusion heq

end Net

end Client

end Visuara
