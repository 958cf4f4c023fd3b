/-
  Visuara.Client.Serving
  ──────────────────────
  **WHICH INCOMING CONNECTIONS A HOST SERVES.**

  `handle_one_connection` has no way back to the loop of `serve_connections`:
  its last loop ends with an error only.  So the first `IncomingConnection`
  is served, and every later one is consumed and dropped
  (`every_incoming_served_iff`).
-/
import Visuara.Client.Host

namespace Visuara.Client

/-- `IncomingConnection`, of any session. -/
def isIncoming : ServerMessage → Bool
  | .incomingConnection _ _ => true
  | _ => false

theorem not_incoming {m : ServerMessage} {s : SessionId} {sender : Option DeviceId}
    (hm : isIncoming m = false) : m ≠ .incomingConnection s sender := by
  rintro rfl
  exact absurd hm (by simp [isIncoming])

namespace HostPhase

/-- The host has stopped reading. -/
def isEnded : HostPhase → Bool
  | .ended _ => true
  | _ => false

/-- The host has left the loop of `serve_connections`. -/
def isBusy : HostPhase → Bool
  | .awaitingTurn _ | .awaitingOffer _ | .streaming _ | .ended _ => true
  | _ => false

end HostPhase

namespace Host

/-! ## §1. Runs of a host. -/

section

variable (email password name : String)

/-- The turns of a host on a sequence of messages. -/
def run : HostPhase → List (Webrtc × ServerMessage) → HostPhase × List Output
  | p, [] => (p, [])
  | p, (rtc, m) :: ms =>
    let turn := receive email password name rtc p m
    let rest := run turn.1 ms
    (rest.1, turn.2 ++ rest.2)

/-- The host reads the whole sequence: it has not ended before any of it. -/
def Consumes : HostPhase → List (Webrtc × ServerMessage) → Prop
  | _, [] => True
  | p, (rtc, m) :: ms => p.isEnded = false ∧ Consumes (receive email password name rtc p m).1 ms

/-- `handle_one_connection` is started for `s` no later than with the last message
before the next one of `s`. -/
def Started (p : HostPhase) (s : SessionId) (first : Webrtc × ServerMessage)
    (post : List (Webrtc × ServerMessage)) : Prop :=
  ∃ mid rest, post = mid ++ rest ∧ (∀ x ∈ mid, x.2.session ≠ some s)
    ∧ .handle s ∈ (run email password name p (first :: mid)).2

/-- Every `IncomingConnection` the host consumes is served. -/
def AllServed (p : HostPhase) (ms : List (Webrtc × ServerMessage)) : Prop :=
  ∀ pre rtc s sender post, ms = pre ++ (rtc, .incomingConnection s sender) :: post →
    (run email password name p pre).1.isEnded = false →
    Started email password name (run email password name p pre).1 s
      (rtc, .incomingConnection s sender) post

end

section

variable {email password name : String} {p : HostPhase} {m : ServerMessage} {rtc : Webrtc}
  {ms : List (Webrtc × ServerMessage)}

/-! ## §2. One turn. -/

/-- A turn that leaves the host busy and starts nothing. -/
def StaysBusy (turn : HostPhase × List Output) : Prop :=
  turn.1.isBusy = true ∧ ∀ s, .handle s ∉ turn.2

theorem staysBusy_idle (hp : p.isBusy = true) : StaysBusy (p, []) :=
  ⟨hp, fun _ => List.not_mem_nil⟩

/-- A call of `webrtc` works, or ends the host. -/
theorem staysBusy_webrtc {turn : HostPhase × List Output} (h : StaysBusy turn) :
    StaysBusy (match rtc.fault with
      | none => turn
      | some e => (.ended (.webrtc e), [])) := by
  cases rtc.fault with
  | none => exact h
  | some e => exact staysBusy_idle rfl

theorem staysBusy_addCandidate (hp : p.isBusy = true) (s : SessionId) (candidate : String) :
    StaysBusy (addCandidate rtc p s candidate) :=
  staysBusy_webrtc ⟨hp, fun _ => by simp⟩

/-- **A busy host stays busy, and starts nothing.** -/
theorem receive_busy (hp : p.isBusy = true) : StaysBusy (receive email password name rtc p m) := by
  cases p with
  | authenticating | registering | serving => exact absurd hp (by simp [HostPhase.isBusy])
  | ended e => exact staysBusy_idle rfl
  | awaitingTurn s => exact staysBusy_webrtc ⟨rfl, fun _ => by simp⟩
  | awaitingOffer s =>
    cases m with
    | sdpOffer s' sdp =>
      simp only [receive]
      split
      · exact staysBusy_webrtc ⟨rfl, fun _ => by simp⟩
      · exact staysBusy_idle rfl
    | iceCandidate s' candidate =>
      simp only [receive]
      split
      · exact staysBusy_addCandidate rfl s candidate
      · exact staysBusy_idle rfl
    | _ => exact staysBusy_idle rfl
  | streaming s =>
    cases m with
    | iceCandidate s' candidate =>
      simp only [receive]
      split
      · exact staysBusy_addCandidate rfl s candidate
      · exact staysBusy_idle rfl
    | _ => exact staysBusy_idle rfl

theorem run_busy (hp : p.isBusy = true) (s : SessionId) :
    .handle s ∉ (run email password name p ms).2 := by
  induction ms generalizing p with
  | nil => exact List.not_mem_nil
  | cons x ms ih =>
    obtain ⟨hnext, hno⟩ := receive_busy hp
    intro h
    rcases List.mem_append.mp h with h | h
    · exact hno s h
    · exact ih hnext h

/-- In the loop, a message that is no `IncomingConnection` is passed over. -/
theorem receive_serving (hm : isIncoming m = false) :
    receive email password name rtc .serving m = (.serving, []) := by
  cases m with
  | incomingConnection s sender => exact absurd hm (by simp [isIncoming])
  | _ => rfl

/-! ## §3. What is served. -/

/-- The first message, and then the others. -/
theorem allServed_cons : AllServed email password name p ((rtc, m) :: ms)
    ↔ (∀ s sender, m = .incomingConnection s sender → p.isEnded = false →
        Started email password name p s (rtc, m) ms)
      ∧ AllServed email password name (receive email password name rtc p m).1 ms := by
  constructor
  · intro h
    constructor
    · rintro s sender rfl hp
      exact h [] rtc s sender ms rfl hp
    · intro pre rtc' s sender post hms hp
      exact h ((rtc, m) :: pre) rtc' s sender post (by rw [hms]; rfl) hp
  · rintro ⟨hfirst, hrest⟩ pre rtc' s sender post hms hp
    cases pre with
    | nil =>
      obtain ⟨heq, rfl⟩ := List.cons.inj hms
      obtain ⟨rfl, rfl⟩ := Prod.mk.inj heq
      exact hfirst s sender rfl hp
    | cons x pre =>
      obtain ⟨rfl, htail⟩ := List.cons.inj hms
      exact hrest pre rtc' s sender post htail hp

/-- A busy host serves no one else: all is well if and only if no one comes. -/
theorem allServed_busy (hp : p.isBusy = true) (hread : Consumes email password name p ms) :
    AllServed email password name p ms ↔ ms.countP (isIncoming ·.2) = 0 := by
  induction ms generalizing p with
  | nil => exact ⟨fun _ => rfl, fun _ pre _ _ _ _ hms => absurd hms (by simp)⟩
  | cons x ms ih =>
    obtain ⟨rtc, m⟩ := x
    have hnext : (receive email password name rtc p m).1.isBusy = true := (receive_busy hp).1
    rw [allServed_cons, ih hnext hread.2, List.countP_cons]
    cases hm : isIncoming m with
    | false =>
      constructor
      · rintro ⟨-, hcount⟩
        simpa [hm] using hcount
      · intro hcount
        exact ⟨fun s sender heq => absurd heq (not_incoming hm), by simpa [hm] using hcount⟩
    | true =>
      constructor
      · rintro ⟨hfirst, -⟩
        cases m with
        | incomingConnection s sender =>
          -- it would have to be started by a host that starts nothing
          obtain ⟨mid, rest, -, -, hstart⟩ := hfirst s sender rfl hread.1
          exact absurd hstart (run_busy hp s)
        | _ => exact absurd hm (by simp [isIncoming])
      · intro hcount
        simp at hcount

/-- **Every incoming connection is served**, exactly when there is at most one. -/
theorem every_incoming_served_iff
    (hread : Consumes email password name .serving ms) :
    AllServed email password name .serving ms ↔ ms.countP (isIncoming ·.2) ≤ 1 := by
  induction ms with
  | nil => exact ⟨fun _ => Nat.zero_le 1, fun _ pre _ _ _ _ hms => absurd hms (by simp)⟩
  | cons x ms ih =>
    obtain ⟨rtc, m⟩ := x
    obtain ⟨-, hread⟩ := hread
    rw [allServed_cons, List.countP_cons]
    cases hm : isIncoming m with
    | false =>
      rw [receive_serving hm] at hread ⊢
      rw [ih hread]
      constructor
      · rintro ⟨-, hcount⟩
        simpa [hm] using hcount
      · intro hcount
        exact ⟨fun s sender heq => absurd heq (not_incoming hm), by simpa [hm] using hcount⟩
    | true =>
      cases m with
      | incomingConnection s sender =>
        -- this one is served at once, and the host is busy from then on
        have hstarted : Started email password name .serving s
            (rtc, .incomingConnection s sender) ms := by
          refine ⟨[], ms, rfl, fun x hx => absurd hx List.not_mem_nil, ?_⟩
          exact List.mem_cons_self
        rw [allServed_busy rfl hread]
        constructor
        · rintro ⟨-, hcount⟩
          simp [hcount]
        · intro hcount
          refine ⟨?_, by simpa [hm] using hcount⟩
          rintro s' sender' heq -
          injection heq with hs
          rw [← hs]
          exact hstarted
      | _ => exact absurd hm (by simp [isIncoming])

end

/-! ## §4. Two controllers, one after the other. -/

namespace Visits

def rtc : Webrtc := ⟨none, "v=0 answer"⟩

/-- What the server delivers when a controller connects. -/
def visit (s : SessionId) : List (Webrtc × ServerMessage) :=
  [(rtc, .incomingConnection s none), (rtc, .turnCredentials [] "user" "pw" 300),
    (rtc, .sdpOffer s "v=0 offer")]

theorem visits_consumed :
    Consumes "host@example.com" "pw" "pc" .serving (visit "s1" ++ visit "s2") :=
  ⟨rfl, rfl, rfl, rfl, rfl, rfl, trivial⟩

end Visits

theorem every_incoming_served_one :
    AllServed "host@example.com" "pw" "pc" .serving (Visits.visit "s1") := by
  have hread : Consumes "host@example.com" "pw" "pc" .serving (Visits.visit "s1") :=
    ⟨rfl, rfl, rfl, trivial⟩
  exact (every_incoming_served_iff hread).mpr (by decide)

/-- The second of two connections is consumed and dropped, and its offer is not answered. -/
theorem second_incoming_dropped :
    Consumes "host@example.com" "pw" "pc" .serving (Visits.visit "s1" ++ Visits.visit "s2")
    ∧ ¬ AllServed "host@example.com" "pw" "pc" .serving (Visits.visit "s1" ++ Visits.visit "s2")
    ∧ .send (.sdpAnswer "s1" "v=0 answer")
        ∈ (run "host@example.com" "pw" "pc" .serving (Visits.visit "s1" ++ Visits.visit "s2")).2
    ∧ .send (.sdpAnswer "s2" "v=0 answer")
        ∉ (run "host@example.com" "pw" "pc" .serving (Visits.visit "s1" ++ Visits.visit "s2")).2 := by
  refine ⟨Visits.visits_consumed, fun h => ?_, by decide, by decide⟩
  obtain ⟨mid, rest, -, -, hstart⟩ := h (Visits.visit "s1") Visits.rtc "s2" none _ rfl rfl
  exact absurd hstart (run_busy rfl "s2")

end Host

end Visuara.Client
