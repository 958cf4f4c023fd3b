/-
  Visuara.Client.Controller
  ─────────────────────────
  **THE CONTROLLER** (`visuara-client/src/controller.rs`).

  `connect` logs in, asks for TURN credentials and for a connection, sends its
  offer and waits for the answer; the task it leaves behind exchanges
  candidates.
-/
import Visuara.Client.SignalingClient

namespace Visuara.Client

/-- Where a controller waits. -/
inductive ControllerPhase where
  /-- In `authenticate`. -/
  | authenticating (step : AuthStep)
  /-- For the answer to `RequestTurnCredentials`. -/
  | awaitingTurn
  /-- For the answer to `RequestConnection`. -/
  | requesting (iceServers : List IceServer)
  /-- For the answer to the offer. -/
  | awaitingAnswer (sessionId : SessionId)
  /-- In the task that `connect` spawns. -/
  | exchanging (sessionId : SessionId)
  | ended (e : ClientError)
  deriving DecidableEq, Repr

namespace Controller

/-- `connect` up to its first message. -/
def start (email password : String) : ControllerPhase × List Output :=
  (.authenticating .register, [.send (.register email password)])

/-- The turn of a controller that receives `msg`. -/
def receive (email password : String) (target : DeviceId) (credential : ConnectCredential)
    (rtc : Webrtc) : ControllerPhase → ServerMessage → ControllerPhase × List Output
  | .authenticating step, msg =>
    match authenticate email password step msg with
    | .ok none => (.awaitingTurn, [.send .requestTurnCredentials])
    | .ok (some (step', reply)) => (.authenticating step', [.send reply])
    | .error e => (.ended e, [])
  | .awaitingTurn, msg =>
    -- whatever comes is taken for the answer
    (.requesting (iceServers msg), [.send (.requestConnection target credential)])
  | .requesting servers, msg =>
    match msg with
    | .connectionEstablished s _ =>
      match rtc.fault with
      | none =>
        (.awaitingAnswer s, [.buildPeerConnection s servers, .send (.sdpOffer s rtc.sdp)])
      | some e => (.ended (.webrtc e), [])
    | other => (.ended (.expectedConnectionEstablished other), [])
  | .awaitingAnswer s, msg =>
    match msg with
    | .sdpAnswer s' sdp =>
      if s' = s then
        match rtc.fault with
        | none => (.exchanging s, [.setRemoteDescription s sdp])
        | some e => (.ended (.webrtc e), [])
      else (.awaitingAnswer s, [])
    | .iceCandidate s' candidate =>
      if s' = s then
        match rtc.fault with
        | none => (.awaitingAnswer s, [.addIceCandidate s candidate])
        | some e => (.ended (.webrtc e), [])
      else (.awaitingAnswer s, [])
    | _ => (.awaitingAnswer s, [])
  | .exchanging s, msg =>
    match msg with
    | .iceCandidate s' candidate =>
      -- a failure is ignored here
      if s' = s ∧ rtc.fault = none then (.exchanging s, [.addIceCandidate s candidate])
      else (.exchanging s, [])
    | _ => (.exchanging s, [])
  | .ended e, _ => (.ended e, [])

/-- The candidates a controller has gathered are sent from the last loop only. -/
def gathered (candidate : String) : ControllerPhase → Option (ControllerPhase × List Output)
  | .exchanging s => some (.exchanging s, [.send (.iceCandidate s candidate)])
  | _ => none

end Controller

end Visuara.Client
