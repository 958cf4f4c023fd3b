/-
  Visuara.Client.Host
  ───────────────────
  **THE HOST** (`visuara-client/src/host.rs`).

  `register_and_serve` logs in and registers the device; then `serve_connections`
  waits for an `IncomingConnection` and runs `handle_one_connection`, which has
  receive loops of its own.  Each place at which the program waits is a phase.
-/
import Visuara.Client.SignalingClient

namespace Visuara.Client

/-- Where a host waits. -/
inductive HostPhase where
  /-- In `authenticate`. -/
  | authenticating (step : AuthStep)
  /-- For the answer to `RegisterDevice`. -/
  | registering
  /-- In the loop of `serve_connections`. -/
  | serving
  /-- For the answer to `RequestTurnCredentials`. -/
  | awaitingTurn (sessionId : SessionId)
  /-- For the offer. -/
  | awaitingOffer (sessionId : SessionId)
  /-- In the loop behind the answer. -/
  | streaming (sessionId : SessionId)
  | ended (e : ClientError)
  deriving DecidableEq, Repr

namespace Host

/-- `register_and_serve` up to its first message. -/
def start (email password : String) : HostPhase × List Output :=
  (.authenticating .register, [.send (.register email password)])

/-- `pc.add_ice_candidate(init).await?`, in a phase that the host stays in. -/
def addCandidate (rtc : Webrtc) (phase : HostPhase) (s : SessionId) (candidate : String) :
    HostPhase × List Output :=
  match rtc.fault with
  | none => (phase, [.addIceCandidate s candidate])
  | some e => (.ended (.webrtc e), [])

/-- The turn of a host that receives `msg`. -/
def receive (email password name : String) (rtc : Webrtc) :
    HostPhase → ServerMessage → HostPhase × List Output
  | .authenticating step, msg =>
    match authenticate email password step msg with
    | .ok none => (.registering, [.send (.registerDevice name)])
    | .ok (some (step', reply)) => (.authenticating step', [.send reply])
    | .error e => (.ended e, [])
  | .registering, msg =>
    match msg with
    | .deviceRegistered _ _ => (.serving, [])
    | other => (.ended (.expectedDeviceRegistered other), [])
  | .serving, msg =>
    match msg with
    | .incomingConnection s _ => (.awaitingTurn s, [.handle s, .send .requestTurnCredentials])
    | _ => (.serving, [])
  | .awaitingTurn s, msg =>
    -- whatever comes is taken for the answer
    match rtc.fault with
    | none => (.awaitingOffer s, [.buildPeerConnection s (iceServers msg)])
    | some e => (.ended (.webrtc e), [])
  | .awaitingOffer s, msg =>
    match msg with
    | .sdpOffer s' sdp =>
      if s' = s then
        match rtc.fault with
        | none => (.streaming s, [.setRemoteDescription s sdp, .send (.sdpAnswer s rtc.sdp)])
        | some e => (.ended (.webrtc e), [])
      else (.awaitingOffer s, [])
    | .iceCandidate s' candidate =>
      if s' = s then addCandidate rtc (.awaitingOffer s) s candidate else (.awaitingOffer s, [])
    | _ => (.awaitingOffer s, [])
  | .streaming s, msg =>
    match msg with
    | .iceCandidate s' candidate =>
      if s' = s then addCandidate rtc (.streaming s) s candidate else (.streaming s, [])
    | _ => (.streaming s, [])
  | .ended e, _ => (.ended e, [])

/-- The candidates a host has gathered are sent from the last loop only. -/
def gathered (candidate : String) : HostPhase → Option (HostPhase × List Output)
  | .streaming s => some (.streaming s, [.send (.iceCandidate s candidate)])
  | _ => none

end Host

end Visuara.Client
