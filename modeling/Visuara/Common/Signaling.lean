/-
  Visuara.Common.Signaling
  ────────────────────────
  **THE SIGNALING PROTOCOL'S MESSAGES** (`visuara-common/src/signaling.rs`).

  What a client sends over its WebSocket, and what the server sends back.
-/
import Mathlib.Init

namespace Visuara

abbrev DeviceId := String
abbrev SessionId := String

/-- What a controller presents to be let in. -/
inductive ConnectCredential where
  | oneTimePassword (otp : String)
  | unattendedPassword (pw : String)
  deriving DecidableEq, Repr

/-- Client to server. -/
inductive ClientMessage where
  | register (email password : String)
  | login (email password : String)
  /-- Announce this device and obtain a device id. -/
  | registerDevice (name : String)
  | listDevices
  /-- Controller side: initiate a connection to a host device. -/
  | requestConnection (targetDeviceId : DeviceId) (credential : ConnectCredential)
  | sdpOffer (sessionId : SessionId) (sdp : String)
  | sdpAnswer (sessionId : SessionId) (sdp : String)
  | iceCandidate (sessionId : SessionId) (candidate : String)
  | requestTurnCredentials
  | setUnattendedPassword (targetDeviceId : DeviceId) (password : String)
  deriving DecidableEq, Repr

structure DeviceSummary where
  deviceId : DeviceId
  name : String
  online : Bool
  unattendedAccessEnabled : Bool
  deriving DecidableEq, Repr

/-- Server to client. -/
inductive ServerMessage where
  | authOk (sessionToken : String)
  | authError (message : String)
  | deviceRegistered (deviceId : DeviceId) (oneTimePassword : String)
  | deviceList (devices : List DeviceSummary)
  /-- To a host, when a controller wants in. -/
  | incomingConnection (sessionId : SessionId) (fromDeviceId : Option DeviceId)
  /-- To the requester, once its `requestConnection` is accepted. -/
  | connectionEstablished (sessionId : SessionId) (targetDeviceId : DeviceId)
  | sdpOffer (sessionId : SessionId) (sdp : String)
  | sdpAnswer (sessionId : SessionId) (sdp : String)
  | iceCandidate (sessionId : SessionId) (candidate : String)
  | turnCredentials (urls : List String) (username password : String) (ttlSecs : Nat)
  | unattendedPasswordUpdated (password : String)
  | error (message : String)
  deriving DecidableEq, Repr

/-- `authError` or `error`. -/
def ServerMessage.isRefusal : ServerMessage → Bool
  | .authError _ | .error _ => true
  | _ => false

/-- The session a relayed message belongs to; `none` for every other message. -/
def ServerMessage.relayedUnder : ServerMessage → Option SessionId
  | .sdpOffer s _ | .sdpAnswer s _ | .iceCandidate s _ => some s
  | _ => none

/-- The session a message belongs to. -/
def ServerMessage.session : ServerMessage → Option SessionId
  | .incomingConnection s _ | .connectionEstablished s _ => some s
  | m => m.relayedUnder

/-- The relayed form of a client's message, with the session it names. -/
def ClientMessage.relayed : ClientMessage → Option (SessionId × ServerMessage)
  | .sdpOffer s sdp => some (s, .sdpOffer s sdp)
  | .sdpAnswer s sdp => some (s, .sdpAnswer s sdp)
  | .iceCandidate s candidate => some (s, .iceCandidate s candidate)
  | _ => none

end Visuara
