/-
  Visuara.Client.SignalingClient
  ──────────────────────────────
  **WHAT HOST AND CONTROLLER SHARE** (`visuara-client/src/signaling_client.rs`,
  `session.rs`).

  A client waits for a message of the server, and what it does then until it
  waits again is one turn: a new phase and a list of outputs.  `webrtc` is a
  parameter of each turn.
-/
import Visuara.Common.Signaling

namespace Visuara.Client

/-- `RTCIceServer`. -/
structure IceServer where
  urls : List String
  username : String
  credential : String
  deriving DecidableEq, Repr

/-- What a client does in a turn, as far as others can tell. -/
inductive Output where
  | send (msg : ClientMessage)
  /-- `handle_one_connection` starts. -/
  | handle (sessionId : SessionId)
  /-- The calls on the peer connection of a session. -/
  | buildPeerConnection (sessionId : SessionId) (iceServers : List IceServer)
  | setRemoteDescription (sessionId : SessionId) (sdp : String)
  | addIceCandidate (sessionId : SessionId) (candidate : String)
  deriving DecidableEq, Repr

/-- What `webrtc` contributes to a turn. -/
structure Webrtc where
  /-- The error of the first call that fails, if one does. -/
  fault : Option String
  /-- The session description it makes. -/
  sdp : String
  deriving DecidableEq, Repr

/-- Why a client ends. -/
inductive ClientError where
  | closed
  | unexpectedAuthResponse (msg : ServerMessage)
  | loginFailed (msg : ServerMessage)
  | expectedDeviceRegistered (msg : ServerMessage)
  | expectedConnectionEstablished (msg : ServerMessage)
  | webrtc (e : String)
  deriving DecidableEq, Repr

/-- The servers of a `TurnCredentials`; any other message gives none. -/
def iceServers : ServerMessage → List IceServer
  | .turnCredentials urls username password _ => [⟨urls, username, password⟩]
  | _ => []

/-- `authenticate` has sent `Register`, or `Login` after that was refused. -/
inductive AuthStep where
  | register
  | login
  deriving DecidableEq, Repr

/-- How `authenticate` goes on with the next message: it is done, or it sends a
`Login`, or it fails. -/
def authenticate (email password : String) : AuthStep → ServerMessage →
    Except ClientError (Option (AuthStep × ClientMessage))
  | .register, .authOk _ => .ok none
  | .register, .authError _ => .ok (some (.login, .login email password))
  | .register, other => .error (.unexpectedAuthResponse other)
  | .login, .authOk _ => .ok none
  | .login, other => .error (.loginFailed other)

end Visuara.Client
