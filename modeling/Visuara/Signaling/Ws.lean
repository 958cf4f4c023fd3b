/-
  Visuara.Signaling.Ws
  ────────────────────
  **THE WEBSOCKET HANDLER** (`visuara-signaling/src/ws.rs`).

  `handle_socket` is a loop around `handle_message`; here each turn of the
  loop is a program of its own, with the loop's local variables in
  `Server.socket`, and `openSocket` and `closeSocket` are what precedes and
  follows the loop.
-/
import Visuara.Signaling.Session

namespace Visuara.Signaling

open Interleave

def requireAuth (c : ConnectionId) : Handler Int := do
  match ← ExceptT.lift (perform (.connState c)) with
  | .authenticated accountId => pure accountId
  | .unauthenticated => throw "not authenticated"

/-- `option.ok_or_else(|| anyhow!(message))?` -/
def Handler.okOr {α : Type} (o : Option α) (message : String) : Handler α :=
  match o with
  | some a => pure a
  | none => throw message

/-- One operation of a `DashMap`, a generator or the clock: it cannot fail. -/
def Handler.perform (o : Op) : Handler o.Res := ExceptT.lift (Signaling.perform o)

section

variable {α β : Type}

@[simp] theorem requireAuth_bind (c : ConnectionId) (f : Int → Handler α) :
    (requireAuth c >>= f).run = .call (.connState c) fun st =>
      match st with
      | .authenticated accountId => (f accountId).run
      | .unauthenticated => .ret (.error "not authenticated") := by
  simp only [requireAuth, bind_assoc, Handler.lift_bind]
  show Prog.call (Op.connState c) _ = _
  congr 1
  funext st
  cases st <;> rfl

@[simp] theorem Handler.okOr_bind (o : Option β) (message : String) (f : β → Handler α) :
    (Handler.okOr o message >>= f).run =
      match o with
      | some a => (f a).run
      | none => .ret (.error message) := by
  cases o <;> rfl

@[simp] theorem Handler.perform_bind (o : Op) (f : o.Res → Handler α) :
    ExceptT.run (@bind Handler _ (no_index o.Res) α (Handler.perform o) f)
      = .call o fun r => (f r).run := rfl

end

variable [Crates]

/-- Pass a message on to the other connection of a session. -/
def relay (c : ConnectionId) (sessionId : SessionId) (msg : ServerMessage) : Handler Unit := do
  let peers ← Handler.okOr (← Handler.perform (.sessionsGet sessionId)) "unknown session"
  let other ← Handler.okOr (peers.other c) "not part of session"
  let otherTx ← Handler.okOr (← Handler.perform (.connectionsGet other)) "peer disconnected"
  Handler.send otherTx msg

/-- The summaries `ListDevices` and `GET /devices` return. -/
def deviceSummaries (devices : List Device) : Act (List DeviceSummary) :=
  devices.mapM fun d => do
    let online ← perform (.deviceOnlineContainsKey d.id)
    pure ⟨d.id, d.name, online, d.unattendedPasswordHash.isSome⟩

/-- Whether a credential opens a device. -/
def checkCredential (device : Device) (targetDeviceId : DeviceId) :
    ConnectCredential → Handler Bool
  | .oneTimePassword otp => do
    match ← Handler.perform (.otpGet targetDeviceId) with
    | some current => pure (current == otp)
    | none => pure false
  | .unattendedPassword pw =>
    match device.unattendedPasswordHash with
    | some h => pure (verifyPassword pw h)
    | none => pure false

def handleMessage (c : ConnectionId) : ClientMessage → Handler Unit
  | .register email password => do
    let enabled ← ExceptT.lift registrationEnabled
    if !(enabled.toOption.getD true) then
      Handler.send c (.authError "registration is currently disabled")
    else
      let hash ← ExceptT.mk (perform (.hashPassword password))
      match ← ExceptT.lift (createAccountAndMaybeBootstrapAdmin email hash).run with
      | .ok (accountId, _) => do
        Handler.perform (.setConnState c (.authenticated accountId))
        let token ← Handler.perform .generateSessionToken
        Handler.send c (.authOk token)
      | .error e => Handler.send c (.authError ("registration failed: " ++ e))
  | .login email password => do
    match ← Handler.query (.findAccountByEmail email) with
    | some account =>
      if verifyPassword password account.passwordHash then
        Handler.perform (.setConnState c (.authenticated account.id))
        let token ← Handler.perform .generateSessionToken
        Handler.send c (.authOk token)
      else Handler.send c (.authError "invalid email or password")
    | none => Handler.send c (.authError "invalid email or password")
  | .registerDevice name => do
    let accountId ← requireAuth c
    let deviceId ← (do
      match ← Handler.perform (.myDeviceId c) with
      | some id => pure id
      | none =>
        let id ← Handler.perform .generateDeviceId
        Handler.query (.createDevice id accountId name)
        Handler.perform (.setMyDeviceId c id)
        pure id : Handler DeviceId)
    Handler.perform (.deviceOnlineInsert deviceId c)
    let otp ← Handler.perform .generateOneTimePassword
    Handler.perform (.otpInsert deviceId otp)
    Handler.send c (.deviceRegistered deviceId otp)
  | .listDevices => do
    let accountId ← requireAuth c
    let devices ← Handler.query (.listDevicesForAccount accountId)
    let summaries ← ExceptT.lift (deviceSummaries devices)
    Handler.send c (.deviceList summaries)
  | .requestConnection targetDeviceId credential => do
    let _ ← requireAuth c
    let device ← Handler.okOr (← Handler.query (.findDevice targetDeviceId)) "unknown device"
    let credentialOk ← checkCredential device targetDeviceId credential
    if !credentialOk then
      Handler.send c (.error "invalid credential")
    else
      let hostConnId ← Handler.okOr (← Handler.perform (.deviceOnlineGet targetDeviceId))
        "device is offline"
      let sessionId ← Handler.perform .newV4
      Handler.perform (.sessionsInsert sessionId ⟨c, hostConnId⟩)
      match ← Handler.perform (.connectionsGet hostConnId) with
      | some hostTx => Handler.send hostTx (.incomingConnection sessionId none)
      | none => pure ()
      Handler.send c (.connectionEstablished sessionId targetDeviceId)
  | .sdpOffer sessionId sdp => relay c sessionId (.sdpOffer sessionId sdp)
  | .sdpAnswer sessionId sdp => relay c sessionId (.sdpAnswer sessionId sdp)
  | .iceCandidate sessionId candidate => relay c sessionId (.iceCandidate sessionId candidate)
  | .requestTurnCredentials => do
    let config ← Handler.perform .config
    let now ← Handler.perform .nowSecs
    let (username, password) := mintCredentials config.turn c 300 now
    Handler.send c (.turnCredentials config.turn.urls username password 300)
  | .setUnattendedPassword targetDeviceId password => do
    let accountId ← requireAuth c
    let device ← Handler.okOr (← Handler.query (.findDevice targetDeviceId)) "unknown device"
    if device.accountId ≠ accountId then
      throw "not your device"
    else
      let hash ← ExceptT.mk (perform (.hashPassword password))
      Handler.query (.setUnattendedPasswordHash targetDeviceId hash)
      match ← Handler.perform (.deviceOnlineGet targetDeviceId) with
      | some hostConnId =>
        match ← Handler.perform (.connectionsGet hostConnId) with
        | some hostTx => Handler.send hostTx (.unattendedPasswordUpdated password)
        | none => pure ()
      | none => pure ()

/-- Before the loop: the new connection is entered. -/
def openSocket (c : ConnectionId) : Act Unit := perform (.connectionsInsert c c)

/-- One turn of the loop, on a well-formed message. -/
def onMessage (c : ConnectionId) (msg : ClientMessage) : Act Unit := do
  match ← (handleMessage c msg).run with
  | .ok () => pure ()
  | .error e => do
    let _ ← perform (.send c (.error e))
    pure ()

/-- What the turn does with the result of `handle_message`. -/
def report (c : ConnectionId) : Except String Unit → Act Unit
  | .ok () => pure ()
  | .error e => do
    let _ ← perform (.send c (.error e))
    pure ()

theorem onMessage_eq (c : ConnectionId) (msg : ClientMessage) :
    onMessage c msg = (handleMessage c msg).run >>= report c := rfl

/-- One turn of the loop, on a text that is no message. -/
def onMalformed (c : ConnectionId) (e : String) : Act Unit := do
  let _ ← perform (.send c (.error ("malformed message: " ++ e)))
  pure ()

/-- After the loop: the connection and its device are taken out. -/
def closeSocket (c : ConnectionId) : Act Unit := do
  perform (.connectionsRemove c)
  match ← perform (.myDeviceId c) with
  | some deviceId => do
    let _ ← perform (.deviceOnlineRemove deviceId)
    perform (.otpRemove deviceId)
  | none => pure ()
  perform (.abortSendTask c)

end Visuara.Signaling
