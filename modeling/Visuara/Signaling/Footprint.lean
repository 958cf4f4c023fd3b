/-
  Visuara.Signaling.Footprint
  ───────────────────────────
  **WHICH TASK PERFORMS WHICH OPERATIONS.**

  A table without any conditions: `t.performs o` when some run of `t` may
  perform `o`.  A property that no operation of a task's footprint touches is
  kept by the task (`Prog.wp_of_follows`), so that a result about one table or
  map has to look at the few tasks that write it.
-/
import Visuara.Signaling.Quiet
import Visuara.Signaling.Server

namespace Visuara.Signaling

open Interleave

/-! ## §1. The table. -/

def messagePerforms : ClientMessage → Op → Bool
  | .register .., .db (.createAccount ..) | .register .., .db (.setSetting ..)
  | .register .., .setConnState .. | .login .., .setConnState .. => true
  | .registerDevice _, .myDeviceId _ | .registerDevice _, .setMyDeviceId ..
  | .registerDevice _, .db (.createDevice ..) | .registerDevice _, .deviceOnlineInsert ..
  | .registerDevice _, .otpInsert .. => true
  | .requestConnection .., .sessionsInsert .. => true
  | .setUnattendedPassword .., .db (.setUnattendedPasswordHash ..) => true
  | _, .connState _ | _, .send .. => true
  | _, o => o.quiet

def Request.performs : Request → Op → Bool
  | .register .., .db (.createAccount ..) | .register .., .db (.setSetting ..)
  | .register .., .db (.createSession ..) | .login .., .db (.createSession ..)
  | .logout _, .db (.deleteSession _) => true
  | .deleteOwn .., .db (.deleteDevice _) | .deleteOwn .., .deviceOnlineRemove _
  | .deleteOwn .., .otpRemove _ | .deleteOwn .., .send .. => true
  | .deleteDevice .., .db (.deleteDevice _) | .deleteDevice .., .deviceOnlineRemove _
  | .deleteDevice .., .otpRemove _ | .deleteDevice .., .send .. => true
  | .createAccount .., .db (.createAccount ..) => true
  | .deleteAccount .., .db (.deleteAccount _) => true
  | .setAccountRole .., .db (.setAccountRole ..) => true
  | .setRegistration .., .db (.setSetting ..) => true
  | .saveSettings .., o | .fetchRelease _, o => o.tame
  | _, o => o.quiet

def Task.performs : Task → Op → Bool
  | .connect _, .connectionsInsert .. => true
  | .message _ m, o => messagePerforms m o
  | .malformed .., .send .. => true
  | .close _, .connectionsRemove _ | .close _, .myDeviceId _ | .close _, .deviceOnlineRemove _
  | .close _, .otpRemove _ | .close _, .abortSendTask _ => true
  | .http req, o => req.performs o
  | _, _ => false

theorem messagePerforms_quiet (m : ClientMessage) {o : Op} (ho : o.quiet = true) :
    messagePerforms m o = true := by
  unfold messagePerforms
  split <;> first | rfl | exact ho

theorem messagePerforms_send (m : ClientMessage) (tx : Sender) (msg : ServerMessage) :
    messagePerforms m (.send tx msg) = true := by
  cases m <;> rfl

/-- What a turn of the loop sends besides an error to its own connection. -/
def messageSends (c : ConnectionId) : ClientMessage → Sender → ServerMessage → Bool
  | .register .., tx, .authOk _ | .register .., tx, .authError _
  | .login .., tx, .authOk _ | .login .., tx, .authError _
  | .registerDevice _, tx, .deviceRegistered .. | .listDevices, tx, .deviceList _
  | .requestConnection .., tx, .connectionEstablished ..
  | .requestTurnCredentials, tx, .turnCredentials .. => tx = c
  | .requestConnection .., _, .incomingConnection ..
  | .setUnattendedPassword .., _, .unattendedPasswordUpdated _ => true
  | m, _, msg => m.relayed.any fun r => r.2 = msg

/-- What a task sends, and to whom. -/
def Task.sends : Task → Sender → ServerMessage → Bool
  | .message c _, tx, .error _ | .malformed c _, tx, .error _ => tx = c
  | .message c m, tx, msg => messageSends c m tx msg
  | .http (.deleteOwn ..), _, .error _ | .http (.deleteDevice ..), _, .error _ => true
  | _, _, _ => false

/-- The footprint of a task, with what it sends. -/
def Task.does (t : Task) : Op → Bool
  | .send tx msg => t.sends tx msg
  | o => t.performs o

/-- Quiet operations are in every footprint they may be in. -/
theorem does_of_quiet {t : Task} {o : Op} (ho : o.quiet = true) (ht : t.performs o = true) :
    t.does o = true := by
  cases o with
  | send => exact absurd ho Bool.false_ne_true
  | _ => exact ht

theorem does_of_tame {t : Task} {o : Op} (ho : o.tame = true) (ht : t.performs o = true) :
    t.does o = true := by
  cases o with
  | send => exact absurd ho Bool.false_ne_true
  | _ => exact ht

theorem of_private {P : Op → Bool} {o : Op} (ho : (!o.publishes && P o) = true) : P o = true :=
  (Bool.and_eq_true _ _ ▸ ho).2

/-- A weaker footprint, still without a template. -/
theorem private_of {P P' : Op → Bool} {o : Op} (ho : (!o.publishes && P o) = true)
    (h : P o = true → P' o = true) : (!o.publishes && P' o) = true := by
  rw [Bool.and_eq_true] at ho ⊢
  exact ⟨ho.1, h ho.2⟩

theorem private_setSetting {P : Op → Bool} {key value : String}
    (hkey : key ∉ PLATFORMS.map clientVersionKey) (h : P (.db (.setSetting key value)) = true) :
    (!(Op.db (.setSetting key value)).publishes && P (.db (.setSetting key value))) = true := by
  have hpublishes : (Op.db (.setSetting key value)).publishes = false := decide_eq_false hkey
  rw [hpublishes]
  exact h

/-- The registration flag is no version. -/
theorem registration_private : REGISTRATION_ENABLED ∉ PLATFORMS.map clientVersionKey := by decide

/-- What is sent is in the coarser footprint, too. -/
theorem Task.performs_of_does {t : Task} {o : Op} (ho : t.does o = true) : t.performs o = true := by
  cases o with
  | send tx msg =>
    cases t with
    | message c m => exact messagePerforms_send m tx msg
    | malformed c e => rfl
    | http req =>
      cases req with
      | deleteOwn | deleteDevice => rfl
      | _ => exact absurd ho (by simp [Task.does, Task.sends])
    | connect c => exact absurd ho (by simp [Task.does, Task.sends])
    | close c => exact absurd ho (by simp [Task.does, Task.sends])
  | _ => exact ho

/-- Errors apart, only turns of the loop send. -/
theorem sends_cases {t : Task} {tx : Sender} {msg : ServerMessage} (h : t.sends tx msg = true)
    (herror : msg.isRefusal = false) :
    ∃ c m, t = .message c m ∧ messageSends c m tx msg = true := by
  cases t with
  | message c m =>
    refine ⟨c, m, rfl, ?_⟩
    cases msg with
    | error => exact absurd herror (by simp [ServerMessage.isRefusal])
    | _ => exact h
  | malformed =>
    cases msg with
    | error => exact absurd herror (by simp [ServerMessage.isRefusal])
    | _ => exact absurd h (by simp [Task.sends])
  | http req =>
    cases msg with
    | error => exact absurd herror (by simp [ServerMessage.isRefusal])
    | _ => cases req <;> exact absurd h (by simp [Task.sends])
  | _ => exact absurd h (by simp [Task.sends])

/-- `AuthOk` answers a login or a registration. -/
theorem authorized_by {t : Task} {c : ConnectionId} {token : String}
    (h : t.sends c (.authOk token) = true) : ∃ email password,
      t = .message c (.login email password) ∨ t = .message c (.register email password) := by
  obtain ⟨c', m, rfl, hsend⟩ := sends_cases h rfl
  cases m with
  | login email password =>
    obtain rfl : c = c' := of_decide_eq_true hsend
    exact ⟨email, password, .inl rfl⟩
  | register email password =>
    obtain rfl : c = c' := of_decide_eq_true hsend
    exact ⟨email, password, .inr rfl⟩
  | _ => exact absurd hsend (by simp [messageSends, ClientMessage.relayed])

/-- `DeviceRegistered` answers a registration of a device. -/
theorem registers_of_reports {t : Task} {c : ConnectionId} {d : DeviceId} {p : String}
    (h : t.sends c (.deviceRegistered d p) = true) :
    ∃ name, t = .message c (.registerDevice name) := by
  obtain ⟨c', m, rfl, hsend⟩ := sends_cases h rfl
  cases m with
  | registerDevice name =>
    obtain rfl : c = c' := of_decide_eq_true hsend
    exact ⟨name, rfl⟩
  | _ => exact absurd hsend (by simp [messageSends, ClientMessage.relayed])

/-- A connection obtains `ConnectionEstablished` for its own requests. -/
theorem established_by {t : Task} {c : ConnectionId} {k : SessionId} {d : DeviceId}
    (h : t.sends c (.connectionEstablished k d) = true) :
    ∃ d' credential, t = .message c (.requestConnection d' credential) := by
  obtain ⟨c', m, rfl, hsend⟩ := sends_cases h rfl
  cases m with
  | requestConnection d' credential =>
    obtain rfl : c = c' := of_decide_eq_true hsend
    exact ⟨d', credential, rfl⟩
  | _ => exact absurd hsend (by simp [messageSends, ClientMessage.relayed])

/-- `IncomingConnection` follows from a request of any connection. -/
theorem incoming_by {t : Task} {tx : Sender} {k : SessionId} {sender : Option DeviceId}
    (h : t.sends tx (.incomingConnection k sender) = true) :
    ∃ c d credential, t = .message c (.requestConnection d credential) := by
  obtain ⟨c, m, rfl, hsend⟩ := sends_cases h rfl
  cases m with
  | requestConnection d credential => exact ⟨c, d, credential, rfl⟩
  | _ => exact absurd hsend (by simp [messageSends, ClientMessage.relayed])

/-! ## §2. The WebSocket handlers. -/

variable {h : Calls} {c : ConnectionId}

theorem only_createAccountAndMaybeBootstrapAdmin {P : Op → Bool} (email hash : String)
    (hcount : P (.db .countAccounts) = true)
    (hcreate : ∀ role, P (.db (.createAccount email hash role)) = true)
    (hset : P (.db (.setSetting REGISTRATION_ENABLED "false")) = true) :
    Only P (createAccountAndMaybeBootstrapAdmin email hash).run h := by
  rw [createAccountAndMaybeBootstrapAdmin_run]
  refine ⟨hcount, fun n => ?_⟩
  rcases n with e | n
  · trivial
  · refine ⟨hcreate _, fun r => ?_⟩
    rcases r with e | id
    · trivial
    · cases n == 0 with
      | false => trivial
      | true =>
        refine ⟨hset, fun r => ?_⟩
        rcases r with e | _ <;> trivial

theorem only_relay {P : Op → Bool} (s : SessionId) (msg : ServerMessage)
    (hget : P (.sessionsGet s) = true) (hconn : ∀ c, P (.connectionsGet c) = true)
    (hsend : ∀ tx, P (.send tx msg) = true) : Only P (relay c s msg).run h := by
  simp only [relay, Handler.perform_bind, Handler.okOr_bind, Only, Prog.follows_call]
  refine ⟨hget, fun peers => ?_⟩
  cases peers with
  | none => trivial
  | some peers =>
    dsimp only
    cases peers.other c with
    | none => trivial
    | some other =>
      refine ⟨hconn other, fun tx => ?_⟩
      cases tx with
      | none => trivial
      | some tx => exact ⟨hsend tx, fun _ => trivial⟩

theorem only_report {P : Op → Bool} (r : Except String Unit)
    (hsend : ∀ e, P (.send c (.error e)) = true) : Only P (report c r) h := by
  rcases r with e | _
  · exact ⟨hsend _, fun _ => trivial⟩
  · trivial

variable [Crates]

/-- **A turn of the loop keeps to its footprint.** -/
theorem only_onMessage (m : ClientMessage) :
    Only (fun o => !o.publishes && Task.does (.message c m) o) (onMessage c m) h := by
  have hself : ∀ {c : ConnectionId}, decide (c = c) = true := decide_eq_true rfl
  suffices hm : Only (fun o => !o.publishes && Task.does (.message c m) o)
      (handleMessage c m).run h by
    exact Only.bind hm fun r _ => only_report r fun _ => hself
  cases m with
  | register email password =>
    simp only [handleMessage, Handler.lift_bind, registrationEnabled_bind]
    refine ⟨rfl, fun r => ?_⟩
    dsimp only
    split
    · exact ⟨hself, fun _ => trivial⟩
    · simp only [Handler.mk_bind, perform, Prog.perform_bind]
      refine ⟨rfl, fun hashed => ?_⟩
      rcases hashed with e | hash
      · trivial
      · simp only [Handler.lift_bind]
        refine Only.bind (only_createAccountAndMaybeBootstrapAdmin email hash rfl (fun _ => rfl)
          (private_setSetting registration_private rfl)) fun r h' => ?_
        rcases r with e | ⟨account, role⟩
        · exact ⟨hself, fun _ => trivial⟩
        · exact ⟨rfl, fun _ => ⟨rfl, fun _ => ⟨hself, fun _ => trivial⟩⟩⟩
  | login email password =>
    simp only [handleMessage, Handler.query_bind]
    refine ⟨rfl, fun found => ?_⟩
    rcases found with e | (_ | account)
    · trivial
    · exact ⟨hself, fun _ => trivial⟩
    · dsimp only
      split
      · exact ⟨rfl, fun _ => ⟨rfl, fun _ => ⟨hself, fun _ => trivial⟩⟩⟩
      · exact ⟨hself, fun _ => trivial⟩
  | registerDevice name =>
    simp only [handleMessage, requireAuth_bind, bind_assoc]
    refine ⟨rfl, fun st => ?_⟩
    cases st with
    | unauthenticated => trivial
    | authenticated account =>
      simp only [Handler.perform_bind]
      refine ⟨rfl, fun mine => ?_⟩
      cases mine with
      | some d =>
        exact ⟨rfl, fun _ => ⟨rfl, fun _ => ⟨rfl, fun _ => ⟨hself, fun _ => trivial⟩⟩⟩⟩
      | none =>
        simp only [bind_assoc, Handler.perform_bind, Handler.query_bind]
        refine ⟨rfl, fun d => ⟨rfl, fun r => ?_⟩⟩
        rcases r with e | _
        · trivial
        · exact ⟨rfl, fun _ => ⟨rfl, fun _ => ⟨rfl, fun _ => ⟨rfl, fun _ => ⟨hself,
            fun _ => trivial⟩⟩⟩⟩⟩
  | listDevices =>
    simp only [handleMessage, requireAuth_bind]
    refine ⟨rfl, fun st => ?_⟩
    cases st with
    | unauthenticated => trivial
    | authenticated account =>
      simp only [Handler.query_bind, Handler.lift_bind]
      refine ⟨rfl, fun devices => ?_⟩
      rcases devices with e | devices
      · trivial
      · have hlooks : Looks (deviceSummaries devices)
            (⟨.db (.listDevicesForAccount account), .ok devices⟩ ::
              ⟨.connState c, .authenticated account⟩ :: h) := looks_deviceSummaries devices
        refine Only.bind (hlooks.mono (fun _ o ho => ?_) fun _ _ h => h)
          fun _ _ => ⟨hself, fun _ => trivial⟩
        exact private_of ho fun hquiet => does_of_quiet hquiet (messagePerforms_quiet _ hquiet)
  | requestConnection d credential =>
    simp only [handleMessage, requireAuth_bind]
    refine ⟨rfl, fun st => ?_⟩
    cases st with
    | unauthenticated => trivial
    | authenticated account =>
      simp only [Handler.query_bind, Handler.okOr_bind]
      refine ⟨rfl, fun found => ?_⟩
      rcases found with e | (_ | device)
      · trivial
      · trivial
      · refine Only.run_bind ?_ fun ok h' => ?_
        · cases credential with
          | oneTimePassword otp =>
            refine ⟨rfl, fun current => ?_⟩
            cases current <;> trivial
          | unattendedPassword pw =>
            simp only [checkCredential]
            split <;> trivial
        · cases ok with
          | false => exact ⟨hself, fun _ => trivial⟩
          | true =>
            refine ⟨rfl, fun host => ?_⟩
            cases host with
            | none => trivial
            | some b =>
              refine ⟨rfl, fun s => ⟨rfl, fun _ => ⟨rfl, fun tx => ?_⟩⟩⟩
              cases tx with
              | none => exact ⟨hself, fun _ => trivial⟩
              | some tx =>
                refine ⟨rfl, fun sent => ?_⟩
                rcases sent with e | _
                · trivial
                · exact ⟨hself, fun _ => trivial⟩
  | sdpOffer s sdp => exact only_relay s _ rfl (fun _ => rfl) fun _ => decide_eq_true rfl
  | sdpAnswer s sdp => exact only_relay s _ rfl (fun _ => rfl) fun _ => decide_eq_true rfl
  | iceCandidate s candidate =>
    exact only_relay s _ rfl (fun _ => rfl) fun _ => decide_eq_true rfl
  | requestTurnCredentials => exact ⟨rfl, fun _ => ⟨rfl, fun _ => ⟨hself, fun _ => trivial⟩⟩⟩
  | setUnattendedPassword d pw =>
    simp only [handleMessage, requireAuth_bind]
    refine ⟨rfl, fun st => ?_⟩
    cases st with
    | unauthenticated => trivial
    | authenticated account =>
      simp only [Handler.query_bind, Handler.okOr_bind]
      refine ⟨rfl, fun found => ?_⟩
      rcases found with e | (_ | device)
      · trivial
      · trivial
      · dsimp only
        split
        · trivial
        · simp only [Handler.mk_bind, perform, Prog.perform_bind]
          refine ⟨rfl, fun hashed => ?_⟩
          rcases hashed with e | hash
          · trivial
          · simp only [Handler.query_bind]
            refine ⟨rfl, fun r => ?_⟩
            rcases r with e | _
            · trivial
            · refine ⟨rfl, fun host => ?_⟩
              cases host with
              | none => trivial
              | some b =>
                refine ⟨rfl, fun tx => ?_⟩
                cases tx with
                | none => trivial
                | some tx => exact ⟨rfl, fun _ => trivial⟩

/-! ## §3. The HTTP handlers. -/

omit [Crates] in
theorem requestPerforms_quiet (req : Request) {o : Op} (ho : o.quiet = true) :
    req.performs o = true := by
  unfold Request.performs
  split <;> first | rfl | exact tame_of_quiet ho | exact ho

omit [Crates] in
theorem only_startSession {P : Op → Bool} (id : Int) (email : String) (role : AccountRole)
    (htoken : P .generateSessionToken = true)
    (hcreate : ∀ token, P (.db (.createSession token id)) = true) :
    Only P (Api.startSession id email role) h := by
  refine ⟨htoken, fun token => ⟨hcreate token, fun r => ?_⟩⟩
  rcases r with e | _ <;> trivial

omit [Crates] in
theorem only_kickDevice {P : Op → Bool} (d : DeviceId) (message : String)
    (honline : P (.deviceOnlineRemove d) = true) (hotp : P (.otpRemove d) = true)
    (hconn : ∀ c, P (.connectionsGet c) = true)
    (hsend : ∀ tx, P (.send tx (.error message)) = true) :
    Only P (Api.kickDevice d message) h := by
  refine ⟨honline, fun live => ⟨hotp, fun _ => ?_⟩⟩
  cases live with
  | none => trivial
  | some c =>
    refine ⟨hconn c, fun tx => ?_⟩
    cases tx with
    | none => trivial
    | some tx => exact ⟨hsend tx, fun _ => trivial⟩

omit [Crates] in
theorem only_guardLastAdmin {P : Op → Bool} (id : Int) {f : Except Response Unit → Act Response}
    (hfind : P (.db (.findAccountById id)) = true) (hcount : P (.db .countAdmins) = true)
    (hf : ∀ r h', Only P (f r) h') : Only P (Api.guardLastAdmin id >>= f) h := by
  rw [Api.guardLastAdmin_bind]
  refine ⟨hfind, fun found => ?_⟩
  rcases found with e | (_ | account)
  · exact hf _ _
  · exact hf _ _
  · show Prog.Follows _ _ (ite (account.role ≠ .admin) _ _) _
    split
    · exact hf _ _
    · refine ⟨hcount, fun n => ?_⟩
      rcases n with e | n
      · exact hf _ _
      · show Prog.Follows _ _ (ite (n ≤ 1) _ _) _
        split
        · exact hf _ _
        · exact hf _ _

omit [Crates] in
/-- Removing a device, once it has been found to be the right one. -/
theorem only_removeDevice {P : Op → Bool} (d : DeviceId) (owner : Int) (message : String)
    (refused : Response) (device : Device) (hdelete : P (.db (.deleteDevice d)) = true)
    (honline : P (.deviceOnlineRemove d) = true) (hotp : P (.otpRemove d) = true)
    (hconn : ∀ c, P (.connectionsGet c) = true)
    (hsend : ∀ tx, P (.send tx (.error message)) = true) :
    Only P (if device.accountId = owner then do
        let _ ← query (.deleteDevice d)
        Api.kickDevice d message
        pure (statusResponse 204)
      else pure refused) h := by
  split
  · exact ⟨hdelete, fun _ => (only_kickDevice d message honline hotp hconn hsend).bind
      fun _ _ => trivial⟩
  · trivial

/-- The request that fetches templates. -/
def Request.fetches : Request → Bool
  | .fetchRelease _ => true
  | _ => false

/-- **A request keeps to its footprint**; and all but one leave the templates alone. -/
theorem only_route {req : Request} (hreq : req.fetches = false) :
    Only (fun o => !o.publishes && Task.does (.http req) o) (Api.route req) h := by
  by_cases hlooks : req.looks = true
  · refine (looks_route hlooks).mono (fun _ o ho => ?_) fun _ _ h => h
    exact private_of ho fun hquiet => does_of_quiet hquiet (requestPerforms_quiet req hquiet)
  · cases req with
    | saveSettings headers url name =>
      refine only_withAdmin headers (fun _ => rfl) fun h' => ?_
      have hurl : "server_url" ∉ PLATFORMS.map clientVersionKey := by decide
      have hname : "default_device_name" ∉ PLATFORMS.map clientVersionKey := by decide
      refine ⟨?_, fun _ => ⟨?_, fun _ => trivial⟩⟩
      · exact private_setSetting (P := Op.tame) hurl (tame_setSetting (by decide))
      · exact private_setSetting (P := Op.tame) hname (tame_setSetting (by decide))
    | fetchRelease headers => exact absurd hreq (by simp [Request.fetches])
    | register email password =>
      simp only [Api.route, Api.register]
      -- only the trimmed email matters
      split
      · trivial
      · rw [registrationEnabled_bind]
        refine ⟨rfl, fun r => ?_⟩
        dsimp only
        split
        · trivial
        · trivial
        · refine ⟨rfl, fun hashed => ?_⟩
          rcases hashed with e | hash
          · trivial
          · show Only _ ((createAccountAndMaybeBootstrapAdmin _ hash).run >>= _) _
            refine Only.bind (only_createAccountAndMaybeBootstrapAdmin _ hash rfl (fun _ => rfl)
              (private_setSetting registration_private rfl)) fun r h' => ?_
            rcases r with e | ⟨id, role⟩
            · dsimp only
              split <;> trivial
            · exact only_startSession id _ role rfl fun _ => rfl
    | login email password =>
      refine ⟨rfl, fun found => ?_⟩
      rcases found with e | (_ | account)
      · trivial
      · trivial
      · show Only _ (ite _ _ _) _
        split
        · exact only_startSession _ _ _ rfl fun _ => rfl
        · trivial
    | logout headers =>
      simp only [Api.route, Api.logout]
      split
      · exact ⟨rfl, fun _ => trivial⟩
      · trivial
    | deleteOwn headers d =>
      simp only [Api.route, Api.deleteOwn]
      rw [requireAccount_bind]
      cases cookieValue headers SESSION_COOKIE with
      | none => trivial
      | some token =>
        refine ⟨rfl, fun r => ?_⟩
        rcases r with e | (_ | account)
        · trivial
        · trivial
        · refine ⟨rfl, fun found => ?_⟩
          rcases found with e | (_ | device)
          · trivial
          · trivial
          · exact only_removeDevice d account.id _ _ device rfl rfl rfl (fun _ => rfl) fun _ => rfl
    | createAccount headers email password role =>
      refine only_withAdmin headers (fun _ => rfl) fun h' => ?_
      dsimp only
      split
      · trivial
      · refine ⟨rfl, fun hashed => ?_⟩
        rcases hashed with e | hash
        · trivial
        · refine ⟨rfl, fun r => ?_⟩
          rcases r with e | id
          · show Only _ (ite _ _ _) _
            split <;> trivial
          · trivial
    | deleteAccount headers id =>
      refine only_withAdmin headers (fun _ => rfl) fun h' =>
        only_guardLastAdmin id rfl rfl fun r h' => ?_
      rcases r with resp | _
      · trivial
      · exact ⟨rfl, fun _ => trivial⟩
    | setAccountRole headers id role =>
      refine only_withAdmin headers (fun _ => rfl) fun h' => ?_
      split
      · refine only_guardLastAdmin id rfl rfl fun r h' => ?_
        rcases r with resp | _
        · trivial
        · exact ⟨rfl, fun _ => trivial⟩
      · exact ⟨rfl, fun _ => trivial⟩
    | deleteDevice headers id d =>
      refine only_withAdmin headers (fun _ => rfl) fun h' => ⟨rfl, fun found => ?_⟩
      rcases found with e | (_ | device)
      · trivial
      · trivial
      · exact only_removeDevice d id _ _ device rfl rfl rfl (fun _ => rfl) fun _ => rfl
    | setRegistration headers enabled =>
      refine only_withAdmin headers (fun _ => rfl) fun h' => ⟨?_, fun r => ?_⟩
      · exact private_setSetting registration_private rfl
      · rcases r with e | _ <;> trivial
    | _ => exact absurd rfl hlooks

/-- The task that fetches templates. -/
def Task.fetches : Task → Bool
  | .http req => req.fetches
  | _ => false

omit [Crates] in
theorem exists_of_fetches {t : Task} (ht : t.fetches = true) :
    ∃ headers, t = .http (.fetchRelease headers) := by
  cases t with
  | http req =>
    cases req with
    | fetchRelease headers => exact ⟨headers, rfl⟩
    | _ => exact absurd ht Bool.false_ne_true
  | _ => exact absurd ht Bool.false_ne_true

/-- Every other task leaves the templates alone. -/
theorem Task.only_private {t : Task} (ht : t.fetches = false) :
    Only (fun o => !o.publishes && t.does o) (server.body t) h := by
  cases t with
  | connect c => exact ⟨rfl, fun _ => trivial⟩
  | message c m => exact Only.bind (only_onMessage m) fun _ _ => trivial
  | malformed c e => exact ⟨decide_eq_true rfl, fun _ => trivial⟩
  | close c =>
    refine Only.bind ⟨rfl, fun _ => ⟨rfl, fun mine => ?_⟩⟩ fun _ _ => trivial
    cases mine with
    | none => exact ⟨rfl, fun _ => trivial⟩
    | some d => exact ⟨rfl, fun _ => ⟨rfl, fun _ => ⟨rfl, fun _ => trivial⟩⟩⟩
  | http req =>
    show Only _ (some <$> Api.route req) _
    rw [← bind_pure_comp]
    exact Only.bind (only_route ht) fun _ _ => trivial

/-- **Every task keeps to its footprint**, and to what it sends. -/
theorem Task.only_does (t : Task) : Only t.does (server.body t) h := by
  cases ht : t.fetches with
  | false =>
    exact (Task.only_private ht).mono (fun _ _ ho => of_private ho) fun _ _ h => h
  | true =>
    obtain ⟨headers, rfl⟩ := exists_of_fetches ht
    show Only _ (some <$> Api.route _) _
    rw [← bind_pure_comp]
    have htame : Tame (Api.route (.fetchRelease headers)) h := tame_route (.inr rfl)
    exact Only.bind (htame.mono (fun _ _ ho => does_of_tame ho ho) fun _ _ h => h)
      fun _ _ => trivial

theorem Task.only (t : Task) : Only t.performs (server.body t) h :=
  t.only_does.mono (fun _ _ ho => performs_of_does ho) fun _ _ h => h

end Visuara.Signaling
