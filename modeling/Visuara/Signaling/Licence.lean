/-
  Visuara.Signaling.Licence
  ─────────────────────────
  **WHAT A TASK MUST HAVE DONE BEFORE IT DOES SOMETHING.**

  `May t h o`: a task `t` that has completed the calls `h` may perform `o`.
  It is read off the handlers, one line for each kind of operation that
  matters, and `Task.follows` proves it of every handler at once, whatever
  the other tasks do meanwhile.  All results about interleaved runs use the
  handlers only through this table.
-/
import Visuara.Signaling.Quiet
import Visuara.Signaling.Server

namespace Visuara.Signaling

open Interleave

/-! ## §1. What the calls of a task show. -/

/-- The task resolved its session cookie to an admin. -/
def AsAdmin (headers : HeaderMap) (h : Calls) : Prop :=
  ∃ token account, cookieValue headers SESSION_COOKIE = some token
    ∧ Did h (.db (.findSession token)) (.ok (some account)) ∧ account.role = .admin

theorem AsAdmin.append {headers : HeaderMap} {h : Calls} (ha : AsAdmin headers h) (l : Calls) :
    AsAdmin headers (l ++ h) := by
  obtain ⟨token, account, hc, hm, hrole⟩ := ha
  exact ⟨token, account, hc, List.mem_append_right _ hm, hrole⟩

/-- `guard_last_admin` let the task pass. -/
def GuardPassed (id : Int) (h : Calls) : Prop :=
  ∃ found, Did h (.db (.findAccountById id)) found
    ∧ ∀ account, found = .ok (some account) → account.role = .admin →
      ∃ n, Did h (.db .countAdmins) (.ok n) ∧ 1 < n

/-- What the task knows of `my_device_id`: the last value it read or set. -/
def knownDeviceId (c : ConnectionId) : Calls → Option (Option DeviceId)
  | [] => none
  | ⟨.myDeviceId c', d⟩ :: h => if c' = c then some d else knownDeviceId c h
  | ⟨.setMyDeviceId c' d, _⟩ :: h => if c' = c then some (some d) else knownDeviceId c h
  | _ :: h => knownDeviceId c h

section

variable [Crates]

/-- The credential was checked for device `d`, found as `device`. -/
def Checked (h : Calls) (d : DeviceId) (device : Device) : ConnectCredential → Prop
  | .oneTimePassword otp => Did h (.otpGet d) (some otp)
  | .unattendedPassword pw =>
    ∃ hash, device.unattendedPasswordHash = some hash ∧ verifyPassword pw hash = true

/-- What `RequestConnection` has established about device `d` before it
creates a session. -/
structure Requested (h : Calls) (a b : ConnectionId) (d : DeviceId)
    (credential : ConnectCredential) : Prop where
  authenticated : ∃ account, Did h (.connState a) (.authenticated account)
  checked : ∃ device, Did h (.db (.findDevice d)) (.ok (some device))
    ∧ Checked h d device credential
  online : Did h (.deviceOnlineGet d) (some b)

end

/-- The HTTP requests that remove device `d` and kick its connection. -/
def Task.removes (t : Task) (d : DeviceId) : Prop :=
  (∃ headers, t = .http (.deleteOwn headers d))
    ∨ ∃ headers id, t = .http (.deleteDevice headers id d)

/-! ## §2. The table. -/

variable [Crates]

/-- What task `t` may do once it has completed the calls `h`. -/
def May (t : Task) (h : Calls) : Op → Prop
  | .connectionsInsert c tx => t = .connect c ∧ tx = c
  | .connState c | .myDeviceId c => t.connection = some c
  | .setMyDeviceId c d => ∃ name account, t = .message c (.registerDevice name)
      ∧ knownDeviceId c h = some none ∧ Did h .generateDeviceId d
      ∧ Did h (.db (.createDevice d account name)) (.ok ())
  | .setConnState c st => t.connection = some c ∧ ∃ account, st = .authenticated account
  | .deviceOnlineInsert d c => ∃ name, t = .message c (.registerDevice name)
      ∧ knownDeviceId c h = some (some d) ∧ ∃ account, Did h (.connState c) (.authenticated account)
  | .otpInsert d _ => ∃ c name, t = .message c (.registerDevice name)
      ∧ knownDeviceId c h = some (some d)
  | .deviceOnlineRemove d =>
      (∃ c, t = .close c ∧ knownDeviceId c h = some (some d)) ∨ t.removes d
  | .otpRemove d => (∃ c r, t = .close c ∧ knownDeviceId c h = some (some d)
      ∧ Did h (.deviceOnlineRemove d) r) ∨ t.removes d
  | .sessionsInsert s peers => ∃ d credential,
      t = .message peers.a (.requestConnection d credential)
        ∧ Requested h peers.a peers.b d credential ∧ Did h .newV4 s
        ∧ ∀ k p r, ¬ Did h (.sessionsInsert k p) r
  | .send tx msg =>
    match msg with
    | .connectionEstablished s d => ∃ credential b,
        t = .message tx (.requestConnection d credential)
          ∧ Requested h tx b d credential ∧ Did h (.sessionsInsert s ⟨tx, b⟩) ()
          ∧ ∀ c s' d' r, ¬ Did h (.send c (.connectionEstablished s' d')) r
    | msg => ∀ s, msg.relayedUnder = some s → ∃ c m peers other,
        t = .message c m ∧ m.relayed = some (s, msg) ∧ Did h (.sessionsGet s) (some peers)
          ∧ peers.other c = some other ∧ Did h (.connectionsGet other) (some tx)
  | .db (.setUnattendedPasswordHash d hash) => ∃ c pw device,
      t = .message c (.setUnattendedPassword d pw)
        ∧ Did h (.connState c) (.authenticated device.accountId)
        ∧ Did h (.db (.findDevice d)) (.ok (some device)) ∧ Did h (.hashPassword pw) (.ok hash)
  | .db (.createDevice d account name) => ∃ c, t = .message c (.registerDevice name)
      ∧ Did h (.connState c) (.authenticated account) ∧ Did h .generateDeviceId d
      ∧ ∀ a n r, ¬ Did h (.db (.createDevice d a n)) r
  | .db (.deleteDevice d) => t.removes d
  | .db (.deleteAccount id) => ∃ headers, t = .http (.deleteAccount headers id)
      ∧ AsAdmin headers h ∧ GuardPassed id h
  | .db (.setAccountRole id role) => ∃ headers, t = .http (.setAccountRole headers id role)
      ∧ AsAdmin headers h ∧ (role ≠ .admin → GuardPassed id h)
  | .db (.createSession _ id) =>
      (∃ email account, Did h (.db (.findAccountByEmail email)) (.ok (some account))
        ∧ account.id = id)
      ∨ ∃ email hash role, Did h (.db (.createAccount email hash role)) (.ok id)
  | .db (.deleteSession token) => ∃ headers, t = .http (.logout headers)
      ∧ cookieValue headers SESSION_COOKIE = some token
  | _ => True

/-- What a finished task has done. -/
def Done (t : Task) (h : Calls) : Prop :=
  match t with
  | .close c => knownDeviceId c h = some none ∨ ∃ d r, knownDeviceId c h = some (some d)
      ∧ Did h (.deviceOnlineRemove d) r ∧ Did h (.otpRemove d) ()
  | _ => True

/-! ## §3. The WebSocket handlers. -/

section WebSocket

variable {c : ConnectionId}

theorem Checked.cons {h : Calls} {d : DeviceId} {device : Device} {credential : ConnectCredential}
    (hc : Checked h d device credential) {x : Call Op Op.Res} :
    Checked (x :: h) d device credential := by
  cases credential with
  | oneTimePassword otp => exact List.mem_cons_of_mem _ hc
  | unattendedPassword pw => exact hc

theorem Requested.cons {h : Calls} {a b : ConnectionId} {d : DeviceId}
    {credential : ConnectCredential} (hr : Requested h a b d credential) {x : Call Op Op.Res} :
    Requested (x :: h) a b d credential := by
  obtain ⟨account, ha⟩ := hr.authenticated
  obtain ⟨device, hf, hc⟩ := hr.checked
  exact ⟨⟨account, List.mem_cons_of_mem _ ha⟩, ⟨device, List.mem_cons_of_mem _ hf, hc.cons⟩,
    List.mem_cons_of_mem _ hr.online⟩

/-- A credential check leaves its evidence, and nothing but its one lookup. -/
theorem follows_checkCredential {Φ : Calls → Op → Prop} {Ψ : Calls → Except String Unit → Prop}
    {device : Device} {d : DeviceId} {credential : ConnectCredential} {f : Bool → Handler Unit}
    {h : Calls} (hget : Φ h (.otpGet d))
    (hno : ∀ h', Prog.Follows Φ Ψ (f false).run h')
    (hyes : ∀ l : Calls, (∀ x ∈ l, ∃ r, x = ⟨.otpGet d, r⟩) →
      Checked (l ++ h) d device credential → Prog.Follows Φ Ψ (f true).run (l ++ h)) :
    Prog.Follows Φ Ψ (checkCredential device d credential >>= f).run h := by
  cases credential with
  | oneTimePassword otp =>
    simp only [checkCredential, bind_assoc, Handler.perform_bind, Prog.follows_call]
    refine ⟨hget, fun current => ?_⟩
    cases current with
    | none => exact hno _
    | some current =>
      cases heq : current == otp with
      | false => simpa [heq] using hno _
      | true =>
        obtain rfl := eq_of_beq heq
        simpa using hyes [⟨.otpGet d, some current⟩] (by simp) (by simp [Checked])
  | unattendedPassword pw =>
    simp only [checkCredential]
    cases hh : device.unattendedPasswordHash with
    | none => exact hno _
    | some hash =>
      cases hv : verifyPassword pw hash with
      | false => simpa [hv] using hno _
      | true => simpa [hv] using hyes [] (by simp) ⟨hash, hh, hv⟩

theorem follows_requestConnection (d : DeviceId) (credential : ConnectCredential) :
    Prog.Follows (May (.message c (.requestConnection d credential))) (fun _ _ => True)
      (handleMessage c (.requestConnection d credential)).run [] := by
  simp only [handleMessage, requireAuth_bind, Prog.follows_call]
  refine ⟨rfl, fun st => ?_⟩
  cases st with
  | unauthenticated => trivial
  | authenticated account =>
    simp only [Handler.query_bind, Handler.okOr_bind, Prog.follows_call]
    refine ⟨trivial, fun found => ?_⟩
    cases found with
    | error e => trivial
    | ok found =>
      cases found with
      | none => trivial
      | some device =>
        refine follows_checkCredential trivial ?_ ?_
        · intro h'
          simp [May, ServerMessage.relayedUnder]
        · intro l hl hchecked
          have hnone : ∀ k p r, ¬ Did l (.sessionsInsert k p) r := by
            intro k p r hm
            obtain ⟨r', hr⟩ := hl _ hm
            injection hr with hr
            exact absurd hr (by simp)
          have hno : ∀ c' s d' r, ¬ Did l (.send c' (.connectionEstablished s d')) r := by
            intro c' s d' r hm
            obtain ⟨r', hr⟩ := hl _ hm
            injection hr with hr
            exact absurd hr (by simp)
          have hreq : ∀ b : ConnectionId, Requested (⟨.deviceOnlineGet d, some b⟩ ::
              (l ++ [⟨.db (.findDevice d), .ok (some device)⟩,
                ⟨.connState c, .authenticated account⟩])) c b d credential :=
            fun b => ⟨⟨account, by simp⟩, ⟨device, by simp, hchecked.cons⟩, by simp⟩
          simp only [Handler.perform_bind, Handler.okOr_bind, Prog.follows_call, Bool.not_true,
            Bool.false_eq_true, if_false]
          refine ⟨trivial, fun host => ?_⟩
          cases host with
          | none => trivial
          | some b =>
            simp only [Prog.follows_call]
            refine ⟨trivial, fun s => ⟨⟨d, credential, rfl, (hreq b).cons, by simp,
              by simpa using hnone⟩, fun _ =>
              ⟨trivial, fun tx => ?_⟩⟩⟩
            cases tx with
            | none =>
              exact ⟨⟨credential, b, rfl, (hreq b).cons.cons.cons, by simp, by simpa using hno⟩,
                fun _ => trivial⟩
            | some tx =>
              simp only [Handler.send_bind, Prog.follows_call]
              refine ⟨by simp [May, ServerMessage.relayedUnder], fun sent => ?_⟩
              cases sent with
              | error e => trivial
              | ok _ =>
                exact ⟨⟨credential, b, rfl, (hreq b).cons.cons.cons.cons, by simp,
                  by simpa using hno⟩, fun _ => trivial⟩

theorem follows_relay {m : ClientMessage} {s : SessionId} {msg : ServerMessage}
    (hm : m.relayed = some (s, msg)) :
    Prog.Follows (May (.message c m)) (fun _ _ => True) (relay c s msg).run [] := by
  simp only [relay, Handler.perform_bind, Handler.okOr_bind, Prog.follows_call]
  refine ⟨trivial, fun found => ?_⟩
  cases found with
  | none => trivial
  | some peers =>
    dsimp only
    cases ho : peers.other c with
    | none => trivial
    | some other =>
      refine ⟨trivial, fun tx => ?_⟩
      cases tx with
      | none => trivial
      | some tx =>
        refine ⟨?_, fun _ => trivial⟩
        cases m with
        | sdpOffer | sdpAnswer | iceCandidate =>
          simp only [ClientMessage.relayed, Option.some.injEq, Prod.mk.injEq] at hm
          obtain ⟨rfl, rfl⟩ := hm
          rintro s' ⟨⟩
          exact ⟨c, _, peers, other, rfl, rfl, by simp, ho, by simp⟩
        | _ => exact absurd hm (by simp [ClientMessage.relayed])

theorem follows_registerDevice (name : String) :
    Prog.Follows (May (.message c (.registerDevice name))) (fun _ _ => True)
      (handleMessage c (.registerDevice name)).run [] := by
  simp only [handleMessage, requireAuth_bind, bind_assoc, Prog.follows_call]
  refine ⟨rfl, fun st => ?_⟩
  cases st with
  | unauthenticated => trivial
  | authenticated account =>
    simp only [Handler.perform_bind, Prog.follows_call]
    refine ⟨rfl, fun mine => ?_⟩
    cases mine with
    | some d =>
      simp only [pure_bind, Handler.perform_bind, Handler.send_run]
      simp [May, knownDeviceId, ServerMessage.relayedUnder]
    | none =>
      simp only [bind_assoc, pure_bind, Handler.perform_bind, Handler.query_bind, Handler.send_run]
      simp [May, knownDeviceId, Prog.forall_except, ServerMessage.relayedUnder]

/-- The summaries only ask who is online. -/
theorem follows_deviceSummaries {t : Task} {Ψ : Calls → List DeviceSummary → Prop}
    (hΨ : ∀ h' r, Ψ h' r) (devices : List Device) (h : Calls) :
    Prog.Follows (May t) Ψ (deviceSummaries devices) h :=
  (Prog.follows_mapM (fun _ => True) (by simp [perform, Prog.perform, May]) trivial).mono
    (fun _ _ h => h) fun h' r _ => hΨ h' r

theorem follows_setUnattendedPassword (d : DeviceId) (pw : String) :
    Prog.Follows (May (.message c (.setUnattendedPassword d pw))) (fun _ _ => True)
      (handleMessage c (.setUnattendedPassword d pw)).run [] := by
  simp only [handleMessage, requireAuth_bind, Prog.follows_call]
  refine ⟨rfl, fun st => ?_⟩
  cases st with
  | unauthenticated => trivial
  | authenticated account =>
    simp only [Handler.query_bind, Handler.okOr_bind, Prog.follows_call]
    refine ⟨trivial, fun found => ?_⟩
    cases found with
    | error e => trivial
    | ok found =>
      cases found with
      | none => trivial
      | some device =>
        by_cases howner : device.accountId = account
        · subst howner
          simp only [ne_eq, not_true_eq_false, if_false, Handler.mk_bind, perform,
            Prog.perform_bind, Handler.query_bind, Handler.perform_bind]
          refine ⟨by simp [May], fun hashed => ?_⟩
          rcases hashed with e | hash
          · trivial
          · refine ⟨by simp [May], fun r => ?_⟩
            rcases r with e | _
            · trivial
            · refine ⟨by simp [May], fun host => ?_⟩
              cases host with
              | none => trivial
              | some b =>
                simp only [Handler.perform_bind]
                simp [May, Option.forall, ServerMessage.relayedUnder]
        · simp [howner]

/-- A created account is one the task has created itself. -/
theorem follows_createAccountAndMaybeBootstrapAdmin {t : Task}
    {Ψ : Calls → Except String (Int × AccountRole) → Prop} (email hash : String) (h : Calls)
    (hok : ∀ h' id role, (∃ role', Did h' (.db (.createAccount email hash role')) (.ok id)) →
      Ψ h' (.ok (id, role)))
    (herr : ∀ h' e, Ψ h' (.error e)) :
    Prog.Follows (May t) Ψ (createAccountAndMaybeBootstrapAdmin email hash).run h := by
  rw [createAccountAndMaybeBootstrapAdmin_run]
  refine ⟨trivial, fun n => ?_⟩
  cases n with
  | error e => exact herr _ _
  | ok n =>
    refine ⟨trivial, fun r => ?_⟩
    cases r with
    | error e => exact herr _ _
    | ok id =>
      cases hn : n == 0 with
      | true =>
        refine ⟨trivial, fun r => ?_⟩
        cases r with
        | error e => exact herr _ _
        | ok _ => exact hok _ _ _ ⟨.admin, by simp⟩
      | false => exact hok _ _ _ ⟨.user, by simp⟩

theorem follows_register (email password : String) :
    Prog.Follows (May (.message c (.register email password))) (fun _ _ => True)
      (handleMessage c (.register email password)).run [] := by
  simp only [handleMessage, Handler.lift_bind, registrationEnabled_bind, Prog.follows_call]
  refine ⟨trivial, fun r => ?_⟩
  cases (r.map fun v => v.elim true (· == "true")).toOption.getD true with
  | false => simp [May, ServerMessage.relayedUnder]
  | true =>
    simp only [Handler.mk_bind, Handler.lift_bind, perform, Prog.perform_bind, Prog.follows_call,
      Bool.not_true, Bool.false_eq_true, if_false]
    refine ⟨trivial, fun hashed => ?_⟩
    cases hashed with
    | error e => trivial
    | ok hash =>
      simp only [Prog.follows_bind]
      refine follows_createAccountAndMaybeBootstrapAdmin email hash _ ?_ ?_
      · intro h id role _
        simp only [Handler.perform_bind, Handler.send_run]
        simp [May, Task.connection, ServerMessage.relayedUnder]
      · intro h e
        simp [May, ServerMessage.relayedUnder]

theorem follows_login (email password : String) :
    Prog.Follows (May (.message c (.login email password))) (fun _ _ => True)
      (handleMessage c (.login email password)).run [] := by
  simp only [handleMessage, Handler.query_bind]
  refine ⟨trivial, fun found => ?_⟩
  rcases found with e | (_ | account)
  · trivial
  · simp [May, ServerMessage.relayedUnder]
  · dsimp only
    split
    · simp only [Handler.perform_bind, Handler.send_run]
      simp [May, Task.connection, ServerMessage.relayedUnder]
    · simp [May, ServerMessage.relayedUnder]

theorem follows_handleMessage (m : ClientMessage) :
    Prog.Follows (May (.message c m)) (fun _ _ => True) (handleMessage c m).run [] := by
  cases m with
  | register email password => exact follows_register email password
  | login email password => exact follows_login email password
  | registerDevice name => exact follows_registerDevice name
  | listDevices =>
    simp only [handleMessage, requireAuth_bind, Prog.follows_call]
    refine ⟨rfl, fun st => ?_⟩
    cases st with
    | unauthenticated => trivial
    | authenticated account =>
      simp only [Handler.query_bind, Handler.lift_bind, Prog.follows_call]
      refine ⟨trivial, fun devices => ?_⟩
      cases devices with
      | error e => trivial
      | ok devices =>
        simp only [Prog.follows_bind]
        exact follows_deviceSummaries (by simp [May, ServerMessage.relayedUnder]) devices _
  | requestConnection d credential => exact follows_requestConnection d credential
  | sdpOffer s sdp => exact follows_relay rfl
  | sdpAnswer s sdp => exact follows_relay rfl
  | iceCandidate s candidate => exact follows_relay rfl
  | requestTurnCredentials =>
    simp only [handleMessage, Handler.perform_bind, Handler.send_run]
    simp [May, ServerMessage.relayedUnder]
  | setUnattendedPassword d pw => exact follows_setUnattendedPassword d pw

/-- The last thing a turn of the loop does is report an error, if any. -/
theorem follows_onMessage (m : ClientMessage) :
    Prog.Follows (May (.message c m)) (fun _ _ => True) (onMessage c m) [] := by
  simp only [onMessage, Prog.follows_bind]
  refine (follows_handleMessage m).mono (fun _ _ h => h) fun h r _ => ?_
  cases r with
  | ok _ => trivial
  | error e => simp [perform, Prog.perform, May, ServerMessage.relayedUnder]

theorem follows_closeSocket :
    Prog.Follows (May (.close c)) (fun h _ => Done (.close c) h) (closeSocket c) [] := by
  simp [closeSocket, perform, Prog.perform, May, Done, Option.forall, Task.connection, knownDeviceId]

end WebSocket

/-! ## §4. The HTTP handlers. -/

section Http

variable {t : Task}

/-- Behind `require_admin`, the session has resolved to an admin. -/
theorem follows_withAdmin {headers : HeaderMap} {handler : Act Response}
    (hp : ∀ h, AsAdmin headers h → Prog.Follows (May t) (fun _ _ => True) handler h) :
    Prog.Follows (May t) (fun _ _ => True) (Api.withAdmin headers handler) [] := by
  rw [Api.withAdmin_eq]
  cases hc : cookieValue headers SESSION_COOKIE with
  | none => trivial
  | some token =>
    refine ⟨trivial, fun r => ?_⟩
    rcases r with e | (_ | account)
    · trivial
    · trivial
    · by_cases hrole : account.role = .admin
      · simp only [hrole, if_true]
        exact hp _ ⟨token, account, hc, by simp, hrole⟩
      · simp only [hrole, if_false]
        trivial

theorem follows_startSession {id : Int} {email : String} {role : AccountRole} {h : Calls}
    (hid : (∃ email account, Did h (.db (.findAccountByEmail email)) (.ok (some account))
        ∧ account.id = id)
      ∨ ∃ email hash role, Did h (.db (.createAccount email hash role)) (.ok id)) :
    Prog.Follows (May t) (fun _ _ => True) (Api.startSession id email role) h := by
  simp only [Api.startSession, perform, query, Prog.perform_bind, Prog.follows_call]
  refine ⟨trivial, fun token => ⟨?_, fun r => ?_⟩⟩
  · rcases hid with ⟨email, account, hm, hid⟩ | ⟨email, hash, role, hm⟩
    · exact .inl ⟨email, account, List.mem_cons_of_mem _ hm, hid⟩
    · exact .inr ⟨email, hash, role, List.mem_cons_of_mem _ hm⟩
  · rcases r with e | _ <;> trivial

theorem follows_kickDevice {d : DeviceId} (ht : t.removes d) (message : String) (h : Calls) :
    Prog.Follows (May t) (fun _ _ => True) (Api.kickDevice d message) h := by
  simp only [Api.kickDevice, perform, Prog.perform_bind, Prog.follows_call]
  refine ⟨.inr ht, fun live => ⟨.inr ht, fun _ => ?_⟩⟩
  cases live with
  | none => trivial
  | some c =>
    refine ⟨trivial, fun tx => ?_⟩
    cases tx with
    | none => trivial
    | some tx => exact ⟨by simp [May, ServerMessage.relayedUnder], fun _ => trivial⟩

/-- Past `guard_last_admin`, the account was no admin or one of several. -/
theorem follows_guardLastAdmin {id : Int} {h : Calls} {f : Except Response Unit → Act Response}
    (hok : ∀ l, GuardPassed id (l ++ h) →
      Prog.Follows (May t) (fun _ _ => True) (f (.ok ())) (l ++ h))
    (herr : ∀ h' resp, Prog.Follows (May t) (fun _ _ => True) (f (.error resp)) h') :
    Prog.Follows (May t) (fun _ _ => True) (Api.guardLastAdmin id >>= f) h := by
  rw [Api.guardLastAdmin_bind]
  refine ⟨trivial, fun found => ?_⟩
  rcases found with e | (_ | account)
  · exact hok [⟨.db (.findAccountById id), .error e⟩] ⟨.error e, by simp, by simp⟩
  · exact hok [⟨.db (.findAccountById id), .ok none⟩] ⟨.ok none, by simp, by simp⟩
  · by_cases hrole : account.role = .admin
    · simp only [hrole, ne_eq, not_true_eq_false, if_false]
      refine ⟨trivial, fun n => ?_⟩
      rcases n with e | n
      · exact herr _ _
      · by_cases hn : n ≤ 1
        · simp only [hn, if_true]
          exact herr _ _
        · simp only [hn, if_false]
          exact hok [⟨.db .countAdmins, .ok n⟩, ⟨.db (.findAccountById id), .ok (some account)⟩]
            ⟨.ok (some account), by simp, fun _ _ _ => ⟨n, by simp, Int.not_le.mp hn⟩⟩
    · simp only [hrole, ne_eq, not_false_eq_true, if_true]
      refine hok [⟨.db (.findAccountById id), .ok (some account)⟩]
        ⟨.ok (some account), by simp, ?_⟩
      rintro _ ⟨⟩ hadmin
      exact absurd hadmin hrole

theorem May.of_tame {o : Op} (ho : o.tame = true) (h : Calls) : May t h o := by
  cases o with
  | db q =>
    cases q with
    | createSession | deleteSession | createDevice | setUnattendedPasswordHash | deleteDevice
    | deleteAccount | setAccountRole => exact absurd ho Bool.false_ne_true
    | _ => trivial
  | connectionsInsert | connectionsRemove | deviceOnlineInsert | deviceOnlineRemove | otpInsert
  | otpRemove | sessionsInsert | send | abortSendTask | connState | setConnState | myDeviceId
  | setMyDeviceId => exact absurd ho Bool.false_ne_true
  | _ => trivial

theorem follows_httpRegister (email password : String) :
    Prog.Follows (May t) (fun _ _ => True) (Api.register email password) [] := by
  simp only [Api.register]
  split
  · trivial
  · rw [registrationEnabled_bind]
    refine ⟨trivial, fun r => ?_⟩
    dsimp only
    generalize r.map (fun v => v.elim true (· == "true")) = enabled
    rcases enabled with e | (_ | _)
    · trivial
    · trivial
    · refine ⟨trivial, fun hashed => ?_⟩
      rcases hashed with e | hash
      · trivial
      · show Prog.Follows _ _ ((createAccountAndMaybeBootstrapAdmin _ hash).run >>= _) _
        rw [Prog.follows_bind]
        refine follows_createAccountAndMaybeBootstrapAdmin _ hash _ ?_ ?_
        · rintro h id role ⟨role', hm⟩
          exact follows_startSession (.inr ⟨_, hash, role', hm⟩)
        · intro h e
          dsimp only
          split <;> trivial

theorem follows_httpLogin (email password : String) :
    Prog.Follows (May t) (fun _ _ => True) (Api.login email password) [] := by
  simp only [Api.login, query, perform, Prog.perform_bind, Prog.follows_call]
  refine ⟨trivial, fun found => ?_⟩
  rcases found with e | (_ | account)
  · trivial
  · trivial
  · dsimp only
    split
    · exact follows_startSession (.inl ⟨Text.trimString email, account, by simp, rfl⟩)
    · trivial

theorem follows_deleteOwn (headers : HeaderMap) (d : DeviceId) :
    Prog.Follows (May (.http (.deleteOwn headers d))) (fun _ _ => True)
      (Api.deleteOwn headers d) [] := by
  have ht : (Task.http (.deleteOwn headers d)).removes d := .inl ⟨headers, rfl⟩
  simp only [Api.deleteOwn]
  rw [requireAccount_bind]
  cases cookieValue headers SESSION_COOKIE with
  | none => trivial
  | some token =>
    refine ⟨trivial, fun r => ?_⟩
    rcases r with e | (_ | account)
    · trivial
    · trivial
    · refine ⟨trivial, fun found => ?_⟩
      rcases found with e | (_ | device)
      · trivial
      · trivial
      · show Prog.Follows _ _ (ite (device.accountId = account.id) _ _) _
        split
        · refine ⟨ht, fun _ => ?_⟩
          show Prog.Follows _ _ (Api.kickDevice d _ >>= _) _
          rw [Prog.follows_bind]
          exact (follows_kickDevice ht _ _).mono (fun _ _ h => h) fun _ _ _ => trivial
        · trivial

theorem follows_deleteDevice (headers : HeaderMap) (id : Int) (d : DeviceId) :
    Prog.Follows (May (.http (.deleteDevice headers id d))) (fun _ _ => True)
      (Api.deleteDevice headers id d) [] := by
  have ht : (Task.http (.deleteDevice headers id d)).removes d := .inr ⟨headers, id, rfl⟩
  refine follows_withAdmin fun h _ => ⟨trivial, fun found => ?_⟩
  rcases found with e | (_ | device)
  · trivial
  · trivial
  · show Prog.Follows _ _ (ite (device.accountId = id) _ _) _
    split
    · refine ⟨ht, fun _ => ?_⟩
      show Prog.Follows _ _ (Api.kickDevice d _ >>= _) _
      rw [Prog.follows_bind]
      exact (follows_kickDevice ht _ _).mono (fun _ _ h => h) fun _ _ _ => trivial
    · trivial

theorem follows_httpCreateAccount (headers : HeaderMap) (email password : String)
    (role : Option AccountRole) :
    Prog.Follows (May t) (fun _ _ => True) (Api.createAccount headers email password role) [] := by
  refine follows_withAdmin fun h _ => ?_
  dsimp only
  split
  · trivial
  · refine ⟨trivial, fun hashed => ?_⟩
    rcases hashed with e | hash
    · trivial
    · refine ⟨trivial, fun r => ?_⟩
      rcases r with e | id
      · show Prog.Follows _ _ (ite _ _ _) _
        split <;> trivial
      · trivial

theorem follows_deleteAccount (headers : HeaderMap) (id : Int) :
    Prog.Follows (May (.http (.deleteAccount headers id))) (fun _ _ => True)
      (Api.deleteAccount headers id) [] := by
  refine follows_withAdmin fun h hadmin => follows_guardLastAdmin ?_ fun _ _ => trivial
  exact fun l hguard => ⟨⟨headers, rfl, hadmin.append l, hguard⟩, fun _ => trivial⟩

theorem follows_setAccountRole (headers : HeaderMap) (id : Int) (role : AccountRole) :
    Prog.Follows (May (.http (.setAccountRole headers id role))) (fun _ _ => True)
      (Api.setAccountRole headers id role) [] := by
  refine follows_withAdmin fun h hadmin => ?_
  cases role with
  | admin => exact ⟨⟨headers, rfl, hadmin, fun hne => absurd rfl hne⟩, fun _ => trivial⟩
  | user =>
    refine follows_guardLastAdmin ?_ fun _ _ => trivial
    exact fun l hguard => ⟨⟨headers, rfl, hadmin.append l, fun _ => hguard⟩, fun _ => trivial⟩

theorem follows_route (req : Request) :
    Prog.Follows (May (.http req)) (fun _ _ => True) (Api.route req) [] := by
  by_cases hreq : req.looks = true ∨ req.configures = true
  · exact (tame_route hreq).mono (fun h o ho => May.of_tame ho h) fun _ _ h => h
  · cases req with
    | register email password => exact follows_httpRegister email password
    | login email password => exact follows_httpLogin email password
    | logout headers =>
      simp only [Api.route, Api.logout]
      cases hc : cookieValue headers SESSION_COOKIE with
      | none => trivial
      | some token => exact ⟨⟨headers, rfl, hc⟩, fun _ => trivial⟩
    | deleteOwn headers d => exact follows_deleteOwn headers d
    | createAccount headers email password role =>
      exact follows_httpCreateAccount headers email password role
    | deleteAccount headers id => exact follows_deleteAccount headers id
    | setAccountRole headers id role => exact follows_setAccountRole headers id role
    | deleteDevice headers id d => exact follows_deleteDevice headers id d
    | setRegistration headers enabled =>
      refine follows_withAdmin fun h _ => ⟨trivial, fun r => ?_⟩
      rcases r with e | _ <;> trivial
    | _ => exact absurd hreq (by simp [Request.looks, Request.configures])

end Http

/-- **Every task keeps to the table**, whatever the other tasks do. -/
theorem Task.follows (t : Task) :
    Prog.Follows (May t) (fun h _ => Done t h) (server.body t) [] := by
  cases t with
  | connect c => exact ⟨⟨rfl, rfl⟩, fun _ => trivial⟩
  | message c m =>
    show Prog.Follows _ _ (onMessage c m >>= _) _
    rw [Prog.follows_bind]
    exact (follows_onMessage m).mono (fun _ _ h => h) fun _ _ _ => trivial
  | malformed c e =>
    exact ⟨by simp [May, ServerMessage.relayedUnder], fun _ => trivial⟩
  | close c =>
    show Prog.Follows _ _ (closeSocket c >>= _) _
    rw [Prog.follows_bind]
    exact follows_closeSocket.mono (fun _ _ h => h) fun _ _ h => h
  | http req =>
    show Prog.Follows _ _ (some <$> Api.route req) _
    rw [← bind_pure_comp, Prog.follows_bind]
    exact (follows_route req).mono (fun _ _ h => h) fun _ _ _ => trivial

end Visuara.Signaling
