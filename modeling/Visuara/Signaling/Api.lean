/-
  Visuara.Signaling.Api
  ─────────────────────
  **THE JSON API** (`visuara-signaling/src/api/`).

  One program for each route, from the extracted path, headers and body to the
  response.  A request whose body or path does not parse never reaches these
  handlers.
-/
import Visuara.Signaling.ReleaseFetch
import Visuara.Signaling.Ws
import Mathlib.Algebra.Group.Int.Defs

namespace Visuara.Signaling

open Interleave

/-! ## §1. Requests and responses. -/

structure DownloadOption where
  platform : String
  available : Bool
  recommended : Bool
  customBuild : Bool
  version : Option String
  fetchedAt : Option Int
  deriving DecidableEq, Repr

/-- The bodies the handlers answer with. -/
inductive Body where
  | empty
  | error (message : String)
  | text (message : String)
  | account (id : Int) (email : String) (role : AccountRole)
  | registration (enabled : Bool)
  | devices (devices : List DeviceSummary)
  | settings (serverUrl defaultDeviceName : String)
  | clientBuilds (statuses : List (String × String))
  | fetchResults (results : List (String × Option String × Option String))
  | accounts (accounts : List AccountSummary)
  | accountDetail (id : Int) (email : String) (role : AccountRole) (devices : List DeviceSummary)
  | downloads (serverUrl : Option String) (options : List DownloadOption)
  | binary (contentType contentDisposition : String) (bytes : Bytes)
  deriving DecidableEq, Repr

structure Response where
  status : Status
  body : Body
  setCookie : Option String
  deriving DecidableEq, Repr

def statusResponse (status : Status) : Response := ⟨status, .empty, none⟩

def jsonResponse (body : Body) : Response := ⟨200, body, none⟩

def errorResponse (status : Status) (message : String) : Response :=
  ⟨status, .error message, none⟩

/-- The requests the router knows. -/
inductive Request where
  | register (email password : String)
  | login (email password : String)
  | logout (headers : HeaderMap)
  | me (headers : HeaderMap)
  | registrationStatus
  | listDevices (headers : HeaderMap)
  | deleteOwn (headers : HeaderMap) (deviceId : String)
  | getSettings (headers : HeaderMap)
  | saveSettings (headers : HeaderMap) (serverUrl defaultDeviceName : String)
  | clientBuilds (headers : HeaderMap)
  | fetchRelease (headers : HeaderMap)
  | listAccounts (headers : HeaderMap)
  | createAccount (headers : HeaderMap) (email password : String) (role : Option AccountRole)
  | accountDetail (headers : HeaderMap) (accountId : Int)
  | deleteAccount (headers : HeaderMap) (accountId : Int)
  | setAccountRole (headers : HeaderMap) (accountId : Int) (role : AccountRole)
  | deleteDevice (headers : HeaderMap) (accountId : Int) (deviceId : String)
  | getRegistration (headers : HeaderMap)
  | setRegistration (headers : HeaderMap) (enabled : Bool)
  | listDownloads (headers : HeaderMap)
  | downloadPlatform (platform : String)
  deriving DecidableEq, Repr

namespace Api

variable [Crates]

/-! ## §2. `api/auth.rs`. -/

def startSession (accountId : Int) (email : String) (role : AccountRole) : Act Response := do
  let token ← perform .generateSessionToken
  match ← query (.createSession token accountId) with
  | .error e => pure (errorResponse 500 ("failed to create session: " ++ e))
  | .ok () => pure ⟨200, .account accountId email role, some (setSessionCookie token)⟩

def register (email password : String) : Act Response := do
  let email := Text.trimString email
  if email.isEmpty || password.isEmpty then
    pure (errorResponse 400 "email and password are required")
  else
    match ← registrationEnabled with
    | .ok false => pure (errorResponse 403 "registration is currently disabled")
    | .error e => pure (errorResponse 500 e)
    | .ok true =>
      match ← perform (.hashPassword password) with
      | .error e => pure (errorResponse 500 ("failed to hash password: " ++ e))
      | .ok hash =>
        match ← (createAccountAndMaybeBootstrapAdmin email hash).run with
        | .ok (accountId, role) => startSession accountId email role
        | .error e =>
          if Text.containsString e "UNIQUE" then
            pure (errorResponse 409 "That email is already registered — try logging in instead.")
          else pure (errorResponse 409 ("registration failed: " ++ e))

def login (email password : String) : Act Response := do
  match ← query (.findAccountByEmail (Text.trimString email)) with
  | .ok (some account) =>
    if verifyPassword password account.passwordHash then
      startSession account.id account.email account.role
    else pure (errorResponse 401 "incorrect email or password")
  | .ok none => pure (errorResponse 401 "incorrect email or password")
  | .error e => pure (errorResponse 500 e)

def logout (headers : HeaderMap) : Act Response := do
  match cookieValue headers SESSION_COOKIE with
  | some token => do
    let _ ← query (.deleteSession token)
    pure ⟨204, .empty, some clearSessionCookie⟩
  | none => pure ⟨204, .empty, some clearSessionCookie⟩

def me (headers : HeaderMap) : Act Response := do
  match ← currentAccount headers with
  | some account => pure (jsonResponse (.account account.id account.email account.role))
  | none => pure (statusResponse 401)

def registrationStatus : Act Response := do
  let enabled ← registrationEnabled
  pure (jsonResponse (.registration (enabled.toOption.getD true)))

/-! ## §3. `api/devices.rs`. -/

def listDevices (headers : HeaderMap) : Act Response := do
  match ← requireAccount headers with
  | .error status => pure (statusResponse status)
  | .ok account =>
    let devices ← query (.listDevicesForAccount account.id)
    let summaries ← deviceSummaries (devices.toOption.getD [])
    pure (jsonResponse (.devices summaries))

/-- Take a device's live connection out, and tell it why. -/
def kickDevice (deviceId : DeviceId) (message : String) : Act Unit := do
  let liveConn ← perform (.deviceOnlineRemove deviceId)
  perform (.otpRemove deviceId)
  match liveConn with
  | none => pure ()
  | some connId =>
    match ← perform (.connectionsGet connId) with
    | none => pure ()
    | some tx => do
      let _ ← perform (.send tx (.error message))
      pure ()

def deleteOwn (headers : HeaderMap) (deviceId : DeviceId) : Act Response := do
  match ← requireAccount headers with
  | .error status => pure (statusResponse status)
  | .ok account =>
    match ← query (.findDevice deviceId) with
    | .ok (some device) =>
      if device.accountId = account.id then do
        let _ ← query (.deleteDevice deviceId)
        kickDevice deviceId "This device was removed."
        pure (statusResponse 204)
      else pure (errorResponse 403 "not your device")
    | .ok none => pure (errorResponse 404 "device not found")
    | .error e => pure (errorResponse 500 e)

/-! ## §4. `api/admin.rs`. -/

/-- The handlers below start with `require_admin`, and end there if it fails. -/
def withAdmin (headers : HeaderMap) (handler : Act Response) : Act Response := do
  match ← requireAdmin headers with
  | .error status => pure (statusResponse status)
  | .ok _ => handler

omit [Crates] in
theorem withAdmin_eq (headers : HeaderMap) (handler : Act Response) :
    withAdmin headers handler =
      match cookieValue headers SESSION_COOKIE with
      | none => .ret (statusResponse 401)
      | some token => .call (.db (.findSession token)) fun r =>
        match r with
        | .ok (some account) =>
          if account.role = .admin then handler else .ret (statusResponse 403)
        | _ => .ret (statusResponse 401) := by
  rw [withAdmin, requireAdmin_bind]
  rfl

/-- `get_setting(key).await.ok().flatten()` -/
def settingOrNone (key : String) : Act (Option String) := do
  let value ← query (.getSetting key)
  pure (value.toOption.bind id)

def getSettings (headers : HeaderMap) : Act Response := withAdmin headers do
  let serverUrl ← settingOrNone "server_url"
  let defaultDeviceName ← settingOrNone "default_device_name"
  pure (jsonResponse (.settings (serverUrl.getD "") (defaultDeviceName.getD "")))

def saveSettings (headers : HeaderMap) (serverUrl defaultDeviceName : String) : Act Response :=
  withAdmin headers do
    let serverUrl := Text.trimString serverUrl
    let defaultDeviceName := Text.trimString defaultDeviceName
    let _ ← query (.setSetting "server_url" serverUrl)
    let _ ← query (.setSetting "default_device_name" defaultDeviceName)
    pure (jsonResponse (.settings serverUrl defaultDeviceName))

/-- `s.parse::<i64>().ok()` -/
def parseI64 (s : String) : Option Int :=
  let digits (l : List Char) : Option Nat :=
    if l ≠ [] ∧ l.all Char.isDigit then
      some (l.foldl (fun n c => 10 * n + (c.toNat - '0'.toNat)) 0)
    else none
  let value := match s.toList with
    | '-' :: l => (digits l).map fun n => -(n : Int)
    | '+' :: l => (digits l).map fun n => (n : Int)
    | l => (digits l).map fun n => (n : Int)
  value.filter fun n => -(2 ^ 63) ≤ n && n < 2 ^ 63

/-- "3h ago", "5d ago", "just now". -/
def relativeTime (now : Nat) (unixSecs : Int) : String :=
  let delta := max (now - unixSecs) 0
  if delta < 60 then "just now"
  else if delta < 3600 then s!"{delta / 60}m ago"
  else if delta < 86400 then s!"{delta / 3600}h ago"
  else s!"{delta / 86400}d ago"

def clientBuildStatus (config : Config) (platform : PlatformInfo) : Act (String × String) := do
  match ← resolveTemplatePath platform config.clientTemplatesDir config.fetchedTemplatesDir with
  | some (_, .manual) => pure (platform.key, "manual override")
  | some (_, .fetched) =>
    let version := (← settingOrNone (clientVersionKey platform)).getD "unknown"
    match (← settingOrNone (clientFetchedAtKey platform)).bind parseI64 with
    | some ts => do
      let now ← perform .nowSecs
      pure (platform.key, s!"fetched: {version} ({relativeTime now ts})")
    | none => pure (platform.key, "fetched: " ++ version)
  | none => pure (platform.key, "not available")

def clientBuilds (headers : HeaderMap) : Act Response := withAdmin headers do
  let config ← perform .config
  let statuses ← PLATFORMS.mapM (clientBuildStatus config)
  pure (jsonResponse (.clientBuilds statuses))

def fetchRelease (headers : HeaderMap) : Act Response := withAdmin headers do
  let config ← perform .config
  match ← (fetchAndStore config.fetchedTemplatesDir RELEASE_REPO).run with
  | .ok results => pure (jsonResponse (.fetchResults (results.map fun r =>
      match r.outcome with
      | .ok version => (r.platformKey, some version, none)
      | .error e => (r.platformKey, none, some e))))
  | .error e => pure (errorResponse 502 ("failed to check GitHub releases: " ++ e))

def listAccounts (headers : HeaderMap) : Act Response := withAdmin headers do
  let accounts ← query .listAllAccounts
  pure (jsonResponse (.accounts (accounts.toOption.getD [])))

def accountDetail (headers : HeaderMap) (accountId : Int) : Act Response := withAdmin headers do
  match ← query (.findAccountById accountId) with
  | .ok none => pure (errorResponse 404 "account not found")
  | .error e => pure (errorResponse 500 e)
  | .ok (some account) =>
    let devices ← query (.listDevicesForAccount accountId)
    let views ← deviceSummaries (devices.toOption.getD [])
    pure (jsonResponse (.accountDetail account.id account.email account.role views))

/-- Not subject to the registration flag. -/
def createAccount (headers : HeaderMap) (email password : String) (role : Option AccountRole) :
    Act Response := withAdmin headers do
  let email := Text.trimString email
  if email.isEmpty || password.isEmpty then
    pure (errorResponse 400 "email and password are required")
  else
    match ← perform (.hashPassword password) with
    | .error e => pure (errorResponse 500 ("failed to hash password: " ++ e))
    | .ok hash =>
      let role := role.getD .user
      match ← query (.createAccount email hash role) with
      | .ok id => pure ⟨201, .account id email role, none⟩
      | .error e =>
        if Text.containsString e "UNIQUE" then
          pure (errorResponse 409 "That email is already registered.")
        else pure (errorResponse 409 ("failed to create account: " ++ e))

/-- Refuses to demote or delete an account when that would leave no admin. -/
def guardLastAdmin (accountId : Int) : Act (Except Response Unit) := do
  match ← query (.findAccountById accountId) with
  | .ok (some account) =>
    if account.role ≠ .admin then pure (.ok ())
    else
      match ← query .countAdmins with
      | .ok n =>
        if n ≤ 1 then
          pure (.error (errorResponse 409 "cannot remove the last remaining admin account"))
        else pure (.ok ())
      | .error e => pure (.error (errorResponse 500 e))
  | _ => pure (.ok ())

omit [Crates] in
theorem guardLastAdmin_bind {α : Type} (accountId : Int) (f : Except Response Unit → Act α) :
    guardLastAdmin accountId >>= f = .call (.db (.findAccountById accountId)) fun found =>
      match found with
      | .ok (some account) =>
        if account.role ≠ .admin then f (.ok ())
        else .call (.db .countAdmins) fun n =>
          match n with
          | .ok n =>
            if n ≤ 1 then
              f (.error (errorResponse 409 "cannot remove the last remaining admin account"))
            else f (.ok ())
          | .error e => f (.error (errorResponse 500 e))
      | _ => f (.ok ()) := by
  show Prog.call _ _ = Prog.call _ _
  congr 1
  funext found
  rcases found with e | (_ | account)
  · rfl
  · rfl
  · show (ite (account.role ≠ .admin) _ _ : Act _) >>= f = ite (account.role ≠ .admin) _ _
    split
    · rfl
    · show Prog.call _ _ = Prog.call _ _
      congr 1
      funext n
      rcases n with e | n
      · rfl
      · show (ite (n ≤ 1) _ _ : Act _) >>= f = ite (n ≤ 1) _ _
        split <;> rfl

/-- The response to a write whose result carries no data. -/
def noContentOr500 : Except String Unit → Response
  | .ok () => statusResponse 204
  | .error e => errorResponse 500 e

def setAccountRole (headers : HeaderMap) (accountId : Int) (role : AccountRole) : Act Response :=
  withAdmin headers do
    if role ≠ .admin then
      match ← guardLastAdmin accountId with
      | .error resp => pure resp
      | .ok () =>
        let result ← query (.setAccountRole accountId role)
        pure (noContentOr500 result)
    else
      let result ← query (.setAccountRole accountId role)
      pure (noContentOr500 result)

def deleteAccount (headers : HeaderMap) (accountId : Int) : Act Response := withAdmin headers do
  match ← guardLastAdmin accountId with
  | .error resp => pure resp
  | .ok () =>
    let result ← query (.deleteAccount accountId)
    pure (noContentOr500 result)

def deleteDevice (headers : HeaderMap) (accountId : Int) (deviceId : DeviceId) : Act Response :=
  withAdmin headers do
    match ← query (.findDevice deviceId) with
    | .ok (some device) =>
      if device.accountId = accountId then do
        let _ ← query (.deleteDevice deviceId)
        kickDevice deviceId "This device was removed by an administrator."
        pure (statusResponse 204)
      else pure (errorResponse 404 "device not found for this account")
    | .ok none => pure (errorResponse 404 "device not found for this account")
    | .error e => pure (errorResponse 500 e)

def getRegistration (headers : HeaderMap) : Act Response := withAdmin headers do
  let enabled ← registrationEnabled
  pure (jsonResponse (.registration (enabled.toOption.getD true)))

def setRegistration (headers : HeaderMap) (enabled : Bool) : Act Response := withAdmin headers do
  match ← setRegistrationEnabled enabled with
  | .ok () => pure (jsonResponse (.registration enabled))
  | .error e => pure (errorResponse 500 e)

/-! ## §5. `api/download.rs`. -/

/-- Which platform to suggest first. -/
def detectPlatform (headers : HeaderMap) : Option String :=
  (headers.userAgent.bind toStr).bind fun ua =>
    if Text.containsString ua "Windows" then some "windows-x86_64"
    else if Text.containsString ua "Linux" && !Text.containsString ua "Android" then
      some "linux-x86_64"
    else none

def downloadOption (config : Config) (detected : Option String) (platform : PlatformInfo) :
    Act DownloadOption := do
  let recommended := some platform.key == detected
  match ← resolveTemplatePath platform config.clientTemplatesDir config.fetchedTemplatesDir with
  | some (_, .fetched) =>
    let version ← settingOrNone (clientVersionKey platform)
    let fetchedAt ← settingOrNone (clientFetchedAtKey platform)
    pure ⟨platform.key, true, recommended, false, version, fetchedAt.bind parseI64⟩
  | some (_, .manual) => pure ⟨platform.key, true, recommended, true, none, none⟩
  | none => pure ⟨platform.key, false, recommended, false, none, none⟩

def listDownloads (headers : HeaderMap) : Act Response := do
  let serverUrl ← settingOrNone "server_url"
  let detected := detectPlatform headers
  let config ← perform .config
  let options ← PLATFORMS.mapM (downloadOption config detected)
  let sorted := options.filter (·.recommended) ++ options.filter fun o => !o.recommended
  pure (jsonResponse (.downloads serverUrl sorted))

def downloadPlatform (platform : String) : Act Response := do
  match PLATFORMS.find? fun p => p.key == platform with
  | none => pure ⟨404, .text "unknown platform", none⟩
  | some info =>
    let config ← perform .config
    match ← resolveTemplatePath info config.clientTemplatesDir config.fetchedTemplatesDir with
    | none => pure ⟨404, .text "no build uploaded for this platform yet", none⟩
    | some (path, _) =>
      match ← perform (.fileRead path) with
      | .error _ => pure ⟨404, .text "no build uploaded for this platform yet", none⟩
      | .ok template =>
        let serverUrl ← settingOrNone "server_url"
        let deviceName ← settingOrNone "default_device_name"
        match (⟨serverUrl, deviceName⟩ : EmbeddedConfig).patchBinary template with
        | .error e => pure ⟨500, .text ("failed to patch client binary: " ++ e), none⟩
        | .ok bytes => pure ⟨200, .binary info.contentType
            ("attachment; filename=\"" ++ info.downloadFilename ++ "\"") bytes, none⟩

/-! ## §6. The router. -/

def route : Request → Act Response
  | .register email password => register email password
  | .login email password => login email password
  | .logout headers => logout headers
  | .me headers => me headers
  | .registrationStatus => registrationStatus
  | .listDevices headers => listDevices headers
  | .deleteOwn headers deviceId => deleteOwn headers deviceId
  | .getSettings headers => getSettings headers
  | .saveSettings headers url name => saveSettings headers url name
  | .clientBuilds headers => clientBuilds headers
  | .fetchRelease headers => fetchRelease headers
  | .listAccounts headers => listAccounts headers
  | .createAccount headers email password role => createAccount headers email password role
  | .accountDetail headers id => accountDetail headers id
  | .deleteAccount headers id => deleteAccount headers id
  | .setAccountRole headers id role => setAccountRole headers id role
  | .deleteDevice headers id deviceId => deleteDevice headers id deviceId
  | .getRegistration headers => getRegistration headers
  | .setRegistration headers enabled => setRegistration headers enabled
  | .listDownloads headers => listDownloads headers
  | .downloadPlatform platform => downloadPlatform platform

end Api

end Visuara.Signaling
