/-
  Visuara.Signaling.Shown
  ───────────────────────
  **WHAT A CLIENT IS SHOWN.**

  The handlers look things up and put them into messages and responses, while
  other handlers change them.  So nothing that is shown need be true when it
  arrives; but every part of it was looked up by the handler itself, was true
  when it was looked up, and belongs to the one it is shown to.

    • `Discloses did req` — what the body of a response to `req` says was
                            returned by calls that `did` has of the handler;
    • `Seen`              — the call was made, and its result is what the state
                            of its moment made it;
    • `device_list_shown`, `response_shown` — messages and responses of every run.
-/
import Visuara.Signaling.Footprint
import Visuara.Signaling.Licence

namespace Visuara.Signaling

open Interleave Relational

/-! ## §1. What the answers say. -/

/-- Some calls, each with its result. -/
abbrev Calling := (o : Op) → o.Res → Prop

/-- The summary is that of the device; whether it is online has been looked up. -/
structure Summarizes (did : Calling) (d : Device) (s : DeviceSummary) : Prop where
  deviceId : s.deviceId = d.id
  name : s.name = d.name
  unattended : s.unattendedAccessEnabled = d.unattendedPasswordHash.isSome
  online : did (.deviceOnlineContainsKey d.id) s.online

/-- The cookie of the request resolves to `account`. -/
def Resolves (did : Calling) (headers : HeaderMap) (account : Account) : Prop :=
  ∃ token, cookieValue headers SESSION_COOKIE = some token
    ∧ did (.db (.findSession token)) (.ok (some account))

/-- … which is an admin's. -/
def ResolvesToAdmin (did : Calling) (headers : HeaderMap) : Prop :=
  ∃ account, Resolves did headers account ∧ account.role = .admin

/-- The devices of the account, or nothing if the lookup fails. -/
def ListsDevices (did : Calling) (id : Int) (ds : List DeviceSummary) : Prop :=
  ∃ r, did (.db (.listDevicesForAccount id)) r
    ∧ List.Forall₂ (Summarizes did) (r.toOption.getD []) ds

section

variable [Crates]

/-- What entitles a request to be told of the account. -/
inductive ToldOf (did : Calling) (id : Int) (email : String) (role : AccountRole) :
    Request → Prop where
  | me {headers : HeaderMap} {account : Account} (hsession : Resolves did headers account)
      (hid : account.id = id) (hemail : account.email = email) (hrole : account.role = role) :
      ToldOf did id email role (.me headers)
  | login {email' password : String} {account : Account}
      (hfound : did (.db (.findAccountByEmail (Text.trimString email'))) (.ok (some account)))
      (hpassword : verifyPassword password account.passwordHash = true)
      (hid : account.id = id) (hemail : account.email = email) (hrole : account.role = role) :
      ToldOf did id email role (.login email' password)
  | register {email' password hash : String} (hemail : Text.trimString email' = email)
      (hcreated : did (.db (.createAccount email hash role)) (.ok id)) :
      ToldOf did id email role (.register email' password)
  | createAccount {headers : HeaderMap} {email' password hash : String}
      {role' : Option AccountRole} (hadmin : ResolvesToAdmin did headers)
      (hemail : Text.trimString email' = email) (hrole : role'.getD .user = role)
      (hcreated : did (.db (.createAccount email hash role)) (.ok id)) :
      ToldOf did id email role (.createAccount headers email' password role')

/-- The request comes from an admin. -/
def FromAdmin (did : Calling) (req : Request) : Prop :=
  ∃ headers, (req = .getSettings headers ∨ (∃ url name, req = .saveSettings headers url name)
    ∨ req = .clientBuilds headers ∨ req = .fetchRelease headers) ∧ ResolvesToAdmin did headers

/-- **What the body of a response may disclose to the request**, and on what
grounds. -/
def Discloses (did : Calling) (req : Request) : Body → Prop
  | .devices ds => ∃ headers account, req = .listDevices headers ∧ Resolves did headers account
      ∧ ListsDevices did account.id ds
  | .accounts accounts => ∃ headers r, req = .listAccounts headers ∧ ResolvesToAdmin did headers
      ∧ did (.db .listAllAccounts) r ∧ accounts = r.toOption.getD []
  | .accountDetail id email role ds => ∃ headers accountId account,
      req = .accountDetail headers accountId ∧ ResolvesToAdmin did headers
        ∧ did (.db (.findAccountById accountId)) (.ok (some account))
        ∧ account.id = id ∧ account.email = email ∧ account.role = role
        ∧ ListsDevices did accountId ds
  | .account id email role => ToldOf did id email role req
  | .settings .. | .clientBuilds _ | .fetchResults _ => FromAdmin did req
  | _ => True

/-! ## §2. The HTTP handlers. -/

/-- The response of `p` says what it may. -/
abbrev Answers (req : Request) (p : Act Response) (h : Calls) : Prop :=
  Prog.Follows (fun _ _ => True) (fun h' r => Discloses (Did h') req r.body) p h

variable {req : Request} {h : Calls}

omit [Crates] in
/-- What comes first does not matter, only that it stays done. -/
theorem follows_then {α β : Type} {Ψ : Calls → β → Prop} {p : Act α} {f : α → Act β}
    (hf : ∀ a h', h <:+ h' → Prog.Follows (fun _ _ => True) Ψ (f a) h') :
    Prog.Follows (fun _ _ => True) Ψ (p >>= f) h := by
  rw [Prog.follows_bind]
  exact (Prog.follows_suffix p h).mono (fun _ _ h => h) fun h' a hh => hf a h' hh

omit [Crates] in
theorem follows_summaries {Φ : Calls → Op → Prop} (hΦ : ∀ h d, Φ h (.deviceOnlineContainsKey d))
    (devices : List Device) (h : Calls) :
    Prog.Follows Φ (fun h' ds => h <:+ h' ∧ List.Forall₂ (Summarizes (Did h')) devices ds)
      (deviceSummaries devices) h := by
  have hsummaries : Prog.Follows Φ
      (fun h' ds => List.Forall₂ (Summarizes (Did h')) devices ds) (deviceSummaries devices) h := by
    refine Prog.follows_mapM_forall₂ ?_ ?_ devices h
    · exact fun h h' d s hh hs => ⟨hs.deviceId, hs.name, hs.unattended, hh.subset hs.online⟩
    · exact fun d h => ⟨hΦ h d.id, fun online => ⟨rfl, rfl, rfl, List.mem_cons_self⟩⟩
  exact ((Prog.follows_suffix _ h).and hsummaries).mono (fun _ _ h => h.2) fun _ _ h => h

omit [Crates] in
theorem ResolvesToAdmin.mono {headers : HeaderMap} {h' : Calls}
    (ha : ResolvesToAdmin (Did h) headers) (hh : h <:+ h') : ResolvesToAdmin (Did h') headers := by
  obtain ⟨account, ⟨token, hc, hm⟩, hrole⟩ := ha
  exact ⟨account, ⟨token, hc, hh.subset hm⟩, hrole⟩

/-- The handlers behind `require_admin`. -/
theorem answers_withAdmin {headers : HeaderMap} {handler : Act Response}
    (hp : ∀ h, ResolvesToAdmin (Did h) headers → Answers req handler h) :
    Answers req (Api.withAdmin headers handler) [] := by
  rw [Api.withAdmin_eq]
  cases hc : cookieValue headers SESSION_COOKIE with
  | none => trivial
  | some token =>
    refine ⟨trivial, fun r => ?_⟩
    rcases r with e | (_ | account)
    · trivial
    · trivial
    · by_cases hrole : account.role = .admin
      · simp only [hrole, if_true]
        exact hp _ ⟨account, ⟨token, hc, List.mem_cons_self⟩, hrole⟩
      · simp only [hrole, if_false]
        trivial

theorem answers_startSession {id : Int} {email : String} {role : AccountRole}
    (hto : ∀ h', h <:+ h' → ToldOf (Did h') id email role req) :
    Answers req (Api.startSession id email role) h := by
  refine follows_then fun token h₁ hh₁ => follows_then fun r h₂ hh₂ => ?_
  rcases r with e | _
  · trivial
  · exact hto h₂ (hh₁.trans hh₂)

omit [Crates] in
/-- An account that is returned has been created with that role. -/
theorem follows_created (email hash : String) (h : Calls) :
    Prog.Follows (fun _ _ => True) (fun h' r => ∀ id role, r = .ok (id, role) →
        Did h' (.db (.createAccount email hash role)) (.ok id))
      (createAccountAndMaybeBootstrapAdmin email hash).run h := by
  rw [createAccountAndMaybeBootstrapAdmin_run]
  refine ⟨trivial, fun n => ?_⟩
  rcases n with e | n
  · exact fun _ _ hr => absurd hr nofun
  · dsimp only
    cases hn : n == 0 with
    | true =>
      refine ⟨trivial, fun r => ?_⟩
      rcases r with e | id
      · exact fun _ _ hr => absurd hr nofun
      · refine ⟨trivial, fun r => ?_⟩
        rcases r with e | _
        · exact fun _ _ hr => absurd hr nofun
        · rintro _ _ ⟨⟩
          exact List.mem_cons_of_mem _ List.mem_cons_self
    | false =>
      refine ⟨trivial, fun r => ?_⟩
      rcases r with e | id
      · exact fun _ _ hr => absurd hr nofun
      · rintro _ _ ⟨⟩
        exact List.mem_cons_self

theorem answers_register (email password : String) :
    Answers (.register email password) (Api.register email password) [] := by
  simp only [Api.register]
  split
  · trivial
  · refine follows_then fun enabled h₁ _ => ?_
    rcases enabled with e | (_ | _)
    · trivial
    · trivial
    · refine follows_then fun hashed h₂ _ => ?_
      rcases hashed with e | hash
      · trivial
      · show Prog.Follows _ _ ((createAccountAndMaybeBootstrapAdmin _ hash).run >>= _) _
        rw [Prog.follows_bind]
        refine (follows_created _ hash h₂).mono (fun _ _ h => h) fun h₃ r hcreated => ?_
        rcases r with e | ⟨id, role⟩
        · dsimp only
          split <;> trivial
        · exact answers_startSession fun h' hh => .register rfl (hh.subset (hcreated id role rfl))

theorem answers_login (email password : String) :
    Answers (.login email password) (Api.login email password) [] := by
  refine ⟨trivial, fun found => ?_⟩
  rcases found with e | (_ | account)
  · trivial
  · trivial
  · show Prog.Follows _ _ (ite (verifyPassword password account.passwordHash = true) _ _) _
    split
    next hpassword =>
      exact answers_startSession fun h' hh =>
        .login (hh.subset List.mem_cons_self) hpassword rfl rfl rfl
    next => trivial

theorem answers_me (headers : HeaderMap) : Answers (.me headers) (Api.me headers) [] := by
  simp only [Api.me, currentAccount]
  cases hc : cookieValue headers SESSION_COOKIE with
  | none => trivial
  | some token =>
    refine ⟨trivial, fun r => ?_⟩
    rcases r with e | (_ | account)
    · trivial
    · trivial
    · exact .me ⟨token, hc, List.mem_cons_self⟩ rfl rfl rfl

theorem answers_listDevices (headers : HeaderMap) :
    Answers (.listDevices headers) (Api.listDevices headers) [] := by
  simp only [Api.listDevices]
  rw [requireAccount_bind]
  cases hc : cookieValue headers SESSION_COOKIE with
  | none => trivial
  | some token =>
    refine ⟨trivial, fun r => ?_⟩
    rcases r with e | (_ | account)
    · trivial
    · trivial
    · refine ⟨trivial, fun r => ?_⟩
      show Prog.Follows _ _ (deviceSummaries _ >>= _) _
      rw [Prog.follows_bind]
      refine (follows_summaries (fun _ _ => trivial) (r.toOption.getD []) _).mono (fun _ _ h => h) ?_
      rintro h' ds ⟨hh, hds⟩
      exact ⟨headers, account, rfl, ⟨token, hc, hh.subset (by simp)⟩, r, hh.subset (by simp), hds⟩

theorem answers_accountDetail (headers : HeaderMap) (accountId : Int) :
    Answers (.accountDetail headers accountId) (Api.accountDetail headers accountId) [] := by
  refine answers_withAdmin fun h hadmin => ⟨trivial, fun found => ?_⟩
  rcases found with e | (_ | account)
  · trivial
  · trivial
  · refine ⟨trivial, fun r => ?_⟩
    show Prog.Follows _ _ (deviceSummaries _ >>= _) _
    rw [Prog.follows_bind]
    refine (follows_summaries (fun _ _ => trivial) (r.toOption.getD []) _).mono (fun _ _ h => h) ?_
    rintro h' ds ⟨hh, hds⟩
    refine ⟨headers, accountId, account, rfl, hadmin.mono ?_, hh.subset (by simp), rfl, rfl,
      rfl, r, hh.subset (by simp), hds⟩
    exact ((List.suffix_cons _ h).trans (List.suffix_cons _ _)).trans hh

theorem answers_createAccount (headers : HeaderMap) (email password : String)
    (role : Option AccountRole) :
    Answers (.createAccount headers email password role)
      (Api.createAccount headers email password role) [] := by
  refine answers_withAdmin fun h hadmin => ?_
  dsimp only
  split
  · trivial
  · refine follows_then fun hashed h₁ hh₁ => ?_
    rcases hashed with e | hash
    · trivial
    · refine ⟨trivial, fun r => ?_⟩
      rcases r with e | id
      · show Prog.Follows _ _ (ite _ _ _) _
        split <;> trivial
      · exact .createAccount (hadmin.mono (hh₁.trans (List.suffix_cons _ _))) rfl rfl
          List.mem_cons_self

theorem answers_listAccounts (headers : HeaderMap) :
    Answers (.listAccounts headers) (Api.listAccounts headers) [] :=
  answers_withAdmin fun _ hadmin => ⟨trivial, fun r =>
    ⟨headers, r, rfl, hadmin.mono (List.suffix_cons _ _), List.mem_cons_self, rfl⟩⟩

/-- The pages of an admin that tell of no account. -/
theorem answers_settings (headers : HeaderMap) :
    Answers (.getSettings headers) (Api.getSettings headers) [] :=
  answers_withAdmin fun _ hadmin => follows_then fun _ _ hh₁ => follows_then fun _ _ hh₂ =>
    ⟨headers, .inl rfl, hadmin.mono (hh₁.trans hh₂)⟩

theorem answers_saveSettings (headers : HeaderMap) (url name : String) :
    Answers (.saveSettings headers url name) (Api.saveSettings headers url name) [] :=
  answers_withAdmin fun _ hadmin => follows_then fun _ _ hh₁ => follows_then fun _ _ hh₂ =>
    ⟨headers, .inr (.inl ⟨url, name, rfl⟩), hadmin.mono (hh₁.trans hh₂)⟩

theorem answers_clientBuilds (headers : HeaderMap) :
    Answers (.clientBuilds headers) (Api.clientBuilds headers) [] :=
  answers_withAdmin fun _ hadmin => follows_then fun _ _ hh₁ => follows_then fun _ _ hh₂ =>
    ⟨headers, .inr (.inr (.inl rfl)), hadmin.mono (hh₁.trans hh₂)⟩

theorem answers_fetchRelease (headers : HeaderMap) :
    Answers (.fetchRelease headers) (Api.fetchRelease headers) [] := by
  refine answers_withAdmin fun _ hadmin => follows_then fun _ _ hh₁ => follows_then fun r _ hh₂ => ?_
  rcases r with e | results
  · trivial
  · exact ⟨headers, .inr (.inr (.inr rfl)), hadmin.mono (hh₁.trans hh₂)⟩

theorem answers_guardLastAdmin {id : Int} {f : Except Response Unit → Act Response}
    (hok : ∀ h', Answers req (f (.ok ())) h')
    (herr : ∀ status message h', Answers req (f (.error (errorResponse status message))) h') :
    Answers req (Api.guardLastAdmin id >>= f) h := by
  rw [Api.guardLastAdmin_bind]
  refine ⟨trivial, fun found => ?_⟩
  rcases found with e | (_ | account)
  · exact hok _
  · exact hok _
  · show Prog.Follows _ _ (ite (account.role ≠ .admin) _ _) _
    split
    · exact hok _
    · refine ⟨trivial, fun n => ?_⟩
      rcases n with e | n
      · exact herr _ _ _
      · show Prog.Follows _ _ (ite (n ≤ 1) _ _) _
        split
        · exact herr _ _ _
        · exact hok _

theorem answers_deleteAccount (headers : HeaderMap) (id : Int) :
    Answers (.deleteAccount headers id) (Api.deleteAccount headers id) [] := by
  refine answers_withAdmin fun _ _ => answers_guardLastAdmin (fun _ => ⟨trivial, fun r => ?_⟩)
    fun _ _ _ => trivial
  rcases r with e | _ <;> trivial

theorem answers_setAccountRole (headers : HeaderMap) (id : Int) (role : AccountRole) :
    Answers (.setAccountRole headers id role) (Api.setAccountRole headers id role) [] := by
  refine answers_withAdmin fun _ _ => ?_
  cases role with
  | admin =>
    refine ⟨trivial, fun r => ?_⟩
    rcases r with e | _ <;> trivial
  | user =>
    refine answers_guardLastAdmin (fun _ => ⟨trivial, fun r => ?_⟩) fun _ _ _ => trivial
    rcases r with e | _ <;> trivial

theorem answers_deleteDevice (headers : HeaderMap) (id : Int) (d : DeviceId) :
    Answers (.deleteDevice headers id d) (Api.deleteDevice headers id d) [] := by
  refine answers_withAdmin fun _ _ => ⟨trivial, fun found => ?_⟩
  rcases found with e | (_ | device)
  · trivial
  · trivial
  · show Prog.Follows _ _ (ite (device.accountId = id) _ _) _
    split
    · exact follows_then fun _ _ _ => follows_then fun _ _ _ => trivial
    · trivial

theorem answers_deleteOwn (headers : HeaderMap) (d : DeviceId) :
    Answers (.deleteOwn headers d) (Api.deleteOwn headers d) [] := by
  refine follows_then fun account _ _ => ?_
  rcases account with status | account
  · trivial
  · refine ⟨trivial, fun found => ?_⟩
    rcases found with e | (_ | device)
    · trivial
    · trivial
    · show Prog.Follows _ _ (ite (device.accountId = account.id) _ _) _
      split
      · exact follows_then fun _ _ _ => follows_then fun _ _ _ => trivial
      · trivial

theorem answers_downloadPlatform (platform : String) :
    Answers (.downloadPlatform platform) (Api.downloadPlatform platform) [] := by
  simp only [Api.downloadPlatform]
  cases PLATFORMS.find? fun p => p.key == platform with
  | none => trivial
  | some info =>
    refine follows_then fun config _ _ => follows_then fun found _ _ => ?_
    rcases found with _ | ⟨path, origin⟩
    · trivial
    · refine follows_then fun read _ _ => ?_
      rcases read with e | template
      · trivial
      · refine follows_then fun url _ _ => follows_then fun name _ _ => ?_
        cases (⟨url, name⟩ : EmbeddedConfig).patchBinary template <;> trivial

/-- **Every response** says what it may. -/
theorem answers_route (req : Request) : Answers req (Api.route req) [] := by
  cases req with
  | register email password => exact answers_register email password
  | login email password => exact answers_login email password
  | logout headers =>
    simp only [Api.route, Api.logout]
    cases cookieValue headers SESSION_COOKIE with
    | none => trivial
    | some token => exact ⟨trivial, fun _ => trivial⟩
  | me headers => exact answers_me headers
  | registrationStatus => exact follows_then fun _ _ _ => trivial
  | listDevices headers => exact answers_listDevices headers
  | deleteOwn headers d => exact answers_deleteOwn headers d
  | getSettings headers => exact answers_settings headers
  | saveSettings headers url name => exact answers_saveSettings headers url name
  | clientBuilds headers => exact answers_clientBuilds headers
  | fetchRelease headers => exact answers_fetchRelease headers
  | listAccounts headers => exact answers_listAccounts headers
  | createAccount headers email password role =>
    exact answers_createAccount headers email password role
  | accountDetail headers id => exact answers_accountDetail headers id
  | deleteAccount headers id => exact answers_deleteAccount headers id
  | setAccountRole headers id role => exact answers_setAccountRole headers id role
  | deleteDevice headers id d => exact answers_deleteDevice headers id d
  | getRegistration headers => exact answers_withAdmin fun _ _ => follows_then fun _ _ _ => trivial
  | setRegistration headers enabled =>
    refine answers_withAdmin fun _ _ => follows_then fun r _ _ => ?_
    rcases r with e | _ <;> trivial
  | listDownloads headers =>
    exact follows_then fun _ _ _ => follows_then fun _ _ _ => follows_then fun _ _ _ => trivial
  | downloadPlatform platform => exact answers_downloadPlatform platform

/-! ## §3. The socket. -/

/-- When a device list may be sent. -/
def Lists (t : Task) (h : Calls) (o : Op) : Prop :=
  ∀ tx ds, o = .send tx (.deviceList ds) → t = .message tx .listDevices ∧ ∃ account devices,
    Did h (.connState tx) (.authenticated account)
      ∧ Did h (.db (.listDevicesForAccount account)) (.ok devices)
      ∧ List.Forall₂ (Summarizes (Did h)) devices ds

omit [Crates] in
/-- No other task sends one. -/
theorem listDevices_of_sends {t : Task} {tx : Sender} {ds : List DeviceSummary}
    (h : t.sends tx (.deviceList ds) = true) : t = .message tx .listDevices := by
  cases t with
  | message c m =>
    cases m with
    | listDevices => rw [of_decide_eq_true h]
    | _ => exact absurd h Bool.false_ne_true
  | http req => cases req <;> exact absurd h Bool.false_ne_true
  | _ => exact absurd h Bool.false_ne_true

/-- What a finished request has answered. -/
def Responded (t : Task) (h : Calls) (r : Option Response) : Prop :=
  ∀ req resp, t = .http req → r = some resp → Discloses (Did h) req resp.body

theorem follows_listDevices (c : ConnectionId) :
    Prog.Follows (Lists (.message c .listDevices)) (fun _ _ => True)
      (onMessage c .listDevices) [] := by
  have hquiet : ∀ {h o}, (∀ tx ds, o ≠ .send tx (.deviceList ds)) →
      Lists (.message c .listDevices) h o := fun hne tx ds ho => absurd ho (hne tx ds)
  suffices hm : Prog.Follows (Lists (.message c .listDevices)) (fun _ _ => True)
      (handleMessage c .listDevices).run [] by
    simp only [onMessage, Prog.follows_bind]
    refine hm.mono (fun _ _ h => h) fun h r _ => ?_
    rcases r with e | _
    · exact ⟨hquiet (by simp), fun _ => trivial⟩
    · trivial
  simp only [handleMessage, requireAuth_bind, Prog.follows_call]
  refine ⟨hquiet (by simp), fun st => ?_⟩
  cases st with
  | unauthenticated => trivial
  | authenticated account =>
    simp only [Handler.query_bind, Handler.lift_bind, Prog.follows_call]
    refine ⟨hquiet (by simp), fun devices => ?_⟩
    rcases devices with e | devices
    · trivial
    · simp only [Prog.follows_bind]
      refine (follows_summaries (fun _ _ => hquiet (by simp)) devices _).mono (fun _ _ h => h) ?_
      rintro h ds ⟨hh, hds⟩
      simp only [Handler.send_run]
      refine ⟨?_, fun _ => trivial⟩
      rintro tx ds' ⟨⟩
      exact ⟨rfl, account, devices, hh.subset (by simp), hh.subset (by simp), hds⟩

/-- **Every task** lists devices to their owner only, and answers what it may. -/
theorem Task.answers (t : Task) : Prog.Follows (Lists t) (Responded t) (server.body t) [] := by
  by_cases ht : ∃ c, t = .message c .listDevices
  · obtain ⟨c, rfl⟩ := ht
    show Prog.Follows _ _ (onMessage c _ >>= _) _
    rw [Prog.follows_bind]
    exact (follows_listDevices c).mono (fun _ _ h => h) fun _ _ _ _ _ hreq => absurd hreq nofun
  · have hdoes : Only t.does (server.body t) ([] : Calls) := t.only_does
    have htold : Prog.Follows (fun _ _ => True) (Responded t) (server.body t) [] := by
      cases t with
      | http req =>
        show Prog.Follows _ _ (some <$> Api.route req) _
        rw [← bind_pure_comp, Prog.follows_bind]
        refine (answers_route req).mono (fun _ _ h => h) ?_
        rintro h r hr req' resp ⟨⟩ ⟨⟩
        exact hr
      | _ =>
        exact (Prog.follows_trivial _ _).mono (fun _ _ h => h) fun _ _ _ _ _ hreq =>
          absurd hreq nofun
    refine (hdoes.and htold).mono (fun h o ho tx ds hsend => ?_) fun _ _ h => h.2
    subst hsend
    exact absurd ⟨tx, listDevices_of_sends ho.1⟩ ht

/-! ## §4. In every run. -/

variable {A : Assumption Op Op.Res Draw Task Env} {s₀ : Server} {w w' : ServerWorld} {j : Nat}
  {t : Task}

/-- Job `j` made the call, and the state of that moment gave the result. -/
def Seen (A : Assumption Op Op.Res Draw Task Env) (s₀ : Server) (w : ServerWorld) (j : Nat)
    (t : Task) : Calling := fun o r =>
  server.Happened A s₀ w (.call j t ⟨o, r⟩) fun w₁ => ∃ draw, r = (o.exec draw w₁.st).1

theorem seen_of_mem (h : Run A s₀ w) {o : Op} {r : o.Res} (he : Event.call j t ⟨o, r⟩ ∈ w.log) :
    Seen A s₀ w j t o r :=
  h.happened he fun w₁ w₂ _ hs hlog => by
    obtain ⟨draw, -, -, -, hres, -⟩ := hs.of_call hlog
    exact ⟨draw, hres⟩

omit [Crates] in
/-- What may be disclosed on some grounds may be on better ones. -/
theorem summarizes_imp {did did' : Calling} (hd : ∀ o r, did o r → did' o r)
    {devices : List Device} {ds : List DeviceSummary}
    (h : List.Forall₂ (Summarizes did) devices ds) : List.Forall₂ (Summarizes did') devices ds :=
  h.imp fun _ _ hs => ⟨hs.deviceId, hs.name, hs.unattended, hd _ _ hs.online⟩

omit [Crates] in
theorem Resolves.imp {did did' : Calling} (hd : ∀ o r, did o r → did' o r) {headers : HeaderMap}
    {account : Account} (h : Resolves did headers account) : Resolves did' headers account := by
  obtain ⟨token, hc, hm⟩ := h
  exact ⟨token, hc, hd _ _ hm⟩

omit [Crates] in
theorem ResolvesToAdmin.imp {did did' : Calling} (hd : ∀ o r, did o r → did' o r)
    {headers : HeaderMap} (h : ResolvesToAdmin did headers) : ResolvesToAdmin did' headers := by
  obtain ⟨account, hm, hrole⟩ := h
  exact ⟨account, hm.imp hd, hrole⟩

omit [Crates] in
theorem ListsDevices.imp {did did' : Calling} (hd : ∀ o r, did o r → did' o r) {id : Int}
    {ds : List DeviceSummary} (h : ListsDevices did id ds) : ListsDevices did' id ds := by
  obtain ⟨r, hm, hds⟩ := h
  exact ⟨r, hd _ _ hm, summarizes_imp hd hds⟩

theorem ToldOf.imp {did did' : Calling} (hd : ∀ o r, did o r → did' o r) {id : Int}
    {email : String} {role : AccountRole} {req : Request} (h : ToldOf did id email role req) :
    ToldOf did' id email role req := by
  cases h with
  | me hsession hid hemail hrole => exact .me (hsession.imp hd) hid hemail hrole
  | login hfound hpassword hid hemail hrole =>
    exact .login (hd _ _ hfound) hpassword hid hemail hrole
  | register hemail hcreated => exact .register hemail (hd _ _ hcreated)
  | createAccount hadmin hemail hrole hcreated =>
    exact .createAccount (hadmin.imp hd) hemail hrole (hd _ _ hcreated)

theorem Discloses.imp {did did' : Calling} (hd : ∀ o r, did o r → did' o r) {req : Request}
    {body : Body} (h : Discloses did req body) : Discloses did' req body := by
  cases body with
  | devices ds =>
    obtain ⟨headers, account, hreq, hsession, hds⟩ := h
    exact ⟨headers, account, hreq, hsession.imp hd, hds.imp hd⟩
  | accounts accounts =>
    obtain ⟨headers, r, hreq, hadmin, hm, heq⟩ := h
    exact ⟨headers, r, hreq, hadmin.imp hd, hd _ _ hm, heq⟩
  | accountDetail id email role ds =>
    obtain ⟨headers, accountId, account, hreq, hadmin, hm, hid, hemail, hrole, hds⟩ := h
    exact ⟨headers, accountId, account, hreq, hadmin.imp hd, hd _ _ hm, hid, hemail, hrole,
      hds.imp hd⟩
  | account id email role => exact ToldOf.imp hd h
  | settings | clientBuilds | fetchResults =>
    obtain ⟨headers, hreq, hadmin⟩ := h
    exact ⟨headers, hreq, hadmin.imp hd⟩
  | _ => trivial

/-- A lookup of devices finds all devices of the account, and no others. -/
theorem Seen.devices {id : Int} {devices : List Device}
    (h : Seen A s₀ w j t (.db (.listDevicesForAccount id)) (.ok devices)) :
    server.Happened A s₀ w (.call j t ⟨.db (.listDevicesForAccount id), .ok devices⟩)
      fun w₁ => devices = w₁.st.db.devices.rows.filter fun d => d.accountId == id := by
  obtain ⟨w₁, w₂, h₁, hs, h₂, hlog, draw, hres⟩ := h
  exact ⟨w₁, w₂, h₁, hs, h₂, hlog, (Except.ok.inj (Op.exec_query_ok hres.symm).2).symm⟩

/-- **A device list is a list of one's own devices**, in every interleaving:
when it is sent, the receiver had asked for it and was logged in with an account
when its turn began; the list has every device of that account at the moment of
the lookup, in order, and each was online or not as the list says when the turn
came to it. -/
theorem device_list_shown (h : Run A s₀ w) (hs : server.Step A w w') {tx : Sender}
    {ds : List DeviceSummary} {r : Except String Unit}
    (hlog : w'.log = .call j t ⟨.send tx (.deviceList ds), r⟩ :: w.log) :
    t = .message tx .listDevices ∧ ∃ account devices,
      server.Happened A s₀ w (.call j t ⟨.connState tx, .authenticated account⟩)
          (fun w₁ => (w₁.st.socket tx).connState = .authenticated account)
        ∧ server.Happened A s₀ w (.call j t ⟨.db (.listDevicesForAccount account), .ok devices⟩)
          (fun w₁ => devices = w₁.st.db.devices.rows.filter fun d => d.accountId == account)
        ∧ List.Forall₂ (Summarizes (Seen A s₀ w j t)) devices ds := by
  obtain ⟨_, _, hj, -⟩ := hs.of_call hlog
  obtain ⟨rfl, account, devices, hstate, hlist, hds⟩ := h.next_licensed Task.answers hj tx ds rfl
  have hseen : ∀ o r, Did (hist j w.log) o r → Seen A s₀ w j (.message tx .listDevices) o r :=
    fun _ _ hm => seen_of_mem h (h.event_of_hist hj hm)
  refine ⟨rfl, account, devices, ?_, (hseen _ _ hlist).devices, summarizes_imp hseen hds⟩
  obtain ⟨w₁, w₂, h₁, hs', h₂, hlog', draw, hres⟩ := hseen _ _ hstate
  exact ⟨w₁, w₂, h₁, hs', h₂, hlog', hres.symm⟩

end

section Schedule

open scoped Transparent

/-- A host registers its device, and its owner logs in in the browser; the host
is about to be sent its list, and then the browser is. -/
def listTwice : List ServerMove :=
  .start (.connect "pc") :: steps 0 1
    ++ .start (.message "pc" (.register "ann@example.com" "longpassword")) :: steps 1 8
    ++ .start (.message "pc" (.registerDevice "desk")) :: steps 2 9
    ++ .start (.http (.login "ann@example.com" "longpassword")) :: steps 3 3
    ++ .start (.message "pc" .listDevices) :: steps 4 3
    ++ .start (.http (.listDevices ⟨some "visuara_session=DEFGHIJKLMNOPQRSTUVWXYZabcdefghi", none⟩))
      :: steps 5 3

theorem listTwice_plays :
    (server.playAll anyDraw listTwice (World.initial (Server.blank true))).isSome = true := by
  decide +kernel

theorem device_list_shown_host : ∃ account devices,
    server.Happened anyDraw (Server.blank true) (Option.get _ listTwice_plays)
        (.call 4 (.message "pc" .listDevices) ⟨.db (.listDevicesForAccount account), .ok devices⟩)
        (fun w₁ => devices = w₁.st.db.devices.rows.filter fun d => d.accountId == account)
      ∧ List.Forall₂ (Summarizes (Seen anyDraw (Server.blank true) (Option.get _ listTwice_plays) 4
          (.message "pc" .listDevices))) devices [⟨"002 003 004", "desk", true, false⟩] := by
  have h : Run anyDraw (Server.blank true) (Option.get _ listTwice_plays) :=
    System.playAll_reachable .refl (Option.some_get listTwice_plays).symm
  have hnext : System.next? (Option.get _ listTwice_plays) 4 = some (.message "pc" .listDevices,
      .send "pc" (.deviceList [⟨"002 003 004", "desk", true, false⟩])) := by
    decide +kernel
  obtain ⟨w', hs, hlog⟩ := System.step_of_next? server anyDraw hnext (Draw.from 4) rfl
  obtain ⟨-, account, devices, -, hlist, hds⟩ := device_list_shown h hs hlog
  exact ⟨account, devices, hlist, hds⟩

end Schedule

end Visuara.Signaling
