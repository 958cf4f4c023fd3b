/-
  Visuara.Signaling.Status
  ────────────────────────
  **WHAT A STATUS CODE SAYS ABOUT THE DATABASE.**

  A request answered with success should have made its change, and any other
  should have changed nothing.  Where a handler drops the result of a write,
  or fails after one, its status says otherwise:

    • `TellsTruth` — the status and the database agree;
    • `Slips`      — the failures, and the states, in which they do not;
    • `status_tells_truth_iff` — there are no others.
-/
import Visuara.Signaling.Answer
import Visuara.Signaling.Refusal

namespace Visuara.Signaling

open Interleave Relational

/-! ## §1. The contract. -/

/-- Accounts, devices, settings and sessions are exactly as before. -/
structure Db.Unchanged (db db' : Db) : Prop where
  accounts : db'.accounts = db.accounts
  devices : db'.devices = db.devices
  settings : db'.settings = db.settings
  sessions : db'.sessions = db.sessions

/-- The value of a setting. -/
def Db.setting (db : Db) (key : String) : Option String :=
  (db.settings.lookup key).map Setting.value

section

variable [Crates]

/-- The response logs the account in. -/
def LogsInAs (db : Db) (resp : Response) (a : Account) : Prop :=
  resp.body = .account a.id a.email a.role
    ∧ ∃ token, resp.setCookie = some (setSessionCookie token) ∧ db.resolve token = some a

/-- The change that was asked for is in the database. -/
def Made (db : Db) (resp : Response) : Request → Prop
  | .register email password => ∃ a ∈ db.accounts, a.email = Text.trimString email
      ∧ (∃ salt, hashPassword password salt = .ok a.passwordHash) ∧ LogsInAs db resp a
  | .login email password => ∃ a ∈ db.accounts, a.email = Text.trimString email
      ∧ verifyPassword password a.passwordHash = true ∧ LogsInAs db resp a
  | .logout headers => ∀ token, cookieValue headers SESSION_COOKIE = some token →
      db.sessions.lookup token = none
  | .saveSettings _ serverUrl defaultDeviceName =>
      db.setting "server_url" = some (Text.trimString serverUrl)
        ∧ db.setting "default_device_name" = some (Text.trimString defaultDeviceName)
  | .createAccount _ email password role => ∃ a ∈ db.accounts, a.email = Text.trimString email
      ∧ (∃ salt, hashPassword password salt = .ok a.passwordHash) ∧ a.role = role.getD .user
      ∧ resp.body = .account a.id a.email a.role
  | .setAccountRole _ id role => ∃ a ∈ db.accounts, a.id = id ∧ a.role = role
  | .deleteAccount _ id => (∀ a ∈ db.accounts, a.id ≠ id) ∧ (∀ d ∈ db.devices, d.accountId ≠ id)
      ∧ ∀ x ∈ db.sessions, x.accountId ≠ id
  | .setRegistration _ enabled =>
      db.setting REGISTRATION_ENABLED = some (if enabled then "true" else "false")
  | .deleteOwn _ d | .deleteDevice _ _ d => db.devices.lookup d = none
  | _ => True

/-- The status says what happened. -/
structure TellsTruth (s : Server) (req : Request) (out : Response × Server) : Prop where
  success : out.1.isSuccess = true → Made out.2.db out.1 req
  failure : out.1.isSuccess = false → s.db.Unchanged out.2.db

/-! ## §2. Where it does not. -/

/-- The role of the next account that registers. -/
def nextRole (db : Db) : AccountRole := if db.accounts.rows.length = 0 then .admin else .user

/-- The bootstrap gets as far as creating the account. -/
structure Creates (env : Decisions) (db : Db) (email hash : String) : Prop where
  counted : env.fails .countAccounts = false
  created : env.fails (.createAccount email hash (nextRole db)) = false
  room : db.accountSeq < maxRowid
  free : email ∉ db.accounts.rows.map Account.email

/-- The flag stays what it was after the first account. -/
def FlagLost (env : Decisions) (db : Db) : Prop :=
  nextRole db = .admin ∧ env.fails (.setSetting REGISTRATION_ENABLED "false") = true

/-- The registration creates an account (`email` is trimmed). -/
structure Enrolls (env : Decisions) (db : Db) (email password hash : String) : Prop
    extends Creates env db email hash where
  named : email.isEmpty = false
  given : password.isEmpty = false
  flag_read : env.fails (.getSetting REGISTRATION_ENABLED) = false
  enabled : registrationOpen db = true
  hashed : hashPassword password (randomAlnum 22 (env (.hashPassword password)).rng) = .ok hash

/-- The token of the session that a request starts. -/
def Decisions.token (env : Decisions) : String :=
  generateSessionToken (env .generateSessionToken).rng

/-- The session of a login is stored. -/
def SessionStored (env : Decisions) (db : Db) (id : Int) : Prop :=
  env.fails (.createSession env.token id) = false ∧ db.sessions.lookup env.token = none

/-- A setting that is not saved, and was not what it should become. -/
def SettingLost (env : Decisions) (db : Db) (key value : String) : Prop :=
  env.fails (.setSetting key value) = true ∧ db.setting key ≠ some value

/-- The device has been found, and stays where it is. -/
def DeviceStays (env : Decisions) (db : Db) (d : DeviceId) (owner : Int) : Prop :=
  env.fails (.findDevice d) = false ∧ (∃ device, db.devices.lookup d = some device
    ∧ device.accountId = owner) ∧ env.fails (.deleteDevice d) = true

/-- The status does not say what happened. -/
def Slips (env : Decisions) (db : Db) : Request → Prop
  -- created, and then the flag or the session could not be written
  | .register email password => ∃ hash, Enrolls env db (Text.trimString email) password hash
      ∧ (FlagLost env db ∨ ¬ SessionStored env db (db.accountSeq + 1))
  -- the result of the write is dropped
  | .logout headers => ∃ token, cookieValue headers SESSION_COOKIE = some token
      ∧ env.fails (.deleteSession token) = true ∧ db.sessions.lookup token ≠ none
  | .saveSettings headers serverUrl defaultDeviceName => Admitted env db headers
      ∧ (SettingLost env db "server_url" (Text.trimString serverUrl)
        ∨ SettingLost env db "default_device_name" (Text.trimString defaultDeviceName))
  | .deleteOwn headers d => ∃ account, SignedIn env db headers account
      ∧ DeviceStays env db d account.id
  | .deleteDevice headers id d => Admitted env db headers ∧ DeviceStays env db d id
  -- there is no such account
  | .setAccountRole headers id role => Admitted env db headers
      ∧ env.fails (.setAccountRole id role) = false ∧ db.accounts.lookup id = none
  | _ => False

/-! ## §3. Writes, and what they leave. -/

variable {env : Decisions} {s : Server} {req : Request} {out : Response × Server}

omit [Crates] in
theorem Db.Unchanged.refl (db : Db) : db.Unchanged db := ⟨rfl, rfl, rfl, rfl⟩

theorem TellsTruth.refused (h : out.1.isSuccess = false) (hs : out.2.db = s.db) :
    TellsTruth s req out := by
  refine ⟨fun hsuccess => absurd (h.symm.trans hsuccess) (by simp), fun _ => ?_⟩
  rw [hs]
  exact .refl _

theorem TellsTruth.of_success (h : out.1.isSuccess = true) :
    TellsTruth s req out ↔ Made out.2.db out.1 req := by
  constructor
  · exact fun ht => ht.success h
  · exact fun hm => ⟨fun _ => hm, fun hfailed => absurd (hfailed.symm.trans h) (by simp)⟩

theorem TellsTruth.of_failure (h : out.1.isSuccess = false) :
    TellsTruth s req out ↔ s.db.Unchanged out.2.db := by
  constructor
  · exact fun ht => ht.failure h
  · exact fun hu => ⟨fun hsuccess => absurd (h.symm.trans hsuccess) (by simp), fun _ => hu⟩

omit [Crates] in
/-- A setting after a write to one of them. -/
theorem setting_attempt (env : Decisions) (db : Db) (key value k : String) :
    ((Query.setSetting key value).attempt env db).2.setting k
      = if env.fails (.setSetting key value) = false ∧ key = k then some value else db.setting k := by
  cases hf : env.fails (.setSetting key value) with
  | true =>
    obtain ⟨e, he⟩ := Query.attempt_fails db hf
    rw [he]
    simp
  | false =>
    rw [Query.attempt_works hf]
    show ((db.settings.upsert ⟨key, value⟩).lookup k).map Setting.value = _
    rw [Table.lookup_upsert]
    by_cases hk : key = k <;> simp [hk, Db.setting]

omit [Crates] in
theorem setting_lost_iff {db : Db} {key value : String} :
    ((Query.setSetting key value).attempt env db).2.setting key = some value
      ↔ ¬ SettingLost env db key value := by
  rw [setting_attempt]
  unfold SettingLost
  cases env.fails (.setSetting key value) <;> simp

omit [Crates] in
/-- A write to another setting makes no difference. -/
theorem setting_attempt_ne {db : Db} {key value k : String} (hk : key ≠ k) :
    ((Query.setSetting key value).attempt env db).2.setting k = db.setting k := by
  rw [setting_attempt, if_neg fun h => hk h.2]

omit [Crates] in
/-- A session is stored for an account that exists, or nothing happens. -/
theorem attempt_createSession (env : Decisions) {db : Db} {id : Int} (hid : db.hasAccount id = true) :
    SessionStored env db id ∧ (∃ sessions, db.sessions.insert? ⟨env.token, id⟩ = some sessions
        ∧ (Query.createSession env.token id).attempt env db
          = (.ok (), { db with sessions := sessions }))
      ∨ ¬ SessionStored env db id ∧ ∃ e,
        (Query.createSession env.token id).attempt env db = (.error e, db) := by
  unfold SessionStored
  rw [Table.lookup_eq_none_iff]
  cases hf : env.fails (.createSession env.token id) with
  | true =>
    obtain ⟨e, he⟩ := Query.attempt_fails db hf
    exact .inr ⟨by simp, e, he⟩
  | false =>
    rw [Query.attempt_works hf]
    cases hi : db.sessions.insert? ⟨env.token, id⟩ with
    | none =>
      obtain ⟨x, hx, hxt⟩ := Table.insert?_eq_none_iff.mp hi
      refine .inr ⟨fun h => h.2 x hx hxt, "UNIQUE constraint failed: sessions.token", ?_⟩
      simp only [Query.exec, Db.createSession, hi]
    | some sessions =>
      refine .inl ⟨⟨rfl, Table.insert?_fresh hi⟩, sessions, rfl, ?_⟩
      simp only [Query.exec, Db.createSession, hi, hid]
      simp

theorem outcome_startSession (env : Decisions) (s : Server) (id : Int) (email : String)
    (role : AccountRole) : outcome env (Api.startSession id email role) s
      = (match ((Query.createSession env.token id).attempt env s.db).1 with
          | .error e => errorResponse 500 ("failed to create session: " ++ e)
          | .ok () => ⟨200, .account id email role, some (setSessionCookie env.token)⟩,
        { s with db := ((Query.createSession env.token id).attempt env s.db).2 }) := by
  unfold Api.startSession
  show outcome env (.call .generateSessionToken fun token => .call (.db (.createSession token id)) _) s = _
  have htoken : Op.generateSessionToken.exec (env .generateSessionToken) s = (env.token, s) := rfl
  rw [outcome_op, htoken, outcome_query]
  cases ((Query.createSession env.token id).attempt env s.db).1 <;> rfl

omit [Crates] in
/-- With its session stored, the response logs the account in. -/
theorem logsInAs_stored (db : Db) {a : Account} {sessions : Table Session.token}
    (ha : a ∈ db.accounts) (hi : db.sessions.insert? ⟨env.token, a.id⟩ = some sessions) :
    LogsInAs { db with sessions := sessions }
      ⟨200, .account a.id a.email a.role, some (setSessionCookie env.token)⟩ a := by
  refine ⟨rfl, env.token, rfl, ?_⟩
  show (sessions.lookup env.token).bind _ = _
  rw [Table.lookup_eq_some_iff.mpr ⟨(Table.mem_insert? hi _).mpr (.inr rfl), rfl⟩]
  exact Table.lookup_eq_some_iff.mpr ⟨ha, rfl⟩

/-- A database with one account more, and the same sessions. -/
structure AddsAccount (db db' : Db) (a : Account) : Prop where
  accounts : ∀ x, x ∈ db'.accounts ↔ x ∈ db.accounts ∨ x = a
  fresh : a ∉ db.accounts
  sessions : db'.sessions = db.sessions

omit [Crates] in
theorem AddsAccount.ne {db db' : Db} {a : Account} (h : AddsAccount db db' a) :
    ¬ db.Unchanged db' := by
  intro hu
  apply h.fresh
  rw [← hu.accounts]
  exact (h.accounts a).mpr (.inr rfl)

omit [Crates] in
/-- A new account has the next id. -/
theorem attempt_createAccount (env : Decisions) (db : Db) (email hash : String)
    (role : AccountRole) :
    (env.fails (.createAccount email hash role) = false ∧ db.accountSeq < maxRowid
        ∧ email ∉ db.accounts.rows.map Account.email) ∧ (∃ db' now,
          (Query.createAccount email hash role).attempt env db = (.ok (db.accountSeq + 1), db')
          ∧ AddsAccount db db' ⟨db.accountSeq + 1, email, hash, now, role⟩)
      ∨ ¬ (env.fails (.createAccount email hash role) = false ∧ db.accountSeq < maxRowid
        ∧ email ∉ db.accounts.rows.map Account.email)
        ∧ ∃ e, (Query.createAccount email hash role).attempt env db = (.error e, db) := by
  cases hf : env.fails (.createAccount email hash role) with
  | true =>
    obtain ⟨e, he⟩ := Query.attempt_fails db hf
    exact .inr ⟨by simp, e, he⟩
  | false =>
    rw [Query.attempt_works hf]
    have hok := createAccount_isOk_iff db email hash role
      (env (.db (.createAccount email hash role))).clock
    simp only [Query.exec, true_and]
    rw [← hok]
    cases hc : db.createAccount email hash role
        (env (.db (.createAccount email hash role))).clock with
    | error e => exact .inr ⟨by simp, e, rfl⟩
    | ok db' =>
      obtain ⟨hi, hseq, -, -, hsessions, -⟩ := Db.createAccount_ok hc
      refine .inl ⟨⟨db', rfl⟩, db', _, ?_, Table.mem_insert? hi, ?_, hsessions⟩
      · show (Except.ok db'.accountSeq, db') = _
        rw [hseq]
      intro hmem
      exact Table.insert?_fresh hi _ hmem rfl

/-- The first account's registration may be cut short after its account. -/
theorem outcome_bootstrap (env : Decisions) (s : Server) (email hash : String) :
    Creates env s.db email hash ∧ (∃ db' now, AddsAccount s.db db'
        ⟨s.db.accountSeq + 1, email, hash, now, nextRole s.db⟩ ∧
        (FlagLost env s.db ∧ (∃ e, outcome env (createAccountAndMaybeBootstrapAdmin email hash).run s
            = (.error e, { s with db := db' }))
          ∨ ¬ FlagLost env s.db ∧ outcome env (createAccountAndMaybeBootstrapAdmin email hash).run s
            = (.ok (s.db.accountSeq + 1, nextRole s.db), { s with db := db' })))
      ∨ ¬ Creates env s.db email hash ∧ ∃ e,
        outcome env (createAccountAndMaybeBootstrapAdmin email hash).run s = (.error e, s) := by
  rw [createAccountAndMaybeBootstrapAdmin_run, outcome_query]
  cases hcount : env.fails .countAccounts with
  | true =>
    obtain ⟨e, he⟩ := Query.attempt_fails s.db hcount
    rw [he]
    exact .inr ⟨fun h => absurd (hcount.symm.trans h.counted) (by simp), e, rfl⟩
  | false =>
    rw [Query.attempt_works hcount]
    have hrole : nextRole s.db = if ((s.db.accounts.rows.length : Int) == 0) = true
        then AccountRole.admin else .user := by
      simp [nextRole]
    have hcreates : Creates env s.db email hash ↔
        env.fails (.createAccount email hash (nextRole s.db)) = false
          ∧ s.db.accountSeq < maxRowid ∧ email ∉ s.db.accounts.rows.map Account.email := by
      constructor
      · exact fun h => ⟨h.created, h.room, h.free⟩
      · exact fun h => ⟨hcount, h.1, h.2.1, h.2.2⟩
    unfold FlagLost
    rw [hcreates, hrole]
    simp only [Query.exec, outcome_query]
    generalize ((s.db.accounts.rows.length : Int) == 0) = first
    obtain ⟨hcan, db', now, heq, hadds⟩ | ⟨hnot, e, heq⟩ :=
      attempt_createAccount env s.db email hash (if first = true then .admin else .user)
    · refine .inl ⟨hcan, ?_⟩
      rw [heq]
      cases first with
      | false => exact ⟨db', now, hadds, .inr ⟨by simp, rfl⟩⟩
      | true =>
        -- the first account also closes registration
        simp only [if_true, outcome_query]
        cases hflag : env.fails (.setSetting REGISTRATION_ENABLED "false") with
        | true =>
          obtain ⟨e, he⟩ := Query.attempt_fails db' hflag
          rw [he]
          exact ⟨db', now, hadds, .inl ⟨by simp, e, rfl⟩⟩
        | false =>
          rw [Query.attempt_works hflag]
          refine ⟨{ db' with settings := db'.settings.upsert ⟨REGISTRATION_ENABLED, "false"⟩ }, now,
            ⟨hadds.accounts, hadds.fresh, hadds.sessions⟩, .inr ⟨by simp, rfl⟩⟩
    · rw [heq]
      exact .inr ⟨hnot, e, rfl⟩

/-! ## §4. The requests. -/

/-- The answer to a request, once its handler is known. -/
theorem answer_eq (handler : Act Response) (hroute : Api.route req = handler) :
    Api.answer env req s = outcome env handler s := by
  rw [Api.answer, hroute]

/-- What is left of a registration after the bootstrap. -/
def concludeRegistration (email : String) : Except String (Int × AccountRole) → Act Response
  | .ok (accountId, role) => Api.startSession accountId email role
  | .error e =>
    if Text.containsString e "UNIQUE" then
      pure (errorResponse 409 "That email is already registered — try logging in instead.")
    else pure (errorResponse 409 ("registration failed: " ++ e))

/-- A registration is refused, or it comes to the bootstrap. -/
theorem outcome_register (env : Decisions) (s : Server) (email password : String) :
    (∃ hash, (Creates env s.db (Text.trimString email) hash →
          Enrolls env s.db (Text.trimString email) password hash)
        ∧ (∀ h, Enrolls env s.db (Text.trimString email) password h → h = hash)
        ∧ hashPassword password (randomAlnum 22 (env (.hashPassword password)).rng) = .ok hash
        ∧ Api.answer env (.register email password) s = outcome env
          ((createAccountAndMaybeBootstrapAdmin (Text.trimString email) hash).run
            >>= concludeRegistration (Text.trimString email)) s)
      ∨ (∀ hash, ¬ Enrolls env s.db (Text.trimString email) password hash)
        ∧ ∃ resp : Response, resp.isSuccess = false
          ∧ Api.answer env (.register email password) s = (resp, s) := by
  rw [answer_eq (Api.register email password) rfl]
  unfold Api.register
  dsimp only
  split
  next hempty =>
    refine .inr ⟨fun hash h => ?_, _, ?_, rfl⟩
    · simp [h.named, h.given] at hempty
    · rfl
  next hempty =>
    simp only [Bool.or_eq_true, not_or, Bool.not_eq_true] at hempty
    rw [registrationEnabled_bind, outcome_query]
    cases hflag : env.fails (.getSetting REGISTRATION_ENABLED) with
    | true =>
      obtain ⟨e, he⟩ := Query.attempt_fails s.db hflag
      rw [he]
      refine .inr ⟨fun hash h => absurd (hflag.symm.trans h.flag_read) (by simp), _, ?_, rfl⟩
      rfl
    | false =>
      rw [Query.attempt_works hflag]
      have hread : ((Query.getSetting REGISTRATION_ENABLED).exec
          (env (.db (.getSetting REGISTRATION_ENABLED))).clock s.db).1.map
            (fun v => v.elim true (· == "true")) = .ok (registrationOpen s.db) := rfl
      rw [hread]
      cases hopen : registrationOpen s.db with
      | false =>
        refine .inr ⟨fun hash h => absurd (hopen.symm.trans h.enabled) (by simp), _, ?_, rfl⟩
        rfl
      | true =>
        have hexec : (Op.hashPassword password).exec (env (.hashPassword password)) s
            = (hashPassword password (randomAlnum 22 (env (.hashPassword password)).rng), s) := rfl
        cases hhash : hashPassword password (randomAlnum 22 (env (.hashPassword password)).rng) with
        | error e =>
          refine .inr ⟨fun hash h => absurd (hhash.symm.trans h.hashed) (by simp),
            errorResponse 500 ("failed to hash password: " ++ e), rfl, ?_⟩
          show outcome env (.call (.hashPassword password) _) s = _
          rw [outcome_op, hexec, hhash]
          rfl
        | ok hash =>
          refine .inl ⟨hash, fun h => ⟨h, hempty.1, hempty.2, hflag, hopen, hhash⟩, fun h hr => ?_, rfl, ?_⟩
          · exact Except.ok.inj (hr.hashed.symm.trans hhash)
          · show outcome env (.call (.hashPassword password) _) s = _
            rw [outcome_op, hexec, hhash]
            rfl

theorem conclude_error (env : Decisions) (s : Server) (email e : String) :
    ∃ resp : Response, resp.isSuccess = false
      ∧ outcome env (concludeRegistration email (.error e)) s = (resp, s) := by
  unfold concludeRegistration
  dsimp only
  split
  · exact ⟨_, rfl, rfl⟩
  · exact ⟨_, rfl, rfl⟩

variable (env s)

theorem truth_register (email password : String) :
    TellsTruth s (.register email password) (Api.answer env (.register email password) s)
      ↔ ¬ Slips env s.db (.register email password) := by
  obtain ⟨hash, henrolls, hunique, hhash, heq⟩ | ⟨hnot, resp, hfailed, heq⟩ :=
    outcome_register env s email password
  · rw [heq, outcome_seq]
    obtain ⟨hcreates, db', now, hadds, hflag⟩ | ⟨hnot, e, hboot⟩ :=
      outcome_bootstrap env s (Text.trimString email) hash
    · -- the account is there, and has to be reported
      have hslips (h : FlagLost env s.db ∨ ¬ SessionStored env s.db (s.db.accountSeq + 1)) :
          Slips env s.db (.register email password) := ⟨hash, henrolls hcreates, h⟩
      obtain ⟨hlost, e, hboot⟩ | ⟨hkept, hboot⟩ := hflag
      · rw [hboot]
        obtain ⟨resp, hfailed, hend⟩ := conclude_error env { s with db := db' }
          (Text.trimString email) e
        rw [hend, TellsTruth.of_failure hfailed]
        exact iff_of_false hadds.ne (not_not_intro (hslips (.inl hlost)))
      · rw [hboot]
        have ha : (⟨s.db.accountSeq + 1, Text.trimString email, hash, now, nextRole s.db⟩ : Account)
            ∈ db'.accounts := (hadds.accounts _).mpr (.inr rfl)
        have hstored : SessionStored env db' (s.db.accountSeq + 1)
            ↔ SessionStored env s.db (s.db.accountSeq + 1) := by
          unfold SessionStored
          rw [hadds.sessions]
        show TellsTruth s _ (outcome env (Api.startSession _ _ _) _) ↔ _
        rw [outcome_startSession]
        obtain ⟨hsession, sessions, hi, hcreate⟩ | ⟨hnone, e, hcreate⟩ :=
          attempt_createSession env (Db.hasAccount_iff.mpr ⟨_, ha, rfl⟩)
        · rw [hcreate, TellsTruth.of_success rfl]
          refine iff_of_true ?_ ?_
          · exact ⟨_, ha, rfl, ⟨_, hhash⟩, logsInAs_stored db' ha hi⟩
          · rintro ⟨h, -, hlost | hnone⟩
            · exact hkept hlost
            · exact hnone (hstored.mp hsession)
        · rw [hcreate, TellsTruth.of_failure rfl]
          exact iff_of_false hadds.ne (not_not_intro (hslips (.inr (hstored.not.mp hnone))))
    · rw [hboot]
      obtain ⟨resp, hfailed, hend⟩ := conclude_error env s (Text.trimString email) e
      rw [hend]
      refine iff_of_true (.refused hfailed rfl) ?_
      rintro ⟨h, hr, -⟩
      obtain rfl := hunique h hr
      exact hnot hr.toCreates
  · rw [heq]
    exact iff_of_true (.refused hfailed rfl) fun ⟨h, hr, _⟩ => hnot h hr

theorem truth_login (email password : String) :
    TellsTruth s (.login email password) (Api.answer env (.login email password) s) := by
  rw [answer_eq (Api.login email password) rfl]
  show TellsTruth s _ (outcome env (.call (.db (.findAccountByEmail (Text.trimString email))) _) s)
  rw [outcome_query]
  cases hf : env.fails (.findAccountByEmail (Text.trimString email)) with
  | true =>
    obtain ⟨e, he⟩ := Query.attempt_fails s.db hf
    rw [he]
    exact .refused rfl rfl
  | false =>
    rw [Query.attempt_works hf]
    simp only [Query.exec]
    cases hfound : s.db.accounts.rows.find? fun a => a.email == Text.trimString email with
    | none => exact .refused rfl rfl
    | some account =>
      have ha : account ∈ s.db.accounts := List.mem_of_find?_eq_some hfound
      have hemail : account.email = Text.trimString email := by simpa using List.find?_some hfound
      show TellsTruth s _ (outcome env (ite (verifyPassword password account.passwordHash = true) _ _) s)
      split
      next hverified =>
        rw [outcome_startSession]
        obtain ⟨-, sessions, hi, hcreate⟩ | ⟨-, e, hcreate⟩ :=
          attempt_createSession env (Db.hasAccount_iff.mpr ⟨_, ha, rfl⟩)
        · rw [hcreate, TellsTruth.of_success rfl]
          exact ⟨account, ha, hemail, hverified, logsInAs_stored s.db ha hi⟩
        · rw [hcreate]
          exact .refused rfl rfl
      next => exact .refused rfl rfl

theorem truth_logout (headers : HeaderMap) :
    TellsTruth s (.logout headers) (Api.answer env (.logout headers) s)
      ↔ ¬ Slips env s.db (.logout headers) := by
  rw [answer_eq (Api.logout headers) rfl]
  unfold Api.logout
  cases hc : cookieValue headers SESSION_COOKIE with
  | none =>
    rw [TellsTruth.of_success rfl]
    refine iff_of_true (fun token ht => absurd (hc.symm.trans ht) (by simp)) ?_
    rintro ⟨token, ht, -⟩
    exact absurd (hc.symm.trans ht) (by simp)
  | some token =>
    have hmade (out : Response × Server) : Made out.2.db out.1 (.logout headers)
        ↔ out.2.db.sessions.lookup token = none := by
      show (∀ t, cookieValue headers SESSION_COOKIE = some t → _) ↔ _
      simp only [hc, Option.some.injEq, forall_eq']
    have hslips : Slips env s.db (.logout headers)
        ↔ env.fails (.deleteSession token) = true ∧ s.db.sessions.lookup token ≠ none := by
      show (∃ t, cookieValue headers SESSION_COOKIE = some t ∧ _) ↔ _
      simp only [hc, Option.some.injEq, exists_eq_left']
    show TellsTruth s _ (outcome env (.call (.db (.deleteSession token)) _) s) ↔ _
    rw [outcome_query, TellsTruth.of_success rfl, hmade, hslips]
    cases hf : env.fails (.deleteSession token) with
    | true =>
      obtain ⟨e, he⟩ := Query.attempt_fails s.db hf
      rw [he]
      show s.db.sessions.lookup token = none ↔ _
      simp
    | false =>
      rw [Query.attempt_works hf]
      refine iff_of_true ?_ (by simp)
      show (s.db.sessions.deleteWhere fun x => x.token == token).lookup token = none
      rw [Table.lookup_eq_none_iff]
      intro x hx
      simpa using ((Table.mem_deleteWhere x).mp hx).2

/-- What an admin's request comes to, if it is let in. -/
theorem truth_admin {headers : HeaderMap} {handler : Act Response} {P : Prop}
    (hroute : Api.route req = Api.withAdmin headers handler)
    (hslips : Slips env s.db req ↔ Admitted env s.db headers ∧ P)
    (hin : Admitted env s.db headers → (TellsTruth s req (outcome env handler s) ↔ ¬ P)) :
    TellsTruth s req (Api.answer env req s) ↔ ¬ Slips env s.db req := by
  rw [answer_eq _ hroute, hslips]
  obtain ⟨hadmitted, heq⟩ | ⟨hnot, resp, hfailed, heq⟩ := outcome_withAdmin env s handler
  · rw [heq, hin hadmitted]
    simp [hadmitted]
  · rw [heq]
    exact iff_of_true (.refused hfailed rfl) fun h => hnot h.1

theorem truth_saveSettings (headers : HeaderMap) (serverUrl defaultDeviceName : String) :
    TellsTruth s (.saveSettings headers serverUrl defaultDeviceName)
        (Api.answer env (.saveSettings headers serverUrl defaultDeviceName) s)
      ↔ ¬ Slips env s.db (.saveSettings headers serverUrl defaultDeviceName) := by
  refine truth_admin env s rfl Iff.rfl fun _ => ?_
  show TellsTruth s _ (outcome env (.call (.db (.setSetting "server_url"
    (Text.trimString serverUrl))) fun _ => .call (.db (.setSetting "default_device_name"
      (Text.trimString defaultDeviceName))) _) s) ↔ _
  rw [outcome_query, outcome_query, TellsTruth.of_success rfl]
  generalize hurl : Text.trimString serverUrl = url
  generalize hname : Text.trimString defaultDeviceName = name
  have hmade (out : Response × Server) :
      Made out.2.db out.1 (.saveSettings headers serverUrl defaultDeviceName)
        ↔ out.2.db.setting "server_url" = some url
          ∧ out.2.db.setting "default_device_name" = some name := by
    rw [← hurl, ← hname]
    rfl
  rw [hmade]
  show (((Query.setSetting "default_device_name" name).attempt env
      ((Query.setSetting "server_url" url).attempt env s.db).2).2.setting "server_url" = some url
    ∧ ((Query.setSetting "default_device_name" name).attempt env
      ((Query.setSetting "server_url" url).attempt env s.db).2).2.setting
        "default_device_name" = some name) ↔ _
  rw [setting_attempt_ne (by decide), setting_lost_iff, setting_lost_iff, not_or]
  -- the first write leaves the second setting as it was
  unfold SettingLost
  rw [setting_attempt_ne (by decide)]

theorem truth_setRegistration (headers : HeaderMap) (enabled : Bool) :
    TellsTruth s (.setRegistration headers enabled)
        (Api.answer env (.setRegistration headers enabled) s)
      ↔ ¬ Slips env s.db (.setRegistration headers enabled) := by
  refine truth_admin (P := False) env s rfl (iff_of_false not_false fun h => h.2) fun _ =>
    iff_of_true ?_ not_false
  show TellsTruth s _ (outcome env (.call (.db (.setSetting REGISTRATION_ENABLED
    (if enabled then "true" else "false"))) _) s)
  rw [outcome_query]
  cases hf : env.fails (.setSetting REGISTRATION_ENABLED (if enabled then "true" else "false")) with
  | true =>
    obtain ⟨e, he⟩ := Query.attempt_fails s.db hf
    rw [he]
    exact .refused rfl rfl
  | false =>
    have hset : ((Query.setSetting REGISTRATION_ENABLED (if enabled then "true" else "false")).attempt
        env s.db).2.setting REGISTRATION_ENABLED = some (if enabled then "true" else "false") :=
      setting_lost_iff.mpr fun hlost => absurd (hlost.1.symm.trans hf) (by simp)
    rw [Query.attempt_works hf] at hset ⊢
    rw [TellsTruth.of_success rfl]
    exact hset

theorem truth_createAccount (headers : HeaderMap) (email password : String)
    (role : Option AccountRole) :
    TellsTruth s (.createAccount headers email password role)
        (Api.answer env (.createAccount headers email password role) s)
      ↔ ¬ Slips env s.db (.createAccount headers email password role) := by
  refine truth_admin (P := False) env s rfl (iff_of_false not_false fun h => h.2) fun _ =>
    iff_of_true ?_ not_false
  have hmade (out : Response × Server) :
      Made out.2.db out.1 (.createAccount headers email password role)
        ↔ ∃ a ∈ out.2.db.accounts, a.email = Text.trimString email
          ∧ (∃ salt, hashPassword password salt = .ok a.passwordHash) ∧ a.role = role.getD .user
          ∧ out.1.body = .account a.id a.email a.role := Iff.rfl
  have hrefused (out : Response × Server) (h : out.1.isSuccess = false) (hs : out.2.db = s.db) :
      TellsTruth s (.createAccount headers email password role) out := .refused h hs
  dsimp only
  generalize Text.trimString email = email' at hmade ⊢
  split
  next => exact hrefused _ rfl rfl
  next =>
    have hexec : (Op.hashPassword password).exec (env (.hashPassword password)) s
        = (hashPassword password (randomAlnum 22 (env (.hashPassword password)).rng), s) := rfl
    show TellsTruth s _ (outcome env (.call (.hashPassword password) _) s)
    rw [outcome_op, hexec]
    cases hhash : hashPassword password (randomAlnum 22 (env (.hashPassword password)).rng) with
    | error e => exact hrefused _ rfl rfl
    | ok hash =>
      show TellsTruth s _ (outcome env (.call (.db (.createAccount email' hash
        (role.getD .user))) _) s)
      rw [outcome_query]
      obtain ⟨-, db', now, heq, hadds⟩ | ⟨-, e, heq⟩ :=
        attempt_createAccount env s.db email' hash (role.getD .user)
      · rw [heq, TellsTruth.of_success rfl, hmade]
        exact ⟨_, (hadds.accounts _).mpr (.inr rfl), rfl, ⟨_, hhash⟩, rfl, rfl⟩
      · rw [heq]
        show TellsTruth s _ (outcome env (ite (Text.containsString e "UNIQUE" = true) _ _) s)
        split
        · exact hrefused _ rfl rfl
        · exact hrefused _ rfl rfl

/-! ### Roles and accounts. -/

omit [Crates] in
theorem role_set_iff {db : Db} {id : Int} {role : AccountRole} :
    (∃ a ∈ (db.setAccountRole id role).accounts, a.id = id ∧ a.role = role)
      ↔ db.accounts.lookup id ≠ none := by
  rw [Ne, Table.lookup_eq_none_iff, not_forall]
  constructor
  · rintro ⟨a, ha, hid, -⟩
    obtain ⟨-, hne⟩ | ⟨b, hb, hbid, -⟩ := Db.mem_setAccountRole.mp ha
    · exact absurd hid hne
    · exact ⟨b, fun h => h hb hbid⟩
  · rintro ⟨b, hb⟩
    obtain ⟨hmem, hid⟩ := Classical.not_imp.mp hb
    rw [not_not] at hid
    exact ⟨_, Db.mem_setAccountRole.mpr (.inr ⟨b, hmem, hid, rfl⟩), hid, rfl⟩

/-- The write of a role, reported as it went. -/
theorem truth_role (headers : HeaderMap) (id : Int) (role : AccountRole) :
    TellsTruth s (.setAccountRole headers id role)
        (Api.noContentOr500 ((Query.setAccountRole id role).attempt env s.db).1,
          { s with db := ((Query.setAccountRole id role).attempt env s.db).2 })
      ↔ ¬ (env.fails (.setAccountRole id role) = false ∧ s.db.accounts.lookup id = none) := by
  cases hf : env.fails (.setAccountRole id role) with
  | true =>
    obtain ⟨e, he⟩ := Query.attempt_fails s.db hf
    rw [he]
    exact iff_of_true (.refused rfl rfl) (by simp)
  | false =>
    rw [Query.attempt_works hf, TellsTruth.of_success rfl]
    show (∃ a ∈ (s.db.setAccountRole id role).accounts, a.id = id ∧ a.role = role) ↔ _
    rw [role_set_iff]
    simp

theorem truth_setAccountRole (headers : HeaderMap) (id : Int) (role : AccountRole) :
    TellsTruth s (.setAccountRole headers id role)
        (Api.answer env (.setAccountRole headers id role) s)
      ↔ ¬ Slips env s.db (.setAccountRole headers id role) := by
  refine truth_admin env s rfl Iff.rfl fun _ => ?_
  cases role with
  | admin =>
    show TellsTruth s _ (outcome env (.call (.db (.setAccountRole id .admin)) fun r =>
      .ret (Api.noContentOr500 r)) s) ↔ _
    rw [outcome_query]
    exact truth_role env s headers id .admin
  | user =>
    obtain ⟨-, heq⟩ | ⟨hnot, resp, hfailed, heq⟩ :=
      outcome_guarded env s (q := .setAccountRole id .user) Api.noContentOr500 rfl
    · exact heq ▸ truth_role env s headers id .user
    · refine iff_of_true (heq ▸ .refused hfailed rfl) ?_
      -- an account that does not exist is not guarded
      rintro ⟨-, hnone⟩
      exact hnot (.inr fun account h => absurd (hnone.symm.trans h) (by simp))

theorem truth_deleteAccount (headers : HeaderMap) (id : Int) :
    TellsTruth s (.deleteAccount headers id) (Api.answer env (.deleteAccount headers id) s)
      ↔ ¬ Slips env s.db (.deleteAccount headers id) := by
  refine truth_admin (P := False) env s rfl (iff_of_false not_false fun h => h.2) fun _ =>
    iff_of_true ?_ not_false
  obtain ⟨-, heq⟩ | ⟨-, resp, hfailed, heq⟩ :=
    outcome_guarded env s (q := .deleteAccount id) Api.noContentOr500 rfl
  · refine heq ▸ ?_
    cases hf : env.fails (.deleteAccount id) with
    | true =>
      obtain ⟨e, he⟩ := Query.attempt_fails s.db hf
      rw [he]
      exact .refused rfl rfl
    | false =>
      rw [Query.attempt_works hf, TellsTruth.of_success rfl]
      refine ⟨fun a ha => (Db.mem_deleteAccount.mp ha).2, fun d hd => ?_, fun x hx => ?_⟩
      · simpa using ((Table.mem_deleteWhere d).mp hd).2
      · simpa using ((Table.mem_deleteWhere x).mp hx).2
  · exact heq ▸ .refused hfailed rfl

/-! ### Devices. -/

/-- Kicking a device out does not touch the database. -/
theorem kickDevice_db (d : DeviceId) (message : String) :
    (outcome env (Api.kickDevice d message) s).2.db = s.db := by
  have hkick : Prog.Follows (fun _ o => ∀ q, o ≠ .db q) (fun _ _ => True)
      (Api.kickDevice d message) [] := by
    refine ⟨by simp, fun live => ⟨by simp, fun _ => ?_⟩⟩
    cases live with
    | none => trivial
    | some c =>
      refine ⟨by simp, fun tx => ?_⟩
      cases tx with
      | none => trivial
      | some tx => exact ⟨by simp, fun _ => trivial⟩
  exact outcome_db env hkick s

/-- A device that was found, and is then removed. -/
theorem truth_removed {d : DeviceId} {message : String} (hfound : s.db.devices.lookup d ≠ none)
    (hmade : ∀ out : Response × Server, Made out.2.db out.1 req ↔ out.2.db.devices.lookup d = none) :
    TellsTruth s req (outcome env (.call (.db (.deleteDevice d)) fun _ =>
        Api.kickDevice d message >>= fun _ => pure (statusResponse 204)) s)
      ↔ ¬ env.fails (.deleteDevice d) = true := by
  rw [outcome_query, outcome_seq, TellsTruth.of_success rfl, hmade]
  show (outcome env (Api.kickDevice d message) _).2.db.devices.lookup d = none ↔ _
  rw [kickDevice_db]
  cases hf : env.fails (.deleteDevice d) with
  | true =>
    obtain ⟨e, he⟩ := Query.attempt_fails s.db hf
    rw [he]
    exact iff_of_false hfound (by simp)
  | false =>
    rw [Query.attempt_works hf]
    refine iff_of_true ?_ (by simp)
    show (s.db.devices.deleteWhere fun x => x.id == d).lookup d = none
    rw [Table.lookup_eq_none_iff]
    intro x hx
    simpa using ((Table.mem_deleteWhere x).mp hx).2

/-- The device is looked up, compared with its owner, and removed. -/
theorem truth_findDevice {d : DeviceId} {owner : Int} {message : String} {other missing : Response}
    (hother : other.isSuccess = false) (hmissing : missing.isSuccess = false)
    (hmade : ∀ out : Response × Server, Made out.2.db out.1 req ↔ out.2.db.devices.lookup d = none) :
    TellsTruth s req (outcome env (.call (.db (.findDevice d)) fun found =>
        match found with
        | .ok (some device) =>
          if device.accountId = owner then .call (.db (.deleteDevice d)) fun _ =>
            Api.kickDevice d message >>= fun _ => pure (statusResponse 204)
          else pure other
        | .ok none => pure missing
        | .error e => pure (errorResponse 500 e)) s)
      ↔ ¬ DeviceStays env s.db d owner := by
  unfold DeviceStays
  rw [outcome_query]
  cases hf : env.fails (.findDevice d) with
  | true =>
    obtain ⟨e, he⟩ := Query.attempt_fails s.db hf
    rw [he]
    exact iff_of_true (.refused rfl rfl) (by simp)
  | false =>
    rw [Query.attempt_works hf]
    simp only [Query.exec]
    cases hl : s.db.devices.lookup d with
    | none => exact iff_of_true (.refused hmissing rfl) (by simp)
    | some device =>
      by_cases howner : device.accountId = owner
      · simp only [howner, if_true]
        rw [truth_removed env s (by simp [hl]) hmade]
        simp [howner]
      · simp only [howner, if_false]
        exact iff_of_true (.refused hother rfl) (by simp [howner])

theorem truth_deleteDevice (headers : HeaderMap) (id : Int) (d : DeviceId) :
    TellsTruth s (.deleteDevice headers id d) (Api.answer env (.deleteDevice headers id d) s)
      ↔ ¬ Slips env s.db (.deleteDevice headers id d) := by
  refine truth_admin env s rfl Iff.rfl fun _ => ?_
  refine truth_findDevice env s ?_ ?_ fun _ => Iff.rfl
  · rfl
  · rfl

theorem truth_deleteOwn (headers : HeaderMap) (d : DeviceId) :
    TellsTruth s (.deleteOwn headers d) (Api.answer env (.deleteOwn headers d) s)
      ↔ ¬ Slips env s.db (.deleteOwn headers d) := by
  rw [answer_eq (Api.deleteOwn headers d) rfl]
  unfold Api.deleteOwn
  obtain ⟨account, hsigned, heq⟩ | ⟨hnot, heq⟩ := outcome_requireAccount env s
  · rw [heq]
    have hslips : Slips env s.db (.deleteOwn headers d) ↔ DeviceStays env s.db d account.id := by
      constructor
      · rintro ⟨account', hsigned', hstays⟩
        rwa [hsigned.unique hsigned']
      · exact fun hstays => ⟨account, hsigned, hstays⟩
    rw [hslips]
    refine truth_findDevice env s ?_ ?_ fun _ => Iff.rfl
    · rfl
    · rfl
  · rw [heq]
    exact iff_of_true (.refused rfl rfl) fun ⟨account, hsigned, _⟩ => hnot account hsigned

/-- **The status of a request tells the truth about the database** unless the
request slips. -/
theorem status_tells_truth_iff (hreq : req.mutates = true) :
    TellsTruth s req (Api.answer env req s) ↔ ¬ Slips env s.db req := by
  cases req with
  | register email password => exact truth_register env s email password
  | login email password => exact iff_of_true (truth_login env s email password) not_false
  | logout headers => exact truth_logout env s headers
  | saveSettings headers url name => exact truth_saveSettings env s headers url name
  | createAccount headers email password role =>
    exact truth_createAccount env s headers email password role
  | setAccountRole headers id role => exact truth_setAccountRole env s headers id role
  | deleteAccount headers id => exact truth_deleteAccount env s headers id
  | setRegistration headers enabled => exact truth_setRegistration env s headers enabled
  | deleteOwn headers d => exact truth_deleteOwn env s headers d
  | deleteDevice headers id d => exact truth_deleteDevice env s headers id d
  | _ => exact absurd hreq Bool.false_ne_true

end

/-! ## §5. One slip. -/

section Example

open scoped Transparent

theorem status_tells_truth_saved : TellsTruth oneAdmin (.saveSettings annsCookie "wss://a" "")
    (Api.answer (failing []) (.saveSettings annsCookie "wss://a" "") oneAdmin) := by
  refine (status_tells_truth_iff (failing []) oneAdmin rfl).mpr ?_
  rintro ⟨-, hlost | hlost⟩
  · exact absurd hlost.1 (by decide +kernel)
  · exact absurd hlost.1 (by decide +kernel)

/-- Settings that are not saved are reported as saved. -/
theorem unsaved_settings_reported : ¬ ∀ (env : Decisions) (s : Server) (req : Request),
    req.mutates = true → TellsTruth s req (Api.answer env req s) := by
  intro h
  have htruth := (h (failing [.setSetting "server_url" "wss://a"]) oneAdmin
    (.saveSettings annsCookie "wss://a" "") rfl).success (by decide +kernel)
  have hlost : (Api.answer (failing [.setSetting "server_url" "wss://a"])
      (.saveSettings annsCookie "wss://a" "") oneAdmin).2.db.setting "server_url" = none := by
    decide +kernel
  exact absurd (hlost.symm.trans htruth.1) (by simp)

end Example

end Visuara.Signaling
