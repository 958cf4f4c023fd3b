/-
  Visuara.Signaling.FrontDoors
  ────────────────────────────
  **THE TWO FRONT DOORS.**

  Accounts are created and logged into over the WebSocket and over the JSON
  API, by handlers of their own.  The API trims the email, refuses empty
  credentials, gives up when the registration flag cannot be read and needs a
  session; the WebSocket does none of this.

    • `DoorsAgree`     — both doors open, or neither does;
    • `DoorsDiffer`    — when one of these differences shows;
    • `doors_agree_iff`.
-/
import Visuara.Signaling.Status

namespace Visuara.Signaling

open Interleave Relational

/-! ## §1. The doors. -/

section

variable [Crates]

/-- `/ws` takes up one message of connection `c`. -/
def wsAnswer (env : Decisions) (c : ConnectionId) (m : ClientMessage) (s : Server) :
    Except String Unit × Server :=
  outcome env (handleMessage c m).run s

/-- An account that was not there before. -/
def NewRow (db db' : Db) (email hash : String) (role : AccountRole) : Prop :=
  ∃ a ∈ db'.accounts, a ∉ db.accounts ∧ a.email = email ∧ a.passwordHash = hash ∧ a.role = role

def NewAccount (db db' : Db) (email : String) (role : AccountRole) : Prop :=
  ∃ hash, NewRow db db' email hash role

/-- `/ws` lets the connection in. -/
def WsAccepts (env : Decisions) (c : ConnectionId) (email password : String) (s : Server) : Prop :=
  ∃ id, (⟨.setConnState c (.authenticated id), ()⟩ : Call Op Op.Res)
    ∈ Prog.calls Op.exec env (handleMessage c (.login email password)).run s

/-- The API lets the browser in. -/
def HttpAccepts (env : Decisions) (email password : String) (s : Server) : Prop :=
  (Api.answer env (.login email password) s).1.isSuccess = true

/-- What one door does with these credentials, the other does. -/
structure DoorsAgree (env : Decisions) (c : ConnectionId) (email password : String) (s : Server) :
    Prop where
  register : ∀ storedEmail role,
    NewAccount s.db (wsAnswer env c (.register email password) s).2.db storedEmail role
      ↔ NewAccount s.db (Api.answer env (.register email password) s).2.db storedEmail role
  login : WsAccepts env c email password s ↔ HttpAccepts env email password s

/-! ## §2. The differences. -/

/-- A flag that cannot be read. -/
def FlagUnread (env : Decisions) : Prop := env.fails (.getSetting REGISTRATION_ENABLED) = true

/-- The credentials of a registration that the API refuses, or stores otherwise. -/
def Untidy (email password : String) : Prop :=
  (Text.trimString email).isEmpty = true ∨ password.isEmpty = true ∨ Text.trimString email ≠ email

/-- One registration creates an account, and the other not the same. -/
def RegistrationsDiffer (env : Decisions) (db : Db) (email password : String) : Prop :=
  ∃ hash, hashPassword password (randomAlnum 22 (env (.hashPassword password)).rng) = .ok hash
    ∧ (FlagUnread env ∧ Creates env db email hash
      ∨ ¬ FlagUnread env ∧ registrationOpen db = true ∧ Untidy email password
        ∧ (Creates env db email hash ∨ (Text.trimString email).isEmpty = false
          ∧ password.isEmpty = false ∧ Creates env db (Text.trimString email) hash))

/-- The lookup of the email finds an account that the password opens. -/
def Opens (env : Decisions) (db : Db) (email password : String) (a : Account) : Prop :=
  env.fails (.findAccountByEmail email) = false
    ∧ db.accounts.rows.find? (fun a => a.email == email) = some a
    ∧ verifyPassword password a.passwordHash = true

/-- One login succeeds, and the other does not. -/
def LoginsDiffer (env : Decisions) (db : Db) (email password : String) : Prop :=
  if Text.trimString email = email then
    ∃ a, Opens env db email password a ∧ ¬ SessionStored env db a.id
  else ¬ ((∃ a, Opens env db email password a)
    ↔ ∃ a, Opens env db (Text.trimString email) password a ∧ SessionStored env db a.id)

def DoorsDiffer (env : Decisions) (db : Db) (email password : String) : Prop :=
  RegistrationsDiffer env db email password ∨ LoginsDiffer env db email password

/-! ## §3. Registration. -/

variable {env : Decisions} {c : ConnectionId} {s : Server} {email password : String}

omit [Crates] in
theorem newRow_refl {db : Db} {e h : String} {r : AccountRole} : ¬ NewRow db db e h r := by
  rintro ⟨a, ha, hnew, -⟩
  exact hnew ha

omit [Crates] in
theorem AddsAccount.new_iff {db db' : Db} {a : Account} (hadds : AddsAccount db db' a)
    {e h : String} {r : AccountRole} :
    NewRow db db' e h r ↔ a.email = e ∧ a.passwordHash = h ∧ a.role = r := by
  constructor
  · rintro ⟨b, hb, hnew, hrow⟩
    obtain hold | rfl := (hadds.accounts b).mp hb
    · exact absurd hold hnew
    · exact hrow
  · exact fun hrow => ⟨a, (hadds.accounts a).mpr (.inr rfl), hadds.fresh, hrow⟩

omit [Crates] in
theorem NewRow.congr {db db₁ db₂ : Db} {e h : String} {r : AccountRole}
    (hsame : db₁.accounts = db₂.accounts) : NewRow db db₁ e h r ↔ NewRow db db₂ e h r := by
  unfold NewRow
  rw [hsame]

/-- The account the bootstrap creates. -/
theorem bootstrap_new (env : Decisions) (s : Server) (email hash : String) {e h : String}
    {r : AccountRole} :
    NewRow s.db (outcome env (createAccountAndMaybeBootstrapAdmin email hash).run s).2.db e h r
      ↔ Creates env s.db email hash ∧ email = e ∧ hash = h ∧ nextRole s.db = r := by
  obtain ⟨hcreates, db', now, hadds, ⟨-, e, heq⟩ | ⟨-, heq⟩⟩ | ⟨hnot, e, heq⟩ :=
    outcome_bootstrap env s email hash
  · rw [heq, hadds.new_iff]
    exact (and_iff_right hcreates).symm
  · rw [heq, hadds.new_iff]
    exact (and_iff_right hcreates).symm
  · rw [heq]
    exact iff_of_false newRow_refl fun h => hnot h.1

omit [Crates] in
/-- A flag that cannot be read counts as open. -/
theorem flag_read (env : Decisions) (db : Db) :
    (((Query.getSetting REGISTRATION_ENABLED).attempt env db).1.map
        fun v => v.elim true (· == "true")).toOption.getD true
      = (env.fails (.getSetting REGISTRATION_ENABLED) || registrationOpen db) := by
  cases hf : env.fails (.getSetting REGISTRATION_ENABLED) with
  | true =>
    obtain ⟨e, he⟩ := Query.attempt_fails db hf
    rw [he]
    rfl
  | false =>
    rw [Query.attempt_works hf]
    rfl

omit [Crates] in
/-- What is left of a registration over the WebSocket makes no query. -/
theorem follows_ws_reply (c : ConnectionId) (r : Except String (Int × AccountRole)) :
    Prog.Follows (fun _ o => ∀ q, o ≠ Op.db q) (fun _ _ => True)
      (match r with
        | .ok (accountId, _) => (do
          Handler.perform (.setConnState c (.authenticated accountId))
          let token ← Handler.perform .generateSessionToken
          Handler.send c (.authOk token) : Handler Unit)
        | .error e => Handler.send c (.authError ("registration failed: " ++ e))).run [] := by
  cases r with
  | error e => exact ⟨by simp, fun _ => trivial⟩
  | ok created => exact ⟨by simp, fun _ => ⟨by simp, fun _ => ⟨by simp, fun _ => trivial⟩⟩⟩

/-- The account of a registration over the WebSocket. -/
theorem ws_new_iff {e h : String} {r : AccountRole} :
    NewRow s.db (wsAnswer env c (.register email password) s).2.db e h r
      ↔ (hashPassword password (randomAlnum 22 (env (.hashPassword password)).rng) = .ok h
          ∧ (FlagUnread env ∨ registrationOpen s.db = true) ∧ Creates env s.db email h)
        ∧ email = e ∧ nextRole s.db = r := by
  unfold wsAnswer FlagUnread
  simp only [handleMessage, Handler.lift_bind, registrationEnabled_bind, outcome_query]
  rw [flag_read, Query.attempt_reads rfl]
  cases hopen : (env.fails (.getSetting REGISTRATION_ENABLED) || registrationOpen s.db) with
  | false =>
    rw [Bool.or_eq_false_iff] at hopen
    refine iff_of_false ?_ ?_
    · have hsend : Prog.Follows (fun _ o => ∀ q, o ≠ .db q) (fun _ _ => True)
          (Handler.send c (.authError "registration is currently disabled")).run [] :=
        ⟨by simp, fun _ => trivial⟩
      simp only [Bool.not_false, if_true]
      rw [outcome_db env hsend]
      exact newRow_refl
    · rintro ⟨⟨-, hflag, -⟩, -⟩
      simp [hopen.1, hopen.2] at hflag
  | true =>
    rw [Bool.or_eq_true] at hopen
    simp only [hopen, true_and, Bool.not_true, Bool.false_eq_true, if_false, Handler.mk_bind, perform,
      Prog.perform_bind]
    have hexec : (Op.hashPassword password).exec (env (.hashPassword password)) s
        = (hashPassword password (randomAlnum 22 (env (.hashPassword password)).rng), s) := rfl
    rw [outcome_op, hexec]
    cases hhash : hashPassword password (randomAlnum 22 (env (.hashPassword password)).rng) with
    | error e' => exact iff_of_false newRow_refl fun hnew => absurd hnew.1.1 (by simp)
    | ok hash =>
      simp only [Handler.lift_bind, Except.ok.injEq]
      have hboot : (hash = h ∧ Creates env s.db email h) ∧ email = e ∧ nextRole s.db = r
          ↔ Creates env s.db email hash ∧ email = e ∧ hash = h ∧ nextRole s.db = r := by
        constructor
        · rintro ⟨⟨rfl, hcreates⟩, he, hr⟩
          exact ⟨hcreates, he, rfl, hr⟩
        · rintro ⟨hcreates, he, rfl, hr⟩
          exact ⟨⟨rfl, hcreates⟩, he, hr⟩
      rw [outcome_seq, hboot, ← bootstrap_new]
      exact NewRow.congr (congrArg Db.accounts (outcome_db env (follows_ws_reply c _) _))

/-- The session comes after the account. -/
theorem conclude_accounts (env : Decisions) (email : String)
    (r : Except String (Int × AccountRole)) (s : Server) :
    (outcome env (concludeRegistration email r) s).2.db.accounts = s.db.accounts := by
  cases r with
  | error e =>
    obtain ⟨resp, -, heq⟩ := conclude_error env s email e
    rw [heq]
  | ok created =>
    show (outcome env (Api.startSession created.1 email created.2) s).2.db.accounts = _
    rw [outcome_startSession]
    exact Query.attempt_accounts rfl

/-- The account of a registration over the API. -/
theorem http_new_iff {e h : String} {r : AccountRole} :
    NewRow s.db (Api.answer env (.register email password) s).2.db e h r
      ↔ Enrolls env s.db (Text.trimString email) password h
        ∧ Text.trimString email = e ∧ nextRole s.db = r := by
  obtain ⟨hash, henrolls, hunique, -, heq⟩ | ⟨hnot, resp, -, heq⟩ :=
    outcome_register env s email password
  · have hboot : Enrolls env s.db (Text.trimString email) password h
          ∧ Text.trimString email = e ∧ nextRole s.db = r
        ↔ Creates env s.db (Text.trimString email) hash ∧ Text.trimString email = e ∧ hash = h
          ∧ nextRole s.db = r := by
      constructor
      · rintro ⟨hr, he, hrole⟩
        obtain rfl := hunique h hr
        exact ⟨hr.toCreates, he, rfl, hrole⟩
      · rintro ⟨hcreates, he, rfl, hrole⟩
        exact ⟨henrolls hcreates, he, hrole⟩
    rw [heq, outcome_seq, hboot, ← bootstrap_new]
    exact NewRow.congr (conclude_accounts env _ _ _)
  · rw [heq]
    exact iff_of_false newRow_refl fun hr => hnot h hr.1

omit [Crates] in
/-- Two accounts at most, alike where there are two. -/
theorem stored_alike_iff {P Q : Prop} {x y : String} {n : AccountRole} :
    (∀ e r, P ∧ x = e ∧ n = r ↔ Q ∧ y = e ∧ n = r) ↔ (P ↔ Q) ∧ (P → y = x) := by
  constructor
  · intro h
    refine ⟨⟨fun hp => ?_, fun hq => ?_⟩, fun hp => ?_⟩
    · exact ((h x n).mp ⟨hp, rfl, rfl⟩).1
    · exact ((h y n).mpr ⟨hq, rfl, rfl⟩).1
    · exact ((h x n).mp ⟨hp, rfl, rfl⟩).2.1
  · rintro ⟨hiff, hsame⟩ e r
    constructor
    · intro ⟨hp, he, hr⟩
      exact ⟨hiff.mp hp, (hsame hp).trans he, hr⟩
    · intro ⟨hq, he, hr⟩
      exact ⟨hiff.mpr hq, (hsame (hiff.mpr hq)).symm.trans he, hr⟩

theorem registrations_agree_iff :
    (∀ storedEmail role,
      NewAccount s.db (wsAnswer env c (.register email password) s).2.db storedEmail role
        ↔ NewAccount s.db (Api.answer env (.register email password) s).2.db storedEmail role)
      ↔ ¬ RegistrationsDiffer env s.db email password := by
  unfold NewAccount RegistrationsDiffer
  simp only [ws_new_iff, http_new_iff, exists_and_right]
  cases hhash : hashPassword password (randomAlnum 22 (env (.hashPassword password)).rng) with
  | error e =>
    refine iff_of_true (fun storedEmail role => iff_of_false ?_ ?_) (by simp)
    · simp
    · rintro ⟨⟨hash, h⟩, -⟩
      exact absurd (hhash.symm.trans h.hashed) (by simp)
  | ok hash =>
    have henrolls : (∃ h, Enrolls env s.db (Text.trimString email) password h)
        ↔ ¬ FlagUnread env ∧ registrationOpen s.db = true
          ∧ (Text.trimString email).isEmpty = false ∧ password.isEmpty = false
          ∧ Creates env s.db (Text.trimString email) hash := by
      unfold FlagUnread
      constructor
      · rintro ⟨h, hr⟩
        obtain rfl := Except.ok.inj (hr.hashed.symm.trans hhash)
        exact ⟨by simp [hr.flag_read], hr.enabled, hr.named, hr.given, hr.toCreates⟩
      · rintro ⟨hflag, henabled, hnamed, hgiven, hcreates⟩
        exact ⟨hash, hcreates, hnamed, hgiven, by simpa using hflag, henabled, hhash⟩
    rw [henrolls]
    simp only [Except.ok.injEq, exists_eq_left', stored_alike_iff]
    unfold Untidy
    by_cases hunread : FlagUnread env
    · -- only the WebSocket goes on
      simp only [hunread, true_or, true_and, not_true_eq_false, false_and, or_false]
      constructor
      · exact fun h hcreated => h.1.mp hcreated
      · exact fun hnone => ⟨iff_of_false hnone not_false, fun hcreated => absurd hcreated hnone⟩
    · by_cases hopen : registrationOpen s.db = true
      · by_cases htidy : Text.trimString email = email
        · rw [htidy]
          cases email.isEmpty <;> cases password.isEmpty <;> simp [hunread, hopen]
        · generalize Creates env s.db email hash = created
          simp only [hunread, hopen, htidy, false_or, true_and, not_false_eq_true, ne_eq, or_true,
            imp_false, false_and, not_or]
          constructor
          · exact fun h => ⟨h.2, fun hother => h.2 (h.1.mpr hother)⟩
          · exact fun h => ⟨iff_of_false h.1 h.2, h.1⟩
      · simp [hunread, hopen]

/-! ## §4. Login. -/

theorem wsAccepts_iff : WsAccepts env c email password s ↔ ∃ a, Opens env s.db email password a := by
  unfold WsAccepts Opens
  simp only [handleMessage, Handler.query_bind]
  rw [Prog.calls_call, exec_attempt]
  cases hf : env.fails (.findAccountByEmail email) with
  | true =>
    obtain ⟨e, he⟩ := Query.attempt_fails s.db hf
    rw [he]
    exact iff_of_false (by simp [Prog.calls]) (by simp)
  | false =>
    rw [Query.attempt_works hf]
    simp only [Query.exec, true_and]
    cases s.db.accounts.rows.find? fun a => a.email == email with
    | none => exact iff_of_false (by simp [Prog.calls]) (by simp)
    | some account =>
      cases hverified : verifyPassword password account.passwordHash with
      | false => exact iff_of_false (by simp [hverified, Prog.calls]) (by simp [hverified])
      | true =>
        refine iff_of_true ⟨account.id, List.mem_cons_of_mem _ ?_⟩ ⟨account, rfl, hverified⟩
        simp only [hverified, if_true]
        exact List.mem_cons_self

theorem httpAccepts_iff : HttpAccepts env email password s
    ↔ ∃ a, Opens env s.db (Text.trimString email) password a ∧ SessionStored env s.db a.id := by
  unfold HttpAccepts Opens
  rw [answer_eq (Api.login email password) rfl]
  show Response.isSuccess (outcome env (.call (.db (.findAccountByEmail (Text.trimString email))) _)
    s).1 = true ↔ _
  rw [outcome_query]
  generalize Text.trimString email = email
  cases hf : env.fails (.findAccountByEmail email) with
  | true =>
    obtain ⟨e, he⟩ := Query.attempt_fails s.db hf
    rw [he]
    exact iff_of_false Bool.false_ne_true (by simp)
  | false =>
    rw [Query.attempt_works hf]
    simp only [Query.exec, true_and]
    cases hfound : s.db.accounts.rows.find? fun a => a.email == email with
    | none => exact iff_of_false Bool.false_ne_true (by simp)
    | some account =>
      show Response.isSuccess (outcome env (ite (verifyPassword password account.passwordHash = true)
        _ _) s).1 = true ↔ _
      cases hverified : verifyPassword password account.passwordHash with
      | false => exact iff_of_false Bool.false_ne_true (by simp [hverified])
      | true =>
        have ha : account ∈ s.db.accounts := List.mem_of_find?_eq_some hfound
        rw [if_pos rfl, outcome_startSession]
        obtain ⟨hstored, sessions, -, heq⟩ | ⟨hnone, e, heq⟩ :=
          attempt_createSession env (Db.hasAccount_iff.mpr ⟨_, ha, rfl⟩)
        · rw [heq]
          exact iff_of_true rfl ⟨account, ⟨rfl, hverified⟩, hstored⟩
        · rw [heq]
          refine iff_of_false Bool.false_ne_true ?_
          rintro ⟨a, ⟨hsame, -⟩, hstored⟩
          rw [← Option.some.inj hsame] at hstored
          exact hnone hstored

theorem logins_agree_iff : (WsAccepts env c email password s ↔ HttpAccepts env email password s)
    ↔ ¬ LoginsDiffer env s.db email password := by
  rw [wsAccepts_iff, httpAccepts_iff]
  unfold LoginsDiffer
  split
  next htidy =>
    rw [htidy]
    constructor
    · rintro hiff ⟨a, hopens, hnone⟩
      obtain ⟨b, hb, hstored⟩ := hiff.mp ⟨a, hopens⟩
      obtain rfl := Option.some.inj (hopens.2.1.symm.trans hb.2.1)
      exact hnone hstored
    · intro hall
      constructor
      · rintro ⟨a, hopens⟩
        by_contra hnone
        exact hall ⟨a, hopens, fun hstored => hnone ⟨a, hopens, hstored⟩⟩
      · exact fun ⟨a, hopens, _⟩ => ⟨a, hopens⟩
  next => exact not_not.symm

/-! ## §5. In at one door, back in at the other. -/

omit [Crates] in
/-- The new account is the one its email finds. -/
theorem NewRow.found {db db' : Db} {email hash : String} {r : AccountRole}
    (h : NewRow db db' email hash r) :
    ∃ a, db'.accounts.rows.find? (fun a => a.email == email) = some a ∧ a.passwordHash = hash := by
  obtain ⟨a, ha, -, rfl, hhash, -⟩ := h
  cases hf : db'.accounts.rows.find? fun b => b.email == a.email with
  | none => exact absurd (List.find?_eq_none.mp hf a ha) (by simp)
  | some b =>
    have hb : b ∈ db'.accounts := List.mem_of_find?_eq_some hf
    have hemail : b.email = a.email := by simpa using List.find?_some hf
    obtain rfl := Db.eq_of_email hb ha hemail
    exact ⟨b, rfl, hhash⟩

/-- With the password it was created with, the new account opens. -/
theorem NewRow.opens {db db' : Db} {email hash : String} {r : AccountRole} {env' : Decisions}
    (h : NewRow db db' email hash r) (hverify : verifyPassword password hash = true)
    (hlookup : env'.fails (.findAccountByEmail email) = false) :
    ∃ a, Opens env' db' email password a := by
  obtain ⟨a, hfound, rfl⟩ := h.found
  exact ⟨a, hlookup, hfound, hverify⟩

/-- Created at one door with a trimmed email, the account can be logged into at
the other. -/
structure CrossLogin (env env' : Decisions) (c : ConnectionId) (email password : String)
    (s : Server) : Prop where
  ws_then_http : ∀ e r, NewAccount s.db (wsAnswer env c (.register email password) s).2.db e r →
    (∀ id, SessionStored env' (wsAnswer env c (.register email password) s).2.db id) →
    HttpAccepts env' email password (wsAnswer env c (.register email password) s).2
  http_then_ws : ∀ e r, NewAccount s.db (Api.answer env (.register email password) s).2.db e r →
    WsAccepts env' c email password (Api.answer env (.register email password) s).2

theorem cross_login {env' : Decisions} (htidy : Text.trimString email = email)
    (hverify : ∀ salt hash, hashPassword password salt = .ok hash →
      verifyPassword password hash = true)
    (hlookup : env'.fails (.findAccountByEmail email) = false) :
    CrossLogin env env' c email password s := by
  constructor
  · rintro e r ⟨hash, hnew⟩ hstored
    obtain ⟨⟨hhash, -⟩, rfl, -⟩ := ws_new_iff.mp hnew
    obtain ⟨a, hopens⟩ := hnew.opens (hverify _ _ hhash) hlookup
    rw [httpAccepts_iff, htidy]
    exact ⟨a, hopens, hstored a.id⟩
  · rintro e r ⟨hash, hnew⟩
    obtain ⟨hr, rfl, -⟩ := http_new_iff.mp hnew
    rw [htidy] at hnew
    obtain ⟨a, hopens⟩ := hnew.opens (hverify _ _ hr.hashed) hlookup
    exact wsAccepts_iff.mpr ⟨a, hopens⟩

/-- **The two front doors agree** unless the registrations or the logins differ,
and what one has let in with a trimmed email, the other lets in. -/
theorem doors_agree_iff (env : Decisions) (c : ConnectionId) (email password : String)
    (s : Server) :
    (DoorsAgree env c email password s ↔ ¬ DoorsDiffer env s.db email password)
      ∧ (Text.trimString email = email →
        (∀ salt hash, hashPassword password salt = .ok hash →
          verifyPassword password hash = true) →
        ∀ env' : Decisions, env'.fails (.findAccountByEmail email) = false →
          CrossLogin env env' c email password s) := by
  refine ⟨?_, fun htidy hverify env' hlookup => cross_login htidy hverify hlookup⟩
  unfold DoorsDiffer
  rw [not_or, ← registrations_agree_iff (c := c), ← logins_agree_iff (c := c)]
  constructor
  · exact fun h => ⟨h.register, h.login⟩
  · exact fun h => ⟨h.1, h.2⟩

end

/-! ## §6. A closed door that opens. -/

section Example

open scoped Transparent

theorem doors_agree_bob : DoorsAgree (failing []) "c" "bob@example.com" "pw" oneAdmin
    ∧ CrossLogin (failing []) (failing []) "c" "bob@example.com" "pw" oneAdmin := by
  obtain ⟨hagree, hcross⟩ := doors_agree_iff (failing []) "c" "bob@example.com" "pw" oneAdmin
  have htidy : Text.trimString "bob@example.com" = "bob@example.com" := by decide +kernel
  constructor
  · refine hagree.mpr ?_
    rintro (⟨hash, -, ⟨hunread, -⟩ | ⟨-, -, huntidy, -⟩⟩ | hlogins)
    · exact absurd hunread (by unfold FlagUnread; decide +kernel)
    · exact absurd huntidy (by unfold Untidy; decide +kernel)
    · rw [LoginsDiffer, if_pos htidy] at hlogins
      obtain ⟨a, ⟨-, hfound, -⟩, -⟩ := hlogins
      have hnone : oneAdmin.db.accounts.rows.find? (fun a => a.email == "bob@example.com") = none := by
        decide +kernel
      exact absurd (hnone.symm.trans hfound) (by simp)
  · refine hcross htidy (fun salt hash hhash => ?_) (failing []) (by decide +kernel)
    obtain rfl := Except.ok.inj hhash
    exact beq_self_eq_true _

/-- An email with a blank at its end. -/
theorem doors_differ : ¬ ∀ (env : Decisions) (c : ConnectionId) (email password : String)
    (s : Server), DoorsAgree env c email password s := by
  intro h
  have hagree := (h (failing []) "c" "bob@example.com " "pw" (Server.blank true)).register
  refine registrations_agree_iff.mp hagree ⟨"$argon2id$pw", rfl, .inr ⟨?_, ?_, ?_, .inl ?_⟩⟩
  · unfold FlagUnread
    decide +kernel
  · decide +kernel
  · unfold Untidy
    decide +kernel
  · exact ⟨by decide +kernel, by decide +kernel, by decide +kernel, by decide +kernel⟩

end Example

end Visuara.Signaling
