/-
  Visuara.Signaling.Db
  ────────────────────
  **THE SQLITE STORE** (`visuara-signaling/src/db.rs`).

  Accounts, devices, settings and sessions, as tables with primary keys.  A
  `Db` that breaks a key, shares an email or has an id beyond the
  AUTOINCREMENT counter cannot be built.

  A `Query` is one method of `Db`: the closure it runs under the connection's
  lock, so one atomic step.  `Query.exec` is its meaning when SQLite itself
  does not fail; a failure of SQLite has no effect and is added in
  `Visuara.Signaling.State`.

  Whether `REFERENCES` is enforced depends on how SQLite was built; it is a
  field, and no result depends on it.
-/
import Visuara.Relational.Table

namespace Visuara.Signaling

open Relational

/-! ## §1. Rows. -/

inductive AccountRole where
  | user
  | admin
  deriving DecidableEq, Repr

/-- A row of `accounts`; `map_account_row` reads all of it but `created_at`. -/
structure Account where
  id : Int
  email : String
  passwordHash : String
  createdAt : Int
  role : AccountRole
  deriving DecidableEq, Repr

/-- A row of `devices`. -/
structure Device where
  id : String
  accountId : Int
  name : String
  unattendedPasswordHash : Option String
  deriving DecidableEq, Repr

structure AccountSummary where
  id : Int
  email : String
  createdAt : Int
  role : AccountRole
  deriving DecidableEq, Repr

/-- A row of `settings`. -/
structure Setting where
  key : String
  value : String
  deriving DecidableEq, Repr

/-- A row of `sessions`. -/
structure Session where
  token : String
  accountId : Int
  deriving DecidableEq, Repr

/-! ## §2. The database. -/

/-- The largest rowid SQLite hands out. -/
def maxRowid : Int := 9223372036854775807

structure Db where
  accounts : Table Account.id
  devices : Table Device.id
  settings : Table Setting.key
  sessions : Table Session.token
  /-- The AUTOINCREMENT counter of `accounts`. -/
  accountSeq : Int
  /-- Whether this build of SQLite enforces `REFERENCES`. -/
  foreignKeys : Bool
  email_unique : (accounts.rows.map Account.email).Nodup
  id_le_seq : ∀ a ∈ accounts, a.id ≤ accountSeq

namespace Db

/-- `Db::open` on a path where there is no file yet. -/
def fresh (foreignKeys : Bool) : Db where
  accounts := .empty
  devices := .empty
  settings := .empty
  sessions := .empty
  accountSeq := 0
  foreignKeys := foreignKeys
  email_unique := List.nodup_nil
  id_le_seq := fun a ha => absurd ha (Table.not_mem_empty a)

def hasAccount (db : Db) (id : Int) : Bool := (db.accounts.lookup id).isSome

/-- The number of accounts with role `admin`. -/
def admins (db : Db) : Nat := db.accounts.countWhere fun a => a.role == .admin

/-- The account a session token resolves to: `sessions` joined with `accounts`. -/
def resolve (db : Db) (token : String) : Option Account :=
  (db.sessions.lookup token).bind fun s => db.accounts.lookup s.accountId

theorem hasAccount_iff {db : Db} {id : Int} :
    db.hasAccount id = true ↔ ∃ a ∈ db.accounts, a.id = id := by
  rw [hasAccount, Option.isSome_iff_exists]
  exact exists_congr fun _ => Table.lookup_eq_some_iff

/-- An email belongs to one account. -/
theorem eq_of_email {db : Db} {a b : Account} (ha : a ∈ db.accounts) (hb : b ∈ db.accounts)
    (h : a.email = b.email) : a = b :=
  List.inj_on_of_nodup_map db.email_unique ha hb h

theorem lookup_of_resolve {db : Db} {token : String} {a : Account}
    (h : db.resolve token = some a) : db.accounts.lookup a.id = some a := by
  obtain ⟨row, -, hl⟩ := Option.bind_eq_some_iff.mp h
  exact Table.lookup_eq_some_iff.mpr ⟨(Table.lookup_eq_some_iff.mp hl).1, rfl⟩

/-! ### The writes. -/

def createAccount (db : Db) (email hash : String) (role : AccountRole) (now : Int) :
    Except String Db :=
  if maxRowid ≤ db.accountSeq then .error "database or disk is full"
  else if he : email ∈ db.accounts.rows.map Account.email then
    .error "UNIQUE constraint failed: accounts.email"
  else
    match h : db.accounts.insert? ⟨db.accountSeq + 1, email, hash, now, role⟩ with
    | none => .error "UNIQUE constraint failed: accounts.id"
    | some accounts => .ok
        { db with
          accounts := accounts
          accountSeq := db.accountSeq + 1
          email_unique := by
            rw [Table.insert?_rows h, List.map_append, List.map_singleton, List.nodup_append]
            exact ⟨db.email_unique, List.nodup_singleton _, fun a ha b hb hab => he (by simp_all)⟩
          id_le_seq := by
            intro a ha
            rcases (Table.mem_insert? h a).mp ha with ha | rfl
            · have := db.id_le_seq a ha
              omega
            · exact Int.le_refl _ }

def setAccountRole (db : Db) (id : Int) (role : AccountRole) : Db :=
  { db with
    accounts := db.accounts.updateAt id (fun a => { a with role := role }) fun _ => rfl
    email_unique := by
      have : (db.accounts.updateAt id (fun a => { a with role := role }) fun _ => rfl).rows.map
          Account.email = db.accounts.rows.map Account.email := by
        simp only [Table.updateAt, List.map_map]
        refine List.map_congr_left fun a _ => ?_
        show Account.email (if a.id = id then { a with role := role } else a) = a.email
        split <;> rfl
      rw [this]
      exact db.email_unique
    id_le_seq := by
      intro a ha
      rcases (Table.mem_updateAt a).mp ha with ⟨ha, _⟩ | ⟨b, hb, _, rfl⟩
      · exact db.id_le_seq a ha
      · exact db.id_le_seq b hb }

/-- Sessions, devices and the account go in one transaction. -/
def deleteAccount (db : Db) (id : Int) : Db :=
  { db with
    sessions := db.sessions.deleteWhere fun s => s.accountId == id
    devices := db.devices.deleteWhere fun d => d.accountId == id
    accounts := db.accounts.deleteWhere fun a => a.id == id
    email_unique :=
      List.Nodup.sublist (List.Sublist.map Account.email List.filter_sublist) db.email_unique
    id_le_seq := fun a ha => db.id_le_seq a ((Table.mem_deleteWhere a).mp ha).1 }

def createSession (db : Db) (token : String) (accountId : Int) : Except String Db :=
  match db.sessions.insert? ⟨token, accountId⟩ with
  | none => .error "UNIQUE constraint failed: sessions.token"
  | some sessions =>
    if db.foreignKeys && !db.hasAccount accountId then .error "FOREIGN KEY constraint failed"
    else .ok { db with sessions := sessions }

def createDevice (db : Db) (deviceId : String) (accountId : Int) (name : String) :
    Except String Db :=
  match db.devices.insert? ⟨deviceId, accountId, name, none⟩ with
  | none => .error "UNIQUE constraint failed: devices.id"
  | some devices =>
    if db.foreignKeys && !db.hasAccount accountId then .error "FOREIGN KEY constraint failed"
    else .ok { db with devices := devices }

theorem mem_setAccountRole {db : Db} {id : Int} {role : AccountRole} {a : Account} :
    a ∈ (db.setAccountRole id role).accounts ↔
      (a ∈ db.accounts ∧ a.id ≠ id)
        ∨ ∃ b ∈ db.accounts, b.id = id ∧ a = { b with role := role } := by
  show a ∈ db.accounts.updateAt id (fun a => { a with role := role }) (fun _ => rfl) ↔ _
  exact Table.mem_updateAt a

theorem mem_deleteAccount {db : Db} {id : Int} {a : Account} :
    a ∈ (db.deleteAccount id).accounts ↔ a ∈ db.accounts ∧ a.id ≠ id :=
  (Table.mem_deleteWhere a).trans (and_congr_right fun _ => beq_eq_false_iff_ne)

/-! ### What the fallible writes do when they succeed. -/

/-- A created account has the next id; nothing but `accounts` changes. -/
theorem createAccount_ok {db db' : Db} {email hash : String} {role : AccountRole} {now : Int}
    (h : db.createAccount email hash role now = .ok db') :
    db.accounts.insert? ⟨db.accountSeq + 1, email, hash, now, role⟩ = some db'.accounts
      ∧ db'.accountSeq = db.accountSeq + 1 ∧ db'.devices = db.devices
      ∧ db'.settings = db.settings ∧ db'.sessions = db.sessions
      ∧ db'.foreignKeys = db.foreignKeys := by
  unfold createAccount at h
  split at h
  next => exact absurd h (by simp)
  next =>
    split at h
    next => exact absurd h (by simp)
    next =>
      split at h
      next => exact absurd h (by simp)
      next accounts hi =>
        injection h with h
        subst h
        exact ⟨hi, rfl, rfl, rfl, rfl, rfl⟩

/-- A created session is one more row; nothing else changes. -/
theorem createSession_ok {db db' : Db} {token : String} {accountId : Int}
    (h : db.createSession token accountId = .ok db') :
    ∃ sessions, db.sessions.insert? ⟨token, accountId⟩ = some sessions
      ∧ db' = { db with sessions := sessions } := by
  unfold createSession at h
  split at h
  next => exact absurd h (by simp)
  next sessions hi =>
    split at h
    next => exact absurd h (by simp)
    next =>
      injection h with h
      exact ⟨sessions, hi, h.symm⟩

/-- A created device is one more row; nothing else changes. -/
theorem createDevice_ok {db db' : Db} {deviceId name : String} {accountId : Int}
    (h : db.createDevice deviceId accountId name = .ok db') :
    ∃ devices, db.devices.insert? ⟨deviceId, accountId, name, none⟩ = some devices
      ∧ db' = { db with devices := devices } := by
  unfold createDevice at h
  split at h
  next => exact absurd h (by simp)
  next devices hi =>
    split at h
    next => exact absurd h (by simp)
    next =>
      injection h with h
      exact ⟨devices, hi, h.symm⟩

end Db

/-! ## §3. The methods of `Db`. -/

/-- One call of a method of `Db`. -/
inductive Query where
  | getSetting (key : String)
  | setSetting (key value : String)
  | countAdmins
  | countAccounts
  | createAccount (email passwordHash : String) (role : AccountRole)
  | findAccountByEmail (email : String)
  | findAccountById (accountId : Int)
  | setAccountRole (accountId : Int) (role : AccountRole)
  | deleteAccount (accountId : Int)
  | createSession (token : String) (accountId : Int)
  | findSession (token : String)
  | deleteSession (token : String)
  | createDevice (deviceId : String) (accountId : Int) (name : String)
  | findDevice (deviceId : String)
  | listDevicesForAccount (accountId : Int)
  | setUnattendedPasswordHash (deviceId hash : String)
  | listAllAccounts
  | deleteDevice (deviceId : String)
  deriving DecidableEq, Repr

/-- What the method returns when it succeeds. -/
@[reducible] def Query.Val : Query → Type
  | .getSetting _ => Option String
  | .countAdmins | .countAccounts | .createAccount .. => Int
  | .findAccountByEmail _ | .findAccountById _ | .findSession _ => Option Account
  | .findDevice _ => Option Device
  | .listDevicesForAccount _ => List Device
  | .listAllAccounts => List AccountSummary
  | .setSetting .. | .setAccountRole .. | .deleteAccount _ | .createSession .. | .deleteSession _
  | .createDevice .. | .setUnattendedPasswordHash .. | .deleteDevice _ => Unit

/-- Run a method; `now` is `strftime('%s','now')`. -/
def Query.exec (now : Int) (db : Db) : (q : Query) → Except String q.Val × Db
  | .getSetting key => (.ok ((db.settings.lookup key).map Setting.value), db)
  | .setSetting key value => (.ok (), { db with settings := db.settings.upsert ⟨key, value⟩ })
  | .countAdmins => (.ok db.admins, db)
  | .countAccounts => (.ok db.accounts.rows.length, db)
  | .createAccount email hash role =>
    match db.createAccount email hash role now with
    | .ok db' => (.ok db'.accountSeq, db')
    | .error e => (.error e, db)
  | .findAccountByEmail email => (.ok (db.accounts.rows.find? fun a => a.email == email), db)
  | .findAccountById id => (.ok (db.accounts.lookup id), db)
  | .setAccountRole id role => (.ok (), db.setAccountRole id role)
  | .deleteAccount id => (.ok (), db.deleteAccount id)
  | .createSession token id =>
    match db.createSession token id with
    | .ok db' => (.ok (), db')
    | .error e => (.error e, db)
  | .findSession token => (.ok (db.resolve token), db)
  | .deleteSession token =>
    (.ok (), { db with sessions := db.sessions.deleteWhere fun s => s.token == token })
  | .createDevice deviceId id name =>
    match db.createDevice deviceId id name with
    | .ok db' => (.ok (), db')
    | .error e => (.error e, db)
  | .findDevice deviceId => (.ok (db.devices.lookup deviceId), db)
  | .listDevicesForAccount id => (.ok (db.devices.rows.filter fun d => d.accountId == id), db)
  | .setUnattendedPasswordHash deviceId hash =>
    (.ok (), { db with
      devices := db.devices.updateAt deviceId
        (fun d => { d with unattendedPasswordHash := some hash }) fun _ => rfl })
  | .listAllAccounts =>
    (.ok ((db.accounts.rows.mergeSort fun a b => a.createdAt ≤ b.createdAt).map fun a =>
      ⟨a.id, a.email, a.createdAt, a.role⟩), db)
  | .deleteDevice deviceId =>
    (.ok (), { db with devices := db.devices.deleteWhere fun d => d.id == deviceId })

/-! ## §4. What each method may change. -/

namespace Query

/-- The methods that write `accounts`. -/
def writesAccounts : Query → Bool
  | createAccount .. | setAccountRole .. | deleteAccount _ => true
  | _ => false

/-- The methods that write `devices`. -/
def writesDevices : Query → Bool
  | createDevice .. | setUnattendedPasswordHash .. | deleteDevice _ | deleteAccount _ => true
  | _ => false

/-- The methods that write `settings`. -/
def writesSettings : Query → Bool
  | setSetting .. => true
  | _ => false

/-- The methods that write `sessions`. -/
def writesSessions : Query → Bool
  | createSession .. | deleteSession _ | deleteAccount _ => true
  | _ => false

/-- The methods that only read. -/
def reads (q : Query) : Bool :=
  !(q.writesAccounts || q.writesDevices || q.writesSettings || q.writesSessions)

variable {now : Int} {db : Db} {q : Query}

theorem exec_reads (h : q.reads = true) : (q.exec now db).2 = db := by
  cases q with
  | setSetting | createAccount | setAccountRole | deleteAccount | createSession | deleteSession
  | createDevice | setUnattendedPasswordHash | deleteDevice => exact absurd h Bool.false_ne_true
  | _ => rfl

theorem exec_accounts (h : q.writesAccounts = false) :
    (q.exec now db).2.accounts = db.accounts ∧ (q.exec now db).2.accountSeq = db.accountSeq := by
  cases q with
  | createAccount | setAccountRole | deleteAccount => exact absurd h (by simp [writesAccounts])
  | createSession token id =>
    simp only [exec]
    split
    next db' hc =>
      obtain ⟨_, _, rfl⟩ := Db.createSession_ok hc
      exact ⟨rfl, rfl⟩
    next => exact ⟨rfl, rfl⟩
  | createDevice d id name =>
    simp only [exec]
    split
    next db' hc =>
      obtain ⟨_, _, rfl⟩ := Db.createDevice_ok hc
      exact ⟨rfl, rfl⟩
    next => exact ⟨rfl, rfl⟩
  | _ => exact ⟨rfl, rfl⟩

theorem exec_devices (h : q.writesDevices = false) : (q.exec now db).2.devices = db.devices := by
  cases q with
  | createDevice | setUnattendedPasswordHash | deleteDevice | deleteAccount =>
    exact absurd h (by simp [writesDevices])
  | createAccount email hash role =>
    simp only [exec]
    split
    next db' hc => exact (Db.createAccount_ok hc).2.2.1
    next => rfl
  | createSession token id =>
    simp only [exec]
    split
    next db' hc =>
      obtain ⟨_, _, rfl⟩ := Db.createSession_ok hc
      rfl
    next => rfl
  | _ => rfl

theorem exec_settings (h : q.writesSettings = false) :
    (q.exec now db).2.settings = db.settings := by
  cases q with
  | setSetting => exact absurd h (by simp [writesSettings])
  | createAccount email hash role =>
    simp only [exec]
    split
    next db' hc => exact (Db.createAccount_ok hc).2.2.2.1
    next => rfl
  | createSession token id =>
    simp only [exec]
    split
    next db' hc =>
      obtain ⟨_, _, rfl⟩ := Db.createSession_ok hc
      rfl
    next => rfl
  | createDevice d id name =>
    simp only [exec]
    split
    next db' hc =>
      obtain ⟨_, _, rfl⟩ := Db.createDevice_ok hc
      rfl
    next => rfl
  | _ => rfl

theorem exec_sessions (h : q.writesSessions = false) :
    (q.exec now db).2.sessions = db.sessions := by
  cases q with
  | createSession | deleteSession | deleteAccount => exact absurd h (by simp [writesSessions])
  | createAccount email hash role =>
    simp only [exec]
    split
    next db' hc => exact (Db.createAccount_ok hc).2.2.2.2.1
    next => rfl
  | createDevice d id name =>
    simp only [exec]
    split
    next db' hc =>
      obtain ⟨_, _, rfl⟩ := Db.createDevice_ok hc
      rfl
    next => rfl
  | _ => rfl

/-- A row of `devices` was there before, is new, or has a new password hash. -/
theorem mem_exec_devices {dev : Device} (h : dev ∈ (q.exec now db).2.devices) :
    dev ∈ db.devices
      ∨ (∃ d id name, q = .createDevice d id name ∧ dev = ⟨d, id, name, none⟩)
      ∨ ∃ old hash, q = .setUnattendedPasswordHash old.id hash ∧ old ∈ db.devices
        ∧ dev = { old with unattendedPasswordHash := some hash } := by
  cases q with
  | createDevice d id name =>
    simp only [exec] at h
    split at h
    next db' hc =>
      obtain ⟨devices, hi, rfl⟩ := Db.createDevice_ok hc
      rcases (Table.mem_insert? hi dev).mp h with h | h
      · exact .inl h
      · exact .inr (.inl ⟨d, id, name, rfl, h⟩)
    next => exact .inl h
  | setUnattendedPasswordHash d hash =>
    have hm : dev ∈ db.devices.updateAt d
      (fun d => { d with unattendedPasswordHash := some hash }) fun _ => rfl := h
    rcases (Table.mem_updateAt dev).mp hm with ⟨hold, -⟩ | ⟨old, hold, rfl, hnew⟩
    · exact .inl hold
    · exact .inr (.inr ⟨old, hash, rfl, hold, hnew⟩)
  | deleteDevice d => exact .inl ((Table.mem_deleteWhere dev).mp h).1
  | deleteAccount id => exact .inl ((Table.mem_deleteWhere dev).mp h).1
  | _ => exact .inl (by rwa [exec_devices rfl] at h)

/-- A row of `devices` stays as it is, unless it or its account is written. -/
theorem exec_devices_keeps {dev : Device} (h : dev ∈ db.devices) (hd : q ≠ .deleteDevice dev.id)
    (hp : ∀ hash, q ≠ .setUnattendedPasswordHash dev.id hash)
    (ha : q ≠ .deleteAccount dev.accountId) : dev ∈ (q.exec now db).2.devices := by
  cases q with
  | createDevice d id name =>
    simp only [exec]
    split
    next db' hc =>
      obtain ⟨devices, hi, rfl⟩ := Db.createDevice_ok hc
      exact (Table.mem_insert? hi dev).mpr (.inl h)
    next => exact h
  | setUnattendedPasswordHash d hash =>
    show dev ∈ db.devices.updateAt d (fun d => { d with unattendedPasswordHash := some hash })
      fun _ => rfl
    exact (Table.mem_updateAt dev).mpr (.inl ⟨h, fun heq => hp hash (by rw [heq])⟩)
  | deleteDevice d =>
    refine (Table.mem_deleteWhere dev).mpr ⟨h, ?_⟩
    exact beq_eq_false_iff_ne.mpr fun heq => hd (by rw [heq])
  | deleteAccount id =>
    refine (Table.mem_deleteWhere dev).mpr ⟨h, ?_⟩
    exact beq_eq_false_iff_ne.mpr fun heq => ha (by rw [heq])
  | _ => rwa [exec_devices rfl]

/-- A row of `sessions` was there before, or has just been created. -/
theorem mem_exec_sessions {row : Session} (h : row ∈ (q.exec now db).2.sessions) :
    row ∈ db.sessions ∨ (q = .createSession row.token row.accountId
      ∧ ((createSession row.token row.accountId).exec now db).1 = .ok ()) := by
  cases q with
  | createSession token id =>
    simp only [exec] at h ⊢
    split at h
    next db' hc =>
      obtain ⟨sessions, hi, rfl⟩ := Db.createSession_ok hc
      rcases (Table.mem_insert? hi row).mp h with h | rfl
      · exact .inl h
      · exact .inr ⟨rfl, by rw [hc]⟩
    next => exact .inl h
  | deleteSession token => exact .inl ((Table.mem_deleteWhere row).mp h).1
  | deleteAccount id => exact .inl ((Table.mem_deleteWhere row).mp h).1
  | _ => exact .inl (by rwa [exec_sessions rfl] at h)

/-- A row of `sessions` stays, unless its token or its account is deleted. -/
theorem exec_sessions_keeps {row : Session} (h : row ∈ db.sessions)
    (ht : q ≠ .deleteSession row.token) (ha : q ≠ .deleteAccount row.accountId) :
    row ∈ (q.exec now db).2.sessions := by
  cases q with
  | createSession token id =>
    simp only [exec]
    split
    next db' hc =>
      obtain ⟨sessions, hi, rfl⟩ := Db.createSession_ok hc
      exact (Table.mem_insert? hi row).mpr (.inl h)
    next => exact h
  | deleteSession token =>
    refine (Table.mem_deleteWhere row).mpr ⟨h, ?_⟩
    exact beq_eq_false_iff_ne.mpr fun heq => ht (by rw [heq])
  | deleteAccount id =>
    refine (Table.mem_deleteWhere row).mpr ⟨h, ?_⟩
    exact beq_eq_false_iff_ne.mpr fun heq => ha (by rw [heq])
  | _ => rwa [exec_sessions rfl]

theorem createSession_mem {token : String} {id : Int}
    (h : ((createSession token id).exec now db).1 = .ok ()) :
    (⟨token, id⟩ : Session) ∈ ((createSession token id).exec now db).2.sessions := by
  simp only [exec] at h ⊢
  split
  next db' hc =>
    obtain ⟨sessions, hi, rfl⟩ := Db.createSession_ok hc
    exact (Table.mem_insert? hi _).mpr (.inr rfl)
  next e hc =>
    rw [hc] at h
    exact absurd h (by simp)

/-- The AUTOINCREMENT counter never goes back. -/
theorem accountSeq_le : db.accountSeq ≤ (q.exec now db).2.accountSeq := by
  cases q with
  | createAccount email hash role =>
    simp only [exec]
    split
    next db' hc =>
      rw [(Db.createAccount_ok hc).2.1]
      omega
    next => exact Int.le_refl _
  | setAccountRole | deleteAccount => exact Int.le_refl _
  | _ => exact Int.le_of_eq (exec_accounts rfl).2.symm

/-- The id of an account was there before, or is a new one. -/
theorem mem_exec_accounts {a : Account} (h : a ∈ (q.exec now db).2.accounts) :
    (∃ b ∈ db.accounts, b.id = a.id) ∨ db.accountSeq < a.id := by
  cases q with
  | createAccount email hash role =>
    simp only [exec] at h
    split at h
    next db' hc =>
      rcases (Table.mem_insert? (Db.createAccount_ok hc).1 a).mp h with h | rfl
      · exact .inl ⟨a, h, rfl⟩
      · exact .inr (by show _ < _ + 1; omega)
    next => exact .inl ⟨a, h, rfl⟩
  | setAccountRole id role =>
    have hm : a ∈ db.accounts.updateAt id (fun a => { a with role := role }) fun _ => rfl := h
    rcases (Table.mem_updateAt a).mp hm with ⟨h, -⟩ | ⟨b, hb, -, rfl⟩
    · exact .inl ⟨a, h, rfl⟩
    · exact .inl ⟨b, hb, rfl⟩
  | deleteAccount id => exact .inl ⟨a, ((Table.mem_deleteWhere a).mp h).1, rfl⟩
  | _ => exact .inl ⟨a, by rwa [(exec_accounts rfl).1] at h, rfl⟩

end Query

end Visuara.Signaling
