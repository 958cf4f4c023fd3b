/-
  Visuara.Signaling.Schema
  ────────────────────────
  **THE STORE, STATEMENT BY STATEMENT** (`visuara-signaling/src/db.rs`).

  `Visuara.Signaling.Db` says what each method of `Db` does to tables of
  records.  Here the methods are the statements they send to SQLite, and what
  `map_account_row` and its like read from the rows.  `Db::open` creates what is
  missing and adds the `role` column to an older file.

    • `DbFile k file db`  — the file holds `db`, and at least the first `k`
                            statements of `Db::open` have been executed;
    • `DbFile.run`        — a method does to the file what `Query.exec` does to `db`;
    • `lives_agree`       — over any number of lives of the server, some of them
                            killed inside `Db::open`, the two give one answer.
-/
import Visuara.Relational.Sql
import Visuara.Signaling.Db

namespace Visuara.Signaling

open Sql (Value Fetched Has Kept Edits queryRow queryOptional queryMap)

/-! ## §1. The schema. -/

def accountsTable : Sql.Relation where
  name := "accounts"
  rowid := some "id"
  columns := [
    { name := "email", unique := true, notNull := true },
    { name := "password_hash", notNull := true },
    { name := "created_at", notNull := true, default := .now }]
  seq := 0
  rows := []

def devicesTable : Sql.Relation where
  name := "devices"
  rowid := none
  columns := [
    { name := "id", unique := true },
    { name := "account_id", notNull := true, references := some ("accounts", "id") },
    { name := "name", notNull := true },
    { name := "unattended_password_hash" },
    { name := "created_at", notNull := true, default := .now }]
  seq := 0
  rows := []

def settingsTable : Sql.Relation where
  name := "settings"
  rowid := none
  columns := [
    { name := "key", unique := true },
    { name := "value", notNull := true }]
  seq := 0
  rows := []

def sessionsTable : Sql.Relation where
  name := "sessions"
  rowid := none
  columns := [
    { name := "token", unique := true },
    { name := "account_id", notNull := true, references := some ("accounts", "id") },
    { name := "created_at", notNull := true, default := .now }]
  seq := 0
  rows := []

/-- `TEXT NOT NULL DEFAULT 'user'`. -/
def roleColumn : Sql.Column := { name := "role", notNull := true, default := .text "user" }

def ensureColumn (conn : Sql.Database) (table : String) (column : Sql.Column) :
    Except String Sql.Database :=
  if 0 < conn.tableInfo table column.name then .ok conn else conn.addColumn table column

/-- The statements of `Db::open`; each takes effect by itself. -/
def opening : List (Sql.Database → Except String Sql.Database) :=
  [fun conn => .ok (conn.createTable accountsTable),
   fun conn => .ok (conn.createTable devicesTable),
   fun conn => .ok (conn.createTable settingsTable),
   fun conn => .ok (conn.createTable sessionsTable),
   fun conn => ensureColumn conn "accounts" roleColumn]

/-- The first `k` statements of `Db::open`. -/
def openUpTo (k : Nat) (file : Sql.Database) : Except String Sql.Database :=
  (opening.take k).foldlM (fun conn statement => statement conn) file

/-- `Db::open`. -/
def openDb (path : Sql.Database) : Except String Sql.Database := openUpTo opening.length path

/-! ## §2. What is read from a row. -/

def AccountRole.asStr : AccountRole → String
  | .user => "user"
  | .admin => "admin"

def AccountRole.fromColumn (s : String) : AccountRole := if s = "admin" then .admin else .user

/-- `Account` of the source: an account without `created_at`. -/
structure AccountRecord where
  id : Int
  email : String
  passwordHash : String
  role : AccountRole
  deriving DecidableEq, Repr

def Account.record (a : Account) : AccountRecord := ⟨a.id, a.email, a.passwordHash, a.role⟩

def mapAccountRow (row : Fetched) : Except String AccountRecord := do
  let id ← row.get Value.integer? 0
  let email ← row.get Value.text? 1
  let passwordHash ← row.get Value.text? 2
  let role ← row.get Value.text? 3
  return ⟨id, email, passwordHash, .fromColumn role⟩

def mapDeviceRow (row : Fetched) : Except String Device := do
  let id ← row.get Value.text? 0
  let accountId ← row.get Value.integer? 1
  let name ← row.get Value.text? 2
  let unattendedPasswordHash ← row.get Value.optionalText? 3
  return ⟨id, accountId, name, unattendedPasswordHash⟩

def mapSummaryRow (row : Fetched) : Except String AccountSummary := do
  let id ← row.get Value.integer? 0
  let email ← row.get Value.text? 1
  let createdAt ← row.get Value.integer? 2
  let role ← row.get Value.text? 3
  return ⟨id, email, createdAt, .fromColumn role⟩

/-! ## §3. The methods. -/

/-- What the method hands to its caller. -/
@[reducible] def Query.Seen : Query → Type
  | .getSetting _ => Option String
  | .countAdmins | .countAccounts | .createAccount .. => Int
  | .findAccountByEmail _ | .findAccountById _ | .findSession _ => Option AccountRecord
  | .findDevice _ => Option Device
  | .listDevicesForAccount _ => List Device
  | .listAllAccounts => List AccountSummary
  | .setSetting .. | .setAccountRole .. | .deleteAccount _ | .createSession .. | .deleteSession _
  | .createDevice .. | .setUnattendedPasswordHash .. | .deleteDevice _ => Unit

/-- What the caller sees of a result of `Query.exec`. -/
def Query.seen : (q : Query) → q.Val → q.Seen
  | .findAccountByEmail _, found | .findAccountById _, found | .findSession _, found =>
    found.map Account.record
  | .getSetting _, r => r
  | .countAdmins, r | .countAccounts, r | .createAccount .., r => r
  | .findDevice _, r => r
  | .listDevicesForAccount _, r => r
  | .listAllAccounts, r => r
  | .setSetting .., r | .setAccountRole .., r | .deleteAccount _, r | .createSession .., r
  | .deleteSession _, r | .createDevice .., r | .setUnattendedPasswordHash .., r
  | .deleteDevice _, r => r

/-- A statement, or a transaction, that fails changes nothing. -/
def execute (conn : Sql.Database) (r : Except String Sql.Database) :
    Except String Unit × Sql.Database :=
  match r with
  | .ok conn' => (.ok (), conn')
  | .error e => (.error e, conn)

/-- `last_insert_rowid()`, right after an INSERT into `table`. -/
def lastInsertRowid (conn : Sql.Database) (table : String) : Int :=
  (conn.relations.lookup table).elim 0 Sql.Relation.seq

/-- The method, on the connection; `now` is the time of its INSERT. -/
def Query.run (now : Int) (conn : Sql.Database) : (q : Query) → Except String q.Seen × Sql.Database
  | .getSetting key => (do
      let rows ← conn.select ["value"] "settings" (some ("key", .text key))
      queryOptional rows (·.get Value.text? 0), conn)
  | .setSetting key value => execute conn
      (conn.upsert now "settings" "key" "value" [("key", .text key), ("value", .text value)])
  | .countAdmins => (do
      let rows ← conn.count "accounts" (some ("role", .text "admin"))
      queryRow rows (·.get Value.integer? 0), conn)
  | .countAccounts => (do
      let rows ← conn.count "accounts" none
      queryRow rows (·.get Value.integer? 0), conn)
  | .createAccount email passwordHash role =>
    match conn.insert now "accounts"
        [("email", .text email), ("password_hash", .text passwordHash), ("role", .text role.asStr)] with
    | .ok conn' => (.ok (lastInsertRowid conn' "accounts"), conn')
    | .error e => (.error e, conn)
  | .findAccountByEmail email => (do
      let rows ← conn.select ["id", "email", "password_hash", "role"] "accounts"
        (some ("email", .text email))
      queryOptional rows mapAccountRow, conn)
  | .findAccountById accountId => (do
      let rows ← conn.select ["id", "email", "password_hash", "role"] "accounts"
        (some ("id", .integer accountId))
      queryOptional rows mapAccountRow, conn)
  | .setAccountRole accountId role => execute conn
      (conn.update "accounts" "role" (.text role.asStr) (some ("id", .integer accountId)))
  | .deleteAccount accountId => execute conn (do
      let tx ← conn.delete "sessions" (some ("account_id", .integer accountId))
      let tx ← tx.delete "devices" (some ("account_id", .integer accountId))
      tx.delete "accounts" (some ("id", .integer accountId)))
  | .createSession token accountId => execute conn
      (conn.insert now "sessions" [("token", .text token), ("account_id", .integer accountId)])
  | .findSession token => (do
      let rows ← conn.join ["id", "email", "password_hash", "role"] "sessions" "account_id"
        "accounts" "id" (some ("token", .text token))
      queryOptional rows mapAccountRow, conn)
  | .deleteSession token => execute conn
      (conn.delete "sessions" (some ("token", .text token)))
  | .createDevice deviceId accountId name => execute conn
      (conn.insert now "devices"
        [("id", .text deviceId), ("account_id", .integer accountId), ("name", .text name)])
  | .findDevice deviceId => (do
      let rows ← conn.select ["id", "account_id", "name", "unattended_password_hash"] "devices"
        (some ("id", .text deviceId))
      queryOptional rows mapDeviceRow, conn)
  | .listDevicesForAccount accountId => (do
      let rows ← conn.select ["id", "account_id", "name", "unattended_password_hash"] "devices"
        (some ("account_id", .integer accountId))
      queryMap rows mapDeviceRow, conn)
  | .setUnattendedPasswordHash deviceId hash => execute conn
      (conn.update "devices" "unattended_password_hash" (.text hash) (some ("id", .text deviceId)))
  | .listAllAccounts => (do
      let rows ← conn.selectOrderBy ["id", "email", "created_at", "role"] "accounts" "created_at"
      queryMap rows mapSummaryRow, conn)
  | .deleteDevice deviceId => execute conn
      (conn.delete "devices" (some ("id", .text deviceId)))

/-! ## §4. Files. -/

structure AccountRow (row : Sql.Row) (a : Account) : Prop where
  id : row "id" = .integer a.id
  email : row "email" = .text a.email
  passwordHash : row "password_hash" = .text a.passwordHash
  createdAt : row "created_at" = .integer a.createdAt
  role : ∃ s, row "role" = .text s ∧ AccountRole.fromColumn s = a.role

/-- A row of `accounts` from before the `role` column. -/
structure OldAccountRow (row : Sql.Row) (a : Account) : Prop where
  id : row "id" = .integer a.id
  email : row "email" = .text a.email
  passwordHash : row "password_hash" = .text a.passwordHash
  createdAt : row "created_at" = .integer a.createdAt
  role : a.role = .user

structure DeviceRow (row : Sql.Row) (d : Device) : Prop where
  id : row "id" = .text d.id
  accountId : row "account_id" = .integer d.accountId
  name : row "name" = .text d.name
  hash : row "unattended_password_hash" = d.unattendedPasswordHash.elim .null .text

structure SettingRow (row : Sql.Row) (s : Setting) : Prop where
  key : row "key" = .text s.key
  value : row "value" = .text s.value

structure SessionRow (row : Sql.Row) (s : Session) : Prop where
  token : row "token" = .text s.token
  accountId : row "account_id" = .integer s.accountId

/-- `accounts` with `seq` as its AUTOINCREMENT counter. -/
def accountsAt (seq : Int) : Sql.Relation := { accountsTable with seq := seq }

/-- … and with the `role` column. -/
def accountsNow (seq : Int) : Sql.Relation :=
  { accountsTable with columns := accountsTable.columns ++ [roleColumn], seq := seq }

/-- What may stand under `accounts` after `k` statements of `Db::open`. -/
def AccountsIn (k : Nat) (file : Sql.Database) (db : Db) : Prop :=
  Has file (accountsNow db.accountSeq) AccountRow db.accounts.rows
    ∨ k < 5 ∧ Has file (accountsAt db.accountSeq) OldAccountRow db.accounts.rows
    ∨ k < 1 ∧ file.relations.lookup "accounts" = none ∧ db.accounts.rows = [] ∧ db.accountSeq = 0

def tableNames : List String := ["accounts", "devices", "settings", "sessions"]

/-- **The file holds `db`**, whichever version of the server wrote it, and the
first `k` statements of `Db::open` have been executed. -/
structure DbFile (k : Nat) (file : Sql.Database) (db : Db) : Prop where
  foreignKeys : file.foreignKeys = db.foreignKeys
  accounts : AccountsIn k file db
  devices : Kept (2 ≤ k) file devicesTable DeviceRow db.devices.rows
  settings : Kept (3 ≤ k) file settingsTable SettingRow db.settings.rows
  sessions : Kept (4 ≤ k) file sessionsTable SessionRow db.sessions.rows
  strangers : ∀ t ∈ file.relations, t.name ∉ tableNames → ∀ c ∈ t.columns, c.references = none

/-! ## §5. Opening. -/

section Opening

variable {k : Nat} {file conn : Sql.Database} {db : Db}

theorem AccountsIn.other (h : AccountsIn k file db) (hk : 1 ≤ k) {t : Sql.Relation}
    (hne : t.name ≠ "accounts") : AccountsIn (k + 1) (file.createTable t) db ∨ 4 ≤ k := by
  rcases h with hnow | ⟨-, hold⟩ | ⟨hk', -⟩
  · exact .inl (.inl (hnow.createTable hne))
  · by_cases h4 : 4 ≤ k
    · exact .inr h4
    · exact .inl (.inr (.inl ⟨by omega, hold.createTable hne⟩))
  · omega

/-- Whatever is created refers to nothing, or is one of ours. -/
theorem DbFile.strangers_create (h : DbFile k file db) {t : Sql.Relation}
    (ht : t.name ∈ tableNames) : ∀ u ∈ (file.createTable t).relations, u.name ∉ tableNames →
      ∀ c ∈ u.columns, c.references = none := by
  intro u hu hname
  rcases Sql.mem_createTable hu with hold | rfl
  · exact h.strangers u hold hname
  · exact absurd ht hname

theorem DbFile.createAccounts (h : DbFile 0 file db) :
    DbFile 1 (file.createTable accountsTable) db where
  foreignKeys := Sql.createTable_foreignKeys.trans h.foreignKeys
  accounts := by
    rcases h.accounts with hnow | ⟨-, hold⟩ | ⟨-, hl, hrows, hseq⟩
    · obtain ⟨rows, hl, hR⟩ := hnow
      rw [Sql.createTable_eq (t := accountsTable) hl]
      exact .inl ⟨rows, hl, hR⟩
    · obtain ⟨rows, hl, hR⟩ := hold
      rw [Sql.createTable_eq (t := accountsTable) hl]
      exact .inr (.inl ⟨by omega, rows, hl, hR⟩)
    · rw [Sql.createTable_absent (t := accountsTable) hl]
      refine .inr (.inl ⟨by omega, [], ?_, hrows ▸ .nil⟩)
      rw [hseq]
      exact Sql.Database.lookup_put.trans (if_pos rfl)
  devices := h.devices.other (by decide)
  settings := h.settings.other (by decide)
  sessions := h.sessions.other (by decide)
  strangers := h.strangers_create (by decide)

theorem DbFile.createDevices (h : DbFile 1 file db) :
    DbFile 2 (file.createTable devicesTable) db where
  foreignKeys := Sql.createTable_foreignKeys.trans h.foreignKeys
  accounts := (h.accounts.other (Nat.le_refl 1) (by decide)).resolve_right (by omega)
  devices := h.devices.create rfl
  settings := h.settings.other (by decide)
  sessions := h.sessions.other (by decide)
  strangers := h.strangers_create (by decide)

theorem DbFile.createSettings (h : DbFile 2 file db) :
    DbFile 3 (file.createTable settingsTable) db where
  foreignKeys := Sql.createTable_foreignKeys.trans h.foreignKeys
  accounts := (h.accounts.other (by omega) (by decide)).resolve_right (by omega)
  devices := h.devices.other (by decide)
  settings := h.settings.create rfl
  sessions := h.sessions.other (by decide)
  strangers := h.strangers_create (by decide)

theorem DbFile.createSessions (h : DbFile 3 file db) :
    DbFile 4 (file.createTable sessionsTable) db where
  foreignKeys := Sql.createTable_foreignKeys.trans h.foreignKeys
  accounts := (h.accounts.other (by omega) (by decide)).resolve_right (by omega)
  devices := h.devices.other (by decide)
  settings := h.settings.other (by decide)
  sessions := h.sessions.create rfl
  strangers := h.strangers_create (by decide)

/-- The rows from before the column are the rows of users. -/
theorem OldAccountRow.upgrade {row : Sql.Row} {a : Account} (h : OldAccountRow row a) :
    AccountRow (Function.update row "role" (.text "user")) a where
  id := h.id
  email := h.email
  passwordHash := h.passwordHash
  createdAt := h.createdAt
  role := ⟨"user", Function.update_self .., h.role.symm⟩

theorem Edits.strangers {t : Sql.Relation} (he : Edits file conn t) (ht : t.name ∈ tableNames)
    (h : ∀ u ∈ file.relations, u.name ∉ tableNames → ∀ c ∈ u.columns, c.references = none) :
    ∀ u ∈ conn.relations, u.name ∉ tableNames → ∀ c ∈ u.columns, c.references = none := by
  obtain ⟨seq, rows, rfl⟩ := he
  intro u hu hname
  rcases Sql.Database.mem_put.mp hu with ⟨hold, -⟩ | rfl
  · exact h u hold hname
  · exact absurd ht hname

theorem accounts_ne_devices {seq : Int} : (accountsNow seq).name ≠ devicesTable.name :=
  (by decide : "accounts" ≠ "devices")

theorem accounts_ne_settings {seq : Int} : (accountsNow seq).name ≠ settingsTable.name :=
  (by decide : "accounts" ≠ "settings")

theorem accounts_ne_sessions {seq : Int} : (accountsNow seq).name ≠ sessionsTable.name :=
  (by decide : "accounts" ≠ "sessions")

theorem accounts_mem {seq : Int} : (accountsNow seq).name ∈ tableNames :=
  (by decide : "accounts" ∈ tableNames)

theorem DbFile.ensureRole (h : DbFile 4 file db) :
    ∃ conn, ensureColumn file "accounts" roleColumn = .ok conn ∧ DbFile 5 conn db := by
  rcases h.accounts with hnow | ⟨-, hold⟩ | ⟨hk, -⟩
  · obtain ⟨rows, hl, hR⟩ := hnow
    have hcount : file.tableInfo "accounts" roleColumn.name = 1 := by
      rw [Sql.Database.tableInfo, show file.relations.lookup "accounts" = _ from hl]
      rfl
    refine ⟨file, by rw [ensureColumn, hcount]; rfl, ?_⟩
    exact { h with accounts := .inl ⟨rows, hl, hR⟩ }
  · obtain ⟨rows, hl, hR⟩ := id hold
    have hcount : file.tableInfo "accounts" roleColumn.name = 0 := by
      rw [Sql.Database.tableInfo, show file.relations.lookup "accounts" = _ from hl]
      rfl
    obtain ⟨conn, hadd, hedits, hhas⟩ := hold.addColumn roleColumn AccountRow
      rfl rfl rfl nofun fun _ _ => OldAccountRow.upgrade
    refine ⟨conn, by rw [ensureColumn, hcount]; exact hadd, ?_⟩
    replace hedits : Edits file conn (accountsNow db.accountSeq) := hedits
    exact
      { foreignKeys := hedits.foreignKeys.trans h.foreignKeys
        accounts := .inl hhas
        devices := .inl (hedits.has accounts_ne_devices h.devices.has)
        settings := .inl (hedits.has accounts_ne_settings h.settings.has)
        sessions := .inl (hedits.has accounts_ne_sessions h.sessions.has)
        strangers := Edits.strangers hedits accounts_mem h.strangers }
  · omega

/-- **One statement of `Db::open`.** -/
theorem DbFile.step (h : DbFile k file db) (hk : k < opening.length) :
    ∃ conn, opening[k] file = .ok conn ∧ DbFile (k + 1) conn db := by
  match k, hk with
  | 0, _ => exact ⟨_, rfl, h.createAccounts⟩
  | 1, _ => exact ⟨_, rfl, h.createDevices⟩
  | 2, _ => exact ⟨_, rfl, h.createSettings⟩
  | 3, _ => exact ⟨_, rfl, h.createSessions⟩
  | 4, _ => exact h.ensureRole

/-- **`Db::open` succeeds**, and wherever it is stopped the file holds `db`. -/
theorem DbFile.upTo (h : DbFile 0 file db) (hk : k ≤ opening.length) :
    ∃ conn, openUpTo k file = .ok conn ∧ DbFile k conn db := by
  induction k with
  | zero => exact ⟨file, rfl, h⟩
  | succ k ih =>
    obtain ⟨conn, hopen, hconn⟩ := ih (by omega)
    obtain ⟨conn', hstep, hconn'⟩ := hconn.step hk
    refine ⟨conn', ?_, hconn'⟩
    rw [openUpTo, List.take_succ_eq_append_getElem hk, List.foldlM_append]
    show (openUpTo k file >>= _) = _
    rw [hopen]
    show (opening[k] conn >>= _) = _
    rw [hstep]
    rfl

/-- What is opened may be opened again. -/
theorem DbFile.reopen (h : DbFile k file db) : DbFile 0 file db where
  foreignKeys := h.foreignKeys
  accounts := by
    rcases h.accounts with hnow | ⟨-, hold⟩ | ⟨-, habsent⟩
    · exact .inl hnow
    · exact .inr (.inl ⟨by omega, hold⟩)
    · exact .inr (.inr ⟨by omega, habsent⟩)
  devices := h.devices.forget
  settings := h.settings.forget
  sessions := h.sessions.forget
  strangers := h.strangers

end Opening

/-! ## §6. Reading. -/

section Rows

variable {row : Sql.Row} {a : Account} {d : Device} {s : Setting} {x : Session}

theorem AccountRow.map (h : AccountRow row a) :
    mapAccountRow (row.fetch ["id", "email", "password_hash", "role"]) = .ok a.record := by
  obtain ⟨role, hs, hrole⟩ := h.role
  simp [mapAccountRow, Sql.Row.fetch, Fetched.get, h.id, h.email, h.passwordHash, hs, hrole,
    Value.integer?, Value.text?, Account.record]
  rfl

theorem AccountRow.mapSummary (h : AccountRow row a) :
    mapSummaryRow (row.fetch ["id", "email", "created_at", "role"])
      = .ok ⟨a.id, a.email, a.createdAt, a.role⟩ := by
  obtain ⟨role, hs, hrole⟩ := h.role
  simp [mapSummaryRow, Sql.Row.fetch, Fetched.get, h.id, h.email, h.createdAt, hs, hrole,
    Value.integer?, Value.text?]
  rfl

theorem DeviceRow.map (h : DeviceRow row d) :
    mapDeviceRow (row.fetch ["id", "account_id", "name", "unattended_password_hash"]) = .ok d := by
  obtain ⟨id, accountId, name, hash⟩ := d
  cases hash <;>
    simp [mapDeviceRow, Sql.Row.fetch, Fetched.get, h.id, h.accountId, h.name, h.hash,
      Value.integer?, Value.text?, Value.optionalText?] <;> rfl

/-- Counting the text is counting the role. -/
theorem AccountRow.satisfies_admin (h : AccountRow row a) :
    row.satisfies (some ("role", .text "admin")) = (a.role == .admin) := by
  obtain ⟨role, hs, hrole⟩ := h.role
  rw [Sql.Row.satisfies_text hs, ← hrole, AccountRole.fromColumn, Bool.eq_iff_iff]
  by_cases hadmin : role = "admin" <;> simp [hadmin]

end Rows

/-- A connection that `Db::open` has returned. -/
abbrev Connected (conn : Sql.Database) (db : Db) : Prop := DbFile 5 conn db

theorem Connected.has_accounts {conn : Sql.Database} {db : Db} (h : Connected conn db) :
    Has conn (accountsNow db.accountSeq) AccountRow db.accounts.rows := by
  rcases h.accounts with hnow | ⟨hk, -⟩ | ⟨hk, -⟩
  · exact hnow
  · exact absurd hk (by decide)
  · exact absurd hk (by decide)

section Reads

variable {conn : Sql.Database} {db : Db}

theorem find?_key {κ ρ : Type} [DecidableEq κ] {key : ρ → κ} (t : Relational.Table key) (k : κ) :
    t.rows.find? (fun r => key r == k) = t.lookup k := by
  simp only [Relational.Table.lookup, beq_eq_decide]

/-- The records with one key: one, or none. -/
theorem filter_key {κ ρ : Type} [DecidableEq κ] {key : ρ → κ} (t : Relational.Table key) (k : κ) :
    t.rows.filter (fun r => key r == k) = (t.lookup k).toList := by
  rw [← find?_key]
  obtain ⟨rows, hnodup⟩ := t
  induction rows with
  | nil => rfl
  | cons r rows ih =>
    obtain ⟨hnew, hnodup⟩ := List.nodup_cons.mp hnodup
    rw [List.filter_cons, List.find?_cons]
    cases hr : key r == k with
    | true =>
      have hrest : rows.filter (fun r => key r == k) = [] := by
        refine List.filter_eq_nil_iff.mpr fun x hx hk => hnew ?_
        rw [eq_of_beq hr, ← eq_of_beq hk]
        exact List.mem_map_of_mem hx
      rw [if_pos rfl, hrest]
      rfl
    | false => exact ih hnodup

/-- The methods that read. -/
theorem Connected.reads (h : Connected conn db) (now : Int) {q : Query} (hq : q.reads = true) :
    (q.run now conn).1 = (q.exec now db).1.map q.seen ∧ (q.run now conn).2 = conn := by
  cases q with
  | getSetting key =>
    refine ⟨(h.settings.has.find rfl (fun _ _ hr => Sql.Row.satisfies_text hr.key)
      (g := Setting.value) fun row s hr => ?_).trans ?_, rfl⟩
    · simp [Sql.Row.fetch, Fetched.get, hr.value, Value.text?]
    · rw [find?_key]
      rfl
  | countAdmins =>
    exact ⟨h.has_accounts.count rfl fun _ _ hr => hr.satisfies_admin, rfl⟩
  | countAccounts =>
    refine ⟨(h.has_accounts.count rfl (q := fun _ => true) fun _ _ _ => rfl).trans ?_, rfl⟩
    rw [List.countP_true]
    rfl
  | findAccountByEmail email =>
    exact ⟨h.has_accounts.find rfl (fun _ _ hr => Sql.Row.satisfies_text hr.email)
      fun _ _ hr => hr.map, rfl⟩
  | findAccountById id =>
    refine ⟨(h.has_accounts.find rfl (fun _ _ hr => Sql.Row.satisfies_integer hr.id)
      fun _ _ hr => hr.map).trans ?_, rfl⟩
    rw [find?_key]
    rfl
  | findSession token =>
    refine ⟨?_, rfl⟩
    obtain ⟨rows, hsel, hrows⟩ := h.sessions.has.join h.has_accounts
      ["id", "email", "password_hash", "role"] "account_id" "id" (some ("token", .text token))
      (fun x a => a.id == x.accountId) rfl rfl
      (fun _ _ hr => Sql.Row.satisfies_text hr.token) fun r x r' a hr hr' => by
        rw [hr.accountId]
        exact Sql.Row.satisfies_integer hr'.id
    show (conn.join _ "sessions" _ "accounts" _ _ >>= _) = _
    rw [show conn.join _ "sessions" _ "accounts" _ _ = _ from hsel]
    refine (hrows.first fun _ _ hr => hr.map).trans ?_
    rw [filter_key]
    simp only [Query.exec, Db.resolve]
    cases db.sessions.lookup token with
    | none => rfl
    | some x =>
      rw [Option.toList_some, List.flatMap_singleton, List.head?_filter, find?_key]
      rfl
  | findDevice id =>
    refine ⟨(h.devices.has.find rfl (fun _ _ hr => Sql.Row.satisfies_text hr.id)
      (g := fun d => d) fun _ _ hr => hr.map).trans ?_, rfl⟩
    rw [find?_key, Option.map_id']
    rfl
  | listDevicesForAccount id =>
    refine ⟨(h.devices.has.list rfl (fun _ _ hr => Sql.Row.satisfies_integer hr.accountId)
      (g := fun d => d) fun _ _ hr => hr.map).trans ?_, rfl⟩
    rw [List.map_id']
    rfl
  | listAllAccounts =>
    refine ⟨?_, rfl⟩
    obtain ⟨rows, hsel, hrows⟩ := h.has_accounts.selectOrderBy
      ["id", "email", "created_at", "role"] "created_at" (fun a b => a.createdAt ≤ b.createdAt)
      rfl fun r x r' x' hr hr' => by rw [hr.createdAt, hr'.createdAt]; rfl
    show (conn.selectOrderBy _ "accounts" _ >>= _) = _
    rw [show conn.selectOrderBy _ "accounts" _ = _ from hsel]
    exact hrows.read fun _ _ hr => hr.mapSummary
  | _ => exact absurd hq Bool.false_ne_true

end Reads

/-! ## §7. Writing. -/

section Edits

variable {conn conn' : Sql.Database} {db : Db}

theorem Connected.edit_accounts (h : Connected conn db) {seq : Int} {db' : Db}
    (he : Edits conn conn' (accountsNow seq))
    (hhas : Has conn' (accountsNow db'.accountSeq) AccountRow db'.accounts.rows)
    (hkeys : db'.foreignKeys = db.foreignKeys) (hdevices : db'.devices = db.devices)
    (hsettings : db'.settings = db.settings) (hsessions : db'.sessions = db.sessions) :
    Connected conn' db' where
  foreignKeys := (he.foreignKeys.trans h.foreignKeys).trans hkeys.symm
  accounts := .inl hhas
  devices := .inl (hdevices ▸ he.has accounts_ne_devices h.devices.has)
  settings := .inl (hsettings ▸ he.has accounts_ne_settings h.settings.has)
  sessions := .inl (hsessions ▸ he.has accounts_ne_sessions h.sessions.has)
  strangers := Edits.strangers he accounts_mem h.strangers

theorem Connected.edit_devices (h : Connected conn db) (devices : Relational.Table Device.id)
    (he : Edits conn conn' devicesTable) (hhas : Has conn' devicesTable DeviceRow devices.rows) :
    Connected conn' { db with devices := devices } where
  foreignKeys := he.foreignKeys.trans h.foreignKeys
  accounts := .inl (he.has accounts_ne_devices.symm h.has_accounts)
  devices := .inl hhas
  settings := .inl (he.has (by decide) h.settings.has)
  sessions := .inl (he.has (by decide) h.sessions.has)
  strangers := Edits.strangers he (by decide) h.strangers

theorem Connected.edit_settings (h : Connected conn db) (settings : Relational.Table Setting.key)
    (he : Edits conn conn' settingsTable)
    (hhas : Has conn' settingsTable SettingRow settings.rows) :
    Connected conn' { db with settings := settings } where
  foreignKeys := he.foreignKeys.trans h.foreignKeys
  accounts := .inl (he.has accounts_ne_settings.symm h.has_accounts)
  devices := .inl (he.has (by decide) h.devices.has)
  settings := .inl hhas
  sessions := .inl (he.has (by decide) h.sessions.has)
  strangers := Edits.strangers he (by decide) h.strangers

theorem Connected.edit_sessions (h : Connected conn db) (sessions : Relational.Table Session.token)
    (he : Edits conn conn' sessionsTable)
    (hhas : Has conn' sessionsTable SessionRow sessions.rows) :
    Connected conn' { db with sessions := sessions } where
  foreignKeys := he.foreignKeys.trans h.foreignKeys
  accounts := .inl (he.has accounts_ne_sessions.symm h.has_accounts)
  devices := .inl (he.has (by decide) h.devices.has)
  settings := .inl (he.has (by decide) h.settings.has)
  sessions := .inl hhas
  strangers := Edits.strangers he (by decide) h.strangers

/-- `u` stands for the devices or for the sessions. -/
def RefersAs (db : Db) (u : Sql.Relation) : Prop :=
  Sql.Rows DeviceRow u.rows db.devices.rows ∨ Sql.Rows SessionRow u.rows db.sessions.rows

/-- **Only devices and sessions refer to anything**, and they refer to accounts
by id. -/
theorem Connected.refers (h : Connected conn db) {u : Sql.Relation} (hu : u ∈ conn.relations)
    {c : Sql.Column} (hc : c ∈ u.columns) {p : String × String} (href : c.references = some p) :
    p = ("accounts", "id") ∧ c.name = "account_id" ∧ RefersAs db u := by
  have hlookup : conn.relations.lookup u.name = some u :=
    Relational.Table.lookup_eq_some_iff.mpr ⟨hu, rfl⟩
  have hours : ∀ {name : String} {v : Sql.Relation}, conn.relations.lookup name = some v →
      u.name = name → v = u := by
    intro name v hv hname
    rw [← hname, hlookup] at hv
    exact (Option.some.inj hv).symm
  by_cases hname : u.name ∈ tableNames
  · simp only [tableNames, List.mem_cons, List.not_mem_nil, or_false] at hname
    obtain ⟨rows₁, hl₁, -⟩ := h.has_accounts
    obtain ⟨rows₂, hl₂, hdevices⟩ := h.devices.has
    obtain ⟨rows₃, hl₃, -⟩ := h.settings.has
    obtain ⟨rows₄, hl₄, hsessions⟩ := h.sessions.has
    rcases hname with hname | hname | hname | hname
    · obtain rfl := hours hl₁ hname
      simp [accountsNow, accountsTable, roleColumn] at hc
      rcases hc with rfl | rfl | rfl | rfl <;> exact absurd href nofun
    · obtain rfl := hours hl₂ hname
      simp [devicesTable] at hc
      rcases hc with rfl | rfl | rfl | rfl | rfl
      · exact absurd href nofun
      · exact ⟨(Option.some.inj href).symm, rfl, .inl hdevices⟩
      all_goals exact absurd href nofun
    · obtain rfl := hours hl₃ hname
      simp [settingsTable] at hc
      rcases hc with rfl | rfl <;> exact absurd href nofun
    · obtain rfl := hours hl₄ hname
      simp [sessionsTable] at hc
      rcases hc with rfl | rfl | rfl
      · exact absurd href nofun
      · exact ⟨(Option.some.inj href).symm, rfl, .inr hsessions⟩
      · exact absurd href nofun
  · exact absurd (href.symm.trans (h.strangers u hu hname c hc)) nofun

/-- Nothing refers to a relation other than `accounts`. -/
theorem Connected.unreferenced (h : Connected conn db) {name key : String} {v : Value}
    (hne : name ≠ "accounts") : conn.referenced name key v = false :=
  Sql.Database.referenced_eq_false fun _ hu _ hc href =>
    absurd (congrArg Prod.fst (h.refers hu hc href).1) hne

/-- Nothing refers to an account without devices and sessions. -/
theorem Connected.unreferenced_account (h : Connected conn db) {id : Int}
    (hdevices : ∀ d ∈ db.devices.rows, d.accountId ≠ id)
    (hsessions : ∀ x ∈ db.sessions.rows, x.accountId ≠ id) {row : Sql.Row} {a : Account}
    (hrow : AccountRow row a) (ha : a.id = id) (c : String) :
    conn.referenced "accounts" c (row c) = false := by
  refine Sql.Database.referenced_eq_false fun u hu c' hc' href r hr hsame => ?_
  obtain ⟨hp, hname, hkind⟩ := h.refers hu hc' href
  obtain rfl : c = "id" := congrArg Prod.snd hp
  rw [hname, hrow.id, ha] at hsame
  rcases hkind with hrows | hrows
  · obtain ⟨d, hd, hR⟩ := hrows.mem hr
    exact hdevices d hd (Value.integer.inj (hR.accountId.symm.trans hsame))
  · obtain ⟨x, hx, hR⟩ := hrows.mem hr
    exact hsessions x hx (Value.integer.inj (hR.accountId.symm.trans hsame))

end Edits

/-- The method does to the file what `Query.exec` does to `db`, with one answer. -/
def Query.Agrees (now : Int) (conn : Sql.Database) (db : Db) (q : Query) : Prop :=
  (q.run now conn).1 = (q.exec now db).1.map q.seen
    ∧ Connected (q.run now conn).2 (q.exec now db).2

section Writes

variable {now : Int} {conn conn' : Sql.Database} {db db' : Db} {q : Query}

theorem Query.Agrees.of_ok {r : q.Val} (hrun : q.run now conn = (.ok (q.seen r), conn'))
    (hexec : q.exec now db = (.ok r, db')) (h : Connected conn' db') : q.Agrees now conn db := by
  rw [Agrees, hrun, hexec]
  exact ⟨rfl, h⟩

theorem Query.Agrees.of_error {e : String} (hrun : q.run now conn = (.error e, conn))
    (hexec : q.exec now db = (.error e, db)) (h : Connected conn db) : q.Agrees now conn db := by
  rw [Agrees, hrun, hexec]
  exact ⟨rfl, h⟩

/-! ### Updates and deletions. -/

theorem Connected.setAccountRole (h : Connected conn db) (id : Int) (role : AccountRole) :
    (Query.setAccountRole id role).Agrees now conn db := by
  obtain ⟨conn', hrun, hedits, hhas⟩ := h.has_accounts.update "role" (.text role.asStr)
    (some ("id", .integer id)) (fun a => { a with role := role }) rfl nofun
    (fun _ _ hr => Sql.Row.satisfies_integer hr.id)
    fun _ _ hr _ => ⟨hr.id, hr.email, hr.passwordHash, hr.createdAt, _, rfl, by cases role <;> rfl⟩
  refine .of_ok (congrArg (execute conn) hrun) rfl (h.edit_accounts hedits ?_ rfl rfl rfl rfl)
  simpa [Db.setAccountRole, Relational.Table.updateAt] using hhas

theorem Connected.setUnattendedPasswordHash (h : Connected conn db) (id hash : String) :
    (Query.setUnattendedPasswordHash id hash).Agrees now conn db := by
  obtain ⟨conn', hrun, hedits, hhas⟩ := h.devices.has.update "unattended_password_hash"
    (.text hash) (some ("id", .text id)) (fun d => { d with unattendedPasswordHash := some hash })
    rfl nofun (fun _ _ hr => Sql.Row.satisfies_text hr.id)
    fun _ _ hr _ => ⟨hr.id, hr.accountId, hr.name, rfl⟩
  refine .of_ok (congrArg (execute conn) hrun) rfl (h.edit_devices _ hedits ?_)
  simpa [Relational.Table.updateAt] using hhas

/-- Sessions go, and nothing refers to them. -/
theorem Connected.delete_sessions (h : Connected conn db) (cond : Sql.Where) {p : Session → Bool}
    (hknown : sessionsTable.knows (cond.toList.map Prod.fst) = .ok ())
    (hp : ∀ row x, SessionRow row x → row.satisfies cond = p x) :
    ∃ conn', conn.delete "sessions" cond = .ok conn'
      ∧ Connected conn' { db with sessions := db.sessions.deleteWhere p } := by
  obtain ⟨conn', hrun, hedits, hhas⟩ := h.sessions.has.delete cond hknown hp
    fun _ he hhas _ _ _ _ _ _ =>
      (h.edit_sessions (db.sessions.deleteWhere p) he hhas).unreferenced (by decide)
  exact ⟨conn', hrun, h.edit_sessions _ hedits hhas⟩

theorem Connected.delete_devices (h : Connected conn db) (cond : Sql.Where) {p : Device → Bool}
    (hknown : devicesTable.knows (cond.toList.map Prod.fst) = .ok ())
    (hp : ∀ row d, DeviceRow row d → row.satisfies cond = p d) :
    ∃ conn', conn.delete "devices" cond = .ok conn'
      ∧ Connected conn' { db with devices := db.devices.deleteWhere p } := by
  obtain ⟨conn', hrun, hedits, hhas⟩ := h.devices.has.delete cond hknown hp
    fun _ he hhas _ _ _ _ _ _ =>
      (h.edit_devices (db.devices.deleteWhere p) he hhas).unreferenced (by decide)
  exact ⟨conn', hrun, h.edit_devices _ hedits hhas⟩

theorem Connected.deleteSession (h : Connected conn db) (token : String) :
    (Query.deleteSession token).Agrees now conn db := by
  obtain ⟨conn', hrun, hconn⟩ := h.delete_sessions (some ("token", .text token)) rfl
    fun _ _ hr => Sql.Row.satisfies_text hr.token
  exact .of_ok (congrArg (execute conn) hrun) rfl hconn

theorem Connected.deleteDevice (h : Connected conn db) (id : String) :
    (Query.deleteDevice id).Agrees now conn db := by
  obtain ⟨conn', hrun, hconn⟩ := h.delete_devices (some ("id", .text id)) rfl
    fun _ _ hr => Sql.Row.satisfies_text hr.id
  exact .of_ok (congrArg (execute conn) hrun) rfl hconn

/-- The transaction goes through: when the account goes, nothing refers to it
any more. -/
theorem Connected.deleteAccount (h : Connected conn db) (id : Int) :
    (Query.deleteAccount id).Agrees now conn db := by
  obtain ⟨conn₁, hrun₁, h₁⟩ := h.delete_sessions (some ("account_id", .integer id)) rfl
    fun _ _ hr => Sql.Row.satisfies_integer hr.accountId
  obtain ⟨conn₂, hrun₂, h₂⟩ := h₁.delete_devices (some ("account_id", .integer id)) rfl
    fun _ _ hr => Sql.Row.satisfies_integer hr.accountId
  have hedit : ∀ conn₃, Edits conn₂ conn₃ (accountsNow db.accountSeq) →
      Has conn₃ (accountsNow db.accountSeq) AccountRow (db.deleteAccount id).accounts.rows →
      Connected conn₃ (db.deleteAccount id) :=
    fun conn₃ he hhas => h₂.edit_accounts he hhas rfl rfl rfl rfl
  obtain ⟨conn₃, hrun₃, hedits, hhas⟩ := h₂.has_accounts.delete (some ("id", .integer id)) rfl
    (fun _ _ hr => Sql.Row.satisfies_integer hr.id) fun conn₃ he hhas row a hr ha c _ => by
      refine (hedit conn₃ he hhas).unreferenced_account ?_ ?_ hr (eq_of_beq ha) c
      · exact fun d hd => beq_eq_false_iff_ne.mp ((Relational.Table.mem_deleteWhere d).mp hd).2
      · exact fun x hx => beq_eq_false_iff_ne.mp ((Relational.Table.mem_deleteWhere x).mp hx).2
  have hrun : (Query.deleteAccount id).run now conn = (.ok (), conn₃) := by
    show execute conn (conn.delete "sessions" _ >>= fun tx => tx.delete "devices" _ >>= _) = _
    rw [hrun₁]
    show execute conn (conn₁.delete "devices" _ >>= _) = _
    rw [hrun₂]
    exact congrArg (execute conn) hrun₃
  exact .of_ok hrun rfl (hedit conn₃ hedits hhas)

/-! ### Insertions. -/

/-- The reference of a new row dangles when there is no such account. -/
theorem Connected.parent (h : Connected conn db) (id : Int) :
    ((conn.relations.lookup "accounts").any fun p => p.rows.any fun r => r "id" == .integer id)
      = db.hasAccount id := by
  obtain ⟨rows, hl, hrows⟩ := h.has_accounts
  rw [show conn.relations.lookup "accounts" = _ from hl, Option.any_some,
    hrows.any (q := fun a => a.id == id) fun _ _ hr => by rw [hr.id, Bool.eq_iff_iff]; simp,
    Bool.eq_iff_iff, Db.hasAccount_iff, List.any_eq_true]
  exact exists_congr fun a => and_congr_right fun _ => beq_iff_eq

theorem insert?_eq {κ ρ : Type} [DecidableEq κ] {key : ρ → κ} (t : Relational.Table key) (r : ρ) :
    (t.insert? r).isNone = t.rows.any fun x => key x == key r := by
  rw [Bool.eq_iff_iff, Option.isNone_iff_eq_none, Relational.Table.insert?_eq_none_iff,
    List.any_eq_true]
  exact exists_congr fun x => and_congr_right fun _ => beq_iff_eq.symm

theorem Connected.createSession (h : Connected conn db) (token : String) (id : Int) :
    (Query.createSession token id).Agrees now conn db := by
  obtain ⟨conn', hrun, hedits, hhas⟩ := h.sessions.has.insert now
    [("token", .text token), ("account_id", .integer id)] rfl rfl nofun
    (fun _ _ hr => Sql.Row.satisfies_text hr.token) ⟨token, id⟩ ⟨rfl, rfl⟩
  replace hrun := congrArg (execute conn) hrun
  have htaken := insert?_eq db.sessions ⟨token, id⟩
  have hdangles : conn.dangles sessionsTable (sessionsTable.fill now
      [("token", .text token), ("account_id", .integer id)]) = !db.hasAccount id := by
    rw [← h.parent id]
    exact Bool.or_false _
  cases hins : db.sessions.insert? ⟨token, id⟩ with
  | none =>
    rw [hins] at htaken
    rw [← htaken] at hrun
    exact .of_error hrun (by simp only [Query.exec, Db.createSession, hins]; rfl) h
  | some sessions =>
    rw [hins] at htaken
    rw [← htaken, h.foreignKeys, hdangles] at hrun
    cases hfk : db.foreignKeys && !db.hasAccount id with
    | true =>
      rw [hfk] at hrun
      refine .of_error hrun ?_ h
      simp only [Query.exec, Db.createSession, hins, hfk]
      rfl
    | false =>
      rw [hfk] at hrun
      refine .of_ok hrun ?_ (h.edit_sessions sessions hedits ?_)
      · simp only [Query.exec, Db.createSession, hins, hfk]
        rfl
      · rw [Relational.Table.insert?_rows hins]
        exact hhas

theorem Connected.createDevice (h : Connected conn db) (deviceId : String) (id : Int)
    (name : String) : (Query.createDevice deviceId id name).Agrees now conn db := by
  obtain ⟨conn', hrun, hedits, hhas⟩ := h.devices.has.insert now
    [("id", .text deviceId), ("account_id", .integer id), ("name", .text name)] rfl rfl nofun
    (fun _ _ hr => Sql.Row.satisfies_text hr.id) ⟨deviceId, id, name, none⟩ ⟨rfl, rfl, rfl, rfl⟩
  replace hrun := congrArg (execute conn) hrun
  have htaken := insert?_eq db.devices ⟨deviceId, id, name, none⟩
  have hdangles : conn.dangles devicesTable (devicesTable.fill now
      [("id", .text deviceId), ("account_id", .integer id), ("name", .text name)])
      = !db.hasAccount id := by
    rw [← h.parent id]
    exact Bool.or_false _
  cases hins : db.devices.insert? ⟨deviceId, id, name, none⟩ with
  | none =>
    rw [hins] at htaken
    rw [← htaken] at hrun
    exact .of_error hrun (by simp only [Query.exec, Db.createDevice, hins]; rfl) h
  | some devices =>
    rw [hins] at htaken
    rw [← htaken, h.foreignKeys, hdangles] at hrun
    cases hfk : db.foreignKeys && !db.hasAccount id with
    | true =>
      rw [hfk] at hrun
      refine .of_error hrun ?_ h
      simp only [Query.exec, Db.createDevice, hins, hfk]
      rfl
    | false =>
      rw [hfk] at hrun
      refine .of_ok hrun ?_ (h.edit_devices devices hedits ?_)
      · simp only [Query.exec, Db.createDevice, hins, hfk]
        rfl
      · rw [Relational.Table.insert?_rows hins]
        exact hhas

/-- What `createAccount` does, case by case. -/
theorem Db.createAccount_cases (db : Db) (email hash : String) (role : AccountRole) (now : Int) :
    (maxRowid ≤ db.accountSeq
        ∧ db.createAccount email hash role now = .error "database or disk is full")
      ∨ (¬ maxRowid ≤ db.accountSeq ∧ (db.accounts.rows.any fun a => a.email == email) = true
        ∧ db.createAccount email hash role now = .error "UNIQUE constraint failed: accounts.email")
      ∨ (¬ maxRowid ≤ db.accountSeq ∧ (db.accounts.rows.any fun a => a.email == email) = false
        ∧ ∃ db', db.createAccount email hash role now = .ok db') := by
  have hany : (db.accounts.rows.any fun a => a.email == email) = true
      ↔ email ∈ db.accounts.rows.map Account.email := by
    simp [List.any_eq_true]
  unfold Db.createAccount
  by_cases hfull : maxRowid ≤ db.accountSeq
  · exact .inl ⟨hfull, if_pos hfull⟩
  · right
    rw [if_neg hfull]
    by_cases hemail : email ∈ db.accounts.rows.map Account.email
    · exact .inl ⟨hfull, hany.mpr hemail, dif_pos hemail⟩
    · refine .inr ⟨hfull, Bool.eq_false_iff.mpr fun h => hemail (hany.mp h), ?_⟩
      rw [dif_neg hemail]
      split
      next hins =>
        -- the id is beyond the counter, so it is free
        obtain ⟨a, ha, hid⟩ := Relational.Table.insert?_eq_none_iff.mp hins
        have hle := db.id_le_seq a ha
        simp only at hid
        omega
      next => exact ⟨_, rfl⟩

/-- An account is inserted, while there are ids, unless its email is taken. -/
theorem Connected.insert_account (h : Connected conn db) (now : Int) (email hash : String)
    (role : AccountRole) (hroom : ¬ maxRowid ≤ db.accountSeq) :
    ∃ conn', conn.insert now "accounts"
          [("email", .text email), ("password_hash", .text hash), ("role", .text role.asStr)]
        = (if db.accounts.rows.any fun a => a.email == email then
            .error "UNIQUE constraint failed: accounts.email"
          else .ok conn')
      ∧ Edits conn conn' (accountsNow db.accountSeq)
      ∧ Has conn' (accountsNow (db.accountSeq + 1)) AccountRow
          (db.accounts.rows ++ [⟨db.accountSeq + 1, email, hash, now, role⟩]) := by
  have hcheck : Sql.Database.check (accountsNow db.accountSeq) now
      [("email", .text email), ("password_hash", .text hash), ("role", .text role.asStr)]
      = .ok ((accountsNow db.accountSeq).fill now
        [("email", .text email), ("password_hash", .text hash), ("role", .text role.asStr)]) := by
    refine (if_neg ?_).trans rfl
    rw [Bool.and_eq_true_iff, decide_eq_true_iff]
    exact fun hfull => hroom hfull.2
  obtain ⟨conn', hrun, hedits, hhas⟩ := h.has_accounts.insert now _ rfl hcheck nofun
    (fun _ _ hr => Sql.Row.satisfies_text hr.email) ⟨db.accountSeq + 1, email, hash, now, role⟩
    ⟨rfl, rfl, rfl, rfl, _, rfl, by cases role <;> rfl⟩
  refine ⟨conn', hrun.trans ?_, hedits, hhas⟩
  -- `accounts` refers to nothing
  rw [show conn.dangles (accountsNow db.accountSeq) _ = false from rfl, Bool.and_false]
  rfl

theorem Connected.createAccount (h : Connected conn db) (email hash : String) (role : AccountRole) :
    (Query.createAccount email hash role).Agrees now conn db := by
  rcases db.createAccount_cases email hash role now with
    ⟨hfull, hexec⟩ | ⟨hroom, htaken, hexec⟩ | ⟨hroom, htaken, db', hexec⟩
  · have hcheck : Sql.Database.check (accountsNow db.accountSeq) now
        [("email", .text email), ("password_hash", .text hash), ("role", .text role.asStr)]
        = .error "database or disk is full" :=
      if_pos (Bool.and_eq_true_iff.mpr ⟨rfl, decide_eq_true hfull⟩)
    have hrun := h.has_accounts.insert_error now _ hcheck
    refine .of_error (e := "database or disk is full") ?_ (by simp only [Query.exec, hexec]) h
    rw [Query.run, show conn.insert now "accounts" _ = _ from hrun]
  · obtain ⟨conn', hrun, -, -⟩ := h.insert_account now email hash role hroom
    refine .of_error (e := "UNIQUE constraint failed: accounts.email") ?_
      (by simp only [Query.exec, hexec]) h
    rw [Query.run, hrun, htaken]
    rfl
  · obtain ⟨conn', hrun, hedits, hhas⟩ := h.insert_account now email hash role hroom
    obtain ⟨hins, hseq, hdevices, hsettings, hsessions, hkeys⟩ := Db.createAccount_ok hexec
    have hrowid : lastInsertRowid conn' "accounts" = db'.accountSeq := by
      obtain ⟨rows, hl, -⟩ := hhas
      rw [lastInsertRowid, show conn'.relations.lookup "accounts" = _ from hl, hseq]
      rfl
    refine .of_ok (r := db'.accountSeq) ?_ (by simp only [Query.exec, hexec]) (h.edit_accounts hedits
      ?_ hkeys hdevices hsettings hsessions)
    · rw [Query.run, hrun, htaken]
      show (Except.ok (lastInsertRowid conn' "accounts"), conn') = _
      rw [hrowid]
      rfl
    · rw [hseq, Relational.Table.insert?_rows hins]
      exact hhas

theorem Connected.setSetting (h : Connected conn db) (key value : String) :
    (Query.setSetting key value).Agrees now conn db := by
  obtain ⟨conn', hrun, hedits, hhas⟩ := h.settings.has.upsert now
    [("key", .text key), ("value", .text value)] rfl rfl nofun
    (fun _ _ hr => Sql.Row.satisfies_text hr.key) ⟨key, value⟩ ⟨rfl, rfl⟩ rfl (by decide) "value"
    (fun _ => ⟨key, value⟩) fun r s hr hs => ⟨by rw [← eq_of_beq hs]; exact hr.key, rfl⟩
  refine .of_ok (congrArg (execute conn) hrun) rfl (h.edit_settings _ hedits ?_)
  have hrows : (db.settings.upsert ⟨key, value⟩).rows
      = if db.settings.rows.any fun s => s.key == key then
          db.settings.rows.map fun s => if s.key == key then ⟨key, value⟩ else s
        else db.settings.rows ++ [⟨key, value⟩] := by
    have htaken := insert?_eq db.settings ⟨key, value⟩
    unfold Relational.Table.upsert
    split
    next settings hins =>
      rw [hins] at htaken
      rw [← htaken]
      exact Relational.Table.insert?_rows hins
    next hins =>
      rw [hins] at htaken
      rw [← htaken]
      simp
  rw [hrows]
  exact hhas

/-- **Every method** does to the file what `Query.exec` does to `db`. -/
theorem Connected.agrees (h : Connected conn db) (now : Int) (q : Query) :
    q.Agrees now conn db := by
  cases hq : q.reads with
  | true =>
    obtain ⟨hanswer, hconn⟩ := h.reads now hq
    refine ⟨hanswer, ?_⟩
    rw [hconn, Query.exec_reads hq]
    exact h
  | false =>
    cases q with
    | setSetting key value => exact h.setSetting key value
    | createAccount email hash role => exact h.createAccount email hash role
    | setAccountRole id role => exact h.setAccountRole id role
    | deleteAccount id => exact h.deleteAccount id
    | createSession token id => exact h.createSession token id
    | deleteSession token => exact h.deleteSession token
    | createDevice deviceId id name => exact h.createDevice deviceId id name
    | setUnattendedPasswordHash id hash => exact h.setUnattendedPasswordHash id hash
    | deleteDevice id => exact h.deleteDevice id
    | _ => exact absurd hq.symm Bool.false_ne_true

end Writes

/-! ## §8. Lives of the server. -/

/-- One life of the server, as the database file sees it. -/
inductive Life where
  /-- Killed inside `Db::open`, after `k` of its statements. -/
  | killed (k : Nat)
  /-- The calls it made, each with the time. -/
  | served (calls : List (Int × Query))

/-- A method and what it handed to its caller. -/
abbrev Reply := Σ q : Query, Except String q.Seen

def runCalls : List (Int × Query) → Sql.Database → List Reply × Sql.Database
  | [], conn => ([], conn)
  | (now, q) :: calls, conn =>
    (⟨q, (q.run now conn).1⟩ :: (runCalls calls (q.run now conn).2).1,
      (runCalls calls (q.run now conn).2).2)

def execCalls : List (Int × Query) → Db → List Reply × Db
  | [], db => ([], db)
  | (now, q) :: calls, db =>
    (⟨q, (q.exec now db).1.map q.seen⟩ :: (execCalls calls (q.exec now db).2).1,
      (execCalls calls (q.exec now db).2).2)

def Life.run (file : Sql.Database) : Life → Except String (List Reply × Sql.Database)
  | .killed k => (openUpTo k file).map fun file' => ([], file')
  | .served calls => (openDb file).map (runCalls calls)

def Life.exec (db : Db) : Life → List Reply × Db
  | .killed _ => ([], db)
  | .served calls => execCalls calls db

def runLives : List Life → Sql.Database → Except String (List Reply × Sql.Database)
  | [], file => .ok ([], file)
  | life :: lives, file => do
    let (answers, file') ← life.run file
    let (rest, file'') ← runLives lives file'
    return (answers ++ rest, file'')

def execLives : List Life → Db → List Reply × Db
  | [], db => ([], db)
  | life :: lives, db =>
    ((life.exec db).1 ++ (execLives lives (life.exec db).2).1, (execLives lives (life.exec db).2).2)

section Lives

variable {file : Sql.Database} {db : Db}

theorem Connected.calls {conn : Sql.Database} (h : Connected conn db)
    (calls : List (Int × Query)) : (runCalls calls conn).1 = (execCalls calls db).1
      ∧ Connected (runCalls calls conn).2 (execCalls calls db).2 := by
  induction calls generalizing conn db with
  | nil => exact ⟨rfl, h⟩
  | cons call calls ih =>
    obtain ⟨now, q⟩ := call
    obtain ⟨hanswer, hconn⟩ := h.agrees now q
    obtain ⟨hanswers, hend⟩ := ih hconn
    exact ⟨by rw [runCalls, execCalls, hanswer, hanswers], hend⟩

/-- **One life.** -/
theorem DbFile.life (h : DbFile 0 file db) (life : Life) :
    ∃ file', life.run file = .ok ((life.exec db).1, file') ∧ DbFile 0 file' (life.exec db).2 := by
  cases life with
  | killed k =>
    have hmin : openUpTo k file = openUpTo (min k opening.length) file := by
      rw [openUpTo, openUpTo, ← List.take_eq_take_min]
    obtain ⟨file', hopen, hfile'⟩ := h.upTo (Nat.min_le_right k opening.length)
    exact ⟨file', by rw [Life.run, hmin, hopen]; rfl, hfile'.reopen⟩
  | served calls =>
    obtain ⟨conn, hopen, hconn⟩ := h.upTo (Nat.le_refl opening.length)
    obtain ⟨hanswers, hend⟩ := Connected.calls hconn calls
    refine ⟨(runCalls calls conn).2, ?_, hend.reopen⟩
    rw [Life.run, openDb, hopen, Life.exec, ← hanswers]
    rfl

/-- **The store is what its statements make of the file.**  Whichever version
of the server wrote the file, `Db::open` succeeds on it in every life, also after
lives that were killed inside `Db::open`; every method answers what `Query.exec`
says, and nothing is lost on the way. -/
theorem lives_agree (h : DbFile 0 file db) (lives : List Life) :
    ∃ file', runLives lives file = .ok ((execLives lives db).1, file')
      ∧ DbFile 0 file' (execLives lives db).2 := by
  induction lives generalizing file db with
  | nil => exact ⟨file, rfl, h⟩
  | cons life lives ih =>
    obtain ⟨file₁, hlife, h₁⟩ := h.life life
    obtain ⟨file₂, hrest, h₂⟩ := ih h₁
    refine ⟨file₂, ?_, h₂⟩
    rw [runLives, hlife]
    show (runLives lives file₁ >>= _) = _
    rw [hrest]
    rfl

/-- A file from before the `role` column has no admin.  What follows from that is
in `Visuara.Signaling.Upgraded`. -/
theorem DbFile.admins_eq_zero (h : DbFile 0 file db) (hold : file.tableInfo "accounts" "role" = 0) :
    db.admins = 0 := by
  rw [Db.admins, Relational.Table.countWhere, List.countP_eq_zero]
  rcases h.accounts with ⟨rows, hl, -⟩ | ⟨-, rows, -, hrows⟩ | ⟨-, -, hnone, -⟩
  · rw [Sql.Database.tableInfo, show file.relations.lookup "accounts" = _ from hl] at hold
    exact absurd (show (1 : Nat) = 0 from hold) Nat.one_ne_zero
  · intro a ha
    rw [show a.role = .user from hrows.all (fun _ _ hr => hr.role) a ha]
    exact Bool.false_ne_true
  · rw [hnone]
    exact fun a ha => absurd ha List.not_mem_nil

end Lives

section OldFile

/-- A file from before the `role` column and the other three relations, with
one account. -/
def oldFile : Sql.Database where
  relations := (Relational.Table.empty.insert? { accountsAt 1 with
    rows := [fun c =>
      if c = "id" then .integer 1 else if c = "email" then .text "old@example.com"
      else if c = "password_hash" then .text "hash" else if c = "created_at" then .integer 0
      else .null] }).getD .empty
  foreignKeys := true

/-- What it holds. -/
def oldDb : Db := ((Query.createAccount "old@example.com" "hash" .user).exec 0 (Db.fresh true)).2

theorem oldFile_holds : DbFile 0 oldFile oldDb where
  foreignKeys := rfl
  accounts := .inr (.inl ⟨by decide, _, rfl, .cons ⟨rfl, rfl, rfl, rfl, rfl⟩ .nil⟩)
  devices := .inr ⟨rfl, rfl, rfl⟩
  settings := .inr ⟨rfl, rfl, rfl⟩
  sessions := .inr ⟨rfl, rfl, rfl⟩
  strangers := by
    intro t ht hname
    obtain rfl := List.mem_singleton.mp ht
    exact absurd (by decide : "accounts" ∈ tableNames) hname

/-- The upgrade is cut short twice; then the old account is found, and found to
be a user's, and a second server makes it an admin's. -/
theorem lives_agree_upgrade : ∃ file', runLives [.killed 1, .killed 4,
      .served [(7, .findAccountByEmail "old@example.com"), (8, .setAccountRole 1 .admin)],
      .served [(9, .countAdmins)]] oldFile
    = .ok ([⟨.findAccountByEmail "old@example.com", .ok (some ⟨1, "old@example.com", "hash", .user⟩)⟩,
        ⟨.setAccountRole 1 .admin, .ok ()⟩, ⟨.countAdmins, .ok 1⟩], file') := by
  obtain ⟨file', hrun, -⟩ := lives_agree oldFile_holds [.killed 1, .killed 4,
    .served [(7, .findAccountByEmail "old@example.com"), (8, .setAccountRole 1 .admin)],
    .served [(9, .countAdmins)]]
  exact ⟨file', hrun⟩

end OldFile

end Visuara.Signaling
