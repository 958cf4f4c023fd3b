/-
  Visuara.Signaling.Isolation
  ───────────────────────────
  **WHAT A USER CAN CHANGE.**

  One task of somebody who is not an admin, run alone on any state: `Isolated`
  says what it leaves as it is in the database.  Handlers that write no rows,
  or create sessions only, are dealt with by their footprint; admin routes by
  `require_admin`; the six that are left, one by one.
-/
import Visuara.Signaling.Accounts

namespace Visuara.Signaling

open Interleave Relational

/-! ## §1. Who asks. -/

/-- The headers that the handler of a request reads, if it reads any. -/
def Request.headers : Request → Option HeaderMap
  | .register .. | .login .. | .registrationStatus | .downloadPlatform _ => none
  | .logout headers | .me headers | .listDevices headers | .deleteOwn headers _
  | .getSettings headers | .saveSettings headers .. | .clientBuilds headers
  | .fetchRelease headers | .listAccounts headers | .createAccount headers ..
  | .accountDetail headers _ | .deleteAccount headers _ | .setAccountRole headers ..
  | .deleteDevice headers .. | .getRegistration headers | .setRegistration headers _
  | .listDownloads headers => some headers

/-- The session token that comes with a task; `headers` are those of a request
whose handler does not look at them. -/
def Task.token (t : Task) (headers : HeaderMap) : Option String :=
  match t with
  | .http req => cookieValue (req.headers.getD headers) SESSION_COOKIE
  | _ => none

def ConnState.accountId : ConnState → Option Int
  | .unauthenticated => none
  | .authenticated id => some id

/-- The account of the session cookie, or the one the connection is
authenticated as. -/
def Task.principal (t : Task) (headers : HeaderMap) (s : Server) : Option Int :=
  match t with
  | .http _ => ((t.token headers).bind s.db.resolve).map Account.id
  | t => t.connection.bind fun c => (s.socket c).connState.accountId

/-- Whether somebody is an admin now. -/
def Db.isAdmin (db : Db) (who : Option Int) : Bool :=
  (who.bind db.accounts.lookup).any fun a => a.role == .admin

/-- `require_admin` lets nobody else through. -/
theorem AsksAsAdmin.isAdmin {headers : HeaderMap} {db : Db} (h : AsksAsAdmin headers db) :
    db.isAdmin (((cookieValue headers SESSION_COOKIE).bind db.resolve).map Account.id) = true := by
  obtain ⟨token, a, hc, hr, hrole⟩ := h
  simp [Db.isAdmin, hc, hr, Db.lookup_of_resolve hr, hrole]

/-! ## §2. The frame. -/

/-- What a task of `who`, who is no admin and presents `token`, may do to the
database: add accounts and sessions, change what belongs to `who`, and end the
session of `token`. -/
structure Isolated (who : Option Int) (token : Option String) (db db' : Db) : Prop where
  accounts : ∀ a ∈ db.accounts, a ∈ db'.accounts
  newAccounts : ∀ a ∈ db'.accounts, a ∉ db.accounts → a.role = .user ∨ db.accounts.rows = []
  devices : ∀ d ∈ db.devices, who ≠ some d.accountId → d ∈ db'.devices
  newDevices : ∀ d ∈ db'.devices, d ∉ db.devices → who = some d.accountId
  sessions : ∀ row ∈ db.sessions, token ≠ some row.token → row ∈ db'.sessions
  settings : db'.settings = db.settings
    ∨ db.accounts.rows = [] ∧ ∃ a, db'.accounts.rows = [a]

namespace Isolated

variable {who : Option Int} {token : Option String} {db db' db'' : Db}

theorem refl : Isolated who token db db where
  accounts _ h := h
  newAccounts _ h hno := absurd h hno
  devices _ h _ := h
  newDevices _ h hno := absurd h hno
  sessions _ h _ := h
  settings := .inl rfl

/-- Only the sessions change any further. -/
theorem sessionsOnly (h : Isolated who token db db') (haccounts : db''.accounts = db'.accounts)
    (hdevices : db''.devices = db'.devices) (hsettings : db''.settings = db'.settings)
    (hsessions : ∀ row ∈ db'.sessions, token ≠ some row.token → row ∈ db''.sessions) :
    Isolated who token db db'' where
  accounts := haccounts ▸ h.accounts
  newAccounts := haccounts ▸ h.newAccounts
  devices := hdevices ▸ h.devices
  newDevices := hdevices ▸ h.newDevices
  sessions row hrow hne := hsessions row (h.sessions row hrow hne) hne
  settings := hsettings ▸ haccounts ▸ h.settings

/-- Only devices of `who` are written. -/
theorem ownDevices {q : Query} {now : Int} (haccounts : q.writesAccounts = false)
    (hsettings : q.writesSettings = false) (hsessions : q.writesSessions = false)
    (hcreate : ∀ d id name, q = .createDevice d id name → who = some id)
    (hdelete : ∀ d ∈ db.devices, q = .deleteDevice d.id → who = some d.accountId)
    (hset : ∀ d ∈ db.devices, ∀ hash, q = .setUnattendedPasswordHash d.id hash →
      who = some d.accountId) : Isolated who token db (q.exec now db).2 where
  accounts := (Query.exec_accounts haccounts).1 ▸ fun _ h => h
  newAccounts _ h hno := absurd ((Query.exec_accounts haccounts).1 ▸ h) hno
  devices d hd hne := by
    refine Query.exec_devices_keeps hd (fun hq => hne (hdelete d hd hq))
      (fun hash hq => hne (hset d hd hash hq)) fun hq => ?_
    rw [hq] at haccounts
    exact absurd haccounts.symm Bool.false_ne_true
  newDevices d hd hno := by
    rcases Query.mem_exec_devices hd with h | ⟨x, id, name, hq, rfl⟩ | ⟨old, hash, hq, hold, rfl⟩
    · exact absurd h hno
    · exact hcreate x id name hq
    · exact hset old hold hash hq
  sessions := Query.exec_sessions hsessions ▸ fun _ h _ => h
  settings := .inl (Query.exec_settings hsettings)

/-- A device of `who` is created. -/
theorem createDevice {d name : String} {id now : Int} (hown : who = some id) :
    Isolated who token db ((Query.createDevice d id name).exec now db).2 := by
  refine ownDevices rfl rfl rfl (fun _ _ _ hq => ?_) (fun _ _ hq => ?_) fun _ _ _ hq => ?_
  · injection hq with _ hid _
    rw [hown, hid]
  · injection hq
  · injection hq

/-- A device of `who` is deleted. -/
theorem deleteDevice {d : String} {now : Int} (hown : ∀ x ∈ db.devices, x.id = d →
    who = some x.accountId) : Isolated who token db ((Query.deleteDevice d).exec now db).2 := by
  refine ownDevices rfl rfl rfl (fun _ _ _ hq => ?_) (fun x hx hq => ?_) fun _ _ _ hq => ?_
  · injection hq
  · injection hq with hid
    exact hown x hx hid.symm
  · injection hq

/-- A device of `who` gets a password. -/
theorem setUnattendedPasswordHash {d hash : String} {now : Int}
    (hown : ∀ x ∈ db.devices, x.id = d → who = some x.accountId) :
    Isolated who token db ((Query.setUnattendedPasswordHash d hash).exec now db).2 := by
  refine ownDevices rfl rfl rfl (fun _ _ _ hq => ?_) (fun _ _ hq => ?_) fun x hx _ hq => ?_
  · injection hq
  · injection hq
  · injection hq with hid _
    exact hown x hx hid.symm

theorem createAccount {email hash : String} {role : AccountRole} {now : Int}
    (h : db.createAccount email hash role now = .ok db')
    (hrole : role = .user ∨ db.accounts.rows = []) : Isolated who token db db' := by
  obtain ⟨hi, -, hdevices, hsettings, hsessions, -⟩ := Db.createAccount_ok h
  have hmem := Table.mem_insert? hi
  refine ⟨fun a ha => (hmem a).mpr (.inl ha), fun a ha hno => ?_, hdevices ▸ fun _ h _ => h,
    fun d hd hno => absurd (hdevices ▸ hd) hno, hsessions ▸ fun _ h _ => h, .inl hsettings⟩
  rcases (hmem a).mp ha with ha | rfl
  · exact absurd ha hno
  · exact hrole

/-- The first account comes with a setting. -/
theorem firstAccount {email hash : String} {role : AccountRole} {now : Int} {settings : Table Setting.key}
    (h : db.createAccount email hash role now = .ok db') (hempty : db.accounts.rows = []) :
    Isolated who token db { db' with settings := settings } := by
  have hrows := Table.insert?_rows (Db.createAccount_ok h).1
  rw [hempty, List.nil_append] at hrows
  have hdb' : Isolated who token db db' := .createAccount h (.inr hempty)
  exact { hdb' with settings := .inr ⟨hempty, _, hrows⟩ }

end Isolated

/-! ## §3. Handlers that write no rows, or only sessions. -/

/-- Operations that write no rows, except new sessions. -/
def Op.isolates : Op → Bool
  | .db (.createSession ..) => true
  | .db q => q.reads
  | _ => true

theorem isolates_of_quiet {o : Op} (h : o.quiet = true) : o.isolates = true := by
  cases o with
  | db q => cases q <;> first | rfl | exact h
  | _ => rfl

/-- The tasks that write other rows. -/
def Task.writesRows : Task → Bool
  | .http (.register ..) | .http (.logout _) | .http (.deleteOwn ..) | .http (.saveSettings ..)
  | .http (.fetchRelease _) | .http (.createAccount ..) | .http (.deleteAccount ..)
  | .http (.setAccountRole ..) | .http (.deleteDevice ..) | .http (.setRegistration ..)
  | .message _ (.register ..) | .message _ (.registerDevice _)
  | .message _ (.setUnattendedPassword ..) => true
  | _ => false

theorem isolates_of_performs {t : Task} {o : Op} (ht : t.writesRows = false)
    (ho : t.performs o = true) : o.isolates = true := by
  cases o with
  | db q =>
    cases t with
    | http req =>
      cases req with
      | register | logout | deleteOwn | saveSettings | fetchRelease | createAccount | deleteAccount
      | setAccountRole | deleteDevice | setRegistration => exact absurd ht.symm Bool.false_ne_true
      | login email password => cases q <;> first | rfl | exact ho
      | _ => exact isolates_of_quiet ho
    | message c m =>
      cases m with
      | register | registerDevice | setUnattendedPassword => exact absurd ht.symm Bool.false_ne_true
      | _ => exact isolates_of_quiet ho
    | _ => exact absurd ho Bool.false_ne_true
  | _ => rfl

section

variable [Crates] {who : Option Int} {token : Option String} {db : Db}

theorem Isolated.exec {o : Op} (ho : o.isolates = true) (d : Draw) {s : Server}
    (h : Isolated who token db s.db) : Isolated who token db (o.exec d s).2.db := by
  rw [Op.exec_db]
  cases o with
  | db q =>
    dsimp only
    split
    · exact h
    · cases q with
      | createSession t id =>
        refine h.sessionsOnly (Query.exec_accounts rfl).1 (Query.exec_devices rfl)
          (Query.exec_settings rfl) fun row hrow _ => ?_
        exact Query.exec_sessions_keeps hrow (by simp) (by simp)
      | _ => first | exact h | exact absurd ho Bool.false_ne_true
  | _ => exact h

/-- A query that fails does nothing. -/
theorem Isolated.query {q : Query} {s : Server} (d : Draw)
    (h : Isolated who token s.db (q.exec d.clock s.db).2) :
    Isolated who token s.db ((Op.db q).exec d s).2.db := by
  rw [Op.exec_db]
  dsimp only
  split
  · exact .refl
  · exact h

variable {A : Server → Op → Draw → Prop} {α : Type} {s : Server}

/-- Such operations stay within the frame. -/
theorem wp_isolated {p : Act α} (hp : Only Op.isolates p ([] : Calls))
    (hs : Isolated who token db s.db) :
    Prog.wp Op.exec A p (fun _ s' => Isolated who token db s'.db) s :=
  Prog.wp_of_follows hp (fun _ _ d ho _ hs => hs.exec ho d) hs

/-- The same, in the middle of a program. -/
theorem wp_isolated_bind {β : Type} {p : Act β} {f : β → Act α}
    (hf : ∀ b, Only Op.isolates (f b) ([] : Calls))
    (hp : Prog.wp Op.exec A p (fun _ s' => Isolated who token db s'.db) s) :
    Prog.wp Op.exec A (p >>= f) (fun _ s' => Isolated who token db s'.db) s := by
  rw [Prog.wp_bind]
  exact Prog.wp_mono hp fun b s' hs => wp_isolated (hf b) hs

/-! ## §4. The tasks that write rows. -/

/-- A user, or the first account, with the setting that goes with it. -/
theorem isolated_bootstrap (email hash : String) :
    Prog.wp Op.exec A (createAccountAndMaybeBootstrapAdmin email hash).run
      (fun _ s' => Isolated who token s.db s'.db) s := by
  rw [createAccountAndMaybeBootstrapAdmin_run]
  intro d _
  rw [Op.exec_reading rfl]
  cases hn : ((Op.db .countAccounts).exec d s).1 with
  | error e => exact .refl
  | ok n =>
    obtain rfl : (s.db.accounts.rows.length : Int) = n := Except.ok.inj (Op.exec_query_ok hn).2
    intro d₂ _
    cases hf : d₂.fault with
    | some e =>
      rw [Op.exec_query_fault hf]
      exact .refl
    | none =>
      rw [Op.exec_query hf]
      simp only [Query.exec]
      cases hc : s.db.createAccount email hash
          (if ((s.db.accounts.rows.length : Int) == 0) = true then .admin else .user) d₂.clock with
      | error e => exact .refl
      | ok db' =>
        dsimp only
        split
        next hfirst =>
          have hempty : s.db.accounts.rows = [] := by simpa using hfirst
          intro d₃ _
          cases hf₃ : d₃.fault with
          | some e =>
            rw [Op.exec_query_fault hf₃]
            exact .createAccount hc (.inr hempty)
          | none =>
            rw [Op.exec_query hf₃]
            exact .firstAccount hc hempty
        next hfirst => exact .createAccount hc (.inl (if_neg hfirst))

theorem isolated_register (email password : String) :
    Prog.wp Op.exec A (Api.register email password)
      (fun _ s' => Isolated who token s.db s'.db) s := by
  simp only [Api.register]
  split
  · exact .refl
  · rw [registrationEnabled_bind]
    intro d _
    rw [Op.exec_reading rfl]
    dsimp only
    split
    · exact .refl
    · exact .refl
    · intro d₂ _
      show Prog.wp _ _ _ _ s
      rcases ((Op.hashPassword password).exec d₂ s).1 with e | hash
      · exact .refl
      · show Prog.wp _ _ ((createAccountAndMaybeBootstrapAdmin _ hash).run >>= _) _ _
        refine wp_isolated_bind (fun x => ?_) (isolated_bootstrap _ hash)
        rcases x with e | ⟨id, role⟩
        · dsimp only
          split <;> trivial
        · exact only_startSession id _ role rfl fun _ => rfl

/-- What the turn of a loop does is done by `handle_message`. -/
theorem isolated_onMessage {c : ConnectionId} {m : ClientMessage}
    (h : Prog.wp Op.exec A (handleMessage c m).run (fun _ s' => Isolated who token s.db s'.db) s) :
    Prog.wp Op.exec A (onMessage c m) (fun _ s' => Isolated who token s.db s'.db) s := by
  rw [onMessage_eq]
  exact wp_isolated_bind (fun r => only_report r fun _ => rfl) h

theorem isolated_wsRegister (c : ConnectionId) (email password : String) :
    Prog.wp Op.exec A (handleMessage c (.register email password)).run
      (fun _ s' => Isolated who token s.db s'.db) s := by
  simp only [handleMessage, Handler.lift_bind, registrationEnabled_bind, Prog.wp_call]
  intro d _
  rw [Op.exec_reading rfl]
  split
  · exact wp_isolated ⟨rfl, fun _ => trivial⟩ .refl
  · simp only [Handler.mk_bind, perform, Prog.perform_bind, Prog.wp_call]
    intro d₂ _
    show Prog.wp _ _ _ _ s
    rcases ((Op.hashPassword password).exec d₂ s).1 with e | hash
    · exact .refl
    · simp only [Handler.lift_bind]
      refine wp_isolated_bind (fun x => ?_) (isolated_bootstrap email hash)
      rcases x with e | ⟨id, role⟩
      · exact ⟨rfl, fun _ => trivial⟩
      · exact ⟨rfl, fun _ => ⟨rfl, fun _ => ⟨rfl, fun _ => trivial⟩⟩⟩

/-- The session that ends is the one of the request. -/
theorem isolated_logout (headers : HeaderMap) :
    Prog.wp Op.exec A (Api.logout headers)
      (fun _ s' => Isolated who (cookieValue headers SESSION_COOKIE) s.db s'.db) s := by
  simp only [Api.logout]
  split
  next t ht =>
    intro d _
    refine Isolated.query d (Isolated.refl.sessionsOnly rfl rfl rfl fun row hrow hne => ?_)
    refine Query.exec_sessions_keeps hrow (fun heq => hne ?_) (by simp)
    injection heq with heq
    rw [ht, heq]
  next => exact .refl

/-- A device that is deleted belongs to the account of the session. -/
theorem isolated_deleteOwn (headers : HeaderMap) (d : DeviceId) :
    Prog.wp Op.exec A (Api.deleteOwn headers d) (fun _ s' => Isolated
      (((cookieValue headers SESSION_COOKIE).bind s.db.resolve).map Account.id) token s.db s'.db)
      s := by
  simp only [Api.deleteOwn]
  refine wp_requireAccount .refl fun t account ht hr => ?_
  intro draw _
  rw [Op.exec_reading rfl]
  cases hfound : ((Op.db (.findDevice d)).exec draw s).1 with
  | error e => exact .refl
  | ok found =>
    cases found with
    | none => exact .refl
    | some device =>
      obtain ⟨hdev, hid⟩ := Table.lookup_eq_some_iff.mp (Except.ok.inj (Op.exec_query_ok hfound).2)
      show Prog.wp _ _ (ite _ _ _) _ _
      split
      next hown =>
        intro draw₂ _
        show Prog.wp _ _ (Api.kickDevice d _ >>= fun _ => pure (statusResponse 204)) _ _
        refine wp_isolated (Only.bind (only_kickDevice d _ rfl rfl (fun _ => rfl) fun _ => rfl)
          fun _ _ => trivial) (Isolated.query draw₂ (.deleteDevice fun x hx hxid => ?_))
        obtain rfl := Table.eq_of_key hx hdev (hxid.trans hid.symm)
        simp [ht, hr, hown]
      next => exact .refl

/-- A device that is created belongs to the account of the connection. -/
theorem isolated_registerDevice (c : ConnectionId) (name : String) :
    Prog.wp Op.exec A (handleMessage c (.registerDevice name)).run
      (fun _ s' => Isolated (s.socket c).connState.accountId token s.db s'.db) s := by
  simp only [handleMessage, requireAuth_bind, bind_assoc, Prog.wp_call]
  intro d _
  simp only [Op.exec]
  cases hst : (s.socket c).connState with
  | unauthenticated => exact .refl
  | authenticated account =>
    simp only [Handler.perform_bind, Prog.wp_call]
    intro d₂ _
    simp only [Op.exec]
    cases (s.socket c).myDeviceId with
    | some x =>
      exact wp_isolated ⟨rfl, fun _ => ⟨rfl, fun _ => ⟨rfl, fun _ => ⟨rfl,
        fun _ => trivial⟩⟩⟩⟩ .refl
    | none =>
      simp only [bind_assoc, Handler.perform_bind, Handler.query_bind, Prog.wp_call]
      intro d₃ _ d₄ _
      show Prog.wp _ _ _ _ ((Op.db _).exec d₄ s).2
      refine wp_isolated ?_ (Isolated.query d₄ (.createDevice rfl))
      split
      · exact ⟨rfl, fun _ => ⟨rfl, fun _ => ⟨rfl, fun _ => ⟨rfl, fun _ => ⟨rfl,
          fun _ => trivial⟩⟩⟩⟩⟩
      · trivial

/-- A device whose password is set belongs to the account of the connection. -/
theorem isolated_setUnattendedPassword (c : ConnectionId) (d : DeviceId) (password : String) :
    Prog.wp Op.exec A (handleMessage c (.setUnattendedPassword d password)).run
      (fun _ s' => Isolated (s.socket c).connState.accountId token s.db s'.db) s := by
  simp only [handleMessage, requireAuth_bind, Prog.wp_call]
  intro draw _
  simp only [Op.exec]
  cases hst : (s.socket c).connState with
  | unauthenticated => exact .refl
  | authenticated account =>
    simp only [Handler.query_bind, Handler.okOr_bind, Prog.wp_call]
    intro draw₂ _
    rw [Op.exec_reading rfl]
    cases hfound : ((Op.db (.findDevice d)).exec draw₂ s).1 with
    | error e => exact .refl
    | ok found =>
      cases found with
      | none => exact .refl
      | some device =>
        obtain ⟨hdev, hid⟩ :=
          Table.lookup_eq_some_iff.mp (Except.ok.inj (Op.exec_query_ok hfound).2)
        dsimp only
        split
        next => exact .refl
        next hown =>
          simp only [Handler.mk_bind, perform, Prog.perform_bind, Prog.wp_call]
          intro draw₃ _
          show Prog.wp _ _ _ _ s
          rcases ((Op.hashPassword password).exec draw₃ s).1 with e | hash
          · exact .refl
          · simp only [Handler.query_bind, Prog.wp_call]
            intro draw₄ _
            refine wp_isolated ?_
              (Isolated.query draw₄ (.setUnattendedPasswordHash fun x hx hxid => ?_))
            · split
              · refine ⟨rfl, fun host => ?_⟩
                cases host with
                | none => trivial
                | some b =>
                  refine ⟨rfl, fun tx => ?_⟩
                  cases tx with
                  | none => trivial
                  | some tx => exact ⟨rfl, fun _ => trivial⟩
              · trivial
            · obtain rfl := Table.eq_of_key hx hdev (hxid.trans hid.symm)
              exact congrArg some (not_ne_iff.mp hown).symm

/-- Behind `require_admin` there is nobody. -/
theorem isolated_withAdmin {headers : HeaderMap} {handler : Act Response}
    (hwho : s.db.isAdmin (((cookieValue headers SESSION_COOKIE).bind s.db.resolve).map Account.id)
      = false) : Prog.wp Op.exec A (Api.withAdmin headers handler)
        (fun _ s' => Isolated who token s.db s'.db) s := by
  refine wp_withAdmin (fun _ _ => .refl) fun hadmin => ?_
  exact absurd (hadmin.isAdmin.symm.trans hwho) (by simp)

/-! ## §5. The result. -/

/-- **Every task of somebody who is no admin stays within the frame.** -/
theorem task_isolated (t : Task) (headers : HeaderMap)
    (hwho : s.db.isAdmin (t.principal headers s) = false) :
    Prog.wp Op.exec A (server.body t)
      (fun _ s' => Isolated (t.principal headers s) (t.token headers) s.db s'.db)
      (server.begins t s) := by
  have hdb : (server.begins t s).db = s.db := by cases t <;> rfl
  cases ht : t.writesRows with
  | false =>
    have honly : Only Op.isolates (server.body t) ([] : Calls) :=
      t.only.mono (fun _ _ ho => isolates_of_performs ht ho) fun _ _ h => h
    exact wp_isolated honly (hdb ▸ .refl)
  | true =>
    cases t with
    | http req =>
      refine wp_http ?_
      cases req with
      | register email password => exact isolated_register email password
      | logout h => exact isolated_logout h
      | deleteOwn h d => exact isolated_deleteOwn h d
      | saveSettings | fetchRelease | createAccount | deleteAccount | setAccountRole
      | deleteDevice | setRegistration => exact isolated_withAdmin hwho
      | _ => exact absurd ht Bool.false_ne_true
    | message c m =>
      refine wp_message (isolated_onMessage ?_)
      cases m with
      | register email password => exact isolated_wsRegister c email password
      | registerDevice name => exact isolated_registerDevice c name
      | setUnattendedPassword d password => exact isolated_setUnattendedPassword c d password
      | _ => exact absurd ht Bool.false_ne_true
    | _ => exact absurd ht Bool.false_ne_true

/-- **Account isolation**, in every state, reachable or not: one task of a
principal who is no admin leaves every account row, the device rows of others,
the other sessions and the settings as they are; new devices are the
principal's, new accounts are users.  The exception is the first account: an
admin, and a setting.  In a serial run without database failures that one is
the very first: no turn has created an account before. -/
theorem account_isolation {t : Task} {headers : HeaderMap} {r : Option Response} {s' : Server}
    (hrun : Prog.Runs Op.exec A (server.body t) (server.begins t s) r s')
    (hwho : s.db.isAdmin (t.principal headers s) = false) :
    Isolated (t.principal headers s) (t.token headers) s.db s'.db
    ∧ ∀ foreignKeys config files l,
      server.Serial dbWorks (Server.start (Db.fresh foreignKeys) config files) l s →
      s'.db.settings ≠ s.db.settings → ∀ turn ∈ l, ¬ CreatesAccount turn := by
  have hframe := Prog.wp_sound hrun (task_isolated t headers hwho)
  refine ⟨hframe, fun foreignKeys config files l hserial hne => ?_⟩
  have hg := governed hserial
  rcases hframe.settings with hsame | ⟨hempty, -⟩
  · exact absurd hsame hne
  · refine hg.fresh.mp (by_contra fun h0 => ?_)
    obtain ⟨a, ha, -⟩ := Db.admins_pos.mp (hg.admin h0)
    have hm : a ∈ s.db.accounts.rows := ha
    rw [hempty] at hm
    exact List.not_mem_nil hm

end

section Schedule

open scoped Transparent

/-- Bob's connection registers a device. -/
def bobRegisters (s : Server) : Option (Option Response × Server) :=
  Prog.run Op.exec (server.body (.message "c" (.registerDevice "laptop")))
    (List.replicate 9 (Draw.from 4)) s

/-- Bob's connection is logged in, he is no admin, and the device becomes his. -/
theorem bobRegisters_shows : (server.serveAll openAndRegister ([], Server.blank true)).any (fun r =>
    decide ((r.2.socket "c").connState = .authenticated 2 ∧ r.2.db.isAdmin (some 2) = false)
      && (bobRegisters r.2).any fun x =>
        decide (x.2.db.devices.rows.map Device.accountId = [2])) = true := by
  decide +kernel

theorem bobRegisters_any : (bobRegisters (Option.get _ openAndRegister_served).2).any
    (fun x => decide (x.2.db.devices.rows.map Device.accountId = [2])) = true :=
  (Bool.and_eq_true_iff.mp (get_of_any bobRegisters_shows openAndRegister_served)).2

theorem bobRegisters_isSome :
    (bobRegisters (Option.get _ openAndRegister_served).2).isSome = true :=
  Option.isSome_of_any bobRegisters_any

theorem account_isolation_bob :
    Isolated (some 2) none (Option.get _ openAndRegister_served).2.db
        (Option.get _ bobRegisters_isSome).2.db
      ∧ (Option.get _ bobRegisters_isSome).2.db.devices.rows.map Device.accountId = [2] := by
  have hbob : ∀ s x, bobRegisters s = some x → (s.socket "c").connState = .authenticated 2 →
      s.db.isAdmin (some 2) = false → Isolated (some 2) none s.db x.2.db := by
    intro s x hrun hst hrole
    have hwho : Task.principal (.message "c" (.registerDevice "laptop")) ⟨none, none⟩ s
        = some 2 := congrArg ConnState.accountId hst
    have hruns : Prog.Runs Op.exec (fun _ _ _ => True)
        (server.body (.message "c" (.registerDevice "laptop"))) s x.1 x.2 :=
      Prog.run_runs (fun _ _ _ _ => trivial) hrun
    have hframe : Isolated (Task.principal (.message "c" (.registerDevice "laptop")) ⟨none, none⟩ s)
        none s.db x.2.db := (account_isolation hruns (hwho.symm ▸ hrole)).1
    rwa [hwho] at hframe
  have hbefore := (Bool.and_eq_true_iff.mp (get_of_any bobRegisters_shows openAndRegister_served)).1
  have hafter := get_of_any bobRegisters_any bobRegisters_isSome
  simp only [decide_eq_true_eq] at hbefore hafter
  obtain ⟨hst, hrole⟩ := hbefore
  exact ⟨hbob _ _ (Option.some_get bobRegisters_isSome).symm hst hrole, hafter⟩

end Schedule

end Visuara.Signaling
