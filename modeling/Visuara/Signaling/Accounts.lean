/-
  Visuara.Signaling.Accounts
  ──────────────────────────
  **WHERE ACCOUNTS AND ROLES COME FROM.**

  When requests are served one at a time, each makes one of seven moves on the
  accounts and the registration flag (`AccountMove`); `task_move` reads them
  off the handlers.  What holds of every run follows from the moves alone
  (`Governed`): who registered when, who made whom an admin, and that somebody
  always is one.
-/
import Visuara.Signaling.Alone

namespace Visuara.Signaling

open Interleave Relational

/-! ## §1. The moves. -/

/-- The value of `registration_enabled`, if it is set. -/
def registrationFlag (db : Db) : Option String :=
  (db.settings.lookup REGISTRATION_ENABLED).map Setting.value

/-- Whether the flag reads as enabled. -/
def registrationOpen (db : Db) : Bool := (registrationFlag db).elim true (· == "true")

/-- The part of the database that the rules about accounts and roles look at. -/
structure Registry where
  accounts : Table Account.id
  seq : Int
  flag : Option String

def Db.registry (db : Db) : Registry := ⟨db.accounts, db.accountSeq, registrationFlag db⟩

/-- The public ways to register. -/
def Task.registers : Task → Bool
  | .http (.register ..) | .message _ (.register ..) => true
  | _ => false

/-- One account was added, with the next id. -/
def Added (role : AccountRole) (db : Db) (new : Registry) : Prop :=
  ∃ email hash now, db.accounts.insert? ⟨db.accountSeq + 1, email, hash, now, role⟩
      = some new.accounts ∧ new.seq = db.accountSeq + 1

/-- What a task that finds `db` and answers `r` may leave as the registry. -/
inductive AccountMove (t : Task) (db : Db) (r : Option Response) (new : Registry) : Prop
  | keep (hsame : new = db.registry)
      (hput : ∀ headers enabled, t = .http (.setRegistration headers enabled) →
        r.any (·.status == 200) = false)
  | bootstrap (ht : t.registers = true) (hopen : registrationOpen db = true)
      (hempty : db.accounts.rows = []) (hnew : Added .admin db new) (hflag : new.flag = some "false")
  | signUp (ht : t.registers = true) (hopen : registrationOpen db = true)
      (hsome : db.accounts.rows ≠ []) (hnew : Added .user db new)
      (hflag : new.flag = registrationFlag db)
  | create {headers : HeaderMap} {email password : String} {role : Option AccountRole}
      (ht : t = .http (.createAccount headers email password role))
      (hadmin : AsksAsAdmin headers db) (hnew : Added (role.getD .user) db new)
      (hflag : new.flag = registrationFlag db)
  | setRole {headers : HeaderMap} {id : Int} {role : AccountRole}
      (ht : t = .http (.setAccountRole headers id role)) (hadmin : AsksAsAdmin headers db)
      (hguard : role ≠ .admin → guardPasses db id = true)
      (hnew : new = (db.setAccountRole id role).registry)
  | delete {headers : HeaderMap} {id : Int} (ht : t = .http (.deleteAccount headers id))
      (hadmin : AsksAsAdmin headers db) (hguard : guardPasses db id = true)
      (hnew : new = (db.deleteAccount id).registry)
  | setFlag {headers : HeaderMap} {enabled : Bool}
      (ht : t = .http (.setRegistration headers enabled)) (hadmin : AsksAsAdmin headers db)
      (hput : r.any (·.status == 200) = true)
      (hnew : new = { db.registry with flag := some (if enabled then "true" else "false") })

/-! ## §2. Operations that leave the registry alone. -/

/-- The operations that write the registry. -/
def Op.governs : Op → Bool
  | .db (.createAccount ..) | .db (.setAccountRole ..) | .db (.deleteAccount _) => true
  | .db (.setSetting key _) => key = REGISTRATION_ENABLED
  | _ => false

/-- The tasks that may write it. -/
def Task.governs : Task → Bool
  | .http (.createAccount ..) | .http (.deleteAccount ..) | .http (.setAccountRole ..)
  | .http (.setRegistration ..) => true
  | t => t.registers

theorem registrationFlag_upsert (settings : Table Setting.key) (key value : String) :
    ((settings.upsert ⟨key, value⟩).lookup REGISTRATION_ENABLED).map Setting.value
      = if key = REGISTRATION_ENABLED then some value
        else (settings.lookup REGISTRATION_ENABLED).map Setting.value := by
  rw [Table.lookup_upsert]
  split
  · rfl
  · rfl

theorem Query.registry_exec_of_writes {now : Int} {db : Db} {q : Query}
    (ha : q.writesAccounts = false) (hs : q.writesSettings = false) :
    (q.exec now db).2.registry = db.registry := by
  simp only [Db.registry, registrationFlag, Query.exec_accounts ha, Query.exec_settings hs]

theorem Query.registry_exec {now : Int} {db : Db} {q : Query}
    (hq : (Op.db q).governs = false) : (q.exec now db).2.registry = db.registry := by
  cases q with
  | createAccount | setAccountRole | deleteAccount => exact absurd hq (by simp [Op.governs])
  | setSetting key value =>
    have hkey : key ≠ REGISTRATION_ENABLED := by simpa [Op.governs] using hq
    show (⟨db.accounts, db.accountSeq, _⟩ : Registry) = ⟨db.accounts, db.accountSeq, _⟩
    congr 1
    exact (registrationFlag_upsert db.settings key value).trans (if_neg hkey)
  | _ => exact Query.registry_exec_of_writes rfl rfl

section

variable [Crates]

theorem registry_exec {o : Op} (ho : o.governs = false) (d : Draw) (s : Server) :
    (o.exec d s).2.db.registry = s.db.registry := by
  rw [Op.exec_db]
  cases o with
  | db q =>
    dsimp only
    split
    · rfl
    · exact Query.registry_exec ho
  | _ => rfl

/-- A program without such operations leaves the registry as it is. -/
theorem wp_registry {A : Server → Op → Draw → Prop} {α : Type} {p : Act α} {h : Calls}
    (hp : Only (fun o => !o.governs) p h) {s : Server} {Q : α → Server → Prop}
    (hQ : ∀ r s', s'.db.registry = s.db.registry → Q r s') : Prog.wp Op.exec A p Q s := by
  have hkeep : Prog.wp Op.exec A p (fun _ s' => s'.db.registry = s.db.registry) s :=
    Prog.wp_of_follows hp
      (fun s' o d ho _ hs => (registry_exec (by simpa using ho) d s').trans hs) rfl
  exact Prog.wp_mono hkeep hQ

omit [Crates] in
theorem governs_of_performs {t : Task} {o : Op} (ho : t.performs o = true)
    (hg : o.governs = true) : t.governs = true := by
  cases o with
  | db q =>
    cases q with
    | createAccount | setAccountRole | deleteAccount =>
      cases t with
      | message c m => cases m <;> first | rfl | exact absurd ho Bool.false_ne_true
      | http req => cases req <;> first | rfl | exact absurd ho Bool.false_ne_true
      | _ => exact absurd ho Bool.false_ne_true
    | setSetting key value =>
      obtain rfl : key = REGISTRATION_ENABLED := of_decide_eq_true hg
      have htame : (Op.db (.setSetting REGISTRATION_ENABLED value)).tame = false := by
        simp [Op.tame]
      cases t with
      | message c m => cases m <;> first | rfl | exact absurd ho Bool.false_ne_true
      | http req =>
        cases req with
        | saveSettings | fetchRelease => exact absurd (htame.symm.trans ho) Bool.false_ne_true
        | _ => first | rfl | exact absurd ho Bool.false_ne_true
      | _ => exact absurd ho Bool.false_ne_true
    | _ => exact absurd hg Bool.false_ne_true
  | _ => exact absurd hg Bool.false_ne_true

/-! ## §3. Every task makes a move. -/

section Serve

variable {s : Server}

/-- Draws without database failures. -/
abbrev Works : Server → Op → Draw → Prop := fun _ o d => dbWorks o d = true

/-- What the creation of a public account comes to. -/
inductive Bootstrapped (db : Db) (new : Registry) : Prop
  | failed (hsame : new = db.registry)
  | first (hempty : db.accounts.rows = []) (hnew : Added .admin db new)
      (hflag : new.flag = some "false")
  | further (hsome : db.accounts.rows ≠ []) (hnew : Added .user db new)
      (hflag : new.flag = registrationFlag db)

omit [Crates] in
theorem Bootstrapped.move {t : Task} {db : Db} {r : Option Response} {new : Registry}
    (h : Bootstrapped db new) (ht : t.registers = true) (hopen : registrationOpen db = true) :
    AccountMove t db r new := by
  cases h with
  | failed hsame => exact .keep hsame fun _ _ heq => by rw [heq] at ht; exact absurd ht Bool.false_ne_true
  | first hempty hnew hflag => exact .bootstrap ht hopen hempty hnew hflag
  | further hsome hnew hflag => exact .signUp ht hopen hsome hnew hflag

omit [Crates] in
/-- The registry after a successful `createAccount`. -/
theorem added_of_createAccount {db db' : Db} {email hash : String} {role : AccountRole}
    {now : Int} (h : db.createAccount email hash role now = .ok db') :
    Added role db db'.registry ∧ registrationFlag db' = registrationFlag db := by
  obtain ⟨hi, hseq, -, hset, -⟩ := Db.createAccount_ok h
  exact ⟨⟨email, hash, now, hi, hseq⟩, by simp only [registrationFlag, hset]⟩

theorem wp_bootstrap (email hash : String) :
    Prog.wp Op.exec Works (createAccountAndMaybeBootstrapAdmin email hash).run
      (fun _ s' => Bootstrapped s.db s'.db.registry) s := by
  rw [createAccountAndMaybeBootstrapAdmin_run]
  intro d hd
  rw [Op.exec_reading rfl, Op.exec_query (Option.isNone_iff_eq_none.mp hd)]
  intro d₂ hd₂
  rw [Op.exec_query (Option.isNone_iff_eq_none.mp hd₂)]
  simp only [Query.exec]
  cases hc : s.db.createAccount email hash
      (if ((s.db.accounts.rows.length : Int) == 0) = true then .admin else .user) d₂.clock with
  | error e => exact .failed rfl
  | ok db' =>
    obtain ⟨hnew, hflag⟩ := added_of_createAccount hc
    dsimp only
    split
    next hfirst =>
      intro d₃ hd₃
      rw [Op.exec_query (Option.isNone_iff_eq_none.mp hd₃)]
      rw [if_pos hfirst] at hnew
      refine .first ?_ hnew ((registrationFlag_upsert db'.settings _ _).trans (if_pos rfl))
      simpa using hfirst
    next hfirst =>
      rw [if_neg hfirst] at hnew
      refine .further ?_ hnew hflag
      simpa using hfirst

/-- What the public paths do once registration is open and the password hashed. -/
theorem wp_publicly {α : Type} {t : Task} (ht : t.registers = true)
    (hopen : registrationOpen s.db = true) (email hash : String) (r : α → Option Response)
    {f : Except String (Int × AccountRole) → Act α}
    (hf : ∀ x h, Only (fun o => !o.governs) (f x) h) :
    Prog.wp Op.exec Works ((createAccountAndMaybeBootstrapAdmin email hash).run >>= f)
      (fun a s' => AccountMove t s.db (r a) s'.db.registry) s := by
  rw [Prog.wp_bind]
  refine Prog.wp_mono (wp_bootstrap email hash) fun x s₁ hb => ?_
  have hrest : Only (fun o => !o.governs) (f x) ([] : Calls) := hf x []
  refine wp_registry hrest fun a s' hsame => ?_
  rw [hsame]
  exact hb.move ht hopen

theorem move_register (email password : String) :
    Prog.wp Op.exec Works (Api.register email password) (fun r s' =>
      AccountMove (.http (.register email password)) s.db (some r) s'.db.registry) s := by
  have hkeep : ∀ r : Response,
      AccountMove (.http (.register email password)) s.db (some r) s.db.registry :=
    fun r => .keep rfl fun _ _ heq => by injection heq with heq; exact absurd heq (by simp)
  simp only [Api.register]
  split
  · exact hkeep _
  · rw [registrationEnabled_bind]
    intro d hd
    rw [Op.exec_reading rfl, Op.exec_query (Option.isNone_iff_eq_none.mp hd)]
    have hflag : (Query.exec d.clock s.db (.getSetting REGISTRATION_ENABLED)).1.map
        (fun v => v.elim true (· == "true")) = .ok (registrationOpen s.db) := rfl
    dsimp only
    rw [hflag]
    cases hopen : registrationOpen s.db with
    | false => exact hkeep _
    | true =>
      intro d₂ _
      show Prog.wp _ _ _ _ s
      rcases ((Op.hashPassword password).exec d₂ s).1 with e | hash
      · exact hkeep _
      · refine wp_publicly rfl hopen _ hash some fun x h => ?_
        rcases x with e | ⟨id, role⟩
        · dsimp only
          split <;> trivial
        · exact only_startSession id _ role rfl fun _ => rfl

theorem move_wsRegister (c : ConnectionId) (email password : String) :
    Prog.wp Op.exec Works (onMessage c (.register email password)) (fun _ s' =>
      AccountMove (.message c (.register email password)) s.db none s'.db.registry) s := by
  have hkeep : AccountMove (.message c (.register email password)) s.db none s.db.registry :=
    .keep rfl fun _ _ heq => by injection heq
  have hreport : ∀ r (h : Calls), Only (fun o => !o.governs) (report c r) h :=
    fun r _ => only_report r fun _ => rfl
  simp only [onMessage_eq, handleMessage, Handler.lift_bind, registrationEnabled_bind,
    Prog.call_bind, Prog.wp_call]
  intro d hd
  rw [Op.exec_reading rfl, Op.exec_query (Option.isNone_iff_eq_none.mp hd)]
  show Prog.wp _ _ (ExceptT.run (ite ((!registrationOpen s.db) = true) _ _) >>= report c) _ _
  cases hopen : registrationOpen s.db with
  | false =>
    have hrefuse : Only (fun o => !o.governs) ((Handler.send c
        (.authError "registration is currently disabled")).run >>= report c) ([] : Calls) :=
      Only.bind ⟨rfl, fun _ => trivial⟩ fun r h => hreport r h
    exact wp_registry hrefuse fun _ s' hsame => hsame ▸ hkeep
  | true =>
    simp only [Bool.not_true, Bool.false_eq_true, if_false, Handler.mk_bind, perform,
      Prog.perform_bind, Prog.call_bind, Prog.wp_call]
    intro d₂ _
    show Prog.wp _ _ _ _ s
    rcases ((Op.hashPassword password).exec d₂ s).1 with e | hash
    · exact wp_registry (hreport (.error e) ([] : Calls)) fun _ s' hsame => hsame ▸ hkeep
    · simp only [Handler.lift_bind, bind_assoc]
      refine wp_publicly rfl hopen email hash (fun _ => none) fun x h => ?_
      refine Only.bind ?_ fun r h => hreport r h
      rcases x with e | ⟨id, role⟩
      · exact ⟨rfl, fun _ => trivial⟩
      · exact ⟨rfl, fun _ => ⟨rfl, fun _ => ⟨rfl, fun _ => trivial⟩⟩⟩

theorem move_createAccount (headers : HeaderMap) (email password : String)
    (role : Option AccountRole) :
    Prog.wp Op.exec Works (Api.createAccount headers email password role) (fun r s' =>
      AccountMove (.http (.createAccount headers email password role)) s.db (some r)
        s'.db.registry) s := by
  have hkeep : ∀ r : Response, AccountMove (.http (.createAccount headers email password role))
      s.db (some r) s.db.registry :=
    fun r => .keep rfl fun _ _ heq => by injection heq with heq; exact absurd heq (by simp)
  refine wp_withAdmin (fun status _ => hkeep _) fun hadmin => ?_
  dsimp only
  split
  · exact hkeep _
  · intro d _
    show Prog.wp _ _ _ _ s
    rcases ((Op.hashPassword password).exec d s).1 with e | hash
    · exact hkeep _
    · intro d₂ hd₂
      rw [Op.exec_query (Option.isNone_iff_eq_none.mp hd₂)]
      simp only [Query.exec]
      cases hc : s.db.createAccount (Text.trimString email) hash (role.getD .user) d₂.clock with
      | error e =>
        show Prog.wp _ _ (ite _ _ _) _ _
        split
        · exact hkeep _
        · exact hkeep _
      | ok db' =>
        obtain ⟨hnew, hflag⟩ := added_of_createAccount hc
        exact .create rfl hadmin hnew hflag

theorem move_setAccountRole (headers : HeaderMap) (id : Int) (role : AccountRole) :
    Prog.wp Op.exec Works (Api.setAccountRole headers id role) (fun r s' =>
      AccountMove (.http (.setAccountRole headers id role)) s.db (some r) s'.db.registry) s := by
  have hkeep : ∀ r : Response, AccountMove (.http (.setAccountRole headers id role)) s.db (some r)
      s.db.registry :=
    fun r => .keep rfl fun _ _ heq => by injection heq with heq; exact absurd heq (by simp)
  refine wp_withAdmin (fun status _ => hkeep _) fun hadmin => ?_
  split
  · refine wp_guardLastAdmin (fun hguard => ?_) fun _ => hkeep _
    intro d hd
    rw [Op.exec_query (Option.isNone_iff_eq_none.mp hd)]
    exact .setRole rfl hadmin (fun _ => guardPasses_of_mayPass hguard) rfl
  next hrole =>
    intro d hd
    rw [Op.exec_query (Option.isNone_iff_eq_none.mp hd)]
    exact .setRole rfl hadmin (fun hne => absurd hne hrole) rfl

theorem move_deleteAccount (headers : HeaderMap) (id : Int) :
    Prog.wp Op.exec Works (Api.deleteAccount headers id) (fun r s' =>
      AccountMove (.http (.deleteAccount headers id)) s.db (some r) s'.db.registry) s := by
  have hkeep : ∀ r : Response, AccountMove (.http (.deleteAccount headers id)) s.db (some r)
      s.db.registry :=
    fun r => .keep rfl fun _ _ heq => by injection heq with heq; exact absurd heq (by simp)
  refine wp_withAdmin (fun status _ => hkeep _) fun hadmin => ?_
  refine wp_guardLastAdmin (fun hguard => ?_) fun _ => hkeep _
  intro d hd
  rw [Op.exec_query (Option.isNone_iff_eq_none.mp hd)]
  exact .delete rfl hadmin (guardPasses_of_mayPass hguard) rfl

theorem move_setRegistration (headers : HeaderMap) (enabled : Bool) :
    Prog.wp Op.exec Works (Api.setRegistration headers enabled) (fun r s' =>
      AccountMove (.http (.setRegistration headers enabled)) s.db (some r) s'.db.registry) s := by
  refine wp_withAdmin (fun status hstatus => .keep rfl fun _ _ _ => ?_) fun hadmin => ?_
  · rcases hstatus with rfl | rfl <;> rfl
  · intro d hd
    rw [Op.exec_query (Option.isNone_iff_eq_none.mp hd)]
    refine .setFlag rfl hadmin rfl ?_
    show Db.registry { s.db with settings := _ } = _
    simp only [Db.registry, registrationFlag, registrationFlag_upsert, if_true]

/-- **Every task makes one of the moves.** -/
theorem task_move (t : Task) (s : Server) : Prog.wp Op.exec Works (server.body t)
    (fun r s' => AccountMove t s.db r s'.db.registry) (server.begins t s) := by
  cases hg : t.governs with
  | false =>
    have hsame : (server.begins t s).db = s.db := by cases t <;> rfl
    have honly : Only (fun o => !o.governs) (server.body t) ([] : Calls) := by
      refine t.only.mono (fun _ o ho => ?_) fun _ _ h => h
      cases ho' : o.governs with
      | false => simp [ho']
      | true => exact absurd (hg.symm.trans (governs_of_performs ho ho')) Bool.false_ne_true
    refine wp_registry honly fun r s' hr => ?_
    rw [hr, hsame]
    exact .keep rfl fun headers enabled heq => by rw [heq] at hg; exact absurd hg.symm Bool.false_ne_true
  | true =>
    cases t with
    | http req =>
      refine wp_http ?_
      cases req with
      | register email password => exact move_register email password
      | createAccount headers email password role =>
        exact move_createAccount headers email password role
      | deleteAccount headers id => exact move_deleteAccount headers id
      | setAccountRole headers id role => exact move_setAccountRole headers id role
      | setRegistration headers enabled => exact move_setRegistration headers enabled
      | _ => exact absurd hg Bool.false_ne_true
    | message c m =>
      refine wp_message ?_
      cases m with
      | register email password => exact move_wsRegister c email password
      | _ => exact absurd hg Bool.false_ne_true
    | _ => exact absurd hg Bool.false_ne_true

end Serve

end

/-! ## §4. What the turns of a run have done. -/

/-- The turn created the account `id`. -/
def CreatedAccount (turn : ServerTurn) (id : Int) : Prop :=
  (∃ a ∈ turn.after.db.accounts, a.id = id) ∧ ∀ b ∈ turn.before.db.accounts, b.id ≠ id

/-- The turn created an account. -/
def CreatesAccount (turn : ServerTurn) : Prop := ∃ id, CreatedAccount turn id

/-- What the latest successful `PUT /admin/registration` stored. -/
def latestRegistration : List ServerTurn → Option Bool
  | [] => none
  | turn :: l =>
    match turn.task with
    | .http (.setRegistration _ enabled) =>
      if turn.result.any (·.status == 200) then some enabled else latestRegistration l
    | _ => latestRegistration l

/-- The account `id` was created before any other. -/
def FirstAccount (l : List ServerTurn) (id : Int) : Prop :=
  ∃ l₁ turn l₂, l = l₁ ++ turn :: l₂ ∧ CreatedAccount turn id ∧ ∀ u ∈ l₂, ¬ CreatesAccount u

/-- The turn made the account `id` an admin, for someone who was one. -/
def GrantsAdmin (turn : ServerTurn) (id : Int) : Prop :=
  (∃ a ∈ turn.after.db.accounts, a.id = id ∧ a.role = .admin)
    ∧ ∃ headers, AsksAsAdmin headers turn.before.db
      ∧ ((∃ email password, turn.task
            = .http (.createAccount headers email password (some .admin)) ∧ CreatedAccount turn id)
        ∨ turn.task = .http (.setAccountRole headers id .admin))

theorem FirstAccount.cons {l : List ServerTurn} {id : Int} (h : FirstAccount l id)
    (turn : ServerTurn) : FirstAccount (turn :: l) id := by
  obtain ⟨l₁, u, l₂, rfl, hu, hno⟩ := h
  exact ⟨turn :: l₁, u, l₂, rfl, hu, hno⟩

/-- A turn that brings no new id creates nothing. -/
theorem not_createsAccount {turn : ServerTurn} (h : ∀ a ∈ turn.after.db.accounts,
    ∃ b ∈ turn.before.db.accounts, b.id = a.id) : ¬ CreatesAccount turn := by
  rintro ⟨id, ⟨a, ha, rfl⟩, hno⟩
  obtain ⟨b, hb, hid⟩ := h a ha
  exact hno b hb hid

theorem latestRegistration_cons {turn : ServerTurn} {l : List ServerTurn}
    (h : ∀ headers enabled, turn.task = .http (.setRegistration headers enabled) →
      turn.result.any (·.status == 200) = false) :
    latestRegistration (turn :: l) = latestRegistration l := by
  simp only [latestRegistration]
  split
  next headers enabled ht => rw [if_neg (by rw [h headers enabled ht]; exact Bool.false_ne_true)]
  next => rfl

theorem Db.admins_congr {db db' : Db} (h : db'.accounts = db.accounts) : db'.admins = db.admins := by
  simp only [Db.admins, h]

/-! ## §5. The rules about accounts. -/

/-- The rules, for a run with the turns `l` that has reached `db`. -/
structure Governed (l : List ServerTurn) (db : Db) : Prop where
  nonneg : 0 ≤ db.accountSeq
  absent : registrationFlag db = none ↔ db.accountSeq = 0
  fresh : db.accountSeq = 0 ↔ ∀ turn ∈ l, ¬ CreatesAccount turn
  empty : db.accountSeq = 0 → db.accounts.rows = []
  admin : db.accountSeq ≠ 0 → 0 < db.admins
  opened : registrationFlag db = some "true" → latestRegistration l = some true
  publicly : ∀ l₁ turn l₂, l = l₁ ++ turn :: l₂ → turn.task.registers = true → CreatesAccount turn →
    (∀ u ∈ l₂, ¬ CreatesAccount u)
      ∨ (latestRegistration l₂ = some true
        ∧ ∀ a ∈ turn.after.db.accounts, CreatedAccount turn a.id → a.role = .user)
  admins : ∀ a ∈ db.accounts, a.role = .admin →
    FirstAccount l a.id ∨ ∃ turn ∈ l, GrantsAdmin turn a.id

/-- Where there is an account, one has been created. -/
theorem Governed.seq_ne {l : List ServerTurn} {db : Db} (h : Governed l db) {a : Account}
    (ha : a ∈ db.accounts) : db.accountSeq ≠ 0 := by
  intro h0
  have hm : a ∈ db.accounts.rows := ha
  rw [h.empty h0] at hm
  exact List.not_mem_nil hm

theorem AsksAsAdmin.exists_account {headers : HeaderMap} {db : Db} (h : AsksAsAdmin headers db) :
    ∃ a, a ∈ db.accounts := by
  obtain ⟨token, account, -, hr, -⟩ := h
  exact ⟨account, (Table.lookup_eq_some_iff.mp (Db.lookup_of_resolve hr)).1⟩

/-- **A turn that creates nothing keeps the rules**, if it leaves an admin, a
flag that has been stored, and admins that can be accounted for. -/
theorem Governed.uncreative {l : List ServerTurn} {turn : ServerTurn}
    (h : Governed l turn.before.db)
    (hids : ∀ a ∈ turn.after.db.accounts, ∃ b ∈ turn.before.db.accounts, b.id = a.id)
    (hseq : turn.after.db.accountSeq = turn.before.db.accountSeq)
    (habsent : registrationFlag turn.after.db = none ↔ registrationFlag turn.before.db = none)
    (hopened : registrationFlag turn.after.db = some "true" →
      latestRegistration (turn :: l) = some true)
    (hadmin : 0 < turn.before.db.admins → 0 < turn.after.db.admins)
    (hroles : ∀ a ∈ turn.after.db.accounts, a.role = .admin →
      (∃ b ∈ turn.before.db.accounts, b.id = a.id ∧ b.role = .admin) ∨ GrantsAdmin turn a.id) :
    Governed (turn :: l) turn.after.db := by
  have hno : ¬ CreatesAccount turn := not_createsAccount hids
  refine ⟨hseq ▸ h.nonneg, habsent.trans (hseq ▸ h.absent), ?_, fun h0 => ?_, fun hne => ?_, hopened,
    ?_, fun a ha hrole => ?_⟩
  · rw [hseq, h.fresh]
    simp [hno]
  · refine List.eq_nil_iff_forall_not_mem.mpr fun a ha => ?_
    obtain ⟨b, hb, -⟩ := hids a ha
    exact h.seq_ne hb (hseq ▸ h0)
  · exact hadmin (h.admin (hseq ▸ hne))
  · intro l₁ u l₂ heq hu hc
    cases l₁ with
    | nil =>
      obtain ⟨rfl, rfl⟩ := List.cons.inj heq
      exact absurd hc hno
    | cons v l₁ =>
      obtain ⟨-, rfl⟩ := List.cons.inj heq
      exact h.publicly l₁ u l₂ rfl hu hc
  · rcases hroles a ha hrole with ⟨b, hb, hid, hbrole⟩ | hg
    · rcases h.admins b hb hbrole with hf | ⟨u, hu, hg⟩
      · exact .inl (hid ▸ hf.cons turn)
      · exact .inr ⟨u, List.mem_cons_of_mem _ hu, hid ▸ hg⟩
    · exact .inr ⟨turn, List.mem_cons_self, hg⟩

/-- **A turn that adds an account keeps the rules**, if it had the right to. -/
theorem Governed.added {l : List ServerTurn} {turn : ServerTurn} {role : AccountRole}
    (h : Governed l turn.before.db) (hnew : Added role turn.before.db turn.after.db.registry)
    (hsome : registrationFlag turn.after.db ≠ none)
    (hopened : registrationFlag turn.after.db = some "true" →
      latestRegistration (turn :: l) = some true)
    (hadmin : role = .user → turn.before.db.accountSeq ≠ 0)
    (hpublic : turn.task.registers = true → turn.before.db.accountSeq = 0
      ∨ (latestRegistration l = some true ∧ role = .user))
    (hrole : role = .admin → turn.before.db.accountSeq = 0
      ∨ ∃ headers email password, AsksAsAdmin headers turn.before.db
        ∧ turn.task = .http (.createAccount headers email password (some .admin))) :
    Governed (turn :: l) turn.after.db := by
  obtain ⟨email, hash, now, hi, hseq⟩ := hnew
  have hmem := Table.mem_insert? hi
  have hfresh := Table.insert?_fresh hi
  replace hseq : turn.after.db.accountSeq = turn.before.db.accountSeq + 1 := hseq
  have hcreated : CreatedAccount turn (turn.before.db.accountSeq + 1) :=
    ⟨⟨_, (hmem _).mpr (.inr rfl), rfl⟩, hfresh⟩
  have hnonneg := h.nonneg
  refine ⟨by omega, iff_of_false hsome (by omega), iff_of_false (by omega) fun hall =>
      hall turn List.mem_cons_self ⟨_, hcreated⟩, by omega, fun _ => ?_, hopened, ?_,
    fun a ha harole => ?_⟩
  · rw [Db.admins_pos]
    cases role with
    | admin => exact ⟨_, (hmem _).mpr (.inr rfl), rfl⟩
    | user =>
      obtain ⟨b, hb, hbrole⟩ := Db.admins_pos.mp (h.admin (hadmin rfl))
      exact ⟨b, (hmem b).mpr (.inl hb), hbrole⟩
  · intro l₁ u l₂ heq hu hc
    cases l₁ with
    | nil =>
      obtain ⟨rfl, rfl⟩ := List.cons.inj heq
      rcases hpublic hu with h0 | ⟨hlatest, rfl⟩
      · exact .inl (h.fresh.mp h0)
      · refine .inr ⟨hlatest, fun a ha hca => ?_⟩
        rcases (hmem a).mp ha with ha | rfl
        · exact absurd rfl (hca.2 a ha)
        · rfl
    | cons v l₁ =>
      obtain ⟨-, rfl⟩ := List.cons.inj heq
      exact h.publicly l₁ u l₂ rfl hu hc
  · rcases (hmem a).mp ha with ha' | rfl
    · rcases h.admins a ha' harole with hf | ⟨u, hu, hg⟩
      · exact .inl (hf.cons turn)
      · exact .inr ⟨u, List.mem_cons_of_mem _ hu, hg⟩
    · obtain rfl : role = .admin := harole
      rcases hrole rfl with h0 | ⟨headers, email', password, hadmin, htask⟩
      · exact .inl ⟨[], turn, l, rfl, hcreated, h.fresh.mp h0⟩
      · exact .inr ⟨turn, List.mem_cons_self, ⟨_, ha, rfl, rfl⟩, headers, hadmin,
          .inl ⟨email', password, htask, hcreated⟩⟩

/-- **Every move keeps the rules.** -/
theorem Governed.move {l : List ServerTurn} {turn : ServerTurn} (h : Governed l turn.before.db)
    (hmove : AccountMove turn.task turn.before.db turn.result turn.after.db.registry) :
    Governed (turn :: l) turn.after.db := by
  have hseq_ne : (∃ a, a ∈ turn.before.db.accounts) → turn.before.db.accountSeq ≠ 0 := by
    rintro ⟨a, ha⟩
    exact h.seq_ne ha
  cases hmove with
  | keep hsame hput =>
    have haccounts : turn.after.db.accounts = turn.before.db.accounts :=
      congrArg Registry.accounts hsame
    have hflag : registrationFlag turn.after.db = registrationFlag turn.before.db :=
      congrArg Registry.flag hsame
    refine h.uncreative (fun a ha => ⟨a, haccounts ▸ ha, rfl⟩) (congrArg Registry.seq hsame)
      (by rw [hflag]) (fun ho => ?_) (fun hpos => by rwa [Db.admins_congr haccounts])
      fun a ha hrole => .inl ⟨a, haccounts ▸ ha, rfl, hrole⟩
    rw [latestRegistration_cons hput]
    exact h.opened (hflag ▸ ho)
  | bootstrap ht hopen hempty hnew hflag =>
    replace hflag : registrationFlag turn.after.db = some "false" := hflag
    have h0 : turn.before.db.accountSeq = 0 := by
      by_contra hne
      obtain ⟨a, ha, -⟩ := Db.admins_pos.mp (h.admin hne)
      have hm : a ∈ turn.before.db.accounts.rows := ha
      rw [hempty] at hm
      exact List.not_mem_nil hm
    refine h.added hnew (by simp [hflag]) (fun ho => ?_) (fun hr => absurd hr (by simp))
      (fun _ => .inl h0) fun _ => .inl h0
    exact absurd (hflag.symm.trans ho) (by simp)
  | signUp ht hopen hsome hnew hflag =>
    replace hflag : registrationFlag turn.after.db = registrationFlag turn.before.db := hflag
    have hne : turn.before.db.accountSeq ≠ 0 := fun h0 => hsome (h.empty h0)
    have hstored : registrationFlag turn.before.db ≠ none := fun hn => hne (h.absent.mp hn)
    have htrue : registrationFlag turn.before.db = some "true" := by
      obtain ⟨v, hv⟩ := Option.ne_none_iff_exists'.mp hstored
      simp only [registrationOpen, hv, Option.elim_some, beq_iff_eq] at hopen
      rw [hv, hopen]
    have hput : latestRegistration (turn :: l) = latestRegistration l :=
      latestRegistration_cons fun headers enabled heq => by
        rw [heq] at ht
        exact absurd ht Bool.false_ne_true
    exact h.added hnew (hflag ▸ hstored) (fun _ => hput.trans (h.opened htrue)) (fun _ => hne)
      (fun _ => .inr ⟨h.opened htrue, rfl⟩) fun hr => absurd hr (by simp)
  | @create headers email password role ht hadmin hnew hflag =>
    replace hflag : registrationFlag turn.after.db = registrationFlag turn.before.db := hflag
    have hne := hseq_ne hadmin.exists_account
    have hput : latestRegistration (turn :: l) = latestRegistration l :=
      latestRegistration_cons fun headers enabled heq => by
        injection ht.symm.trans heq with heq
        exact absurd heq (by simp)
    refine h.added hnew (hflag ▸ fun hn => hne (h.absent.mp hn))
      (fun ho => hput.trans (h.opened (hflag ▸ ho))) (fun _ => hne) (fun hpub => ?_) fun hr => ?_
    · rw [ht] at hpub
      exact absurd hpub Bool.false_ne_true
    · refine .inr ⟨headers, email, password, hadmin, ?_⟩
      cases role with
      | none => exact absurd hr (by simp)
      | some role =>
        obtain rfl : role = .admin := hr
        exact ht
  | @setRole headers id role ht hadmin hguard hnew =>
    have haccounts : turn.after.db.accounts = (turn.before.db.setAccountRole id role).accounts :=
      congrArg Registry.accounts hnew
    have hflag : registrationFlag turn.after.db = registrationFlag turn.before.db :=
      congrArg Registry.flag hnew
    have hmem : ∀ a ∈ turn.after.db.accounts, (a ∈ turn.before.db.accounts ∧ a.id ≠ id)
        ∨ ∃ b ∈ turn.before.db.accounts, b.id = id ∧ a = { b with role := role } := fun a ha =>
      Db.mem_setAccountRole.mp (haccounts ▸ ha)
    refine h.uncreative (fun a ha => ?_) (congrArg Registry.seq hnew) (by rw [hflag]) (fun ho => ?_)
      (fun hpos => ?_) fun a ha hrole => ?_
    · rcases hmem a ha with ⟨hm, -⟩ | ⟨b, hb, -, rfl⟩
      · exact ⟨a, hm, rfl⟩
      · exact ⟨b, hb, rfl⟩
    · rw [latestRegistration_cons fun headers enabled heq => by
        injection ht.symm.trans heq with heq
        exact absurd heq (by simp)]
      exact h.opened (hflag ▸ ho)
    · rw [Db.admins_congr haccounts]
      show 0 < ((Query.setAccountRole id role).exec 0 turn.before.db).2.admins
      cases role with
      | admin => exact Query.admins_exec_pos rfl hpos
      | user => exact (Query.admins_exec_pos_iff rfl hpos).mpr (hguard (by simp))
    · rcases hmem a ha with ⟨hm, -⟩ | ⟨b, hb, hid, rfl⟩
      · exact .inl ⟨a, hm, rfl, hrole⟩
      · obtain rfl : role = .admin := hrole
        refine .inr ⟨⟨_, ha, rfl, rfl⟩, headers, hadmin, .inr ?_⟩
        rw [ht, ← hid]
  | @delete headers id ht hadmin hguard hnew =>
    have haccounts : turn.after.db.accounts = (turn.before.db.deleteAccount id).accounts :=
      congrArg Registry.accounts hnew
    have hflag : registrationFlag turn.after.db = registrationFlag turn.before.db :=
      congrArg Registry.flag hnew
    have hold : ∀ a ∈ turn.after.db.accounts, a ∈ turn.before.db.accounts := fun a ha =>
      (Db.mem_deleteAccount.mp (haccounts ▸ ha)).1
    refine h.uncreative (fun a ha => ⟨a, hold a ha, rfl⟩) (congrArg Registry.seq hnew)
      (by rw [hflag]) (fun ho => ?_) (fun hpos => ?_)
      fun a ha hrole => .inl ⟨a, hold a ha, rfl, hrole⟩
    · rw [latestRegistration_cons fun headers enabled heq => by
        injection ht.symm.trans heq with heq
        exact absurd heq (by simp)]
      exact h.opened (hflag ▸ ho)
    · rw [Db.admins_congr haccounts]
      show 0 < ((Query.deleteAccount id).exec 0 turn.before.db).2.admins
      exact (Query.admins_exec_pos_iff rfl hpos).mpr hguard
  | @setFlag headers enabled ht hadmin hput hnew =>
    have haccounts : turn.after.db.accounts = turn.before.db.accounts :=
      congrArg Registry.accounts hnew
    have hflag : registrationFlag turn.after.db = some (if enabled then "true" else "false") :=
      congrArg Registry.flag hnew
    have hne := hseq_ne hadmin.exists_account
    refine h.uncreative (fun a ha => ⟨a, haccounts ▸ ha, rfl⟩) (congrArg Registry.seq hnew)
      (iff_of_false (by simp [hflag]) fun hn => hne (h.absent.mp hn)) (fun ho => ?_)
      (fun hpos => by rwa [Db.admins_congr haccounts])
      fun a ha hrole => .inl ⟨a, haccounts ▸ ha, rfl, hrole⟩
    have henabled : enabled = true := by
      cases enabled with
      | true => rfl
      | false => exact absurd (hflag.symm.trans ho) (by decide)
    simp [latestRegistration, ht, hput, henabled]

section

variable [Crates]

/-- The rules hold in every state of every serial run from an empty database. -/
theorem governed {foreignKeys : Bool} {config : Config} {files : Files} {l : List ServerTurn}
    {s : Server} (h : server.Serial dbWorks (Server.start (Db.fresh foreignKeys) config files) l s) :
    Governed l s.db := by
  induction h with
  | start =>
    refine ⟨Int.le_refl 0, iff_of_true rfl rfl, by simp [Server.start, Db.fresh], fun _ => rfl,
      fun hne => absurd rfl hne, fun ho => absurd ho.symm (Option.some_ne_none _), ?_, ?_⟩
    · intro l₁ turn l₂ heq
      exact absurd heq (by simp)
    · exact fun a ha => absurd ha (Table.not_mem_empty a)
  | turn _ t _ hrun ih =>
    have hmove := Prog.wp_sound hrun (task_move t _)
    exact Governed.move ih hmove
  | env _ e ih => cases e <;> exact ih

/-- **Bootstrap, registration gate and role provenance**, in every serial run
from an empty database without database failures.  (a) The flag is absent
exactly as long as no account has been created, and from then on there is
always an account.  (b) A public registration after the first account meets a
latest `PUT /admin/registration` that stored `true`, and makes no admin.
(c) Every admin is the first account, or was made one by a request of someone
who was an admin.  (d) Where there is an account, there is an admin. -/
theorem registration_and_roles {foreignKeys : Bool} {config : Config} {files : Files}
    {l : List ServerTurn} {s : Server}
    (h : server.Serial dbWorks (Server.start (Db.fresh foreignKeys) config files) l s) :
    ((registrationFlag s.db = none ↔ ∀ turn ∈ l, ¬ CreatesAccount turn)
      ∧ ((∃ turn ∈ l, CreatesAccount turn) → s.db.accounts.rows ≠ []))
    ∧ (∀ l₁ turn l₂, l = l₁ ++ turn :: l₂ → turn.task.registers = true → CreatesAccount turn →
      (∀ u ∈ l₂, ¬ CreatesAccount u)
        ∨ (latestRegistration l₂ = some true
          ∧ ∀ a ∈ turn.after.db.accounts, CreatedAccount turn a.id → a.role = .user))
    ∧ (∀ a ∈ s.db.accounts, a.role = .admin →
      FirstAccount l a.id ∨ ∃ turn ∈ l, GrantsAdmin turn a.id)
    ∧ (s.db.accounts.rows ≠ [] → ∃ a ∈ s.db.accounts, a.role = .admin) := by
  have hg := governed h
  refine ⟨⟨hg.absent.trans hg.fresh, ?_⟩, hg.publicly, hg.admins, fun hne => ?_⟩
  · rintro ⟨turn, ht, hc⟩ hempty
    obtain ⟨a, ha, -⟩ := Db.admins_pos.mp (hg.admin fun h0 => hg.fresh.mp h0 turn ht hc)
    have hm : a ∈ s.db.accounts.rows := ha
    rw [hempty] at hm
    exact List.not_mem_nil hm
  · exact Db.admins_pos.mp (hg.admin fun h0 => hne (hg.empty h0))

end

section Schedule

open scoped Transparent

/-- The first account opens registration, and someone else registers. -/
def openAndRegister : List (Task × List Draw) :=
  [(.http (.register "ann@example.com" "pw"), List.replicate 7 (Draw.from 0)),
   (.http (.setRegistration
      ⟨some ("visuara_session=" ++ generateSessionToken (Draw.from 0).rng), none⟩ true),
    List.replicate 2 (Draw.from 1)),
   (.connect "c", [Draw.from 2]),
   (.message "c" (.register "bob@example.com" "pw"), List.replicate 9 (Draw.from 3))]

theorem openAndRegister_shows : (server.serveAll openAndRegister ([], Server.blank true)).any
    (fun r => decide (r.2.db.accounts.rows.length = 2)) = true := by
  decide +kernel

theorem openAndRegister_served :
    (server.serveAll openAndRegister ([], Server.blank true)).isSome = true :=
  Option.isSome_of_any openAndRegister_shows

theorem registration_and_roles_open :
    (∃ a ∈ (Option.get _ openAndRegister_served).2.db.accounts, a.role = .admin)
      ∧ ∀ a ∈ (Option.get _ openAndRegister_served).2.db.accounts, a.role = .admin →
        FirstAccount (Option.get _ openAndRegister_served).1 a.id
          ∨ ∃ turn ∈ (Option.get _ openAndRegister_served).1, GrantsAdmin turn a.id := by
  have h : server.Serial dbWorks (Server.blank true) (Option.get _ openAndRegister_served).1
      (Option.get _ openAndRegister_served).2 :=
    served_serial (by decide +kernel) openAndRegister_served
  obtain ⟨-, -, hroles, hadmin⟩ := registration_and_roles h
  have htwo := get_of_any openAndRegister_shows openAndRegister_served
  simp only [decide_eq_true_eq] at htwo
  exact ⟨hadmin (List.ne_nil_of_length_pos (by omega)), hroles⟩

end Schedule

end Visuara.Signaling
