/-
  Visuara.Signaling.Refusal
  ─────────────────────────
  **WHAT A REFUSED MESSAGE CHANGES.**

  A message that is refused by one of its checks changes nothing.  But four
  kinds of messages write first and send afterwards, and a `send` fails when
  the receiving half is gone:

    • `RefusalKeeps`      — no refusal of the message leaves a trace;
    • `Writes`            — the message passes its checks and writes something;
    • `receivers`         — the channels on which it sends after that;
    • `refusal_keeps_iff` — no trace is left exactly if the message writes
      nothing, or all these channels are open.
-/
import Visuara.Signaling.Accounts
import Visuara.Signaling.Otp

namespace Visuara.Signaling

open Interleave Relational

/-! ## §1. Refusals. -/

/-- `handle_message` has returned an error, or has replied with one. -/
def Declined (c : ConnectionId) (s : Server) (r : Except String Unit) (s' : Server) : Prop :=
  (∃ e, r = .error e) ∨ ∃ sent, (s'.channel c).queue = (s.channel c).queue ++ sent
    ∧ ∃ msg ∈ sent, msg.isRefusal = true

/-- Nothing but the own channel of `c` and the local variables differ. -/
structure Untouched (c : ConnectionId) (s s' : Server) : Prop where
  db : s'.db = s.db
  deviceOnline : s'.deviceOnline = s.deviceOnline
  otp : s'.otp = s.otp
  sessions : s'.sessions = s.sessions
  others : ∀ x, x ≠ c → (s'.channel x).queue = (s.channel x).queue

section

variable [Crates]

/-- However the message is refused, that changes nothing. -/
def RefusalKeeps (c : ConnectionId) (m : ClientMessage) (s : Server) : Prop :=
  ∀ r s', Prog.Runs Op.exec Works (handleMessage c m).run s r s' → Declined c s r s' →
    Untouched c s s'

/-! ## §2. Writing first. -/

/-- The host's channel, if the device is online and its connection listed. -/
def hostTx (s : Server) (d : DeviceId) : Option Sender := (s.deviceOnline d).bind s.connections

/-- The credential opens the device. -/
def Admits (s : Server) (device : Device) (targetDeviceId : DeviceId) : ConnectCredential → Bool
  | .oneTimePassword otp => (s.otp targetDeviceId).elim false (· == otp)
  | .unattendedPassword pw => device.unattendedPasswordHash.elim false (verifyPassword pw)

/-- The message passes its checks, and something is written. -/
def Writes (s : Server) (c : ConnectionId) : ClientMessage → Prop
  | .register email password => registrationOpen s.db = true
      ∧ (∃ salt hash, hashPassword password (randomAlnum 22 salt) = .ok hash)
      ∧ s.db.accountSeq < maxRowid ∧ email ∉ s.db.accounts.rows.map Account.email
  | .registerDevice _ => ∃ account, (s.socket c).connState = .authenticated account
      ∧ ((s.socket c).myDeviceId.isSome = true
        ∨ (∃ rng, s.db.devices.lookup (generateDeviceId rng) = none)
          ∧ (s.db.foreignKeys = true → s.db.hasAccount account = true))
  | .requestConnection d credential => (s.socket c).connState ≠ .unauthenticated
      ∧ ∃ device host, s.db.devices.lookup d = some device ∧ Admits s device d credential = true
        ∧ s.deviceOnline d = some host
        -- the session is new, or the host is told
        ∧ ((∃ rng, s.sessions (newV4 rng) ≠ some ⟨c, host⟩)
          ∨ ∃ tx, s.connections host = some tx ∧ (s.channel tx).alive = true)
  | .setUnattendedPassword d password => ∃ device, s.db.devices.lookup d = some device
      ∧ (s.socket c).connState = .authenticated device.accountId
      ∧ ∃ salt hash, hashPassword password (randomAlnum 22 salt) = .ok hash
        ∧ device.unattendedPasswordHash ≠ some hash
  | _ => False

/-- Where it sends after that. -/
def receivers (s : Server) (c : ConnectionId) : ClientMessage → List Sender
  | .register .. | .registerDevice _ => [c]
  | .requestConnection d _ => (hostTx s d).toList ++ [c]
  | .setUnattendedPassword d _ => (hostTx s d).toList
  | _ => []

/-! ## §3. Single operations. -/

section Steps

variable {α : Type} {c : ConnectionId} {s s₁ : Server}

omit [Crates] in
theorem exists_works (s : Server) (o : Op) : ∃ d, Works s o d :=
  ⟨Draw.from 0, dbWorks_of_isNone o _ rfl⟩

omit [Crates] in
/-- What every draw comes to alike. -/
theorem forall_works_iff {o : Op} {P : Draw → Prop} {q : Prop}
    (h : ∀ d, Works s o d → (P d ↔ q)) : (∀ d, Works s o d → P d) ↔ q := by
  constructor
  · intro hall
    obtain ⟨d, hd⟩ := exists_works s o
    exact (h d hd).mp (hall d hd)
  · exact fun hq d hd => (h d hd).mpr hq

/-- An operation that cannot fail, and draws nothing. -/
theorem wp_certain {o : Op} {k : o.Res → Act α} {Q : α → Server → Prop}
    (h : ∀ d, o.exec d s = o.exec (Draw.from 0) s) :
    Prog.wp Op.exec Works (.call o k) Q s
      ↔ Prog.wp Op.exec Works (k (o.exec (Draw.from 0) s).1) Q (o.exec (Draw.from 0) s).2 :=
  Prog.wp_settled (exists_works s o) fun d _ => h d

/-- A query that only reads, and not the clock. -/
theorem wp_reading {q : Query} {k : Except String q.Val → Act α} {Q : α → Server → Prop}
    {r : Except String q.Val} (h : ∀ now, q.exec now s.db = (r, s.db)) :
    Prog.wp Op.exec Works (.call (.db q) k) Q s ↔ Prog.wp Op.exec Works (k r) Q s := by
  refine Prog.wp_settled (exists_works s _) fun d hd => ?_
  rw [Op.exec_query (Option.isNone_iff_eq_none.mp hd), h]

variable (c s) in
/-- The claim at the end of a run. -/
def Keeps (r : Except String Unit) (s' : Server) : Prop := Declined c s r s' → Untouched c s s'

omit [Crates] in
theorem Untouched.refl : Untouched c s s := ⟨rfl, rfl, rfl, rfl, fun _ _ => rfl⟩

omit [Crates] in
theorem keeps_error (e : String) : Keeps c s (.error e) s₁ ↔ Untouched c s s₁ := by
  constructor
  · exact fun h => h (.inl ⟨e, rfl⟩)
  · exact fun h _ => h

theorem wp_send_open {tx : Sender} {msg : ServerMessage} {k : Except String Unit → Act α}
    {Q : α → Server → Prop} (h : (s.channel tx).alive = true) :
    Prog.wp Op.exec Works (.call (.send tx msg) k) Q s ↔ Prog.wp Op.exec Works (k (.ok ())) Q
      (s.setChannel tx { s.channel tx with queue := (s.channel tx).queue ++ [msg] }) :=
  Prog.wp_settled (exists_works s _) fun d _ => by rw [Op.exec, if_pos h]

theorem wp_send_closed {tx : Sender} {msg : ServerMessage} {k : Except String Unit → Act α}
    {Q : α → Server → Prop} (h : (s.channel tx).alive = false) :
    Prog.wp Op.exec Works (.call (.send tx msg) k) Q s
      ↔ Prog.wp Op.exec Works (k (.error "channel closed")) Q s :=
  Prog.wp_settled (exists_works s _) fun d _ => by rw [Op.exec, if_neg (by simp [h])]

/-- As long as nothing else has changed, any reply may be tried. -/
theorem wp_reply (h : Untouched c s s₁) (msg : ServerMessage) :
    Prog.wp Op.exec Works (.call (.send c msg) .ret) (Keeps c s) s₁ := by
  cases ha : (s₁.channel c).alive with
  | false => exact (wp_send_closed ha).mpr fun _ => h
  | true =>
    refine (wp_send_open ha).mpr fun _ => ⟨h.db, h.deviceOnline, h.otp, h.sessions, fun x hx => ?_⟩
    rw [← h.others x hx]
    show (Function.update s₁.channel c _ x).queue = _
    rw [Function.update_of_ne hx]

omit [Crates] in
/-- What has been answered without a refusal is not refused. -/
theorem keeps_ok {sent : List ServerMessage}
    (hqueue : (s₁.channel c).queue = (s.channel c).queue ++ sent)
    (hsent : ∀ msg ∈ sent, msg.isRefusal = false) : Keeps c s (.ok ()) s₁ := by
  rintro (⟨e, he⟩ | ⟨sent', hqueue', msg, hm, hrefusal⟩)
  · exact absurd he (by simp)
  · rw [← List.append_cancel_left (hqueue.symm.trans hqueue')] at hm
    exact absurd hrefusal (by simp [hsent msg hm])

omit [Crates] in
/-- The own channel after a send. -/
theorem queue_setChannel (s₁ : Server) (tx : Sender) (msg : ServerMessage) :
    ((s₁.setChannel tx { s₁.channel tx with queue := (s₁.channel tx).queue ++ [msg] }).channel
      c).queue = (s₁.channel c).queue ++ if tx = c then [msg] else [] := by
  show (Function.update s₁.channel tx _ c).queue = _
  by_cases htx : tx = c
  · subst htx
    rw [Function.update_self, if_pos rfl]
  · rw [Function.update_of_ne (Ne.symm htx), if_neg htx, List.append_nil]

omit [Crates] in
/-- Nor is what has been passed on to somebody. -/
theorem keeps_sent {tx : Sender} {msg : ServerMessage} (hmsg : msg.isRefusal = false)
    (hchannel : s₁.channel = s.channel) : Keeps c s (.ok ())
      (s₁.setChannel tx { s₁.channel tx with queue := (s₁.channel tx).queue ++ [msg] }) := by
  have hqueue := queue_setChannel (c := c) s₁ tx msg
  rw [congrFun hchannel c] at hqueue
  refine keeps_ok hqueue fun msg' hm => ?_
  split at hm
  next => rwa [List.mem_singleton.mp hm]
  next => exact absurd hm List.not_mem_nil

/-- A message that is no refusal arrives, or it should have been tried earlier. -/
theorem wp_report (msg : ServerMessage) (hmsg : msg.isRefusal = false)
    (sent : List ServerMessage) (hqueue : (s₁.channel c).queue = (s.channel c).queue ++ sent)
    (hsent : ∀ msg ∈ sent, msg.isRefusal = false) :
    Prog.wp Op.exec Works (.call (.send c msg) .ret) (Keeps c s) s₁
      ↔ ((s₁.channel c).alive = false → Untouched c s s₁) := by
  cases ha : (s₁.channel c).alive with
  | false =>
    rw [wp_send_closed ha, Prog.wp_ret, keeps_error]
    exact ⟨fun h _ => h, fun h => h rfl⟩
  | true =>
    refine iff_of_true ((wp_send_open ha).mpr ?_) (fun h => absurd h (by simp))
    have hqueue' : ((s₁.setChannel c { s₁.channel c with
        queue := (s₁.channel c).queue ++ [msg] }).channel c).queue
          = (s.channel c).queue ++ (sent ++ [msg]) := by
      rw [queue_setChannel, hqueue, if_pos rfl, List.append_assoc]
    refine keeps_ok hqueue' fun msg' hm => ?_
    rcases List.mem_append.mp hm with hm | hm
    · exact hsent msg' hm
    · rwa [List.mem_singleton.mp hm]

end Steps

/-! ## §4. The messages that write. -/

section Messages

omit [Crates] in
/-- Whether a new account gets in. -/
theorem createAccount_isOk_iff (db : Db) (email hash : String) (role : AccountRole) (now : Int) :
    (∃ db', db.createAccount email hash role now = .ok db')
      ↔ db.accountSeq < maxRowid ∧ email ∉ db.accounts.rows.map Account.email := by
  unfold Db.createAccount
  split
  next h =>
    refine iff_of_false (by simp) fun hnew => ?_
    have hlt := hnew.1
    omega
  next h =>
    split
    next he => exact iff_of_false (by simp) fun hnew => hnew.2 he
    next he =>
      split
      next hnone =>
        -- all ids so far are below the counter
        obtain ⟨a, ha, hid⟩ := Table.insert?_eq_none_iff.mp hnone
        have hle := db.id_le_seq a ha
        have hid' : a.id = db.accountSeq + 1 := hid
        omega
      next => exact iff_of_true ⟨_, rfl⟩ ⟨by omega, he⟩

omit [Crates] in
/-- A created account is counted. -/
theorem createAccount_ne {db db' : Db} {email hash : String} {role : AccountRole} {now : Int}
    (h : db.createAccount email hash role now = .ok db') : db'.accountSeq ≠ db.accountSeq := by
  rw [(Db.createAccount_ok h).2.1]
  omega

variable (c : ConnectionId) (s : Server)

/-- An account has been created; whether the reply gets out decides. -/
theorem wp_authenticated {s₁ : Server} (hdb : s₁.db.accountSeq ≠ s.db.accountSeq)
    (hchannel : s₁.channel = s.channel) (account : Int) :
    Prog.wp Op.exec Works (.call (.setConnState c (.authenticated account)) fun _ =>
        .call .generateSessionToken fun token => .call (.send c (.authOk token)) .ret)
        (Keeps c s) s₁
      ↔ (s.channel c).alive = true := by
  rw [wp_certain fun _ => rfl]
  have hsend : ∀ token, Prog.wp Op.exec Works (.call (.send c (.authOk token)) .ret) (Keeps c s)
      ((Op.setConnState c (.authenticated account)).exec (Draw.from 0) s₁).2
      ↔ (s.channel c).alive = true := by
    intro token
    rw [wp_report _ rfl [] (by rw [List.append_nil, ← hchannel]; rfl) (by simp)]
    have hnot : ¬ Untouched c s ((Op.setConnState c (.authenticated account)).exec
        (Draw.from 0) s₁).2 := fun h => hdb (congrArg Db.accountSeq h.db)
    rw [← hchannel]
    constructor
    · intro h
      by_contra hclosed
      exact hnot (h (Bool.eq_false_iff.mpr hclosed))
    · intro hopen hclosed
      exact absurd (hopen.symm.trans hclosed) (by simp)
  exact forall_works_iff fun d _ => hsend _

/-- What is left once registration is open and the password hashed. -/
theorem wp_created (email hash : String) :
    Prog.wp Op.exec Works ((createAccountAndMaybeBootstrapAdmin email hash).run >>= fun r =>
        match r with
        | .ok (accountId, _) => .call (.setConnState c (.authenticated accountId)) fun _ =>
          .call .generateSessionToken fun token => .call (.send c (.authOk token)) .ret
        | .error e => .call (.send c (.authError ("registration failed: " ++ e))) .ret)
        (Keeps c s) s
      ↔ (s.db.accountSeq < maxRowid ∧ email ∉ s.db.accounts.rows.map Account.email →
        (s.channel c).alive = true) := by
  rw [createAccountAndMaybeBootstrapAdmin_run, Prog.call_bind,
    wp_reading (q := .countAccounts) fun _ => rfl]
  dsimp only
  rw [Prog.call_bind, Prog.wp_call]
  generalize hrole : (if ((s.db.accounts.rows.length : Int) == 0) = true then AccountRole.admin
    else AccountRole.user) = role
  by_cases hfree : s.db.accountSeq < maxRowid ∧ email ∉ s.db.accounts.rows.map Account.email
  · -- the account is created, whatever the time
    rw [forall_prop_of_true hfree]
    refine forall_works_iff fun d hd => ?_
    obtain ⟨db', hok⟩ := (createAccount_isOk_iff s.db email hash role d.clock).mpr hfree
    have hseq : db'.accountSeq ≠ s.db.accountSeq := createAccount_ne hok
    rw [Op.exec_query (Option.isNone_iff_eq_none.mp hd)]
    simp only [Query.exec, hok]
    split
    · rw [Prog.call_bind]
      refine forall_works_iff fun d' hd' => ?_
      rw [Op.exec_query (Option.isNone_iff_eq_none.mp hd')]
      refine wp_authenticated c s ?_ ?_ _
      · exact hseq
      · rfl
    · refine wp_authenticated c s ?_ ?_ _
      · exact hseq
      · rfl
  · refine iff_of_true (fun d hd => ?_) fun h => absurd h hfree
    rw [Op.exec_query (Option.isNone_iff_eq_none.mp hd)]
    cases hc : s.db.createAccount email hash role d.clock with
    | ok db' => exact absurd ((createAccount_isOk_iff _ _ _ _ _).mp ⟨db', hc⟩) hfree
    | error e =>
      simp only [Query.exec, hc]
      exact wp_reply .refl _

theorem refusal_register (email password : String) :
    Prog.wp Op.exec Works (handleMessage c (.register email password)).run (Keeps c s) s
      ↔ (Writes s c (.register email password) → (s.channel c).alive = true) := by
  simp only [handleMessage, Handler.lift_bind, registrationEnabled_bind]
  rw [wp_reading (q := .getSetting REGISTRATION_ENABLED) fun _ => rfl]
  have hflag : ((Except.ok ((s.db.settings.lookup REGISTRATION_ENABLED).map Setting.value) :
      Except String (Option String)).map fun v => v.elim true (· == "true")).toOption.getD true
        = registrationOpen s.db := rfl
  rw [hflag]
  cases hopen : registrationOpen s.db with
  | false =>
    refine iff_of_true (wp_reply .refl _) fun h => ?_
    exact absurd (hopen.symm.trans h.1) (by simp)
  | true =>
    simp only [Bool.not_true, Bool.false_eq_true, if_false, Handler.mk_bind, perform,
      Prog.perform_bind, Prog.wp_call, Handler.lift_bind]
    constructor
    · rintro h ⟨-, ⟨salt, hash, hhash⟩, hfree⟩
      have hnext := h { Draw.from 0 with rng := salt } rfl
      simp only [Op.exec, hhash] at hnext
      exact (wp_created c s email hash).mp hnext hfree
    · intro h d _
      simp only [Op.exec]
      cases hhash : hashPassword password (randomAlnum 22 d.rng) with
      | error e => exact (keeps_error e).mpr .refl
      | ok hash => exact (wp_created c s email hash).mpr fun hfree => h ⟨hopen, ⟨_, hash, hhash⟩, hfree⟩

omit [Crates] in
/-- Two one-time passwords differ, so one is new. -/
theorem exists_new_otp (old : Option String) :
    ∃ d : Draw, some (generateOneTimePassword d.rng) ≠ old := by
  have hne : generateOneTimePassword (Draw.from 0).rng ≠ generateOneTimePassword (Draw.from 1).rng := by
    decide
  by_cases h : some (generateOneTimePassword (Draw.from 0).rng) = old
  · refine ⟨Draw.from 1, fun heq => hne ?_⟩
    exact Option.some.inj (h.trans heq.symm)
  · exact ⟨_, h⟩

/-- From the moment the device id is known, the reply decides. -/
theorem wp_registered {s₁ : Server} (d : DeviceId)
    (hchannel : s₁.channel = s.channel) :
    Prog.wp Op.exec Works (.call (.deviceOnlineInsert d c) fun _ =>
        .call .generateOneTimePassword fun otp => .call (.otpInsert d otp) fun _ =>
          .call (.send c (.deviceRegistered d otp)) .ret) (Keeps c s) s₁
      ↔ (s.channel c).alive = true := by
  rw [wp_certain fun _ => rfl, ← hchannel]
  have hsend : ∀ otp, Prog.wp Op.exec Works (.call (.otpInsert d otp) fun _ =>
      .call (.send c (.deviceRegistered d otp)) .ret) (Keeps c s)
        ((Op.deviceOnlineInsert d c).exec (Draw.from 0) s₁).2
      ↔ ((s₁.channel c).alive = false →
        Untouched c s { s₁ with deviceOnline := s₁.deviceOnline.insert d c, otp := s₁.otp.insert d otp }) := by
    intro otp
    rw [wp_certain fun _ => rfl,
      wp_report _ rfl [] (by rw [List.append_nil, ← hchannel]; rfl) (by simp)]
    rfl
  constructor
  · intro h
    by_contra hclosed
    -- some draw changes the password
    obtain ⟨draw, hnew⟩ := exists_new_otp (s.otp d)
    have hsame := (hsend _).mp (h { draw with fault := none } rfl) (Bool.eq_false_iff.mpr hclosed)
    have hotp : s₁.otp.insert d (generateOneTimePassword draw.rng) d = s.otp d :=
      congrFun hsame.otp d
    rw [DashMap.insert, Function.update_self] at hotp
    exact hnew hotp
  · intro hopen draw _
    exact (hsend _).mpr fun hclosed => absurd (hopen.symm.trans hclosed) (by simp)

omit [Crates] in
/-- Whether a new device gets in. -/
theorem createDevice_isOk_iff (db : Db) (d : DeviceId) (account : Int) (name : String) :
    (∃ db', db.createDevice d account name = .ok db')
      ↔ db.devices.lookup d = none ∧ (db.foreignKeys = true → db.hasAccount account = true) := by
  unfold Db.createDevice
  split
  next hnone =>
    obtain ⟨row, hrow, hid⟩ := Table.insert?_eq_none_iff.mp hnone
    exact iff_of_false (by simp) fun hnew => Table.lookup_eq_none_iff.mp hnew.1 row hrow hid
  next devices hi =>
    have hfree : db.devices.lookup d = none :=
      Table.lookup_eq_none_iff.mpr (Table.insert?_fresh hi)
    cases db.foreignKeys <;> cases db.hasAccount account <;> simp [hfree]

/-- A new device is brought online if its row can be created. -/
theorem wp_newDevice (account : Int) (d : DeviceId) (name : String) :
    Prog.wp Op.exec Works (ExceptT.run (do
        Handler.query (.createDevice d account name)
        Handler.perform (.setMyDeviceId c d)
        Handler.perform (.deviceOnlineInsert d c)
        let otp ← Handler.perform .generateOneTimePassword
        Handler.perform (.otpInsert d otp)
        Handler.send c (.deviceRegistered d otp))) (Keeps c s) s
      ↔ (s.db.devices.lookup d = none ∧ (s.db.foreignKeys = true → s.db.hasAccount account = true) →
        (s.channel c).alive = true) := by
  rw [← createDevice_isOk_iff s.db d account name]
  simp only [Handler.query_bind, Handler.perform_bind]
  cases hc : s.db.createDevice d account name with
  | error e =>
    refine iff_of_true (fun draw hd => ?_) fun hcreated => ?_
    · rw [Op.exec_query (Option.isNone_iff_eq_none.mp hd)]
      simp only [Query.exec, hc]
      exact (keeps_error e).mpr .refl
    · obtain ⟨_, h⟩ := hcreated
      exact absurd h (by simp)
  | ok db' =>
    rw [forall_prop_of_true ⟨db', rfl⟩]
    refine forall_works_iff fun draw hd => ?_
    rw [Op.exec_query (Option.isNone_iff_eq_none.mp hd)]
    simp only [Query.exec, hc]
    rw [wp_certain fun _ => rfl]
    exact wp_registered c s d rfl

theorem refusal_registerDevice (name : String) :
    Prog.wp Op.exec Works (handleMessage c (.registerDevice name)).run (Keeps c s) s
      ↔ (Writes s c (.registerDevice name) → (s.channel c).alive = true) := by
  simp only [handleMessage, requireAuth_bind, bind_assoc]
  rw [wp_certain fun _ => rfl]
  simp only [Op.exec]
  cases hst : (s.socket c).connState with
  | unauthenticated =>
    refine iff_of_true ((keeps_error _).mpr .refl) ?_
    rintro ⟨account, hauth, -⟩
    exact absurd (hst.symm.trans hauth) (by simp)
  | authenticated account =>
    dsimp only
    rw [Handler.perform_bind, wp_certain fun _ => rfl]
    simp only [Op.exec]
    cases hmine : (s.socket c).myDeviceId with
    | some d =>
      have hwrites : Writes s c (.registerDevice name) :=
        ⟨account, hst, .inl (by rw [hmine]; rfl)⟩
      rw [forall_prop_of_true hwrites]
      exact wp_registered c s d rfl
    | none =>
      have hnew := fun d => wp_newDevice c s account d name
      simp only [bind_assoc, pure_bind]
      rw [Handler.perform_bind, Prog.wp_call]
      constructor
      · rintro h ⟨account', hauth, hmine' | ⟨⟨rng, hfree⟩, hkey⟩⟩
        · exact absurd hmine' (by simp [hmine])
        · obtain rfl : account = account' := ConnState.authenticated.inj (hst.symm.trans hauth)
          have hnext := h { Draw.from 0 with rng := rng } rfl
          exact (hnew (generateDeviceId rng)).mp hnext ⟨hfree, hkey⟩
      · intro h d _
        apply (hnew (generateDeviceId d.rng)).mpr
        rintro ⟨hfree, hkey⟩
        exact h ⟨account, hst, .inr ⟨⟨_, hfree⟩, hkey⟩⟩

theorem wp_checkCredential {α : Type} (device : Device) (d : DeviceId)
    (credential : ConnectCredential) {f : Bool → Handler α} {Q : Except String α → Server → Prop} :
    Prog.wp Op.exec Works (checkCredential device d credential >>= f).run Q s
      ↔ Prog.wp Op.exec Works (f (Admits s device d credential)).run Q s := by
  cases credential with
  | oneTimePassword otp =>
    simp only [checkCredential, bind_assoc]
    rw [Handler.perform_bind, wp_certain fun _ => rfl]
    simp only [Op.exec, Admits]
    cases s.otp d <;> rfl
  | unattendedPassword pw =>
    simp only [checkCredential, Admits]
    cases device.unattendedPasswordHash <;> rfl

/-- The state in which the session has been created. -/
def withSession (host : ConnectionId) (id : SessionId) : Server :=
  { s with sessions := s.sessions.insert id ⟨c, host⟩ }

variable {c s} in
omit [Crates] in
/-- That makes a difference, unless the session was there. -/
theorem untouched_withSession {host : ConnectionId} {id : SessionId} :
    Untouched c s (withSession c s host id) ↔ s.sessions id = some ⟨c, host⟩ := by
  constructor
  · intro h
    exact (congrFun h.sessions id).symm.trans (Function.update_self _ _ _)
  · intro h
    refine ⟨rfl, rfl, rfl, ?_, fun _ _ => rfl⟩
    show Function.update s.sessions id (some ⟨c, host⟩) = s.sessions
    rw [← h, Function.update_eq_self]

omit [Crates] in
@[simp] theorem withSession_connections (host : ConnectionId) (id : SessionId) :
    (withSession c s host id).connections = s.connections := rfl

omit [Crates] in
@[simp] theorem withSession_channel (host : ConnectionId) (id : SessionId) :
    (withSession c s host id).channel = s.channel := rfl

/-- The host has been told on `tx`; now the reply decides. -/
theorem wp_told {host tx : ConnectionId} {id : SessionId} (hopen : (s.channel tx).alive = true)
    (d : DeviceId) {msg : ServerMessage} (hmsg : msg.isRefusal = false) :
    Prog.wp Op.exec Works (.call (.send c (.connectionEstablished id d)) .ret) (Keeps c s)
      ((withSession c s host id).setChannel tx
        { s.channel tx with queue := (s.channel tx).queue ++ [msg] })
      ↔ (s.channel c).alive = true := by
  by_cases htx : tx = c
  · -- the requester is the host, and its channel is open
    subst htx
    refine iff_of_true ?_ hopen
    rw [wp_report _ rfl [msg] ?_ (by simp [hmsg])]
    · intro hclosed
      have hsame : (Function.update s.channel tx
          { s.channel tx with queue := (s.channel tx).queue ++ [msg] } tx).alive = false := hclosed
      rw [Function.update_self] at hsame
      exact absurd (hopen.symm.trans hsame) (by simp)
    · show (Function.update s.channel tx _ tx).queue = _
      rw [Function.update_self]
  · have hother : ((withSession c s host id).setChannel tx
        { s.channel tx with queue := (s.channel tx).queue ++ [msg] }).channel c = s.channel c :=
      Function.update_of_ne (Ne.symm htx) _ _
    rw [wp_report _ rfl [] (by rw [List.append_nil, hother]) (by simp), hother]
    constructor
    · intro h
      by_contra hclosed
      have hqueue : (Function.update s.channel tx
          { s.channel tx with queue := (s.channel tx).queue ++ [msg] } tx).queue
            = (s.channel tx).queue := (h (Bool.eq_false_iff.mpr hclosed)).others tx htx
      rw [Function.update_self] at hqueue
      simp at hqueue
    · exact fun hc hclosed => absurd (hc.symm.trans hclosed) (by simp)

/-- The host is told, and then the requester. -/
theorem wp_established (host : ConnectionId) (id : SessionId) (d : DeviceId) :
    Prog.wp Op.exec Works (ExceptT.run (do
        match ← Handler.perform (.connectionsGet host) with
        | some hostTx => Handler.send hostTx (.incomingConnection id none)
        | none => pure ()
        Handler.send c (.connectionEstablished id d))) (Keeps c s) (withSession c s host id)
      ↔ ((∃ tx ∈ (s.connections host).toList ++ [c], (s.channel tx).alive = false) →
        s.sessions id = some ⟨c, host⟩
          ∧ ∀ tx, s.connections host = some tx → (s.channel tx).alive = false) := by
  rw [Handler.perform_bind, wp_certain fun _ => rfl]
  simp only [Op.exec, withSession_connections]
  cases hhost : s.connections host with
  | none =>
    have hqueue : ((withSession c s host id).channel c).queue = (s.channel c).queue ++ [] :=
      (List.append_nil _).symm
    have hlast := wp_report (.connectionEstablished id d) rfl _ hqueue (by simp)
    rw [untouched_withSession] at hlast
    refine hlast.trans ?_
    simp
  | some tx =>
    dsimp only
    rw [Handler.send_bind]
    cases hopen : (s.channel tx).alive with
    | false =>
      have hopen' : ((withSession c s host id).channel tx).alive = false := hopen
      rw [wp_send_closed hopen', Prog.wp_ret, keeps_error, untouched_withSession]
      simp [hopen]
    | true =>
      have hopen' : ((withSession c s host id).channel tx).alive = true := hopen
      rw [wp_send_open hopen']
      refine (wp_told c s hopen d rfl).trans ?_
      simp [hopen]

theorem refusal_requestConnection (d : DeviceId) (credential : ConnectCredential) :
    Prog.wp Op.exec Works (handleMessage c (.requestConnection d credential)).run (Keeps c s) s
      ↔ (Writes s c (.requestConnection d credential) →
        ∀ tx ∈ receivers s c (.requestConnection d credential), (s.channel tx).alive = true) := by
  simp only [handleMessage, requireAuth_bind]
  rw [wp_certain fun _ => rfl]
  simp only [Op.exec]
  cases hst : (s.socket c).connState with
  | unauthenticated =>
    refine iff_of_true ((keeps_error _).mpr .refl) ?_
    rintro ⟨hauth, -⟩
    exact absurd hst hauth
  | authenticated account =>
    dsimp only
    rw [Handler.query_bind, wp_reading (q := .findDevice d) fun _ => rfl]
    dsimp only
    rw [Handler.okOr_bind]
    cases hdevice : s.db.devices.lookup d with
    | none =>
      refine iff_of_true ((keeps_error _).mpr .refl) ?_
      rintro ⟨-, device, host, hfound, -⟩
      exact absurd (hdevice.symm.trans hfound) (by simp)
    | some device =>
      dsimp only
      rw [wp_checkCredential]
      cases hadmits : Admits s device d credential with
      | false =>
        refine iff_of_true (wp_reply .refl _) ?_
        rintro ⟨-, device', host, hfound, hadmitted, -⟩
        obtain rfl : device = device' := Option.some.inj (hdevice.symm.trans hfound)
        exact absurd (hadmits.symm.trans hadmitted) (by simp)
      | true =>
        simp only [Bool.not_true, Bool.false_eq_true, if_false]
        rw [Handler.perform_bind, wp_certain fun _ => rfl]
        simp only [Op.exec]
        rw [Handler.okOr_bind]
        cases honline : s.deviceOnline d with
        | none =>
          refine iff_of_true ((keeps_error _).mpr .refl) ?_
          rintro ⟨-, device', host, -, -, hhost, -⟩
          exact absurd (honline.symm.trans hhost) (by simp)
        | some host =>
          have hestablished := fun id => wp_established c s host id d
          have hreceivers : receivers s c (.requestConnection d credential)
              = (s.connections host).toList ++ [c] := by
            simp only [receivers, hostTx, honline, Option.bind_some]
          have hwrites : ((∃ rng, s.sessions (newV4 rng) ≠ some ⟨c, host⟩)
              ∨ ∃ tx, s.connections host = some tx ∧ (s.channel tx).alive = true)
              → Writes s c (.requestConnection d credential) := fun h =>
            ⟨by simp [hst], device, host, hdevice, hadmits, honline, h⟩
          dsimp only
          rw [Handler.perform_bind, Prog.wp_call, hreceivers]
          constructor
          · rintro h ⟨-, device', host', -, -, hhost, hchange⟩ tx htx
            obtain rfl : host = host' := Option.some.inj (honline.symm.trans hhost)
            by_contra hclosed
            have hid : ∀ rng, s.sessions (newV4 rng) = some ⟨c, host⟩
                ∧ ∀ tx, s.connections host = some tx → (s.channel tx).alive = false := by
              intro rng
              have hnext := h { Draw.from 0 with rng := rng } rfl
              rw [Handler.perform_bind, wp_certain fun _ => rfl] at hnext
              exact (hestablished _).mp hnext ⟨tx, htx, Bool.eq_false_iff.mpr hclosed⟩
            rcases hchange with ⟨rng, hnew⟩ | ⟨tx', hlisted, hopen⟩
            · exact hnew (hid rng).1
            · exact absurd (hopen.symm.trans ((hid fun _ => 0).2 tx' hlisted)) (by simp)
          · intro h draw _
            rw [Handler.perform_bind, wp_certain fun _ => rfl]
            apply (hestablished _).mpr
            rintro ⟨tx, htx, hclosed⟩
            have hno : ¬ Writes s c (.requestConnection d credential) := fun hw =>
              absurd ((h hw tx htx).symm.trans hclosed) (by simp)
            constructor
            · by_contra hnew
              exact hno (hwrites (.inl ⟨_, hnew⟩))
            · intro tx' hlisted
              by_contra hopen
              exact hno (hwrites (.inr ⟨tx', hlisted, Bool.not_eq_false _ ▸ hopen⟩))

omit [Crates] in
theorem id_withHash (hash : String) (d : Device) :
    { d with unattendedPasswordHash := some hash }.id = d.id := rfl

/-- The state in which the hash has been stored. -/
def withHash (d : DeviceId) (hash : String) : Server :=
  { s with db := { s.db with
      devices := s.db.devices.updateAt d
        (fun d => { d with unattendedPasswordHash := some hash }) (id_withHash hash) } }

omit [Crates] in
@[simp] theorem withHash_deviceOnline (d : DeviceId) (hash : String) :
    (withHash s d hash).deviceOnline = s.deviceOnline := rfl

omit [Crates] in
@[simp] theorem withHash_connections (d : DeviceId) (hash : String) :
    (withHash s d hash).connections = s.connections := rfl

variable {c s} in
omit [Crates] in
/-- That makes a difference, unless it was stored before. -/
theorem untouched_withHash {d : DeviceId} {hash : String} {device : Device}
    (hdevice : s.db.devices.lookup d = some device) :
    Untouched c s (withHash s d hash) ↔ device.unattendedPasswordHash = some hash := by
  obtain ⟨hm, hid⟩ := Table.lookup_eq_some_iff.mp hdevice
  constructor
  · intro h
    have hnew : { device with unattendedPasswordHash := some hash }
        ∈ (withHash s d hash).db.devices :=
      List.mem_map.mpr ⟨device, hm, if_pos hid⟩
    rw [h.db] at hnew
    have hsame : { device with unattendedPasswordHash := some hash } = device :=
      Table.eq_of_key hnew hm rfl
    exact (congrArg Device.unattendedPasswordHash hsame).symm
  · intro h
    have hrows : (s.db.devices.updateAt d
        (fun d => { d with unattendedPasswordHash := some hash }) fun _ => rfl) = s.db.devices := by
      apply Table.updateAt_eq_self
      intro row hrow hkey
      rw [Table.eq_of_key hrow hm (hkey.trans hid.symm), ← h]
    refine ⟨?_, rfl, rfl, rfl, fun _ _ => rfl⟩
    simp only [withHash, hrows]

/-- The hash is stored, and the host is told. -/
theorem wp_hashStored (d : DeviceId) (password hash : String) {device : Device}
    (hdevice : s.db.devices.lookup d = some device) :
    Prog.wp Op.exec Works (ExceptT.run (do
        Handler.query (.setUnattendedPasswordHash d hash)
        match ← Handler.perform (.deviceOnlineGet d) with
        | some hostConnId =>
          match ← Handler.perform (.connectionsGet hostConnId) with
          | some hostTx => Handler.send hostTx (.unattendedPasswordUpdated password)
          | none => pure ()
        | none => pure ())) (Keeps c s) s
      ↔ ((∃ tx ∈ (hostTx s d).toList, (s.channel tx).alive = false) →
        device.unattendedPasswordHash = some hash) := by
  rw [← untouched_withHash (c := c) hdevice]
  have hquiet : Keeps c s (.ok ()) (withHash s d hash) :=
    keeps_ok (List.append_nil _).symm (by simp)
  have hstore : ∀ draw, Works s (.db (.setUnattendedPasswordHash d hash)) draw →
      (Op.db (.setUnattendedPasswordHash d hash)).exec draw s = (.ok (), withHash s d hash) :=
    fun draw hd => Op.exec_query (Option.isNone_iff_eq_none.mp hd) s
  rw [Handler.query_bind, Prog.wp_settled (exists_works s _) hstore]
  dsimp only
  rw [Handler.perform_bind, wp_certain fun _ => rfl]
  simp only [Op.exec, hostTx, withHash_deviceOnline]
  cases s.deviceOnline d with
  | none => exact iff_of_true hquiet (by simp)
  | some host =>
    dsimp only
    rw [Handler.perform_bind, wp_certain fun _ => rfl]
    simp only [Op.exec, Option.bind_some, withHash_connections]
    cases s.connections host with
    | none => exact iff_of_true hquiet (by simp)
    | some tx =>
      dsimp only
      rw [Handler.send_run]
      cases hopen : (s.channel tx).alive with
      | false =>
        have hclosed : ((withHash s d hash).channel tx).alive = false := hopen
        rw [wp_send_closed hclosed, Prog.wp_ret, keeps_error]
        simp [hopen]
      | true =>
        have halive : ((withHash s d hash).channel tx).alive = true := hopen
        rw [wp_send_open halive, Prog.wp_ret]
        exact iff_of_true (keeps_sent rfl rfl) (by simp [hopen])

theorem refusal_setUnattendedPassword (d : DeviceId) (password : String) :
    Prog.wp Op.exec Works (handleMessage c (.setUnattendedPassword d password)).run (Keeps c s) s
      ↔ (Writes s c (.setUnattendedPassword d password) →
        ∀ tx ∈ receivers s c (.setUnattendedPassword d password), (s.channel tx).alive = true) := by
  simp only [handleMessage, requireAuth_bind]
  rw [wp_certain fun _ => rfl]
  simp only [Op.exec]
  cases hst : (s.socket c).connState with
  | unauthenticated =>
    refine iff_of_true ((keeps_error _).mpr .refl) ?_
    rintro ⟨device, -, hauth, -⟩
    exact absurd (hst.symm.trans hauth) (by simp)
  | authenticated account =>
    dsimp only
    rw [Handler.query_bind, wp_reading (q := .findDevice d) fun _ => rfl]
    dsimp only
    rw [Handler.okOr_bind]
    cases hdevice : s.db.devices.lookup d with
    | none =>
      refine iff_of_true ((keeps_error _).mpr .refl) ?_
      rintro ⟨device, hfound, -⟩
      exact absurd (hdevice.symm.trans hfound) (by simp)
    | some device =>
      dsimp only
      by_cases howner : device.accountId = account
      · rw [if_neg (not_not_intro howner), Handler.mk_bind]
        have hstored := fun hash => wp_hashStored c s d password hash hdevice
        show (∀ draw, _ → _) ↔ _
        constructor
        · rintro h ⟨device', hfound, -, salt, hash, hhash, hnew⟩ tx htx
          obtain rfl : device = device' := Option.some.inj (hdevice.symm.trans hfound)
          by_contra hclosed
          have hnext := h { Draw.from 0 with rng := salt } rfl
          simp only [Op.exec, hhash] at hnext
          exact hnew ((hstored hash).mp hnext ⟨tx, htx, Bool.eq_false_iff.mpr hclosed⟩)
        · intro h draw _
          simp only [Op.exec]
          cases hhash : hashPassword password (randomAlnum 22 draw.rng) with
          | error e => exact (keeps_error e).mpr .refl
          | ok hash =>
            apply (hstored hash).mpr
            intro hsilent
            obtain ⟨tx, htx, hclosed⟩ := hsilent
            by_contra hnew
            have hopen := h ⟨device, hdevice, by rw [hst, howner], _, hash, hhash, hnew⟩ tx htx
            exact absurd (hopen.symm.trans hclosed) (by simp)
      · rw [if_pos howner]
        refine iff_of_true ((keeps_error _).mpr .refl) ?_
        rintro ⟨device', hfound, hauth, -⟩
        obtain rfl : device = device' := Option.some.inj (hdevice.symm.trans hfound)
        exact absurd (ConnState.authenticated.inj (hst.symm.trans hauth)).symm howner

/-! ## §5. Every message. -/

/-- The operations of `c` that touch nothing but its channel and its login. -/
def Op.staysHome (c : ConnectionId) : Op → Bool
  | .connState _ | .setConnState .. => true
  | .send tx _ => tx = c
  | o => o.quiet

variable {c s} in
theorem untouched_exec {o : Op} (ho : o.staysHome c = true) (d : Draw) {s₁ : Server}
    (h : Untouched c s s₁) : Untouched c s (o.exec d s₁).2 := by
  cases hq : o.quiet with
  | true =>
    rw [Op.exec_quiet o d s₁ hq]
    exact ⟨h.db, h.deviceOnline, h.otp, h.sessions, h.others⟩
  | false =>
    cases o with
    | connState | setConnState => exact ⟨h.db, h.deviceOnline, h.otp, h.sessions, h.others⟩
    | send tx msg =>
      obtain rfl : tx = c := of_decide_eq_true ho
      simp only [Op.exec]
      split
      · refine ⟨h.db, h.deviceOnline, h.otp, h.sessions, fun x hx => ?_⟩
        rw [← h.others x hx]
        show (Function.update s₁.channel tx _ x).queue = _
        rw [Function.update_of_ne hx]
      · exact h
    | _ => exact Bool.noConfusion (hq.symm.trans ho)

/-- These messages write nothing. -/
def writeless : ClientMessage → Bool
  | .login .. | .listDevices | .requestTurnCredentials => true
  | _ => false

omit [Crates] in
theorem staysHome_of_does {m : ClientMessage} (hm : writeless m = true) {o : Op}
    (ho : (Task.message c m).does o = true) : o.staysHome c = true := by
  cases o with
  | connState | setConnState => rfl
  | send tx msg =>
    have hsend : (Task.message c m).sends tx msg = true := ho
    cases m with
    | login | listDevices | requestTurnCredentials =>
      cases msg <;> first | exact hsend | exact absurd hsend (by simp [Task.sends, messageSends,
        ClientMessage.relayed])
    | _ => exact absurd hm Bool.false_ne_true
  | _ =>
    cases m with
    | login | listDevices | requestTurnCredentials => exact ho
    | _ => exact absurd hm Bool.false_ne_true

theorem refusal_writeless {m : ClientMessage} (hm : writeless m = true) :
    Prog.wp Op.exec Works (handleMessage c m).run (Keeps c s) s := by
  have honly := only_onMessage (c := c) (h := []) m
  rw [onMessage_eq, Only, Prog.follows_bind] at honly
  have hhome : Only (Op.staysHome c) (handleMessage c m).run [] :=
    honly.mono (fun _ _ ho => staysHome_of_does c hm (of_private ho)) fun _ _ _ => trivial
  have hwp := Prog.wp_of_follows (A := Works) hhome
    (fun s₁ o d ho _ hI => untouched_exec ho d hI) (Untouched.refl (c := c) (s := s))
  exact Prog.wp_mono hwp fun _ _ h _ => h

theorem refusal_relay (id : SessionId) {msg : ServerMessage} (hmsg : msg.isRefusal = false) :
    Prog.wp Op.exec Works (relay c id msg).run (Keeps c s) s := by
  rw [relay, Handler.perform_bind, wp_certain fun _ => rfl]
  simp only [Op.exec]
  rw [Handler.okOr_bind]
  cases s.sessions id with
  | none => exact (keeps_error _).mpr .refl
  | some peers =>
    dsimp only
    rw [Handler.okOr_bind]
    cases peers.other c with
    | none => exact (keeps_error _).mpr .refl
    | some other =>
      dsimp only
      rw [Handler.perform_bind, wp_certain fun _ => rfl]
      simp only [Op.exec]
      rw [Handler.okOr_bind]
      cases s.connections other with
      | none => exact (keeps_error _).mpr .refl
      | some tx =>
        dsimp only
        rw [Handler.send_run]
        cases hopen : (s.channel tx).alive with
        | false =>
          rw [wp_send_closed hopen]
          exact (keeps_error _).mpr .refl
        | true =>
          rw [wp_send_open hopen]
          exact keeps_sent hmsg rfl

/-- **A refused message changes nothing exactly if** it writes nothing, or none of the
channels is closed on which it sends after writing. -/
theorem refusal_keeps_iff (c : ConnectionId) (m : ClientMessage) (s : Server) :
    RefusalKeeps c m s
      ↔ (Writes s c m → ∀ tx ∈ receivers s c m, (s.channel tx).alive = true) := by
  have hwp : RefusalKeeps c m s
      ↔ Prog.wp Op.exec Works (handleMessage c m).run (Keeps c s) s := Prog.wp_iff_runs.symm
  rw [hwp]
  have hown : (∀ tx ∈ [c], (s.channel tx).alive = true) ↔ (s.channel c).alive = true := by simp
  cases m with
  | register email password => exact (refusal_register c s email password).trans (by rw [receivers, hown])
  | registerDevice name => exact (refusal_registerDevice c s name).trans (by rw [receivers, hown])
  | requestConnection d credential => exact refusal_requestConnection c s d credential
  | setUnattendedPassword d password => exact refusal_setUnattendedPassword c s d password
  | login | listDevices | requestTurnCredentials => exact iff_of_true (refusal_writeless c s rfl) nofun
  | sdpOffer | sdpAnswer | iceCandidate => exact iff_of_true (refusal_relay c s _ rfl) nofun

end Messages

end

/-! ## §6. A host that does not listen any more. -/

section Schedule

open scoped Transparent

/-- The send task of the host stops; its connection is still listed. -/
def hostDeaf : List ServerMove := controllerOnline ++ [.env (.sendTaskStops "host")]

/-- The request of the controller. -/
def requestDeaf : ClientMessage := .requestConnection "002 003 004" (.oneTimePassword "0002 0003")

/-- There is no session before the request; it is refused, and there is one. -/
theorem hostDeaf_shows : (server.playAll freshIds hostDeaf (World.initial (Server.blank true))).any
    (fun w => decide (w.st.sessions (newV4 (Draw.from 5).rng) = none)
      && (Prog.run Op.exec (handleMessage "ctl" requestDeaf).run (List.replicate 8 (Draw.from 5))
        w.st).any fun r => decide (r.1 = .error "channel closed"
          ∧ r.2.sessions (newV4 (Draw.from 5).rng) = some ⟨"ctl", "host"⟩)) = true := by
  decide +kernel

/-- The request is refused, and its session stays. -/
theorem session_left_behind : ¬ ∀ (c : ConnectionId) (m : ClientMessage) (w : ServerWorld),
    Run freshIds (Server.blank true) w → RefusalKeeps c m w.st := by
  intro h
  have hshows := hostDeaf_shows
  simp only [Option.any_eq_true, Bool.and_eq_true, decide_eq_true_eq] at hshows
  obtain ⟨w, hplays, hbefore, r, hrequest, hrefused, hafter⟩ := hshows
  have hrun : Run freshIds (Server.blank true) w := System.playAll_reachable .refl hplays
  have hruns : Prog.Runs Op.exec Works (handleMessage "ctl" requestDeaf).run w.st r.1 r.2 := by
    apply Prog.run_runs ?_ hrequest
    intro s o d hd
    rw [List.eq_of_mem_replicate hd]
    exact dbWorks_of_isNone o _ rfl
  have hsame := (h _ _ _ hrun _ _ hruns (.inl ⟨_, hrefused⟩)).sessions
  rw [hsame, hbefore] at hafter
  exact absurd hafter (by simp)

end Schedule

end Visuara.Signaling
