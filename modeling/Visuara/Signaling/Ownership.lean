/-
  Visuara.Signaling.Ownership
  ───────────────────────────
  **WHOSE DEVICE A CONNECTION REGISTERS.**

  A connection keeps the account it is logged in as and the device it has
  registered in two variables that know nothing of each other.  The row of a
  device names its account once and for all, so `RegisterDevice` reports a
  device of the current account as long as the connection is still logged in
  as the account that registered the device and the row is still there
  (`registered_device_is_own`).  Nothing in the handler sees to either
  (`foreign_device_registered`).

    • `task_owner`            — a row keeps its account;
    • `wp_onRegisterDevice`   — the one device a `RegisterDevice` touches.
-/
import Visuara.Signaling.Removed

namespace Visuara.Signaling

open Interleave Relational

/-! ## §1. The account of a row. -/

/-- The row of `d` belongs to the account. -/
def Db.Owns (db : Db) (d : DeviceId) (account : Int) : Prop :=
  ∃ dev ∈ db.devices, dev.id = d ∧ dev.accountId = account

theorem Db.Owns.hasDevice {db : Db} {d : DeviceId} {account : Int} (h : db.Owns d account) :
    db.HasDevice d := by
  obtain ⟨dev, hdev, hid, -⟩ := h
  exact ⟨dev, hdev, hid⟩

/-- There is one row, so there is one account. -/
theorem Db.Owns.unique {db : Db} {d : DeviceId} {account account' : Int}
    (h : db.Owns d account) (h' : db.Owns d account') : account = account' := by
  obtain ⟨dev, hdev, hid, rfl⟩ := h
  obtain ⟨dev', hdev', hid', rfl⟩ := h'
  rw [Table.eq_of_key hdev hdev' (hid.trans hid'.symm)]

/-- A device that has been created belongs to its creator. -/
theorem Db.Owns.created {now : Int} {db : Db} {d name : String} {id : Int}
    (h : ((Query.createDevice d id name).exec now db).1 = .ok ()) :
    ((Query.createDevice d id name).exec now db).2.Owns d id := by
  simp only [Query.exec] at h ⊢
  split
  next db' hc =>
    obtain ⟨devices, hi, rfl⟩ := Db.createDevice_ok hc
    exact ⟨_, (Table.mem_insert? hi _).mpr (.inr rfl), rfl, rfl⟩
  next e hc =>
    rw [hc] at h
    exact absurd h (by simp)

section

variable [Crates] {o : Op} {s : Server} {d : DeviceId} {account : Int}

/-- Every row of `d` there is belongs to the account. -/
def Db.Only (db : Db) (d : DeviceId) (account : Int) : Prop :=
  ∀ dev ∈ db.devices, dev.id = d → dev.accountId = account

omit [Crates] in
theorem Db.Owns.only {db : Db} (h : db.Owns d account) : db.Only d account := by
  intro dev hdev hid
  exact Db.Owns.unique ⟨dev, hdev, hid, rfl⟩ h

omit [Crates] in
theorem Db.Only.owns {db : Db} (h : db.Only d account) (hd : db.HasDevice d) :
    db.Owns d account := by
  obtain ⟨dev, hdev, hid⟩ := hd
  exact ⟨dev, hdev, hid, h dev hdev hid⟩

/-- Rows are only ever created, deleted or given a password. -/
theorem Db.Only.exec_op (h : s.db.Only d account)
    (ho : ∀ x id name, o ≠ .db (.createDevice x id name)) (draw : Draw) :
    (o.exec draw s).2.db.Only d account := by
  intro dev hdev hid
  rcases Op.mem_exec_devices o draw s hdev with hold | ⟨x, id, name, heq, -⟩ |
      ⟨old, hash, -, hold, rfl, -⟩
  · exact h dev hold hid
  · exact absurd heq (ho x id name)
  · exact h old hold hid

theorem Db.Owns.exec_op (h : s.db.Owns d account) (ho : o.deletesDevices = false)
    (draw : Draw) : (o.exec draw s).2.db.Owns d account := by
  have hthere : (o.exec draw s).2.db.HasDevice d := h.hasDevice.exec_op ho draw
  by_cases hc : ∃ x id name, o = .db (.createDevice x id name)
  · -- the old row is still there beside the new one
    obtain ⟨x, id, name, rfl⟩ := hc
    obtain ⟨dev, hdev, hid, hacc⟩ := h
    refine ⟨dev, ?_, hid, hacc⟩
    rw [Op.exec_db]
    dsimp only
    split
    · exact hdev
    · exact Query.exec_devices_keeps hdev (by simp) (by simp) (by simp)
  · refine Db.Only.owns (h.only.exec_op (fun x id name heq => hc ⟨x, id, name, heq⟩) draw) hthere

end

/-- The turn took the row of `d` away. -/
def Removes (turn : ServerTurn) (d : DeviceId) : Prop :=
  turn.before.db.HasDevice d ∧ ¬ turn.after.db.HasDevice d

section

variable [Crates] {A : Server → Op → Draw → Prop} {s : Server} {d : DeviceId} {account : Int}

/-- **A row keeps its account** for as long as it is there. -/
theorem task_owner (t : Task) (h : s.db.Owns d account) :
    Prog.wp Op.exec A (server.body t)
      (fun _ s' => s'.db.HasDevice d → s'.db.Owns d account) (server.begins t s) := by
  have hbegin : (server.begins t s).db.Owns d account := by
    cases t <;> exact h
  have honly : Only t.performs (server.body t) ([] : Calls) := t.only
  by_cases ht : ∃ c name, t = .message c (.registerDevice name)
  · -- a registration deletes nothing
    obtain ⟨c, name, rfl⟩ := ht
    refine Prog.wp_mono (Prog.wp_of_follows honly (fun s' o draw ho _ hI => ?_) hbegin)
      fun _ _ hI _ => hI
    refine Db.Owns.exec_op hI ?_ draw
    cases o with
    | db q => cases q <;> first | rfl | exact absurd ho Bool.false_ne_true
    | _ => rfl
  · -- and nothing else creates a device
    refine Prog.wp_mono (Prog.wp_of_follows honly (fun s' o draw ho _ hI => ?_) hbegin.only)
      fun _ _ hI hd => Db.Only.owns hI hd
    refine Db.Only.exec_op hI (fun x id name heq => ht ?_) draw
    subst heq
    exact registers_of_performs ho

end

/-! ## §2. The device of a registration. -/

/-- What a message of `c` may have done about devices: it has put online, given
a password to and reported only those that are `own`. -/
structure Touches (c : ConnectionId) (own : DeviceId → Prop) (s s' : Server) : Prop where
  connState : (s'.socket c).connState = (s.socket c).connState
  online : ∀ d, s'.deviceOnline d ≠ s.deviceOnline d → own d
  otp : ∀ d, s'.otp d ≠ s.otp d → own d
  reported : ∃ sent, (s'.channel c).queue = (s.channel c).queue ++ sent
    ∧ ∀ d p, .deviceRegistered d p ∈ sent → own d

/-- The device that `c`, logged in, had registered before or has registered now. -/
def Enters (c : ConnectionId) (s s' : Server) (d : DeviceId) : Prop :=
  ∃ account, (s.socket c).connState = .authenticated account
    ∧ ((s.socket c).myDeviceId = some d ∧ s'.db = s.db
      ∨ (s.socket c).myDeviceId = none ∧ s'.db.Owns d account)

/-- The result of a registration: whatever it has touched or now remembers is
that one device. -/
structure Registers (c : ConnectionId) (s s' : Server) : Prop where
  touches : Touches c (Enters c s s') s s'
  remembers : ∀ d, (s.socket c).myDeviceId = none → (s'.socket c).myDeviceId = some d →
    Enters c s s' d

section

variable [Crates] {A : Server → Op → Draw → Prop} {c : ConnectionId} {s s₁ : Server}

omit [Crates] in
theorem enters_congr {s' : Server} (h : s'.db = s₁.db) : Enters c s s' = Enters c s s₁ := by
  unfold Enters
  rw [h]

omit [Crates] in
/-- No device has been touched. -/
theorem Registers.idle (hsocket : s₁.socket = s.socket) (honline : s₁.deviceOnline = s.deviceOnline)
    (hotp : s₁.otp = s.otp) (hchannel : s₁.channel = s.channel) : Registers c s s₁ where
  touches := {
    connState := by rw [hsocket]
    online := fun _ h => absurd (by rw [honline]) h
    otp := fun _ h => absurd (by rw [hotp]) h
    reported := ⟨[], by rw [hchannel, List.append_nil], fun _ _ h => absurd h List.not_mem_nil⟩ }
  remembers := fun d hnone hsome => by
    rw [hsocket, hnone] at hsome
    exact absurd hsome (by simp)

/-- An operation on queues, which reports at most the device entered. -/
theorem Registers.send (h : Registers c s s₁) {msg : ServerMessage}
    (hmsg : ∀ d p, msg = .deviceRegistered d p → Enters c s s₁ d) (draw : Draw) :
    Registers c s ((Op.send c msg).exec draw s₁).2 := by
  have hsame : Enters c s ((Op.send c msg).exec draw s₁).2 = Enters c s s₁ :=
    enters_congr (Op.exec_db _ draw s₁)
  obtain ⟨sent, hqueue, hown⟩ := h.touches.reported
  constructor
  · rw [hsame]
    constructor
    · rw [Op.exec_connState]
      exact h.touches.connState
    · rw [Op.exec_deviceOnline]
      exact h.touches.online
    · rw [Op.exec_otp]
      exact h.touches.otp
    · rw [Op.exec_channel]
      dsimp only
      split
      · refine ⟨sent ++ [msg], ?_, fun d p hm => ?_⟩
        · rw [Function.update_self, hqueue, List.append_assoc]
        · rcases List.mem_append.mp hm with hm | hm
          · exact hown d p hm
          · exact hmsg d p (List.mem_singleton.mp hm).symm
      · exact ⟨sent, hqueue, hown⟩
  · rw [hsame, Op.exec_socket]
    exact h.remembers

/-- The device is put online, given a password, and reported. -/
theorem registers_enter {d : DeviceId} (hstate : (s₁.socket c).connState = (s.socket c).connState)
    (honline : s₁.deviceOnline = s.deviceOnline) (hotp : s₁.otp = s.otp)
    (hchannel : s₁.channel = s.channel) (hmine : (s₁.socket c).myDeviceId = some d)
    (hown : Enters c s s₁ d) :
    Prog.wp Op.exec A (.call (.deviceOnlineInsert d c) fun _ =>
        .call .generateOneTimePassword fun otp => .call (.otpInsert d otp) fun _ =>
          .call (.send c (.deviceRegistered d otp)) .ret)
      (fun _ s' => Registers c s s') s₁ := by
  intro draw₁ _ draw₂ _ draw₃ _ draw₄ _
  refine Registers.send ?_ (fun x p heq => ?_) draw₄
  · -- of the two maps, the entry of `d` has changed
    constructor
    · constructor
      · exact hstate
      · intro x hx
        by_cases hxd : x = d
        · rw [hxd]
          exact hown
        · refine absurd ?_ hx
          show Function.update s₁.deviceOnline d (some c) x = _
          rw [Function.update_of_ne hxd, honline]
      · intro x hx
        by_cases hxd : x = d
        · rw [hxd]
          exact hown
        · refine absurd ?_ hx
          show Function.update s₁.otp d _ x = _
          rw [Function.update_of_ne hxd, hotp]
      · refine ⟨[], ?_, fun _ _ h => absurd h List.not_mem_nil⟩
        rw [List.append_nil, ← hchannel]
        rfl
    · intro x _ hx
      have hsame : (s₁.socket c).myDeviceId = some x := hx
      rw [hmine] at hsame
      rw [← Option.some.inj hsame]
      exact hown
  · obtain ⟨rfl, -⟩ := ServerMessage.deviceRegistered.inj heq
    exact hown

/-- **One registration touches one device**: the one the connection has
registered before, or a new one of its account. -/
theorem wp_registerDevice (name : String) :
    Prog.wp Op.exec A (handleMessage c (.registerDevice name)).run
      (fun _ s' => Registers c s s') s := by
  simp only [handleMessage, requireAuth_bind, bind_assoc, Prog.wp_call]
  intro draw _
  simp only [Op.exec]
  cases hst : (s.socket c).connState with
  | unauthenticated => exact .idle rfl rfl rfl rfl
  | authenticated account =>
    simp only [Handler.perform_bind, Prog.wp_call]
    intro draw₂ _
    simp only [Op.exec]
    cases hmine : (s.socket c).myDeviceId with
    | some d => exact registers_enter rfl rfl rfl rfl hmine ⟨account, hst, .inl ⟨hmine, rfl⟩⟩
    | none =>
      simp only [bind_assoc, Handler.perform_bind, Handler.query_bind]
      intro draw₃ _ draw₄ _
      simp only [Op.exec]
      cases hf : draw₄.fault with
      | some e => exact .idle rfl rfl rfl rfl
      | none =>
        -- `create_device` fails when the id is taken or the account is gone
        cases hq : ((Query.createDevice (generateDeviceId draw₃.rng) account name).exec
            draw₄.clock s.db).1 with
        | error e => exact .idle rfl rfl rfl rfl
        | ok _ =>
          intro draw₅ _
          refine registers_enter (by simp [Op.exec, Server.setSocket]) rfl rfl rfl
            (by simp [Op.exec, Server.setSocket]) ⟨account, hst, .inr ⟨hmine, ?_⟩⟩
          exact Db.Owns.created hq

end

/-! ## §3. Runs. -/

/-- The turn in which `c`, logged in as `account`, obtains its device. -/
structure Obtains (turn : ServerTurn) (c : ConnectionId) (d : DeviceId) (account : Int) : Prop where
  task : ∃ name, turn.task = .message c (.registerDevice name)
  connState : (turn.before.socket c).connState = .authenticated account
  none : (turn.before.socket c).myDeviceId = none
  some : (turn.after.socket c).myDeviceId = some d

/-- **When a registration is repeated as it was.**  A connection that registers
the device it remembers is logged in as the account as which it obtained it,
and the row has not been removed since. -/
def RepeatsOwn (turn : ServerTurn) (l : List ServerTurn) : Prop :=
  ∀ c name account d, turn.task = .message c (.registerDevice name) →
    (turn.before.socket c).connState = .authenticated account →
    (turn.before.socket c).myDeviceId = some d →
    ∃ l₁ u l₂, l = l₁ ++ u :: l₂ ∧ Obtains u c d account ∧ ∀ v ∈ l₁, ¬ Removes v d

/-- The device belongs to the account that `c` is logged in as. -/
def Server.OwnDevice (s : Server) (c : ConnectionId) (d : DeviceId) : Prop :=
  ∃ account, (s.socket c).connState = .authenticated account ∧ s.db.Owns d account

section

variable [Crates] {B : Op → Draw → Bool} {s₀ s : Server} {l : List ServerTurn}

theorem Turn.registers {turn : ServerTurn} (hran : turn.Ran server B) {c : ConnectionId}
    {name : String} (ht : turn.task = .message c (.registerDevice name)) :
    Registers c turn.before turn.after := by
  obtain ⟨-, hruns⟩ := hran
  rw [ht] at hruns
  refine Prog.wp_sound (Q := fun _ s' => Registers c turn.before s') hruns (wp_message ?_)
  rw [onMessage_eq, Prog.wp_bind]
  refine Prog.wp_mono (wp_registerDevice name) fun r s' h => ?_
  cases r with
  | ok _ => exact h
  | error e => exact fun draw _ => h.send (by simp) draw

/-- The device that a registration enters is the account's own. -/
theorem entered_own (h : server.Serial B s₀ l s) {l₁ l₂ : List ServerTurn} {turn : ServerTurn}
    (hl : l = l₁ ++ turn :: l₂) (hrepeats : RepeatsOwn turn l₂) {c : ConnectionId} {name : String}
    (ht : turn.task = .message c (.registerDevice name)) {d : DeviceId}
    (hd : Enters c turn.before turn.after d) : turn.after.OwnDevice c d := by
  have hran : turn.Ran server B := h.ran (hl ▸ List.mem_append_right _ List.mem_cons_self)
  have hregisters := Turn.registers hran ht
  obtain ⟨account, hst, ⟨hmine, hdb⟩ | ⟨-, hnew⟩⟩ := hd
  · -- the row is as old as the id, and has been there since
    obtain ⟨m₁, u, m₂, hm, hobtains, hstays⟩ := hrepeats c name account d ht hst hmine
    have hpast : server.Serial B s₀ l₂ turn.before := h.upTo hl
    have hu : u.Ran server B := hpast.ran (hm ▸ List.mem_append_right _ List.mem_cons_self)
    obtain ⟨name', hname'⟩ := hobtains.task
    have hthen : u.after.db.Owns d account := by
      obtain ⟨account', hst', ⟨hmine', -⟩ | ⟨-, howns⟩⟩ :=
        (Turn.registers hu hname').remembers d hobtains.none hobtains.some
      · exact absurd (hobtains.none.symm.trans hmine') (by simp)
      · obtain rfl : account' = account :=
          ConnState.authenticated.inj (hst'.symm.trans hobtains.connState)
        exact howns
    have hkept := hpast.later (I := fun s => s.db.Owns d account) hm hthen
      (fun v hv hran howns => ?_) fun e s howns => by cases e <;> exact howns
    · refine ⟨account, hregisters.touches.connState.trans hst, ?_⟩
      rw [hdb]
      exact hkept.1
    · -- no turn in between has removed the row
      have hthere : v.after.db.HasDevice d := by
        by_contra hgone
        exact hstays v hv ⟨howns.hasDevice, hgone⟩
      exact hran.sound (task_owner v.task howns) hthere
  · exact ⟨account, hregisters.touches.connState.trans hst, hnew⟩

/-- Only a registration touches the maps in a turn of a connection. -/
theorem task_presence {A : Server → Op → Draw → Prop} {c : ConnectionId} {m : ClientMessage}
    (hm : ∀ name, m ≠ .registerDevice name) :
    Prog.wp Op.exec A (server.body (.message c m))
      (fun _ s' => s'.deviceOnline = s.deviceOnline ∧ s'.otp = s.otp) s := by
  have honly : Only (Task.performs (.message c m)) (server.body (.message c m)) ([] : Calls) :=
    Task.only _
  refine Prog.wp_of_follows honly (fun s' o draw ho _ hI => ?_) ⟨rfl, rfl⟩
  rw [Op.exec_deviceOnline, Op.exec_otp]
  cases o with
  | deviceOnlineInsert | otpInsert =>
    cases m with
    | registerDevice name => exact absurd rfl (hm name)
    | _ => exact absurd ho Bool.false_ne_true
  | deviceOnlineRemove | otpRemove => cases m <;> exact absurd ho Bool.false_ne_true
  | _ => exact hI

/-- **Registrations report devices of the current account** in every serial run
in which remembered devices are registered again only as they were, whatever
fails: when `DeviceRegistered{d}` is enqueued to a connection, the row of `d`
belongs to the account the connection is logged in as; and no message brings
any other device online or changes its one-time password. -/
theorem registered_device_is_own (h : server.Serial B s₀ l s)
    (hrepeats : ∀ l₁ turn l₂, l = l₁ ++ turn :: l₂ → RepeatsOwn turn l₂) :
    (∀ turn ∈ l, ∀ c d p, Enqueues turn c (.deviceRegistered d p) → turn.after.OwnDevice c d)
    ∧ ∀ turn ∈ l, ∀ c m d, turn.task = .message c m →
      (turn.after.deviceOnline d ≠ turn.before.deviceOnline d
        ∨ turn.after.otp d ≠ turn.before.otp d) → turn.after.OwnDevice c d := by
  constructor
  · intro turn hturn c d p hsent
    obtain ⟨l₁, l₂, hl⟩ := List.append_of_mem hturn
    have hran := h.ran hturn
    obtain ⟨name, ht⟩ := registers_of_reports (sends_of_enqueues hran hsent)
    -- the report names the device that has been entered
    obtain ⟨sent, hqueue, hown⟩ := (Turn.registers hran ht).touches.reported
    obtain ⟨sent', hqueue', hm⟩ := hsent
    rw [List.append_cancel_left (hqueue'.symm.trans hqueue)] at hm
    exact entered_own h hl (hrepeats _ _ _ hl) ht (hown d p hm)
  · intro turn hturn c m d ht htouched
    obtain ⟨l₁, l₂, hl⟩ := List.append_of_mem hturn
    have hran := h.ran hturn
    by_cases hm : ∃ name, m = .registerDevice name
    · obtain ⟨name, rfl⟩ := hm
      have htouches := (Turn.registers hran ht).touches
      exact entered_own h hl (hrepeats _ _ _ hl) ht
        (htouched.elim (htouches.online d) (htouches.otp d))
    · have hsame := hran.sound (Q := fun _ s' => s'.deviceOnline = turn.before.deviceOnline
        ∧ s'.otp = turn.before.otp) (by rw [ht]; exact task_presence fun name heq => hm ⟨name, heq⟩)
      rw [hsame.1, hsame.2] at htouched
      exact absurd htouched (by simp)

end

section Schedule

open scoped Transparent

/-- Bob's connection registers a device. -/
def bobEnters : List (Task × List Draw) :=
  openAndRegister ++ [(.message "c" (.registerDevice "laptop"), List.replicate 9 (Draw.from 4))]

/-- It logs in as Ann, and registers again. -/
def bobEntersAsAnn : List (Task × List Draw) :=
  bobEnters ++ [(.message "c" (.login "ann@example.com" "pw"), List.replicate 5 (Draw.from 5)),
    (.message "c" (.registerDevice "laptop"), List.replicate 9 (Draw.from 6))]

/-- Nobody registers twice, and the last turn reports the device. -/
theorem bobEnters_shows : (server.serveAll bobEnters ([], Server.blank true)).any (fun r =>
    (r.1.all fun turn => turn.task.sparesPlainly turn.before)
      && r.1[0]?.any fun turn => decide ((turn.after.channel "c").queue
        = (turn.before.channel "c").queue
          ++ [.deviceRegistered laptop (generateOneTimePassword (Draw.from 4).rng)])) = true := by
  decide +kernel

/-- The last turn reports Bob's device to Ann. -/
theorem bobEntersAsAnn_shows :
    (server.serveAll bobEntersAsAnn ([], Server.blank true)).any (fun r =>
      r.1[0]?.any fun turn => decide ((turn.after.channel "c").queue
          = (turn.before.channel "c").queue
            ++ [.deviceRegistered laptop (generateOneTimePassword (Draw.from 6).rng)]
        ∧ (turn.after.socket "c").connState = .authenticated 1
        ∧ (⟨laptop, 2, "laptop", none⟩ : Device) ∈ turn.after.db.devices.rows)) = true := by
  decide +kernel

theorem bobEnters_served : (server.serveAll bobEnters ([], Server.blank true)).isSome = true :=
  Option.isSome_of_any bobEnters_shows

theorem bobEnters_serial : server.Serial dbWorks (Server.blank true)
    (Option.get _ bobEnters_served).1 (Option.get _ bobEnters_served).2 :=
  served_serial (by decide +kernel) bobEnters_served

theorem registered_device_is_own_bob : ∃ turn ∈ (Option.get _ bobEnters_served).1,
    Enqueues turn "c" (.deviceRegistered laptop (generateOneTimePassword (Draw.from 4).rng))
      ∧ turn.after.OwnDevice "c" laptop := by
  have hshows := get_of_any bobEnters_shows bobEnters_served
  simp only [Bool.and_eq_true, Option.any_eq_true, decide_eq_true_eq] at hshows
  obtain ⟨hfirst, turn, hlast, hqueue⟩ := hshows
  have hrepeats : ∀ l₁ turn l₂, (Option.get _ bobEnters_served).1 = l₁ ++ turn :: l₂ →
      RepeatsOwn turn l₂ := by
    intro l₁ turn l₂ hl c name account d ht _ hmine
    -- nobody registers twice
    have hnone := List.all_eq_true.mp hfirst turn
      (hl ▸ List.mem_append_right _ List.mem_cons_self)
    rw [ht] at hnone
    exact absurd (hmine.symm.trans (Option.isNone_iff_eq_none.mp hnone)) (by simp)
  have hturn : turn ∈ (Option.get _ bobEnters_served).1 := List.mem_of_getElem? hlast
  have hsent : Enqueues turn "c"
      (.deviceRegistered laptop (generateOneTimePassword (Draw.from 4).rng)) := .of_last hqueue
  exact ⟨turn, hturn, hsent,
    (registered_device_is_own bobEnters_serial hrepeats).1 turn hturn _ _ _ hsent⟩

/-- Bob's device is reported to a connection that is logged in as Ann. -/
theorem foreign_device_registered : ¬ ∀ l s, server.Serial dbWorks (Server.blank true) l s →
    ∀ turn ∈ l, ∀ c d p, Enqueues turn c (.deviceRegistered d p) → turn.after.OwnDevice c d := by
  intro h
  have hserved := Option.isSome_of_any bobEntersAsAnn_shows
  have hserial := served_serial (by decide +kernel) hserved
  have hshows := get_of_any bobEntersAsAnn_shows hserved
  simp only [Option.any_eq_true, decide_eq_true_eq] at hshows
  obtain ⟨turn, hlast, hqueue, hann, hrow⟩ := hshows
  obtain ⟨account, hst, howns⟩ :=
    h _ _ hserial turn (List.mem_of_getElem? hlast) _ _ _ (.of_last hqueue)
  have hbob : turn.after.db.Owns laptop 2 := ⟨_, hrow, rfl, rfl⟩
  obtain rfl : account = 1 := ConnState.authenticated.inj (hst.symm.trans hann)
  exact absurd (howns.unique hbob) (by decide)

end Schedule

end Visuara.Signaling
