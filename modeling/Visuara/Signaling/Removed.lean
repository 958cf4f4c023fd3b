/-
  Visuara.Signaling.Removed
  ─────────────────────────
  **REMOVED DEVICES.**

  `device_online` and `otp` are filled by `RegisterDevice` and live in memory;
  devices exist in the database.  When requests are served one at a time, the
  two kept in step (`Housed`) by every task but two: a `DELETE` of an account
  takes its devices' rows and leaves them online, and a connection that
  remembers a device registers it again after its row is gone
  (`removed_device_listed`).  Runs without these two (`Spares`) keep them in
  step.
-/
import Visuara.Signaling.Accounts

namespace Visuara.Signaling

open Interleave Relational

/-! ## §1. Devices that are listed, and devices that exist. -/

/-- The device has a row. -/
def Db.HasDevice (db : Db) (d : DeviceId) : Prop := ∃ dev ∈ db.devices, dev.id = d

/-- The device is online, or has a one-time password. -/
def Server.Lists (s : Server) (d : DeviceId) : Prop :=
  (s.deviceOnline d).isSome = true ∨ (s.otp d).isSome = true

theorem Db.hasDevice_iff {db : Db} {d : DeviceId} :
    db.HasDevice d ↔ (db.devices.lookup d).isSome = true := by
  rw [Option.isSome_iff_exists]
  exact exists_congr fun _ => Table.lookup_eq_some_iff.symm

instance (db : Db) (d : DeviceId) : Decidable (db.HasDevice d) :=
  decidable_of_iff _ Db.hasDevice_iff.symm

instance (s : Server) (d : DeviceId) : Decidable (s.Lists d) :=
  inferInstanceAs (Decidable (_ ∨ _))

/-- Every device that is listed has a row. -/
def Housed (s : Server) : Prop := ∀ d, s.Lists d → s.db.HasDevice d

/-- A device keeps its row, unless it or its account is deleted. -/
theorem Db.HasDevice.exec {now : Int} {db : Db} {q : Query} {d : DeviceId} (h : db.HasDevice d)
    (hd : q ≠ .deleteDevice d)
    (ha : ∀ dev ∈ db.devices, dev.id = d → q ≠ .deleteAccount dev.accountId) :
    (q.exec now db).2.HasDevice d := by
  obtain ⟨dev, hdev, rfl⟩ := h
  by_cases hp : ∃ hash, q = .setUnattendedPasswordHash dev.id hash
  · obtain ⟨hash, rfl⟩ := hp
    refine ⟨{ dev with unattendedPasswordHash := some hash }, ?_, rfl⟩
    show _ ∈ db.devices.updateAt dev.id (fun d => { d with unattendedPasswordHash := some hash })
      fun _ => rfl
    exact (Table.mem_updateAt _).mpr (.inr ⟨dev, hdev, rfl, rfl⟩)
  · exact ⟨dev, Query.exec_devices_keeps hdev hd (fun hash heq => hp ⟨hash, heq⟩)
      (ha dev hdev rfl), rfl⟩

/-- A device that has been created has a row. -/
theorem Db.HasDevice.created {now : Int} {db : Db} {d name : String} {id : Int}
    (h : ((Query.createDevice d id name).exec now db).1 = .ok ()) :
    ((Query.createDevice d id name).exec now db).2.HasDevice d := by
  simp only [Query.exec] at h ⊢
  split
  next db' hc =>
    obtain ⟨devices, hi, rfl⟩ := Db.createDevice_ok hc
    exact ⟨_, (Table.mem_insert? hi _).mpr (.inr rfl), rfl⟩
  next e hc =>
    rw [hc] at h
    exact absurd h (by simp)

/-! ## §2. Operations that keep the maps in step. -/

/-- The device the operation lists. -/
def Op.lists? : Op → Option DeviceId
  | .deviceOnlineInsert d _ | .otpInsert d _ => some d
  | _ => none

/-- The operations that delete rows of `devices`. -/
def Op.deletesDevices : Op → Bool
  | .db (.deleteDevice _) | .db (.deleteAccount _) => true
  | _ => false

/-- The operations that keep `Housed` without conditions. -/
def Op.houses (o : Op) : Bool := !o.deletesDevices && o.lists? = none

/-- The operations that keep it if `d` has a row. -/
def Op.housesWith (d : DeviceId) (o : Op) : Bool :=
  !o.deletesDevices && (o.lists? = none || o.lists? = some d)

section

variable [Crates] {o : Op} {s : Server} {d : DeviceId}

/-- A device that is listed was so before, or has just been listed. -/
theorem Server.Lists.before {draw : Draw} (h : (o.exec draw s).2.Lists d) :
    s.Lists d ∨ o.lists? = some d := by
  rcases h with h | h
  · obtain ⟨c, hc⟩ := Option.isSome_iff_exists.mp h
    rcases Op.exec_deviceOnline_some o draw s hc with rfl | hold
    · exact .inr rfl
    · exact .inl (.inl (by rw [hold]; rfl))
  · obtain ⟨v, hv⟩ := Option.isSome_iff_exists.mp h
    rcases Op.exec_otp_some o draw s hv with rfl | hold
    · exact .inr rfl
    · exact .inl (.inr (by rw [hold]; rfl))

theorem Db.HasDevice.exec_op (h : s.db.HasDevice d) (ho : o.deletesDevices = false)
    (draw : Draw) : (o.exec draw s).2.db.HasDevice d := by
  rw [Op.exec_db]
  cases o with
  | db q =>
    dsimp only
    split
    · exact h
    · refine h.exec ?_ fun _ _ _ => ?_
      · rintro rfl
        exact absurd ho.symm Bool.false_ne_true
      · rintro rfl
        exact absurd ho.symm Bool.false_ne_true
  | _ => exact h

/-- **What is listed keeps its row, if what is listed now has one.** -/
theorem Housed.exec (h : Housed s) (ho : o.deletesDevices = false)
    (hlist : ∀ d, o.lists? = some d → s.db.HasDevice d) (draw : Draw) :
    Housed (o.exec draw s).2 := by
  intro d hd
  rcases hd.before with hd | hd
  · exact (h d hd).exec_op ho draw
  · exact (hlist d hd).exec_op ho draw

/-! ## §3. Handlers. -/

variable {A : Server → Op → Draw → Prop} {α β : Type}

theorem wp_housed {p : Act α} (hp : Only Op.houses p ([] : Calls)) (hs : Housed s) :
    Prog.wp Op.exec A p (fun _ s' => Housed s') s := by
  refine Prog.wp_of_follows hp (fun s o draw ho _ hs => ?_) hs
  simp only [Op.houses, Bool.and_eq_true, Bool.not_eq_true', decide_eq_true_eq] at ho
  exact hs.exec ho.1 (fun d hd => absurd (ho.2.symm.trans hd) (Option.some_ne_none d).symm) draw

/-- A device with a row may be listed. -/
theorem wp_housed_with {p : Act α} (hp : Only (Op.housesWith d) p ([] : Calls)) (hs : Housed s)
    (hd : s.db.HasDevice d) : Prog.wp Op.exec A p (fun _ s' => Housed s') s := by
  have hkeep : Prog.wp Op.exec A p (fun _ s' => Housed s' ∧ s'.db.HasDevice d) s := by
    refine Prog.wp_of_follows hp (fun s o draw ho _ hs => ?_) ⟨hs, hd⟩
    simp only [Op.housesWith, Bool.and_eq_true, Bool.not_eq_true', Bool.or_eq_true,
      decide_eq_true_eq] at ho
    refine ⟨hs.1.exec ho.1 (fun x hx => ?_) draw, hs.2.exec_op ho.1 draw⟩
    rcases ho.2 with hno | hyes
    · exact absurd (hno.symm.trans hx) (Option.some_ne_none x).symm
    · obtain rfl := Option.some.inj (hyes.symm.trans hx)
      exact hs.2
  exact Prog.wp_mono hkeep fun _ _ h => h.1

/-- A device that is kicked is no longer listed. -/
theorem wp_kickDevice (message : String) (hs : ∀ x, x ≠ d → s.Lists x → s.db.HasDevice x) :
    Prog.wp Op.exec A (Api.kickDevice d message) (fun _ s' => Housed s') s := by
  intro draw _ draw₂ _
  have hhoused : Housed ((Op.otpRemove d).exec draw₂ ((Op.deviceOnlineRemove d).exec draw s).2).2 := by
    intro x hx
    by_cases hxd : x = d
    · subst hxd
      simp [Server.Lists, Op.exec] at hx
    · refine hs x hxd ?_
      simpa [Server.Lists, Op.exec, Function.update_of_ne hxd] using hx
  cases ((Op.deviceOnlineRemove d).exec draw s).1 with
  | none => exact hhoused
  | some c =>
    refine wp_housed ⟨rfl, fun tx => ?_⟩ hhoused
    cases tx with
    | none => trivial
    | some tx => exact ⟨rfl, fun _ => trivial⟩

/-- Removing a device takes it out of the maps, too. -/
theorem wp_removeDevice (message : String) (hs : Housed s) :
    Prog.wp Op.exec A (query (.deleteDevice d) >>= fun _ => Api.kickDevice d message)
      (fun _ s' => Housed s') s := by
  intro draw _
  refine wp_kickDevice message fun x hxd hx => ?_
  rw [Op.exec_db]
  rcases hx.before with hx | hx
  · dsimp only
    split
    · exact hs x hx
    · refine (hs x hx).exec (fun heq => hxd ?_) (by simp)
      injection heq with heq
      exact heq.symm
  · exact absurd hx.symm (Option.some_ne_none x)

/-- Both routes that delete a device. -/
theorem housed_removeDevice {owner : Int} (message : String) (refused : Response) (device : Device)
    (hs : Housed s) : Prog.wp Op.exec A (if device.accountId = owner then do
        let _ ← query (.deleteDevice d)
        Api.kickDevice d message
        pure (statusResponse 204)
      else pure refused) (fun _ s' => Housed s') s := by
  split
  · show Prog.wp _ _ ((query (.deleteDevice d) >>= fun _ => Api.kickDevice d message)
      >>= fun _ => pure (statusResponse 204)) _ _
    rw [Prog.wp_bind]
    exact Prog.wp_mono (wp_removeDevice message hs) fun _ _ h => h
  · exact hs

theorem housed_deleteOwn (headers : HeaderMap) (d : DeviceId) (hs : Housed s) :
    Prog.wp Op.exec A (Api.deleteOwn headers d) (fun _ s' => Housed s') s := by
  simp only [Api.deleteOwn]
  refine wp_requireAccount hs fun token account _ _ => ?_
  intro draw _
  rw [Op.exec_reading rfl]
  rcases ((Op.db (.findDevice d)).exec draw s).1 with e | (_ | device)
  · exact hs
  · exact hs
  · exact housed_removeDevice _ _ device hs

theorem housed_deleteDevice (headers : HeaderMap) (id : Int) (d : DeviceId) (hs : Housed s) :
    Prog.wp Op.exec A (Api.deleteDevice headers id d) (fun _ s' => Housed s') s := by
  refine wp_withAdmin (fun _ _ => hs) fun _ => ?_
  intro draw _
  rw [Op.exec_reading rfl]
  rcases ((Op.db (.findDevice d)).exec draw s).1 with e | (_ | device)
  · exact hs
  · exact hs
  · exact housed_removeDevice _ _ device hs

/-- The devices of a deleted account must not be listed. -/
theorem housed_deleteAccount {B : Op → Draw → Bool} (headers : HeaderMap) (id : Int)
    (hs : Housed s) (hspares : AsksAsAdmin headers s.db → GuardMayPass B s.db id →
      ∀ dev ∈ s.db.devices, dev.accountId = id → ¬ s.Lists dev.id) :
    Prog.wp Op.exec (fun _ o d => B o d = true) (Api.deleteAccount headers id)
      (fun _ s' => Housed s') s := by
  refine wp_withAdmin (fun _ _ => hs) fun hadmin => ?_
  refine wp_guardLastAdmin (fun hpass => ?_) fun _ => hs
  intro draw _ d hd
  rw [Op.exec_db]
  rcases hd.before with hd | hd
  · dsimp only
    split
    · exact hs d hd
    · refine (hs d hd).exec (by simp) fun dev hdev hid heq => ?_
      injection heq with heq
      exact hspares hadmin hpass dev hdev heq.symm (hid ▸ hd)
  · exact absurd hd.symm (Option.some_ne_none d)

omit [Crates] in
theorem housesWith_online (c : ConnectionId) :
    (Op.deviceOnlineInsert d c).housesWith d = true := by
  simp [Op.housesWith, Op.deletesDevices, Op.lists?]

omit [Crates] in
theorem housesWith_otp (otp : String) : (Op.otpInsert d otp).housesWith d = true := by
  simp [Op.housesWith, Op.deletesDevices, Op.lists?]

/-- After `create_device`, the device has a row or the handler gets an error. -/
theorem wp_createDevice {x name : String} {id : Int} {k : Except String Unit → Act α}
    {Q : α → Server → Prop} (hs : Housed s)
    (hok : ∀ s', Housed s' → s'.db.HasDevice x → Prog.wp Op.exec A (k (.ok ())) Q s')
    (herror : ∀ e s', Housed s' → Prog.wp Op.exec A (k (.error e)) Q s') :
    Prog.wp Op.exec A (.call (.db (.createDevice x id name)) k) Q s := by
  intro draw _
  have hs' : Housed ((Op.db (.createDevice x id name)).exec draw s).2 :=
    hs.exec rfl (fun _ h => absurd h.symm (Option.some_ne_none _)) draw
  cases hr : ((Op.db (.createDevice x id name)).exec draw s).1 with
  | error e => exact herror e _ hs'
  | ok _ =>
    obtain ⟨hd, hq⟩ := Op.exec_query_ok hr
    refine hok _ hs' ?_
    rw [Op.exec_query hd]
    exact .created hq

/-- A device that is registered again must still have its row. -/
theorem housed_registerDevice (c : ConnectionId) (name : String) (hs : Housed s)
    (hspares : (s.socket c).connState ≠ .unauthenticated →
      ∀ d, (s.socket c).myDeviceId = some d → s.db.HasDevice d) :
    Prog.wp Op.exec A (handleMessage c (.registerDevice name)).run (fun _ s' => Housed s') s := by
  simp only [handleMessage, requireAuth_bind, bind_assoc, Prog.wp_call]
  intro draw _
  simp only [Op.exec]
  cases hst : (s.socket c).connState with
  | unauthenticated => exact hs
  | authenticated account =>
    simp only [Handler.perform_bind, Prog.wp_call]
    intro draw₂ _
    simp only [Op.exec]
    cases hmine : (s.socket c).myDeviceId with
    | some x =>
      refine wp_housed_with ?_ hs (hspares (by simp [hst]) x hmine)
      exact ⟨housesWith_online c, fun _ => ⟨rfl, fun otp => ⟨housesWith_otp otp,
        fun _ => ⟨rfl, fun _ => trivial⟩⟩⟩⟩
    | none =>
      simp only [bind_assoc, Handler.perform_bind, Handler.query_bind]
      intro draw₃ _
      refine wp_createDevice hs (fun s' hs' hd => wp_housed_with ?_ hs' hd) ?_
      · exact ⟨rfl, fun _ => ⟨housesWith_online c, fun _ => ⟨rfl, fun otp => ⟨housesWith_otp otp,
          fun _ => ⟨rfl, fun _ => trivial⟩⟩⟩⟩⟩
      · exact fun _ _ hs' => hs'

end

/-! ## §4. Turns and runs. -/

/-- **When a task leaves the maps in step.**  A `DELETE` of an account, if it may
get past `require_admin` and the guard, meets no device of that account that is
listed; a device that a connection remembers and registers again has a row. -/
def Spares (B : Op → Draw → Bool) (t : Task) (s : Server) : Prop :=
  match t with
  | .http (.deleteAccount headers id) => AsksAsAdmin headers s.db → GuardMayPass B s.db id →
      ∀ dev ∈ s.db.devices, dev.accountId = id → ¬ s.Lists dev.id
  | .message c (.registerDevice _) => (s.socket c).connState ≠ .unauthenticated →
      ∀ d, (s.socket c).myDeviceId = some d → s.db.HasDevice d
  | _ => True

/-- The tasks that need a look. -/
def Task.rehouses : Task → Bool
  | .http (.deleteOwn ..) | .http (.deleteDevice ..) | .http (.deleteAccount ..)
  | .message _ (.registerDevice _) => true
  | _ => false

theorem houses_of_performs {t : Task} {o : Op} (ht : t.rehouses = false)
    (ho : t.performs o = true) : o.houses = true := by
  cases o with
  | deviceOnlineInsert d c =>
    cases t with
    | message c m => cases m <;> first | exact absurd ho Bool.false_ne_true
                                       | exact absurd ht.symm Bool.false_ne_true
    | http req => cases req <;> exact absurd ho Bool.false_ne_true
    | _ => exact absurd ho Bool.false_ne_true
  | otpInsert d v =>
    cases t with
    | message c m => cases m <;> first | exact absurd ho Bool.false_ne_true
                                       | exact absurd ht.symm Bool.false_ne_true
    | http req => cases req <;> exact absurd ho Bool.false_ne_true
    | _ => exact absurd ho Bool.false_ne_true
  | db q =>
    cases q with
    | deleteDevice | deleteAccount =>
      cases t with
      | message c m => cases m <;> exact absurd ho Bool.false_ne_true
      | http req => cases req <;> first | exact absurd ho Bool.false_ne_true
                                        | exact absurd ht.symm Bool.false_ne_true
      | _ => exact absurd ho Bool.false_ne_true
    | _ => rfl
  | _ => rfl

section

variable [Crates] {B : Op → Draw → Bool} {s : Server} {d : DeviceId}

theorem housed_begins (t : Task) : Housed (server.begins t s) ↔ Housed s := by
  cases t <;> rfl

/-- **Every task that spares the listed devices keeps the maps in step.** -/
theorem task_housed (t : Task) (hs : Housed s) (hspares : Spares B t s) :
    Prog.wp Op.exec (fun _ o d => B o d = true) (server.body t) (fun _ s' => Housed s')
      (server.begins t s) := by
  have hbegin := (housed_begins t).mpr hs
  cases ht : t.rehouses with
  | false =>
    exact wp_housed (t.only.mono (fun _ _ ho => houses_of_performs ht ho) fun _ _ h => h) hbegin
  | true =>
    cases t with
    | http req =>
      refine wp_http ?_
      cases req with
      | deleteOwn headers d => exact housed_deleteOwn headers d hs
      | deleteDevice headers id d => exact housed_deleteDevice headers id d hs
      | deleteAccount headers id => exact housed_deleteAccount headers id hs hspares
      | _ => exact absurd ht Bool.false_ne_true
    | message c m =>
      refine wp_message ?_
      cases m with
      | registerDevice name =>
        rw [onMessage_eq, Prog.wp_bind]
        exact Prog.wp_mono (housed_registerDevice c name hs hspares) fun r s' hs' =>
          wp_housed (only_report r fun _ => rfl) hs'
      | _ => exact absurd ht Bool.false_ne_true
    | _ => exact absurd ht Bool.false_ne_true

omit [Crates] in
theorem registers_of_performs {t : Task} {x name : String} {id : Int}
    (h : t.performs (.db (.createDevice x id name)) = true) :
    ∃ c n, t = .message c (.registerDevice n) := by
  cases t with
  | message c m => cases m <;> first | exact ⟨c, _, rfl⟩ | exact absurd h Bool.false_ne_true
  | http req => cases req <;> exact absurd h Bool.false_ne_true
  | _ => exact absurd h Bool.false_ne_true

/-- Only `RegisterDevice` gives a device a row. -/
theorem task_row (t : Task) (hno : ¬ s.db.HasDevice d) :
    Prog.wp Op.exec (fun _ o d => B o d = true) (server.body t)
      (fun _ s' => s'.db.HasDevice d → ∃ c name, t = .message c (.registerDevice name))
      (server.begins t s) := by
  have hbegin : ¬ (server.begins t s).db.HasDevice d := by cases t <;> exact hno
  have honly : Only t.performs (server.body t) ([] : Calls) := t.only
  refine Prog.wp_of_follows honly (fun s o draw ho _ hI => ?_) fun hd => absurd hd hbegin
  rintro ⟨dev, hdev, rfl⟩
  rcases Op.mem_exec_devices o draw s hdev with h | ⟨x, id, name, rfl, -⟩ | ⟨old, _, -, h, rfl, -⟩
  · exact hI ⟨dev, h, rfl⟩
  · exact registers_of_performs ho
  · exact hI ⟨old, h, rfl⟩

end

/-- The turn is a `RegisterDevice` that created a row for `d`. -/
def RegistersAnew (turn : ServerTurn) (d : DeviceId) : Prop :=
  (∃ c name, turn.task = .message c (.registerDevice name))
    ∧ ¬ turn.before.db.HasDevice d ∧ turn.after.db.HasDevice d

section

variable [Crates] {B : Op → Draw → Bool} {s₀ s : Server} {l : List ServerTurn}

/-- **In a run that spares the listed devices, what is listed has a row.** -/
theorem serial_housed (h : server.Serial B s₀ l s) (h0 : Housed s₀)
    (hspares : ∀ turn ∈ l, Spares B turn.task turn.before) : Housed s := by
  induction h with
  | start => exact h0
  | turn _ t _ hrun ih =>
    have hs := ih fun turn hturn => hspares turn (List.mem_cons_of_mem _ hturn)
    exact Prog.wp_sound hrun (task_housed t hs (hspares _ List.mem_cons_self))
  | env _ e ih =>
    intro d hd
    cases e with
    | sendTaskStops c => exact ih hspares d hd
    | restart => exact absurd hd (by simp [server, Env.disturb, Server.restart, Server.Lists])

/-- A row that is there after it was not has been created in between. -/
theorem serial_row (h : server.Serial B s₀ l s) {l₁ l₂ : List ServerTurn} {turn : ServerTurn}
    (hl : l = l₁ ++ turn :: l₂) {d : DeviceId} (hno : ¬ turn.after.db.HasDevice d)
    (hd : s.db.HasDevice d) : ∃ u ∈ l₁, RegistersAnew u d := by
  induction h generalizing l₁ with
  | start => exact absurd hl (by simp)
  | @turn l s s' _ _ t _ hrun ih =>
    cases l₁ with
    | nil =>
      obtain ⟨rfl, -⟩ := List.cons.inj hl
      exact absurd hd hno
    | cons u l₁ =>
      obtain ⟨rfl, rfl⟩ := List.cons.inj hl
      by_cases hbefore : s.db.HasDevice d
      · obtain ⟨v, hv, hnew⟩ := ih rfl hbefore
        exact ⟨v, List.mem_cons_of_mem _ hv, hnew⟩
      · have ht := Prog.wp_sound hrun (task_row t hbefore) hd
        exact ⟨_, List.mem_cons_self, ht, hbefore, hd⟩
  | env _ e ih =>
    cases e with
    | sendTaskStops c => exact ih hl hd
    | restart => exact ih hl hd

/-- **Removed devices stay removed** in every serial run all of whose turns
spare the listed devices, whatever fails: a device that is online or has a
one-time password has a row; and if it had none after some turn, a
`RegisterDevice` has created one since. -/
theorem removed_devices_stay {db : Db} {config : Config} {files : Files}
    (h : server.Serial B (Server.start db config files) l s)
    (hspares : ∀ turn ∈ l, Spares B turn.task turn.before) :
    (∀ d, s.Lists d → s.db.HasDevice d)
    ∧ ∀ l₁ turn l₂ d, l = l₁ ++ turn :: l₂ → ¬ turn.after.db.HasDevice d → s.Lists d →
      ∃ u ∈ l₁, RegistersAnew u d := by
  have hhoused : Housed s :=
    serial_housed h (fun d hd => absurd hd (by simp [Server.start, Server.Lists])) hspares
  exact ⟨hhoused, fun l₁ turn l₂ d hl hno hd => serial_row h hl hno (hhoused d hd)⟩

end

/-! ## §5. Concrete runs. -/

/-- A task that deletes no account, and registers a connection's first device if any. -/
def Task.sparesPlainly (t : Task) (s : Server) : Bool :=
  match t with
  | .http (.deleteAccount ..) => false
  | .message c (.registerDevice _) => (s.socket c).myDeviceId.isNone
  | _ => true

theorem spares_of_plainly {B : Op → Draw → Bool} {t : Task} {s : Server}
    (h : t.sparesPlainly s = true) : Spares B t s := by
  cases t with
  | http req =>
    cases req with
    | deleteAccount => exact absurd h Bool.false_ne_true
    | _ => trivial
  | message c m =>
    cases m with
    | registerDevice name =>
      intro _ d hd
      exact absurd (hd.symm.trans (Option.isNone_iff_eq_none.mp h)) (Option.some_ne_none d)
    | _ => trivial
  | _ => trivial

section Schedule

open scoped Transparent

/-- Ann's session. -/
def annHeaders : HeaderMap :=
  ⟨some ("visuara_session=" ++ generateSessionToken (Draw.from 0).rng), none⟩

/-- The first device that is registered. -/
def laptop : DeviceId := generateDeviceId (Draw.from 4).rng

/-- Ann's connection registers a device, and Ann deletes it. -/
def removeLaptop : List (Task × List Draw) :=
  [(.http (.register "ann@example.com" "pw"), List.replicate 7 (Draw.from 0)),
   (.connect "c", [Draw.from 1]),
   (.message "c" (.login "ann@example.com" "pw"), List.replicate 5 (Draw.from 2)),
   (.message "c" (.registerDevice "laptop"), List.replicate 9 (Draw.from 4)),
   (.http (.deleteOwn annHeaders laptop), List.replicate 9 (Draw.from 5))]

/-- Every turn spares what it should, and the device has no row at the end. -/
theorem removeLaptop_shows : (server.serveAll removeLaptop ([], Server.blank true)).any (fun r =>
    (r.1.all fun turn => turn.task.sparesPlainly turn.before)
      && decide (¬ r.2.db.HasDevice laptop)) = true := by
  decide +kernel

theorem removeLaptop_served :
    (server.serveAll removeLaptop ([], Server.blank true)).isSome = true :=
  Option.isSome_of_any removeLaptop_shows

theorem removed_devices_stay_laptop :
    (∀ d, (Option.get _ removeLaptop_served).2.Lists d →
        (Option.get _ removeLaptop_served).2.db.HasDevice d)
      ∧ ¬ (Option.get _ removeLaptop_served).2.db.HasDevice laptop := by
  have hshows := get_of_any removeLaptop_shows removeLaptop_served
  simp only [Bool.and_eq_true, decide_eq_true_eq] at hshows
  obtain ⟨hplain, hgone⟩ := hshows
  have h : server.Serial dbWorks (Server.blank true) (Option.get _ removeLaptop_served).1
      (Option.get _ removeLaptop_served).2 :=
    served_serial (by decide +kernel) removeLaptop_served
  have hspares : ∀ turn ∈ (Option.get _ removeLaptop_served).1,
      Spares dbWorks turn.task turn.before := fun turn hturn =>
    spares_of_plainly (List.all_eq_true.mp hplain turn hturn)
  exact ⟨(removed_devices_stay h hspares).1, hgone⟩

/-- The connection, which remembers the device, registers it again. -/
def registerAgain : List (Task × List Draw) :=
  removeLaptop ++ [(.message "c" (.registerDevice "laptop"), List.replicate 9 (Draw.from 6))]

/-- Bob's connection registers a device, and Ann deletes Bob's account. -/
def deleteBob : List (Task × List Draw) :=
  openAndRegister ++ [(.message "c" (.registerDevice "laptop"), List.replicate 9 (Draw.from 4)),
    (.http (.deleteAccount annHeaders 2), List.replicate 4 (Draw.from 5))]

theorem registerAgain_shows : (server.serveAll registerAgain ([], Server.blank true)).any (fun r =>
    decide (r.1.head?.map System.Turn.task = some (.message "c" (.registerDevice "laptop"))
      ∧ r.2.Lists laptop ∧ ¬ r.2.db.HasDevice laptop)) = true := by
  decide +kernel

theorem deleteBob_shows : (server.serveAll deleteBob ([], Server.blank true)).any (fun r =>
    decide (r.1.head?.map System.Turn.task = some (.http (.deleteAccount annHeaders 2))
      ∧ r.2.Lists laptop ∧ ¬ r.2.db.HasDevice laptop)) = true := by
  decide +kernel

/-- After either run the device is online and has a one-time password, but no row. -/
theorem removed_device_listed :
    (∃ l s, server.Serial dbWorks (Server.blank true) l s
      ∧ (l.head?.map System.Turn.task) = some (.message "c" (.registerDevice "laptop"))
      ∧ s.Lists laptop ∧ ¬ s.db.HasDevice laptop)
    ∧ ∃ l s, server.Serial dbWorks (Server.blank true) l s
      ∧ (l.head?.map System.Turn.task) = some (.http (.deleteAccount annHeaders 2))
      ∧ s.Lists laptop ∧ ¬ s.db.HasDevice laptop := by
  constructor
  · have hserved := Option.isSome_of_any registerAgain_shows
    have hshows := get_of_any registerAgain_shows hserved
    simp only [decide_eq_true_eq] at hshows
    exact ⟨_, _, served_serial (by decide +kernel) hserved, hshows⟩
  · have hserved := Option.isSome_of_any deleteBob_shows
    have hshows := get_of_any deleteBob_shows hserved
    simp only [decide_eq_true_eq] at hshows
    exact ⟨_, _, served_serial (by decide +kernel) hserved, hshows⟩

end Schedule

end Visuara.Signaling
