/-
  Visuara.Signaling.Relay
  ───────────────────────
  **RELAYED MESSAGES STAY WITHIN THEIR SESSION.**

  Nothing in the shared maps says why an entry is there, so the argument is
  about the log: every session, password and presence entry, and every stored
  hash, has the event that put it there (`Stored`, `SetByOwner`,
  `Online.inserted`), and the table `May` says what that event's task had seen
  before.  Both are put together at the moment of a relay.
-/
import Visuara.Signaling.Presence

namespace Visuara.Signaling

open Interleave

section

variable [Crates] {A : Assumption Op Op.Res Draw Task Env} {db : Db} {config : Config}
  {files : Files} {w : ServerWorld}

/-! ## §1. Where the entries come from. -/

/-- The event takes the one-time password of `d` away or replaces it. -/
def ServerEvent.replacesOtp (d : DeviceId) : ServerEvent → Prop
  | .call _ _ ⟨.otpInsert d' _, _⟩ | .call _ _ ⟨.otpRemove d', _⟩ => d' = d
  | .env .restart => True
  | _ => False

/-- A `RegisterDevice` for `d` stored `v`, and nothing has replaced it. -/
def Stored (d : DeviceId) (v : String) (l : List ServerEvent) : Prop :=
  ∃ l₁ l₂ j c name, l = l₁ ++ .call j (.message c (.registerDevice name)) ⟨.otpInsert d v, ()⟩ :: l₂
    ∧ ∀ e ∈ l₁, ¬ ServerEvent.replacesOtp d e

omit [Crates] in
theorem Stored.cons {d : DeviceId} {v : String} {l : List ServerEvent} (h : Stored d v l)
    {e : ServerEvent} (he : ¬ e.replacesOtp d) : Stored d v (e :: l) := by
  obtain ⟨l₁, l₂, j, c, name, rfl, hno⟩ := h
  refine ⟨e :: l₁, l₂, j, c, name, rfl, fun e' he' => ?_⟩
  rcases List.mem_cons.mp he' with rfl | he'
  · exact he
  · exact hno e' he'

theorem stored_otp (h : Run A (Server.start db config files) w) :
    ∀ d v, w.st.otp d = some v → Stored d v w.log := by
  refine System.Reachable.rule Task.follows
    (fun v => ∀ d x, v.st.otp d = some x → Stored d x v.log) ?_ ?_ ?_ ?_ h
  · exact fun d x hd => absurd hd (Option.some_ne_none x).symm
  · intro w t _ hI _ d x hd
    exact (hI d x (begin_otp t w.st ▸ hd)).cons id
  · intro w j t o k draw hr hI hj hmay _ d x hd
    replace hd : (o.exec draw w.st).2.otp d = some x := hd
    rcases Op.exec_otp_some o draw w.st hd with rfl | hold
    · obtain ⟨c, name, rfl, -⟩ := hmay
      exact ⟨[], w.log, j, c, name, rfl, by simp⟩
    · cases o with
      | otpInsert d' x' =>
        by_cases hdd : d' = d
        · subst hdd
          obtain ⟨c, name, rfl, -⟩ := hmay
          rw [Op.exec_otp] at hd
          simp only [Function.update_self, Option.some.injEq] at hd
          subst hd
          exact ⟨[], w.log, j, c, name, rfl, by simp⟩
        · exact (hI d x hold).cons hdd
      | otpRemove d' =>
        refine (hI d x hold).cons fun hdd => ?_
        obtain rfl : d' = d := hdd
        rw [Op.exec_otp] at hd
        simp at hd
      | _ => exact (hI d x hold).cons id
  · intro w e _ hI d x hd
    cases e with
    | sendTaskStops c => exact (hI d x hd).cons id
    | restart => exact absurd hd (Option.some_ne_none x).symm

/-- Every session was put there by the `RequestConnection` that created it. -/
theorem created_session (h : Run A (Server.start db config files) w) :
    ∀ s p, w.st.sessions s = some p → ∃ j d credential,
      Event.call j (.message p.a (.requestConnection d credential)) ⟨.sessionsInsert s p, ()⟩
        ∈ w.log := by
  refine System.Reachable.rule Task.follows
    (fun v => ∀ s p, v.st.sessions s = some p → ∃ j d credential,
      Event.call j (.message p.a (.requestConnection d credential)) ⟨.sessionsInsert s p, ()⟩
        ∈ v.log) ?_ ?_ ?_ ?_ h
  · exact fun s p hs => absurd hs (Option.some_ne_none p).symm
  · intro w t _ hI _ s p hs
    have hsame : (t.begin w.st).sessions = w.st.sessions := by cases t <;> rfl
    obtain ⟨j, d, credential, hm⟩ := hI s p (hsame ▸ hs)
    exact ⟨j, d, credential, List.mem_cons_of_mem _ hm⟩
  · intro w j t o k draw _ hI hj hmay _ s p hs
    rcases Op.exec_sessions_some o draw w.st hs with rfl | hs
    · obtain ⟨d, credential, rfl, -⟩ := hmay
      exact ⟨j, d, credential, List.mem_cons_self⟩
    · obtain ⟨j, d, credential, hm⟩ := hI s p hs
      exact ⟨j, d, credential, List.mem_cons_of_mem _ hm⟩
  · intro w e _ hI s p hs
    cases e with
    | sendTaskStops c =>
      obtain ⟨j, d, credential, hm⟩ := hI s p hs
      exact ⟨j, d, credential, List.mem_cons_of_mem _ hm⟩
    | restart => exact absurd hs (Option.some_ne_none p).symm

/-- A connection is entered with its own channel. -/
theorem connections_own (h : Run A (Server.start db config files) w) :
    ∀ c tx, w.st.connections c = some tx → tx = c := by
  refine System.Reachable.rule Task.follows
    (fun v => ∀ c tx, v.st.connections c = some tx → tx = c) ?_ ?_ ?_ ?_ h
  · exact fun c tx hc => absurd hc (Option.some_ne_none tx).symm
  · intro w t _ hI _ c tx hc
    have hsame : (t.begin w.st).connections = w.st.connections := by cases t <;> rfl
    exact hI c tx (hsame ▸ hc)
  · intro w j t o k draw _ hI hj hmay _ c tx hc
    rcases Op.exec_connections_some o draw w.st hc with rfl | hc
    · exact hmay.2
    · exact hI c tx hc
  · intro w e _ hI c tx hc
    cases e with
    | sendTaskStops c' => exact hI c tx hc
    | restart => exact absurd hc (Option.some_ne_none tx).symm

/-! ## §2. Whose the stored hashes are. -/

/-- The row of a device is created at most once, with fresh ids: its owner
never changes. -/
theorem createDevice_once {s₀ : Server} (h : Run freshIds s₀ w) {d : DeviceId} {j j' : Nat}
    {t t' : Task} {a a' : Int} {n n' : String} {r r' : Except String Unit}
    (he : Event.call j t ⟨.db (.createDevice d a n), r⟩ ∈ w.log)
    (he' : Event.call j' t' ⟨.db (.createDevice d a' n'), r'⟩ ∈ w.log) : a = a' := by
  have heq := h.once Task.follows (fun o => ∃ a n, o = .db (.createDevice d a n))
    ⟨.generateDeviceId, d⟩ ?_ (fun _ _ _ _ hg hg' => (deviceId_unique h hg hg').1) he he'
    ⟨a, n, rfl⟩ ⟨a', n', rfl⟩
  · injection heq with _ _ heq
    injection heq with heq
    injection heq with heq
    injection heq
  · rintro u l _ hmay ⟨b, m, rfl⟩
    obtain ⟨c, -, -, hgen, hfirst⟩ := hmay
    refine ⟨hgen, ?_⟩
    rintro ⟨_, r⟩ hx ⟨b', m', rfl⟩
    exact hfirst b' m' r hx

/-- Who creates a session has drawn its id, and has not created it before. -/
theorem createSession_drawn {t : Task} {h : Calls} {o : Op} {s : SessionId} (hmay : May t h o)
    (ho : ∃ p, o = .sessionsInsert s p) :
    ⟨.newV4, s⟩ ∈ h ∧ ∀ c ∈ h, ¬ ∃ p, c.op = .sessionsInsert s p := by
  obtain ⟨p, rfl⟩ := ho
  obtain ⟨d, credential, -, -, hgen, hfirst⟩ := hmay
  refine ⟨hgen, ?_⟩
  rintro ⟨_, r⟩ hx ⟨p', rfl⟩
  exact hfirst s p' r hx

/-- A session is created at most once, with fresh ids. -/
theorem createSession_once {s₀ : Server} (h : Run freshIds s₀ w) {s : SessionId} {j j' : Nat}
    {t t' : Task} {p p' : SessionPeers} (he : Event.call j t ⟨.sessionsInsert s p, ()⟩ ∈ w.log)
    (he' : Event.call j' t' ⟨.sessionsInsert s p', ()⟩ ∈ w.log) : p = p' := by
  have heq := h.once Task.follows (fun o => ∃ p, o = .sessionsInsert s p)
    ⟨.newV4, s⟩ (fun _ _ _ => createSession_drawn)
    (fun _ _ _ _ hg hg' => (uuid_unique h hg hg').1) he he' ⟨p, rfl⟩ ⟨p', rfl⟩
  injection heq with _ _ heq
  injection heq with heq
  injection heq

/-- The hash of the row `device` was stored by a `SetUnattendedPassword` of a
connection authenticated as the account that owns the row. -/
def SetByOwner (device : Device) (hash : String) (l : List ServerEvent) : Prop :=
  ∃ j c pw, Event.call j (.message c (.setUnattendedPassword device.id pw))
      ⟨.db (.setUnattendedPasswordHash device.id hash), .ok ()⟩ ∈ l
    ∧ Event.call j (.message c (.setUnattendedPassword device.id pw))
      ⟨.connState c, .authenticated device.accountId⟩ ∈ l
    ∧ Event.call j (.message c (.setUnattendedPassword device.id pw))
      ⟨.hashPassword pw, .ok hash⟩ ∈ l

/-- Some `RegisterDevice` has created the row of `d` for the account `id`. -/
def Created (d : DeviceId) (id : Int) (l : List ServerEvent) : Prop :=
  ∃ j t n r, Event.call j t ⟨.db (.createDevice d id n), r⟩ ∈ l

/-- What the rows of `devices`, and the rows that were looked up, have behind them. -/
structure Rows (v : ServerView) : Prop where
  created : ∀ device ∈ v.st.db.devices, Created device.id device.accountId v.log
  hash : ∀ device ∈ v.st.db.devices, ∀ hash, device.unattendedPasswordHash = some hash →
    SetByOwner device hash v.log
  found : ∀ j t d device, Event.call j t ⟨.db (.findDevice d), .ok (some device)⟩ ∈ v.log →
    device.id = d ∧ Created device.id device.accountId v.log

omit [Crates] in
theorem Created.cons {d : DeviceId} {id : Int} {l : List ServerEvent} (h : Created d id l)
    (e : ServerEvent) : Created d id (e :: l) := by
  obtain ⟨j, t, n, r, hm⟩ := h
  exact ⟨j, t, n, r, List.mem_cons_of_mem _ hm⟩

omit [Crates] in
theorem SetByOwner.cons {device : Device} {hash : String} {l : List ServerEvent}
    (h : SetByOwner device hash l) (e : ServerEvent) : SetByOwner device hash (e :: l) := by
  obtain ⟨j, c, pw, h1, h2, h3⟩ := h
  exact ⟨j, c, pw, List.mem_cons_of_mem _ h1, List.mem_cons_of_mem _ h2, List.mem_cons_of_mem _ h3⟩

omit [Crates] in
/-- Nothing happens to the rows, and no row is looked up. -/
theorem Rows.cons {v v' : ServerView} (h : Rows v) {e : ServerEvent} (hlog : v'.log = e :: v.log)
    (hrows : v'.st.db.devices = v.st.db.devices)
    (he : ∀ j t d device, e ≠ .call j t ⟨.db (.findDevice d), .ok (some device)⟩) : Rows v' := by
  refine ⟨fun device hm => ?_, fun device hm hash hh => ?_, fun j t d device hm => ?_⟩
  · rw [hlog]
    exact (h.created device (hrows ▸ hm)).cons e
  · rw [hlog]
    exact (h.hash device (hrows ▸ hm) hash hh).cons e
  · rw [hlog] at hm ⊢
    rcases List.mem_cons.mp hm with heq | hm
    · exact absurd heq.symm (he j t d device)
    · obtain ⟨hid, hc⟩ := h.found j t d device hm
      exact ⟨hid, hc.cons e⟩

/-- A row that a lookup returns is there. -/
theorem findDevice_result {d : DeviceId} {draw : Draw} {s : Server} {device : Device}
    (h : ((Op.db (.findDevice d)).exec draw s).1 = .ok (some device)) :
    device ∈ s.db.devices ∧ device.id = d := by
  simp only [Op.exec] at h
  split at h
  · exact absurd h (by simp)
  · exact Relational.Table.lookup_eq_some_iff.mp (Except.ok.inj h)

theorem rows {foreignKeys : Bool}
    (h : Run freshIds (Server.start (Db.fresh foreignKeys) config files) w) : Rows w.toView := by
  refine System.Reachable.rule Task.follows Rows ?_ ?_ ?_ ?_ h
  · exact ⟨fun device hm => absurd hm (Relational.Table.not_mem_empty device),
      fun device hm => absurd hm (Relational.Table.not_mem_empty device),
      fun j t d device hm => absurd hm List.not_mem_nil⟩
  · intro w t _ hI _
    have hsame : (t.begin w.st).db = w.st.db := by cases t <;> rfl
    exact hI.cons rfl (congrArg Db.devices hsame) (by simp)
  · intro w j t o k draw hr hI hj hmay hA
    refine ⟨fun device hm => ?_, fun device hm hash hh => ?_, fun i u d device hm => ?_⟩
    · rcases Op.mem_exec_devices o draw w.st hm with hold | ⟨x, id, name, rfl, rfl⟩
        | ⟨old, hash, rfl, hold, rfl, -⟩
      · exact (hI.created device hold).cons _
      · exact ⟨j, t, name, _, List.mem_cons_self⟩
      · exact (hI.created old hold).cons _
    · rcases Op.mem_exec_devices o draw w.st hm with hold | ⟨x, id, name, rfl, rfl⟩
        | ⟨old, hash', rfl, hold, rfl, hfault⟩
      · exact (hI.hash device hold hash hh).cons _
      · exact absurd hh (by simp)
      · obtain rfl : hash' = hash := Option.some.inj hh
        obtain ⟨c, pw, found, rfl, hauth, hfind, hhash⟩ := hmay
        -- the row the task found has the owner of the row it writes
        obtain ⟨hid, i, u, n, r, hc⟩ := hI.found _ _ _ _ (hr.event_of_hist hj hfind)
        obtain ⟨i', u', n', r', hc'⟩ := hI.created old hold
        rw [hid] at hc
        have howner : found.accountId = old.accountId := createDevice_once hr hc hc'
        refine ⟨j, c, pw, ?_, ?_, ?_⟩
        · have hres : ((Op.db (.setUnattendedPasswordHash old.id hash')).exec draw w.st).1
              = .ok () := by simp [Op.exec, hfault, Query.exec]
          exact List.mem_cons.mpr (.inl (by rw [← hres]; rfl))
        · rw [howner] at hauth
          exact List.mem_cons_of_mem _ (hr.event_of_hist hj hauth)
        · exact List.mem_cons_of_mem _ (hr.event_of_hist hj hhash)
    · rcases List.mem_cons.mp hm with heq | hm
      · injection heq with _ _ heq
        obtain ⟨rfl, hres⟩ := Call.mk.inj heq
        obtain ⟨hin, hid⟩ := findDevice_result (eq_of_heq hres).symm
        exact ⟨hid, (hI.created device hin).cons _⟩
      · obtain ⟨hid, hc⟩ := hI.found i u d device hm
        exact ⟨hid, hc.cons _⟩
  · intro w e _ hI
    cases e with
    | sendTaskStops c => exact hI.cons rfl rfl (by simp)
    | restart => exact hI.cons rfl rfl (by simp)

/-! ## §3. What a session stands on. -/

/-- The event `e` lies in the past of `w`, and `P` held when it happened. -/
abbrev Past (s₀ : Server) (w : ServerWorld) (e : ServerEvent) (P : ServerWorld → Prop) : Prop :=
  server.Happened freshIds s₀ w e P

/-- The credential job `j` of task `t` was presented with opens `device`: it was
the stored one-time password at the check, or the row's hash verifies it. -/
def Presented (s₀ : Server) (w : ServerWorld) (j : Nat) (t : Task) (d : DeviceId)
    (device : Device) : ConnectCredential → Prop
  | .oneTimePassword otp => Past s₀ w (.call j t ⟨.otpGet d, some otp⟩) fun w₁ =>
      w₁.st.otp d = some otp ∧ Stored d otp w₁.log
  | .unattendedPassword pw =>
      ∃ hash, device.unattendedPasswordHash = some hash ∧ verifyPassword pw hash = true

/-- What the job `j` of `a` has seen before it creates a session with `b`. -/
structure RequestChecked (s₀ : Server) (w : ServerWorld) (j : Nat) (a b : ConnectionId)
    (d : DeviceId) (credential : ConnectCredential) : Prop where
  authenticated : ∃ account, Past s₀ w (.call j (.message a (.requestConnection d credential))
      ⟨.connState a, .authenticated account⟩)
    fun w₁ => (w₁.st.socket a).connState = .authenticated account
  opened : ∃ device, Past s₀ w (.call j (.message a (.requestConnection d credential))
      ⟨.db (.findDevice d), .ok (some device)⟩)
      (fun w₁ => device ∈ w₁.st.db.devices ∧ device.id = d ∧ ∀ hash,
        device.unattendedPasswordHash = some hash → SetByOwner device hash w₁.log)
    ∧ Presented s₀ w j (.message a (.requestConnection d credential)) d device credential
  host : Past s₀ w (.call j (.message a (.requestConnection d credential))
      ⟨.deviceOnlineGet d, some b⟩)
    fun w₁ => w₁.st.deviceOnline d = some b ∧ InsertedItself d b s₀ w₁

/-- A call of the log returned what the state of its moment made it return. -/
theorem past_call {s₀ : Server} (h : Run freshIds s₀ w) {j : Nat} {t : Task}
    {c : Call Op Op.Res} (he : Event.call j t c ∈ w.log) {P : ServerWorld → Prop}
    (hP : ∀ w₁, Run freshIds s₀ w₁ → ∀ draw, c.res = (c.op.exec draw w₁.st).1 → P w₁) :
    Past s₀ w (.call j t c) P := by
  refine h.happened he fun w₁ w₂ h₁ hs hlog => ?_
  obtain ⟨draw, -, -, -, hres, -⟩ := hs.of_call hlog
  exact hP w₁ h₁ draw hres

theorem request_checked {foreignKeys : Bool}
    (h : Run freshIds (Server.start (Db.fresh foreignKeys) config files) w) {j : Nat}
    {a b : ConnectionId} {d : DeviceId} {credential : ConnectCredential}
    (hreq : ∀ c ∈ hist j w.log,
      Event.call j (.message a (.requestConnection d credential)) c ∈ w.log)
    (hr : Requested (hist j w.log) a b d credential) :
    RequestChecked (Server.start (Db.fresh foreignKeys) config files) w j a b d credential := by
  obtain ⟨account, hauth⟩ := hr.authenticated
  obtain ⟨device, hfind, hchecked⟩ := hr.checked
  refine ⟨⟨account, past_call h (hreq _ hauth) fun w₁ _ _ hres => hres.symm⟩, ⟨device, ?_, ?_⟩, ?_⟩
  · refine past_call h (hreq _ hfind) fun w₁ h₁ draw hres => ?_
    obtain ⟨hin, hid⟩ := findDevice_result hres.symm
    exact ⟨hin, hid, (rows h₁).hash device hin⟩
  · cases credential with
    | oneTimePassword otp =>
      refine past_call h (hreq _ hchecked) fun w₁ h₁ draw hres => ?_
      have hotp : w₁.st.otp d = some otp := hres.symm
      exact ⟨hotp, stored_otp h₁ d otp hotp⟩
    | unattendedPassword pw => exact hchecked
  · refine past_call h (hreq _ hr.online) fun w₁ h₁ draw hres => ?_
    have hon : w₁.st.deviceOnline d = some b := hres.symm
    exact ⟨hon, insertedItself h₁ hon⟩

omit [Crates] in
theorem SessionPeers.other_eq_some {p : SessionPeers} {x y : ConnectionId}
    (h : p.other x = some y) : (x = p.a ∧ y = p.b) ∨ (x = p.b ∧ y = p.a) := by
  unfold SessionPeers.other at h
  split at h
  next hx => exact .inl ⟨hx.symm, (Option.some.inj h).symm⟩
  next =>
    split at h
    next hx => exact .inr ⟨hx.symm, (Option.some.inj h).symm⟩
    next => exact absurd h (by simp)

/-- **Relay confinement.**  From an empty database, in every interleaving, with
fresh ids: when an SDP or ICE message of session `s` is put on the queue of `y`,
then a turn of some `x` passes its own message on, and `x` and `y` are the two
sides `a` and `b` of a session that an earlier `RequestConnection` of `a`
created after it was authenticated, had found the device's row, had presented
a credential that opens it, and had found `b` online as that device.  No other
session ever goes by the name `s`. -/
theorem relay_confinement {foreignKeys : Bool} {w' : ServerWorld}
    (h : Run freshIds (Server.start (Db.fresh foreignKeys) config files) w)
    (hs : server.Step freshIds w w') {j : Nat} {t : Task} {y : ConnectionId}
    {msg : ServerMessage} {r : Except String Unit} {s : SessionId}
    (hlog : w'.log = .call j t ⟨.send y msg, r⟩ :: w.log) (hmsg : msg.relayedUnder = some s) :
    ∃ x m, t = .message x m ∧ m.relayed = some (s, msg) ∧ ∃ a b d credential i,
      ((x = a ∧ y = b) ∨ (x = b ∧ y = a))
        ∧ Past (Server.start (Db.fresh foreignKeys) config files) w
          (.call i (.message a (.requestConnection d credential)) ⟨.sessionsInsert s ⟨a, b⟩, ()⟩)
          (fun w₁ => RequestChecked (Server.start (Db.fresh foreignKeys) config files) w₁
            i a b d credential)
        ∧ ∀ i' t' p, Event.call i' t' ⟨.sessionsInsert s p, ()⟩ ∈ w.log → p = ⟨a, b⟩ := by
  obtain ⟨draw, k, hj, -⟩ := hs.of_call hlog
  have hmay : May t (hist j w.log) (.send y msg) := h.next_licensed Task.follows hj
  have hrelay : ∃ x m peers other, t = .message x m ∧ m.relayed = some (s, msg)
      ∧ Did (hist j w.log) (.sessionsGet s) (some peers) ∧ peers.other x = some other
      ∧ Did (hist j w.log) (.connectionsGet other) (some y) := by
    cases msg with
    | connectionEstablished => exact absurd hmsg (by simp [ServerMessage.relayedUnder])
    | _ => exact hmay s hmsg
  obtain ⟨x, m, peers, other, rfl, hm, hget, hother, htx⟩ := hrelay
  -- the queue is the other side's own
  have hqueue : Past _ w _ fun w₁ => w₁.st.connections other = some y :=
    past_call h (h.event_of_hist hj htx) fun w₁ _ _ hres => hres.symm
  obtain ⟨w₁, -, h₁, -, -, -, hy⟩ := hqueue
  obtain rfl := connections_own h₁ other y hy
  -- the session is there because a request created it
  have hsession : Past _ w _ fun w₂ => w₂.st.sessions s = some peers :=
    past_call h (h.event_of_hist hj hget) fun w₂ _ _ hres => hres.symm
  obtain ⟨w₂, w₃, h₂, hs₂, hle, -, hsess⟩ := hsession
  obtain ⟨i, d, credential, hcreated⟩ := created_session h₂ s peers hsess
  obtain ⟨l, hl⟩ := System.Reachable.log_suffix (hle.head hs₂)
  refine ⟨x, m, rfl, hm, peers.a, peers.b, d, credential, i,
    SessionPeers.other_eq_some hother, ?_, fun i' t' p hp =>
      createSession_once h hp (hl ▸ List.mem_append_right l hcreated)⟩
  refine h.happened (hl ▸ List.mem_append_right l hcreated) fun w₄ w₅ h₄ hs₄ hlog₄ => ?_
  obtain ⟨_, _, hi, -⟩ := hs₄.of_call hlog₄
  obtain ⟨d', credential', heq, hreq, -, -⟩ := h₄.next_licensed Task.follows hi
  injection heq with _ heq
  injection heq with hd hc
  subst hd hc
  exact request_checked h₄ (fun c hc => h₄.event_of_hist hi hc) hreq

end

section Schedule

open scoped Transparent

/-- A controller logs in, asks for the host's device with its one-time
password, and is about to pass an offer on. -/
def offerPending : List ServerMove :=
  hostOnline
    ++ .start (.connect "ctl") :: steps 3 1
    ++ .start (.message "ctl" (.login "host@example.com" "pw")) :: steps 4 4
    ++ .start (.message "ctl" (.requestConnection "002 003 004" (.oneTimePassword "0002 0003")))
      :: steps 5 9
    ++ .start (.message "ctl" (.sdpOffer (newV4 (Draw.from 5).rng) "v=0")) :: steps 6 2

theorem offerPending_plays :
    (server.playAll freshIds offerPending (World.initial (Server.blank true))).isSome = true := by
  decide +kernel

theorem relay_confinement_offer : ∃ w a b d credential i,
    (("ctl" = a ∧ "host" = b) ∨ ("ctl" = b ∧ "host" = a))
      ∧ Past (Server.blank true) w (.call i (.message a (.requestConnection d credential))
          ⟨.sessionsInsert (newV4 (Draw.from 5).rng) ⟨a, b⟩, ()⟩)
        fun w₁ => RequestChecked (Server.blank true) w₁ i a b d credential := by
  have h : Run freshIds (Server.blank true) (Option.get _ offerPending_plays) :=
    System.playAll_reachable .refl (Option.some_get offerPending_plays).symm
  have hnext : System.next? (Option.get _ offerPending_plays) 6
      = some (.message "ctl" (.sdpOffer (newV4 (Draw.from 5).rng) "v=0"),
        .send "host" (.sdpOffer (newV4 (Draw.from 5).rng) "v=0")) := by
    decide +kernel
  obtain ⟨w', hs, hlog⟩ := System.step_of_next? server freshIds hnext (Draw.from 6) rfl
  obtain ⟨x, m, ht, -, a, b, d, credential, i, hxy, hpast, -⟩ := relay_confinement h hs hlog rfl
  injection ht with hx _
  subst hx
  exact ⟨_, a, b, d, credential, i, hxy, hpast⟩

end Schedule

end Visuara.Signaling
