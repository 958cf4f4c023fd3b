/-
  Visuara.Signaling.Unattended
  ────────────────────────────
  **UNATTENDED ACCESS ACROSS A RECONNECT.**

  The fixed password is stored in the row of the device, but the id of the
  device is remembered by the connection only.  A host that comes back
  registers a second device, and nobody is ever online again as the first:

    • `registered_holds` — `DeviceRegistered{d}` is sent to the holder of `d`;
    • `Reconnected`      — the two lives of a host, seen in the log;
    • `unattended_access_lost` — no later request for the first id is accepted.
-/
import Visuara.Signaling.Footprint
import Visuara.Signaling.Otp

namespace Visuara.Signaling

open Interleave

section

variable [Crates]

/-! ## §1. Whom a registration is reported to. -/

/-- What task `t` has done before it reports a registration. -/
def Reports (t : Task) (h : Calls) : Op → Prop
  | .send tx (.deviceRegistered d _) => ∃ name, t = .message tx (.registerDevice name)
      ∧ knownDeviceId tx h = some (some d)
  | _ => True

/-- The task that answers a registration. -/
def Task.registersDevice : Task → Bool
  | .message _ (.registerDevice _) => true
  | _ => false

omit [Crates] in
theorem reports_of_does {t : Task} (ht : t.registersDevice = false) {h : Calls} {o : Op}
    (ho : t.does o = true) : Reports t h o := by
  cases o with
  | send tx msg =>
    cases msg with
    | deviceRegistered d otp =>
      obtain ⟨name, rfl⟩ := registers_of_reports ho
      exact absurd ht (by simp [Task.registersDevice])
    | _ => trivial
  | _ => trivial

theorem reports_registerDevice (c : ConnectionId) (name : String) :
    Prog.Follows (Reports (.message c (.registerDevice name))) (fun _ _ => True)
      (handleMessage c (.registerDevice name)).run [] := by
  simp only [handleMessage, requireAuth_bind, Prog.follows_call]
  refine ⟨trivial, fun st => ?_⟩
  cases st with
  | unauthenticated => trivial
  | authenticated account =>
    refine ⟨trivial, fun mine => ?_⟩
    cases mine with
    | some d =>
      exact ⟨trivial, fun _ => ⟨trivial, fun _ => ⟨trivial, fun _ =>
        ⟨⟨name, rfl, by simp [knownDeviceId]⟩, fun _ => trivial⟩⟩⟩⟩
    | none =>
      refine ⟨trivial, fun d => ⟨trivial, fun created => ?_⟩⟩
      cases created with
      | error e => trivial
      | ok _ =>
        exact ⟨trivial, fun _ => ⟨trivial, fun _ => ⟨trivial, fun _ => ⟨trivial, fun _ =>
          ⟨⟨name, rfl, by simp [knownDeviceId]⟩, fun _ => trivial⟩⟩⟩⟩⟩

theorem Task.reports (t : Task) :
    Prog.Follows (Reports t) (fun _ _ => True) (server.body t) [] := by
  cases ht : t.registersDevice with
  | false => exact t.only_does.mono (fun _ _ ho => reports_of_does ht ho) fun _ _ h => h
  | true =>
    cases t with
    | message c m =>
      cases m with
      | registerDevice name =>
        show Prog.Follows _ _ (onMessage c (.registerDevice name) >>= _) _
        rw [Prog.follows_bind, onMessage_eq, Prog.follows_bind]
        refine (reports_registerDevice c name).mono (fun _ _ h => h) fun h r _ => ?_
        cases r with
        | ok _ => trivial
        | error e => exact ⟨trivial, fun _ => trivial⟩
      | _ => exact absurd ht (by simp [Task.registersDevice])
    | _ => exact absurd ht (by simp [Task.registersDevice])

variable {db : Db} {config : Config} {files : Files} {w : ServerWorld}

/-- Whoever was told that it is registered as `d` holds `d` from then on. -/
theorem registered_holds (h : Run freshIds (Server.start db config files) w) {j : Nat} {t : Task}
    {c : ConnectionId} {d : DeviceId} {otp : String} {r : Except String Unit}
    (he : Event.call j t ⟨.send c (.deviceRegistered d otp), r⟩ ∈ w.log) :
    (w.st.socket c).myDeviceId = some d := by
  obtain ⟨w₁, w₂, h₁, hs, h₂, hlog⟩ := h.moment he
  obtain ⟨draw, k, hj, -⟩ := hs.of_call hlog
  obtain ⟨name, rfl, hknown⟩ := h₁.next_licensed Task.reports hj
  have hheld : (w₁.st.socket c).myDeviceId = some d := (knows h₁ hj rfl c rfl).2 _ hknown
  have hlater : ∀ {u}, server.Reachable freshIds w₂ u → (u.st.socket c).myDeviceId = some d := by
    intro u hu
    induction hu with
    | refl => exact myDeviceId_stays h₁ hs hheld
    | tail hr hs' ih => exact myDeviceId_stays ((h₁.tail hs).trans hr) hs' ih
  exact hlater h₂

/-! ## §2. The two lives of a host. -/

/-- A `RegisterDevice` of `c`, as `account` and under `name`, has been answered
with `DeviceRegistered{d}`. -/
def RegisteredAs (account : Int) (name : String) (c : ConnectionId) (d : DeviceId)
    (l : List ServerEvent) : Prop :=
  ∃ j otp, Event.call j (.message c (.registerDevice name)) ⟨.connState c, .authenticated account⟩ ∈ l
    ∧ Event.call j (.message c (.registerDevice name)) ⟨.send c (.deviceRegistered d otp), .ok ()⟩ ∈ l

/-- A `SetUnattendedPassword` of `account` has stored the hash of `pw` for `d`. -/
def PasswordStored (account : Int) (d : DeviceId) (pw : String) (l : List ServerEvent) : Prop :=
  ∃ j c hash, Event.call j (.message c (.setUnattendedPassword d pw))
      ⟨.connState c, .authenticated account⟩ ∈ l
    ∧ Event.call j (.message c (.setUnattendedPassword d pw)) ⟨.hashPassword pw, .ok hash⟩ ∈ l
    ∧ Event.call j (.message c (.setUnattendedPassword d pw))
      ⟨.db (.setUnattendedPasswordHash d hash), .ok ()⟩ ∈ l

/-- **A host has come back.**  In the run up to `w` it registered over `c₁` and
obtained `d`, its owner stored `pw`, its connection closed, and it registered
again over `c₂`; the row of `d` is still there. -/
structure Reconnected (account : Int) (name pw : String) (d : DeviceId) (c₁ c₂ : ConnectionId)
    (w : ServerWorld) : Prop where
  /-- `w₁` is the world at the end of the first life. -/
  lives : ∃ w₁, RegisteredAs account name c₁ d w₁.log ∧ PasswordStored account d pw w₁.log
    ∧ CleanedUp c₁ w₁ ∧ server.Reachable freshIds w₁ w
    ∧ ¬ (∃ d', RegisteredAs account name c₂ d' w₁.log) ∧ ∃ d', RegisteredAs account name c₂ d' w.log
  row : (w.st.db.devices.lookup d).isSome = true

/-! ## §3. The first id stays offline. -/

/-- **Unattended access does not survive a reconnect.**  Once a host has come
back, no request for its first device id is accepted any more, whatever
credential it presents. -/
theorem unattended_access_lost (h : Run freshIds (Server.start db config files) w) {account : Int}
    {name pw : String} {d : DeviceId} {c₁ c₂ : ConnectionId}
    (hback : Reconnected account name pw d c₁ c₂ w) {w' : ServerWorld}
    (hw' : server.Reachable freshIds w w') {j : Nat} (hj : w.next ≤ j) (t : Task) (a : ConnectionId)
    (s : SessionId) (r : Except String Unit) :
    Event.call j t ⟨.send a (.connectionEstablished s d), r⟩ ∉ w'.log := by
  intro he
  obtain ⟨w₁, ⟨j₁, otp, -, hregistered⟩, -, hclean, h₁, -⟩ := hback.lives
  have hnew : ∀ x, Event.call j t x ∉ w.log := by
    intro x hx
    have hlt := h.numbered.start_lt j t (h.numbered.call_start j t x hx)
    omega
  -- the request found `d` online, at a moment `v₁` after the reconnect
  obtain ⟨u₁, u₂, hu₁, hs, -, hlog⟩ := hw'.moment_after he (hnew _)
  obtain ⟨draw, k, hjob, -⟩ := hs.of_call hlog
  have hrun : Run freshIds (Server.start db config files) u₁ := h.trans hu₁
  obtain ⟨credential, b, rfl, hrequested, -⟩ := hrun.next_licensed Task.follows hjob
  have hget := hrun.event_of_hist hjob hrequested.online
  obtain ⟨v₁, v₂, hv₁, hsv, -, hlogv⟩ := hu₁.moment_after hget (hnew _)
  obtain ⟨draw', k', hjob', -, hres, -⟩ := hsv.of_call hlogv
  have honline : v₁.st.deviceOnline d = some b := hres.symm
  have hrun' : Run freshIds (Server.start db config files) v₁ := h.trans hv₁
  -- whoever is online as `d` holds `d`, and that is the connection that has closed
  have hb : (v₁.st.socket b).myDeviceId = some d := (online hrun').owner d b honline
  have hc₁ : (v₁.st.socket c₁).myDeviceId = some d := by
    obtain ⟨l, hl⟩ := System.Reachable.log_suffix (h₁.trans hv₁)
    exact registered_holds hrun' (hl ▸ List.mem_append_right l hregistered)
  obtain rfl : b = c₁ := Ids.unique hrun' hb hc₁
  exact (hclean.stays (h₁.trans hv₁)).offline hrun' d honline

end

/-! ## §4. A host restarts. -/

section Schedule

open scoped Transparent

/-- The host stores a fixed password, and its connection closes. -/
def firstLife : List ServerMove :=
  hostOnline
    ++ .start (.message "host" (.setUnattendedPassword "002 003 004" "letmein")) :: steps 3 7
    ++ .start (.close "host") :: steps 4 5

/-- It registers again, under the same account and name. -/
def secondLife : List ServerMove :=
  .start (.connect "host2") :: steps 5 1
    ++ .start (.message "host2" (.login "host@example.com" "pw")) :: steps 6 4
    ++ .start (.message "host2" (.registerDevice "pc")) :: steps 7 9

/-- A controller logs in and presents the fixed password. -/
def unattendedRequest : List ServerMove :=
  .start (.connect "ctl") :: steps 8 1
    ++ .start (.message "ctl" (.login "host@example.com" "pw")) :: steps 9 4
    ++ .start (.message "ctl"
      (.requestConnection "002 003 004" (.unattendedPassword "letmein"))) :: steps 10 4

theorem firstLife_plays : (server.playAll freshIds firstLife
    (World.initial (Server.blank true))).isSome = true := by
  decide +kernel

theorem secondLife_plays : (server.playAll freshIds secondLife
    (Option.get _ firstLife_plays)).isSome = true := by
  decide +kernel

theorem unattendedRequest_plays : (server.playAll freshIds unattendedRequest
    (Option.get _ secondLife_plays)).isSome = true := by
  decide +kernel

/-- The cleanup of `c` is over, as a check of the jobs there are. -/
def cleanedUp (c : ConnectionId) (w : ServerWorld) : Bool :=
  (w.st.socket c).phase = .ended && (List.range w.next).all fun j =>
    match w.jobs j with
    | some (.close c', p) => c' ≠ c || p.done
    | _ => true

theorem cleanedUp_sound {A : Assumption Op Op.Res Draw Task Env} {s₀ : Server} {w : ServerWorld}
    (h : Run A s₀ w) {c : ConnectionId} (hc : cleanedUp c w = true) : CleanedUp c w := by
  simp only [cleanedUp, Bool.and_eq_true, decide_eq_true_eq, List.all_eq_true, List.mem_range] at hc
  refine ⟨hc.1, fun j p hj => ?_⟩
  have hjob := hc.2 j (h.numbered.job_lt j _ p hj)
  rw [hj] at hjob
  simpa using hjob

theorem firstLife_run : Run freshIds (Server.blank true) (Option.get _ firstLife_plays) :=
  System.playAll_reachable .refl (Option.some_get firstLife_plays).symm

theorem secondLife_from : server.Reachable freshIds (Option.get _ firstLife_plays)
    (Option.get _ secondLife_plays) :=
  System.playAll_from firstLife_run (Option.some_get secondLife_plays).symm

theorem unattendedRequest_from : server.Reachable freshIds (Option.get _ secondLife_plays)
    (Option.get _ unattendedRequest_plays) :=
  System.playAll_from (firstLife_run.trans secondLife_from)
    (Option.some_get unattendedRequest_plays).symm

/-- The event is a call for a message of `c`. -/
def heardOf (c : ConnectionId) : ServerEvent → Bool
  | .call _ (.message a _) _ => a = c
  | _ => false

/-- The event is one of task `j` accepting a request. -/
def establishes (j : Nat) : ServerEvent → Bool
  | .call i _ ⟨.send _ (.connectionEstablished ..), _⟩ => i = j
  | _ => false

/-- The host has come back, as a second device. -/
theorem host_reconnected :
    Reconnected 1 "pc" "letmein" "002 003 004" "host" "host2" (Option.get _ secondLife_plays) where
  lives := by
    have hclean : CleanedUp "host" (Option.get _ firstLife_plays) :=
      cleanedUp_sound firstLife_run (by decide +kernel)
    refine ⟨_, ⟨2, "0002 0003", by decide +kernel, by decide +kernel⟩,
      ⟨3, "host", "$argon2id$letmein", by decide +kernel, by decide +kernel, by decide +kernel⟩,
      hclean, secondLife_from, ?_, "007 008 009", 7, "0007 0008", by decide +kernel,
      by decide +kernel⟩
    rintro ⟨d', j, otp, he, -⟩
    -- `host2` has not been heard of yet
    have hnone : (Option.get _ firstLife_plays).log.any (heardOf "host2") = false := by
      decide +kernel
    rw [List.any_eq_false] at hnone
    exact hnone _ he rfl
  row := by decide +kernel

theorem unattended_access_lost_ctl : Event.call 10 (.message "ctl"
    (.requestConnection "002 003 004" (.unattendedPassword "letmein")))
      ⟨.send "ctl" (.connectionEstablished (newV4 (Draw.from 10).rng) "002 003 004"), .ok ()⟩
        ∉ (Option.get _ unattendedRequest_plays).log := by
  have hnext : (Option.get _ secondLife_plays).next ≤ 10 := by decide +kernel
  exact unattended_access_lost (firstLife_run.trans secondLife_from) host_reconnected
    unattendedRequest_from hnext _ _ _ _

theorem requested_by_owner : Event.call 10 (.message "ctl"
    (.requestConnection "002 003 004" (.unattendedPassword "letmein")))
      ⟨.connState "ctl", .authenticated 1⟩ ∈ (Option.get _ unattendedRequest_plays).log := by
  decide +kernel

/-- The request with the stored password is answered, but not accepted. -/
theorem unattended_access_refused : ¬ ∀ (account : Int) (name pw : String) (d : DeviceId)
    (c₁ c₂ : ConnectionId) (w w' : ServerWorld) (j : Nat) (a : ConnectionId)
    (p : Act (Option Response)), Run freshIds (Server.blank true) w →
    Reconnected account name pw d c₁ c₂ w → server.Reachable freshIds w w' → w.next ≤ j →
    w'.jobs j = some (.message a (.requestConnection d (.unattendedPassword pw)), p) →
    p.done = true →
    (∃ t owner, Event.call j t ⟨.connState a, .authenticated owner⟩ ∈ w'.log) →
    ∃ t s, Event.call j t ⟨.send a (.connectionEstablished s d), .ok ()⟩ ∈ w'.log := by
  intro h
  have hjob : ∃ p, (Option.get _ unattendedRequest_plays).jobs 10 = some (.message "ctl"
      (.requestConnection "002 003 004" (.unattendedPassword "letmein")), p) ∧ p.done = true := by
    have hdone : ((Option.get _ unattendedRequest_plays).jobs 10).any (fun x => x.1 = .message "ctl"
        (.requestConnection "002 003 004" (.unattendedPassword "letmein")) ∧ x.2.done = true)
        = true := by decide +kernel
    obtain ⟨⟨t, p⟩, hj, hp⟩ := (Option.any_eq_true _ _).mp hdone
    obtain ⟨rfl, hp⟩ := of_decide_eq_true hp
    exact ⟨p, hj, hp⟩
  obtain ⟨p, hj, hp⟩ := hjob
  have hnext : (Option.get _ secondLife_plays).next ≤ 10 := by decide +kernel
  obtain ⟨t, s, he⟩ := h 1 "pc" "letmein" "002 003 004" "host" "host2" _ _ 10 "ctl" p
    (firstLife_run.trans secondLife_from) host_reconnected unattendedRequest_from hnext hj hp
    ⟨_, 1, requested_by_owner⟩
  have hnone : (Option.get _ unattendedRequest_plays).log.any (establishes 10) = false := by
    decide +kernel
  rw [List.any_eq_false] at hnone
  exact hnone _ he rfl

end Schedule

end Visuara.Signaling
