/-
  Visuara.Signaling.Server
  ────────────────────────
  **THE RUNNING SERVER** (`visuara-signaling/src/main.rs`, `lib.rs`).

  The tasks of the server are the turns of every `handle_socket` and the HTTP
  requests.  The turns of one connection follow each other; everything else
  interleaves freely.  A restart ends all running tasks and all connections,
  and keeps the database and the files.

  `Uuid::new_v4` names a connection when it is made: an id that a connection
  has had is never given to another one.
-/
import Visuara.Interleave.Rules
import Visuara.Signaling.Api

namespace Visuara.Signaling

open Interleave

/-! ## §1. Tasks. -/

inductive Task where
  /-- `handle_socket` up to its message loop. -/
  | connect (c : ConnectionId)
  /-- A turn of the loop. -/
  | message (c : ConnectionId) (msg : ClientMessage)
  /-- A turn of the loop on a text that `serde_json` refuses, with its reason. -/
  | malformed (c : ConnectionId) (e : String)
  /-- `handle_socket` after its message loop. -/
  | close (c : ConnectionId)
  | http (req : Request)
  deriving DecidableEq, Repr

/-- The connection whose `handle_socket` a task is part of. -/
def Task.connection : Task → Option ConnectionId
  | .connect c | .message c _ | .malformed c _ | .close c => some c
  | .http _ => none

/-- What happens outside the handlers. -/
inductive Env where
  /-- A connection's send task ends, and the receiving half with it. -/
  | sendTaskStops (c : ConnectionId)
  /-- The process ends and is started again on its database and files. -/
  | restart
  deriving DecidableEq, Repr

/-- The program of a task; only HTTP requests have a response. -/
def Task.body [Crates] : Task → Act (Option Response)
  | .connect c => do
    openSocket c
    pure none
  | .message c msg => do
    onMessage c msg
    pure none
  | .malformed c e => do
    onMalformed c e
    pure none
  | .close c => do
    closeSocket c
    pure none
  | .http req => some <$> Api.route req

/-- When a task may start. -/
def Task.admitted (t : Task) (s : Server) : Bool :=
  match t with
  | .connect c => (s.socket c).phase = .fresh
  | .message c _ | .malformed c _ | .close c => (s.socket c).phase = .live
  | .http _ => true

/-- What starting it does: the local variables and the channel of a new
connection, and the end of the message loop. -/
def Task.begin (t : Task) (s : Server) : Server :=
  match t with
  | .connect c => (s.setSocket c ⟨.live, .unauthenticated, none⟩).setChannel c ⟨true, []⟩
  | .close c => s.setSocket c { s.socket c with phase := .ended }
  | _ => s

/-- The turns of one connection do not overlap. -/
def Task.overlaps (t t' : Task) : Bool :=
  match t.connection, t'.connection with
  | some c, some c' => c = c'
  | _, _ => false

theorem Task.overlaps_comm (t t' : Task) : t.overlaps t' = t'.overlaps t := by
  simp only [overlaps]
  cases t.connection <;> cases t'.connection <;> simp [eq_comm]

/-! ## §2. The environment. -/

/-- The server as it comes up again: only the database and the files are left. -/
def Server.restart (s : Server) : Server where
  db := s.db
  config := s.config
  connections := fun _ => none
  deviceOnline := fun _ => none
  otp := fun _ => none
  sessions := fun _ => none
  socket := fun c => if (s.socket c).phase = .fresh then s.socket c
    else { s.socket c with phase := .ended }
  channel := fun c => { s.channel c with alive := false }
  files := s.files

def Env.disturb (e : Env) (s : Server) : Server :=
  match e with
  | .sendTaskStops c => s.setChannel c { s.channel c with alive := false }
  | .restart => s.restart

/-! ## §3. The system. -/

/-- The signaling server as a pool of tasks over its shared state. -/
def server [Crates] : System Op Op.Res Draw Server Task Env (Option Response) where
  exec := Op.exec
  body := Task.body
  admits := Task.admitted
  begins := Task.begin
  conflict := Task.overlaps
  disturb := Env.disturb
  kills := fun e => e = .restart

abbrev ServerEvent := Event Op Op.Res Task Env

abbrev ServerWorld := World Op Op.Res Server Task Env (Option Response)

abbrev ServerView := View Op Op.Res Server Task Env

abbrev ServerTurn := System.Turn Server Task (Option Response)

/-- The calls a task has completed, newest first. -/
abbrev Calls := List (Call Op Op.Res)

/-- The task performed `o`, and `r` was the result. -/
abbrev Did (h : Calls) (o : Op) (r : o.Res) : Prop := Call.mk o r ∈ h

/-- The states the running server gets into, from `s₀`. -/
abbrev Run [Crates] (A : Assumption Op Op.Res Draw Task Env) (s₀ : Server) (w : ServerWorld) : Prop :=
  server.Reachable A (World.initial s₀) w

/-! ## §4. Assumptions on the draws. -/

/-- Nothing is assumed. -/
def anyDraw : Assumption Op Op.Res Draw Task Env := fun _ _ _ => true

/-- No method of `Db` fails because SQLite does. -/
def dbWorks (o : Op) (d : Draw) : Bool :=
  match o with
  | .db _ => d.fault.isNone
  | _ => true

def noDbFault : Assumption Op Op.Res Draw Task Env := fun _ o d => dbWorks o d

theorem dbWorks_of_isNone (o : Op) (d : Draw) (h : d.fault.isNone = true) : dbWorks o d = true := by
  cases o <;> first | rfl | exact h

/-- The id the event drew from `Uuid::new_v4`. -/
def newUuid? : ServerEvent → Option String
  | .call _ _ ⟨.newV4, id⟩ => some id
  | _ => none

/-- The id the event drew from `generate_device_id`. -/
def newDeviceId? : ServerEvent → Option DeviceId
  | .call _ _ ⟨.generateDeviceId, id⟩ => some id
  | _ => none

theorem newUuid?_eq_some {e : ServerEvent} {id : String} :
    newUuid? e = some id ↔ ∃ j t, e = .call j t ⟨.newV4, id⟩ := by
  constructor
  · intro h
    unfold newUuid? at h
    split at h
    next j t x =>
      injection h with h
      exact ⟨j, t, by rw [h]⟩
    next => exact absurd h (by simp)
  · rintro ⟨j, t, rfl⟩
    rfl

theorem newDeviceId?_eq_some {e : ServerEvent} {d : DeviceId} :
    newDeviceId? e = some d ↔ ∃ j t, e = .call j t ⟨.generateDeviceId, d⟩ := by
  constructor
  · intro h
    unfold newDeviceId? at h
    split at h
    next j t x =>
      injection h with h
      exact ⟨j, t, by rw [h]⟩
    next => exact absurd h (by simp)
  · rintro ⟨j, t, rfl⟩
    rfl

/-- Neither of the two returns what it has returned before. -/
def freshIds : Assumption Op Op.Res Draw Task Env := fun log o d =>
  match o with
  | .newV4 => newV4 d.rng ∉ log.filterMap newUuid?
  | .generateDeviceId => generateDeviceId d.rng ∉ log.filterMap newDeviceId?
  | _ => true

/-- What is never drawn again once it has been drawn, is drawn by one event. -/
theorem drawn_once [Crates] {A : Assumption Op Op.Res Draw Task Env} {s₀ : Server}
    {w : ServerWorld} (h : Run A s₀ w) (new? : ServerEvent → Option String)
    (hfresh : ∀ w₁ w₂ e id, server.Step A w₁ w₂ → w₂.log = e :: w₁.log → new? e = some id →
      id ∉ w₁.log.filterMap new?)
    {e e' : ServerEvent} (he : e ∈ w.log) (he' : e' ∈ w.log) {id : String}
    (hid : new? e = some id) (hid' : new? e' = some id) : e = e' := by
  refine System.event_unique (fun e => new? e = some id) ?_ he he' hid hid'
  intro l₁ e l₂ hlog hP e' he' hP'
  obtain ⟨w₁, w₂, -, hs, -, rfl, h5⟩ := h.split_log hlog
  exact hfresh w₁ w₂ e id hs h5 hP (List.mem_filterMap.mpr ⟨e', he', hP'⟩)

/-- With fresh ids, no device id is drawn twice. -/
theorem deviceId_unique [Crates] {s₀ : Server} {w : ServerWorld} (h : Run freshIds s₀ w)
    {d : DeviceId} {j j' : Nat} {t t' : Task}
    (he : Event.call j t ⟨.generateDeviceId, d⟩ ∈ w.log)
    (he' : Event.call j' t' ⟨.generateDeviceId, d⟩ ∈ w.log) : j = j' ∧ t = t' := by
  have heq := drawn_once h newDeviceId? ?_ he he' rfl rfl
  · injection heq with hj ht _
    exact ⟨hj, ht⟩
  · rintro w₁ w₂ e id hs hlog hid
    obtain ⟨i, u, rfl⟩ := newDeviceId?_eq_some.mp hid
    obtain ⟨draw, -, -, hA, hres, -⟩ := hs.of_call hlog
    obtain rfl : id = generateDeviceId draw.rng := hres
    exact of_decide_eq_true hA

/-- With fresh ids, no session id is drawn twice. -/
theorem uuid_unique [Crates] {s₀ : Server} {w : ServerWorld} (h : Run freshIds s₀ w)
    {id : String} {j j' : Nat} {t t' : Task} (he : Event.call j t ⟨.newV4, id⟩ ∈ w.log)
    (he' : Event.call j' t' ⟨.newV4, id⟩ ∈ w.log) : j = j' ∧ t = t' := by
  have heq := drawn_once h newUuid? ?_ he he' rfl rfl
  · injection heq with hj ht _
    exact ⟨hj, ht⟩
  · rintro w₁ w₂ e id hs hlog hid
    obtain ⟨i, u, rfl⟩ := newUuid?_eq_some.mp hid
    obtain ⟨draw, -, -, hA, hres, -⟩ := hs.of_call hlog
    obtain rfl : id = newV4 draw.rng := hres
    exact of_decide_eq_true hA

/-! ## §5. Schedules. -/

namespace Transparent

/-- Crates whose hashes can be read, for concrete runs. -/
scoped instance crates : Crates where
  toVec _ := []
  fromSlice _ := .ok ⟨none, none⟩
  argon2Hash password _ := .ok ("$argon2id$" ++ password)
  argon2Verify password hash := hash == "$argon2id$" ++ password
  hmacSha1Base64 secret message := secret ++ message

end Transparent

/-- A draw without faults; the random numbers start at `n`. -/
def Draw.from (n : Nat) : Draw where
  rng i := n + i
  clock := 0
  fault := none
  release := ⟨"", []⟩
  body := []

abbrev ServerMove := System.Move Draw Task Env

/-- Let job `j` perform its next `n` operations. -/
def steps (j n : Nat) : List ServerMove := List.replicate n (.step j (Draw.from j))

/-- A server with nothing in its database. -/
def Server.blank (foreignKeys : Bool) : Server :=
  Server.start (Db.fresh foreignKeys) ⟨⟨[], ""⟩, "templates", "fetched"⟩
    ⟨fun _ => none, fun _ => [], 0⟩

/-- **Tasks that a blank server serves one after the other are a serial run** in which the
database works, when no draw has a fault. -/
theorem served_serial [Crates] {foreignKeys : Bool} {ms : List (Task × List Draw)}
    (hdraws : (ms.all fun m => m.2.all fun d => d.fault.isNone) = true)
    (h : (server.serveAll ms ([], Server.blank foreignKeys)).isSome = true) :
    server.Serial dbWorks (Server.blank foreignKeys) (Option.get _ h).1 (Option.get _ h).2 :=
  System.serveAll_serial (fun d => d.fault.isNone) dbWorks_of_isNone .start hdraws
    (Option.some_get h).symm

end Visuara.Signaling
