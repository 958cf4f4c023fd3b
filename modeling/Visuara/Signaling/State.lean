/-
  Visuara.Signaling.State
  ───────────────────────
  **THE SERVER'S SHARED STATE AND ITS ATOMIC OPERATIONS**
  (`visuara-signaling/src/state.rs`, and what the handlers do to it).

  `AppState` is the state all handlers share.  `Server` adds what the handlers
  reach without it: the outbound channels, the two local variables of each
  `handle_socket`, and the template files.

  An `Op` is one step that nothing can come between: one method of `Db` under
  its lock, one operation of one `DashMap`, one `send`, one random number or
  clock reading, one file operation.  `Op.exec` is its meaning; whatever is
  random or may fail is in the `Draw`.
-/
import Visuara.Common.Signaling
import Visuara.Signaling.Auth
import Visuara.Signaling.Db
import Mathlib.Logic.Function.Basic

namespace Visuara.Signaling

/-! ## §1. The state. -/

abbrev ConnectionId := String

/-- `DashMap`, which is only ever read and written one key at a time. -/
abbrev DashMap (κ ν : Type) := κ → Option ν

namespace DashMap

variable {κ ν : Type} [DecidableEq κ]

abbrev insert (m : DashMap κ ν) (k : κ) (v : ν) : DashMap κ ν := Function.update m k (some v)

abbrev remove (m : DashMap κ ν) (k : κ) : DashMap κ ν := Function.update m k none

end DashMap

/-- The two connections of a pairing session. -/
structure SessionPeers where
  a : ConnectionId
  b : ConnectionId
  deriving DecidableEq, Repr

def SessionPeers.other (p : SessionPeers) (me : ConnectionId) : Option ConnectionId :=
  if p.a = me then some p.b else if p.b = me then some p.a else none

/-- What is fixed when the server starts. -/
structure Config where
  turn : TurnConfig
  clientTemplatesDir : String
  fetchedTemplatesDir : String
  deriving DecidableEq

/-- The sending half of a connection's outbound channel, named by the connection. -/
abbrev Sender := ConnectionId

structure AppState where
  db : Db
  config : Config
  /-- Every open WebSocket connection. -/
  connections : DashMap ConnectionId Sender
  /-- Which connection a device is currently online as. -/
  deviceOnline : DashMap DeviceId ConnectionId
  /-- The current one-time password of each online device. -/
  otp : DashMap DeviceId String
  /-- Pairing sessions. -/
  sessions : DashMap SessionId SessionPeers

inductive ConnState where
  | unauthenticated
  | authenticated (accountId : Int)
  deriving DecidableEq, Repr

inductive Phase where
  /-- No connection has had this id yet. -/
  | fresh
  /-- `handle_socket` is between its start and the end of its message loop. -/
  | live
  /-- The message loop has ended. -/
  | ended
  deriving DecidableEq, Repr

/-- The local variables of a `handle_socket`. -/
structure Socket where
  phase : Phase
  connState : ConnState
  myDeviceId : Option DeviceId
  deriving DecidableEq, Repr

/-- An outbound channel: everything ever enqueued on it, and whether its
receiving half is still there. -/
structure Channel where
  alive : Bool
  queue : List ServerMessage
  deriving DecidableEq, Repr

/-- Files: names, what they name, and the bytes there. -/
structure Files where
  names : String → Option Nat
  content : Nat → Bytes
  nextInode : Nat

structure Server extends AppState where
  socket : ConnectionId → Socket
  channel : ConnectionId → Channel
  files : Files

def Server.setSocket (s : Server) (c : ConnectionId) (k : Socket) : Server :=
  { s with socket := Function.update s.socket c k }

def Server.setChannel (s : Server) (c : ConnectionId) (ch : Channel) : Server :=
  { s with channel := Function.update s.channel c ch }

/-- The server as `main` starts it on a database. -/
def Server.start (db : Db) (config : Config) (files : Files) : Server where
  db := db
  config := config
  connections := fun _ => none
  deviceOnline := fun _ => none
  otp := fun _ => none
  sessions := fun _ => none
  socket := fun _ => ⟨.fresh, .unauthenticated, none⟩
  channel := fun _ => ⟨false, []⟩
  files := files

/-! ## §2. Files. -/

namespace Files

/-- `File::create`: truncate what the name refers to, or make a new file. -/
def create (f : Files) (path : String) : Nat × Files :=
  match f.names path with
  | some i => (i, { f with content := Function.update f.content i [] })
  | none => (f.nextInode,
      { names := Function.update f.names path (some f.nextInode)
        content := Function.update f.content f.nextInode []
        nextInode := f.nextInode + 1 })

/-- Write one byte through an open file, at that file's own offset. -/
def writeAt (f : Files) (inode offset : Nat) (b : UInt8) : Files :=
  let old := f.content inode
  let new := old.take offset ++ List.replicate (offset - old.length) 0 ++ b :: old.drop (offset + 1)
  { f with content := Function.update f.content inode new }

def rename (f : Files) (src dst : String) : Files :=
  match f.names src with
  | some i => { f with names := Function.update (Function.update f.names src none) dst (some i) }
  | none => f

end Files

/-! ## §3. The atomic operations. -/

structure GithubAsset where
  name : String
  browserDownloadUrl : String
  deriving DecidableEq, Repr

structure GithubRelease where
  tagName : String
  assets : List GithubAsset
  deriving DecidableEq, Repr

/-- What the environment decides about one operation. -/
structure Draw where
  /-- The random numbers. -/
  rng : Nat → Nat
  /-- Unix seconds. -/
  clock : Nat
  /-- The text of a database, file or network failure, if there is one. -/
  fault : Option String
  /-- What the release API answers. -/
  release : GithubRelease
  /-- What a download answers. -/
  body : Bytes

inductive Op where
  | db (q : Query)
  | config
  | connectionsInsert (c : ConnectionId) (tx : Sender)
  | connectionsRemove (c : ConnectionId)
  | connectionsGet (c : ConnectionId)
  | deviceOnlineInsert (d : DeviceId) (c : ConnectionId)
  | deviceOnlineRemove (d : DeviceId)
  | deviceOnlineGet (d : DeviceId)
  | deviceOnlineContainsKey (d : DeviceId)
  | otpInsert (d : DeviceId) (otp : String)
  | otpRemove (d : DeviceId)
  | otpGet (d : DeviceId)
  | sessionsInsert (s : SessionId) (peers : SessionPeers)
  | sessionsGet (s : SessionId)
  | send (tx : Sender) (msg : ServerMessage)
  | abortSendTask (c : ConnectionId)
  | connState (c : ConnectionId)
  | setConnState (c : ConnectionId) (st : ConnState)
  | myDeviceId (c : ConnectionId)
  | setMyDeviceId (c : ConnectionId) (d : DeviceId)
  | newV4
  | generateDeviceId
  | generateOneTimePassword
  | generateSessionToken
  | hashPassword (password : String)
  | nowSecs
  | fileExists (path : String)
  | fileRead (path : String)
  | fileCreate (path : String)
  | fileWriteAt (inode offset : Nat) (b : UInt8)
  | fileRename (src dst : String)
  | fetchLatestRelease (repo : String)
  | download (url : String)
  deriving DecidableEq, Repr

/-- What an operation returns. -/
@[reducible] def Op.Res : Op → Type
  | .db q => Except String q.Val
  | .config => Config
  | .connectionsGet _ => Option Sender
  | .deviceOnlineRemove _ | .deviceOnlineGet _ => Option ConnectionId
  | .deviceOnlineContainsKey _ | .fileExists _ => Bool
  | .otpGet _ => Option String
  | .sessionsGet _ => Option SessionPeers
  | .send .. | .fileWriteAt .. | .fileRename .. => Except String Unit
  | .connState _ => ConnState
  | .myDeviceId _ => Option DeviceId
  | .newV4 | .generateDeviceId | .generateOneTimePassword | .generateSessionToken => String
  | .hashPassword _ => Except String String
  | .nowSecs => Nat
  | .fileRead _ | .download _ => Except String Bytes
  | .fileCreate _ => Except String Nat
  | .fetchLatestRelease _ => Except String GithubRelease
  | .connectionsInsert .. | .connectionsRemove _ | .deviceOnlineInsert .. | .otpInsert ..
  | .otpRemove _ | .sessionsInsert .. | .abortSendTask _ | .setConnState ..
  | .setMyDeviceId .. => Unit

instance (o : Op) : DecidableEq o.Res := by
  cases o with
  | db q => cases q <;> infer_instance
  | _ => infer_instance

/-- Perform one operation. -/
def Op.exec [Crates] : (o : Op) → Draw → Server → o.Res × Server
  | .db q, d, s =>
    match d.fault with
    | some e => (.error e, s)
    | none => ((q.exec d.clock s.db).1, { s with db := (q.exec d.clock s.db).2 })
  | .config, _, s => (s.config, s)
  | .connectionsInsert c tx, _, s => ((), { s with connections := s.connections.insert c tx })
  | .connectionsRemove c, _, s => ((), { s with connections := s.connections.remove c })
  | .connectionsGet c, _, s => (s.connections c, s)
  | .deviceOnlineInsert d c, _, s => ((), { s with deviceOnline := s.deviceOnline.insert d c })
  | .deviceOnlineRemove d, _, s =>
    (s.deviceOnline d, { s with deviceOnline := s.deviceOnline.remove d })
  | .deviceOnlineGet d, _, s => (s.deviceOnline d, s)
  | .deviceOnlineContainsKey d, _, s => ((s.deviceOnline d).isSome, s)
  | .otpInsert d otp, _, s => ((), { s with otp := s.otp.insert d otp })
  | .otpRemove d, _, s => ((), { s with otp := s.otp.remove d })
  | .otpGet d, _, s => (s.otp d, s)
  | .sessionsInsert k p, _, s => ((), { s with sessions := s.sessions.insert k p })
  | .sessionsGet k, _, s => (s.sessions k, s)
  | .send tx msg, _, s =>
    if (s.channel tx).alive then
      (.ok (), s.setChannel tx { s.channel tx with queue := (s.channel tx).queue ++ [msg] })
    else (.error "channel closed", s)
  | .abortSendTask c, _, s => ((), s.setChannel c { s.channel c with alive := false })
  | .connState c, _, s => ((s.socket c).connState, s)
  | .setConnState c st, _, s => ((), s.setSocket c { s.socket c with connState := st })
  | .myDeviceId c, _, s => ((s.socket c).myDeviceId, s)
  | .setMyDeviceId c d, _, s => ((), s.setSocket c { s.socket c with myDeviceId := some d })
  | .newV4, d, s => (Signaling.newV4 d.rng, s)
  | .generateDeviceId, d, s => (Signaling.generateDeviceId d.rng, s)
  | .generateOneTimePassword, d, s => (Signaling.generateOneTimePassword d.rng, s)
  | .generateSessionToken, d, s => (Signaling.generateSessionToken d.rng, s)
  | .hashPassword pw, d, s => (Signaling.hashPassword pw (randomAlnum 22 d.rng), s)
  | .nowSecs, d, s => (d.clock, s)
  | .fileExists path, _, s => ((s.files.names path).isSome, s)
  | .fileRead path, d, s =>
    match d.fault, s.files.names path with
    | none, some i => (.ok (s.files.content i), s)
    | none, none => (.error "No such file or directory (os error 2)", s)
    | some e, _ => (.error e, s)
  | .fileCreate path, d, s =>
    match d.fault with
    | some e => (.error e, s)
    | none => (.ok (s.files.create path).1, { s with files := (s.files.create path).2 })
  | .fileWriteAt i off b, d, s =>
    match d.fault with
    | some e => (.error e, s)
    | none => (.ok (), { s with files := s.files.writeAt i off b })
  | .fileRename src dst, d, s =>
    match d.fault, s.files.names src with
    | none, some _ => (.ok (), { s with files := s.files.rename src dst })
    | none, none => (.error "No such file or directory (os error 2)", s)
    | some e, _ => (.error e, s)
  | .fetchLatestRelease _, d, s =>
    match d.fault with
    | some e => (.error e, s)
    | none => (.ok d.release, s)
  | .download _, d, s =>
    match d.fault with
    | some e => (.error e, s)
    | none => (.ok d.body, s)

/-! ## §4. Which operations change which part of the state. -/

namespace Op

variable [Crates] (o : Op) (d : Draw) (s : Server)

theorem exec_db : (o.exec d s).2.db =
    match o with
    | .db q => if d.fault.isSome then s.db else (q.exec d.clock s.db).2
    | _ => s.db := by
  cases o with
  | db q =>
    simp only [exec]
    cases d.fault <;> rfl
  | _ => simp only [exec] <;> (try split) <;> rfl

@[simp] theorem exec_query {q : Query} {d : Draw} (hd : d.fault = none) (s : Server) :
    (Op.db q).exec d s
      = ((q.exec d.clock s.db).1, { s with db := (q.exec d.clock s.db).2 }) := by
  simp only [exec, hd]

theorem exec_query_fault {q : Query} {d : Draw} {e : String} (hd : d.fault = some e) (s : Server) :
    (Op.db q).exec d s = (.error e, s) := by
  simp only [exec, hd]

/-- A query that only reads leaves the server as it is. -/
theorem exec_reading {q : Query} (hq : q.reads = true) (d : Draw) (s : Server) :
    ((Op.db q).exec d s).2 = s := by
  cases hf : d.fault with
  | some e => rw [exec_query_fault hf]
  | none => rw [exec_query hf, Query.exec_reads hq]

/-- A query that succeeded did what it does on the database of that moment. -/
theorem exec_query_ok {q : Query} {d : Draw} {s : Server} {r : q.Val}
    (h : ((Op.db q).exec d s).1 = .ok r) :
    d.fault = none ∧ (q.exec d.clock s.db).1 = .ok r := by
  cases hd : d.fault with
  | none => exact ⟨rfl, by rwa [exec_query hd] at h⟩
  | some e =>
    rw [exec_query_fault hd] at h
    exact absurd h (by simp)

/-- A file that is there is read, and nothing changes. -/
theorem exec_fileRead {path : String} {i : Nat} {d : Draw} {s : Server} (hd : d.fault = none)
    (hname : s.files.names path = some i) :
    (Op.fileRead path).exec d s = (.ok (s.files.content i), s) := by
  simp only [exec, hd, hname]

theorem exec_connections : (o.exec d s).2.connections =
    match o with
    | .connectionsInsert c tx => s.connections.insert c tx
    | .connectionsRemove c => s.connections.remove c
    | _ => s.connections := by
  cases o <;> simp only [exec] <;> (try split) <;> rfl

theorem exec_deviceOnline : (o.exec d s).2.deviceOnline =
    match o with
    | .deviceOnlineInsert x c => s.deviceOnline.insert x c
    | .deviceOnlineRemove x => s.deviceOnline.remove x
    | _ => s.deviceOnline := by
  cases o <;> simp only [exec] <;> (try split) <;> rfl

theorem exec_otp : (o.exec d s).2.otp =
    match o with
    | .otpInsert x v => s.otp.insert x v
    | .otpRemove x => s.otp.remove x
    | _ => s.otp := by
  cases o <;> simp only [exec] <;> (try split) <;> rfl

/-- An entry of `device_online` was there before, or has just been inserted. -/
theorem exec_deviceOnline_some {x : DeviceId} {c : ConnectionId}
    (h : (o.exec d s).2.deviceOnline x = some c) :
    o = .deviceOnlineInsert x c ∨ s.deviceOnline x = some c := by
  rw [exec_deviceOnline] at h
  cases o with
  | deviceOnlineInsert y c' =>
    by_cases hxy : x = y
    · subst hxy
      simp only [Function.update_self, Option.some.injEq] at h
      exact .inl (by rw [h])
    · exact .inr (by simpa [Function.update_of_ne hxy] using h)
  | deviceOnlineRemove y =>
    by_cases hxy : x = y
    · subst hxy
      simp at h
    · exact .inr (by simpa [Function.update_of_ne hxy] using h)
  | _ => exact .inr h

/-- A one-time password was there before, or has just been inserted. -/
theorem exec_otp_some {x : DeviceId} {v : String} (h : (o.exec d s).2.otp x = some v) :
    o = .otpInsert x v ∨ s.otp x = some v := by
  rw [exec_otp] at h
  cases o with
  | otpInsert y v' =>
    by_cases hxy : x = y
    · subst hxy
      simp only [Function.update_self, Option.some.injEq] at h
      exact .inl (by rw [h])
    · exact .inr (by simpa [Function.update_of_ne hxy] using h)
  | otpRemove y =>
    by_cases hxy : x = y
    · subst hxy
      simp at h
    · exact .inr (by simpa [Function.update_of_ne hxy] using h)
  | _ => exact .inr h

/-- Operations on other device ids leave an entry as it is. -/
theorem exec_deviceOnline_ne {x : DeviceId}
    (h : (o.exec d s).2.deviceOnline x ≠ s.deviceOnline x) :
    (∃ c, o = .deviceOnlineInsert x c) ∨ o = .deviceOnlineRemove x := by
  rw [exec_deviceOnline] at h
  cases o with
  | deviceOnlineInsert y c =>
    by_cases hxy : x = y
    · exact .inl ⟨c, by rw [hxy]⟩
    · exact absurd (Function.update_of_ne hxy _ _) h
  | deviceOnlineRemove y =>
    by_cases hxy : x = y
    · exact .inr (by rw [hxy])
    · exact absurd (Function.update_of_ne hxy _ _) h
  | _ => exact absurd rfl h

theorem exec_otp_ne {x : DeviceId} (h : (o.exec d s).2.otp x ≠ s.otp x) :
    (∃ v, o = .otpInsert x v) ∨ o = .otpRemove x := by
  rw [exec_otp] at h
  cases o with
  | otpInsert y v =>
    by_cases hxy : x = y
    · exact .inl ⟨v, by rw [hxy]⟩
    · exact absurd (Function.update_of_ne hxy _ _) h
  | otpRemove y =>
    by_cases hxy : x = y
    · exact .inr (by rw [hxy])
    · exact absurd (Function.update_of_ne hxy _ _) h
  | _ => exact absurd rfl h

theorem exec_sessions : (o.exec d s).2.sessions =
    match o with
    | .sessionsInsert k p => s.sessions.insert k p
    | _ => s.sessions := by
  cases o <;> simp only [exec] <;> (try split) <;> rfl

theorem exec_sessions_some {k : SessionId} {p : SessionPeers}
    (h : (o.exec d s).2.sessions k = some p) :
    o = .sessionsInsert k p ∨ s.sessions k = some p := by
  rw [exec_sessions] at h
  cases o with
  | sessionsInsert k' p' =>
    by_cases hk : k = k'
    · subst hk
      simp only [Function.update_self, Option.some.injEq] at h
      exact .inl (by rw [h])
    · exact .inr (by simpa [Function.update_of_ne hk] using h)
  | _ => exact .inr h

theorem exec_connections_some {c : ConnectionId} {tx : Sender}
    (h : (o.exec d s).2.connections c = some tx) :
    o = .connectionsInsert c tx ∨ s.connections c = some tx := by
  rw [exec_connections] at h
  cases o with
  | connectionsInsert c' tx' =>
    by_cases hc : c = c'
    · subst hc
      simp only [Function.update_self, Option.some.injEq] at h
      exact .inl (by rw [h])
    · exact .inr (by simpa [Function.update_of_ne hc] using h)
  | connectionsRemove c' =>
    by_cases hc : c = c'
    · subst hc
      simp at h
    · exact .inr (by simpa [Function.update_of_ne hc] using h)
  | _ => exact .inr h

/-- The rows of `devices` after an operation. -/
theorem mem_exec_devices {dev : Device} (h : dev ∈ (o.exec d s).2.db.devices) :
    dev ∈ s.db.devices
      ∨ (∃ x id name, o = .db (.createDevice x id name) ∧ dev = ⟨x, id, name, none⟩)
      ∨ ∃ old hash, o = .db (.setUnattendedPasswordHash old.id hash) ∧ old ∈ s.db.devices
        ∧ dev = { old with unattendedPasswordHash := some hash } ∧ d.fault = none := by
  rw [exec_db] at h
  cases o with
  | db q =>
    cases hf : d.fault with
    | some e => exact .inl (by simpa [hf] using h)
    | none =>
      simp only [hf, Option.isSome_none, Bool.false_eq_true, if_false] at h
      rcases Query.mem_exec_devices h with hold | ⟨x, id, name, rfl, hnew⟩ | ⟨old, hash, rfl, ho, hnew⟩
      · exact .inl hold
      · exact .inr (.inl ⟨x, id, name, rfl, hnew⟩)
      · exact .inr (.inr ⟨old, hash, rfl, ho, hnew, rfl⟩)
  | _ => exact .inl h

theorem exec_socket : (o.exec d s).2.socket =
    match o with
    | .setConnState c st => Function.update s.socket c { s.socket c with connState := st }
    | .setMyDeviceId c x => Function.update s.socket c { s.socket c with myDeviceId := some x }
    | _ => s.socket := by
  cases o <;> simp only [exec] <;> (try split) <;> rfl

/-- No operation ends or starts a connection. -/
theorem exec_phase (c : ConnectionId) :
    ((o.exec d s).2.socket c).phase = (s.socket c).phase := by
  rw [exec_socket]
  cases o with
  | setConnState c' st =>
    by_cases hc : c = c'
    · subst hc
      simp
    · simp [Function.update_of_ne hc]
  | setMyDeviceId c' x =>
    by_cases hc : c = c'
    · subst hc
      simp
    · simp [Function.update_of_ne hc]
  | _ => rfl

theorem exec_myDeviceId (c : ConnectionId) :
    ((o.exec d s).2.socket c).myDeviceId =
      match o with
      | .setMyDeviceId c' x => if c' = c then some x else (s.socket c).myDeviceId
      | _ => (s.socket c).myDeviceId := by
  rw [exec_socket]
  cases o with
  | setConnState c' st =>
    by_cases hc : c = c'
    · subst hc
      simp
    · simp [Function.update_of_ne hc]
  | setMyDeviceId c' x =>
    by_cases hc : c = c'
    · subst hc
      simp
    · simp [Function.update_of_ne hc, Ne.symm hc]
  | _ => rfl

theorem exec_connState (c : ConnectionId) :
    ((o.exec d s).2.socket c).connState =
      match o with
      | .setConnState c' st => if c' = c then st else (s.socket c).connState
      | _ => (s.socket c).connState := by
  rw [exec_socket]
  cases o with
  | setConnState c' st =>
    by_cases hc : c = c'
    · subst hc
      simp
    · simp [Function.update_of_ne hc, Ne.symm hc]
  | setMyDeviceId c' x =>
    by_cases hc : c = c'
    · subst hc
      simp
    · simp [Function.update_of_ne hc]
  | _ => rfl

theorem exec_channel : (o.exec d s).2.channel =
    match o with
    | .send tx msg =>
      if (s.channel tx).alive then
        Function.update s.channel tx { s.channel tx with queue := (s.channel tx).queue ++ [msg] }
      else s.channel
    | .abortSendTask c => Function.update s.channel c { s.channel c with alive := false }
    | _ => s.channel := by
  cases o <;> simp only [exec] <;> (try split) <;> rfl

/-- The operations that only look, draw or touch files. -/
def quiet : Op → Bool
  | .db q => q.reads
  | .config | .connectionsGet _ | .deviceOnlineGet _ | .deviceOnlineContainsKey _ | .otpGet _
  | .sessionsGet _ | .newV4 | .generateDeviceId | .generateOneTimePassword
  | .generateSessionToken | .hashPassword _ | .nowSecs | .fileExists _ | .fileRead _
  | .fileCreate _ | .fileWriteAt .. | .fileRename .. | .fetchLatestRelease _ | .download _ => true
  | _ => false

/-- They change nothing but files. -/
theorem exec_quiet (h : o.quiet = true) :
    (o.exec d s).2 = { s with files := (o.exec d s).2.files } := by
  cases o with
  | db q =>
    simp only [exec]
    split
    · rfl
    · rw [Query.exec_reads h]
  | connectionsInsert | connectionsRemove | deviceOnlineInsert | deviceOnlineRemove | otpInsert
  | otpRemove | sessionsInsert | send | abortSendTask | connState | setConnState | myDeviceId
  | setMyDeviceId => exact absurd h Bool.false_ne_true
  | fileRead | fileCreate | fileWriteAt | fileRename | fetchLatestRelease | download =>
    simp only [exec]
    split <;> rfl
  | _ => rfl

end Op

end Visuara.Signaling
