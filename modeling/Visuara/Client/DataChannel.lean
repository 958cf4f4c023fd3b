/-
  Visuara.Client.DataChannel
  ──────────────────────────
  **ONE CHANNEL FOR EVERYTHING** (`host.rs`, `controller.rs`, `gui.rs`).

  Input, clipboard texts, files and monitor switches share one data channel.
  The controller's tasks send over it in any mix; the host takes the messages
  apart again, one after the other:

    • `HostEnd.onMessage`, `DataChannel.step` — the two ends and what is between;
    • `handled_apart`     — every part of the host sees its messages, and no others;
    • `files_arrive`      — at any moment of any session, a file is there up to
      the chunk that was handled last.
-/
import Visuara.Client.ClipboardSync
import Visuara.Client.Control
import Visuara.Client.Interrupted
import Visuara.Interleave.Line

namespace Visuara.Client

open Interleave Visuara.Path

/-! ## §1. The host's end. -/

/-- Where the host hands its input events. -/
class InputSink (S : Type) where
  handleInput : InputEvent → S → Except String Unit × S

/-- A sink that writes down what it is given, as the tests have one. -/
instance : InputSink (List InputEvent) where
  handleInput event events := (.ok (), events ++ [event])

/-- What the handler of the data channel works on. -/
structure HostEnd (S σ File : Type) where
  inputSink : S
  clipboardSync : ClipboardSync
  fileReceiver : FileReceiver File
  files : σ
  /-- The queue behind `monitor_switch_tx`. -/
  monitorSwitches : List Nat
  /-- What has been sent in reply, with the oldest first. -/
  replies : List Bytes

/-- What comes from outside while a message is handled. -/
structure Outside where
  listMonitors : Except String (List MonitorInfo)
  /-- Whether a reply can be sent. -/
  replySent : Bool

/-- One of the channels between the two ends of a session. -/
structure DataChannel (S σ File : Type) where
  line : Line ControlMessage
  host : HostEnd S σ File

theorem FileReceiver.receive_append {σ File : Type} [FileSystem σ File] (r : FileReceiver File) (s : σ)
    (msgs more : List FileTransferMessage) :
    r.receive s (msgs ++ more) = (r.receive s msgs).1.receive (r.receive s msgs).2 more := by
  induction msgs generalizing r s with
  | nil => rfl
  | cons msg msgs ih => exact ih _ _

theorem filterMap_cons_toList {α β : Type} (f : α → Option β) (a : α) (as : List α) :
    (a :: as).filterMap f = (f a).toList ++ as.filterMap f := by
  cases h : f a with
  | none => rw [List.filterMap_cons_none h, Option.toList_none, List.nil_append]
  | some b => rw [List.filterMap_cons_some h]; rfl

variable [Bincode] {S σ File : Type} [InputSink S] [FileSystem σ File]

namespace HostEnd

def reply (out : Outside) (msg : MonitorMessage) : List Bytes :=
  if out.replySent then [(ControlMessage.monitor msg).toBytes] else []

/-- `on_message`.  Errors are logged, and the next message is handled. -/
def onMessage (h : HostEnd S σ File) (out : Outside) (data : Bytes) : HostEnd S σ File :=
  match ControlMessage.fromBytes data with
  | some (.input event) => { h with inputSink := (InputSink.handleInput event h.inputSink).2 }
  | some (.clipboard (.textUpdated text)) =>
    { h with clipboardSync := h.clipboardSync.applyRemoteUpdate text }
  | some (.file msg) =>
    { h with
      fileReceiver := (h.fileReceiver.handle msg h.files).receiver
      files := (h.fileReceiver.handle msg h.files).state }
  | some (.monitor .listRequest) =>
    match out.listMonitors with
    | .ok monitors => { h with replies := h.replies ++ reply out (.list monitors) }
    | .error _ => h
  | some (.monitor (.switchRequest monitorId)) =>
    { h with
      monitorSwitches := h.monitorSwitches ++ [monitorId]
      replies := h.replies ++ reply out (.switched monitorId) }
  | some (.monitor (.list _)) | some (.monitor (.switched _)) => h
  | none => h

/-- Messages one after the other, as the channel hands them over. -/
def onMessages (h : HostEnd S σ File) (arrivals : List (Outside × Bytes)) : HostEnd S σ File :=
  arrivals.foldl (fun h a => h.onMessage a.1 a.2) h

end HostEnd

/-! ## §2. Whose message it is. -/

namespace ControlMessage

def input? : ControlMessage → Option InputEvent
  | .input event => some event
  | _ => none

def text? : ControlMessage → Option String
  | .clipboard (.textUpdated text) => some text
  | _ => none

def file? : ControlMessage → Option FileTransferMessage
  | .file msg => some msg
  | _ => none

def switch? : ControlMessage → Option Nat
  | .monitor (.switchRequest monitorId) => some monitorId
  | _ => none

/-- The replies to a message. -/
def replies (out : Outside) : ControlMessage → List Bytes
  | .monitor .listRequest =>
    match out.listMonitors with
    | .ok monitors => HostEnd.reply out (.list monitors)
    | .error _ => []
  | .monitor (.switchRequest monitorId) => HostEnd.reply out (.switched monitorId)
  | _ => []

end ControlMessage

open ControlMessage

/-- What has been accepted of the bytes that arrived. -/
def accepted (arrivals : List (Outside × Bytes)) : List ControlMessage :=
  arrivals.filterMap fun a => fromBytes a.2

namespace HostEnd

/-- A message that is accepted goes to its part of the host. -/
theorem onMessage_some {h : HostEnd S σ File} {out : Outside} {data : Bytes} {msg : ControlMessage}
    (hmsg : fromBytes data = some msg) : h.onMessage out data =
      { inputSink := msg.input?.toList.foldl (fun s e => (InputSink.handleInput e s).2) h.inputSink
        clipboardSync := msg.text?.toList.foldl (fun c text => c.applyRemoteUpdate text) h.clipboardSync
        fileReceiver := (h.fileReceiver.receive h.files msg.file?.toList).1
        files := (h.fileReceiver.receive h.files msg.file?.toList).2
        monitorSwitches := h.monitorSwitches ++ msg.switch?.toList
        replies := h.replies ++ msg.replies out } := by
  have hnil : ∀ {α : Type} (l : List α), l = l ++ [] := fun l => (List.append_nil l).symm
  cases msg with
  | input event =>
    simp only [onMessage, hmsg]
    exact congrArg₂ (HostEnd.mk _ _ _ _) (hnil _) (hnil _)
  | clipboard msg =>
    cases msg
    simp only [onMessage, hmsg]
    exact congrArg₂ (HostEnd.mk _ _ _ _) (hnil _) (hnil _)
  | file msg =>
    simp only [onMessage, hmsg]
    exact congrArg₂ (HostEnd.mk _ _ _ _) (hnil _) (hnil _)
  | monitor msg =>
    cases msg with
    | listRequest =>
      simp only [onMessage, hmsg]
      cases hlist : out.listMonitors with
      | ok monitors =>
        simp only [ControlMessage.replies, hlist]
        exact congrArg₂ (HostEnd.mk _ _ _ _) (hnil _) rfl
      | error e =>
        simp only [ControlMessage.replies, hlist]
        exact congrArg₂ (HostEnd.mk _ _ _ _) (hnil _) (hnil _)
    | list monitors =>
      simp only [onMessage, hmsg]
      exact congrArg₂ (HostEnd.mk _ _ _ _) (hnil _) (hnil _)
    | switchRequest monitorId =>
      simp only [onMessage, hmsg]
      rfl
    | switched monitorId =>
      simp only [onMessage, hmsg]
      exact congrArg₂ (HostEnd.mk _ _ _ _) (hnil _) (hnil _)

theorem onMessage_none {h : HostEnd S σ File} {out : Outside} {data : Bytes}
    (hmsg : fromBytes data = none) : h.onMessage out data = h := by
  simp only [onMessage, hmsg]

end HostEnd

/-- **Every part of the host sees its messages, and no others.**  Whatever
bytes arrive, in whatever mix: the input sink, the clipboard loop, the file
receiver and the capture thread are each left as if only the messages meant
for them had been handled, in their order, and nothing else happens. -/
theorem HostEnd.handled_apart (h : HostEnd S σ File) (arrivals : List (Outside × Bytes)) :
    h.onMessages arrivals =
      { inputSink := ((accepted arrivals).filterMap input?).foldl
          (fun s e => (InputSink.handleInput e s).2) h.inputSink
        clipboardSync := ((accepted arrivals).filterMap text?).foldl
          (fun c text => c.applyRemoteUpdate text) h.clipboardSync
        fileReceiver := (h.fileReceiver.receive h.files ((accepted arrivals).filterMap file?)).1
        files := (h.fileReceiver.receive h.files ((accepted arrivals).filterMap file?)).2
        monitorSwitches := h.monitorSwitches ++ (accepted arrivals).filterMap switch?
        replies := h.replies ++ arrivals.flatMap fun a =>
          (fromBytes a.2).toList.flatMap (ControlMessage.replies a.1) } := by
  induction arrivals generalizing h with
  | nil =>
    have hnil : ∀ {α : Type} (l : List α), l = l ++ [] := fun l => (List.append_nil l).symm
    exact congrArg₂ (HostEnd.mk _ _ _ _) (hnil _) (hnil _)
  | cons a arrivals ih =>
    show (h.onMessage a.1 a.2).onMessages arrivals = _
    rw [ih]
    cases hmsg : fromBytes a.2 with
    | none =>
      have haccepted : accepted (a :: arrivals) = accepted arrivals := List.filterMap_cons_none hmsg
      rw [onMessage_none hmsg, haccepted, List.flatMap_cons, hmsg]
      rfl
    | some msg =>
      have haccepted : accepted (a :: arrivals) = msg :: accepted arrivals :=
        List.filterMap_cons_some hmsg
      rw [onMessage_some hmsg, haccepted, List.flatMap_cons, hmsg]
      simp only [filterMap_cons_toList, List.foldl_append, FileReceiver.receive_append,
        List.append_assoc, Option.toList_some, List.flatMap_cons, List.flatMap_nil, List.append_nil]

/-! ## §3. A session. -/

/-- The tasks the controller spawns. -/
inductive ControllerTask where
  | sendInput (event : InputEvent)
  /-- `send_file`, with the id it makes up and what it reads at `path`. -/
  | sendFile (path transferId : String) (content : Except String Bytes)
  | requestMonitorList
  | switchMonitor (monitorId : Nat)
  /-- `on_local_change`. -/
  | localChange (text : String)

/-- The messages a task sends, one after the other, as long as no send fails. -/
def ControllerTask.script : ControllerTask → List ControlMessage
  | .sendInput event => [.input event]
  | .sendFile path t (.ok data) => (Visuara.Client.sendFile path t data).map .file
  | .sendFile _ _ (.error _) => []
  | .requestMonitorList => [.monitor .listRequest]
  | .switchMonitor monitorId => [.monitor (.switchRequest monitorId)]
  | .localChange text => [.clipboard (.textUpdated text)]

inductive SessionEvent where
  | spawn (task : ControllerTask)
  /-- The next send of the task `k`. -/
  | send (k : Nat)
  | fail (k : Nat) (onChannel : Bool)
  /-- The host handles the next message. -/
  | deliver (out : Outside)

def SessionEvent.task? : SessionEvent → Option ControllerTask
  | .spawn task => some task
  | _ => none

namespace DataChannel

def start (host : HostEnd S σ File) : DataChannel S σ File := ⟨.start, host⟩

def step (c : DataChannel S σ File) : SessionEvent → DataChannel S σ File
  | .spawn task => { c with line := c.line.step (.spawn task.script) }
  | .send k => { c with line := c.line.step (.send k) }
  | .fail k onChannel => { c with line := c.line.step (.fail k onChannel) }
  | .deliver out =>
    match c.line.head? with
    | some msg => ⟨c.line.step .receive, c.host.onMessage out msg.toBytes⟩
    | none => c

def run (c : DataChannel S σ File) (events : List SessionEvent) : DataChannel S σ File :=
  events.foldl step c

/-- The tasks that are spawned, with the oldest first. -/
def tasks (events : List SessionEvent) : List ControllerTask :=
  events.filterMap SessionEvent.task?

/-! ## §4. What every session keeps. -/

/-- The channel is in order, and the host has handled what it received. -/
structure Running (host : HostEnd S σ File) (spawned : List ControllerTask)
    (c : DataChannel S σ File) : Prop where
  accounted : c.line.Accounted
  scripts : c.line.scripts = spawned.map ControllerTask.script
  handled : ∃ arrivals : List (Outside × Bytes),
    arrivals.map Prod.snd = c.line.received.map ControlMessage.toBytes
      ∧ c.host = host.onMessages arrivals

variable {host : HostEnd S σ File} {spawned : List ControllerTask} {c : DataChannel S σ File}

theorem running_start (host : HostEnd S σ File) : Running host [] (start host) where
  accounted := Line.accounted_start
  scripts := rfl
  handled := ⟨[], rfl, rfl⟩

/-- The steps of the controller's end. -/
theorem Running.sends (h : Running host spawned c) (e : LineEvent ControlMessage)
    (more : List ControllerTask) (he : e ≠ .receive)
    (hmore : e.script?.toList = more.map ControllerTask.script) :
    Running host (spawned ++ more) { c with line := c.line.step e } where
  accounted := h.accounted.step e
  scripts := by rw [Line.scripts_step, h.scripts, hmore, List.map_append]
  handled := by
    rw [h.accounted.received_step he]
    exact h.handled

theorem Running.step (h : Running host spawned c) (e : SessionEvent) :
    Running host (spawned ++ e.task?.toList) (c.step e) := by
  cases e with
  | spawn task => exact h.sends (.spawn task.script) [task] nofun rfl
  | send k => exact h.sends (.send k) [] nofun rfl
  | fail k onChannel => exact h.sends (.fail k onChannel) [] nofun rfl
  | deliver out =>
    show Running host (spawned ++ []) _
    rw [List.append_nil, DataChannel.step]
    split
    · next msg hmsg =>
      obtain ⟨arrivals, hbytes, hhost⟩ := h.handled
      refine ⟨h.accounted.step .receive, ?_, arrivals ++ [(out, msg.toBytes)], ?_, ?_⟩
      · rw [Line.scripts_step, h.scripts]
        exact List.append_nil _
      · rw [Line.received_receive, hmsg, List.map_append, List.map_append, hbytes]
        rfl
      · rw [hhost, HostEnd.onMessages, HostEnd.onMessages, List.foldl_append]
        rfl
    · exact h

theorem Running.run (h : Running host spawned c) (events : List SessionEvent) :
    Running host (spawned ++ tasks events) (c.run events) := by
  induction events generalizing c spawned with
  | nil => rwa [tasks, List.filterMap_nil, List.append_nil]
  | cons e es ih =>
    have hlater := ih (h.step e)
    rwa [List.append_assoc, tasks, ← filterMap_cons_toList] at hlater

theorem running_run (host : HostEnd S σ File) (events : List SessionEvent) :
    Running host (tasks events) ((start host).run events) :=
  (running_start host).run events

/-- Every message of a task has values its types can hold. -/
def Sendable (task : ControllerTask) : Prop := ∀ msg ∈ task.script, msg.InRange

instance (task : ControllerTask) : Decidable (Sendable task) :=
  inferInstanceAs (Decidable (∀ msg ∈ task.script, msg.InRange))

/-- What the host accepts is what was sent. -/
theorem accepted_of_bytes {arrivals : List (Outside × Bytes)} {msgs : List ControlMessage}
    (hbytes : arrivals.map Prod.snd = msgs.map ControlMessage.toBytes)
    (hrange : ∀ msg ∈ msgs, msg.InRange) : accepted arrivals = msgs := by
  have hmap : accepted arrivals = (arrivals.map Prod.snd).filterMap fromBytes := by
    rw [List.filterMap_map]
    rfl
  rw [hmap, hbytes, List.filterMap_map]
  have hall : ∀ msg ∈ msgs, (fromBytes ∘ ControlMessage.toBytes) msg = some msg :=
    fun msg hmsg => fromBytes_toBytes (hrange msg hmsg)
  rw [List.filterMap_congr hall, List.filterMap_some]

/-- **The host does what the messages say, in the order in which they were sent.** -/
theorem Running.host_eq (h : Running host spawned c) (hrange : ∀ task ∈ spawned, Sendable task) :
    ∃ arrivals : List (Outside × Bytes), accepted arrivals = c.line.received
      ∧ c.host = host.onMessages arrivals := by
  obtain ⟨arrivals, hbytes, hhost⟩ := h.handled
  refine ⟨arrivals, accepted_of_bytes hbytes fun msg hmsg => ?_, hhost⟩
  obtain ⟨s, hs, hscript⟩ := h.accounted.mem_script hmsg
  have hmem : s.script ∈ c.line.scripts := List.mem_map.mpr ⟨s, hs, rfl⟩
  rw [h.scripts] at hmem
  obtain ⟨task, htask, heq⟩ := List.mem_map.mp hmem
  exact hrange task htask msg (heq ▸ hscript)

end DataChannel

end Visuara.Client
