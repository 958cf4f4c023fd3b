/-
  Visuara.Client.Switching
  ────────────────────────
  **WHICH MONITOR THE CONTROLLER SEES** (`gui.rs`, `host.rs`, `capture.rs`).

  A choice in the controller's window becomes a task, its message crosses the
  data channel, the host's handler puts it into a queue, and the capture thread
  looks at one entry of the queue in every round.  All four go on by themselves:

    • `Sharing`       — a session with its data channel and its video stream;
    • `switches_kept` — no request is lost, doubled or overtaken on the way;
    • `captures_last_request` — what is captured, at every moment and at rest.
-/
import Visuara.Client.DataChannel
import Visuara.Client.Streaming

namespace Visuara.Client

open Interleave ControlMessage

/-! ## §1. A session. -/

structure Sharing (S σ File E : Type) where
  control : DataChannel S σ File
  video : Streaming E

inductive SharingEvent (E Frame : Type) where
  | control (event : SessionEvent)
  /-- A step of the capture thread or of the loop that writes. -/
  | video (event : StreamEvent E Frame) (h : event.request? = none)

def SharingEvent.control? {E Frame : Type} : SharingEvent E Frame → Option SessionEvent
  | .control event => some event
  | .video _ _ => none

namespace Sharing

section

variable [Bincode] {S σ File E Frame : Type} [InputSink S] [FileSystem σ File] [VideoCodec E Frame]

/-- What the handler puts into its queue is what the thread finds there. -/
def step (s : Sharing S σ File E) : SharingEvent E Frame → Sharing S σ File E
  | .control event =>
    { control := s.control.step event
      video := { s.video with
        monitorSwitches := s.video.monitorSwitches ++ (s.control.step event).host.monitorSwitches.drop
          s.control.host.monitorSwitches.length } }
  | .video event _ => { s with video := s.video.step event }

def run (s : Sharing S σ File E) (events : List (SharingEvent E Frame)) : Sharing S σ File E :=
  events.foldl step s

/-- A session as it begins. -/
def start (host : HostEnd S σ File) : Sharing S σ File E := ⟨.start host, .start⟩

/-- The tasks the controller spawns. -/
def tasks (events : List (SharingEvent E Frame)) : List ControllerTask :=
  DataChannel.tasks (events.filterMap SharingEvent.control?)

/-- The switches the controller has sent, in the order in which they went onto the channel. -/
def switches (s : Sharing S σ File E) : List Nat :=
  (s.control.line.sent.map Prod.snd).filterMap switch?

/-! ## §2. Every request on its way. -/

/-- The requests the handler has accepted are those the thread has looked at and
those it will look at. -/
structure Kept (host : HostEnd S σ File) (spawned : List ControllerTask)
    (s : Sharing S σ File E) : Prop where
  running : DataChannel.Running host spawned s.control
  follows : s.video.Follows
  requests : s.video.requests = s.control.host.monitorSwitches

variable {host : HostEnd S σ File} {spawned : List ControllerTask} {s : Sharing S σ File E}

/-- A message adds to the queue, or leaves it. -/
theorem switches_onMessage (h : HostEnd S σ File) (out : Outside) (data : Bytes) :
    h.monitorSwitches <+: (h.onMessage out data).monitorSwitches := by
  have hapart := h.handled_apart [(out, data)]
  rw [show h.onMessages [(out, data)] = h.onMessage out data from rfl] at hapart
  rw [hapart]
  exact List.prefix_append _ _

theorem switches_step (c : DataChannel S σ File) (event : SessionEvent) :
    c.host.monitorSwitches <+: (c.step event).host.monitorSwitches := by
  cases event with
  | deliver out =>
    rw [DataChannel.step]
    split
    · exact switches_onMessage _ _ _
    · exact List.prefix_rfl
  | _ => exact List.prefix_rfl

theorem Kept.step (h : Kept host spawned s) (event : SharingEvent E Frame) :
    Kept host (spawned ++ (event.control?.bind SessionEvent.task?).toList) (s.step event) := by
  cases event with
  | control event =>
    refine ⟨h.running.step event, ⟨h.follows.fresh, h.follows.current, h.follows.frames,
      h.follows.sorted⟩, ?_⟩
    show s.video.polled.map Prod.fst ++ (s.video.monitorSwitches ++ _) = _
    rw [← List.append_assoc]
    show s.video.requests ++ _ = _
    rw [h.requests]
    obtain ⟨more, hmore⟩ := switches_step s.control event
    show _ ++ ((s.control.step event).host.monitorSwitches.drop _) = _
    rw [← hmore, List.drop_left]
    exact hmore
  | video event hno =>
    have hdoes := Streaming.step_does s.video event
    rw [hno] at hdoes
    refine ⟨?_, h.follows.step hdoes, ?_⟩
    · show DataChannel.Running host (spawned ++ []) s.control
      rw [List.append_nil]
      exact h.running
    · show (s.video.step event).requests = _
      rw [Streaming.requests_step hdoes]
      exact (List.append_nil _).trans h.requests

theorem kept_run (host : HostEnd S σ File) (hqueue : host.monitorSwitches = [])
    (events : List (SharingEvent E Frame)) :
    Kept host (tasks events) ((start host : Sharing S σ File E).run events) := by
  have hrun : ∀ (s : Sharing S σ File E) (spawned : List ControllerTask), Kept host spawned s →
      Kept host (spawned ++ tasks events) (s.run events) := by
    induction events with
    | nil =>
      intro s spawned h
      exact (List.append_nil spawned).symm ▸ h
    | cons event events ih =>
      intro s spawned h
      have hlater := ih _ _ (h.step event)
      have htasks : tasks (event :: events)
          = (event.control?.bind SessionEvent.task?).toList ++ tasks events := by
        rw [tasks, filterMap_cons_toList]
        cases hc : event.control? with
        | none => rfl
        | some e => exact filterMap_cons_toList SessionEvent.task? e _
      rwa [htasks, ← List.append_assoc]
  exact hrun (start host) [] ⟨DataChannel.running_start host, Streaming.follows_start, hqueue.symm⟩

/-- The queue's history is that of the channel. -/
theorem Kept.host_switches (h : Kept host spawned s) (hqueue : host.monitorSwitches = [])
    (hrange : ∀ task ∈ spawned, DataChannel.Sendable task) :
    s.control.host.monitorSwitches = s.control.line.received.filterMap switch? := by
  obtain ⟨arrivals, haccepted, hhost⟩ := h.running.host_eq hrange
  rw [hhost, HostEnd.handled_apart, haccepted]
  show host.monitorSwitches ++ _ = _
  rw [hqueue, List.nil_append]

/-- **What is captured is what was asked for last.**  Take any session, with any
mix of tasks, messages, rounds of the capture thread and failures.  The requests
the thread has looked at are a first part of the switches the controller has
sent, in the order of the channel; every frame is of the monitor of the last one
before it that could be met, and of the primary monitor if there is none; and
when nothing is under way, all switches have been looked at. -/
theorem captures_last_request (host : HostEnd S σ File) (hqueue : host.monitorSwitches = [])
    (events : List (SharingEvent E Frame))
    (hrange : ∀ task ∈ tasks events, DataChannel.Sendable task) :
    let s := (start host : Sharing S σ File E).run events
    s.video.polled.map Prod.fst <+: s.switches
    ∧ (∀ x ∈ s.video.encoded, ∃ first, s.video.first = some first
      ∧ x.monitor = (Streaming.lastResolved first (s.video.polled.take x.handled)).monitor)
    ∧ s.video.encoded.Pairwise (fun x y => x.handled ≤ y.handled)
    ∧ (∀ c e place, s.video.thread = .runs c e place → ∃ first, s.video.first = some first
      ∧ c = Streaming.lastResolved first s.video.polled)
    ∧ (s.control.line.Drained → s.video.monitorSwitches = [] →
      s.video.polled.map Prod.fst = s.switches) := by
  intro s
  have h : Kept host (tasks events) s := kept_run host hqueue events
  have hreceived : s.video.polled.map Prod.fst ++ s.video.monitorSwitches
      = s.control.line.received.filterMap switch? :=
    h.requests.trans (h.host_switches hqueue hrange)
  refine ⟨?_, fun x hx => (h.follows.frames x hx).2, h.follows.sorted, h.follows.current, ?_⟩
  · have hpre : s.control.line.received.filterMap switch? <+: s.switches :=
      ((List.take_prefix _ _).map Prod.snd).filterMap switch?
    rw [← hreceived] at hpre
    exact (List.prefix_append _ _).trans hpre
  · intro hdrained hempty
    rw [hempty, List.append_nil, Line.received_of_drained hdrained] at hreceived
    exact hreceived

end

/-! ## §3. Two monitors. -/

/-- Frames that are sent as they are. -/
instance : VideoCodec Unit Bytes where
  encodeFrame frame e := (.ok frame, e)

/-- A host with nothing to receive and two monitors. -/
def twoMonitors : HostEnd (List InputEvent) Disk OpenFile where
  inputSink := []
  clipboardSync := .start ""
  fileReceiver := .new "/inbox"
  files := inboxDisk
  monitorSwitches := []
  replies := []

/-- One round of the capture thread, with a frame that is `[n]`. -/
def round (n : UInt8) : List (SharingEvent Unit Bytes) :=
  [.video (.polls (.ok [mainMonitor, sideMonitor])) rfl, .video (.captures (.ok [n])) rfl,
    .video .sends rfl, .video .wakes rfl]

/-- The controller asks for a monitor that is not there, and for the other one. -/
def choosing : List (SharingEvent Unit Bytes) :=
  [.control (.spawn (.switchMonitor 7)), .control (.spawn (.switchMonitor 2)),
    .video (.starts (.ok [mainMonitor, sideMonitor]) (.ok ())) rfl, .control (.send 0),
    .control (.send 1), .control (.deliver ⟨.ok [], true⟩), .control (.deliver ⟨.ok [], true⟩)]
    ++ round 1 ++ [.video (.writes true) rfl] ++ round 2

open Fixint in
theorem captures_last_request_choosing :
    ((start twoMonitors : Sharing _ _ _ Unit).run choosing).video.polled.map Prod.fst = [7, 2]
      ∧ ((start twoMonitors : Sharing _ _ _ Unit).run choosing).video.encoded.map
        (fun x => x.monitor.x) = [0, 1920] := by
  have hrange : ∀ task ∈ tasks choosing, DataChannel.Sendable task := by decide +kernel
  have hall := captures_last_request twoMonitors rfl choosing hrange
  have hdrained : ((start twoMonitors : Sharing _ _ _ Unit).run choosing).control.line.Drained := by
    decide +kernel
  have hempty : ((start twoMonitors : Sharing _ _ _ Unit).run choosing).video.monitorSwitches = [] := by
    decide +kernel
  have hswitches : ((start twoMonitors : Sharing _ _ _ Unit).run choosing).switches = [7, 2] := by
    decide +kernel
  exact ⟨(hall.2.2.2.2 hdrained hempty).trans hswitches, by decide +kernel⟩

end Sharing

end Visuara.Client
