/-
  Visuara.Client.Menu
  ───────────────────
  **WHAT IS PICKED IN THE MENU IS WHAT IS CAPTURED** (`capture.rs`, `host.rs`,
  `controller.rs`, `gui.rs`).

  The host lists its monitors; the list crosses the data channel and becomes the
  menu in the window; what is picked there crosses the channel the other way, and
  the capture thread looks for a monitor with its id:

    • `listMonitors`, `ControllerEnd` — the list, and the controller's end;
    • `Remote`            — a session with both ways of its channel;
    • `for_monitor_id_listed` — every entry of a list leads back to its monitor;
    • `picked_is_captured` — so in every run of a session.
-/
import Visuara.Client.LocalStorage
import Visuara.Client.Switching
import Visuara.Client.Window

namespace Visuara.Client

open Interleave ControlMessage

/-! ## §1. The host: `list_monitors`. -/

/-- A monitor, with all that `xcap` tells of it. -/
structure Display where
  monitor : Monitor
  name : Except String String
  width : Except String Nat
  height : Except String Nat

def Display.info (d : Display) : Except String MonitorInfo := do
  pure {
    id := ← withContext "monitor id" d.monitor.id
    name := d.name.toOption.getD "unknown"
    width := ← withContext "monitor width" d.width
    height := ← withContext "monitor height" d.height
    isPrimary := d.monitor.isPrimary.toOption.getD false }

/-- `all` is what `Monitor::all` returns. -/
def listMonitors (all : Except String (List Display)) : Except String (List MonitorInfo) := do
  (← withContext "enumerate monitors" all).mapM Display.info

/-- What is captured of a display. -/
def monitorsOf (all : Except String (List Display)) : Except String (List Monitor) :=
  all.map (List.map Display.monitor)

/-- What succeeds as a whole succeeds in its first part. -/
theorem bind_eq_ok {α β : Type} {r : Except String α} {f : α → Except String β} {b : β}
    (h : (r >>= f) = .ok b) : ∃ a, r = .ok a ∧ f a = .ok b := by
  cases r with
  | error e => cases h
  | ok a => exact ⟨a, rfl, h⟩

/-- What is listed has the id of its monitor. -/
theorem Display.info_id {d : Display} {m : MonitorInfo} (h : d.info = .ok m) :
    d.monitor.id = .ok m.id := by
  obtain ⟨id, hid, h⟩ := bind_eq_ok h
  obtain ⟨width, -, h⟩ := bind_eq_ok h
  obtain ⟨height, -, h⟩ := bind_eq_ok h
  cases h
  exact withContext_eq_ok hid

/-- A list that can be made has an entry for each display. -/
theorem listMonitors_ok {displays : List Display} {infos : List MonitorInfo}
    (h : listMonitors (.ok displays) = .ok infos) :
    List.Forall₂ (fun d m => d.info = .ok m) displays infos := by
  change displays.mapM Display.info = .ok infos at h
  induction displays generalizing infos with
  | nil =>
    cases h
    exact .nil
  | cons d displays ih =>
    rw [List.mapM_cons] at h
    obtain ⟨m, hd, h⟩ := bind_eq_ok h
    obtain ⟨ms, hrest, h⟩ := bind_eq_ok h
    cases h
    exact .cons hd (ih hrest)

/-- **Every entry of a list leads back to its monitor**, if no two have the same id. -/
theorem for_monitor_id_listed {displays : List Display} {infos : List MonitorInfo}
    (h : List.Forall₂ (fun d m => d.info = .ok m) displays infos)
    (hids : (infos.map MonitorInfo.id).Nodup) {m : MonitorInfo} (hm : m ∈ infos) :
    ∃ d ∈ displays, d.info = .ok m
      ∧ Capturer.forMonitorId (monitorsOf (.ok displays)) m.id = .ok ⟨d.monitor⟩ := by
  have hfind : ∃ d ∈ displays, d.info = .ok m ∧ (displays.map Display.monitor).find?
      (fun x => x.id.toOption.getD 0 == m.id) = some d.monitor := by
    induction h with
    | nil => exact absurd hm List.not_mem_nil
    | @cons d m₀ displays infos hd hrest ih =>
      obtain ⟨hnew, hids⟩ := List.nodup_cons.mp hids
      have hid : d.monitor.id.toOption.getD 0 = m₀.id := by
        rw [Display.info_id hd]
        rfl
      rcases List.mem_cons.mp hm with rfl | hm
      · refine ⟨d, List.mem_cons_self, hd, ?_⟩
        rw [List.map_cons, List.find?_cons_of_pos (by simp [hid])]
      · obtain ⟨d', hd', hinfo, hfind⟩ := ih hids hm
        have hne : m₀.id ≠ m.id := fun heq => hnew (heq ▸ List.mem_map.mpr ⟨m, hm, rfl⟩)
        refine ⟨d', List.mem_cons_of_mem _ hd', hinfo, ?_⟩
        rw [List.map_cons, List.find?_cons_of_neg (by simpa [hid] using hne)]
        exact hfind
  obtain ⟨d, hd, hinfo, hfind⟩ := hfind
  refine ⟨d, hd, hinfo, ?_⟩
  simp only [Capturer.forMonitorId, monitorsOf, Except.map, bind, Except.bind]
  rw [hfind]
  rfl

/-! ## §2. A session. -/

/-- What the controller's handler of the data channel works on. -/
structure ControllerEnd where
  clipboardSync : ClipboardSync
  /-- The queue behind `monitor_tx`. -/
  monitorUpdates : List (List MonitorInfo)

/-- What `Monitor::all` says in a round of the capture thread. -/
def StreamEvent.looks? {E Frame : Type} : StreamEvent E Frame → Option (Except String (List Monitor))
  | .polls all => some all
  | _ => none

def ControllerTask.switch? : ControllerTask → Option Nat
  | .switchMonitor monitorId => some monitorId
  | _ => none

structure Remote (D V Image S σ File E : Type) where
  window : Window D V Image
  controllerEnd : ControllerEnd
  sharing : Sharing S σ File E
  /-- What the host has sent, with the oldest first. -/
  sent : List Bytes
  /-- How many of these messages the controller has handled. -/
  taken : Nat
  /-- The tasks of the controller, with the oldest first. -/
  spawned : List ControllerTask
  /-- The entries that have been picked, with the oldest first. -/
  picked : List MonitorInfo

inductive RemoteEvent (D V E Frame : Type) where
  | screen (event : ScreenEvent D V) (h : event ≠ .paint)
  | connected
  | repaint (ui : Repaint)
  /-- The task of `monitor_updates` takes the next list. -/
  | update
  | localChange (text : String)
  | send (k : Nat)
  | fail (k : Nat) (onChannel : Bool)
  /-- The host handles a message. -/
  | deliver (all : Except String (List Display)) (replySent : Bool)
  /-- `on_open` at the host, which does what a request does. -/
  | opens (all : Except String (List Display)) (listSent : Bool)
  /-- `on_local_change` at the host. -/
  | hostChange (text : String) (textSent : Bool)
  /-- The controller handles a message. -/
  | receives
  | video (event : StreamEvent E Frame) (h : event.request? = none)

/-- The host finds these displays whenever it looks, and sends texts that fit. -/
def RemoteEvent.Finds {D V E Frame : Type} (displays : List Display) :
    RemoteEvent D V E Frame → Prop
  | .deliver all _ | .opens all _ => all = .ok displays
  | .hostChange text _ => (ControlMessage.clipboard (.textUpdated text)).InRange
  | .video event _ => ∀ all, event.looks? = some all → all = monitorsOf (.ok displays)
  | _ => True

theorem filterMap_switch (task : ControllerTask) :
    task.script.filterMap ControlMessage.switch? = task.switch?.toList := by
  cases task with
  | sendFile path t content => exact filterMap_sendFile (fun _ => rfl) path t content
  | _ => rfl

namespace Window

variable {D V Image : Type} {w : Window D V Image}

/-- What is picked in a repaint. -/
def picks (w : Window D V Image) (ui : Repaint) : List MonitorInfo :=
  (w.dataChannel.bind fun _ => w.chosen ui).toList

theorem picks_mem {infos : List MonitorInfo} (hmenu : w.monitors = [] ∨ w.monitors = infos)
    {ui : Repaint} {m : MonitorInfo} (hm : m ∈ w.picks ui) : m ∈ infos := by
  obtain ⟨_, -, hchosen⟩ := Option.bind_eq_some_iff.mp (Option.mem_toList.mp hm)
  obtain ⟨i, -, hi⟩ := Option.bind_eq_some_iff.mp hchosen
  have hmem := List.mem_of_getElem? hi
  rcases hmenu with hnil | hall
  · rw [hnil] at hmem
    exact absurd hmem List.not_mem_nil
  · rwa [hall] at hmem

/-- The tasks of a repaint ask for what is picked in it. -/
theorem asked_picks [VideoDecoding D V Image] (w : Window D V Image) (ui : Repaint) :
    ((w.tasks (.repaint ui : WindowEvent D V)).map Prod.snd).filterMap ControllerTask.switch?
      = (w.picks ui).map MonitorInfo.id := by
  have hnone : (w.captures ui).filterMap ControllerTask.switch? = [] := by
    refine List.filterMap_eq_nil_iff.mpr fun task htask => ?_
    unfold captures at htask
    split at htask
    · rcases List.mem_append.mp htask with hfile | hinput
      · obtain ⟨_, -, rfl⟩ := List.mem_map.mp hfile
        rfl
      · obtain ⟨_, -, rfl⟩ := List.mem_map.mp hinput
        rfl
    · exact absurd htask List.not_mem_nil
  unfold picks tasks
  cases w.dataChannel with
  | none => rfl
  | some k =>
    simp only [List.map_map]
    show (((w.chosen ui).toList.map _ ++ w.captures ui).map id).filterMap _ = _
    rw [List.map_id, List.filterMap_append, hnone, List.append_nil]
    cases w.chosen ui <;> rfl

theorem monitors_repaint [VideoDecoding D V Image] (w : Window D V Image) (ui : Repaint) :
    (w.step (.repaint ui : WindowEvent D V)).monitors = w.monitors := by
  rw [step]
  split <;> rfl

end Window

section

variable [Bincode] {D V Image S σ File E Frame : Type} [VideoDecoding D V Image] [InputSink S]
  [FileSystem σ File] [VideoCodec E Frame]

/-- `on_message` of the controller. -/
def ControllerEnd.onMessage (c : ControllerEnd) (data : Bytes) : ControllerEnd :=
  match fromBytes data with
  | some (.clipboard (.textUpdated text)) =>
    { c with clipboardSync := c.clipboardSync.applyRemoteUpdate text }
  | some (.monitor (.list monitors)) =>
    { c with monitorUpdates := c.monitorUpdates ++ [monitors] }
  | some _ => c
  | none => c

namespace Remote

def start (host : HostEnd S σ File) (clipboardSync : ClipboardSync) :
    Remote D V Image S σ File E :=
  ⟨.start, ⟨clipboardSync, []⟩, .start host, [], 0, [], []⟩

variable (Frame) in
/-- The controller spawns tasks. -/
def spawn (r : Remote D V Image S σ File E) (tasks : List ControllerTask) :
    Remote D V Image S σ File E :=
  { r with
    sharing := r.sharing.run (tasks.map fun task => (.control (.spawn task) : SharingEvent E Frame))
    spawned := r.spawned ++ tasks }

def step (r : Remote D V Image S σ File E) :
    RemoteEvent D V E Frame → Remote D V Image S σ File E
  | .screen event h => { r with window := r.window.step (.screen event h) }
  | .connected => { r with window := r.window.step (.connected 0 : WindowEvent D V) }
  | .repaint ui =>
    { r.spawn Frame ((r.window.tasks (.repaint ui : WindowEvent D V)).map Prod.snd) with
      window := r.window.step (.repaint ui : WindowEvent D V)
      picked := r.picked ++ r.window.picks ui }
  | .update =>
    match r.controllerEnd.monitorUpdates with
    | monitors :: rest =>
      { r with
        window := r.window.step (.monitors monitors : WindowEvent D V)
        controllerEnd := { r.controllerEnd with monitorUpdates := rest } }
    | [] => r
  | .localChange text => r.spawn Frame [.localChange text]
  | .send k => { r with sharing := r.sharing.step (.control (.send k) : SharingEvent E Frame) }
  | .fail k onChannel =>
    { r with sharing := r.sharing.step (.control (.fail k onChannel) : SharingEvent E Frame) }
  | .deliver all replySent =>
    let out : Outside := ⟨listMonitors all, replySent⟩
    { r with
      sharing := r.sharing.step (.control (.deliver out) : SharingEvent E Frame)
      sent := r.sent ++ (r.sharing.control.step (.deliver out)).host.replies.drop
        r.sharing.control.host.replies.length }
  | .opens all listSent =>
    { r with sent := r.sent ++ replies ⟨listMonitors all, listSent⟩ (.monitor .listRequest) }
  | .hostChange text textSent =>
    if textSent then
      { r with sent := r.sent ++ [(ControlMessage.clipboard (.textUpdated text)).toBytes] }
    else r
  | .receives =>
    match r.sent[r.taken]? with
    | some data =>
      { r with controllerEnd := r.controllerEnd.onMessage data, taken := r.taken + 1 }
    | none => r
  | .video event h => { r with sharing := r.sharing.step (.video event h) }

def run (r : Remote D V Image S σ File E) (events : List (RemoteEvent D V E Frame)) :
    Remote D V Image S σ File E := events.foldl step r

/-! ## §3. What every run keeps. -/

/-- The list is on its way, or is the menu; what is picked from it is asked for. -/
structure Kept (host : HostEnd S σ File) (displays : List Display) (infos : List MonitorInfo)
    (r : Remote D V Image S σ File E) : Prop where
  sharing : Sharing.Kept host r.spawned r.sharing
  asked : r.spawned.filterMap ControllerTask.switch? = r.picked.map MonitorInfo.id
  entries : ∀ m ∈ r.picked, m ∈ infos
  menu : r.window.monitors = [] ∨ r.window.monitors = infos
  updates : ∀ monitors ∈ r.controllerEnd.monitorUpdates, monitors = infos
  sent : ∀ data ∈ r.sent, ∀ monitors, fromBytes data = some (.monitor (.list monitors)) →
    monitors = infos
  polled : ∀ p ∈ r.sharing.video.polled, p.2 = monitorsOf (.ok displays)

variable {host : HostEnd S σ File} {displays : List Display} {infos : List MonitorInfo}
  {r : Remote D V Image S σ File E}

variable (Frame) in
theorem kept_spawn {s : Sharing S σ File E} {spawned : List ControllerTask}
    (h : Sharing.Kept host spawned s) (tasks : List ControllerTask) :
    Sharing.Kept host (spawned ++ tasks)
        (s.run (tasks.map fun task => (.control (.spawn task) : SharingEvent E Frame)))
      ∧ (s.run (tasks.map fun task =>
          (.control (.spawn task) : SharingEvent E Frame))).video.polled = s.video.polled := by
  induction tasks generalizing s spawned with
  | nil => exact ⟨(List.append_nil spawned).symm ▸ h, rfl⟩
  | cons task tasks ih =>
    have hstep := h.step (.control (.spawn task) : SharingEvent E Frame)
    obtain ⟨hlater, hpolled⟩ := ih hstep
    refine ⟨?_, hpolled⟩
    rw [List.append_assoc] at hlater
    exact hlater

/-- The replies to a message that fits: if one is a list, it is that of the displays. -/
theorem reply_lists {all : Except String (List Display)} (hlist : listMonitors all = .ok infos)
    (hinfos : (ControlMessage.monitor (.list infos)).InRange) {msg : ControlMessage}
    (hmsg : msg.InRange) {replySent : Bool} {data : Bytes}
    (hdata : data ∈ replies ⟨listMonitors all, replySent⟩ msg) {monitors : List MonitorInfo}
    (hread : fromBytes data = some (.monitor (.list monitors))) : monitors = infos := by
  have hreply : ∀ reply : MonitorMessage, (ControlMessage.monitor reply).InRange →
      data ∈ HostEnd.reply ⟨listMonitors all, replySent⟩ reply → reply = .list monitors := by
    intro reply hrange hmem
    unfold HostEnd.reply at hmem
    split at hmem
    · rw [List.mem_singleton.mp hmem, fromBytes_toBytes hrange] at hread
      exact ControlMessage.monitor.inj (Option.some.inj hread)
    · exact absurd hmem List.not_mem_nil
  cases msg with
  | monitor msg =>
    cases msg with
    | listRequest =>
      simp only [replies, hlist] at hdata
      rw [← hlist] at hdata
      exact (MonitorMessage.list.inj (hreply _ hinfos hdata)).symm
    | switchRequest monitorId => cases hreply (.switched monitorId) hmsg hdata
    | _ => exact absurd hdata List.not_mem_nil
  | _ => exact absurd hdata List.not_mem_nil

/-- What the host sends when it handles a message. -/
theorem replies_deliver (c : DataChannel S σ File) (out : Outside) :
    (c.step (.deliver out)).host.replies = c.host.replies
      ++ c.line.head?.toList.flatMap fun msg => (fromBytes msg.toBytes).toList.flatMap (replies out) := by
  rw [DataChannel.step]
  split
  next msg hmsg =>
    have hapart := congrArg HostEnd.replies (c.host.handled_apart [(out, msg.toBytes)])
    rw [hmsg]
    refine hapart.trans ?_
    simp only [List.flatMap_cons, List.flatMap_nil, List.append_nil, Option.toList_some]
  next hnone =>
    rw [hnone]
    exact (List.append_nil _).symm

/-- A step of the session that spawns nothing. -/
theorem kept_quiet {s : Sharing S σ File E} {spawned : List ControllerTask}
    (h : Sharing.Kept host spawned s) (event : SharingEvent E Frame)
    (hno : event.control?.bind SessionEvent.task? = none) : Sharing.Kept host spawned (s.step event) := by
  have hstep := h.step event
  rwa [hno, Option.toList_none, List.append_nil] at hstep

/-- The controller's handler takes lists only. -/
theorem onMessage_updates (c : ControllerEnd) (data : Bytes) :
    (c.onMessage data).monitorUpdates = c.monitorUpdates
      ∨ ∃ monitors, fromBytes data = some (.monitor (.list monitors))
        ∧ (c.onMessage data).monitorUpdates = c.monitorUpdates ++ [monitors] := by
  unfold ControllerEnd.onMessage
  split
  next => exact .inl rfl
  next monitors hread => exact .inr ⟨monitors, hread, rfl⟩
  next => exact .inl rfl
  next => exact .inl rfl

theorem Kept.step (h : Kept host displays infos r) (hlist : listMonitors (.ok displays) = .ok infos)
    (hinfos : (ControlMessage.monitor (.list infos)).InRange) (event : RemoteEvent D V E Frame)
    (hfinds : event.Finds displays) : Kept host displays infos (r.step event) := by
  cases event with
  | screen event hno => exact ⟨h.sharing, h.asked, h.entries, h.menu, h.updates, h.sent, h.polled⟩
  | connected => exact ⟨h.sharing, h.asked, h.entries, h.menu, h.updates, h.sent, h.polled⟩
  | repaint ui =>
    obtain ⟨hsharing, hpolled⟩ := kept_spawn Frame h.sharing
      ((r.window.tasks (.repaint ui : WindowEvent D V)).map Prod.snd)
    refine ⟨hsharing, ?_, ?_, ?_, h.updates, h.sent, ?_⟩
    · show (r.spawned ++ _).filterMap _ = (r.picked ++ r.window.picks ui).map _
      rw [List.filterMap_append, h.asked, Window.asked_picks, List.map_append]
    · exact List.forall_mem_append.mpr ⟨h.entries, fun m hm => Window.picks_mem h.menu hm⟩
    · exact (Window.monitors_repaint (D := D) (V := V) r.window ui).symm ▸ h.menu
    · intro p hp
      exact h.polled p (hpolled ▸ hp)
  | update =>
    simp only [Remote.step]
    split
    next monitors rest hqueue =>
      have hall : ∀ l ∈ monitors :: rest, l = infos := fun l hl => h.updates l (hqueue ▸ hl)
      exact ⟨h.sharing, h.asked, h.entries, .inr (hall _ List.mem_cons_self),
        fun l hl => hall l (List.mem_cons_of_mem _ hl), h.sent, h.polled⟩
    next => exact h
  | localChange text =>
    obtain ⟨hsharing, hpolled⟩ := kept_spawn Frame h.sharing [.localChange text]
    refine ⟨hsharing, ?_, h.entries, h.menu, h.updates, h.sent,
      fun p hp => h.polled p (hpolled ▸ hp)⟩
    show (r.spawned ++ _).filterMap _ = _
    rw [List.filterMap_append, h.asked]
    exact List.append_nil _
  | send k =>
    exact ⟨kept_quiet h.sharing (.control (.send k) : SharingEvent E Frame) rfl, h.asked, h.entries,
      h.menu, h.updates, h.sent, h.polled⟩
  | fail k onChannel =>
    exact ⟨kept_quiet h.sharing (.control (.fail k onChannel) : SharingEvent E Frame) rfl, h.asked,
      h.entries, h.menu, h.updates, h.sent, h.polled⟩
  | deliver all replySent =>
    obtain rfl : all = .ok displays := hfinds
    refine ⟨kept_quiet h.sharing (.control (.deliver _) : SharingEvent E Frame) rfl, h.asked,
      h.entries, h.menu, h.updates, List.forall_mem_append.mpr ⟨h.sent, ?_⟩, h.polled⟩
    intro data hnew monitors hread
    rw [replies_deliver, List.drop_left] at hnew
    obtain ⟨msg, -, hmsg⟩ := List.mem_flatMap.mp hnew
    obtain ⟨msg', hmsg', hreply⟩ := List.mem_flatMap.mp hmsg
    have hrange := ((fromBytes_iff _ _).mp (Option.mem_toList.mp hmsg')).1
    exact reply_lists hlist hinfos hrange hreply hread
  | opens all listSent =>
    obtain rfl : all = .ok displays := hfinds
    refine ⟨h.sharing, h.asked, h.entries, h.menu, h.updates,
      List.forall_mem_append.mpr ⟨h.sent, ?_⟩, h.polled⟩
    intro data hnew monitors hread
    have hrequest : (ControlMessage.monitor .listRequest).InRange := trivial
    exact reply_lists hlist hinfos hrequest hnew hread
  | hostChange text textSent =>
    simp only [Remote.step]
    split
    · refine ⟨h.sharing, h.asked, h.entries, h.menu, h.updates,
        List.forall_mem_append.mpr ⟨h.sent, ?_⟩, h.polled⟩
      intro data hnew monitors hread
      have hrange : (ControlMessage.clipboard (.textUpdated text)).InRange := hfinds
      rw [List.mem_singleton.mp hnew, fromBytes_toBytes hrange] at hread
      cases hread
    · exact h
  | receives =>
    simp only [Remote.step]
    split
    next data hdata =>
      refine ⟨h.sharing, h.asked, h.entries, h.menu, ?_, h.sent, h.polled⟩
      intro l hl
      rcases onMessage_updates r.controllerEnd data with hsame | ⟨monitors, hread, hmore⟩
      · exact h.updates l (hsame ▸ hl)
      · rcases List.mem_append.mp (hmore ▸ hl) with hold | hnew
        · exact h.updates l hold
        · rw [List.mem_singleton.mp hnew]
          exact h.sent data (List.mem_of_getElem? hdata) monitors hread
    next => exact h
  | video event hno =>
    refine ⟨kept_quiet h.sharing (.video event hno) rfl, h.asked, h.entries, h.menu, h.updates,
      h.sent, ?_⟩
    intro p hp
    rcases Streaming.polled_step r.sharing.video event with hsame | ⟨monitorId, all, rfl, hmore⟩
    · exact h.polled p (hsame ▸ hp)
    · rcases List.mem_append.mp (hmore ▸ hp) with hold | hnew
      · exact h.polled p hold
      · rw [List.mem_singleton.mp hnew]
        exact hfinds all rfl

theorem kept_run (hqueue : host.monitorSwitches = []) (clipboardSync : ClipboardSync)
    (hlist : listMonitors (.ok displays) = .ok infos)
    (hinfos : (ControlMessage.monitor (.list infos)).InRange)
    {events : List (RemoteEvent D V E Frame)} (hfinds : ∀ e ∈ events, e.Finds displays) :
    Kept host displays infos
      ((start host clipboardSync : Remote D V Image S σ File E).run events) := by
  have hrun : ∀ r : Remote D V Image S σ File E, Kept host displays infos r →
      Kept host displays infos (r.run events) := by
    induction events with
    | nil => exact fun r h => h
    | cons e events ih =>
      intro r h
      exact ih (fun e he => hfinds e (List.mem_cons_of_mem _ he)) _
        (h.step hlist hinfos e (hfinds e List.mem_cons_self))
  refine hrun _ ⟨⟨DataChannel.running_start host, Streaming.follows_start, hqueue.symm⟩, rfl, nofun,
    .inl rfl, nofun, nofun, nofun⟩

/-! ## §4. What is captured. -/

omit [VideoDecoding D V Image] in
theorem Kept.requests (h : Kept host displays infos r) (hqueue : host.monitorSwitches = [])
    (hrange : ∀ task ∈ r.spawned, DataChannel.Sendable task) :
    r.sharing.video.requests = r.sharing.control.line.received.filterMap switch? :=
  h.sharing.requests.trans (h.sharing.host_switches hqueue hrange)

omit [VideoDecoding D V Image] in
/-- What is asked for on the host has been picked in the window. -/
theorem Kept.picked_of_request (h : Kept host displays infos r)
    (hqueue : host.monitorSwitches = []) (hrange : ∀ task ∈ r.spawned, DataChannel.Sendable task)
    {monitorId : Nat} (hmem : monitorId ∈ r.sharing.video.requests) :
    ∃ m ∈ r.picked, m.id = monitorId := by
  rw [h.requests hqueue hrange] at hmem
  obtain ⟨msg, hmsg, hswitch⟩ := List.mem_filterMap.mp hmem
  obtain ⟨s, hs, hscript⟩ := h.sharing.running.accounted.mem_script hmsg
  have hasked : monitorId ∈ r.sharing.control.line.scripts.flatten.filterMap switch? :=
    List.mem_filterMap.mpr ⟨msg, List.mem_flatten.mpr ⟨s.script, List.mem_map.mpr ⟨s, hs, rfl⟩,
      hscript⟩, hswitch⟩
  rw [h.sharing.running.scripts, filterMap_scripts filterMap_switch, h.asked] at hasked
  exact List.mem_map.mp hasked

/-- The display of an entry. -/
def Shows (displays : List Display) (m : MonitorInfo) (monitor : Monitor) : Prop :=
  ∃ d ∈ displays, d.info = .ok m ∧ monitor = d.monitor

omit [VideoDecoding D V Image] in
/-- A request is met with the monitor of its entry. -/
theorem Kept.resolves (h : Kept host displays infos r) (hlist : listMonitors (.ok displays) = .ok infos)
    (hids : (infos.map MonitorInfo.id).Nodup) {p : Nat × Except String (List Monitor)}
    (hp : p ∈ r.sharing.video.polled) {m : MonitorInfo} (hm : m ∈ r.picked) (hid : m.id = p.1) :
    ∃ c, Streaming.resolve p = some c ∧ Shows displays m c.monitor := by
  obtain ⟨d, hd, hinfo, hfound⟩ :=
    for_monitor_id_listed (listMonitors_ok hlist) hids (h.entries m hm)
  refine ⟨⟨d.monitor⟩, ?_, d, hd, hinfo, rfl⟩
  rw [Streaming.resolve, h.polled p hp, ← hid, hfound]
  rfl

end Remote

end

/-! ## §5. Two displays. -/

def twoDisplays : List Display :=
  [⟨mainMonitor, .ok "main", .ok 1920, .ok 1080⟩,
    ⟨sideMonitor, .error "no name", .ok 1920, .ok 1080⟩]

def twoInfos : List MonitorInfo :=
  [⟨1, "main", 1920, 1080, true⟩, ⟨2, "unknown", 1920, 1080, false⟩]

/-- The second entry of the menu is picked. -/
def picking : List (RemoteEvent Unit Unit Unit Bytes) :=
  [.opens (.ok twoDisplays) true, .receives, .update, .connected,
    .video (.starts (monitorsOf (.ok twoDisplays)) (.ok ())) rfl,
    .repaint ⟨some 1, [], ⟨⟨⟨0, 0⟩, ⟨2, 2⟩⟩, false, false⟩, []⟩, .send 0,
    .deliver (.ok twoDisplays) true, .video (.polls (monitorsOf (.ok twoDisplays))) rfl]

open Fixint in
/-- The session after that. -/
def pickedSide : Remote Unit Unit Bytes (List InputEvent) Disk OpenFile Unit :=
  (Remote.start Sharing.twoMonitors (.start "")).run picking

end Visuara.Client
