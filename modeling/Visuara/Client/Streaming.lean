/-
  Visuara.Client.Streaming
  ────────────────────────
  **FROM THE MONITOR TO THE VIDEO TRACK** (`host.rs`).

  A thread of its own captures and encodes; its frames come to the session's
  loop over a channel with two places, and the session's requests to switch the
  monitor come to it over a queue, of which it looks at one in every round:

    • `Streaming`        — the thread, the channel and the loop that writes;
    • `frames_in_order`  — no frame is lost or overtaken while the loop runs;
    • `Follows`          — every frame is of the monitor asked for last.
-/
import Visuara.Client.Pointer
import Visuara.Common.EmbeddedConfig

namespace Visuara.Client

/-! ## §1. The capture thread. -/

/-- `VideoEncoder::encode_frame`. -/
class VideoCodec (E Frame : Type) where
  encodeFrame : Frame → E → Except String Bytes × E

/-- Where in its loop the thread is. -/
inductive Place where
  | polls
  | captures
  /-- In `blocking_send`, with the frame. -/
  | sends (bytes : Bytes)
  | sleeps

inductive CaptureThread (E : Type) where
  | starts
  | runs (capturer : Capturer) (encoder : E) (place : Place)
  | ended

/-- A frame that has been encoded: of which monitor, and after how many requests. -/
structure Encoded where
  monitor : Monitor
  handled : Nat
  bytes : Bytes

structure Streaming (E : Type) where
  /-- The queue behind `monitor_switch_tx`. -/
  monitorSwitches : List Nat
  thread : CaptureThread E
  /-- What is between `encoded_tx` and `encoded_rx`. -/
  channel : List Bytes
  /-- The session's loop has not returned. -/
  streaming : Bool
  /-- What has been given to `write_sample`. -/
  written : List Bytes
  /-- The capturer the thread has started with. -/
  first : Option Capturer
  /-- The requests `try_recv` has returned, with what `Monitor::all` said then. -/
  polled : List (Nat × Except String (List Monitor))
  encoded : List Encoded

inductive StreamEvent (E Frame : Type) where
  /-- `Capturer::primary` and `VideoEncoder::new`. -/
  | starts (all : Except String (List Monitor)) (encoder : Except String E)
  /-- `monitor_switch_tx.send`. -/
  | request (monitorId : Nat)
  | polls (all : Except String (List Monitor))
  | captures (frame : Except String Frame)
  | sends
  | wakes
  /-- The loop takes a frame and writes it, or fails to. -/
  | writes (ok : Bool)
  /-- The loop returns for another reason. -/
  | closes

/-- The request in an event. -/
def StreamEvent.request? {E Frame : Type} : StreamEvent E Frame → Option Nat
  | .request monitorId => some monitorId
  | _ => none

def Place.isSend : Place → Bool
  | .sends _ => true
  | _ => false

namespace Streaming

variable {E Frame : Type}

/-- The thread is about to be spawned. -/
def start : Streaming E := ⟨[], .starts, [], true, [], none, [], []⟩

/-- `mpsc::channel::<Vec<u8>>(2)`. -/
def capacity : Nat := 2

def step [VideoCodec E Frame] (s : Streaming E) : StreamEvent E Frame → Streaming E
  | .starts all encoder =>
    match s.thread with
    | .starts =>
      match Capturer.primary all, encoder with
      | .ok c, .ok e => { s with thread := .runs c e .polls, first := some c }
      | _, _ => { s with thread := .ended }
    | _ => s
  | .request monitorId => { s with monitorSwitches := s.monitorSwitches ++ [monitorId] }
  | .polls all =>
    match s.thread with
    | .runs c e .polls =>
      match s.monitorSwitches with
      | monitorId :: rest =>
        { s with
          monitorSwitches := rest
          thread := .runs (captureStep c (some (monitorId, all))) e .captures
          polled := s.polled ++ [(monitorId, all)] }
      | [] => { s with thread := .runs c e .captures }
    | _ => s
  | .captures frame =>
    match s.thread with
    | .runs c e .captures =>
      match frame with
      | .ok frame =>
        match VideoCodec.encodeFrame frame e with
        | (.ok bytes, e') =>
          { s with
            thread := .runs c e' (.sends bytes)
            encoded := s.encoded ++ [⟨c.monitor, s.polled.length, bytes⟩] }
        | (.error _, e') => { s with thread := .runs c e' .sleeps }
      | .error _ => { s with thread := .runs c e .sleeps }
    | _ => s
  | .sends =>
    match s.thread with
    | .runs c e (.sends bytes) =>
      if !s.streaming then { s with thread := .ended }
      else if s.channel.length < capacity then
        { s with thread := .runs c e .sleeps, channel := s.channel ++ [bytes] }
      else s
    | _ => s
  | .wakes =>
    match s.thread with
    | .runs c e .sleeps => { s with thread := .runs c e .polls }
    | _ => s
  | .writes ok =>
    if s.streaming then
      match s.channel with
      | bytes :: rest =>
        if ok then { s with channel := rest, written := s.written ++ [bytes] }
        else { s with channel := [], streaming := false }
      | [] => s
    else s
  | .closes => { s with channel := [], streaming := false }

def run [VideoCodec E Frame] (s : Streaming E) (events : List (StreamEvent E Frame)) :
    Streaming E := events.foldl step s

/-- The frame the thread is waiting with. -/
def waiting (s : Streaming E) : List Bytes :=
  match s.thread with
  | .runs _ _ (.sends bytes) => [bytes]
  | _ => []

/-! ## §2. What a step does. -/

/-- What a step comes to, case by case; the index is the request it brings. -/
inductive Does (s : Streaming E) : Option Nat → Streaming E → Prop
  | idle : Does s none s
  | request (monitorId : Nat) :
      Does s (some monitorId) { s with monitorSwitches := s.monitorSwitches ++ [monitorId] }
  | starts {c : Capturer} {e : E} (hthread : s.thread = .starts) :
      Does s none { s with thread := .runs c e .polls, first := some c }
  | fails (hthread : s.thread = .starts) : Does s none { s with thread := .ended }
  | polls {c : Capturer} {e : E} {monitorId : Nat} {rest : List Nat}
      {all : Except String (List Monitor)} (hthread : s.thread = .runs c e .polls)
      (hqueue : s.monitorSwitches = monitorId :: rest) :
      Does s none { s with
        monitorSwitches := rest
        thread := .runs (captureStep c (some (monitorId, all))) e .captures
        polled := s.polled ++ [(monitorId, all)] }
  | goes {c : Capturer} {e e' : E} {place place' : Place} (hthread : s.thread = .runs c e place)
      (hplace : place.isSend = false) (hplace' : place'.isSend = false) :
      Does s none { s with thread := .runs c e' place' }
  | encodes {c : Capturer} {e e' : E} {bytes : Bytes} (hthread : s.thread = .runs c e .captures) :
      Does s none { s with
        thread := .runs c e' (.sends bytes)
        encoded := s.encoded ++ [⟨c.monitor, s.polled.length, bytes⟩] }
  | sends {c : Capturer} {e : E} {bytes : Bytes} (hthread : s.thread = .runs c e (.sends bytes))
      (hstreaming : s.streaming = true) (hroom : s.channel.length < capacity) :
      Does s none { s with thread := .runs c e .sleeps, channel := s.channel ++ [bytes] }
  | stops {c : Capturer} {e : E} {bytes : Bytes} (hthread : s.thread = .runs c e (.sends bytes))
      (hstreaming : s.streaming = false) : Does s none { s with thread := .ended }
  | writes {bytes : Bytes} {rest : List Bytes} (hstreaming : s.streaming = true)
      (hchannel : s.channel = bytes :: rest) :
      Does s none { s with channel := rest, written := s.written ++ [bytes] }
  | closes : Does s none { s with channel := [], streaming := false }

/-- **Every step is one of the cases.** -/
theorem step_does [VideoCodec E Frame] (s : Streaming E) (ev : StreamEvent E Frame) :
    s.Does ev.request? (s.step ev) := by
  cases ev with
  | starts all encoder =>
    simp only [step]
    split
    · next hthread =>
      split
      · exact .starts hthread
      · exact .fails hthread
    · exact .idle
  | request monitorId => exact .request monitorId
  | polls all =>
    simp only [step]
    split
    · next c e hthread =>
      split
      · next hqueue => exact .polls hthread hqueue
      · exact .goes hthread rfl rfl
    · exact .idle
  | captures frame =>
    simp only [step]
    split
    · next c e hthread =>
      split
      · split
        · exact .encodes hthread
        · exact .goes hthread rfl rfl
      · exact .goes hthread rfl rfl
    · exact .idle
  | sends =>
    simp only [step]
    split
    · next c e bytes hthread =>
      split
      · next hno => exact .stops hthread (by simpa using hno)
      · next hyes =>
        split
        · next hroom => exact .sends hthread (by simpa using hyes) hroom
        · exact .idle
    · exact .idle
  | wakes =>
    simp only [step]
    split
    · next c e hthread => exact .goes hthread rfl rfl
    · exact .idle
  | writes ok =>
    simp only [step]
    split
    · next hyes =>
      split
      · next hchannel =>
        split
        · exact .writes hyes hchannel
        · exact .closes
      · exact .idle
    · exact .idle
  | closes => exact .closes

/-! ## §3. The frames. -/

/-- The frames on their way: as long as the loop runs, what has been encoded has
been written, is in the channel, or is what the thread is waiting with. -/
structure InOrder (s : Streaming E) : Prop where
  room : s.channel.length ≤ capacity
  flowing : s.streaming = true →
    s.encoded.map Encoded.bytes = s.written ++ s.channel ++ s.waiting
  closed : s.streaming = false → s.channel = []
  written : s.written <+: s.encoded.map Encoded.bytes

variable {s s' : Streaming E} {r : Option Nat}

theorem waiting_runs {c : Capturer} {e : E} {place : Place} (h : s.thread = .runs c e place)
    (hplace : place.isSend = false) : s.waiting = [] := by
  cases place with
  | sends bytes => exact absurd hplace nofun
  | _ => simp only [waiting, h]

theorem InOrder.step (h : InOrder s) (hdoes : s.Does r s') : InOrder s' := by
  cases hdoes with
  | idle => exact h
  | request monitorId => exact ⟨h.room, h.flowing, h.closed, h.written⟩
  | starts hthread =>
    have hwait : s.waiting = [] := by simp only [waiting, hthread]
    exact ⟨h.room, fun hs => (h.flowing hs).trans (by rw [hwait]; rfl), h.closed, h.written⟩
  | fails hthread =>
    have hwait : s.waiting = [] := by simp only [waiting, hthread]
    exact ⟨h.room, fun hs => (h.flowing hs).trans (by rw [hwait]; rfl), h.closed, h.written⟩
  | polls hthread =>
    have hwait := waiting_runs hthread rfl
    exact ⟨h.room, fun hs => (h.flowing hs).trans (by rw [hwait]; rfl), h.closed, h.written⟩
  | @goes c e e' place place' hthread hplace hplace' =>
    have hwait := waiting_runs hthread hplace
    have hwait' : waiting { s with thread := .runs c e' place' } = [] := waiting_runs rfl hplace'
    exact ⟨h.room, fun hs => (h.flowing hs).trans (by rw [hwait, hwait']), h.closed, h.written⟩
  | @encodes c e e' bytes hthread =>
    have hwait := waiting_runs hthread rfl
    refine ⟨h.room, fun hs => ?_, h.closed, ?_⟩
    · rw [List.map_append, h.flowing hs, hwait, List.append_nil]
      rfl
    · rw [List.map_append]
      exact h.written.trans (List.prefix_append _ _)
  | @sends c e bytes hthread hstreaming hroom =>
    have hwait : s.waiting = [bytes] := by simp only [waiting, hthread]
    refine ⟨?_, fun hs => ?_, fun hs => absurd (hstreaming.symm.trans hs) nofun, h.written⟩
    · rw [List.length_append]
      exact hroom
    · rw [h.flowing hs, hwait, List.append_assoc]
      show _ = s.written ++ (s.channel ++ [bytes]) ++ []
      rw [List.append_nil]
  | stops hthread hstreaming =>
    exact ⟨h.room, fun hs => absurd (hstreaming.symm.trans hs) nofun, h.closed, h.written⟩
  | @writes bytes rest hstreaming hchannel =>
    have hall := h.flowing hstreaming
    rw [hchannel] at hall
    have hsplit : s.encoded.map Encoded.bytes = s.written ++ [bytes] ++ rest ++ s.waiting := by
      rw [hall, List.append_assoc s.written [bytes] rest]
      rfl
    refine ⟨?_, fun _ => hsplit, fun hs => absurd (hstreaming.symm.trans hs) nofun, ?_⟩
    · have hroom := h.room
      rw [hchannel] at hroom
      exact (Nat.le_succ _).trans hroom
    · rw [hsplit, List.append_assoc]
      exact List.prefix_append _ _
  | closes => exact ⟨Nat.zero_le _, nofun, fun _ => rfl, h.written⟩

theorem inOrder_start : InOrder (start : Streaming E) :=
  ⟨Nat.zero_le _, fun _ => rfl, fun _ => rfl, List.nil_prefix⟩

/-- **No frame is lost or overtaken.**  In every run, the frames that have been
written, those in the channel and the one the thread waits with are, in this
order, all frames that have been encoded, as long as the loop runs; after that,
what has been written is still a first part of them.  The channel never holds
more than two. -/
theorem frames_in_order [VideoCodec E Frame] (events : List (StreamEvent E Frame)) :
    InOrder ((start : Streaming E).run events) := by
  have hrun : ∀ (s : Streaming E), InOrder s → InOrder (s.run events) := by
    induction events with
    | nil => exact fun s h => h
    | cons ev events ih => exact fun s h => ih _ (h.step (step_does s ev))
  exact hrun start inOrder_start

/-! ## §4. The monitor. -/

/-- What `for_monitor_id` makes of a request. -/
def resolve (request : Nat × Except String (List Monitor)) : Option Capturer :=
  (Capturer.forMonitorId request.2 request.1).toOption

/-- The capturer of the last request that could be met, or the one at first. -/
def lastResolved (first : Capturer) (polled : List (Nat × Except String (List Monitor))) :
    Capturer := (polled.reverse.findSome? resolve).getD first

theorem lastResolved_concat (first : Capturer) (polled : List (Nat × Except String (List Monitor)))
    (request : Nat × Except String (List Monitor)) :
    lastResolved first (polled ++ [request])
      = captureStep (lastResolved first polled) (some request) := by
  rw [lastResolved, List.reverse_append, List.reverse_singleton, List.singleton_append,
    List.findSome?_cons]
  cases h : resolve request with
  | some c =>
    rw [captureStep, show (Capturer.forMonitorId request.2 request.1).toOption = some c from h]
    rfl
  | none =>
    rw [captureStep, show (Capturer.forMonitorId request.2 request.1).toOption = none from h]
    rfl

/-- It is the first capturer, or that of one of the requests. -/
theorem lastResolved_cases (first : Capturer) (polled : List (Nat × Except String (List Monitor))) :
    lastResolved first polled = first
      ∨ ∃ p ∈ polled, resolve p = some (lastResolved first polled) := by
  unfold lastResolved
  cases h : polled.reverse.findSome? resolve with
  | none => exact .inl rfl
  | some c =>
    obtain ⟨p, hp, hc⟩ := List.exists_of_findSome?_eq_some h
    exact .inr ⟨p, List.mem_reverse.mp hp, hc⟩

/-- The thread and its frames follow the requests. -/
structure Follows (s : Streaming E) : Prop where
  fresh : s.thread = .starts → s.polled = [] ∧ s.encoded = []
  current : ∀ c e place, s.thread = .runs c e place →
    ∃ first, s.first = some first ∧ c = lastResolved first s.polled
  frames : ∀ x ∈ s.encoded, x.handled ≤ s.polled.length ∧
    ∃ first, s.first = some first ∧ x.monitor = (lastResolved first (s.polled.take x.handled)).monitor
  sorted : s.encoded.Pairwise fun x y => x.handled ≤ y.handled

/-- Requests that come later are nothing to frames that are there. -/
theorem Follows.frames_append (h : Follows s) (more : List (Nat × Except String (List Monitor))) :
    ∀ x ∈ s.encoded, x.handled ≤ (s.polled ++ more).length ∧ ∃ first, s.first = some first
      ∧ x.monitor = (lastResolved first ((s.polled ++ more).take x.handled)).monitor := by
  intro x hx
  obtain ⟨hle, hmonitor⟩ := h.frames x hx
  rw [List.take_append_of_le_length hle, List.length_append]
  exact ⟨hle.trans (Nat.le_add_right _ _), hmonitor⟩

theorem Follows.step (h : Follows s) (hdoes : s.Does r s') : Follows s' := by
  cases hdoes with
  | idle => exact h
  | request monitorId => exact ⟨h.fresh, h.current, h.frames, h.sorted⟩
  | @starts c e hthread =>
    obtain ⟨hpolled, hencoded⟩ := h.fresh hthread
    refine ⟨nofun, ?_, ?_, h.sorted⟩
    · rintro c' e' place heq
      cases heq
      refine ⟨c, rfl, ?_⟩
      show c = lastResolved c s.polled
      rw [hpolled]
      rfl
    · intro x hx
      rw [show s.encoded = [] from hencoded] at hx
      exact absurd hx List.not_mem_nil
  | fails hthread =>
    exact ⟨nofun, nofun, h.frames, h.sorted⟩
  | @polls c e monitorId rest all hthread hqueue =>
    obtain ⟨first, hfirst, hc⟩ := h.current c e _ hthread
    refine ⟨nofun, ?_, h.frames_append _, h.sorted⟩
    rintro c' e' place heq
    cases heq
    refine ⟨first, hfirst, ?_⟩
    rw [hc]
    exact (lastResolved_concat first s.polled (monitorId, all)).symm
  | @goes c e e' place place' hthread =>
    refine ⟨nofun, ?_, h.frames, h.sorted⟩
    rintro c' e'' place'' heq
    cases heq
    exact h.current c e place hthread
  | @encodes c e e' bytes hthread =>
    obtain ⟨first, hfirst, hc⟩ := h.current c e _ hthread
    refine ⟨nofun, ?_, ?_, ?_⟩
    · rintro c' e'' place'' heq
      cases heq
      exact ⟨first, hfirst, hc⟩
    · intro x hx
      rcases List.mem_append.mp hx with hx | hx
      · exact h.frames x hx
      · rw [List.mem_singleton.mp hx]
        refine ⟨Nat.le_refl _, first, hfirst, ?_⟩
        rw [List.take_length, hc]
    · refine List.pairwise_append.mpr ⟨h.sorted, List.pairwise_singleton _ _, ?_⟩
      intro x hx y hy
      rw [List.mem_singleton.mp hy]
      exact (h.frames x hx).1
  | @sends c e bytes hthread hstreaming hroom =>
    refine ⟨nofun, ?_, h.frames, h.sorted⟩
    rintro c' e' place heq
    cases heq
    exact h.current c e _ hthread
  | stops hthread hstreaming => exact ⟨nofun, nofun, h.frames, h.sorted⟩
  | writes hstreaming hchannel => exact ⟨h.fresh, h.current, h.frames, h.sorted⟩
  | closes => exact ⟨h.fresh, h.current, h.frames, h.sorted⟩

/-- The requests that have been looked at, and those that have not. -/
def requests (s : Streaming E) : List Nat := s.polled.map Prod.fst ++ s.monitorSwitches

theorem requests_step (hdoes : s.Does r s') : s'.requests = s.requests ++ r.toList := by
  cases hdoes with
  | request monitorId => exact (List.append_assoc _ _ _).symm
  | @polls c e monitorId rest all hthread hqueue =>
    show (s.polled ++ [(monitorId, all)]).map Prod.fst ++ rest = _
    rw [requests, hqueue, List.map_append, List.append_assoc]
    exact (List.append_nil _).symm
  | _ => exact (List.append_nil _).symm

/-- Only a round of the thread looks at the monitors. -/
theorem polled_step [VideoCodec E Frame] (s : Streaming E) (ev : StreamEvent E Frame) :
    (s.step ev).polled = s.polled ∨ ∃ monitorId all, ev = .polls all
      ∧ (s.step ev).polled = s.polled ++ [(monitorId, all)] := by
  cases ev with
  | polls all =>
    rw [step]
    split
    next c e hthread =>
      split
      next monitorId rest hqueue => exact .inr ⟨monitorId, all, rfl, rfl⟩
      next => exact .inl rfl
    next => exact .inl rfl
  | starts | request | captures | sends | wakes | writes | closes =>
    left
    simp only [step]
    repeat' split
    all_goals rfl

theorem follows_start : Follows (start : Streaming E) :=
  ⟨fun _ => ⟨rfl, rfl⟩, nofun, fun _ h => absurd h List.not_mem_nil, List.Pairwise.nil⟩

end Streaming

end Visuara.Client
