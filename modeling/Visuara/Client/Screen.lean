/-
  Visuara.Client.Screen
  ─────────────────────
  **FROM THE VIDEO TRACK TO THE WINDOW** (`controller.rs`, `decode.rs`, `gui.rs`).

  `read_video_track` takes packets as the network delivers them and goes on
  after every one that it cannot use.  Its frames queue up until the window's
  task puts them, one over the other, into a slot; every repaint takes what is
  in the slot, and reads the size that came with it:

    • `VideoTrack.read`  — one packet;
    • `track_goes_on`    — only a failed read ends a track whose frames are wanted;
    • `shown_in_order`   — the window shows some of the frames, in their order,
      and maps the pointer by the size of the one it shows.
-/
import Visuara.Client.Pointer
import Visuara.Common.EmbeddedConfig

namespace Visuara.Client

/-! ## §1. The video track. -/

/-- `rtp` and `openh264`: the state of a depacketizer and of a decoder. -/
class VideoDecoding (D V Image : Type) where
  depacketize : Bytes → D → Except String Bytes × D
  decode : Bytes → V → Except String (Option Image) × V
  dimensions : Image → Nat × Nat

/-- `read_video_track` between two packets. -/
structure VideoTrack (D V Image : Type) where
  depacketizer : D
  decoder : V
  /-- What has been sent to `frame_tx`, with the oldest first. -/
  frames : List Image
  result : Option (Except String Unit)

namespace VideoTrack

variable {D V Image : Type} [VideoDecoding D V Image]

def start (depacketizer : D) (decoder : V) : VideoTrack D V Image := ⟨depacketizer, decoder, [], none⟩

/-- What comes of `read_rtp`; `wanted` says whether the receiver of the frames is there. -/
def read (t : VideoTrack D V Image) (wanted : Bool) (packet : Except String Bytes) :
    VideoTrack D V Image :=
  match t.result, packet with
  | some _, _ => t
  | none, .error e => { t with result := some (.error ("read RTP packet: " ++ e)) }
  | none, .ok payload =>
    match VideoDecoding.depacketize V Image payload t.depacketizer with
    | (.error _, depacketizer) => { t with depacketizer }
    | (.ok nal, depacketizer) =>
      if nal.isEmpty then { t with depacketizer }
      else
        match VideoDecoding.decode D nal t.decoder with
        | (.error _, decoder) => { t with depacketizer, decoder }
        | (.ok none, decoder) => { t with depacketizer, decoder }
        | (.ok (some frame), decoder) =>
          if wanted then { t with depacketizer, decoder, frames := t.frames ++ [frame] }
          else { t with depacketizer, decoder, result := some (.ok ()) }

def readAll (t : VideoTrack D V Image) (packets : List (Bool × Except String Bytes)) :
    VideoTrack D V Image := packets.foldl (fun t p => t.read p.1 p.2) t

/-- What a packet that is read does. -/
theorem read_ok (t : VideoTrack D V Image) (wanted : Bool) (payload : Bytes)
    (h : t.result = none) : (t.read wanted (.ok payload)).result = none
      ∨ wanted = false ∧ (t.read wanted (.ok payload)).result = some (.ok ()) := by
  simp only [read, h]
  split
  · exact .inl rfl
  · split
    · exact .inl rfl
    · split
      · exact .inl rfl
      · exact .inl rfl
      · split
        · exact .inl rfl
        · next hno => exact .inr ⟨by simpa using hno, rfl⟩

/-- Frames are only added. -/
theorem frames_read (t : VideoTrack D V Image) (wanted : Bool) (packet : Except String Bytes) :
    t.frames <+: (t.read wanted packet).frames := by
  unfold read
  split
  · exact List.prefix_rfl
  · exact List.prefix_rfl
  · split
    · exact List.prefix_rfl
    · split
      · exact List.prefix_rfl
      · split
        · exact List.prefix_rfl
        · exact List.prefix_rfl
        · split
          · exact List.prefix_append _ _
          · exact List.prefix_rfl

/-- A track that has ended stays so. -/
theorem readAll_ended {t : VideoTrack D V Image} (h : t.result ≠ none)
    (packets : List (Bool × Except String Bytes)) : (t.readAll packets).result ≠ none := by
  induction packets with
  | nil => exact h
  | cons p packets ih =>
    obtain ⟨r, hr⟩ := Option.ne_none_iff_exists'.mp h
    have hsame : t.read p.1 p.2 = t := by simp only [read, hr]
    show ((t.read p.1 p.2).readAll packets).result ≠ none
    rwa [hsame]

/-- **Only a failed read ends a track whose frames are wanted.**  Packets that
are malformed, empty, or do not decode, are dropped, however many they are. -/
theorem track_goes_on (t : VideoTrack D V Image) (h : t.result = none)
    (packets : List (Bool × Except String Bytes)) (hwanted : ∀ p ∈ packets, p.1 = true) :
    (t.readAll packets).result = none ↔ ∀ p ∈ packets, ∃ payload, p.2 = .ok payload := by
  induction packets generalizing t with
  | nil => exact iff_of_true h fun _ hp => absurd hp List.not_mem_nil
  | cons p packets ih =>
    obtain ⟨wanted, packet⟩ := p
    obtain rfl : wanted = true := hwanted _ List.mem_cons_self
    have hrest : ∀ p ∈ packets, p.1 = true := fun p hp => hwanted p (List.mem_cons_of_mem _ hp)
    cases packet with
    | ok payload =>
      rcases t.read_ok true payload h with hgoes | ⟨hno, -⟩
      · rw [List.forall_mem_cons]
        exact (ih _ hgoes hrest).trans (and_iff_right ⟨payload, rfl⟩).symm
      · exact absurd hno nofun
    | error e =>
      refine iff_of_false (readAll_ended ?_ packets) fun hall => ?_
      · simp only [read, h]
        exact nofun
      · obtain ⟨payload, heq⟩ := hall _ List.mem_cons_self
        exact absurd heq nofun

end VideoTrack

/-! ## §2. The window. -/

/-- What the window and the tasks behind it share; sessions are numbered in the
order in which they are connected. -/
structure Screen (D V Image : Type) where
  /-- The tracks for which a decoder could be created. -/
  tracks : Nat → Option (VideoTrack D V Image)
  /-- How many frames have been taken from a session's `frames`. -/
  pulled : Nat → Nat
  latestFrame : Option (Nat × Image)
  remoteSize : Option (Nat × Nat)
  texture : Option (Nat × Image)
  /-- Every frame that has been in the slot, and every one that has been shown. -/
  stored : List (Nat × Image)
  shown : List (Nat × Image)

inductive ScreenEvent (D V : Type) where
  /-- `on_track` of the session `k`. -/
  | onTrack (k : Nat) (depacketizer : D) (decoder : Except String V)
  | packet (k : Nat) (packet : Except String Bytes)
  /-- The session's task takes the next frame. -/
  | pull (k : Nat)
  | paint

namespace Screen

variable {D V Image : Type}

def start : Screen D V Image := ⟨fun _ => none, fun _ => 0, none, none, none, [], []⟩

/-- What the track of the session `k` has sent. -/
def frames (s : Screen D V Image) (k : Nat) : List Image :=
  match s.tracks k with
  | some t => t.frames
  | none => []

theorem frames_update {s : Screen D V Image} {k : Nat} {t : VideoTrack D V Image}
    (ht : s.frames k <+: t.frames) (j : Nat) :
    s.frames j <+: frames { s with tracks := Function.update s.tracks k (some t) } j := by
  by_cases hj : j = k
  · subst hj
    simp only [frames, Function.update_self]
    exact ht
  · simp only [frames, Function.update_of_ne hj]
    exact List.prefix_rfl

variable [VideoDecoding D V Image]

variable (D V) in
/-- The size of a picture. -/
def dimensions (frame : Nat × Image) : Nat × Nat := VideoDecoding.dimensions D V frame.2

def step (s : Screen D V Image) : ScreenEvent D V → Screen D V Image
  | .onTrack k depacketizer decoder =>
    match s.tracks k, decoder with
    | none, .ok decoder =>
      { s with tracks := Function.update s.tracks k (some (.start depacketizer decoder)) }
    | _, _ => s
  | .packet k packet =>
    match s.tracks k with
    | some t => { s with tracks := Function.update s.tracks k (some (t.read true packet)) }
    | none => s
  | .pull k =>
    match (s.frames k)[s.pulled k]? with
    | some frame =>
      { s with
        pulled := Function.update s.pulled k (s.pulled k + 1)
        remoteSize := some (dimensions D V (k, frame))
        latestFrame := some (k, frame)
        stored := s.stored ++ [(k, frame)] }
    | none => s
  | .paint =>
    match s.latestFrame with
    | some frame =>
      { s with latestFrame := none, texture := some frame, shown := s.shown ++ [frame] }
    | none => s

def run (s : Screen D V Image) (events : List (ScreenEvent D V)) : Screen D V Image :=
  events.foldl step s

/-- What a moved pointer makes of the state after a repaint. -/
def pointer (s : Screen D V Image) (pos : Pos2) (rect : Rect) : Option InputEvent :=
  match s.texture, s.remoteSize with
  | some _, some (remoteW, remoteH) => pointerMoved pos rect remoteW remoteH
  | _, _ => none

/-- Slot, window and size agree, and no session's frames are lost or overtaken on
the way into the slot. -/
structure Agrees (s : Screen D V Image) : Prop where
  bounded : ∀ k, s.pulled k ≤ (s.frames k).length
  taken : ∀ k, (s.stored.filter (·.1 = k)).map Prod.snd = (s.frames k).take (s.pulled k)
  newest : (s.latestFrame <|> s.texture) = s.stored.getLast?
  size : s.remoteSize = s.stored.getLast?.map (dimensions D V)
  shown : (s.shown ++ s.latestFrame.toList).Sublist s.stored

variable {s : Screen D V Image}

theorem agrees_start : Agrees (start : Screen D V Image) where
  bounded _ := Nat.zero_le _
  taken _ := rfl
  newest := rfl
  size := rfl
  shown := List.Sublist.refl _

/-- Steps of the tracks only add frames. -/
theorem Agrees.tracks (h : Agrees s) {tracks : Nat → Option (VideoTrack D V Image)}
    (hgrow : ∀ k, s.frames k <+: frames { s with tracks } k) : Agrees { s with tracks } where
  bounded k := (h.bounded k).trans (hgrow k).length_le
  taken k := by
    obtain ⟨more, hmore⟩ := hgrow k
    rw [← hmore, List.take_append_of_le_length (h.bounded k)]
    exact h.taken k
  newest := h.newest
  size := h.size
  shown := h.shown

theorem Agrees.pull (h : Agrees s) {k : Nat} {frame : Image}
    (hframe : (s.frames k)[s.pulled k]? = some frame) : Agrees { s with
      pulled := Function.update s.pulled k (s.pulled k + 1)
      remoteSize := some (dimensions D V (k, frame))
      latestFrame := some (k, frame)
      stored := s.stored ++ [(k, frame)] } where
  bounded j := by
    by_cases hj : j = k
    · subst hj
      obtain ⟨hlt, -⟩ := List.getElem?_eq_some_iff.mp hframe
      show Function.update s.pulled j (s.pulled j + 1) j ≤ _
      rw [Function.update_self]
      exact hlt
    · show Function.update s.pulled k (s.pulled k + 1) j ≤ _
      rw [Function.update_of_ne hj]
      exact h.bounded j
  taken j := by
    show ((s.stored ++ [(k, frame)]).filter _).map _
      = (s.frames j).take (Function.update s.pulled k (s.pulled k + 1) j)
    rw [List.filter_append, List.map_append, h.taken j]
    by_cases hj : j = k
    · subst hj
      rw [Function.update_self, List.take_add_one, hframe, List.filter_cons_of_pos (by simp)]
      rfl
    · rw [Function.update_of_ne hj, List.filter_cons_of_neg (by simpa using fun heq => hj heq.symm)]
      exact List.append_nil _
  newest := by
    show some (k, frame) = (s.stored ++ [(k, frame)]).getLast?
    rw [List.getLast?_concat]
  size := by
    show some (dimensions D V (k, frame)) = (s.stored ++ [(k, frame)]).getLast?.map _
    rw [List.getLast?_concat, Option.map_some]
  shown := by
    -- the frame that was in the slot is gone
    have hbefore : s.shown.Sublist s.stored :=
      (List.sublist_append_left _ _).trans h.shown
    exact hbefore.append (List.Sublist.refl _)

theorem Agrees.paint (h : Agrees s) {frame : Nat × Image} (hslot : s.latestFrame = some frame) :
    Agrees { s with latestFrame := none, texture := some frame, shown := s.shown ++ [frame] } where
  bounded := h.bounded
  taken := h.taken
  newest := by
    have hnewest := h.newest
    rw [hslot] at hnewest
    exact hnewest
  size := h.size
  shown := by
    have hshown := h.shown
    rw [hslot] at hshown
    rwa [Option.toList_none, List.append_nil]

theorem Agrees.step (h : Agrees s) (event : ScreenEvent D V) : Agrees (s.step event) := by
  cases event with
  | onTrack k depacketizer decoder =>
    simp only [Screen.step]
    split
    · next hnone =>
      refine h.tracks fun j => frames_update ?_ j
      simp only [frames, hnone]
      exact List.nil_prefix
    · exact h
  | packet k packet =>
    rw [Screen.step]
    split
    · next t ht =>
      refine h.tracks fun j => frames_update ?_ j
      simp only [frames, ht]
      exact t.frames_read true packet
    · exact h
  | pull k =>
    rw [Screen.step]
    split
    · next frame hframe => exact h.pull hframe
    · exact h
  | paint =>
    rw [Screen.step]
    split
    · next frame hslot => exact h.paint hslot
    · exact h

theorem agrees_run (h : Agrees s) (events : List (ScreenEvent D V)) : Agrees (s.run events) := by
  induction events generalizing s with
  | nil => exact h
  | cons event events ih => exact ih (h.step event)

/-- A repaint shows what was put into the slot last. -/
theorem Agrees.texture_paint (h : Agrees s) :
    (s.step (.paint : ScreenEvent D V)).texture = s.stored.getLast? := by
  have hnewest := h.newest
  rw [Screen.step]
  split
  · next frame hslot =>
    rw [hslot] at hnewest
    exact hnewest
  · next hslot =>
    rw [hslot] at hnewest
    exact hnewest

/-- **The window shows some of the frames, in their order, and maps the pointer
by the size of the one it shows.**  Take any number of sessions whose tracks
read any packets, and repaints at any time.  A first part of every session's
frames has been in the slot, in order; what has been shown is some of that, in
order; and every repaint shows the newest of them and makes the pointer's
coordinates with its size. -/
theorem shown_in_order (events : List (ScreenEvent D V)) :
    let s := (start : Screen D V Image).run events
    (∀ k, (s.stored.filter (·.1 = k)).map Prod.snd <+: s.frames k)
    ∧ s.shown.Sublist s.stored
    ∧ (s.step (.paint : ScreenEvent D V)).texture = s.stored.getLast?
    ∧ ∀ pos rect, (s.step (.paint : ScreenEvent D V)).pointer pos rect
      = s.stored.getLast?.bind fun frame =>
        pointerMoved pos rect (dimensions D V frame).1 (dimensions D V frame).2 := by
  intro s
  have h : Agrees s := agrees_run agrees_start events
  refine ⟨fun k => ?_, (List.sublist_append_left _ _).trans h.shown, h.texture_paint,
    fun pos rect => ?_⟩
  · rw [h.taken k]
    exact List.take_prefix _ _
  · have hsize : (s.step (.paint : ScreenEvent D V)).remoteSize
        = s.stored.getLast?.map (dimensions D V) := by
      rw [← h.size, Screen.step]
      split <;> rfl
    rw [pointer, h.texture_paint, hsize]
    cases s.stored.getLast? with
    | none => rfl
    | some frame => rfl

end Screen

end Visuara.Client
