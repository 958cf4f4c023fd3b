/-
  Visuara.Client.ClipboardSync
  ────────────────────────────
  **TWO CLIPBOARDS, ONE TEXT.**

  Host and controller run the same loop: apply what the other side has sent,
  then report the own clipboard if it is not what was last seen.  Updates
  carry no order of their own, so two that cross on the wire swap the
  clipboards:

    • `ClipboardSync`     — the loop of one side, one call at a time;
    • `Link`              — both loops and the two channels between them;
    • `Synced`            — what every interleaving keeps;
    • `clipboards_agree`  — at rest, the two are equal or have crossed.
-/
import Mathlib.Logic.Function.Basic

namespace Visuara.Client

/-! ## §1. The loop of one side. -/

/-- The state of the polling thread, with the clipboard it polls. -/
structure ClipboardSync where
  /-- What `get_text` reads. -/
  clipboard : String
  lastSeen : String
  /-- The queue behind `remote_update_tx`. -/
  remoteUpdates : List String
  /-- `try_recv` has come back empty in this round. -/
  drained : Bool
  deriving DecidableEq, Repr

namespace ClipboardSync

/-- The thread as it starts, over a clipboard that holds `text`. -/
def start (text : String) : ClipboardSync := ⟨text, "", [], false⟩

/-- The user copies `text`. -/
def copy (text : String) (c : ClipboardSync) : ClipboardSync := { c with clipboard := text }

def applyRemoteUpdate (text : String) (c : ClipboardSync) : ClipboardSync :=
  { c with remoteUpdates := c.remoteUpdates ++ [text] }

/-- What one turn of the loop has done. -/
inductive Update where
  /-- `set_text` with an update of the other side. -/
  | applied (text : String)
  /-- `on_local_change`. -/
  | reported (text : String)
  deriving DecidableEq, Repr

/-- One call of `try_recv`, or one of `get_text`. -/
def turn (c : ClipboardSync) : Option Update × ClipboardSync :=
  if c.drained then
    if c.clipboard ≠ c.lastSeen then
      (some (.reported c.clipboard), { c with lastSeen := c.clipboard, drained := false })
    else (none, { c with drained := false })
  else
    match c.remoteUpdates with
    | text :: rest =>
      (some (.applied text),
        { c with clipboard := text, lastSeen := text, remoteUpdates := rest })
    | [] => (none, { c with drained := true })

/-- **What a turn can do**: nothing that shows, apply the next update, or report. -/
theorem turn_cases (c : ClipboardSync) :
    (c.turn.1 = none ∧ c.turn.2.lastSeen = c.lastSeen
        ∧ c.turn.2.remoteUpdates = c.remoteUpdates)
      ∨ (∃ text, c.turn.1 = some (.applied text) ∧ c.turn.2.lastSeen = text
        ∧ c.remoteUpdates = text :: c.turn.2.remoteUpdates)
      ∨ ∃ text, c.turn.1 = some (.reported text) ∧ c.turn.2.lastSeen = text
        ∧ c.turn.2.remoteUpdates = c.remoteUpdates := by
  unfold turn
  split
  next =>
    split
    next => exact .inr (.inr ⟨_, rfl, rfl, rfl⟩)
    next => exact .inl ⟨rfl, rfl, rfl⟩
  next =>
    split
    next text rest heq => exact .inr (.inl ⟨text, rfl, rfl, heq⟩)
    next heq => exact .inl ⟨rfl, rfl, rfl⟩

/-- The texts a side has reported, from its updates. -/
def reports : List Update → List String
  | [] => []
  | .reported text :: us => text :: reports us
  | .applied _ :: us => reports us

/-- The texts it has applied. -/
def applies : List Update → List String
  | [] => []
  | .applied text :: us => text :: applies us
  | .reported _ :: us => applies us

def Update.text : Update → String
  | .applied text | .reported text => text

/-- The text of the last update, and the empty one before the first. -/
def lastText : List Update → String
  | [] => ""
  | u :: _ => u.text

end ClipboardSync

/-! ## §2. Two sides and their channels. -/

open ClipboardSync

inductive Side where
  | host
  | controller
  deriving DecidableEq, Repr

def Side.peer : Side → Side
  | .host => .controller
  | .controller => .host

@[simp] theorem Side.peer_peer (side : Side) : side.peer.peer = side := by
  cases side <;> rfl

theorem Side.peer_ne (side : Side) : side.peer ≠ side := by
  cases side <;> exact nofun

theorem Side.eq_or_eq_peer (side other : Side) : other = side ∨ other = side.peer := by
  cases side <;> cases other <;> simp [peer]

/-- Both loops, the data channel in each direction, and what the loops have done. -/
structure Link where
  sync : Side → ClipboardSync
  /-- The messages on their way to a side, oldest first. -/
  wire : Side → List String
  /-- The updates of a side, newest first. -/
  trace : Side → List Update

namespace Link

def start (host controller : String) : Link where
  sync
    | .host => .start host
    | .controller => .start controller
  wire _ := []
  trace _ := []

/-- What can happen next. -/
inductive Event where
  | copy (side : Side) (text : String)
  | turn (side : Side)
  | deliver (side : Side)
  deriving DecidableEq, Repr

/-- A report goes onto the wire to the other side. -/
def send (side : Side) : Option Update → (Side → List String) → Side → List String
  | some (.reported text), wire => Function.update wire side.peer (wire side.peer ++ [text])
  | _, wire => wire

def step (l : Link) : Event → Link
  | .copy side text => { l with sync := Function.update l.sync side ((l.sync side).copy text) }
  | .turn side =>
    { sync := Function.update l.sync side (l.sync side).turn.2
      wire := send side (l.sync side).turn.1 l.wire
      trace := Function.update l.trace side ((l.sync side).turn.1.toList ++ l.trace side) }
  | .deliver side =>
    match l.wire side with
    | [] => l
    | text :: rest =>
      { l with
        sync := Function.update l.sync side ((l.sync side).applyRemoteUpdate text)
        wire := Function.update l.wire side rest }

def run (l : Link) (events : List Event) : Link := events.foldl step l

/-- What has been sent to a side and not been applied there. -/
def pending (l : Link) (side : Side) : List String :=
  (l.sync side).remoteUpdates ++ l.wire side

/-- All messages are delivered and neither loop has anything left to report. -/
def Quiescent (l : Link) : Prop :=
  ∀ side, l.pending side = [] ∧ (l.sync side).clipboard = (l.sync side).lastSeen

/-- The last thing each side did was to apply an update of the other: its own
last report was on the wire at the same time. -/
def Crossed (l : Link) : Prop :=
  ∀ side, ∃ text us, l.trace side = .applied text :: us

/-! ## §3. What every interleaving keeps. -/

/-- A side has last seen what it last did, each update is applied once and in
order, and no report is answered by silence. -/
structure Synced (l : Link) : Prop where
  seen : ∀ side, (l.sync side).lastSeen = lastText (l.trace side)
  relayed : ∀ side,
    reports (l.trace side.peer) = (l.pending side).reverse ++ applies (l.trace side)
  answered : ∀ side, (∃ text us, l.trace side = .reported text :: us) →
    l.pending side = [] → l.pending side.peer = [] →
    ∃ text us, l.trace side.peer = .applied text :: us

theorem synced_start (host controller : String) : Synced (start host controller) where
  seen side := by cases side <;> rfl
  relayed side := by cases side <;> rfl
  answered side := by
    rintro ⟨text, us, h⟩
    exact absurd h nofun

/-- What a step leaves of a link, as far as the invariant can see. -/
theorem Synced.of_same {l l' : Link} (h : Synced l)
    (hseen : ∀ side, (l'.sync side).lastSeen = (l.sync side).lastSeen)
    (hpending : ∀ side, l'.pending side = l.pending side)
    (htrace : ∀ side, l'.trace side = l.trace side) : Synced l' where
  seen side := by rw [hseen, htrace, h.seen]
  relayed side := by rw [htrace, htrace, hpending, h.relayed]
  answered side := by
    simp only [htrace, hpending]
    exact h.answered side

/-- Applying an update keeps it. -/
theorem Synced.apply {l l' : Link} (h : Synced l) (side : Side) (text : String)
    (hseen : (l'.sync side).lastSeen = text)
    (hseen' : (l'.sync side.peer).lastSeen = (l.sync side.peer).lastSeen)
    (hpending : l.pending side = text :: l'.pending side)
    (hpending' : l'.pending side.peer = l.pending side.peer)
    (htrace : l'.trace side = .applied text :: l.trace side)
    (htrace' : l'.trace side.peer = l.trace side.peer) : Synced l' where
  seen other := by
    rcases side.eq_or_eq_peer other with rfl | rfl
    · rw [hseen, htrace]
      rfl
    · rw [hseen', htrace', h.seen]
  relayed other := by
    rcases side.eq_or_eq_peer other with rfl | rfl
    · rw [htrace', h.relayed, hpending, htrace, applies, List.reverse_cons, List.append_assoc]
      rfl
    · have hold := h.relayed side.peer
      rw [Side.peer_peer] at hold ⊢
      rw [htrace, htrace', hpending', reports, hold]
  answered other := by
    rintro ⟨text', us, hr⟩ - -
    rcases side.eq_or_eq_peer other with rfl | rfl
    · rw [htrace] at hr
      exact absurd hr (by simp)
    · rw [Side.peer_peer]
      exact ⟨text, _, htrace⟩

/-- Reporting a text keeps it. -/
theorem Synced.report {l l' : Link} (h : Synced l) (side : Side) (text : String)
    (hseen : (l'.sync side).lastSeen = text)
    (hseen' : (l'.sync side.peer).lastSeen = (l.sync side.peer).lastSeen)
    (hpending : l'.pending side = l.pending side)
    (hpending' : l'.pending side.peer = l.pending side.peer ++ [text])
    (htrace : l'.trace side = .reported text :: l.trace side)
    (htrace' : l'.trace side.peer = l.trace side.peer) : Synced l' where
  seen other := by
    rcases side.eq_or_eq_peer other with rfl | rfl
    · rw [hseen, htrace]
      rfl
    · rw [hseen', htrace', h.seen]
  relayed other := by
    rcases side.eq_or_eq_peer other with rfl | rfl
    · rw [htrace', h.relayed, hpending, htrace, applies]
    · have hold := h.relayed side.peer
      rw [Side.peer_peer] at hold ⊢
      rw [htrace, htrace', hpending', reports, hold, List.reverse_append]
      rfl
  answered other := by
    -- the report is still on its way
    have hne : l'.pending side.peer ≠ [] := by
      rw [hpending']
      simp
    intro _ hnone hnone'
    rcases side.eq_or_eq_peer other with rfl | rfl
    · exact absurd hnone' hne
    · exact absurd hnone hne

theorem Synced.turn {l : Link} (h : Synced l) (side : Side) : Synced (l.step (.turn side)) := by
  have hsync : (l.step (.turn side)).sync side = (l.sync side).turn.2 := Function.update_self _ _ _
  have hsync' : (l.step (.turn side)).sync side.peer = l.sync side.peer :=
    Function.update_of_ne side.peer_ne _ _
  have htrace : (l.step (.turn side)).trace side = (l.sync side).turn.1.toList ++ l.trace side :=
    Function.update_self _ _ _
  have htrace' : (l.step (.turn side)).trace side.peer = l.trace side.peer :=
    Function.update_of_ne side.peer_ne _ _
  have hwire : (l.step (.turn side)).wire = send side (l.sync side).turn.1 l.wire := rfl
  have hseen' : ((l.step (.turn side)).sync side.peer).lastSeen = (l.sync side.peer).lastSeen := by
    rw [hsync']
  rcases (l.sync side).turn_cases with ⟨hu, hseen, hrest⟩ | ⟨text, hu, hseen, hrest⟩
    | ⟨text, hu, hseen, hrest⟩
  · rw [hu] at htrace hwire
    apply h.of_same
    · intro other
      rcases side.eq_or_eq_peer other with rfl | rfl
      · rw [hsync, hseen]
      · exact hseen'
    · intro other
      rcases side.eq_or_eq_peer other with rfl | rfl
      · rw [pending, hsync, hrest, hwire]
        rfl
      · rw [pending, hsync', hwire]
        rfl
    · intro other
      rcases side.eq_or_eq_peer other with rfl | rfl
      · exact htrace
      · exact htrace'
  · rw [hu] at htrace hwire
    apply h.apply side text (by rw [hsync, hseen]) hseen' ?_ ?_ htrace htrace'
    · rw [pending, pending, hrest, hsync, hwire]
      rfl
    · rw [pending, hsync', hwire]
      rfl
  · rw [hu] at htrace hwire
    apply h.report side text (by rw [hsync, hseen]) hseen' ?_ ?_ htrace htrace'
    · rw [pending, hsync, hrest, hwire, send, Function.update_of_ne side.peer_ne.symm]
      rfl
    · rw [pending, hsync', hwire, send, Function.update_self, ← List.append_assoc]
      rfl

theorem Synced.copy {l : Link} (h : Synced l) (side : Side) (text : String) :
    Synced (l.step (.copy side text)) := by
  have hother : ∀ other, ((l.step (.copy side text)).sync other).lastSeen = (l.sync other).lastSeen
      ∧ ((l.step (.copy side text)).sync other).remoteUpdates = (l.sync other).remoteUpdates := by
    intro other
    by_cases hs : other = side
    · subst hs
      simp [Link.step, ClipboardSync.copy]
    · simp [Link.step, Function.update_of_ne hs]
  apply h.of_same (fun other => (hother other).1)
  · intro other
    rw [pending, (hother other).2]
    rfl
  · exact fun _ => rfl

theorem Synced.deliver {l : Link} (h : Synced l) (side : Side) :
    Synced (l.step (.deliver side)) := by
  cases hw : l.wire side with
  | nil =>
    have hstep : l.step (.deliver side) = l := by simp [Link.step, hw]
    rwa [hstep]
  | cons text rest =>
    have hstep : l.step (.deliver side) = { l with
        sync := Function.update l.sync side ((l.sync side).applyRemoteUpdate text)
        wire := Function.update l.wire side rest } := by simp [Link.step, hw]
    rw [hstep]
    apply h.of_same
    · intro other
      by_cases hs : other = side
      · subst hs
        simp [applyRemoteUpdate]
      · simp [Function.update_of_ne hs]
    · intro other
      by_cases hs : other = side
      · subst hs
        simp [pending, applyRemoteUpdate, hw]
      · simp [pending, Function.update_of_ne hs]
    · exact fun _ => rfl

/-- **One step keeps the two sides in sync.** -/
theorem Synced.step {l : Link} (h : Synced l) (e : Event) : Synced (l.step e) := by
  cases e with
  | copy side text => exact h.copy side text
  | turn side => exact h.turn side
  | deliver side => exact h.deliver side

theorem synced_run {l : Link} (h : Synced l) (events : List Event) : Synced (l.run events) := by
  induction events generalizing l with
  | nil => exact h
  | cons e events ih => exact ih (h.step e)

/-! ## §4. Two clipboards at rest. -/

variable {l : Link}

/-- At rest, a side that applied last holds the last report of the other. -/
theorem Synced.holds_last_report (h : Synced l) (hq : Quiescent l) {side : Side} {text : String}
    {us : List Update} (htrace : l.trace side = .applied text :: us) :
    (l.sync side).clipboard = text ∧ (reports (l.trace side.peer)).head? = some text := by
  constructor
  · rw [(hq side).2, h.seen, htrace]
    rfl
  · rw [h.relayed, (hq side).1, htrace]
    rfl

/-- At rest, a side that reported last holds the same text as the other. -/
theorem Synced.agree_of_reported (h : Synced l) (hq : Quiescent l) {side : Side} {text : String}
    {us : List Update} (htrace : l.trace side = .reported text :: us) :
    (l.sync side).clipboard = (l.sync side.peer).clipboard := by
  obtain ⟨text', us', hpeer⟩ := h.answered side ⟨text, us, htrace⟩ (hq side).1 (hq side.peer).1
  obtain ⟨hclip, hlast⟩ := h.holds_last_report hq hpeer
  rw [Side.peer_peer, htrace] at hlast
  rw [hclip, (hq side).2, h.seen, htrace]
  exact Option.some.inj hlast

/-- At rest, a side that has done nothing has not been sent anything. -/
theorem Synced.peer_reported (h : Synced l) (hq : Quiescent l) {side : Side}
    (htrace : l.trace side = []) : l.trace side.peer = []
      ∨ ∃ text us, l.trace side.peer = .reported text :: us := by
  have happlies := h.relayed side.peer
  rw [Side.peer_peer, (hq side.peer).1, htrace] at happlies
  cases hp : l.trace side.peer with
  | nil => exact .inl rfl
  | cons u us =>
    cases u with
    | applied text =>
      rw [hp] at happlies
      exact absurd happlies (by simp [reports, applies])
    | reported text => exact .inr ⟨text, us, rfl⟩

/-- **At rest the two clipboards agree, unless the last updates have crossed.** -/
theorem Synced.agree (h : Synced l) (hq : Quiescent l) (hc : ¬ Crossed l) :
    (l.sync .host).clipboard = (l.sync .controller).clipboard := by
  cases hhost : l.trace .host with
  | nil =>
    rcases h.peer_reported hq hhost with hpeer | ⟨text, us, hpeer⟩
    · rw [(hq .host).2, (hq .controller).2, h.seen, h.seen, hhost]
      exact congrArg lastText hpeer.symm
    · exact (h.agree_of_reported hq hpeer).symm
  | cons u us =>
    cases u with
    | reported text => exact h.agree_of_reported hq hhost
    | applied text =>
      cases hcontroller : l.trace .controller with
      | nil =>
        -- what the host has applied the controller has reported
        rcases h.peer_reported hq hcontroller with hpeer | ⟨text', us', hpeer⟩ <;>
          exact absurd (hhost.symm.trans hpeer) (by simp)
      | cons u' us' =>
        cases u' with
        | reported text' => exact (h.agree_of_reported hq hcontroller).symm
        | applied text' =>
          refine absurd (fun side => ?_) hc
          cases side with
          | host => exact ⟨text, us, hhost⟩
          | controller => exact ⟨text', us', hcontroller⟩

/-- **Clipboards converge unless updates cross.**  However copies, turns of
the two loops and deliveries interleave: at rest, both clipboards hold the same
text, unless the last update of each side crossed with the other's on the wire;
then each clipboard holds the text the other side has reported last. -/
theorem clipboards_agree (host controller : String) (events : List Event)
    (hq : Quiescent ((start host controller).run events)) :
    (¬ Crossed ((start host controller).run events) →
      (((start host controller).run events).sync .host).clipboard
        = (((start host controller).run events).sync .controller).clipboard)
    ∧ (Crossed ((start host controller).run events) → ∀ side,
      (reports (((start host controller).run events).trace side.peer)).head?
        = some (((start host controller).run events).sync side).clipboard) := by
  have h : Synced ((start host controller).run events) :=
    synced_run (synced_start host controller) events
  refine ⟨h.agree hq, fun hc side => ?_⟩
  obtain ⟨text, us, htrace⟩ := hc side
  obtain ⟨hclip, hlast⟩ := h.holds_last_report hq htrace
  rw [hclip, hlast]

/-- One round of a loop that finds nothing to apply. -/
def round (side : Side) : List Event := [.turn side, .turn side]

/-- The user of the host copies, and the controller gets it. -/
def copied : List Event :=
  .copy .host "hello" :: round .host ++ [.deliver .controller, .turn .controller]
    ++ round .controller ++ round .host

/-- Both sides report what they start with, before either hears of the other. -/
def crossing : List Event :=
  round .host ++ round .controller
    ++ [.deliver .controller, .deliver .host, .turn .host, .turn .controller]
    ++ round .host ++ round .controller

theorem clipboards_agree_copied :
    (((start "" "").run copied).sync .host).clipboard
      = (((start "" "").run copied).sync .controller).clipboard := by
  have hq : Quiescent ((start "" "").run copied) := by
    intro side
    cases side with
    | host => decide
    | controller => decide
  have hc : ¬ Crossed ((start "" "").run copied) := by
    intro hc
    obtain ⟨text, us, htrace⟩ := hc .host
    have hreported : ((start "" "").run copied).trace .host = [.reported "hello"] := by decide
    rw [hreported] at htrace
    exact absurd htrace (by simp)
  exact (clipboards_agree "" "" copied hq).1 hc

/-- Initial contents that cross end up swapped. -/
theorem clipboards_swapped : ¬ ∀ (host controller : String) (events : List Event),
    Quiescent ((start host controller).run events) →
    (((start host controller).run events).sync .host).clipboard
      = (((start host controller).run events).sync .controller).clipboard := by
  intro h
  have hq : Quiescent ((start "left" "right").run crossing) := by
    intro side
    cases side with
    | host => decide
    | controller => decide
  exact absurd (h "left" "right" crossing hq) (by decide)

end Link

end Visuara.Client
