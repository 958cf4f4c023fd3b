/-
  Visuara.Client.Pointer
  ──────────────────────
  **FROM A POINTER IN THE WINDOW TO A POINT ON THE DESKTOP** (`gui.rs`,
  `visuara-agent/src/input.rs`, `capture.rs`, and the capture loop of `host.rs`).

  The controller turns the pointer's place in the picture into pixels of the
  frame, and the host moves its mouse to these as a point of the whole desktop,
  whichever monitor the frame is of.  Coordinates are rational here.

    • `remoteCoords`, `apply`, `captureLoop` — the three steps on the way;
    • `pointer_lands_iff` — when the mouse ends up below the pointer.
-/
import Mathlib.Data.Rat.Floor
import Visuara.Client.Input

namespace Visuara.Client

/-! ## §1. The controller: `show_video_and_capture_input`. -/

/-- `egui::Pos2`. -/
structure Pos2 where
  x : ℚ
  y : ℚ
  deriving DecidableEq

/-- `egui::Rect`. -/
structure Rect where
  min : Pos2
  max : Pos2
  deriving DecidableEq

namespace Rect

def left (r : Rect) : ℚ := r.min.x
def top (r : Rect) : ℚ := r.min.y
def right (r : Rect) : ℚ := r.max.x
def bottom (r : Rect) : ℚ := r.max.y
def width (r : Rect) : ℚ := r.max.x - r.min.x
def height (r : Rect) : ℚ := r.max.y - r.min.y

/-- The borders are part of a rectangle. -/
def contains (r : Rect) (p : Pos2) : Bool :=
  r.min.x ≤ p.x && p.x ≤ r.max.x && r.min.y ≤ p.y && p.y ≤ r.max.y

end Rect

/-- `x.clamp(lo, hi)`. -/
def clamp (x lo hi : ℚ) : ℚ := if x < lo then lo else if hi < x then hi else x

/-- `x as i32`: towards zero, and to the nearest `i32` where that is none. -/
def asI32 (x : ℚ) : Int := max (-2 ^ 31) (min (2 ^ 31 - 1) (if 0 ≤ x then ⌊x⌋ else ⌈x⌉))

def remoteCoords (pos : Pos2) (rect : Rect) (remoteW remoteH : Nat) : Int × Int :=
  let relX := clamp ((pos.x - rect.left) / rect.width) 0 1
  let relY := clamp ((pos.y - rect.top) / rect.height) 0 1
  (asI32 (relX * remoteW), asI32 (relY * remoteH))

/-- The event a moved pointer makes; `(remoteW, remoteH)` is the size of the frame. -/
def pointerMoved (pos : Pos2) (rect : Rect) (remoteW remoteH : Nat) : Option InputEvent :=
  if rect.contains pos then
    let (x, y) := remoteCoords pos rect remoteW remoteH
    some (.mouseMove x y)
  else none

/-! ## §2. The host: `InputInjector::apply`. -/

inductive Coordinate where
  | abs | rel
  deriving DecidableEq, Repr

inductive Direction where
  | press | release
  deriving DecidableEq, Repr

inductive Axis where
  | vertical | horizontal
  deriving DecidableEq, Repr

/-- What `enigo` is asked to do. -/
inductive EnigoCall where
  | moveMouse (x y : Int) (coordinate : Coordinate)
  | button (button : MouseButton) (direction : Direction)
  | scroll (length : Int) (axis : Axis)
  | key (key : KeyCode) (direction : Direction)
  | text (text : String)
  deriving DecidableEq, Repr

def direction (pressed : Bool) : Direction := if pressed then .press else .release

/-- The calls for an event, each made if those before it succeed. -/
def apply : InputEvent → List EnigoCall
  | .mouseMove x y => [.moveMouse x y .abs]
  | .mouseButton button pressed => [.button button (direction pressed)]
  | .mouseScroll deltaX deltaY =>
    (if deltaY ≠ 0 then [.scroll deltaY .vertical] else [])
      ++ if deltaX ≠ 0 then [.scroll deltaX .horizontal] else []
  | .keyEvent key pressed => [.key key (direction pressed)]
  | .typeText text => [.text text]

/-- Where the mouse is after a call; absolute coordinates are those of the desktop. -/
def EnigoCall.mouse (mouse : Int × Int) : EnigoCall → Int × Int
  | .moveMouse x y .abs => (x, y)
  | .moveMouse x y .rel => (mouse.1 + x, mouse.2 + y)
  | _ => mouse

/-! ## §3. The host: what is captured. -/

/-- `xcap::Monitor`: its area on the desktop, and what is asked of it. -/
structure Monitor where
  id : Except String Nat
  isPrimary : Except String Bool
  x : Int
  y : Int
  width : Nat
  height : Nat
  width_pos : 0 < width
  height_pos : 0 < height

structure Capturer where
  monitor : Monitor

namespace Capturer

/-- `all` is what `Monitor::all` returns. -/
def primary (all : Except String (List Monitor)) : Except String Capturer := do
  match (← all).find? fun m => m.isPrimary.toOption.getD false with
  | some m => pure ⟨m⟩
  | none => throw "no primary monitor found"

def forMonitorId (all : Except String (List Monitor)) (id : Nat) : Except String Capturer := do
  match (← all).find? fun m => m.id.toOption.getD 0 == id with
  | some m => pure ⟨m⟩
  | none => throw ("no monitor with id " ++ toString id)

end Capturer

/-- One round of the capture loop: the request `try_recv` returns, if there is one. -/
def captureStep (c : Capturer) : Option (Nat × Except String (List Monitor)) → Capturer
  | some (id, all) => (Capturer.forMonitorId all id).toOption.getD c
  | none => c

/-- What is captured after these rounds. -/
def captureLoop (c : Capturer) (rounds : List (Option (Nat × Except String (List Monitor)))) :
    Capturer := rounds.foldl captureStep c

/-! ## §4. Where the mouse goes. -/

/-- Where the host's mouse is after the pointer has moved to `pos`, if that is an
event; the frame shows the monitor `m` and has its size. -/
def movesTo (rect : Rect) (pos : Pos2) (m : Monitor) (mouse : Int × Int) : Option (Int × Int) :=
  (pointerMoved pos rect m.width m.height).map fun event => (apply event).foldl EnigoCall.mouse mouse

/-- The pixel of `m` below the pointer, counted from the left and from the top. -/
def pixelX (rect : Rect) (pos : Pos2) (m : Monitor) : Int :=
  ⌊(pos.x - rect.left) / rect.width * m.width⌋

def pixelY (rect : Rect) (pos : Pos2) (m : Monitor) : Int :=
  ⌊(pos.y - rect.top) / rect.height * m.height⌋

/-- The mouse is on `m`, at the pixel below the pointer. -/
structure Lands (rect : Rect) (pos : Pos2) (m : Monitor) (mouse : Int × Int) : Prop where
  x : mouse.1 = m.x + pixelX rect pos m
  y : mouse.2 = m.y + pixelY rect pos m
  left : m.x ≤ mouse.1
  right : mouse.1 < m.x + m.width
  top : m.y ≤ mouse.2
  bottom : mouse.2 < m.y + m.height

/-- The origin the code takes for granted: zero, or what the cast to `i32` takes
off the pixel. -/
def OriginFits (origin pixel : Int) : Prop :=
  if pixel < 2 ^ 31 then origin = 0 else origin = 2 ^ 31 - 1 - pixel

instance (origin pixel : Int) : Decidable (OriginFits origin pixel) := by
  unfold OriginFits
  infer_instance

section

variable {lo hi p : ℚ}

/-- Inside, the relative position is between zero and one. -/
theorem rel_nonneg (hpos : lo < hi) (hp : lo ≤ p) : 0 ≤ (p - lo) / (hi - lo) :=
  div_nonneg (sub_nonneg.mpr hp) (sub_nonneg.mpr hpos.le)

theorem rel_le_one (hpos : lo < hi) (hp : p ≤ hi) : (p - lo) / (hi - lo) ≤ 1 := by
  rw [div_le_one (sub_pos.mpr hpos)]
  exact sub_le_sub_right hp lo

/-- And it is one at the far border only. -/
theorem rel_lt_one_iff (hpos : lo < hi) : (p - lo) / (hi - lo) < 1 ↔ p < hi := by
  rw [div_lt_one (sub_pos.mpr hpos)]
  exact sub_lt_sub_iff_right lo

theorem clamp_rel (hpos : lo < hi) (hp : lo ≤ p) (hp' : p ≤ hi) :
    clamp ((p - lo) / (hi - lo)) 0 1 = (p - lo) / (hi - lo) := by
  unfold clamp
  rw [if_neg (not_lt.mpr (rel_nonneg hpos hp)), if_neg (not_lt.mpr (rel_le_one hpos hp'))]

/-- The cast rounds down, and stops at the largest `i32`. -/
theorem asI32_of_nonneg {q : ℚ} (hq : 0 ≤ q) : asI32 q = min (2 ^ 31 - 1) ⌊q⌋ := by
  unfold asI32
  rw [if_pos hq]
  have hfloor : 0 ≤ ⌊q⌋ := Int.floor_nonneg.mpr hq
  omega

/-- The pixel below the pointer is one of the `n` there are, unless the pointer
is on the far border. -/
theorem pixel_lt_iff (hpos : lo < hi) {n : Nat} (hn : 0 < n) :
    ⌊(p - lo) / (hi - lo) * n⌋ < (n : Int) ↔ p < hi := by
  rw [Int.floor_lt, Int.cast_natCast, ← rel_lt_one_iff hpos]
  exact mul_lt_iff_lt_one_left (Nat.cast_pos.mpr hn)

/-- One coordinate: the mouse is where it should be. -/
theorem coordinate_lands_iff (hpos : lo < hi) (hp : lo ≤ p) {n : Nat} (hn : 0 < n) (origin : Int) :
    (asI32 ((p - lo) / (hi - lo) * n) = origin + ⌊(p - lo) / (hi - lo) * n⌋
      ∧ origin ≤ asI32 ((p - lo) / (hi - lo) * n)
      ∧ asI32 ((p - lo) / (hi - lo) * n) < origin + n)
      ↔ p < hi ∧ OriginFits origin ⌊(p - lo) / (hi - lo) * n⌋ := by
  have hq : 0 ≤ (p - lo) / (hi - lo) * n := mul_nonneg (rel_nonneg hpos hp) (Nat.cast_nonneg n)
  have hpixel : 0 ≤ ⌊(p - lo) / (hi - lo) * n⌋ := Int.floor_nonneg.mpr hq
  rw [asI32_of_nonneg hq, ← pixel_lt_iff hpos hn]
  generalize ⌊(p - lo) / (hi - lo) * n⌋ = pixel at hpixel
  unfold OriginFits
  constructor
  · intro h
    obtain ⟨hx, -, hlt⟩ := h
    refine ⟨by omega, ?_⟩
    split <;> omega
  · intro h
    obtain ⟨hlt, horigin⟩ := h
    split at horigin <;> refine ⟨?_, ?_, ?_⟩ <;> omega

end

/-- Where the mouse goes, coordinate by coordinate. -/
theorem movesTo_eq {rect : Rect} (hwidth : 0 < rect.width) (hheight : 0 < rect.height) {pos : Pos2}
    (hpos : rect.contains pos = true) (m : Monitor) (mouse : Int × Int) :
    movesTo rect pos m mouse
      = some (asI32 ((pos.x - rect.left) / rect.width * m.width),
        asI32 ((pos.y - rect.top) / rect.height * m.height)) := by
  have hin := hpos
  unfold Rect.contains at hin
  simp only [Bool.and_eq_true, decide_eq_true_eq] at hin
  obtain ⟨⟨⟨hleft, hright⟩, htop⟩, hbottom⟩ := hin
  unfold movesTo pointerMoved remoteCoords
  rw [if_pos hpos]
  unfold Rect.left Rect.top Rect.width Rect.height
  rw [clamp_rel (sub_pos.mp hwidth) hleft hright, clamp_rel (sub_pos.mp hheight) htop hbottom]
  rfl

/-- **When the mouse ends up below the pointer**: off the right and the bottom
border, on a monitor whose origin is that of the desktop. -/
theorem pointer_lands_iff {rect : Rect} (hwidth : 0 < rect.width) (hheight : 0 < rect.height)
    {pos : Pos2} (hpos : rect.contains pos = true) (c : Capturer)
    (rounds : List (Option (Nat × Except String (List Monitor)))) (mouse : Int × Int) :
    (∃ mouse', movesTo rect pos (captureLoop c rounds).monitor mouse = some mouse'
        ∧ Lands rect pos (captureLoop c rounds).monitor mouse')
      ↔ (pos.x < rect.right ∧ pos.y < rect.bottom)
        ∧ OriginFits (captureLoop c rounds).monitor.x
          (pixelX rect pos (captureLoop c rounds).monitor)
        ∧ OriginFits (captureLoop c rounds).monitor.y
          (pixelY rect pos (captureLoop c rounds).monitor) := by
  generalize (captureLoop c rounds).monitor = m
  have hin := hpos
  unfold Rect.contains at hin
  simp only [Bool.and_eq_true, decide_eq_true_eq] at hin
  obtain ⟨⟨⟨hleft, -⟩, htop⟩, -⟩ := hin
  have hx := coordinate_lands_iff (sub_pos.mp hwidth) hleft m.width_pos m.x
  have hy := coordinate_lands_iff (sub_pos.mp hheight) htop m.height_pos m.y
  rw [movesTo_eq hwidth hheight hpos]
  constructor
  · intro h
    obtain ⟨mouse', hmouse, hlands⟩ := h
    obtain rfl := Option.some.inj hmouse
    obtain ⟨hright, hfitsx⟩ := hx.mp ⟨hlands.x, hlands.left, hlands.right⟩
    obtain ⟨hbottom, hfitsy⟩ := hy.mp ⟨hlands.y, hlands.top, hlands.bottom⟩
    exact ⟨⟨hright, hbottom⟩, hfitsx, hfitsy⟩
  · intro h
    obtain ⟨⟨hright, hbottom⟩, hfitsx, hfitsy⟩ := h
    obtain ⟨hx, hleft, hright⟩ := hx.mpr ⟨hright, hfitsx⟩
    obtain ⟨hy, htop, hbottom⟩ := hy.mpr ⟨hbottom, hfitsy⟩
    exact ⟨_, rfl, hx, hy, hleft, hright, htop, hbottom⟩

/-! ## §5. Two monitors. -/

/-- The picture in the window. -/
def picture : Rect := ⟨⟨0, 0⟩, ⟨960, 540⟩⟩

/-- The primary monitor. -/
def mainMonitor : Monitor where
  id := .ok 1
  isPrimary := .ok true
  x := 0
  y := 0
  width := 1920
  height := 1080
  width_pos := by decide
  height_pos := by decide

/-- Another one to the right of it. -/
def sideMonitor : Monitor := { mainMonitor with id := .ok 2, isPrimary := .ok false, x := 1920 }

theorem pointer_lands_main :
    ∃ mouse, movesTo picture ⟨480, 135⟩ (captureLoop ⟨mainMonitor⟩ [none]).monitor (0, 0) = some mouse
      ∧ Lands picture ⟨480, 135⟩ (captureLoop ⟨mainMonitor⟩ [none]).monitor mouse :=
  (pointer_lands_iff (by decide +kernel) (by decide +kernel) (by decide +kernel) _ _ _).mpr
    (by decide +kernel)

/-- On the second monitor the mouse goes to the first one. -/
theorem pointer_leaves_monitor : ¬ ∀ (rect : Rect) (pos : Pos2) (c : Capturer)
    (rounds : List (Option (Nat × Except String (List Monitor)))) (mouse : Int × Int),
    0 < rect.width → 0 < rect.height → rect.contains pos = true →
    ∃ mouse', movesTo rect pos (captureLoop c rounds).monitor mouse = some mouse'
      ∧ Lands rect pos (captureLoop c rounds).monitor mouse' := by
  intro h
  obtain ⟨mouse, hmoves, hlands⟩ := h picture ⟨480, 135⟩ ⟨mainMonitor⟩
    [some (2, .ok [mainMonitor, sideMonitor])] (0, 0) (by decide +kernel) (by decide +kernel)
    (by decide +kernel)
  have hmouse : movesTo picture ⟨480, 135⟩ (captureLoop ⟨mainMonitor⟩
      [some (2, .ok [mainMonitor, sideMonitor])]).monitor (0, 0) = some (960, 270) := by
    decide +kernel
  rw [hmouse] at hmoves
  obtain rfl := Option.some.inj hmoves
  have hleft : (1920 : Int) ≤ 960 := hlands.left
  exact absurd hleft (by decide)

end Visuara.Client
