/-
  Visuara.Client.Control
  ──────────────────────
  **THE MESSAGES OF THE DATA CHANNEL** (`visuara-common/src/control.rs`).

  `serde` walks through a message in the order of its declaration, and
  `bincode` writes what it meets: the number of a variant, then its fields.
  How `bincode` writes numbers and texts is a parameter here.

    • `ControlMessage.format` — the walk, type by type;
    • `fromBytes_iff`         — what is accepted is a message, whatever follows it.
-/
import Visuara.Client.FileTransfer
import Visuara.Client.Input
import Visuara.Codec.Format
import Mathlib.Algebra.Ring.Int.Defs
import Mathlib.Data.Fintype.Basic
import Mathlib.Tactic.FinCases

namespace Visuara.Client

open Codec

/-! ## §1. The messages. -/

inductive ClipboardMessage where
  | textUpdated (text : String)
  deriving DecidableEq, Repr

structure MonitorInfo where
  id : Nat
  name : String
  width : Nat
  height : Nat
  isPrimary : Bool
  deriving DecidableEq, Repr

inductive MonitorMessage where
  | listRequest
  | list (monitors : List MonitorInfo)
  | switchRequest (monitorId : Nat)
  | switched (monitorId : Nat)
  deriving DecidableEq, Repr

inductive ControlMessage where
  | input (event : InputEvent)
  | clipboard (msg : ClipboardMessage)
  | file (msg : FileTransferMessage)
  | monitor (msg : MonitorMessage)
  deriving DecidableEq, Repr

/-! ## §2. What the Rust types hold. -/

def U32 (n : Nat) : Prop := n < 2 ^ 32

def U64 (n : Nat) : Prop := n < 2 ^ 64

def I32 (i : Int) : Prop := -2 ^ 31 ≤ i ∧ i < 2 ^ 31

def InputEvent.InRange : InputEvent → Prop
  | .mouseMove x y => I32 x ∧ I32 y
  | .mouseButton _ _ => True
  | .mouseScroll deltaX deltaY => I32 deltaX ∧ I32 deltaY
  | .keyEvent _ _ => True
  | .typeText text => U64 text.utf8ByteSize

def ClipboardMessage.InRange : ClipboardMessage → Prop
  | .textUpdated text => U64 text.utf8ByteSize

def FileTransferMessage.InRange : FileTransferMessage → Prop
  | .offer t name size => U64 t.utf8ByteSize ∧ U64 name.utf8ByteSize ∧ U64 size
  | .chunk t sequence data => U64 t.utf8ByteSize ∧ U32 sequence ∧ U64 data.length
  | .accept t | .reject t | .complete t | .cancel t => U64 t.utf8ByteSize

def MonitorInfo.InRange (m : MonitorInfo) : Prop :=
  U32 m.id ∧ U64 m.name.utf8ByteSize ∧ U32 m.width ∧ U32 m.height

def MonitorMessage.InRange : MonitorMessage → Prop
  | .listRequest => True
  | .list monitors => U64 monitors.length ∧ ∀ m ∈ monitors, m.InRange
  | .switchRequest monitorId | .switched monitorId => U32 monitorId

def ControlMessage.InRange : ControlMessage → Prop
  | .input event => event.InRange
  | .clipboard msg => msg.InRange
  | .file msg => msg.InRange
  | .monitor msg => msg.InRange

instance (n : Nat) : Decidable (U32 n) := inferInstanceAs (Decidable (n < 2 ^ 32))

instance (n : Nat) : Decidable (U64 n) := inferInstanceAs (Decidable (n < 2 ^ 64))

instance (i : Int) : Decidable (I32 i) := inferInstanceAs (Decidable (_ ∧ _))

instance : DecidablePred InputEvent.InRange
  | .mouseMove x y => inferInstanceAs (Decidable (I32 x ∧ I32 y))
  | .mouseScroll deltaX deltaY => inferInstanceAs (Decidable (I32 deltaX ∧ I32 deltaY))
  | .mouseButton _ _ | .keyEvent _ _ => inferInstanceAs (Decidable True)
  | .typeText text => inferInstanceAs (Decidable (U64 text.utf8ByteSize))

instance : DecidablePred ClipboardMessage.InRange
  | .textUpdated text => inferInstanceAs (Decidable (U64 text.utf8ByteSize))

instance : DecidablePred FileTransferMessage.InRange
  | .offer t name size =>
    inferInstanceAs (Decidable (U64 t.utf8ByteSize ∧ U64 name.utf8ByteSize ∧ U64 size))
  | .chunk t sequence data =>
    inferInstanceAs (Decidable (U64 t.utf8ByteSize ∧ U32 sequence ∧ U64 data.length))
  | .accept t | .reject t | .complete t | .cancel t =>
    inferInstanceAs (Decidable (U64 t.utf8ByteSize))

instance (m : MonitorInfo) : Decidable m.InRange :=
  inferInstanceAs (Decidable (U32 m.id ∧ U64 m.name.utf8ByteSize ∧ U32 m.width ∧ U32 m.height))

instance : DecidablePred MonitorMessage.InRange
  | .listRequest => inferInstanceAs (Decidable True)
  | .list monitors => inferInstanceAs (Decidable (U64 monitors.length ∧ ∀ m ∈ monitors, m.InRange))
  | .switchRequest monitorId | .switched monitorId => inferInstanceAs (Decidable (U32 monitorId))

instance : DecidablePred ControlMessage.InRange
  | .input event => inferInstanceAs (Decidable event.InRange)
  | .clipboard msg => inferInstanceAs (Decidable msg.InRange)
  | .file msg => inferInstanceAs (Decidable msg.InRange)
  | .monitor msg => inferInstanceAs (Decidable msg.InRange)

/-! ## §3. The bytes of a message. -/

/-- `bincode` with the options of `serialize` and `deserialize`: a format for
each primitive, which has room for what the Rust type holds. -/
class Bincode where
  u8 : Format UInt8
  bool : Format Bool
  u32 : Format Nat
  u64 : Format Nat
  i32 : Format Int
  str : Format String
  u8_fits : ∀ b, u8.Fits b
  bool_fits : ∀ b, bool.Fits b
  u32_fits : ∀ {n}, u32.Fits n ↔ U32 n
  u64_fits : ∀ {n}, u64.Fits n ↔ U64 n
  i32_fits : ∀ {i}, i32.Fits i ↔ I32 i
  str_fits : ∀ {s}, str.Fits s ↔ U64 s.utf8ByteSize

namespace Fixint

/-- Little-endian numbers of fixed width, as `bincode` 1 writes them. -/
scoped instance bincode : Bincode where
  u8 := .byte
  bool := .bool
  u32 := .word 4
  u64 := .word 8
  i32 := .signed (2 ^ 31) (.word 4)
  str := .utf8 (.word 8)
  u8_fits _ := trivial
  bool_fits b := ⟨trivial, trivial⟩
  u32_fits := Iff.rfl
  u64_fits := Iff.rfl
  i32_fits := by
    intro i
    constructor
    · exact And.left
    · intro h
      refine ⟨h, ?_⟩
      show (if i < 0 then i + 2 * (2 ^ 31 : Nat) else i).toNat < 256 ^ 4
      unfold I32 at h
      split <;> omega
  str_fits := by
    intro s
    exact (and_iff_right trivial).trans (and_iff_left fun _ _ => trivial)

end Fixint

open Bincode

variable [Bincode]

def KeyCode.format : Format KeyCode :=
  .enumeration u32
    [.backspace, .enter, .tab, .escape, .space, .delete, .arrowUp, .arrowDown, .arrowLeft,
      .arrowRight, .shift, .control, .alt, .metaKey]
    (by decide) fun key => by cases key <;> decide

def MouseButton.format : Format MouseButton :=
  .enumeration u32 [.left, .right, .middle] (by decide) fun button => by cases button <;> decide

namespace InputEvent

def Fields : Fin 5 → Type
  | 0 | 2 => Int × Int
  | 1 => MouseButton × Bool
  | 3 => KeyCode × Bool
  | 4 => String

def fields : (i : Fin 5) → Format (Fields i)
  | 0 | 2 => .pair i32 i32
  | 1 => .pair MouseButton.format bool
  | 3 => .pair KeyCode.format bool
  | 4 => str

def ofVariant : (Σ i, Fields i) → InputEvent
  | ⟨0, f⟩ => .mouseMove f.1 f.2
  | ⟨1, f⟩ => .mouseButton f.1 f.2
  | ⟨2, f⟩ => .mouseScroll f.1 f.2
  | ⟨3, f⟩ => .keyEvent f.1 f.2
  | ⟨4, text⟩ => .typeText text

def variant : InputEvent → Σ i, Fields i
  | .mouseMove x y => ⟨0, x, y⟩
  | .mouseButton button pressed => ⟨1, button, pressed⟩
  | .mouseScroll deltaX deltaY => ⟨2, deltaX, deltaY⟩
  | .keyEvent key pressed => ⟨3, key, pressed⟩
  | .typeText text => ⟨4, text⟩

def variants : (Σ i, Fields i) ≃ InputEvent where
  toFun := ofVariant
  invFun := variant
  left_inv := by
    rintro ⟨i, f⟩
    fin_cases i <;> rfl
  right_inv := by
    intro event
    cases event <;> rfl

def format : Format InputEvent := .iso variants (.choice u32 fields)

end InputEvent

def ClipboardMessage.text : ClipboardMessage → String
  | .textUpdated text => text

def ClipboardMessage.variants : (Σ _ : Fin 1, String) ≃ ClipboardMessage where
  toFun s := .textUpdated s.2
  invFun msg := ⟨0, msg.text⟩
  left_inv := by
    rintro ⟨i, text⟩
    fin_cases i
    rfl
  right_inv := by
    rintro ⟨text⟩
    rfl

def ClipboardMessage.format : Format ClipboardMessage := .iso variants (.choice u32 fun _ => str)

namespace FileTransferMessage

def Fields : Fin 6 → Type
  | 0 => String × String × Nat
  | 3 => String × Nat × Bytes
  | 1 | 2 | 4 | 5 => String

def fields : (i : Fin 6) → Format (Fields i)
  | 0 => .pair str (.pair str u64)
  | 3 => .pair str (.pair u32 (.list u64 u8))
  | 1 | 2 | 4 | 5 => str

def ofVariant : (Σ i, Fields i) → FileTransferMessage
  | ⟨0, f⟩ => .offer f.1 f.2.1 f.2.2
  | ⟨1, t⟩ => .accept t
  | ⟨2, t⟩ => .reject t
  | ⟨3, f⟩ => .chunk f.1 f.2.1 f.2.2
  | ⟨4, t⟩ => .complete t
  | ⟨5, t⟩ => .cancel t

def variant : FileTransferMessage → Σ i, Fields i
  | .offer t name size => ⟨0, t, name, size⟩
  | .accept t => ⟨1, t⟩
  | .reject t => ⟨2, t⟩
  | .chunk t sequence data => ⟨3, t, sequence, data⟩
  | .complete t => ⟨4, t⟩
  | .cancel t => ⟨5, t⟩

def variants : (Σ i, Fields i) ≃ FileTransferMessage where
  toFun := ofVariant
  invFun := variant
  left_inv := by
    rintro ⟨i, f⟩
    fin_cases i <;> rfl
  right_inv := by
    intro msg
    cases msg <;> rfl

def format : Format FileTransferMessage := .iso variants (.choice u32 fields)

end FileTransferMessage

def MonitorInfo.record : Nat × String × Nat × Nat × Bool ≃ MonitorInfo where
  toFun f := ⟨f.1, f.2.1, f.2.2.1, f.2.2.2.1, f.2.2.2.2⟩
  invFun m := ⟨m.id, m.name, m.width, m.height, m.isPrimary⟩
  left_inv _ := rfl
  right_inv _ := rfl

def MonitorInfo.format : Format MonitorInfo :=
  .iso record (.pair u32 (.pair str (.pair u32 (.pair u32 bool))))

namespace MonitorMessage

def Fields : Fin 4 → Type
  | 0 => PUnit
  | 1 => List MonitorInfo
  | 2 | 3 => Nat

def fields : (i : Fin 4) → Format (Fields i)
  | 0 => .unit
  | 1 => .list u64 MonitorInfo.format
  | 2 | 3 => u32

def ofVariant : (Σ i, Fields i) → MonitorMessage
  | ⟨0, _⟩ => .listRequest
  | ⟨1, monitors⟩ => .list monitors
  | ⟨2, monitorId⟩ => .switchRequest monitorId
  | ⟨3, monitorId⟩ => .switched monitorId

def variant : MonitorMessage → Σ i, Fields i
  | .listRequest => ⟨0, ⟨⟩⟩
  | .list monitors => ⟨1, monitors⟩
  | .switchRequest monitorId => ⟨2, monitorId⟩
  | .switched monitorId => ⟨3, monitorId⟩

def variants : (Σ i, Fields i) ≃ MonitorMessage where
  toFun := ofVariant
  invFun := variant
  left_inv := by
    rintro ⟨i, f⟩
    fin_cases i <;> rfl
  right_inv := by
    intro msg
    cases msg <;> rfl

def format : Format MonitorMessage := .iso variants (.choice u32 fields)

end MonitorMessage

namespace ControlMessage

def Fields : Fin 4 → Type
  | 0 => InputEvent
  | 1 => ClipboardMessage
  | 2 => FileTransferMessage
  | 3 => MonitorMessage

def fields : (i : Fin 4) → Format (Fields i)
  | 0 => InputEvent.format
  | 1 => ClipboardMessage.format
  | 2 => FileTransferMessage.format
  | 3 => MonitorMessage.format

def ofVariant : (Σ i, Fields i) → ControlMessage
  | ⟨0, event⟩ => .input event
  | ⟨1, msg⟩ => .clipboard msg
  | ⟨2, msg⟩ => .file msg
  | ⟨3, msg⟩ => .monitor msg

def variant : ControlMessage → Σ i, Fields i
  | .input event => ⟨0, event⟩
  | .clipboard msg => ⟨1, msg⟩
  | .file msg => ⟨2, msg⟩
  | .monitor msg => ⟨3, msg⟩

def variants : (Σ i, Fields i) ≃ ControlMessage where
  toFun := ofVariant
  invFun := variant
  left_inv := by
    rintro ⟨i, f⟩
    fin_cases i <;> rfl
  right_inv := by
    intro msg
    cases msg <;> rfl

def format : Format ControlMessage := .iso variants (.choice u32 fields)

def toBytes (msg : ControlMessage) : Bytes := format.write msg

/-- Bytes behind the message are not looked at. -/
def fromBytes (bytes : Bytes) : Option ControlMessage := (format.read bytes).map Prod.fst

end ControlMessage

/-! ## §4. Every message fits. -/

theorem fits_u32 {n : Nat} (h : n < 2 ^ 32) : u32.Fits n := u32_fits.mpr h

theorem KeyCode.format_fits (key : KeyCode) : KeyCode.format.Fits key := by
  refine ⟨trivial, fits_u32 ?_⟩
  cases key <;> decide

theorem MouseButton.format_fits (button : MouseButton) : MouseButton.format.Fits button := by
  refine ⟨trivial, fits_u32 ?_⟩
  cases button <;> decide

/-- The number of a variant always fits. -/
theorem fits_choice {n : Nat} (hn : n ≤ 2 ^ 32) {γ : Fin n → Type} {f : (i : Fin n) → Format (γ i)}
    {s : Σ i, γ i} : (Format.choice u32 f).Fits s ↔ (f s.1).Fits s.2 :=
  and_iff_right (fits_u32 (s.1.isLt.trans_le hn))

theorem InputEvent.fits_iff (event : InputEvent) :
    InputEvent.format.Fits event ↔ event.InRange := by
  refine (fits_choice (by decide)).trans ?_
  cases event with
  | mouseMove x y => exact and_congr i32_fits i32_fits
  | mouseButton button pressed =>
    exact iff_of_true ⟨button.format_fits, bool_fits pressed⟩ trivial
  | mouseScroll deltaX deltaY => exact and_congr i32_fits i32_fits
  | keyEvent key pressed => exact iff_of_true ⟨key.format_fits, bool_fits pressed⟩ trivial
  | typeText text => exact str_fits

theorem ClipboardMessage.fits_iff (msg : ClipboardMessage) :
    ClipboardMessage.format.Fits msg ↔ msg.InRange := by
  cases msg with
  | textUpdated text =>
    have hvariant : u32.Fits 0 := fits_u32 (by decide)
    exact (and_iff_right hvariant).trans str_fits

theorem FileTransferMessage.fits_iff (msg : FileTransferMessage) :
    FileTransferMessage.format.Fits msg ↔ msg.InRange := by
  refine (fits_choice (by decide)).trans ?_
  cases msg with
  | offer t name size => exact and_congr str_fits (and_congr str_fits u64_fits)
  | chunk t sequence data =>
    have hdata : (Format.list u64 u8).Fits data ↔ U64 data.length :=
      (and_iff_left fun b _ => u8_fits b).trans u64_fits
    exact and_congr str_fits (and_congr u32_fits hdata)
  | accept t => exact str_fits
  | reject t => exact str_fits
  | complete t => exact str_fits
  | cancel t => exact str_fits

theorem MonitorInfo.fits_iff (m : MonitorInfo) : MonitorInfo.format.Fits m ↔ m.InRange :=
  and_congr u32_fits (and_congr str_fits (and_congr u32_fits
    ((and_iff_left (bool_fits m.isPrimary)).trans u32_fits)))

theorem MonitorMessage.fits_iff (msg : MonitorMessage) :
    MonitorMessage.format.Fits msg ↔ msg.InRange := by
  refine (fits_choice (by decide)).trans ?_
  cases msg with
  | listRequest => exact Iff.rfl
  | list monitors => exact and_congr u64_fits (forall₂_congr fun m _ => m.fits_iff)
  | switchRequest monitorId => exact u32_fits
  | switched monitorId => exact u32_fits

theorem ControlMessage.fits_iff (msg : ControlMessage) :
    ControlMessage.format.Fits msg ↔ msg.InRange := by
  refine (fits_choice (by decide)).trans ?_
  cases msg with
  | input event => exact event.fits_iff
  | clipboard msg => exact msg.fits_iff
  | file msg => exact msg.fits_iff
  | monitor msg => exact msg.fits_iff

/-! ## §5. What is accepted. -/

namespace ControlMessage

/-- **What is accepted is a message, whatever follows it.**  `from_bytes`
returns a message exactly for the bytes `to_bytes` makes of it, with any bytes
behind them: no two messages share their bytes, and nothing else is accepted. -/
theorem fromBytes_iff (bytes : Bytes) (msg : ControlMessage) :
    fromBytes bytes = some msg ↔ msg.InRange ∧ ∃ rest, bytes = msg.toBytes ++ rest := by
  rw [fromBytes, Option.map_eq_some_iff, Prod.exists]
  constructor
  · rintro ⟨msg', rest, hread, rfl⟩
    obtain ⟨hfits, hbytes⟩ := format.of_read hread
    exact ⟨(fits_iff _).mp hfits, rest, hbytes⟩
  · rintro ⟨hrange, rest, hbytes⟩
    exact ⟨msg, rest, format.read_iff.mpr ⟨(fits_iff msg).mpr hrange, hbytes⟩, rfl⟩

theorem fromBytes_toBytes {msg : ControlMessage} (h : msg.InRange) :
    fromBytes msg.toBytes = some msg :=
  (fromBytes_iff _ msg).mpr ⟨h, [], (List.append_nil _).symm⟩

end ControlMessage

end Visuara.Client
