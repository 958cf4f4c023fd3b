/-
  Visuara.Client.LocalStorage
  ───────────────────────────
  **A SECRET FILE, WHILE IT IS WRITTEN** (`local_storage.rs`).

  `write_restricted` opens the file under its name, which empties it or creates
  it for everyone to read, writes the bytes, and then takes the permissions
  away.  It can be interrupted after each of its system calls.

    • `writeRestricted`          — the calls it makes, one after the other;
    • `Private`, `Whole`         — what is to hold whenever it is interrupted;
    • `written_private_whole_iff` — where it does.
-/
import Mathlib.Data.List.TakeDrop
import Visuara.Common.EmbeddedConfig
import Visuara.Interleave.Outcome

namespace Visuara.Client

open Interleave

/-! ## §1. The file. -/

/-- Permission bits: those of the owner, of the group, of the others. -/
abbrev FileMode := BitVec 9

/-- Nobody but the owner may read. -/
def FileMode.ownerOnly (mode : FileMode) : Bool := mode &&& 0o044 == 0

/-- What the usual umask takes from the mode of a new file. -/
def usualUmask : FileMode := 0o022

structure StoredFile where
  content : Bytes
  mode : FileMode
  deriving DecidableEq, Repr

/-- The target path and the file there. -/
structure LocalStorage where
  file : Option StoredFile
  /-- So many of its bytes have been written by this call. -/
  fresh : Nat
  deriving DecidableEq, Repr

/-- What is read of a `Path`: its text, and that of its parent. -/
structure TargetPath where
  display : String
  parent : Option String
  deriving DecidableEq, Repr

/-- The system calls. -/
inductive StorageOp where
  | createDirAll (dir : String)
  /-- `File::create` -/
  | create (path : String)
  /-- One `write` to the open file. -/
  | write (buf : Bytes)
  | setPermissions (path : String) (mode : FileMode)
  deriving DecidableEq, Repr

@[reducible] def StorageOp.Res : StorageOp → Type
  | .write _ => Except String Nat
  | .createDirAll _ | .create _ | .setPermissions _ _ => Except String Unit

/-- The answer of the system: an error, or how much of the buffer it takes. -/
abbrev StorageAnswer := Except String Nat

/-- The mode of the file that `File::create` opens. -/
def createdMode (file : Option StoredFile) : FileMode :=
  match file with
  | some f => f.mode
  | none => 0o666 &&& ~~~usualUmask

def StorageOp.exec : (o : StorageOp) → StorageAnswer → LocalStorage → o.Res × LocalStorage
  | .createDirAll _, .ok _, s => (.ok (), s)
  | .createDirAll _, .error e, s => (.error e, s)
  | .create _, .ok _, s => (.ok (), ⟨some ⟨[], createdMode s.file⟩, 0⟩)
  | .create _, .error e, s => (.error e, s)
  | .write buf, .ok n, s =>
    let out := buf.take n
    (.ok out.length, {
      file := s.file.map fun f => { f with content := f.content ++ out }
      fresh := s.fresh + out.length })
  | .write _, .error e, s => (.error e, s)
  | .setPermissions _ mode, .ok _, s =>
    (.ok (), { s with file := s.file.map fun f => { f with mode := mode } })
  | .setPermissions _ _, .error e, s => (.error e, s)

abbrev StorageProg := Prog StorageOp StorageOp.Res

abbrev StorageCall := Call StorageOp StorageOp.Res

/-! ## §2. Writing it. -/

/-- `with_context`, the error as it is shown with its causes. -/
def withContext {α : Type} (text : String) : Except String α → Except String α
  | .ok a => .ok a
  | .error e => .error (text ++ ": " ++ e)

/-- `write_all` on what is left of a buffer when so many of its bytes are out. -/
def writeAllFrom : Nat → Bytes → StorageProg (Except String Unit)
  | _, [] => pure (.ok ())
  | skip + 1, _ :: rest => writeAllFrom skip rest
  | 0, b :: rest => do
    match ← Prog.perform (StorageOp.write (b :: rest)) with
    | .error e => pure (.error e)
    | .ok 0 => pure (.error "failed to write whole buffer")
    | .ok (n + 1) => writeAllFrom n rest

/-- `std::fs::write` -/
def fsWrite (path : String) (bytes : Bytes) : StorageProg (Except String Unit) := do
  match ← Prog.perform (StorageOp.create path) with
  | .error e => pure (.error e)
  | .ok () => writeAllFrom 0 bytes

def restrictPermissions (path : TargetPath) : StorageProg (Except String Unit) := do
  let result ← Prog.perform (StorageOp.setPermissions path.display 0o600)
  pure (withContext ("restrict permissions on " ++ path.display) result)

/-- The directories above the file, if its path has a parent. -/
def createParent (path : TargetPath) : StorageProg (Except String Unit) :=
  match path.parent with
  | none => pure (.ok ())
  | some parent => do
    let result ← Prog.perform (StorageOp.createDirAll parent)
    pure (withContext ("create " ++ parent) result)

def writeRestricted (path : TargetPath) (bytes : Bytes) : StorageProg (Except String Unit) := do
  match ← createParent path with
  | .error e => pure (.error e)
  | .ok () =>
    match withContext ("write " ++ path.display) (← fsWrite path.display bytes) with
    | .error e => pure (.error e)
    | .ok () => restrictPermissions path

/-- The calls that have been answered when it is interrupted, and what is there then. -/
def interrupted (path : TargetPath) (prior : Option StoredFile) (bytes : Bytes)
    (answers : List StorageAnswer) : List StorageCall × LocalStorage :=
  Prog.cut StorageOp.exec (writeRestricted path bytes) answers ([], ⟨prior, 0⟩)

/-! ## §3. What is to hold. -/

/-- None of the new bytes is there for others to read. -/
def Private (s : LocalStorage) : Prop :=
  ∀ f, s.file = some f → 0 < s.fresh → f.mode.ownerOnly = true

/-- The content is the one before, or the new one. -/
def Whole (prior : Option StoredFile) (bytes : Bytes) (s : LocalStorage) : Prop :=
  s.file.map (·.content) = prior.map (·.content) ∨ s.file.map (·.content) = some bytes

/-- `File::create` has succeeded. -/
def opened : List StorageCall → Bool
  | [] => false
  | ⟨.create _, .ok ()⟩ :: _ => true
  | _ :: h => opened h

/-- How much the calls have written. -/
def written : List StorageCall → Nat
  | [] => 0
  | ⟨.write _, .ok n⟩ :: h => written h + n
  | _ :: h => written h

/-- `set_permissions` has succeeded. -/
def restricted : List StorageCall → Bool
  | [] => false
  | ⟨.setPermissions _ _, .ok ()⟩ :: _ => true
  | _ :: h => restricted h

/-- **Where it is private**: before the first byte, after the permissions have been
set, or when the file was private before. -/
def PrivateWhen (prior : Option StoredFile) (h : List StorageCall) : Prop :=
  written h = 0 ∨ restricted h = true ∨ ∃ f ∈ prior, f.mode.ownerOnly = true

/-- **Where it is whole**: before the file is opened, after the last byte, or when
what is written so far is all there was before. -/
def WholeWhen (prior : Option StoredFile) (bytes : Bytes) (h : List StorageCall) : Prop :=
  opened h = false ∨ written h = bytes.length
    ∨ prior.map (·.content) = some (bytes.take (written h))

/-! ## §4. Every point. -/

/-- What each call is made on, after which others. -/
def Sequenced (bytes : Bytes) (h : List StorageCall) : StorageOp → Prop
  | .createDirAll _ => opened h = false
  | .create _ => opened h = false
  | .write buf => opened h = true ∧ restricted h = false ∧ buf = bytes.drop (written h)
  | .setPermissions _ mode => opened h = true ∧ bytes.length ≤ written h ∧ mode = 0o600

theorem writeAllFrom_sequenced (bytes : Bytes) (skip : Nat) (rest : Bytes) (h : List StorageCall)
    (hopened : opened h = true) (hrestricted : restricted h = false)
    (hrest : rest.drop skip = bytes.drop (written h)) :
    Prog.Follows (Sequenced bytes)
      (fun h' r => r = .ok () → opened h' = true ∧ restricted h' = false ∧ bytes.length ≤ written h')
      (writeAllFrom skip rest) h := by
  induction rest generalizing skip h with
  | nil =>
    intro _
    have hlength := congrArg List.length hrest
    simp only [List.drop_nil, List.length_nil, List.length_drop] at hlength
    exact ⟨hopened, hrestricted, by omega⟩
  | cons b rest ih =>
    cases skip with
    | succ skip => exact ih skip h hopened hrestricted hrest
    | zero =>
      refine ⟨⟨hopened, hrestricted, hrest⟩, fun r => ?_⟩
      match r with
      | .error e => exact fun hr => absurd hr nofun
      | .ok 0 => exact fun hr => absurd hr nofun
      | .ok (n + 1) =>
        refine ih n _ hopened hrestricted ?_
        show rest.drop n = bytes.drop (written h + (n + 1))
        rw [← List.drop_drop, ← hrest]
        rfl

theorem createParent_sequenced (path : TargetPath) (bytes : Bytes) :
    Prog.Follows (Sequenced bytes) (fun h' _ => opened h' = false ∧ written h' = 0 ∧ restricted h' = false)
      (createParent path) [] := by
  unfold createParent
  cases path.parent with
  | none => exact ⟨rfl, rfl, rfl⟩
  | some parent => exact ⟨rfl, fun r => ⟨rfl, rfl, rfl⟩⟩

theorem restrictPermissions_sequenced (path : TargetPath) (bytes : Bytes) (h : List StorageCall)
    (hopened : opened h = true) (hwritten : bytes.length ≤ written h) :
    Prog.Follows (Sequenced bytes) (fun h' r => r = .ok () → restricted h' = true)
      (restrictPermissions path) h := by
  refine ⟨⟨hopened, hwritten, rfl⟩, fun r => ?_⟩
  match r with
  | .error e => exact fun hr => absurd hr nofun
  | .ok () => exact fun _ => rfl

theorem fsWrite_sequenced (path : String) (bytes : Bytes) (h : List StorageCall)
    (hopened : opened h = false) (hwritten : written h = 0) (hrestricted : restricted h = false) :
    Prog.Follows (Sequenced bytes) (fun h' r => r = .ok () → opened h' = true ∧ restricted h' = false
      ∧ bytes.length ≤ written h') (fsWrite path bytes) h := by
  refine ⟨hopened, fun r => ?_⟩
  match r with
  | .error e => exact fun hr => absurd hr nofun
  | .ok () =>
    refine writeAllFrom_sequenced bytes 0 bytes _ rfl hrestricted ?_
    show bytes.drop 0 = bytes.drop (written h)
    rw [hwritten]

theorem withContext_eq_ok {α : Type} {text : String} {r : Except String α} {a : α}
    (h : withContext text r = .ok a) : r = .ok a := by
  cases r with
  | ok b => exact h
  | error e => exact absurd h nofun

theorem writeRestricted_sequenced (path : TargetPath) (bytes : Bytes) :
    Prog.Follows (Sequenced bytes) (fun h' r => r = .ok () → restricted h' = true)
      (writeRestricted path bytes) [] := by
  unfold writeRestricted
  rw [Prog.follows_bind]
  refine (createParent_sequenced path bytes).mono (fun _ _ h => h) fun h r hh => ?_
  obtain ⟨hopened, hwritten, hrestricted⟩ := hh
  match r with
  | .error e => exact fun hr => absurd hr nofun
  | .ok () =>
    show Prog.Follows _ _ (fsWrite path.display bytes >>= _) h
    rw [Prog.follows_bind]
    refine (fsWrite_sequenced _ bytes h hopened hwritten hrestricted).mono (fun _ _ h => h)
      fun h' r' hh' => ?_
    split
    · exact fun hr => absurd hr nofun
    · next heq =>
      obtain ⟨hopened', -, hwritten'⟩ := hh' (withContext_eq_ok heq)
      exact restrictPermissions_sequenced path bytes h' hopened' hwritten'

/-- What is on the disk after the calls. -/
structure Stored (prior : Option StoredFile) (bytes : Bytes) (h : List StorageCall)
    (s : LocalStorage) : Prop where
  fresh : s.fresh = written h
  within : written h ≤ bytes.length
  before : opened h = false → s.file = prior ∧ written h = 0
  after : opened h = true → s.file = some ⟨bytes.take (written h),
    if restricted h then 0o600 else createdMode prior⟩
  last : restricted h = true → opened h = true ∧ written h = bytes.length

/-- What is written comes after what has been written. -/
theorem stored_write {prior : Option StoredFile} {bytes : Bytes} {h : List StorageCall}
    {s : LocalStorage} (hs : Stored prior bytes h s) (hopen : opened h = true)
    (hrestricted : restricted h = false) (n : Nat) :
    Stored prior bytes
      (⟨.write (bytes.drop (written h)), .ok ((bytes.drop (written h)).take n).length⟩ :: h)
      (StorageOp.exec (.write (bytes.drop (written h))) (.ok n) s).2 := by
  generalize hout : (bytes.drop (written h)).take n = out
  have hprefix : out = (bytes.drop (written h)).take out.length := by
    rw [← hout]
    exact List.prefix_iff_eq_take.mp (List.take_prefix n _)
  have hlength : out.length ≤ bytes.length - written h := by
    rw [← hout, List.length_take, List.length_drop]
    exact Nat.min_le_right _ _
  have hwithin := hs.within
  have hfile : s.file = some ⟨bytes.take (written h), createdMode prior⟩ := by
    rw [hs.after hopen, hrestricted]
    rfl
  have hafter : (StorageOp.exec (.write (bytes.drop (written h))) (.ok n) s).2
      = ⟨some ⟨bytes.take (written h + out.length), createdMode prior⟩, s.fresh + out.length⟩ := by
    rw [List.take_add, ← hprefix]
    simp only [StorageOp.exec, hfile, hout, Option.map_some]
  rw [hafter]
  refine ⟨congrArg (· + out.length) hs.fresh, ?_, fun hclosed => ?_, fun _ => ?_, fun hr => ?_⟩
  · show written h + out.length ≤ bytes.length
    omega
  · exact absurd (hopen.symm.trans hclosed) nofun
  · show some (StoredFile.mk (bytes.take (written h + out.length)) (createdMode prior))
      = some ⟨bytes.take (written h + out.length), if restricted h then 0o600 else createdMode prior⟩
    rw [hrestricted]
    rfl
  · exact absurd (hrestricted.symm.trans hr) nofun

theorem stored_exec {prior : Option StoredFile} {bytes : Bytes} (h : List StorageCall)
    (s : LocalStorage) (o : StorageOp) (answer : StorageAnswer) (ho : Sequenced bytes h o)
    (hs : Stored prior bytes h s) :
    Stored prior bytes (⟨o, (o.exec answer s).1⟩ :: h) (o.exec answer s).2 := by
  cases answer with
  | error e =>
    -- a call that fails leaves everything as it is
    cases o <;> exact ⟨hs.fresh, hs.within, hs.before, hs.after, hs.last⟩
  | ok n =>
    cases o with
    | createDirAll dir => exact ⟨hs.fresh, hs.within, hs.before, hs.after, hs.last⟩
    | create path =>
      have hclosed : opened h = false := ho
      obtain ⟨hfile, hwritten⟩ := hs.before hclosed
      have hrestricted : restricted h = false := by
        cases hr : restricted h with
        | false => rfl
        | true =>
          rw [(hs.last hr).1] at hclosed
          exact absurd hclosed nofun
      refine ⟨hwritten.symm, hs.within, fun hopen => absurd hopen nofun, fun _ => ?_, fun hr => ?_⟩
      · show some (StoredFile.mk [] (createdMode s.file))
          = some ⟨bytes.take (written h), if restricted h then 0o600 else createdMode prior⟩
        rw [hwritten, hrestricted, hfile]
        rfl
      · exact absurd (hrestricted.symm.trans hr) nofun
    | write buf =>
      obtain ⟨hopen, hrestricted, rfl⟩ := ho
      exact stored_write hs hopen hrestricted n
    | setPermissions path mode =>
      obtain ⟨hopen, hwritten, rfl⟩ := ho
      have hall : written h = bytes.length := Nat.le_antisymm hs.within hwritten
      refine ⟨hs.fresh, hs.within, fun hclosed => ?_, fun _ => ?_, fun _ => ⟨hopen, hall⟩⟩
      · exact absurd (hopen.symm.trans hclosed) nofun
      · show s.file.map _ = _
        rw [hs.after hopen]
        rfl

theorem stored_start (prior : Option StoredFile) (bytes : Bytes) :
    Stored prior bytes [] ⟨prior, 0⟩ where
  fresh := rfl
  within := Nat.zero_le _
  before _ := ⟨rfl, rfl⟩
  after h := absurd h nofun
  last h := absurd h nofun

theorem stored_interrupted (path : TargetPath) (prior : Option StoredFile) (bytes : Bytes)
    (answers : List StorageAnswer) :
    Stored prior bytes (interrupted path prior bytes answers).1
      (interrupted path prior bytes answers).2 :=
  Prog.cut_of_licensed (writeRestricted_sequenced path bytes) stored_exec
    (stored_start prior bytes) answers

/-- A call that succeeds leaves the new content, for the owner only. -/
theorem written_of_ok {path : TargetPath} {prior : Option StoredFile} {bytes : Bytes}
    {s : LocalStorage} (h : Prog.Runs StorageOp.exec (fun _ _ _ => True)
      (writeRestricted path bytes) ⟨prior, 0⟩ (.ok ()) s) : s.file = some ⟨bytes, 0o600⟩ := by
  have hwp := Prog.wp_of_licensed (A := fun _ _ _ => True) (writeRestricted_sequenced path bytes)
    (fun h s o answer ho _ hs => stored_exec h s o answer ho hs) (stored_start prior bytes)
  obtain ⟨calls, hok, hstored⟩ := Prog.wp_sound h hwp
  have hrestricted := hok rfl
  obtain ⟨hopen, hall⟩ := hstored.last hrestricted
  rw [hstored.after hopen, hrestricted, hall, List.take_length]
  rfl

theorem createdMode_ownerOnly (prior : Option StoredFile) :
    (createdMode prior).ownerOnly = true ↔ ∃ f ∈ prior, f.mode.ownerOnly = true := by
  cases prior with
  | none => exact ⟨fun h => absurd h (by decide), fun ⟨_, h, _⟩ => absurd h nofun⟩
  | some f => exact ⟨fun h => ⟨f, rfl, h⟩, fun ⟨_, rfl, h⟩ => h⟩

variable {prior : Option StoredFile} {bytes : Bytes} {h : List StorageCall} {s : LocalStorage}

theorem private_iff (hs : Stored prior bytes h s) : Private s ↔ PrivateWhen prior h := by
  unfold Private PrivateWhen
  rw [hs.fresh, ← createdMode_ownerOnly]
  cases hopen : opened h with
  | false =>
    obtain ⟨-, hnothing⟩ := hs.before hopen
    exact ⟨fun _ => Or.inl hnothing, fun _ f _ hpos => absurd hnothing (Nat.ne_of_gt hpos)⟩
  | true =>
    rw [hs.after hopen]
    constructor
    · intro hprivate
      by_cases hnothing : written h = 0
      · exact Or.inl hnothing
      · have hmode := hprivate _ rfl (Nat.pos_of_ne_zero hnothing)
        cases hr : restricted h with
        | true => exact Or.inr (Or.inl rfl)
        | false =>
          rw [hr] at hmode
          exact Or.inr (Or.inr hmode)
    · intro hwhen f hf hpos
      obtain rfl := Option.some.inj hf
      obtain hnothing | hr | hmode := hwhen
      · exact absurd hnothing (Nat.ne_of_gt hpos)
      · show FileMode.ownerOnly (if restricted h then 0o600 else createdMode prior) = true
        rw [if_pos hr]
        decide
      · show FileMode.ownerOnly (if restricted h then 0o600 else createdMode prior) = true
        split
        · decide
        · exact hmode

theorem whole_iff (hs : Stored prior bytes h s) : Whole prior bytes s ↔ WholeWhen prior bytes h := by
  unfold Whole WholeWhen
  cases hopen : opened h with
  | false =>
    obtain ⟨hsame, -⟩ := hs.before hopen
    exact ⟨fun _ => Or.inl rfl, fun _ => Or.inl (congrArg _ hsame)⟩
  | true =>
    have hlength : bytes.take (written h) = bytes ↔ written h = bytes.length := by
      have hwithin := hs.within
      rw [List.take_eq_self_iff]
      omega
    rw [hs.after hopen]
    constructor
    · intro hwhole
      obtain hsame | hnew := hwhole
      · exact Or.inr (Or.inr hsame.symm)
      · exact Or.inr (Or.inl (hlength.mp (Option.some.inj hnew)))
    · intro hwhen
      obtain hclosed | hall | hsame := hwhen
      · exact absurd hclosed nofun
      · exact Or.inr (congrArg some (hlength.mpr hall))
      · exact Or.inl hsame.symm

/-- **When the call is interrupted, wherever that is and whatever was there before,
the file is private and whole exactly under these conditions.** -/
theorem written_private_whole_iff (path : TargetPath) (prior : Option StoredFile) (bytes : Bytes)
    (answers : List StorageAnswer) :
    (Private (interrupted path prior bytes answers).2
        ↔ PrivateWhen prior (interrupted path prior bytes answers).1)
      ∧ (Whole prior bytes (interrupted path prior bytes answers).2
        ↔ WholeWhen prior bytes (interrupted path prior bytes answers).1) := by
  have hstored := stored_interrupted path prior bytes answers
  exact ⟨private_iff hstored, whole_iff hstored⟩

/-- A new file, while it is written. -/
theorem secret_readable : ¬ ∀ (path : TargetPath) (prior : Option StoredFile) (bytes : Bytes)
    (answers : List StorageAnswer),
    Private (interrupted path prior bytes answers).2
      ∧ Whole prior bytes (interrupted path prior bytes answers).2 := by
  intro h
  obtain ⟨hprivate, -⟩ := h ⟨"visuara/local-settings.json", some "visuara"⟩ none [0x7b, 0x7d]
    [.ok 0, .ok 0, .ok 2]
  exact absurd (hprivate ⟨[0x7b, 0x7d], 0o644⟩ rfl (by decide)) (by decide)

end Visuara.Client
