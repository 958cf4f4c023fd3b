/-
  Visuara.Client.FileTransfer
  ───────────────────────────
  **SENDING AND RECEIVING FILES.**

  The controller cuts a file into chunks, the host routes them by transfer id
  through the map `in_progress` to the file each transfer was given.  Both
  sides are functions over any file system; the host handles one message
  after the other (`receive`) and goes on after an error.
-/
import Visuara.Common.FileSystem
import Mathlib.Algebra.Group.Nat.Defs

namespace Visuara.Client

open Visuara.Path

inductive FileTransferMessage where
  | offer (transferId fileName : String) (sizeBytes : Nat)
  | accept (transferId : String)
  | reject (transferId : String)
  | chunk (transferId : String) (sequence : Nat) (data : Bytes)
  | complete (transferId : String)
  | cancel (transferId : String)
  deriving DecidableEq, Repr

def FileTransferMessage.transferId : FileTransferMessage → String
  | .offer t _ _ | .accept t | .reject t | .chunk t _ _ | .complete t | .cancel t => t

/-! ## §1. The controller. -/

def CHUNK_SIZE : Nat := 16 * 1024

/-- `<[u8]>::chunks`. -/
def chunks (size : Nat) (data : Bytes) : List Bytes :=
  (List.range ((data.length + size - 1) / size)).map fun i => (data.drop (i * size)).take size

theorem flatten_chunks_take (size n : Nat) (data : Bytes) :
    ((List.range n).map fun i => (data.drop (i * size)).take size).flatten
      = data.take (n * size) := by
  induction n with
  | zero => simp
  | succ n ih =>
    rw [List.range_succ, List.map_append, List.flatten_append, ih, Nat.succ_mul, List.take_add]
    simp

/-- **Nothing is lost between the chunks.** -/
theorem flatten_chunks {size : Nat} (hsize : 0 < size) (data : Bytes) :
    (chunks size data).flatten = data := by
  have hcover : data.length ≤ (data.length + size - 1) / size * size := by
    have hlt : data.length + size - 1 < ((data.length + size - 1) / size + 1) * size :=
      Nat.lt_mul_of_div_lt (Nat.lt_succ_self _) hsize
    rw [Nat.add_mul] at hlt
    omega
  rw [chunks, flatten_chunks_take, List.take_of_length_le hcover]

/-- The chunks with their numbers, which are 32 bits wide. -/
def chunkMessages (transferId : String) (sequence : Nat) : List Bytes → List FileTransferMessage
  | [] => []
  | data :: rest =>
    .chunk transferId (sequence % 2 ^ 32) data :: chunkMessages transferId (sequence + 1) rest

/-- The messages `send_file` sends for the file at `path` with content `data`. -/
def sendFile (path transferId : String) (data : Bytes) : List FileTransferMessage :=
  .offer transferId ((fileName path).getD "file") data.length
    :: chunkMessages transferId 0 (chunks CHUNK_SIZE data) ++ [.complete transferId]

/-! ## §2. The host. -/

variable {σ File : Type}

/-- The n-th name that is tried in place of `file_name`. -/
def numberedName (name : String) (n : Nat) : String :=
  match extension name with
  | some ext => (fileStem name).getD "" ++ " (" ++ toString n ++ ")." ++ ext
  | none => (fileStem name).getD "" ++ " (" ++ toString n ++ ")"

/-- Avoids clobbering an existing file of the same name. -/
def uniqueDestinationPath [FileSystem σ File] (dir name : String) (s : σ) : String :=
  if !FileSystem.pathExists (join dir name) s then join dir name
  else
    match (List.range' 1 9999).find? fun n =>
      !FileSystem.pathExists (join dir (numberedName name n)) s with
    | some n => join dir (numberedName name n)
    | none => join dir name

structure FileReceiver (File : Type) where
  destDir : String
  inProgress : String → Option (String × File)

namespace FileReceiver

/-- A receiver over a directory that is there. -/
def new (destDir : String) : FileReceiver File := ⟨destDir, fun _ => none⟩

def insert (r : FileReceiver File) (t : String) (entry : String × File) : FileReceiver File :=
  { r with inProgress := Function.update r.inProgress t (some entry) }

def remove (r : FileReceiver File) (t : String) : FileReceiver File :=
  { r with inProgress := Function.update r.inProgress t none }

theorem insert_of_ne {t t' : String} (h : t' ≠ t) (r : FileReceiver File) (entry : String × File) :
    (r.insert t entry).inProgress t' = r.inProgress t' :=
  Function.update_of_ne h _ _

theorem remove_of_ne {t t' : String} (h : t' ≠ t) (r : FileReceiver File) :
    (r.remove t).inProgress t' = r.inProgress t' :=
  Function.update_of_ne h _ _

/-- The entry of a transfer is the one that was put there last. -/
theorem eq_of_insert {r : FileReceiver File} {t : String} {entry entry' : String × File}
    (h : (r.insert t entry).inProgress t = some entry') : entry = entry' := by
  have hself : (r.insert t entry).inProgress t = some entry := Function.update_self _ _ _
  exact Option.some.inj (hself.symm.trans h)

theorem remove_self (r : FileReceiver File) (t : String) : (r.remove t).inProgress t = none :=
  Function.update_self _ _ _

/-- What one call of `handle` leaves behind. -/
structure Handled (σ File : Type) where
  result : Except String Unit
  /-- The path that is reported as received. -/
  received : Option String
  receiver : FileReceiver File
  state : σ

def handle [FileSystem σ File] (r : FileReceiver File) (msg : FileTransferMessage) (s : σ) :
    Handled σ File :=
  match msg with
  | .offer t name _ =>
    let path := uniqueDestinationPath r.destDir name s
    match FileSystem.create path s with
    | (.ok file, s') => ⟨.ok (), none, r.insert t (path, file), s'⟩
    | (.error e, s') => ⟨.error ("create " ++ path ++ ": " ++ e), none, r, s'⟩
  | .chunk t _ data =>
    match r.inProgress t with
    | some (path, file) =>
      match FileSystem.writeAll file data s with
      | (written, file', s') =>
        ⟨written.mapError ("write file chunk: " ++ ·), none, r.insert t (path, file'), s'⟩
    | none => ⟨.ok (), none, r, s⟩
  | .complete t =>
    match r.inProgress t with
    | some (path, _) => ⟨.ok (), some path, r.remove t, s⟩
    | none => ⟨.ok (), none, r, s⟩
  | .cancel t =>
    match r.inProgress t with
    | some (path, _) => ⟨.ok (), none, r.remove t, (FileSystem.removeFile path s).2⟩
    | none => ⟨.ok (), none, r, s⟩
  | .accept _ | .reject _ => ⟨.ok (), none, r, s⟩

/-- The messages of a session, one after the other. -/
def receive [FileSystem σ File] (r : FileReceiver File) (s : σ) :
    List FileTransferMessage → FileReceiver File × σ
  | [] => (r, s)
  | msg :: msgs => receive (r.handle msg s).receiver (r.handle msg s).state msgs

/-- Every offer comes when `P` holds of its name. -/
def OffersMeet [FileSystem σ File] (P : String → σ → Prop) (r : FileReceiver File) (s : σ) :
    List FileTransferMessage → Prop
  | [] => True
  | msg :: msgs => (∀ t name size, msg = .offer t name size → P name s)
      ∧ OffersMeet P (r.handle msg s).receiver (r.handle msg s).state msgs

end FileReceiver

namespace FileReceiver

/-- What handling a message comes to, case by case. -/
inductive Does [FileSystem σ File] (r : FileReceiver File) (s : σ) :
    FileTransferMessage → FileReceiver File → σ → Prop
  | opens {t name size file s'}
      (h : FileSystem.create (uniqueDestinationPath r.destDir name s) s = (.ok file, s')) :
      Does r s (.offer t name size) (r.insert t (uniqueDestinationPath r.destDir name s, file)) s'
  | refused {t name size e s'}
      (h : FileSystem.create (uniqueDestinationPath r.destDir name s) s = (.error e, s')) :
      Does r s (.offer t name size) r s'
  | writes {t sequence data path file} (h : r.inProgress t = some (path, file)) :
      Does r s (.chunk t sequence data)
        (r.insert t (path, (FileSystem.writeAll file data s).2.1))
        (FileSystem.writeAll file data s).2.2
  | completes {t path file} (h : r.inProgress t = some (path, file)) :
      Does r s (.complete t) (r.remove t) s
  | cancels {t path file} (h : r.inProgress t = some (path, file)) :
      Does r s (.cancel t) (r.remove t) (FileSystem.removeFile path s).2
  | ignores {msg} (hoffer : ∀ t name size, msg ≠ .offer t name size)
      (h : r.inProgress msg.transferId = none ∨ ∃ t, msg = .accept t ∨ msg = .reject t) :
      Does r s msg r s

/-- **Every message is handled by one of the cases.** -/
theorem handle_does [FileSystem σ File] (r : FileReceiver File) (msg : FileTransferMessage)
    (s : σ) : Does r s msg (r.handle msg s).receiver (r.handle msg s).state := by
  cases msg with
  | offer t name size =>
    cases h : FileSystem.create (uniqueDestinationPath r.destDir name s) s with
    | mk created s' =>
      cases created with
      | ok file =>
        simp only [handle, h]
        exact .opens h
      | error e =>
        simp only [handle, h]
        exact .refused h
  | chunk t sequence data =>
    cases h : r.inProgress t with
    | none =>
      simp only [handle, h]
      exact .ignores nofun (.inl h)
    | some entry =>
      simp only [handle, h]
      exact .writes h
  | complete t =>
    cases h : r.inProgress t with
    | none =>
      simp only [handle, h]
      exact .ignores nofun (.inl h)
    | some entry =>
      simp only [handle, h]
      exact .completes h
  | cancel t =>
    cases h : r.inProgress t with
    | none =>
      simp only [handle, h]
      exact .ignores nofun (.inl h)
    | some entry =>
      simp only [handle, h]
      exact .cancels h
  | accept t => exact .ignores nofun (.inr ⟨t, .inl rfl⟩)
  | reject t => exact .ignores nofun (.inr ⟨t, .inr rfl⟩)

end FileReceiver

/-! ## §3. The chosen path. -/

variable [FileSystem σ File] {dir name : String} {s : σ}

/-- Where the chosen path comes from. -/
theorem uniqueDestinationPath_cases (dir name : String) (s : σ) :
    (FileSystem.pathExists (join dir name) s = false
        ∧ uniqueDestinationPath dir name s = join dir name)
      ∨ (FileSystem.pathExists (join dir name) s = true
        ∧ (∃ n, 1 ≤ n ∧ n < 10000
          ∧ FileSystem.pathExists (join dir (numberedName name n)) s = false
          ∧ uniqueDestinationPath dir name s = join dir (numberedName name n)))
      ∨ (FileSystem.pathExists (join dir name) s = true
        ∧ (∀ n, 1 ≤ n → n < 10000 → FileSystem.pathExists (join dir (numberedName name n)) s = true)
        ∧ uniqueDestinationPath dir name s = join dir name) := by
  unfold uniqueDestinationPath
  cases hex : FileSystem.pathExists (join dir name) s with
  | false => exact .inl ⟨rfl, by simp⟩
  | true =>
    right
    simp only [Bool.not_true, Bool.false_eq_true, if_false, true_and]
    split
    next n hn =>
      left
      have hmem := List.mem_of_find?_eq_some hn
      have hfree := List.find?_some hn
      rw [List.mem_range'_1] at hmem
      exact ⟨n, hmem.1, hmem.2, by simpa using hfree, rfl⟩
    next hnone =>
      right
      refine ⟨fun n h1 hn => ?_, rfl⟩
      rw [List.find?_eq_none] at hnone
      simpa using hnone n (List.mem_range'_1.mpr ⟨h1, hn⟩)

/-- **Every numbered name is plain**, whatever the name it is made from. -/
theorem plain_numberedName (name : String) (n : Nat) : Plain (numberedName name n) := by
  have hstem : '/' ∉ ((fileStem name).getD "").toList := by
    cases h : fileStem name with
    | none => simp
    | some stem => exact no_sep_of_fileStem h
  have hnumber : '/' ∉ Nat.toDigits 10 n := by
    intro hm
    have hdigit : ('/').isDigit = true :=
      Nat.isDigit_of_mem_toDigits (by decide) (by decide) hm
    exact absurd hdigit (by decide)
  have hspace : ∀ m ∈ ["", ".", ".."], numberedName name n ≠ m := by
    intro m hm heq
    have hblank : ' ' ∈ (numberedName name n).toList := by
      unfold numberedName
      split <;> simp
    rw [heq] at hblank
    simp only [List.mem_cons, List.not_mem_nil, or_false] at hm
    rcases hm with rfl | rfl | rfl <;> exact absurd hblank (by decide)
  refine ⟨hspace "" (by simp), hspace "." (by simp), hspace ".." (by simp), ?_⟩
  unfold numberedName
  split
  next ext hext =>
    have hno := no_sep_of_extension hext
    simp [hstem, hnumber, hno]
  next => simp [hstem, hnumber]

end Visuara.Client
