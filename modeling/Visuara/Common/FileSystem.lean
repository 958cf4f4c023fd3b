/-
  Visuara.Common.FileSystem
  ─────────────────────────
  **FILES AND THE PATHS THAT LEAD TO THEM.**

  `FileSystem σ` is what the code asks of `std::fs`, whatever stands behind
  it.  `Disk` is a file system without links: a tree of directories, files
  known by inode, handles that carry an offset.

    • `Disk.resolve_join` — a plain name is found in its directory;
    • `Disk.create_new`, `Disk.writeAll_end` — what the operations do to
      the contents, and that they do nothing else.
-/
import Visuara.Common.EmbeddedConfig
import Visuara.Common.Path
import Visuara.Slice.Splice
import Mathlib.Logic.Function.Basic

namespace Visuara

/-- The operations of `std::fs` on a state `σ`, with open files of type `File`. -/
class FileSystem (σ : Type) (File : outParam Type) where
  /-- `Path::exists`. -/
  pathExists : String → σ → Bool
  /-- `File::create`. -/
  create : String → σ → Except String File × σ
  /-- `write_all`, which moves the file's offset. -/
  writeAll : File → Bytes → σ → Except String Unit × File × σ
  /-- `remove_file`. -/
  removeFile : String → σ → Except String Unit × σ

/-! ## §1. A tree of files. -/

/-- The names on the way from the root. -/
abbrev Location := List String

inductive Node where
  | dir
  | file (inode : Nat)
  deriving DecidableEq, Repr

/-- An open file: its inode, and where the next write goes. -/
structure OpenFile where
  inode : Nat
  offset : Nat
  deriving DecidableEq, Repr

structure Disk where
  nodes : Location → Option Node
  content : Nat → Bytes
  nextInode : Nat
  /-- The current directory. -/
  cwd : Location
  /-- New inodes are new. -/
  inode_lt : ∀ loc i, nodes loc = some (.file i) → i < nextInode

namespace Disk

/-- Follow the pieces of a path. All but the last lead through directories, and
so does what a separator or a dot follows. -/
def walk (d : Disk) : Location → List String → Option Location
  | loc, [] => some loc
  | loc, piece :: rest =>
    if d.nodes loc = some .dir then
      if piece = "" ∨ piece = "." then walk d loc rest
      else if piece = ".." then walk d loc.dropLast rest
      else walk d (loc ++ [piece]) rest
    else none

/-- Where a path leads. -/
def resolve (d : Disk) (p : String) : Option Location :=
  if p = "" then none
  else d.walk (if Path.isAbsolute p then [] else d.cwd) (Path.pieces p)

def lookup (d : Disk) (p : String) : Option Node := (d.resolve p).bind d.nodes

/-- The content of the file a path leads to. -/
def read (d : Disk) (p : String) : Option Bytes :=
  match d.lookup p with
  | some (.file i) => some (d.content i)
  | _ => none

/-- Write `data` at `offset`; a gap before it reads as zeros. -/
def writeAt (offset : Nat) (data content : Bytes) : Bytes :=
  Slice.splice (content ++ List.replicate (offset - content.length) 0) offset data

/-- A new entry at `loc`. -/
def insert (d : Disk) (loc : Location) : Disk where
  nodes := Function.update d.nodes loc (some (.file d.nextInode))
  content := Function.update d.content d.nextInode []
  nextInode := d.nextInode + 1
  cwd := d.cwd
  inode_lt loc' i h := by
    by_cases hl : loc' = loc
    · subst hl
      rw [Function.update_self] at h
      injection h with h
      injection h with h
      omega
    · rw [Function.update_of_ne hl] at h
      exact Nat.lt_succ_of_lt (d.inode_lt loc' i h)

/-- The file `i` holds `data`. -/
def setContent (d : Disk) (i : Nat) (data : Bytes) : Disk :=
  { d with content := Function.update d.content i data }

/-- The entry at `loc` is gone; an open file behind it stays. -/
def unlink (d : Disk) (loc : Location) : Disk where
  nodes := Function.update d.nodes loc none
  content := d.content
  nextInode := d.nextInode
  cwd := d.cwd
  inode_lt loc' i h := by
    by_cases hl : loc' = loc
    · subst hl
      rw [Function.update_self] at h
      exact absurd h.symm (Option.some_ne_none _)
    · rw [Function.update_of_ne hl] at h
      exact d.inode_lt loc' i h

/-- Open for writing: a new file, or an old one made empty. -/
def create (p : String) (d : Disk) : Except String OpenFile × Disk :=
  match d.resolve p with
  | none => (.error "No such file or directory (os error 2)", d)
  | some loc =>
    match d.nodes loc with
    | some .dir => (.error "Is a directory (os error 21)", d)
    | some (.file i) => (.ok ⟨i, 0⟩, d.setContent i [])
    | none => (.ok ⟨d.nextInode, 0⟩, d.insert loc)

def writeAll (file : OpenFile) (data : Bytes) (d : Disk) : Except String Unit × OpenFile × Disk :=
  (.ok (), { file with offset := file.offset + data.length },
    d.setContent file.inode (writeAt file.offset data (d.content file.inode)))

def removeFile (p : String) (d : Disk) : Except String Unit × Disk :=
  match d.resolve p with
  | none => (.error "No such file or directory (os error 2)", d)
  | some loc =>
    match d.nodes loc with
    | none => (.error "No such file or directory (os error 2)", d)
    | some .dir => (.error "Is a directory (os error 21)", d)
    | some (.file _) => (.ok (), d.unlink loc)

instance : FileSystem Disk OpenFile where
  pathExists p d := (d.lookup p).isSome
  create := create
  writeAll := writeAll
  removeFile := removeFile

/-! ## §2. Names in a directory. -/

variable {d : Disk} {dir name : String} {loc : Location}

theorem walk_append (d : Disk) (l l' : List String) (loc : Location) :
    d.walk loc (l ++ l') = (d.walk loc l).bind fun loc' => d.walk loc' l' := by
  induction l generalizing loc with
  | nil => rfl
  | cons piece l ih =>
    rw [List.cons_append, walk, walk]
    split
    · split
      · exact ih loc
      · split
        · exact ih _
        · exact ih _
    · rfl

/-- One plain name further. -/
theorem walk_plain (hdir : d.nodes loc = some .dir) (hname : Path.Plain name) :
    d.walk loc [name] = some (loc ++ [name]) := by
  rw [walk, if_pos hdir, if_neg (by simp [hname.ne_empty, hname.ne_dot]), if_neg hname.ne_dots]
  rfl

/-- **A plain name leads to its entry in the directory.** -/
theorem resolve_join (hd : d.resolve dir = some loc) (hdir : d.nodes loc = some .dir)
    (hname : Path.Plain name) : d.resolve (Path.join dir name) = some (loc ++ [name]) := by
  have hne : dir ≠ "" := by
    rintro rfl
    exact absurd hd (by simp [resolve])
  rw [resolve, if_neg hne] at hd
  have hjoin : Path.join dir name ≠ "" := by
    intro h
    have hsteps := Path.steps_join dir hname.relative
    rw [h, hname.steps] at hsteps
    exact absurd hsteps (by simp [Path.steps_eq, Path.pieces_empty, Path.component?, Path.isAbsolute])
  rw [resolve, if_neg hjoin, Path.isAbsolute_join hname.relative]
  rcases Path.pieces_join dir hname.relative with h | ⟨init, hinit, h⟩
  · rw [h, walk_append, hd, hname.pieces]
    exact walk_plain hdir hname
  · rw [hinit, walk_append] at hd
    obtain ⟨loc', hloc', hlast⟩ := Option.bind_eq_some_iff.mp hd
    -- the separator at the end of the directory leads nowhere else
    obtain rfl : loc' = loc := by
      rw [walk] at hlast
      split at hlast
      · simpa [walk] using hlast
      · exact absurd hlast.symm (Option.some_ne_none loc)
    rw [h, walk_append, hloc', hname.pieces]
    exact walk_plain hdir hname

/-! ## §3. What the operations change. -/

variable {d' : Disk} {i : Nat}

/-- Paths lead where they led, as long as the directories are the same. -/
theorem resolve_congr (hcwd : d'.cwd = d.cwd)
    (hdirs : ∀ loc, d'.nodes loc = some .dir ↔ d.nodes loc = some .dir) (p : String) :
    d'.resolve p = d.resolve p := by
  have hwalk : ∀ (l : List String) (loc : Location), d'.walk loc l = d.walk loc l := by
    intro l
    induction l with
    | nil => exact fun _ => rfl
    | cons piece l ih =>
      intro loc
      simp only [walk, hdirs, ih]
  simp only [resolve, hcwd, hwalk]

/-- A new file does not change where paths lead. -/
theorem resolve_insert (hnone : d.nodes loc = none) (p : String) :
    (d.insert loc).resolve p = d.resolve p := by
  have hcwd : (d.insert loc).cwd = d.cwd := rfl
  refine resolve_congr hcwd (fun loc' => ?_) p
  by_cases hl : loc' = loc
  · subst hl
    simp [insert, hnone]
  · simp [insert, Function.update_of_ne hl]

/-- Nor does the removal of one. -/
theorem resolve_unlink (hfile : d.nodes loc = some (.file i)) (p : String) :
    (d.unlink loc).resolve p = d.resolve p := by
  have hcwd : (d.unlink loc).cwd = d.cwd := rfl
  refine resolve_congr hcwd (fun loc' => ?_) p
  by_cases hl : loc' = loc
  · subst hl
    simp [unlink, hfile]
  · simp [unlink, Function.update_of_ne hl]

theorem resolve_setContent (i : Nat) (data : Bytes) (p : String) :
    (d.setContent i data).resolve p = d.resolve p := by
  have hcwd : (d.setContent i data).cwd = d.cwd := rfl
  exact resolve_congr hcwd (fun _ => Iff.rfl) p

theorem create_new {p : String} (hp : d.resolve p = some loc) (hnone : d.nodes loc = none) :
    d.create p = (.ok ⟨d.nextInode, 0⟩, d.insert loc) := by
  simp only [create, hp, hnone]

theorem removeFile_file {p : String} (hp : d.resolve p = some loc)
    (hfile : d.nodes loc = some (.file i)) : d.removeFile p = (.ok (), d.unlink loc) := by
  simp only [removeFile, hp, hfile]

/-- Writing at the end appends. -/
theorem writeAt_end (data content : Bytes) :
    writeAt content.length data content = content ++ data := by
  have hnone : content.drop (content.length + data.length) = [] := by
    rw [List.drop_eq_nil_iff]
    omega
  simp [writeAt, Slice.splice, hnone]

theorem read_eq {p : String} (hp : d.resolve p = some loc) (hfile : d.nodes loc = some (.file i)) :
    d.read p = some (d.content i) := by
  have hlookup : d.lookup p = some (.file i) := by rw [lookup, hp, Option.bind_some, hfile]
  simp only [read, hlookup]

theorem exists_of_read {p : String} {data : Bytes} (h : d.read p = some data) :
    ∃ loc i, d.resolve p = some loc ∧ d.nodes loc = some (.file i) ∧ d.content i = data := by
  unfold read at h
  split at h
  next i hlookup =>
    obtain ⟨loc, hp, hnode⟩ := Option.bind_eq_some_iff.mp hlookup
    exact ⟨loc, i, hp, hnode, Option.some.inj h⟩
  next => exact absurd h.symm (Option.some_ne_none data)

end Disk

end Visuara
