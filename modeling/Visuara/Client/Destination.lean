/-
  Visuara.Client.Destination
  ──────────────────────────
  **WHETHER A RECEIVED FILE REPLACES ANOTHER** (`file_transfer.rs`).

  `unique_destination_path` tries a name and 9,999 numbered ones, and when all
  of them are taken returns the first: the file there is made empty.
-/
import Visuara.Client.Transfers

namespace Visuara.Client

open Visuara.Path

/-! ## §1. The search. -/

/-- **The chosen path is free exactly if one of the candidates is**, in every
directory of every file system. -/
theorem destination_free_iff {σ File : Type} [FileSystem σ File] (dir name : String) (s : σ) :
    FileSystem.pathExists (uniqueDestinationPath dir name s) s = false
      ↔ FileSystem.pathExists (join dir name) s = false
        ∨ ∃ n, 1 ≤ n ∧ n < 10000
          ∧ FileSystem.pathExists (join dir (numberedName name n)) s = false := by
  obtain ⟨hfree, hpath⟩ | ⟨-, n, h1, hn, hfree, hpath⟩ | ⟨hex, hall, hpath⟩ :=
    uniqueDestinationPath_cases dir name s
  · rw [hpath]
    exact iff_of_true hfree (Or.inl hfree)
  · rw [hpath]
    exact iff_of_true hfree (Or.inr ⟨n, h1, hn, hfree⟩)
  · -- the search has ended without a hit
    rw [hpath]
    refine iff_of_false (fun h => absurd (hex.symm.trans h) Bool.noConfusion) fun h => ?_
    obtain hfree | ⟨n, h1, hn, hfree⟩ := h
    · exact absurd (hex.symm.trans hfree) Bool.noConfusion
    · exact absurd ((hall n h1 hn).symm.trans hfree) Bool.noConfusion

/-! ## §2. The offer. -/

/-- Every file that has ever been created holds what it held, whether it has a
name or is only open. -/
def Disk.Intact (d d' : Disk) : Prop := ∀ i, i < d.nextInode → d'.content i = d.content i

/-- Opening a path that does not exist empties nothing. -/
theorem Disk.create_intact {d : Disk} {p : String} (h : FileSystem.pathExists p d = false) :
    Disk.Intact d (d.create p).2 := by
  intro i hi
  have hlookup : (d.lookup p).isSome = false := h
  unfold Disk.lookup at hlookup
  cases hp : d.resolve p with
  | none =>
    unfold Disk.create
    rw [hp]
  | some loc =>
    rw [hp, Option.bind_some] at hlookup
    cases hnode : d.nodes loc with
    | some node =>
      rw [hnode] at hlookup
      exact absurd hlookup nofun
    | none =>
      -- the new file has a new inode
      rw [Disk.create_new hp hnode]
      exact Function.update_of_ne (Nat.ne_of_lt hi) _ _

/-- What an offer leaves is what creating the file leaves. -/
theorem FileReceiver.offer_state {σ File : Type} [FileSystem σ File] (r : FileReceiver File)
    (t name : String) (size : Nat) (s : σ) : (r.handle (.offer t name size) s).state
      = (FileSystem.create (uniqueDestinationPath r.destDir name s) s).2 := by
  unfold FileReceiver.handle
  dsimp only
  split
  next heq => rw [heq]
  next heq => rw [heq]

/-- **An offer clobbers nothing exactly if one of the candidates is free**: the path
it goes to does not exist, and no file loses its content. -/
theorem offer_clobbers_nothing_iff (r : FileReceiver OpenFile) (t name : String) (size : Nat)
    (d : Disk) :
    (FileSystem.pathExists (uniqueDestinationPath r.destDir name d) d = false
        ∧ Disk.Intact d (r.handle (.offer t name size) d).state)
      ↔ Vacant r.destDir name d := by
  constructor
  · exact fun h => (destination_free_iff r.destDir name d).mp h.1
  · intro hvacant
    have hfree := (destination_free_iff r.destDir name d).mpr hvacant
    rw [FileReceiver.offer_state]
    exact ⟨hfree, Disk.create_intact hfree⟩

/-- Where none is free, the file of the offered name is emptied. -/
theorem offer_empties {r : FileReceiver OpenFile} {t name : String} {size i : Nat} {d : Disk}
    (htaken : ¬ Vacant r.destDir name d)
    (hfile : d.lookup (join r.destDir name) = some (.file i)) :
    (r.handle (.offer t name size) d).state.content i = [] := by
  have hpath : uniqueDestinationPath r.destDir name d = join r.destDir name := by
    obtain ⟨hfree, -⟩ | ⟨-, n, h1, hn, hfree, -⟩ | ⟨-, -, hpath⟩ :=
      uniqueDestinationPath_cases r.destDir name d
    · exact absurd (Or.inl hfree) htaken
    · exact absurd (Or.inr ⟨n, h1, hn, hfree⟩) htaken
    · exact hpath
  obtain ⟨loc, hp, hnode⟩ := Option.bind_eq_some_iff.mp hfile
  have hcreate : (d.create (join r.destDir name)).2 = d.setContent i [] := by
    unfold Disk.create
    rw [hp]
    dsimp only
    rw [hnode]
  rw [FileReceiver.offer_state, hpath]
  show (d.create (join r.destDir name)).2.content i = []
  rw [hcreate]
  exact Function.update_self _ _ _

/-! ## §3. A full directory. -/

/-- A name and all that are tried in its place. -/
def takenNames : List String := "a.txt" :: (List.range' 1 9999).map (numberedName "a.txt")

/-- A directory where they are all taken. -/
def fullDisk : Disk where
  nodes
    | [] | ["inbox"] => some .dir
    | ["inbox", name] => if name ∈ takenNames then some (.file (takenNames.idxOf name)) else none
    | _ => none
  content _ := [1, 2]
  nextInode := takenNames.length
  cwd := []
  inode_lt loc i h := by
    split at h
    · exact absurd h nofun
    · exact absurd h nofun
    next name =>
      obtain ⟨hmem, heq⟩ := Option.ite_none_right_eq_some.mp h
      obtain rfl : takenNames.idxOf name = i := by simpa using heq
      exact List.idxOf_lt_length_iff.mpr hmem
    · exact absurd h nofun

theorem fullDisk_taken {name : String} (hplain : Plain name) (hmem : name ∈ takenNames) :
    FileSystem.pathExists (join "/inbox" name) fullDisk = true := by
  have hdir : fullDisk.resolve "/inbox" = some ["inbox"] := by decide +kernel
  show (fullDisk.lookup (join "/inbox" name)).isSome = true
  rw [Disk.lookup, Disk.resolve_join hdir rfl hplain, Option.bind_some]
  show (if name ∈ takenNames then some (Node.file (takenNames.idxOf name)) else none).isSome = true
  rw [if_pos hmem]
  rfl

/-- One more file of the name goes to the first. -/
theorem full_directory_clobbered : ¬ ∀ (r : FileReceiver OpenFile) (t name : String) (size : Nat)
    (d : Disk), Plain name →
      FileSystem.pathExists (uniqueDestinationPath r.destDir name d) d = false
        ∧ Disk.Intact d (r.handle (.offer t name size) d).state := by
  intro h
  have hplain : Plain "a.txt" := by decide
  obtain ⟨hfree, -⟩ := h (FileReceiver.new "/inbox") "t" "a.txt" 2 fullDisk hplain
  obtain hfree | ⟨n, h1, hn, hfree⟩ := (destination_free_iff _ _ _).mp hfree
  · have htaken := fullDisk_taken hplain List.mem_cons_self
    exact absurd (htaken.symm.trans hfree) Bool.noConfusion
  · have hmem : numberedName "a.txt" n ∈ takenNames :=
      List.mem_cons_of_mem _ (List.mem_map_of_mem (List.mem_range'_1.mpr ⟨h1, hn⟩))
    have htaken := fullDisk_taken (plain_numberedName "a.txt" n) hmem
    exact absurd (htaken.symm.trans hfree) Bool.noConfusion

end Visuara.Client
