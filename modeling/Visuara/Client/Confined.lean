/-
  Visuara.Client.Confined
  ───────────────────────
  **WHERE RECEIVED FILES GO.**

  `Logged` is a file system that writes down every path it is handed.  The
  paths of a session are entries of the destination directory itself exactly
  if every offered name is, unless a numbered name takes its place:

    • `Logged`           — any file system, with the paths it was handed;
    • `Confined`         — what an offer must meet;
    • `received_in_directory_iff` — for every session over every file system.
-/
import Visuara.Client.FileTransfer

namespace Visuara.Client

open Visuara.Path

variable {σ File : Type}

/-! ## §1. A file system that writes down its paths. -/

/-- A state with the paths of all files that have been created, written or
removed, or have been asked to be. -/
structure Logged (σ : Type) where
  state : σ
  touched : List String

/-- An open file is known by the path it was created at. -/
instance [FileSystem σ File] : FileSystem (Logged σ) (String × File) where
  pathExists p s := FileSystem.pathExists p s.state
  create p s :=
    ((FileSystem.create p s.state).1.map fun file => (p, file),
      ⟨(FileSystem.create p s.state).2, p :: s.touched⟩)
  writeAll file data s :=
    ((FileSystem.writeAll file.2 data s.state).1,
      (file.1, (FileSystem.writeAll file.2 data s.state).2.1),
      ⟨(FileSystem.writeAll file.2 data s.state).2.2, file.1 :: s.touched⟩)
  removeFile p s :=
    ((FileSystem.removeFile p s.state).1, ⟨(FileSystem.removeFile p s.state).2, p :: s.touched⟩)

variable [FileSystem σ File]

/-! ## §2. One offer. -/

/-- What an offer of `name` must meet: the name itself leads to an entry of the
directory, or it is taken and a numbered name is free. -/
def Confined (dir name : String) (s : Logged σ) : Prop :=
  IsChild dir (join dir name)
    ∨ FileSystem.pathExists (join dir name) s.state = true
      ∧ ∃ n, 1 ≤ n ∧ n < 10000
        ∧ FileSystem.pathExists (join dir (numberedName name n)) s.state = false

/-- **One offer goes to the directory exactly if it meets the condition.** -/
theorem isChild_destination_iff (dir name : String) (s : Logged σ) :
    IsChild dir (uniqueDestinationPath dir name s) ↔ Confined dir name s := by
  rcases uniqueDestinationPath_cases dir name s with ⟨hfree, hpath⟩ | ⟨hex, n, h1, hn, hfree, hpath⟩
    | ⟨hex, hall, hpath⟩
  · rw [hpath]
    refine ⟨.inl, fun h => h.resolve_right ?_⟩
    rintro ⟨hex, -⟩
    exact absurd (hex.symm.trans hfree) Bool.noConfusion
  · rw [hpath]
    exact ⟨fun _ => .inr ⟨hex, n, h1, hn, hfree⟩, fun _ => (plain_numberedName name n).isChild dir⟩
  · rw [hpath]
    refine ⟨.inl, fun h => h.resolve_right ?_⟩
    rintro ⟨-, n, h1, hn, hfree⟩
    exact absurd ((hall n h1 hn).symm.trans hfree) Bool.noConfusion

/-! ## §3. A whole session. -/

/-- Everything the receiver over `dir` has touched, and may still touch, is an
entry of `dir`. -/
structure Inside (dir : String) (r : FileReceiver (String × File)) (s : Logged σ) : Prop where
  dest : r.destDir = dir
  touched : ∀ p ∈ s.touched, IsChild dir p
  inProgress : ∀ t path file, r.inProgress t = some (path, file) →
    IsChild dir path ∧ IsChild dir file.1

variable {r r' : FileReceiver (String × File)} {s s' : Logged σ} {msg : FileTransferMessage}
  {dir : String}

/-- Creating a file writes its path down, and the file is known by it. -/
theorem logged_create {p : String} {created : Except String (String × File)}
    (h : FileSystem.create p s = (created, s')) :
    s'.touched = p :: s.touched ∧ ∀ file, created = .ok file → file.1 = p := by
  obtain ⟨hcreated, rfl⟩ := Prod.mk.inj h
  refine ⟨rfl, fun file hok => ?_⟩
  rw [hok] at hcreated
  cases hc : (FileSystem.create p s.state).1 with
  | error e =>
    rw [hc] at hcreated
    exact absurd hcreated nofun
  | ok f =>
    rw [hc] at hcreated
    injection hcreated with hcreated
    rw [← hcreated]

/-- What is touched stays touched. -/
theorem touched_of_does (h : r.Does s msg r' s') : ∀ p ∈ s.touched, p ∈ s'.touched := by
  intro p hp
  cases h with
  | opens h | refused h =>
    rw [(logged_create h).1]
    exact List.mem_cons_of_mem _ hp
  | writes | cancels => exact List.mem_cons_of_mem _ hp
  | completes | ignores => exact hp

theorem touched_receive (r : FileReceiver (String × File)) (s : Logged σ)
    (msgs : List FileTransferMessage) : ∀ p ∈ s.touched, p ∈ (r.receive s msgs).2.touched := by
  induction msgs generalizing r s with
  | nil => exact fun p hp => hp
  | cons msg msgs ih =>
    exact fun p hp => ih _ _ p (touched_of_does (r.handle_does msg s) p hp)

/-- The directory stays the same. -/
theorem destDir_of_does (h : r.Does s msg r' s') : r'.destDir = r.destDir := by
  cases h <;> rfl

omit [FileSystem σ File] in
theorem Inside.insert (h : Inside dir r s) {t path : String} {file : String × File}
    (hpath : IsChild dir path) (hfile : IsChild dir file.1)
    (hs : ∀ p ∈ s'.touched, p = path ∨ p = file.1 ∨ p ∈ s.touched) :
    Inside dir (r.insert t (path, file)) s' where
  dest := h.dest
  touched p hp := by
    rcases hs p hp with rfl | rfl | hp
    · exact hpath
    · exact hfile
    · exact h.touched p hp
  inProgress t' path' file' hentry := by
    by_cases ht : t' = t
    · subst ht
      obtain ⟨rfl, rfl⟩ := Prod.mk.inj (FileReceiver.eq_of_insert hentry)
      exact ⟨hpath, hfile⟩
    · rw [FileReceiver.insert_of_ne ht] at hentry
      exact h.inProgress t' path' file' hentry

omit [FileSystem σ File] in
theorem Inside.remove (h : Inside dir r s) (t : String) (hs : ∀ p ∈ s'.touched, IsChild dir p) :
    Inside dir (r.remove t) s' where
  dest := h.dest
  touched := hs
  inProgress t' path file hentry := by
    by_cases ht : t' = t
    · subst ht
      exact absurd ((FileReceiver.remove_self r t').symm.trans hentry) nofun
    · rw [FileReceiver.remove_of_ne ht] at hentry
      exact h.inProgress t' path file hentry

/-- **One message keeps inside**, if the offer does. -/
theorem Inside.step (h : Inside dir r s) (hdoes : r.Does s msg r' s')
    (hoffer : ∀ t name size, msg = .offer t name size → Confined dir name s) :
    Inside dir r' s' := by
  have hchild : ∀ {t name size}, msg = .offer t name size →
      IsChild dir (uniqueDestinationPath r.destDir name s) := by
    intro t name size hmsg
    rw [h.dest, isChild_destination_iff]
    exact hoffer t name size hmsg
  cases hdoes with
  | opens hc =>
    obtain ⟨htouched, hfile⟩ := logged_create hc
    refine h.insert (hchild rfl) (by rw [hfile _ rfl]; exact hchild rfl) fun p hp => ?_
    rw [htouched] at hp
    rcases List.mem_cons.mp hp with rfl | hp
    · exact .inl rfl
    · exact .inr (.inr hp)
  | refused hc =>
    refine ⟨h.dest, fun p hp => ?_, h.inProgress⟩
    rw [(logged_create hc).1] at hp
    rcases List.mem_cons.mp hp with rfl | hp
    · exact hchild rfl
    · exact h.touched p hp
  | writes hentry =>
    obtain ⟨hpath, hfile⟩ := h.inProgress _ _ _ hentry
    refine h.insert hpath hfile fun p hp => ?_
    rcases List.mem_cons.mp hp with rfl | hp
    · exact .inr (.inl rfl)
    · exact .inr (.inr hp)
  | completes => exact h.remove _ h.touched
  | cancels hentry =>
    refine h.remove _ fun p hp => ?_
    rcases List.mem_cons.mp hp with rfl | hp
    · exact (h.inProgress _ _ _ hentry).1
    · exact h.touched p hp
  | ignores => exact h

/-- A session keeps inside, if its offers do. -/
theorem Inside.receive (h : Inside dir r s) {msgs : List FileTransferMessage}
    (hmeet : r.OffersMeet (Confined dir) s msgs) :
    Inside dir (r.receive s msgs).1 (r.receive s msgs).2 := by
  induction msgs generalizing r s with
  | nil => exact h
  | cons msg msgs ih => exact ih (h.step (r.handle_does msg s) hmeet.1) hmeet.2

/-- The chosen path is written down, whether or not the file can be created. -/
theorem touched_offer (r : FileReceiver (String × File)) (t name : String) (size : Nat)
    (s : Logged σ) : uniqueDestinationPath r.destDir name s
      ∈ (r.handle (.offer t name size) s).state.touched := by
  cases hc : FileSystem.create (uniqueDestinationPath r.destDir name s) s with
  | mk created s' =>
    have hstate : (r.handle (.offer t name size) s).state = s' := by
      unfold FileReceiver.handle
      simp only [hc]
      cases created <;> rfl
    rw [hstate, (logged_create hc).1]
    exact List.mem_cons_self

/-- If nothing outside has been touched, the offers met the condition. -/
theorem offersMeet_of_touched (hdest : r.destDir = dir) {msgs : List FileTransferMessage}
    (h : ∀ p ∈ (r.receive s msgs).2.touched, IsChild dir p) :
    r.OffersMeet (Confined dir) s msgs := by
  induction msgs generalizing r s with
  | nil => trivial
  | cons msg msgs ih =>
    refine ⟨?_, ih ((destDir_of_does (r.handle_does msg s)).trans hdest) h⟩
    rintro t name size rfl
    have htouched := touched_offer r t name size s
    rw [hdest] at htouched
    rw [← isChild_destination_iff]
    exact h _ (touched_receive _ _ msgs _ htouched)

/-- **Received files stay in the receive directory exactly if the offers do.**
For every file system, every session of a new receiver and every content of
its messages: all paths that are created, written or removed are direct
children of the directory if and only if each offer, when it comes, either
names a direct child or finds its name taken and a numbered name free. -/
theorem received_in_directory_iff (s : σ) (dir : String) (msgs : List FileTransferMessage) :
    (∀ p ∈ ((FileReceiver.new dir).receive (⟨s, []⟩ : Logged σ) msgs).2.touched, IsChild dir p)
      ↔ (FileReceiver.new dir).OffersMeet (Confined dir) (⟨s, []⟩ : Logged σ) msgs := by
  constructor
  · exact offersMeet_of_touched rfl
  · intro hmeet
    have hnew : Inside dir (FileReceiver.new dir : FileReceiver (String × File))
        (⟨s, []⟩ : Logged σ) :=
      ⟨rfl, fun _ hp => absurd hp List.not_mem_nil,
        fun _ _ _ hentry => absurd hentry.symm (Option.some_ne_none _)⟩
    exact (hnew.receive hmeet).touched

/-! ## §4. One directory up. -/

/-- A home directory with a folder for downloads. -/
def homeDisk : Disk where
  nodes loc := if loc ∈ [[], ["home"], ["home", "u"], ["home", "u", "Downloads"]] then some .dir else none
  content _ := []
  nextInode := 0
  cwd := []
  inode_lt loc i h := by
    split at h
    · exact absurd h (by simp)
    · exact absurd h (by simp)

/-- The messages of a transfer whose name leads out of the directory. -/
def escaping : List FileTransferMessage :=
  [.offer "t" "../.bashrc" 2, .chunk "t" 0 [101, 120], .complete "t"]

/-- They write a file of the home directory. -/
example : ((FileReceiver.new "/home/u/Downloads").receive homeDisk escaping).2.read
    "/home/u/.bashrc" = some [101, 120] := by
  decide +kernel

theorem received_outside : ¬ ∀ (d : Disk) (dir : String) (msgs : List FileTransferMessage),
    ∀ p ∈ ((FileReceiver.new dir).receive (⟨d, []⟩ : Logged Disk) msgs).2.touched,
      IsChild dir p := by
  intro h
  have hmem : "/home/u/Downloads/../.bashrc" ∈ ((FileReceiver.new "/home/u/Downloads").receive
      (⟨homeDisk, []⟩ : Logged Disk) escaping).2.touched := by decide +kernel
  exact absurd (h homeDisk "/home/u/Downloads" escaping _ hmem) (by decide +kernel)

end Visuara.Client
