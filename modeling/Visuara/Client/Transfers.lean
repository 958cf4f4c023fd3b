/-
  Visuara.Client.Transfers
  ────────────────────────
  **TRANSFERS DO NOT GET INTO EACH OTHER'S WAY.**

  One receiver writes many files at a time.  Each open transfer has an inode
  of its own, reached by a name of its own (`Board`), so a message changes the
  file of its transfer and no other (`Board.kept`):

    • `Effect`     — what a message does to the disk, case by case;
    • `Holding`    — a transfer under way, with the bytes it has got so far;
    • `transfers_isolated` — in every mix of transfers, a file arrives whole
      and the files that were there stay as they were.
-/
import Visuara.Client.FileTransfer

namespace Visuara.Client

open Visuara.Path

/-! ## §1. Open transfers. -/

variable {dir : String} {loc : Location} {r r' : FileReceiver OpenFile} {d d' : Disk}
  {msg : FileTransferMessage} {i : Nat} {t : String}

/-- The receiver's entries over the directory `dir`, which is at `loc`: every
open transfer has a plain name there and an inode that no other has, and goes
on at the end of what it has written. -/
structure Board (dir : String) (loc : Location) (r : FileReceiver OpenFile) (d : Disk) : Prop where
  dest : r.destDir = dir
  resolve : d.resolve dir = some loc
  isDir : d.nodes loc = some .dir
  entry : ∀ t path file, r.inProgress t = some (path, file) →
    ∃ name, Plain name ∧ path = join dir name ∧ d.nodes (loc ++ [name]) = some (.file file.inode)
      ∧ file.offset = (d.content file.inode).length
  distinct : ∀ t t' path path' file file', t ≠ t' → r.inProgress t = some (path, file) →
    r.inProgress t' = some (path', file') → file.inode ≠ file'.inode

/-- One of the names that are tried for `name` is free. -/
def Vacant (dir name : String) (d : Disk) : Prop :=
  FileSystem.pathExists (join dir name) d = false
    ∨ ∃ n, 1 ≤ n ∧ n < 10000 ∧ FileSystem.pathExists (join dir (numberedName name n)) d = false

/-- What is assumed of an offer. -/
def Offered (dir name : String) (d : Disk) : Prop := Plain name ∧ Vacant dir name d

/-- The chosen path is a plain name in the directory, and it is free. -/
theorem Board.chosen (h : Board dir loc r d) {name : String} (hoffer : Offered dir name d) :
    ∃ name', Plain name' ∧ uniqueDestinationPath dir name d = join dir name'
      ∧ d.nodes (loc ++ [name']) = none := by
  have hfree : ∀ {name'}, Plain name' → FileSystem.pathExists (join dir name') d = false →
      d.nodes (loc ++ [name']) = none := by
    intro name' hplain hex
    have hlookup : d.lookup (join dir name') = none := by
      rw [← Option.not_isSome_iff_eq_none]
      exact fun hs => absurd (hex.symm.trans hs) Bool.noConfusion
    rwa [Disk.lookup, Disk.resolve_join h.resolve h.isDir hplain, Option.bind_some] at hlookup
  rcases uniqueDestinationPath_cases dir name d with ⟨hex, hpath⟩ | ⟨-, n, -, -, hex, hpath⟩
    | ⟨hex, hall, -⟩
  · exact ⟨name, hoffer.1, hpath, hfree hoffer.1 hex⟩
  · exact ⟨_, plain_numberedName name n, hpath, hfree (plain_numberedName name n) hex⟩
  · rcases hoffer.2 with hno | ⟨n, h1, hn, hno⟩
    · exact absurd (hex.symm.trans hno) Bool.noConfusion
    · exact absurd ((hall n h1 hn).symm.trans hno) Bool.noConfusion

/-! ## §2. What a message does. -/

/-- The effect of a message on a disk where it finds what it expects. -/
inductive Effect (dir : String) (loc : Location) (r : FileReceiver OpenFile) (d : Disk) :
    FileTransferMessage → FileReceiver OpenFile → Disk → Prop
  | opens {t name name' : String} {size : Nat} (hplain : Plain name')
      (hpath : uniqueDestinationPath dir name d = join dir name')
      (hnone : d.nodes (loc ++ [name']) = none) :
      Effect dir loc r d (.offer t name size) (r.insert t (join dir name', ⟨d.nextInode, 0⟩))
        (d.insert (loc ++ [name']))
  | writes {t path : String} {sequence : Nat} {data : Bytes} {file : OpenFile}
      (h : r.inProgress t = some (path, file)) :
      Effect dir loc r d (.chunk t sequence data)
        (r.insert t (path, { file with offset := file.offset + data.length }))
        (d.setContent file.inode (d.content file.inode ++ data))
  | completes {t path : String} {file : OpenFile} (h : r.inProgress t = some (path, file)) :
      Effect dir loc r d (.complete t) (r.remove t) d
  | cancels {t path name : String} {file : OpenFile} (h : r.inProgress t = some (path, file))
      (hnode : d.nodes (loc ++ [name]) = some (.file file.inode)) :
      Effect dir loc r d (.cancel t) (r.remove t) (d.unlink (loc ++ [name]))
  | ignores {msg : FileTransferMessage} (hoffer : ∀ t name size, msg ≠ .offer t name size)
      (h : r.inProgress msg.transferId = none ∨ ∃ t, msg = .accept t ∨ msg = .reject t) :
      Effect dir loc r d msg r d

/-- **Every message has such an effect.** -/
theorem Board.effect (h : Board dir loc r d) (msg : FileTransferMessage)
    (hoffer : ∀ t name size, msg = .offer t name size → Offered dir name d) :
    Effect dir loc r d msg (r.handle msg d).receiver (r.handle msg d).state := by
  have hdoes := r.handle_does msg d
  generalize (r.handle msg d).receiver = r' at hdoes ⊢
  generalize (r.handle msg d).state = d' at hdoes ⊢
  cases hdoes with
  | @opens t name size file d' hc =>
    obtain ⟨name', hplain, hpath, hnone⟩ := h.chosen (hoffer t name size rfl)
    have hnew : Disk.create (uniqueDestinationPath r.destDir name d) d
        = (.ok ⟨d.nextInode, 0⟩, d.insert (loc ++ [name'])) := by
      rw [h.dest, hpath]
      exact Disk.create_new (Disk.resolve_join h.resolve h.isDir hplain) hnone
    obtain ⟨hfile, rfl⟩ := Prod.mk.inj (hnew.symm.trans hc)
    injection hfile with hfile
    rw [h.dest, hpath, ← hfile]
    exact .opens hplain hpath hnone
  | @refused t name size e d' hc =>
    -- a free name can always be created
    obtain ⟨name', hplain, hpath, hnone⟩ := h.chosen (hoffer t name size rfl)
    have hnew : Disk.create (uniqueDestinationPath r.destDir name d) d
        = (.ok ⟨d.nextInode, 0⟩, d.insert (loc ++ [name'])) := by
      rw [h.dest, hpath]
      exact Disk.create_new (Disk.resolve_join h.resolve h.isDir hplain) hnone
    exact absurd (Prod.mk.inj (hnew.symm.trans hc)).1 nofun
  | @writes t sequence data path file hentry =>
    obtain ⟨name, -, -, -, hoffset⟩ := h.entry t path file hentry
    have hwrite : Disk.writeAt file.offset data (d.content file.inode)
        = d.content file.inode ++ data := by
      rw [hoffset]
      exact Disk.writeAt_end data _
    show Effect dir loc r d _ (r.insert t (path, { file with offset := file.offset + data.length }))
      (d.setContent file.inode (Disk.writeAt file.offset data (d.content file.inode)))
    rw [hwrite]
    exact .writes hentry
  | completes hentry => exact .completes hentry
  | @cancels t path file hentry =>
    obtain ⟨name, hplain, hpath, hnode, -⟩ := h.entry t path file hentry
    have hremove : (Disk.removeFile path d).2 = d.unlink (loc ++ [name]) := by
      rw [hpath, Disk.removeFile_file (Disk.resolve_join h.resolve h.isDir hplain) hnode]
    show Effect dir loc r d _ (r.remove t) (Disk.removeFile path d).2
    rw [hremove]
    exact .cancels hentry hnode
  | ignores hno hentry => exact .ignores hno hentry

/-- Paths lead where they led. -/
theorem Effect.resolve (h : Effect dir loc r d msg r' d') (p : String) :
    d'.resolve p = d.resolve p := by
  cases h with
  | opens hplain hpath hnone => exact Disk.resolve_insert hnone p
  | cancels h hnode => exact Disk.resolve_unlink hnode p
  | writes => exact Disk.resolve_setContent _ _ p
  | completes | ignores => rfl

/-- **A message keeps every file but that of its own transfer.** -/
theorem Effect.kept (h : Effect dir loc r d msg r' d') {loc' : Location}
    (hfile : d.nodes loc' = some (.file i))
    (hother : ∀ path file, r.inProgress msg.transferId = some (path, file) → file.inode ≠ i) :
    d'.nodes loc' = some (.file i) ∧ d'.content i = d.content i := by
  cases h with
  | opens hplain hpath hnone =>
    have hi : i ≠ d.nextInode := Nat.ne_of_lt (d.inode_lt loc' i hfile)
    refine ⟨(Function.update_of_ne ?_ _ _).trans hfile, Function.update_of_ne hi _ _⟩
    rintro rfl
    exact absurd (hnone.symm.trans hfile) nofun
  | writes h => exact ⟨hfile, Function.update_of_ne (hother _ _ h).symm _ _⟩
  | cancels h hnode =>
    refine ⟨(Function.update_of_ne ?_ _ _).trans hfile, rfl⟩
    rintro rfl
    have heq := Option.some.inj (hnode.symm.trans hfile)
    injection heq with heq
    exact hother _ _ h heq
  | completes | ignores => exact ⟨hfile, rfl⟩

/-- What a message leaves of the entries of other transfers. -/
theorem Effect.entry_of_ne (h : Effect dir loc r d msg r' d') (ht : msg.transferId ≠ t) :
    r'.inProgress t = r.inProgress t := by
  cases h with
  | opens | writes => exact FileReceiver.insert_of_ne ht.symm r _
  | completes | cancels => exact FileReceiver.remove_of_ne ht.symm r
  | ignores => rfl

/-- The inode of an entry is the one it had, or a new one. -/
theorem Effect.inode (h : Effect dir loc r d msg r' d') {path : String} {file : OpenFile}
    (hentry : r'.inProgress t = some (path, file)) :
    (∃ file₀, r.inProgress t = some (path, file₀) ∧ file₀.inode = file.inode)
      ∨ file.inode = d.nextInode := by
  by_cases ht : msg.transferId = t
  · subst ht
    cases h with
    | opens =>
      obtain ⟨-, rfl⟩ := Prod.mk.inj (FileReceiver.eq_of_insert hentry)
      exact .inr rfl
    | writes h =>
      obtain ⟨rfl, rfl⟩ := Prod.mk.inj (FileReceiver.eq_of_insert hentry)
      exact .inl ⟨_, h, rfl⟩
    | completes | cancels =>
      exact absurd ((FileReceiver.remove_self r _).symm.trans hentry) nofun
    | ignores => exact .inl ⟨file, hentry, rfl⟩
  · rw [h.entry_of_ne ht] at hentry
    exact .inl ⟨file, hentry, rfl⟩

/-- Every open transfer has an inode that is in use. -/
theorem Board.inode_lt (h : Board dir loc r d) {path : String} {file : OpenFile}
    (hentry : r.inProgress t = some (path, file)) : file.inode < d.nextInode := by
  obtain ⟨name, -, -, hnode, -⟩ := h.entry t path file hentry
  exact d.inode_lt _ _ hnode

/-- **One message keeps the board.** -/
theorem Board.step (h : Board dir loc r d) (he : Effect dir loc r d msg r' d') :
    Board dir loc r' d' where
  dest := by cases he <;> exact h.dest
  resolve := (he.resolve dir).trans h.resolve
  isDir := by
    cases he with
    | opens hplain hpath hnone =>
      refine (Function.update_of_ne ?_ _ _).trans h.isDir
      exact fun heq => absurd (congrArg List.length heq) (by simp)
    | cancels =>
      refine (Function.update_of_ne ?_ _ _).trans h.isDir
      exact fun heq => absurd (congrArg List.length heq) (by simp)
    | writes | completes | ignores => exact h.isDir
  entry t path file hentry := by
    by_cases ht : msg.transferId = t
    · subst ht
      cases he with
      | opens hplain hpath hnone =>
        obtain ⟨rfl, rfl⟩ := Prod.mk.inj (FileReceiver.eq_of_insert hentry)
        refine ⟨_, hplain, rfl, Function.update_self _ _ _, ?_⟩
        show 0 = (Function.update d.content d.nextInode [] d.nextInode).length
        rw [Function.update_self]
        rfl
      | @writes t path' sequence data file' hold =>
        obtain ⟨rfl, rfl⟩ := Prod.mk.inj (FileReceiver.eq_of_insert hentry)
        obtain ⟨name, hplain, hpath, hnode, hoffset⟩ := h.entry _ _ _ hold
        refine ⟨name, hplain, hpath, hnode, ?_⟩
        show file'.offset + data.length = (Function.update d.content file'.inode _ file'.inode).length
        rw [Function.update_self, List.length_append, hoffset]
      | completes | cancels =>
        exact absurd ((FileReceiver.remove_self r _).symm.trans hentry) nofun
      | ignores => exact h.entry _ _ _ hentry
    · rw [he.entry_of_ne ht] at hentry
      obtain ⟨name, hplain, hpath, hnode, hoffset⟩ := h.entry t path file hentry
      obtain ⟨hnode', hcontent⟩ := he.kept hnode fun path' file' hother =>
        h.distinct _ _ _ _ _ _ ht hother hentry
      exact ⟨name, hplain, hpath, hnode', by rw [hcontent, hoffset]⟩
  distinct t t' path path' file file' hne hentry hentry' := by
    rcases he.inode hentry with ⟨file₀, hold, hi⟩ | hnew
    · rcases he.inode hentry' with ⟨file₀', hold', hi'⟩ | hnew'
      · rw [← hi, ← hi']
        exact h.distinct t t' path path' file₀ file₀' hne hold hold'
      · have hlt := h.inode_lt hold
        omega
    · rcases he.inode hentry' with ⟨file₀', hold', hi'⟩ | hnew'
      · have hlt := h.inode_lt hold'
        omega
      · -- only the transfer of the message can have a new inode
        have htransfer : ∀ {u p f}, r'.inProgress u = some (p, f) → f.inode = d.nextInode →
            msg.transferId = u := by
          intro u p f hu hf
          by_contra hmsg
          rw [he.entry_of_ne hmsg] at hu
          have hlt := h.inode_lt hu
          omega
        exact absurd ((htransfer hentry hnew).symm.trans (htransfer hentry' hnew')) hne

/-! ## §3. Files that no open transfer writes. -/

/-- No open transfer writes to the inode `i`. -/
def Unowned (r : FileReceiver OpenFile) (i : Nat) : Prop :=
  ∀ t path file, r.inProgress t = some (path, file) → file.inode ≠ i

theorem Effect.unowned (h : Effect dir loc r d msg r' d') (hi : i < d.nextInode)
    (hun : Unowned r i) : Unowned r' i := by
  intro t path file hentry
  rcases h.inode hentry with ⟨file₀, hold, heq⟩ | hnew
  · rw [← heq]
    exact hun t path file₀ hold
  · omega

/-- A session does not change where paths lead. -/
theorem Board.resolve_receive (h : Board dir loc r d) {msgs : List FileTransferMessage}
    (hmeet : r.OffersMeet (Offered dir) d msgs) (p : String) :
    (r.receive d msgs).2.resolve p = d.resolve p := by
  induction msgs generalizing r d with
  | nil => rfl
  | cons msg msgs ih =>
    have he := h.effect msg hmeet.1
    exact (ih (h.step he) hmeet.2).trans (he.resolve p)

/-- **A session keeps every file that no open transfer writes.** -/
theorem Board.kept_receive (h : Board dir loc r d) {msgs : List FileTransferMessage}
    (hmeet : r.OffersMeet (Offered dir) d msgs) {loc' : Location}
    (hfile : d.nodes loc' = some (.file i)) (hun : Unowned r i) :
    (r.receive d msgs).2.nodes loc' = some (.file i)
      ∧ (r.receive d msgs).2.content i = d.content i := by
  induction msgs generalizing r d with
  | nil => exact ⟨hfile, rfl⟩
  | cons msg msgs ih =>
    have he := h.effect msg hmeet.1
    obtain ⟨hfile', hcontent⟩ := he.kept hfile fun path file => hun _ path file
    have hlater := ih (h.step he) hmeet.2 hfile' (he.unowned (d.inode_lt loc' i hfile) hun)
    exact ⟨hlater.1, hlater.2.trans hcontent⟩

/-! ## §4. One transfer among others. -/

/-- The transfer `t` writes to the file `i` at `loc'`, which holds `data` so far. -/
structure Holding (t : String) (loc' : Location) (i : Nat) (data : Bytes)
    (r : FileReceiver OpenFile) (d : Disk) : Prop where
  entry : ∃ path file, r.inProgress t = some (path, file) ∧ file.inode = i
  node : d.nodes loc' = some (.file i)
  content : d.content i = data

variable {loc' : Location} {data : Bytes}

/-- The messages of other transfers leave it alone. -/
theorem Holding.other (hold : Holding t loc' i data r d) (h : Board dir loc r d)
    (he : Effect dir loc r d msg r' d') (hmsg : msg.transferId ≠ t) :
    Holding t loc' i data r' d' := by
  obtain ⟨path, file, hentry, hi⟩ := hold.entry
  have hkept := he.kept hold.node fun path' file' hother => by
    rw [← hi]
    exact h.distinct _ _ _ _ _ _ hmsg hother hentry
  exact ⟨⟨path, file, by rw [he.entry_of_ne hmsg, hentry], hi⟩, hkept.1,
    hkept.2.trans hold.content⟩

/-- A chunk is added at the end. -/
theorem Holding.chunk (hold : Holding t loc' i data r d) {sequence : Nat} {more : Bytes}
    (he : Effect dir loc r d (.chunk t sequence more) r' d') :
    Holding t loc' i (data ++ more) r' d' := by
  obtain ⟨path, file, hentry, rfl⟩ := hold.entry
  cases he with
  | writes h =>
    obtain ⟨rfl, rfl⟩ := Prod.mk.inj (Option.some.inj (h.symm.trans hentry))
    refine ⟨⟨_, _, Function.update_self _ _ _, rfl⟩, hold.node, ?_⟩
    rw [← hold.content]
    exact Function.update_self _ _ _
  | ignores _ h =>
    rcases h with hnone | ⟨u, hmsg | hmsg⟩
    · exact absurd (hnone.symm.trans hentry) nofun
    · exact absurd hmsg nofun
    · exact absurd hmsg nofun

/-- When it is complete, no transfer writes to its file any more. -/
theorem Holding.complete (hold : Holding t loc' i data r d) (h : Board dir loc r d)
    (he : Effect dir loc r d (.complete t) r' d') : d' = d ∧ Unowned r' i := by
  obtain ⟨path, file, hentry, rfl⟩ := hold.entry
  cases he with
  | completes =>
    refine ⟨rfl, fun t' path' file' hentry' => ?_⟩
    by_cases ht : t' = t
    · subst ht
      exact absurd ((FileReceiver.remove_self r t').symm.trans hentry') nofun
    · rw [FileReceiver.remove_of_ne ht] at hentry'
      exact h.distinct _ _ _ _ _ _ ht hentry' hentry
  | ignores _ h =>
    rcases h with hnone | ⟨u, hmsg | hmsg⟩
    · exact absurd (hnone.symm.trans hentry) nofun
    · exact absurd hmsg nofun
    · exact absurd hmsg nofun

/-- **The rest of a transfer arrives**, whatever comes in between. -/
theorem Holding.receive (hold : Holding t loc' i data r d) (h : Board dir loc r d)
    {msgs : List FileTransferMessage} (hmeet : r.OffersMeet (Offered dir) d msgs) {n : Nat}
    {rest : List Bytes}
    (hsent : msgs.filter (·.transferId = t) = chunkMessages t n rest ++ [.complete t]) :
    (r.receive d msgs).2.nodes loc' = some (.file i)
      ∧ (r.receive d msgs).2.content i = data ++ rest.flatten := by
  induction msgs generalizing r d data n rest with
  | nil => exact absurd hsent.symm (List.append_ne_nil_of_right_ne_nil _ (List.cons_ne_nil _ _))
  | cons msg msgs ih =>
    have he := h.effect msg hmeet.1
    by_cases hmsg : msg.transferId = t
    · rw [List.filter_cons_of_pos (by simpa using hmsg)] at hsent
      cases rest with
      | nil =>
        obtain ⟨rfl, -⟩ := List.cons.inj hsent
        obtain ⟨hd, hun⟩ := hold.complete h he
        have hfile := hold.node
        rw [← hd] at hfile
        have hkept := (h.step he).kept_receive hmeet.2 hfile hun
        refine ⟨hkept.1, hkept.2.trans ?_⟩
        rw [hd, hold.content, List.flatten_nil, List.append_nil]
      | cons more rest =>
        obtain ⟨rfl, hrest⟩ := List.cons.inj hsent
        have hlater := ih (hold.chunk he) (h.step he) hmeet.2 hrest
        rwa [List.append_assoc, ← List.flatten_cons] at hlater
    · rw [List.filter_cons_of_neg (by simpa using hmsg)] at hsent
      exact ih (hold.other h he hmsg) (h.step he) hmeet.2 hsent

/-- After its offer, the file of a transfer is there, and empty. -/
theorem Effect.offered {name : String} {size : Nat}
    (he : Effect dir loc r d (.offer t name size) r' d') : ∃ name', Plain name'
      ∧ uniqueDestinationPath dir name d = join dir name'
      ∧ Holding t (loc ++ [name']) d.nextInode [] r' d' := by
  cases he with
  | opens hplain hpath hnone =>
    exact ⟨_, hplain, hpath, ⟨_, _, Function.update_self _ _ _, rfl⟩, Function.update_self _ _ _,
      Function.update_self _ _ _⟩
  | ignores hno => exact absurd rfl (hno _ _ _)

theorem Board.receive_offer (h : Board dir loc r d) {name : String} {size : Nat}
    {msgs : List FileTransferMessage} {X : Bytes} {cs : List Bytes} (hcs : cs.flatten = X)
    (hmeet : r.OffersMeet (Offered dir) d (.offer t name size :: msgs))
    (hsent : msgs.filter (·.transferId = t) = chunkMessages t 0 cs ++ [.complete t]) :
    (r.receive d (.offer t name size :: msgs)).2.read (uniqueDestinationPath dir name d)
      = some X := by
  have he := h.effect (.offer t name size) hmeet.1
  obtain ⟨name', hplain, hpath, hnew⟩ := he.offered
  obtain ⟨hnode, hcontent⟩ := hnew.receive (h.step he) hmeet.2 hsent
  have hresolve : (r.receive d (.offer t name size :: msgs)).2.resolve (join dir name')
      = some (loc ++ [name']) := by
    rw [h.resolve_receive hmeet]
    exact Disk.resolve_join h.resolve h.isDir hplain
  rw [hpath, Disk.read_eq hresolve hnode, ← hcs]
  exact congrArg some hcontent

/-- **A transfer arrives**, from its offer on. -/
theorem Board.receive_sendFile (h : Board dir loc r d) {msgs : List FileTransferMessage}
    (hmeet : r.OffersMeet (Offered dir) d msgs) {path : String} {X : Bytes}
    (hsent : msgs.filter (·.transferId = t) = sendFile path t X) :
    ∃ l₁ l₂ name size, msgs = l₁ ++ .offer t name size :: l₂
      ∧ (r.receive d msgs).2.read (uniqueDestinationPath dir name (r.receive d l₁).2) = some X := by
  induction msgs generalizing r d with
  | nil => exact absurd hsent.symm (List.cons_ne_nil _ _)
  | cons msg msgs ih =>
    by_cases hmsg : msg.transferId = t
    · rw [List.filter_cons_of_pos (by simpa using hmsg)] at hsent
      obtain ⟨rfl, hrest⟩ := List.cons.inj hsent
      have hX : (chunks CHUNK_SIZE X).flatten = X := flatten_chunks (by decide) X
      exact ⟨[], msgs, _, _, rfl, h.receive_offer hX hmeet hrest⟩
    · rw [List.filter_cons_of_neg (by simpa using hmsg)] at hsent
      obtain ⟨l₁, l₂, name, size, rfl, hread⟩ := ih (h.step (h.effect msg hmeet.1)) hmeet.2 hsent
      exact ⟨msg :: l₁, l₂, name, size, rfl, hread⟩

/-! ## §5. Isolated and lossless. -/

theorem board_new {d : Disk} (hd : d.resolve dir = some loc) (hdir : d.nodes loc = some .dir) :
    Board dir loc (FileReceiver.new dir) d where
  dest := rfl
  resolve := hd
  isDir := hdir
  entry _ _ _ h := absurd h.symm (Option.some_ne_none _)
  distinct _ _ _ _ _ _ _ h := absurd h.symm (Option.some_ne_none _)

/-- **Concurrent transfers are isolated and lossless.**  Let a new receiver
over the directory `dir` handle any messages among which those with id `t` are
the ones `send_file` sends for the content `X`, where every offer has a plain
name and finds one of its candidates free.  Then the file that was chosen when
`t` was offered holds `X` in the end, and every file that could be read before
reads the same. -/
theorem transfers_isolated (d : Disk) (dir path t : String) (X : Bytes)
    (msgs : List FileTransferMessage) (hdir : d.lookup dir = some .dir)
    (hsent : msgs.filter (·.transferId = t) = sendFile path t X)
    (hmeet : (FileReceiver.new dir).OffersMeet (Offered dir) d msgs) :
    (∃ l₁ l₂ name size, msgs = l₁ ++ .offer t name size :: l₂
      ∧ ((FileReceiver.new dir).receive d msgs).2.read
        (uniqueDestinationPath dir name ((FileReceiver.new dir).receive d l₁).2) = some X)
    ∧ ∀ p data, d.read p = some data →
      ((FileReceiver.new dir).receive d msgs).2.read p = some data := by
  obtain ⟨loc, hd, hnode⟩ := Option.bind_eq_some_iff.mp hdir
  have h : Board dir loc (FileReceiver.new dir) d := board_new hd hnode
  refine ⟨h.receive_sendFile hmeet hsent, fun p data hp => ?_⟩
  obtain ⟨loc', i, hresolve, hfile, hcontent⟩ := Disk.exists_of_read hp
  have hun : Unowned (FileReceiver.new dir) i := fun t path file hentry =>
    absurd hentry.symm (Option.some_ne_none _)
  obtain ⟨hfile', hcontent'⟩ := h.kept_receive hmeet hfile hun
  rw [Disk.read_eq ((h.resolve_receive hmeet p).trans hresolve) hfile', hcontent', hcontent]

/-- A directory with one file in it. -/
def inboxDisk : Disk where
  nodes
    | [] | ["inbox"] => some .dir
    | ["inbox", "a.txt"] => some (.file 0)
    | _ => none
  content _ := [9]
  nextInode := 1
  cwd := []
  inode_lt loc i h := by
    split at h
    · exact absurd h (by simp)
    · exact absurd h (by simp)
    · obtain rfl : 0 = i := by simpa using h
      exact Nat.one_pos
    · exact absurd h (by simp)

/-- Two transfers of one name; the second is given up. -/
def mixed : List FileTransferMessage :=
  [.offer "t" "a.txt" 2, .offer "u" "a.txt" 3, .chunk "u" 0 [7], .chunk "t" 0 [1, 2],
    .cancel "u", .complete "t"]

theorem mixed_offered :
    (FileReceiver.new "/inbox").OffersMeet (Offered "/inbox") inboxDisk mixed := by
  refine ⟨?_, ?_, nofun, nofun, nofun, nofun, trivial⟩
  · rintro t name size heq
    injection heq with _ hname
    subst hname
    exact ⟨by decide, .inr ⟨1, by decide, by decide, by decide +kernel⟩⟩
  · rintro t name size heq
    injection heq with _ hname
    subst hname
    exact ⟨by decide, .inr ⟨2, by decide, by decide, by decide +kernel⟩⟩

theorem transfers_isolated_mixed :
    (∃ l₁ l₂ name size, mixed = l₁ ++ .offer "t" name size :: l₂
      ∧ ((FileReceiver.new "/inbox").receive inboxDisk mixed).2.read
        (uniqueDestinationPath "/inbox" name ((FileReceiver.new "/inbox").receive inboxDisk l₁).2)
          = some [1, 2])
    ∧ ∀ p data, inboxDisk.read p = some data →
      ((FileReceiver.new "/inbox").receive inboxDisk mixed).2.read p = some data := by
  have hdir : inboxDisk.lookup "/inbox" = some .dir := by decide +kernel
  have hsent : mixed.filter (·.transferId = "t") = sendFile "a.txt" "t" [1, 2] := by decide +kernel
  exact transfers_isolated inboxDisk "/inbox" "a.txt" "t" [1, 2] mixed hdir hsent mixed_offered

end Visuara.Client
