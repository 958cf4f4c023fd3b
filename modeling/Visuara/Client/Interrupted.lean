/-
  Visuara.Client.Interrupted
  ──────────────────────────
  **TRANSFERS THAT ARE CUT SHORT.**

  A file is written under its final name from the first chunk on.  So when the
  session ends early, or a write fails, what is there is a part of the file:

    • `Faulty`       — a disk whose writes may fail half-way;
    • `arrived`      — what of the chunks is in the file;
    • `all_or_nothing_iff` — the file is whole exactly if all has arrived.
-/
import Visuara.Client.Transfers

namespace Visuara.Client

open Visuara.Path

/-! ## §1. Writes that fail. -/

/-- How a `write_all` fails: so many bytes are out when the error comes. -/
structure WriteFault where
  written : Nat
  error : String
  deriving DecidableEq, Repr

/-- A disk, with what becomes of the next writes. -/
structure Faulty where
  disk : Disk
  faults : List (Option WriteFault)

/-- The fault of the next write. Writing nothing does not fail. -/
def nextFault (faults : List (Option WriteFault)) (data : Bytes) : Option WriteFault :=
  if data = [] then none else faults.head?.join

/-- What a write leaves in the file; a fault leaves at least one byte out. -/
def arrives (data : Bytes) : Option WriteFault → Bytes
  | none => data
  | some f => data.dropLast.take f.written

namespace Faulty

def writeAll (file : OpenFile) (data : Bytes) (s : Faulty) :
    Except String Unit × OpenFile × Faulty :=
  let fault := nextFault s.faults data
  let written := Disk.writeAll file (arrives data fault) s.disk
  (match fault with
    | none => .ok ()
    | some f => .error f.error,
    written.2.1, ⟨written.2.2, s.faults.tail⟩)

instance : FileSystem Faulty OpenFile where
  pathExists p s := FileSystem.pathExists p s.disk
  create p s := ((Disk.create p s.disk).1, { s with disk := (Disk.create p s.disk).2 })
  writeAll := writeAll
  removeFile p s := ((Disk.removeFile p s.disk).1, { s with disk := (Disk.removeFile p s.disk).2 })

end Faulty

/-! ## §2. What arrives. -/

/-- What of the chunks is in the file when all have been handled. -/
def arrived : List (Option WriteFault) → List Bytes → Bytes
  | _, [] => []
  | faults, c :: cs => arrives c (nextFault faults c) ++ arrived faults.tail cs

theorem arrives_length_le (c : Bytes) (fault : Option WriteFault) :
    (arrives c fault).length ≤ c.length := by
  cases fault with
  | none => exact Nat.le_refl _
  | some f =>
    simp only [arrives, List.length_take, List.length_dropLast]
    omega

theorem arrives_length_lt {c : Bytes} (hc : c ≠ []) (f : WriteFault) :
    (arrives c (some f)).length < c.length := by
  have hpos : 0 < c.length := List.length_pos_iff.mpr hc
  simp only [arrives, List.length_take, List.length_dropLast]
  omega

theorem arrived_length_le (faults : List (Option WriteFault)) (cs : List Bytes) (k : Nat) :
    (arrived faults (cs.take k)).length ≤ cs.flatten.length := by
  induction cs generalizing faults k with
  | nil => simp [arrived]
  | cons c cs ih =>
    cases k with
    | zero => exact Nat.zero_le _
    | succ k =>
      have hfirst := arrives_length_le c (nextFault faults c)
      have hrest := ih faults.tail k
      rw [List.take_succ_cons, arrived, List.flatten_cons, List.length_append, List.length_append]
      omega

/-- **All has arrived exactly if all was sent and no write has failed.** -/
theorem arrived_eq_iff {cs : List Bytes} (hcs : ∀ c ∈ cs, c ≠ [])
    (faults : List (Option WriteFault)) (k : Nat) : arrived faults (cs.take k) = cs.flatten
      ↔ cs.length ≤ k ∧ ∀ f ∈ faults.take cs.length, f = none := by
  induction cs generalizing faults k with
  | nil => simp [arrived]
  | cons c cs ih =>
    have hc : c ≠ [] := hcs c List.mem_cons_self
    have hpos : 0 < c.length := List.length_pos_iff.mpr hc
    cases k with
    | zero =>
      constructor
      · intro h
        have hlen := congrArg List.length h
        rw [List.take_zero, arrived, List.flatten_cons, List.length_append, List.length_nil] at hlen
        omega
      · rintro ⟨h, -⟩
        exact absurd h (Nat.not_succ_le_zero _)
    | succ k =>
      rw [List.take_succ_cons, arrived, List.flatten_cons, List.length_cons, Nat.succ_le_succ_iff]
      have hrest := ih (fun c' hc' => hcs c' (List.mem_cons_of_mem _ hc')) faults.tail k
      cases hf : nextFault faults c with
      | some f =>
        -- the first chunk is not whole, so neither is the file
        constructor
        · intro h
          have hlen := congrArg List.length h
          have hlt := arrives_length_lt hc f
          have hle := arrived_length_le faults.tail cs k
          rw [List.length_append, List.length_append] at hlen
          omega
        · rintro ⟨-, hnone⟩
          cases faults with
          | nil => exact absurd hf (by simp [nextFault])
          | cons first rest =>
            rw [hnone first List.mem_cons_self] at hf
            exact absurd hf (by simp [nextFault])
      | none =>
        show c ++ arrived faults.tail (cs.take k) = c ++ cs.flatten ↔ _
        rw [List.append_cancel_left_eq, hrest]
        cases faults with
        | nil => simp
        | cons first rest =>
          have hfirst : first = none := by simpa [nextFault, hc] using hf
          simp [hfirst]

/-! ## §3. The messages that come through. -/

namespace FileReceiver

variable {σ File : Type} [FileSystem σ File]

/-- What is reported as received, and the state it is reported in. -/
def reported (r : FileReceiver File) (s : σ) : List FileTransferMessage → List (String × σ)
  | [] => []
  | msg :: msgs =>
    ((r.handle msg s).received.map fun p => (p, (r.handle msg s).state)).toList
      ++ reported (r.handle msg s).receiver (r.handle msg s).state msgs

end FileReceiver

open FileReceiver

variable {r : FileReceiver OpenFile} {s : Faulty} {t p : String} {i n : Nat}

/-- A message that neither makes a file nor removes one. -/
def FileTransferMessage.Inner (msg : FileTransferMessage) : Prop :=
  (∃ t n data, msg = .chunk t n data) ∨ ∃ t, msg = .complete t

theorem handle_inner {msg : FileTransferMessage} (h : msg.Inner) :
    (r.handle msg s).state.disk.nodes = s.disk.nodes
      ∧ (r.handle msg s).state.disk.cwd = s.disk.cwd := by
  have hdoes := r.handle_does msg s
  generalize (r.handle msg s).receiver = r' at hdoes
  generalize (r.handle msg s).state = s' at hdoes ⊢
  obtain ⟨t, n, data, rfl⟩ | ⟨t, rfl⟩ := h
  · cases hdoes <;> exact ⟨rfl, rfl⟩
  · cases hdoes <;> exact ⟨rfl, rfl⟩

/-- Such messages leave every name where it is. -/
theorem receive_inner {msgs : List FileTransferMessage} (h : ∀ msg ∈ msgs, msg.Inner) :
    (r.receive s msgs).2.disk.nodes = s.disk.nodes
      ∧ ∀ p, (r.receive s msgs).2.disk.resolve p = s.disk.resolve p := by
  suffices hsame : (r.receive s msgs).2.disk.nodes = s.disk.nodes
      ∧ (r.receive s msgs).2.disk.cwd = s.disk.cwd by
    refine ⟨hsame.1, fun p => Disk.resolve_congr hsame.2 (fun loc => ?_) p⟩
    rw [hsame.1]
  induction msgs generalizing r s with
  | nil => exact ⟨rfl, rfl⟩
  | cons msg msgs ih =>
    obtain ⟨hnodes, hcwd⟩ := handle_inner (r := r) (s := s) (h msg List.mem_cons_self)
    obtain ⟨hnodes', hcwd'⟩ := ih (r := (r.handle msg s).receiver) (s := (r.handle msg s).state)
      fun m hm => h m (List.mem_cons_of_mem _ hm)
    exact ⟨hnodes'.trans hnodes, hcwd'.trans hcwd⟩

/-- What follows the offer. -/
def afterOffer (t : String) (n : Nat) (cs : List Bytes) : List FileTransferMessage :=
  chunkMessages t n cs ++ [.complete t]

theorem inner_afterOffer (t : String) (n : Nat) (cs : List Bytes) :
    ∀ msg ∈ afterOffer t n cs, msg.Inner := by
  induction cs generalizing n with
  | nil =>
    intro msg hm
    exact .inr ⟨t, List.mem_singleton.mp hm⟩
  | cons c cs ih =>
    intro msg hm
    rcases List.mem_cons.mp hm with rfl | hm
    · exact .inl ⟨_, _, _, rfl⟩
    · exact ih (n + 1) msg hm

/-- The transfer `t` writes at the end of the file `i`, which it opened as `p`. -/
def Writes (t p : String) (i : Nat) (r : FileReceiver OpenFile) (s : Faulty) : Prop :=
  r.inProgress t = some (p, ⟨i, (s.disk.content i).length⟩)

/-- A chunk is added, as far as it is written. -/
theorem Writes.chunk (h : Writes t p i r s) (n : Nat) (c : Bytes) :
    Writes t p i (r.handle (.chunk t n c) s).receiver (r.handle (.chunk t n c) s).state
      ∧ (r.handle (.chunk t n c) s).state.faults = s.faults.tail
      ∧ (r.handle (.chunk t n c) s).state.disk.content i
        = s.disk.content i ++ arrives c (nextFault s.faults c)
      ∧ (r.handle (.chunk t n c) s).received = none := by
  have hhandle : r.handle (.chunk t n c) s
      = ⟨((Faulty.writeAll ⟨i, (s.disk.content i).length⟩ c s).1).mapError
            ("write file chunk: " ++ ·), none,
          r.insert t (p, (Faulty.writeAll ⟨i, (s.disk.content i).length⟩ c s).2.1),
          (Faulty.writeAll ⟨i, (s.disk.content i).length⟩ c s).2.2⟩ := by
    have hentry : r.inProgress t = some (p, ⟨i, (s.disk.content i).length⟩) := h
    simp only [handle, hentry]
    rfl
  have hcontent : (Faulty.writeAll ⟨i, (s.disk.content i).length⟩ c s).2.2.disk.content i
      = s.disk.content i ++ arrives c (nextFault s.faults c) := by
    rw [← Disk.writeAt_end]
    exact Function.update_self _ _ _
  rw [hhandle]
  refine ⟨?_, rfl, hcontent, rfl⟩
  show (r.insert t _).inProgress t = _
  rw [hcontent, List.length_append]
  exact Function.update_self _ _ _

/-- **A transfer up to any of its messages.** -/
theorem Writes.receive (h : Writes t p i r s) (cs : List Bytes) (k : Nat) :
    (r.receive s ((afterOffer t n cs).take k)).2.disk.content i
        = s.disk.content i ++ arrived s.faults (cs.take k)
      ∧ ∀ x ∈ r.reported s ((afterOffer t n cs).take k),
        x = (p, (r.receive s ((afterOffer t n cs).take k)).2) := by
  induction cs generalizing r s n k with
  | nil =>
    cases k with
    | zero => exact ⟨(List.append_nil _).symm, fun x hx => absurd hx List.not_mem_nil⟩
    | succ k =>
      have hentry : r.inProgress t = some (p, ⟨i, (s.disk.content i).length⟩) := h
      have hhandle : r.handle (.complete t) s = ⟨.ok (), some p, r.remove t, s⟩ := by
        simp only [handle, hentry]
      have hmsgs : (afterOffer t n []).take (k + 1) = [.complete t] := by
        simp [afterOffer, chunkMessages]
      rw [hmsgs]
      simp only [FileReceiver.receive, reported, hhandle]
      exact ⟨by simp [arrived], by simp⟩
  | cons c cs ih =>
    cases k with
    | zero => exact ⟨(List.append_nil _).symm, fun x hx => absurd hx List.not_mem_nil⟩
    | succ k =>
      obtain ⟨hnext, hfaults, hcontent, hnone⟩ := h.chunk (n % 2 ^ 32) c
      obtain ⟨hrest, hreport⟩ := ih (n := n + 1) hnext k
      have hmsgs : (afterOffer t n (c :: cs)).take (k + 1)
          = .chunk t (n % 2 ^ 32) c :: (afterOffer t (n + 1) cs).take k := rfl
      rw [hmsgs, List.take_succ_cons, arrived]
      constructor
      · rw [← List.append_assoc, ← hcontent, ← hfaults]
        exact hrest
      · intro x hx
        rw [reported, hnone] at hx
        exact hreport x hx

/-! ## §4. All or nothing. -/

/-- What is asked of a transfer of `X` of which the first `k` messages come
through: nothing is at its destination or all of `X` is, and nothing is
reported as received that is not `X`. -/
def AllOrNothing (r : FileReceiver OpenFile) (s : Faulty) (path t : String) (X : Bytes) (k : Nat) :
    Prop :=
  let dest := uniqueDestinationPath r.destDir ((fileName path).getD "file") s
  let msgs := (sendFile path t X).take k
  (0 < k → (r.receive s msgs).2.disk.lookup dest = none
    ∨ (r.receive s msgs).2.disk.read dest = some X)
  ∧ ∀ x ∈ r.reported s msgs, x.2.disk.read x.1 = some X

/-- The chunks of a file are not empty. -/
theorem chunks_ne_nil {size : Nat} (hsize : 0 < size) (data : Bytes) :
    ∀ c ∈ chunks size data, c ≠ [] := by
  intro c hc
  obtain ⟨j, hj, rfl⟩ := List.mem_map.mp hc
  have hlt : j < (data.length + size - 1) / size := List.mem_range.mp hj
  have hle : (j + 1) * size ≤ data.length + size - 1 := by
    calc (j + 1) * size ≤ (data.length + size - 1) / size * size := Nat.mul_le_mul_right _ hlt
      _ ≤ data.length + size - 1 := Nat.div_mul_le_self _ _
  rw [Nat.succ_mul] at hle
  rw [← List.length_pos_iff, List.length_take, List.length_drop]
  omega

theorem plain_sentName (path : String) : Plain ((fileName path).getD "file") := by
  cases h : fileName path with
  | none => decide
  | some name => exact plain_fileName h

/-- Where the destination leads. -/
theorem destination {dir name : String} {loc : Location} (hd : s.disk.resolve dir = some loc)
    (hnode : s.disk.nodes loc = some .dir) (hname : Plain name) :
    ∃ loc', s.disk.resolve (uniqueDestinationPath dir name s) = some loc'
      ∧ (s.disk.nodes loc' ≠ some .dir
        ↔ Vacant dir name s.disk ∨ s.disk.lookup (join dir name) ≠ some .dir) := by
  have hentry : ∀ {name'}, Plain name' →
      s.disk.resolve (join dir name') = some (loc ++ [name'])
        ∧ s.disk.lookup (join dir name') = s.disk.nodes (loc ++ [name']) := by
    intro name' hplain
    have hresolve := Disk.resolve_join hd hnode hplain
    exact ⟨hresolve, by rw [Disk.lookup, hresolve, Option.bind_some]⟩
  have hfree : ∀ {name'}, Plain name' → FileSystem.pathExists (join dir name') s = false →
      s.disk.nodes (loc ++ [name']) ≠ some .dir := by
    intro name' hplain hno heq
    have hex : (s.disk.lookup (join dir name')).isSome = false := hno
    rw [(hentry hplain).2, heq] at hex
    exact absurd hex (by simp)
  rcases uniqueDestinationPath_cases dir name s with ⟨hno, hpath⟩ | ⟨-, m, h1, hm, hno, hpath⟩
    | ⟨hex, hall, hpath⟩
  · rw [hpath]
    exact ⟨_, (hentry hname).1, fun _ => .inl (.inl hno), fun _ => hfree hname hno⟩
  · rw [hpath]
    have hplain := plain_numberedName name m
    exact ⟨_, (hentry hplain).1, fun _ => .inl (.inr ⟨m, h1, hm, hno⟩), fun _ => hfree hplain hno⟩
  · rw [hpath]
    refine ⟨_, (hentry hname).1, ?_⟩
    rw [← (hentry hname).2]
    refine ⟨.inr, fun h => h.resolve_left ?_⟩
    rintro (hno | ⟨m, h1, hm, hno⟩)
    · exact absurd (hex.symm.trans hno) Bool.noConfusion
    · exact absurd ((hall m h1 hm).symm.trans hno) Bool.noConfusion

/-- An offer opens its destination, unless that is a directory. -/
theorem handle_offer {dest name : String} (t : String) (size : Nat) {loc : Location}
    (hdest : uniqueDestinationPath r.destDir name s = dest)
    (hloc : s.disk.resolve dest = some loc) (hnode : s.disk.nodes loc ≠ some .dir) :
    ∃ i, Writes t dest i (r.handle (.offer t name size) s).receiver
        (r.handle (.offer t name size) s).state
      ∧ (r.handle (.offer t name size) s).state.disk.content i = []
      ∧ (r.handle (.offer t name size) s).state.disk.nodes loc = some (.file i)
      ∧ (r.handle (.offer t name size) s).state.disk.resolve dest = some loc
      ∧ (r.handle (.offer t name size) s).state.faults = s.faults
      ∧ (r.handle (.offer t name size) s).received = none := by
  have hopened : ∀ {i d'}, Disk.create dest s.disk = (.ok ⟨i, 0⟩, d') →
      r.handle (.offer t name size) s = ⟨.ok (), none, r.insert t (dest, ⟨i, 0⟩), ⟨d', s.faults⟩⟩ := by
    intro i d' hc
    have hcreate : FileSystem.create dest s = (.ok ⟨i, 0⟩, (⟨d', s.faults⟩ : Faulty)) := by
      show ((Disk.create dest s.disk).1, _) = _
      rw [hc]
    simp only [handle, hdest, hcreate]
  cases hentry : s.disk.nodes loc with
  | none =>
    have hc := Disk.create_new hloc hentry
    have hcontent : (s.disk.insert loc).content s.disk.nextInode = [] := Function.update_self _ _ _
    rw [hopened hc]
    refine ⟨s.disk.nextInode, ?_, hcontent, Function.update_self _ _ _,
      (Disk.resolve_insert hentry dest).trans hloc, rfl, rfl⟩
    show (r.insert t _).inProgress t = _
    rw [hcontent]
    exact Function.update_self _ _ _
  | some node =>
    cases node with
    | dir => exact absurd hentry hnode
    | file i =>
      have hc : Disk.create dest s.disk = (.ok ⟨i, 0⟩, s.disk.setContent i []) := by
        simp only [Disk.create, hloc, hentry]
      have hcontent : (s.disk.setContent i []).content i = [] := Function.update_self _ _ _
      rw [hopened hc]
      refine ⟨i, ?_, hcontent, hentry, (Disk.resolve_setContent i [] dest).trans hloc, rfl, rfl⟩
      show (r.insert t _).inProgress t = _
      rw [hcontent]
      exact Function.update_self _ _ _

/-- Nothing can be opened at a directory, and it stays one. -/
theorem refused_offer {dest name : String} (t : String) (size : Nat) {loc : Location}
    (hdest : uniqueDestinationPath r.destDir name s = dest)
    (hloc : s.disk.resolve dest = some loc) (hnode : s.disk.nodes loc = some .dir)
    {msgs : List FileTransferMessage} (hinner : ∀ msg ∈ msgs, msg.Inner) :
    (r.receive s (.offer t name size :: msgs)).2.disk.lookup dest = some .dir := by
  have hc : FileSystem.create dest s = (.error "Is a directory (os error 21)", s) := by
    show ((Disk.create dest s.disk).1, ({ s with disk := (Disk.create dest s.disk).2 } : Faulty)) = _
    simp only [Disk.create, hloc, hnode]
  have hrefused : (r.handle (.offer t name size) s).state = s := by
    simp only [handle, hdest, hc]
  obtain ⟨hnodes, hresolve⟩ := receive_inner (r := (r.handle (.offer t name size) s).receiver)
    (s := (r.handle (.offer t name size) s).state) hinner
  rw [hrefused] at hnodes hresolve
  rw [FileReceiver.receive, hrefused, Disk.lookup, hresolve, hloc, hnodes]
  exact hnode

/-- What is at the destination when the session ends, and what is reported. -/
theorem opened_offer {dest name : String} (t : String) (size : Nat) {loc : Location}
    (hdest : uniqueDestinationPath r.destDir name s = dest)
    (hloc : s.disk.resolve dest = some loc) (hnode : s.disk.nodes loc ≠ some .dir)
    (cs : List Bytes) (k : Nat) :
    let msgs := .offer t name size :: (afterOffer t 0 cs).take k
    (r.receive s msgs).2.disk.read dest = some (arrived s.faults (cs.take k))
      ∧ ∀ x ∈ r.reported s msgs, x = (dest, (r.receive s msgs).2) := by
  obtain ⟨i, hwrites, hempty, hfile, hthere, hfaults, hnone⟩ :=
    handle_offer t size hdest hloc hnode
  obtain ⟨hcontent, hreport⟩ := hwrites.receive (n := 0) cs k
  obtain ⟨hnodes, hresolve⟩ := receive_inner (r := (r.handle (.offer t name size) s).receiver)
    (s := (r.handle (.offer t name size) s).state)
    fun msg hm => inner_afterOffer t 0 cs msg (List.mem_of_mem_take hm)
  constructor
  · rw [FileReceiver.receive, Disk.read_eq ((hresolve dest).trans hthere)
      ((congrFun hnodes loc).trans hfile), hcontent, hempty, hfaults]
    rfl
  · intro x hx
    rw [reported, hnone] at hx
    exact hreport x hx

/-- **A received file is all or nothing exactly if** nothing of the transfer comes
through, or all its chunks do, none of its writes fails, and its destination is
no directory. -/
theorem all_or_nothing_iff (r : FileReceiver OpenFile) (s : Faulty) (path t : String) (X : Bytes)
    (k : Nat) (hdir : s.disk.lookup r.destDir = some .dir) :
    AllOrNothing r s path t X k ↔ k = 0
      ∨ (Vacant r.destDir ((fileName path).getD "file") s.disk
          ∨ s.disk.lookup (join r.destDir ((fileName path).getD "file")) ≠ some .dir)
        ∧ (chunks CHUNK_SIZE X).length < k
        ∧ ∀ f ∈ s.faults.take (chunks CHUNK_SIZE X).length, f = none := by
  obtain ⟨loc, hd, hloc⟩ := Option.bind_eq_some_iff.mp hdir
  obtain ⟨loc', hdest, hfree⟩ := destination hd hloc (plain_sentName path)
  unfold AllOrNothing
  rw [← hfree]
  generalize hpath : uniqueDestinationPath r.destDir ((fileName path).getD "file") s = dest at *
  cases k with
  | zero =>
    exact ⟨fun _ => .inl rfl, fun _ => ⟨fun h => absurd h (Nat.lt_irrefl 0),
      fun x hx => absurd hx List.not_mem_nil⟩⟩
  | succ k =>
    have hmsgs : (sendFile path t X).take (k + 1)
        = .offer t ((fileName path).getD "file") X.length
          :: (afterOffer t 0 (chunks CHUNK_SIZE X)).take k := rfl
    rw [hmsgs]
    by_cases hnode : s.disk.nodes loc' = some .dir
    · have hinner : ∀ msg ∈ (afterOffer t 0 (chunks CHUNK_SIZE X)).take k, msg.Inner :=
        fun msg hm => inner_afterOffer t 0 _ msg (List.mem_of_mem_take hm)
      have hstays := refused_offer t X.length hpath hdest hnode hinner
      constructor
      · rintro ⟨h, -⟩
        have hthere := h (Nat.succ_pos k)
        rw [Disk.read, hstays] at hthere
        exact absurd hthere (by simp)
      · rintro (h | ⟨h, -⟩)
        · exact absurd h (Nat.succ_ne_zero k)
        · exact absurd hnode h
    · obtain ⟨hread, hreport⟩ := opened_offer t X.length hpath hdest hnode
        (chunks CHUNK_SIZE X) k
      have harrived : arrived s.faults ((chunks CHUNK_SIZE X).take k) = X
          ↔ (chunks CHUNK_SIZE X).length ≤ k
            ∧ ∀ f ∈ s.faults.take (chunks CHUNK_SIZE X).length, f = none := by
        rw [← arrived_eq_iff (chunks_ne_nil (by decide) X), flatten_chunks (by decide)]
      constructor
      · rintro ⟨h, -⟩
        refine .inr ⟨hnode, ?_⟩
        rw [Nat.lt_succ_iff, ← harrived]
        rcases h (Nat.succ_pos k) with hnone | hX
        · rw [Disk.read, hnone] at hread
          exact absurd hread (by simp)
        · exact Option.some.inj (hread.symm.trans hX)
      · rintro (h | ⟨-, h⟩)
        · exact absurd h (Nat.succ_ne_zero k)
        · rw [Nat.lt_succ_iff, ← harrived] at h
          rw [h] at hread
          refine ⟨fun _ => .inr hread, fun x hx => ?_⟩
          rw [hreport x hx]
          exact hread

theorem all_or_nothing_sent :
    AllOrNothing (FileReceiver.new "/inbox") ⟨inboxDisk, [none]⟩ "b.txt" "t" [1, 2] 3 := by
  have hdir : inboxDisk.lookup "/inbox" = some .dir := by decide +kernel
  refine (all_or_nothing_iff (FileReceiver.new "/inbox") ⟨inboxDisk, [none]⟩ "b.txt" "t" [1, 2] 3
    hdir).mpr (.inr ⟨.inl (.inl ?_), by decide +kernel, by decide +kernel⟩)
  decide +kernel

/-- When the disk is full. -/
def diskFull : Faulty := ⟨inboxDisk, [some ⟨0, "No space left on device (os error 28)"⟩]⟩

/-- After the offer an empty file is there; and a file none of which could be written
is reported as received. -/
theorem partial_file_left :
    ¬ AllOrNothing (FileReceiver.new "/inbox") ⟨inboxDisk, []⟩ "b.txt" "t" [1, 2] 1
    ∧ ¬ AllOrNothing (FileReceiver.new "/inbox") diskFull "b.txt" "t" [1, 2] 3
    ∧ (reported (FileReceiver.new "/inbox") diskFull (sendFile "b.txt" "t" [1, 2])).map
        (fun x => (x.1, x.2.disk.read x.1)) = [("/inbox/b.txt", some [])] := by
  refine ⟨fun h => ?_, fun h => ?_, by decide +kernel⟩
  · rcases h.1 Nat.one_pos with hnone | hread
    · exact absurd hnone (by decide +kernel)
    · exact absurd hread (by decide +kernel)
  · rcases h.1 (by decide) with hnone | hread
    · exact absurd hnone (by decide +kernel)
    · exact absurd hread (by decide +kernel)

end Visuara.Client
