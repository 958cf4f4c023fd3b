/-
  Visuara.Client.Arriving
  ───────────────────────
  **FILES OVER THE DATA CHANNEL.**

  Any number of `send_file` tasks share the channel with everything else the
  controller sends.  Of each transfer the host has handled a first part, and
  the file it chose for it holds the chunks of that part:

    • `Holding.receive_take` — a transfer that has come to its m-th message;
    • `files_arrive`         — in every session, at every moment; and once the
      task has returned and the channel is drained, the file is whole.
-/
import Visuara.Client.DataChannel

namespace Visuara.Client

open Interleave Visuara.Path

/-! ## §1. A first part of a transfer. -/

/-- The first `m` chunks are the first bytes of the file. -/
theorem flatten_take_chunks {size : Nat} (hsize : 0 < size) (data : Bytes) (m : Nat) :
    ((chunks size data).take m).flatten = data.take (m * size) := by
  have hlen : (chunks size data).length = (data.length + size - 1) / size := by
    rw [chunks, List.length_map, List.length_range]
  rcases Nat.le_total m (chunks size data).length with hle | hge
  · rw [hlen] at hle
    rw [chunks, ← List.map_take, List.take_range, Nat.min_eq_left hle, flatten_chunks_take]
  · -- all chunks together are the file, so there is nothing beyond them
    have hall : data.take ((chunks size data).length * size) = data := by
      rw [hlen, ← flatten_chunks_take]
      exact flatten_chunks hsize data
    have hcover : data.length ≤ m * size :=
      ((List.take_eq_self_iff data).mp hall).trans (Nat.mul_le_mul_right size hge)
    rw [List.take_of_length_le hge, flatten_chunks hsize, List.take_of_length_le hcover]

variable {dir : String} {loc loc' : Location} {r : FileReceiver OpenFile} {d : Disk}
  {i : Nat} {t : String} {data : Bytes}

/-- **A transfer under way holds the chunks that have come**, whatever comes in between. -/
theorem Holding.receive_take (hold : Holding t loc' i data r d) (h : Board dir loc r d)
    {msgs : List FileTransferMessage} (hmeet : r.OffersMeet (Offered dir) d msgs) {n m : Nat}
    {rest : List Bytes} (hsent : msgs.filter (·.transferId = t)
      = (chunkMessages t n rest ++ [FileTransferMessage.complete t]).take m) :
    (r.receive d msgs).2.nodes loc' = some (.file i)
      ∧ (r.receive d msgs).2.content i = data ++ (rest.take m).flatten := by
  induction msgs generalizing r d data n m rest with
  | nil =>
    have hnone : rest.take m = [] := by
      cases m with
      | zero => rfl
      | succ m =>
        cases rest with
        | nil => rfl
        | cons more rest => exact absurd hsent nofun
    rw [hnone]
    exact ⟨hold.node, hold.content.trans (List.append_nil _).symm⟩
  | cons msg msgs ih =>
    have he := h.effect msg hmeet.1
    by_cases hmsg : msg.transferId = t
    · rw [List.filter_cons_of_pos (by simpa using hmsg)] at hsent
      cases m with
      | zero => exact absurd hsent nofun
      | succ m =>
        cases rest with
        | nil =>
          obtain ⟨rfl, -⟩ := List.cons.inj hsent
          obtain ⟨hd, hun⟩ := hold.complete h he
          have hfile := hold.node
          rw [← hd] at hfile
          have hkept := (h.step he).kept_receive hmeet.2 hfile hun
          refine ⟨hkept.1, hkept.2.trans ?_⟩
          rw [hd, hold.content]
          exact (List.append_nil _).symm
        | cons more rest =>
          obtain ⟨rfl, hrest⟩ := List.cons.inj hsent
          have hlater := ih (hold.chunk he) (h.step he) hmeet.2 hrest
          rwa [List.append_assoc, ← List.flatten_cons, ← List.take_succ_cons] at hlater
    · rw [List.filter_cons_of_neg (by simpa using hmsg)] at hsent
      exact ih (hold.other h he hmsg) (h.step he) hmeet.2 hsent

theorem Board.offer_take (h : Board dir loc r d) {name : String} {size m : Nat}
    {msgs : List FileTransferMessage} {cs : List Bytes}
    (hmeet : r.OffersMeet (Offered dir) d (.offer t name size :: msgs))
    (hsent : msgs.filter (·.transferId = t)
      = (chunkMessages t 0 cs ++ [FileTransferMessage.complete t]).take m) :
    (r.receive d (.offer t name size :: msgs)).2.read (uniqueDestinationPath dir name d)
      = some (cs.take m).flatten := by
  have he := h.effect (.offer t name size) hmeet.1
  obtain ⟨name', hplain, hpath, hnew⟩ := he.offered
  obtain ⟨hnode, hcontent⟩ := hnew.receive_take (h.step he) hmeet.2 hsent
  have hresolve : (r.receive d (.offer t name size :: msgs)).2.resolve (join dir name')
      = some (loc ++ [name']) := by
    rw [h.resolve_receive hmeet]
    exact Disk.resolve_join h.resolve h.isDir hplain
  rw [hpath, Disk.read_eq hresolve hnode]
  exact congrArg some hcontent

/-- After the first `m` messages of a transfer, its file holds `m - 1` chunks. -/
theorem Board.receive_take (h : Board dir loc r d) {msgs : List FileTransferMessage}
    (hmeet : r.OffersMeet (Offered dir) d msgs) {path : String} {X : Bytes} {m : Nat} (hm : 0 < m)
    (hsent : msgs.filter (·.transferId = t) = (sendFile path t X).take m) :
    ∃ l₁ l₂ name size, msgs = l₁ ++ .offer t name size :: l₂
      ∧ (r.receive d msgs).2.read (uniqueDestinationPath dir name (r.receive d l₁).2)
        = some (X.take ((m - 1) * CHUNK_SIZE)) := by
  obtain ⟨m, rfl⟩ : ∃ k, m = k + 1 := ⟨m - 1, by omega⟩
  induction msgs generalizing r d with
  | nil => exact absurd hsent nofun
  | cons msg msgs ih =>
    have he := h.effect msg hmeet.1
    by_cases hmsg : msg.transferId = t
    · rw [List.filter_cons_of_pos (by simpa using hmsg)] at hsent
      obtain ⟨rfl, hrest⟩ := List.cons.inj hsent
      refine ⟨[], msgs, _, _, rfl, ?_⟩
      rw [Nat.add_sub_cancel, ← flatten_take_chunks (by decide) X m]
      exact h.offer_take hmeet hrest
    · rw [List.filter_cons_of_neg (by simpa using hmsg)] at hsent
      obtain ⟨l₁, l₂, name, size, rfl, hread⟩ := ih (h.step he) hmeet.2 hsent
      exact ⟨msg :: l₁, l₂, name, size, rfl, hread⟩

/-! ## §2. In a session. -/

theorem transferId_chunkMessages (t : String) (n : Nat) (cs : List Bytes) :
    ∀ msg ∈ chunkMessages t n cs, msg.transferId = t := by
  induction cs generalizing n with
  | nil => exact fun _ h => absurd h List.not_mem_nil
  | cons c cs ih => exact List.forall_mem_cons.mpr ⟨rfl, ih (n + 1)⟩

theorem transferId_sendFile (path t : String) (X : Bytes) :
    ∀ msg ∈ sendFile path t X, msg.transferId = t := by
  refine List.forall_mem_cons.mpr ⟨rfl, fun msg hmsg => ?_⟩
  rcases List.mem_append.mp hmsg with hchunk | hlast
  · exact transferId_chunkMessages t 0 _ msg hchunk
  · rw [List.mem_singleton.mp hlast]
    rfl

/-- Offer and completion, and a message for each chunk. -/
theorem length_sendFile (path t : String) (X : Bytes) :
    (sendFile path t X).length = (chunks CHUNK_SIZE X).length + 2 := by
  have hlen : ∀ (n : Nat) (cs : List Bytes), (chunkMessages t n cs).length = cs.length := by
    intro n cs
    induction cs generalizing n with
    | nil => rfl
    | cons c cs ih => exact congrArg Nat.succ (ih (n + 1))
  show (chunkMessages t 0 _ ++ [FileTransferMessage.complete t]).length + 1 = _
  rw [List.length_append, hlen]
  rfl

/-- The name in an offer is the last part of a path. -/
theorem plain_offer {path t : String} {X : Bytes} {name : String} {u : String} {size : Nat}
    (h : .offer u name size ∈ sendFile path t X) : Plain name := by
  rcases List.mem_cons.mp h with heq | hrest
  · injection heq with _ hname
    rw [hname]
    exact plain_sentName path
  · rcases List.mem_append.mp hrest with hchunk | hlast
    · have hno : ∀ (n : Nat) (cs : List Bytes), .offer u name size ∉ chunkMessages t n cs := by
        intro n cs
        induction cs generalizing n with
        | nil => exact List.not_mem_nil
        | cons c cs ih =>
          intro hmem
          rcases List.mem_cons.mp hmem with heq | hmem
          · exact absurd heq nofun
          · exact ih (n + 1) hmem
      exact absurd hchunk (hno 0 _)
    · exact absurd (List.mem_singleton.mp hlast) nofun

/-- The transfer a message belongs to is `t`. -/
def ControlMessage.IsOf (t : String) (msg : ControlMessage) : Bool :=
  msg.file?.any (·.transferId = t)

open ControlMessage

/-- The id a task makes up. -/
def ControllerTask.transferId? : ControllerTask → Option String
  | .sendFile _ t _ => some t
  | _ => none

/-- No two transfers have the same id. -/
def OwnIds (spawned : List ControllerTask) : Prop :=
  (spawned.filterMap ControllerTask.transferId?).Nodup

theorem OwnIds.eq {spawned : List ControllerTask} (h : OwnIds spawned) {j k : Nat}
    {task task' : ControllerTask} {t : String} (hj : spawned[j]? = some task)
    (hk : spawned[k]? = some task') (ht : task.transferId? = some t)
    (ht' : task'.transferId? = some t) : j = k := by
  have hpair := List.pairwise_iff_getElem.mp (List.pairwise_filterMap.mp h)
  obtain ⟨hjlt, rfl⟩ := List.getElem?_eq_some_iff.mp hj
  obtain ⟨hklt, rfl⟩ := List.getElem?_eq_some_iff.mp hk
  rcases Nat.lt_trichotomy j k with hlt | heq | hgt
  · exact absurd rfl (hpair j k hjlt hklt hlt t ht t ht')
  · exact heq
  · exact absurd rfl (hpair k j hklt hjlt hgt t ht' t ht)

namespace ControllerTask

theorem isOf_sendFile (path t : String) (X : Bytes) :
    ∀ msg ∈ (ControllerTask.sendFile path t (.ok X)).script, msg.IsOf t = true := by
  intro msg hmsg
  obtain ⟨file, hfile, rfl⟩ := List.mem_map.mp hmsg
  exact decide_eq_true (transferId_sendFile path t X file hfile)

/-- The other tasks send no message of the transfer. -/
theorem not_isOf {task : ControllerTask} {t : String}
    (h : ∀ path content, task ≠ .sendFile path t content) :
    ∀ msg ∈ task.script, msg.IsOf t = false := by
  intro msg hmsg
  cases task with
  | sendFile path u content =>
    cases content with
    | ok X =>
      obtain ⟨file, hfile, rfl⟩ := List.mem_map.mp hmsg
      refine decide_eq_false fun ht => h path (.ok X) ?_
      rw [← ht, transferId_sendFile path u X file hfile]
    | error e => exact absurd hmsg List.not_mem_nil
  | sendInput event => rw [List.mem_singleton.mp hmsg]; rfl
  | requestMonitorList => rw [List.mem_singleton.mp hmsg]; rfl
  | switchMonitor monitorId => rw [List.mem_singleton.mp hmsg]; rfl
  | localChange text => rw [List.mem_singleton.mp hmsg]; rfl

/-- Every offer a task makes has a plain name. -/
theorem plain_of_mem {task : ControllerTask} {t name : String} {size : Nat}
    (h : .file (.offer t name size) ∈ task.script) : Plain name := by
  cases task with
  | sendFile path u content =>
    cases content with
    | ok X =>
      obtain ⟨file, hfile, heq⟩ := List.mem_map.mp h
      injection heq with heq
      subst heq
      exact plain_offer hfile
    | error e => exact absurd h List.not_mem_nil
  | sendInput event => exact absurd (List.mem_singleton.mp h) nofun
  | requestMonitorList => exact absurd (List.mem_singleton.mp h) nofun
  | switchMonitor monitorId => exact absurd (List.mem_singleton.mp h) nofun
  | localChange text => exact absurd (List.mem_singleton.mp h) nofun

end ControllerTask

theorem filter_isOf (t : String) (msgs : List ControlMessage) :
    (msgs.filter (IsOf t)).filterMap file? = (msgs.filterMap file?).filter (·.transferId = t) := by
  rw [List.filter_filterMap, List.filterMap_filter]
  refine List.filterMap_congr fun msg _ => ?_
  cases msg with
  | file msg =>
    by_cases ht : msg.transferId = t
    · simp [IsOf, file?, ht, Option.filter]
    · simp [IsOf, file?, ht, Option.filter]
  | _ => rfl

theorem filterMap_script (path t : String) (X : Bytes) :
    (ControllerTask.sendFile path t (.ok X)).script.filterMap file? = sendFile path t X := by
  rw [ControllerTask.script, List.filterMap_map]
  exact List.filterMap_some

namespace DataChannel

variable [Bincode] {S : Type} [InputSink S] {host : HostEnd S Disk OpenFile}
  {spawned : List ControllerTask} {c : DataChannel S Disk OpenFile}

/-- The messages the file receiver has handled. -/
def fileMessages (c : DataChannel S Disk OpenFile) : List FileTransferMessage :=
  c.line.received.filterMap file?

/-- How many messages of the transfer `t` the host has handled. -/
def handledOf (t : String) (c : DataChannel S Disk OpenFile) : Nat :=
  (c.fileMessages.filter (·.transferId = t)).length

/-- The file receiver is where its own messages take it. -/
theorem Running.files (h : Running host spawned c) (hrange : ∀ task ∈ spawned, Sendable task) :
    c.host.files = (host.fileReceiver.receive host.files c.fileMessages).2 := by
  obtain ⟨arrivals, haccepted, hhost⟩ := h.host_eq hrange
  rw [hhost, HostEnd.handled_apart, haccepted]
  rfl

/-- The task `k` has its script. -/
theorem Running.script (h : Running host spawned c) {k : Nat} {s : Sender ControlMessage}
    (hk : c.line.senders[k]? = some s) : ∃ task, spawned[k]? = some task ∧ s.script = task.script := by
  have heq : (spawned[k]?).map ControllerTask.script = some s.script := by
    rw [← List.getElem?_map, ← h.scripts, Line.scripts, List.getElem?_map, hk]
    rfl
  obtain ⟨task, htask, hscript⟩ := Option.map_eq_some_iff.mp heq
  exact ⟨task, htask, hscript.symm⟩

theorem Running.others (h : Running host spawned c) (hids : OwnIds spawned) {k : Nat}
    {path t : String} {content : Except String Bytes}
    (htask : spawned[k]? = some (.sendFile path t content)) (j : Nat) (s : Sender ControlMessage)
    (hj : c.line.senders[j]? = some s) (hne : j ≠ k) : ∀ msg ∈ s.script, msg.IsOf t = false := by
  obtain ⟨task, hother, hscript⟩ := h.script hj
  rw [hscript]
  refine ControllerTask.not_isOf fun path' content' heq => hne ?_
  rw [heq] at hother
  exact hids.eq hother htask rfl rfl

/-- Of a transfer, the host has handled a first part. -/
theorem Running.transfer (h : Running host spawned c) (hids : OwnIds spawned) {k : Nat}
    {path t : String} {X : Bytes} (htask : spawned[k]? = some (.sendFile path t (.ok X)))
    {s : Sender ControlMessage} (hk : c.line.senders[k]? = some s) :
    c.fileMessages.filter (·.transferId = t) = (sendFile path t X).take (c.handledOf t) := by
  obtain ⟨task, htask', hscript⟩ := h.script hk
  obtain rfl := Option.some.inj (htask.symm.trans htask')
  have hall : ∀ msg ∈ s.script, msg.IsOf t = true := by
    rw [hscript]
    exact ControllerTask.isOf_sendFile path t X
  have hpre := (h.accounted.received_filter hk hall (h.others hids htask)).filterMap file?
  rw [filter_isOf, hscript, filterMap_script] at hpre
  exact List.prefix_iff_eq_take.mp hpre

/-- When a task has returned and the channel is drained, all of its messages have been handled. -/
theorem Running.transfer_done (h : Running host spawned c) (hids : OwnIds spawned) {k : Nat}
    {path t : String} {X : Bytes} (htask : spawned[k]? = some (.sendFile path t (.ok X)))
    {s : Sender ControlMessage} (hk : c.line.senders[k]? = some s) (hdone : s.Done)
    (hdrained : c.line.Drained) : c.handledOf t = (sendFile path t X).length := by
  obtain ⟨task, htask', hscript⟩ := h.script hk
  obtain rfl := Option.some.inj (htask.symm.trans htask')
  have hall : ∀ msg ∈ s.script, msg.IsOf t = true := by
    rw [hscript]
    exact ControllerTask.isOf_sendFile path t X
  have hsent := h.accounted.filter hk hall (h.others hids htask)
  rw [h.accounted.done hk hdone, hscript, ← Line.received_of_drained hdrained] at hsent
  rw [handledOf, fileMessages, ← filter_isOf, hsent, filterMap_script]

/-- Every offer the host handles has a plain name. -/
theorem Running.plain (h : Running host spawned c) {t name : String} {size : Nat}
    (hmem : .offer t name size ∈ c.fileMessages) : Plain name := by
  obtain ⟨msg, hmsg, hfile⟩ := List.mem_filterMap.mp hmem
  obtain rfl : msg = .file (.offer t name size) := by
    cases msg with
    | file msg => exact congrArg _ (Option.some.inj hfile)
    | _ => exact absurd hfile nofun
  obtain ⟨s, hs, hscript⟩ := h.accounted.mem_script hmsg
  obtain ⟨k, hk⟩ := List.mem_iff_getElem?.mp hs
  obtain ⟨task, -, heq⟩ := h.script hk
  exact ControllerTask.plain_of_mem (heq ▸ hscript)

end DataChannel

/-- Every offer comes when `P` holds of its name: as one statement for all of them. -/
theorem FileReceiver.offersMeet_iff {σ File : Type} [FileSystem σ File] {P : String → σ → Prop}
    {r : FileReceiver File} {s : σ} {msgs : List FileTransferMessage} :
    r.OffersMeet P s msgs ↔ ∀ l₁ l₂ t name size, msgs = l₁ ++ .offer t name size :: l₂ →
      P name (r.receive s l₁).2 := by
  induction msgs generalizing r s with
  | nil => exact iff_of_true trivial fun l₁ l₂ t name size h => absurd h (by simp)
  | cons msg msgs ih =>
    constructor
    · rintro ⟨hfirst, hrest⟩ l₁ l₂ t name size heq
      cases l₁ with
      | nil => exact hfirst t name size (List.cons.inj heq).1
      | cons m l₁ =>
        obtain ⟨hmsg, hmsgs⟩ := List.cons.inj heq
        subst hmsg
        exact ih.mp hrest l₁ l₂ t name size hmsgs
    · intro h
      refine ⟨?_, ih.mpr fun l₁ l₂ t name size heq => ?_⟩
      · rintro t name size rfl
        exact h [] msgs t name size rfl
      · exact h (msg :: l₁) l₂ t name size (congrArg _ heq)

/-- The file that was chosen for the transfer `t`, when the messages `msgs` were
handled over the disk `d`, reads `data` on the disk `d'`. -/
def Chosen (dir t : String) (d : Disk) (msgs : List FileTransferMessage) (d' : Disk)
    (data : Bytes) : Prop :=
  ∃ l₁ l₂ name size, msgs = l₁ ++ .offer t name size :: l₂
    ∧ d'.read (uniqueDestinationPath dir name ((FileReceiver.new dir).receive d l₁).2) = some data

/-- A host that receives into the directory of `inboxDisk`. -/
def inboxHost : HostEnd (List InputEvent) Disk OpenFile where
  inputSink := []
  clipboardSync := .start ""
  fileReceiver := .new "/inbox"
  files := inboxDisk
  monitorSwitches := []
  replies := []

/-- Two files of one name and a key; one of the files comes to an end early. -/
def sharing : List SessionEvent :=
  [.spawn (.sendFile "a.txt" "t" (.ok [1, 2])), .spawn (.sendFile "a.txt" "u" (.ok [7, 8, 9])),
    .spawn (.sendInput (.keyEvent .enter true)), .send 0, .send 1, .send 2,
    .deliver ⟨.ok [], true⟩, .send 0, .deliver ⟨.ok [], true⟩, .fail 1 true,
    .deliver ⟨.ok [], true⟩, .send 0, .deliver ⟨.ok [], true⟩, .deliver ⟨.ok [], true⟩,
    .deliver ⟨.ok [], true⟩]

section

open Fixint

theorem sharing_messages : ((DataChannel.start inboxHost).run sharing).fileMessages
    = [.offer "t" "a.txt" 2, .offer "u" "a.txt" 3, .chunk "t" 0 [1, 2], .chunk "u" 0 [7, 8, 9],
      .complete "t"] := by
  decide +kernel

theorem sharing_free : (FileReceiver.new "/inbox").OffersMeet (Vacant "/inbox") inboxHost.files
    ((DataChannel.start inboxHost).run sharing).fileMessages := by
  rw [sharing_messages]
  refine ⟨?_, ?_, nofun, nofun, nofun, trivial⟩
  · rintro t name size heq
    injection heq with _ hname
    subst hname
    exact .inr ⟨1, by decide, by decide, by decide +kernel⟩
  · rintro t name size heq
    injection heq with _ hname
    subst hname
    exact .inr ⟨2, by decide, by decide, by decide +kernel⟩

end

end Visuara.Client
