/-
  Visuara.Interleave.Line
  ───────────────────────
  **MANY SENDERS, ONE ORDERED CHANNEL.**

  Tasks send their scripts over one channel, message by message; who is next
  is up to the scheduler, and a task whose send fails gives up.  The channel
  loses nothing and keeps the order, so it mixes the scripts and does no more:

    • `Line.Accounted`   — every task has sent a first part of its script;
    • `Accounted.filter` — the messages only one task sends are in its order;
    • `Accounted.in_order` — tasks that take turns send one script after the other;
    • `accounted_run`    — so in every run.
-/
import Mathlib.Data.List.Basic

namespace Interleave

/-- A task that sends a script. -/
structure Sender (α : Type) where
  script : List α
  /-- What it has not sent yet. -/
  rest : List α
  failed : Bool
  deriving DecidableEq, Repr

/-- The task has returned, and no send has failed. -/
def Sender.Done {α : Type} (s : Sender α) : Prop := s.rest = [] ∧ s.failed = false

instance {α : Type} [DecidableEq α] (s : Sender α) : Decidable s.Done :=
  inferInstanceAs (Decidable (s.rest = [] ∧ s.failed = false))

structure Line (α : Type) where
  senders : List (Sender α)
  /-- What has been put on the channel, by whom, with the oldest first. -/
  sent : List (Nat × α)
  /-- How many of these have been received. -/
  taken : Nat
  deriving DecidableEq, Repr

inductive LineEvent (α : Type) where
  | spawn (script : List α)
  | send (k : Nat)
  /-- A send fails; the message may be on the channel all the same. -/
  | fail (k : Nat) (onChannel : Bool)
  | receive
  deriving DecidableEq, Repr

def LineEvent.script? {α : Type} : LineEvent α → Option (List α)
  | .spawn script => some script
  | _ => none

namespace Line

variable {α : Type}

def start : Line α := ⟨[], [], 0⟩

/-- The task `k` with the message it sends next. -/
def next (l : Line α) (k : Nat) : Option (Sender α × α) :=
  (l.senders[k]?).bind fun s => if s.failed then none else s.rest.head?.map fun m => (s, m)

def step (l : Line α) : LineEvent α → Line α
  | .spawn script => { l with senders := l.senders ++ [⟨script, script, false⟩] }
  | .send k =>
    match l.next k with
    | some (s, m) =>
      { l with senders := l.senders.set k { s with rest := s.rest.tail }, sent := l.sent ++ [(k, m)] }
    | none => l
  | .fail k onChannel =>
    match l.next k with
    | some (s, m) =>
      { l with
        senders := l.senders.set k { s with failed := true }
        sent := if onChannel then l.sent ++ [(k, m)] else l.sent }
    | none => l
  | .receive => { l with taken := min (l.taken + 1) l.sent.length }

def run (l : Line α) (events : List (LineEvent α)) : Line α := events.foldl step l

/-- What the task `k` has put on the channel. -/
def sentBy (l : Line α) (k : Nat) : List α := (l.sent.filter (·.1 = k)).map Prod.snd

def received (l : Line α) : List α := (l.sent.take l.taken).map Prod.snd

/-- What is received next. -/
def head? (l : Line α) : Option α := (l.sent[l.taken]?).map Prod.snd

/-! ## §1. What every run keeps. -/

/-- The books of a channel: every message has a sender, who has sent a first
part of the script, and all but the rest if no send has failed. -/
structure Accounted (l : Line α) : Prop where
  sender : ∀ p ∈ l.sent, ∃ s, l.senders[p.1]? = some s
  initial : ∀ k s, l.senders[k]? = some s → l.sentBy k <+: s.script
  exact : ∀ k s, l.senders[k]? = some s → s.failed = false → s.script = l.sentBy k ++ s.rest
  taken_le : l.taken ≤ l.sent.length

theorem accounted_start : Accounted (start : Line α) where
  sender _ h := absurd h List.not_mem_nil
  initial _ _ h := absurd h nofun
  exact _ _ h := absurd h nofun
  taken_le := Nat.le_refl 0

variable {l : Line α} {k : Nat} {s : Sender α} {m : α}

theorem next_eq_some (h : l.next k = some (s, m)) :
    l.senders[k]? = some s ∧ s.failed = false ∧ s.rest = m :: s.rest.tail := by
  obtain ⟨s', hs', hif⟩ := Option.bind_eq_some_iff.mp h
  split at hif
  · exact absurd hif nofun
  · next hfailed =>
    obtain ⟨m', hhead, heq⟩ := Option.map_eq_some_iff.mp hif
    cases heq
    exact ⟨hs', Bool.eq_false_iff.mpr hfailed, (List.cons_head?_tail hhead).symm⟩

theorem sentBy_concat (l : Line α) (k j : Nat) (m : α) (senders : List (Sender α)) (n : Nat) :
    sentBy ⟨senders, l.sent ++ [(k, m)], n⟩ j = l.sentBy j ++ if k = j then [m] else [] := by
  rw [sentBy, List.filter_append, List.map_append]
  by_cases h : k = j
  · rw [if_pos h, List.filter_cons_of_pos (by simpa using h)]
    rfl
  · rw [if_neg h, List.filter_cons_of_neg (by simpa using h)]
    rfl

/-- A task that sends `m` and goes on as `s'`. -/
theorem Accounted.sends (h : Accounted l) (hnext : l.next k = some (s, m)) {s' : Sender α}
    (hscript : s'.script = s.script) (hrest : s'.failed = false → s'.rest = s.rest.tail) :
    Accounted { l with senders := l.senders.set k s', sent := l.sent ++ [(k, m)] } := by
  obtain ⟨hk, hfailed, hm⟩ := next_eq_some hnext
  have hlt : k < l.senders.length := (List.getElem?_eq_some_iff.mp hk).1
  have hsplit : s.script = (l.sentBy k ++ [m]) ++ s.rest.tail := by
    rw [h.exact k s hk hfailed, List.append_assoc]
    exact congrArg _ hm
  refine ⟨fun p hp => ?_, fun j t ht => ?_, fun j t ht hok => ?_, ?_⟩
  · rcases List.mem_append.mp hp with hp | hp
    · by_cases hpk : k = p.1
      · exact ⟨s', by rw [← hpk]; exact List.getElem?_set_self hlt⟩
      · obtain ⟨t, ht⟩ := h.sender p hp
        exact ⟨t, (List.getElem?_set_ne hpk).trans ht⟩
    · obtain rfl := List.mem_singleton.mp hp
      exact ⟨s', List.getElem?_set_self hlt⟩
  · rw [sentBy_concat]
    by_cases hj : k = j
    · subst hj
      obtain rfl : s' = t := Option.some.inj ((List.getElem?_set_self hlt).symm.trans ht)
      rw [if_pos rfl, hscript, hsplit]
      exact List.prefix_append _ _
    · rw [if_neg hj, List.append_nil]
      exact h.initial j t ((List.getElem?_set_ne hj).symm.trans ht)
  · rw [sentBy_concat]
    by_cases hj : k = j
    · subst hj
      obtain rfl : s' = t := Option.some.inj ((List.getElem?_set_self hlt).symm.trans ht)
      rw [if_pos rfl, hscript, hsplit, hrest hok]
    · rw [if_neg hj, List.append_nil]
      exact h.exact j t ((List.getElem?_set_ne hj).symm.trans ht) hok
  · rw [List.length_append]
    exact Nat.le_trans h.taken_le (Nat.le_add_right _ _)

/-- A task that gives up, with nothing sent. -/
theorem Accounted.gives_up (h : Accounted l) (hk : l.senders[k]? = some s) :
    Accounted { l with senders := l.senders.set k { s with failed := true } } := by
  have hlt : k < l.senders.length := (List.getElem?_eq_some_iff.mp hk).1
  refine ⟨fun p hp => ?_, fun j t ht => ?_, fun j t ht hok => ?_, h.taken_le⟩
  · by_cases hpk : k = p.1
    · exact ⟨_, by rw [← hpk]; exact List.getElem?_set_self hlt⟩
    · obtain ⟨t, ht⟩ := h.sender p hp
      exact ⟨t, (List.getElem?_set_ne hpk).trans ht⟩
  · by_cases hj : k = j
    · subst hj
      obtain rfl : { s with failed := true } = t :=
        Option.some.inj ((List.getElem?_set_self hlt).symm.trans ht)
      exact h.initial k s hk
    · exact h.initial j t ((List.getElem?_set_ne hj).symm.trans ht)
  · by_cases hj : k = j
    · subst hj
      obtain rfl : { s with failed := true } = t :=
        Option.some.inj ((List.getElem?_set_self hlt).symm.trans ht)
      exact absurd hok nofun
    · exact h.exact j t ((List.getElem?_set_ne hj).symm.trans ht) hok

theorem Accounted.spawn (h : Accounted l) (script : List α) :
    Accounted (l.step (.spawn script)) := by
  have hnew : ∀ {j t}, (l.senders ++ [⟨script, script, false⟩])[j]? = some t →
      l.senders[j]? = some t ∨ j = l.senders.length ∧ t = ⟨script, script, false⟩ := by
    intro j t ht
    rcases Nat.lt_or_ge j l.senders.length with hlt | hge
    · exact .inl ((List.getElem?_append_left hlt).symm.trans ht)
    · rw [List.getElem?_append_right hge, List.getElem?_singleton] at ht
      split at ht
      · cases ht
        exact .inr ⟨by omega, rfl⟩
      · exact absurd ht nofun
  -- nothing has been sent by a task that was not there
  have hnone : l.sentBy l.senders.length = [] := by
    rw [sentBy, List.map_eq_nil_iff, List.filter_eq_nil_iff]
    intro p hp heq
    obtain ⟨t, ht⟩ := h.sender p hp
    rw [of_decide_eq_true heq, List.getElem?_eq_none (Nat.le_refl _)] at ht
    exact absurd ht nofun
  refine ⟨fun p hp => ?_, fun j t ht => ?_, fun j t ht hok => ?_, h.taken_le⟩
  · obtain ⟨t, ht⟩ := h.sender p hp
    exact ⟨t, (List.getElem?_append_left (List.getElem?_eq_some_iff.mp ht).1).trans ht⟩
  · rcases hnew ht with ht | ⟨rfl, rfl⟩
    · exact h.initial j t ht
    · show l.sentBy _ <+: _
      rw [hnone]
      exact List.nil_prefix
  · rcases hnew ht with ht | ⟨rfl, rfl⟩
    · exact h.exact j t ht hok
    · show script = l.sentBy _ ++ script
      rw [hnone, List.nil_append]

theorem Accounted.step (h : Accounted l) (e : LineEvent α) : Accounted (l.step e) := by
  cases e with
  | spawn script => exact h.spawn script
  | send k =>
    rw [Line.step]
    split
    · next s m hnext => exact h.sends hnext rfl fun _ => rfl
    · exact h
  | fail k onChannel =>
    rw [Line.step]
    split
    · next s m hnext =>
      cases onChannel with
      | true => exact h.sends hnext rfl nofun
      | false => exact h.gives_up (next_eq_some hnext).1
    · exact h
  | receive => exact ⟨h.sender, h.initial, h.exact, Nat.min_le_right _ _⟩

/-- **Every task has sent a first part of its script**, in every run. -/
theorem accounted_run (h : Accounted l) (events : List (LineEvent α)) :
    Accounted (l.run events) := by
  induction events generalizing l with
  | nil => exact h
  | cons e es ih => exact ih (h.step e)

/-! ## §2. What comes out. -/

theorem Accounted.done (h : Accounted l) (hk : l.senders[k]? = some s) (hdone : s.Done) :
    l.sentBy k = s.script := by
  have heq := h.exact k s hk hdone.2
  rw [hdone.1, List.append_nil] at heq
  exact heq.symm

/-- The scripts of all tasks, with the oldest first. -/
def scripts (l : Line α) : List (List α) := l.senders.map Sender.script

/-- A task keeps its script. -/
theorem map_script_set (hk : l.senders[k]? = some s) (s' : Sender α) (h : s'.script = s.script) :
    (l.senders.set k s').map Sender.script = l.scripts := by
  obtain ⟨hlt, heq⟩ := List.getElem?_eq_some_iff.mp hk
  have hlt' : k < (l.senders.map Sender.script).length := by rwa [List.length_map]
  have hself : s'.script = (l.senders.map Sender.script)[k] := by
    rw [List.getElem_map, heq, h]
  rw [List.map_set, hself, List.set_getElem_self]
  rfl

theorem scripts_step (l : Line α) (e : LineEvent α) :
    (l.step e).scripts = l.scripts ++ e.script?.toList := by
  cases e with
  | spawn script => exact List.map_append
  | send k =>
    rw [step]
    split
    · next s m hnext =>
      have hset := map_script_set (next_eq_some hnext).1 { s with rest := s.rest.tail } rfl
      exact hset.trans (List.append_nil _).symm
    · exact (List.append_nil _).symm
  | fail k onChannel =>
    rw [step]
    split
    · next s m hnext =>
      have hset := map_script_set (next_eq_some hnext).1 { s with failed := true } rfl
      exact hset.trans (List.append_nil _).symm
    · exact (List.append_nil _).symm
  | receive => exact (List.append_nil _).symm

/-- What is received is the next message sent. -/
theorem received_receive (l : Line α) :
    (l.step .receive).received = l.received ++ l.head?.toList := by
  rcases Nat.lt_or_ge l.taken l.sent.length with hlt | hge
  · have hmin : min (l.taken + 1) l.sent.length = l.taken + 1 := by omega
    rw [received, step, hmin, List.take_add_one, List.map_append]
    rw [head?, List.getElem?_eq_getElem hlt]
    rfl
  · have hmin : min (l.taken + 1) l.sent.length = l.sent.length := by omega
    rw [received, received, step, hmin, head?, List.getElem?_eq_none hge]
    rw [List.take_of_length_le hge, List.take_length]
    exact (List.append_nil _).symm

/-- What has been received stays so, whatever is sent after it. -/
theorem received_append (sent more : List (Nat × α)) {n : Nat} (hn : n ≤ sent.length)
    (senders senders' : List (Sender α)) :
    received ⟨senders, sent ++ more, n⟩ = received ⟨senders', sent, n⟩ := by
  rw [received, received, List.take_append_of_le_length hn]

/-- **Nothing is received but by receiving.** -/
theorem Accounted.received_step (h : Accounted l) {e : LineEvent α} (he : e ≠ .receive) :
    (l.step e).received = l.received := by
  cases e with
  | spawn script => rfl
  | send k =>
    rw [Line.step]
    split
    · exact received_append _ _ h.taken_le _ _
    · rfl
  | fail k onChannel =>
    rw [Line.step]
    split
    · cases onChannel with
      | true => exact received_append _ _ h.taken_le _ _
      | false => rfl
    · rfl
  | receive => exact absurd rfl he

/-- Everything that has been sent has been received. -/
def Drained (l : Line α) : Prop := l.taken = l.sent.length

instance (l : Line α) : Decidable l.Drained := inferInstanceAs (Decidable (l.taken = l.sent.length))

theorem received_of_drained (h : l.Drained) : l.received = l.sent.map Prod.snd := by
  rw [received, show l.taken = l.sent.length from h, List.take_length]

/-- What is received is from the script of a task. -/
theorem Accounted.mem_script (h : Accounted l) (hm : m ∈ l.received) :
    ∃ s ∈ l.senders, m ∈ s.script := by
  obtain ⟨p, hp, rfl⟩ := List.mem_map.mp hm
  have hsent : p ∈ l.sent := List.mem_of_mem_take hp
  obtain ⟨s, hs⟩ := h.sender p hsent
  refine ⟨s, List.mem_of_getElem? hs, (h.initial p.1 s hs).subset ?_⟩
  exact List.mem_map.mpr ⟨p, List.mem_filter.mpr ⟨hsent, by simp⟩, rfl⟩

/-- The messages of a kind that only the task `k` sends are what it has sent. -/
theorem Accounted.filter (h : Accounted l) {P : α → Bool} (hk : l.senders[k]? = some s)
    (hall : ∀ m ∈ s.script, P m = true)
    (hother : ∀ j t, l.senders[j]? = some t → j ≠ k → ∀ m ∈ t.script, P m = false) :
    (l.sent.map Prod.snd).filter P = l.sentBy k := by
  rw [List.filter_map, sentBy]
  refine congrArg _ (List.filter_congr fun p hp => ?_)
  obtain ⟨t, ht⟩ := h.sender p hp
  have hmem : p.2 ∈ t.script := by
    refine (h.initial p.1 t ht).subset (List.mem_map.mpr ⟨p, ?_, rfl⟩)
    exact List.mem_filter.mpr ⟨hp, by simp⟩
  by_cases hpk : p.1 = k
  · obtain rfl : s = t := by
      rw [hpk] at ht
      exact Option.some.inj (hk.symm.trans ht)
    simp [hpk, hall p.2 hmem]
  · simp [hpk, hother p.1 t ht hpk p.2 hmem]

/-- **Of the messages of a task, a first part has been received.** -/
theorem Accounted.received_filter (h : Accounted l) {P : α → Bool}
    (hk : l.senders[k]? = some s) (hall : ∀ m ∈ s.script, P m = true)
    (hother : ∀ j t, l.senders[j]? = some t → j ≠ k → ∀ m ∈ t.script, P m = false) :
    l.received.filter P <+: s.script := by
  have hsent := h.filter hk hall hother
  have hpre : l.received.filter P <+: (l.sent.map Prod.snd).filter P := by
    exact ((List.take_prefix _ _).map Prod.snd).filter P
  exact hpre.trans (hsent ▸ h.initial k s hk)

/-! ## §3. Taking turns. -/

/-- In a list that is sorted by number, what is below `n` comes first. -/
theorem sorted_split {L : List (Nat × α)} (h : L.Pairwise fun p q => p.1 ≤ q.1) (n : Nat) :
    L = L.filter (·.1 < n) ++ L.filter (n ≤ ·.1) := by
  induction L with
  | nil => rfl
  | cons p L ih =>
    obtain ⟨hp, hL⟩ := List.pairwise_cons.mp h
    by_cases hlt : p.1 < n
    · have hge : ¬n ≤ p.1 := by omega
      rw [List.filter_cons_of_pos (by simpa using hlt), List.filter_cons_of_neg (by simpa using hge)]
      exact congrArg _ (ih hL)
    · have hge : n ≤ p.1 := by omega
      have hnone : (p :: L).filter (·.1 < n) = [] := by
        refine List.filter_eq_nil_iff.mpr fun q hq => ?_
        rcases List.mem_cons.mp hq with rfl | hq
        · simpa using hge
        · simpa using Nat.le_trans hge (hp q hq)
      have hall : (p :: L).filter (n ≤ ·.1) = p :: L := by
        refine List.filter_eq_self.mpr fun q hq => ?_
        rcases List.mem_cons.mp hq with rfl | hq
        · simpa using hge
        · simpa using Nat.le_trans hge (hp q hq)
      rw [hnone, hall, List.nil_append]

/-- It is what belongs to each number, one number after the other. -/
theorem sorted_flatMap {L : List (Nat × α)} (h : L.Pairwise fun p q => p.1 ≤ q.1) {n : Nat}
    (hlt : ∀ p ∈ L, p.1 < n) : (List.range n).flatMap (fun k => L.filter (·.1 = k)) = L := by
  induction n generalizing L with
  | zero =>
    have hnil : L = [] := List.eq_nil_iff_forall_not_mem.mpr fun p hp => by
      have := hlt p hp
      omega
    rw [hnil]
    rfl
  | succ n ih =>
    have hbelow := ih (h.filter (·.1 < n)) fun p hp => by simpa using (List.mem_filter.mp hp).2
    have hsame : ∀ k ∈ List.range n, (L.filter (·.1 < n)).filter (·.1 = k) = L.filter (·.1 = k) := by
      intro k hk
      rw [List.filter_filter]
      refine List.filter_congr fun p _ => ?_
      have hkn := List.mem_range.mp hk
      by_cases hpk : p.1 = k
      · simp [hpk, hkn]
      · simp [hpk]
    have hlast : L.filter (n ≤ ·.1) = L.filter (·.1 = n) := by
      refine List.filter_congr fun p hp => ?_
      have hp' := hlt p hp
      by_cases hpn : p.1 = n
      · simp [hpn]
      · have hno : ¬n ≤ p.1 := by omega
        simp [hpn, hno]
    rw [List.range_succ, List.flatMap_append, List.flatMap_congr fun k hk => (hsame k hk).symm,
      hbelow, List.flatMap_singleton, ← hlast]
    exact (sorted_split h n).symm

/-- With the messages in `P`, every task has waited for those that were spawned before it. -/
def InTurns (l : Line α) (P : α → Bool) : Prop :=
  (l.sent.filter fun p => P p.2).Pairwise fun p q => p.1 ≤ q.1

instance (l : Line α) (P : α → Bool) : Decidable (l.InTurns P) :=
  inferInstanceAs (Decidable ((l.sent.filter fun p => P p.2).Pairwise fun p q => p.1 ≤ q.1))

/-- **Tasks that take turns send their scripts one after the other**, as far as
they take turns. -/
theorem Accounted.in_order (h : Accounted l) {P : α → Bool} (hdone : ∀ s ∈ l.senders, s.Done)
    (hturns : l.InTurns P) :
    (l.sent.map Prod.snd).filter P = l.scripts.flatten.filter P := by
  have hlt : ∀ p ∈ l.sent.filter (fun p => P p.2), p.1 < l.senders.length := by
    intro p hp
    obtain ⟨s, hs⟩ := h.sender p (List.mem_of_mem_filter hp)
    exact (List.getElem?_eq_some_iff.mp hs).1
  have hscripts : l.scripts = (List.range l.senders.length).map l.sentBy := by
    refine List.ext_getElem (by simp [scripts]) fun k hk _ => ?_
    have hk' : k < l.senders.length := by simpa [scripts] using hk
    have hs : l.senders[k]? = some l.senders[k] := List.getElem?_eq_getElem hk'
    rw [List.getElem_map, List.getElem_range, h.done hs (hdone _ (List.getElem_mem hk'))]
    exact List.getElem_map _
  have hmine : ∀ k, ((l.sent.filter fun p => P p.2).filter (·.1 = k)).map Prod.snd
      = (l.sentBy k).filter P := by
    intro k
    rw [sentBy, List.filter_map, List.filter_filter, List.filter_filter]
    refine congrArg _ (List.filter_congr fun p _ => ?_)
    exact Bool.and_comm _ _
  calc (l.sent.map Prod.snd).filter P = (l.sent.filter fun p => P p.2).map Prod.snd := List.filter_map
    _ = ((List.range l.senders.length).flatMap fun k =>
          (l.sent.filter fun p => P p.2).filter (·.1 = k)).map Prod.snd := by
        rw [sorted_flatMap hturns hlt]
    _ = (List.range l.senders.length).flatMap fun k => (l.sentBy k).filter P := by
        rw [List.map_flatMap]
        exact List.flatMap_congr fun k _ => hmine k
    _ = l.scripts.flatten.filter P := by
        rw [hscripts, List.filter_flatten, List.map_map]
        rfl

/-- And so they are received. -/
theorem Accounted.received_in_order {β : Type} (h : Accounted l) (f : α → Option β)
    (hdone : ∀ s ∈ l.senders, s.Done) (hdrained : l.Drained)
    (hturns : l.InTurns fun m => (f m).isSome) :
    l.received.filterMap f = l.scripts.flatten.filterMap f := by
  -- only these messages count
  have hf : ∀ ms : List α, (ms.filter fun m => (f m).isSome).filterMap f = ms.filterMap f := by
    intro ms
    rw [List.filterMap_filter]
    refine List.filterMap_congr fun m _ => ?_
    cases f m <;> rfl
  rw [received_of_drained hdrained, ← hf, h.in_order hdone hturns, hf]

end Line

end Interleave
