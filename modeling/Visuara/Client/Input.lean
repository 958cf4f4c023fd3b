/-
  Visuara.Client.Input
  ────────────────────
  **THE WAY OF AN INPUT EVENT** (`gui.rs`, `controller.rs`, `host.rs`).

  The window hands every event to a task of its own, which sends it over the
  data channel.  The channel keeps the order in which the tasks send; in which
  order that is, the scheduler decides:

    • `InputPath`   — events that wait for their task, are on the wire, are handled;
    • `InSpawnOrder` — every task sends before those that were spawned after it;
    • `input_in_order_iff` — only such a schedule keeps every sequence in order.
-/
import Mathlib.Data.List.Basic

namespace Visuara.Client

/-! ## §1. Input events. -/

inductive KeyCode where
  | backspace | enter | tab | escape | space | delete
  | arrowUp | arrowDown | arrowLeft | arrowRight
  | shift | control | alt | metaKey
  deriving DecidableEq, Repr

inductive MouseButton where
  | left | right | middle
  deriving DecidableEq, Repr

inductive InputEvent where
  | mouseMove (x y : Int)
  | mouseButton (button : MouseButton) (pressed : Bool)
  | mouseScroll (deltaX deltaY : Int)
  | keyEvent (key : KeyCode) (pressed : Bool)
  | typeText (text : String)
  deriving DecidableEq, Repr

/-! ## §2. From the window to the input sink. -/

/-- Where the events of a session are; all lists have the oldest first. -/
structure InputPath (α : Type) where
  /-- What the window has made. -/
  produced : List α
  /-- The spawned tasks that have not sent yet. -/
  tasks : List α
  /-- What has been sent and not been received. -/
  wire : List α
  /-- What `handle_input` has been called with. -/
  handled : List α
  deriving DecidableEq, Repr

/-- One step of a schedule. -/
inductive InputStep where
  /-- `VisuaraApp::send_input`: a task is spawned for the next event. -/
  | sendInput
  /-- The task with `i` older ones before it calls `dc.send`. -/
  | runs (i : Nat)
  /-- The host handles the next message. -/
  | delivers
  deriving DecidableEq, Repr

namespace InputPath

variable {α β : Type}

def start : InputPath α := ⟨[], [], [], []⟩

/-- `events k` is what the window makes next when it has made `k` events. -/
def step (events : Nat → α) (p : InputPath α) : InputStep → InputPath α
  | .sendInput =>
    { p with
      produced := p.produced ++ [events p.produced.length]
      tasks := p.tasks ++ [events p.produced.length] }
  | .runs i =>
    match p.tasks[i]? with
    | some e => { p with tasks := p.tasks.eraseIdx i, wire := p.wire ++ [e] }
    | none => p
  | .delivers =>
    match p.wire with
    | e :: rest => { p with wire := rest, handled := p.handled ++ [e] }
    | [] => p

def runFrom (events : Nat → α) (p : InputPath α) (schedule : List InputStep) : InputPath α :=
  schedule.foldl (step events) p

def run (events : Nat → α) (schedule : List InputStep) : InputPath α :=
  runFrom events start schedule

/-- What has been sent so far. -/
def sent (p : InputPath α) : List α := p.handled ++ p.wire

/-- Every task that gets to run is the oldest one, where `n` are waiting at first. -/
def InSpawnOrder : Nat → List InputStep → Prop
  | _, [] => True
  | n, .sendInput :: l => InSpawnOrder (n + 1) l
  | n, .runs i :: l => if i < n then i = 0 ∧ InSpawnOrder (n - 1) l else InSpawnOrder n l
  | n, .delivers :: l => InSpawnOrder n l

/-- In the end every task has run and every message has been handled. -/
def AtRest (schedule : List InputStep) : Prop :=
  (run (fun k => k) schedule).tasks = [] ∧ (run (fun k => k) schedule).wire = []

variable {events : Nat → α} {p : InputPath α}

theorem step_runs {i : Nat} {e : α} (h : p.tasks[i]? = some e) : p.step events (.runs i)
    = { p with tasks := p.tasks.eraseIdx i, wire := p.wire ++ [e] } := by
  simp only [step, h]

theorem step_runs_none {i : Nat} (h : p.tasks.length ≤ i) : p.step events (.runs i) = p := by
  simp only [step, List.getElem?_eq_none h]

theorem step_delivers {e : α} {rest : List α} (h : p.wire = e :: rest) :
    p.step events .delivers = { p with wire := rest, handled := p.handled ++ [e] } := by
  simp only [step, h]

theorem step_delivers_nil (h : p.wire = []) : p.step events .delivers = p := by
  simp only [step, h]

/-- A delivery changes neither what has been sent nor what waits. -/
theorem delivers_same (events : Nat → α) (p : InputPath α) : (p.step events .delivers).sent = p.sent
    ∧ (p.step events .delivers).tasks = p.tasks
    ∧ (p.step events .delivers).produced = p.produced := by
  cases h : p.wire with
  | nil =>
    rw [step_delivers_nil h]
    exact ⟨rfl, rfl, rfl⟩
  | cons e rest =>
    rw [step_delivers h]
    refine ⟨?_, rfl, rfl⟩
    rw [sent, sent, h, List.append_assoc]
    rfl

/-- A task that runs sends its event. -/
theorem runs_sent {i : Nat} {e : α} (h : p.tasks[i]? = some e) :
    (p.step events (.runs i)).sent = p.sent ++ [e] := by
  rw [step_runs h, sent, sent, List.append_assoc]

/-! ## §3. In order. -/

/-- **Tasks in spawn order keep the events in order.** -/
theorem in_order_runFrom {schedule : List InputStep} (h : InSpawnOrder p.tasks.length schedule)
    (hp : p.sent ++ p.tasks = p.produced) :
    (runFrom events p schedule).sent ++ (runFrom events p schedule).tasks
      = (runFrom events p schedule).produced := by
  induction schedule generalizing p with
  | nil => exact hp
  | cons a l ih =>
    apply ih (p := p.step events a)
    · cases a with
      | sendInput =>
        show InSpawnOrder (p.tasks ++ [_]).length l
        rwa [List.length_append]
      | runs i =>
        unfold InSpawnOrder at h
        split at h
        next hi =>
          rw [step_runs (List.getElem?_eq_getElem hi)]
          show InSpawnOrder (p.tasks.eraseIdx i).length l
          rw [List.length_eraseIdx_of_lt hi]
          exact h.2
        next hi =>
          rw [step_runs_none (Nat.le_of_not_lt hi)]
          exact h
      | delivers =>
        rw [(delivers_same _ p).2.1]
        exact h
    · cases a with
      | sendInput =>
        show p.sent ++ (p.tasks ++ _) = p.produced ++ _
        rw [← List.append_assoc, hp]
      | runs i =>
        unfold InSpawnOrder at h
        split at h
        next hi =>
          obtain ⟨rfl, -⟩ := h
          obtain ⟨e, rest, htasks⟩ := List.exists_cons_of_length_pos hi
          have hfirst : p.tasks[0]? = some e := by rw [htasks]; rfl
          rw [runs_sent hfirst, step_runs hfirst, ← hp, htasks, List.append_assoc]
          rfl
        next hi =>
          rw [step_runs_none (Nat.le_of_not_lt hi)]
          exact hp
      | delivers =>
        obtain ⟨hsent, htasks, hproduced⟩ := delivers_same events p
        rw [hsent, htasks, hproduced]
        exact hp

/-! ## §4. Out of order. -/

/-- What has been sent stays sent. -/
theorem sent_runFrom (events : Nat → α) (p : InputPath α) (schedule : List InputStep) :
    p.sent <+: (runFrom events p schedule).sent := by
  induction schedule generalizing p with
  | nil => exact List.prefix_rfl
  | cons a l ih =>
    refine List.IsPrefix.trans ?_ (ih (p.step events a))
    cases a with
    | sendInput => exact List.prefix_rfl
    | runs i =>
      by_cases hi : i < p.tasks.length
      · rw [runs_sent (List.getElem?_eq_getElem hi)]
        exact List.prefix_append _ _
      · exact ⟨[], by rw [step_runs_none (Nat.le_of_not_lt hi), List.append_nil]⟩
    | delivers => exact ⟨[], by rw [(delivers_same _ p).1, List.append_nil]⟩

/-- Events that are their own numbers are made in order. -/
theorem produced_runFrom {p : InputPath Nat} {n : Nat} (hp : p.produced = List.range n)
    (schedule : List InputStep) :
    ∃ n', (runFrom (fun k => k) p schedule).produced = List.range n' := by
  induction schedule generalizing p n with
  | nil => exact ⟨n, hp⟩
  | cons a l ih =>
    cases a with
    | sendInput =>
      apply ih (p := p.step (fun k => k) .sendInput) (n := n + 1)
      show p.produced ++ [p.produced.length] = _
      rw [hp, List.length_range, List.range_succ]
    | runs i =>
      apply ih (p := p.step (fun k => k) (.runs i)) (n := n)
      by_cases hi : i < p.tasks.length
      · rw [step_runs (List.getElem?_eq_getElem hi)]
        exact hp
      · rw [step_runs_none (Nat.le_of_not_lt hi)]
        exact hp
    | delivers =>
      apply ih (p := p.step (fun k => k) .delivers) (n := n)
      rw [(delivers_same _ p).2.2]
      exact hp

/-- **If the numbers arrive in order, the tasks ran in spawn order.**  So far `m` events
have been sent, and `n` are waiting. -/
theorem spawn_order_of_sent {p : InputPath Nat} {m n : Nat} {schedule : List InputStep}
    (hsent : p.sent = List.range m) (htasks : p.tasks = List.range' m n)
    (hproduced : p.produced = List.range (m + n))
    (hend : (runFrom (fun k => k) p schedule).sent = (runFrom (fun k => k) p schedule).produced) :
    InSpawnOrder n schedule := by
  induction schedule generalizing p m n with
  | nil => trivial
  | cons a l ih =>
    cases a with
    | sendInput =>
      apply ih (p := p.step (fun k => k) .sendInput) hsent ?_ ?_ hend
      · show p.tasks ++ [p.produced.length] = _
        rw [htasks, hproduced, List.length_range, List.range'_concat, Nat.one_mul]
      · show p.produced ++ [p.produced.length] = _
        rw [hproduced, List.length_range, ← Nat.add_assoc, List.range_succ]
    | runs i =>
      unfold InSpawnOrder
      split
      next hi =>
        have hget : p.tasks[i]? = some (m + i) := by
          rw [htasks, List.getElem?_range' hi, Nat.one_mul]
        have hnow : (p.step (fun k => k) (.runs i)).sent = List.range m ++ [m + i] := by
          rw [runs_sent hget, hsent]
        -- what has been sent is the beginning of all numbers in order
        have hfirst : i = 0 := by
          obtain ⟨k, hk⟩ := produced_runFrom hproduced (.runs i :: l)
          have hprefix := sent_runFrom (fun k => k) (p.step (fun k => k) (.runs i)) l
          rw [hnow] at hprefix
          have hrange : List.range m ++ [m + i] <+: List.range k := by
            rw [← hk, ← hend]
            exact hprefix
          have hlen : m < (List.range m ++ [m + i]).length := by simp
          have hplace := hrange.getElem hlen
          simpa using hplace
        subst hfirst
        refine ⟨rfl, ?_⟩
        obtain ⟨n, rfl⟩ := Nat.exists_eq_succ_of_ne_zero (Nat.ne_of_gt hi)
        apply ih (p := p.step (fun k => k) (.runs 0)) (m := m + 1) ?_ ?_ ?_ hend
        · rw [hnow, Nat.add_zero, List.range_succ]
        · rw [step_runs hget, htasks]
          rfl
        · rw [step_runs hget, Nat.add_assoc, Nat.add_comm 1]
          exact hproduced
      next hi =>
        have hstep : p.step (fun k => k) (.runs i) = p := by
          apply step_runs_none
          rw [htasks, List.length_range']
          exact Nat.le_of_not_lt hi
        apply ih hsent htasks hproduced
        rw [← hstep]
        exact hend
    | delivers =>
      obtain ⟨hs, ht, hp⟩ := delivers_same (fun k => k) p
      exact ih (p := p.step (fun k => k) .delivers) (hs.trans hsent) (ht.trans htasks)
        (hp.trans hproduced) hend

/-! ## §5. Whatever the events are. -/

def map (f : α → β) (p : InputPath α) : InputPath β :=
  ⟨p.produced.map f, p.tasks.map f, p.wire.map f, p.handled.map f⟩

/-- A step does not look at the events. -/
theorem step_map (f : Nat → β) (p : InputPath Nat) (a : InputStep) :
    (p.map f).step f a = (p.step (fun k => k) a).map f := by
  cases a with
  | sendInput =>
    unfold step map
    simp
  | runs i =>
    by_cases hi : i < p.tasks.length
    · have hget : (p.map f).tasks[i]? = some (f p.tasks[i]) := by
        show (p.tasks.map f)[i]? = _
        rw [List.getElem?_map, List.getElem?_eq_getElem hi]
        rfl
      rw [step_runs hget, step_runs (List.getElem?_eq_getElem hi)]
      simp [map, List.eraseIdx_eq_take_drop_succ]
    · have hle : p.tasks.length ≤ i := Nat.le_of_not_lt hi
      rw [step_runs_none hle, step_runs_none]
      show (p.tasks.map f).length ≤ i
      rwa [List.length_map]
  | delivers =>
    cases hwire : p.wire with
    | nil =>
      rw [step_delivers_nil hwire, step_delivers_nil]
      show p.wire.map f = []
      rw [hwire, List.map_nil]
    | cons e rest =>
      have hmap : (p.map f).wire = f e :: rest.map f := congrArg (List.map f) hwire
      rw [step_delivers hmap, step_delivers hwire]
      simp [map]

/-- Nor does a schedule. -/
theorem run_map (f : Nat → β) (schedule : List InputStep) :
    run f schedule = (run (fun k => k) schedule).map f := by
  suffices h : ∀ p : InputPath Nat,
      runFrom f (p.map f) schedule = (runFrom (fun k => k) p schedule).map f from h start
  intro p
  induction schedule generalizing p with
  | nil => rfl
  | cons a l ih =>
    show runFrom f ((p.map f).step f a) l = _
    rw [step_map]
    exact ih _

/-- At every moment of such a schedule the tasks have run in spawn order. -/
theorem inSpawnOrder_append {n : Nat} {l l' : List InputStep} (h : InSpawnOrder n (l ++ l')) :
    InSpawnOrder n l := by
  induction l generalizing n with
  | nil => trivial
  | cons a l ih =>
    cases a with
    | sendInput => exact ih (n := n + 1) h
    | runs i =>
      rw [List.cons_append, InSpawnOrder] at h
      rw [InSpawnOrder]
      split at h
      next hi =>
        rw [if_pos hi]
        exact ⟨h.1, ih h.2⟩
      next hi =>
        rw [if_neg hi]
        exact ih h
    | delivers => exact ih (n := n) h

/-- **Input events arrive in the order they were made exactly if** the tasks send in
the order they were spawned.  Under such a schedule, what the host has handled at any
moment is the beginning of what the window has made; and once all tasks have run and
all messages have been handled, no other schedule keeps every sequence of events. -/
theorem input_in_order_iff (schedule : List InputStep) :
    (InSpawnOrder 0 schedule → ∀ (events : Nat → InputEvent) (l : List InputStep),
      l <+: schedule → (run events l).handled <+: (run events l).produced)
    ∧ (AtRest schedule → ((∀ events : Nat → InputEvent,
      (run events schedule).handled = (run events schedule).produced)
        ↔ InSpawnOrder 0 schedule)) := by
  have horder : ∀ (events : Nat → InputEvent) {l}, InSpawnOrder 0 l →
      (run events l).sent ++ (run events l).tasks = (run events l).produced :=
    fun events l hl => in_order_runFrom (p := start) hl rfl
  constructor
  · rintro h events l ⟨l', rfl⟩
    refine ⟨(run events l).wire ++ (run events l).tasks, ?_⟩
    rw [← horder events (inSpawnOrder_append h), sent, List.append_assoc]
  · rintro ⟨htasks, hwire⟩
    constructor
    · intro h
      -- moves that tell their own numbers
      have hnumbers := h fun k => .mouseMove k 0
      have hinj : Function.Injective fun k : Nat => InputEvent.mouseMove k 0 := by
        intro k k' heq
        exact Int.ofNat.inj (InputEvent.mouseMove.inj heq).1
      rw [run_map] at hnumbers
      have hhandled : (run (fun k => k) schedule).handled = (run (fun k => k) schedule).produced :=
        List.map_injective_iff.mpr hinj hnumbers
      apply spawn_order_of_sent (p := start) (m := 0) (n := 0) rfl rfl rfl
      show (run (fun k => k) schedule).handled ++ (run (fun k => k) schedule).wire = _
      rw [hwire, List.append_nil]
      exact hhandled
    · intro h events
      have hall := horder events h
      have htasks' : (run events schedule).tasks = [] := by
        rw [run_map]
        show ((run (fun k => k) schedule).tasks).map events = []
        rw [htasks, List.map_nil]
      have hwire' : (run events schedule).wire = [] := by
        rw [run_map]
        show ((run (fun k => k) schedule).wire).map events = []
        rw [hwire, List.map_nil]
      rwa [sent, htasks', hwire', List.append_nil, List.append_nil] at hall

/-- A press and a release of the mouse button. -/
def click (k : Nat) : InputEvent := .mouseButton .left (k == 0)

/-- The task of the release runs first. -/
theorem release_before_press : ¬ ∀ (events : Nat → InputEvent) (schedule : List InputStep),
    (run events schedule).tasks = [] → (run events schedule).wire = [] →
    (run events schedule).handled = (run events schedule).produced := by
  intro h
  have horder := h click [.sendInput, .sendInput, .runs 1, .runs 0, .delivers, .delivers] rfl rfl
  have hhandled : (run click [.sendInput, .sendInput, .runs 1, .runs 0, .delivers, .delivers]).handled
      = [.mouseButton .left false, .mouseButton .left true] := by decide
  have hproduced : (run click [.sendInput, .sendInput, .runs 1, .runs 0, .delivers, .delivers]).produced
      = [.mouseButton .left true, .mouseButton .left false] := by decide
  rw [hhandled, hproduced] at horder
  exact absurd horder (by decide)

end InputPath

end Visuara.Client
