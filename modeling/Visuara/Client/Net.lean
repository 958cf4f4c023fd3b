/-
  Visuara.Client.Net
  ──────────────────
  **THE SERVER AND ALL ITS CLIENTS.**

  At the far end of every connection runs a host, a controller, or some other
  program.  What a client sends the server takes up in this order, one turn at
  a time; what is on a client's queue the client receives in this order.
  Everything else is free: which of them moves next, how far each gets, and
  when a connection is lost.

    • `Net.Reachable.server` — the server's part of a run is a run of the server;
    • `taken_in_order`       — the turns of a connection are what its client sent;
    • `Net.Reachable.client` — an invariant of one client, from its own moves.
-/
import Visuara.Client.Controller
import Visuara.Client.Serving
import Visuara.Sequence.Preceded
import Visuara.Signaling.Delivery

namespace Visuara.Client

open Interleave Sequence Signaling

/-! ## §1. Clients. -/

/-- What runs at the far end of a connection. -/
inductive Role where
  /-- `register_and_serve`. -/
  | host (email password name : String)
  /-- `connect`. -/
  | controller (email password : String) (target : DeviceId) (credential : ConnectCredential)
  /-- Anything else. -/
  | other
  deriving DecidableEq, Repr

/-- A client while it runs. -/
inductive Program where
  | host (email password name : String) (phase : HostPhase)
  | controller (email password : String) (target : DeviceId) (credential : ConnectCredential)
      (phase : ControllerPhase)
  | other
  deriving DecidableEq, Repr

def Role.start : Role → Program × List Output
  | .host email password name =>
    let turn := Host.start email password
    (.host email password name turn.1, turn.2)
  | .controller email password target credential =>
    let turn := Controller.start email password
    (.controller email password target credential turn.1, turn.2)
  | .other => (.other, [])

namespace Program

def role : Program → Role
  | .host email password name _ => .host email password name
  | .controller email password target credential _ => .controller email password target credential
  | .other => .other

/-- The program has stopped reading. -/
def isEnded : Program → Bool
  | .host _ _ _ (.ended _) | .controller _ _ _ _ (.ended _) => true
  | _ => false

def receive (rtc : Webrtc) : Program → ServerMessage → Program × List Output
  | .host email password name phase, msg =>
    let turn := Host.receive email password name rtc phase msg
    (.host email password name turn.1, turn.2)
  | .controller email password target credential phase, msg =>
    let turn := Controller.receive email password target credential rtc phase msg
    (.controller email password target credential turn.1, turn.2)
  | .other, _ => (.other, [])

/-- What it does with a candidate it has gathered. -/
def gathered (candidate : String) : Program → Option (Program × List Output)
  | .host email password name phase =>
    (Host.gathered candidate phase).map fun turn => (.host email password name turn.1, turn.2)
  | .controller email password target credential phase =>
    (Controller.gathered candidate phase).map fun turn =>
      (.controller email password target credential turn.1, turn.2)
  | .other => none

/-- It ends between two messages: its WebSocket is closed, or something else fails. -/
def closed : Program → Program
  | .host email password name _ => .host email password name (.ended .closed)
  | .controller email password target credential _ =>
    .controller email password target credential (.ended .closed)
  | .other => .other

end Program

def Output.message? : Output → Option ClientMessage
  | .send m => some m
  | _ => none

/-- The messages among the outputs. -/
def messages (outputs : List Output) : List ClientMessage := outputs.filterMap Output.message?

/-- A client, with everything it has done so far. -/
structure Party where
  program : Program
  outputs : List Output
  /-- How many of its messages the server has taken up. -/
  taken : Nat
  /-- How many of the messages on its queue it has received. -/
  received : Nat

def Party.sent (k : Party) : List ClientMessage := messages k.outputs

/-- A turn of the client. -/
def Party.turn (k : Party) (turn : Program × List Output) : Party :=
  { k with program := turn.1, outputs := k.outputs ++ turn.2 }

/-- What a client with this queue may do next. -/
inductive Party.Acts (queue : List ServerMessage) (k : Party) : Party → Prop where
  /-- It receives its next message. -/
  | receives {msg : ServerMessage} (rtc : Webrtc) (hnext : queue[k.received]? = some msg)
      (hopen : k.program.isEnded = false) :
      Acts queue k { k.turn (k.program.receive rtc msg) with received := k.received + 1 }
  /-- It has gathered a candidate. -/
  | gathers (candidate : String) {turn : Program × List Output}
      (hturn : k.program.gathered candidate = some turn) : Acts queue k (k.turn turn)
  /-- Another program sends something. -/
  | sends (m : ClientMessage) (hother : k.program = .other) :
      Acts queue k (k.turn (.other, [.send m]))
  | closes : Acts queue k (k.turn (k.program.closed, []))

/-! ## §2. The net. -/

structure Net where
  world : ServerWorld
  client : ConnectionId → Party

namespace Net

def initial (s₀ : Server) (roles : ConnectionId → Role) : Net where
  world := World.initial s₀
  client := fun c => ⟨(roles c).start.1, (roles c).start.2, 0, 0⟩

def setClient (n : Net) (c : ConnectionId) (k : Party) : Net :=
  { n with client := Function.update n.client c k }

def queue (n : Net) (c : ConnectionId) : List ServerMessage := (n.world.st.channel c).queue

/-- What the client has received, oldest first. -/
def inbox (n : Net) (c : ConnectionId) : List ServerMessage :=
  (n.queue c).take (n.client c).received

/-- Tasks that are not started by a message of a client. -/
def startsItself (n : Net) : Task → Bool
  | .message _ _ => false
  | .malformed c _ => (n.client c).program = .other
  | _ => true

variable [Crates]

inductive Step : Net → Net → Prop where
  /-- The server takes up the next message of `c`. -/
  | takes {n : Net} {w : ServerWorld} {c : ConnectionId} {m : ClientMessage}
      (hs : server.Step freshIds n.world w)
      (hlog : w.log = .start n.world.next (.message c m) :: n.world.log)
      (hnext : (n.client c).sent[(n.client c).taken]? = some m) :
      Step n (setClient ⟨w, n.client⟩ c { n.client c with taken := (n.client c).taken + 1 })
  /-- The server does something else. -/
  | serves {n : Net} {w : ServerWorld} (hs : server.Step freshIds n.world w)
      (hlog : ∀ j t, w.log = .start j t :: n.world.log → n.startsItself t = true) :
      Step n ⟨w, n.client⟩
  /-- A client does something. -/
  | acts {n : Net} {c : ConnectionId} {k : Party} (hacts : (n.client c).Acts (n.queue c) k) :
      Step n (n.setClient c k)

/-- Runs of the net. -/
abbrev Reachable (n n' : Net) : Prop := Relation.ReflTransGen Step n n'

/-! ## §3. What every run keeps. -/

section

variable {n n' : Net} {c : ConnectionId} {k : Party}

omit [Crates] in
@[simp] theorem setClient_self : (n.setClient c k).client c = k := Function.update_self _ _ _

omit [Crates] in
theorem setClient_ne {c' : ConnectionId} (h : c' ≠ c) :
    (n.setClient c k).client c' = n.client c' := Function.update_of_ne h _ _

omit [Crates] in
@[simp] theorem setClient_world : (n.setClient c k).world = n.world := rfl

omit [Crates] in
@[simp] theorem setClient_queue (c' : ConnectionId) : (n.setClient c k).queue c' = n.queue c' := rfl

theorem Step.server (h : Step n n') :
    n'.world = n.world ∨ server.Step freshIds n.world n'.world := by
  cases h with
  | takes hs _ _ => exact .inr hs
  | serves hs _ => exact .inr hs
  | _ => exact .inl rfl

/-- The server's part of a run is a run of the server. -/
theorem Reachable.server (h : Reachable n n') : server.Reachable freshIds n.world n'.world := by
  induction h with
  | refl => exact .refl
  | tail _ hs ih =>
    rcases hs.server with hsame | hstep
    · rwa [hsame]
    · exact ih.tail hstep

variable {db : Db} {config : Config} {files : Files} {roles : ConnectionId → Role}

theorem Reachable.run (h : Reachable (initial (Server.start db config files) roles) n) :
    Run freshIds (Server.start db config files) n.world := h.server

theorem queue_eq (h : Reachable (initial (Server.start db config files) roles) n)
    (c : ConnectionId) : n.queue c = enqueued c n.world.log :=
  Signaling.queue_eq h.run c

/-- Queues only grow. -/
theorem Reachable.queue_prefix (h : Reachable (initial (Server.start db config files) roles) n)
    (hn : Reachable n n') (c : ConnectionId) : n.queue c <+: n'.queue c := by
  obtain ⟨l, hl⟩ := System.Reachable.log_suffix hn.server
  rw [queue_eq h, queue_eq (h.trans hn), hl, enqueued, enqueued, List.filterMap_append,
    List.reverse_append]
  exact List.prefix_append _ _

omit [Crates] in
/-- A client that has received nothing new still has the same inbox. -/
theorem inbox_of_prefix (hle : (n.client c).received ≤ (n.queue c).length)
    (hqueue : n.queue c <+: n'.queue c)
    (hreceived : (n'.client c).received = (n.client c).received) : n'.inbox c = n.inbox c := by
  obtain ⟨l, hl⟩ := hqueue
  rw [inbox, inbox, ← hl, hreceived, List.take_append_of_le_length hle]

theorem received_le (h : Reachable (initial (Server.start db config files) roles) n)
    (c : ConnectionId) : (n.client c).received ≤ (n.queue c).length := by
  induction h with
  | refl => exact Nat.zero_le _
  | @tail n n' hr hs ih =>
    have hle : (n.client c).received ≤ (n'.queue c).length :=
      Nat.le_trans ih (Reachable.queue_prefix hr (.single hs) c).length_le
    cases hs with
    | @takes w c' m _ _ _ =>
      by_cases hc : c = c'
      · subst hc
        rwa [setClient_self]
      · rwa [setClient_ne hc]
    | serves => exact hle
    | @acts c' k hacts =>
      by_cases hc : c = c'
      · subst hc
        rw [setClient_self]
        cases hacts with
        | receives rtc hnext _ =>
          exact Nat.succ_le_of_lt (List.getElem?_eq_some_iff.mp hnext).1
        | _ => exact hle
      · rwa [setClient_ne hc]

/-- What a step is for one client. -/
inductive Moves (n n' : Net) (c : ConnectionId) : Prop where
  | stays (hprogram : (n'.client c).program = (n.client c).program)
      (houtputs : (n'.client c).outputs = (n.client c).outputs) (hinbox : n'.inbox c = n.inbox c)
  | receives (rtc : Webrtc) (msg : ServerMessage)
      (hnext : (n.queue c)[(n.client c).received]? = some msg)
      (hopen : (n.client c).program.isEnded = false)
      (hprogram : (n'.client c).program = ((n.client c).program.receive rtc msg).1)
      (houtputs : (n'.client c).outputs
        = (n.client c).outputs ++ ((n.client c).program.receive rtc msg).2)
      (hinbox : n'.inbox c = n.inbox c ++ [msg])
  | gathers (candidate : String) (turn : Program × List Output)
      (hturn : (n.client c).program.gathered candidate = some turn)
      (hprogram : (n'.client c).program = turn.1)
      (houtputs : (n'.client c).outputs = (n.client c).outputs ++ turn.2)
      (hinbox : n'.inbox c = n.inbox c)
  | sends (m : ClientMessage) (hother : (n.client c).program = .other)
      (hprogram : (n'.client c).program = .other)
      (houtputs : (n'.client c).outputs = (n.client c).outputs ++ [.send m])
      (hinbox : n'.inbox c = n.inbox c)
  | closes (hprogram : (n'.client c).program = (n.client c).program.closed)
      (houtputs : (n'.client c).outputs = (n.client c).outputs) (hinbox : n'.inbox c = n.inbox c)

/-- Every step is one of these for every client. -/
theorem Step.moves (h : Reachable (initial (Server.start db config files) roles) n)
    (hs : Step n n') (c : ConnectionId) : Moves n n' c := by
  have hsame : (n'.client c).received = (n.client c).received → n'.inbox c = n.inbox c :=
    inbox_of_prefix (received_le h c) (Reachable.queue_prefix h (.single hs) c)
  have hstays : n'.client c = n.client c → Moves n n' c :=
    fun heq => .stays (by rw [heq]) (by rw [heq]) (hsame (by rw [heq]))
  cases hs with
  | @takes w c' m _ _ _ =>
    by_cases hc : c = c'
    · subst hc
      exact .stays (by rw [setClient_self]) (by rw [setClient_self]) (hsame (by rw [setClient_self]))
    · exact hstays (setClient_ne hc)
  | serves => exact hstays rfl
  | @acts c' k hacts =>
    by_cases hc : c = c'
    · subst hc
      have hself : (n.setClient c k).client c = k := setClient_self
      cases hacts with
      | receives rtc hnext hopen =>
        refine .receives rtc _ hnext hopen (by rw [hself]; rfl) (by rw [hself]; rfl) ?_
        rw [inbox, hself]
        exact take_of_getElem? hnext
      | gathers candidate hturn =>
        exact .gathers candidate _ hturn (by rw [hself]; rfl) (by rw [hself]; rfl)
          (hsame (by rw [hself]; rfl))
      | sends m hother =>
        exact .sends m hother (by rw [hself]; rfl) (by rw [hself]; rfl) (hsame (by rw [hself]; rfl))
      | closes =>
        refine .closes (by rw [hself]; rfl) ?_ (hsame (by rw [hself]; rfl))
        rw [hself]
        exact List.append_nil _
    · exact hstays (setClient_ne hc)

/-- **An invariant of one client**: what every turn of a program keeps, given what
it has done and received before. -/
theorem Reachable.client (J : Program → List Output → List ServerMessage → Prop)
    (hstart : ∀ r : Role, J r.start.1 r.start.2 [])
    (hreceive : ∀ p outputs inbox rtc msg, p.isEnded = false → J p outputs inbox →
      J (p.receive rtc msg).1 (outputs ++ (p.receive rtc msg).2) (inbox ++ [msg]))
    (hgather : ∀ p outputs inbox candidate turn, p.gathered candidate = some turn →
      J p outputs inbox → J turn.1 (outputs ++ turn.2) inbox)
    (hsend : ∀ outputs inbox m, J .other outputs inbox → J .other (outputs ++ [.send m]) inbox)
    (hclose : ∀ p outputs inbox, J p outputs inbox → J p.closed outputs inbox)
    (h : Reachable (initial (Server.start db config files) roles) n) (c : ConnectionId) :
    J (n.client c).program (n.client c).outputs (n.inbox c) := by
  induction h with
  | refl => exact hstart (roles c)
  | tail hr hs ih =>
    obtain ⟨hp, ho, hi⟩ | ⟨rtc, msg, -, hopen, hp, ho, hi⟩ | ⟨candidate, turn, hturn, hp, ho, hi⟩
      | ⟨m, hother, hp, ho, hi⟩ | ⟨hp, ho, hi⟩ := hs.moves hr c
    all_goals rw [hp, ho, hi]
    · exact ih
    · exact hreceive _ _ _ rtc msg hopen ih
    · exact hgather _ _ _ candidate turn hturn ih
    · exact hsend _ _ m (hother ▸ ih)
    · exact hclose _ _ _ ih

/-- A client keeps its role. -/
theorem role_kept (h : Reachable (initial (Server.start db config files) roles) n)
    (c : ConnectionId) : (n.client c).program.role = roles c := by
  induction h with
  | refl =>
    show (roles c).start.1.role = roles c
    cases roles c <;> rfl
  | tail hr hs ih =>
    rw [← ih]
    obtain ⟨hp, -, -⟩ | ⟨rtc, msg, -, -, hp, -, -⟩ | ⟨candidate, turn, hturn, hp, -, -⟩
      | ⟨m, hother, hp, -, -⟩ | ⟨hp, -, -⟩ := hs.moves hr c
    all_goals rw [hp]
    · cases (Net.client _ c).program <;> rfl
    · cases hprogram : (Net.client _ c).program with
      | host | controller =>
        rw [hprogram] at hturn
        obtain ⟨turn', -, rfl⟩ := Option.map_eq_some_iff.mp hturn
        rfl
      | other =>
        rw [hprogram] at hturn
        exact absurd hturn.symm (Option.some_ne_none turn)
    · rw [hother]
    · cases (Net.client _ c).program <;> rfl

/-- What a client has sent stays sent. -/
theorem Step.sent (hs : Step n n') (c : ConnectionId) :
    ∃ l, (n'.client c).sent = (n.client c).sent ++ l := by
  cases hs with
  | @takes w c' m _ _ _ =>
    refine ⟨[], ?_⟩
    by_cases hc : c = c'
    · subst hc
      rw [setClient_self, List.append_nil]
      rfl
    · rw [setClient_ne hc, List.append_nil]
  | serves => exact ⟨[], (List.append_nil _).symm⟩
  | @acts c' k hacts =>
    by_cases hc : c = c'
    · subst hc
      rw [setClient_self]
      have hturn : ∀ turn, ((n.client c).turn turn).sent = (n.client c).sent ++ messages turn.2 :=
        fun turn => List.filterMap_append
      cases hacts <;> exact ⟨_, hturn _⟩
    · exact ⟨[], by rw [setClient_ne hc, List.append_nil]⟩

/-- **The server takes up what a client sends, in this order.** -/
theorem taken_in_order (h : Reachable (initial (Server.start db config files) roles) n)
    (c : ConnectionId) : (n.client c).taken ≤ (n.client c).sent.length
      ∧ (turns c n.world.log).map Prod.snd = (n.client c).sent.take (n.client c).taken := by
  induction h with
  | refl => exact ⟨Nat.zero_le _, rfl⟩
  | @tail n n' hr hs ih =>
    obtain ⟨hle, hturns⟩ := ih
    -- a step that takes nothing up from `c`
    have hkept : (n'.client c).taken = (n.client c).taken →
        turns c n'.world.log = turns c n.world.log →
        (n'.client c).taken ≤ (n'.client c).sent.length
          ∧ (turns c n'.world.log).map Prod.snd = (n'.client c).sent.take (n'.client c).taken := by
      intro htaken hlog
      obtain ⟨l, hl⟩ := hs.sent c
      rw [htaken, hlog, hl, List.take_append_of_le_length hle]
      exact ⟨Nat.le_trans hle (List.prefix_append _ _).length_le, hturns⟩
    cases hs with
    | @takes w c' m hstep hlog hnext =>
      by_cases hc : c = c'
      · subst hc
        have hturn? : turn? c (.start n.world.next (.message c m)) = some (n.world.next, m) :=
          if_pos rfl
        have hturn : turns c w.log = turns c n.world.log ++ [(n.world.next, m)] := by
          rw [hlog]
          exact turns_cons_some hturn? _
        rw [setClient_self]
        refine ⟨Nat.succ_le_of_lt (List.getElem?_eq_some_iff.mp hnext).1, ?_⟩
        show (turns c w.log).map Prod.snd = (n.client c).sent.take ((n.client c).taken + 1)
        rw [hturn, List.map_append, hturns, take_of_getElem? hnext]
        rfl
      · refine hkept (by rw [setClient_ne hc]) ?_
        have hturn? : turn? c (.start n.world.next (.message c' m)) = none := if_neg (Ne.symm hc)
        show turns c w.log = _
        rw [hlog]
        exact turns_cons_none hturn? _
    | @serves w hstep hlog =>
      refine hkept rfl ?_
      obtain ⟨e, he⟩ := hstep.log_eq
      show turns c w.log = _
      rw [he]
      apply turns_cons_none
      cases hturn : turn? c e with
      | none => rfl
      | some x =>
        obtain rfl := turn?_eq_some.mp hturn
        exact absurd (hlog _ _ he) Bool.false_ne_true
    | @acts c' k hacts =>
      refine hkept ?_ rfl
      by_cases hc : c = c'
      · subst hc
        rw [setClient_self]
        cases hacts <;> rfl
      · rw [setClient_ne hc]

/-- **Every turn has its moment**: the server took the message up when its client
had sent it, and no other turn of the client was under way. -/
theorem taken_moment (h : Reachable (initial (Server.start db config files) roles) n) {j : Nat}
    {c : ConnectionId} {m : ClientMessage} (he : Event.start j (.message c m) ∈ n.world.log) :
    ∃ n₁, Reachable (initial (Server.start db config files) roles) n₁ ∧ Reachable n₁ n
      ∧ n₁.world.next = j ∧ (n₁.client c).sent[(n₁.client c).taken]? = some m
      ∧ (n₁.world.st.socket c).phase = .live
      ∧ server.Free (.message c m) n₁.world := by
  induction h with
  | refl => exact absurd he List.not_mem_nil
  | @tail n n' hr hs ih =>
    have hstep := hs
    by_cases hbefore : Event.start j (.message c m) ∈ n.world.log
    · obtain ⟨n₁, h₁, hn, hrest⟩ := ih hbefore
      exact ⟨n₁, h₁, hn.tail hs, hrest⟩
    cases hs with
    | @takes w c' m' hserver hlog hnext =>
      have heq := (List.mem_cons.mp (hlog ▸ he)).resolve_right hbefore
      obtain ⟨rfl, htask⟩ := Event.start.inj heq
      obtain ⟨rfl, rfl⟩ := Task.message.inj htask
      refine ⟨n, hr, .single hstep, rfl, hnext, ?_⟩
      cases hserver with
      | start t hadm hfree =>
        obtain ⟨-, rfl⟩ := Event.start.inj (List.cons.inj hlog).1
        exact ⟨of_decide_eq_true hadm, hfree⟩
      | call d _ _ => exact absurd (List.cons.inj hlog).1 (by simp)
      | env e => exact absurd (List.cons.inj hlog).1 (by simp)
    | @serves w hserver hlog =>
      obtain ⟨e, hcons⟩ := hserver.log_eq
      have heq := (List.mem_cons.mp (hcons ▸ he)).resolve_right hbefore
      have hitself : n.startsItself (.message c m) = true := hlog j _ (heq ▸ hcons)
      exact absurd hitself Bool.false_ne_true
    | acts => exact absurd he hbefore

end

/-! ## §4. Schedules. -/

/-- Runs of the net whose steps are all of this kind. -/
abbrev ReachableWhen (P : Net → Net → Prop) (n n' : Net) : Prop :=
  Relation.ReflTransGen (fun n n' => Step n n' ∧ P n n') n n'

theorem ReachableWhen.reachable {P : Net → Net → Prop} {n n' : Net} (h : ReachableWhen P n n') :
    Reachable n n' :=
  Relation.ReflTransGen.mono (fun _ _ hs => hs.1) _ _ h

/-- What happens next in the net. -/
inductive Move where
  | takes (c : ConnectionId)
  | serves (m : ServerMove)
  | receives (c : ConnectionId) (rtc : Webrtc)
  | gathers (c : ConnectionId) (candidate : String)

/-- Carry out one move, if it is possible. -/
def play : Move → Net → Option Net
  | .takes c, n => do
    let m ← (n.client c).sent[(n.client c).taken]?
    let w ← server.play freshIds (.start (.message c m)) n.world
    pure (setClient ⟨w, n.client⟩ c { n.client c with taken := (n.client c).taken + 1 })
  | .serves m, n =>
    match m with
    | .start t =>
      if n.startsItself t then
        (server.play freshIds (.start t) n.world).map fun w => ⟨w, n.client⟩
      else none
    | m => (server.play freshIds m n.world).map fun w => ⟨w, n.client⟩
  | .receives c rtc, n =>
    match (n.queue c)[(n.client c).received]?, (n.client c).program.isEnded with
    | some msg, false => some (n.setClient c { (n.client c).turn
        ((n.client c).program.receive rtc msg) with received := (n.client c).received + 1 })
    | _, _ => none
  | .gathers c candidate, n =>
    ((n.client c).program.gathered candidate).map fun turn =>
      n.setClient c ((n.client c).turn turn)

/-- Carry out a schedule, and check every step. -/
def playAll (check : Net → Net → Bool) : List Move → Net → Option Net
  | [], n => some n
  | m :: ms, n => (play m n).bind fun n' => if check n n' then playAll check ms n' else none

theorem play_step {n n' : Net} {m : Move} (hn : System.Numbered n.world) (h : play m n = some n') :
    Step n n' := by
  cases m with
  | takes c =>
    obtain ⟨m, hnext, h⟩ := Option.bind_eq_some_iff.mp h
    obtain ⟨w, hplay, h⟩ := Option.bind_eq_some_iff.mp h
    obtain rfl := Option.some.inj h
    exact .takes (System.play_step hn hplay) (System.play_start_log hplay) hnext
  | serves m =>
    cases m with
    | start t =>
      simp only [play] at h
      split at h
      next hitself =>
        obtain ⟨w, hplay, rfl⟩ := Option.map_eq_some_iff.mp h
        refine .serves (System.play_step hn hplay) (System.play_starts (fun t' ht => ?_) hplay)
        obtain rfl := System.Move.start.inj ht
        exact hitself
      next => exact absurd h (by simp)
    | step j d | env e =>
      simp only [play, Option.map_eq_some_iff] at h
      obtain ⟨w, hplay, rfl⟩ := h
      exact .serves (System.play_step hn hplay)
        (System.play_starts (fun t ht => absurd ht (by simp)) hplay)
  | receives c rtc =>
    simp only [play] at h
    split at h
    next msg hnext hopen =>
      obtain rfl := Option.some.inj h
      exact .acts (.receives rtc hnext hopen)
    next => exact absurd h (by simp)
  | gathers c candidate =>
    obtain ⟨turn, hturn, rfl⟩ := Option.map_eq_some_iff.mp h
    exact .acts (.gathers candidate hturn)

/-- **Moves that play through are a run of the net**, with steps as checked. -/
theorem playAll_reachable {s₀ : Server} {check : Net → Net → Bool} {P : Net → Net → Prop}
    (hP : ∀ n n', check n n' = true → P n n') :
    ∀ {ms : List Move} {n n' : Net}, Run freshIds s₀ n.world → playAll check ms n = some n' →
      ReachableWhen P n n'
  | [], n, n', _, h => by
    obtain rfl := Option.some.inj h
    exact .refl
  | m :: ms, n, n', hn, h => by
    obtain ⟨n₁, hplay, hrest⟩ := Option.bind_eq_some_iff.mp h
    split at hrest
    next hcheck =>
      have hstep : Step n n₁ := play_step hn.numbered hplay
      have h₁ : Run freshIds s₀ n₁.world :=
        hn.trans (Reachable.server (Relation.ReflTransGen.single hstep))
      exact (playAll_reachable hP h₁ hrest).head ⟨hstep, hP n n₁ hcheck⟩
    next => exact absurd hrest (by simp)

end Net

end Visuara.Client
