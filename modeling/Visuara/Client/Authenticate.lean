/-
  Visuara.Client.Authenticate
  ───────────────────────────
  **`SignalingClient::authenticate` AGAINST THE SERVER.**

  The call registers, and logs in when that is refused.  Around it the server
  does what it likes: other connections, HTTP requests, a restart.  What the call
  sends the server takes up in this order; the replies come in the order of the
  queue; and between two messages the connection may be lost.

    • `Attempt.Step`        — one step of the call, or of the server;
    • `Kept`                — what every moment of a call is like;
    • `authenticate_sound`  — what `Ok` means, what `Err` means, and what is left
      behind.
-/
import Visuara.Client.SignalingClient
import Visuara.Sequence.Preceded
import Visuara.Signaling.Delivery
import Visuara.Signaling.Standing

namespace Visuara.Client

open Interleave Sequence Signaling

/-! ## §1. The call. -/

/-- `authenticate` is done with an `AuthOk`. -/
theorem authenticate_done {email password : String} {step : AuthStep} {msg : ServerMessage}
    (h : authenticate email password step msg = .ok none) : ∃ token, msg = .authOk token := by
  unfold authenticate at h
  split at h
  next token => exact ⟨token, rfl⟩
  next => exact absurd h (by simp)
  next => exact absurd h (by simp)
  next token => exact ⟨token, rfl⟩
  next => exact absurd h (by simp)

/-- It goes on once, with a `Login`. -/
theorem authenticate_continues {email password : String} {step step' : AuthStep}
    {msg : ServerMessage} {m : ClientMessage}
    (h : authenticate email password step msg = .ok (some (step', m))) :
    step = .register ∧ step' = .login ∧ m = .login email password := by
  unfold authenticate at h
  split at h
  next => exact absurd h (by simp)
  next =>
    obtain ⟨rfl, rfl⟩ := Prod.mk.inj (Option.some.inj (Except.ok.inj h))
    exact ⟨rfl, rfl, rfl⟩
  next => exact absurd h (by simp)
  next => exact absurd h (by simp)
  next => exact absurd h (by simp)

/-- Where a call of `authenticate` is. -/
inductive AuthCall where
  /-- It waits for the answer to its message. -/
  | waiting (step : AuthStep)
  | returned (r : Except ClientError Unit)
  deriving DecidableEq

/-- The server, and a call of `authenticate` on one of its connections. -/
structure Attempt where
  world : ServerWorld
  call : AuthCall
  /-- What it has sent, oldest first. -/
  sent : List ClientMessage
  /-- How many of these the server has taken up. -/
  taken : Nat
  /-- How many messages it has received. -/
  received : Nat

namespace Attempt

/-- The call up to its first `recv`. -/
def start (email password : String) (w : ServerWorld) : Attempt :=
  ⟨w, .waiting .register, [.register email password], 0, 0⟩

/-- The call goes on with the message it has received. -/
def receive (email password : String) (step : AuthStep) (msg : ServerMessage) (a : Attempt) :
    Attempt :=
  match authenticate email password step msg with
  | .ok none => { a with call := .returned (.ok ()), received := a.received + 1 }
  | .ok (some (step', m)) =>
    { a with call := .waiting step', sent := a.sent ++ [m], received := a.received + 1 }
  | .error e => { a with call := .returned (.error e), received := a.received + 1 }

/-- The messages for the connection, oldest first. -/
def queue (a : Attempt) (x : ConnectionId) : List ServerMessage := (a.world.st.channel x).queue

/-- Tasks that are not started by what `x` sends. -/
def startsItself (x : ConnectionId) : Task → Bool
  | .message c _ | .malformed c _ => c ≠ x
  | _ => true

section

variable [Crates] (x : ConnectionId) (email password : String)

inductive Step : Attempt → Attempt → Prop where
  /-- The server takes up the next message of the call. -/
  | takes {a : Attempt} {w : ServerWorld} {m : ClientMessage}
      (hs : server.Step noDbFault a.world w)
      (hlog : w.log = .start a.world.next (.message x m) :: a.world.log)
      (hnext : a.sent[a.taken]? = some m) :
      Step a { a with world := w, taken := a.taken + 1 }
  /-- The server does something else. -/
  | serves {a : Attempt} {w : ServerWorld} (hs : server.Step noDbFault a.world w)
      (hlog : ∀ j t, w.log = .start j t :: a.world.log → startsItself x t = true) :
      Step a { a with world := w }
  /-- The call receives its next message. -/
  | receives {a : Attempt} {step : AuthStep} {msg : ServerMessage} (hcall : a.call = .waiting step)
      (hnext : (a.queue x)[a.received]? = some msg) : Step a (a.receive email password step msg)
  /-- `send` or `recv` fails. -/
  | fails {a : Attempt} {step : AuthStep} (hcall : a.call = .waiting step) :
      Step a { a with call := .returned (.error .closed) }

/-- The runs of a call. -/
abbrev Reachable (a a' : Attempt) : Prop := Relation.ReflTransGen (Step x email password) a a'

end

/-- Nothing is left to be done for the call, and its connection is open. -/
structure Settled (x : ConnectionId) (a : Attempt) : Prop where
  alive : (a.world.st.channel x).alive = true
  taken : a.sent.length ≤ a.taken
  finished : ∀ j t p, a.world.jobs j = some (t, p) → t.connection = some x → p.done = true
  received : (a.queue x).length ≤ a.received

/-! ## §2. Every moment of a call. -/

section

variable [Crates] {x : ConnectionId} {email password : String} {s₀ : Server} {w₀ : ServerWorld}
  {a a' : Attempt}

theorem Step.server (h : Step x email password a a') :
    a'.world = a.world ∨ server.Step noDbFault a.world a'.world := by
  cases h with
  | takes hs _ _ => exact .inr hs
  | serves hs _ => exact .inr hs
  | receives =>
    left
    unfold receive
    split <;> rfl
  | fails => exact .inl rfl

/-- The server's part of a call is a run of the server. -/
theorem Reachable.server (h : Reachable x email password a a') :
    server.Reachable noDbFault a.world a'.world := by
  induction h with
  | refl => exact .refl
  | tail _ hs ih =>
    obtain hsame | hstep := hs.server
    · rwa [hsame]
    · exact ih.tail hstep

/-- What has been sent when the call is there. -/
def Script (email password : String) : AuthCall → List ClientMessage → Nat → Prop
  | .waiting .register, sent, received => sent = [.register email password] ∧ received = 0
  | .waiting .login, sent, received =>
    sent = [.register email password, .login email password] ∧ received = 1
  | .returned _, sent, _ =>
    sent = [.register email password] ∨ sent = [.register email password, .login email password]

omit [Crates] in
theorem Script.sent {call : AuthCall} {sent : List ClientMessage} {received : Nat}
    (h : Script email password call sent received) : sent = [.register email password]
      ∨ sent = [.register email password, .login email password] := by
  cases call with
  | waiting step =>
    cases step with
    | register => exact .inl h.1
    | login => exact .inr h.1
  | returned r => exact h

omit [Crates] in
/-- A connection that is not there yet has sent nothing. -/
theorem turns_fresh {A : Assumption Op Op.Res Draw Task Env} [Crates] (h₀ : Run A s₀ w₀)
    (hfresh : (w₀.st.socket x).phase = .fresh) : Signaling.turns x w₀.log = [] := by
  refine List.eq_nil_iff_forall_not_mem.mpr fun turn hin => ?_
  exact (retained h₀ x).fresh hfresh _ _ rfl (mem_turns.mp hin)

omit [Crates] in
/-- When the server takes up the next message, the turns are one longer. -/
theorem turns_takes {l : List ServerEvent} {sent : List ClientMessage} {taken j : Nat}
    {m : ClientMessage} (hturns : (Signaling.turns x l).map Prod.snd = sent.take taken)
    (hnext : sent[taken]? = some m) :
    (Signaling.turns x (.start j (.message x m) :: l)).map Prod.snd = sent.take (taken + 1) := by
  have hturn? : turn? x (.start j (.message x m)) = some (j, m) := if_pos rfl
  rw [turns_cons_some hturn?, List.map_append, hturns, take_of_getElem? hnext]
  rfl

/-- Anything else the server does is no turn of the connection. -/
theorem turns_serves {A : Assumption Op Op.Res Draw Task Env} {w w' : ServerWorld}
    (hs : server.Step A w w')
    (hlog : ∀ j t, w'.log = .start j t :: w.log → startsItself x t = true) :
    Signaling.turns x w'.log = Signaling.turns x w.log := by
  obtain ⟨e, he⟩ := hs.log_eq
  have hturn? : turn? x e = none := by
    cases hturn : turn? x e with
    | none => rfl
    | some turn =>
      obtain rfl := turn?_eq_some.mp hturn
      exact absurd (hlog _ _ he) (by simp [startsItself])
  rw [he, turns_cons_none hturn?]

/-- What is known of a call. -/
structure Kept (x : ConnectionId) (email password : String) (a : Attempt) : Prop where
  script : Script email password a.call a.sent a.received
  /-- The turns of the connection are what the call has sent. -/
  turns : (turns x a.world.log).map Prod.snd = a.sent.take a.taken
  /-- It returns `Ok` on an `AuthOk` only. -/
  told : a.call = .returned (.ok ()) → ∃ token, .authOk token ∈ a.queue x

/-- What has been sent to the connection stays on its queue. -/
theorem queue_stays (h0 : s₀.Unused x) (h₀ : Run noDbFault s₀ w₀)
    (hr : server.Reachable noDbFault w₀ a.world)
    (hs : a'.world = a.world ∨ server.Step noDbFault a.world a'.world) {msg : ServerMessage}
    (hm : msg ∈ a.queue x) : msg ∈ a'.queue x := by
  obtain hsame | hstep := hs
  · unfold queue
    rwa [hsame]
  · exact queue_grows h0 (h₀.trans hr) hstep hm

omit [Crates] in
/-- The next message leaves the script as it should be. -/
theorem Kept.receive (h : Kept x email password a) {step : AuthStep} {msg : ServerMessage}
    (hcall : a.call = .waiting step) (hnext : (a.queue x)[a.received]? = some msg)
    (htaken : a.taken ≤ a.sent.length) : Kept x email password (a.receive email password step msg) := by
  have hscript := h.script
  rw [hcall] at hscript
  have hsent := hscript.sent
  unfold Attempt.receive
  split
  next hok =>
    refine ⟨hsent, h.turns, fun _ => ?_⟩
    obtain ⟨token, rfl⟩ := authenticate_done hok
    exact ⟨token, List.mem_of_getElem? hnext⟩
  next step' m hok =>
    obtain ⟨rfl, rfl, rfl⟩ := authenticate_continues hok
    obtain ⟨hsent, hreceived⟩ := hscript
    refine ⟨⟨?_, ?_⟩, ?_, fun hcall => absurd hcall (by simp)⟩
    · show a.sent ++ _ = _
      rw [hsent]
      rfl
    · show a.received + 1 = 1
      rw [hreceived]
    · show _ = (a.sent ++ [_]).take a.taken
      rw [List.take_append_of_le_length htaken]
      exact h.turns
  next e _ => exact ⟨hsent, h.turns, fun hcall => absurd hcall (by simp)⟩

theorem taken_le (h : Reachable x email password (start email password w₀) a) :
    a.taken ≤ a.sent.length := by
  induction h with
  | refl => exact Nat.zero_le _
  | tail _ hs ih =>
    cases hs with
    | takes _ _ hnext => exact Nat.succ_le_of_lt (List.getElem?_eq_some_iff.mp hnext).1
    | serves => exact ih
    | receives =>
      unfold Attempt.receive
      split
      · exact ih
      · show _ ≤ (_ ++ [_]).length
        rw [List.length_append]
        exact Nat.le_add_right_of_le ih
      · exact ih
    | fails => exact ih

/-- **Every moment of a call is as expected.** -/
theorem kept (h0 : s₀.Unused x) (h₀ : Run noDbFault s₀ w₀)
    (hfresh : (w₀.st.socket x).phase = .fresh)
    (h : Reachable x email password (start email password w₀) a) : Kept x email password a := by
  induction h with
  | refl =>
    refine ⟨⟨rfl, rfl⟩, ?_, fun hcall => absurd hcall (by simp [start])⟩
    show (Signaling.turns x w₀.log).map Prod.snd = []
    rw [turns_fresh h₀ hfresh]
    rfl
  | @tail a a' hr hs ih =>
    have htold : a'.call = .returned (.ok ()) → a'.call = a.call →
        ∃ token, .authOk token ∈ a'.queue x := by
      intro hcall hsame
      obtain ⟨token, hm⟩ := ih.told (hsame ▸ hcall)
      exact ⟨token, queue_stays h0 h₀ (Reachable.server hr) hs.server hm⟩
    cases hs with
    | @takes w m hs hlog hnext =>
      refine ⟨ih.script, ?_, fun hcall => htold hcall rfl⟩
      show (Signaling.turns x w.log).map Prod.snd = a.sent.take (a.taken + 1)
      rw [hlog]
      exact turns_takes ih.turns hnext
    | @serves w hs hlog =>
      refine ⟨ih.script, ?_, fun hcall => htold hcall rfl⟩
      show (Signaling.turns x w.log).map Prod.snd = _
      rw [turns_serves hs hlog]
      exact ih.turns
    | receives hcall hnext => exact ih.receive hcall hnext (taken_le hr)
    | fails =>
      exact ⟨ih.script.sent, ih.turns, fun hcall => absurd hcall (by simp)⟩

/-! ## §3. What it has done when it is over. -/

omit [Crates] in
/-- The connection has sent nothing but these two, in this order. -/
theorem Kept.turns_prefix (h : Kept x email password a) :
    (Signaling.turns x a.world.log).map Prod.snd
      <+: [.register email password, .login email password] := by
  rw [h.turns]
  refine (List.take_prefix _ _).trans ?_
  obtain hsent | hsent := h.script.sent
  · rw [hsent]
    exact ⟨[.login email password], rfl⟩
  · exact ⟨[], by rw [hsent, List.append_nil]⟩

omit [Crates] in
theorem Kept.only (h : Kept x email password a) {j : Nat} {m : ClientMessage}
    (he : Event.start j (.message x m) ∈ a.world.log) :
    m = .register email password ∨ m = .login email password := by
  have hin : m ∈ (Signaling.turns x a.world.log).map Prod.snd :=
    List.mem_map.mpr ⟨(j, m), mem_turns.mpr he, rfl⟩
  simpa using h.turns_prefix.subset hin

omit [Crates] in
/-- It has registered once. -/
theorem Kept.registers_once (h : Kept x email password a) {j j' : Nat}
    {email₁ password₁ email₂ password₂ : String}
    (he : Event.start j (.message x (.register email₁ password₁)) ∈ a.world.log)
    (he' : Event.start j' (.message x (.register email₂ password₂)) ∈ a.world.log) : j = j' := by
  have hin : (j, .register email₁ password₁) ∈ Signaling.turns x a.world.log := mem_turns.mpr he
  have hin' : (j', .register email₂ password₂) ∈ Signaling.turns x a.world.log := mem_turns.mpr he'
  have hnodup : ((Signaling.turns x a.world.log).map Prod.snd).Nodup :=
    h.turns_prefix.sublist.nodup (by simp)
  -- each is the one `Register` of the script
  have heq := (h.only he).resolve_right (by simp)
  have heq' := (h.only he').resolve_right (by simp)
  exact congrArg Prod.fst (List.inj_on_of_nodup_map hnodup hin hin' (heq.trans heq'.symm))

/-- **It creates one account at most.** -/
theorem Kept.creates_once (h : Kept x email password a) (hw : Run noDbFault s₀ a.world) :
    a.world.log.countP (createsFor x) ≤ 1 := by
  refine System.countP_le_one _ fun l₁ e l₂ hl he e' he' => ?_
  obtain ⟨j, t, email₁, hash₁, role₁, id₁, rfl, ht⟩ := createsFor_iff.mp he
  by_contra hcreates
  obtain ⟨j', t', email₂, hash₂, role₂, id₂, rfl, ht'⟩ :=
    createsFor_iff.mp (Bool.not_eq_false _ ▸ hcreates)
  have hin : Event.call j t ⟨.db (.createAccount email₁ hash₁ role₁), .ok id₁⟩ ∈ a.world.log := by
    rw [hl]
    exact List.mem_append_right _ List.mem_cons_self
  have hin' : Event.call j' t' ⟨.db (.createAccount email₂ hash₂ role₂), .ok id₂⟩ ∈ a.world.log := by
    rw [hl]
    exact List.mem_append_right _ (List.mem_cons_of_mem _ he')
  obtain ⟨_, _, rfl⟩ := created_by hw ht hin
  obtain ⟨_, _, rfl⟩ := created_by hw ht' hin'
  -- both belong to the one `Register`
  have hstart := hw.numbered.call_start _ _ _ hin
  have hstart' := hw.numbered.call_start _ _ _ hin'
  obtain rfl := h.registers_once hstart hstart'
  obtain heq := hw.numbered.start_unique _ _ _ hstart hstart'
  rw [← heq] at he'
  exact created_once hw hl he'

/-- **A settled call has returned**: each of its turns has put an answer on the
queue. -/
theorem Settled.returned (hsettled : a.Settled x) (h0 : s₀.Unused x) (hw : Run noDbFault s₀ a.world)
    (h : Kept x email password a) : ∃ r, a.call = .returned r := by
  cases hcall : a.call with
  | returned r => exact ⟨r, rfl⟩
  | waiting step =>
    have hscript := h.script
    rw [hcall] at hscript
    have hturns : (Signaling.turns x a.world.log).map Prod.snd = a.sent := by
      rw [h.turns, List.take_of_length_le hsettled.taken]
    have hanswered : ∀ {j m}, (m = .login email password ∨ m = .register email password) →
        (j, m) ∈ Signaling.turns x a.world.log →
          ∃ msg t, Event.call j t ⟨.send x msg, .ok ()⟩ ∈ a.world.log :=
      fun hm hin => reply_arrived hw hsettled.alive hm (mem_turns.mp hin) hsettled.finished
    have hqueue : a.queue x = enqueued x a.world.log := (h0.queued hw).queue
    have hreceived := hsettled.received
    have hregister : ∃ j, (j, .register email password) ∈ Signaling.turns x a.world.log := by
      have hin : ClientMessage.register email password ∈ a.sent := by
        obtain hsent | hsent := hscript.sent <;> rw [hsent] <;> exact List.mem_cons_self
      rw [← hturns] at hin
      obtain ⟨⟨j, m⟩, hin, rfl⟩ := List.mem_map.mp hin
      exact ⟨j, hin⟩
    obtain ⟨j, hj⟩ := hregister
    obtain ⟨msg, t, hin⟩ := hanswered (.inr rfl) hj
    cases step with
    | register =>
      obtain ⟨-, hnone⟩ := hscript
      have hpos := List.length_pos_of_mem (mem_enqueued.mpr ⟨j, t, hin⟩)
      rw [hqueue, hnone] at hreceived
      omega
    | login =>
      obtain ⟨hsent, hone⟩ := hscript
      have hlogin : ClientMessage.login email password ∈ a.sent := by
        rw [hsent]
        exact List.mem_cons_of_mem _ List.mem_cons_self
      rw [← hturns] at hlogin
      obtain ⟨⟨j', m⟩, hj', rfl⟩ := List.mem_map.mp hlogin
      obtain ⟨msg', t', hin'⟩ := hanswered (.inl rfl) hj'
      have hne : j ≠ j' := by
        intro hjj
        subst hjj
        have hstart : Event.start j (.message x (.register email password)) ∈ a.world.log :=
          mem_turns.mp hj
        have hstart' : Event.start j (.message x (.login email password)) ∈ a.world.log :=
          mem_turns.mp hj'
        have heq := hw.numbered.start_unique _ _ _ hstart hstart'
        exact absurd (Task.message.inj heq).2 (by simp)
      have htwo := two_le_enqueued hin hin' (by simp [hne])
      rw [hqueue, hone] at hreceived
      omega

/-- **`authenticate` is sound.**  `Ok` means that the server holds the connection
as authenticated for an account with the email and a hash that verifies the
password, unless that account has been deleted meanwhile.  Where the email belongs
to an account with another password, the connection stays unauthenticated and the
call returns `Err`.  It creates at most one account, of its own email, when no
account had it and registration was read as enabled. -/
theorem authenticate_sound {x : ConnectionId} {email password : String} {s₀ : Server}
    {w₀ : ServerWorld} {a : Attempt}
    (hexact : ∀ password salt hash, hashPassword password salt = .ok hash →
      ∀ other, verifyPassword other hash = true ↔ other = password)
    (h0 : s₀.Unused x) (h₀ : Run noDbFault s₀ w₀) (hfresh : (w₀.st.socket x).phase = .fresh)
    (h : Reachable x email password (start email password w₀) a) :
    (a.call = .returned (.ok ()) → ∃ id,
      (a.world.st.socket x).connState = .authenticated id
        ∧ (¬ DeletedSince id w₀ a.world → ∃ account ∈ a.world.st.db.accounts, account.id = id
          ∧ account.email = email ∧ verifyPassword password account.passwordHash = true))
    ∧ (∀ account ∈ w₀.st.db.accounts, account.email = email →
        verifyPassword password account.passwordHash = false →
        ¬ DeletedSince account.id w₀ a.world →
        (a.world.st.socket x).connState = .unauthenticated
          ∧ (∀ r, a.call = .returned r → ∃ e, r = .error e)
          ∧ (a.Settled x → ∃ e, a.call = .returned (.error e)))
    ∧ a.world.log.countP (createsFor x) ≤ 1
    ∧ ∀ j t email' hash role id,
        Event.call j t ⟨.db (.createAccount email' hash role), .ok id⟩ ∈ a.world.log →
        t.connection = some x →
        email' = email
          ∧ server.Happened noDbFault s₀ a.world
              (.call j t ⟨.db (.createAccount email' hash role), .ok id⟩)
              (fun w => ∀ account ∈ w.st.db.accounts, account.email ≠ email)
          ∧ ∃ r, server.Happened noDbFault s₀ a.world
              (.call j t ⟨.db (.getSetting REGISTRATION_ENABLED), r⟩)
              fun w => registrationOpen w.st.db = true := by
  have hr : server.Reachable noDbFault w₀ a.world := Reachable.server h
  have hw : Run noDbFault s₀ a.world := h₀.trans hr
  have hkept := kept h0 h₀ hfresh h
  refine ⟨fun hok => ?_, fun account haccount hemail hwrong hthere => ?_,
    hkept.creates_once hw, fun j t email' hash role id hin ht => ?_⟩
  · obtain ⟨token, hm⟩ := hkept.told hok
    obtain ⟨id, hst⟩ := loggedIn_of_told h0 hw hm
    refine ⟨id, hst, fun hthere => ?_⟩
    obtain ⟨j, email', password', hash, hstart, hverify, hhas⟩ := login_stands h0 h₀ hfresh hr
      (fun password salt hash hhash => (hexact password salt hash hhash password).mpr rfl) hst
    -- these are the email and the password of the call
    have hown : email' = email ∧ password' = password := by
      obtain hstart | hstart := hstart
      · simpa using hkept.only hstart
      · simpa using hkept.only hstart
    obtain ⟨rfl, rfl⟩ := hown
    obtain ⟨account, haccount, hid, hemail, rfl⟩ := hhas.resolve_right hthere
    exact ⟨account, haccount, hid, hemail, hverify⟩
  · have hout : ¬ LoggedIn x a.world.st :=
      kept_out h0 h₀ hfresh hr ⟨account, haccount, rfl, hemail, rfl⟩ hwrong hthere
        fun j m hin => hkept.only hin
    have herror : ∀ r, a.call = .returned r → ∃ e, r = .error e := by
      intro r hcall
      cases r with
      | error e => exact ⟨e, rfl⟩
      | ok _ =>
        obtain ⟨token, hm⟩ := hkept.told hcall
        exact absurd (loggedIn_of_told h0 hw hm) hout
    refine ⟨?_, herror, fun hsettled => ?_⟩
    · cases hst : (a.world.st.socket x).connState with
      | unauthenticated => rfl
      | authenticated id => exact absurd ⟨id, hst⟩ hout
    · obtain ⟨r, hcall⟩ := hsettled.returned h0 hw hkept
      obtain ⟨e, rfl⟩ := herror r hcall
      exact ⟨e, hcall⟩
  · obtain ⟨email₁, password₁, rfl⟩ := created_by hw ht hin
    obtain ⟨rfl, hfree, hopen⟩ := registration_checked hw hin
    have hstart := hw.numbered.call_start _ _ _ hin
    obtain ⟨rfl, rfl⟩ : email' = email ∧ password₁ = password := by
      simpa using hkept.only hstart
    exact ⟨rfl, hfree, hopen⟩

end

/-! ## §4. Calls that are played. -/

/-- What happens next in a call. -/
inductive Move where
  | takes
  | serves (m : ServerMove)
  | receives

section

variable [Crates] (x : ConnectionId) (email password : String)

/-- Carry out one move, if it is possible. -/
def play : Move → Attempt → Option Attempt
  | .takes, a => do
    let m ← a.sent[a.taken]?
    let w ← server.play noDbFault (.start (.message x m)) a.world
    pure { a with world := w, taken := a.taken + 1 }
  | .serves m, a =>
    match m with
    | .start t =>
      if startsItself x t then
        (server.play noDbFault (.start t) a.world).map fun w => { a with world := w }
      else none
    | m => (server.play noDbFault m a.world).map fun w => { a with world := w }
  | .receives, a =>
    match a.call, (a.queue x)[a.received]? with
    | .waiting step, some msg => some (a.receive email password step msg)
    | _, _ => none

def playAll : List Move → Attempt → Option Attempt
  | [], a => some a
  | m :: ms, a => (a.play x email password m).bind (playAll ms)

variable {x email password}

theorem step_serves {a : Attempt} {w : ServerWorld} {m : ServerMove}
    (hm : ∀ t, m = .start t → startsItself x t = true) (hn : System.Numbered a.world)
    (hplay : server.play noDbFault m a.world = some w) :
    Step x email password a { a with world := w } :=
  .serves (System.play_step hn hplay) (System.play_starts hm hplay)

theorem play_step {a a' : Attempt} {m : Move} (hn : System.Numbered a.world)
    (h : a.play x email password m = some a') : Step x email password a a' := by
  cases m with
  | takes =>
    obtain ⟨m, hnext, h⟩ := Option.bind_eq_some_iff.mp h
    obtain ⟨w, hplay, h⟩ := Option.bind_eq_some_iff.mp h
    obtain rfl := Option.some.inj h
    exact .takes (System.play_step hn hplay) (System.play_start_log hplay) hnext
  | serves m =>
    cases m with
    | start t =>
      simp only [play] at h
      split at h
      next hitself =>
        obtain ⟨w, hplay, rfl⟩ := Option.map_eq_some_iff.mp h
        refine step_serves (fun t' ht => ?_) hn hplay
        obtain rfl := System.Move.start.inj ht
        exact hitself
      next => exact absurd h (by simp)
    | step j d | env e =>
      simp only [play, Option.map_eq_some_iff] at h
      obtain ⟨w, hplay, rfl⟩ := h
      exact step_serves (fun t ht => absurd ht (by simp)) hn hplay
  | receives =>
    simp only [play] at h
    split at h
    next step msg hcall hnext =>
      obtain rfl := Option.some.inj h
      exact .receives hcall hnext
    next => exact absurd h (by simp)

/-- **Moves that play through are a run of the call.** -/
theorem playAll_reachable {s₀ : Server} : ∀ {ms : List Move} {a a' : Attempt},
    Run noDbFault s₀ a.world → a.playAll x email password ms = some a' →
      Reachable x email password a a'
  | [], a, a', _, h => by
    obtain rfl := Option.some.inj h
    exact .refl
  | m :: ms, a, a', hw, h => by
    obtain ⟨b, hplay, hrest⟩ := Option.bind_eq_some_iff.mp h
    have hstep : Step x email password a b := play_step hw.numbered hplay
    have hb : Run noDbFault s₀ b.world :=
      hw.trans (Reachable.server (Relation.ReflTransGen.single hstep))
    exact (playAll_reachable hb hrest).head hstep

end

section

open Signaling.Transparent

/-- The first account of a server. -/
def firstAccount : List Move :=
  .serves (.start (.connect "c")) :: (steps 0 1).map .serves
    ++ .takes :: (steps 1 8).map .serves ++ [.receives]

def called : Option Attempt :=
  (start "a@b.c" "secret" (World.initial (Server.blank false))).playAll "c" "a@b.c" "secret" firstAccount

theorem called_plays : called.isSome = true := by decide +kernel

theorem called_ok : (called.get called_plays).call = .returned (.ok ()) := by decide +kernel

theorem readable_exact (password salt hash : String) (h : hashPassword password salt = .ok hash)
    (other : String) : verifyPassword other hash = true ↔ other = password := by
  obtain rfl : "$argon2id$" ++ password = hash := Except.ok.inj h
  show ("$argon2id$" ++ password == "$argon2id$" ++ other) = true ↔ other = password
  rw [beq_iff_eq, String.append_right_inj, eq_comm]

theorem authenticate_sound_first :
    ∃ a : Attempt, a.call = .returned (.ok ()) ∧ ∃ id,
      (a.world.st.socket "c").connState = .authenticated id
        ∧ (¬ DeletedSince id (World.initial (Server.blank false)) a.world →
          ∃ account ∈ a.world.st.db.accounts, account.id = id ∧ account.email = "a@b.c"
            ∧ verifyPassword "secret" account.passwordHash = true) := by
  refine ⟨called.get called_plays, called_ok, ?_⟩
  exact (authenticate_sound readable_exact ⟨rfl, rfl⟩ .refl rfl
    (playAll_reachable .refl (Option.some_get called_plays).symm)).1 called_ok

end

end Attempt

end Visuara.Client
