/-
  Visuara.Signaling.Gate
  ──────────────────────
  **WHAT A CLIENT GETS THAT IS NOT LOGGED IN.**

  `Effect` says what one turn, and then a sequence of turns, of such a client
  does to the server: it may be told an error, and nothing else happens, unless
  a message of the sequence `leaks`.  `RequestTurnCredentials` does, because
  its arm never asks who is there; the relaying arms would if the client were
  in a session, and in a running server it never is.
-/
import Visuara.Signaling.Relay

namespace Visuara.Signaling

open Interleave

/-! ## §1. The gate. -/

/-- From `s` to `s'` the client `c` has only been refused. -/
structure Gated (c : ConnectionId) (s s' : Server) : Prop where
  replies : ∃ l, (s'.channel c).queue = (s.channel c).queue ++ l ∧ ∀ msg ∈ l, msg.isRefusal = true
  others : ∀ y, y ≠ c → s'.channel y = s.channel y
  devices : s'.db.devices = s.db.devices
  deviceOnline : s'.deviceOnline = s.deviceOnline
  otp : s'.otp = s.otp
  sessions : s'.sessions = s.sessions

/-- The message gets more than a refusal out of the server in state `s`: TURN
credentials, or a message passed on to the other side of a session. -/
def leaks (c : ConnectionId) (s : Server) : ClientMessage → Bool
  | .requestTurnCredentials => (s.channel c).alive
  | m => m.relayed.any fun p =>
    (((s.sessions p.1).bind (·.other c)).bind s.connections).any fun tx => (s.channel tx).alive

theorem leaks_relayed {c : ConnectionId} {s : Server} {m : ClientMessage} {k : SessionId}
    {msg : ServerMessage} (hm : m.relayed = some (k, msg)) : leaks c s m
      = (((s.sessions k).bind (·.other c)).bind s.connections).any fun tx =>
        (s.channel tx).alive := by
  cases m with
  | sdpOffer | sdpAnswer | iceCandidate =>
    obtain ⟨rfl, rfl⟩ := Prod.mk.inj (Option.some.inj hm)
    rfl
  | _ => exact absurd hm.symm (Option.some_ne_none _)

/-! ## §2. Effects. -/

/-- What happened from `s` to `s'` on behalf of `c`; more than refusals were
sent if and only if `leak`. -/
structure Effect (c : ConnectionId) (s s' : Server) (leak : Prop) : Prop where
  devices : s'.db.devices = s.db.devices
  connections : s'.connections = s.connections
  deviceOnline : s'.deviceOnline = s.deviceOnline
  otp : s'.otp = s.otp
  sessions : s'.sessions = s.sessions
  alive : ∀ y, (s'.channel y).alive = (s.channel y).alive
  sent : ∃ l : ConnectionId → List ServerMessage,
    (∀ y, (s'.channel y).queue = (s.channel y).queue ++ l y)
      ∧ (¬ leak → (∀ y, y ≠ c → l y = []) ∧ ∀ msg ∈ l c, msg.isRefusal = true)
      ∧ (leak → ∃ y, ∃ msg ∈ l y, msg.isRefusal = false)

section

variable {c : ConnectionId} {s s₁ s' : Server} {p q : Prop}

theorem Effect.refl (c : ConnectionId) (s : Server) : Effect c s s False :=
  ⟨rfl, rfl, rfl, rfl, rfl, fun _ => rfl, fun _ => [], by simp, by simp, False.elim⟩

/-- Effects add up, and so do leaks. -/
theorem Effect.trans (h : Effect c s s₁ p) (h' : Effect c s₁ s' q) : Effect c s s' (p ∨ q) := by
  obtain ⟨l, hl, hno, hyes⟩ := h.sent
  obtain ⟨l', hl', hno', hyes'⟩ := h'.sent
  refine ⟨h'.devices.trans h.devices, h'.connections.trans h.connections,
    h'.deviceOnline.trans h.deviceOnline, h'.otp.trans h.otp, h'.sessions.trans h.sessions,
    fun y => (h'.alive y).trans (h.alive y), fun y => l y ++ l' y, fun y => ?_, fun hn => ?_, ?_⟩
  · rw [hl', hl, List.append_assoc]
  · rw [not_or] at hn
    refine ⟨fun y hy => ?_, fun msg hm => ?_⟩
    · show l y ++ l' y = []
      rw [(hno hn.1).1 y hy, (hno' hn.2).1 y hy, List.append_nil]
    · rcases List.mem_append.mp hm with hm | hm
      · exact (hno hn.1).2 msg hm
      · exact (hno' hn.2).2 msg hm
  · rintro (hp | hq)
    · obtain ⟨y, msg, hm, hr⟩ := hyes hp
      exact ⟨y, msg, List.mem_append_left _ hm, hr⟩
    · obtain ⟨y, msg, hm, hr⟩ := hyes' hq
      exact ⟨y, msg, List.mem_append_right _ hm, hr⟩

theorem Effect.congr (h : Effect c s s' p) (hpq : p ↔ q) : Effect c s s' q :=
  propext hpq ▸ h

/-- After a refusal comes what the rest of the turn does. -/
theorem Effect.then (h : Effect c s s₁ False) (h' : Effect c s₁ s' p) : Effect c s s' p :=
  (h.trans h').congr (by rw [false_or])

/-- **The gate is kept if and only if nothing leaked.** -/
theorem Effect.gated_iff (h : Effect c s s' p) : Gated c s s' ↔ ¬ p := by
  obtain ⟨l, hl, hno, hyes⟩ := h.sent
  constructor
  · intro hg hp
    obtain ⟨y, msg, hm, hr⟩ := hyes hp
    by_cases hy : y = c
    · subst hy
      obtain ⟨l', hl', hall⟩ := hg.replies
      rw [hl, List.append_cancel_left_eq] at hl'
      exact absurd (hall msg (hl' ▸ hm)) (by simp [hr])
    · have := hl y
      rw [hg.others y hy, List.self_eq_append_right] at this
      exact absurd (this ▸ hm) List.not_mem_nil
  · intro hp
    obtain ⟨hothers, hreplies⟩ := hno hp
    refine ⟨⟨l c, hl c, hreplies⟩, fun y hy => ?_, h.devices, h.deviceOnline, h.otp, h.sessions⟩
    have hq := hl y
    rw [hothers y hy, List.append_nil] at hq
    have ha := h.alive y
    revert hq ha
    cases s'.channel y
    cases s.channel y
    rintro rfl rfl
    rfl

/-- What a message leaks depends on nothing that an effect changes. -/
theorem Effect.leaks_eq (h : Effect c s s' p) (m : ClientMessage) : leaks c s' m = leaks c s m := by
  cases m <;> simp only [leaks, h.alive, h.sessions, h.connections]

/-- A message that goes to the client itself, or to no one. -/
theorem Effect.refuse [Crates] {msg : ServerMessage} (hmsg : msg.isRefusal = true) (d : Draw) :
    Effect c s ((Op.send c msg).exec d s).2 False := by
  simp only [Op.exec]
  split
  next ha =>
    refine ⟨rfl, rfl, rfl, rfl, rfl, fun y => ?_, fun y => if y = c then [msg] else [], fun y => ?_,
      by simp [hmsg], False.elim⟩
    · by_cases hy : y = c
      · subst hy
        simp [Server.setChannel]
      · simp [Server.setChannel, hy]
    · by_cases hy : y = c
      · subst hy
        simp [Server.setChannel]
      · simp [Server.setChannel, hy]
  next => exact Effect.refl c s

/-- A message that is more than a refusal, and arrives. -/
theorem Effect.leak [Crates] {tx : Sender} {msg : ServerMessage} (hmsg : msg.isRefusal = false)
    (ha : (s.channel tx).alive = true) (d : Draw) :
    Effect c s ((Op.send tx msg).exec d s).2 True := by
  simp only [Op.exec, ha, if_true]
  refine ⟨rfl, rfl, rfl, rfl, rfl, fun y => ?_, fun y => if y = tx then [msg] else [], fun y => ?_,
    by simp, fun _ => ⟨tx, msg, by simp, hmsg⟩⟩
  · by_cases hy : y = tx
    · subst hy
      simp [Server.setChannel, ha]
    · simp [Server.setChannel, hy]
  · by_cases hy : y = tx
    · subst hy
      simp [Server.setChannel]
    · simp [Server.setChannel, hy]

/-- Queries that leave `devices` alone have no effect here. -/
theorem Effect.query [Crates] {q : Query} (hq : q.writesDevices = false) (d : Draw) :
    Effect c s ((Op.db q).exec d s).2 False := by
  cases hf : d.fault with
  | some e =>
    rw [Op.exec_query_fault hf]
    exact Effect.refl c s
  | none =>
    rw [Op.exec_query hf]
    exact ⟨Query.exec_devices hq, rfl, rfl, rfl, rfl, fun _ => rfl, fun _ => [], by simp, by simp,
      False.elim⟩

end

/-! ## §3. One turn. -/

section Turn

variable [Crates] {A : Server → Op → Draw → Prop} {c : ConnectionId} {s : Server}

/-- What a turn of `c` may come to, from `s`: while `c` is not logged in, an effect. -/
def Outcome (c : ConnectionId) (s : Server) (leak : Prop) (_ : Unit) (s' : Server) : Prop :=
  (s'.socket c).connState = .unauthenticated → Effect c s s' leak

/-- An error is reported. -/
theorem wp_report_error {s₀ : Server} {p : Prop} (h : Effect c s₀ s p) (e : String) :
    Prog.wp Op.exec A (report c (.error e)) (Outcome c s₀ p) s := by
  intro d _ _
  exact (h.trans (Effect.refuse rfl d)).congr (by rw [or_false])

/-- The handler ends with a refusal. -/
theorem wp_refuse {s₀ : Server} {p : Prop} (h : Effect c s₀ s p) {msg : ServerMessage}
    (hmsg : msg.isRefusal = true) :
    Prog.wp Op.exec A ((Handler.send c msg).run >>= report c) (Outcome c s₀ p) s := by
  simp only [Handler.send_run, Prog.call_bind, Prog.wp_call]
  intro d _
  have h' : Effect c s₀ ((Op.send c msg).exec d s).2 p :=
    (h.trans (Effect.refuse hmsg d)).congr (by rw [or_false])
  rcases ((Op.send c msg).exec d s).1 with e | _
  · exact wp_report_error h' e
  · exact fun _ => h'

/-- The handlers that ask who is there refuse. -/
theorem wp_requireAuth (hs : (s.socket c).connState = .unauthenticated) (f : Int → Handler Unit) :
    Prog.wp Op.exec A ((requireAuth c >>= f).run >>= report c) (Outcome c s False) s := by
  simp only [requireAuth_bind, Prog.call_bind, Prog.wp_call]
  intro d _
  simp only [Op.exec, hs]
  exact wp_report_error (Effect.refl c s) _

/-- A client that logs in is no longer one that is not logged in. -/
theorem wp_loggedIn (account : Int) (s₀ : Server) (p : Prop) :
    Prog.wp Op.exec A ((do
      Handler.perform (.setConnState c (.authenticated account))
      let token ← Handler.perform .generateSessionToken
      Handler.send c (.authOk token) : Handler Unit).run >>= report c) (Outcome c s₀ p) s := by
  have hsend : ∀ (s : Server) msg d, (((Op.send c msg).exec d s).2.socket c).connState
      = (s.socket c).connState := fun s msg d => by rw [Op.exec_socket]
  simp only [Handler.perform_bind, Handler.send_run, Prog.call_bind, Prog.wp_call]
  intro d _ d' _ d'' _
  have hset : (((Op.setConnState c (.authenticated account)).exec d s).2.socket c).connState
      = .authenticated account := by
    rw [Op.exec_socket]
    simp
  rcases ((Op.send c _).exec d'' _).1 with e | _
  · intro d₃ _ hun
    rw [hsend, hsend] at hun
    exact absurd (hset.symm.trans hun) (by simp)
  · intro hun
    rw [hsend] at hun
    exact absurd (hset.symm.trans hun) (by simp)

theorem wp_login (email password : String) :
    Prog.wp Op.exec A ((handleMessage c (.login email password)).run >>= report c)
      (Outcome c s False) s := by
  simp only [handleMessage, Handler.query_bind, Prog.call_bind, Prog.wp_call]
  intro d _
  have h : Effect c s ((Op.db (.findAccountByEmail email)).exec d s).2 False := Effect.query rfl d
  rcases ((Op.db (.findAccountByEmail email)).exec d s).1 with e | (_ | account)
  · exact wp_report_error h e
  · exact wp_refuse h rfl
  · dsimp only
    split
    · exact wp_loggedIn account.id s False
    · exact wp_refuse h rfl

/-- Creating an account touches no device. -/
theorem wp_createAccount (c : ConnectionId) (email hash : String)
    {Q : Except String (Int × AccountRole) → Server → Prop}
    (hQ : ∀ r s', Effect c s s' False → Q r s') :
    Prog.wp Op.exec A (createAccountAndMaybeBootstrapAdmin email hash).run Q s := by
  rw [createAccountAndMaybeBootstrapAdmin_run]
  intro d _
  have h₁ : Effect c s ((Op.db .countAccounts).exec d s).2 False := Effect.query rfl d
  rcases ((Op.db .countAccounts).exec d s).1 with e | n
  · exact hQ _ _ h₁
  · intro d₂ _
    have h₂ : Effect c s ((Op.db (.createAccount email hash
        (if n == 0 then .admin else .user))).exec d₂ _).2 False := h₁.then (Effect.query rfl d₂)
    rcases ((Op.db (.createAccount email hash _)).exec d₂ _).1 with e | id
    · exact hQ _ _ h₂
    · dsimp only
      split
      · intro d₃ _
        have h₃ : Effect c s ((Op.db (.setSetting REGISTRATION_ENABLED "false")).exec d₃ _).2
            False := h₂.then (Effect.query rfl d₃)
        rcases ((Op.db (.setSetting REGISTRATION_ENABLED "false")).exec d₃ _).1 with e | _
        · exact hQ _ _ h₃
        · exact hQ _ _ h₃
      · exact hQ _ _ h₂

theorem wp_register (email password : String) :
    Prog.wp Op.exec A ((handleMessage c (.register email password)).run >>= report c)
      (Outcome c s False) s := by
  simp only [handleMessage, Handler.lift_bind, registrationEnabled_bind, Prog.call_bind,
    Prog.wp_call]
  intro d _
  have h₁ : Effect c s ((Op.db (.getSetting REGISTRATION_ENABLED)).exec d s).2 False :=
    Effect.query rfl d
  split
  · exact wp_refuse h₁ rfl
  · simp only [Handler.mk_bind, perform, Prog.perform_bind, Prog.call_bind, Prog.wp_call]
    intro d₂ _
    rcases ((Op.hashPassword password).exec d₂ _).1 with e | hash
    · exact wp_report_error h₁ e
    · simp only [Handler.lift_bind, bind_assoc, Prog.wp_bind]
      refine wp_createAccount c email hash fun r s' h₂ => ?_
      rcases r with e | ⟨account, role⟩
      · exact (Prog.wp_bind _ _ _ _).mp (wp_refuse (h₁.then h₂) rfl)
      · exact (Prog.wp_bind _ _ _ _).mp (wp_loggedIn account s False)

/-- Anything else the handler sends leaks, if it arrives. -/
theorem wp_deliver {tx : Sender} {msg : ServerMessage} (hmsg : msg.isRefusal = false) :
    Prog.wp Op.exec A ((Handler.send tx msg).run >>= report c)
      (Outcome c s ((s.channel tx).alive = true)) s := by
  simp only [Handler.send_run, Prog.call_bind, Prog.wp_call]
  intro d _
  by_cases ha : (s.channel tx).alive = true
  · have h : Effect c s ((Op.send tx msg).exec d s).2 ((s.channel tx).alive = true) :=
      (Effect.leak hmsg ha d).congr (by simp [ha])
    have hok : ((Op.send tx msg).exec d s).1 = .ok () := by simp only [Op.exec, ha, if_true]
    rw [hok]
    exact fun _ => h
  · have hclosed : (Op.send tx msg).exec d s = (.error "channel closed", s) := by
      simp only [Op.exec, if_neg ha]
    rw [hclosed]
    exact wp_report_error ((Effect.refl c s).congr (by simp [ha])) _

/-- A relayed message leaks if the session has another side to take it. -/
theorem wp_relay {m : ClientMessage} {k : SessionId} {msg : ServerMessage}
    (hm : m.relayed = some (k, msg)) :
    Prog.wp Op.exec A ((relay c k msg).run >>= report c) (Outcome c s (leaks c s m = true)) s := by
  have hmsg : msg.isRefusal = false := by
    cases m with
    | sdpOffer | sdpAnswer | iceCandidate =>
      obtain ⟨rfl, rfl⟩ := Prod.mk.inj (Option.some.inj hm)
      rfl
    | _ => exact absurd hm.symm (Option.some_ne_none _)
  have hnone : ∀ {p : Prop}, ¬ p → Effect c s s p := fun hp =>
    (Effect.refl c s).congr (by simp [hp])
  rw [leaks_relayed hm]
  simp only [relay, Handler.perform_bind, Handler.okOr_bind, Prog.call_bind, Prog.wp_call]
  intro d _
  simp only [Op.exec]
  cases hk : s.sessions k with
  | none => exact wp_report_error (hnone (by simp)) _
  | some peers =>
    dsimp only
    cases ho : peers.other c with
    | none => exact wp_report_error (hnone (by simp [ho])) _
    | some other =>
      intro d₂ _
      simp only [Op.exec]
      cases htx : s.connections other with
      | none => exact wp_report_error (hnone (by simp [ho, htx])) _
      | some tx =>
        simp only [Option.bind_some, ho, htx, Option.any_some]
        exact wp_deliver hmsg

/-- TURN credentials are sent to whoever asks. -/
theorem wp_requestTurnCredentials :
    Prog.wp Op.exec A ((handleMessage c .requestTurnCredentials).run >>= report c)
      (Outcome c s (leaks c s .requestTurnCredentials = true)) s := by
  simp only [handleMessage, Handler.perform_bind, Prog.call_bind, Prog.wp_call]
  intro d _ d₂ _
  exact wp_deliver rfl

/-- **One turn of a client that is not logged in**, on every state. -/
theorem wp_turn (hs : (s.socket c).connState = .unauthenticated) (m : ClientMessage) :
    Prog.wp Op.exec A (onMessage c m) (Outcome c s (leaks c s m = true)) s := by
  have hsilent : leaks c s m = false →
      Prog.wp Op.exec A ((handleMessage c m).run >>= report c) (Outcome c s False) s →
      Prog.wp Op.exec A ((handleMessage c m).run >>= report c)
        (Outcome c s (leaks c s m = true)) s := by
    intro hno h
    exact Prog.wp_mono h fun _ _ ho hun => (ho hun).congr (by simp [hno])
  rw [onMessage_eq]
  cases m with
  | register email password => exact hsilent rfl (wp_register email password)
  | login email password => exact hsilent rfl (wp_login email password)
  | registerDevice name => exact hsilent rfl (wp_requireAuth hs _)
  | listDevices => exact hsilent rfl (wp_requireAuth hs _)
  | requestConnection d credential => exact hsilent rfl (wp_requireAuth hs _)
  | sdpOffer k sdp => exact wp_relay rfl
  | sdpAnswer k sdp => exact wp_relay rfl
  | iceCandidate k candidate => exact wp_relay rfl
  | requestTurnCredentials => exact wp_requestTurnCredentials
  | setUnattendedPassword d pw => exact hsilent rfl (wp_requireAuth hs _)

end Turn

/-! ## §4. Sequences of messages. -/

section Sequence

variable [Crates] {c : ConnectionId} {s s' : Server} {ms : List ClientMessage}

/-- The turns of `c` on the messages `ms`, in order; no `Register` or `Login`
among them succeeds. -/
inductive Turns (c : ConnectionId) : List ClientMessage → Server → Server → Prop where
  | nil (s : Server) : Turns c [] s s
  | cons {m : ClientMessage} {ms : List ClientMessage} {s s₁ s' : Server}
      (hrun : Prog.Runs Op.exec (fun _ _ _ => True) (onMessage c m) s () s₁)
      (hun : (s₁.socket c).connState = .unauthenticated) (hrest : Turns c ms s₁ s') :
      Turns c (m :: ms) s s'

/-- The effect of a sequence: it leaks if one of its messages does. -/
theorem Turns.effect (h0 : (s.socket c).connState = .unauthenticated) (h : Turns c ms s s') :
    Effect c s s' (∃ m ∈ ms, leaks c s m = true) := by
  induction h with
  | nil s => exact (Effect.refl c s).congr (by simp)
  | cons hrun hun _ ih =>
    have hfirst := Prog.wp_sound hrun (wp_turn h0 _) hun
    refine (hfirst.trans (ih hun)).congr ?_
    simp only [hfirst.leaks_eq, List.mem_cons, exists_eq_or_imp]

end Sequence

/-! ## §5. In a running server. -/

section Running

variable [Crates] {A : Assumption Op Op.Res Draw Task Env} {db : Db} {config : Config}
  {files : Files} {c : ConnectionId} {w w' : ServerWorld}

/-- The connection is logged in. -/
def LoggedIn (c : ConnectionId) (s : Server) : Prop :=
  ∃ account, (s.socket c).connState = .authenticated account

/-- A connection that is logged in has been opened, and stays logged in. -/
theorem LoggedIn.step {s₀ : Server} (h : Run A s₀ w) (hs : server.Step A w w')
    (hopen : LoggedIn c w.st → (w.st.socket c).phase ≠ .fresh) :
    (LoggedIn c w.st → LoggedIn c w'.st)
      ∧ (LoggedIn c w'.st → (w'.st.socket c).phase ≠ .fresh) := by
  cases hs with
  | start t hadm _ =>
    show (_ → LoggedIn c (t.begin w.st)) ∧ (LoggedIn c (t.begin w.st) → _)
    by_cases hc : t.connection = some c
    · cases t with
      | connect c' =>
        obtain rfl : c' = c := by simpa [Task.connection] using hc
        have hfresh : (w.st.socket c').phase = .fresh := of_decide_eq_true hadm
        refine ⟨fun hl => absurd hfresh (hopen hl), ?_⟩
        rintro ⟨account, ha⟩
        simp [Task.begin, Server.setSocket, Server.setChannel] at ha
      | close c' =>
        obtain rfl : c' = c := by simpa [Task.connection] using hc
        refine ⟨?_, fun _ => by simp [server, System.startView, Task.begin, Server.setSocket]⟩
        rintro ⟨account, ha⟩
        exact ⟨account, by simpa [Task.begin, Server.setSocket] using ha⟩
      | message => exact ⟨id, hopen⟩
      | malformed => exact ⟨id, hopen⟩
      | http => exact ⟨id, hopen⟩
    · have hsame := begin_socket hc w.st
      simp only [LoggedIn, hsame]
      refine ⟨id, fun hl => ?_⟩
      show ((t.begin w.st).socket c).phase ≠ .fresh
      rw [hsame]
      exact hopen hl
  | @call j t o k draw hj _ =>
    have hmay : May t (hist j w.log) o := h.next_licensed Task.follows hj
    have hphase := Op.exec_phase o draw w.st c
    show (_ → LoggedIn c (o.exec draw w.st).2)
      ∧ (LoggedIn c (o.exec draw w.st).2 → ((o.exec draw w.st).2.socket c).phase ≠ .fresh)
    rw [hphase]
    have hsocket := Op.exec_socket o draw w.st
    cases o with
    | setConnState c' st =>
      obtain ⟨hc, account, rfl⟩ := hmay
      by_cases hcc : c' = c
      · subst hcc
        refine ⟨fun _ => ⟨account, by rw [hsocket]; simp⟩, fun _ => ?_⟩
        rw [(knows h hj rfl c' hc).1]
        exact Task.phase_ne_fresh t
      · have hsame : (((Op.setConnState c' (.authenticated account)).exec draw w.st).2.socket c)
            = w.st.socket c := by
          rw [hsocket]
          exact Function.update_of_ne (Ne.symm hcc) _ _
        simp only [LoggedIn, hsame]
        exact ⟨id, hopen⟩
    | setMyDeviceId c' d =>
      have hsame : (((Op.setMyDeviceId c' d).exec draw w.st).2.socket c).connState
          = (w.st.socket c).connState := by
        rw [hsocket]
        by_cases hcc : c = c'
        · subst hcc
          simp
        · simp [Function.update_of_ne hcc]
      simp only [LoggedIn, hsame]
      exact ⟨id, hopen⟩
    | _ =>
      simp only [LoggedIn, hsocket]
      exact ⟨id, hopen⟩
  | env e =>
    cases e with
    | sendTaskStops c' => exact ⟨id, hopen⟩
    | restart =>
      show (_ → LoggedIn c w.st.restart)
        ∧ (LoggedIn c w.st.restart → (w.st.restart.socket c).phase ≠ .fresh)
      simp only [LoggedIn, Server.restart]
      split
      next hfresh => exact ⟨id, fun hl => absurd hfresh (hopen hl)⟩
      next => exact ⟨id, fun _ => by simp⟩

/-- The same from any state, if it is so there. -/
theorem LoggedIn.openedFrom {s₀ : Server} (h0 : LoggedIn c s₀ → (s₀.socket c).phase ≠ .fresh)
    (h : Run A s₀ w) (hl : LoggedIn c w.st) : (w.st.socket c).phase ≠ .fresh := by
  revert hl
  refine System.Reachable.invariant
    (fun w => LoggedIn c w.st → (w.st.socket c).phase ≠ .fresh) h0 ?_ h
  exact fun w w' hr hopen hs => (LoggedIn.step hr hs hopen).2

theorem LoggedIn.staysFrom {s₀ : Server} (h0 : LoggedIn c s₀ → (s₀.socket c).phase ≠ .fresh)
    (h : Run A s₀ w) (hle : server.Reachable A w w') (hl : LoggedIn c w.st) :
    LoggedIn c w'.st := by
  induction hle with
  | refl => exact hl
  | tail hr hs ih =>
    exact (LoggedIn.step (h.trans hr) hs fun _ => LoggedIn.openedFrom h0 (h.trans hr) ih).1 ih

omit [Crates] in
theorem not_loggedIn_start : ¬ LoggedIn c (Server.start db config files) := by
  intro hl
  obtain ⟨account, ha⟩ := hl
  exact absurd ha (by simp [Server.start])

theorem LoggedIn.opened (h : Run A (Server.start db config files) w) (hl : LoggedIn c w.st) :
    (w.st.socket c).phase ≠ .fresh :=
  LoggedIn.openedFrom (fun hl => absurd hl not_loggedIn_start) h hl

theorem LoggedIn.stays (h : Run A (Server.start db config files) w)
    (hle : server.Reachable A w w') (hl : LoggedIn c w.st) : LoggedIn c w'.st :=
  LoggedIn.staysFrom (fun hl => absurd hl not_loggedIn_start) h hle hl

/-- What was the case when a task looked, if it lasts, is the case. -/
theorem loggedIn_of_did (h : Run A (Server.start db config files) w) {j : Nat} {x : Call Op Op.Res}
    (hx : x ∈ hist j w.log) (hlook : ∀ w₁, Run A (Server.start db config files) w₁ →
      ∀ draw, x.res = (x.op.exec draw w₁.st).1 → LoggedIn c w₁.st) : LoggedIn c w.st := by
  obtain ⟨t, ht⟩ := mem_of_mem_hist hx
  obtain ⟨w₁, w₂, h₁, hs, h₂, hlog⟩ := h.moment ht
  obtain ⟨draw, -, -, -, hres, -⟩ := hs.of_call hlog
  exact (hlook w₁ h₁ draw hres).stays h₁ (h₂.head hs)

/-- Whoever is online is logged in. -/
theorem online_loggedIn (h : Run A (Server.start db config files) w) :
    ∀ d c, w.st.deviceOnline d = some c → LoggedIn c w.st := by
  refine System.Reachable.invariant
    (fun w => ∀ d c, w.st.deviceOnline d = some c → LoggedIn c w.st) ?_ ?_ h
  · exact fun d c hd => absurd hd (Option.some_ne_none c).symm
  · intro w w' hr hI hs d c hd
    have hkeep : w.st.deviceOnline d = some c → LoggedIn c w'.st := fun hold =>
      (hI d c hold).stays hr (.single hs)
    cases hs with
    | start t _ _ =>
      refine hkeep ?_
      rwa [← begin_deviceOnline t w.st]
    | @call j t o k draw hj _ =>
      rcases Op.exec_deviceOnline_some o draw w.st hd with rfl | hold
      · obtain ⟨name, -, -, account, hauth⟩ := hr.next_licensed Task.follows hj
        refine (loggedIn_of_did hr hauth fun w₁ _ _ hres => ⟨account, hres.symm⟩).stays hr
          (.single (.call draw hj ‹_›))
      · exact hkeep hold
    | env e =>
      cases e with
      | sendTaskStops c' => exact hkeep hd
      | restart => exact absurd hd (Option.some_ne_none c).symm

/-- Both sides of a session are logged in. -/
theorem session_loggedIn (h : Run A (Server.start db config files) w) :
    ∀ k p, w.st.sessions k = some p → LoggedIn p.a w.st ∧ LoggedIn p.b w.st := by
  refine System.Reachable.invariant
    (fun w => ∀ k p, w.st.sessions k = some p → LoggedIn p.a w.st ∧ LoggedIn p.b w.st) ?_ ?_ h
  · exact fun k p hk => absurd hk (Option.some_ne_none p).symm
  · intro w w' hr hI hs k p hk
    have hkeep : w.st.sessions k = some p → LoggedIn p.a w'.st ∧ LoggedIn p.b w'.st := fun hold =>
      ⟨(hI k p hold).1.stays hr (.single hs), (hI k p hold).2.stays hr (.single hs)⟩
    cases hs with
    | start t _ _ =>
      have hsame : (t.begin w.st).sessions = w.st.sessions := by cases t <;> rfl
      exact hkeep (hsame ▸ hk)
    | @call j t o k' draw hj hA =>
      rcases Op.exec_sessions_some o draw w.st hk with rfl | hold
      · obtain ⟨d, credential, -, hreq, -⟩ := hr.next_licensed Task.follows hj
        obtain ⟨account, hauth⟩ := hreq.authenticated
        have ha := loggedIn_of_did hr hauth fun w₁ _ _ hres => ⟨account, hres.symm⟩
        have hb := loggedIn_of_did hr hreq.online fun w₁ h₁ _ hres =>
          online_loggedIn h₁ d p.b hres.symm
        exact ⟨ha.stays hr (.single (.call draw hj hA)), hb.stays hr (.single (.call draw hj hA))⟩
      · exact hkeep hold
    | env e =>
      cases e with
      | sendTaskStops c' => exact hkeep hk
      | restart => exact absurd hk (Option.some_ne_none p).symm

/-- **In a running server only TURN credentials leak.** -/
theorem leaks_reachable (h : Run A (Server.start db config files) w)
    (hc : (w.st.socket c).connState = .unauthenticated) (m : ClientMessage) :
    leaks c w.st m = true ↔ m = .requestTurnCredentials ∧ (w.st.channel c).alive = true := by
  have hno : ∀ k p, w.st.sessions k = some p → p.other c = none := by
    intro k p hk
    obtain ⟨⟨x, ha⟩, ⟨y, hb⟩⟩ := session_loggedIn h k p hk
    unfold SessionPeers.other
    rw [if_neg fun heq => by rw [heq, hc] at ha; exact absurd ha (by simp),
      if_neg fun heq => by rw [heq, hc] at hb; exact absurd hb (by simp)]
  cases hm : m.relayed with
  | some r =>
    obtain ⟨k, msg⟩ := r
    rw [leaks_relayed hm]
    have hne : m ≠ .requestTurnCredentials := by
      rintro rfl
      exact absurd hm.symm (Option.some_ne_none _)
    refine iff_of_false ?_ fun hp => hne hp.1
    cases hk : w.st.sessions k with
    | none => simp
    | some p => simp [hno _ p hk]
  | none =>
    cases m with
    | requestTurnCredentials => simp [leaks]
    | _ => exact iff_of_false (by simp [leaks, hm]) (by simp)

end Running

/-! ## §6. The gate of the protocol. -/

/-- **Authentication gate.**  On every state, and for every sequence of
messages of a connection that is not logged in, none of which logs it in: the
connection is only refused, and nothing else changes, if and only if none of
the messages leaks.  If the state is one a server gets into, the one message
that leaks is `RequestTurnCredentials`, sent while its reply can be delivered. -/
theorem unauthenticated_gate [Crates] {c : ConnectionId} {s s' : Server} {ms : List ClientMessage}
    (h0 : (s.socket c).connState = .unauthenticated) (h : Turns c ms s s') :
    (Gated c s s' ↔ ∀ m ∈ ms, leaks c s m = false)
      ∧ ∀ (A : Assumption Op Op.Res Draw Task Env) db config files w,
        Run A (Server.start db config files) w → w.st = s →
          (Gated c s s' ↔ .requestTurnCredentials ∉ ms ∨ (s.channel c).alive = false) := by
  have hgate : Gated c s s' ↔ ∀ m ∈ ms, leaks c s m = false := by
    rw [(h.effect h0).gated_iff]
    simp
  refine ⟨hgate, ?_⟩
  rintro A db config files w hw rfl
  rw [hgate]
  constructor
  · intro hall
    by_cases hm : .requestTurnCredentials ∈ ms
    · exact .inr (hall _ hm)
    · exact .inl hm
  · intro hor m hm
    by_contra hne
    obtain ⟨rfl, ha⟩ := (leaks_reachable hw h0 m).mp (by simpa using hne)
    rcases hor with hno | hdead
    · exact hno hm
    · exact absurd (ha.symm.trans hdead) (by simp)

section Schedule

open scoped Transparent

/-- A client has connected, and said nothing. -/
def connected : List ServerMove := .start (.connect "anon") :: steps 0 1

theorem connected_plays :
    (server.playAll freshIds connected (World.initial (Server.blank true))).isSome = true := by
  decide +kernel

/-- The turn of the client on `m`, with three draws. -/
def turn (m : ClientMessage) : Option (Unit × Server) :=
  Prog.run Op.exec (onMessage "anon" m) [Draw.from 0, Draw.from 1, Draw.from 2]
    (Option.get _ connected_plays).st

theorem turn_listDevices_runs : (turn .listDevices).isSome = true := by decide +kernel

theorem turn_requestTurnCredentials_runs : (turn .requestTurnCredentials).isSome = true := by
  decide +kernel

/-- The turn on one message is a sequence. -/
theorem turns_of_run {m : ClientMessage} (h : (turn m).isSome = true)
    (hun : (((turn m).get h).2.socket "anon").connState = .unauthenticated) :
    Turns "anon" [m] (Option.get _ connected_plays).st ((turn m).get h).2 :=
  .cons (Prog.run_runs (fun _ _ _ _ => trivial) (Option.some_get h).symm) hun (.nil _)

theorem unauthenticated_gate_listDevices :
    Gated "anon" (Option.get _ connected_plays).st ((turn .listDevices).get turn_listDevices_runs).2 :=
  (unauthenticated_gate (by decide +kernel)
    (turns_of_run turn_listDevices_runs (by decide +kernel))).1.mpr (by decide +kernel)

/-- A client that never logged in gets TURN credentials. -/
theorem turn_credentials_ungated : ¬ ∀ (c : ConnectionId) (s s' : Server) (ms : List ClientMessage),
    (s.socket c).connState = .unauthenticated → Turns c ms s s' → Gated c s s' := by
  intro h
  have hg := h "anon" _ _ _ (by decide +kernel)
    (turns_of_run turn_requestTurnCredentials_runs (by decide +kernel))
  obtain ⟨l, hl, hall⟩ := hg.replies
  have hsent : ((((turn .requestTurnCredentials).get turn_requestTurnCredentials_runs).2.channel
      "anon").queue.any fun msg => !msg.isRefusal) = true := by
    decide +kernel
  have hempty : ((Option.get _ connected_plays).st.channel "anon").queue = [] := by decide +kernel
  rw [hl, hempty, List.nil_append, List.any_eq_true] at hsent
  obtain ⟨msg, hm, hr⟩ := hsent
  simp [hall msg hm] at hr

end Schedule

end Visuara.Signaling
