/-
  Visuara.Client.SetPassword
  ──────────────────────────
  **`set_unattended_password` AGAINST THE SERVER** (`visuara-client/src/host.rs`).

  The call logs in over a connection of its own, sends one
  `SetUnattendedPassword`, and returns when `send` does.  What becomes of the
  message it is never told: the server takes it up at its own time, and where
  it refuses, its `Error` comes to a connection nobody reads.

    • `Setting.Step`      — one step of the call, or of the server;
    • `turn_ends`         — how a `SetUnattendedPassword` may end on the server;
    • `Setting.Meets`     — the call returns `Ok` only once it has ended well;
    • `password_set_when` — in such runs `Ok` means that the password is set.
-/
import Visuara.Client.Authenticate

namespace Visuara.Client

open Interleave Sequence Signaling

/-! ## §1. The call. -/

/-- `set_unattended_password` goes on with the reply to its `Login`. -/
def setUnattendedPassword (targetDeviceId : DeviceId) (unattendedPassword : String) :
    ServerMessage → Except ClientError ClientMessage
  | .authOk _ => .ok (.setUnattendedPassword targetDeviceId unattendedPassword)
  | other => .error (.loginFailed other)

theorem setUnattendedPassword_ok {d : DeviceId} {pw : String} {msg : ServerMessage}
    {m : ClientMessage} (h : setUnattendedPassword d pw msg = .ok m) :
    (∃ token, msg = .authOk token) ∧ m = .setUnattendedPassword d pw := by
  unfold setUnattendedPassword at h
  split at h
  next token => exact ⟨⟨token, rfl⟩, (Except.ok.inj h).symm⟩
  next => exact absurd h (by simp)

/-- Where a call of `set_unattended_password` is. -/
inductive SetCall where
  /-- It waits for the reply to its `Login`. -/
  | loggingIn
  /-- Its `SetUnattendedPassword` is on the way, and `send` has not returned. -/
  | sending
  | returned (r : Except ClientError Unit)
  deriving DecidableEq

/-- The server, and a call of `set_unattended_password` on one of its connections. -/
structure Setting where
  world : ServerWorld
  call : SetCall
  /-- What it has sent, oldest first. -/
  sent : List ClientMessage
  /-- How many of these the server has taken up. -/
  taken : Nat
  /-- How many messages it has received. -/
  received : Nat

namespace Setting

/-- The call up to its first `recv`. -/
def start (email password : String) (w : ServerWorld) : Setting :=
  ⟨w, .loggingIn, [.login email password], 0, 0⟩

/-- The call goes on with the message it has received. -/
def receive (d : DeviceId) (pw : String) (msg : ServerMessage) (a : Setting) : Setting :=
  match setUnattendedPassword d pw msg with
  | .ok m => { a with call := .sending, sent := a.sent ++ [m], received := a.received + 1 }
  | .error e => { a with call := .returned (.error e), received := a.received + 1 }

/-- The messages for the connection, oldest first. -/
def queue (a : Setting) (x : ConnectionId) : List ServerMessage := (a.world.st.channel x).queue

section

variable [Crates] (x : ConnectionId) (d : DeviceId) (pw : String)

inductive Step : Setting → Setting → Prop where
  /-- The server takes up the next message of the call. -/
  | takes {a : Setting} {w : ServerWorld} {m : ClientMessage}
      (hs : server.Step anyDraw a.world w)
      (hlog : w.log = .start a.world.next (.message x m) :: a.world.log)
      (hnext : a.sent[a.taken]? = some m) :
      Step a { a with world := w, taken := a.taken + 1 }
  /-- The server does something else. -/
  | serves {a : Setting} {w : ServerWorld} (hs : server.Step anyDraw a.world w)
      (hlog : ∀ j t, w.log = .start j t :: a.world.log → Attempt.startsItself x t = true) :
      Step a { a with world := w }
  /-- The call receives the reply to its `Login`. -/
  | receives {a : Setting} {msg : ServerMessage} (hcall : a.call = .loggingIn)
      (hnext : (a.queue x)[a.received]? = some msg) : Step a (a.receive d pw msg)
  /-- The last `send` returns, and so does the call. -/
  | returns {a : Setting} (hcall : a.call = .sending) :
      Step a { a with call := .returned (.ok ()) }
  /-- `send` or `recv` fails. -/
  | fails {a : Setting} (hcall : ∀ r, a.call ≠ .returned r) :
      Step a { a with call := .returned (.error .closed) }

/-- The runs of a call. -/
abbrev Reachable (a a' : Setting) : Prop := Relation.ReflTransGen (Step x d pw) a a'

end

end Setting

/-! ## §2. How the turn ends. -/

/-- What the server is asked for. -/
abbrev setTurn (x : ConnectionId) (d : DeviceId) (pw : String) : Task :=
  .message x (.setUnattendedPassword d pw)

/-- The results upon which the turn of `account` is refused: the device is
unknown or another's, or the hash cannot be computed or not be stored. -/
def refuses (account : Int) : Call Op Op.Res → Bool
  | ⟨.db (.findDevice _), .ok (some device)⟩ => device.accountId ≠ account
  | ⟨.db (.findDevice _), _⟩ => true
  | ⟨.hashPassword _, r⟩ => !r.isOk
  | ⟨.db (.setUnattendedPasswordHash _ _), r⟩ => !r.isOk
  | _ => false

/-- The turn has been refused. -/
def Refused (x : ConnectionId) (d : DeviceId) (pw : String) (l : List ServerEvent) : Prop :=
  ∃ j account c, Event.call j (setTurn x d pw) ⟨.connState x, .authenticated account⟩ ∈ l
    ∧ Event.call j (setTurn x d pw) c ∈ l ∧ refuses account c = true

/-- The operations upon which it depends what becomes of the turn. -/
def decides : Op → Bool
  | .connState _ | .hashPassword _ | .db _ => true
  | _ => false

theorem decides_of_refuses {account : Int} {c : Call Op Op.Res} (h : refuses account c = true) :
    decides c.op = true := by
  unfold refuses at h
  split at h
  all_goals first | rfl | exact absurd h Bool.false_ne_true

/-- What a `SetUnattendedPassword` has done when it is over. -/
def SetEnds (t : Task) (h : Calls) : Prop :=
  match t with
  | .message x (.setUnattendedPassword d pw) =>
    Did h (.connState x) .unauthenticated
      ∨ (∃ account, Did h (.connState x) (.authenticated account)
        ∧ ∃ c ∈ h, refuses account c = true)
      ∨ ∃ hash, Did h (.hashPassword pw) (.ok hash)
        ∧ Did h (.db (.setUnattendedPasswordHash d hash)) (.ok ())
  | _ => True

theorem SetEnds.mono {t : Task} {h h' : Calls} (hends : SetEnds t h) (hsub : h ⊆ h') :
    SetEnds t h' := by
  unfold SetEnds at hends ⊢
  split
  next x d pw =>
    rcases hends with hout | ⟨account, hin, c, hc, hrefuses⟩ | ⟨hash, hhash, hstored⟩
    · exact .inl (hsub hout)
    · exact .inr (.inl ⟨account, hsub hin, c, hsub hc, hrefuses⟩)
    · exact .inr (.inr ⟨hash, hsub hhash, hsub hstored⟩)
  next => trivial

section

variable [Crates]

theorem ends_setUnattendedPassword (x : ConnectionId) (d : DeviceId) (pw : String) :
    Prog.Follows (fun _ _ => True) (fun h _ => SetEnds (setTurn x d pw) h)
      (handleMessage x (.setUnattendedPassword d pw)).run [] := by
  simp only [handleMessage, requireAuth_bind, Prog.follows_call]
  refine ⟨trivial, fun st => ?_⟩
  cases st with
  | unauthenticated => exact .inl List.mem_cons_self
  | authenticated account =>
    simp only [Handler.query_bind, Handler.okOr_bind, Prog.follows_call]
    refine ⟨trivial, fun found => ?_⟩
    -- every early return is a refusal of the last call
    have hrefused {c : Call Op Op.Res} {h : Calls} (hc : refuses account c = true)
        (hin : Did h (.connState x) (.authenticated account)) :
        SetEnds (setTurn x d pw) (c :: h) :=
      .inr (.inl ⟨account, List.mem_cons_of_mem _ hin, c, List.mem_cons_self, hc⟩)
    cases found with
    | error e => exact hrefused rfl List.mem_cons_self
    | ok found =>
      cases found with
      | none => exact hrefused rfl List.mem_cons_self
      | some device =>
        by_cases howner : device.accountId = account
        · simp only [howner, ne_eq, not_true_eq_false, if_false, Handler.mk_bind, perform,
            Prog.perform_bind, Handler.query_bind, Handler.perform_bind]
          refine ⟨trivial, fun hashed => ?_⟩
          cases hashed with
          | error e => exact hrefused rfl (by simp [Did])
          | ok hash =>
            refine ⟨trivial, fun r => ?_⟩
            cases r with
            | error e => exact hrefused rfl (by simp [Did])
            | ok u =>
              -- the rest only tells the host
              have hstored : SetEnds (setTurn x d pw)
                  [⟨.db (.setUnattendedPasswordHash d hash), .ok u⟩, ⟨.hashPassword pw, .ok hash⟩,
                    ⟨.db (.findDevice d), .ok (some device)⟩,
                    ⟨.connState x, .authenticated account⟩] :=
                .inr (.inr ⟨hash, List.mem_cons_of_mem _ List.mem_cons_self, List.mem_cons_self⟩)
              exact (Prog.follows_suffix _ _).mono (fun _ _ h => h)
                fun _ _ hsuffix => hstored.mono hsuffix.subset
        · simp only [ne_eq, howner, not_false_eq_true, if_true]
          exact hrefused (by simp [refuses, howner]) List.mem_cons_self

/-- **How a turn ends**: unauthenticated, refused, or with the hash stored. -/
theorem turn_ends (t : Task) :
    Prog.Follows (fun _ _ => True) (fun h _ => SetEnds t h) (server.body t) [] := by
  by_cases hset : ∃ x d pw, t = setTurn x d pw
  · obtain ⟨x, d, pw, rfl⟩ := hset
    show Prog.Follows _ _ (onMessage x (.setUnattendedPassword d pw) >>= _) _
    rw [Prog.follows_bind, onMessage_eq, Prog.follows_bind]
    refine (ends_setUnattendedPassword x d pw).mono (fun _ _ h => h) fun h r hends => ?_
    cases r with
    | ok _ => exact hends
    | error e => exact ⟨trivial, fun _ => hends.mono (List.subset_cons_self _ _)⟩
  · refine (Prog.follows_trivial _ _).mono (fun _ _ h => h) fun h _ _ => ?_
    unfold SetEnds
    split
    next x d pw => exact absurd ⟨x, d, pw, rfl⟩ hset
    next => trivial

end

/-! ## §3. Rows of `devices`. -/

/-- The methods that write the row `device`. -/
def writesRow (device : Device) : Query → Bool
  | .setUnattendedPasswordHash d _ | .deleteDevice d => d = device.id
  | .deleteAccount id => id = device.accountId
  | _ => false

/-- The row was written between the two. -/
def WrittenSince (device : Device) (w₀ w : ServerWorld) : Prop :=
  ∃ l, w.log = l ++ w₀.log ∧ ∃ j t q r, Event.call j t ⟨.db q, r⟩ ∈ l ∧ writesRow device q = true

section

variable [Crates] {A : Assumption Op Op.Res Draw Task Env} {w w' : ServerWorld} {device : Device}

theorem row_exec {o : Op} {draw : Draw} {s : Server} (h : device ∈ s.db.devices)
    (ho : ∀ q, o = .db q → writesRow device q = false) :
    device ∈ (o.exec draw s).2.db.devices := by
  rw [Op.exec_db]
  cases o with
  | db q =>
    dsimp only
    split
    · exact h
    · have hq := ho q rfl
      apply Query.exec_devices_keeps h
      · intro heq
        simp [heq, writesRow] at hq
      · intro hash heq
        simp [heq, writesRow] at hq
      · intro heq
        simp [heq, writesRow] at hq
  | _ => exact h

/-- **A row stays as it is**, unless it is written. -/
theorem row_stays (h : device ∈ w.st.db.devices) (hr : server.Reachable A w w') :
    device ∈ w'.st.db.devices ∨ WrittenSince device w w' := by
  induction hr with
  | refl => exact .inl h
  | @tail u u' hu hs ih =>
    obtain ⟨l, hl⟩ := System.Reachable.log_suffix hu
    obtain hthere | ⟨l', hl', j, t, q, r, he, hq⟩ := ih
    · cases hs with
      | start t _ _ =>
        left
        show device ∈ (t.begin u.st).db.devices
        cases t <;> exact hthere
      | @call j t o k draw _ _ =>
        by_cases ho : ∃ q, o = .db q ∧ writesRow device q = true
        · obtain ⟨q, rfl, hq⟩ := ho
          right
          refine ⟨.call j t ⟨.db q, ((Op.db q).exec draw u.st).1⟩ :: l, ?_, j, t, q, _,
            List.mem_cons_self, hq⟩
          rw [List.cons_append, ← hl]
          rfl
        · left
          refine row_exec hthere fun q heq => ?_
          rw [← Bool.not_eq_true]
          exact fun hq => ho ⟨q, heq, hq⟩
      | env e =>
        left
        cases e <;> exact hthere
    · right
      obtain ⟨e, he'⟩ := hs.log_eq
      refine ⟨e :: l', ?_, j, t, q, r, List.mem_cons_of_mem _ he, hq⟩
      rw [he', hl']
      rfl

/-- An `UPDATE` that finds its row leaves it with the hash. -/
theorem row_updated (hs : server.Step A w w') {j : Nat} {t : Task} {d : DeviceId} {hash : String}
    (hlog : w'.log = .call j t ⟨.db (.setUnattendedPasswordHash d hash), .ok ()⟩ :: w.log)
    (hrow : (w.st.db.devices.lookup d).isSome = true) :
    ∃ device ∈ w'.st.db.devices, device.id = d ∧ device.unattendedPasswordHash = some hash := by
  obtain ⟨draw, k, -, -, hres, hst, -⟩ := hs.of_call hlog
  obtain ⟨hdraw, -⟩ := Op.exec_query_ok hres.symm
  obtain ⟨old, hold⟩ := Option.isSome_iff_exists.mp hrow
  obtain ⟨hin, rfl⟩ := Relational.Table.lookup_eq_some_iff.mp hold
  refine ⟨{ old with unattendedPasswordHash := some hash }, ?_, rfl, rfl⟩
  rw [hst]
  show _ ∈ ((Op.db (.setUnattendedPasswordHash old.id hash)).exec draw w.st).2.db.devices
  rw [Op.exec_query hdraw]
  show _ ∈ w.st.db.devices.updateAt old.id
    (fun d => { d with unattendedPasswordHash := some hash }) fun _ => rfl
  exact (Relational.Table.mem_updateAt _).mpr (.inr ⟨old, hin, rfl, rfl⟩)

end

namespace Setting

/-! ## §4. Every moment of a call. -/

section

variable [Crates] {x : ConnectionId} {email password : String} {d : DeviceId} {pw : String}
  {s₀ : Server} {w₀ : ServerWorld} {a a' : Setting}

theorem Step.server (h : Step x d pw a a') :
    a'.world = a.world ∨ server.Step anyDraw a.world a'.world := by
  cases h with
  | takes hs _ _ => exact .inr hs
  | serves hs _ => exact .inr hs
  | receives =>
    left
    unfold receive
    split <;> rfl
  | returns => exact .inl rfl
  | fails => exact .inl rfl

/-- The server's part of a call is a run of the server. -/
theorem Reachable.server (h : Reachable x d pw a a') :
    server.Reachable anyDraw a.world a'.world := by
  induction h with
  | refl => exact .refl
  | tail _ hs ih =>
    obtain hsame | hstep := hs.server
    · rwa [hsame]
    · exact ih.tail hstep

/-- What has been sent when the call is there. -/
def Script (email password : String) (d : DeviceId) (pw : String) :
    SetCall → List ClientMessage → Prop
  | .loggingIn, sent => sent = [.login email password]
  | .sending, sent | .returned (.ok _), sent =>
    sent = [.login email password, .setUnattendedPassword d pw]
  | .returned (.error _), sent => sent = [.login email password]
      ∨ sent = [.login email password, .setUnattendedPassword d pw]

omit [Crates] in
theorem Script.sent {call : SetCall} {sent : List ClientMessage}
    (h : Script email password d pw call sent) : sent = [.login email password]
      ∨ sent = [.login email password, .setUnattendedPassword d pw] := by
  cases call with
  | loggingIn => exact .inl h
  | sending => exact .inr h
  | returned r =>
    cases r with
    | ok _ => exact .inr h
    | error e => exact h

/-- What is known of a call. -/
structure Kept (x : ConnectionId) (email password : String) (d : DeviceId) (pw : String)
    (a : Setting) : Prop where
  script : Script email password d pw a.call a.sent
  /-- The turns of the connection are what the call has sent. -/
  turns : (Signaling.turns x a.world.log).map Prod.snd = a.sent.take a.taken
  /-- It goes on after an `AuthOk` only. -/
  told : .setUnattendedPassword d pw ∈ a.sent → ∃ token, .authOk token ∈ a.queue x
  /-- So the server knows the account when it comes to the message. -/
  known : ∀ j r, Event.call j (setTurn x d pw) ⟨.connState x, r⟩ ∈ a.world.log →
    r ≠ .unauthenticated

/-- What has been sent to the connection stays on its queue. -/
theorem queue_stays (h0 : s₀.Unused x) (h : Run anyDraw s₀ a.world)
    (hs : a'.world = a.world ∨ server.Step anyDraw a.world a'.world) {msg : ServerMessage}
    (hm : msg ∈ a.queue x) : msg ∈ a'.queue x := by
  obtain hsame | hstep := hs
  · unfold queue
    rwa [hsame]
  · exact queue_grows h0 h hstep hm

omit [Crates] in
/-- Nothing else is sent over the connection. -/
theorem Kept.turns_prefix (h : Kept x email password d pw a) :
    (Signaling.turns x a.world.log).map Prod.snd
      <+: [.login email password, .setUnattendedPassword d pw] := by
  rw [h.turns]
  refine (List.take_prefix _ _).trans ?_
  obtain hsent | hsent := h.script.sent
  · rw [hsent]
    exact ⟨[.setUnattendedPassword d pw], rfl⟩
  · exact ⟨[], by rw [hsent, List.append_nil]⟩

omit [Crates] in
/-- The server comes to the message once. -/
theorem Kept.once (h : Kept x email password d pw a) {j j' : Nat}
    (he : Event.start j (setTurn x d pw) ∈ a.world.log)
    (he' : Event.start j' (setTurn x d pw) ∈ a.world.log) : j = j' := by
  have hnodup : ((Signaling.turns x a.world.log).map Prod.snd).Nodup :=
    h.turns_prefix.sublist.nodup (by simp)
  have hin : (j, .setUnattendedPassword d pw) ∈ Signaling.turns x a.world.log := mem_turns.mpr he
  have hin' : (j', .setUnattendedPassword d pw) ∈ Signaling.turns x a.world.log :=
    mem_turns.mpr he'
  exact congrArg Prod.fst (List.inj_on_of_nodup_map hnodup hin hin' rfl)

/-- Once the server has come to it, the connection is logged in. -/
theorem Kept.loggedIn (h : Kept x email password d pw a) (h0 : s₀.Unused x)
    (hw : Run anyDraw s₀ a.world) {j : Nat} (he : Event.start j (setTurn x d pw) ∈ a.world.log) :
    LoggedIn x a.world.st := by
  have hin : ClientMessage.setUnattendedPassword d pw
      ∈ (Signaling.turns x a.world.log).map Prod.snd :=
    List.mem_map.mpr ⟨(j, .setUnattendedPassword d pw), mem_turns.mpr he, rfl⟩
  rw [h.turns] at hin
  obtain ⟨token, hm⟩ := h.told (List.mem_of_mem_take hin)
  exact loggedIn_of_told h0 hw hm

/-- What the server does keeps `known`. -/
theorem Kept.known_step (h : Kept x email password d pw a) (h0 : s₀.Unused x)
    (hw : Run anyDraw s₀ a.world) {w : ServerWorld} (hs : server.Step anyDraw a.world w)
    {j : Nat} {r : ConnState} (he : Event.call j (setTurn x d pw) ⟨.connState x, r⟩ ∈ w.log) :
    r ≠ .unauthenticated := by
  obtain ⟨e, hlog⟩ := hs.log_eq
  rw [hlog] at he
  rcases List.mem_cons.mp he with rfl | he
  · obtain ⟨draw, k, hj, -, hres, -⟩ := hs.of_call hlog
    obtain ⟨account, haccount⟩ := h.loggedIn h0 hw (hw.numbered.job_start _ _ _ hj)
    intro hout
    have hstate : r = (a.world.st.socket x).connState := hres
    rw [hout, haccount] at hstate
    exact absurd hstate (by simp)
  · exact h.known j r he

theorem taken_le (h : Reachable x d pw (start email password w₀) a) :
    a.taken ≤ a.sent.length := by
  induction h with
  | refl => exact Nat.zero_le _
  | tail _ hs ih =>
    cases hs with
    | takes _ _ hnext => exact Nat.succ_le_of_lt (List.getElem?_eq_some_iff.mp hnext).1
    | serves => exact ih
    | receives =>
      unfold receive
      split
      · show _ ≤ (_ ++ [_]).length
        rw [List.length_append]
        exact Nat.le_add_right_of_le ih
      · exact ih
    | returns => exact ih
    | fails => exact ih

omit [Crates] in
/-- The reply to the `Login` leaves the script as it should be. -/
theorem Kept.receive (h : Kept x email password d pw a) {msg : ServerMessage}
    (hcall : a.call = .loggingIn) (hnext : (a.queue x)[a.received]? = some msg)
    (htaken : a.taken ≤ a.sent.length) : Kept x email password d pw (a.receive d pw msg) := by
  have hscript := h.script
  rw [hcall] at hscript
  unfold Setting.receive
  split
  next m hok =>
    obtain ⟨⟨token, rfl⟩, rfl⟩ := setUnattendedPassword_ok hok
    refine ⟨?_, ?_, fun _ => ⟨token, List.mem_of_getElem? hnext⟩, h.known⟩
    · show a.sent ++ _ = _
      rw [show a.sent = _ from hscript]
      rfl
    · show _ = (a.sent ++ [_]).take a.taken
      rw [List.take_append_of_le_length htaken]
      exact h.turns
  next => exact ⟨.inl hscript, h.turns, h.told, h.known⟩

/-- **Every moment of a call is as expected.** -/
theorem kept (h0 : s₀.Unused x) (h₀ : Run anyDraw s₀ w₀)
    (hfresh : (w₀.st.socket x).phase = .fresh)
    (h : Reachable x d pw (start email password w₀) a) : Kept x email password d pw a := by
  induction h with
  | refl =>
    refine ⟨rfl, ?_, fun hin => absurd hin (by simp [start]), fun j r he => ?_⟩
    · show (Signaling.turns x w₀.log).map Prod.snd = []
      rw [Attempt.turns_fresh h₀ hfresh]
      rfl
    · exact absurd (h₀.numbered.call_start _ _ _ he) ((retained h₀ x).fresh hfresh _ _ rfl)
  | @tail a a' hr hs ih =>
    have hw : Run anyDraw s₀ a.world := h₀.trans (Reachable.server hr)
    have htold : .setUnattendedPassword d pw ∈ a.sent → ∃ token, .authOk token ∈ a'.queue x := by
      intro hin
      obtain ⟨token, hm⟩ := ih.told hin
      exact ⟨token, queue_stays h0 hw hs.server hm⟩
    cases hs with
    | @takes w m hs hlog hnext =>
      refine ⟨ih.script, ?_, htold, fun j r he => ih.known_step h0 hw hs he⟩
      show (Signaling.turns x w.log).map Prod.snd = a.sent.take (a.taken + 1)
      rw [hlog]
      exact Attempt.turns_takes ih.turns hnext
    | @serves w hs hlog =>
      refine ⟨ih.script, ?_, htold, fun j r he => ih.known_step h0 hw hs he⟩
      show (Signaling.turns x w.log).map Prod.snd = _
      rw [Attempt.turns_serves hs hlog]
      exact ih.turns
    | receives hcall hnext => exact ih.receive hcall hnext (taken_le hr)
    | returns hcall =>
      have hscript := ih.script
      rw [hcall] at hscript
      exact ⟨hscript, ih.turns, ih.told, ih.known⟩
    | fails => exact ⟨ih.script.sent, ih.turns, ih.told, ih.known⟩

/-! ## §5. Runs in which it ends well. -/

/-- The turn is in progress or over, and nothing it has left to do decides
anything. -/
def Through (x : ConnectionId) (d : DeviceId) (pw : String) (w : ServerWorld) : Prop :=
  ∃ j p h, w.jobs j = some (setTurn x d pw, p) ∧ Only (fun o => !decides o) p h

/-- **The condition on a step.**  The row is there when it is updated, and `send`
returns after the server is through with the message and has not refused it. -/
structure Meets (x : ConnectionId) (d : DeviceId) (pw : String) (a a' : Setting) : Prop where
  row : ∀ j hash, a'.world.log = .call j (setTurn x d pw)
      ⟨.db (.setUnattendedPasswordHash d hash), .ok ()⟩ :: a.world.log →
    (a.world.st.db.devices.lookup d).isSome = true
  prompt : a.call = .sending → a'.call = .returned (.ok ()) →
    Through x d pw a.world ∧ ¬ Refused x d pw a.world.log

/-- The runs whose steps all meet it. -/
abbrev ReachableWhen (x : ConnectionId) (d : DeviceId) (pw : String) (a a' : Setting) : Prop :=
  Relation.ReflTransGen (fun a a' => Step x d pw a a' ∧ Meets x d pw a a') a a'

theorem ReachableWhen.reachable (h : ReachableWhen x d pw a a') : Reachable x d pw a a' :=
  Relation.ReflTransGen.mono (fun _ _ h => h.1) _ _ h

/-- The turn has stored `hash` for `d`, and nobody has touched the row since. -/
def StoredHash (x : ConnectionId) (d : DeviceId) (pw : String) (w₀ : ServerWorld) (hash : String)
    (w : ServerWorld) : Prop :=
  ∃ w₁ w₂ j device, server.Reachable anyDraw w₀ w₁ ∧ server.Step anyDraw w₁ w₂
    ∧ server.Reachable anyDraw w₂ w
    ∧ w₂.log = .call j (setTurn x d pw) ⟨.db (.setUnattendedPasswordHash d hash), .ok ()⟩ :: w₁.log
    ∧ device.id = d ∧ device.unattendedPasswordHash = some hash ∧ device ∈ w₂.st.db.devices
    ∧ (device ∈ w.st.db.devices ∨ WrittenSince device w₂ w)

/-- **What the call promises.**  On `Ok` the server has stored for the device a
hash that verifies exactly the password, and where it has refused the call has
not returned `Ok`. -/
structure Promised (x : ConnectionId) (d : DeviceId) (pw : String) (w₀ : ServerWorld)
    (a : Setting) : Prop where
  stored : a.call = .returned (.ok ()) → ∃ hash, StoredHash x d pw w₀ hash a.world
    ∧ ∀ other, verifyPassword other hash = true ↔ other = pw
  refused : Refused x d pw a.world.log → ∀ r, a.call = .returned r → ∃ e, r = .error e

/-- The turn has done what it was to do, and nothing is to come. -/
structure Settled (x : ConnectionId) (d : DeviceId) (pw : String) (w : ServerWorld) : Prop where
  notRefused : ¬ Refused x d pw w.log
  stored : ∃ j hash, Event.call j (setTurn x d pw) ⟨.hashPassword pw, .ok hash⟩ ∈ w.log
    ∧ Event.call j (setTurn x d pw) ⟨.db (.setUnattendedPasswordHash d hash), .ok ()⟩ ∈ w.log
  through : ∀ j p, w.jobs j = some (setTurn x d pw, p) → ∃ h, Only (fun o => !decides o) p h

omit [Crates] in
/-- Every operation can be answered. -/
theorem res_nonempty [Crates] (o : Op) : Nonempty o.Res :=
  ⟨(o.exec (Draw.from 0) (Server.blank true)).1⟩

/-- When the turn is through and has not been refused, the hash is stored. -/
theorem Kept.settled (h : Kept x email password d pw a) (hw : Run anyDraw s₀ a.world)
    (hthrough : Through x d pw a.world) (hnot : ¬ Refused x d pw a.world.log) :
    Settled x d pw a.world := by
  obtain ⟨j, p, g, hj, hp⟩ := hthrough
  have hstart := hw.numbered.job_start _ _ _ hj
  have hpast {c : Call Op Op.Res} (hc : c ∈ hist j a.world.log) :
      Event.call j (setTurn x d pw) c ∈ a.world.log := hw.event_of_hist hj hc
  -- what the turn will have done when it is over, it has done now
  obtain ⟨h', _, hends, hold⟩ := Prog.Follows.reaches (P := fun o => decides o = true) res_nonempty
    (System.Reachable.follows turn_ends hw j _ p hj)
    (Prog.Follows.mono hp (fun _ _ ho => by simpa using ho) fun _ _ h => h)
  refine ⟨hnot, ?_, fun j' p' hj' => ?_⟩
  · rcases hends with hout | ⟨account, hin, c, hc, hrefuses⟩ | ⟨hash, hhash, hstored⟩
    · exact absurd rfl (h.known j _ (hpast (hold _ hout rfl)))
    · exact absurd ⟨j, account, c, hpast (hold _ hin rfl),
        hpast (hold _ hc (decides_of_refuses hrefuses)), hrefuses⟩ hnot
    · exact ⟨j, hash, hpast (hold _ hhash rfl), hpast (hold _ hstored rfl)⟩
  · obtain rfl := h.once hstart (hw.numbered.job_start _ _ _ hj')
    rw [hj] at hj'
    obtain ⟨-, rfl⟩ := Prod.mk.inj (Option.some.inj hj')
    exact ⟨g, hp⟩

/-- And it stays so. -/
theorem Settled.step (h : Settled x d pw a.world) (hkept' : Kept x email password d pw a')
    (hw : Run anyDraw s₀ a.world) (hs : server.Step anyDraw a.world a'.world) :
    Settled x d pw a'.world := by
  obtain ⟨e, hlog⟩ := hs.log_eq
  obtain ⟨j₀, hash, hhash, hstored⟩ := h.stored
  -- a call of the turn that is new decides nothing
  have hnew {j : Nat} {c : Call Op Op.Res} (he : Event.call j (setTurn x d pw) c ∈ a'.world.log)
      (hc : decides c.op = true) : Event.call j (setTurn x d pw) c ∈ a.world.log := by
    rw [hlog] at he
    rcases List.mem_cons.mp he with rfl | he
    · obtain ⟨draw, k, hj, -⟩ := hs.of_call hlog
      obtain ⟨g, hp⟩ := h.through j _ hj
      have hnot : (!decides c.op) = true := hp.1
      rw [hc] at hnot
      exact absurd hnot (by simp)
    · exact he
  refine ⟨?_, ?_, fun j p hj => ?_⟩
  · intro hrefused
    obtain ⟨j, account, c, hin, hc, hrefuses⟩ := hrefused
    exact h.notRefused ⟨j, account, c, hnew hin rfl, hnew hc (decides_of_refuses hrefuses), hrefuses⟩
  · rw [hlog]
    exact ⟨j₀, hash, List.mem_cons_of_mem _ hhash, List.mem_cons_of_mem _ hstored⟩
  · obtain hold | ⟨o, k, r, hold, rfl, -⟩ | ⟨rfl, hstart⟩ := hs.job_cases hj
    · exact h.through j p hold
    · obtain ⟨g, hp⟩ := h.through j _ hold
      exact ⟨_, hp.2 r⟩
    · -- the turn does not start a second time
      have hstart₀ := hw.numbered.call_start _ _ _ hstored
      have hlt := hw.numbered.start_lt _ _ hstart₀
      have hsame : a.world.next = j₀ := by
        apply hkept'.once <;> rw [hstart]
        · exact List.mem_cons_self
        · exact List.mem_cons_of_mem _ hstart₀
      omega

/-- Every `UPDATE` of the turn has found its row. -/
theorem stored_when (h₀ : Run anyDraw s₀ w₀)
    (hfresh : (w₀.st.socket x).phase = .fresh)
    (h : ReachableWhen x d pw (start email password w₀) a) {j : Nat} {hash : String}
    (he : Event.call j (setTurn x d pw) ⟨.db (.setUnattendedPasswordHash d hash), .ok ()⟩
      ∈ a.world.log) : StoredHash x d pw w₀ hash a.world := by
  induction h with
  | refl =>
    exact absurd (h₀.numbered.call_start _ _ _ he) ((retained h₀ x).fresh hfresh _ _ rfl)
  | @tail a a' hr hs ih =>
    have hr₁ : server.Reachable anyDraw w₀ a.world := (ReachableWhen.reachable hr).server
    obtain hsame | hstep := hs.1.server
    · rw [hsame] at he ⊢
      exact ih he
    · obtain ⟨e, hlog⟩ := hstep.log_eq
      have hcases := he
      rw [hlog] at hcases
      rcases List.mem_cons.mp hcases with rfl | hold
      · obtain ⟨device, hin, hid, hhash⟩ := row_updated hstep hlog (hs.2.row j hash hlog)
        exact ⟨a.world, a'.world, j, device, hr₁, hstep, .refl, hlog, hid, hhash, hin, .inl hin⟩
      · obtain ⟨w₁, w₂, j₁, device, h₁, hst, h₂, hlog', hid, hhash, hin, -⟩ := ih hold
        have h₂' : server.Reachable anyDraw w₂ a'.world := h₂.tail hstep
        exact ⟨w₁, w₂, j₁, device, h₁, hst, h₂', hlog', hid, hhash, hin, row_stays hin h₂'⟩

/-- Once the call has returned `Ok`, the turn has ended well. -/
theorem settled_when (h0 : s₀.Unused x) (h₀ : Run anyDraw s₀ w₀)
    (hfresh : (w₀.st.socket x).phase = .fresh)
    (h : ReachableWhen x d pw (start email password w₀) a)
    (hok : a.call = .returned (.ok ())) : Settled x d pw a.world := by
  induction h with
  | refl => exact absurd hok (by simp [start])
  | @tail a a' hr hs ih =>
    have hreach : Reachable x d pw (start email password w₀) a := ReachableWhen.reachable hr
    have hw : Run anyDraw s₀ a.world := h₀.trans hreach.server
    have hkept := kept h0 h₀ hfresh hreach
    have hkept' := kept h0 h₀ hfresh (hreach.tail hs.1)
    cases hs.1 with
    | takes hstep _ _ => exact (ih hok).step hkept' hw hstep
    | serves hstep _ => exact (ih hok).step hkept' hw hstep
    | receives =>
      unfold receive at hok
      split at hok <;> exact absurd hok (by simp)
    | returns hcall =>
      obtain ⟨hthrough, hnot⟩ := hs.2.prompt hcall rfl
      exact hkept.settled hw hthrough hnot
    | fails => exact absurd hok (by simp)

/-- **In runs that meet the condition the call keeps its promise**, in every
state they get to. -/
theorem password_set_when {x : ConnectionId} {email password : String} {d : DeviceId} {pw : String}
    {s₀ : Server} {w₀ : ServerWorld} {a : Setting}
    (hexact : ∀ password salt hash, hashPassword password salt = .ok hash →
      ∀ other, verifyPassword other hash = true ↔ other = password)
    (h0 : s₀.Unused x) (h₀ : Run anyDraw s₀ w₀) (hfresh : (w₀.st.socket x).phase = .fresh)
    (h : ReachableWhen x d pw (start email password w₀) a) : Promised x d pw w₀ a := by
  have hw : Run anyDraw s₀ a.world := h₀.trans h.reachable.server
  constructor
  · intro hok
    obtain ⟨j, hash, hhash, hstored⟩ := (settled_when h0 h₀ hfresh h hok).stored
    obtain ⟨salt, hsalt⟩ := hashed hw hhash
    exact ⟨hash, stored_when h₀ hfresh h hstored, hexact _ _ _ hsalt⟩
  · intro hrefused r hcall
    cases r with
    | error e => exact ⟨e, rfl⟩
    | ok _ => exact absurd hrefused (settled_when h0 h₀ hfresh h hcall).notRefused

end

/-! ## §6. Calls that are played. -/

/-- What happens next in a call. -/
inductive Move where
  | takes
  | serves (m : ServerMove)
  | receives
  | returns

section

variable [Crates] (x : ConnectionId) (d : DeviceId) (pw : String)

/-- Carry out one move, if it is possible. -/
def play : Move → Setting → Option Setting
  | .takes, a => do
    let m ← a.sent[a.taken]?
    let w ← server.play anyDraw (.start (.message x m)) a.world
    pure { a with world := w, taken := a.taken + 1 }
  | .serves m, a =>
    match m with
    | .start t =>
      if Attempt.startsItself x t then
        (server.play anyDraw (.start t) a.world).map fun w => { a with world := w }
      else none
    | m => (server.play anyDraw m a.world).map fun w => { a with world := w }
  | .receives, a =>
    match a.call, (a.queue x)[a.received]? with
    | .loggingIn, some msg => some (a.receive d pw msg)
    | _, _ => none
  | .returns, a => if a.call = .sending then some { a with call := .returned (.ok ()) } else none

/-- Carry out all moves, as long as every step passes the check. -/
def playAll (check : Setting → Setting → Bool) : List Move → Setting → Option Setting
  | [], a => some a
  | m :: ms, a =>
    (a.play x d pw m).bind fun a' => if check a a' then playAll check ms a' else none

variable {x d pw}

theorem play_step {a a' : Setting} {m : Move} (hn : System.Numbered a.world)
    (h : a.play x d pw m = some a') : Step x d pw a a' := by
  cases m with
  | takes =>
    obtain ⟨m, hnext, h⟩ := Option.bind_eq_some_iff.mp h
    obtain ⟨w, hplay, h⟩ := Option.bind_eq_some_iff.mp h
    obtain rfl := Option.some.inj h
    exact .takes (System.play_step hn hplay) (System.play_start_log hplay) hnext
  | serves m =>
    cases m with
    | start t =>
      simp only [play] at h
      split at h
      next hitself =>
        obtain ⟨w, hplay, rfl⟩ := Option.map_eq_some_iff.mp h
        refine .serves (System.play_step hn hplay) (System.play_starts (fun t' ht => ?_) hplay)
        obtain rfl := System.Move.start.inj ht
        exact hitself
      next => exact absurd h (by simp)
    | step j d | env e =>
      simp only [play, Option.map_eq_some_iff] at h
      obtain ⟨w, hplay, rfl⟩ := h
      exact .serves (System.play_step hn hplay)
        (System.play_starts (fun t ht => absurd ht (by simp)) hplay)
  | receives =>
    simp only [play] at h
    split at h
    next msg hcall hnext =>
      obtain rfl := Option.some.inj h
      exact .receives hcall hnext
    next => exact absurd h (by simp)
  | returns =>
    simp only [play] at h
    split at h
    next hcall =>
      obtain rfl := Option.some.inj h
      exact .returns hcall
    next => exact absurd h (by simp)

/-- **Moves that play through are a run of the call**, with steps as checked. -/
theorem playAll_reachable {s₀ : Server} {check : Setting → Setting → Bool}
    {C : Setting → Setting → Prop} (hC : ∀ a a', check a a' = true → C a a') :
    ∀ {ms : List Move} {a a' : Setting}, Run anyDraw s₀ a.world →
      a.playAll x d pw check ms = some a' →
        Relation.ReflTransGen (fun a a' => Step x d pw a a' ∧ C a a') a a'
  | [], a, a', _, h => by
    obtain rfl := Option.some.inj h
    exact .refl
  | m :: ms, a, a', hw, h => by
    obtain ⟨b, hplay, hrest⟩ := Option.bind_eq_some_iff.mp h
    split at hrest
    next hcheck =>
      have hstep : Step x d pw a b := play_step hw.numbered hplay
      have hb : Run anyDraw s₀ b.world :=
        hw.trans (Reachable.server (Relation.ReflTransGen.single hstep))
      exact (playAll_reachable hC hb hrest).head ⟨hstep, hC _ _ hcheck⟩
    next => exact absurd hrest (by simp)

end

/-- Whether the turn has been refused. -/
def refused? (x : ConnectionId) (d : DeviceId) (pw : String) (l : List ServerEvent) : Bool :=
  l.any fun e =>
    match e with
    | .call j t ⟨.connState _, .authenticated account⟩ => t = setTurn x d pw && l.any fun e' =>
      match e' with
      | .call j' t' c => j' = j && t' = setTurn x d pw && refuses account c
      | _ => false
    | _ => false

theorem found_refused {x : ConnectionId} {d : DeviceId} {pw : String} {l : List ServerEvent}
    (h : Refused x d pw l) : refused? x d pw l = true := by
  obtain ⟨j, account, c, hin, hc, hrefuses⟩ := h
  unfold refused?
  rw [List.any_eq_true]
  refine ⟨_, hin, ?_⟩
  simp only [decide_true, Bool.true_and, List.any_eq_true]
  exact ⟨_, hc, by simp [hrefuses]⟩

/-- A check of the condition. -/
def meets (x : ConnectionId) (d : DeviceId) (pw : String) (a a' : Setting) : Bool :=
  (match a'.world.log.head? with
    | some (.call _ t ⟨.db (.setUnattendedPasswordHash _ _), _⟩) =>
      t ≠ setTurn x d pw || (a.world.st.db.devices.lookup d).isSome
    | _ => true)
  && (a.call ≠ .sending || a'.call ≠ .returned (.ok ())
    || ((List.range a.world.next).any fun j =>
        match a.world.jobs j with
        | some (t, p) => t = setTurn x d pw && p.done
        | none => false)
      && !refused? x d pw a.world.log)

theorem meets_sound {x : ConnectionId} {d : DeviceId} {pw : String} (a a' : Setting)
    (h : meets x d pw a a' = true) : Meets x d pw a a' := by
  unfold meets at h
  obtain ⟨hrow, hprompt⟩ := Bool.and_eq_true_iff.mp h
  constructor
  · intro j hash hlog
    rw [hlog] at hrow
    simpa using hrow
  · intro hcall hcall'
    simp only [hcall, hcall', ne_eq, not_true_eq_false, decide_false, Bool.false_or,
      Bool.and_eq_true, List.any_eq_true, Bool.not_eq_true'] at hprompt
    obtain ⟨⟨j, -, hj⟩, hnot⟩ := hprompt
    refine ⟨?_, fun hrefused => ?_⟩
    · split at hj
      next t p hjob =>
        obtain ⟨ht, hp⟩ := Bool.and_eq_true_iff.mp hj
        obtain rfl := of_decide_eq_true ht
        refine ⟨j, p, [], hjob, ?_⟩
        cases p with
        | ret r => trivial
        | call o k => exact absurd hp (by simp [Prog.done])
      next => exact absurd hj (by simp)
    · rw [found_refused hrefused] at hnot
      exact absurd hnot (by simp)

section

open Signaling.Transparent

/-- The server with the host's account and device. -/
theorem hosted_plays : (server.playAll anyDraw hostOnline
    (World.initial (Server.blank true))).isSome = true := by
  decide +kernel

theorem hosted_run : Run anyDraw (Server.blank true) (Option.get _ hosted_plays) :=
  System.playAll_reachable .refl (Option.some_get hosted_plays).symm

/-- The call logs in as the host's account. -/
def logsIn : List Move :=
  .serves (.start (.connect "gui")) :: (steps 3 1).map .serves
    ++ .takes :: (steps 4 4).map .serves ++ [.receives]

/-- The server goes through with the message before the call returns. -/
def promptly : List Move := logsIn ++ .takes :: (steps 5 7).map .serves ++ [.returns]

theorem promptly_plays : ((start "host@example.com" "pw" (Option.get _ hosted_plays)).playAll
    "gui" "002 003 004" "letmein" (meets "gui" "002 003 004" "letmein") promptly).isSome = true := by
  decide +kernel

theorem promptly_ok : (Option.get _ promptly_plays).call = .returned (.ok ()) := by
  decide +kernel

theorem password_set_when_prompt : ∃ a : Setting, a.call = .returned (.ok ())
    ∧ Promised "gui" "002 003 004" "letmein" (Option.get _ hosted_plays) a :=
  ⟨Option.get _ promptly_plays, promptly_ok,
    password_set_when Attempt.readable_exact ⟨rfl, rfl⟩ hosted_run (by decide +kernel)
      (playAll_reachable meets_sound hosted_run (Option.some_get promptly_plays).symm)⟩

/-- The call returns, and the server finds that there is no such device. -/
def carelessly : List Move := logsIn ++ .returns :: .takes :: (steps 5 3).map .serves

theorem carelessly_plays : ((start "host@example.com" "pw" (Option.get _ hosted_plays)).playAll
    "gui" "no such device" "letmein" (fun _ _ => true) carelessly).isSome = true := by
  decide +kernel

/-- `Ok` says nothing about the password. -/
theorem password_not_set : ¬ ∀ (x : ConnectionId) (email password : String) (d : DeviceId)
    (pw : String) (s₀ : Server) (w₀ : ServerWorld) (a : Setting), s₀.Unused x →
    Run anyDraw s₀ w₀ → (w₀.st.socket x).phase = .fresh →
    Reachable x d pw (start email password w₀) a → Promised x d pw w₀ a := by
  intro h
  have hreach := playAll_reachable (C := fun _ _ => True) (fun _ _ _ => trivial) hosted_run
    (Option.some_get carelessly_plays).symm
  have hpromised := h "gui" "host@example.com" "pw" "no such device" "letmein" _ _ _ ⟨rfl, rfl⟩
    hosted_run (by decide +kernel) (Relation.ReflTransGen.mono (fun _ _ h => h.1) _ _ hreach)
  have hok : (Option.get _ carelessly_plays).call = .returned (.ok ()) := by decide +kernel
  have hrefused : Refused "gui" "no such device" "letmein"
      (Option.get _ carelessly_plays).world.log :=
    ⟨5, 1, ⟨.db (.findDevice "no such device"), .ok none⟩, by decide +kernel, by decide +kernel, rfl⟩
  obtain ⟨e, he⟩ := hpromised.refused hrefused _ hok
  exact absurd he (by simp)

end

end Setting

end Visuara.Client
