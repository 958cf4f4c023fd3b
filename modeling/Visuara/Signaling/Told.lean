/-
  Visuara.Signaling.Told
  ──────────────────────
  **WHETHER THE HOST IS TOLD OF A CONNECTION.**

  `RequestConnection` answers `ConnectionEstablished` also when the host's
  connection is no longer in `connections`: between two steps of its cleanup
  the host is still online, but no longer reachable (`host_not_told`).
  Otherwise the host has been told, once (`established_after_incoming`).
-/
import Visuara.Signaling.Footprint
import Visuara.Signaling.Otp
import Visuara.Signaling.Queues
import Visuara.Signaling.Relay

namespace Visuara.Signaling

open Interleave

/-! ## §1. What precedes the two messages. -/

/-- `IncomingConnection` of session `s`. -/
def isIncomingOf (s : SessionId) : ServerMessage → Bool
  | .incomingConnection s' _ => s' = s
  | _ => false

/-- What task `t` has done before it tells a host or a requester of a session. -/
def Tells (t : Task) (h : Calls) : Op → Prop
  | .send tx (.incomingConnection s _) => ∃ a b d credential,
      t = .message a (.requestConnection d credential) ∧ Did h .newV4 s
        ∧ Did h (.sessionsInsert s ⟨a, b⟩) () ∧ Did h (.connectionsGet b) (some tx)
        ∧ ∀ tx' s' sender r, ¬ Did h (.send tx' (.incomingConnection s' sender)) r
  | .send tx (.connectionEstablished s d) => ∃ b credential,
      t = .message tx (.requestConnection d credential) ∧ Did h (.sessionsInsert s ⟨tx, b⟩) ()
        ∧ (Did h (.connectionsGet b) none
          ∨ ∃ host, Did h (.connectionsGet b) (some host)
            ∧ Did h (.send host (.incomingConnection s none)) (.ok ()))
  | _ => True

/-- The task that answers a request for a connection. -/
def Task.requests : Task → Bool
  | .message _ (.requestConnection ..) => true
  | _ => false

/-- Only that one sends the two. -/
theorem requests_of_sends {t : Task} {tx : Sender} {msg : ServerMessage}
    (hsend : t.sends tx msg = true)
    (hmsg : (∃ s sender, msg = .incomingConnection s sender) ∨ ∃ s d, msg = .connectionEstablished s d) :
    t.requests = true := by
  obtain ⟨s, sender, rfl⟩ | ⟨s, d, rfl⟩ := hmsg
  · obtain ⟨c, d, credential, rfl⟩ := incoming_by hsend
    rfl
  · obtain ⟨d', credential, rfl⟩ := established_by hsend
    rfl

theorem tells_of_does {t : Task} (ht : t.requests = false) {h : Calls} {o : Op}
    (ho : t.does o = true) : Tells t h o := by
  have hno : ∀ {tx msg}, t.sends tx msg = true → ¬ ((∃ s sender, msg = .incomingConnection s sender)
      ∨ ∃ s d, msg = .connectionEstablished s d) := by
    intro tx msg hsend hmsg
    rw [requests_of_sends hsend hmsg] at ht
    exact absurd ht (by simp)
  cases o with
  | send tx msg =>
    cases msg with
    | incomingConnection s sender => exact absurd (.inl ⟨s, sender, rfl⟩) (hno ho)
    | connectionEstablished s d => exact absurd (.inr ⟨s, d, rfl⟩) (hno ho)
    | _ => trivial
  | _ => trivial

section

variable [Crates]

/-- **The request tells the host before it answers**, if it finds the host. -/
theorem tells_requestConnection (c : ConnectionId) (d : DeviceId) (credential : ConnectCredential) :
    Prog.Follows (Tells (.message c (.requestConnection d credential))) (fun _ _ => True)
      (handleMessage c (.requestConnection d credential)).run [] := by
  simp only [handleMessage, requireAuth_bind, Prog.follows_call]
  refine ⟨trivial, fun st => ?_⟩
  cases st with
  | unauthenticated => trivial
  | authenticated account =>
    simp only [Handler.query_bind, Handler.okOr_bind, Prog.follows_call]
    refine ⟨trivial, fun found => ?_⟩
    rcases found with e | (_ | device)
    · trivial
    · trivial
    · refine follows_checkCredential trivial (fun _ => ⟨trivial, fun _ => trivial⟩) fun l hl _ => ?_
      -- nothing has been sent so far
      have hno : ∀ tx s sender r, ¬ Did l (.send tx (.incomingConnection s sender)) r := by
        intro tx s sender r hm
        obtain ⟨r', hr⟩ := hl _ hm
        injection hr with hr
        exact absurd hr (by simp)
      simp only [Handler.perform_bind, Handler.okOr_bind, Prog.follows_call, Bool.not_true,
        Bool.false_eq_true, if_false]
      refine ⟨trivial, fun host => ?_⟩
      cases host with
      | none => trivial
      | some b =>
        simp only [Prog.follows_call]
        refine ⟨trivial, fun s => ⟨trivial, fun _ => ⟨trivial, fun tx => ?_⟩⟩⟩
        cases tx with
        | none =>
          exact ⟨⟨b, credential, rfl, by simp, .inl (by simp)⟩, fun _ => trivial⟩
        | some tx =>
          simp only [Handler.send_bind, Prog.follows_call]
          refine ⟨⟨c, b, d, credential, rfl, by simp, by simp, by simp, by simpa using hno⟩,
            fun sent => ?_⟩
          cases sent with
          | error e => trivial
          | ok _ =>
            exact ⟨⟨b, credential, rfl, by simp, .inr ⟨tx, by simp, by simp⟩⟩, fun _ => trivial⟩

theorem Task.tells (t : Task) : Prog.Follows (Tells t) (fun _ _ => True) (server.body t) [] := by
  cases ht : t.requests with
  | false => exact t.only_does.mono (fun _ _ ho => tells_of_does ht ho) fun _ _ h => h
  | true =>
    cases t with
    | message c m =>
      cases m with
      | requestConnection d credential =>
        show Prog.Follows _ _ (onMessage c (.requestConnection d credential) >>= _) _
        rw [Prog.follows_bind, onMessage_eq, Prog.follows_bind]
        refine (tells_requestConnection c d credential).mono (fun _ _ h => h) fun h r _ => ?_
        cases r with
        | ok _ => trivial
        | error e => exact ⟨trivial, fun _ => trivial⟩
      | _ => exact absurd ht (by simp [Task.requests])
    | _ => exact absurd ht (by simp [Task.requests])

/-! ## §2. Sessions and their messages. -/

variable {db : Db} {config : Config} {files : Files} {w : ServerWorld}

/-- A session stays as it was created, until a restart. -/
theorem session_stays (h : Run freshIds (Server.start db config files) w) :
    ∀ {s p j t}, Event.call j t ⟨.sessionsInsert s p, ()⟩ ∈ server.sinceKill w.log →
      w.st.sessions s = some p := by
  induction h with
  | refl => exact fun he => absurd he List.not_mem_nil
  | @tail w w' hr hs ih =>
    intro s p j t he
    cases hs with
    | start t' _ _ =>
      have hsame : (t'.begin w.st).sessions = w.st.sessions := by cases t' <;> rfl
      show (t'.begin w.st).sessions s = some p
      rw [hsame]
      rcases List.mem_cons.mp he with heq | he
      · exact absurd heq (by simp)
      · exact ih he
    | @call i t' o k d hi hA =>
      have hr' := Relation.ReflTransGen.tail hr (System.Step.call d hi hA)
      show (o.exec d w.st).2.sessions s = some p
      rcases List.mem_cons.mp he with heq | hm
      · obtain ⟨-, -, heq⟩ := Event.call.inj heq
        obtain ⟨rfl, -⟩ := Call.mk.inj heq
        rw [Op.exec_sessions]
        exact Function.update_self _ _ _
      · have hold := ih hm
        rw [Op.exec_sessions]
        cases o with
        | sessionsInsert s' p' =>
          by_cases hss : s = s'
          · -- no session is created twice
            subst hss
            have hp : p' = p := createSession_once hr' List.mem_cons_self
              (List.mem_cons_of_mem _ (System.mem_of_mem_sinceKill hm))
            rw [hp]
            exact Function.update_self _ _ _
          · exact (Function.update_of_ne hss _ _).trans hold
        | _ => exact hold
    | env e =>
      cases e with
      | sendTaskStops c =>
        rcases List.mem_cons.mp he with heq | he
        · exact absurd heq (by simp)
        · exact ih he
      | restart => exact absurd he List.not_mem_nil

/-- A host is told of a session at most once. -/
theorem incoming_at_most_once (h : Run freshIds (Server.start db config files) w) (s : SessionId)
    (c : ConnectionId) : (w.st.channel c).queue.countP (isIncomingOf s) ≤ 1 := by
  rw [queue_eq h, countP_enqueued]
  have hkind : ∀ e : ServerEvent, (enqueued? c e).any (isIncomingOf s) = true →
      ∃ j t sender, e = .call j t ⟨.send c (.incomingConnection s sender), .ok ()⟩ := by
    intro e he
    obtain ⟨msg, hmsg, hs⟩ := (Option.any_eq_true _ _).mp he
    obtain ⟨j, t, rfl⟩ := enqueued?_eq_some.mp hmsg
    cases msg with
    | incomingConnection s' sender =>
      obtain rfl : s' = s := of_decide_eq_true hs
      exact ⟨j, t, sender, rfl⟩
    | _ => exact absurd hs (by simp [isIncomingOf])
  apply System.countP_le_one
  intro l₁ e l₂ hlog he e' he'
  obtain ⟨j, t, sender, rfl⟩ := hkind e he
  by_contra hne
  obtain ⟨j', t', sender', rfl⟩ := hkind e' (by simpa using hne)
  refine h.not_before Task.tells (fun o => ∃ tx sender, o = .send tx (.incomingConnection s sender))
    ⟨.newV4, s⟩ ?_ (fun _ _ _ _ hg hg' => (uuid_unique h hg hg').1) hlog ⟨c, sender, rfl⟩ he'
    ⟨c, sender', rfl⟩
  rintro u l _ htells ⟨tx, sender, rfl⟩
  obtain ⟨a, b, d, credential, -, hgen, -, -, hfirst⟩ := htells
  refine ⟨hgen, ?_⟩
  rintro ⟨_, r⟩ hx ⟨tx', sender', rfl⟩
  exact hfirst tx' s sender' r hx

/-! ## §3. The answer comes after the notice. -/

/-- Where a request looks for the host's connection, it is there. -/
def HostReachable (w w' : ServerWorld) : Prop :=
  ∀ j a d credential b r, w'.log
    = .call j (.message a (.requestConnection d credential)) ⟨.connectionsGet b, r⟩ :: w.log →
    w.st.connections b ≠ none

/-- **ConnectionEstablished implies that the host was told**, in every run in
which the requests find the connections of their hosts. -/
theorem established_after_incoming
    (h : server.ReachableWhen freshIds HostReachable (World.initial (Server.start db config files)) w)
    {w' : ServerWorld} (hs : server.Step freshIds w w') {j : Nat} {t : Task} {c : ConnectionId}
    {s : SessionId} {d : DeviceId}
    (hlog : w'.log = .call j t ⟨.send c (.connectionEstablished s d), .ok ()⟩ :: w.log) :
    ∃ b, w.st.sessions s = some ⟨c, b⟩ ∧ (w.st.channel b).queue.countP (isIncomingOf s) = 1 := by
  have hr : Run freshIds (Server.start db config files) w := System.ReachableWhen.reachable h
  obtain ⟨draw, k, hj, -⟩ := hs.of_call hlog
  obtain ⟨b, credential, rfl, hsession, htold⟩ := hr.next_licensed Task.tells hj
  refine ⟨b, session_stays hr (hr.recent j _ _ hj _ hsession), ?_⟩
  have hmem : ∃ sender, .incomingConnection s sender ∈ (w.st.channel b).queue := by
    rcases htold with hnone | ⟨host, hget, hsent⟩
    · -- excluded: the host was not found
      obtain ⟨w₁, w₂, -, hs₁, hC, hlog₁⟩ := System.ReachableWhen.moment h (hr.event_of_hist hj hnone)
      obtain ⟨draw₁, -, -, -, hres, -⟩ := hs₁.of_call hlog₁
      exact absurd hres.symm (hC j c d credential b none hlog₁)
    · obtain ⟨w₁, w₂, h₁, hs₁, -, hlog₁⟩ := System.ReachableWhen.moment h (hr.event_of_hist hj hget)
      obtain ⟨draw₁, -, -, -, hres, -⟩ := hs₁.of_call hlog₁
      obtain rfl : host = b := connections_own h₁ b host hres.symm
      rw [queue_eq hr]
      exact ⟨none, mem_enqueued.mpr ⟨j, _, hr.event_of_hist hj hsent⟩⟩
  obtain ⟨sender, hmem⟩ := hmem
  have hpos : 0 < (w.st.channel b).queue.countP (isIncomingOf s) :=
    List.countP_pos_iff.mpr ⟨_, hmem, decide_eq_true rfl⟩
  have hle := incoming_at_most_once hr s b
  omega

end

/-! ## §4. A host on its way out. -/

section Schedule

open scoped Transparent

/-- The condition, as a check of one step. -/
def hostReachable (w w' : ServerWorld) : Bool :=
  match w'.log with
  | .call _ (.message _ (.requestConnection ..)) ⟨.connectionsGet b, _⟩ :: _ =>
    (w.st.connections b).isSome
  | _ => true

theorem hostReachable_iff {w w' : ServerWorld} (h : hostReachable w w' = true) :
    HostReachable w w' := by
  intro j a d credential b r hlog hnone
  rw [hostReachable, hlog] at h
  simp [hnone] at h

/-- The request is about to be answered. -/
def requested : List ServerMove :=
  controllerOnline
    ++ .start (.message "ctl" (.requestConnection "002 003 004" (.oneTimePassword "0002 0003")))
      :: steps 5 8

/-- The same, with the host's cleanup begun. -/
def requestedLate : List ServerMove :=
  controllerOnline ++ .start (.close "host") :: steps 5 1
    ++ .start (.message "ctl" (.requestConnection "002 003 004" (.oneTimePassword "0002 0003")))
      :: steps 6 7

theorem requested_shows : (server.playAllWhen freshIds hostReachable requested
    (World.initial (Server.blank true))).any (fun w => decide (
      System.next? w 5 = some
        (.message "ctl" (.requestConnection "002 003 004" (.oneTimePassword "0002 0003")),
          .send "ctl" (.connectionEstablished (newV4 (Draw.from 5).rng) "002 003 004"))
      ∧ (w.st.channel "ctl").alive = true)) = true := by
  decide +kernel

theorem requestedLate_shows : (server.playAll freshIds requestedLate
    (World.initial (Server.blank true))).any (fun w => decide (
      System.next? w 6 = some
        (.message "ctl" (.requestConnection "002 003 004" (.oneTimePassword "0002 0003")),
          .send "ctl" (.connectionEstablished (newV4 (Draw.from 6).rng) "002 003 004"))
      ∧ (w.st.channel "ctl").alive = true
      ∧ w.st.sessions (newV4 (Draw.from 6).rng) = some ⟨"ctl", "host"⟩
      ∧ (w.st.channel "host").queue.countP (isIncomingOf (newV4 (Draw.from 6).rng)) = 0)) = true := by
  decide +kernel

/-- A send on a channel that is there works. -/
theorem step_of_send {w : ServerWorld} {j : Nat} {t : Task} {tx : Sender} {msg : ServerMessage}
    (hnext : System.next? w j = some (t, .send tx msg)) (halive : (w.st.channel tx).alive = true)
    (d : Draw) : ∃ w', server.Step freshIds w w'
      ∧ w'.log = .call j t ⟨.send tx msg, .ok ()⟩ :: w.log := by
  obtain ⟨w', hs, hlog⟩ := System.step_of_next? server freshIds hnext d rfl
  have hok : ((Op.send tx msg).exec d w.st).1 = .ok () := by rw [Op.exec, if_pos halive]
  refine ⟨w', hs, ?_⟩
  rw [hlog, ← hok]
  rfl

theorem established_after_incoming_request : ∃ w : ServerWorld, ∃ b,
    w.st.sessions (newV4 (Draw.from 5).rng) = some ⟨"ctl", b⟩
      ∧ (w.st.channel b).queue.countP (isIncomingOf (newV4 (Draw.from 5).rng)) = 1 := by
  have hshows := requested_shows
  simp only [Option.any_eq_true, decide_eq_true_eq] at hshows
  obtain ⟨w, hplays, hnext, halive⟩ := hshows
  have hrun : server.ReachableWhen freshIds HostReachable (World.initial (Server.blank true)) w :=
    System.ReachableWhen.mono (System.playAllWhen_reachable .refl hplays)
      fun _ _ hC => hostReachable_iff hC
  obtain ⟨w', hs, hlog⟩ := step_of_send hnext halive (Draw.from 5)
  exact ⟨_, established_after_incoming hrun hs hlog⟩

/-- Between two steps of its cleanup, the host is online but not told. -/
theorem host_not_told : ¬ ∀ (w w' : ServerWorld) (j : Nat) (t : Task) (c : ConnectionId)
    (s : SessionId) (d : DeviceId), Run freshIds (Server.blank true) w → server.Step freshIds w w' →
    w'.log = .call j t ⟨.send c (.connectionEstablished s d), .ok ()⟩ :: w.log →
    ∃ b, w.st.sessions s = some ⟨c, b⟩ ∧ (w.st.channel b).queue.countP (isIncomingOf s) = 1 := by
  intro h
  have hshows := requestedLate_shows
  simp only [Option.any_eq_true, decide_eq_true_eq] at hshows
  obtain ⟨w, hplays, hnext, halive, hsession, hqueue⟩ := hshows
  have hrun : Run freshIds (Server.blank true) w := System.playAll_reachable .refl hplays
  obtain ⟨w', hs, hlog⟩ := step_of_send hnext halive (Draw.from 6)
  obtain ⟨b, hb, hone⟩ := h _ w' 6 _ "ctl" _ _ hrun hs hlog
  rw [hsession] at hb
  obtain rfl : "host" = b := by
    injection hb with hb
    injection hb
  omega

end Schedule

end Visuara.Signaling
