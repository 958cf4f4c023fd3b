/-
  Visuara.Signaling.Standing
  ──────────────────────────
  **WHAT A LOGIN STANDS ON.**

  A handler looks an account up, or creates it, and logs its connection in a
  few operations later; meanwhile anything may happen.  But the email and the
  password of an account never change: what was seen of it is still true unless
  it has been deleted (`Db.Has.later`).

    • `login_stands`   — who is logged in gave the password of its account;
    • `kept_out`       — and no other password gets in;
    • `reply_arrived`  — a turn that is over has been answered.
-/
import Visuara.Signaling.Accounts
import Visuara.Signaling.CutOff
import Visuara.Signaling.Gate
import Visuara.Signaling.Login

namespace Visuara.Signaling

open Interleave Relational

/-- Nothing is known of the connection yet. -/
structure Server.Unused (s : Server) (c : ConnectionId) : Prop where
  socket : s.socket c = ⟨.fresh, .unauthenticated, none⟩
  channel : s.channel c = ⟨false, []⟩

/-! ## §1. Accounts. -/

/-- An account with these credentials is there. -/
def Db.Has (db : Db) (id : Int) (email hash : String) : Prop :=
  ∃ a ∈ db.accounts, a.id = id ∧ a.email = email ∧ a.passwordHash = hash

/-- An account keeps its credentials, unless it is deleted. -/
theorem Db.Has.exec {now : Int} {db : Db} {q : Query} {id : Int} {email hash : String}
    (h : db.Has id email hash) (hq : q ≠ .deleteAccount id) :
    (q.exec now db).2.Has id email hash := by
  obtain ⟨a, ha, rfl, rfl, rfl⟩ := h
  cases q with
  | createAccount email hash role =>
    simp only [Query.exec]
    split
    next db' hc =>
      exact ⟨a, (Table.mem_insert? (Db.createAccount_ok hc).1 a).mpr (.inl ha), rfl, rfl, rfl⟩
    next => exact ⟨a, ha, rfl, rfl, rfl⟩
  | setAccountRole id role =>
    by_cases hid : a.id = id
    · exact ⟨_, Db.mem_setAccountRole.mpr (.inr ⟨a, ha, hid, rfl⟩), rfl, rfl, rfl⟩
    · exact ⟨a, Db.mem_setAccountRole.mpr (.inl ⟨ha, hid⟩), rfl, rfl, rfl⟩
  | deleteAccount id =>
    exact ⟨a, Db.mem_deleteAccount.mpr ⟨ha, fun heq => hq (by rw [heq])⟩, rfl, rfl, rfl⟩
  | _ => exact ⟨a, by rwa [(Query.exec_accounts rfl).1], rfl, rfl, rfl⟩

/-- An account that has been created has the credentials it was given, and its
email was free. -/
theorem Db.Has.created {now : Int} {db : Db} {email hash : String} {role : AccountRole} {id : Int}
    (h : ((Query.createAccount email hash role).exec now db).1 = .ok id) :
    ((Query.createAccount email hash role).exec now db).2.Has id email hash
      ∧ ∀ a ∈ db.accounts, a.email ≠ email := by
  simp only [Query.exec] at h ⊢
  split at h
  next db' hc =>
    obtain ⟨hi, hseq, -⟩ := Db.createAccount_ok hc
    obtain rfl : db'.accountSeq = id := Except.ok.inj h
    refine ⟨⟨_, (Table.mem_insert? hi _).mpr (.inr rfl), hseq.symm, rfl, rfl⟩, ?_⟩
    intro a ha heq
    -- `email` is UNIQUE
    unfold Db.createAccount at hc
    split at hc
    next => exact absurd hc (by simp)
    next =>
      rw [dif_pos (List.mem_map.mpr ⟨a, ha, heq⟩)] at hc
      exact absurd hc (by simp)
  next => exact absurd h (by simp)

/-- The account was asked to be deleted between the two. -/
def DeletedSince (id : Int) (w₀ w : ServerWorld) : Prop :=
  ∃ l, w.log = l ++ w₀.log ∧ ∃ j t r, Event.call j t ⟨.db (.deleteAccount id), r⟩ ∈ l

section

variable [Crates] {A : Assumption Op Op.Res Draw Task Env} {s₀ : Server} {w₀ w w' : ServerWorld}
  {id : Int} {email hash : String}

theorem DeletedSince.later (h : DeletedSince id w₀ w) (hr : server.Reachable A w w') :
    DeletedSince id w₀ w' := by
  obtain ⟨l, hl, j, t, r, he⟩ := h
  obtain ⟨l', hl'⟩ := hr.log_suffix
  refine ⟨l' ++ l, ?_, j, t, r, List.mem_append_right _ he⟩
  rw [hl', hl, List.append_assoc]

theorem DeletedSince.earlier (h : DeletedSince id w w') (hr : server.Reachable A w₀ w) :
    DeletedSince id w₀ w' := by
  obtain ⟨l, hl, j, t, r, he⟩ := h
  obtain ⟨l', hl'⟩ := hr.log_suffix
  refine ⟨l ++ l', ?_, j, t, r, List.mem_append_left _ he⟩
  rw [hl, hl', List.append_assoc]

/-- **An account is there as it was**, unless it has been deleted. -/
theorem Db.Has.later (h : w.st.db.Has id email hash) (hr : server.Reachable A w w') :
    w'.st.db.Has id email hash ∨ DeletedSince id w w' := by
  induction hr with
  | refl => exact .inl h
  | @tail u u' hu hs ih =>
    have hstep := Relation.ReflTransGen.single hs
    obtain hthere | hdeleted := ih
    · cases hs with
      | start t _ _ =>
        left
        show (t.begin u.st).db.Has id email hash
        cases t <;> exact hthere
      | @call j t o k d _ _ =>
        by_cases ho : o = .db (.deleteAccount id)
        · subst ho
          right
          obtain ⟨l, hl⟩ := System.Reachable.log_suffix hu
          refine ⟨.call j t ⟨.db (.deleteAccount id), ((Op.db (.deleteAccount id)).exec d u.st).1⟩
            :: l, ?_, j, t, _, List.mem_cons_self⟩
          rw [List.cons_append, ← hl]
          rfl
        · left
          show (o.exec d u.st).2.db.Has id email hash
          rw [Op.exec_db]
          cases o with
          | db q =>
            dsimp only
            split
            · exact hthere
            · exact hthere.exec fun heq => ho (by rw [heq])
          | _ => exact hthere
      | env e =>
        left
        cases e <;> exact hthere
    · exact .inr (hdeleted.later hstep)

/-- What is found of an account is there. -/
theorem found_there (hs : server.Step A w w') {j : Nat} {t : Task} {a : Account}
    (hlog : w'.log = .call j t ⟨.db (.findAccountByEmail email), .ok (some a)⟩ :: w.log) :
    a ∈ w.st.db.accounts ∧ a.email = email ∧ w'.st.db.Has a.id email a.passwordHash := by
  obtain ⟨d, k, -, -, hres, hst, -⟩ := hs.of_call hlog
  obtain ⟨-, hq⟩ := Op.exec_query_ok hres.symm
  have hfind : w.st.db.accounts.rows.find? (fun a => a.email == email) = some a :=
    Except.ok.inj hq
  have hin : a ∈ w.st.db.accounts := List.mem_of_find?_eq_some hfind
  have hemail : a.email = email := by simpa using List.find?_some hfind
  refine ⟨hin, hemail, ?_⟩
  rw [hst]
  show ((Op.db (.findAccountByEmail email)).exec d w.st).2.db.Has _ _ _
  rw [Op.exec_reading rfl]
  exact ⟨a, hin, rfl, hemail, rfl⟩

/-- What is created is there afterwards; and its email was free. -/
theorem created_there (hs : server.Step A w w') {j : Nat} {t : Task} {role : AccountRole}
    (hlog : w'.log = .call j t ⟨.db (.createAccount email hash role), .ok id⟩ :: w.log) :
    (∀ a ∈ w.st.db.accounts, a.email ≠ email) ∧ w'.st.db.Has id email hash := by
  obtain ⟨d, k, -, -, hres, hst, -⟩ := hs.of_call hlog
  obtain ⟨hd, hq⟩ := Op.exec_query_ok hres.symm
  obtain ⟨hhas, hfree⟩ := Db.Has.created hq
  refine ⟨hfree, ?_⟩
  rw [hst]
  show ((Op.db (.createAccount email hash role)).exec d w.st).2.db.Has _ _ _
  rw [Op.exec_query hd]
  exact hhas

/-- A hash that was computed is one of that password. -/
theorem hashed (h : Run A s₀ w) {j : Nat} {t : Task} {password : String}
    (he : Event.call j t ⟨.hashPassword password, .ok hash⟩ ∈ w.log) :
    ∃ salt, hashPassword password salt = .ok hash := by
  obtain ⟨w₁, w₂, -, hs, -, hlog⟩ := h.moment he
  obtain ⟨d, k, -, -, hres, -⟩ := hs.of_call hlog
  exact ⟨_, hres.symm⟩

/-! ## §2. The login of a connection. -/

variable {c : ConnectionId}

omit [Crates] in
theorem Server.Unused.not_loggedIn (h0 : s₀.Unused c) : ¬ LoggedIn c s₀ := by
  intro hl
  obtain ⟨account, ha⟩ := hl
  rw [h0.socket] at ha
  exact absurd ha (by simp)

theorem Server.Unused.queued (h0 : s₀.Unused c) (h : Run A s₀ w) : Queued c w := by
  refine Queued.run ⟨?_, fun _ => ⟨?_, rfl⟩⟩ h
  · show (s₀.channel c).queue = []
    rw [h0.channel]
  · show (s₀.channel c).alive = false
    rw [h0.channel]

/-- What has been sent to a connection stays on its queue. -/
theorem queue_grows (h0 : s₀.Unused c) (h : Run A s₀ w) (hs : server.Step A w w')
    {msg : ServerMessage} (hm : msg ∈ (w.st.channel c).queue) : msg ∈ (w'.st.channel c).queue := by
  rw [(h0.queued h).queue] at hm
  rw [(h0.queued (h.tail hs)).queue]
  obtain ⟨e, he⟩ := hs.log_eq
  obtain ⟨j, t, hin⟩ := mem_enqueued.mp hm
  exact mem_enqueued.mpr ⟨j, t, he ▸ List.mem_cons_of_mem _ hin⟩

/-- Whoever is logged in has been logged in by a turn. -/
theorem authenticated_by (h0 : s₀.Unused c) (h : Run A s₀ w)
    (hst : (w.st.socket c).connState = .authenticated id) :
    ∃ j t, Event.call j t ⟨.setConnState c (.authenticated id), ()⟩ ∈ w.log := by
  revert id
  refine System.Reachable.invariant (fun w => ∀ {id}, (w.st.socket c).connState = .authenticated id →
    ∃ j t, Event.call j t ⟨.setConnState c (.authenticated id), ()⟩ ∈ w.log) ?_ ?_ h
  · intro id hst
    exact absurd ⟨id, hst⟩ h0.not_loggedIn
  · intro w w' hr hI hs id hst
    have hold : (w.st.socket c).connState = .authenticated id →
        ∃ j t, Event.call j t ⟨.setConnState c (.authenticated id), ()⟩ ∈ w'.log := by
      intro hbefore
      obtain ⟨j, t, hm⟩ := hI hbefore
      obtain ⟨e, he⟩ := hs.log_eq
      exact ⟨j, t, he ▸ List.mem_cons_of_mem _ hm⟩
    cases hs with
    | start t hadm _ =>
      refine hold ?_
      have hst' : ((t.begin w.st).socket c).connState = .authenticated id := hst
      by_cases hc : t.connection = some c
      · cases t with
        | connect c' =>
          obtain rfl : c' = c := by simpa [Task.connection] using hc
          simp [Task.begin, Server.setSocket, Server.setChannel] at hst'
        | close c' =>
          obtain rfl : c' = c := by simpa [Task.connection] using hc
          simpa [Task.begin, Server.setSocket] using hst'
        | _ => exact hst'
      · rwa [begin_socket hc] at hst'
    | @call j t o k d _ _ =>
      have hst' : ((o.exec d w.st).2.socket c).connState = .authenticated id := hst
      rw [Op.exec_connState] at hst'
      cases o with
      | setConnState c' st =>
        dsimp only at hst'
        split at hst'
        next hc =>
          subst hc hst'
          exact ⟨j, t, List.mem_cons_self⟩
        next => exact hold hst'
      | _ => exact hold hst'
    | env e =>
      refine hold ?_
      cases e with
      | sendTaskStops c' => exact hst
      | restart =>
        have hst' : (w.st.restart.socket c).connState = .authenticated id := hst
        simp only [Server.restart] at hst'
        split at hst' <;> exact hst'

/-- And whoever has been logged in stays so. -/
theorem loggedIn_of_set (h0 : s₀.Unused c) (h : Run A s₀ w) {j : Nat} {t : Task} {st : ConnState}
    {r : Unit} (he : Event.call j t ⟨.setConnState c st, r⟩ ∈ w.log) : LoggedIn c w.st := by
  obtain ⟨w₁, w₂, h₁, hs, h₂, hlog⟩ := h.moment he
  obtain ⟨d, k, hj, -, -, hst, -⟩ := hs.of_call hlog
  obtain ⟨-, account, rfl⟩ := h₁.next_licensed Task.follows hj
  refine LoggedIn.staysFrom (fun hl => absurd hl h0.not_loggedIn) (h₁.tail hs) h₂ ⟨account, ?_⟩
  rw [hst]
  show ((Function.update w₁.st.socket c _) c).connState = _
  rw [Function.update_self]

/-- A connection that has been told `AuthOk` is logged in. -/
theorem loggedIn_of_told (h0 : s₀.Unused c) (h : Run A s₀ w) {token : String}
    (hm : .authOk token ∈ (w.st.channel c).queue) : LoggedIn c w.st := by
  rw [(h0.queued h).queue] at hm
  obtain ⟨j, t, he⟩ := mem_enqueued.mp hm
  obtain ⟨l₁, l₂, hl⟩ := List.append_of_mem he
  obtain ⟨st, hset⟩ := h.licensed Task.logsIn hl
  obtain ⟨t', ht'⟩ := mem_of_mem_hist hset
  have hset' : Event.call j t' ⟨.setConnState c st, ()⟩ ∈ w.log := by
    rw [hl]
    exact List.mem_append_right _ (List.mem_cons_of_mem _ ht')
  exact loggedIn_of_set h0 h hset'

/-- What a turn of `c` does happens after a moment at which `c` was not there. -/
theorem own_moment (h : Run A s₀ w₀) (hfresh : (w₀.st.socket c).phase = .fresh)
    (hr : server.Reachable A w₀ w) {j : Nat} {t : Task} (ht : t.connection = some c)
    {x : Call Op Op.Res} (he : Event.call j t x ∈ w.log) :
    ∃ w₁ w₂, server.Reachable A w₀ w₁ ∧ server.Step A w₁ w₂ ∧ server.Reachable A w₂ w
      ∧ w₂.log = .call j t x :: w₁.log := by
  refine hr.moment_after he fun hold => ?_
  exact (retained h c).fresh hfresh j t ht (h.numbered.call_start j t x hold)

/-- The turn that logs a connection in has done what it is licensed by, in this run. -/
theorem logged_in_by (h0 : s₀.Unused c) (hw : Run A s₀ w)
    (hst : (w.st.socket c).connState = .authenticated id) :
    ∃ j t past, Event.start j t ∈ w.log ∧ (∀ x ∈ past, Event.call j t x ∈ w.log)
      ∧ LogsIn t past (.setConnState c (.authenticated id)) := by
  obtain ⟨j, t, he⟩ := authenticated_by h0 hw hst
  obtain ⟨l₁, l₂, hl⟩ := List.append_of_mem he
  have hpast : ∀ x ∈ hist j l₂, Event.call j t x ∈ w.log := by
    intro x hx
    obtain ⟨t', ht'⟩ := mem_of_mem_hist hx
    have hin : Event.call j t' x ∈ w.log := hl ▸ List.mem_append_right _ (List.mem_cons_of_mem _ ht')
    rwa [hw.call_task he hin]
  exact ⟨j, t, hist j l₂, hw.numbered.call_start j t _ he, hpast, hw.licensed Task.logsIn hl⟩

/-- **A login stands on an account**: the turn that logged the connection in as
`id` was given an email and a password, and `id` has that email and a hash that
verifies the password, unless it has been deleted since. -/
theorem login_stands (h0 : s₀.Unused c) (h : Run A s₀ w₀)
    (hfresh : (w₀.st.socket c).phase = .fresh) (hr : server.Reachable A w₀ w)
    (hexact : ∀ password salt hash, hashPassword password salt = .ok hash →
      verifyPassword password hash = true)
    (hst : (w.st.socket c).connState = .authenticated id) :
    ∃ j email password hash, (Event.start j (.message c (.login email password)) ∈ w.log
        ∨ Event.start j (.message c (.register email password)) ∈ w.log)
      ∧ verifyPassword password hash = true
      ∧ (w.st.db.Has id email hash ∨ DeletedSince id w₀ w) := by
  have hw : Run A s₀ w := h.trans hr
  obtain ⟨j, t, past, hstart, hpast, email, password, id', heq, hin⟩ := logged_in_by h0 hw hst
  obtain rfl : id' = id := (ConnState.authenticated.inj heq).symm
  obtain ⟨rfl, ⟨a, hfound, hverify, rfl⟩⟩ | ⟨rfl, ⟨hash, role, hhash, hcreated⟩⟩ := hin
  · -- the account was there when it was found
    refine ⟨j, email, password, a.passwordHash, .inl hstart, hverify, ?_⟩
    obtain ⟨w₁, w₂, hr₁, hs, hr₂, hlog⟩ := own_moment h hfresh hr rfl (hpast _ hfound)
    obtain ⟨-, -, hhas⟩ := found_there hs hlog
    exact (hhas.later hr₂).imp_right fun hd => hd.earlier (hr₁.tail hs)
  · -- and when it was created
    obtain ⟨salt, hsalt⟩ := hashed hw (hpast _ hhash)
    refine ⟨j, email, password, hash, .inr hstart, hexact _ _ _ hsalt, ?_⟩
    obtain ⟨w₁, w₂, hr₁, hs, hr₂, hlog⟩ := own_moment h hfresh hr rfl (hpast _ hcreated)
    obtain ⟨-, hhas⟩ := created_there hs hlog
    exact (hhas.later hr₂).imp_right fun hd => hd.earlier (hr₁.tail hs)

/-- **An account keeps others out.**  While an account is there, nobody is logged
in who only ever gives its email and a password its hash does not verify. -/
theorem kept_out (h0 : s₀.Unused c) (h : Run A s₀ w₀)
    (hfresh : (w₀.st.socket c).phase = .fresh) (hr : server.Reachable A w₀ w) {password : String}
    (hhas : w₀.st.db.Has id email hash) (hwrong : verifyPassword password hash = false)
    (hkept : ¬ DeletedSince id w₀ w)
    (honly : ∀ j m, Event.start j (.message c m) ∈ w.log →
      m = .register email password ∨ m = .login email password) : ¬ LoggedIn c w.st := by
  intro hlogged
  obtain ⟨account, hst⟩ := hlogged
  have hw : Run A s₀ w := h.trans hr
  -- at each moment the account is still there
  have hthere : ∀ {w₁}, server.Reachable A w₀ w₁ → server.Reachable A w₁ w →
      w₁.st.db.Has id email hash := by
    intro w₁ hr₁ hr₂
    exact (hhas.later hr₁).resolve_right fun hd => hkept (hd.later hr₂)
  obtain ⟨j, t, past, hstart, hpast, email', password', id', -, hin⟩ := logged_in_by h0 hw hst
  obtain ⟨rfl, ⟨a, hfound, hverify, -⟩⟩ | ⟨rfl, ⟨hash', role, -, hcreated⟩⟩ := hin
  · -- what a login finds is this account, and the password is not its own
    obtain ⟨rfl, rfl⟩ : email' = email ∧ password' = password := by
      simpa using honly _ _ hstart
    obtain ⟨w₁, w₂, hr₁, hs, hr₂, hlog⟩ := own_moment h hfresh hr rfl (hpast _ hfound)
    obtain ⟨hin, hemail, -⟩ := found_there hs hlog
    obtain ⟨b, hb, -, hbemail, hbhash⟩ := hthere hr₁ (hr₂.head hs)
    obtain rfl := Db.eq_of_email hin hb (hemail.trans hbemail.symm)
    rw [hbhash, hwrong] at hverify
    exact absurd hverify (by simp)
  · -- and a registration fails, as the email is taken
    obtain ⟨rfl, rfl⟩ : email' = email ∧ password' = password := by
      simpa using honly _ _ hstart
    obtain ⟨w₁, w₂, hr₁, hs, hr₂, hlog⟩ := own_moment h hfresh hr rfl (hpast _ hcreated)
    obtain ⟨hfree, -⟩ := created_there hs hlog
    obtain ⟨b, hb, -, hbemail, -⟩ := hthere hr₁ (hr₂.head hs)
    exact absurd hbemail (hfree b hb)

/-! ## §3. The accounts it creates. -/

/-- Events that create an account for the connection. -/
def createsFor (c : ConnectionId) : ServerEvent → Bool
  | .call _ t ⟨.db (.createAccount ..), .ok _⟩ => t.connection = some c
  | _ => false

omit [Crates] in
theorem createsFor_iff {e : ServerEvent} : createsFor c e = true ↔
    ∃ j t email hash role id, e = .call j t ⟨.db (.createAccount email hash role), .ok id⟩
      ∧ t.connection = some c := by
  constructor
  · intro h
    unfold createsFor at h
    split at h
    next j t email hash role id => exact ⟨j, t, email, hash, role, id, rfl, of_decide_eq_true h⟩
    next => exact absurd h (by simp)
  · rintro ⟨j, t, email, hash, role, id, rfl, ht⟩
    exact decide_eq_true ht

/-- Only the answer to `Register` does. -/
theorem created_by (h : Run A s₀ w) {j : Nat} {t : Task} {role : AccountRole}
    {r : Except String Int} (ht : t.connection = some c)
    (he : Event.call j t ⟨.db (.createAccount email hash role), r⟩ ∈ w.log) :
    ∃ email' password, t = .message c (.register email' password) := by
  obtain ⟨l₁, l₂, hl⟩ := List.append_of_mem he
  have hdoes : t.does (.db (.createAccount email hash role)) = true :=
    h.licensed Task.only_does hl
  cases t with
  | message c' m =>
    obtain rfl : c' = c := by simpa [Task.connection] using ht
    cases m with
    | register email' password => exact ⟨email', password, rfl⟩
    | _ => exact absurd hdoes Bool.false_ne_true
  | http req => exact absurd ht (by simp [Task.connection])
  | _ => exact absurd hdoes Bool.false_ne_true

/-- **A registration is checked**: it creates the account it was asked for, while
the email is free, and it has read the flag before, as enabled. -/
theorem registration_checked (h : Run noDbFault s₀ w) {j : Nat} {email' password : String}
    {role : AccountRole} (he : Event.call j (.message c (.register email' password))
      ⟨.db (.createAccount email hash role), .ok id⟩ ∈ w.log) :
    email = email'
      ∧ server.Happened noDbFault s₀ w (.call j (.message c (.register email' password))
          ⟨.db (.createAccount email hash role), .ok id⟩)
          (fun w₁ => ∀ a ∈ w₁.st.db.accounts, a.email ≠ email)
      ∧ ∃ r, server.Happened noDbFault s₀ w (.call j (.message c (.register email' password))
          ⟨.db (.getSetting REGISTRATION_ENABLED), r⟩) fun w₁ => registrationOpen w₁.st.db = true := by
  obtain ⟨l₁, l₂, hl⟩ := List.append_of_mem he
  obtain ⟨rfl, -, ⟨r, hread, hopen⟩, -⟩ := h.licensed Task.logsIn hl c email' password rfl
  refine ⟨rfl, h.happened he fun w₁ w₂ _ hs hlog => (created_there hs hlog).1, r, ?_⟩
  obtain ⟨t, ht⟩ := mem_of_mem_hist hread
  have hin : Event.call j t ⟨.db (.getSetting REGISTRATION_ENABLED), r⟩ ∈ w.log :=
    hl ▸ List.mem_append_right _ (List.mem_cons_of_mem _ ht)
  obtain rfl := h.call_task he hin
  refine h.happened hin fun w₁ w₂ _ hs hlog => ?_
  obtain ⟨d, k, -, hA, hres, -⟩ := hs.of_call hlog
  -- the database works, so the flag was read
  have hd : d.fault = none := Option.isNone_iff_eq_none.mp hA
  have hres' : r = ((Op.db (.getSetting REGISTRATION_ENABLED)).exec d w₁.st).1 := hres
  rw [Op.exec_query hd] at hres'
  subst hres'
  exact hopen

/-- A registration creates one account. -/
theorem created_once (h : Run A s₀ w) {l₁ l₂ : List ServerEvent} {j : Nat}
    {email' password : String} {role role' : AccountRole} {email'' hash' : String}
    {r r' : Except String Int}
    (hl : w.log = l₁ ++ .call j (.message c (.register email' password))
      ⟨.db (.createAccount email hash role), r⟩ :: l₂) :
    Event.call j (.message c (.register email' password))
      ⟨.db (.createAccount email'' hash' role'), r'⟩ ∉ l₂ := by
  intro hin
  obtain ⟨-, -, -, hfirst⟩ := h.licensed Task.logsIn hl c email' password rfl
  exact hfirst _ _ _ _ (mem_hist hin)

/-! ## §4. Replies. -/

/-- The turn that is over has sent something to its own connection. -/
def Replied (c : ConnectionId) (h : Calls) : Prop := ∃ msg r, Did h (.send c msg) r

omit [Crates] in
/-- An error is a reply, too. -/
theorem replied_report {h : Calls} {r : Except String Unit} (hr : r = .ok () → Replied c h) :
    Prog.Follows (fun _ _ => True) (fun h _ => Replied c h) (report c r) h := by
  cases r with
  | ok _ => exact hr rfl
  | error e => exact ⟨trivial, fun sent => ⟨.error e, sent, List.mem_cons_self⟩⟩

theorem replied_login (email password : String) :
    Prog.Follows (fun _ _ => True) (fun h r => r = .ok () → Replied c h)
      (handleMessage c (.login email password)).run [] := by
  simp only [handleMessage, Handler.query_bind]
  refine ⟨trivial, fun found => ?_⟩
  rcases found with e | (_ | account)
  · exact fun h => absurd h (by simp)
  · exact ⟨trivial, fun sent _ => ⟨_, sent, List.mem_cons_self⟩⟩
  · dsimp only
    split
    · exact ⟨trivial, fun _ => ⟨trivial, fun _ =>
        ⟨trivial, fun sent _ => ⟨_, sent, List.mem_cons_self⟩⟩⟩⟩
    · exact ⟨trivial, fun sent _ => ⟨_, sent, List.mem_cons_self⟩⟩

theorem replied_register (email password : String) :
    Prog.Follows (fun _ _ => True) (fun h r => r = .ok () → Replied c h)
      (handleMessage c (.register email password)).run [] := by
  have hsend : ∀ {h : Calls} {msg : ServerMessage}, Prog.Follows (fun _ _ => True)
      (fun h r => r = .ok () → Replied c h) (Handler.send c msg).run h := fun {h msg} =>
    ⟨trivial, fun sent _ => ⟨msg, sent, List.mem_cons_self⟩⟩
  simp only [handleMessage, Handler.lift_bind, registrationEnabled_bind, Prog.follows_call]
  refine ⟨trivial, fun r => ?_⟩
  cases (r.map fun v => v.elim true (· == "true")).toOption.getD true with
  | false => exact hsend
  | true =>
    simp only [Handler.mk_bind, Handler.lift_bind, perform, Prog.perform_bind, Prog.follows_call,
      Bool.not_true, Bool.false_eq_true, if_false]
    refine ⟨trivial, fun hashed => ?_⟩
    rcases hashed with e | hash
    · exact fun h => absurd h (by simp)
    · dsimp only
      rw [Prog.follows_bind]
      refine (Prog.follows_trivial _ _).mono (fun _ _ h => h) fun h created _ => ?_
      rcases created with e | ⟨id, role⟩
      · exact hsend
      · exact ⟨trivial, fun _ => ⟨trivial, fun _ => hsend⟩⟩

/-- Every turn that logs in, or tries to, has replied when it is over. -/
theorem Task.replied (t : Task) : Prog.Follows (fun _ _ => True)
    (fun h _ => ∀ c email password, (t = .message c (.login email password)
      ∨ t = .message c (.register email password)) → Replied c h) (server.body t) [] := by
  have hturn : ∀ {c m}, Prog.Follows (fun _ _ => True) (fun h r => r = .ok () → Replied c h)
      (handleMessage c m).run [] → Prog.Follows (fun _ _ => True) (fun h _ => Replied c h)
        (server.body (.message c m)) [] := by
    intro c m hm
    show Prog.Follows _ _ (onMessage c m >>= _) _
    rw [Prog.follows_bind, onMessage_eq, Prog.follows_bind]
    exact hm.mono (fun _ _ h => h) fun h r hr => replied_report hr
  by_cases ht : ∃ c email password, t = .message c (.login email password)
      ∨ t = .message c (.register email password)
  · obtain ⟨c, email, password, rfl | rfl⟩ := ht
    · refine (hturn (replied_login email password)).mono (fun _ _ h => h) fun h r hr => ?_
      intro c' email' password' heq
      obtain rfl : c = c' := by
        obtain heq | heq := heq <;> exact (Task.message.inj heq).1
      exact hr
    · refine (hturn (replied_register email password)).mono (fun _ _ h => h) fun h r hr => ?_
      intro c' email' password' heq
      obtain rfl : c = c' := by
        obtain heq | heq := heq <;> exact (Task.message.inj heq).1
      exact hr
  · refine (Prog.follows_trivial _ _).mono (fun _ _ h => h) fun h r _ => ?_
    intro c email password heq
    exact absurd ⟨c, email, password, heq⟩ ht

/-- The turns of a connection are among the jobs while its channel is open. -/
theorem job_kept (h : Run A s₀ w) (halive : (w.st.channel c).alive = true) {j : Nat} {t : Task}
    (ht : t.connection = some c) (he : Event.start j t ∈ w.log) : ∃ p, w.jobs j = some (t, p) := by
  induction h with
  | refl => exact absurd he List.not_mem_nil
  | @tail u u' hr hs ih =>
    have hn : System.Numbered u := System.Reachable.numbered hr
    -- a channel that is open has been so since its first turn
    have hbefore : Event.start j t ∈ u.log → ∃ p, u.jobs j = some (t, p) := by
      intro hin
      refine ih ?_ hin
      by_contra hdead
      have hphase : (u.st.socket c).phase ≠ .fresh :=
        fun hfresh => (retained hr c).fresh hfresh j t ht hin
      have hdead' := (Dead.step ⟨hphase, Bool.eq_false_iff.mpr hdead⟩ hs).2
      rw [halive] at hdead'
      exact absurd hdead' (by simp)
    cases hs with
    | start t' _ _ =>
      rcases List.mem_cons.mp he with heq | hin
      · obtain ⟨rfl, rfl⟩ := Event.start.inj heq
        exact ⟨_, Function.update_self _ _ _⟩
      · obtain ⟨p, hp⟩ := hbefore hin
        have hlt := hn.start_lt j t hin
        exact ⟨p, (Function.update_of_ne (Nat.ne_of_lt hlt) _ _).trans hp⟩
    | @call i t' o k d hi _ =>
      obtain ⟨p, hp⟩ := hbefore ((List.mem_cons.mp he).resolve_left (by simp))
      by_cases hji : j = i
      · subst hji
        obtain ⟨rfl, rfl⟩ := Prod.mk.inj (Option.some.inj (hp.symm.trans hi))
        exact ⟨_, Function.update_self _ _ _⟩
      · exact ⟨p, (Function.update_of_ne hji _ _).trans hp⟩
    | env e =>
      obtain ⟨p, hp⟩ := hbefore ((List.mem_cons.mp he).resolve_left (by simp))
      cases e with
      | sendTaskStops c' => exact ⟨p, hp⟩
      | restart => exact absurd halive (by simp [server, Env.disturb, Server.restart, System.envView])

/-- **A turn that is over has been answered**, while the channel is open. -/
theorem reply_arrived (h : Run A s₀ w) (halive : (w.st.channel c).alive = true) {j : Nat}
    {email password : String} {m : ClientMessage}
    (hm : m = .login email password ∨ m = .register email password)
    (he : Event.start j (.message c m) ∈ w.log)
    (hover : ∀ i t p, w.jobs i = some (t, p) → t.connection = some c → p.done = true) :
    ∃ msg t, Event.call j t ⟨.send c msg, .ok ()⟩ ∈ w.log := by
  obtain ⟨p, hp⟩ := job_kept h halive rfl he
  have hdone := hover j _ p hp rfl
  cases p with
  | call o k => exact absurd hdone Bool.false_ne_true
  | ret a =>
    have hreplied : Replied c (hist j w.log) := by
      refine h.finished Task.replied hp c email password ?_
      exact hm.imp (fun hm => by rw [hm]) (fun hm => by rw [hm])
    obtain ⟨msg, r, hsent⟩ := hreplied
    have hin := h.event_of_hist hp hsent
    refine ⟨msg, .message c m, ?_⟩
    obtain ⟨w₁, w₂, h₁, hs, h₂, hlog⟩ := h.moment hin
    obtain ⟨d, k, hj, -, hres, -⟩ := hs.of_call hlog
    have hphase : (w₁.st.socket c).phase ≠ .fresh := by
      intro hfresh
      exact (retained h₁ c).fresh hfresh j _ rfl (h₁.numbered.job_start j _ _ hj)
    -- the channel was open then, so the reply was put on the queue
    have hopen : (w₁.st.channel c).alive = true := by
      by_contra hdead
      have hlost : Dead c w := Dead.stays ⟨hphase, Bool.eq_false_iff.mpr hdead⟩ (h₂.head hs)
      rw [hlost.2] at halive
      exact absurd halive (by simp)
    have hok : r = .ok () := by
      have hres' : r = ((Op.send c msg).exec d w₁.st).1 := hres
      rw [hres']
      simp [Op.exec, hopen]
    rwa [hok] at hin

end

end Visuara.Signaling
