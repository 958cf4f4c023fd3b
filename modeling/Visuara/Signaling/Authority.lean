/-
  Visuara.Signaling.Authority
  ───────────────────────────
  **ACCOUNTS BEHIND OPEN CONNECTIONS.**

  An HTTP request looks its account up every time; a connection remembers the
  account it has logged in as (`ConnState`), and `require_auth` looks no further.
  So the deletion of an account leaves its open connections authenticated
  (`deleted_account_connects`).  In a run in which no account is deleted that
  an open connection is logged in as (`SparesLogins`), the two agree
  (`authority_ends_with_account`).
-/
import Visuara.Signaling.Accounts
import Visuara.Signaling.Login

namespace Visuara.Signaling

open Interleave Relational

/-! ## §1. What is true of accounts stays true. -/

/-- An account stays, unless it is deleted. -/
theorem Query.hasAccount_exec {now : Int} {db : Db} {q : Query} {id : Int}
    (h : db.hasAccount id = true) (hq : q ≠ .deleteAccount id) :
    (q.exec now db).2.hasAccount id = true := by
  obtain ⟨a, ha, rfl⟩ := Db.hasAccount_iff.mp h
  rw [Db.hasAccount_iff]
  cases q with
  | createAccount email hash role =>
    simp only [exec]
    split
    next db' hc => exact ⟨a, (Table.mem_insert? (Db.createAccount_ok hc).1 a).mpr (.inl ha), rfl⟩
    next => exact ⟨a, ha, rfl⟩
  | setAccountRole id role =>
    by_cases hid : a.id = id
    · exact ⟨_, Db.mem_setAccountRole.mpr (.inr ⟨a, ha, hid, rfl⟩), rfl⟩
    · exact ⟨a, Db.mem_setAccountRole.mpr (.inl ⟨ha, hid⟩), rfl⟩
  | deleteAccount id =>
    exact ⟨a, Db.mem_deleteAccount.mpr ⟨ha, fun heq => hq (by rw [heq])⟩, rfl⟩
  | _ => exact ⟨a, by rwa [(exec_accounts rfl).1], rfl⟩

/-- The id that `create_account` returns belongs to an account. -/
theorem Query.hasAccount_created {now : Int} {db : Db} {email hash : String} {role : AccountRole}
    {id : Int} (h : ((Query.createAccount email hash role).exec now db).1 = .ok id) :
    ((Query.createAccount email hash role).exec now db).2.hasAccount id = true := by
  simp only [exec] at h ⊢
  split at h
  next db' hc =>
    obtain ⟨hi, hseq, -⟩ := Db.createAccount_ok hc
    obtain rfl : db'.accountSeq = id := Except.ok.inj h
    exact Db.hasAccount_iff.mpr ⟨_, (Table.mem_insert? hi _).mpr (.inr rfl), hseq.symm⟩
  next => exact absurd h (by simp)

/-- An account that is no longer there does not come back: ids are not reused. -/
structure Db.Gone (db : Db) (id : Int) : Prop where
  absent : db.hasAccount id = false
  le_seq : id ≤ db.accountSeq

theorem Query.gone_exec {now : Int} {db : Db} {q : Query} {id : Int} (h : db.Gone id) :
    (q.exec now db).2.Gone id := by
  refine ⟨?_, Int.le_trans h.le_seq Query.accountSeq_le⟩
  by_contra hthere
  obtain ⟨a, ha, rfl⟩ := Db.hasAccount_iff.mp (Bool.not_eq_false _ ▸ hthere)
  rcases Query.mem_exec_accounts ha with ⟨b, hb, hid⟩ | hnew
  · have hold : db.hasAccount a.id = true := Db.hasAccount_iff.mpr ⟨b, hb, hid⟩
    rw [h.absent] at hold
    exact absurd hold (by simp)
  · have hle := h.le_seq
    omega

section

variable [Crates] {o : Op} {s : Server} {id : Int}

theorem hasAccount_exec_op (h : s.db.hasAccount id = true) (ho : o ≠ .db (.deleteAccount id))
    (d : Draw) : (o.exec d s).2.db.hasAccount id = true := by
  rw [Op.exec_db]
  cases o with
  | db q =>
    dsimp only
    split
    · exact h
    · exact Query.hasAccount_exec h fun heq => ho (by rw [heq])
  | _ => exact h

theorem gone_exec_op (h : s.db.Gone id) (d : Draw) : (o.exec d s).2.db.Gone id := by
  rw [Op.exec_db]
  cases o with
  | db q =>
    dsimp only
    split
    · exact h
    · exact Query.gone_exec h
  | _ => exact h

end

/-! ## §2. Logins with an account. -/

/-- An open connection is logged in as `id`. -/
def Server.LoggedInAs (s : Server) (c : ConnectionId) (id : Int) : Prop :=
  (s.socket c).phase = .live ∧ (s.socket c).connState = .authenticated id

instance (s : Server) (c : ConnectionId) (id : Int) : Decidable (s.LoggedInAs c id) :=
  inferInstanceAs (Decidable (_ ∧ _))

/-- Whoever is logged in has an account. -/
def Rooted (s : Server) : Prop := ∀ c id, s.LoggedInAs c id → s.db.hasAccount id = true

/-- **When a task leaves the logins alone.**  A `DELETE` of an account, if it may
get past `require_admin` and the guard, meets no open connection that is logged
in as that account. -/
def SparesLogins (B : Op → Draw → Bool) (t : Task) (s : Server) : Prop :=
  match t with
  | .http (.deleteAccount headers id) => AsksAsAdmin headers s.db → GuardMayPass B s.db id →
      ∀ c, ¬ s.LoggedInAs c id
  | _ => True

def Task.deletesAccount : Task → Bool
  | .http (.deleteAccount ..) => true
  | _ => false

section

variable [Crates]

/-- Everybody who is logged in has an account, and so have those whom the task
has found or created. -/
structure Accounted (h : Calls) (s : Server) : Prop where
  rooted : Rooted s
  found : ∀ email a, Did h (.db (.findAccountByEmail email)) (.ok (some a)) →
    s.db.hasAccount a.id = true
  created : ∀ email hash role id, Did h (.db (.createAccount email hash role)) (.ok id) →
    s.db.hasAccount id = true

omit [Crates] in
theorem no_deletion {t : Task} (ht : t.deletesAccount = false) {o : Op} (ho : t.performs o = true)
    (id : Int) : o ≠ .db (.deleteAccount id) := by
  rintro rfl
  cases t with
  | http req => cases req <;> first | exact absurd ho Bool.false_ne_true
                                    | exact absurd ht.symm Bool.false_ne_true
  | message c m => cases m <;> exact absurd ho Bool.false_ne_true
  | _ => exact absurd ho Bool.false_ne_true

/-- **One operation.** -/
theorem Accounted.step {t : Task} {h : Calls} {s : Server} {o : Op} (hI : Accounted h s)
    (ht : t.deletesAccount = false) (hlogs : LogsIn t h o) (ho : t.performs o = true) (d : Draw) :
    Accounted (⟨o, (o.exec d s).1⟩ :: h) (o.exec d s).2 := by
  have hstays : ∀ {id}, s.db.hasAccount id = true → (o.exec d s).2.db.hasAccount id = true :=
    fun hid => hasAccount_exec_op hid (no_deletion ht ho _) d
  refine ⟨?_, ?_, ?_⟩
  · rintro c id ⟨hlive, hst⟩
    rw [Op.exec_phase] at hlive
    rw [Op.exec_connState] at hst
    cases o with
    | setConnState c' st =>
      dsimp only at hst
      split at hst
      next =>
        -- the account that has been found, or created
        obtain ⟨email, password, id', rfl, hin⟩ := hlogs
        obtain rfl : id' = id := ConnState.authenticated.inj hst
        obtain ⟨-, ⟨a, hfound, -, rfl⟩⟩ | ⟨-, ⟨hash, role, -, hcreated⟩⟩ := hin
        · exact hstays (hI.found email a hfound)
        · exact hstays (hI.created email hash role id' hcreated)
      next => exact hstays (hI.rooted c id ⟨hlive, hst⟩)
    | _ => exact hstays (hI.rooted c id ⟨hlive, hst⟩)
  · intro email a hm
    rcases List.mem_cons.mp hm with heq | hm
    · obtain ⟨rfl, hres⟩ := Call.mk.inj heq
      obtain ⟨hd, hq⟩ := Op.exec_query_ok (eq_of_heq hres).symm
      have hfind : s.db.accounts.rows.find? (fun a => a.email == email) = some a := Except.ok.inj hq
      exact hstays (Db.hasAccount_iff.mpr ⟨a, List.mem_of_find?_eq_some hfind, rfl⟩)
    · exact hstays (hI.found email a hm)
  · intro email hash role id hm
    rcases List.mem_cons.mp hm with heq | hm
    · obtain ⟨rfl, hres⟩ := Call.mk.inj heq
      obtain ⟨hd, hq⟩ := Op.exec_query_ok (eq_of_heq hres).symm
      rw [Op.exec_query hd]
      exact Query.hasAccount_created hq
    · exact hstays (hI.created email hash role id hm)

variable {B : Op → Draw → Bool} {s : Server}

omit [Crates] in
/-- A connection that opens is not logged in, and one that ends no more. -/
theorem rooted_begins (t : Task) (hs : Rooted s) : Rooted (t.begin s) := by
  rintro c id ⟨hlive, hst⟩
  cases t with
  | connect c' =>
    by_cases hc : c = c'
    · subst hc
      simp [Task.begin, Server.setChannel, Server.setSocket] at hst
    · simp only [Task.begin, Server.setChannel, Server.setSocket, Function.update_of_ne hc]
        at hlive hst
      exact hs c id ⟨hlive, hst⟩
  | close c' =>
    by_cases hc : c = c'
    · subst hc
      simp [Task.begin, Server.setSocket] at hlive
    · simp only [Task.begin, Server.setSocket, Function.update_of_ne hc] at hlive hst
      exact hs c id ⟨hlive, hst⟩
  | _ => exact hs c id ⟨hlive, hst⟩

/-- The deletion of an account that nobody is logged in as. -/
theorem rooted_deleteAccount (headers : HeaderMap) (id : Int) (hs : Rooted s)
    (hspares : AsksAsAdmin headers s.db → GuardMayPass B s.db id → ∀ c, ¬ s.LoggedInAs c id) :
    Prog.wp Op.exec (fun _ o d => B o d = true) (Api.deleteAccount headers id)
      (fun _ s' => Rooted s') s := by
  refine wp_withAdmin (fun _ _ => hs) fun hadmin => ?_
  refine wp_guardLastAdmin (fun hpass => ?_) fun _ => hs
  rintro draw _ c id' ⟨hlive, hst⟩
  rw [Op.exec_phase] at hlive
  rw [Op.exec_connState] at hst
  refine hasAccount_exec_op (hs c id' ⟨hlive, hst⟩) (fun heq => ?_) draw
  injection heq with heq
  injection heq with heq
  exact hspares hadmin hpass c ⟨hlive, heq ▸ hst⟩

/-- **Every task that spares the logins leaves an account to each.** -/
theorem task_rooted (t : Task) (hs : Rooted s) (hspares : SparesLogins B t s) :
    Prog.wp Op.exec (fun _ o d => B o d = true) (server.body t) (fun _ s' => Rooted s')
      (server.begins t s) := by
  cases ht : t.deletesAccount with
  | false =>
    have hboth := t.logsIn.and t.only
    refine Prog.wp_mono (Prog.wp_of_licensed (J := Accounted) hboth ?_ ?_) ?_
    · exact fun h s' o d ho _ hI => hI.step ht ho.1 ho.2 d
    · exact ⟨rooted_begins t hs, fun _ _ hm => absurd hm List.not_mem_nil,
        fun _ _ _ _ hm => absurd hm List.not_mem_nil⟩
    · rintro _ _ ⟨_, -, hI⟩
      exact hI.rooted
  | true =>
    cases t with
    | http req =>
      refine wp_http ?_
      cases req with
      | deleteAccount headers id => exact rooted_deleteAccount headers id hs hspares
      | _ => exact absurd ht Bool.false_ne_true
    | _ => exact absurd ht Bool.false_ne_true

/-- Ids of accounts that have been deleted stay unused. -/
theorem task_gone {A : Server → Op → Draw → Prop} (t : Task) {id : Int} (h : s.db.Gone id) :
    Prog.wp Op.exec A (server.body t) (fun _ s' => s'.db.Gone id) (server.begins t s) := by
  have honly : Only t.performs (server.body t) ([] : Calls) := t.only
  refine Prog.wp_of_follows honly (fun s' o d _ _ hI => gone_exec_op hI d) ?_
  cases t <;> exact h

/-- The id of an account is one that has been used. -/
theorem task_accountSeq {A : Server → Op → Draw → Prop} (t : Task) {id : Int}
    (h : id ≤ s.db.accountSeq) :
    Prog.wp Op.exec A (server.body t) (fun _ s' => id ≤ s'.db.accountSeq) (server.begins t s) := by
  have honly : Only t.performs (server.body t) ([] : Calls) := t.only
  refine Prog.wp_of_follows honly (fun s' o d _ _ hI => ?_) ?_
  · rw [Op.exec_db]
    cases o with
    | db q =>
      dsimp only
      split
      · exact hI
      · exact Int.le_trans hI Query.accountSeq_le
    | _ => exact hI
  · cases t <;> exact h

end

/-! ## §3. Runs. -/

/-- The messages behind `require_auth`. -/
def requiresAuth : ClientMessage → Bool
  | .registerDevice _ | .listDevices | .requestConnection .. | .setUnattendedPassword .. => true
  | _ => false

/-- The turn deleted the account. -/
def DeletesAccount (turn : ServerTurn) (id : Int) : Prop :=
  turn.before.db.hasAccount id = true ∧ turn.after.db.hasAccount id = false

section

variable [Crates] {B : Op → Draw → Bool} {s : Server} {l : List ServerTurn} {db : Db}
  {config : Config} {files : Files}

omit [Crates] in
theorem rooted_disturb (e : Env) (hs : Rooted s) : Rooted (e.disturb s) := by
  cases e with
  | sendTaskStops c => exact hs
  | restart =>
    rintro c id ⟨hlive, -⟩
    simp only [Env.disturb, Server.restart] at hlive
    split at hlive
    next hfresh => exact absurd (hfresh.symm.trans hlive) (by simp)
    next => exact absurd hlive (by simp)

/-- **The authority of an account ends with it** in every serial run in which no
account is deleted that an open connection is logged in as, whatever fails: when a
message passes `require_auth` as an account, that account exists; and once an account
has been deleted, no connection that is logged in as it obtains `ConnectionEstablished`. -/
theorem authority_ends_with_account
    (h : server.Serial B (Server.start db config files) l s)
    (hspares : ∀ turn ∈ l, SparesLogins B turn.task turn.before) :
    (∀ turn ∈ l, ∀ c m id, turn.task = .message c m → requiresAuth m = true →
      (turn.before.socket c).connState = .authenticated id → turn.before.db.hasAccount id = true)
    ∧ ∀ l₁ turn l₂ id, l = l₁ ++ turn :: l₂ → DeletesAccount turn id → ∀ u ∈ l₁, ∀ c k d,
      Enqueues u c (.connectionEstablished k d) →
        (u.before.socket c).connState ≠ .authenticated id := by
  have h0 : Rooted (Server.start db config files) := fun c id hlogged =>
    absurd hlogged.1 (by simp [Server.start])
  have hrooted := (h.invariant h0 (fun turn hturn hran hI =>
    hran.sound (task_rooted turn.task hI (hspares turn hturn))) fun e s => rooted_disturb e).2
  have hauth : ∀ turn ∈ l, ∀ c m id, turn.task = .message c m →
      (turn.before.socket c).connState = .authenticated id →
      turn.before.db.hasAccount id = true := by
    intro turn hturn c m id ht hst
    have hadm := (h.ran hturn).admitted
    rw [ht] at hadm
    exact hrooted turn hturn c id ⟨of_decide_eq_true hadm, hst⟩
  refine ⟨fun turn hturn c m id ht _ hst => hauth turn hturn c m id ht hst, ?_⟩
  intro l₁ turn l₂ id hl hdeletes u hu c k d hsent hst
  have hmem : u ∈ l := hl ▸ List.mem_append_left _ hu
  have hturn : turn ∈ l := hl ▸ List.mem_append_right _ List.mem_cons_self
  -- the account does not come back
  have hgone : turn.after.db.Gone id := by
    obtain ⟨a, ha, rfl⟩ := Db.hasAccount_iff.mp hdeletes.1
    exact ⟨hdeletes.2, (h.ran hturn).sound
      (task_accountSeq turn.task (turn.before.db.id_le_seq a ha))⟩
  have hlater := h.later (I := fun s => s.db.Gone id) hl hgone
    (fun u _ hran hI => hran.sound (task_gone u.task hI)) fun e s hI => by cases e <;> exact hI
  -- but the requester's does exist
  obtain ⟨d', credential, htask⟩ := established_by (sends_of_enqueues (h.ran hmem) hsent)
  have hthere := hauth u hmem c _ id htask hst
  rw [(hlater.2 u hu).absent] at hthere
  exact absurd hthere (by simp)

end

section Schedule

open scoped Transparent

/-- Bob's connection asks for his devices. -/
def bobLists : List (Task × List Draw) :=
  openAndRegister ++ [(.message "c" .listDevices, List.replicate 3 (Draw.from 4))]

/-- Ann's host comes online, and Ann deletes Bob; then Bob's connection asks for hers. -/
def bobStays : List (Task × List Draw) :=
  openAndRegister ++ [(.connect "h", [Draw.from 5]),
    (.message "h" (.login "ann@example.com" "pw"), List.replicate 5 (Draw.from 6)),
    (.message "h" (.registerDevice "pc"), List.replicate 9 (Draw.from 7)),
    (.http (.deleteAccount
      ⟨some ("visuara_session=" ++ generateSessionToken (Draw.from 0).rng), none⟩ 2),
      List.replicate 4 (Draw.from 8)),
    (.message "c" (.requestConnection (generateDeviceId (Draw.from 7).rng)
      (.oneTimePassword (generateOneTimePassword (Draw.from 7).rng))),
      List.replicate 9 (Draw.from 9))]

/-- Nobody deletes an account, and the last turn is the request. -/
theorem bobLists_shows : (server.serveAll bobLists ([], Server.blank true)).any (fun r =>
    (r.1.all fun turn => !turn.task.deletesAccount)
      && r.1[0]?.any fun turn => decide (turn.task = .message "c" .listDevices
        ∧ (turn.before.socket "c").connState = .authenticated 2)) = true := by
  decide +kernel

/-- Bob's connection is logged in and gets its answer; the turn before deletes Bob. -/
theorem bobStays_shows : (server.serveAll bobStays ([], Server.blank true)).any (fun r =>
    (r.1[0]?.any fun turn => decide ((turn.before.socket "c").connState = .authenticated 2
      ∧ turn.task = .message "c" (.requestConnection (generateDeviceId (Draw.from 7).rng)
        (.oneTimePassword (generateOneTimePassword (Draw.from 7).rng)))
      ∧ turn.before.db.hasAccount 2 = false
      ∧ (turn.after.channel "c").queue = (turn.before.channel "c").queue
        ++ [.connectionEstablished (newV4 (Draw.from 9).rng) (generateDeviceId (Draw.from 7).rng)]))
      && r.1[1]?.any fun turn => decide (turn.before.db.hasAccount 2 = true
        ∧ turn.after.db.hasAccount 2 = false)) = true := by
  decide +kernel

theorem bobLists_served : (server.serveAll bobLists ([], Server.blank true)).isSome = true :=
  Option.isSome_of_any bobLists_shows

theorem bobStays_served : (server.serveAll bobStays ([], Server.blank true)).isSome = true :=
  Option.isSome_of_any bobStays_shows

theorem bobLists_serial : server.Serial dbWorks (Server.blank true)
    (Option.get _ bobLists_served).1 (Option.get _ bobLists_served).2 :=
  served_serial (by decide +kernel) bobLists_served

theorem bobStays_serial : server.Serial dbWorks (Server.blank true)
    (Option.get _ bobStays_served).1 (Option.get _ bobStays_served).2 :=
  served_serial (by decide +kernel) bobStays_served

theorem authority_ends_with_account_bob : ∃ turn ∈ (Option.get _ bobLists_served).1,
    turn.task = .message "c" .listDevices
      ∧ (turn.before.socket "c").connState = .authenticated 2
      ∧ turn.before.db.hasAccount 2 = true := by
  have hshows := get_of_any bobLists_shows bobLists_served
  simp only [Bool.and_eq_true, Option.any_eq_true, decide_eq_true_eq] at hshows
  obtain ⟨hno, turn, hlast, htask, hst⟩ := hshows
  have hspares : ∀ turn ∈ (Option.get _ bobLists_served).1,
      SparesLogins dbWorks turn.task turn.before := by
    intro turn hturn
    have ht := List.all_eq_true.mp hno turn hturn
    unfold SparesLogins
    split
    next heq =>
      rw [heq] at ht
      exact absurd ht (by simp [Task.deletesAccount])
    next => trivial
  have hturn : turn ∈ (Option.get _ bobLists_served).1 := List.mem_of_getElem? hlast
  exact ⟨turn, hturn, htask, hst, (authority_ends_with_account bobLists_serial hspares).1 turn hturn
    "c" .listDevices 2 htask rfl hst⟩

/-- The connection of a deleted account is still let in. -/
theorem deleted_account_connects :
    (¬ ∀ l s, server.Serial dbWorks (Server.blank true) l s → ∀ turn ∈ l, ∀ c m id,
      turn.task = .message c m → requiresAuth m = true →
      (turn.before.socket c).connState = .authenticated id → turn.before.db.hasAccount id = true)
    ∧ ¬ ∀ l s, server.Serial dbWorks (Server.blank true) l s → ∀ l₁ turn l₂ id,
      l = l₁ ++ turn :: l₂ → DeletesAccount turn id → ∀ u ∈ l₁, ∀ c k d,
      Enqueues u c (.connectionEstablished k d) →
        (u.before.socket c).connState ≠ .authenticated id := by
  have hshows := get_of_any bobStays_shows bobStays_served
  simp only [Bool.and_eq_true, Option.any_eq_true, decide_eq_true_eq] at hshows
  obtain ⟨⟨u, hu, hst, htask, habsent, hqueue⟩, turn, hturn, hdeletes⟩ := hshows
  constructor
  · intro h
    have hthere := h _ _ bobStays_serial u (List.mem_of_getElem? hu) "c" _ 2 htask rfl hst
    exact absurd (hthere.symm.trans habsent) (by simp)
  · intro h
    have hl : (Option.get _ bobStays_served).1
        = [u] ++ turn :: (Option.get _ bobStays_served).1.drop 2 := eq_cons_cons hu hturn
    exact h _ _ bobStays_serial [u] turn _ 2 hl hdeletes u (List.mem_singleton.mpr rfl) "c" _ _
      (.of_last hqueue) hst

end Schedule

end Visuara.Signaling
