/-
  Visuara.Signaling.Upgraded
  ──────────────────────────
  **A SERVER WITHOUT AN ADMIN STAYS WITHOUT ONE.**

  A database from before the `role` column has accounts, and none of them is an
  admin.  Authority comes from two places only: from an admin, or from the
  first account, which `create_account_and_maybe_bootstrap_admin` recognizes
  by an empty table.  Neither is there any more, so somebody has to make the
  first admin by hand, as the README says.

    • `Op.commands`         — the operations that take authority;
    • `Task.commanded`      — a task that performs one has seen where it comes from;
    • `stays_without_admin` — whatever clients do, in every interleaving.
-/
import Visuara.Signaling.Footprint
import Visuara.Signaling.LastAdmin
import Visuara.Signaling.Licence

namespace Visuara.Signaling

open Interleave Relational

/-! ## §1. Authority. -/

/-- Operations that only an admin may bring about, or the first account. -/
def Op.commands : Op → Bool
  | .db (.createAccount _ _ .admin) | .db (.setAccountRole ..) | .db (.deleteAccount _)
  | .db (.setSetting ..) => true
  | _ => false

/-- The task has seen an admin, or an empty table of accounts. -/
def Empowered (h : Calls) : Prop :=
  (∃ token account, Did h (.db (.findSession token)) (.ok (some account)) ∧ account.role = .admin)
    ∨ Did h (.db .countAccounts) (.ok 0)

theorem Empowered.cons {h : Calls} (hh : Empowered h) (x : Call Op Op.Res) : Empowered (x :: h) := by
  obtain ⟨token, account, hm, hrole⟩ | hm := hh
  · exact .inl ⟨token, account, List.mem_cons_of_mem _ hm, hrole⟩
  · exact .inr (List.mem_cons_of_mem _ hm)

/-- What it takes to perform `o`. -/
abbrev Commanded (h : Calls) (o : Op) : Prop := o.commands = true → Empowered h

/-- With authority a program may do anything. -/
theorem follows_empowered {α : Type} (p : Act α) {h : Calls} (hh : Empowered h) :
    Prog.Follows Commanded (fun h _ => Empowered h) p h := by
  induction p generalizing h with
  | ret a => exact hh
  | call o k ih => exact ⟨fun _ => hh, fun r => ih r (hh.cons _)⟩

/-- A program without such operations needs none. -/
theorem follows_modest {α : Type} {p : Act α} {h : Calls}
    (hp : Only (fun o => !o.commands) p h) : Prog.Follows Commanded (fun _ _ => True) p h :=
  hp.mono (fun _ o ho hc => by simp [hc] at ho) fun _ _ h => h

/-- The routes behind `require_admin`. -/
def Request.administers : Request → Bool
  | .getSettings _ | .saveSettings .. | .clientBuilds _ | .fetchRelease _ | .listAccounts _
  | .createAccount .. | .accountDetail .. | .deleteAccount .. | .setAccountRole ..
  | .deleteDevice .. | .getRegistration _ | .setRegistration .. => true
  | _ => false

/-- Turned away by `require_admin`. -/
def Response.unauthorized (r : Response) : Prop := r.status = 401 ∨ r.status = 403

section

variable [Crates]

/-! ## §2. Where it comes from. -/

omit [Crates] in
theorem follows_admin {headers : HeaderMap} (handler : Act Response) :
    Prog.Follows Commanded (fun h r => Empowered h ∨ r.unauthorized)
      (Api.withAdmin headers handler) [] := by
  rw [Api.withAdmin_eq]
  cases cookieValue headers SESSION_COOKIE with
  | none => exact .inr (.inl rfl)
  | some token =>
    refine ⟨fun h => absurd h Bool.false_ne_true, fun r => ?_⟩
    rcases r with e | (_ | account)
    · exact .inr (.inl rfl)
    · exact .inr (.inl rfl)
    · by_cases hrole : account.role = .admin
      · have hh : Empowered [⟨.db (.findSession token), .ok (some account)⟩] :=
          .inl ⟨token, account, List.mem_cons_self, hrole⟩
        simp only [hrole, if_true]
        exact (follows_empowered handler hh).mono (fun _ _ h => h) fun _ _ h => .inl h
      · simp only [hrole, if_false]
        exact .inr (.inr rfl)

omit [Crates] in
theorem follows_publicAccount (email hash : String) (h : Calls) :
    Prog.Follows Commanded (fun _ _ => True)
      (createAccountAndMaybeBootstrapAdmin email hash).run h := by
  rw [createAccountAndMaybeBootstrapAdmin_run]
  refine ⟨fun hc => absurd hc Bool.false_ne_true, fun n => ?_⟩
  rcases n with e | n
  · trivial
  · by_cases hn : n = 0
    · subst hn
      exact (follows_empowered _ (.inr List.mem_cons_self)).mono (fun _ _ h => h) fun _ _ _ => trivial
    · refine ⟨fun hc => ?_, fun r => ?_⟩
      · simp [Op.commands, hn] at hc
      rcases r with e | id
      · trivial
      · dsimp only
        split
        next hzero => exact absurd (eq_of_beq hzero) hn
        next => trivial

/-- The tasks that may command. -/
def Task.commands : Task → Bool
  | .message _ (.register ..) | .http (.register ..) => true
  | .http req => req.administers
  | _ => false

omit [Crates] in
theorem commands_of_performs {t : Task} {o : Op} (ho : t.performs o = true)
    (hc : o.commands = true) : t.commands = true := by
  cases o with
  | db q =>
    cases q with
    | createAccount | setAccountRole | deleteAccount | setSetting =>
      cases t with
      | message c m => cases m <;> first | rfl | exact absurd ho Bool.false_ne_true
      | http req => cases req <;> first | rfl | exact absurd ho Bool.false_ne_true
      | _ => exact absurd ho Bool.false_ne_true
    | _ => exact absurd hc Bool.false_ne_true
  | _ => exact absurd hc Bool.false_ne_true

/-- The answer to a request of an admin. -/
def Answered (t : Task) (h : Calls) (r : Option Response) : Prop :=
  ∀ req, t = .http req → req.administers = true →
    Empowered h ∨ ∃ resp, r = some resp ∧ resp.unauthorized

theorem follows_administers {req : Request} (hreq : req.administers = true) :
    Prog.Follows Commanded (fun h r => Empowered h ∨ r.unauthorized) (Api.route req) [] := by
  cases req with
  | register | login | logout | me | registrationStatus | listDevices | deleteOwn | listDownloads
  | downloadPlatform => exact absurd hreq Bool.false_ne_true
  | _ => exact follows_admin _

omit [Crates] in
theorem follows_register_http (email password : String) :
    Prog.Follows Commanded (fun _ _ => True) (Api.register email password) [] := by
  simp only [Api.register]
  split
  · trivial
  · rw [registrationEnabled_bind]
    refine ⟨fun hc => absurd hc Bool.false_ne_true, fun r => ?_⟩
    dsimp only
    generalize r.map (fun v => v.elim true (· == "true")) = enabled
    rcases enabled with e | (_ | _)
    · trivial
    · trivial
    · refine ⟨fun hc => absurd hc Bool.false_ne_true, fun hashed => ?_⟩
      rcases hashed with e | hash
      · trivial
      · show Prog.Follows _ _ ((createAccountAndMaybeBootstrapAdmin _ hash).run >>= _) _
        rw [Prog.follows_bind]
        refine (follows_publicAccount _ hash _).mono (fun _ _ h => h) fun h r _ => ?_
        rcases r with e | ⟨id, role⟩
        · dsimp only
          split <;> trivial
        · refine ⟨fun hc => absurd hc Bool.false_ne_true, fun token => ?_⟩
          refine ⟨fun hc => absurd hc Bool.false_ne_true, fun r => ?_⟩
          rcases r with e | _ <;> trivial

theorem follows_register_ws (c : ConnectionId) (email password : String) :
    Prog.Follows Commanded (fun _ _ => True) (onMessage c (.register email password)) [] := by
  suffices hm : Prog.Follows Commanded (fun _ _ => True)
      (handleMessage c (.register email password)).run [] by
    simp only [onMessage, Prog.follows_bind]
    refine hm.mono (fun _ _ h => h) fun h r _ => ?_
    rcases r with e | _
    · exact ⟨fun hc => absurd hc Bool.false_ne_true, fun _ => trivial⟩
    · trivial
  simp only [handleMessage, Handler.lift_bind, registrationEnabled_bind, Prog.follows_call]
  refine ⟨fun hc => absurd hc Bool.false_ne_true, fun r => ?_⟩
  cases (r.map fun v => v.elim true (· == "true")).toOption.getD true with
  | false => exact ⟨fun hc => absurd hc Bool.false_ne_true, fun _ => trivial⟩
  | true =>
    simp only [Handler.mk_bind, Handler.lift_bind, perform, Prog.perform_bind, Prog.follows_call,
      Bool.not_true, Bool.false_eq_true, if_false]
    refine ⟨fun hc => absurd hc Bool.false_ne_true, fun hashed => ?_⟩
    rcases hashed with e | hash
    · trivial
    · simp only [Prog.follows_bind]
      refine (follows_publicAccount email hash _).mono (fun _ _ h => h) fun h r _ => ?_
      rcases r with e | ⟨id, role⟩
      · exact ⟨fun hc => absurd hc Bool.false_ne_true, fun _ => trivial⟩
      · simp only [Handler.perform_bind, Handler.send_run]
        simp [Commanded, Op.commands]

/-- **Every task that commands has seen where its authority comes from.** -/
theorem Task.commanded (t : Task) :
    Prog.Follows Commanded (Answered t) (server.body t) [] := by
  cases hcommands : t.commands with
  | false =>
    refine (follows_modest (t.only.mono (fun _ o ho => ?_) fun _ _ h => h)).mono
      (fun _ _ h => h) fun h r _ req hreq hadmin => ?_
    · cases hc : o.commands with
      | false => exact congrArg not hc
      | true => exact absurd (hcommands.symm.trans (commands_of_performs ho hc)) Bool.false_ne_true
    · subst hreq
      cases req with
      | register | login | logout | me | registrationStatus | listDevices | deleteOwn
      | listDownloads | downloadPlatform => exact absurd hadmin Bool.false_ne_true
      | _ => exact absurd hcommands nofun
  | true =>
    cases t with
    | message c m =>
      cases m with
      | register email password =>
        show Prog.Follows _ _ (onMessage c _ >>= _) _
        rw [Prog.follows_bind]
        exact (follows_register_ws c email password).mono (fun _ _ h => h)
          fun _ _ _ req hreq => absurd hreq nofun
      | _ => exact absurd hcommands Bool.false_ne_true
    | http req =>
      show Prog.Follows _ _ (some <$> Api.route req) _
      rw [← bind_pure_comp, Prog.follows_bind]
      by_cases hreq : req.administers = true
      · refine (follows_administers hreq).mono (fun _ _ h => h) ?_
        rintro h r (hh | hr) req' - -
        · exact .inl hh
        · exact .inr ⟨r, rfl, hr⟩
      · cases req with
        | register email password =>
          refine (follows_register_http email password).mono (fun _ _ h => h) ?_
          rintro h r - req' ⟨⟩ hadmin
          exact absurd hadmin hreq
        | _ => exact absurd hcommands hreq
    | _ => exact absurd hcommands Bool.false_ne_true

/-! ## §3. A server without an admin. -/

/-- The accounts of `db₀` are there, nobody is an admin, and nothing that a
task has seen says otherwise. -/
structure Adminless (db₀ : Db) (v : ServerView) : Prop where
  kept : ∀ a ∈ db₀.accounts, a ∈ v.st.db.accounts
  users : ∀ a ∈ v.st.db.accounts, a.role = .user
  settings : v.st.db.settings = db₀.settings
  counted : ∀ j t, Event.call j t ⟨.db .countAccounts, .ok 0⟩ ∉ v.log
  found : ∀ j t token account,
    Event.call j t ⟨.db (.findSession token), .ok (some account)⟩ ∈ v.log → account.role = .user

omit [Crates] in
/-- No job of such a server has any authority. -/
theorem Adminless.powerless {db₀ : Db} {v : ServerView}
    (hI : Adminless db₀ v) (j : Nat) : ¬ Empowered (hist j v.log) := by
  rintro (⟨token, account, hm, hrole⟩ | hm)
  · obtain ⟨t, ht⟩ := mem_of_mem_hist hm
    exact AccountRole.noConfusion (hrole.symm.trans (hI.found j t token account ht))
  · obtain ⟨t, ht⟩ := mem_of_mem_hist hm
    exact hI.counted j t ht

omit [Crates] in
/-- Without authority a query leaves the old accounts and the settings alone,
and makes nobody an admin. -/
theorem Query.exec_modest {now : Int} {db db₀ : Db} {q : Query} (hq : (Op.db q).commands = false)
    (hkept : ∀ a ∈ db₀.accounts, a ∈ db.accounts) (husers : ∀ a ∈ db.accounts, a.role = .user) :
    (∀ a ∈ db₀.accounts, a ∈ (q.exec now db).2.accounts)
      ∧ (∀ a ∈ (q.exec now db).2.accounts, a.role = .user)
      ∧ (q.exec now db).2.settings = db.settings := by
  cases q with
  | createAccount email hash role =>
    cases role with
    | admin => exact absurd hq.symm Bool.false_ne_true
    | user =>
      refine ⟨?_, ?_, exec_settings rfl⟩ <;> simp only [exec] <;> split
      next db' hc =>
        exact fun a ha => (Table.mem_insert? (Db.createAccount_ok hc).1 a).mpr (.inl (hkept a ha))
      next => exact hkept
      next db' hc =>
        intro a ha
        rcases (Table.mem_insert? (Db.createAccount_ok hc).1 a).mp ha with hold | rfl
        · exact husers a hold
        · rfl
      next => exact husers
  | setAccountRole | deleteAccount | setSetting => exact absurd hq.symm Bool.false_ne_true
  | _ =>
    rw [(exec_accounts rfl).1]
    exact ⟨hkept, husers, exec_settings rfl⟩

/-- **One operation.** -/
theorem Adminless.call {db₀ : Db} {v : ServerView} {j : Nat} {o : Op}
    (hI : Adminless db₀ v) (hsome : ∃ a, a ∈ db₀.accounts) (ho : Commanded (hist j v.log) o)
    (t : Task) (d : Draw) : Adminless db₀ (server.callView j t o d v).2 := by
  have hmodest : o.commands = false :=
    Bool.eq_false_iff.mpr fun hc => hI.powerless j (ho hc)
  obtain ⟨a₀, ha₀⟩ := hsome
  have hdb : (server.callView j t o d v).2.st.db = (o.exec d v.st).2.db := rfl
  have hstate : (∀ a ∈ db₀.accounts, a ∈ (o.exec d v.st).2.db.accounts)
      ∧ (∀ a ∈ (o.exec d v.st).2.db.accounts, a.role = .user)
      ∧ (o.exec d v.st).2.db.settings = v.st.db.settings := by
    rw [Op.exec_db]
    cases o with
    | db q =>
      dsimp only
      split
      · exact ⟨hI.kept, hI.users, rfl⟩
      · exact Query.exec_modest hmodest hI.kept hI.users
    | _ => exact ⟨hI.kept, hI.users, rfl⟩
  refine ⟨hdb ▸ hstate.1, hdb ▸ hstate.2.1, hdb ▸ hstate.2.2.trans hI.settings, ?_, ?_⟩
  · intro j' t' hm
    rcases List.mem_cons.mp hm with heq | hm
    · injection heq with _ _ heq
      injection heq with ho hr
      subst ho
      -- the table it counted has the accounts of `db₀` in it
      obtain ⟨-, hn⟩ := Op.exec_query_ok (eq_of_heq hr).symm
      have hlen : (v.st.db.accounts.rows.length : Int) = 0 := Except.ok.inj hn
      have hpos := List.length_pos_of_mem (hI.kept a₀ ha₀)
      omega
    · exact hI.counted j' t' hm
  · intro j' t' token account hm
    rcases List.mem_cons.mp hm with heq | hm
    · injection heq with _ _ heq
      injection heq with ho hr
      subst ho
      obtain ⟨-, hfound⟩ := Op.exec_query_ok (eq_of_heq hr).symm
      have hl := Db.lookup_of_resolve (Except.ok.inj hfound)
      exact hI.users account (Table.lookup_eq_some_iff.mp hl).1
    · exact hI.found j' t' token account hm

theorem Adminless.run {s₀ : Server} (hsome : ∃ a, a ∈ s₀.db.accounts) (hnone : s₀.db.admins = 0)
    {A : Assumption Op Op.Res Draw Task Env} {w : ServerWorld}
    (h : Run A s₀ w) : Adminless s₀.db w.toView := by
  refine System.Reachable.rule Task.commanded (Adminless s₀.db) ?_ ?_ ?_ ?_ h
  · refine ⟨fun _ ha => ha, fun a ha => ?_, rfl, fun _ _ => List.not_mem_nil,
      fun _ _ _ _ hm => absurd hm List.not_mem_nil⟩
    cases hrole : a.role with
    | user => rfl
    | admin =>
      have hpos := Db.admins_pos.mpr ⟨a, ha, hrole⟩
      exact absurd (hnone ▸ hpos) (Nat.lt_irrefl 0)
  · intro w t _ hI _
    have hdb : (server.begins t w.st).db = w.st.db := by cases t <;> rfl
    refine ⟨hdb.symm ▸ hI.kept, hdb.symm ▸ hI.users, hdb.symm ▸ hI.settings,
      fun j t hm => hI.counted j t ?_, fun j t token a hm => hI.found j t token a ?_⟩ <;>
    exact (List.mem_cons.mp hm).resolve_left nofun
  · intro w j t o k d _ hI _ ho _
    exact hI.call hsome ho t d
  · intro w e _ hI
    have hdb : (server.disturb e w.st).db = w.st.db := by cases e <;> rfl
    refine ⟨hdb.symm ▸ hI.kept, hdb.symm ▸ hI.users, hdb.symm ▸ hI.settings,
      fun j t hm => hI.counted j t ?_, fun j t token a hm => hI.found j t token a ?_⟩ <;>
    exact (List.mem_cons.mp hm).resolve_left nofun

/-- **A server that has accounts but no admin stays as it is.**  Whatever
clients send, in every interleaving and across restarts, nobody becomes an
admin, no account is deleted, no setting changes, and every request to the
admin API is turned away. -/
theorem stays_without_admin {s₀ : Server} (hsome : ∃ a, a ∈ s₀.db.accounts)
    (hnone : s₀.db.admins = 0) {A : Assumption Op Op.Res Draw Task Env}
    {w : ServerWorld} (h : Run A s₀ w) :
    w.st.db.admins = 0
      ∧ (∀ a ∈ s₀.db.accounts, a ∈ w.st.db.accounts)
      ∧ w.st.db.settings = s₀.db.settings
      ∧ ∀ j req r, w.jobs j = some (.http req, .ret r) → req.administers = true →
          ∃ resp, r = some resp ∧ resp.unauthorized := by
  have hI := Adminless.run hsome hnone h
  refine ⟨?_, hI.kept, hI.settings, fun j req r hj hadmin => ?_⟩
  · by_contra hpos
    obtain ⟨a, ha, hrole⟩ := Db.admins_pos.mp (Nat.pos_of_ne_zero hpos)
    exact AccountRole.noConfusion (hrole.symm.trans (hI.users a ha))
  · exact (h.finished Task.commanded hj req rfl hadmin).resolve_left (hI.powerless j)

end

section Upgrade

open scoped Transparent

/-- A database from before the `role` column, opened: Ann's account is a user. -/
def upgraded : Server :=
  { Server.blank true with
    db := [Query.createAccount "ann@example.com" "" .user, .createSession "a" 1].foldl
        (fun db q => (q.exec 0 db).2) (Db.fresh true) }

/-- Bob registers, and Ann asks for the accounts. -/
def registerAndList : List ServerMove :=
  .start (.http (.register "bob@example.com" "longpassword")) ::
    .start (.http (.listAccounts ⟨some "visuara_session=a", none⟩)) :: (steps 1 1 ++ steps 0 6)

theorem registerAndList_plays :
    (server.playAll anyDraw registerAndList (World.initial upgraded)).isSome = true := by
  decide +kernel

theorem stays_without_admin_upgraded :
    (Option.get _ registerAndList_plays).st.db.accounts.rows.length = 2
      ∧ (Option.get _ registerAndList_plays).st.db.admins = 0
      ∧ ∃ t resp, (Option.get _ registerAndList_plays).jobs 1 = some (t, .ret (some resp))
          ∧ resp.unauthorized := by
  obtain ⟨hnone, -, -, hrefused⟩ := stays_without_admin
    (List.exists_mem_of_length_pos (by decide +kernel : 0 < upgraded.db.accounts.rows.length))
    (by decide +kernel) (System.playAll_reachable .refl (Option.some_get registerAndList_plays).symm)
  refine ⟨by decide +kernel, hnone, ?_⟩
  have hdone : ((Option.get _ registerAndList_plays).jobs 1).any (fun x =>
      x.1 = .http (.listAccounts ⟨some "visuara_session=a", none⟩) ∧ x.2.done = true) = true := by
    decide +kernel
  obtain ⟨⟨t, p⟩, hj, hx⟩ := (Option.any_eq_true _ _).mp hdone
  obtain ⟨rfl, hp⟩ := of_decide_eq_true hx
  cases p with
  | call => exact absurd hp Bool.false_ne_true
  | ret r =>
    obtain ⟨resp, rfl, hresp⟩ := hrefused 1 _ _ hj rfl
    exact ⟨_, resp, hj, hresp⟩

end Upgrade

end Visuara.Signaling
