/-
  Visuara.Signaling.Answer
  ────────────────────────
  **ONE REQUEST, WHATEVER FAILS.**

  A request runs alone, and the environment has decided about each of its
  operations: which methods of the database fail, the random numbers, the
  time.  No handler below performs an operation twice (`once_route`), so this
  is every way the request can go (`exists_answer`).

    • `Decisions`       — a pattern of failures, and what else is drawn;
    • `Api.answer`      — the response, and the server afterwards;
    • `admin_survives_request_iff` — when the last admin does not survive a request.
-/
import Visuara.Interleave.Outcome
import Visuara.Signaling.LastAdmin

namespace Visuara.Signaling

open Interleave Relational

/-! ## §1. What the environment decides. -/

abbrev Decisions := Op → Draw

/-- The method fails, without effect. -/
def Decisions.fails (env : Decisions) (q : Query) : Bool := (env (.db q)).fault.isSome

/-- `StatusCode::is_success` -/
def Response.isSuccess (resp : Response) : Bool := 200 ≤ resp.status && resp.status < 300

/-- What a call of the method comes to. -/
def Query.attempt (env : Decisions) (q : Query) (db : Db) : Except String q.Val × Db :=
  match (env (.db q)).fault with
  | some e => (.error e, db)
  | none => q.exec (env (.db q)).clock db

section

variable {env : Decisions} {q : Query} {db : Db}

theorem Query.attempt_fails (db : Db) (h : env.fails q = true) : ∃ e, q.attempt env db = (.error e, db) := by
  obtain ⟨e, he⟩ := Option.isSome_iff_exists.mp h
  exact ⟨e, by rw [attempt, he]⟩

theorem Query.attempt_works (h : env.fails q = false) :
    q.attempt env db = q.exec (env (.db q)).clock db := by
  rw [attempt, Option.isSome_eq_false_iff.mp h |> Option.isNone_iff_eq_none.mp]

/-- A method that does not write the accounts. -/
theorem Query.attempt_accounts (hq : q.writesAccounts = false) :
    (q.attempt env db).2.accounts = db.accounts := by
  unfold attempt
  cases (env (.db q)).fault with
  | some e => rfl
  | none => exact (exec_accounts hq).1

/-- A method that only reads. -/
theorem Query.attempt_reads (hq : q.reads = true) : (q.attempt env db).2 = db := by
  unfold attempt
  cases (env (.db q)).fault with
  | some e => rfl
  | none => exact exec_reads hq

/-- A method that only fails when the database does. -/
theorem Query.attempt_isOk (hq : ∀ now, (q.exec now db).1.isOk = true) :
    (q.attempt env db).1.isOk = !env.fails q := by
  cases hf : env.fails q with
  | true =>
    obtain ⟨e, he⟩ := attempt_fails db hf
    rw [he]
    rfl
  | false =>
    rw [attempt_works hf, hq]
    rfl

end

section

variable [Crates]

theorem exec_attempt (env : Decisions) (q : Query) (s : Server) : (Op.db q).exec (env (.db q)) s
    = ((q.attempt env s.db).1, { s with db := (q.attempt env s.db).2 }) := by
  unfold Query.attempt
  cases hf : (env (.db q)).fault with
  | some e => rw [Op.exec_query_fault hf]
  | none => rw [Op.exec_query hf]

/-- The outcome of a program of handlers. -/
abbrev outcome {α : Type} (env : Decisions) (p : Act α) (s : Server) : α × Server :=
  Prog.outcome Op.exec env p s

theorem outcome_op {α : Type} (env : Decisions) (o : Op) (k : o.Res → Act α) (s : Server) :
    outcome env (.call o k) s
      = outcome env (k (o.exec (env o) s).1) (o.exec (env o) s).2 := rfl

theorem outcome_seq {α β : Type} (env : Decisions) (p : Act α) (f : α → Act β) (s : Server) :
    outcome env (p >>= f) s = outcome env (f (outcome env p s).1) (outcome env p s).2 :=
  Prog.outcome_bind p f s

@[simp] theorem outcome_query {α : Type} (env : Decisions) (q : Query) (k : Except String q.Val → Act α)
    (s : Server) : outcome env (.call (.db q) k) s
      = outcome env (k (q.attempt env s.db).1) { s with db := (q.attempt env s.db).2 } := by
  rw [outcome, Prog.outcome_call, exec_attempt]

/-- What makes no query leaves the database as it is. -/
theorem outcome_db {α : Type} (env : Decisions) {p : Act α} {h : Calls}
    (hp : Prog.Follows (fun _ o => ∀ q, o ≠ .db q) (fun _ _ => True) p h) (s : Server) :
    (outcome env p s).2.db = s.db := by
  induction p generalizing h s with
  | ret a => rfl
  | call o k ih =>
    rw [outcome_op, ih _ (hp.2 _), Op.exec_db]
    cases o with
    | db q => exact absurd rfl (hp.1 q)
    | _ => rfl

/-! ## §2. Who is asking. -/

/-- The session cookie resolves to this account. -/
def SignedIn (env : Decisions) (db : Db) (headers : HeaderMap) (account : Account) : Prop :=
  ∃ token, cookieValue headers SESSION_COOKIE = some token
    ∧ env.fails (.findSession token) = false ∧ db.resolve token = some account

/-- The request passes `require_admin`. -/
def Admitted (env : Decisions) (db : Db) (headers : HeaderMap) : Prop :=
  ∃ account, SignedIn env db headers account ∧ account.role = .admin

section

variable (env : Decisions) (s : Server) {headers : HeaderMap}

/-- The lookup of the session has one of two outcomes. -/
theorem outcome_requireAccount :
    (∃ account, SignedIn env s.db headers account ∧ ∀ f : Except Status AuthedAccount → Act Response,
        outcome env (requireAccount headers >>= f) s
          = outcome env (f (.ok ⟨account.id, account.email, account.role⟩)) s)
      ∨ (∀ account, ¬ SignedIn env s.db headers account)
        ∧ ∀ f : Except Status AuthedAccount → Act Response,
          outcome env (requireAccount headers >>= f) s = outcome env (f (.error 401)) s := by
  simp only [requireAccount_bind]
  unfold SignedIn
  cases cookieValue headers SESSION_COOKIE with
  | none => exact .inr ⟨by simp, fun _ => rfl⟩
  | some token =>
    simp only [Option.some.injEq, outcome_query]
    cases hf : env.fails (.findSession token) with
    | true =>
      obtain ⟨e, he⟩ := Query.attempt_fails s.db hf
      rw [he]
      exact .inr ⟨by simp [hf], fun _ => rfl⟩
    | false =>
      rw [Query.attempt_works hf]
      cases hr : s.db.resolve token with
      | none =>
        refine .inr ⟨by simp [hr], fun _ => ?_⟩
        simp only [Query.exec, hr]
      | some account =>
        refine .inl ⟨account, ⟨token, rfl, hf, hr⟩, fun _ => ?_⟩
        simp only [Query.exec, hr]

omit [Crates] in
theorem SignedIn.unique {env : Decisions} {db : Db} {a b : Account} (ha : SignedIn env db headers a)
    (hb : SignedIn env db headers b) : a = b := by
  obtain ⟨t, ht, -, hta⟩ := ha
  obtain ⟨t', ht', -, htb⟩ := hb
  obtain rfl := Option.some.inj (ht.symm.trans ht')
  exact Option.some.inj (hta.symm.trans htb)

/-- An admin's request goes on; any other ends with nothing changed. -/
theorem outcome_withAdmin (handler : Act Response) :
    Admitted env s.db headers ∧ outcome env (Api.withAdmin headers handler) s = outcome env handler s
      ∨ ¬ Admitted env s.db headers ∧ ∃ resp : Response, resp.isSuccess = false
        ∧ outcome env (Api.withAdmin headers handler) s = (resp, s) := by
  rw [Api.withAdmin_eq]
  unfold Admitted SignedIn
  cases cookieValue headers SESSION_COOKIE with
  | none => exact .inr ⟨by simp, statusResponse 401, rfl, rfl⟩
  | some token =>
    simp only [Option.some.injEq, outcome_query]
    cases hf : env.fails (.findSession token) with
    | true =>
      obtain ⟨e, he⟩ := Query.attempt_fails s.db hf
      rw [he]
      exact .inr ⟨by simp [hf], statusResponse 401, rfl, rfl⟩
    | false =>
      rw [Query.attempt_works hf]
      cases hr : s.db.resolve token with
      | none =>
        refine .inr ⟨by simp [hr], statusResponse 401, rfl, ?_⟩
        simp only [Query.exec, hr]
        rfl
      | some account =>
        by_cases hrole : account.role = .admin
        · refine .inl ⟨⟨account, ⟨token, rfl, hf, hr⟩, hrole⟩, ?_⟩
          simp only [Query.exec, hr, hrole, if_true]
        · refine .inr ⟨by simp [hr, hrole], statusResponse 403, rfl, ?_⟩
          simp only [Query.exec, hr, hrole, if_false]
          rfl

end

/-! ## §3. The guard of the last admin. -/

/-- `guard_last_admin` lets the request go on. -/
def Passes (env : Decisions) (db : Db) (id : Int) : Prop :=
  env.fails (.findAccountById id) = true ∨ ∀ account, db.accounts.lookup id = some account →
    account.role = .admin → env.fails .countAdmins = false ∧ 1 < db.admins

section

variable (env : Decisions) (s : Server) {id : Int}

theorem outcome_guardLastAdmin (f : Except Response Unit → Act Response) :
    Passes env s.db id ∧ outcome env (Api.guardLastAdmin id >>= f) s = outcome env (f (.ok ())) s
      ∨ ¬ Passes env s.db id ∧ ∃ resp : Response, resp.isSuccess = false
        ∧ outcome env (Api.guardLastAdmin id >>= f) s = outcome env (f (.error resp)) s := by
  rw [Api.guardLastAdmin_bind, outcome_query]
  unfold Passes
  cases hf : env.fails (.findAccountById id) with
  | true =>
    obtain ⟨e, he⟩ := Query.attempt_fails s.db hf
    rw [he]
    exact .inl ⟨.inl rfl, rfl⟩
  | false =>
    simp only [Bool.false_eq_true, false_or]
    rw [Query.attempt_works hf]
    cases hl : s.db.accounts.lookup id with
    | none =>
      refine .inl ⟨by simp, ?_⟩
      simp only [Query.exec, hl]
    | some account =>
      by_cases hrole : account.role = .admin
      · -- an admin is counted
        simp only [Query.exec, hl, hrole, ne_eq, not_true_eq_false, if_false, outcome_query,
          Option.some.injEq, forall_eq', forall_const]
        cases hc : env.fails .countAdmins with
        | true =>
          obtain ⟨e, he⟩ := Query.attempt_fails s.db hc
          rw [he]
          exact .inr ⟨by simp, errorResponse 500 e, rfl, rfl⟩
        | false =>
          rw [Query.attempt_works hc]
          by_cases hn : (s.db.admins : Int) ≤ 1
          · refine .inr ⟨by omega, ?_⟩
            simp only [Query.exec, hn, if_true]
            refine ⟨_, ?_, rfl⟩
            rfl
          · refine .inl ⟨⟨rfl, by omega⟩, ?_⟩
            simp only [Query.exec, hn, if_false]
      · refine .inl ⟨by simp [hrole], ?_⟩
        simp only [Query.exec, hl, ne_eq, hrole, not_false_eq_true, if_true]

omit [Crates] in
/-- Whether a write of no data is answered with success. -/
theorem success_noContent {r : Except String Unit} :
    (Api.noContentOr500 r).isSuccess = r.isOk := by
  cases r <;> rfl

/-- The guard, and then one write. -/
theorem outcome_guarded {q : Query} (f : Except String q.Val → Response) {handler : Act Response}
    (hhandler : handler = Api.guardLastAdmin id >>= fun r =>
      match r with
      | .error resp => pure resp
      | .ok () => .call (.db q) fun r => .ret (f r)) :
    Passes env s.db id ∧ outcome env handler s
        = (f (q.attempt env s.db).1, { s with db := (q.attempt env s.db).2 })
      ∨ ¬ Passes env s.db id ∧ ∃ resp : Response, resp.isSuccess = false
        ∧ outcome env handler s = (resp, s) := by
  subst hhandler
  obtain ⟨hpasses, heq⟩ | ⟨hnot, resp, hstatus, heq⟩ :=
    outcome_guardLastAdmin env s fun r =>
      match r with
      | .error resp => pure resp
      | .ok () => .call (.db q) fun r => .ret (f r)
  · refine .inl ⟨hpasses, ?_⟩
    rw [heq, outcome_query]
    rfl
  · exact .inr ⟨hnot, resp, hstatus, heq⟩

end

/-! ## §4. The answer. -/

/-- The requests that are there to change something. -/
def Request.mutates : Request → Bool
  | .register .. | .login .. | .logout _ | .saveSettings .. | .createAccount .. | .setAccountRole ..
  | .deleteAccount .. | .setRegistration .. | .deleteOwn .. | .deleteDevice .. => true
  | _ => false

/-- The response to a request, and the server afterwards. -/
def Api.answer (env : Decisions) (req : Request) (s : Server) : Response × Server :=
  outcome env (Api.route req) s

section

variable {h : Calls}

omit [Crates] in
theorem once_withAdmin {headers : HeaderMap} {handler : Act Response}
    (hp : ∀ token r, Prog.Once handler [⟨.db (.findSession token), r⟩]) :
    Prog.Once (Api.withAdmin headers handler) [] := by
  rw [Api.withAdmin_eq]
  cases cookieValue headers SESSION_COOKIE with
  | none => exact .ret
  | some token =>
    refine .call (by simp) fun r => ?_
    rcases r with e | (_ | account)
    · exact .ret
    · exact .ret
    · show Prog.Once (ite (account.role = .admin) _ _) _
      split
      · exact hp token _
      · exact .ret

omit [Crates] in
theorem once_startSession {id : Int} {email : String} {role : AccountRole}
    (htoken : ∀ x ∈ h, x.op ≠ .generateSessionToken)
    (hstored : ∀ x ∈ h, ∀ t i, x.op ≠ .db (.createSession t i)) :
    Prog.Once (Api.startSession id email role) h := by
  refine .call htoken fun token => .call ?_ fun r => ?_
  · intro x hx
    obtain rfl | hx := List.mem_cons.mp hx
    · simp
    · exact hstored x hx _ _
  · cases r <;> exact .ret

omit [Crates] in
/-- Removing a device from the live server comes after the queries. -/
theorem once_removed {d : DeviceId} {message : String} {resp : Response}
    (hq : ∀ x ∈ h, ∃ q, x.op = .db q) :
    Prog.Once (Api.kickDevice d message >>= fun _ => pure resp) h := by
  have hother {o : Op} (ho : ∀ q, o ≠ .db q) : ∀ x ∈ h, x.op ≠ o := by
    intro x hx heq
    obtain ⟨q, hxq⟩ := hq x hx
    exact ho q (heq.symm.trans hxq)
  refine .call (hother (by simp)) fun live => .call ?_ fun _ => ?_
  · simpa using hother (by simp)
  · cases live with
    | none => exact .ret
    | some c =>
      refine .call (by simpa using hother (by simp)) fun tx => ?_
      cases tx with
      | none => exact .ret
      | some tx => exact .call (by simpa using hother (by simp)) fun _ => .ret

omit [Crates] in
/-- The guard, and then one write. -/
theorem once_guarded {id : Int} {q : Query} {f : Except String q.Val → Response}
    (hh : ∀ x ∈ h, x.op ≠ .db (.findAccountById id) ∧ x.op ≠ .db .countAdmins ∧ x.op ≠ .db q)
    (hq : q ≠ .findAccountById id ∧ q ≠ .countAdmins) :
    Prog.Once (Api.guardLastAdmin id >>= fun r =>
      match r with
      | .error resp => pure resp
      | .ok () => .call (.db q) fun r => .ret (f r)) h := by
  rw [Api.guardLastAdmin_bind]
  refine .call (fun x hx => (hh x hx).1) fun found => ?_
  have hwrite : ∀ x ∈ (⟨.db (.findAccountById id), found⟩ :: h : Calls), x.op ≠ .db q := by
    intro x hx
    obtain rfl | hx := List.mem_cons.mp hx
    · simpa using hq.1.symm
    · exact (hh x hx).2.2
  rcases found with e | (_ | account)
  · exact .call hwrite fun _ => .ret
  · exact .call hwrite fun _ => .ret
  · show Prog.Once (ite (account.role ≠ .admin) _ _) _
    split
    · exact .call hwrite fun _ => .ret
    · refine .call (by simpa using fun x hx => (hh x hx).2.1) fun n => ?_
      rcases n with e | n
      · exact .ret
      · show Prog.Once (ite (n ≤ 1) _ _) _
        split
        · exact .ret
        · refine .call (fun x hx => ?_) fun _ => .ret
          obtain rfl | hx := List.mem_cons.mp hx
          · simpa using hq.2.symm
          · exact hwrite x hx

omit [Crates] in
theorem once_register (email password : String) : Prog.Once (Api.register email password) [] := by
  unfold Api.register
  generalize Text.trimString email = email
  dsimp only
  split
  · exact .ret
  · rw [registrationEnabled_bind]
    refine .call (by simp) fun r => ?_
    generalize r.map (fun v => v.elim true (· == "true")) = enabled
    rcases enabled with e | (_ | _)
    · exact .ret
    · exact .ret
    · refine .call (by simp) fun hashed => ?_
      rcases hashed with e | hash
      · exact .ret
      · show Prog.Once ((createAccountAndMaybeBootstrapAdmin email hash).run >>= _) _
        rw [createAccountAndMaybeBootstrapAdmin_run]
        refine .call (by simp) fun n => ?_
        rcases n with e | n
        · show Prog.Once (ite _ _ _) _
          split <;> exact .ret
        · refine .call (by simp) fun r => ?_
          rcases r with e | id
          · show Prog.Once (ite _ _ _) _
            split <;> exact .ret
          · dsimp only
            split
            · refine .call (by simp) fun r => ?_
              rcases r with e | _
              · show Prog.Once (ite _ _ _) _
                split <;> exact .ret
              · exact once_startSession (by simp) (by simp)
            · exact once_startSession (by simp) (by simp)

/-- No request performs an operation twice. -/
theorem once_route {req : Request} (hreq : req.mutates = true) :
    Prog.Once (Api.route req) [] := by
  cases req with
  | register email password =>
    exact once_register email password
  | login email password =>
    show Prog.Once (Api.login email password) []
    unfold Api.login
    refine .call (by simp) fun found => ?_
    rcases found with e | (_ | account)
    · exact .ret
    · exact .ret
    · show Prog.Once (ite _ _ _) _
      split
      · exact once_startSession (by simp) (by simp)
      · exact .ret
  | logout headers =>
    show Prog.Once (Api.logout headers) []
    unfold Api.logout
    cases cookieValue headers SESSION_COOKIE with
    | none => exact .ret
    | some token => exact .call (by simp) fun _ => .ret
  | deleteOwn headers d =>
    show Prog.Once (Api.deleteOwn headers d) []
    unfold Api.deleteOwn
    rw [requireAccount_bind]
    cases cookieValue headers SESSION_COOKIE with
    | none => exact .ret
    | some token =>
      refine .call (by simp) fun r => ?_
      rcases r with e | (_ | account)
      · exact .ret
      · exact .ret
      · refine .call (by simp) fun found => ?_
        rcases found with e | (_ | device)
        · exact .ret
        · exact .ret
        · show Prog.Once (ite (device.accountId = account.id) _ _) _
          split
          · exact .call (by simp) fun _ => once_removed (by simp)
          · exact .ret
  | saveSettings headers url name =>
    refine once_withAdmin fun token r => .call (by simp) fun _ => .call ?_ fun _ => .ret
    simp
  | createAccount headers email password role =>
    refine once_withAdmin fun token r => ?_
    dsimp only
    split
    · exact .ret
    · refine .call (by simp) fun hashed => ?_
      rcases hashed with e | hash
      · exact .ret
      · refine .call (by simp) fun created => ?_
        rcases created with e | id
        · show Prog.Once (ite _ _ _) _
          split <;> exact .ret
        · exact .ret
  | setAccountRole headers id role =>
    refine once_withAdmin fun token r => ?_
    cases role with
    | admin => exact .call (by simp) fun _ => .ret
    | user =>
      refine once_guarded ?_ ?_
      · simp
      · simp
  | deleteAccount headers id =>
    refine once_withAdmin fun token r => once_guarded ?_ ?_
    · simp
    · simp
  | deleteDevice headers id d =>
    refine once_withAdmin fun token r => .call (by simp) fun found => ?_
    rcases found with e | (_ | device)
    · exact .ret
    · exact .ret
    · show Prog.Once (ite (device.accountId = id) _ _) _
      split
      · exact .call (by simp) fun _ => once_removed (by simp)
      · exact .ret
  | setRegistration headers enabled =>
    refine once_withAdmin fun token r => .call (by simp) fun set => ?_
    cases set <;> exact .ret
  | _ => exact absurd hreq Bool.false_ne_true

/-- Every way a request can go when it runs alone. -/
theorem exists_answer {req : Request} (hreq : req.mutates = true) {A : Server → Op → Draw → Prop}
    {s s' : Server} {resp : Response} (h : Prog.Runs Op.exec A (Api.route req) s resp s') :
    ∃ env, Api.answer env req s = (resp, s') := by
  have : Nonempty Draw := ⟨Draw.from 0⟩
  exact h.exists_outcome (once_route hreq)

end

/-! ## §5. The last admin, when methods fail. -/

section

variable (env : Decisions) (s : Server) {req : Request} {headers : HeaderMap} {q : Query} {id : Int}

/-- The write of a guarded request. -/
def Request.guarded? : Request → Option (HeaderMap × Query)
  | .setAccountRole headers id .user => some (headers, .setAccountRole id .user)
  | .deleteAccount headers id => some (headers, .deleteAccount id)
  | _ => none

/-- `guard_last_admin` takes the failure of its lookup for an account that needs
no guarding. -/
structure Unguarded (env : Decisions) (db : Db) (headers : HeaderMap) (q : Query) (id : Int) :
    Prop where
  admitted : Admitted env db headers
  lookup_fails : env.fails (.findAccountById id) = true
  last : guardPasses db id = false
  write_works : env.fails q = false

omit [Crates] in
theorem guardPasses_of_passes {env : Decisions} {db : Db} (h : Passes env db id)
    (hworks : env.fails (.findAccountById id) = false) : guardPasses db id = true := by
  obtain hfails | hcount := h
  · exact absurd (hfails.symm.trans hworks) (by simp)
  · unfold guardPasses
    cases hl : db.accounts.lookup id with
    | none => rfl
    | some account =>
      by_cases hrole : account.role = .admin
      · simp [(hcount account hl hrole).2]
      · simp [hrole]

/-- A guarded request comes to its write, or is refused and changes nothing. -/
theorem answer_guarded (hreq : req.guarded? = some (headers, q)) (hq : q.unseats? = some id) :
    (Admitted env s.db headers ∧ Passes env s.db id)
        ∧ (Api.answer env req s).1.isSuccess = !env.fails q
        ∧ (Api.answer env req s).2 = { s with db := (q.attempt env s.db).2 }
      ∨ ¬ (Admitted env s.db headers ∧ Passes env s.db id)
        ∧ (Api.answer env req s).1.isSuccess = false ∧ (Api.answer env req s).2 = s := by
  obtain ⟨f, hf, hroute⟩ : ∃ f : Except String q.Val → Response,
      (f (q.attempt env s.db).1).isSuccess = !env.fails q ∧
      Api.route req = Api.withAdmin headers (Api.guardLastAdmin id >>= fun r =>
        match r with
        | .error resp => pure resp
        | .ok () => .call (.db q) fun r => .ret (f r)) := by
    cases req with
    | deleteAccount headers' id' =>
      obtain ⟨rfl, rfl⟩ := Option.some.inj hreq
      obtain rfl := Option.some.inj hq
      exact ⟨Api.noContentOr500, success_noContent.trans (Query.attempt_isOk fun _ => rfl), rfl⟩
    | setAccountRole headers' id' role =>
      cases role with
      | admin => exact absurd hreq (by simp [Request.guarded?])
      | user =>
        obtain ⟨rfl, rfl⟩ := Option.some.inj hreq
        obtain rfl := Option.some.inj hq
        exact ⟨Api.noContentOr500, success_noContent.trans (Query.attempt_isOk fun _ => rfl), rfl⟩
    | _ => exact absurd hreq (by simp [Request.guarded?])
  unfold Api.answer
  rw [hroute]
  obtain ⟨hadmitted, heq⟩ | ⟨hnot, resp, hfailed, heq⟩ := outcome_withAdmin env s _
  · rw [heq]
    obtain ⟨hpasses, heq⟩ | ⟨hnot, resp, hfailed, heq⟩ := outcome_guarded env s f rfl
    · rw [heq]
      exact .inl ⟨⟨hadmitted, hpasses⟩, hf, rfl⟩
    · rw [heq]
      exact .inr ⟨fun h => hnot h.2, hfailed, rfl⟩
  · rw [heq]
    exact .inr ⟨fun h => hnot h.1, hfailed, rfl⟩

/-- **The last admin survives a request** unless the guard's own lookup fails,
the account is the last admin's, and the write then works. -/
theorem admin_survives_request_iff (h0 : 0 < s.db.admins) (hreq : req.guarded? = some (headers, q))
    (hq : q.unseats? = some id) :
    0 < (Api.answer env req s).2.db.admins ↔ ¬ Unguarded env s.db headers q id := by
  obtain ⟨⟨hadmitted, hpasses⟩, -, hdb⟩ | ⟨hnot, -, hsame⟩ := answer_guarded env s hreq hq
  · rw [hdb]
    cases hfails : env.fails q with
    | true =>
      obtain ⟨e, he⟩ := Query.attempt_fails s.db hfails
      rw [he]
      exact iff_of_true h0 fun hun => absurd (hfails.symm.trans hun.write_works) (by simp)
    | false =>
      rw [Query.attempt_works hfails, Query.admins_exec_pos_iff hq h0]
      constructor
      · intro hguard hun
        exact absurd (hguard.symm.trans hun.last) (by simp)
      · intro hun
        by_contra hlast
        rw [Bool.not_eq_true] at hlast
        cases hfound : env.fails (.findAccountById id) with
        | true => exact hun ⟨hadmitted, hfound, hlast, hfails⟩
        | false => exact absurd ((guardPasses_of_passes hpasses hfound).symm.trans hlast) (by simp)
  · rw [hsame]
    exact iff_of_true h0 fun hun => hnot ⟨hun.admitted, .inl hun.lookup_fails⟩

end

end

section Example

open scoped Transparent

/-- The methods of the list fail, and nothing else. -/
def failing (qs : List Query) : Decisions
  | .db q => if q ∈ qs then { Draw.from 0 with fault := some "database is locked" } else Draw.from 0
  | _ => Draw.from 0

/-- One admin, with a session. -/
def oneAdmin : Server :=
  { Server.blank true with
    db := [Query.createAccount "ann@example.com" "" .admin, .createSession "a" 1].foldl
      (fun db q => (q.exec 0 db).2) (Db.fresh true) }

/-- The admin's own session. -/
def annsCookie : HeaderMap := ⟨some "visuara_session=a", none⟩

theorem admin_survives_request_refused :
    0 < (Api.answer (failing []) (.deleteAccount annsCookie 1) oneAdmin).2.db.admins :=
  (admin_survives_request_iff (failing []) oneAdmin (by decide +kernel) rfl rfl).mpr
    fun h => absurd h.lookup_fails (by decide +kernel)

/-- Ann demotes herself while her account cannot be looked up. -/
theorem last_admin_demoted : ¬ ∀ (env : Decisions) (s : Server) (req : Request)
    (headers : HeaderMap) (q : Query) (id : Int), 0 < s.db.admins →
    req.guarded? = some (headers, q) → q.unseats? = some id →
    0 < (Api.answer env req s).2.db.admins := by
  intro h
  have hpos := h (failing [.findAccountById 1]) oneAdmin (.setAccountRole annsCookie 1 .user)
    annsCookie (.setAccountRole 1 .user) 1 (by decide +kernel) rfl rfl
  have hnone : (Api.answer (failing [.findAccountById 1]) (.setAccountRole annsCookie 1 .user)
    oneAdmin).2.db.admins = 0 := by decide +kernel
  omega

end Example

end Visuara.Signaling
