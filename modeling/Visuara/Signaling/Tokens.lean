/-
  Visuara.Signaling.Tokens
  ────────────────────────
  **SESSION TOKENS RESOLVE EXACTLY.**

  A token opens an account as long as its row is in `sessions` and the account
  in `accounts`, two tables that different requests write at different moments.
  `Ledger` relates both to the log: a row is there because it was issued and
  not logged out since, and an issued token without a row belongs to an account
  that is gone — for good, since ids are never used again.
-/
import Visuara.Signaling.Licence

namespace Visuara.Signaling

open Interleave

/-! ## §1. Issued tokens. -/

/-- The event is a logout with token `t`. -/
def ServerEvent.logsOut (t : String) : ServerEvent → Prop
  | .call _ _ ⟨.db (.deleteSession t'), .ok ()⟩ => t' = t
  | _ => False

/-- `start_session` inserted `t` for account `id`, and no logout has deleted it since. -/
def Issued (t : String) (id : Int) (l : List ServerEvent) : Prop :=
  ∃ l₁ l₂ j u, l = l₁ ++ .call j u ⟨.db (.createSession t id), .ok ()⟩ :: l₂
    ∧ ∀ e ∈ l₁, ¬ ServerEvent.logsOut t e

theorem Issued.cons {t : String} {id : Int} {l : List ServerEvent} (h : Issued t id l)
    {e : ServerEvent} (he : ¬ e.logsOut t) : Issued t id (e :: l) := by
  obtain ⟨l₁, l₂, j, u, rfl, hno⟩ := h
  refine ⟨e :: l₁, l₂, j, u, rfl, fun e' he' => ?_⟩
  rcases List.mem_cons.mp he' with rfl | he'
  · exact he
  · exact hno e' he'

/-- The newest event issued the token, or it did not log it out. -/
theorem Issued.tail {t : String} {id : Int} {l : List ServerEvent} {e : ServerEvent}
    (h : Issued t id (e :: l)) :
    (∃ j u, e = .call j u ⟨.db (.createSession t id), .ok ()⟩) ∨ (¬ e.logsOut t ∧ Issued t id l) := by
  obtain ⟨l₁, l₂, j, u, heq, hno⟩ := h
  cases l₁ with
  | nil =>
    obtain ⟨rfl, -⟩ := List.cons.inj heq
    exact .inl ⟨j, u, rfl⟩
  | cons e' l₁ =>
    obtain ⟨rfl, rfl⟩ := List.cons.inj heq
    exact .inr ⟨hno e List.mem_cons_self, l₁, l₂, j, u, rfl,
      fun e' he' => hno e' (List.mem_cons_of_mem _ he')⟩

/-! ## §2. The ledger. -/

/-- What the database and the log say about each other. -/
structure Ledger (db : Db) (l : List ServerEvent) : Prop where
  /-- The ids the tasks have seen have been given out. -/
  found : ∀ j u email account,
    Event.call j u ⟨.db (.findAccountByEmail email), .ok (some account)⟩ ∈ l →
      account.id ≤ db.accountSeq
  made : ∀ j u email hash role id,
    Event.call j u ⟨.db (.createAccount email hash role), .ok id⟩ ∈ l → id ≤ db.accountSeq
  /-- A row was issued, and not logged out. -/
  issued : ∀ row ∈ db.sessions, Issued row.token row.accountId l
  /-- An issued token has its row, or its account is gone for good. -/
  kept : ∀ t id, Issued t id l → id ≤ db.accountSeq
    ∧ ((⟨t, id⟩ : Session) ∈ db.sessions ∨ ∀ a ∈ db.accounts, a.id ≠ id)

/-- The log goes on, and the tables do not change. -/
theorem Ledger.cons {db : Db} {l : List ServerEvent} (h : Ledger db l) {e : ServerEvent}
    (hq : ∀ j u q r, e = .call j u ⟨.db q, .ok r⟩ → False) : Ledger db (e :: l) := by
  have hout : ∀ t, ¬ e.logsOut t := by
    intro t he
    unfold ServerEvent.logsOut at he
    split at he
    · exact hq _ _ _ _ rfl
    · exact he
  refine ⟨fun j u email account hm => ?_, fun j u email hash role id hm => ?_,
    fun row hrow => (h.issued row hrow).cons (hout _), fun t id ht => ?_⟩
  · rcases List.mem_cons.mp hm with heq | hm
    · exact (hq _ _ _ _ heq.symm).elim
    · exact h.found j u email account hm
  · rcases List.mem_cons.mp hm with heq | hm
    · exact (hq _ _ _ _ heq.symm).elim
    · exact h.made j u email hash role id hm
  · rcases ht.tail with ⟨j, u, heq⟩ | ⟨-, ht⟩
    · exact (hq _ _ _ _ heq).elim
    · exact h.kept t id ht

/-- **A session row opens exactly one existing account.** -/
theorem Ledger.resolve {db : Db} {l : List ServerEvent} (h : Ledger db l) (t : String)
    (a : Account) : db.resolve t = some a ↔ a ∈ db.accounts ∧ Issued t a.id l := by
  simp only [Db.resolve, Option.bind_eq_some_iff, Relational.Table.lookup_eq_some_iff]
  constructor
  · rintro ⟨row, ⟨hrow, rfl⟩, ha, hid⟩
    exact ⟨ha, hid ▸ h.issued row hrow⟩
  · rintro ⟨ha, hi⟩
    rcases (h.kept t a.id hi).2 with hrow | hgone
    · exact ⟨⟨t, a.id⟩, ⟨hrow, rfl⟩, ha, rfl⟩
    · exact absurd rfl (hgone a ha)

/-- What an event says about the query it logs. -/
theorem query_event {j j' : Nat} {u u' : Task} {q q' : Query} {r : Except String q.Val}
    {r' : Except String q'.Val}
    (h : (.call j u ⟨.db q, r⟩ : ServerEvent) = .call j' u' ⟨.db q', r'⟩) :
    ∃ hq : q = q', hq ▸ r = r' := by
  obtain ⟨-, -, hc⟩ := Event.call.inj h
  obtain ⟨hop, hres⟩ := Call.mk.inj hc
  obtain rfl := Op.db.inj hop
  exact ⟨rfl, eq_of_heq hres⟩

section

variable [Crates]

/-- **One query keeps the ledger.** -/
theorem Ledger.query {db : Db} {l : List ServerEvent} (h : Ledger db l) (now : Int) (q : Query)
    (j : Nat) (u : Task) (hmay : May u (hist j l) (.db q)) :
    Ledger (q.exec now db).2 (.call j u ⟨.db q, (q.exec now db).1⟩ :: l) := by
  have hseq : db.accountSeq ≤ (q.exec now db).2.accountSeq := Query.accountSeq_le
  refine ⟨fun j' u' email account hm => ?_, fun j' u' email hash role id hm => ?_,
    fun row hrow => ?_, fun t id ht => ?_⟩
  · rcases List.mem_cons.mp hm with heq | hm
    · obtain ⟨rfl, hres⟩ := query_event heq
      have hmem : account ∈ db.accounts := List.mem_of_find?_eq_some (Except.ok.inj hres.symm)
      exact Int.le_trans (db.id_le_seq account hmem) hseq
    · exact Int.le_trans (h.found j' u' email account hm) hseq
  · rcases List.mem_cons.mp hm with heq | hm
    · obtain ⟨rfl, hres⟩ := query_event heq
      simp only [Query.exec] at hres ⊢
      split at hres
      next => exact Int.le_of_eq (Except.ok.inj hres)
      next => exact absurd hres (by simp)
    · exact Int.le_trans (h.made j' u' email hash role id hm) hseq
  · rcases Query.mem_exec_sessions hrow with hold | ⟨rfl, hok⟩
    · refine (h.issued row hold).cons fun hout => ?_
      unfold ServerEvent.logsOut at hout
      split at hout
      next heq =>
        obtain ⟨rfl, -⟩ := query_event heq
        obtain rfl := hout
        have hm := ((Relational.Table.mem_deleteWhere row).mp hrow).2
        simp at hm
      next => exact hout
    · exact ⟨[], l, j, u, by rw [hok]; rfl, fun e he => absurd he List.not_mem_nil⟩
  · rcases ht.tail with ⟨j', u', heq⟩ | ⟨hout, hold⟩
    · obtain ⟨rfl, hok⟩ := query_event heq
      refine ⟨Int.le_trans ?_ hseq, .inl (Query.createSession_mem hok)⟩
      -- the id was looked up or created by the same task
      rcases hmay with ⟨email, account, hm, rfl⟩ | ⟨email, hash, role, hm⟩
      · obtain ⟨v, hv⟩ := mem_of_mem_hist hm
        exact h.found j v email account hv
      · obtain ⟨v, hv⟩ := mem_of_mem_hist hm
        exact h.made j v email hash role id hv
    · obtain ⟨hle, hrow⟩ := h.kept t id hold
      refine ⟨Int.le_trans hle hseq, ?_⟩
      rcases hrow with hrow | hgone
      · by_cases hq : q = .deleteAccount id
        · subst hq
          refine .inr fun a ha => ?_
          have hm := ((Relational.Table.mem_deleteWhere a).mp ha).2
          exact beq_eq_false_iff_ne.mp hm
        · refine .inl (Query.exec_sessions_keeps hrow ?_ hq)
          rintro rfl
          exact hout rfl
      · refine .inr fun a ha hid => ?_
        rcases Query.mem_exec_accounts ha with ⟨b, hb, hba⟩ | hnew
        · exact hgone b hb (hba.trans hid)
        · omega

/-- Every run keeps the ledger, restarts included. -/
theorem ledger {A : Assumption Op Op.Res Draw Task Env} {foreignKeys : Bool} {config : Config}
    {files : Files} {w : ServerWorld}
    (h : Run A (Server.start (Db.fresh foreignKeys) config files) w) : Ledger w.st.db w.log := by
  refine System.Reachable.rule Task.follows (fun v => Ledger v.st.db v.log) ?_ ?_ ?_ ?_ h
  · refine ⟨fun _ _ _ _ hm => absurd hm List.not_mem_nil,
      fun _ _ _ _ _ _ hm => absurd hm List.not_mem_nil,
      fun row hrow => absurd hrow (Relational.Table.not_mem_empty row), ?_⟩
    rintro t id ⟨l₁, l₂, j, u, heq, -⟩
    exact absurd heq (by simp)
  · intro w t _ hI _
    have hsame : (t.begin w.st).db = w.st.db := by cases t <;> rfl
    show Ledger (t.begin w.st).db _
    rw [hsame]
    exact hI.cons (by simp)
  · intro w j t o k draw _ hI hj hmay _
    show Ledger (o.exec draw w.st).2.db (.call j t ⟨o, (o.exec draw w.st).1⟩ :: w.log)
    cases o with
    | db q =>
      cases hf : draw.fault with
      | none =>
        rw [Op.exec_query hf]
        exact hI.query _ q j t hmay
      | some e =>
        rw [Op.exec_query_fault hf]
        refine hI.cons ?_
        rintro _ _ q' r heq
        obtain ⟨rfl, hres⟩ := query_event heq
        exact absurd hres (by simp)
    | _ =>
      rw [Op.exec_db]
      exact hI.cons (by simp)
  · intro w e _ hI
    cases e with
    | sendTaskStops c => exact hI.cons (by simp)
    | restart => exact hI.cons (by simp)

/-! ## §3. The session cookie. -/

theorem currentAccount_run {headers : HeaderMap} {t : String}
    (hc : cookieValue headers SESSION_COOKIE = some t) {d : Draw} (hd : d.fault = none)
    (s : Server) : Prog.run Op.exec (currentAccount headers) [d] s
      = some ((s.db.resolve t).map fun a => ⟨a.id, a.email, a.role⟩, s) := by
  simp only [currentAccount, hc]
  show (Prog.run Op.exec (Prog.call (Op.db (.findSession t)) _) [d] s) = _
  simp only [Prog.run, Op.exec_query hd, Query.exec]
  cases s.db.resolve t <;> rfl

theorem requireAdmin_run {headers : HeaderMap} {t : String}
    (hc : cookieValue headers SESSION_COOKIE = some t) {d : Draw} (hd : d.fault = none)
    (s : Server) : Prog.run Op.exec (requireAdmin headers) [d] s
      = some (match s.db.resolve t with
        | some a => if a.role = .admin then .ok ⟨a.id, a.email, a.role⟩ else .error 403
        | none => .error 401, s) := by
  rw [← bind_pure (requireAdmin headers), requireAdmin_bind, hc]
  simp only [Prog.run, Op.exec_query hd, Query.exec]
  cases s.db.resolve t with
  | none => rfl
  | some a =>
    dsimp only
    split <;> rfl

/-- **Session tokens resolve exactly.**  From an empty database, in every
interleaving and across restarts: a request that carries `t` is taken for the
account `a` if and only if `t` was issued to `a`, not logged out since, and `a`
exists; its role is the one `accounts` has now, and it passes `require_admin`
if and only if that is `admin`.  The same is true of every lookup any handler
has made, at the moment of the lookup. -/
theorem session_tokens_resolve {A : Assumption Op Op.Res Draw Task Env} {foreignKeys : Bool}
    {config : Config} {files : Files} {w : ServerWorld}
    (h : Run A (Server.start (Db.fresh foreignKeys) config files) w) {headers : HeaderMap}
    {t : String} (hc : cookieValue headers SESSION_COOKIE = some t) {d : Draw}
    (hd : d.fault = none) :
    (∃ r, Prog.run Op.exec (currentAccount headers) [d] w.st = some (r, w.st)
      ∧ ∀ who, r = some who ↔ ∃ a ∈ w.st.db.accounts, Issued t a.id w.log
        ∧ who = ⟨a.id, a.email, a.role⟩)
    ∧ (∃ r, Prog.run Op.exec (requireAdmin headers) [d] w.st = some (r, w.st)
      ∧ ∀ who, r = .ok who ↔ ∃ a ∈ w.st.db.accounts, Issued t a.id w.log
        ∧ a.role = .admin ∧ who = ⟨a.id, a.email, a.role⟩)
    ∧ ∀ j u found, Event.call j u ⟨.db (.findSession t), .ok found⟩ ∈ w.log →
      server.Happened A (Server.start (Db.fresh foreignKeys) config files) w
        (.call j u ⟨.db (.findSession t), .ok found⟩) fun w₁ =>
          ∀ a, found = some a ↔ a ∈ w₁.st.db.accounts ∧ Issued t a.id w₁.log := by
  have hnow := (ledger h).resolve t
  refine ⟨⟨_, currentAccount_run hc hd w.st, fun who => ?_⟩,
    ⟨_, requireAdmin_run hc hd w.st, fun who => ?_⟩, fun j u found he => ?_⟩
  · rw [Option.map_eq_some_iff]
    constructor
    · rintro ⟨a, ha, rfl⟩
      obtain ⟨hm, hi⟩ := (hnow a).mp ha
      exact ⟨a, hm, hi, rfl⟩
    · rintro ⟨a, hm, hi, rfl⟩
      exact ⟨a, (hnow a).mpr ⟨hm, hi⟩, rfl⟩
  · constructor
    · intro hok
      cases hr : w.st.db.resolve t with
      | none => exact absurd (hr ▸ hok) (by simp)
      | some a =>
        obtain ⟨hm, hi⟩ := (hnow a).mp hr
        rw [hr] at hok
        dsimp only at hok
        split at hok
        next hrole => exact ⟨a, hm, hi, hrole, (Except.ok.inj hok).symm⟩
        next => exact absurd hok (by simp)
    · rintro ⟨a, hm, hi, hrole, rfl⟩
      rw [(hnow a).mpr ⟨hm, hi⟩]
      exact if_pos hrole
  · refine h.happened he fun w₁ w₂ h₁ hs hlog a => ?_
    obtain ⟨draw, -, -, -, hres, -⟩ := hs.of_call hlog
    have hfound : found = w₁.st.db.resolve t :=
      (Except.ok.inj (Op.exec_query_ok hres.symm).2).symm
    rw [hfound]
    exact (ledger h₁).resolve t a

end

section Schedule

open scoped Transparent

/-- The first account is registered; its token is the one drawn from 4. -/
def registered : List ServerMove :=
  .start (.http (.register "host@example.com" "pw")) ::
    [.step 0 (Draw.from 0), .step 0 (Draw.from 1), .step 0 (Draw.from 1), .step 0 (Draw.from 2),
      .step 0 (Draw.from 3), .step 0 (Draw.from 4), .step 0 (Draw.from 5)]

theorem registered_plays :
    (server.playAll anyDraw registered (World.initial (Server.blank true))).isSome = true := by
  decide +kernel

theorem session_tokens_resolve_registered : ∃ w, Run anyDraw (Server.blank true) w
    ∧ ∃ a ∈ w.st.db.accounts, Issued (generateSessionToken (Draw.from 4).rng) a.id w.log
      ∧ a.role = .admin := by
  have h : Run anyDraw (Server.blank true) (Option.get _ registered_plays) :=
    System.playAll_reachable .refl (Option.some_get registered_plays).symm
  have hc : cookieValue
      ⟨some ("visuara_session=" ++ generateSessionToken (Draw.from 4).rng), none⟩ SESSION_COOKIE
      = some (generateSessionToken (Draw.from 4).rng) := by
    decide +kernel
  have hd : (Draw.from 9).fault = none := rfl
  obtain ⟨-, ⟨r, hrun, hr⟩, -⟩ := session_tokens_resolve h hc hd
  rw [requireAdmin_run hc hd] at hrun
  have hwho : ((Option.get _ registered_plays).st.db.resolve
      (generateSessionToken (Draw.from 4).rng)).map (fun a => (a.id, a.email, a.role))
      = some (1, "host@example.com", .admin) := by
    decide +kernel
  obtain ⟨a, ha, heq⟩ := Option.map_eq_some_iff.mp hwho
  simp only [Prod.mk.injEq] at heq
  rw [ha] at hrun
  dsimp only at hrun
  rw [if_pos heq.2.2] at hrun
  obtain ⟨a', hm, hi, hrole, -⟩ := (hr _).mp (Prod.mk.inj (Option.some.inj hrun)).1.symm
  exact ⟨_, h, a', hm, hi, hrole⟩

end Schedule

end Visuara.Signaling
