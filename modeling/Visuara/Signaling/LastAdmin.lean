/-
  Visuara.Signaling.LastAdmin
  ───────────────────────────
  **THE LAST ADMIN.**

  `guard_last_admin` looks before `set_account_role` and `delete_account`
  write, in calls of their own.  What it decides is true of the database it
  looked at (`guardPasses`), and a write keeps an admin exactly when the guard
  would still pass on the database it finds (`admins_exec_pos_iff`).  Two
  requests that pass their guards together leave nobody
  (`last_admin_removed`).
-/
import Visuara.Signaling.Tokens

namespace Visuara.Signaling

open Interleave Relational

/-! ## §1. The guard. -/

/-- What `guard_last_admin` decides on one database. -/
def guardPasses (db : Db) (id : Int) : Bool :=
  match db.accounts.lookup id with
  | some account => account.role ≠ .admin || 1 < db.admins
  | none => true

/-- The guard may let a request through: it decides so, or its lookup may fail. -/
def GuardMayPass (B : Op → Draw → Bool) (db : Db) (id : Int) : Prop :=
  guardPasses db id = true ∨ ∃ d, B (.db (.findAccountById id)) d = true ∧ d.fault.isSome = true

/-- Without failures it is the decision that counts. -/
theorem guardPasses_of_mayPass {db : Db} {id : Int} (h : GuardMayPass dbWorks db id) :
    guardPasses db id = true := by
  rcases h with h | ⟨d, hworks, hfault⟩
  · exact h
  · rw [Option.isNone_iff_eq_none.mp hworks] at hfault
    exact absurd hfault Bool.false_ne_true

/-- Run alone, the guard lets a request go on only if it may. -/
theorem wp_guardLastAdmin [Crates] {B : Op → Draw → Bool} {s : Server} {α : Type} {id : Int}
    {f : Except Response Unit → Act α} {Q : α → Server → Prop}
    (hpass : GuardMayPass B s.db id →
      Prog.wp Op.exec (fun _ o d => B o d = true) (f (.ok ())) Q s)
    (hrefuse : ∀ resp, Prog.wp Op.exec (fun _ o d => B o d = true) (f (.error resp)) Q s) :
    Prog.wp Op.exec (fun _ o d => B o d = true) (Api.guardLastAdmin id >>= f) Q s := by
  rw [Api.guardLastAdmin_bind]
  intro d hd
  rw [Op.exec_reading rfl]
  cases hfound : ((Op.db (.findAccountById id)).exec d s).1 with
  | error e =>
    refine hpass (.inr ⟨d, hd, ?_⟩)
    cases hf : d.fault with
    | some e' => rfl
    | none =>
      rw [Op.exec_query hf] at hfound
      exact absurd hfound (by simp [Query.exec])
  | ok found =>
    obtain rfl : s.db.accounts.lookup id = found := Except.ok.inj (Op.exec_query_ok hfound).2
    rcases Option.eq_none_or_eq_some (s.db.accounts.lookup id) with hl | ⟨account, hl⟩
    · rw [hl]
      exact hpass (.inl (by simp [guardPasses, hl]))
    · rw [hl]
      show Prog.wp _ _ (ite (account.role ≠ .admin) _ _) _ _
      split
      next hrole => exact hpass (.inl (by simp [guardPasses, hl, hrole]))
      next hrole =>
        intro d₂ _
        rw [Op.exec_reading rfl]
        cases hn : ((Op.db .countAdmins).exec d₂ s).1 with
        | error e => exact hrefuse _
        | ok n =>
          obtain rfl : (s.db.admins : Int) = n := Except.ok.inj (Op.exec_query_ok hn).2
          show Prog.wp _ _ (ite ((s.db.admins : Int) ≤ 1) _ _) _ _
          split
          next => exact hrefuse _
          next hn =>
            refine hpass (.inl ?_)
            simp only [guardPasses, hl, Bool.or_eq_true, decide_eq_true_eq]
            omega

/-! ## §2. What a write does to the number of admins. -/

namespace Db

theorem admins_pos {db : Db} : 0 < db.admins ↔ ∃ a ∈ db.accounts, a.role = .admin := by
  simp only [admins, Table.countWhere_pos, beq_iff_eq]

/-- The guard passes if and only if there is another admin. -/
theorem guardPasses_iff {db : Db} (h : 0 < db.admins) (id : Int) :
    guardPasses db id = true ↔ ∃ a ∈ db.accounts, a.role = .admin ∧ a.id ≠ id := by
  obtain ⟨b, hb, hrole⟩ := admins_pos.mp h
  unfold guardPasses
  cases hl : db.accounts.lookup id with
  | none => exact iff_of_true rfl ⟨b, hb, hrole, Table.lookup_eq_none_iff.mp hl b hb⟩
  | some account =>
    obtain ⟨ha, hid⟩ := Table.lookup_eq_some_iff.mp hl
    simp only [ne_eq, decide_not, Bool.or_eq_true, Bool.not_eq_true', decide_eq_false_iff_not,
      decide_eq_true_eq]
    constructor
    · rintro (hne | htwo)
      · refine ⟨b, hb, hrole, fun heq => hne ?_⟩
        rw [← Table.eq_of_key hb ha (heq.trans hid.symm)]
        exact hrole
      · obtain ⟨c, hc, hcrole, hne⟩ := Table.exists_other htwo id
        exact ⟨c, hc, by simpa using hcrole, hne⟩
    · rintro ⟨c, hc, hcrole, hne⟩
      by_cases hadmin : account.role = .admin
      · refine .inr (Table.one_lt_countWhere ha hc (by simp [hadmin]) (by simp [hcrole]) ?_)
        exact fun heq => hne (heq.symm.trans hid)
      · exact .inl hadmin

end Db

/-- The account the query deletes or demotes. -/
def Query.unseats? : Query → Option Int
  | .deleteAccount id | .setAccountRole id .user => some id
  | _ => none

/-- Every other query leaves an admin where there is one. -/
theorem Query.admins_exec_pos {now : Int} {db : Db} {q : Query} (hq : q.unseats? = none)
    (h : 0 < db.admins) : 0 < (q.exec now db).2.admins := by
  obtain ⟨a, ha, hrole⟩ := Db.admins_pos.mp h
  rw [Db.admins_pos]
  cases q with
  | deleteAccount => exact absurd hq.symm (Option.some_ne_none _).symm
  | setAccountRole id role =>
    cases role with
    | user => exact absurd hq.symm (Option.some_ne_none _).symm
    | admin =>
      by_cases hid : a.id = id
      · exact ⟨_, Db.mem_setAccountRole.mpr (.inr ⟨a, ha, hid, rfl⟩), rfl⟩
      · exact ⟨a, Db.mem_setAccountRole.mpr (.inl ⟨ha, hid⟩), hrole⟩
  | createAccount email hash role =>
    simp only [exec]
    split
    next db' hc => exact ⟨a, (Table.mem_insert? (Db.createAccount_ok hc).1 a).mpr (.inl ha), hrole⟩
    next => exact ⟨a, ha, hrole⟩
  | _ => exact ⟨a, by rwa [(exec_accounts rfl).1], hrole⟩

/-- **A write keeps an admin if and only if the guard passes on the database it finds.** -/
theorem Query.admins_exec_pos_iff {now : Int} {db : Db} {q : Query} {id : Int}
    (hq : q.unseats? = some id) (h : 0 < db.admins) :
    0 < (q.exec now db).2.admins ↔ guardPasses db id = true := by
  rw [Db.guardPasses_iff h, Db.admins_pos]
  cases q with
  | deleteAccount id' =>
    obtain rfl := Option.some.inj hq
    constructor
    · rintro ⟨a, ha, hrole⟩
      obtain ⟨hm, hne⟩ := Db.mem_deleteAccount.mp ha
      exact ⟨a, hm, hrole, hne⟩
    · rintro ⟨a, hm, hrole, hne⟩
      exact ⟨a, Db.mem_deleteAccount.mpr ⟨hm, hne⟩, hrole⟩
  | setAccountRole id' role =>
    cases role with
    | admin => exact absurd hq.symm (Option.some_ne_none _)
    | user =>
      obtain rfl := Option.some.inj hq
      constructor
      · rintro ⟨a, ha, hrole⟩
        rcases Db.mem_setAccountRole.mp ha with ⟨hm, hne⟩ | ⟨b, -, -, rfl⟩
        · exact ⟨a, hm, hrole, hne⟩
        · exact absurd hrole (by simp)
      · rintro ⟨a, hm, hrole, hne⟩
        exact ⟨a, Db.mem_setAccountRole.mpr (.inl ⟨hm, hne⟩), hrole⟩
  | _ => exact absurd hq.symm (Option.some_ne_none _)

/-! ## §3. Runs. -/

/-- A step that deletes or demotes an account finds a database on which the
guard still passes. -/
def GuardHolds (w w' : ServerWorld) : Prop :=
  ∀ j t q r id, w'.log = .call j t ⟨.db q, r⟩ :: w.log → q.unseats? = some id →
    guardPasses w.st.db id = true

section

variable [Crates]

/-- **One step keeps an admin if and only if its guard still holds.** -/
theorem admins_step_iff {w w' : ServerWorld} (hs : server.Step noDbFault w w')
    (h : 0 < w.st.db.admins) : 0 < w'.st.db.admins ↔ GuardHolds w w' := by
  cases hs with
  | start t _ _ =>
    have hsame : (t.begin w.st).db = w.st.db := by cases t <;> rfl
    refine iff_of_true ?_ fun _ _ _ _ _ hlog _ => absurd (List.cons.inj hlog).1 (by simp)
    show 0 < (t.begin w.st).db.admins
    rwa [hsame]
  | env e =>
    refine iff_of_true ?_ fun _ _ _ _ _ hlog _ => absurd (List.cons.inj hlog).1 (by simp)
    cases e <;> exact h
  | @call j t o k draw _ hA =>
    show 0 < (o.exec draw w.st).2.db.admins ↔ _
    cases o with
    | db q =>
      rw [Op.exec_query (Option.isNone_iff_eq_none.mp hA)]
      cases hq : q.unseats? with
      | none =>
        refine iff_of_true (Query.admins_exec_pos hq h) ?_
        rintro _ _ q' _ id hlog hq'
        obtain ⟨rfl, -⟩ := query_event (List.cons.inj hlog).1
        exact absurd (hq.symm.trans hq') (by simp)
      | some id =>
        rw [Query.admins_exec_pos_iff hq h]
        constructor
        · rintro hg _ _ q' _ id' hlog hq'
          obtain ⟨rfl, -⟩ := query_event (List.cons.inj hlog).1
          rwa [← Option.some.inj (hq.symm.trans hq')]
        · exact fun hg => hg j t q _ id rfl hq
    | _ =>
      rw [Op.exec_db]
      exact iff_of_true h fun _ _ _ _ _ hlog _ => absurd (List.cons.inj hlog).1 (by simp)

/-- **The last admin survives** every run whose deletions and demotions find
their guard still true, and no other run. -/
theorem last_admin_survives {s : Server} (h0 : 0 < s.db.admins) (w : ServerWorld) :
    (server.ReachableWhen noDbFault GuardHolds (World.initial s) w → 0 < w.st.db.admins)
      ∧ (server.ReachableWhen noDbFault (fun _ w' => 0 < w'.st.db.admins) (World.initial s) w →
        server.ReachableWhen noDbFault GuardHolds (World.initial s) w) := by
  constructor
  · intro h
    induction h with
    | refl => exact h0
    | tail _ hs ih => exact (admins_step_iff hs.1 ih).mpr hs.2
  · intro h
    suffices hw : 0 < w.st.db.admins
        ∧ server.ReachableWhen noDbFault GuardHolds (World.initial s) w from hw.2
    induction h with
    | refl => exact ⟨h0, .refl⟩
    | tail _ hs ih => exact ⟨hs.2, ih.2.tail ⟨hs.1, (admins_step_iff hs.1 ih.1).mp hs.2⟩⟩

end

/-! ## §4. Two requests that leave nobody. -/

/-- A request to change an account's role, or to delete it. -/
def Task.managesAccount : Task → Bool
  | .http (.setAccountRole ..) | .http (.deleteAccount ..) => true
  | _ => false

/-- Every task of the log is such a request. -/
def managesAccounts (l : List ServerEvent) : Bool :=
  l.all fun e =>
    match e with
    | .start _ t => t.managesAccount
    | _ => true

section Schedule

open scoped Transparent

/-- Two admins, each with a session. -/
def twoAdmins : Server :=
  { Server.blank true with
    db := [Query.createAccount "ann@example.com" "" .admin,
      .createAccount "bob@example.com" "" .admin, .createSession "a" 1, .createSession "b" 2].foldl
        (fun db q => (q.exec 0 db).2) (Db.fresh true) }

/-- Ann deletes Bob while Bob demotes Ann. -/
def removeEachOther : List ServerMove :=
  .start (.http (.deleteAccount ⟨some "visuara_session=a", none⟩ 2)) ::
    .start (.http (.setAccountRole ⟨some "visuara_session=b", none⟩ 1 .user)) ::
      (steps 0 3 ++ steps 1 3 ++ steps 0 1 ++ steps 1 1)

/-- Ann deletes Bob, and Bob then finds his session gone. -/
def removeOne : List ServerMove :=
  .start (.http (.deleteAccount ⟨some "visuara_session=a", none⟩ 2)) :: steps 0 4
    ++ .start (.http (.setAccountRole ⟨some "visuara_session=b", none⟩ 1 .user)) :: steps 1 1

theorem removeEachOther_plays : (server.playAll noDbFault removeEachOther
    (World.initial twoAdmins)).isSome = true := by
  decide +kernel

theorem removeOne_plays : (server.playAllWhen noDbFault (fun _ w' => 0 < w'.st.db.admins) removeOne
    (World.initial twoAdmins)).isSome = true := by
  decide +kernel

theorem last_admin_survives_one : 0 < (Option.get _ removeOne_plays).st.db.admins := by
  obtain ⟨hkeeps, hexact⟩ := last_admin_survives (by decide +kernel : 0 < twoAdmins.db.admins)
    (Option.get _ removeOne_plays)
  exact hkeeps (hexact (by
    simpa using System.playAllWhen_reachable .refl (Option.some_get removeOne_plays).symm))

/-- Both guards pass, and then both requests write. -/
theorem last_admin_removed : ¬ ∀ (s : Server) (w : ServerWorld), 0 < s.db.admins →
    Run noDbFault s w → managesAccounts w.log = true → 0 < w.st.db.admins := by
  intro h
  have hpos := h twoAdmins (Option.get _ removeEachOther_plays) (by decide +kernel)
    (System.playAll_reachable .refl (Option.some_get removeEachOther_plays).symm)
    (by decide +kernel)
  have hnone : (Option.get _ removeEachOther_plays).st.db.admins = 0 := by decide +kernel
  omega

end Schedule

end Visuara.Signaling
