/-
  Visuara.Signaling.Login
  ───────────────────────
  **HOW A CONNECTION BECOMES AUTHENTICATED.**

  Two messages set the account of a connection, each after a look at the
  database: `Login` finds the account and verifies its password, `Register`
  creates it.

    • `LogsIn`       — what has been done before the account is set, before
      `AuthOk` is sent, and before the account is created;
    • `Task.logsIn`  — every task keeps to that.
-/
import Visuara.Signaling.Footprint
import Visuara.Signaling.Licence

namespace Visuara.Signaling

open Interleave

/-- Registration read as enabled; a failed reading counts as such. -/
def RegistrationRead (h : Calls) : Prop :=
  ∃ r, Did h (.db (.getSetting REGISTRATION_ENABLED)) r
    ∧ (r.map fun v => v.elim true (· == "true")).toOption.getD true = true

section

variable [Crates]

/-- The account was found, and the password is its own. -/
structure PasswordMatched (h : Calls) (email password : String) (id : Int) : Prop where
  found : ∃ account, Did h (.db (.findAccountByEmail email)) (.ok (some account))
    ∧ verifyPassword password account.passwordHash = true ∧ account.id = id

/-- The account was created with the password's hash. -/
structure Registered (h : Calls) (email password : String) (id : Int) : Prop where
  created : ∃ hash role, Did h (.hashPassword password) (.ok hash)
    ∧ Did h (.db (.createAccount email hash role)) (.ok id)

/-- What task `t` has done before it logs its connection in, says so, or creates
an account for it. -/
def LogsIn (t : Task) (h : Calls) : Op → Prop
  | .setConnState c st => ∃ email password id, st = .authenticated id
      ∧ (t = .message c (.login email password) ∧ PasswordMatched h email password id
        ∨ t = .message c (.register email password) ∧ Registered h email password id)
  | .send c (.authOk _) => ∃ st, Did h (.setConnState c st) ()
  | .db (.createAccount email hash _) => ∀ c email' password,
      t = .message c (.register email' password) →
        email' = email ∧ Did h (.hashPassword password) (.ok hash) ∧ RegistrationRead h
          ∧ ∀ e' hash' role r, ¬ Did h (.db (.createAccount e' hash' role)) r
  | _ => True

/-- The turns that answer the two messages. -/
def Task.entersAccount : Task → Bool
  | .message _ (.login ..) | .message _ (.register ..) => true
  | _ => false

omit [Crates] in
/-- Nobody else performs the first two. -/
theorem entersAccount_of_does {t : Task} {o : Op} (ho : t.does o = true)
    (hlog : (∃ c st, o = .setConnState c st) ∨ ∃ c token, o = .send c (.authOk token)) :
    t.entersAccount = true := by
  obtain ⟨c, st, rfl⟩ | ⟨c, token, rfl⟩ := hlog
  · cases t with
    | message c' m => cases m <;> first | rfl | exact absurd ho Bool.false_ne_true
    | http req => cases req <;> exact absurd ho Bool.false_ne_true
    | _ => exact absurd ho Bool.false_ne_true
  · obtain ⟨email, password, rfl | rfl⟩ := authorized_by ho
    · rfl
    · rfl

theorem logsIn_of_does {t : Task} (ht : t.entersAccount = false) {h : Calls} {o : Op}
    (ho : t.does o = true) : LogsIn t h o := by
  have hno : ¬ ((∃ c st, o = .setConnState c st) ∨ ∃ c token, o = .send c (.authOk token)) := by
    intro hlog
    rw [entersAccount_of_does ho hlog] at ht
    exact absurd ht (by simp)
  cases o with
  | setConnState c st => exact absurd (.inl ⟨c, st, rfl⟩) hno
  | send c msg =>
    cases msg with
    | authOk token => exact absurd (.inr ⟨c, token, rfl⟩) hno
    | _ => trivial
  | db q =>
    cases q with
    | createAccount email hash role =>
      rintro c email' password rfl
      exact absurd ht (by simp [Task.entersAccount])
    | _ => trivial
  | _ => trivial

variable {c : ConnectionId}

theorem logsIn_login (email password : String) :
    Prog.Follows (LogsIn (.message c (.login email password))) (fun _ _ => True)
      (handleMessage c (.login email password)).run [] := by
  simp only [handleMessage, Handler.query_bind]
  refine ⟨trivial, fun found => ?_⟩
  rcases found with e | (_ | account)
  · trivial
  · exact ⟨trivial, fun _ => trivial⟩
  · dsimp only
    split
    next hverify =>
      refine ⟨⟨email, password, account.id, rfl, .inl ⟨rfl, ⟨account, by simp, hverify, rfl⟩⟩⟩, ?_⟩
      exact fun _ => ⟨trivial, fun token =>
        ⟨⟨_, List.mem_cons_of_mem _ List.mem_cons_self⟩, fun _ => trivial⟩⟩
    next => exact ⟨trivial, fun _ => trivial⟩

theorem logsIn_register (email password : String) :
    Prog.Follows (LogsIn (.message c (.register email password))) (fun _ _ => True)
      (handleMessage c (.register email password)).run [] := by
  simp only [handleMessage, Handler.lift_bind, registrationEnabled_bind, Prog.follows_call]
  refine ⟨trivial, fun r => ?_⟩
  cases hopen : (r.map fun v => v.elim true (· == "true")).toOption.getD true with
  | false => exact ⟨trivial, fun _ => trivial⟩
  | true =>
    simp only [Handler.mk_bind, Handler.lift_bind, perform, Prog.perform_bind, Prog.follows_call,
      Bool.not_true, Bool.false_eq_true, if_false]
    refine ⟨trivial, fun hashed => ?_⟩
    rcases hashed with e | hash
    · trivial
    · have hdone : ∀ {h : Calls} {id : Int}, Registered h email password id →
          Prog.Follows (LogsIn (.message c (.register email password))) (fun _ _ => True)
            (ExceptT.run (do
              Handler.perform (.setConnState c (.authenticated id))
              let token ← Handler.perform .generateSessionToken
              Handler.send c (.authOk token))) h := fun hreg =>
        ⟨⟨email, password, _, rfl, .inr ⟨rfl, hreg⟩⟩, fun _ => ⟨trivial, fun _ =>
          ⟨⟨_, List.mem_cons_of_mem _ List.mem_cons_self⟩, fun _ => trivial⟩⟩⟩
      dsimp only
      rw [createAccountAndMaybeBootstrapAdmin_run]
      refine ⟨trivial, fun n => ?_⟩
      rcases n with e | n
      · exact ⟨trivial, fun _ => trivial⟩
      · refine ⟨?_, fun created => ?_⟩
        · intro c' email' password' ht
          obtain ⟨rfl, hm⟩ := Task.message.inj ht
          obtain ⟨rfl, rfl⟩ := ClientMessage.register.inj hm
          exact ⟨rfl, by simp, ⟨r, by simp, hopen⟩, by simp⟩
        · rcases created with e | id
          · exact ⟨trivial, fun _ => trivial⟩
          · dsimp only
            split
            · refine ⟨trivial, fun flag => ?_⟩
              rcases flag with e | _
              · exact ⟨trivial, fun _ => trivial⟩
              · exact hdone ⟨hash, _, by simp, List.mem_cons_of_mem _ List.mem_cons_self⟩
            · exact hdone ⟨hash, _, by simp, List.mem_cons_self⟩

/-- **Every task keeps to the table.** -/
theorem Task.logsIn (t : Task) :
    Prog.Follows (LogsIn t) (fun _ _ => True) (server.body t) [] := by
  cases ht : t.entersAccount with
  | false => exact t.only_does.mono (fun _ _ ho => logsIn_of_does ht ho) fun _ _ h => h
  | true =>
    have hturn : ∀ {c m}, Prog.Follows (LogsIn (.message c m)) (fun _ _ => True)
        (handleMessage c m).run [] →
        Prog.Follows (LogsIn (.message c m)) (fun _ _ => True) (server.body (.message c m)) [] := by
      intro c m hm
      show Prog.Follows _ _ (onMessage c m >>= _) _
      rw [Prog.follows_bind, onMessage_eq, Prog.follows_bind]
      refine hm.mono (fun _ _ h => h) fun h r _ => ?_
      cases r with
      | ok _ => trivial
      | error e => exact ⟨trivial, fun _ => trivial⟩
    cases t with
    | message c m =>
      cases m with
      | login email password => exact hturn (logsIn_login email password)
      | register email password => exact hturn (logsIn_register email password)
      | _ => exact absurd ht (by simp [Task.entersAccount])
    | _ => exact absurd ht (by simp [Task.entersAccount])

end

end Visuara.Signaling
