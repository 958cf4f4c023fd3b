/-
  Visuara.Signaling.Alone
  ───────────────────────
  **HANDLERS THAT RUN ALONE.**

  The weakest preconditions (`Prog.wp`) of the checks the handlers share, for
  results about requests that are run to completion one at a time.
-/
import Visuara.Signaling.Footprint
import Visuara.Signaling.LastAdmin

namespace Visuara.Signaling

open Interleave

variable [Crates] {A : Server → Op → Draw → Prop} {s : Server} {α : Type}

/-- A request's response is the result of its task. -/
theorem wp_http {req : Request} {Q : Option Response → Server → Prop}
    (h : Prog.wp Op.exec A (Api.route req) (fun r s' => Q (some r) s') s) :
    Prog.wp Op.exec A (server.body (.http req)) Q s := by
  show Prog.wp Op.exec A (some <$> Api.route req) Q s
  rw [← bind_pure_comp, Prog.wp_bind]
  exact h

/-- A turn of the loop has no response. -/
theorem wp_message {c : ConnectionId} {m : ClientMessage} {Q : Option Response → Server → Prop}
    (h : Prog.wp Op.exec A (onMessage c m) (fun _ s' => Q none s') s) :
    Prog.wp Op.exec A (server.body (.message c m)) Q s := by
  show Prog.wp Op.exec A (onMessage c m >>= _) Q s
  rw [Prog.wp_bind]
  exact h

/-- The session of the request belongs to an account that is admin. -/
def AsksAsAdmin (headers : HeaderMap) (db : Db) : Prop :=
  ∃ token account, cookieValue headers SESSION_COOKIE = some token
    ∧ db.resolve token = some account ∧ account.role = .admin

/-- Behind `require_admin` there is an admin. -/
theorem wp_withAdmin {headers : HeaderMap} {handler : Act Response}
    {Q : Response → Server → Prop} (hrefuse : ∀ status, status = 401 ∨ status = 403 →
      Q (statusResponse status) s)
    (hadmin : AsksAsAdmin headers s.db → Prog.wp Op.exec A handler Q s) :
    Prog.wp Op.exec A (Api.withAdmin headers handler) Q s := by
  rw [Api.withAdmin_eq]
  cases hc : cookieValue headers SESSION_COOKIE with
  | none => exact hrefuse 401 (.inl rfl)
  | some token =>
    intro d _
    rw [Op.exec_reading rfl]
    cases hr : ((Op.db (.findSession token)).exec d s).1 with
    | error e => exact hrefuse 401 (.inl rfl)
    | ok found =>
      cases found with
      | none => exact hrefuse 401 (.inl rfl)
      | some account =>
        dsimp only
        split
        next hrole =>
          exact hadmin ⟨token, account, hc, Except.ok.inj (Op.exec_query_ok hr).2, hrole⟩
        next => exact hrefuse 403 (.inr rfl)

/-- Behind `require_account` there is the account of the session. -/
theorem wp_requireAccount {headers : HeaderMap} {f : Except Status AuthedAccount → Act α}
    {Q : α → Server → Prop} (hrefuse : Prog.wp Op.exec A (f (.error 401)) Q s)
    (hfound : ∀ token account, cookieValue headers SESSION_COOKIE = some token →
      s.db.resolve token = some account →
      Prog.wp Op.exec A (f (.ok ⟨account.id, account.email, account.role⟩)) Q s) :
    Prog.wp Op.exec A (requireAccount headers >>= f) Q s := by
  rw [requireAccount_bind]
  cases hc : cookieValue headers SESSION_COOKIE with
  | none => exact hrefuse
  | some token =>
    intro d _
    rw [Op.exec_reading rfl]
    cases hr : ((Op.db (.findSession token)).exec d s).1 with
    | error e => exact hrefuse
    | ok found =>
      cases found with
      | none => exact hrefuse
      | some account => exact hfound token account hc (Except.ok.inj (Op.exec_query_ok hr).2)

/-- What a task adds to a queue is what its footprint says it sends there. -/
theorem task_sends (t : Task) (c : ConnectionId) :
    Prog.wp Op.exec A (server.body t) (fun _ s' => ∃ sent,
      (s'.channel c).queue = (s.channel c).queue ++ sent ∧ ∀ msg ∈ sent, t.sends c msg = true) s := by
  have hdoes : Only t.does (server.body t) ([] : Calls) := t.only_does
  refine Prog.wp_of_follows hdoes (fun s' o d ho _ hI => ?_)
    ⟨[], (List.append_nil _).symm, fun _ hm => absurd hm List.not_mem_nil⟩
  obtain ⟨sent, hqueue, hsent⟩ := hI
  rw [Op.exec_channel]
  cases o with
  | send tx msg =>
    dsimp only
    split
    · by_cases htx : tx = c
      · subst htx
        refine ⟨sent ++ [msg], ?_, fun msg' hm => ?_⟩
        · rw [Function.update_self, hqueue, List.append_assoc]
        · rcases List.mem_append.mp hm with hm | hm
          · exact hsent msg' hm
          · rw [List.mem_singleton.mp hm]
            exact ho
      · exact ⟨sent, by rw [Function.update_of_ne (Ne.symm htx), hqueue], hsent⟩
    · exact ⟨sent, hqueue, hsent⟩
  | abortSendTask c' =>
    refine ⟨sent, ?_, hsent⟩
    by_cases hc : c' = c
    · subst hc
      rw [← hqueue]
      simp
    · rw [← hqueue]
      dsimp only
      rw [Function.update_of_ne (Ne.symm hc)]
  | _ => exact ⟨sent, hqueue, hsent⟩

/-- The turn put the message into the queue of `c`. -/
def Enqueues (turn : ServerTurn) (c : ConnectionId) (msg : ServerMessage) : Prop :=
  ∃ sent, (turn.after.channel c).queue = (turn.before.channel c).queue ++ sent ∧ msg ∈ sent

omit [Crates] in
theorem Enqueues.of_last {turn : ServerTurn} {c : ConnectionId} {msg : ServerMessage}
    (h : (turn.after.channel c).queue = (turn.before.channel c).queue ++ [msg]) :
    Enqueues turn c msg :=
  ⟨[msg], h, List.mem_singleton.mpr rfl⟩

/-- Only what the task sends is enqueued. -/
theorem sends_of_enqueues {B : Op → Draw → Bool} {turn : ServerTurn}
    (hran : turn.Ran server B) {c : ConnectionId} {msg : ServerMessage}
    (h : Enqueues turn c msg) : turn.task.sends c msg = true := by
  obtain ⟨sent, hqueue, hsent⟩ := hran.sound (task_sends turn.task c)
  obtain ⟨sent', hqueue', hm⟩ := h
  have hbegin : ((server.begins turn.task turn.before).channel c).queue
        = (turn.before.channel c).queue
      ∨ ((server.begins turn.task turn.before).channel c).queue = [] := by
    show (((turn.task).begin turn.before).channel c).queue = _ ∨ _
    cases turn.task with
    | connect c' =>
      by_cases hc : c' = c
      · subst hc
        right
        simp [server, Task.begin, Server.setChannel]
      · left
        simp [Task.begin, Server.setChannel, Server.setSocket, Function.update_of_ne (Ne.symm hc)]
    | _ => exact .inl rfl
  apply hsent
  rcases hbegin with hsame | hnone
  · rw [hsame, hqueue'] at hqueue
    rwa [← List.append_cancel_left hqueue]
  · rw [hnone, List.nil_append] at hqueue
    rw [← hqueue, hqueue']
    exact List.mem_append_right _ hm

end Visuara.Signaling
