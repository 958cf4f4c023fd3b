/-
  Visuara.Signaling.Queues
  ────────────────────────
  **WHAT IS ON A QUEUE, AND WHO PUT IT THERE.**

  The outbound channel of a connection holds what has been sent to it, in this
  order (`queue_eq`): a channel is made once, when its connection is.  So what
  the log says about sends can be said about queues.
-/
import Visuara.Signaling.Presence

namespace Visuara.Signaling

open Interleave

/-- The message the event put on the queue of `c`. -/
def enqueued? (c : ConnectionId) : ServerEvent → Option ServerMessage
  | .call _ _ ⟨.send tx msg, .ok ()⟩ => if tx = c then some msg else none
  | _ => none

/-- The messages the log puts on the queue of `c`, oldest first. -/
def enqueued (c : ConnectionId) (l : List ServerEvent) : List ServerMessage :=
  (l.filterMap (enqueued? c)).reverse

theorem enqueued?_eq_some {c : ConnectionId} {e : ServerEvent} {msg : ServerMessage} :
    enqueued? c e = some msg ↔ ∃ j t, e = .call j t ⟨.send c msg, .ok ()⟩ := by
  constructor
  · intro h
    unfold enqueued? at h
    split at h
    next j t tx msg' =>
      split at h
      next htx =>
        obtain rfl := Option.some.inj h
        exact ⟨j, t, by rw [htx]⟩
      next => exact absurd h.symm (Option.some_ne_none msg)
    next => exact absurd h.symm (Option.some_ne_none msg)
  · rintro ⟨j, t, rfl⟩
    exact if_pos rfl

theorem enqueued_cons_none {c : ConnectionId} {e : ServerEvent} (h : enqueued? c e = none)
    (l : List ServerEvent) : enqueued c (e :: l) = enqueued c l := by
  rw [enqueued, List.filterMap_cons_none h]
  rfl

theorem enqueued_cons_some {c : ConnectionId} {e : ServerEvent} {msg : ServerMessage}
    (h : enqueued? c e = some msg) (l : List ServerEvent) :
    enqueued c (e :: l) = enqueued c l ++ [msg] := by
  rw [enqueued, List.filterMap_cons_some h, List.reverse_cons]
  rfl

theorem mem_enqueued {c : ConnectionId} {l : List ServerEvent} {msg : ServerMessage} :
    msg ∈ enqueued c l ↔ ∃ j t, Event.call j t ⟨.send c msg, .ok ()⟩ ∈ l := by
  rw [enqueued, List.mem_reverse, List.mem_filterMap]
  constructor
  · rintro ⟨e, he, hmsg⟩
    obtain ⟨j, t, rfl⟩ := enqueued?_eq_some.mp hmsg
    exact ⟨j, t, he⟩
  · rintro ⟨j, t, he⟩
    exact ⟨_, he, enqueued?_eq_some.mpr ⟨j, t, rfl⟩⟩

/-- Two sends make two messages. -/
theorem two_le_enqueued {c : ConnectionId} {l : List ServerEvent} {j j' : Nat} {t t' : Task}
    {msg msg' : ServerMessage} (he : Event.call j t ⟨.send c msg, .ok ()⟩ ∈ l)
    (he' : Event.call j' t' ⟨.send c msg', .ok ()⟩ ∈ l)
    (hne : (Event.call j t ⟨.send c msg, .ok ()⟩ : ServerEvent)
      ≠ .call j' t' ⟨.send c msg', .ok ()⟩) : 2 ≤ (enqueued c l).length := by
  have hsome : ∀ {j t msg}, enqueued? c (.call j t ⟨.send c msg, .ok ()⟩) = some msg :=
    fun {j t msg} => enqueued?_eq_some.mpr ⟨j, t, rfl⟩
  rw [enqueued, List.length_reverse]
  obtain heq | ⟨l₁, l₂, rfl, hm⟩ | ⟨l₁, l₂, rfl, hm⟩ := System.mem_order he he'
  · exact absurd heq hne
  all_goals
    obtain ⟨m₁, m₂, rfl⟩ := List.append_of_mem hm
    simp only [List.filterMap_append, List.filterMap_cons, hsome, List.length_append,
      List.length_cons]
    omega

/-- As many messages of a kind are on the queue as events of that kind in the log. -/
theorem countP_enqueued (c : ConnectionId) (P : ServerMessage → Bool) (l : List ServerEvent) :
    (enqueued c l).countP P = l.countP fun e => (enqueued? c e).any P := by
  rw [enqueued, List.countP_reverse, List.countP_filterMap]
  apply List.countP_congr
  intro e _
  cases enqueued? c e <;> simp

variable [Crates] {A : Assumption Op Op.Res Draw Task Env} {db : Db} {config : Config}
  {files : Files} {w : ServerWorld}

/-- A call appends to the queue of `c` what it logs for `c`. -/
theorem exec_queue {o : Op} {d : Draw} {s : Server} {j : Nat} {t : Task} (c : ConnectionId) :
    ((o.exec d s).2.channel c).queue
      = (s.channel c).queue ++ (enqueued? c (.call j t ⟨o, (o.exec d s).1⟩)).toList := by
  rw [Op.exec_channel]
  cases o with
  | send tx msg =>
    simp only [Op.exec]
    by_cases halive : (s.channel tx).alive = true
    · simp only [halive, if_true, enqueued?]
      by_cases htx : tx = c
      · subst htx
        simp
      · simp [htx, Function.update_of_ne (Ne.symm htx)]
    · simp [halive, enqueued?]
  | abortSendTask c' =>
    by_cases hc : c = c'
    · subst hc
      simp [enqueued?]
    · simp [enqueued?, Function.update_of_ne hc]
  | _ => simp [enqueued?]

/-- On a channel without a receiving half nothing is put, and it gets none. -/
theorem exec_dead {o : Op} {d : Draw} {s : Server} {c : ConnectionId} (j : Nat) (t : Task)
    (hdead : (s.channel c).alive = false) : ((o.exec d s).2.channel c).alive = false
      ∧ enqueued? c (.call j t ⟨o, (o.exec d s).1⟩) = none := by
  rw [Op.exec_channel]
  cases o with
  | send tx msg =>
    simp only [Op.exec]
    by_cases htx : tx = c
    · subst htx
      simp [hdead, enqueued?]
    · split
      · exact ⟨by rwa [Function.update_of_ne (Ne.symm htx)], if_neg htx⟩
      · exact ⟨hdead, rfl⟩
  | abortSendTask c' =>
    refine ⟨?_, rfl⟩
    by_cases hc : c = c'
    · subst hc
      simp
    · simpa [Function.update_of_ne hc] using hdead
  | _ => exact ⟨hdead, rfl⟩

/-- What is known of a channel: its queue, and that it is not there before its connection. -/
structure Queued (c : ConnectionId) (w : ServerWorld) : Prop where
  queue : (w.st.channel c).queue = enqueued c w.log
  fresh : (w.st.socket c).phase = .fresh →
    (w.st.channel c).alive = false ∧ enqueued c w.log = []

/-- From a state in which it is known, it is known from then on. -/
theorem Queued.run {s₀ : Server} {c : ConnectionId} (h0 : Queued c (World.initial s₀))
    (h : Run A s₀ w) : Queued c w := by
  refine System.Reachable.invariant (Queued c) h0 ?_ h
  intro w w' _ hI hs
  cases hs with
  | start t hadm _ =>
    have hlog : enqueued c (.start w.next t :: w.log) = enqueued c w.log :=
      enqueued_cons_none rfl w.log
    by_cases ht : t = .connect c
    · subst ht
      have hphase : (w.st.socket c).phase = .fresh := of_decide_eq_true hadm
      refine ⟨?_, fun hfresh => ?_⟩
      · show (Function.update w.st.channel c ⟨true, []⟩ c).queue = _
        rw [Function.update_self]
        exact (hlog.trans (hI.fresh hphase).2).symm
      · have hlive : (Function.update w.st.socket c ⟨.live, .unauthenticated, none⟩ c).phase
            = .fresh := hfresh
        rw [Function.update_self] at hlive
        exact Phase.noConfusion hlive
    · have hchannel : (t.begin w.st).channel c = w.st.channel c := by
        cases t with
        | connect c' => exact Function.update_of_ne (fun heq => ht (by rw [heq])) _ _
        | _ => rfl
      refine ⟨?_, fun hfresh => ?_⟩
      · show ((t.begin w.st).channel c).queue = _
        rw [hchannel]
        exact hI.queue.trans hlog.symm
      · have hold : (w.st.socket c).phase = .fresh := by
          by_contra hne
          exact begin_phase hne hfresh
        show ((t.begin w.st).channel c).alive = false ∧ _
        rw [hchannel]
        exact ⟨(hI.fresh hold).1, hlog.trans (hI.fresh hold).2⟩
  | @call j t o k d hj _ =>
    refine ⟨?_, fun hfresh => ?_⟩
    · show ((o.exec d w.st).2.channel c).queue
        = enqueued c (.call j t ⟨o, (o.exec d w.st).1⟩ :: w.log)
      rw [@exec_queue _ o d w.st j t c, hI.queue]
      cases he : enqueued? c (.call j t ⟨o, (o.exec d w.st).1⟩) with
      | none => rw [enqueued_cons_none he, Option.toList_none, List.append_nil]
      | some msg => rw [enqueued_cons_some he, Option.toList_some]
    · have hold := (Op.exec_phase o d w.st c).symm.trans hfresh
      obtain ⟨hdead, hnone⟩ := hI.fresh hold
      obtain ⟨hdead', hlog⟩ := @exec_dead _ o d w.st c j t hdead
      exact ⟨hdead', (enqueued_cons_none hlog w.log).trans hnone⟩
  | env e =>
    have hlog : enqueued c (.env e :: w.log) = enqueued c w.log := enqueued_cons_none rfl w.log
    cases e with
    | sendTaskStops c' =>
      by_cases hc : c = c'
      · subst hc
        refine ⟨?_, fun hfresh => ⟨?_, hlog.trans (hI.fresh hfresh).2⟩⟩
        · show (Function.update w.st.channel c { w.st.channel c with alive := false } c).queue = _
          rw [Function.update_self]
          exact hI.queue.trans hlog.symm
        · show (Function.update w.st.channel c { w.st.channel c with alive := false } c).alive = _
          rw [Function.update_self]
      · have hchannel : Function.update w.st.channel c'
            { w.st.channel c' with alive := false } c = w.st.channel c := Function.update_of_ne hc _ _
        refine ⟨?_, fun hfresh => ⟨?_, hlog.trans (hI.fresh hfresh).2⟩⟩
        · show (Function.update w.st.channel c' _ c).queue = _
          rw [hchannel]
          exact hI.queue.trans hlog.symm
        · show (Function.update w.st.channel c' _ c).alive = _
          rw [hchannel]
          exact (hI.fresh hfresh).1
    | restart =>
      refine ⟨hI.queue.trans hlog.symm, fun hfresh => ⟨rfl, hlog.trans (hI.fresh ?_).2⟩⟩
      have hphase : (w.st.restart.socket c).phase = .fresh := hfresh
      simp only [Server.restart] at hphase
      by_contra hne
      rw [if_neg hne] at hphase
      exact Phase.noConfusion hphase

theorem queued (h : Run A (Server.start db config files) w) (c : ConnectionId) : Queued c w :=
  Queued.run ⟨rfl, fun _ => ⟨rfl, rfl⟩⟩ h

/-- **A queue holds what has been sent to it.** -/
theorem queue_eq (h : Run A (Server.start db config files) w) (c : ConnectionId) :
    (w.st.channel c).queue = enqueued c w.log :=
  (queued h c).queue

end Visuara.Signaling
