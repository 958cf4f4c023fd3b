/-
  Visuara.Signaling.Otp
  ─────────────────────
  **ONE-TIME PASSWORDS.**

  `RequestConnection` compares the presented password with the one in `otp`
  and leaves it there, so a password opens its device until the next
  `RegisterDevice`.  `otp_reused` is a run in which one password admits two
  connections; `otp_admits_one` is what holds of the runs in which no password
  is let through after it has been used.
-/
import Visuara.Signaling.Presence

namespace Visuara.Signaling

open Interleave

/-! ## §1. Issued, matched, accepted. -/

/-- The device a `RegisterDevice` turn stored a one-time password for. -/
def issuedOtp? : ServerEvent → Option DeviceId
  | .call _ (.message _ (.registerDevice _)) ⟨.otpInsert d _, _⟩ => some d
  | _ => none

/-- The device whose stored password equals the one a `RequestConnection` turn presents. -/
def matchedOtp? : ServerEvent → Option DeviceId
  | .call _ (.message _ (.requestConnection d (.oneTimePassword otp))) ⟨.otpGet _, current⟩ =>
    if current = some otp then some d else none
  | _ => none

/-- The device whose `RequestConnection` with a one-time password is answered
with `ConnectionEstablished`. -/
def acceptedOtp? : ServerEvent → Option DeviceId
  | .call _ (.message c (.requestConnection d (.oneTimePassword _)))
      ⟨.send tx (.connectionEstablished _ _), .ok ()⟩ => if tx = c then some d else none
  | _ => none

/-- The connections accepted with a one-time password for `d` since the last one was issued. -/
def acceptedSinceIssue (d : DeviceId) : List ServerEvent → Nat
  | [] => 0
  | e :: l =>
    if issuedOtp? e = some d then 0
    else if acceptedOtp? e = some d then acceptedSinceIssue d l + 1
    else acceptedSinceIssue d l

theorem matchedOtp?_eq_some {e : ServerEvent} {d : DeviceId} (h : matchedOtp? e = some d) :
    ∃ j c otp x, e = .call j (.message c (.requestConnection d (.oneTimePassword otp)))
      ⟨.otpGet x, some otp⟩ := by
  unfold matchedOtp? at h
  split at h
  next j c d' otp x current =>
    split at h
    next hcur =>
      obtain rfl := Option.some.inj h
      exact ⟨j, c, otp, x, by rw [hcur]⟩
    next => exact absurd h.symm (Option.some_ne_none d)
  next => exact absurd h.symm (Option.some_ne_none d)

theorem acceptedOtp?_eq_some {e : ServerEvent} {d : DeviceId} (h : acceptedOtp? e = some d) :
    ∃ j c otp s x, e = .call j (.message c (.requestConnection d (.oneTimePassword otp)))
      ⟨.send c (.connectionEstablished s x), .ok ()⟩ := by
  unfold acceptedOtp? at h
  split at h
  next j c d' otp tx s x =>
    split at h
    next htx =>
      obtain rfl := Option.some.inj h
      exact ⟨j, c, otp, s, x, by rw [htx]⟩
    next => exact absurd h.symm (Option.some_ne_none d)
  next => exact absurd h.symm (Option.some_ne_none d)

/-- Only an acceptance counts. -/
theorem acceptedSinceIssue_le {d : DeviceId} {e : ServerEvent} {l : List ServerEvent}
    (h : acceptedOtp? e ≠ some d) : acceptedSinceIssue d (e :: l) ≤ acceptedSinceIssue d l := by
  simp only [acceptedSinceIssue, if_neg h]
  split
  · exact Nat.zero_le _
  · exact Nat.le_refl _

theorem acceptedSinceIssue_le_succ (d : DeviceId) (e : ServerEvent) (l : List ServerEvent) :
    acceptedSinceIssue d (e :: l) ≤ acceptedSinceIssue d l + 1 := by
  simp only [acceptedSinceIssue]
  split
  · exact Nat.zero_le _
  · split
    · exact Nat.le_refl _
    · exact Nat.le_succ _

theorem exists_accepted {d : DeviceId} {l : List ServerEvent} (h : acceptedSinceIssue d l ≠ 0) :
    ∃ e ∈ l, acceptedOtp? e = some d := by
  induction l with
  | nil => exact absurd rfl h
  | cons e l ih =>
    by_cases he : acceptedOtp? e = some d
    · exact ⟨e, List.mem_cons_self, he⟩
    · have hle : acceptedSinceIssue d (e :: l) ≤ acceptedSinceIssue d l := acceptedSinceIssue_le he
      obtain ⟨e', hm, he'⟩ := ih (by omega)
      exact ⟨e', List.mem_cons_of_mem _ hm, he'⟩

/-! ## §2. Turns on their way to an answer. -/

/-- Job `j` has passed the check for `d`, and may still be answered. -/
def Underway (d : DeviceId) (j : Nat) (w : ServerWorld) : Prop :=
  (∃ t p, w.jobs j = some (t, p) ∧ p.done = false)
    ∧ (∃ t c, Event.call j t c ∈ w.log ∧ matchedOtp? (.call j t c) = some d)
    ∧ ∀ t tx s x r, Event.call j t ⟨.send tx (.connectionEstablished s x), r⟩ ∉ w.log

/-- A step in which a password matches is the first use of this password: it
has admitted no connection since it was issued, and no other turn that passed
the check is still on its way. -/
def FirstUse (w w' : ServerWorld) : Prop :=
  ∀ d e, w'.log = e :: w.log → matchedOtp? e = some d →
    acceptedSinceIssue d w.log = 0 ∧ ∀ j, ¬ Underway d j w

section

variable [Crates] {A : Assumption Op Op.Res Draw Task Env} {s : Server}

/-- A turn is on its way since its password matched. -/
theorem Underway.before {d : DeviceId} {j : Nat} {w w' : ServerWorld} (h : Run A s w)
    (hs : server.Step A w w') (hp : Underway d j w') : Underway d j w
      ∨ ∃ t c, w'.log = .call j t c :: w.log ∧ matchedOtp? (.call j t c) = some d := by
  obtain ⟨⟨t, p, hj, hdone⟩, ⟨u, c, hm, hc⟩, hno⟩ := hp
  have hn := System.Reachable.numbered h
  cases hs with
  | start t' _ _ =>
    have hm' : Event.call j u c ∈ w.log := by
      rcases List.mem_cons.mp hm with heq | hm
      · exact absurd heq (by simp)
      · exact hm
    have hlt : j < w.next := hn.start_lt j u (hn.call_start j u c hm')
    refine .inl ⟨⟨t, p, ?_, hdone⟩, ⟨u, c, hm', hc⟩, fun t tx s x r he =>
      hno t tx s x r (List.mem_cons_of_mem _ he)⟩
    dsimp only at hj
    rwa [Function.update_of_ne (by omega)] at hj
  | @call i t' o k draw hi _ =>
    rcases List.mem_cons.mp hm with heq | hm
    · exact .inr ⟨u, c, by rw [heq]; rfl, hc⟩
    · refine .inl ⟨?_, ⟨u, c, hm, hc⟩, fun t tx s x r he =>
        hno t tx s x r (List.mem_cons_of_mem _ he)⟩
      by_cases hji : j = i
      · subst hji
        exact ⟨t', _, hi, rfl⟩
      · exact ⟨t, p, by simpa [Function.update_of_ne hji] using hj, hdone⟩
  | env e =>
    have hm' : Event.call j u c ∈ w.log := by
      rcases List.mem_cons.mp hm with heq | hm
      · exact absurd heq (by simp)
      · exact hm
    refine .inl ⟨⟨t, p, ?_, hdone⟩, ⟨u, c, hm', hc⟩, fun t tx s x r he =>
      hno t tx s x r (List.mem_cons_of_mem _ he)⟩
    dsimp only at hj
    split at hj
    · exact absurd hj.symm (Option.some_ne_none _)
    · exact hj

/-- Only a turn on its way is accepted. -/
theorem underway_of_accepted {d : DeviceId} {j : Nat} {t : Task} {c : Call Op Op.Res}
    {w w' : ServerWorld} (h : Run A s w) (hs : server.Step A w w')
    (hlog : w'.log = .call j t c :: w.log) (hc : acceptedOtp? (.call j t c) = some d) :
    Underway d j w := by
  obtain ⟨draw, k, hj, -⟩ := hs.of_call hlog
  obtain ⟨i, a, otp, id, x, heq⟩ := acceptedOtp?_eq_some hc
  obtain ⟨rfl, rfl, rfl⟩ := Event.call.inj heq
  obtain ⟨credential, b, ht, hreq, -, hfirst⟩ := h.next_licensed Task.follows hj
  injection ht with _ ht
  injection ht with hd hcred
  subst hd hcred
  obtain ⟨device, -, hmatch⟩ := hreq.checked
  refine ⟨⟨_, _, hj, rfl⟩, ⟨_, _, h.event_of_hist hj hmatch, ?_⟩, fun u tx s y r he =>
    hfirst tx s y r (mem_hist he)⟩
  simp [matchedOtp?]

/-! ## §3. Runs in which every password is used once. -/

/-- Of the turns that passed the check for `d` and the accepted connections,
there is at most one. -/
structure OneUse (d : DeviceId) (w : ServerWorld) : Prop where
  single : ∀ i j, Underway d i w → Underway d j w → i = j
  unused : ∀ i, Underway d i w → acceptedSinceIssue d w.log = 0
  most : acceptedSinceIssue d w.log ≤ 1

/-- **One step keeps a password to one use.** -/
theorem OneUse.step {d : DeviceId} {w w' : ServerWorld} (h : Run A s w) (hw : OneUse d w)
    (hs : server.Step A w w') (hfirst : FirstUse w w') : OneUse d w' := by
  obtain ⟨e, hlog⟩ := hs.log_eq
  by_cases hm : matchedOtp? e = some d
  · obtain ⟨hzero, hnone⟩ := hfirst d e hlog hm
    obtain ⟨j, c, otp, x, rfl⟩ := matchedOtp?_eq_some hm
    have hone : ∀ i, Underway d i w' → i = j := by
      intro i hi
      rcases hi.before h hs with hi | ⟨t, c, hlog', -⟩
      · exact absurd hi (hnone i)
      · rw [hlog] at hlog'
        exact (Event.call.inj (List.cons.inj hlog').1).1.symm
    have hlast : acceptedSinceIssue d w'.log = 0 := by
      rw [hlog]
      exact hzero
    exact ⟨fun i i' hi hi' => (hone i hi).trans (hone i' hi').symm, fun _ _ => hlast, by omega⟩
  · have hbefore : ∀ i, Underway d i w' → Underway d i w := by
      intro i hi
      rcases hi.before h hs with hi | ⟨t, c, hlog', hc⟩
      · exact hi
      · rw [hlog] at hlog'
        exact absurd ((List.cons.inj hlog').1 ▸ hc) hm
    by_cases ha : acceptedOtp? e = some d
    · -- the turn that is accepted was the only one on its way
      obtain ⟨j, c, otp, id, x, rfl⟩ := acceptedOtp?_eq_some ha
      have hj := underway_of_accepted h hs hlog ha
      have hno : ∀ i, ¬ Underway d i w' := by
        intro i hi
        obtain rfl := hw.single i j (hbefore i hi) hj
        exact hi.2.2 _ _ _ _ _ (by rw [hlog]; exact List.mem_cons_self)
      refine ⟨fun i _ hi => absurd hi (hno i), fun i hi => absurd hi (hno i), ?_⟩
      rw [hlog]
      exact Nat.le_trans (acceptedSinceIssue_le_succ d _ w.log)
        (Nat.succ_le_succ (Nat.le_of_eq (hw.unused j hj)))
    · have hle : acceptedSinceIssue d w'.log ≤ acceptedSinceIssue d w.log := by
        rw [hlog]
        exact acceptedSinceIssue_le ha
      refine ⟨fun i i' hi hi' => hw.single i i' (hbefore i hi) (hbefore i' hi'), fun i hi => ?_,
        Nat.le_trans hle hw.most⟩
      have := hw.unused i (hbefore i hi)
      omega

/-- **A one-time password admits at most one connection**, in every run whose
matches are all first uses. -/
theorem otp_admits_one {w : ServerWorld}
    (h : server.ReachableWhen A FirstUse (World.initial s) w) (d : DeviceId) :
    acceptedSinceIssue d w.log ≤ 1 := by
  suffices hw : OneUse d w from hw.most
  induction h with
  | refl =>
    have hno : ∀ i, ¬ Underway d i (World.initial s) := by
      rintro i ⟨⟨t, p, hj, -⟩, -⟩
      exact absurd hj.symm (Option.some_ne_none _)
    exact ⟨fun i _ hi => absurd hi (hno i), fun i hi => absurd hi (hno i), Nat.zero_le _⟩
  | tail hr hs ih =>
    exact ih.step (System.ReachableWhen.reachable hr) hs.1 hs.2

/-- Whoever was accepted had matched. -/
theorem exists_matched {w : ServerWorld} (h : Run A s w) {d : DeviceId}
    (hd : acceptedSinceIssue d w.log ≠ 0) : ∃ e ∈ w.log, matchedOtp? e = some d := by
  obtain ⟨e, he, ha⟩ := exists_accepted hd
  obtain ⟨j, c, otp, id, x, rfl⟩ := acceptedOtp?_eq_some ha
  obtain ⟨w₁, w₂, h₁, hs, h₂, hlog⟩ := h.moment he
  obtain ⟨-, ⟨t, c, hm, hc⟩, -⟩ := underway_of_accepted h₁ hs hlog ha
  obtain ⟨l, hl⟩ := System.Reachable.log_suffix (h₂.head hs)
  exact ⟨_, hl ▸ List.mem_append_right l hm, hc⟩

/-- In a run with one match, it is a first use. -/
theorem firstUse_of_one_match {w : ServerWorld} (h : Run A s w)
    (hone : w.log.countP (fun e => (matchedOtp? e).isSome) ≤ 1) :
    server.ReachableWhen A FirstUse (World.initial s) w := by
  induction h with
  | refl => exact .refl
  | @tail w w' hr hs ih =>
    obtain ⟨e, hlog⟩ := hs.log_eq
    rw [hlog, List.countP_cons] at hone
    refine (ih (by omega)).tail ⟨hs, fun d e' hlog' hm => ?_⟩
    obtain rfl := (List.cons.inj (hlog.symm.trans hlog')).1
    have hnone : ∀ e' ∈ w.log, matchedOtp? e' ≠ some d := by
      intro e' he' hm'
      have hpos : 0 < w.log.countP fun e => (matchedOtp? e).isSome :=
        List.countP_pos_iff.mpr ⟨e', he', by simp [hm']⟩
      simp only [hm, Option.isSome_some, if_true] at hone
      omega
    refine ⟨?_, fun j hp => ?_⟩
    · by_contra hne
      obtain ⟨e', he', hm'⟩ := exists_matched hr hne
      exact hnone e' he' hm'
    · obtain ⟨-, ⟨t, c, he', hm'⟩, -⟩ := hp
      exact hnone _ he' hm'

end

/-! ## §4. One password, two connections. -/

section Schedule

open scoped Transparent

/-- A controller logs in. -/
def controllerOnline : List ServerMove :=
  hostOnline
    ++ .start (.connect "ctl") :: steps 3 1
    ++ .start (.message "ctl" (.login "host@example.com" "pw")) :: steps 4 4

/-- It asks for the host's device with the host's one-time password. -/
def requestOtp (j : Nat) : List ServerMove :=
  .start (.message "ctl" (.requestConnection "002 003 004" (.oneTimePassword "0002 0003")))
    :: steps j 9

theorem requestOtp_plays : (server.playAll freshIds (controllerOnline ++ requestOtp 5)
    (World.initial (Server.blank true))).isSome = true := by
  decide +kernel

theorem requestOtp_twice_plays :
    (server.playAll freshIds (controllerOnline ++ requestOtp 5 ++ requestOtp 6)
      (World.initial (Server.blank true))).isSome = true := by
  decide +kernel

theorem otp_admits_one_request :
    acceptedSinceIssue "002 003 004" (Option.get _ requestOtp_plays).log ≤ 1 :=
  otp_admits_one (firstUse_of_one_match
    (System.playAll_reachable .refl (Option.some_get requestOtp_plays).symm)
    (by decide +kernel)) "002 003 004"

/-- The same password, presented twice, admits two connections. -/
theorem otp_reused : ¬ ∀ (w : ServerWorld) (d : DeviceId), Run freshIds (Server.blank true) w →
    acceptedSinceIssue d w.log ≤ 1 := by
  intro h
  have hle := h (Option.get _ requestOtp_twice_plays) "002 003 004"
    (System.playAll_reachable .refl (Option.some_get requestOtp_twice_plays).symm)
  have htwo : acceptedSinceIssue "002 003 004" (Option.get _ requestOtp_twice_plays).log = 2 := by
    decide +kernel
  omega

end Schedule

end Visuara.Signaling
