/-
  Visuara.Client.Dashboard
  ────────────────────────
  **LOG-INS OF THE DASHBOARD PANEL, ONE AFTER THE OTHER** (`gui.rs`,
  `dashboard.rs`).

  Every click on "Log in" spawns a task, and that a task that talks to the
  server.  A log-out resets the shared fields and does not wait for either: the
  old task goes on with the lists it still has, and in the end resets the
  fields once more.

    • `Dashboard.step`     — one lock of `SharedState`, or one turn of a task;
    • `Dashboard.Apart`    — no session can be told from the fields but the last;
    • `sessions_apart_iff` — which steps keep the sessions apart.
-/
import Mathlib.Logic.Function.Basic
import Mathlib.Logic.Relation
import Visuara.Common.Signaling

namespace Visuara.Client

/-! ## §1. Sessions. -/

/-- Where the task of a log-in is. -/
inductive LogIn where
  /-- In `dashboard::start`. -/
  | starting
  /-- It has the handle, with both ends in it. -/
  | entering
  /-- In its loop over `devices_rx`. -/
  | receiving
  | ended
  deriving DecidableEq, Repr

/-- A log-in: its task, the task behind its handle, and the channels between. -/
structure DashboardSession where
  logIn : LogIn
  /-- The queue behind `refresh_tx`. -/
  pings : Nat
  /-- The task that answers them is in its loop. -/
  running : Bool
  /-- The queue behind `devices_tx`. -/
  devices : List (List DeviceSummary)
  /-- There has been a log-out since the click. -/
  old : Bool
  deriving DecidableEq, Repr

/-- The fields of `SharedState` that belong to the dashboard. -/
structure DashboardShared where
  knownDevices : List DeviceSummary
  /-- The session whose `refresh_tx` is held. -/
  dashboardRefreshTx : Option Nat
  dashboardLoggedIn : Bool
  dashboardStatus : String
  deriving DecidableEq, Repr

structure Dashboard where
  shared : DashboardShared
  sessions : Nat → Option DashboardSession
  next : Nat
  /-- There has been a log-out, and no log-in since. -/
  vacant : Bool

/-- What can happen next; the number is that of the session. -/
inductive DashboardEvent where
  /-- "Log in" is clicked. -/
  | click
  /-- `dashboard::start` returns. -/
  | started (i : Nat)
  | fails (i : Nat) (e : String)
  /-- The task of the log-in enters its session into the shared fields. -/
  | enters (i : Nat)
  /-- It receives a list. -/
  | receives (i : Nat)
  /-- It receives none any more. -/
  | ends (i : Nat)
  /-- The task behind the handle receives a ping, and its `send` succeeds or not. -/
  | pinged (i : Nat) (ok : Bool)
  /-- It finds that there is no `refresh_tx` any more. -/
  | closed (i : Nat)
  /-- It receives a `DeviceList`. -/
  | gets (i : Nat) (devices : List DeviceSummary)
  /-- Its connection is lost. -/
  | lost (i : Nat)
  /-- "Log out" is clicked. -/
  | logOut
  /-- `request_dashboard_refresh`. -/
  | refresh
  deriving DecidableEq, Repr

/-- The session whose log-in task makes the step. -/
def DashboardEvent.logIn : DashboardEvent → Option Nat
  | .started i | .fails i _ | .enters i | .receives i | .ends i => some i
  | _ => none

namespace Dashboard

def start : Dashboard where
  shared := ⟨[], none, false, ""⟩
  sessions _ := none
  next := 0
  vacant := false

/-- Session `i` goes on as `f` says, if it can. -/
def act (d : Dashboard) (i : Nat)
    (f : DashboardSession → Option (DashboardSession × DashboardShared)) : Option Dashboard := do
  let s ← d.sessions i
  let (s', shared) ← f s
  pure { d with shared := shared, sessions := Function.update d.sessions i (some s') }

/-- The same, while the shared fields stay as they are. -/
def turn (d : Dashboard) (i : Nat) (f : DashboardSession → Option DashboardSession) :
    Option Dashboard :=
  d.act i fun s => (f s).map fun s' => (s', d.shared)

def step (d : Dashboard) : DashboardEvent → Option Dashboard
  | .click => some { d with
      sessions := Function.update d.sessions d.next (some ⟨.starting, 0, false, [], false⟩)
      next := d.next + 1 }
  | .started i => d.turn i fun s =>
    -- the first ping is in the channel
    if s.logIn = .starting then some { s with logIn := .entering, pings := 1, running := true }
    else none
  | .fails i e => d.act i fun s =>
    if s.logIn = .starting then
      some ({ s with logIn := .ended }, { d.shared with dashboardStatus := "log in failed: " ++ e })
    else none
  | .enters i => (d.act i fun s =>
    if s.logIn = .entering then
      some ({ s with logIn := .receiving }, { d.shared with
        dashboardRefreshTx := some i, dashboardLoggedIn := true, dashboardStatus := "" })
    else none).map fun d' => { d' with vacant := false }
  | .receives i => d.act i fun s =>
    match s.logIn, s.devices with
    | .receiving, devices :: rest =>
      some ({ s with devices := rest }, { d.shared with knownDevices := devices })
    | _, _ => none
  | .ends i => d.act i fun s =>
    if s.logIn = .receiving ∧ s.devices = [] ∧ s.running = false then
      some ({ s with logIn := .ended },
        { d.shared with dashboardLoggedIn := false, dashboardRefreshTx := none })
    else none
  | .pinged i ok => d.turn i fun s =>
    if s.running ∧ 0 < s.pings then some { s with pings := s.pings - 1, running := ok } else none
  | .closed i => d.turn i fun s =>
    if s.running ∧ s.pings = 0 ∧ s.logIn ≠ .entering ∧ d.shared.dashboardRefreshTx ≠ some i then
      some { s with running := false }
    else none
  | .gets i devices => d.turn i fun s =>
    if s.running then some { s with devices := s.devices ++ [devices] } else none
  | .lost i => d.turn i fun s => if s.running then some { s with running := false } else none
  | .logOut => some { d with
      shared := { d.shared with
        dashboardRefreshTx := none, dashboardLoggedIn := false, knownDevices := [] }
      sessions := fun i => (d.sessions i).map fun s => { s with old := true }
      vacant := true }
  | .refresh =>
    match d.shared.dashboardRefreshTx with
    | some i => d.turn i fun s => some { s with pings := s.pings + 1 }
    | none => some d

/-! ## §2. Sessions that are kept apart. -/

/-- **What is to hold in every state**: a log-in after which nobody has logged out
is logged in with its own channel until it ends, and after a log-out the list
stays empty until the next one. -/
structure Apart (d : Dashboard) : Prop where
  own : ∀ i s, d.sessions i = some s → s.logIn = .receiving → s.old = false →
    d.shared.dashboardLoggedIn = true ∧ d.shared.dashboardRefreshTx = some i
  empty : d.vacant = true → d.shared.knownDevices = []

/-- The two differ in none of the three fields. -/
def SameFields (shared shared' : DashboardShared) : Prop :=
  shared'.dashboardLoggedIn = shared.dashboardLoggedIn
    ∧ shared'.dashboardRefreshTx = shared.dashboardRefreshTx
    ∧ shared'.knownDevices = shared.knownDevices

/-- **What is to hold of every step**: a log-in task that was there before the last
log-out changes none of the fields. -/
def LeavesAlone (d : Dashboard) (e : DashboardEvent) (d' : Dashboard) : Prop :=
  ∀ i s, e.logIn = some i → d.sessions i = some s → s.old = true → SameFields d.shared d'.shared

/-- **The condition on a step**: a log-in task touches the fields only when they are
its own, or hold already what it is to write; and it enters when nobody is logged
in and there has been no log-out since its click. -/
def Meets (d : Dashboard) : DashboardEvent → Prop
  | .enters i => d.shared.dashboardLoggedIn = false ∧ ∀ s ∈ d.sessions i, s.old = false
  | .receives i => d.shared.dashboardRefreshTx = some i
      ∨ ∀ s ∈ d.sessions i, s.devices.head? = some d.shared.knownDevices
  | .ends i => d.shared.dashboardRefreshTx = some i
      ∨ d.shared.dashboardLoggedIn = false ∧ d.shared.dashboardRefreshTx = none
  | _ => True

instance (d : Dashboard) (e : DashboardEvent) : Decidable (Meets d e) :=
  match e with
  | .enters _ => inferInstanceAs (Decidable (_ ∧ _))
  | .receives _ => inferInstanceAs (Decidable (_ ∨ _))
  | .ends _ => inferInstanceAs (Decidable (_ ∨ _))
  | .click | .started _ | .fails _ _ | .pinged _ _ | .closed _ | .gets _ _ | .lost _ | .logOut
  | .refresh => inferInstanceAs (Decidable True)

/-- The runs whose steps are all of one kind. -/
def Runs (P : Dashboard → DashboardEvent → Prop) (d : Dashboard) : Prop :=
  Relation.ReflTransGen (fun d d' => ∃ e, d.step e = some d' ∧ P d e) start d

/-- The runs whose steps all meet the condition. -/
abbrev RunWhen : Dashboard → Prop := Runs Meets

/-- What is known of the fields and the sessions in such a run. -/
structure Kept (d : Dashboard) : Prop extends Apart d where
  holder : ∀ i, d.shared.dashboardRefreshTx = some i →
    ∃ s, d.sessions i = some s ∧ s.logIn = .receiving ∧ s.old = false
  sync : d.shared.dashboardLoggedIn = d.shared.dashboardRefreshTx.isSome
  unheld : d.vacant = true → d.shared.dashboardRefreshTx = none
  unused : ∀ i, d.next ≤ i → d.sessions i = none

theorem kept_start : Kept start where
  own _ _ hs := absurd hs nofun
  empty hv := absurd hv nofun
  holder _ hi := absurd hi nofun
  sync := rfl
  unheld hv := absurd hv nofun
  unused _ _ := rfl

variable {d d' : Dashboard} {i : Nat} {s s' : DashboardSession}

theorem act_eq_some {f : DashboardSession → Option (DashboardSession × DashboardShared)}
    (h : d.act i f = some d') : ∃ s s' shared, d.sessions i = some s ∧ f s = some (s', shared)
      ∧ d' = { d with shared := shared, sessions := Function.update d.sessions i (some s') } := by
  obtain ⟨s, hs, h⟩ := Option.bind_eq_some_iff.mp h
  obtain ⟨⟨s', shared⟩, hf, h⟩ := Option.bind_eq_some_iff.mp h
  exact ⟨s, s', shared, hs, hf, (Option.some.inj h).symm⟩

theorem turn_eq_some {f : DashboardSession → Option DashboardSession} (h : d.turn i f = some d') :
    ∃ s s', d.sessions i = some s ∧ f s = some s'
      ∧ d' = { d with sessions := Function.update d.sessions i (some s') } := by
  obtain ⟨s, s', shared, hs, hf, hd⟩ := act_eq_some h
  obtain ⟨s₁, hf', heq⟩ := Option.map_eq_some_iff.mp hf
  obtain ⟨rfl, rfl⟩ := Prod.mk.inj heq
  exact ⟨s, s₁, hs, hf', hd⟩

/-- The sessions when one of them has gone on. -/
theorem of_put {sessions : Nat → Option DashboardSession} {j : Nat} {t : DashboardSession}
    (h : Function.update sessions i (some s') j = some t) :
    j = i ∧ t = s' ∨ j ≠ i ∧ sessions j = some t := by
  by_cases hj : j = i
  · subst hj
    rw [Function.update_self] at h
    exact Or.inl ⟨rfl, (Option.some.inj h).symm⟩
  · rw [Function.update_of_ne hj] at h
    exact Or.inr ⟨hj, h⟩

/-- A number that is not in use is not that of the session. -/
theorem ne_of_unused (hs : d.sessions i = some s) {j : Nat} (hj : d.sessions j = none) : j ≠ i := by
  intro h
  rw [h, hs] at hj
  exact absurd hj nofun

/-- A session that goes on as it is, towards the fields, keeps everything. -/
theorem Kept.put (h : Kept d) (hs : d.sessions i = some s) (s' : DashboardSession)
    (shared : DashboardShared)
    (hlog : s'.logIn = .receiving ↔ s.logIn = .receiving) (hold : s'.old = s.old)
    (hin : shared.dashboardLoggedIn = d.shared.dashboardLoggedIn)
    (htx : shared.dashboardRefreshTx = d.shared.dashboardRefreshTx)
    (hknown : d.vacant = true → shared.knownDevices = d.shared.knownDevices) :
    Kept { d with shared := shared, sessions := Function.update d.sessions i (some s') } where
  own j t ht hreceiving hnew := by
    show shared.dashboardLoggedIn = true ∧ shared.dashboardRefreshTx = some j
    rw [hin, htx]
    obtain ⟨rfl, rfl⟩ | ⟨-, ht⟩ := of_put ht
    · exact h.own j s hs (hlog.mp hreceiving) (hold ▸ hnew)
    · exact h.own j t ht hreceiving hnew
  empty hv := (hknown hv).trans (h.empty hv)
  holder j hj := by
    obtain ⟨t, ht, hreceiving, hnew⟩ := h.holder j (htx ▸ hj)
    by_cases hji : j = i
    · subst hji
      obtain rfl := Option.some.inj (hs.symm.trans ht)
      exact ⟨s', Function.update_self _ _ _, hlog.mpr hreceiving, hold.trans hnew⟩
    · exact ⟨t, (Function.update_of_ne hji _ _).trans ht, hreceiving, hnew⟩
  sync := by
    show shared.dashboardLoggedIn = shared.dashboardRefreshTx.isSome
    rw [hin, htx, h.sync]
  unheld hv := htx.trans (h.unheld hv)
  unused j hj :=
    (Function.update_of_ne (ne_of_unused hs (h.unused j hj)) _ _).trans (h.unused j hj)

/-- The same, while the fields stay as they are. -/
theorem Kept.turn {f : DashboardSession → Option DashboardSession} (h : Kept d)
    (hd : d.turn i f = some d')
    (hf : ∀ s s', f s = some s' → (s'.logIn = .receiving ↔ s.logIn = .receiving) ∧ s'.old = s.old) :
    Kept d' := by
  obtain ⟨s, s', hs, hs', rfl⟩ := turn_eq_some hd
  obtain ⟨hlog, hold⟩ := hf s s' hs'
  exact h.put hs s' d.shared hlog hold rfl rfl fun _ => rfl

theorem Kept.click (h : Kept d) : Kept { d with
    sessions := Function.update d.sessions d.next (some ⟨.starting, 0, false, [], false⟩)
    next := d.next + 1 } where
  own j t ht hreceiving hnew := by
    obtain ⟨-, rfl⟩ | ⟨-, ht⟩ := of_put ht
    · exact absurd hreceiving nofun
    · exact h.own j t ht hreceiving hnew
  empty := h.empty
  holder j hj := by
    obtain ⟨t, ht, hreceiving, hnew⟩ := h.holder j hj
    have hne := ne_of_unused ht (h.unused d.next (Nat.le_refl _))
    exact ⟨t, (Function.update_of_ne hne.symm _ _).trans ht, hreceiving, hnew⟩
  sync := h.sync
  unheld := h.unheld
  unused j hj := by
    have hlt : d.next + 1 ≤ j := hj
    exact (Function.update_of_ne (by omega) _ _).trans (h.unused j (by omega))

/-- A log-out makes every session an old one. -/
theorem Kept.logOut (h : Kept d) : Kept { d with
    shared := { d.shared with
      dashboardRefreshTx := none, dashboardLoggedIn := false, knownDevices := [] }
    sessions := fun i => (d.sessions i).map fun s => { s with old := true }
    vacant := true } where
  own j t ht _ hnew := by
    obtain ⟨s, -, rfl⟩ := Option.map_eq_some_iff.mp ht
    exact absurd hnew nofun
  empty _ := rfl
  holder j hj := absurd hj nofun
  sync := rfl
  unheld _ := rfl
  unused j hj := by
    show (d.sessions j).map _ = none
    rw [h.unused j hj]
    rfl

/-- A session enters when the fields are nobody's. -/
theorem Kept.enters (h : Kept d) (hs : d.sessions i = some s)
    (hnobody : d.shared.dashboardLoggedIn = false) (hnew : s.old = false) : Kept { d with
      shared := { d.shared with
        dashboardRefreshTx := some i, dashboardLoggedIn := true, dashboardStatus := "" }
      sessions := Function.update d.sessions i (some { s with logIn := .receiving })
      vacant := false } where
  own j t ht hreceiving hnew' := by
    obtain ⟨rfl, -⟩ | ⟨-, ht⟩ := of_put ht
    · exact ⟨rfl, rfl⟩
    · obtain ⟨hin, -⟩ := h.own j t ht hreceiving hnew'
      rw [hnobody] at hin
      exact absurd hin nofun
  empty hv := absurd hv nofun
  holder j hj := by
    obtain rfl := Option.some.inj hj
    exact ⟨_, Function.update_self _ _ _, rfl, hnew⟩
  sync := rfl
  unheld hv := absurd hv nofun
  unused j hj :=
    (Function.update_of_ne (ne_of_unused hs (h.unused j hj)) _ _).trans (h.unused j hj)

/-- A session ends while the fields are its own, or nobody's. -/
theorem Kept.ends (h : Kept d) (hs : d.sessions i = some s)
    (hown : d.shared.dashboardRefreshTx = some i ∨ d.shared.dashboardRefreshTx = none) :
    Kept { d with
      shared := { d.shared with dashboardLoggedIn := false, dashboardRefreshTx := none }
      sessions := Function.update d.sessions i (some { s with logIn := .ended }) } where
  own j t ht hreceiving hnew := by
    obtain ⟨-, rfl⟩ | ⟨hj, ht⟩ := of_put ht
    · exact absurd hreceiving nofun
    · -- no other session is logged in
      obtain ⟨-, htx⟩ := h.own j t ht hreceiving hnew
      obtain hi | hnone := hown
      · exact absurd (Option.some.inj (htx.symm.trans hi)) hj
      · exact absurd (htx.symm.trans hnone) nofun
  empty := h.empty
  holder j hj := absurd hj nofun
  sync := rfl
  unheld _ := rfl
  unused j hj :=
    (Function.update_of_ne (ne_of_unused hs (h.unused j hj)) _ _).trans (h.unused j hj)

/-! ## §3. One step. -/

theorem of_ite_some {c : Prop} [Decidable c] {α : Type} {a b : α}
    (h : (if c then some a else none) = some b) : c ∧ a = b := by
  obtain ⟨hc, h⟩ := Option.ite_none_right_eq_some.mp h
  exact ⟨hc, Option.some.inj h⟩

theorem enters_eq_some (hd : d.step (.enters i) = some d') : ∃ s, d.sessions i = some s
    ∧ s.logIn = .entering ∧ d' = { d with
      shared := { d.shared with
        dashboardRefreshTx := some i, dashboardLoggedIn := true, dashboardStatus := "" }
      sessions := Function.update d.sessions i (some { s with logIn := .receiving })
      vacant := false } := by
  obtain ⟨d₁, hd₁, rfl⟩ := Option.map_eq_some_iff.mp hd
  obtain ⟨s, s', shared, hs, hf, rfl⟩ := act_eq_some hd₁
  obtain ⟨hentering, heq⟩ := of_ite_some hf
  obtain ⟨rfl, rfl⟩ := Prod.mk.inj heq
  exact ⟨s, hs, hentering, rfl⟩

theorem receives_eq_some (hd : d.step (.receives i) = some d') : ∃ s devices rest,
    d.sessions i = some s ∧ s.logIn = .receiving ∧ s.devices = devices :: rest ∧ d' = { d with
      shared := { d.shared with knownDevices := devices }
      sessions := Function.update d.sessions i (some { s with devices := rest }) } := by
  obtain ⟨s, s', shared, hs, hf, rfl⟩ := act_eq_some hd
  -- the task takes a list only in its loop, and only when there is one
  dsimp only at hf
  split at hf
  next devices rest hreceiving hdevices =>
    obtain ⟨rfl, rfl⟩ := Prod.mk.inj (Option.some.inj hf)
    exact ⟨s, devices, rest, hs, hreceiving, hdevices, rfl⟩
  next => exact absurd hf nofun

theorem ends_eq_some (hd : d.step (.ends i) = some d') : ∃ s, d.sessions i = some s
    ∧ s.logIn = .receiving ∧ d' = { d with
      shared := { d.shared with dashboardLoggedIn := false, dashboardRefreshTx := none }
      sessions := Function.update d.sessions i (some { s with logIn := .ended }) } := by
  obtain ⟨s, s', shared, hs, hf, rfl⟩ := act_eq_some hd
  obtain ⟨⟨hreceiving, -⟩, heq⟩ := of_ite_some hf
  obtain ⟨rfl, rfl⟩ := Prod.mk.inj heq
  exact ⟨s, hs, hreceiving, rfl⟩

theorem kept_step {e : DashboardEvent} (h : Kept d) (hd : d.step e = some d') (hm : Meets d e) :
    Kept d' := by
  cases e with
  | click =>
    obtain rfl := Option.some.inj hd
    exact h.click
  | logOut =>
    obtain rfl := Option.some.inj hd
    exact h.logOut
  | started i =>
    refine h.turn hd fun s s' hf => ?_
    obtain ⟨hstarting, rfl⟩ := of_ite_some hf
    simp [hstarting]
  | fails i text =>
    obtain ⟨s, s', shared, hs, hf, rfl⟩ := act_eq_some hd
    obtain ⟨hstarting, heq⟩ := of_ite_some hf
    obtain ⟨rfl, rfl⟩ := Prod.mk.inj heq
    refine h.put hs { s with logIn := .ended } { d.shared with dashboardStatus := _ } ?_ rfl rfl rfl
      fun _ => rfl
    show LogIn.ended = .receiving ↔ s.logIn = .receiving
    rw [hstarting]
    exact ⟨nofun, nofun⟩
  | enters i =>
    obtain ⟨s, hs, -, rfl⟩ := enters_eq_some hd
    exact h.enters hs hm.1 (hm.2 s hs)
  | receives i =>
    obtain ⟨s, devices, rest, hs, -, hdevices, rfl⟩ := receives_eq_some hd
    refine h.put hs { s with devices := rest } { d.shared with knownDevices := devices } Iff.rfl rfl
      rfl rfl fun hv => ?_
    -- nobody holds the fields, so the list is the one that is there
    have hnone := h.unheld hv
    have hlist := hm.resolve_left (by rw [hnone]; nofun) s hs
    rw [hdevices] at hlist
    exact Option.some.inj hlist
  | ends i =>
    obtain ⟨s, hs, -, rfl⟩ := ends_eq_some hd
    exact h.ends hs (hm.imp_right And.right)
  | pinged i ok =>
    refine h.turn hd fun s s' hf => ?_
    obtain ⟨-, rfl⟩ := of_ite_some hf
    exact ⟨Iff.rfl, rfl⟩
  | closed i =>
    refine h.turn hd fun s s' hf => ?_
    obtain ⟨-, rfl⟩ := of_ite_some hf
    exact ⟨Iff.rfl, rfl⟩
  | gets i devices =>
    refine h.turn hd fun s s' hf => ?_
    obtain ⟨-, rfl⟩ := of_ite_some hf
    exact ⟨Iff.rfl, rfl⟩
  | lost i =>
    refine h.turn hd fun s s' hf => ?_
    obtain ⟨-, rfl⟩ := of_ite_some hf
    exact ⟨Iff.rfl, rfl⟩
  | refresh =>
    simp only [step] at hd
    split at hd
    · refine h.turn hd fun s s' hf => ?_
      obtain rfl := Option.some.inj hf
      exact ⟨Iff.rfl, rfl⟩
    · obtain rfl := Option.some.inj hd
      exact h

theorem kept_run (h : RunWhen d) : Kept d := by
  induction h with
  | refl => exact kept_start
  | tail _ hstep ih =>
    obtain ⟨e, hd, hm⟩ := hstep
    exact kept_step ih hd hm

/-! ## §4. Every run. -/

/-- The session whose channel the fields hold is not an old one. -/
theorem Kept.not_old (h : Kept d) (hs : d.sessions i = some s)
    (htx : d.shared.dashboardRefreshTx = some i) : s.old ≠ true := by
  obtain ⟨t, ht, -, hnew⟩ := h.holder i htx
  obtain rfl := Option.some.inj (hs.symm.trans ht)
  rw [hnew]
  nofun

/-- What meets the condition leaves the fields alone when its session is old. -/
theorem leavesAlone_of_meets {e : DashboardEvent} (h : Kept d) (hd : d.step e = some d')
    (hm : Meets d e) : LeavesAlone d e d' := by
  intro i s he hs hold
  cases e with
  | started j =>
    obtain ⟨_, _, _, _, rfl⟩ := turn_eq_some hd
    exact ⟨rfl, rfl, rfl⟩
  | fails j text =>
    obtain ⟨_, _, _, _, hf, rfl⟩ := act_eq_some hd
    obtain ⟨-, heq⟩ := of_ite_some hf
    obtain ⟨-, rfl⟩ := Prod.mk.inj heq
    exact ⟨rfl, rfl, rfl⟩
  | enters j =>
    obtain rfl := Option.some.inj he
    have hnew := hm.2 s hs
    rw [hold] at hnew
    exact absurd hnew nofun
  | receives j =>
    obtain rfl := Option.some.inj he
    obtain ⟨t, devices, rest, ht, -, hdevices, rfl⟩ := receives_eq_some hd
    obtain htx | hhead := hm
    · exact absurd hold (h.not_old hs htx)
    · have hlist := hhead t ht
      rw [hdevices] at hlist
      exact ⟨rfl, rfl, Option.some.inj hlist⟩
  | ends j =>
    obtain rfl := Option.some.inj he
    obtain ⟨t, ht, -, rfl⟩ := ends_eq_some hd
    obtain htx | ⟨hin, htx⟩ := hm
    · exact absurd hold (h.not_old hs htx)
    · exact ⟨hin.symm, htx.symm, rfl⟩
  | _ => exact absurd he nofun

/-- What keeps the sessions apart meets the condition. -/
theorem meets_of_apart {e : DashboardEvent} (h : Kept d) (hd : d.step e = some d')
    (hapart : Apart d') (hleaves : LeavesAlone d e d') : Meets d e := by
  cases e with
  | enters i =>
    obtain ⟨s, hs, hentering, rfl⟩ := enters_eq_some hd
    -- an old session that leaves the fields alone would hold them already
    have hnew : s.old = false := by
      cases hold : s.old with
      | false => rfl
      | true =>
        obtain ⟨-, htx, -⟩ := hleaves i s rfl hs hold
        exact absurd hold (h.not_old hs htx.symm)
    refine ⟨?_, fun t ht => ?_⟩
    · cases htx : d.shared.dashboardRefreshTx with
      | none => exact h.sync.trans (congrArg Option.isSome htx)
      | some j =>
        -- the session that holds the fields would hold them no more
        obtain ⟨t, ht, hreceiving, hnew'⟩ := h.holder j htx
        have hj : j ≠ i := by
          intro hj
          subst hj
          obtain rfl := Option.some.inj (hs.symm.trans ht)
          exact absurd (hentering.symm.trans hreceiving) nofun
        obtain ⟨-, htx'⟩ := hapart.own j t ((Function.update_of_ne hj _ _).trans ht) hreceiving hnew'
        exact absurd (Option.some.inj htx').symm hj
    · obtain rfl := Option.some.inj (hs.symm.trans ht)
      exact hnew
  | receives i =>
    obtain ⟨s, devices, rest, hs, hreceiving, hdevices, rfl⟩ := receives_eq_some hd
    cases hold : s.old with
    | false => exact Or.inl (h.own i s hs hreceiving hold).2
    | true =>
      obtain ⟨-, -, hknown⟩ := hleaves i s rfl hs hold
      refine Or.inr fun t ht => ?_
      obtain rfl := Option.some.inj (hs.symm.trans ht)
      rw [hdevices]
      exact congrArg some hknown
  | ends i =>
    obtain ⟨s, hs, hreceiving, rfl⟩ := ends_eq_some hd
    cases hold : s.old with
    | false => exact Or.inl (h.own i s hs hreceiving hold).2
    | true =>
      obtain ⟨hin, htx, -⟩ := hleaves i s rfl hs hold
      exact Or.inr ⟨hin.symm, htx.symm⟩
  | _ => trivial

/-- **Every run whose steps meet the condition keeps the sessions apart, and a step
of it does so only then.** -/
theorem sessions_apart_iff (h : RunWhen d) : Apart d
    ∧ ∀ e d', d.step e = some d' → (Meets d e ↔ Apart d' ∧ LeavesAlone d e d') := by
  have hkept := kept_run h
  refine ⟨hkept.toApart, fun e d' hd => ⟨fun hm => ?_, fun ⟨ha, hl⟩ => ?_⟩⟩
  · exact ⟨(kept_step hkept hd hm).toApart, leavesAlone_of_meets hkept hd hm⟩
  · exact meets_of_apart hkept hd ha hl

/-! ## §5. Schedules. -/

/-- The events one after the other, as far as their kind goes. -/
def play (P : Dashboard → DashboardEvent → Prop) [∀ d e, Decidable (P d e)] (d : Dashboard)
    (events : List DashboardEvent) : Option Dashboard :=
  events.foldlM (fun d e => if P d e then d.step e else none) d

theorem runs_of_play {P : Dashboard → DashboardEvent → Prop} [∀ d e, Decidable (P d e)]
    {events : List DashboardEvent} (hr : Runs P d) (h : play P d events = some d') : Runs P d' := by
  induction events generalizing d with
  | nil =>
    obtain rfl := Option.some.inj h
    exact hr
  | cons e events ih =>
    obtain ⟨d₁, hd₁, hrest⟩ := Option.bind_eq_some_iff.mp h
    obtain ⟨hP, hd₁⟩ := Option.ite_none_right_eq_some.mp hd₁
    exact ih (hr.tail ⟨e, hd₁, hP⟩) hrest

/-- A session that is over before the next one enters. -/
def successive : List DashboardEvent :=
  [.click, .started 0, .enters 0, .gets 0 [], .receives 0, .logOut, .pinged 0 true, .closed 0,
    .ends 0, .click, .started 1, .enters 1]

theorem successive_plays : (play Meets start successive).isSome = true := by decide

theorem sessions_apart_successive : ∃ d, d.shared.dashboardRefreshTx = some 1 ∧ Apart d
    ∧ ∀ e d', d.step e = some d' → (Meets d e ↔ Apart d' ∧ LeavesAlone d e d') := by
  have hplay := (Option.some_get successive_plays).symm
  refine ⟨Option.get _ successive_plays, by decide, ?_⟩
  exact sessions_apart_iff (runs_of_play .refl hplay)

/-- A session whose log-out is followed by a log-in before its task is done. -/
def overtaken : List DashboardEvent :=
  [.click, .started 0, .enters 0, .pinged 0 true, .logOut, .click, .started 1, .enters 1,
    .closed 0, .ends 0]

theorem overtaken_plays : (play (fun _ _ => True) start overtaken).isSome = true := by decide

/-- The old session logs the new one out. -/
theorem new_session_logged_out : ¬ ∀ d, Runs (fun _ _ => True) d → Apart d
    ∧ ∀ e d', d.step e = some d' → LeavesAlone d e d' := by
  intro h
  have hplay := (Option.some_get overtaken_plays).symm
  obtain ⟨hapart, -⟩ := h _ (runs_of_play .refl hplay)
  obtain ⟨hin, -⟩ := hapart.own 1 ⟨.receiving, 1, true, [], false⟩ rfl rfl rfl
  exact absurd hin (by decide)

end Dashboard

end Visuara.Client
