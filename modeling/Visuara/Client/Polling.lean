/-
  Visuara.Client.Polling
  ──────────────────────
  **THE CLIPBOARD LOOP WHEN CALLS FAIL, AND WHEN ITS HANDLE IS GONE**
  (`clipboard_sync.rs`).

  `Visuara.Client.ClipboardSync` has the loop over a clipboard that always
  answers.  Here each call of the backend may fail, and the handle, which holds
  the only sender, may be dropped.

    • `Polling.turn`          — one call of `try_recv`, or one of `get_text`;
    • `reports_are_new_iff`   — what is reported is new, unless a failed
      `set_text` has been forgotten;
    • `polling_never_stops`   — the loop takes a dropped handle for an empty queue.
-/
import Visuara.Client.ClipboardSync

namespace Visuara.Client

open ClipboardSync

/-! ## §1. The loop. -/

/-- `std::sync::mpsc::TryRecvError`. -/
inductive TryRecvError where
  | empty
  | disconnected
  deriving DecidableEq, Repr

/-- The polling thread, and whether the handle has been dropped. -/
structure Polling where
  sync : ClipboardSync
  dropped : Bool
  deriving DecidableEq, Repr

namespace Polling

/-- The thread as it starts, over a clipboard that holds `text`. -/
def start (text : String) : Polling := ⟨.start text, false⟩

/-- `remote_update_rx.try_recv()`. -/
def tryRecv (p : Polling) : Except TryRecvError String :=
  match p.sync.remoteUpdates with
  | text :: _ => .ok text
  | [] => .error (if p.dropped then .disconnected else .empty)

/-- One call of `try_recv` and what follows it, or one of `get_text`; `ok` says
whether the backend's call succeeds. -/
def turn (p : Polling) (ok : Bool) : Option Update × Polling :=
  if p.sync.drained then
    if ok && p.sync.clipboard ≠ p.sync.lastSeen then
      (some (.reported p.sync.clipboard),
        { p with sync := { p.sync with lastSeen := p.sync.clipboard, drained := false } })
    else (none, { p with sync := { p.sync with drained := false } })
  else
    match p.tryRecv with
    | .ok text =>
      -- the result of `set_text` is discarded
      (if ok then some (.applied text) else none,
        { p with sync := { p.sync with
          clipboard := if ok then text else p.sync.clipboard
          lastSeen := text
          remoteUpdates := p.sync.remoteUpdates.tail } })
    | .error _ => (none, { p with sync := { p.sync with drained := true } })

/-- What can happen next. -/
inductive Event where
  /-- The user copies a text. -/
  | copy (text : String)
  /-- `apply_remote_update`, through the handle. -/
  | remote (text : String)
  | turn (ok : Bool)
  | drop
  deriving DecidableEq, Repr

def step (p : Polling) : Event → Polling
  | .copy text => { p with sync := p.sync.copy text }
  | .remote text => if p.dropped then p else { p with sync := p.sync.applyRemoteUpdate text }
  | .turn ok => (p.turn ok).2
  | .drop => { p with dropped := true }

def run (p : Polling) (events : List Event) : Polling := events.foldl step p

theorem run_append (p : Polling) (es es' : List Event) : p.run (es ++ es') = (p.run es).run es' :=
  List.foldl_append

/-- Where every call succeeds this is the loop of `ClipboardSync`. -/
theorem turn_works (p : Polling) :
    (p.turn true).1 = p.sync.turn.1 ∧ (p.turn true).2.sync = p.sync.turn.2 := by
  unfold turn ClipboardSync.turn tryRecv
  split
  · by_cases hseen : p.sync.clipboard = p.sync.lastSeen
    · simp [hseen]
    · simp [hseen]
  · cases hqueue : p.sync.remoteUpdates with
    | nil => simp [hqueue]
    | cons text rest => simp

/-! ## §2. What a turn can do. -/

/-- The text of a `set_text` that fails in this turn. -/
def failing (p : Polling) (ok : Bool) : Option String :=
  if ok || p.sync.drained then none else p.sync.remoteUpdates.head?

/-- **The cases of a turn**: it applies an update, fails to, reports, or does
nothing that shows. -/
theorem turn_cases (p : Polling) (ok : Bool) :
    (∃ text, (p.turn ok).1 = some (.applied text) ∧ p.failing ok = none
        ∧ (p.turn ok).2.sync.clipboard = text ∧ (p.turn ok).2.sync.lastSeen = text)
      ∨ (∃ text, (p.turn ok).1 = none ∧ p.failing ok = some text
        ∧ (p.turn ok).2.sync.clipboard = p.sync.clipboard ∧ (p.turn ok).2.sync.lastSeen = text)
      ∨ ((p.turn ok).1 = some (.reported p.sync.clipboard) ∧ p.failing ok = none
        ∧ p.sync.drained = true ∧ ok = true ∧ p.sync.clipboard ≠ p.sync.lastSeen
        ∧ (p.turn ok).2.sync.clipboard = p.sync.clipboard
        ∧ (p.turn ok).2.sync.lastSeen = p.sync.clipboard)
      ∨ ((p.turn ok).1 = none ∧ p.failing ok = none
        ∧ (p.sync.drained = true → ok = true → p.sync.clipboard = p.sync.lastSeen)
        ∧ (p.turn ok).2.sync.clipboard = p.sync.clipboard
        ∧ (p.turn ok).2.sync.lastSeen = p.sync.lastSeen) := by
  unfold turn failing tryRecv
  cases hdrained : p.sync.drained with
  | true =>
    cases ok with
    | true =>
      by_cases hseen : p.sync.clipboard = p.sync.lastSeen
      · simp [hseen]
      · simp [hseen]
    | false => simp
  | false =>
    cases hqueue : p.sync.remoteUpdates with
    | nil => simp
    | cons text rest => cases ok <;> simp

/-! ## §3. What is reported is new. -/

/-- What has happened since the last text was reported or applied. -/
structure Since where
  /-- The last text the user has copied, or the first text of the clipboard. -/
  copied : Option String
  /-- The text of the last `set_text` that has failed. -/
  failed : Option String
  deriving DecidableEq, Repr

/-- A report and an application end what came before. -/
def Since.step (p : Polling) (h : Since) : Event → Since
  | .copy text => { h with copied := some text }
  | .turn ok =>
    match (p.turn ok).1 with
    | some _ => ⟨none, none⟩
    | none => { h with failed := (p.failing ok).or h.failed }
  | _ => h

/-- What has happened in a run from `p`, where it was `h` before. -/
def since : Polling → Since → List Event → Since
  | _, h, [] => h
  | p, h, e :: es => since (p.step e) (h.step p e) es

/-- What is known of the clipboard and of what was last seen. -/
structure Known (p : Polling) (h : Since) : Prop where
  copied : ∀ text, h.copied = some text → p.sync.clipboard = text
  failed : ∀ text, h.failed = some text → p.sync.lastSeen = text
  /-- Where nothing has happened, the clipboard holds what was seen. -/
  quiet : h.copied = none → h.failed = none → p.sync.clipboard = p.sync.lastSeen

variable {p : Polling} {h : Since}

theorem known_start (text : String) : Known (start text) ⟨some text, none⟩ where
  copied _ heq := Option.some.inj heq
  failed _ heq := absurd heq nofun
  quiet heq := absurd heq nofun

/-- What leaves clipboard and last text as they are keeps it. -/
theorem Known.of_same {p' : Polling} (hk : Known p h) (hclip : p'.sync.clipboard = p.sync.clipboard)
    (hseen : p'.sync.lastSeen = p.sync.lastSeen) : Known p' h where
  copied text heq := hclip.trans (hk.copied text heq)
  failed text heq := hseen.trans (hk.failed text heq)
  quiet heq heq' := by rw [hclip, hseen, hk.quiet heq heq']

theorem Known.turn (hk : Known p h) (ok : Bool) :
    Known (p.turn ok).2 (h.step p (.turn ok)) := by
  unfold Since.step
  rcases p.turn_cases ok with ⟨text, hu, hf, hclip, hseen⟩ | ⟨text, hu, hf, hclip, hseen⟩
    | ⟨hu, hf, -, -, -, hclip, hseen⟩ | ⟨hu, hf, -, hclip, hseen⟩
  · simp only [hu]
    exact ⟨nofun, nofun, fun _ _ => by rw [hclip, hseen]⟩
  · simp only [hu, hf, Option.some_or]
    refine ⟨fun text' heq => hclip.trans (hk.copied text' heq), fun text' heq => ?_, nofun⟩
    rw [hseen]
    exact Option.some.inj heq
  · simp only [hu]
    exact ⟨nofun, nofun, fun _ _ => by rw [hclip, hseen]⟩
  · simp only [hu, hf, Option.none_or]
    exact hk.of_same hclip hseen

/-- **One event keeps it.** -/
theorem Known.step (hk : Known p h) (e : Event) : Known (p.step e) (h.step p e) := by
  cases e with
  | copy text => exact ⟨fun _ heq => Option.some.inj heq, hk.failed, nofun⟩
  | remote text =>
    show Known (if p.dropped then p else { p with sync := p.sync.applyRemoteUpdate text }) h
    split
    · exact hk
    · exact hk.of_same rfl rfl
  | turn ok => exact hk.turn ok
  | drop => exact hk.of_same rfl rfl

theorem known_run (hk : Known p h) (events : List Event) :
    Known (p.run events) (since p h events) := by
  induction events generalizing p h with
  | nil => exact hk
  | cons e es ih => exact ih (hk.step e)

/-- **Reports are new, exactly where no failure is forgotten.**  Every text that
is reported was copied by the user, or there at first, after the last text that
was reported or applied; provided that whenever `get_text` succeeds with nothing
copied since then, a `set_text` that has failed since then was one of the text
the clipboard holds. -/
theorem reports_are_new_iff (text : String) (events : List Event) :
    (∀ pre post ok text', events = pre ++ .turn ok :: post →
      (((start text).run pre).turn ok).1 = some (.reported text') →
      (since (start text) ⟨some text, none⟩ pre).copied = some text')
    ↔ ∀ pre post, events = pre ++ .turn true :: post → ((start text).run pre).sync.drained = true →
      (since (start text) ⟨some text, none⟩ pre).copied = none →
      ∀ text', (since (start text) ⟨some text, none⟩ pre).failed = some text' →
        ((start text).run pre).sync.clipboard = text' := by
  constructor
  · intro hnew pre post hevents hdrained hnone text' hfailed
    have hk := known_run (known_start text) pre
    by_contra hne
    -- otherwise the old text is reported
    have hreport : (((start text).run pre).turn true).1
        = some (.reported ((start text).run pre).sync.clipboard) := by
      rw [← hk.failed text' hfailed] at hne
      unfold turn
      simp [hdrained, hne]
    have hcopied := hnew pre post true _ hevents hreport
    rw [hnone] at hcopied
    exact absurd hcopied nofun
  · intro hcond pre post ok text' hevents hreport
    have hk := known_run (known_start text) pre
    rcases ((start text).run pre).turn_cases ok with ⟨t, hu, -⟩ | ⟨t, hu, -⟩
      | ⟨hu, -, hdrained, hok, hne, -⟩ | ⟨hu, -⟩
    · exact absurd (hu.symm.trans hreport) (by simp)
    · exact absurd (hu.symm.trans hreport) (by simp)
    · obtain rfl := Update.reported.inj (Option.some.inj (hu.symm.trans hreport))
      subst hok
      cases hcopied : (since (start text) ⟨some text, none⟩ pre).copied with
      | some t => rw [hk.copied t hcopied]
      | none =>
        cases hfailed : (since (start text) ⟨some text, none⟩ pre).failed with
        | some t =>
          have hclip := hcond pre post hevents hdrained hcopied t hfailed
          exact absurd (hclip.trans (hk.failed t hfailed).symm) hne
        | none => exact absurd (hk.quiet hcopied hfailed) hne
    · exact absurd (hu.symm.trans hreport) (by simp)

/-- A copied text is reported, and then an update of the other side fails. -/
def failedUpdate : List Event :=
  [.turn true, .turn true, .remote "theirs", .turn false, .turn true, .turn true]

/-- The text that has been reported is reported once more. -/
theorem old_text_reported : ¬ ∀ (text : String) (events pre post : List Event) (ok : Bool)
    (text' : String), events = pre ++ .turn ok :: post →
    (((start text).run pre).turn ok).1 = some (.reported text') →
    (since (start text) ⟨some text, none⟩ pre).copied = some text' := by
  intro h
  have hnew := h "mine" failedUpdate (failedUpdate.take 5) [] true "mine" rfl (by decide)
  exact absurd hnew (by decide)

/-! ## §4. The loop goes on. -/

/-- How many rounds are completed in a run from `p`: a round ends with `get_text`. -/
def rounds : Polling → List Event → Nat
  | _, [] => 0
  | p, .turn ok :: es => (if p.sync.drained then 1 else 0) + rounds (p.step (.turn ok)) es
  | p, e :: es => rounds (p.step e) es

/-- Once the round in progress is over, nothing is reported any more. -/
def Stops (p : Polling) : Prop :=
  ∀ pre ok text, 0 < rounds p pre → ((p.run pre).turn ok).1 ≠ some (.reported text)

theorem rounds_append (p : Polling) (es es' : List Event) :
    rounds p (es ++ es') = rounds p es + rounds (p.run es) es' := by
  induction es generalizing p with
  | nil => exact (Nat.zero_add _).symm
  | cons e es ih =>
    cases e with
    | turn ok =>
      show _ + rounds _ (es ++ es') = _ + rounds _ es + _
      rw [ih, Nat.add_assoc]
      rfl
    | copy | remote | drop => exact ih _

/-- The loop gets to `get_text`: it takes one update after the other. -/
theorem drains (p : Polling) : ∃ es, (p.run es).sync.drained = true := by
  cases hdrained : p.sync.drained with
  | true => exact ⟨[], hdrained⟩
  | false =>
    -- by induction on the queue
    induction hqueue : p.sync.remoteUpdates generalizing p with
    | nil =>
      refine ⟨[.turn true], ?_⟩
      show (p.turn true).2.sync.drained = true
      unfold turn tryRecv
      simp [hdrained, hqueue]
    | cons text rest ih =>
      have hnext : (p.turn true).2.sync.drained = false
          ∧ (p.turn true).2.sync.remoteUpdates = rest := by
        unfold turn tryRecv
        simp [hdrained, hqueue]
      obtain ⟨es, hes⟩ := ih (p.turn true).2 hnext.1 hnext.2
      exact ⟨.turn true :: es, hes⟩

/-- From the end of a round the loop gets to `get_text` again. -/
theorem completes (p : Polling) : ∃ es, 0 < rounds p es ∧ (p.run es).sync.drained = true := by
  obtain ⟨es, hes⟩ := p.drains
  obtain ⟨es', hes'⟩ := ((p.run es).step (.turn true)).drains
  refine ⟨es ++ .turn true :: es', ?_, ?_⟩
  · rw [rounds_append]
    show 0 < _ + ((if (p.run es).sync.drained = true then 1 else 0) + _)
    rw [if_pos hes]
    omega
  · rw [run_append]
    exact hes'

/-- No text is as long as itself and one more. -/
theorem push_ne (text : String) : text.push 'x' ≠ text := by
  intro heq
  have hlength := congrArg String.length heq
  rw [String.length_push] at hlength
  omega

/-- **Dropping the handle never stops the loop**: wherever it was dropped, a text
the user copies later is reported. -/
theorem polling_never_stops (text : String) (events : List Event) :
    ¬ Stops ((start text).run (events ++ [.drop])) := by
  generalize (start text).run (events ++ [.drop]) = p
  intro hstops
  obtain ⟨es, hrounds, hdrained⟩ := p.completes
  -- then the user copies what has not been seen
  have hrounds' : 0 < rounds p (es ++ [.copy ((p.run es).sync.lastSeen.push 'x')]) := by
    rw [rounds_append]
    omega
  apply hstops _ true _ hrounds'
  rw [run_append]
  show ((Polling.step (p.run es) (.copy _)).turn true).1 = _
  unfold turn Polling.step
  simp [hdrained, ClipboardSync.copy, push_ne]
  rfl

/-- The session is over, and what the user copies is reported. -/
theorem reported_after_drop : ¬ ∀ (text : String) (events pre : List Event) (ok : Bool)
    (text' : String), 0 < rounds ((start text).run (events ++ [.drop])) pre →
    ((((start text).run (events ++ [.drop])).run pre).turn ok).1 ≠ some (.reported text') := by
  intro h
  exact h "" [] [.turn true, .turn true, .copy "secret", .turn true] true "secret" (by decide)
    (by decide)

end Polling

end Visuara.Client
