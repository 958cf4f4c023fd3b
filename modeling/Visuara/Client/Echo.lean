/-
  Visuara.Client.Echo
  ───────────────────
  **A CLIPBOARD UPDATE IS NOT SENT BACK.**

  A side reports what differs from what it has last seen, and what it applies
  it has seen.  So only a copy of the user, or what was there at the start,
  can be reported, and each of them once (`Accounted`).
-/
import Visuara.Client.ClipboardSync

namespace Visuara.Client.Link

open ClipboardSync

/-! ## §1. Who writes a clipboard. -/

/-- What has put a text on a clipboard. -/
inductive Write where
  /-- The user has copied it. -/
  | copied (text : String)
  /-- It has come from the other side. -/
  | applied (text : String)
  deriving DecidableEq, Repr

/-- What a turn writes. -/
def written : Option Update → Option Write
  | some (.applied text) => some (.applied text)
  | _ => none

/-- What an event writes on the clipboard of a side. -/
def write? (side : Side) (l : Link) : Event → Option Write
  | .copy other text => if other = side then some (.copied text) else none
  | .turn other => if other = side then written (l.sync side).turn.1 else none
  | .deliver _ => none

/-- What has been written there last, in a run from `l` where it was `w` before. -/
def lastWrite (side : Side) : Link → Option Write → List Event → Option Write
  | _, w, [] => w
  | l, w, e :: es => lastWrite side (l.step e) ((l.write? side e).or w) es

/-- How often the user of a side has copied something. -/
def copies (side : Side) (events : List Event) : Nat :=
  events.countP fun e =>
    match e with
    | .copy other _ => other = side
    | _ => false

/-! ## §2. What is known of one side. -/

/-- The side has `k` copies to report, and its clipboard, which held `text`
first, holds what was written there last. -/
structure Accounted (side : Side) (text : String) (k : Nat) (w : Option Write) (l : Link) :
    Prop where
  count : (reports (l.trace side)).length
    + (if (l.sync side).clipboard = (l.sync side).lastSeen then 0 else 1) ≤ k + 1
  first : w = none → (l.sync side).clipboard = text
  copied : ∀ text', w = some (.copied text') → (l.sync side).clipboard = text'
  applied : ∀ text', w = some (.applied text') →
    (l.sync side).clipboard = (l.sync side).lastSeen

theorem accounted_start (host controller : String) (side : Side) :
    Accounted side ((start host controller).sync side).clipboard 0 none
      (start host controller) where
  count := by
    show 0 + _ ≤ 0 + 1
    split <;> omega
  first _ := rfl
  copied _ h := absurd h nofun
  applied _ h := absurd h nofun

variable {side : Side} {text : String} {k : Nat} {w : Option Write} {l : Link}

/-- What only touches queues and the other side changes nothing. -/
theorem Accounted.of_same {l' : Link} (h : Accounted side text k w l)
    (htrace : l'.trace side = l.trace side)
    (hclip : (l'.sync side).clipboard = (l.sync side).clipboard)
    (hseen : (l'.sync side).lastSeen = (l.sync side).lastSeen) : Accounted side text k w l' where
  count := by
    rw [htrace, hclip, hseen]
    exact h.count
  first hw := hclip.trans (h.first hw)
  copied text' hw := hclip.trans (h.copied text' hw)
  applied text' hw := by
    rw [hclip, hseen]
    exact h.applied text' hw

/-- A copy is one more that may be reported. -/
theorem Accounted.copy (h : Accounted side text k w l) (text' : String) :
    Accounted side text (k + 1) (some (.copied text')) (l.step (.copy side text')) := by
  have hsync : (l.step (.copy side text')).sync side = (l.sync side).copy text' :=
    Function.update_self _ _ _
  have hcount : (reports (l.trace side)).length ≤ k + 1 := by
    have hc := h.count
    omega
  refine ⟨?_, fun hw => absurd hw nofun, fun text'' hw => ?_, fun text'' hw => absurd hw (by simp)⟩
  · show (reports (l.trace side)).length + _ ≤ k + 1 + 1
    split <;> omega
  · rw [hsync]
    exact Write.copied.inj (Option.some.inj hw)

/-- What a turn does to the clipboard and to what has been seen. -/
theorem turn_effect (c : ClipboardSync) :
    (c.turn.1 = none ∧ c.turn.2.clipboard = c.clipboard ∧ c.turn.2.lastSeen = c.lastSeen)
      ∨ (∃ text, c.turn.1 = some (.applied text) ∧ c.turn.2.clipboard = text
        ∧ c.turn.2.lastSeen = text)
      ∨ (∃ text, c.turn.1 = some (.reported text) ∧ c.clipboard = text ∧ c.lastSeen ≠ text
        ∧ c.turn.2.clipboard = text ∧ c.turn.2.lastSeen = text) := by
  unfold ClipboardSync.turn
  split
  next =>
    split
    next hne => exact .inr (.inr ⟨_, rfl, rfl, Ne.symm hne, rfl, rfl⟩)
    next => exact .inl ⟨rfl, rfl, rfl⟩
  next =>
    split
    next text rest heq => exact .inr (.inl ⟨text, rfl, rfl, rfl⟩)
    next heq => exact .inl ⟨rfl, rfl, rfl⟩

/-- **A turn reports what has not been seen, and sees what it applies.** -/
theorem Accounted.turn (h : Accounted side text k w l) :
    Accounted side text k ((l.write? side (.turn side)).or w) (l.step (.turn side)) := by
  have hsync : (l.step (.turn side)).sync side = (l.sync side).turn.2 := Function.update_self _ _ _
  have htrace : (l.step (.turn side)).trace side = (l.sync side).turn.1.toList ++ l.trace side :=
    Function.update_self _ _ _
  have hwrite : l.write? side (.turn side) = written (l.sync side).turn.1 := if_pos rfl
  have hcount := h.count
  rw [hwrite]
  rcases turn_effect (l.sync side) with ⟨hu, hclip, hseen⟩ | ⟨text', hu, hclip, hseen⟩
    | ⟨text', hu, hold, hne, hclip, hseen⟩
  · rw [hu] at htrace ⊢
    exact h.of_same htrace (by rw [hsync, hclip]) (by rw [hsync, hseen])
  · rw [hu] at htrace ⊢
    refine ⟨?_, fun hw => absurd hw nofun, fun text'' hw => absurd (Option.some.inj hw) nofun,
      fun text'' _ => ?_⟩
    · rw [htrace, hsync, hclip, hseen, if_pos rfl]
      show (reports (l.trace side)).length + 0 ≤ k + 1
      omega
    · rw [hsync, hclip, hseen]
  · rw [hu] at htrace ⊢
    refine ⟨?_, fun hw => ?_, fun text'' hw => ?_, fun text'' hw => ?_⟩
    · rw [hold, if_neg (Ne.symm hne)] at hcount
      rw [htrace, hsync, hclip, hseen, if_pos rfl]
      exact hcount
    · rw [hsync, hclip, ← hold]
      exact h.first hw
    · rw [hsync, hclip, ← hold]
      exact h.copied text'' hw
    · rw [hsync, hclip, hseen]

/-- Nothing else writes there. -/
theorem Accounted.other (h : Accounted side text k w l) {e : Event}
    (he : ∀ text', e ≠ .copy side text') (he' : e ≠ .turn side) :
    (l.write? side e).or w = w ∧ Accounted side text k w (l.step e) := by
  cases e with
  | copy other text' =>
    have hne : side ≠ other := by
      rintro rfl
      exact he text' rfl
    have hsync : (l.step (.copy other text')).sync side = l.sync side :=
      Function.update_of_ne hne _ _
    have hwrite : l.write? side (.copy other text') = none := if_neg hne.symm
    exact ⟨by rw [hwrite, Option.none_or], h.of_same rfl (by rw [hsync]) (by rw [hsync])⟩
  | turn other =>
    have hne : side ≠ other := by
      rintro rfl
      exact he' rfl
    have hsync : (l.step (.turn other)).sync side = l.sync side := Function.update_of_ne hne _ _
    have htrace : (l.step (.turn other)).trace side = l.trace side := Function.update_of_ne hne _ _
    have hwrite : l.write? side (.turn other) = none := if_neg hne.symm
    exact ⟨by rw [hwrite, Option.none_or], h.of_same htrace (by rw [hsync]) (by rw [hsync])⟩
  | deliver other =>
    refine ⟨rfl, ?_⟩
    cases hw : l.wire other with
    | nil =>
      have hstep : l.step (.deliver other) = l := by simp [Link.step, hw]
      rwa [hstep]
    | cons text' rest =>
      have hstep : l.step (.deliver other) = { l with
          sync := Function.update l.sync other ((l.sync other).applyRemoteUpdate text')
          wire := Function.update l.wire other rest } := by simp [Link.step, hw]
      rw [hstep]
      by_cases hs : side = other
      · subst hs
        exact h.of_same rfl (by simp [applyRemoteUpdate]) (by simp [applyRemoteUpdate])
      · exact h.of_same rfl (by simp [Function.update_of_ne hs]) (by simp [Function.update_of_ne hs])

/-- **One event keeps the account.** -/
theorem Accounted.step (h : Accounted side text k w l) (e : Event) :
    Accounted side text (k + copies side [e]) ((l.write? side e).or w) (l.step e) := by
  by_cases hcopy : ∃ text', e = .copy side text'
  · obtain ⟨text', rfl⟩ := hcopy
    have hwrite : l.write? side (.copy side text') = some (.copied text') := if_pos rfl
    have hone : copies side [.copy side text'] = 1 := by simp [copies]
    rw [hwrite, hone]
    exact h.copy text'
  · have hnone : copies side [e] = 0 := by
      cases e with
      | copy other text' =>
        have hne : ¬ other = side := by
          rintro rfl
          exact hcopy ⟨text', rfl⟩
        simp [copies, hne]
      | turn | deliver => rfl
    rw [hnone]
    by_cases hturn : e = .turn side
    · subst hturn
      exact h.turn
    · obtain ⟨hw, hkept⟩ := h.other (fun text' heq => hcopy ⟨text', heq⟩) hturn
      rwa [hw]

theorem copies_cons (side : Side) (e : Event) (es : List Event) :
    copies side (e :: es) = copies side [e] + copies side es := by
  show ([e] ++ es).countP _ = _
  rw [List.countP_append]
  rfl

theorem accounted_run (h : Accounted side text k w l) (events : List Event) :
    Accounted side text (k + copies side events) (lastWrite side l w events) (l.run events) := by
  induction events generalizing k w l with
  | nil => exact h
  | cons e es ih =>
    rw [copies_cons, ← Nat.add_assoc]
    exact ih (h.step e)

/-! ## §3. No ping-pong. -/

/-- What a turn reports is on the clipboard, and has not been seen. -/
theorem turn_reported {c : ClipboardSync} (h : c.turn.1 = some (.reported text)) :
    c.clipboard = text ∧ c.clipboard ≠ c.lastSeen := by
  rcases turn_effect c with ⟨hu, -⟩ | ⟨text', hu, -⟩ | ⟨text', hu, hclip, hne, -⟩
  · exact absurd (hu.symm.trans h) nofun
  · exact absurd (Option.some.inj (hu.symm.trans h)) nofun
  · obtain rfl := Update.reported.inj (Option.some.inj (hu.symm.trans h))
    exact ⟨hclip, by rw [hclip]; exact Ne.symm hne⟩

/-- **Clipboard sync never ping-pongs.**  In every interleaving, a side reports at
most one text more than its user has copied, and what it reports was put on
its clipboard by a copy of its user, or was there from the start. -/
theorem no_ping_pong (host controller : String) (events : List Event) (side : Side) :
    (reports (((start host controller).run events).trace side)).length ≤ copies side events + 1
    ∧ ∀ pre post text, events = pre ++ .turn side :: post →
      (((start host controller).run pre).sync side).turn.1 = some (.reported text) →
      lastWrite side (start host controller) none pre = some (.copied text)
        ∨ lastWrite side (start host controller) none pre = none
          ∧ text = ((start host controller).sync side).clipboard := by
  have hstart := accounted_start host controller side
  constructor
  · have hcount := (accounted_run hstart events).count
    omega
  · intro pre post text _ hreport
    have h := accounted_run hstart pre
    obtain ⟨hclip, hne⟩ := turn_reported hreport
    cases hw : lastWrite side (start host controller) none pre with
    | none => exact .inr ⟨rfl, hclip.symm.trans (h.first hw)⟩
    | some write =>
      cases write with
      | copied text' =>
        rw [← hclip, h.copied text' hw]
        exact .inl rfl
      | applied text' => exact absurd (h.applied text' hw) hne

end Visuara.Client.Link
