/-
  Visuara.Json.Brackets
  ─────────────────────
  **WHERE A JSON TEXT ENDS.**

  Of the grammar only the brackets and the strings are kept: `Balanced` says
  that outside strings every bracket has its match.  Every JSON text is
  balanced, and an object is so only as a whole:

    • `scan`                 — reads a text byte by byte, counting brackets;
    • `scan_balanced`        — a balanced text leaves the count as it was;
    • `not_balanced_of_prefix` — a part of an object is not balanced.
-/
import Mathlib.Data.List.Basic

namespace Json

abbrev Text := List UInt8

/-! ## §1. Brackets and strings. -/

def quote : UInt8 := 0x22

def backslash : UInt8 := 0x5C

def isOpen (b : UInt8) : Bool := b == 0x7B || b == 0x5B

def isClose (b : UInt8) : Bool := b == 0x7D || b == 0x5D

/-- What stands between brackets and strings: numbers, literal names, commas,
colons, white space. -/
def isPlain (b : UInt8) : Bool := b != 0 && b != quote && !isOpen b && !isClose b

/-- The rest of a string, behind its opening quote. -/
inductive StringRest : Text → Prop where
  | close : StringRest [quote]
  | char {b : UInt8} {t : Text} (hb : b ≠ 0 ∧ b ≠ quote ∧ b ≠ backslash) (ht : StringRest t) :
      StringRest (b :: t)
  | escape {b : UInt8} {t : Text} (hb : b ≠ 0) (ht : StringRest t) :
      StringRest (backslash :: b :: t)

/-- Outside strings every bracket has its match. -/
inductive Balanced : Text → Prop where
  | nil : Balanced []
  | plain {b : UInt8} {t : Text} (hb : isPlain b = true) (ht : Balanced t) : Balanced (b :: t)
  | string {s t : Text} (hs : StringRest s) (ht : Balanced t) : Balanced (quote :: (s ++ t))
  | nested {o c : UInt8} {s t : Text} (ho : isOpen o = true) (hc : isClose c = true)
      (hs : Balanced s) (ht : Balanced t) : Balanced (o :: (s ++ c :: t))

/-- A text that is one object. -/
def IsObject (t : Text) : Prop := ∃ s, Balanced s ∧ t = 0x7B :: (s ++ [0x7D])

/-- A string without escapes. -/
theorem Balanced.quoted {l t : Text} (hl : ∀ b ∈ l, b ≠ 0 ∧ b ≠ quote ∧ b ≠ backslash)
    (ht : Balanced t) : Balanced (quote :: ((l ++ [quote]) ++ t)) := by
  have hrest : StringRest (l ++ [quote]) := by
    induction l with
    | nil => exact .close
    | cons b l ih =>
      exact .char (hl b List.mem_cons_self) (ih fun b' hb' => hl b' (List.mem_cons_of_mem _ hb'))
  exact .string hrest ht

/-! ## §2. Reading byte by byte. -/

inductive Mode where
  | outside
  | inString
  | escaped
  deriving DecidableEq, Repr

structure ScanState where
  depth : Nat
  mode : Mode
  deriving DecidableEq, Repr

def ScanState.step (s : ScanState) (b : UInt8) : ScanState :=
  match s.mode with
  | .outside =>
    if b = quote then { s with mode := .inString }
    else if isOpen b then { s with depth := s.depth + 1 }
    else if isClose b then { s with depth := s.depth - 1 }
    else s
  | .inString =>
    if b = quote then { s with mode := .outside }
    else if b = backslash then { s with mode := .escaped }
    else s
  | .escaped => { s with mode := .inString }

def scan (s : ScanState) (t : Text) : ScanState := t.foldl ScanState.step s

theorem scan_append (s : ScanState) (t u : Text) : scan s (t ++ u) = scan (scan s t) u :=
  List.foldl_append

theorem step_plain {b : UInt8} (hb : isPlain b = true) (d : Nat) :
    ScanState.step ⟨d, .outside⟩ b = ⟨d, .outside⟩ := by
  unfold isPlain at hb
  simp only [Bool.and_eq_true, bne_iff_ne, Bool.not_eq_true'] at hb
  simp [ScanState.step, hb]

theorem step_open {o : UInt8} (ho : isOpen o = true) (d : Nat) :
    ScanState.step ⟨d, .outside⟩ o = ⟨d + 1, .outside⟩ := by
  have hq : o ≠ quote := by
    intro h
    rw [h] at ho
    exact absurd ho (by decide)
  simp [ScanState.step, hq, ho]

theorem step_close {c : UInt8} (hc : isClose c = true) (d : Nat) :
    ScanState.step ⟨d + 1, .outside⟩ c = ⟨d, .outside⟩ := by
  have hq : c ≠ quote := by
    intro h
    rw [h] at hc
    exact absurd hc (by decide)
  have ho : isOpen c = false := by
    unfold isClose at hc
    rw [Bool.or_eq_true, beq_iff_eq, beq_iff_eq] at hc
    obtain rfl | rfl := hc <;> decide
  simp [ScanState.step, hq, ho, hc]

/-- A string is read to its end. -/
theorem scan_string {s : Text} (hs : StringRest s) (d : Nat) :
    scan ⟨d, .inString⟩ s = ⟨d, .outside⟩ := by
  induction hs with
  | close => rfl
  | @char b t hb _ ih =>
    have hstep : ScanState.step ⟨d, .inString⟩ b = ⟨d, .inString⟩ := by
      simp [ScanState.step, hb.2.1, hb.2.2]
    rw [scan, List.foldl_cons, hstep]
    exact ih
  | escape _ _ ih => exact ih

/-- In a string no bracket is counted. -/
theorem depth_string {s : Text} (hs : StringRest s) (d n : Nat) :
    (scan ⟨d, .inString⟩ (s.take n)).depth = d := by
  induction hs generalizing n with
  | close =>
    cases n with
    | zero => rfl
    | succ n =>
      rw [List.take_succ_cons, List.take_nil]
      rfl
  | @char b t hb _ ih =>
    cases n with
    | zero => rfl
    | succ n =>
      have hstep : ScanState.step ⟨d, .inString⟩ b = ⟨d, .inString⟩ := by
        simp [ScanState.step, hb.2.1, hb.2.2]
      rw [List.take_succ_cons, scan, List.foldl_cons, hstep]
      exact ih n
  | escape _ _ ih =>
    match n with
    | 0 => rfl
    | 1 => rfl
    | n + 2 => exact ih n

theorem scan_balanced {t : Text} (ht : Balanced t) (d : Nat) :
    scan ⟨d, .outside⟩ t = ⟨d, .outside⟩ := by
  induction ht generalizing d with
  | nil => rfl
  | plain hb _ ih =>
    rw [scan, List.foldl_cons, step_plain hb]
    exact ih d
  | @string s t hs _ ih =>
    have hquote : scan ⟨d, .outside⟩ (quote :: (s ++ t)) = scan ⟨d, .inString⟩ (s ++ t) := rfl
    rw [hquote, scan_append, scan_string hs]
    exact ih d
  | @nested o c s t ho hc _ _ ihs iht =>
    rw [scan, List.foldl_cons, step_open ho]
    show scan ⟨d + 1, .outside⟩ (s ++ c :: t) = ⟨d, .outside⟩
    rw [scan_append, ihs, scan, List.foldl_cons, step_close hc]
    exact iht d

/-- The count never falls below where it was. -/
theorem depth_balanced {t : Text} (ht : Balanced t) (d n : Nat) :
    d ≤ (scan ⟨d, .outside⟩ (t.take n)).depth := by
  induction ht generalizing d n with
  | nil =>
    rw [List.take_nil]
    exact Nat.le_refl d
  | plain hb _ ih =>
    cases n with
    | zero => exact Nat.le_refl d
    | succ n =>
      rw [List.take_succ_cons, scan, List.foldl_cons, step_plain hb]
      exact ih d n
  | @string s t hs _ ih =>
    cases n with
    | zero => exact Nat.le_refl d
    | succ n =>
      rw [List.take_succ_cons, List.take_append]
      show d ≤ (scan ⟨d, .inString⟩ (s.take n ++ t.take (n - s.length))).depth
      rw [scan_append]
      by_cases hn : n ≤ s.length
      · rw [Nat.sub_eq_zero_of_le hn, List.take_zero]
        exact Nat.le_of_eq (depth_string hs d n).symm
      · rw [List.take_of_length_le (by omega), scan_string hs]
        exact ih d _
  | @nested o c s t ho hc _ _ ihs iht =>
    cases n with
    | zero => exact Nat.le_refl d
    | succ n =>
      rw [List.take_succ_cons, List.take_append, scan, List.foldl_cons, step_open ho]
      show d ≤ (scan ⟨d + 1, .outside⟩ (s.take n ++ (c :: t).take (n - s.length))).depth
      rw [scan_append]
      by_cases hn : n ≤ s.length
      · rw [Nat.sub_eq_zero_of_le hn, List.take_zero]
        exact Nat.le_trans (Nat.le_succ d) (ihs (d + 1) n)
      · obtain ⟨m, hm⟩ : ∃ m, n - s.length = m + 1 := ⟨n - s.length - 1, by omega⟩
        rw [List.take_of_length_le (by omega), scan_balanced ‹Balanced s›, hm, List.take_succ_cons,
          scan, List.foldl_cons, step_close hc]
        exact iht d m

/-! ## §3. Parts of an object. -/

theorem IsObject.balanced {t : Text} (ht : IsObject t) : Balanced t := by
  obtain ⟨s, hs, rfl⟩ := ht
  exact .nested (by decide) (by decide) hs .nil

/-- **A part of an object is not balanced**, but for the empty one: behind the first
bracket the count stays above zero until the last. -/
theorem not_balanced_of_prefix {t : Text} (ht : IsObject t) {n : Nat} (hpos : 0 < n)
    (hn : n < t.length) : ¬ Balanced (t.take n) := by
  obtain ⟨s, hs, rfl⟩ := ht
  obtain ⟨m, rfl⟩ : ∃ m, n = m + 1 := ⟨n - 1, by omega⟩
  rw [List.length_cons, List.length_append, List.length_singleton] at hn
  intro hbalanced
  have hend := scan_balanced hbalanced 0
  rw [List.take_succ_cons, List.take_append_of_le_length (by omega), scan, List.foldl_cons,
    step_open (by decide)] at hend
  have hdepth := depth_balanced hs 1 m
  rw [show scan ⟨1, .outside⟩ (s.take m) = ⟨0, .outside⟩ from hend] at hdepth
  exact absurd hdepth (by decide)

theorem zero_not_mem_stringRest {s : Text} (hs : StringRest s) : 0 ∉ s := by
  induction hs with
  | close => decide
  | char hb _ ih =>
    intro h
    obtain h | h := List.mem_cons.mp h
    · exact hb.1 h.symm
    · exact ih h
  | escape hb _ ih =>
    intro h
    obtain h | h := List.mem_cons.mp h
    · exact absurd h (by decide)
    · obtain h | h := List.mem_cons.mp h
      · exact hb h.symm
      · exact ih h

/-- There is no zero byte in a balanced text. -/
theorem zero_not_mem {t : Text} (ht : Balanced t) : 0 ∉ t := by
  induction ht with
  | nil => exact List.not_mem_nil
  | plain hb _ ih =>
    intro h
    obtain rfl | h := List.mem_cons.mp h
    · exact absurd hb (by decide)
    · exact ih h
  | string hs _ ih =>
    intro h
    obtain h | h := List.mem_cons.mp h
    · exact absurd h (by decide)
    · obtain h | h := List.mem_append.mp h
      · exact zero_not_mem_stringRest hs h
      · exact ih h
  | nested ho hc _ _ ihs iht =>
    intro h
    obtain rfl | h := List.mem_cons.mp h
    · exact absurd ho (by decide)
    · obtain h | h := List.mem_append.mp h
      · exact ihs h
      · obtain rfl | h := List.mem_cons.mp h
        · exact absurd hc (by decide)
        · exact iht h

end Json
