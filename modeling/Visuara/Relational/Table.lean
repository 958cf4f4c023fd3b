/-
  Visuara.Relational.Table
  ────────────────────────
  **TABLES WITH A PRIMARY KEY.**

  A table is its rows, in order of insertion, together with the proof that no
  two rows share a key: a table that breaks its primary key cannot be built.
  Each operation comes with one membership law (`mem_insert?`, `mem_updateAt`,
  `mem_deleteWhere`, `mem_upsert`); `lookup` is characterised by membership,
  so its laws follow from those.
-/
import Mathlib.Data.List.Nodup
import Mathlib.Data.List.Count

namespace Relational

/-- Rows without two equal keys. -/
structure Table {κ ρ : Type} (key : ρ → κ) where
  rows : List ρ
  nodup : (rows.map key).Nodup

namespace Table

variable {κ ρ : Type} {key : ρ → κ}

/-- The table without rows. -/
def empty : Table key := ⟨[], List.nodup_nil⟩

instance : Membership ρ (Table key) := ⟨fun t r => r ∈ t.rows⟩

theorem mem_rows (t : Table key) (r : ρ) : r ∈ t.rows ↔ r ∈ t := Iff.rfl

/-- Tables with the same rows are equal. -/
theorem ext {t u : Table key} (h : t.rows = u.rows) : t = u := by
  cases t
  cases u
  cases h
  rfl

@[simp] theorem not_mem_empty (r : ρ) : r ∉ (empty : Table key) := List.not_mem_nil

/-- Two rows with one key are one row. -/
theorem eq_of_key {t : Table key} {r s : ρ} (hr : r ∈ t) (hs : s ∈ t) (h : key r = key s) :
    r = s :=
  List.inj_on_of_nodup_map t.nodup hr hs h

/-- The number of rows that satisfy `p`. -/
def countWhere (t : Table key) (p : ρ → Bool) : Nat := t.rows.countP p

theorem countWhere_pos {t : Table key} {p : ρ → Bool} :
    0 < t.countWhere p ↔ ∃ r ∈ t, p r = true :=
  List.countP_pos_iff

/-- Two rows that satisfy `p` leave one for anyone who takes a row away. -/
theorem exists_other {t : Table key} {p : ρ → Bool} (h : 1 < t.countWhere p)
    (k : κ) : ∃ r ∈ t, p r = true ∧ key r ≠ k := by
  by_contra hno
  have hall : ∀ r ∈ t.rows.filter p, key r = k := by
    intro r hr
    obtain ⟨hm, hp⟩ := List.mem_filter.mp hr
    by_contra hne
    exact hno ⟨r, hm, hp, hne⟩
  have hlen : 1 < (t.rows.filter p).length := by
    rw [← List.countP_eq_length_filter]
    exact h
  have hnd : ((t.rows.filter p).map key).Nodup :=
    List.Nodup.sublist (List.Sublist.map key List.filter_sublist) t.nodup
  match hf : t.rows.filter p, hlen, hnd, hall with
  | a :: b :: _, _, hnd, hall =>
    have hab : key a = key b := by
      rw [hall a List.mem_cons_self, hall b (List.mem_cons_of_mem _ List.mem_cons_self)]
    simp only [List.map_cons, List.nodup_cons, List.mem_cons, not_or] at hnd
    exact hnd.1.1 hab

/-- Rows with different keys count twice. -/
theorem one_lt_countWhere {t : Table key} {p : ρ → Bool} {r s : ρ} (hr : r ∈ t) (hs : s ∈ t)
    (hpr : p r = true) (hps : p s = true) (hne : key r ≠ key s) : 1 < t.countWhere p := by
  by_contra hle
  have hmr : r ∈ t.rows.filter p := List.mem_filter.mpr ⟨hr, hpr⟩
  have hms : s ∈ t.rows.filter p := List.mem_filter.mpr ⟨hs, hps⟩
  rw [countWhere, List.countP_eq_length_filter] at hle
  match hf : t.rows.filter p, hle, hmr, hms with
  | [a], _, hmr, hms =>
    rw [List.mem_singleton] at hmr hms
    exact hne (by rw [hmr, hms])
  | _ :: _ :: l, hle, _, _ => exact hle (by simp)

section Keyed

variable [DecidableEq κ]

/-! ## §1. Lookup. -/

/-- The row with key `k`. -/
def lookup (t : Table key) (k : κ) : Option ρ := t.rows.find? fun r => key r = k

theorem lookup_eq_some_iff {t : Table key} {k : κ} {r : ρ} :
    t.lookup k = some r ↔ r ∈ t ∧ key r = k := by
  constructor
  · intro h
    exact ⟨List.mem_of_find?_eq_some h, by simpa using List.find?_some h⟩
  · rintro ⟨hr, rfl⟩
    cases hf : t.lookup (key r) with
    | none =>
      have := List.find?_eq_none.mp hf r hr
      simp at this
    | some s =>
      have hs : s ∈ t := List.mem_of_find?_eq_some hf
      have hk : key s = key r := by simpa using List.find?_some hf
      rw [eq_of_key hs hr hk]

theorem lookup_eq_none_iff {t : Table key} {k : κ} :
    t.lookup k = none ↔ ∀ r ∈ t, key r ≠ k := by
  simp [lookup, List.find?_eq_none, mem_rows]

/-- Lookups agree where membership does. -/
theorem lookup_congr {t u : Table key} {k : κ} (h : ∀ r, key r = k → (r ∈ t ↔ r ∈ u)) :
    t.lookup k = u.lookup k := by
  cases hu : u.lookup k with
  | none =>
    rw [lookup_eq_none_iff] at hu ⊢
    exact fun r hr hk => hu r ((h r hk).mp hr) hk
  | some r =>
    rw [lookup_eq_some_iff] at hu ⊢
    exact ⟨(h r hu.2).mpr hu.1, hu.2⟩

/-! ## §2. Insertion. -/

/-- Append a row; refused when its key is taken. -/
def insert? (t : Table key) (r : ρ) : Option (Table key) :=
  if h : key r ∈ t.rows.map key then none
  else some ⟨t.rows ++ [r], by
    rw [List.map_append, List.map_singleton, List.nodup_append]
    exact ⟨t.nodup, List.nodup_singleton _, fun a ha b hb hab => h (by simp_all)⟩⟩

theorem insert?_eq_none_iff {t : Table key} {r : ρ} :
    t.insert? r = none ↔ ∃ s ∈ t, key s = key r := by
  unfold insert?
  split
  next h => simpa [mem_rows] using h
  next h => simpa [mem_rows] using h

theorem insert?_rows {t u : Table key} {r : ρ} (h : t.insert? r = some u) :
    u.rows = t.rows ++ [r] := by
  unfold insert? at h
  split at h
  next => exact absurd h (by simp)
  next => injection h with h; rw [← h]

theorem mem_insert? {t u : Table key} {r : ρ} (h : t.insert? r = some u) (s : ρ) :
    s ∈ u ↔ s ∈ t ∨ s = r := by
  rw [← mem_rows, insert?_rows h, List.mem_append, List.mem_singleton, mem_rows]

theorem insert?_fresh {t u : Table key} {r : ρ} (h : t.insert? r = some u) :
    ∀ s ∈ t, key s ≠ key r := by
  intro s hs hk
  have : t.insert? r = none := insert?_eq_none_iff.mpr ⟨s, hs, hk⟩
  rw [this] at h
  exact absurd h (by simp)

/-! ## §3. Update and deletion. -/

/-- Change the row with key `k`, not its key. -/
def updateAt (t : Table key) (k : κ) (f : ρ → ρ) (hf : ∀ r, key (f r) = key r) : Table key :=
  ⟨t.rows.map fun r => if key r = k then f r else r, by
    have : (t.rows.map fun r => if key r = k then f r else r).map key = t.rows.map key := by
      rw [List.map_map]
      refine List.map_congr_left fun r _ => ?_
      show key (if key r = k then f r else r) = key r
      split
      · exact hf r
      · rfl
    rw [this]
    exact t.nodup⟩

theorem mem_updateAt {t : Table key} {k : κ} {f : ρ → ρ} {hf : ∀ r, key (f r) = key r} (s : ρ) :
    s ∈ t.updateAt k f hf ↔ (s ∈ t ∧ key s ≠ k) ∨ ∃ r ∈ t, key r = k ∧ s = f r := by
  constructor
  · intro h
    obtain ⟨r, hr, rfl⟩ := List.mem_map.mp h
    by_cases hk : key r = k
    · right
      exact ⟨r, hr, hk, by simp [hk]⟩
    · left
      rw [if_neg hk]
      exact ⟨hr, hk⟩
  · rintro (⟨hs, hk⟩ | ⟨r, hr, hk, rfl⟩)
    · exact List.mem_map.mpr ⟨s, hs, by simp [hk]⟩
    · exact List.mem_map.mpr ⟨r, hr, by simp [hk]⟩

/-- A change that changes no row with that key changes nothing. -/
theorem updateAt_eq_self {t : Table key} {k : κ} {f : ρ → ρ} {hf : ∀ r, key (f r) = key r}
    (h : ∀ r ∈ t, key r = k → f r = r) : t.updateAt k f hf = t := by
  apply ext
  refine (List.map_congr_left fun r hr => ?_).trans (List.map_id _)
  by_cases hk : key r = k
  · rw [if_pos hk, h r hr hk]
    rfl
  · rw [if_neg hk]
    rfl

end Keyed

/-- Delete the rows that satisfy `p`. -/
def deleteWhere (t : Table key) (p : ρ → Bool) : Table key :=
  ⟨t.rows.filter fun r => !p r, List.Nodup.sublist (List.Sublist.map key List.filter_sublist) t.nodup⟩

theorem mem_deleteWhere {t : Table key} {p : ρ → Bool} (s : ρ) :
    s ∈ t.deleteWhere p ↔ s ∈ t ∧ p s = false := by
  rw [← mem_rows, ← mem_rows]
  simp [deleteWhere]

/-- Insert the row, or replace the one that has its key. -/
def upsert [DecidableEq κ] (t : Table key) (r : ρ) : Table key :=
  match h : t.insert? r with
  | some u => u
  | none => ⟨t.rows.map fun s => if key s = key r then r else s, by
      have : (t.rows.map fun s => if key s = key r then r else s).map key = t.rows.map key := by
        rw [List.map_map]
        refine List.map_congr_left fun s _ => ?_
        show key (if key s = key r then r else s) = key s
        split
        next hk => exact hk.symm
        next => rfl
      rw [this]
      exact t.nodup⟩

theorem mem_upsert [DecidableEq κ] {t : Table key} {r : ρ} (s : ρ) :
    s ∈ t.upsert r ↔ (s ∈ t ∧ key s ≠ key r) ∨ s = r := by
  unfold upsert
  split
  next u h =>
    rw [mem_insert? h]
    constructor
    · rintro (hs | rfl)
      · exact .inl ⟨hs, insert?_fresh h s hs⟩
      · exact .inr rfl
    · rintro (⟨hs, _⟩ | rfl)
      · exact .inl hs
      · exact .inr rfl
  next h =>
    obtain ⟨s₀, hs₀, hk₀⟩ := insert?_eq_none_iff.mp h
    constructor
    · intro hm
      obtain ⟨x, hx, rfl⟩ := List.mem_map.mp hm
      by_cases hk : key x = key r
      · right
        simp [hk]
      · left
        rw [if_neg hk]
        exact ⟨hx, hk⟩
    · rintro (⟨hs, hk⟩ | rfl)
      · exact List.mem_map.mpr ⟨s, hs, by simp [hk]⟩
      · exact List.mem_map.mpr ⟨s₀, hs₀, by simp [hk₀]⟩

/-- What is found after an upsert. -/
theorem lookup_upsert [DecidableEq κ] {t : Table key} {r : ρ} {k : κ} :
    (t.upsert r).lookup k = if key r = k then some r else t.lookup k := by
  by_cases hk : key r = k
  · rw [if_pos hk]
    exact lookup_eq_some_iff.mpr ⟨(mem_upsert r).mpr (.inr rfl), hk⟩
  · rw [if_neg hk]
    apply lookup_congr
    intro s hs
    rw [mem_upsert]
    constructor
    · rintro (⟨hm, -⟩ | rfl)
      · exact hm
      · exact absurd hs hk
    · exact fun hm => .inl ⟨hm, fun heq => hk (heq.symm.trans hs)⟩

end Table

end Relational
