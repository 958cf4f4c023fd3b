/-
  Visuara.Codec.Format
  ────────────────────
  **BINARY FORMATS THAT ARE READ BACK.**

  A `Format` writes values in front of what follows them, and reads them from
  there.  It carries both laws as fields, so that a format that is put together
  from others has them by construction:

    • `pair`, `iso`, `choice`, `list` — products, records, tagged sums, sequences;
    • `embed`, `enumeration` — some of the values of another format;
    • `read_iff`    — what is read is what was written;
    • `word`, `signed`, `bool`, `utf8` — the formats to begin with.
-/
import Mathlib.Data.List.Basic
import Mathlib.Algebra.Group.Nat.Defs
import Mathlib.Logic.Equiv.Defs

namespace Codec

abbrev Bytes := List UInt8

/-- How values of `α` are written and read.  Only values that fit can be written. -/
structure Format (α : Type*) where
  Fits : α → Prop
  write : α → Bytes
  /-- The value in front, and what follows it. -/
  read : Bytes → Option (α × Bytes)
  read_write : ∀ {a : α}, Fits a → ∀ rest, read (write a ++ rest) = some (a, rest)
  of_read : ∀ {bs : Bytes} {a : α} {rest : Bytes}, read bs = some (a, rest) →
    Fits a ∧ bs = write a ++ rest

namespace Format

universe u v

variable {α : Type u} {β : Type v}

/-- **What is read is what was written.** -/
theorem read_iff (f : Format α) {bs : Bytes} {a : α} {rest : Bytes} :
    f.read bs = some (a, rest) ↔ f.Fits a ∧ bs = f.write a ++ rest := by
  refine ⟨f.of_read, ?_⟩
  rintro ⟨hfits, rfl⟩
  exact f.read_write hfits rest

/-! ## §1. Putting formats together. -/

/-- One value after the other. -/
def pair (f : Format α) (g : Format β) : Format (α × β) where
  Fits p := f.Fits p.1 ∧ g.Fits p.2
  write p := f.write p.1 ++ g.write p.2
  read bs := (f.read bs).bind fun p => (g.read p.2).map fun q => ((p.1, q.1), q.2)
  read_write := by
    intro p h rest
    rw [List.append_assoc, f.read_write h.1, Option.bind_some, g.read_write h.2]
    rfl
  of_read := by
    intro bs p rest h
    obtain ⟨⟨a, mid⟩, hf, hmap⟩ := Option.bind_eq_some_iff.mp h
    obtain ⟨⟨b, rest'⟩, hg, heq⟩ := Option.map_eq_some_iff.mp hmap
    cases heq
    obtain ⟨ha, rfl⟩ := f.of_read hf
    obtain ⟨hb, rfl⟩ := g.of_read hg
    exact ⟨⟨ha, hb⟩, (List.append_assoc _ _ _).symm⟩

/-- The same bytes for another type. -/
def iso (e : α ≃ β) (f : Format α) : Format β where
  Fits b := f.Fits (e.symm b)
  write b := f.write (e.symm b)
  read bs := (f.read bs).map fun p => (e p.1, p.2)
  read_write := by
    intro b h rest
    rw [f.read_write h, Option.map_some, e.apply_symm_apply]
  of_read := by
    intro bs b rest h
    obtain ⟨⟨a, rest'⟩, hf, heq⟩ := Option.map_eq_some_iff.mp h
    cases heq
    obtain ⟨ha, rfl⟩ := f.of_read hf
    rw [e.symm_apply_apply]
    exact ⟨ha, rfl⟩

/-- A tag, and after it what belongs to the tag.  Other tags are refused. -/
def choice {n : Nat} {γ : Fin n → Type v} (tag : Format Nat) (f : (i : Fin n) → Format (γ i)) :
    Format (Σ i, γ i) where
  Fits s := tag.Fits s.1 ∧ (f s.1).Fits s.2
  write s := tag.write s.1 ++ (f s.1).write s.2
  read bs := (tag.read bs).bind fun p =>
    if h : p.1 < n then ((f ⟨p.1, h⟩).read p.2).map fun q => (⟨⟨p.1, h⟩, q.1⟩, q.2) else none
  read_write := by
    rintro ⟨i, c⟩ h rest
    rw [List.append_assoc, tag.read_write h.1, Option.bind_some, dif_pos i.isLt]
    show ((f i).read _).map _ = _
    rw [(f i).read_write h.2]
    rfl
  of_read := by
    intro bs s rest h
    obtain ⟨⟨k, mid⟩, htag, h⟩ := Option.bind_eq_some_iff.mp h
    split at h
    · next hk =>
      obtain ⟨⟨c, rest'⟩, hf, heq⟩ := Option.map_eq_some_iff.mp h
      cases heq
      obtain ⟨ht, rfl⟩ := tag.of_read htag
      obtain ⟨hc, hmid⟩ := (f ⟨k, hk⟩).of_read hf
      refine ⟨⟨ht, hc⟩, ?_⟩
      show tag.write k ++ mid = _
      rw [show mid = _ from hmid, List.append_assoc]
    · exact absurd h nofun

/-- No bytes at all. -/
def unit : Format PUnit.{u + 1} where
  Fits _ := True
  write _ := []
  read bs := some (⟨⟩, bs)
  read_write _ _ := rfl
  of_read h := by
    cases h
    exact ⟨trivial, rfl⟩

/-! ## §2. Sequences. -/

/-- `n` values, one after the other. -/
def readMany (f : Format α) : Nat → Bytes → Option (List α × Bytes)
  | 0, bs => some ([], bs)
  | n + 1, bs => (f.read bs).bind fun p =>
    (readMany f n p.2).map fun q => (p.1 :: q.1, q.2)

def writeMany (f : Format α) (as : List α) : Bytes := as.flatMap f.write

theorem readMany_write (f : Format α) {as : List α} (h : ∀ a ∈ as, f.Fits a) (rest : Bytes) :
    f.readMany as.length (f.writeMany as ++ rest) = some (as, rest) := by
  induction as with
  | nil => rfl
  | cons a as ih =>
    have ha := h a List.mem_cons_self
    have has := ih fun b hb => h b (List.mem_cons_of_mem _ hb)
    show ((f.read ((f.write a ++ f.writeMany as) ++ rest)).bind _) = _
    rw [List.append_assoc, f.read_write ha, Option.bind_some, has]
    rfl

theorem of_readMany (f : Format α) {n : Nat} {bs : Bytes} {as : List α} {rest : Bytes}
    (h : f.readMany n bs = some (as, rest)) :
    as.length = n ∧ (∀ a ∈ as, f.Fits a) ∧ bs = f.writeMany as ++ rest := by
  induction n generalizing bs as with
  | zero =>
    cases h
    exact ⟨rfl, nofun, rfl⟩
  | succ n ih =>
    obtain ⟨⟨a, mid⟩, hf, hmap⟩ := Option.bind_eq_some_iff.mp h
    obtain ⟨⟨as', rest'⟩, hmany, heq⟩ := Option.map_eq_some_iff.mp hmap
    cases heq
    obtain ⟨ha, rfl⟩ := f.of_read hf
    obtain ⟨rfl, has, hmid⟩ := ih hmany
    refine ⟨rfl, List.forall_mem_cons.mpr ⟨ha, has⟩, ?_⟩
    rw [show mid = _ from hmid, ← List.append_assoc]
    rfl

/-- The number of values, and then the values. -/
def list (len : Format Nat) (f : Format α) : Format (List α) where
  Fits as := len.Fits as.length ∧ ∀ a ∈ as, f.Fits a
  write as := len.write as.length ++ f.writeMany as
  read bs := (len.read bs).bind fun p => f.readMany p.1 p.2
  read_write := by
    intro as h rest
    rw [List.append_assoc, len.read_write h.1, Option.bind_some, f.readMany_write h.2]
  of_read := by
    intro bs as rest h
    obtain ⟨⟨n, mid⟩, hlen, hmany⟩ := Option.bind_eq_some_iff.mp h
    obtain ⟨hn, rfl⟩ := len.of_read hlen
    obtain ⟨rfl, has, hmid⟩ := f.of_readMany hmany
    refine ⟨⟨hn, has⟩, ?_⟩
    rw [show mid = _ from hmid, List.append_assoc]

/-! ## §3. Formats to begin with. -/

/-- The values of `β` as some of those of `α`. -/
def embed (f : Format α) (P : β → Prop) (rep : β → α) (ofRep : α → Option β)
    (hrep : ∀ {a b}, ofRep a = some b ↔ P b ∧ rep b = a) : Format β where
  Fits b := P b ∧ f.Fits (rep b)
  write b := f.write (rep b)
  read bs := (f.read bs).bind fun p => (ofRep p.1).map fun b => (b, p.2)
  read_write := by
    intro b h rest
    rw [f.read_write h.2, Option.bind_some, hrep.mpr ⟨h.1, rfl⟩]
    rfl
  of_read := by
    intro bs b rest h
    obtain ⟨⟨a, mid⟩, hf, hmap⟩ := Option.bind_eq_some_iff.mp h
    obtain ⟨b', hb, heq⟩ := Option.map_eq_some_iff.mp hmap
    cases heq
    obtain ⟨hP, rfl⟩ := hrep.mp hb
    obtain ⟨ha, rfl⟩ := f.of_read hf
    exact ⟨⟨hP, ha⟩, rfl⟩

/-- One of the values in a list, by its place. -/
def enumeration [DecidableEq α] (place : Format Nat) (all : List α) (hnodup : all.Nodup)
    (hall : ∀ a, a ∈ all) : Format α :=
  place.embed (fun _ => True) (all.idxOf ·) (fun n => all[n]?) (by
    intro n a
    constructor
    · intro h
      obtain ⟨hn, rfl⟩ := List.getElem?_eq_some_iff.mp h
      exact ⟨trivial, hnodup.idxOf_getElem n hn⟩
    · rintro ⟨-, rfl⟩
      exact List.getElem?_idxOf (hall a))

def byte : Format UInt8 where
  Fits _ := True
  write b := [b]
  read
    | [] => none
    | b :: bs => some (b, bs)
  read_write _ _ := rfl
  of_read := by
    intro bs a rest h
    cases bs with
    | nil => exact absurd h nofun
    | cons b bs =>
      cases h
      exact ⟨trivial, rfl⟩

/-- The bytes of `n`, the lowest first. -/
def writeWord : Nat → Nat → Bytes
  | 0, _ => []
  | width + 1, n => UInt8.ofNat n :: writeWord width (n / 256)

def readWord : Nat → Bytes → Option (Nat × Bytes)
  | 0, bs => some (0, bs)
  | _ + 1, [] => none
  | width + 1, b :: bs => (readWord width bs).map fun p => (b.toNat + 256 * p.1, p.2)

theorem readWord_write {width n : Nat} (h : n < 256 ^ width) (rest : Bytes) :
    readWord width (writeWord width n ++ rest) = some (n, rest) := by
  induction width generalizing n with
  | zero =>
    obtain rfl : n = 0 := by simpa using h
    rfl
  | succ width ih =>
    have hhigh : n / 256 < 256 ^ width := by
      rw [Nat.div_lt_iff_lt_mul (by decide)]
      rwa [Nat.pow_succ] at h
    have hlow : (UInt8.ofNat n).toNat + 256 * (n / 256) = n := by
      rw [UInt8.toNat_ofNat']
      omega
    show (readWord width (writeWord width (n / 256) ++ rest)).map _ = _
    rw [ih hhigh, Option.map_some, hlow]

theorem of_readWord {width n : Nat} {bs rest : Bytes} (h : readWord width bs = some (n, rest)) :
    n < 256 ^ width ∧ bs = writeWord width n ++ rest := by
  induction width generalizing bs n with
  | zero =>
    cases h
    exact ⟨Nat.one_pos, rfl⟩
  | succ width ih =>
    cases bs with
    | nil => exact absurd h nofun
    | cons b bs =>
      obtain ⟨⟨m, rest'⟩, hread, heq⟩ := Option.map_eq_some_iff.mp h
      cases heq
      obtain ⟨hm, rfl⟩ := ih hread
      have hb := b.toNat_lt
      have hdiv : (b.toNat + 256 * m) / 256 = m := by omega
      have hmod : UInt8.ofNat (b.toNat + 256 * m) = b := by
        apply UInt8.toNat_inj.mp
        rw [UInt8.toNat_ofNat']
        omega
      refine ⟨?_, ?_⟩
      · rw [Nat.pow_succ]
        omega
      · rw [writeWord, hdiv, hmod]
        rfl

/-- Words of `width` bytes, little-endian. -/
def word (width : Nat) : Format Nat where
  Fits n := n < 256 ^ width
  write := writeWord width
  read := readWord width
  read_write h := readWord_write h
  of_read h := of_readWord h

/-- Two's complement over a word with `2 * half` values. -/
def signed (half : Nat) (f : Format Nat) : Format Int :=
  f.embed (fun i => -half ≤ i ∧ i < half) (fun i => (if i < 0 then i + 2 * half else i).toNat)
    (fun n => if n < half then some n else if n < 2 * half then some (n - 2 * half) else none) (by
      intro n i
      constructor
      · intro h
        split at h
        · cases h
          omega
        · split at h
          · cases h
            split <;> omega
          · exact absurd h nofun
      · rintro ⟨⟨hlow, hhigh⟩, rfl⟩
        by_cases hi : i < 0
        · rw [if_pos hi, if_neg (by omega), if_pos (by omega)]
          exact congrArg some (by omega)
        · rw [if_neg hi, if_pos (by omega)]
          exact congrArg some (by omega))

/-- `0` or `1`, and no other byte. -/
def bool : Format Bool :=
  byte.embed (fun _ => True) (fun b => if b then 1 else 0)
    (fun b => if b = 0 then some false else if b = 1 then some true else none) (by
      intro b v
      by_cases h0 : b = 0
      · cases v <;> simp [h0]
      · by_cases h1 : b = 1
        · cases v <;> simp [h1]
        · cases v <;> simp [h0, h1, eq_comm])

/-- The number of bytes and the bytes of the text, which have to be UTF-8. -/
def utf8 (len : Format Nat) : Format String :=
  (list len byte).embed (fun _ => True) (fun s => s.toByteArray.data.toList)
    (fun bs => String.fromUTF8? ⟨bs.toArray⟩) (by
      intro bs s
      unfold String.fromUTF8?
      constructor
      · intro h
        split at h
        · cases h
          exact ⟨trivial, rfl⟩
        · exact absurd h nofun
      · rintro ⟨-, rfl⟩
        exact dif_pos s.isValidUTF8)

end Format

end Codec
