/-
  Visuara.Common.Unpatched
  ────────────────────────
  **BINARIES WITHOUT A CONFIG, AND PARTS OF BINARIES WITH ONE.**

  The slot of a client as it is compiled is empty, and the empty text is no
  JSON: such a client is read as a broken one, not as one without a config.  A
  patched client that has been cut off is never read as one with another
  config, since no part of a JSON object is a JSON text.

    • `findInBinary?`        — the reading, with the panics of its slices;
    • `fromSlotBytes_take`   — what is read in a part of a slot;
    • `reads_no_other_config` — all three kinds of binaries.
-/
import Visuara.Common.Patching
import Visuara.Json.Brackets

namespace Visuara

open Slice

/-! ## §1. Slices. -/

/-- `&data[start..stop]`, which panics out of bounds. -/
def slice? (data : Bytes) (start stop : Nat) : Option Bytes :=
  if start ≤ stop ∧ stop ≤ data.length then some ((data.take stop).drop start) else none

namespace EmbeddedConfig

variable [SerdeJson]

/-- `from_slot_bytes`, or `none` where it panics. -/
def fromSlotBytes? (bytes : Bytes) : Option (Except String EmbeddedConfig) :=
  (slice? bytes 0 ((bytes.findIdx? (· == 0)).getD bytes.length)).map fun json =>
    match SerdeJson.fromSlice json with
    | .ok c => .ok c
    | .error _ => .error "parse embedded config JSON"

/-- `find_in_binary`, or `none` where it panics. -/
def findInBinary? (data : Bytes) : Option (Except String (Option EmbeddedConfig)) :=
  match findSubslice data CONFIG_MAGIC with
  | none => some (.ok none)
  | some pos =>
    let start := pos + CONFIG_MAGIC.length
    let stop := min (start + CONFIG_SLOT_SIZE) data.length
    if stop ≤ start then some (.ok none)
    else (slice? data start stop).bind fun slot => (fromSlotBytes? slot).map fun r =>
      match r with
      | .ok c => .ok (some c)
      | .error e => .error e

theorem fromSlotBytes?_eq (bytes : Bytes) : fromSlotBytes? bytes = some (fromSlotBytes bytes) := by
  have hstop : (bytes.findIdx? (· == 0)).getD bytes.length ≤ bytes.length := by
    cases h : bytes.findIdx? (· == 0) with
    | none => exact Nat.le_refl _
    | some i =>
      obtain ⟨hi, -⟩ := List.findIdx?_eq_some_iff_getElem.mp h
      exact Nat.le_of_lt hi
  unfold fromSlotBytes? fromSlotBytes slice?
  dsimp only
  cases hread : SerdeJson.fromSlice
      (bytes.take ((bytes.findIdx? (· == 0)).getD bytes.length)) with
  | ok c => rw [if_pos ⟨Nat.zero_le _, hstop⟩, Option.map_some, List.drop_zero, hread]
  | error e => rw [if_pos ⟨Nat.zero_le _, hstop⟩, Option.map_some, List.drop_zero, hread]

/-- **Reading never panics.** -/
theorem findInBinary?_eq (data : Bytes) : findInBinary? data = some (findInBinary data) := by
  unfold findInBinary? findInBinary
  cases findSubslice data CONFIG_MAGIC with
  | none => rfl
  | some pos =>
    dsimp only
    split
    · rfl
    next hstart =>
      have hbounds : pos + CONFIG_MAGIC.length
          ≤ min (pos + CONFIG_MAGIC.length + CONFIG_SLOT_SIZE) data.length
          ∧ min (pos + CONFIG_MAGIC.length + CONFIG_SLOT_SIZE) data.length ≤ data.length :=
        ⟨Nat.le_of_not_le hstart, Nat.min_le_right _ _⟩
      unfold slice?
      cases hread : fromSlotBytes ((data.take (min (pos + CONFIG_MAGIC.length + CONFIG_SLOT_SIZE)
          data.length)).drop (pos + CONFIG_MAGIC.length)) with
      | ok c =>
        rw [if_pos hbounds, Option.bind_some, fromSlotBytes?_eq, hread, Option.map_some]
      | error e =>
        rw [if_pos hbounds, Option.bind_some, fromSlotBytes?_eq, hread, Option.map_some]

/-! ## §2. Reading a slot. -/

/-- What is read behind the first marker: no more than a slot. -/
theorem findInBinary_eq {t : Bytes} {p : Nat} (hp : FirstAt t CONFIG_MAGIC p) :
    findInBinary t = if t.length ≤ p + CONFIG_MAGIC.length then .ok none
      else match fromSlotBytes ((t.drop (p + CONFIG_MAGIC.length)).take CONFIG_SLOT_SIZE) with
        | .ok c => .ok (some c)
        | .error e => .error e := by
  have hpos : 0 < CONFIG_SLOT_SIZE := by decide
  have hslice : (t.take (min (p + CONFIG_MAGIC.length + CONFIG_SLOT_SIZE) t.length)).drop
      (p + CONFIG_MAGIC.length) = (t.drop (p + CONFIG_MAGIC.length)).take CONFIG_SLOT_SIZE := by
    rw [← List.take_eq_take_min, List.drop_take, Nat.add_sub_cancel_left]
  unfold findInBinary
  rw [(findSubslice_eq_some_iff magic_ne_nil).mpr hp]
  dsimp only
  rw [hslice]
  by_cases hend : t.length ≤ p + CONFIG_MAGIC.length
  · rw [if_pos hend, if_pos (by omega)]
  · cases hread : fromSlotBytes ((t.drop (p + CONFIG_MAGIC.length)).take CONFIG_SLOT_SIZE) with
    | ok c => rw [if_neg hend, if_neg (by omega)]
    | error e => rw [if_neg hend, if_neg (by omega)]

/-- What the results assume of `serde_json` as a reader: what it accepts is a JSON
text, and no JSON text is empty. -/
def ReadsJson : Prop := ∀ b c, SerdeJson.fromSlice b = .ok c → b ≠ [] ∧ Json.Balanced b

/-- What they assume of it for one config: it writes an object, and reads it back. -/
def Serializes (c : EmbeddedConfig) : Prop :=
  Json.IsObject (SerdeJson.toVec c) ∧ SerdeJson.fromSlice (SerdeJson.toVec c) = .ok c

/-- **A part of a slot is read as its config, or not at all.** -/
theorem fromSlotBytes_take {c : EmbeddedConfig} (hreads : ReadsJson) (hc : Serializes c) (j : Nat) :
    fromSlotBytes (c.slot.take j) = .ok c ∨ ∃ e, fromSlotBytes (c.slot.take j) = .error e := by
  obtain ⟨hobject, hdecode⟩ := hc
  have hzero : 0 ∉ SerdeJson.toVec c := Json.zero_not_mem hobject.balanced
  have hpart : c.slot.take j = (SerdeJson.toVec c).take j ++ List.replicate
      (min (j - (SerdeJson.toVec c).length) (CONFIG_SLOT_SIZE - (SerdeJson.toVec c).length)) 0 := by
    rw [slot, List.take_append, List.take_replicate]
  have hzero' : 0 ∉ (SerdeJson.toVec c).take j := fun h => hzero (List.mem_of_mem_take h)
  have hpad := fromSlotBytes_padded hzero'
    (min (j - (SerdeJson.toVec c).length) (CONFIG_SLOT_SIZE - (SerdeJson.toVec c).length))
  rw [hpart, hpad]
  by_cases hj : (SerdeJson.toVec c).length ≤ j
  · rw [List.take_of_length_le hj, hdecode]
    exact Or.inl rfl
  · right
    cases hread : SerdeJson.fromSlice ((SerdeJson.toVec c).take j) with
    | error e => exact ⟨_, rfl⟩
    | ok c' =>
      -- a part of an object is no text
      obtain ⟨hne, hbalanced⟩ := hreads _ _ hread
      have hpos : 0 < j := by
        apply Nat.pos_of_ne_zero
        rintro rfl
        exact hne rfl
      exact absurd hbalanced (Json.not_balanced_of_prefix hobject hpos (by omega))

theorem findInBinary_none {data : Bytes} (h : ∀ p, ¬ OccursAt data CONFIG_MAGIC p) :
    findInBinary data = .ok none := by
  unfold findInBinary
  cases hf : findSubslice data CONFIG_MAGIC with
  | none => rfl
  | some p => exact absurd ((findSubslice_eq_some_iff magic_ne_nil).mp hf).1 (h p)

/-! ## §3. Whole binaries. -/

/-- The marker is nowhere. -/
def Markerless (data : Bytes) : Prop := ∀ p, ¬ OccursAt data CONFIG_MAGIC p

/-- The first marker is that of a slot as it was compiled. -/
def Unpatched (data : Bytes) : Prop :=
  ∃ before after, data = before ++ VISUARA_EMBEDDED_CONFIG_SLOT ++ after
    ∧ FirstAt data CONFIG_MAGIC before.length

/-- No config is read but this one. -/
def ReadsOnly (c : EmbeddedConfig) (data : Bytes) : Prop :=
  findInBinary? data = some (.ok none) ∨ (∃ e, findInBinary? data = some (.error e))
    ∨ findInBinary? data = some (.ok (some c))

/-- An unpatched binary is read as a broken one. -/
theorem findInBinary_unpatched {data : Bytes} (hreads : ReadsJson) (h : Unpatched data) :
    findInBinary data = .error "parse embedded config JSON" := by
  obtain ⟨before, after, rfl, hfirst⟩ := h
  have hempty : ∃ e, SerdeJson.fromSlice [] = .error e := by
    cases hread : SerdeJson.fromSlice [] with
    | error e => exact ⟨e, rfl⟩
    | ok c => exact absurd rfl (hreads _ _ hread).1
  obtain ⟨e, he⟩ := hempty
  have hslot : ((before ++ VISUARA_EMBEDDED_CONFIG_SLOT ++ after).drop
      (before.length + CONFIG_MAGIC.length)).take CONFIG_SLOT_SIZE
        = List.replicate CONFIG_SLOT_SIZE 0 := by
    rw [List.append_assoc, ← List.drop_drop, List.drop_left, VISUARA_EMBEDDED_CONFIG_SLOT,
      List.append_assoc, List.drop_left, List.take_left' List.length_replicate]
  have hlong : ¬ (before ++ VISUARA_EMBEDDED_CONFIG_SLOT ++ after).length
      ≤ before.length + CONFIG_MAGIC.length := by
    have hpos : 0 < CONFIG_SLOT_SIZE := by decide
    rw [VISUARA_EMBEDDED_CONFIG_SLOT]
    simp only [List.length_append, List.length_replicate]
    omega
  have hread := fromSlotBytes_padded (a := []) List.not_mem_nil CONFIG_SLOT_SIZE
  rw [List.nil_append, he] at hread
  rw [findInBinary_eq hfirst, if_neg hlong, hslot, hread]

/-- **A patched binary that is cut off anywhere** is read as one without a config, as
a broken one, or as what it is. -/
theorem readsOnly_take {t : Bytes} {p : Nat} {c : EmbeddedConfig} (hreads : ReadsJson)
    (hc : Serializes c) (hp : FirstAt t CONFIG_MAGIC p)
    (hslot : (t.drop (p + CONFIG_MAGIC.length)).take CONFIG_SLOT_SIZE = c.slot) (k : Nat) :
    ReadsOnly c (t.take k) := by
  unfold ReadsOnly
  rw [findInBinary?_eq]
  by_cases hk : k < p + CONFIG_MAGIC.length
  · left
    rw [findInBinary_none fun q => not_occursAt_take hp hk magic_ne_nil]
  · rw [findInBinary_eq (firstAt_take hp (Nat.le_of_not_lt hk))]
    by_cases hend : (t.take k).length ≤ p + CONFIG_MAGIC.length
    · left
      rw [if_pos hend]
    · -- some of the slot is left
      have hpart : ((t.take k).drop (p + CONFIG_MAGIC.length)).take CONFIG_SLOT_SIZE
          = c.slot.take (k - (p + CONFIG_MAGIC.length)) := by
        rw [List.drop_take, List.take_take, Nat.min_comm, ← List.take_take, hslot]
      rw [if_neg hend, hpart]
      obtain hread | ⟨e, hread⟩ := fromSlotBytes_take hreads hc (k - (p + CONFIG_MAGIC.length))
      · rw [hread]
        exact Or.inr (Or.inr rfl)
      · rw [hread]
        exact Or.inr (Or.inl ⟨e, rfl⟩)

/-- **Which binaries read as having no config**: of those without a marker and the
unpatched ones, the first; and patched with a config, a binary never reads as
having another, wherever it is cut off. -/
theorem unpatched_binary_iff (hreads : ReadsJson) :
    (∀ data, Markerless data ∨ Unpatched data →
      (findInBinary? data = some (.ok none) ↔ Markerless data))
    ∧ ∀ (c : EmbeddedConfig) (before after : Bytes), Serializes c →
      (SerdeJson.toVec c).length ≤ CONFIG_SLOT_SIZE →
      FirstAt (before ++ VISUARA_EMBEDDED_CONFIG_SLOT ++ after) CONFIG_MAGIC before.length →
      ∃ patched, c.patchBinary (before ++ VISUARA_EMBEDDED_CONFIG_SLOT ++ after) = .ok patched
        ∧ ∀ k, ReadsOnly c (patched.take k) := by
  constructor
  · intro data hkind
    rw [findInBinary?_eq]
    constructor
    · intro hread
      obtain hnone | hunpatched := hkind
      · exact hnone
      · rw [findInBinary_unpatched hreads hunpatched] at hread
        exact absurd hread nofun
    · intro hnone
      rw [findInBinary_none hnone]
  · intro c before after hc hfits hfirst
    have hroom : before.length + CONFIG_MAGIC.length + CONFIG_SLOT_SIZE
        ≤ (before ++ VISUARA_EMBEDDED_CONFIG_SLOT ++ after).length := by
      rw [VISUARA_EMBEDDED_CONFIG_SLOT]
      simp only [List.length_append, List.length_replicate]
      omega
    have hslot := length_slot hfits
    have hwrite : before.length + CONFIG_MAGIC.length + c.slot.length
        ≤ (before ++ VISUARA_EMBEDDED_CONFIG_SLOT ++ after).length := by omega
    refine ⟨_, patchBinary_eq hfirst hroom hfits, fun k => ?_⟩
    refine readsOnly_take hreads hc ((firstAt_splice hwrite (Nat.le_refl _)).mpr hfirst) ?_ k
    rw [← hslot]
    exact take_drop_splice hwrite

end EmbeddedConfig

/-! ## §4. The sample. -/

open scoped PlainJson

namespace PlainJson

theorem sample_object : Json.IsObject (encode sample) := by
  have hvalue : Json.Balanced _ :=
    .quoted (l := "warehouse-pc-04".toUTF8.toList) (by decide +kernel) .nil
  have hname : Json.Balanced _ :=
    .quoted (l := "device_name".toUTF8.toList) (by decide +kernel)
      (.plain (b := 0x3A) (by decide) hvalue)
  have hurl : Json.Balanced _ :=
    .quoted (l := "wss://visuara.example.com/ws".toUTF8.toList) (by decide +kernel)
      (.plain (b := 0x2C) (by decide) hname)
  have hbody : Json.Balanced _ :=
    .quoted (l := "server_url".toUTF8.toList) (by decide +kernel)
      (.plain (b := 0x3A) (by decide) hurl)
  exact ⟨_, hbody, by decide +kernel⟩

theorem reads_json : EmbeddedConfig.ReadsJson := by
  intro b c h
  have hread : (if b = encode sample then .ok sample else .error "expected value" :
      Except String EmbeddedConfig) = .ok c := h
  split at hread
  next heq =>
    rw [heq]
    exact ⟨by decide +kernel, sample_object.balanced⟩
  next => exact absurd hread nofun

theorem sample_serializes : EmbeddedConfig.Serializes sample :=
  ⟨sample_object, sample_roundTrips.1⟩

theorem slot_unpatched : EmbeddedConfig.Unpatched VISUARA_EMBEDDED_CONFIG_SLOT := by
  refine ⟨[], [], by simp, ?_⟩
  have hfirst := slot_first []
  rwa [List.append_nil] at hfirst

end PlainJson

theorem unpatched_binary_sample :
    EmbeddedConfig.findInBinary? VISUARA_EMBEDDED_CONFIG_SLOT ≠ some (.ok none)
    ∧ ∃ patched, PlainJson.sample.patchBinary ([] ++ VISUARA_EMBEDDED_CONFIG_SLOT ++ [])
        = .ok patched
      ∧ ∀ k, EmbeddedConfig.ReadsOnly PlainJson.sample (patched.take k) := by
  obtain ⟨hreads, hcut⟩ := EmbeddedConfig.unpatched_binary_iff PlainJson.reads_json
  constructor
  · intro hnone
    have hmarker := (hreads _ (Or.inr PlainJson.slot_unpatched)).mp hnone
    have hfirst := PlainJson.slot_first []
    rw [List.append_nil] at hfirst
    exact hmarker 0 hfirst.1
  · have hfirst := PlainJson.slot_first []
    exact hcut PlainJson.sample [] [] PlainJson.sample_serializes PlainJson.sample_fits hfirst

/-- A client as it is compiled. -/
theorem unpatched_read_as_broken : ¬ ∀ data, EmbeddedConfig.Unpatched data →
    EmbeddedConfig.findInBinary? data = some (.ok none) := by
  intro h
  have hnone := h _ PlainJson.slot_unpatched
  rw [EmbeddedConfig.findInBinary?_eq,
    EmbeddedConfig.findInBinary_unpatched PlainJson.reads_json PlainJson.slot_unpatched] at hnone
  exact absurd hnone nofun

end Visuara
