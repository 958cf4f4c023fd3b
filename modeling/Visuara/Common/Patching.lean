/-
  Visuara.Common.Patching
  ───────────────────────
  **WHAT PATCHING DOES TO A BINARY.**

  `patch_binary` overwrites the slot behind the first marker (`patchBinary_eq`),
  so everything about it follows from what overwriting does.  Whether that slot
  is the placeholder depends on the binary: a marker in front of it that is no
  placeholder is found first, and the bytes behind that one are overwritten
  (`bare_marker_overwritten`).
-/
import Visuara.Common.EmbeddedConfig
import Visuara.Slice.Splice

namespace Visuara

open Slice

/-! ## §1. Searching. -/

/-- `find_subslice` finds the first occurrence. -/
theorem findSubslice_eq_some_iff {t n : Bytes} {p : Nat} (hn : n ≠ []) :
    findSubslice t n = some p ↔ FirstAt t n p := by
  induction t generalizing p with
  | nil =>
    rw [findSubslice, if_neg (by simpa using hn)]
    constructor
    · intro h
      exact absurd h (by simp)
    · intro h
      have hlen := h.1.le_length hn
      have hpos := List.length_pos_iff.mpr hn
      rw [List.length_nil] at hlen
      omega
  | cons b t ih =>
    rw [findSubslice]
    by_cases hpre : n.isPrefixOf (b :: t) = true
    · rw [if_pos hpre]
      have h0 : FirstAt (b :: t) n 0 :=
        ⟨List.isPrefixOf_iff_prefix.mp hpre, fun q hq => absurd hq (Nat.not_lt_zero q)⟩
      constructor
      · intro h
        rw [← Option.some.inj h]
        exact h0
      · intro h
        rw [h.unique h0]
    · rw [if_neg hpre]
      have hno : ¬ OccursAt (b :: t) n 0 := fun h => hpre (List.isPrefixOf_iff_prefix.mpr h)
      constructor
      · intro h
        obtain ⟨p', hp', rfl⟩ := Option.map_eq_some_iff.mp h
        have hfirst := ih.mp hp'
        refine ⟨hfirst.1, fun q hq hocc => ?_⟩
        cases q with
        | zero => exact hno hocc
        | succ q => exact hfirst.2 q (by omega) hocc
      · intro h
        cases p with
        | zero => exact absurd h.1 hno
        | succ p =>
          have hfirst : FirstAt t n p := ⟨h.1, fun q hq hocc => h.2 (q + 1) (by omega) hocc⟩
          rw [ih.mpr hfirst]
          rfl

theorem magic_ne_nil : CONFIG_MAGIC ≠ [] := by simp [CONFIG_MAGIC]

theorem length_magic : CONFIG_MAGIC.length = 27 := by decide +kernel

/-- The marker ends with a zero byte. -/
theorem magic_last : CONFIG_MAGIC[26]? = some 0 := by decide +kernel

/-- The byte in front of that one is not zero. -/
theorem magic_beforeLast : CONFIG_MAGIC[25]? = some 49 := by decide +kernel

/-! ## §2. Patching is overwriting. -/

/-- What the results assume of `serde_json` for one config: it decodes what it
encodes, and what it encodes has no zero byte. -/
def SerdeJson.RoundTrips [SerdeJson] (c : EmbeddedConfig) : Prop :=
  SerdeJson.fromSlice (SerdeJson.toVec c) = .ok c ∧ (0 : UInt8) ∉ SerdeJson.toVec c

namespace EmbeddedConfig

variable [SerdeJson] {c : EmbeddedConfig} {t t' : Bytes} {p : Nat}

/-- The JSON and the zero bytes behind it. -/
def slot (c : EmbeddedConfig) : Bytes :=
  SerdeJson.toVec c ++ List.replicate (CONFIG_SLOT_SIZE - (SerdeJson.toVec c).length) 0

theorem length_slot (h : (SerdeJson.toVec c).length ≤ CONFIG_SLOT_SIZE) :
    c.slot.length = CONFIG_SLOT_SIZE := by
  rw [slot, List.length_append, List.length_replicate]
  omega

theorem toSlotBytes_of_le (h : (SerdeJson.toVec c).length ≤ CONFIG_SLOT_SIZE) :
    c.toSlotBytes = .ok c.slot := by
  rw [toSlotBytes]
  exact if_neg (Nat.not_lt.mpr h)

theorem toSlotBytes_of_lt (h : CONFIG_SLOT_SIZE < (SerdeJson.toVec c).length) :
    ∃ e, c.toSlotBytes = .error e := by
  rw [toSlotBytes]
  exact ⟨_, if_pos h⟩

/-- **Patching overwrites the slot behind the first marker.** -/
theorem patchBinary_eq (hp : FirstAt t CONFIG_MAGIC p)
    (hroom : p + CONFIG_MAGIC.length + CONFIG_SLOT_SIZE ≤ t.length)
    (hfits : (SerdeJson.toVec c).length ≤ CONFIG_SLOT_SIZE) :
    c.patchBinary t = .ok (splice t (p + CONFIG_MAGIC.length) c.slot) := by
  rw [patchBinary, (findSubslice_eq_some_iff magic_ne_nil).mpr hp]
  dsimp only
  rw [if_pos hroom, toSlotBytes_of_le hfits, splice, length_slot hfits]

/-- It succeeds in no other case. -/
theorem of_patchBinary_ok (h : c.patchBinary t = .ok t') :
    ∃ p, FirstAt t CONFIG_MAGIC p ∧ p + CONFIG_MAGIC.length + CONFIG_SLOT_SIZE ≤ t.length
      ∧ (SerdeJson.toVec c).length ≤ CONFIG_SLOT_SIZE
      ∧ t' = splice t (p + CONFIG_MAGIC.length) c.slot := by
  cases hf : findSubslice t CONFIG_MAGIC with
  | none =>
    rw [patchBinary, hf] at h
    exact absurd h (by simp)
  | some p =>
    have hp := (findSubslice_eq_some_iff magic_ne_nil).mp hf
    by_cases hroom : p + CONFIG_MAGIC.length + CONFIG_SLOT_SIZE ≤ t.length
    · by_cases hfits : (SerdeJson.toVec c).length ≤ CONFIG_SLOT_SIZE
      · rw [patchBinary_eq hp hroom hfits] at h
        exact ⟨p, hp, hroom, hfits, (Except.ok.inj h).symm⟩
      · obtain ⟨e, he⟩ := toSlotBytes_of_lt (Nat.lt_of_not_le hfits)
        rw [patchBinary, hf] at h
        dsimp only at h
        rw [if_pos hroom, he] at h
        exact absurd h (by simp)
    · rw [patchBinary, hf] at h
      dsimp only at h
      rw [if_neg hroom] at h
      exact absurd h (by simp)

omit [SerdeJson] in
/-- What precedes the first zero byte of a padded text is the text. -/
theorem take_zero {a : Bytes} (ha : 0 ∉ a) (m : Nat) :
    (a ++ List.replicate m 0).take (((a ++ List.replicate m 0).findIdx? (· == 0)).getD
      (a ++ List.replicate m 0).length) = a := by
  have hnone : a.findIdx? (· == 0) = none := by
    rw [List.findIdx?_eq_none_iff]
    intro b hb
    exact beq_eq_false_iff_ne.mpr fun h0 => ha (h0 ▸ hb)
  cases m with
  | zero =>
    rw [List.replicate_zero, List.append_nil, hnone]
    exact List.take_length
  | succ m =>
    rw [List.findIdx?_append, hnone, List.replicate_succ, List.findIdx?_cons]
    simp

/-- A padded text is read as the text. -/
theorem fromSlotBytes_padded {a : Bytes} (ha : 0 ∉ a) (m : Nat) :
    fromSlotBytes (a ++ List.replicate m 0) = match SerdeJson.fromSlice a with
      | .ok c => .ok c
      | .error _ => .error "parse embedded config JSON" := by
  unfold fromSlotBytes
  dsimp only
  cases hread : SerdeJson.fromSlice a with
  | ok c => rw [take_zero ha, hread]
  | error e => rw [take_zero ha, hread]

/-- The JSON is what precedes the first zero byte, also when it fills the slot. -/
theorem fromSlotBytes_slot (hserde : SerdeJson.RoundTrips c) : fromSlotBytes c.slot = .ok c := by
  obtain ⟨hdecode, hzero⟩ := hserde
  rw [slot, fromSlotBytes_padded hzero, hdecode]

/-- What has been written is read back. -/
theorem findInBinary_splice (hp : FirstAt t CONFIG_MAGIC p)
    (hroom : p + CONFIG_MAGIC.length + CONFIG_SLOT_SIZE ≤ t.length)
    (hfits : (SerdeJson.toVec c).length ≤ CONFIG_SLOT_SIZE) (hserde : SerdeJson.RoundTrips c) :
    findInBinary (splice t (p + CONFIG_MAGIC.length) c.slot) = .ok (some c) := by
  have hslot := length_slot hfits
  have hwrite : p + CONFIG_MAGIC.length + c.slot.length ≤ t.length := by omega
  have hfirst := (firstAt_splice hwrite (Nat.le_refl _)).mpr hp
  have hlen := length_splice hwrite
  have hpos : 0 < CONFIG_SLOT_SIZE := by decide
  rw [findInBinary, (findSubslice_eq_some_iff magic_ne_nil).mpr hfirst]
  dsimp only
  rw [hlen, Nat.min_eq_left hroom, if_neg (by omega), List.drop_take, Nat.add_sub_cancel_left]
  rw [← hslot, take_drop_splice hwrite, fromSlotBytes_slot hserde]

/-- **Embedded config round trip and exact effect.**  Patching succeeds if and
only if there is a marker, the first one has a whole slot behind it, and the
JSON fits.  The result is as long as the template, differs from it only in that
slot, reads back as the config, and patches as the template does. -/
theorem patch_round_trip (t : Bytes) (c : EmbeddedConfig) (hserde : SerdeJson.RoundTrips c) :
    ((∃ t', c.patchBinary t = .ok t') ↔
      ∃ p, FirstAt t CONFIG_MAGIC p ∧ p + CONFIG_MAGIC.length + CONFIG_SLOT_SIZE ≤ t.length
        ∧ (SerdeJson.toVec c).length ≤ CONFIG_SLOT_SIZE)
    ∧ ∀ t', c.patchBinary t = .ok t' →
      t'.length = t.length
      ∧ (∃ p, FirstAt t CONFIG_MAGIC p ∧ ∀ i, t'[i]? ≠ t[i]? →
          p + CONFIG_MAGIC.length ≤ i ∧ i < p + CONFIG_MAGIC.length + CONFIG_SLOT_SIZE)
      ∧ findInBinary t' = .ok (some c)
      ∧ ∀ c₂ : EmbeddedConfig, c₂.patchBinary t' = c₂.patchBinary t := by
  constructor
  · constructor
    · rintro ⟨t', h⟩
      obtain ⟨p, hp, hroom, hfits, -⟩ := of_patchBinary_ok h
      exact ⟨p, hp, hroom, hfits⟩
    · rintro ⟨p, hp, hroom, hfits⟩
      exact ⟨_, patchBinary_eq hp hroom hfits⟩
  · intro t' h
    obtain ⟨p, hp, hroom, hfits, rfl⟩ := of_patchBinary_ok h
    have hslot := length_slot hfits
    have hwrite : p + CONFIG_MAGIC.length + c.slot.length ≤ t.length := by omega
    have hlen := length_splice hwrite
    refine ⟨hlen, ⟨p, hp, fun i hi => ?_⟩, findInBinary_splice hp hroom hfits hserde, fun c₂ => ?_⟩
    · rw [← hslot]
      exact splice_changes hwrite hi
    · have hp' := (firstAt_splice hwrite (Nat.le_refl _)).mpr hp
      by_cases hfits₂ : (SerdeJson.toVec c₂).length ≤ CONFIG_SLOT_SIZE
      · rw [patchBinary_eq hp' (by omega) hfits₂, patchBinary_eq hp hroom hfits₂]
        rw [splice_splice hwrite ((length_slot hfits₂).trans hslot.symm)]
      · -- both attempts fail on the same config, behind the same checks
        obtain ⟨e, he⟩ := toSlotBytes_of_lt (Nat.lt_of_not_le hfits₂)
        rw [patchBinary, patchBinary, (findSubslice_eq_some_iff magic_ne_nil).mpr hp',
          (findSubslice_eq_some_iff magic_ne_nil).mpr hp]
        dsimp only
        rw [if_pos (by omega), if_pos hroom, he]

/-! ## §3. Placeholders. -/

/-- The slot as it was compiled in stands at position `q`. -/
def PlaceholderAt (t : Bytes) (q : Nat) : Prop := OccursAt t VISUARA_EMBEDDED_CONFIG_SLOT q

/-- The byte at position `i` is one of the zero bytes of a placeholder. -/
def InPlaceholder (t : Bytes) (i : Nat) : Prop :=
  ∃ q, PlaceholderAt t q ∧ q + CONFIG_MAGIC.length ≤ i
    ∧ i < q + CONFIG_MAGIC.length + CONFIG_SLOT_SIZE

omit [SerdeJson] in
theorem PlaceholderAt.marker {q : Nat} (h : PlaceholderAt t q) : OccursAt t CONFIG_MAGIC q :=
  (List.prefix_append _ _).trans h

omit [SerdeJson] in
/-- Behind the marker of a placeholder there is room. -/
theorem PlaceholderAt.room {q : Nat} (h : PlaceholderAt t q) :
    q + CONFIG_MAGIC.length + CONFIG_SLOT_SIZE ≤ t.length := by
  have hlen := OccursAt.le_length h (by simp [VISUARA_EMBEDDED_CONFIG_SLOT, CONFIG_MAGIC])
  rw [VISUARA_EMBEDDED_CONFIG_SLOT, List.length_append, List.length_replicate] at hlen
  omega

omit [SerdeJson] in
theorem InPlaceholder.zero {i : Nat} (h : InPlaceholder t i) : t[i]? = some 0 := by
  obtain ⟨q, hq, hle, hlt⟩ := h
  have hat := occursAt_iff.mp hq (i - q) (by
    rw [VISUARA_EMBEDDED_CONFIG_SLOT, List.length_append, List.length_replicate]
    omega)
  rw [show q + (i - q) = i by omega] at hat
  rw [hat, VISUARA_EMBEDDED_CONFIG_SLOT, List.getElem?_append_right (by omega),
    List.getElem?_replicate, if_pos (by omega)]

omit [SerdeJson] in
/-- The last byte of a marker is in no placeholder: the byte before it is not zero. -/
theorem markerEnd_not_inPlaceholder {q : Nat} (hq : OccursAt t CONFIG_MAGIC q) :
    ¬ InPlaceholder t (q + 26) := by
  rintro ⟨q', hq', hle, hlt⟩
  rw [length_magic] at hle hlt
  have hone : t[q + 25]? = some 49 := by
    rw [occursAt_iff.mp hq 25 (by rw [length_magic]; decide), magic_beforeLast]
  have hzero : t[q + 25]? = some 0 := by
    by_cases hend : q + 25 = q' + 26
    · rw [hend, occursAt_iff.mp hq'.marker 26 (by rw [length_magic]; decide), magic_last]
    · apply InPlaceholder.zero
      exact ⟨q', hq', by rw [length_magic]; omega, by rw [length_magic]; omega⟩
  rw [hone] at hzero
  exact absurd hzero (by decide)

/-- Behind a zero byte of the slot there are only zero bytes. -/
theorem slot_zero_after (hfits : (SerdeJson.toVec c).length ≤ CONFIG_SLOT_SIZE)
    (hzero : (0 : UInt8) ∉ SerdeJson.toVec c) {i j : Nat} (hj : c.slot[j]? = some 0) (hji : j ≤ i)
    (hi : i < CONFIG_SLOT_SIZE) : c.slot[i]? = some 0 := by
  have hjson : (SerdeJson.toVec c).length ≤ j := by
    apply Nat.le_of_not_lt
    intro hlt
    rw [slot, List.getElem?_append_left hlt] at hj
    exact hzero (List.mem_of_getElem? hj)
  rw [slot, List.getElem?_append_right (by omega), List.getElem?_replicate, if_pos (by omega)]

/-- **A first marker that is no placeholder gets its bytes overwritten.**  If
nothing outside the placeholders changes all the same, the config was there. -/
theorem bare_marker_overwritten (hp : FirstAt t CONFIG_MAGIC p) (hbare : ¬ PlaceholderAt t p)
    (hroom : p + CONFIG_MAGIC.length + CONFIG_SLOT_SIZE ≤ t.length)
    (hfits : (SerdeJson.toVec c).length ≤ CONFIG_SLOT_SIZE)
    (hzero : (0 : UInt8) ∉ SerdeJson.toVec c)
    (hkeep : ∀ i, (splice t (p + CONFIG_MAGIC.length) c.slot)[i]? ≠ t[i]? → InPlaceholder t i) :
    (t.drop (p + CONFIG_MAGIC.length)).take CONFIG_SLOT_SIZE = c.slot := by
  have hslot := length_slot hfits
  have hwrite : p + CONFIG_MAGIC.length + c.slot.length ≤ t.length := by omega
  -- where no placeholder is, the slot content was there before
  have hout : ∀ k, k < CONFIG_SLOT_SIZE → ¬ InPlaceholder t (p + CONFIG_MAGIC.length + k) →
      t[p + CONFIG_MAGIC.length + k]? = c.slot[k]? := by
    intro k hk hno
    have hsame := not_ne_iff.mp fun hne => hno (hkeep (p + CONFIG_MAGIC.length + k) hne)
    rw [← hsame, getElem?_splice hwrite, if_neg (by omega), if_pos (by omega),
      Nat.add_sub_cancel_left]
  apply List.ext_getElem?
  intro k
  by_cases hk : k < CONFIG_SLOT_SIZE
  · rw [List.getElem?_take_of_lt hk, List.getElem?_drop]
    by_cases hin : InPlaceholder t (p + CONFIG_MAGIC.length + k)
    · -- the marker of that placeholder lies behind `p`, and its end is written over, too
      obtain ⟨q, hq, hle, hlt⟩ := hin
      have hpq : p < q := by
        apply Nat.lt_of_le_of_ne (hp.le hq.marker)
        rintro rfl
        exact hbare hq
      rw [InPlaceholder.zero ⟨q, hq, hle, hlt⟩]
      rw [length_magic] at hle hlt hout
      have hend := hout (q + 26 - (p + 27)) (by omega)
      rw [show p + 27 + (q + 26 - (p + 27)) = q + 26 by omega] at hend
      have hmark : t[q + 26]? = some 0 := by
        rw [occursAt_iff.mp hq.marker 26 (by rw [length_magic]; decide), magic_last]
      have hcontent := (hend (markerEnd_not_inPlaceholder hq.marker)).symm.trans hmark
      exact (slot_zero_after hfits hzero hcontent (by omega) hk).symm
    · exact hout k hk hin
  · rw [List.getElem?_eq_none (by rw [List.length_take]; omega),
      List.getElem?_eq_none (by omega)]

/-- **Patching changes placeholders only**, exactly when the first marker is one,
or has the config behind it already. -/
theorem patch_changes_placeholders_iff {t : Bytes} {c : EmbeddedConfig}
    (hslot : ∃ q, PlaceholderAt t q) (hfits : (SerdeJson.toVec c).length ≤ CONFIG_SLOT_SIZE)
    (hserde : SerdeJson.RoundTrips c) :
    (∃ t', c.patchBinary t = .ok t' ∧ (∀ i, t'[i]? ≠ t[i]? → InPlaceholder t i)
      ∧ findInBinary t' = .ok (some c))
    ↔ ∃ p, FirstAt t CONFIG_MAGIC p
      ∧ (PlaceholderAt t p ∨ .ok ((t.drop (p + CONFIG_MAGIC.length)).take CONFIG_SLOT_SIZE)
          = c.toSlotBytes) := by
  obtain ⟨q, hq⟩ := hslot
  constructor
  · rintro ⟨t', h, hkeep, -⟩
    obtain ⟨p, hp, hroom, -, rfl⟩ := of_patchBinary_ok h
    by_cases hph : PlaceholderAt t p
    · exact ⟨p, hp, .inl hph⟩
    · refine ⟨p, hp, .inr ?_⟩
      rw [toSlotBytes_of_le hfits, bare_marker_overwritten hp hph hroom hfits hserde.2 hkeep]
  · rintro ⟨p, hp, hcase⟩
    have hroom : p + CONFIG_MAGIC.length + CONFIG_SLOT_SIZE ≤ t.length := by
      have := hp.le hq.marker
      have := hq.room
      omega
    have hlen := length_slot hfits
    have hwrite : p + CONFIG_MAGIC.length + c.slot.length ≤ t.length := by omega
    refine ⟨_, patchBinary_eq hp hroom hfits, fun i hi => ?_,
      findInBinary_splice hp hroom hfits hserde⟩
    rcases hcase with hph | hsame
    · obtain ⟨hle, hlt⟩ := splice_changes hwrite hi
      exact ⟨p, hph, hle, by omega⟩
    · rw [toSlotBytes_of_le hfits, ← hlen] at hsame
      exact absurd (by rw [splice_self hwrite (Except.ok.inj hsame)]) hi

end EmbeddedConfig

/-! ## §4. Concrete binaries. -/

namespace PlainJson

def quoted : Option String → String
  | none => "null"
  | some s => "\"" ++ s ++ "\""

/-- The JSON of a config whose strings need no escapes. -/
def encode (c : EmbeddedConfig) : Bytes :=
  ("\x7b\"server_url\":" ++ quoted c.serverUrl ++ ",\"device_name\":" ++ quoted c.deviceName
    ++ "\x7d").toUTF8.toList

def sample : EmbeddedConfig := ⟨some "wss://visuara.example.com/ws", some "warehouse-pc-04"⟩

/-- Serialization that knows how to read the sample. -/
scoped instance : SerdeJson where
  toVec := encode
  fromSlice b := if b = encode sample then .ok sample else .error "expected value"

theorem sample_roundTrips : SerdeJson.RoundTrips sample :=
  ⟨if_pos rfl, by decide +kernel⟩

theorem sample_fits : (SerdeJson.toVec sample).length ≤ CONFIG_SLOT_SIZE := by decide +kernel

/-- A client binary that consists of its slot. -/
theorem slot_first (rest : Bytes) :
    FirstAt (VISUARA_EMBEDDED_CONFIG_SLOT ++ rest) CONFIG_MAGIC 0 :=
  ⟨(List.prefix_append _ _).trans (List.prefix_append _ _), fun q hq => absurd hq (Nat.not_lt_zero q)⟩

theorem slot_placeholder : EmbeddedConfig.PlaceholderAt VISUARA_EMBEDDED_CONFIG_SLOT 0 :=
  List.prefix_refl _

end PlainJson

open scoped PlainJson

theorem patch_round_trip_sample :
    ∃ t', PlainJson.sample.patchBinary VISUARA_EMBEDDED_CONFIG_SLOT = .ok t'
      ∧ EmbeddedConfig.findInBinary t' = .ok (some PlainJson.sample) := by
  have h := EmbeddedConfig.patch_round_trip VISUARA_EMBEDDED_CONFIG_SLOT PlainJson.sample
    PlainJson.sample_roundTrips
  obtain ⟨t', ht'⟩ := h.1.mpr ⟨0, by simpa using PlainJson.slot_first [],
    by simpa using PlainJson.slot_placeholder.room, PlainJson.sample_fits⟩
  exact ⟨t', ht', (h.2 t' ht').2.2.1⟩

theorem patch_changes_placeholders_sample :
    ∃ t', PlainJson.sample.patchBinary VISUARA_EMBEDDED_CONFIG_SLOT = .ok t'
      ∧ (∀ i, t'[i]? ≠ VISUARA_EMBEDDED_CONFIG_SLOT[i]? →
          EmbeddedConfig.InPlaceholder VISUARA_EMBEDDED_CONFIG_SLOT i)
      ∧ EmbeddedConfig.findInBinary t' = .ok (some PlainJson.sample) :=
  (EmbeddedConfig.patch_changes_placeholders_iff ⟨0, PlainJson.slot_placeholder⟩
    PlainJson.sample_fits PlainJson.sample_roundTrips).mpr
    ⟨0, by simpa using PlainJson.slot_first [], .inl PlainJson.slot_placeholder⟩

/-- A binary with the marker in front of program bytes, and the placeholder behind them. -/
def markerFirst : Bytes :=
  CONFIG_MAGIC ++ (List.replicate CONFIG_SLOT_SIZE 65 ++ VISUARA_EMBEDDED_CONFIG_SLOT)

theorem markerFirst_first : FirstAt markerFirst CONFIG_MAGIC 0 :=
  ⟨List.prefix_append _ _, fun q hq => absurd hq (Nat.not_lt_zero q)⟩

theorem markerFirst_program (k : Nat) (hk : k < CONFIG_SLOT_SIZE) :
    markerFirst[CONFIG_MAGIC.length + k]? = some 65 := by
  rw [markerFirst, List.getElem?_append_right (by omega), Nat.add_sub_cancel_left,
    List.getElem?_append_left (by rw [List.length_replicate]; exact hk), List.getElem?_replicate,
    if_pos hk]

/-- Patching it writes the config over the program bytes. -/
theorem program_bytes_overwritten :
    (∃ q, EmbeddedConfig.PlaceholderAt markerFirst q)
    ∧ ¬ ∃ t', PlainJson.sample.patchBinary markerFirst = .ok t'
      ∧ (∀ i, t'[i]? ≠ markerFirst[i]? → EmbeddedConfig.InPlaceholder markerFirst i)
      ∧ EmbeddedConfig.findInBinary t' = .ok (some PlainJson.sample) := by
  have hq : EmbeddedConfig.PlaceholderAt markerFirst (CONFIG_MAGIC.length + CONFIG_SLOT_SIZE) := by
    have hdrop : markerFirst.drop (CONFIG_MAGIC.length + CONFIG_SLOT_SIZE)
        = VISUARA_EMBEDDED_CONFIG_SLOT := by
      rw [markerFirst, ← List.drop_drop, List.drop_left, List.drop_left' List.length_replicate]
    show VISUARA_EMBEDDED_CONFIG_SLOT <+: markerFirst.drop _
    exact ⟨[], by rw [List.append_nil, hdrop]⟩
  refine ⟨⟨_, hq⟩, ?_⟩
  rintro ⟨t', h, hkeep, -⟩
  obtain ⟨p, hp, hroom, hfits, rfl⟩ := EmbeddedConfig.of_patchBinary_ok h
  obtain rfl := hp.unique markerFirst_first
  have hbare : ¬ EmbeddedConfig.PlaceholderAt markerFirst 0 := by
    intro hph
    have hin : EmbeddedConfig.InPlaceholder markerFirst (CONFIG_MAGIC.length + 0) :=
      ⟨0, hph, by omega, by rw [Nat.zero_add]; exact Nat.add_lt_add_left (by decide) _⟩
    have hzero := hin.zero
    rw [markerFirst_program 0 (by decide)] at hzero
    exact absurd hzero (by decide)
  have hsame := EmbeddedConfig.bare_marker_overwritten hp hbare hroom hfits
    PlainJson.sample_roundTrips.2 hkeep
  have hfirst : (PlainJson.sample.slot)[0]? = some 123 := by decide +kernel
  rw [← hsame, List.getElem?_take_of_lt (by decide), List.getElem?_drop, Nat.zero_add,
    markerFirst_program 0 (by decide)] at hfirst
  exact absurd hfirst (by decide)

end Visuara
