/-
  Visuara.Common.EmbeddedConfig
  ─────────────────────────────
  **THE CONFIG SLOT OF A CLIENT BINARY** (`visuara-common/src/embedded_config.rs`).

  A client binary carries a marker followed by a fixed-size slot; the server
  overwrites the slot with a JSON config before it serves the download.
  `serde_json` is a parameter.
-/
import Mathlib.Init

namespace Visuara

abbrev Bytes := List UInt8

structure EmbeddedConfig where
  serverUrl : Option String
  deviceName : Option String
  deriving DecidableEq, Repr

/-- `serde_json`, on `EmbeddedConfig`. -/
class SerdeJson where
  toVec : EmbeddedConfig → Bytes
  fromSlice : Bytes → Except String EmbeddedConfig

def CONFIG_MAGIC : Bytes := "VISUARA_EMBEDDED_CONFIG_V1".toUTF8.toList ++ [0]

def CONFIG_SLOT_SIZE : Nat := 4096

/-- `haystack.windows(needle.len()).position(|w| w == needle)`. -/
def findSubslice (haystack needle : Bytes) : Option Nat :=
  if needle.isPrefixOf haystack then some 0
  else match haystack with
    | [] => none
    | _ :: rest => (findSubslice rest needle).map (· + 1)

namespace EmbeddedConfig

variable [SerdeJson]

/-- The slot content: the JSON, padded with zero bytes. -/
def toSlotBytes (c : EmbeddedConfig) : Except String Bytes :=
  let json := SerdeJson.toVec c
  if json.length > CONFIG_SLOT_SIZE then
    .error s!"embedded config is {json.length} bytes, exceeds the {CONFIG_SLOT_SIZE}-byte slot"
  else .ok (json ++ List.replicate (CONFIG_SLOT_SIZE - json.length) 0)

/-- The config in a slot: what precedes the first zero byte. -/
def fromSlotBytes (bytes : Bytes) : Except String EmbeddedConfig :=
  let stop := (bytes.findIdx? (· == 0)).getD bytes.length
  match SerdeJson.fromSlice (bytes.take stop) with
  | .ok c => .ok c
  | .error _ => .error "parse embedded config JSON"

/-- The config behind the first marker of a binary; a binary without the marker
is a development build, not an error. -/
def findInBinary (data : Bytes) : Except String (Option EmbeddedConfig) :=
  match findSubslice data CONFIG_MAGIC with
  | none => .ok none
  | some pos =>
    let start := pos + CONFIG_MAGIC.length
    let stop := min (start + CONFIG_SLOT_SIZE) data.length
    if stop ≤ start then .ok none
    else
      match fromSlotBytes ((data.take stop).drop start) with
      | .ok c => .ok (some c)
      | .error e => .error e

/-- A copy of `template` with the slot overwritten by this config. -/
def patchBinary (c : EmbeddedConfig) (template : Bytes) : Except String Bytes :=
  match findSubslice template CONFIG_MAGIC with
  | none => .error
      "template binary has no embedded-config marker — was it built from a version with embedded_config support?"
  | some pos =>
    let start := pos + CONFIG_MAGIC.length
    let stop := start + CONFIG_SLOT_SIZE
    if stop ≤ template.length then
      match c.toSlotBytes with
      | .ok slot => .ok (template.take start ++ slot ++ template.drop stop)
      | .error e => .error e
    else .error "template binary's config slot is truncated"

end EmbeddedConfig

/-- The slot as it is compiled into a client: the marker and zero bytes. -/
def VISUARA_EMBEDDED_CONFIG_SLOT : Bytes := CONFIG_MAGIC ++ List.replicate CONFIG_SLOT_SIZE 0

end Visuara
