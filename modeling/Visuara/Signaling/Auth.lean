/-
  Visuara.Signaling.Auth
  ──────────────────────
  **GENERATED TEXTS AND THE CRATES BEHIND THEM**
  (`visuara-signaling/src/auth.rs`, `turn.rs`).

  Every generator is a function of the random numbers it draws (`rng i` is
  the `i`-th).  `argon2`, `hmac`/`sha1`/`base64` and `serde_json` are
  parameters, gathered in `Crates`.
-/
import Visuara.Common.EmbeddedConfig
import Mathlib.Data.List.Basic

namespace Visuara.Signaling

/-- The third-party functions the server calls. -/
class Crates extends SerdeJson where
  /-- `Argon2::hash_password(password, salt)`, as text. -/
  argon2Hash : (password salt : String) → Except String String
  /-- `PasswordHash::new(hash)` and `Argon2::verify_password`. -/
  argon2Verify : (password hash : String) → Bool
  /-- `base64(HMAC-SHA1(secret, message))`. -/
  hmacSha1Base64 : (secret message : String) → String

/-! ## §1. Passwords. -/

section

variable [Crates]

def hashPassword (password salt : String) : Except String String :=
  match Crates.argon2Hash password salt with
  | .ok hash => .ok hash
  | .error e => .error s!"failed to hash password: {e}"

def verifyPassword (password hash : String) : Bool := Crates.argon2Verify password hash

end

/-! ## §2. Random texts. -/

/-- `format!("{:0w$}", n)`. -/
def padded (w n : Nat) : String := String.ofList (List.leftpad w '0' (Nat.toDigits 10 n))

/-- The alphabet of `rand`'s `Alphanumeric`. -/
def alphanumeric : List Char :=
  "ABCDEFGHIJKLMNOPQRSTUVWXYZabcdefghijklmnopqrstuvwxyz0123456789".toList

def randomAlnum (len : Nat) (rng : Nat → Nat) : String :=
  String.ofList ((List.range len).map fun i => alphanumeric.getD (rng i % 62) 'A')

def generateSessionToken (rng : Nat → Nat) : String := randomAlnum 32 rng

/-- An 8-digit one-time password for attended access. -/
def generateOneTimePassword (rng : Nat → Nat) : String :=
  padded 4 (rng 0 % 10000) ++ " " ++ padded 4 (rng 1 % 10000)

/-- A 9-digit device id, grouped for readability. -/
def generateDeviceId (rng : Nat → Nat) : String :=
  padded 3 (rng 0 % 1000) ++ " " ++ padded 3 (rng 1 % 1000) ++ " " ++ padded 3 (rng 2 % 1000)

def hexDigit (n : Nat) : Char := "0123456789abcdef".toList.getD (n % 16) '0'

/-- `Uuid::new_v4().to_string()`: version nibble 4, variant nibble 8 to b. -/
def newV4 (rng : Nat → Nat) : String :=
  let hex (i n : Nat) := (List.range n).map fun k => hexDigit (rng (i + k))
  String.ofList (hex 0 8 ++ ['-'] ++ hex 8 4 ++ ['-', '4'] ++ hex 12 3 ++ ['-']
    ++ [hexDigit (8 + rng 15 % 4)] ++ hex 16 3 ++ ['-'] ++ hex 19 12)

/-! ## §3. TURN credentials. -/

structure TurnConfig where
  urls : List String
  sharedSecret : String
  deriving DecidableEq

/-- Username `<expiry>:<label>`, password its keyed hash. -/
def mintCredentials [Crates] (cfg : TurnConfig) (label : String) (ttlSecs nowSecs : Nat) :
    String × String :=
  let expiry := nowSecs + ttlSecs
  let username := s!"{expiry}:{label}"
  (username, Crates.hmacSha1Base64 cfg.sharedSecret username)

end Visuara.Signaling
