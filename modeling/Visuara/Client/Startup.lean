/-
  Visuara.Client.Startup
  ──────────────────────
  **HOW THE CLIENT STARTS** (`visuara-client/src/main.rs`, `gui.rs`,
  `local_settings.rs`, `saved_credentials.rs`).

  The client reads its own executable for the config that was patched into it.
  A value the user gives wins over the embedded one, and the embedded one over
  the built-in default.
-/
import Visuara.Common.EmbeddedConfig
import Visuara.Common.Signaling

namespace Visuara.Client

/-! ## §1. What is there at the start. -/

structure RememberedLogin where
  email : String
  password : String
  deriving DecidableEq, Repr

/-- The settings file of this machine. -/
structure LocalSettings where
  serverUrl : Option String
  deviceName : Option String
  rememberedLogin : Option RememberedLogin
  deriving DecidableEq, Repr

/-- The file behind unattended access. -/
structure SavedCredentials where
  serverUrl : String
  email : String
  password : String
  deviceName : String
  deriving DecidableEq, Repr

/-- `.ok().flatten()` -/
def okFlatten {α : Type} : Except String (Option α) → Option α
  | .ok found => found
  | .error _ => none

section

variable [SerdeJson]

/-- `EmbeddedConfig::read_from_current_exe`, on what reading the executable gives. -/
def readFromCurrentExe : Except String Bytes → Except String (Option EmbeddedConfig)
  | .ok data => EmbeddedConfig.findInBinary data
  | .error e => .error e

/-- The embedded config the client starts with; by default there is none. -/
def embedded (exe : Except String Bytes) : EmbeddedConfig :=
  (okFlatten (readFromCurrentExe exe)).getD ⟨none, none⟩

end

/-- The built-in server. -/
def defaultServerUrl : String := "ws://127.0.0.1:8080/ws"

/-- The built-in device name. -/
def defaultDeviceName : String := "this-machine"

/-- `given.or(embedded.server_url).unwrap_or_else(..)` -/
def chooseServerUrl (given : Option String) (config : EmbeddedConfig) : String :=
  (given.or config.serverUrl).getD defaultServerUrl

/-- `given.or(embedded.device_name).unwrap_or_else(..)` -/
def chooseDeviceName (given : Option String) (config : EmbeddedConfig) : String :=
  (given.or config.deviceName).getD defaultDeviceName

/-! ## §2. The graphical app. -/

/-- The fields of the window the user can fill in. -/
structure VisuaraApp where
  serverUrl : String
  email : String
  password : String
  deviceName : String
  targetDeviceId : String
  otp : String
  selectedMonitorId : Option Nat
  unattendedPassword : String
  useUnattendedPassword : Bool
  rememberMe : Bool
  deriving DecidableEq, Repr

/-- `VisuaraApp::new`, on the embedded config and what loading the settings file gives. -/
def VisuaraApp.new (config : EmbeddedConfig) (settings : Except String (Option LocalSettings)) :
    VisuaraApp :=
  let settings := (okFlatten settings).getD ⟨none, none, none⟩
  let remembered := settings.rememberedLogin
  { serverUrl := chooseServerUrl settings.serverUrl config
    email := (remembered.map (·.email)).getD ""
    password := (remembered.map (·.password)).getD ""
    deviceName := chooseDeviceName settings.deviceName config
    targetDeviceId := ""
    otp := ""
    selectedMonitorId := none
    unattendedPassword := ""
    useUnattendedPassword := false
    rememberMe := remembered.isSome }

/-! ## §3. The command line. -/

inductive Command where
  | gui
  | host (serverUrl : Option String) (email password : String) (deviceName : Option String)
  | hostAutostart
  | controller (serverUrl : Option String) (email password targetDeviceId otp : String)
      (unattended : Bool)
  deriving DecidableEq, Repr

/-- What `main` calls in the end. -/
inductive Launch where
  | gui (app : VisuaraApp)
  | registerAndServe (serverUrl email password deviceName : String)
  | connect (serverUrl email password targetDeviceId : String) (credential : ConnectCredential)
  deriving DecidableEq, Repr

/-- What a subcommand calls. -/
def Command.launch (config : EmbeddedConfig) (settings : Except String (Option LocalSettings))
    (credentials : Except String (Option SavedCredentials)) : Command → Except String Launch
  | .gui => .ok (.gui (.new config settings))
  | .host serverUrl email password deviceName =>
    .ok (.registerAndServe (chooseServerUrl serverUrl config) email password
      (chooseDeviceName deviceName config))
  | .hostAutostart =>
    match credentials with
    | .ok (some c) => .ok (.registerAndServe c.serverUrl c.email c.password c.deviceName)
    | .ok none =>
      .error "no saved credentials — enable unattended access from the app first"
    | .error e => .error e
  | .controller serverUrl email password targetDeviceId otp unattended =>
    let credential := if unattended then ConnectCredential.unattendedPassword otp
      else .oneTimePassword otp
    .ok (.connect (chooseServerUrl serverUrl config) email password targetDeviceId credential)

/-- `main`: without a subcommand the graphical app starts. -/
def main [SerdeJson] (exe : Except String Bytes) (settings : Except String (Option LocalSettings))
    (credentials : Except String (Option SavedCredentials)) (command : Option Command) :
    Except String Launch :=
  (command.getD .gui).launch (embedded exe) settings credentials

end Visuara.Client
