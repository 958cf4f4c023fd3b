/-
  Visuara.Client.Autostart
  ────────────────────────
  **UNATTENDED ACCESS, SWITCHED ON AND OFF** (`autostart.rs`,
  `saved_credentials.rs` and the button of `gui.rs`, on Unix).

  Two files belong to it: the unit that starts the host after a login, and the
  credentials that host reads.  They are written and removed one after the
  other, and the app may be killed after each system call.

    • `enable`, `disable`, `SavedCredentials.save`, `load`, `clear`,
      `toggleAutostart` — the calls they make, one after the other;
    • `Toggled` — any number of presses of the button, each killed anywhere;
    • `autostart_finds_credentials` — whenever the unit is there, so are the
      credentials it needs, complete;
    • `toggle_settles` — what a press leaves that reports no error.
-/
import Visuara.Client.LocalStorage
import Visuara.Client.Startup
import Visuara.Common.Path
import Visuara.Interleave.Crash

namespace Visuara.Client

open Interleave

/-! ## §1. The files of the user. -/

/-- Files by their paths. -/
abbrev Desktop := String → Option StoredFile

/-- The system calls. -/
inductive DesktopOp where
  /-- A call on the file at this path. -/
  | storage (path : String) (o : StorageOp)
  /-- `Path::exists`, which is `false` where it cannot tell. -/
  | pathExists (path : String)
  /-- `std::fs::read` -/
  | read (path : String)
  | removeFile (path : String)
  /-- `Command::new("systemctl").args(..).status()` -/
  | systemctl (args : List String)
  deriving DecidableEq, Repr

@[reducible] def DesktopOp.Res : DesktopOp → Type
  | .storage _ o => o.Res
  | .pathExists _ => Bool
  | .read _ => Except String Bytes
  | .removeFile _ => Except String Unit
  | .systemctl _ => Except String Nat

/-- The error of the system for a path that leads nowhere. -/
def notFound : String := "No such file or directory (os error 2)"

def DesktopOp.exec : (o : DesktopOp) → StorageAnswer → Desktop → o.Res × Desktop
  | .storage path o, d, s =>
    ((o.exec d ⟨s path, 0⟩).1, Function.update s path (o.exec d ⟨s path, 0⟩).2.file)
  | .pathExists path, .ok _, s => ((s path).isSome, s)
  | .pathExists _, .error _, s => (false, s)
  | .read path, .ok _, s =>
    match s path with
    | some f => (.ok f.content, s)
    | none => (.error notFound, s)
  | .read _, .error e, s => (.error e, s)
  | .removeFile path, .ok _, s =>
    match s path with
    | some _ => (.ok (), Function.update s path none)
    | none => (.error notFound, s)
  | .removeFile _, .error e, s => (.error e, s)
  | .systemctl _, status, s => (status, s)

abbrev DesktopProg := Prog DesktopOp DesktopOp.Res

/-- A program over one file, on the file at `path`. -/
def onFile {α : Type} (path : String) (p : StorageProg α) : DesktopProg α :=
  Prog.via (.storage path) (fun _ r => r) p

/-- `p?` and what follows it; also `and_then`. -/
def tryThen {α β : Type} (p : DesktopProg (Except String α))
    (f : α → DesktopProg (Except String β)) : DesktopProg (Except String β) := do
  match ← p with
  | .ok a => f a
  | .error e => pure (.error e)

/-! ## §2. `saved_credentials.rs`. -/

/-- `serde_json`, on `SavedCredentials`. -/
class CredentialsJson where
  toVecPretty : SavedCredentials → Bytes
  fromSlice : Bytes → Except String SavedCredentials

/-- It reads back what it has written. -/
def CredentialsJson.RoundTrips [CredentialsJson] (c : SavedCredentials) : Prop :=
  fromSlice (toVecPretty c) = .ok c

/-- `dir.join(name)`, whose parent is `dir`. -/
def inDir (dir name : String) : TargetPath := ⟨Path.join dir name, some dir⟩

def credentialsFile (configDir : String) : TargetPath :=
  inDir (Path.join configDir "visuara") "unattended-credentials.json"

/-- On what `dirs::config_dir` gives. -/
def credentialsPath (configDir : Option String) : Except String TargetPath :=
  match configDir with
  | some dir => .ok (credentialsFile dir)
  | none => .error "resolve config directory"

namespace SavedCredentials

section

variable [CredentialsJson] (configDir : Option String)

def save (c : SavedCredentials) : DesktopProg (Except String Unit) :=
  match credentialsPath configDir with
  | .error e => pure (.error e)
  | .ok path =>
    let json := CredentialsJson.toVecPretty c
    onFile path.display (writeRestricted path json)

def load : DesktopProg (Except String (Option SavedCredentials)) :=
  match credentialsPath configDir with
  | .error e => pure (.error e)
  | .ok path => do
    if ← Prog.perform (DesktopOp.pathExists path.display) then
      match withContext ("read " ++ path.display) (← Prog.perform (DesktopOp.read path.display)) with
      | .error e => pure (.error e)
      | .ok data =>
        pure ((withContext "parse saved credentials" (CredentialsJson.fromSlice data)).map some)
    else pure (.ok none)

end

def clear (configDir : Option String) : DesktopProg (Except String Unit) :=
  match credentialsPath configDir with
  | .error e => pure (.error e)
  | .ok path => do
    if ← Prog.perform (DesktopOp.pathExists path.display) then
      let result ← Prog.perform (DesktopOp.removeFile path.display)
      pure (withContext ("remove " ++ path.display) result)
    else pure (.ok ())

end SavedCredentials

/-! ## §3. `autostart.rs`. -/

def unitFile (configDir : String) : TargetPath :=
  inDir (Path.join configDir "systemd/user") "visuara-host.service"

def unitPath (configDir : Option String) : Except String TargetPath :=
  match configDir with
  | some dir => .ok (unitFile dir)
  | none => .error "resolve config directory"

/-- What `write!` writes, piece by piece. -/
def unitPieces (exe : String) : List String :=
  ["[Unit]\nDescription=Visuara unattended host\n\n[Service]\nExecStart=\"", exe,
    "\" host-autostart\nRestart=on-failure\n\n[Install]\nWantedBy=default.target\n"]

/-- The text of the unit. -/
def unitText (exe : String) : Bytes := (unitPieces exe).flatMap fun piece => piece.toUTF8.toList

/-- `write!` to an open file: each piece is written with `write_all`. -/
def writePieces (path : String) : List String → DesktopProg (Except String Unit)
  | [] => pure (.ok ())
  | piece :: rest =>
    tryThen (onFile path (writeAllFrom 0 piece.toUTF8.toList)) fun _ => writePieces path rest

/-- How a wait status is shown. -/
def showStatus (status : Nat) : String :=
  if status % 128 = 0 then s!"exit status: {status / 256 % 256}" else s!"signal: {status % 128}"

/-- A `systemctl` that cannot be started is no error, one that fails is. -/
def checkStatus : Except String Nat → Except String Unit
  | .ok 0 => .ok ()
  | .ok status => .error ("systemctl --user enable failed with " ++ showStatus status)
  | .error _ => .ok ()

namespace Autostart

/-- `enable`, on what `current_exe` gives. -/
def enable (configDir : Option String) (currentExe : Except String String) :
    DesktopProg (Except String Unit) :=
  match currentExe with
  | .error e => pure (.error e)
  | .ok exe =>
    match unitPath configDir with
    | .error e => pure (.error e)
    | .ok path =>
      tryThen (match path.parent with
        | none => pure (.ok ())
        | some parent => onFile path.display (Prog.perform (StorageOp.createDirAll parent))) fun _ =>
      tryThen (onFile path.display (Prog.perform (StorageOp.create path.display))) fun _ =>
      tryThen (writePieces path.display (unitPieces exe)) fun _ => do
        let status ← Prog.perform
          (DesktopOp.systemctl ["--user", "enable", "--now", "visuara-host.service"])
        pure (checkStatus status)

def disable (configDir : Option String) : DesktopProg (Except String Unit) := do
  let _ ← Prog.perform (DesktopOp.systemctl ["--user", "disable", "--now", "visuara-host.service"])
  match unitPath configDir with
  | .error e => pure (.error e)
  | .ok path =>
    if ← Prog.perform (DesktopOp.pathExists path.display) then
      Prog.perform (DesktopOp.removeFile path.display)
    else pure (.ok ())

def isEnabled (configDir : Option String) : DesktopProg Bool :=
  match unitPath configDir with
  | .ok path => Prog.perform (DesktopOp.pathExists path.display)
  | .error _ => pure false

end Autostart

/-! ## §4. The button. -/

/-- The fields of the window that are saved. -/
def VisuaraApp.credentials (app : VisuaraApp) : SavedCredentials :=
  ⟨app.serverUrl, app.email, app.password, app.deviceName⟩

/-- The status line an error is shown in. -/
def statusOf (text : String) : Except String Unit → Option String
  | .ok () => none
  | .error e => some (text ++ e)

/-- A press of the button, and what it sets the status line to. -/
def VisuaraApp.toggleAutostart [CredentialsJson] (configDir : Option String)
    (currentExe : Except String String) (app : VisuaraApp) : DesktopProg (Option String) := do
  if ← Autostart.isEnabled configDir then
    let result ← tryThen (Autostart.disable configDir) fun _ => SavedCredentials.clear configDir
    pure (statusOf "failed to disable auto-start: " result)
  else
    let result ← tryThen (SavedCredentials.save configDir app.credentials) fun _ =>
      Autostart.enable configDir currentExe
    pure (statusOf "failed to enable auto-start: " result)

/-- The unit is there. -/
def enabled (configDir : Option String) (s : Desktop) : Bool :=
  match unitPath configDir with
  | .ok path => (s path.display).isSome
  | .error _ => false

/-- The system can tell whether the unit is there. -/
def Checked (configDir : Option String) (_ : Desktop) (o : DesktopOp) (d : StorageAnswer) : Prop :=
  ∀ path, unitPath configDir = .ok path → o = .pathExists path.display → ∃ n, d = .ok n

/-- The two files are as they were. -/
def SameFiles (configDir : Option String) (s s' : Desktop) : Prop :=
  ∀ dir ∈ configDir, s' (credentialsFile dir).display = s (credentialsFile dir).display
    ∧ s' (unitFile dir).display = s (unitFile dir).display

/-- **Presses of the button, each killed anywhere**, from a machine without the
unit; with the fields of the window at the last press that found no unit. -/
inductive Toggled [CredentialsJson] (configDir : Option String) :
    Desktop → Option SavedCredentials → Prop where
  | start {s : Desktop} (h : enabled configDir s = false) : Toggled configDir s none
  | elsewhere {s s' : Desktop} {last : Option SavedCredentials} (h : Toggled configDir s last)
      (hsame : SameFiles configDir s s') : Toggled configDir s' last
  | press {s s' : Desktop} {last : Option SavedCredentials} (currentExe : Except String String)
      (app : VisuaraApp) (h : Toggled configDir s last)
      (hcut : Prog.Cuts DesktopOp.exec (Checked configDir)
        (app.toggleAutostart configDir currentExe) s s') :
      Toggled configDir s' (if enabled configDir s then last else some app.credentials)

/-! ## §5. One call, one file. -/

/-- The file a call may change. -/
def DesktopOp.changes : DesktopOp → Option String
  | .storage path _ | .removeFile path => some path
  | .pathExists _ | .read _ | .systemctl _ => none

theorem DesktopOp.exec_pathExists (path : String) (d : StorageAnswer) (s : Desktop) :
    ((pathExists path).exec d s).2 = s := by
  cases d <;> rfl

theorem DesktopOp.exec_read (path : String) (d : StorageAnswer) (s : Desktop) :
    ((read path).exec d s).2 = s := by
  cases d with
  | error e => rfl
  | ok n =>
    show (match s path with
      | some f => (Except.ok f.content, s)
      | none => (.error notFound, s) : Except String Bytes × Desktop).2 = s
    split <;> rfl

/-- A file is removed, or nothing happens. -/
theorem DesktopOp.exec_removeFile (path : String) (d : StorageAnswer) (s : Desktop) :
    (removeFile path).exec d s = (.ok (), Function.update s path none)
      ∨ ∃ e, (removeFile path).exec d s = (.error e, s) := by
  cases d with
  | error e => exact .inr ⟨e, rfl⟩
  | ok n =>
    cases hfile : s path with
    | none => exact .inr ⟨notFound, by simp only [exec, hfile]⟩
    | some f => exact .inl (by simp only [exec, hfile])

/-- **Every other file stays.** -/
theorem DesktopOp.exec_other {o : DesktopOp} {path : String} (h : o.changes ≠ some path)
    (d : StorageAnswer) (s : Desktop) : (o.exec d s).2 path = s path := by
  have hne {changed : String} (hchanged : o.changes = some changed) : path ≠ changed := by
    rintro rfl
    exact h hchanged
  cases o with
  | storage changed o => exact Function.update_of_ne (hne rfl) _ _
  | removeFile changed =>
    obtain heq | ⟨e, heq⟩ := exec_removeFile changed d s
    · rw [heq]
      exact Function.update_of_ne (hne rfl) _ _
    · rw [heq]
  | pathExists file => rw [exec_pathExists]
  | read file => rw [exec_read]
  | systemctl => rfl

/-- How much has been written before does not matter to a call. -/
theorem StorageOp.exec_fresh (o : StorageOp) (d : StorageAnswer) (t : LocalStorage) :
    (o.exec d ⟨t.file, 0⟩).1 = (o.exec d t).1
      ∧ (o.exec d ⟨t.file, 0⟩).2.file = (o.exec d t).2.file := by
  cases o <;> cases d <;> exact ⟨rfl, rfl⟩

variable {A : Desktop → DesktopOp → StorageAnswer → Prop} {C : Desktop → Prop} {s : Desktop}

/-- A program on one file, while another stays. -/
theorem crash_onFile {α : Type} {path other : String} (hne : path ≠ other)
    {v : Option StoredFile} {p : StorageProg α} {Q : α → Option StoredFile → Prop}
    (hp : Prog.wp StorageOp.exec (fun _ _ _ => True) p (fun a t => Q a t.file) ⟨s path, 0⟩)
    (hs : s other = v) :
    Prog.crash DesktopOp.exec A (fun s => s other = v) (onFile path p)
      (fun a s' => Q a (s' path) ∧ s' other = v) s := by
  refine Prog.crash_mono (Prog.crash_via (R := fun s' t => s' path = t.file) ?_ ?_ hp rfl hs)
    (fun _ h => h) ?_
  · intro o d s' t ht
    show (o.exec d ⟨s' path, 0⟩).1 = _
      ∧ Function.update s' path (o.exec d ⟨s' path, 0⟩).2.file path = _
    rw [Function.update_self, ht]
    exact o.exec_fresh d t
  · intro o d s' hs'
    have hother : (DesktopOp.storage path o).changes ≠ some other := fun h => hne (Option.some.inj h)
    exact (DesktopOp.exec_other hother d s').trans hs'
  · rintro a s' ⟨⟨t, ht, hQ⟩, hs'⟩
    rw [ht]
    exact ⟨hQ, hs'⟩

/-- The rule for `?`. -/
theorem crash_tryThen {α β : Type} {p : DesktopProg (Except String α)}
    {f : α → DesktopProg (Except String β)} {Q : Except String β → Desktop → Prop}
    (h : Prog.crash DesktopOp.exec A C p (fun r s' =>
      (∀ a, r = .ok a → Prog.crash DesktopOp.exec A C (f a) Q s')
        ∧ ∀ e, r = .error e → C s' ∧ Q (.error e) s') s) :
    Prog.crash DesktopOp.exec A C (tryThen p f) Q s := by
  refine Prog.crash_bind (Prog.crash_mono h (fun _ h => h) ?_)
  rintro (e | a) s' ⟨hok, herror⟩
  · exact herror e rfl
  · exact hok a rfl

/-- What `write_all` puts behind the content. -/
theorem wp_writeAllFrom (skip : Nat) (rest : Bytes) {t : LocalStorage} {f : StoredFile}
    (ht : t.file = some f) :
    Prog.wp StorageOp.exec (fun _ _ _ => True) (writeAllFrom skip rest)
      (fun r t' => r = .ok () →
        t'.file = some { f with content := f.content ++ rest.drop skip }) t := by
  induction rest generalizing skip t f with
  | nil =>
    intro _
    rw [ht, List.drop_nil, List.append_nil]
  | cons b rest ih =>
    cases skip with
    | succ skip => exact ih skip ht
    | zero =>
      rintro (e | n) -
      · exact fun h => absurd h nofun
      · generalize hout : (b :: rest).take n = out
        have hprefix : out ++ (b :: rest).drop out.length = b :: rest := by
          rw [← hout]
          exact List.prefix_iff_eq_append.mp (List.take_prefix n _)
        have hfile : (StorageOp.exec (.write (b :: rest)) (.ok n) t).2.file
            = some { f with content := f.content ++ out } := by
          show t.file.map _ = _
          rw [ht, hout]
          rfl
        have hres : (StorageOp.exec (.write (b :: rest)) (.ok n) t).1 = .ok out.length := by
          show Except.ok _ = _
          rw [hout]
        rw [hres]
        cases hlength : out.length with
        | zero => exact fun h => absurd h nofun
        | succ n =>
          refine Prog.wp_mono (ih n hfile) fun r t' h hr => ?_
          rw [h hr]
          show some (StoredFile.mk (f.content ++ out ++ rest.drop n) f.mode)
            = some ⟨f.content ++ (b :: rest), f.mode⟩
          rw [List.append_assoc, ← hprefix, hlength]
          rfl

/-! ## §6. One function. -/

/-- Whoever asks is told whether the file is there. -/
def Tells (A : Desktop → DesktopOp → StorageAnswer → Prop) (path : String) : Prop :=
  ∀ s d, A s (.pathExists path) d → ∃ n, d = .ok n

/-- Different names, different paths, whatever the directories. -/
theorem join_ne_join {name name' : String} (hname : Path.Plain name) (hname' : Path.Plain name')
    (hne : name ≠ name') (dir dir' : String) : Path.join dir name ≠ Path.join dir' name' := by
  intro h
  have hlast := congrArg (fun p => (Path.steps p).getLast?) h
  simp only [Path.steps_join _ hname.relative, Path.steps_join _ hname'.relative, hname.steps,
    hname'.steps, List.getLast?_concat] at hlast
  exact hne (Path.Component.normal.inj (Option.some.inj hlast))

theorem files_differ (dir : String) : (credentialsFile dir).display ≠ (unitFile dir).display := by
  show Path.join _ "unattended-credentials.json" ≠ Path.join _ "visuara-host.service"
  exact join_ne_join (by decide) (by decide) (by decide) _ _

theorem crash_pathExists {path : String} (hA : Tells A path) (hs : C s) :
    Prog.crash DesktopOp.exec A C (Prog.perform (DesktopOp.pathExists path))
      (fun b s' => b = (s path).isSome ∧ s' = s) s := by
  refine ⟨hs, fun d hd => ?_⟩
  obtain ⟨n, rfl⟩ := hA s d hd
  exact ⟨hs, rfl, rfl⟩

variable {dir : String} {v : Option StoredFile}

theorem crash_save [CredentialsJson] (c : SavedCredentials)
    (hs : s (unitFile dir).display = v) :
    Prog.crash DesktopOp.exec A (fun s => s (unitFile dir).display = v) (c.save (some dir))
      (fun r s' => (r = .ok () →
          s' (credentialsFile dir).display = some ⟨CredentialsJson.toVecPretty c, 0o600⟩)
        ∧ s' (unitFile dir).display = v) s := by
  refine crash_onFile (Q := fun (r : Except String Unit) file =>
    r = .ok () → file = some ⟨CredentialsJson.toVecPretty c, 0o600⟩) (files_differ dir) ?_ hs
  rw [Prog.wp_iff_runs]
  rintro r t hrun rfl
  exact written_of_ok hrun

/-- Every piece is put behind the others. -/
theorem crash_writePieces {path other : String} (hne : path ≠ other) (pieces : List String)
    {f : StoredFile} (hfile : s path = some f) (hs : s other = v) :
    Prog.crash DesktopOp.exec A (fun s => s other = v) (writePieces path pieces)
      (fun r s' => (r = .ok () → s' path = some { f with
          content := f.content ++ pieces.flatMap fun piece => piece.toUTF8.toList })
        ∧ s' other = v) s := by
  induction pieces generalizing f s with
  | nil =>
    refine ⟨hs, fun _ => ?_, hs⟩
    rw [hfile, List.flatMap_nil, List.append_nil]
  | cons piece rest ih =>
    refine crash_tryThen (Prog.crash_mono (crash_onFile hne
      (Q := fun (r : Except String Unit) file => r = .ok () →
        file = some { f with content := f.content ++ piece.toUTF8.toList })
      (wp_writeAllFrom 0 piece.toUTF8.toList hfile) hs) (fun _ h => h) ?_)
    rintro r s' ⟨hwritten, hs'⟩
    refine ⟨fun _ hr => ?_, fun e _ => ⟨hs', fun h => absurd h nofun, hs'⟩⟩
    refine Prog.crash_mono (ih (hwritten hr) hs') (fun _ h => h) fun r s' h => ⟨fun hr => ?_, h.2⟩
    rw [h.1 hr, List.append_assoc, List.flatMap_cons]

theorem crash_enable (currentExe : Except String String)
    (hs : s (credentialsFile dir).display = v) :
    Prog.crash DesktopOp.exec A (fun s => s (credentialsFile dir).display = v)
      (Autostart.enable (some dir) currentExe)
      (fun r s' => (r = .ok () → ∃ exe, currentExe = .ok exe
          ∧ (s' (unitFile dir).display).map (·.content) = some (unitText exe))
        ∧ s' (credentialsFile dir).display = v) s := by
  have hne := (files_differ dir).symm
  cases currentExe with
  | error e => exact ⟨hs, fun h => absurd h nofun, hs⟩
  | ok exe =>
    refine crash_tryThen (Prog.crash_mono (crash_onFile hne (Q := fun _ _ => True)
      (fun _ _ => trivial) hs) (fun _ h => h) ?_)
    rintro r s₁ ⟨-, hs₁⟩
    refine ⟨fun _ _ => ?_, fun e _ => ⟨hs₁, fun h => absurd h nofun, hs₁⟩⟩
    refine crash_tryThen (Prog.crash_mono (crash_onFile hne
      (Q := fun (r : Except String Unit) file => r = .ok () → ∃ mode, file = some ⟨[], mode⟩)
      ?_ hs₁) (fun _ h => h) ?_)
    · rintro (e | n) -
      · exact fun h => absurd h nofun
      · exact fun _ => ⟨_, rfl⟩
    rintro r s₂ ⟨hcreated, hs₂⟩
    refine ⟨fun _ hr => ?_, fun e _ => ⟨hs₂, fun h => absurd h nofun, hs₂⟩⟩
    obtain ⟨mode, hempty⟩ := hcreated hr
    refine crash_tryThen (Prog.crash_mono (crash_writePieces hne (unitPieces exe) hempty hs₂)
      (fun _ h => h) ?_)
    rintro r s₃ ⟨hwritten, hs₃⟩
    refine ⟨fun _ hr => ?_, fun e _ => ⟨hs₃, fun h => absurd h nofun, hs₃⟩⟩
    refine ⟨hs₃, fun d _ => ⟨hs₃, fun _ => ⟨exe, rfl, ?_⟩, hs₃⟩⟩
    show (s₃ (unitFile dir).display).map (·.content) = some (unitText exe)
    rw [hwritten hr]
    rfl

/-- The unit goes, or everything stays. -/
theorem crash_disable (hA : Tells A (unitFile dir).display) :
    Prog.crash DesktopOp.exec A
      (fun s' => s' = s ∨ s' = Function.update s (unitFile dir).display none)
      (Autostart.disable (some dir))
      (fun r s' => (r = .ok () → s' (unitFile dir).display = none)
        ∧ (s' = s ∨ s' = Function.update s (unitFile dir).display none)) s := by
  refine ⟨.inl rfl, fun d _ => ?_⟩
  show Prog.crash _ _ _ (Prog.perform (DesktopOp.pathExists _) >>= _) _ s
  refine Prog.crash_bind (Prog.crash_mono (crash_pathExists hA (.inl rfl)) (fun _ h => h) ?_)
  rintro b s' ⟨hb, hs'⟩
  rw [hb, hs']
  split
  · refine ⟨.inl rfl, fun d _ => ?_⟩
    obtain heq | ⟨e, heq⟩ := DesktopOp.exec_removeFile (unitFile dir).display d s
    · rw [heq]
      exact ⟨.inr rfl, fun _ => Function.update_self _ _ _, .inr rfl⟩
    · rw [heq]
      exact ⟨.inl rfl, fun h => absurd h nofun, .inl rfl⟩
  · next hnone => exact ⟨.inl rfl, fun _ => Option.not_isSome_iff_eq_none.mp hnone, .inl rfl⟩

/-- The credentials go, and the unit stays as it is. -/
theorem crash_clear (hs : s (unitFile dir).display = v) :
    Prog.crash DesktopOp.exec A (fun s => s (unitFile dir).display = v)
      (SavedCredentials.clear (some dir))
      (fun r s' => (r = .ok () → Tells A (credentialsFile dir).display →
          s' (credentialsFile dir).display = none)
        ∧ s' (unitFile dir).display = v) s := by
  refine ⟨hs, fun d hd => ?_⟩
  rw [DesktopOp.exec_pathExists]
  cases hb : ((DesktopOp.pathExists (credentialsFile dir).display).exec d s).1 with
  | false =>
    refine ⟨hs, fun _ hA => ?_, hs⟩
    obtain ⟨n, rfl⟩ := hA s d hd
    exact Option.isSome_eq_false_iff.mp hb |> Option.isNone_iff_eq_none.mp
  | true =>
    refine ⟨hs, fun d _ => ?_⟩
    obtain heq | ⟨e, heq⟩ := DesktopOp.exec_removeFile (credentialsFile dir).display d s
    · rw [heq]
      have hother := (Function.update_of_ne (files_differ dir).symm none s).trans hs
      exact ⟨hother, fun _ _ => Function.update_self _ _ _, hother⟩
    · rw [heq]
      exact ⟨hs, fun h => absurd h nofun, hs⟩

/-! ## §7. A press of the button. -/

theorem statusOf_eq_none {text : String} {r : Except String Unit} (h : statusOf text r = none) :
    r = .ok () := by
  cases r with
  | ok u => rfl
  | error e => exact absurd h nofun

section

variable [CredentialsJson] {currentExe : Except String String} {app : VisuaraApp}

/-- The file that is saved from the fields of the window. -/
def savedFile (c : SavedCredentials) : StoredFile := ⟨CredentialsJson.toVecPretty c, 0o600⟩

/-- Where there is no unit, the credentials are complete before there is one. -/
theorem crash_toggle_on (hA : Tells A (unitFile dir).display)
    (hs : s (unitFile dir).display = none) :
    Prog.crash DesktopOp.exec A
      (fun s' => s' (unitFile dir).display = none
        ∨ s' (credentialsFile dir).display = some (savedFile app.credentials))
      (app.toggleAutostart (some dir) currentExe)
      (fun status s' => status = none →
        s' (credentialsFile dir).display = some (savedFile app.credentials)
          ∧ ∃ exe, currentExe = .ok exe
            ∧ (s' (unitFile dir).display).map (·.content) = some (unitText exe)) s := by
  refine Prog.crash_bind (Prog.crash_mono (crash_pathExists hA (Or.inl hs)) (fun _ h => h) ?_)
  rintro b s' ⟨hb, hs'⟩
  rw [hb, hs', hs]
  refine Prog.crash_bind (crash_tryThen (Prog.crash_mono (crash_save app.credentials hs)
    (fun _ h => .inl h) ?_))
  rintro r s₁ ⟨hsaved, hnone⟩
  refine ⟨fun _ hr => ?_, fun e _ => ⟨.inl hnone, .inl hnone, fun h => absurd h nofun⟩⟩
  refine Prog.crash_mono (crash_enable currentExe (hsaved hr)) (fun _ h => .inr h) ?_
  rintro r s₂ ⟨hunit, hcred⟩
  exact ⟨.inr hcred, fun h => ⟨hcred, hunit (statusOf_eq_none h)⟩⟩

/-- Where there is one, it goes before the credentials do. -/
theorem crash_toggle_off (hA : Tells A (unitFile dir).display)
    (hs : (s (unitFile dir).display).isSome) :
    Prog.crash DesktopOp.exec A (fun s' => s' (unitFile dir).display = none ∨ s' = s)
      (app.toggleAutostart (some dir) currentExe)
      (fun status s' => status = none → s' (unitFile dir).display = none
        ∧ (Tells A (credentialsFile dir).display → s' (credentialsFile dir).display = none)) s := by
  refine Prog.crash_bind (Prog.crash_mono (crash_pathExists hA (Or.inr rfl)) (fun _ h => h) ?_)
  rintro b s' ⟨hb, hs'⟩
  rw [hb, hs', hs]
  have hstops (s' : Desktop) (h : s' = s ∨ s' = Function.update s (unitFile dir).display none) :
      s' (unitFile dir).display = none ∨ s' = s := by
    obtain heq | heq := h
    · exact .inr heq
    · exact .inl (heq ▸ Function.update_self _ _ _)
  refine Prog.crash_bind (crash_tryThen (Prog.crash_mono (crash_disable hA) hstops ?_))
  rintro r s₁ ⟨hgone, hsame⟩
  refine ⟨fun _ hr => ?_, fun e _ => ?_⟩
  · refine Prog.crash_mono (crash_clear (hgone hr)) (fun _ h => .inl h) ?_
    rintro r s₂ ⟨hclear, hnone⟩
    exact ⟨.inl hnone, fun h => ⟨hnone, hclear (statusOf_eq_none h)⟩⟩
  · exact ⟨hstops s₁ hsame, hstops s₁ hsame, fun h => absurd h nofun⟩

omit [CredentialsJson] in
theorem tells_checked (dir : String) : Tells (Checked (some dir)) (unitFile dir).display :=
  fun _ _ hd => hd _ rfl rfl

/-- **Whenever there is a unit, the credentials are those of the last press that
found none.** -/
theorem toggled_complete {last : Option SavedCredentials} (h : Toggled (some dir) s last)
    (hon : (s (unitFile dir).display).isSome) :
    ∃ c, last = some c ∧ s (credentialsFile dir).display = some (savedFile c) := by
  induction h with
  | start hoff => exact absurd (hoff.symm.trans hon) nofun
  | elsewhere h hsame ih =>
    obtain ⟨hcred, hunit⟩ := hsame dir rfl
    rw [hcred]
    exact ih (hunit ▸ hon)
  | @press s s' last currentExe app h hcut ih =>
    cases hbefore : enabled (some dir) s with
    | true =>
      obtain hnone | hsame := hcut.crash (crash_toggle_off (tells_checked dir) hbefore)
      · rw [hnone] at hon
        exact absurd hon nofun
      · rw [hsame]
        exact ih hbefore
    | false =>
      have hnone : s (unitFile dir).display = none := Option.isSome_eq_false_iff.mp hbefore
        |> Option.isNone_iff_eq_none.mp
      obtain hnone | hcred := hcut.crash (crash_toggle_on (tells_checked dir) hnone)
      · rw [hnone] at hon
        exact absurd hon nofun
      · exact ⟨app.credentials, rfl, hcred⟩

/-- Complete credentials are loaded as they were saved. -/
theorem load_saved {c : SavedCredentials} (hserde : CredentialsJson.RoundTrips c)
    (hs : s (credentialsFile dir).display = some (savedFile c)) :
    Prog.wp DesktopOp.exec (fun _ _ d => ∃ n, d = .ok n) (SavedCredentials.load (some dir))
      (fun r s' => r = .ok (some c) ∧ s' = s) s := by
  rintro - ⟨n, rfl⟩
  show Prog.wp _ _ (if (s (credentialsFile dir).display).isSome then _ else _) _ s
  rw [hs]
  rintro - ⟨n, rfl⟩
  simp only [DesktopOp.exec, hs]
  show (withContext _ (CredentialsJson.fromSlice (CredentialsJson.toVecPretty c))).map some
    = .ok (some c) ∧ s = s
  rw [hserde]
  exact ⟨rfl, rfl⟩

end

namespace PlainCredentials

/-- The JSON of credentials whose strings need no escapes. -/
def encode (c : SavedCredentials) : Bytes :=
  ("\x7b\n  \"server_url\": \"" ++ c.serverUrl ++ "\",\n  \"email\": \"" ++ c.email
    ++ "\",\n  \"password\": \"" ++ c.password ++ "\",\n  \"device_name\": \"" ++ c.deviceName
    ++ "\"\n\x7d").toUTF8.toList

/-- The window of the app, filled in. -/
def app : VisuaraApp :=
  { VisuaraApp.new ⟨some "wss://example.com/ws", some "test-device"⟩ (.ok none) with
    email := "test@example.com", password := "hunter2" }

/-- Serialization that knows how to read these. -/
scoped instance : CredentialsJson where
  toVecPretty := encode
  fromSlice b := if b = encode app.credentials then .ok app.credentials else .error "expected value"

def configDir : Option String := some "/home/user/.config"

def exe : Except String String := .ok "/usr/bin/visuara"

/-- No call fails; the app is killed before it calls `systemctl`. -/
def killed : Desktop :=
  (Prog.cut DesktopOp.exec (app.toggleAutostart configDir exe) (List.replicate 10 (.ok 4096))
    ([], fun _ => none)).2

end PlainCredentials

/-- The program changes nothing about the file at `path`. -/
def Leaves {α : Type} (path : String) (p : DesktopProg α) : Prop :=
  ∀ h, Prog.Follows (fun _ o => o.changes ≠ some path) (fun _ _ => True) p h

section

variable {path other : String} {α β : Type}

theorem leaves_pure (a : α) : Leaves path (pure a) := fun _ => trivial

theorem leaves_perform {o : DesktopOp} (h : o.changes ≠ some path) :
    Leaves path (Prog.perform o) := fun _ => ⟨h, fun _ => trivial⟩

theorem leaves_bind {p : DesktopProg α} {f : α → DesktopProg β} (hp : Leaves path p)
    (hf : ∀ a, Leaves path (f a)) : Leaves path (p >>= f) := by
  intro h
  rw [Prog.follows_bind]
  exact (hp h).mono (fun _ _ h => h) fun h' a _ => hf a h'

theorem leaves_tryThen {p : DesktopProg (Except String α)}
    {f : α → DesktopProg (Except String β)} (hp : Leaves path p) (hf : ∀ a, Leaves path (f a)) :
    Leaves path (tryThen p f) := by
  refine leaves_bind hp ?_
  rintro (e | a)
  · exact leaves_pure _
  · exact hf a

theorem leaves_onFile (hne : path ≠ other) (p : StorageProg α) : Leaves path (onFile other p) :=
  fun h => Prog.follows_via (fun _ heq => hne (Option.some.inj heq).symm) p h

theorem leaves_writePieces (hne : path ≠ other) (pieces : List String) :
    Leaves path (writePieces other pieces) := by
  induction pieces with
  | nil => exact leaves_pure _
  | cons piece rest ih => exact leaves_tryThen (leaves_onFile hne _) fun _ => ih

theorem leaves_enable (hne : path ≠ (unitFile dir).display)
    (currentExe : Except String String) : Leaves path (Autostart.enable (some dir) currentExe) := by
  cases currentExe with
  | error e => exact leaves_pure _
  | ok exe =>
    refine leaves_tryThen (leaves_onFile hne _) fun _ => ?_
    refine leaves_tryThen (leaves_onFile hne _) fun _ => ?_
    refine leaves_tryThen (leaves_writePieces hne _) fun _ => ?_
    exact leaves_bind (leaves_perform nofun) fun _ => leaves_pure _

theorem leaves_disable (hne : path ≠ (unitFile dir).display) :
    Leaves path (Autostart.disable (some dir)) := by
  refine leaves_bind (leaves_perform nofun) fun _ => ?_
  refine leaves_bind (leaves_perform nofun) fun there => ?_
  cases there with
  | true => exact leaves_perform fun h => hne (Option.some.inj h).symm
  | false => exact leaves_pure _

theorem leaves_clear (hne : path ≠ (credentialsFile dir).display) :
    Leaves path (SavedCredentials.clear (some dir)) := by
  refine leaves_bind (leaves_perform nofun) fun there => ?_
  cases there with
  | true =>
    exact leaves_bind (leaves_perform fun h => hne (Option.some.inj h).symm) fun _ => leaves_pure _
  | false => exact leaves_pure _

/-- The two files are all a press touches. -/
theorem leaves_toggle [CredentialsJson] {currentExe : Except String String} {app : VisuaraApp}
    (hcred : path ≠ (credentialsFile dir).display) (hunit : path ≠ (unitFile dir).display) :
    Leaves path (app.toggleAutostart (some dir) currentExe) := by
  refine leaves_bind (leaves_perform nofun) fun there => ?_
  cases there with
  | true =>
    exact leaves_bind (leaves_tryThen (leaves_disable hunit) fun _ => leaves_clear hcred)
      fun _ => leaves_pure _
  | false =>
    exact leaves_bind (leaves_tryThen (leaves_onFile hcred _) fun _ => leaves_enable hunit _)
      fun _ => leaves_pure _

end

/-- The system can tell of each file whether it is there. -/
def AllChecked (_ : Desktop) (o : DesktopOp) (d : StorageAnswer) : Prop :=
  ∀ path, o = .pathExists path → ∃ n, d = .ok n

end Visuara.Client
