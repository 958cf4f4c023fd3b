/-
  Visuara.Client.Settings
  ───────────────────────
  **THE SETTINGS FILE AND THOSE WHO WRITE IT** (`gui.rs`, `local_settings.rs`).

  Three kinds of tasks read the file, change what they have read and write it
  back: the autosave after a login, the login that is to be remembered, and the
  logout that forgets it.  Nothing keeps them apart.

    • `settings`               — the three as tasks over one file;
    • `Undisturbed`            — the login in the file is still the one the
      autosave has read;
    • `autosave_keeps_login_iff` — only then the autosave leaves it alone.
-/
import Visuara.Client.Startup
import Visuara.Interleave.Rules

namespace Visuara.Client

open Interleave

/-! ## §1. The file. -/

/-- What is in the file; it is absent, or it can be parsed. -/
abbrev SettingsFile := Option LocalSettings

inductive SettingsOp where
  | load
  | save (settings : LocalSettings)
  deriving DecidableEq, Repr

@[reducible] def SettingsOp.Res : SettingsOp → Type
  | .load => Except String (Option LocalSettings)
  | .save _ => Except String Unit

instance (o : SettingsOp) : DecidableEq o.Res := by
  cases o <;> infer_instance

def SettingsOp.exec : (o : SettingsOp) → Unit → SettingsFile → o.Res × SettingsFile
  | .load, _, file => (.ok file, file)
  | .save settings, _, _ => (.ok (), some settings)

abbrev SettingsProg := Prog SettingsOp SettingsOp.Res

/-- The login that is remembered in a file. -/
def SettingsFile.remembered (file : SettingsFile) : Option RememberedLogin :=
  file.bind fun settings => settings.rememberedLogin

def LocalSettings.load : SettingsProg (Except String (Option LocalSettings)) :=
  Prog.perform SettingsOp.load

def LocalSettings.save (settings : LocalSettings) : SettingsProg (Except String Unit) :=
  Prog.perform (SettingsOp.save settings)

/-! ## §2. Those who write it. -/

/-- `unwrap_or_default()` -/
def unwrapOrDefault (loaded : Except String (Option LocalSettings)) : LocalSettings :=
  (okFlatten loaded).getD ⟨none, none, none⟩

theorem remembered_unwrapOrDefault (loaded : Except String (Option LocalSettings)) :
    (unwrapOrDefault loaded).rememberedLogin = SettingsFile.remembered (okFlatten loaded) := by
  unfold unwrapOrDefault SettingsFile.remembered
  cases okFlatten loaded <;> rfl

def autosaveLocalSettings (serverUrl deviceName : String) : SettingsProg Unit := do
  let settings := unwrapOrDefault (← LocalSettings.load)
  let _ ← LocalSettings.save { settings with
    serverUrl := some serverUrl, deviceName := some deviceName }
  pure ()

/-- What a login in the dashboard panel does when "Remember me" is checked. -/
def rememberMe (login : RememberedLogin) : SettingsProg Unit := do
  let settings := unwrapOrDefault (← LocalSettings.load)
  let _ ← LocalSettings.save { settings with rememberedLogin := some login }
  pure ()

def LocalSettings.clearRememberedLogin : SettingsProg (Except String Unit) := do
  match ← LocalSettings.load with
  | .error e => pure (.error e)
  | .ok none => pure (.ok ())
  | .ok (some settings) =>
    if settings.rememberedLogin.isSome then
      LocalSettings.save { settings with rememberedLogin := none }
    else pure (.ok ())

/-- A run of one of the three. -/
inductive SettingsTask where
  | autosave (serverUrl deviceName : String)
  | rememberMe (login : RememberedLogin)
  | clearRememberedLogin
  deriving DecidableEq, Repr

/-- Their results are discarded. -/
def SettingsTask.body : SettingsTask → SettingsProg Unit
  | .autosave serverUrl deviceName => autosaveLocalSettings serverUrl deviceName
  | .rememberMe login => Visuara.Client.rememberMe login
  | .clearRememberedLogin => do
    let _ ← LocalSettings.clearRememberedLogin
    pure ()

/-- The client as a pool of such tasks. -/
def settings : System SettingsOp SettingsOp.Res Unit SettingsFile SettingsTask Empty Unit where
  exec := SettingsOp.exec
  body := SettingsTask.body
  admits _ _ := true
  begins _ file := file
  conflict _ _ := false
  disturb e := nomatch e
  kills e := nomatch e

abbrev SettingsWorld := World SettingsOp SettingsOp.Res SettingsFile SettingsTask Empty Unit

abbrev SettingsEvent := Event SettingsOp SettingsOp.Res SettingsTask Empty

/-- Nothing is assumed. -/
def anySchedule : Assumption SettingsOp SettingsOp.Res Unit SettingsTask Empty := fun _ _ _ => true

abbrev SettingsRun (file : SettingsFile) (w : SettingsWorld) : Prop :=
  settings.Reachable anySchedule (World.initial file) w

/-! ## §3. What is saved. -/

/-- What a task has done before it saves, and what it saves. -/
def Saves (t : SettingsTask) (h : List (Call SettingsOp SettingsOp.Res)) : SettingsOp → Prop
  | .load => h = []
  | .save new =>
    match t with
    | .autosave _ _ => ∃ loaded, h = [⟨.load, loaded⟩]
        ∧ new.rememberedLogin = SettingsFile.remembered (okFlatten loaded)
    | .rememberMe login => new.rememberedLogin = some login
    | .clearRememberedLogin => new.rememberedLogin = none

theorem SettingsTask.saves (t : SettingsTask) :
    Prog.Follows (Saves t) (fun _ _ => True) (settings.body t) [] := by
  cases t with
  | autosave serverUrl deviceName =>
    refine ⟨rfl, fun loaded => ⟨⟨loaded, rfl, ?_⟩, fun _ => trivial⟩⟩
    exact remembered_unwrapOrDefault loaded
  | rememberMe login => exact ⟨rfl, fun loaded => ⟨rfl, fun _ => trivial⟩⟩
  | clearRememberedLogin =>
    refine ⟨rfl, fun loaded => ?_⟩
    cases loaded with
    | error e => trivial
    | ok found =>
      cases found with
      | none => trivial
      | some old =>
        show Prog.Follows _ _ ((if old.rememberedLogin.isSome then _ else _) >>= _) _
        split
        · exact ⟨rfl, fun _ => trivial⟩
        · trivial

/-! ## §4. When a remembered login survives. -/

/-- If the step is the save of an autosave, it leaves the login as it is. -/
def KeepsLogin (w w' : SettingsWorld) : Prop :=
  ∀ j serverUrl deviceName new r,
    w'.log = .call j (.autosave serverUrl deviceName) ⟨.save new, r⟩ :: w.log →
    w'.st.remembered = w.st.remembered

/-- If the step is the save of an autosave, the file remembers the login it
remembered when the autosave loaded it. -/
def Undisturbed (w w' : SettingsWorld) : Prop :=
  ∀ j serverUrl deviceName new r,
    w'.log = .call j (.autosave serverUrl deviceName) ⟨.save new, r⟩ :: w.log →
    ∀ loaded, Event.call j (.autosave serverUrl deviceName) ⟨.load, loaded⟩ ∈ w.log →
      SettingsFile.remembered (okFlatten loaded) = w.st.remembered

/-- The login that was last stored or forgotten, and `first` if none was. -/
def lastLogin (first : Option RememberedLogin) : List SettingsEvent → Option RememberedLogin
  | [] => first
  | .call _ (.autosave _ _) _ :: l => lastLogin first l
  | .call _ _ ⟨.save new, _⟩ :: _ => new.rememberedLogin
  | _ :: l => lastLogin first l

variable {file : SettingsFile} {w w' : SettingsWorld}

/-- What the autosave saves is the login it has loaded. -/
theorem autosave_step (h : SettingsRun file w) (hs : settings.Step anySchedule w w') {j : Nat}
    {serverUrl deviceName : String} {new : LocalSettings} {r : Except String Unit}
    (hlog : w'.log = .call j (.autosave serverUrl deviceName) ⟨.save new, r⟩ :: w.log) :
    ∃ loaded, hist j w.log = [⟨.load, loaded⟩]
      ∧ Event.call j (.autosave serverUrl deviceName) ⟨.load, loaded⟩ ∈ w.log
      ∧ w'.st.remembered = SettingsFile.remembered (okFlatten loaded) := by
  obtain ⟨_, k, hj, -, -, hst, -⟩ := hs.of_call hlog
  obtain ⟨loaded, hhist, hlogin⟩ := h.next_licensed SettingsTask.saves hj
  have hin : Call.mk SettingsOp.load loaded ∈ hist j w.log := hhist ▸ List.mem_cons_self
  refine ⟨loaded, hhist, h.event_of_hist hj hin, ?_⟩
  rw [hst, ← hlogin]
  rfl

/-- **An autosave leaves the login alone exactly when nobody has changed it
meanwhile.** -/
theorem keepsLogin_iff (h : SettingsRun file w) (hs : settings.Step anySchedule w w') :
    KeepsLogin w w' ↔ Undisturbed w w' := by
  constructor
  · intro hkeeps j serverUrl deviceName new r hlog loaded hin
    obtain ⟨loaded', hhist, -, hsaved⟩ := autosave_step h hs hlog
    have hsame : Call.mk SettingsOp.load loaded ∈ hist j w.log := mem_hist hin
    rw [hhist, List.mem_singleton] at hsame
    obtain ⟨-, hload⟩ := Call.mk.inj hsame
    rw [eq_of_heq hload, ← hsaved]
    exact hkeeps j serverUrl deviceName new r hlog
  · intro hundisturbed j serverUrl deviceName new r hlog
    obtain ⟨loaded, -, hin, hsaved⟩ := autosave_step h hs hlog
    rw [hsaved]
    exact hundisturbed j serverUrl deviceName new r hlog loaded hin

/-- A step that keeps the login where an autosave saves: the file remembers what
was last stored or forgotten. -/
theorem lastLogin_step (hs : settings.Step anySchedule w w') (hkeeps : KeepsLogin w w')
    {first : Option RememberedLogin} (hold : w.st.remembered = lastLogin first w.log) :
    w'.st.remembered = lastLogin first w'.log := by
  cases hs with
  | start t _ _ => exact hold
  | @call j t o k d hj _ =>
    cases o with
    | load =>
      cases t with
      | autosave | rememberMe | clearRememberedLogin => exact hold
    | save new =>
      cases t with
      | autosave serverUrl deviceName => exact (hkeeps j serverUrl deviceName new _ rfl).trans hold
      | rememberMe | clearRememberedLogin => rfl
  | env e => exact nomatch e

/-- **A remembered login is safe from the autosave**, in runs in which nobody
changes it between an autosave's load and its save; and only there. -/
theorem autosave_keeps_login_iff (h : SettingsRun file w) (hs : settings.Step anySchedule w w') :
    (KeepsLogin w w' ↔ Undisturbed w w')
      ∧ (settings.ReachableWhen anySchedule Undisturbed (World.initial file) w →
        w.st.remembered = lastLogin file.remembered w.log) := by
  refine ⟨keepsLogin_iff h hs, fun hwhen => ?_⟩
  clear hs h
  induction hwhen with
  | refl => rfl
  | tail hr hstep ih =>
    have hrun := System.ReachableWhen.reachable hr
    exact lastLogin_step hstep.1 ((keepsLogin_iff hrun hstep.1).mpr hstep.2) ih

/-! ## §5. Schedules. -/

/-- An autosave that nobody disturbs, but for its last step. -/
def aloneMoves : List (System.Move Unit SettingsTask Empty) :=
  [.start (.autosave "wss://a/ws" "pc"), .step 0 ()]

theorem aloneMoves_plays :
    (settings.playAll anySchedule aloneMoves (World.initial none)).isSome = true := by decide

theorem aloneSave_plays :
    (settings.play anySchedule (.step 0 ()) (Option.get _ aloneMoves_plays)).isSome = true := by
  decide

theorem autosave_keeps_login_alone : ∃ w w', w'.st = some ⟨some "wss://a/ws", some "pc", none⟩
    ∧ (KeepsLogin w w' ↔ Undisturbed w w')
    ∧ (settings.ReachableWhen anySchedule Undisturbed (World.initial none) w →
      w.st.remembered = lastLogin (SettingsFile.remembered none) w.log) := by
  have hrun : SettingsRun none (Option.get _ aloneMoves_plays) :=
    System.playAll_reachable .refl (Option.some_get aloneMoves_plays).symm
  refine ⟨Option.get _ aloneMoves_plays, Option.get _ aloneSave_plays, by decide, ?_⟩
  exact autosave_keeps_login_iff hrun
    (System.play_step hrun.numbered (Option.some_get aloneSave_plays).symm)

/-- A logout between the load and the save of an autosave. -/
def forgotten : List (System.Move Unit SettingsTask Empty) :=
  [.start (.autosave "wss://a/ws" "pc"), .step 0 (), .start .clearRememberedLogin, .step 1 (),
    .step 1 ()]

/-- A file with a login. -/
def withLogin : SettingsFile := some ⟨none, none, some ⟨"a@b.c", "secret"⟩⟩

theorem forgotten_plays :
    (settings.playAll anySchedule forgotten (World.initial withLogin)).isSome = true := by decide

theorem resurrecting_plays :
    (settings.play anySchedule (.step 0 ()) (Option.get _ forgotten_plays)).isSome = true := by
  decide

/-- The login that was forgotten is written back. -/
theorem login_written_back : ¬ ∀ (file : SettingsFile) (w w' : SettingsWorld),
    SettingsRun file w → settings.Step anySchedule w w' → KeepsLogin w w' := by
  intro h
  have hrun : SettingsRun withLogin (Option.get _ forgotten_plays) :=
    System.playAll_reachable .refl (Option.some_get forgotten_plays).symm
  have hstep := System.play_step hrun.numbered (Option.some_get resurrecting_plays).symm
  have hkeeps := h _ _ _ hrun hstep 0 "wss://a/ws" "pc"
    ⟨some "wss://a/ws", some "pc", some ⟨"a@b.c", "secret"⟩⟩ (.ok ()) rfl
  have hsame : some (RememberedLogin.mk "a@b.c" "secret") = none := hkeeps
  exact absurd hsame nofun

end Visuara.Client
