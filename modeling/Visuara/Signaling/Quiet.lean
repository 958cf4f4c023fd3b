/-
  Visuara.Signaling.Quiet
  ───────────────────────
  **REQUESTS THAT CHANGE LITTLE.**

  About half of the HTTP routes perform quiet operations only (`Op.quiet`),
  whatever the other tasks do meanwhile; two more only write settings, and
  never the registration flag (`Op.tame`).  They are dealt with once here, for
  every property of the tables and maps.
-/
import Visuara.Signaling.Api

namespace Visuara.Signaling

open Interleave

/-- The program performs operations of kind `P` only. -/
abbrev Only {α : Type} (P : Op → Bool) (p : Act α) (h : List (Call Op Op.Res)) : Prop :=
  Prog.Follows (fun _ o => P o = true) (fun _ _ => True) p h

abbrev Quiet {α : Type} (p : Act α) (h : List (Call Op Op.Res)) : Prop := Only Op.quiet p h

/-- The operations of a fetch: it asks for a release, puts a template in place and
names its version. -/
def Op.publishes : Op → Bool
  | .fetchLatestRelease _ | .fileCreate _ | .fileWriteAt .. | .fileRename .. => true
  | .db (.setSetting key _) => key ∈ PLATFORMS.map clientVersionKey
  | _ => false

/-- Quiet operations that leave the files alone. -/
abbrev Looks {α : Type} (p : Act α) (h : List (Call Op Op.Res)) : Prop :=
  Only (fun o => !o.publishes && o.quiet) p h

/-- Quiet operations, and writes of settings other than the registration flag. -/
def Op.tame : Op → Bool
  | .db (.setSetting key _) => key ≠ REGISTRATION_ENABLED
  | o => o.quiet

abbrev Tame {α : Type} (p : Act α) (h : List (Call Op Op.Res)) : Prop := Only Op.tame p h

/-- The routes that only look. -/
def Request.looks : Request → Bool
  | .me _ | .registrationStatus | .listDevices _ | .getSettings _ | .clientBuilds _
  | .listAccounts _ | .accountDetail .. | .getRegistration _ | .listDownloads _
  | .downloadPlatform _ => true
  | _ => false

variable {α β : Type} {P : Op → Bool} {h : List (Call Op Op.Res)}

theorem Only.bind {p : Act β} {f : β → Act α} (hp : Only P p h) (hf : ∀ b h', Only P (f b) h') :
    Only P (p >>= f) h := by
  rw [Only, Prog.follows_bind]
  exact hp.mono (fun _ _ h => h) fun h' b _ => hf b h'

theorem Only.perform {o : Op} (ho : P o = true) : Only P (perform o) h :=
  ⟨ho, fun _ => trivial⟩

theorem Only.query {q : Query} (hq : P (.db q) = true) : Only P (Handler.query q).run h :=
  ⟨hq, fun _ => trivial⟩

theorem Only.mapM {f : β → Act α} {l : List β} (hf : ∀ b h', Only P (f b) h') :
    Only P (l.mapM f) h :=
  Prog.follows_mapM (fun _ => True) (fun b _ h' _ => hf b h') trivial

/-- In a `Handler`, an error ends the program. -/
theorem Only.run_bind {x : Handler β} {f : β → Handler α} (hx : Only P x.run h)
    (hf : ∀ b h', Only P (f b).run h') : Only P (x >>= f).run h := by
  rw [ExceptT.run_bind]
  refine hx.bind fun r h' => ?_
  cases r with
  | ok b => exact hf b h'
  | error e => trivial

/-! ## §1. The functions the handlers call. -/

theorem looks_settingOrNone (key : String) : Looks (Api.settingOrNone key) h :=
  (Only.perform rfl).bind fun _ _ => trivial

theorem looks_registrationEnabled : Looks registrationEnabled h := by
  refine (Only.perform rfl).bind fun r h' => ?_
  rcases r with e | (_ | v) <;> trivial

theorem looks_deviceSummaries (devices : List Device) : Looks (deviceSummaries devices) h :=
  Only.mapM fun _ _ => (Only.perform rfl).bind fun _ _ => trivial

theorem looks_resolveTemplatePath (info : PlatformInfo) (dir dir' : String) :
    Looks (resolveTemplatePath info dir dir') h := by
  refine (Only.perform rfl).bind fun found h' => ?_
  cases found with
  | true => trivial
  | false =>
    refine (Only.perform rfl).bind fun found h' => ?_
    cases found <;> trivial

theorem looks_requireAccount (headers : HeaderMap) {f : Except Status AuthedAccount → Act α}
    (hf : ∀ r h', Looks (f r) h') : Looks (requireAccount headers >>= f) h := by
  rw [requireAccount_bind]
  cases cookieValue headers SESSION_COOKIE with
  | none => exact hf _ _
  | some token =>
    refine ⟨rfl, fun r => ?_⟩
    rcases r with e | (_ | account)
    · exact hf _ _
    · exact hf _ _
    · exact hf _ _

theorem only_withAdmin (headers : HeaderMap) {handler : Act Response}
    (hfind : ∀ token, P (.db (.findSession token)) = true) (hp : ∀ h', Only P handler h') :
    Only P (Api.withAdmin headers handler) h := by
  rw [Api.withAdmin_eq]
  cases cookieValue headers SESSION_COOKIE with
  | none => trivial
  | some token =>
    refine ⟨hfind token, fun r => ?_⟩
    rcases r with e | (_ | account)
    · trivial
    · trivial
    · dsimp only
      split
      · exact hp _
      · trivial

theorem looks_withAdmin (headers : HeaderMap) {handler : Act Response}
    (hp : ∀ h', Looks handler h') : Looks (Api.withAdmin headers handler) h :=
  only_withAdmin headers (fun _ => rfl) hp

theorem looks_clientBuildStatus (config : Config) (platform : PlatformInfo) :
    Looks (Api.clientBuildStatus config platform) h := by
  refine (looks_resolveTemplatePath _ _ _).bind fun found h' => ?_
  rcases found with _ | ⟨_, _ | _⟩
  · trivial
  · trivial
  · refine (looks_settingOrNone _).bind fun version h' => ?_
    refine (looks_settingOrNone _).bind fun fetchedAt h' => ?_
    cases fetchedAt.bind Api.parseI64 with
    | none => trivial
    | some ts => exact (Only.perform rfl).bind fun _ _ => trivial

theorem looks_downloadOption (config : Config) (detected : Option String)
    (platform : PlatformInfo) : Looks (Api.downloadOption config detected platform) h := by
  refine (looks_resolveTemplatePath _ _ _).bind fun found h' => ?_
  rcases found with _ | ⟨_, _ | _⟩
  · trivial
  · trivial
  · exact (looks_settingOrNone _).bind fun _ _ => (looks_settingOrNone _).bind fun _ _ => trivial

/-! ## §2. The routes. -/

theorem looks_me (headers : HeaderMap) : Looks (Api.me headers) h := by
  simp only [Api.me, currentAccount]
  cases cookieValue headers SESSION_COOKIE with
  | none => trivial
  | some token =>
    refine ⟨rfl, fun r => ?_⟩
    rcases r with e | (_ | account) <;> trivial

theorem looks_accountDetail (headers : HeaderMap) (id : Int) :
    Looks (Api.accountDetail headers id) h := by
  refine looks_withAdmin headers fun h' => (Only.perform rfl).bind fun found h' => ?_
  rcases found with e | (_ | account)
  · trivial
  · trivial
  · exact (Only.perform rfl).bind fun _ _ =>
      (looks_deviceSummaries _).bind fun _ _ => trivial

variable [Crates]

theorem looks_downloadPlatform (platform : String) : Looks (Api.downloadPlatform platform) h := by
  simp only [Api.downloadPlatform]
  cases PLATFORMS.find? fun p => p.key == platform with
  | none => trivial
  | some info =>
    refine (Only.perform rfl).bind fun config h' => ?_
    refine (looks_resolveTemplatePath _ _ _).bind fun found h' => ?_
    rcases found with _ | ⟨path, _⟩
    · trivial
    · refine (Only.perform rfl).bind fun template h' => ?_
      cases template with
      | error e => trivial
      | ok template =>
        refine (looks_settingOrNone _).bind fun url h' => ?_
        refine (looks_settingOrNone _).bind fun name h' => ?_
        split <;> trivial

/-- **A route that only looks performs quiet operations only.** -/
theorem looks_route {req : Request} (hreq : req.looks = true) : Looks (Api.route req) h := by
  cases req with
  | me headers => exact looks_me headers
  | registrationStatus => exact looks_registrationEnabled.bind fun _ _ => trivial
  | listDevices headers =>
    refine looks_requireAccount headers fun r h' => ?_
    cases r with
    | error status => trivial
    | ok account =>
      exact (Only.perform rfl).bind fun _ _ => (looks_deviceSummaries _).bind fun _ _ => trivial
  | getSettings headers =>
    exact looks_withAdmin headers fun _ => (looks_settingOrNone _).bind fun _ _ =>
      (looks_settingOrNone _).bind fun _ _ => trivial
  | clientBuilds headers =>
    exact looks_withAdmin headers fun _ => (Only.perform rfl).bind fun config _ =>
      (Only.mapM fun platform _ => looks_clientBuildStatus config platform).bind
        fun _ _ => trivial
  | listAccounts headers =>
    exact looks_withAdmin headers fun _ => (Only.perform rfl).bind fun _ _ => trivial
  | accountDetail headers id => exact looks_accountDetail headers id
  | getRegistration headers =>
    exact looks_withAdmin headers fun _ => looks_registrationEnabled.bind fun _ _ => trivial
  | listDownloads headers =>
    exact (looks_settingOrNone _).bind fun _ _ => (Only.perform rfl).bind fun config _ =>
      (Only.mapM fun platform _ => looks_downloadOption config _ platform).bind fun _ _ => trivial
  | downloadPlatform platform => exact looks_downloadPlatform platform
  | _ => exact absurd hreq (by simp [Request.looks])

theorem quiet_route {req : Request} (hreq : req.looks = true) : Quiet (Api.route req) h :=
  (looks_route hreq).mono (fun _ _ ho => (Bool.and_eq_true _ _ ▸ ho).2) fun _ _ h => h

/-! ## §3. Requests that write settings. -/

section Settings

omit [Crates]

theorem tame_of_quiet {o : Op} (ho : o.quiet = true) : o.tame = true := by
  cases o with
  | db q =>
    cases q with
    | setSetting => exact absurd ho Bool.false_ne_true
    | _ => exact ho
  | _ => exact ho

theorem tame_setSetting {key value : String} (hkey : key ≠ REGISTRATION_ENABLED) :
    (Op.db (.setSetting key value)).tame = true := by
  simp [Op.tame, hkey]

theorem tame_context {x : Handler α} (message : String) (hx : Tame x.run h) :
    Tame (Handler.context x message).run h := by
  refine Only.bind hx fun r h' => ?_
  cases r <;> trivial

theorem tame_writeFrom (inode : Nat) (bytes : Bytes) :
    ∀ offset h, Tame (writeFrom inode offset bytes).run h := by
  induction bytes with
  | nil => exact fun _ _ => trivial
  | cons b bytes ih =>
    intro offset h
    exact Only.run_bind (Only.perform rfl) fun _ h' => ih (offset + 1) h'

/-- Texts with different first characters differ. -/
theorem append_ne {a s b : String} (ha : a.toList.head?.isSome)
    (hab : a.toList.head? ≠ b.toList.head?) : a ++ s ≠ b := by
  rintro rfl
  rw [String.toList_append, List.head?_append, Option.or_of_isSome ha] at hab
  exact hab rfl

/-- The two settings of a platform are not the registration flag. -/
theorem client_keys_ne (platform : PlatformInfo) :
    clientVersionKey platform ≠ REGISTRATION_ENABLED
      ∧ clientFetchedAtKey platform ≠ REGISTRATION_ENABLED :=
  ⟨append_ne (by decide) (by decide), append_ne (by decide) (by decide)⟩

theorem tame_fetchOnePlatform (dir : String) (release : GithubRelease) (platform : PlatformInfo) :
    Tame (fetchOnePlatform dir release platform).run h := by
  simp only [fetchOnePlatform]
  split
  · trivial
  · refine Only.run_bind (tame_context _ (Only.perform rfl)) fun bytes _ => ?_
    refine Only.run_bind (tame_context _ ?_) fun _ _ => ?_
    · exact Only.run_bind (Only.perform rfl) fun inode h' => tame_writeFrom inode _ 0 h'
    · refine Only.run_bind (tame_context _ (Only.perform rfl)) fun _ _ => ?_
      rw [Handler.lift_bind]
      refine (Only.perform rfl).bind fun now _ => ?_
      have hkeys := client_keys_ne platform
      refine Only.run_bind (Only.query (tame_setSetting hkeys.1)) fun _ _ => ?_
      exact Only.run_bind (Only.query (tame_setSetting hkeys.2)) fun _ _ => trivial

theorem tame_fetchAndStore (dir repo : String) : Tame (fetchAndStore dir repo).run h := by
  refine Only.run_bind (Only.perform rfl) fun release _ => ?_
  have hone : ∀ platform h, Tame (ExceptT.run (do
      let outcome ← ExceptT.lift (fetchOnePlatform dir release platform).run
      pure (⟨platform.key, outcome⟩ : FetchResult) : Handler FetchResult)) h := by
    intro platform h
    rw [Handler.lift_bind]
    exact (tame_fetchOnePlatform dir release platform).bind fun _ _ => trivial
  simp only [PLATFORMS, List.mapM_cons, List.mapM_nil]
  exact Only.run_bind (hone _ _) fun _ _ => Only.run_bind
    (Only.run_bind (hone _ _) fun _ _ => Only.run_bind trivial fun _ _ => trivial)
    fun _ _ => trivial

end Settings

/-- The requests that write settings, and no registration flag. -/
def Request.configures : Request → Bool
  | .saveSettings .. | .fetchRelease _ => true
  | _ => false

/-- **A route that looks or configures is tame.** -/
theorem tame_route {req : Request} (hreq : req.looks = true ∨ req.configures = true) :
    Tame (Api.route req) h := by
  rcases hreq with hreq | hreq
  · exact (quiet_route hreq).mono (fun _ _ ho => tame_of_quiet ho) fun _ _ h => h
  · cases req with
    | saveSettings headers url name =>
      refine only_withAdmin headers (fun _ => rfl) fun h' => ?_
      refine Only.bind (Only.perform (tame_setSetting (by decide))) fun _ _ => ?_
      exact Only.bind (Only.perform (tame_setSetting (by decide))) fun _ _ => trivial
    | fetchRelease headers =>
      refine only_withAdmin headers (fun _ => rfl) fun h' => (Only.perform rfl).bind fun config _ => ?_
      refine (tame_fetchAndStore _ _).bind fun r _ => ?_
      cases r <;> trivial
    | _ => exact absurd hreq (by simp [Request.configures])

end Visuara.Signaling
