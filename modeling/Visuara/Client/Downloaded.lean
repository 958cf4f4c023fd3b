/-
  Visuara.Client.Downloaded
  ─────────────────────────
  **WHAT THE ADMIN SAVES AND WHAT A DOWNLOADED CLIENT USES.**

  From `PUT /admin/settings` through the settings table and the patcher to the
  start of a downloaded client.  A blank value is stored and embedded as the
  empty string, which the client takes for a value (`uses_of_embedded`); a value
  that does not fit the slot is stored all the same, and the download fails.
-/
import Visuara.Client.Startup
import Visuara.Common.Patching
import Visuara.Signaling.Alone

namespace Visuara.Client

open Interleave Signaling Slice Relational

/-! ## §1. A client without settings of its own. -/

section

variable [SerdeJson]

/-- A client that was started from `exe`, with no local settings and no value
given on the command line, uses this server and this device name. -/
structure Uses (exe : Bytes) (serverUrl deviceName : String) : Prop where
  gui : ∀ credentials command, command = none ∨ command = some .gui →
    ∃ app, main (.ok exe) (.ok none) credentials command = .ok (.gui app)
      ∧ app.serverUrl = serverUrl ∧ app.deviceName = deviceName
  host : ∀ credentials email password,
    main (.ok exe) (.ok none) credentials (some (.host none email password none))
      = .ok (.registerAndServe serverUrl email password deviceName)
  controller : ∀ credentials email password target otp unattended, ∃ credential,
    main (.ok exe) (.ok none) credentials (some (.controller none email password target otp unattended))
      = .ok (.connect serverUrl email password target credential)

/-- Every part of the client starts from the embedded config. -/
theorem uses_of_embedded {exe : Bytes} {c : EmbeddedConfig}
    (h : EmbeddedConfig.findInBinary exe = .ok (some c)) :
    Uses exe (c.serverUrl.getD defaultServerUrl) (c.deviceName.getD defaultDeviceName) := by
  have hc : embedded (.ok exe) = c := by
    rw [embedded, readFromCurrentExe, h]
    rfl
  refine ⟨fun credentials command hcommand => ?_, fun _ _ _ => ?_, fun _ _ _ _ _ unattended => ?_⟩
  · obtain rfl | rfl := hcommand
    · exact ⟨.new c (.ok none), by rw [main, hc]; rfl, rfl, rfl⟩
    · exact ⟨.new c (.ok none), by rw [main, hc]; rfl, rfl, rfl⟩
  · rw [main, hc]
    rfl
  · exact ⟨_, by rw [main, hc]; rfl⟩

/-- It uses one server and one device name. -/
theorem Uses.unique {exe : Bytes} {u u' n n' : String} (h : Uses exe u n) (h' : Uses exe u' n') :
    u = u' ∧ n = n' := by
  have hhost := (h.host (.ok none) "" "").symm.trans (h'.host (.ok none) "" "")
  injection hhost with hhost
  injection hhost with hu _ _ hn
  exact ⟨hu, hn⟩

end

/-- A value, or the default where it is blank. -/
def orDefault (value default : String) : String := if value = "" then default else value

/-! ## §2. Saving the settings. -/

/-- The value stored under `key`. -/
def settingOf (db : Db) (key : String) : Option String :=
  (db.settings.lookup key).map Setting.value

/-- The config a download gets. -/
def storedConfig (db : Db) : EmbeddedConfig :=
  ⟨settingOf db "server_url", settingOf db "default_device_name"⟩

section

variable [Crates] {s s' : Server} {resp : Response}

/-- **Settings answered with 200 are stored**, trimmed; the files stay as they are. -/
theorem save_stores {headers : HeaderMap} {url name : String}
    (h : Prog.Runs Op.exec (fun _ o d => dbWorks o d = true)
      (Api.route (.saveSettings headers url name)) s resp s')
    (hok : resp.status = 200) :
    storedConfig s'.db = ⟨some (Text.trimString url), some (Text.trimString name)⟩
      ∧ s'.files = s.files ∧ s'.config = s.config := by
  have hwp : Prog.wp Op.exec (fun _ o d => dbWorks o d = true)
      (Api.route (.saveSettings headers url name)) (fun resp s' => resp.status = 200 →
        storedConfig s'.db = ⟨some (Text.trimString url), some (Text.trimString name)⟩
          ∧ s'.files = s.files ∧ s'.config = s.config) s := by
    apply wp_withAdmin
    · intro status hstatus hok
      obtain rfl | rfl := hstatus
      · exact absurd hok (by decide)
      · exact absurd hok (by decide)
    · intro _ d₁ hd₁ d₂ hd₂ _
      rw [Op.exec_query (Option.isNone_iff_eq_none.mp hd₁),
        Op.exec_query (Option.isNone_iff_eq_none.mp hd₂)]
      refine ⟨?_, rfl, rfl⟩
      simp [storedConfig, settingOf, Query.exec, Table.lookup_upsert]
  exact Prog.wp_sound h hwp hok

/-! ## §3. Downloading a client. -/

/-- The template the server finds for a platform. -/
def TemplateAt (s : Server) (info : PlatformInfo) (t : Bytes) : Prop :=
  ∃ path inode, s.files.names path = some inode ∧ s.files.content inode = t
    ∧ (path = s.config.clientTemplatesDir ++ "/" ++ info.templateFilename
      ∨ (path = s.config.fetchedTemplatesDir ++ "/" ++ info.templateFilename
        ∧ s.files.names (s.config.clientTemplatesDir ++ "/" ++ info.templateFilename) = none))

/-- The search for the template finds it, and changes nothing. -/
theorem wp_resolveTemplatePath {A : Server → Op → Draw → Prop} {info : PlatformInfo} {t : Bytes}
    {α : Type} {f : Option (String × TemplateSource) → Act α} {Q : α → Server → Prop}
    (ht : TemplateAt s info t)
    (hf : ∀ path inode source, s.files.names path = some inode → s.files.content inode = t →
      Prog.wp Op.exec A (f (some (path, source))) Q s) :
    Prog.wp Op.exec A (resolveTemplatePath info s.config.clientTemplatesDir
      s.config.fetchedTemplatesDir >>= f) Q s := by
  obtain ⟨path, inode, hname, hcontent, rfl | ⟨rfl, hmanual⟩⟩ := ht
  · intro d₁ _
    rw [show (Op.fileExists _).exec d₁ s = (true, s) by rw [Op.exec, hname]; rfl]
    exact hf _ inode .manual hname hcontent
  · intro d₁ _
    rw [show (Op.fileExists _).exec d₁ s = (false, s) by rw [Op.exec, hmanual]; rfl]
    intro d₂ _
    rw [show (Op.fileExists _).exec d₂ s = (true, s) by rw [Op.exec, hname]; rfl]
    exact hf _ inode .fetched hname hcontent

/-- The response to a download, from the result of patching. -/
def downloadResponse (info : PlatformInfo) : Except String Bytes → Response
  | .error e => ⟨500, .text ("failed to patch client binary: " ++ e), none⟩
  | .ok bytes => ⟨200, .binary info.contentType
      ("attachment; filename=\"" ++ info.downloadFilename ++ "\"") bytes, none⟩

/-- **A download is the template, patched with the stored config.** -/
theorem download_patches {info : PlatformInfo} {t : Bytes} (hinfo : info ∈ PLATFORMS)
    (ht : TemplateAt s info t)
    (h : Prog.Runs Op.exec (fun _ _ d => d.fault = none)
      (Api.route (.downloadPlatform info.key)) s resp s') :
    resp = downloadResponse info ((storedConfig s.db).patchBinary t) := by
  have hfind : PLATFORMS.find? (fun p => p.key == info.key) = some info := by
    simp only [PLATFORMS, List.mem_cons, List.not_mem_nil, or_false] at hinfo
    obtain rfl | rfl := hinfo
    · decide
    · decide
  have hwp : Prog.wp Op.exec (fun _ _ d => d.fault = none) (Api.route (.downloadPlatform info.key))
      (fun resp _ => resp = downloadResponse info ((storedConfig s.db).patchBinary t)) s := by
    show Prog.wp _ _ (Api.downloadPlatform info.key) _ s
    rw [Api.downloadPlatform, hfind]
    intro d₀ _
    apply wp_resolveTemplatePath ht
    intro path inode source hname hcontent d₁ hd₁
    rw [Op.exec_fileRead hd₁ hname, hcontent]
    intro d₂ hd₂ d₃ hd₃
    rw [Op.exec_query hd₂, Op.exec_query hd₃]
    show Prog.wp _ _ (match (storedConfig s.db).patchBinary t with
      | .error e => _
      | .ok bytes => _) _ s
    cases (storedConfig s.db).patchBinary t with
    | error e => rfl
    | ok bytes => rfl
  have hresult := Prog.wp_sound h hwp
  exact hresult

/-! ## §4. From the settings to the client. -/

/-- Patched with a config that fits, a template with one marker becomes a client
that uses what the config says. -/
theorem client_uses_config {c : EmbeddedConfig} {t : Bytes} {p : Nat}
    (hmarker : ∀ q, OccursAt t CONFIG_MAGIC q ↔ q = p)
    (hroom : p + CONFIG_MAGIC.length + CONFIG_SLOT_SIZE ≤ t.length)
    (hfits : (SerdeJson.toVec c).length ≤ CONFIG_SLOT_SIZE) (hserde : SerdeJson.RoundTrips c) :
    ∃ exe, c.patchBinary t = .ok exe
      ∧ Uses exe (c.serverUrl.getD defaultServerUrl) (c.deviceName.getD defaultDeviceName) := by
  have hfirst : FirstAt t CONFIG_MAGIC p := by
    refine ⟨(hmarker p).mpr rfl, fun q hq hocc => ?_⟩
    have := (hmarker q).mp hocc
    omega
  refine ⟨_, EmbeddedConfig.patchBinary_eq hfirst hroom hfits, ?_⟩
  apply uses_of_embedded
  exact EmbeddedConfig.findInBinary_splice hfirst hroom hfits hserde

/-- **What the admin saves is what a downloaded client uses**, exactly when
neither value is blank and both fit the slot together. -/
theorem saved_settings_reach_clients_iff {s₁ s₂ s₃ : Server} {headers : HeaderMap}
    {url name : String} {saved : Response} {info : PlatformInfo} {t : Bytes} {p : Nat}
    (hsave : Prog.Runs Op.exec (fun _ o d => dbWorks o d = true)
      (Api.route (.saveSettings headers url name)) s saved s₁)
    (hok : saved.status = 200) (hkept : storedConfig s₂.db = storedConfig s₁.db)
    (hinfo : info ∈ PLATFORMS) (ht : TemplateAt s₂ info t)
    (hmarker : ∀ q, OccursAt t CONFIG_MAGIC q ↔ q = p)
    (hroom : p + CONFIG_MAGIC.length + CONFIG_SLOT_SIZE ≤ t.length)
    (hserde : SerdeJson.RoundTrips ⟨some (Text.trimString url), some (Text.trimString name)⟩)
    (hget : Prog.Runs Op.exec (fun _ _ d => d.fault = none)
      (Api.route (.downloadPlatform info.key)) s₂ resp s₃) :
    (∃ exe, resp = downloadResponse info (.ok exe)
      ∧ Uses exe (orDefault (Text.trimString url) defaultServerUrl)
        (orDefault (Text.trimString name) defaultDeviceName))
    ↔ Text.trimString url ≠ "" ∧ Text.trimString name ≠ ""
      ∧ (SerdeJson.toVec ⟨some (Text.trimString url), some (Text.trimString name)⟩).length
          ≤ CONFIG_SLOT_SIZE := by
  have hresp := download_patches hinfo ht hget
  rw [hkept, (save_stores hsave hok).1] at hresp
  cases hpatch : (⟨some (Text.trimString url), some (Text.trimString name)⟩ :
      EmbeddedConfig).patchBinary t with
  | error e =>
    rw [hpatch] at hresp
    constructor
    · rintro ⟨exe, hexe, -⟩
      rw [hexe] at hresp
      injection hresp with hstatus
      exact absurd hstatus (by decide)
    · rintro ⟨-, -, hfits⟩
      obtain ⟨exe, hexe, -⟩ := client_uses_config hmarker hroom hfits hserde
      rw [hpatch] at hexe
      exact absurd hexe (by simp)
  | ok exe =>
    obtain ⟨-, -, -, hfits, -⟩ := EmbeddedConfig.of_patchBinary_ok hpatch
    have huses : Uses exe (Text.trimString url) (Text.trimString name) := by
      obtain ⟨exe', hexe', huses⟩ := client_uses_config hmarker hroom hfits hserde
      rw [hpatch] at hexe'
      injection hexe' with hexe'
      rw [hexe']
      exact huses
    rw [hpatch] at hresp
    constructor
    · rintro ⟨exe', hexe', huses'⟩
      rw [hexe'] at hresp
      injection hresp with _ hbody
      injection hbody with _ _ hexe
      rw [hexe] at huses'
      -- the client takes a blank value as it is, and no default is blank
      obtain ⟨hurl, hname⟩ := huses.unique huses'
      refine ⟨fun hblank => ?_, fun hblank => ?_, hfits⟩
      · rw [hblank, orDefault, if_pos rfl] at hurl
        exact absurd hurl (by decide)
      · rw [hblank, orDefault, if_pos rfl] at hname
        exact absurd hname (by decide)
    · rintro ⟨hurl, hname, -⟩
      refine ⟨exe, hresp, ?_⟩
      rw [orDefault, if_neg hurl, orDefault, if_neg hname]
      exact huses

end

/-! ## §5. Two settings of one server. -/

namespace Downloads

/-- A config with a blank device name. -/
def unnamed : EmbeddedConfig := ⟨some "wss://visuara.example.com/ws", some ""⟩

/-- Crates that can read the two configs below. -/
scoped instance crates : Crates where
  toVec := PlainJson.encode
  fromSlice b :=
    if b = PlainJson.encode PlainJson.sample then .ok PlainJson.sample
    else if b = PlainJson.encode unnamed then .ok unnamed
    else .error "expected value"
  argon2Hash password _ := .ok password
  argon2Verify password hash := hash == password
  hmacSha1Base64 secret message := secret ++ message

theorem sample_roundTrips : SerdeJson.RoundTrips PlainJson.sample :=
  ⟨if_pos rfl, by decide +kernel⟩

theorem unnamed_roundTrips : SerdeJson.RoundTrips unnamed := by
  refine ⟨?_, by decide +kernel⟩
  show (if PlainJson.encode unnamed = PlainJson.encode PlainJson.sample then _
    else if PlainJson.encode unnamed = PlainJson.encode unnamed then _ else _) = _
  rw [if_neg (by decide +kernel), if_pos rfl]

/-- An admin with a session. -/
def adminDb : Db :=
  let db := ((Query.createAccount "ann@example.com" "pw" .admin).exec 0 (Db.fresh true)).2
  ((Query.createSession "token" 1).exec 0 db).2

def adminHeaders : HeaderMap := ⟨some "visuara_session=token", none⟩

def linux : PlatformInfo :=
  { key := "linux-x86_64", templateFilename := "linux-x86_64", downloadFilename := "visuara",
    contentType := "application/octet-stream" }

/-- A server with a Linux template that consists of its slot. -/
def withTemplate : Server :=
  Server.start adminDb ⟨⟨[], ""⟩, "templates", "fetched"⟩
    ⟨fun path => if path = "templates/linux-x86_64" then some 0 else none,
      fun _ => VISUARA_EMBEDDED_CONFIG_SLOT, 1⟩

/-- Saving these two strings, as the admin. -/
def save (url name : String) : Option (Response × Server) :=
  Prog.run Op.exec (Api.route (.saveSettings adminHeaders url name))
    [Draw.from 0, Draw.from 1, Draw.from 2] withTemplate

theorem save_runs {url name : String} {r : Response × Server} (h : save url name = some r) :
    Prog.Runs Op.exec (fun _ o d => dbWorks o d = true)
      (Api.route (.saveSettings adminHeaders url name)) withTemplate r.1 r.2 := by
  apply Prog.run_runs _ h
  intro s o d hd
  apply dbWorks_of_isNone
  simp only [List.mem_cons, List.not_mem_nil, or_false] at hd
  obtain rfl | rfl | rfl := hd <;> rfl

/-- The slot has one marker. -/
theorem slot_marker (q : Nat) :
    OccursAt VISUARA_EMBEDDED_CONFIG_SLOT CONFIG_MAGIC q ↔ q = 0 := by
  constructor
  · intro h
    have hbyte : VISUARA_EMBEDDED_CONFIG_SLOT[q + 25]? = some 49 := by
      rw [occursAt_iff.mp h 25 (by rw [length_magic]; decide), magic_beforeLast]
    -- behind the marker there are only zero bytes
    have hq : q ≤ 1 := by
      apply Nat.le_of_not_lt
      intro hlt
      rw [VISUARA_EMBEDDED_CONFIG_SLOT, List.getElem?_append_right (by rw [length_magic]; omega),
        List.getElem?_replicate] at hbyte
      split at hbyte
      · exact absurd hbyte (by decide)
      · exact absurd hbyte (by simp)
    obtain rfl | rfl : q = 0 ∨ q = 1 := by omega
    · rfl
    · have hfirst := occursAt_iff.mp h 0 (by rw [length_magic]; decide)
      exact absurd hfirst (by decide +kernel)
  · rintro rfl
    exact PlainJson.slot_placeholder.marker

/-- Saved settings leave the template where it is. -/
theorem template {url name : String} {r : Response × Server} (h : save url name = some r)
    (hok : r.1.status = 200) : TemplateAt r.2 linux VISUARA_EMBEDDED_CONFIG_SLOT := by
  obtain ⟨-, hfiles, hconfig⟩ := save_stores (save_runs h) hok
  refine ⟨"templates/linux-x86_64", 0, ?_, ?_, .inl ?_⟩
  · rw [hfiles]
    rfl
  · rw [hfiles]
    rfl
  · rw [hconfig]
    rfl

/-- A download always comes to an end. -/
theorem download (s : Server) : ∃ resp s', Prog.Runs Op.exec (fun _ _ d => d.fault = none)
    (Api.route (.downloadPlatform linux.key)) s resp s' := by
  apply Prog.exists_runs
  exact fun _ _ => ⟨Draw.from 0, rfl⟩

theorem linux_mem : linux ∈ PLATFORMS := by decide

theorem sample_saved : ∃ r, save " wss://visuara.example.com/ws" "warehouse-pc-04\n" = some r
    ∧ r.1.status = 200 := by
  have h : (save " wss://visuara.example.com/ws" "warehouse-pc-04\n").any
      (fun r => r.1.status = 200) = true := by decide +kernel
  simpa using (Option.any_eq_true _ _).mp h

theorem unnamed_saved : ∃ r, save "wss://visuara.example.com/ws" "  " = some r
    ∧ r.1.status = 200 := by
  have h : (save "wss://visuara.example.com/ws" "  ").any
      (fun r => r.1.status = 200) = true := by decide +kernel
  simpa using (Option.any_eq_true _ _).mp h

end Downloads

open scoped Downloads

theorem saved_settings_reach_clients_sample : ∃ resp s₁ s₂, Prog.Runs Op.exec
    (fun _ _ d => d.fault = none) (Api.route (.downloadPlatform "linux-x86_64")) s₁ resp s₂
      ∧ ∃ exe, resp = downloadResponse Downloads.linux (.ok exe)
        ∧ Uses exe "wss://visuara.example.com/ws" "warehouse-pc-04" := by
  obtain ⟨r, hsaved, hok⟩ := Downloads.sample_saved
  obtain ⟨resp, s₂, hget⟩ := Downloads.download r.2
  have hurl : Text.trimString " wss://visuara.example.com/ws" = "wss://visuara.example.com/ws" := by
    decide +kernel
  have hname : Text.trimString "warehouse-pc-04\n" = "warehouse-pc-04" := by decide +kernel
  have hserde : SerdeJson.RoundTrips ⟨some (Text.trimString " wss://visuara.example.com/ws"),
      some (Text.trimString "warehouse-pc-04\n")⟩ := by
    rw [hurl, hname]
    exact Downloads.sample_roundTrips
  refine ⟨resp, _, s₂, hget, ?_⟩
  obtain ⟨exe, hresp, huses⟩ := (saved_settings_reach_clients_iff (Downloads.save_runs hsaved) hok
    rfl Downloads.linux_mem (Downloads.template hsaved hok) Downloads.slot_marker
    PlainJson.slot_placeholder.room hserde hget).mpr
    ⟨by decide +kernel, by decide +kernel, by decide +kernel⟩
  rw [hurl, hname] at huses
  exact ⟨exe, hresp, huses⟩

/-- A blank device name is saved, and the downloaded client takes it for its name. -/
theorem blank_device_name_not_defaulted : ∃ saved s₁ resp s₂,
    Prog.Runs Op.exec (fun _ o d => dbWorks o d = true)
      (Api.route (.saveSettings Downloads.adminHeaders "wss://visuara.example.com/ws" "  "))
      Downloads.withTemplate saved s₁
    ∧ saved.status = 200
    ∧ TemplateAt s₁ Downloads.linux VISUARA_EMBEDDED_CONFIG_SLOT
    ∧ (∀ q, OccursAt VISUARA_EMBEDDED_CONFIG_SLOT CONFIG_MAGIC q ↔ q = 0)
    ∧ Prog.Runs Op.exec (fun _ _ d => d.fault = none)
      (Api.route (.downloadPlatform "linux-x86_64")) s₁ resp s₂
    ∧ Text.trimString "  " = ""
    ∧ ¬ ∃ exe, resp = downloadResponse Downloads.linux (.ok exe)
      ∧ Uses exe "wss://visuara.example.com/ws" (orDefault "" defaultDeviceName) := by
  obtain ⟨r, hsaved, hok⟩ := Downloads.unnamed_saved
  have ht := Downloads.template hsaved hok
  obtain ⟨resp, s₂, hget⟩ := Downloads.download r.2
  refine ⟨r.1, r.2, resp, s₂, Downloads.save_runs hsaved, hok, ht, Downloads.slot_marker, hget,
    by decide +kernel, ?_⟩
  rintro ⟨exe, hexe, huses⟩
  have hresp := download_patches Downloads.linux_mem ht hget
  have hconfig : (⟨some (Text.trimString "wss://visuara.example.com/ws"),
      some (Text.trimString "  ")⟩ : EmbeddedConfig) = Downloads.unnamed := by decide +kernel
  have hfits : (SerdeJson.toVec Downloads.unnamed).length ≤ CONFIG_SLOT_SIZE := by decide +kernel
  obtain ⟨exe', hpatch, huses'⟩ := client_uses_config Downloads.slot_marker
    PlainJson.slot_placeholder.room hfits Downloads.unnamed_roundTrips
  rw [(save_stores (Downloads.save_runs hsaved) hok).1, hexe, hconfig, hpatch] at hresp
  injection hresp with _ hbody
  injection hbody with _ _ hbytes
  rw [hbytes] at huses
  exact absurd (huses.unique huses').2 (by decide)

end Visuara.Client
