/-
  Visuara.Signaling.Published
  ───────────────────────────
  **A TEMPLATE IS ONE WHOLE ASSET, UNDER ITS OWN VERSION.**

  It is when fetches keep apart: none truncates a temporary file that another
  is still writing, none renames one while another has not set its version yet,
  and none is cut short in between (`orderly`).  The handler sees to nothing of
  the kind, and two administrators who fetch at the same moment leave an empty
  template behind (`template_torn`).
-/
import Visuara.Signaling.Templates

namespace Visuara.Signaling

open Interleave Relational

/-! ## §1. Jobs and their stages. -/

/-- Job `j` runs task `t` and has got this far. -/
def At (w : ServerWorld) (j : Nat) (t : Task) (k : Stage) : Prop :=
  (∃ p, w.jobs j = some (t, p)) ∧ stage (hist j w.log) = k

/-- The version that is on record for a platform. -/
def version (platform : PlatformInfo) (db : Db) : Option String :=
  (db.settings.lookup (clientVersionKey platform)).map Setting.value

/-- `bytes` is the platform's asset in a release of that name: it was known as
such, or a fetch has downloaded it. -/
def Genuine (known : PlatformInfo → String → Bytes → Prop) (log : List ServerEvent)
    (platform : PlatformInfo) (tag : String) (bytes : Bytes) : Prop :=
  known platform tag bytes
    ∨ ∃ j release, Downloaded (hist j log) platform release bytes ∧ release.tagName = tag

/-- No fetch is in progress. -/
def NoFetch (w : ServerWorld) : Prop :=
  ∀ j t p, w.jobs j = some (t, p) → t.fetches = true → p.done = true

/-- The running jobs that have a temporary file open. -/
def writers (w : ServerWorld) (path : String) : List Nat :=
  (List.range w.next).filter fun j => (w.jobs j).isSome &&
    match stage (hist j w.log) with
    | .writing path' _ _ => path' = path
    | _ => false

/-- The running jobs that have renamed a file and not yet set the version. -/
def renamers (w : ServerWorld) (path : String) : List Nat :=
  (List.range w.next).filter fun j => (w.jobs j).isSome &&
    match stage (hist j w.log) with
    | .renamed path' _ => path' = path
    | _ => false

/-- **Fetches keep apart.**  A temporary file is truncated when nobody has it
open, a template is renamed when nobody has yet to set its version, and neither a
restart nor a failing database comes between a rename and its version, unless that
is on record already. -/
def orderly (w w' : ServerWorld) : Bool :=
  match w'.log.head? with
  | some (.call _ _ ⟨.fileCreate path, .ok _⟩) => (writers w path).isEmpty
  | some (.call _ _ ⟨.fileRename _ dst, .ok _⟩) => (renamers w dst).isEmpty
  | some (.call _ _ ⟨.db (.setSetting key value), .error _⟩) =>
    PLATFORMS.all fun platform =>
      key ≠ clientVersionKey platform || version platform w.st.db = some value
  | some (.env .restart) =>
    PLATFORMS.all fun platform =>
      (renamers w (finalPath w.st.config.fetchedTemplatesDir platform)).all fun j =>
        (release? (hist j w.log)).map GithubRelease.tagName = version platform w.st.db
  | _ => true

section

variable [Crates] {A : Assumption Op Op.Res Draw Task Env} {s₀ : Server} {w w' : ServerWorld}
  {known : PlatformInfo → String → Bytes → Prop} {dir : String}

omit [Crates] in
theorem mem_writers (hn : System.Numbered w) {path : String} {j : Nat} {t : Task} {i : Nat}
    {written : Bytes} (h : At w j t (.writing path i written)) : j ∈ writers w path := by
  obtain ⟨⟨p, hj⟩, hstage⟩ := h
  refine List.mem_filter.mpr ⟨List.mem_range.mpr (hn.job_lt j t p hj), ?_⟩
  simp [hj, hstage]

omit [Crates] in
theorem mem_renamers (hn : System.Numbered w) {path : String} {j : Nat} {t : Task} {bytes : Bytes}
    (h : At w j t (.renamed path bytes)) : j ∈ renamers w path := by
  obtain ⟨⟨p, hj⟩, hstage⟩ := h
  refine List.mem_filter.mpr ⟨List.mem_range.mpr (hn.job_lt j t p hj), ?_⟩
  simp [hj, hstage]

/-! ## §2. What operations change. -/

omit [Crates] in
/-- Paths in one directory differ when their last parts do. -/
theorem path_inj {a b : String} (h : dir ++ "/" ++ a = dir ++ "/" ++ b) : a = b :=
  String.append_right_inj _ |>.mp h

omit [Crates] in
theorem finalPath_inj {p q : PlatformInfo} (hp : p ∈ PLATFORMS) (hq : q ∈ PLATFORMS)
    (h : finalPath dir p = finalPath dir q) : p = q := by
  have hall : ∀ p ∈ PLATFORMS, ∀ q ∈ PLATFORMS,
      p.templateFilename = q.templateFilename → p = q := by decide
  exact hall p hp q hq (path_inj h)

omit [Crates] in
theorem finalPath_ne_tmpPath {p q : PlatformInfo} (hp : p ∈ PLATFORMS) (hq : q ∈ PLATFORMS) :
    finalPath dir p ≠ tmpPath dir q := by
  have hall : ∀ p ∈ PLATFORMS, ∀ q ∈ PLATFORMS,
      p.templateFilename ≠ q.templateFilename ++ ".tmp" := by decide
  intro h
  have h' : dir ++ "/" ++ p.templateFilename = dir ++ "/" ++ (q.templateFilename ++ ".tmp") := by
    rw [← String.append_assoc]
    exact h
  exact hall p hp q hq (path_inj h')

theorem exec_config (o : Op) (d : Draw) (s : Server) : (o.exec d s).2.config = s.config := by
  cases o <;> simp only [Op.exec] <;> (try split) <;> rfl

/-- The configuration is never written. -/
theorem config_kept (h : Run A s₀ w) : w.st.config = s₀.config := by
  refine System.Reachable.invariant (fun w => w.st.config = s₀.config) rfl (fun w w' _ hI hs => ?_) h
  cases hs with
  | start t _ _ =>
    show (t.begin w.st).config = _
    rw [← hI]
    cases t <;> rfl
  | call d _ _ => exact (exec_config _ d w.st).trans hI
  | env e =>
    show (e.disturb w.st).config = _
    rw [← hI]
    cases e <;> rfl

theorem config_read (h : Run A s₀ w) {j : Nat} {t : Task} {config : Config}
    (he : Event.call j t ⟨.config, config⟩ ∈ w.log) : config = s₀.config := by
  obtain ⟨w₁, w₂, h₁, hs, -, hlog⟩ := h.moment he
  obtain ⟨d, k, -, -, hres, -⟩ := hs.of_call hlog
  have hres' : config = w₁.st.config := hres
  rw [hres', config_kept h₁]

/-- The operations that change files. -/
def Op.writesFiles : Op → Bool
  | .fileCreate _ | .fileWriteAt .. | .fileRename .. => true
  | _ => false

theorem exec_files {o : Op} (ho : o.writesFiles = false) (d : Draw) (s : Server) :
    (o.exec d s).2.files = s.files := by
  cases o with
  | fileCreate | fileWriteAt | fileRename => exact absurd ho (by simp [Op.writesFiles])
  | _ => simp only [Op.exec] <;> (try split) <;> rfl

theorem exec_settings_of_ne {o : Op} (ho : ∀ key value, o ≠ .db (.setSetting key value)) (d : Draw)
    (s : Server) : (o.exec d s).2.db.settings = s.db.settings := by
  rw [Op.exec_db]
  cases o with
  | db q =>
    dsimp only
    split
    · rfl
    · refine Query.exec_settings ?_
      cases q with
      | setSetting key value => exact absurd rfl (ho key value)
      | _ => rfl
  | _ => rfl

/-! ## §3. What holds while fetches keep apart. -/

/-- Templates, temporary files and versions, with directory `dir`. -/
structure Published (known : PlatformInfo → String → Bytes → Prop) (dir : String)
    (w : ServerWorld) : Prop where
  sound : w.st.files.Sound
  /-- Only a fetch is at a stage. -/
  fetching : ∀ {j t k}, At w j t k → k ≠ .idle → t.fetches = true
  /-- A temporary file holds what its one writer has written. -/
  writing : ∀ {j t path i written}, At w j t (.writing path i written) →
    w.st.files.names path = some i ∧ w.st.files.content i = written
      ∧ ∃ platform ∈ PLATFORMS, path = tmpPath dir platform
  one_writer : ∀ {j j' t t' path i i' written written'}, At w j t (.writing path i written) →
    At w j' t' (.writing path i' written') → j = j'
  /-- A template that has just been renamed is an asset of the fetch's release. -/
  renamed : ∀ {j t path bytes}, At w j t (.renamed path bytes) →
    ∃ platform ∈ PLATFORMS, path = finalPath dir platform
      ∧ (∃ i, w.st.files.names path = some i ∧ w.st.files.content i = bytes)
      ∧ ∃ release, release? (hist j w.log) = some release
        ∧ Downloaded (hist j w.log) platform release bytes
  one_renamer : ∀ {j j' t t' path bytes bytes'}, At w j t (.renamed path bytes) →
    At w j' t' (.renamed path bytes') → j = j'
  /-- Any other template has its version on record. -/
  recorded : ∀ platform ∈ PLATFORMS, ∀ i, w.st.files.names (finalPath dir platform) = some i →
    (∃ j t bytes, At w j t (.renamed (finalPath dir platform) bytes))
      ∨ ∃ tag, version platform w.st.db = some tag
        ∧ Genuine known w.log platform tag (w.st.files.content i)

omit [Crates] in
theorem Downloaded.later {h h' : Calls} {platform : PlatformInfo} {release : GithubRelease}
    {bytes : Bytes} (hd : Downloaded h platform release bytes) (hh : h ⊆ h') :
    Downloaded h' platform release bytes := by
  obtain ⟨repo, asset, hanswer, hasset, hdownload⟩ := hd
  exact ⟨repo, asset, hh hanswer, hasset, hh hdownload⟩

omit [Crates] in
theorem hist_subset_cons (j : Nat) (e : ServerEvent) (l : List ServerEvent) :
    hist j l ⊆ hist j (e :: l) := by
  cases e with
  | call i t x =>
    by_cases hij : i = j
    · subst hij
      rw [hist_own]
      exact List.subset_cons_self _ _
    · rw [hist_other hij]
      exact List.Subset.refl _
  | _ => exact List.Subset.refl _

omit [Crates] in
theorem Genuine.cons {log : List ServerEvent} {platform : PlatformInfo} {tag : String}
    {bytes : Bytes} (h : Genuine known log platform tag bytes) (e : ServerEvent) :
    Genuine known (e :: log) platform tag bytes := by
  obtain hknown | ⟨j, release, hd, htag⟩ := h
  · exact .inl hknown
  · exact .inr ⟨j, release, hd.later (hist_subset_cons j e log), htag⟩

omit [Crates] in
/-- A step that leaves files and versions alone, and at which no stage begins. -/
theorem Published.frame (h : Published known dir w) {e : ServerEvent} (hlog : w'.log = e :: w.log)
    (hfiles : w'.st.files = w.st.files)
    (hversion : ∀ platform ∈ PLATFORMS, version platform w'.st.db = version platform w.st.db)
    (hat : ∀ {j t k}, At w' j t k → k ≠ .idle → At w j t k)
    (hrelease : ∀ {j t path bytes}, At w j t (.renamed path bytes) →
      release? (hist j w'.log) = release? (hist j w.log))
    (hkept : ∀ platform ∈ PLATFORMS, ∀ {j t bytes},
      At w j t (.renamed (finalPath dir platform) bytes) →
        At w' j t (.renamed (finalPath dir platform) bytes)
          ∨ ∃ release, release? (hist j w.log) = some release
            ∧ version platform w.st.db = some release.tagName) : Published known dir w' := by
  refine ⟨hfiles ▸ h.sound, fun ha hk => h.fetching (hat ha hk) hk, fun ha => ?_,
    fun ha ha' => h.one_writer (hat ha (by simp)) (hat ha' (by simp)), fun ha => ?_,
    fun ha ha' => h.one_renamer (hat ha (by simp)) (hat ha' (by simp)), fun platform hplatform i hi => ?_⟩
  · rw [hfiles]
    exact h.writing (hat ha (by simp))
  · have hold := hat ha (by simp)
    obtain ⟨platform, hplatform, hpath, hfile, release, hsome, hd⟩ := h.renamed hold
    rw [hfiles]
    refine ⟨platform, hplatform, hpath, hfile, release, (hrelease hold).trans hsome, ?_⟩
    rw [hlog]
    exact hd.later (hist_subset_cons _ _ _)
  · rw [hfiles] at hi ⊢
    rw [hversion platform hplatform, hlog]
    obtain ⟨j, t, bytes, ha⟩ | ⟨tag, hon, hgenuine⟩ := h.recorded platform hplatform i hi
    · obtain hstill | ⟨release, hsome, hon⟩ := hkept platform hplatform ha
      · exact .inl ⟨j, t, bytes, hstill⟩
      · -- its version is the one on record
        obtain ⟨other, hother, hpath, ⟨i', hi', hbytes⟩, release', hsome', hd⟩ := h.renamed ha
        obtain rfl := finalPath_inj hplatform hother hpath
        obtain rfl := Option.some.inj (hsome.symm.trans hsome')
        obtain rfl := Option.some.inj (hi'.symm.trans hi)
        refine .inr ⟨release.tagName, hon, .inr ⟨j, release, ?_, rfl⟩⟩
        rw [hbytes]
        exact hd.later (hist_subset_cons _ _ _)
    · exact .inr ⟨tag, hon, hgenuine.cons e⟩

/-- Job `j`, which runs `t`, performs `o`. -/
structure Performs (w w' : ServerWorld) (j : Nat) (t : Task) (o : Op) (d : Draw) : Prop where
  before : ∃ p, w.jobs j = some (t, p)
  after : ∃ p, w'.jobs j = some (t, p)
  others : ∀ i, i ≠ j → w'.jobs i = w.jobs i
  log : w'.log = .call j t ⟨o, (o.exec d w.st).1⟩ :: w.log
  st : w'.st = (o.exec d w.st).2

section Performs

variable {j : Nat} {t : Task} {o : Op} {d : Draw} (hp : Performs w w' j t o d)
include hp

theorem Performs.at_other {i : Nat} (hij : i ≠ j) {t' : Task} {k : Stage} :
    At w' i t' k ↔ At w i t' k := by
  unfold At
  rw [hp.log, hp.others i hij, hist_other (Ne.symm hij)]

theorem Performs.at_own {t' : Task} {k : Stage} :
    At w' j t' k ↔ t' = t ∧ stage (⟨o, (o.exec d w.st).1⟩ :: hist j w.log) = k := by
  obtain ⟨p, hjob⟩ := hp.after
  unfold At
  rw [hp.log, hist_own, hjob]
  constructor
  · intro h
    obtain ⟨⟨p', heq⟩, hstage⟩ := h
    exact ⟨(Prod.mk.inj (Option.some.inj heq)).1.symm, hstage⟩
  · intro h
    obtain ⟨rfl, hstage⟩ := h
    exact ⟨⟨p, rfl⟩, hstage⟩

theorem Performs.at_before : At w j t (stage (hist j w.log)) := ⟨hp.before, rfl⟩

theorem Performs.same_task {t' : Task} {k : Stage} (h : At w j t' k) : t' = t := by
  obtain ⟨⟨p, hjob⟩, -⟩ := h
  obtain ⟨p', hjob'⟩ := hp.before
  exact (Prod.mk.inj (Option.some.inj (hjob.symm.trans hjob'))).1

/-- An operation that leaves files and versions alone, and begins no stage. -/
theorem Published.other (h : Published known dir w) (hfiles : w'.st.files = w.st.files)
    (hversion : ∀ platform ∈ PLATFORMS, version platform w'.st.db = version platform w.st.db)
    (hstage : stage (⟨o, (o.exec d w.st).1⟩ :: hist j w.log) = stage (hist j w.log)
      ∨ stage (⟨o, (o.exec d w.st).1⟩ :: hist j w.log) = .idle)
    (hrelease : ∀ path bytes, stage (hist j w.log) = .renamed path bytes →
      release? (⟨o, (o.exec d w.st).1⟩ :: hist j w.log) = release? (hist j w.log))
    (hkept : ∀ platform ∈ PLATFORMS, ∀ bytes,
      stage (hist j w.log) = .renamed (finalPath dir platform) bytes →
        stage (⟨o, (o.exec d w.st).1⟩ :: hist j w.log) = stage (hist j w.log)
          ∨ ∃ release, release? (hist j w.log) = some release
            ∧ version platform w.st.db = some release.tagName) : Published known dir w' := by
  refine h.frame hp.log hfiles hversion (fun {i t' k} ha hk => ?_) (fun {i t' path bytes} ha => ?_)
    fun platform hplatform {i t' bytes} ha => ?_
  · by_cases hij : i = j
    · subst hij
      obtain ⟨rfl, hk'⟩ := hp.at_own.mp ha
      obtain hsame | hidle := hstage
      · exact ⟨hp.before, hsame.symm.trans hk'⟩
      · exact absurd (hk'.symm.trans hidle) hk
    · exact (hp.at_other hij).mp ha
  · by_cases hij : i = j
    · subst hij
      rw [hp.log, hist_own]
      exact hrelease path bytes ha.2
    · rw [hp.log, hist_other (Ne.symm hij)]
  · by_cases hij : i = j
    · subst hij
      obtain hsame | hon := hkept platform hplatform bytes ha.2
      · exact .inl (hp.at_own.mpr ⟨hp.same_task ha, hsame.trans ha.2⟩)
      · exact .inr hon
    · exact .inl ((hp.at_other hij).mpr ha)

/-- An operation that fails and leaves the server alone. -/
theorem Published.failed {r : Op.Res o} (h : Published known dir w)
    (hexec : o.exec d w.st = (r, w.st))
    (hstage : stage (⟨o, r⟩ :: hist j w.log) = stage (hist j w.log)
      ∨ stage (⟨o, r⟩ :: hist j w.log) = .idle)
    (hrelease : release? (⟨o, r⟩ :: hist j w.log) = release? (hist j w.log))
    (hkept : ∀ platform ∈ PLATFORMS, ∀ bytes,
      stage (hist j w.log) = .renamed (finalPath dir platform) bytes →
        stage (⟨o, r⟩ :: hist j w.log) = stage (hist j w.log)) : Published known dir w' := by
  have hst := hp.st
  rw [hexec] at hst
  have hres : (o.exec d w.st).1 = r := by rw [hexec]
  refine h.other hp (by rw [hst]) (fun _ _ => by rw [hst]) ?_ (fun _ _ _ => ?_)
    fun platform hplatform bytes hk => .inl ?_
  · rw [hres]
    exact hstage
  · rw [hres]
    exact hrelease
  · rw [hres]
    exact hkept platform hplatform bytes hk

/-- A stage of another job was there before. -/
theorem Performs.cases_at {P : Prop} {i : Nat} {t' : Task} {k : Stage} (ha : At w' i t' k)
    (hown : i = j → t' = t → stage (⟨o, (o.exec d w.st).1⟩ :: hist j w.log) = k → P)
    (hother : i ≠ j → At w i t' k → P) : P := by
  by_cases hij : i = j
  · subst hij
    obtain ⟨ht, hk⟩ := hp.at_own.mp ha
    exact hown rfl ht hk
  · exact hother hij ((hp.at_other hij).mp ha)

/-- Truncating a temporary file that nobody has open. -/
theorem Published.create (h : Published known dir w) (hn : System.Numbered w) {path : String}
    (ho : o = .fileCreate path) (hd : d.fault = none) (ht : t.fetches = true)
    {platform : PlatformInfo} (hplatform : platform ∈ PLATFORMS) (hpath : path = tmpPath dir platform)
    (hidle : stage (hist j w.log) = .idle) (hclear : writers w path = []) :
    Published known dir w' := by
  subst ho
  have hexec : (Op.fileCreate path).exec d w.st = (.ok (w.st.files.create path).1,
      { w.st with files := (w.st.files.create path).2 }) := by
    simp only [Op.exec, hd]
  have hfiles : w'.st.files = (w.st.files.create path).2 := by rw [hp.st, hexec]
  have hdb : w'.st.db = w.st.db := by rw [hp.st, hexec]
  have hstage : stage (⟨.fileCreate path, ((Op.fileCreate path).exec d w.st).1⟩ :: hist j w.log)
      = .writing path (w.st.files.create path).1 [] := by
    rw [hexec]
    rfl
  -- nobody else writes to it, and no template has its name
  have hfree : ∀ {i t' i' written}, ¬ At w i t' (.writing path i' written) := by
    intro i t' i' written ha
    have hin := mem_writers hn ha
    rw [hclear] at hin
    exact absurd hin List.not_mem_nil
  have hfinal : ∀ platform ∈ PLATFORMS, finalPath dir platform ≠ path :=
    fun p hp => hpath ▸ finalPath_ne_tmpPath hp hplatform
  have hnames : ∀ {q}, q ≠ path → w'.st.files.names q = w.st.files.names q := by
    intro q hq
    rw [hfiles, Files.create_names_ne hq]
  have hcontent : ∀ {q i}, q ≠ path → w.st.files.names q = some i →
      w'.st.files.content i = w.st.files.content i := by
    intro q i hq hi
    rw [hfiles, h.sound.create_other hq hi]
  refine ⟨?_, fun {i t' k} ha hk => ?_, fun {i t' q i' written} ha => ?_,
    fun {i i' t₁ t₂ q _ _ _ _} ha ha' => ?_, fun {i t' q bytes} ha => ?_,
    fun {i i' t₁ t₂ q _ _} ha ha' => ?_, fun p hplatform' i hi => ?_⟩
  · rw [hfiles]
    exact h.sound.create
  · exact hp.cases_at ha (fun _ heq _ => heq ▸ ht) fun _ hold => h.fetching hold hk
  · refine hp.cases_at ha (fun _ _ hk => ?_) fun _ hold => ?_
    · obtain ⟨rfl, rfl, rfl⟩ := Stage.writing.inj (hstage.symm.trans hk)
      rw [hfiles]
      exact ⟨Files.create_names, Files.create_content, platform, hplatform, hpath⟩
    · obtain ⟨hi, hwritten, hrest⟩ := h.writing hold
      have hq : q ≠ path := by
        intro heq
        subst heq
        exact hfree hold
      exact ⟨(hnames hq).trans hi, (hcontent hq hi).trans hwritten, hrest⟩
  · refine hp.cases_at ha (fun hij _ hk => ?_) fun hij hold => ?_
    · obtain ⟨rfl, -, -⟩ := Stage.writing.inj (hstage.symm.trans hk)
      exact hp.cases_at ha' (fun hij' _ _ => hij.trans hij'.symm) fun _ hold => absurd hold hfree
    · refine hp.cases_at ha' (fun _ _ hk => ?_) fun _ hold' => h.one_writer hold hold'
      obtain ⟨rfl, -, -⟩ := Stage.writing.inj (hstage.symm.trans hk)
      exact absurd hold hfree
  · refine hp.cases_at ha (fun _ _ hk => absurd (hstage.symm.trans hk) (by simp)) fun hij hold => ?_
    obtain ⟨p, hin, rfl, ⟨i', hi', hbytes⟩, hrelease⟩ := h.renamed hold
    rw [hp.log, hist_other (Ne.symm hij)]
    exact ⟨p, hin, rfl, ⟨i', (hnames (hfinal p hin)).trans hi',
      (hcontent (hfinal p hin) hi').trans hbytes⟩, hrelease⟩
  · refine hp.cases_at ha (fun _ _ hk => absurd (hstage.symm.trans hk) (by simp)) fun _ hold => ?_
    refine hp.cases_at ha' (fun _ _ hk => absurd (hstage.symm.trans hk) (by simp)) fun _ hold' => ?_
    exact h.one_renamer hold hold'
  · have hi' : w.st.files.names (finalPath dir p) = some i :=
      (hnames (hfinal p hplatform')).symm.trans hi
    rw [hcontent (hfinal p hplatform') hi', hdb, hp.log]
    obtain ⟨i', t', bytes, hold⟩ | ⟨tag, hon, hgenuine⟩ := h.recorded p hplatform' i hi'
    · have hij : i' ≠ j := by
        intro heq
        subst heq
        exact absurd (hold.2.symm.trans hidle) (by simp)
      exact .inl ⟨i', t', bytes, (hp.at_other hij).mpr hold⟩
    · exact .inr ⟨tag, hon, hgenuine.cons _⟩

/-- One more byte in the temporary file that the job has open. -/
theorem Published.write (h : Published known dir w) {path : String} {i : Nat} {written : Bytes}
    {b : UInt8} (ho : o = .fileWriteAt i written.length b) (hd : d.fault = none)
    (hwriting : stage (hist j w.log) = .writing path i written) : Published known dir w' := by
  subst ho
  have hexec : (Op.fileWriteAt i written.length b).exec d w.st = (.ok (),
      { w.st with files := w.st.files.writeAt i written.length b }) := by
    simp only [Op.exec, hd]
  have hfiles : w'.st.files = w.st.files.writeAt i written.length b := by rw [hp.st, hexec]
  have hdb : w'.st.db = w.st.db := by rw [hp.st, hexec]
  have hstage : stage (⟨.fileWriteAt i written.length b,
      ((Op.fileWriteAt i written.length b).exec d w.st).1⟩ :: hist j w.log)
      = .writing path i (written ++ [b]) := by
    rw [hexec]
    simp only [stage, hwriting]
  have hnow : At w j t (.writing path i written) := ⟨hp.before, hwriting⟩
  obtain ⟨hi, hwritten, platform, hplatform, hpath⟩ := h.writing hnow
  have hnames : ∀ q, w'.st.files.names q = w.st.files.names q := by
    intro q
    rw [hfiles]
    rfl
  -- any other name is that of another file
  have hcontent : ∀ {q i'}, q ≠ path → w.st.files.names q = some i' →
      w'.st.files.content i' = w.st.files.content i' := by
    intro q i' hq hi'
    rw [hfiles, Files.writeAt_other]
    intro heq
    subst heq
    exact hq (h.sound.one_name hi' hi)
  have hfinal : ∀ platform ∈ PLATFORMS, finalPath dir platform ≠ path :=
    fun p hp => hpath ▸ finalPath_ne_tmpPath hp hplatform
  refine ⟨?_, fun {i' t' k} ha hk => ?_, fun {i' t' q i'' written'} ha => ?_,
    fun {i₁ i₂ t₁ t₂ q _ _ _ _} ha ha' => ?_, fun {i' t' q bytes} ha => ?_,
    fun {i₁ i₂ t₁ t₂ q _ _} ha ha' => ?_, fun p hplatform' i' hi' => ?_⟩
  · rw [hfiles]
    exact h.sound.writeAt _ _ _
  · refine hp.cases_at ha (fun _ heq _ => ?_) fun _ hold => h.fetching hold hk
    exact heq ▸ h.fetching hnow (by simp)
  · refine hp.cases_at ha (fun _ _ hk => ?_) fun hij hold => ?_
    · obtain ⟨rfl, rfl, rfl⟩ := Stage.writing.inj (hstage.symm.trans hk)
      refine ⟨(hnames path).trans hi, ?_, platform, hplatform, hpath⟩
      rw [hfiles, ← hwritten, Files.writeAt_end]
    · obtain ⟨hi', hwritten', hrest⟩ := h.writing hold
      have hq : q ≠ path := by
        intro heq
        subst heq
        exact hij (h.one_writer hold hnow)
      exact ⟨(hnames q).trans hi', (hcontent hq hi').trans hwritten', hrest⟩
  · refine hp.cases_at ha (fun hij _ hk => ?_) fun hij hold => ?_
    · obtain ⟨rfl, -, -⟩ := Stage.writing.inj (hstage.symm.trans hk)
      exact hp.cases_at ha' (fun hij' _ _ => hij.trans hij'.symm)
        fun _ hold => hij.trans (h.one_writer hnow hold)
    · refine hp.cases_at ha' (fun _ _ hk => ?_) fun _ hold' => h.one_writer hold hold'
      obtain ⟨rfl, -, -⟩ := Stage.writing.inj (hstage.symm.trans hk)
      exact absurd (h.one_writer hold hnow) hij
  · refine hp.cases_at ha (fun _ _ hk => absurd (hstage.symm.trans hk) (by simp)) fun hij hold => ?_
    obtain ⟨p, hin, rfl, ⟨i'', hi'', hbytes⟩, hrelease⟩ := h.renamed hold
    rw [hp.log, hist_other (Ne.symm hij)]
    exact ⟨p, hin, rfl, ⟨i'', (hnames _).trans hi'', (hcontent (hfinal p hin) hi'').trans hbytes⟩,
      hrelease⟩
  · refine hp.cases_at ha (fun _ _ hk => absurd (hstage.symm.trans hk) (by simp)) fun _ hold => ?_
    refine hp.cases_at ha' (fun _ _ hk => absurd (hstage.symm.trans hk) (by simp)) fun _ hold' => ?_
    exact h.one_renamer hold hold'
  · have hold : w.st.files.names (finalPath dir p) = some i' := (hnames _).symm.trans hi'
    rw [hcontent (hfinal p hplatform') hold, hdb, hp.log]
    obtain ⟨i'', t', bytes, hold'⟩ | ⟨tag, hon, hgenuine⟩ := h.recorded p hplatform' i' hold
    · have hij : i'' ≠ j := by
        intro heq
        subst heq
        exact absurd (hold'.2.symm.trans hwriting) (by simp)
      exact .inl ⟨i'', t', bytes, (hp.at_other hij).mpr hold'⟩
    · exact .inr ⟨tag, hon, hgenuine.cons _⟩

/-- The temporary file becomes the template, when nobody has yet to set its version. -/
theorem Published.rename (h : Published known dir w) (hn : System.Numbered w) {i : Nat}
    {bytes : Bytes} {platform : PlatformInfo} {release : GithubRelease}
    (ho : o = .fileRename (tmpPath dir platform) (finalPath dir platform)) (hd : d.fault = none)
    (hplatform : platform ∈ PLATFORMS)
    (hwriting : stage (hist j w.log) = .writing (tmpPath dir platform) i bytes)
    (hsome : release? (hist j w.log) = some release)
    (hdownloaded : Downloaded (hist j w.log) platform release bytes)
    (hclear : renamers w (finalPath dir platform) = []) : Published known dir w' := by
  subst ho
  have hnow : At w j t (.writing (tmpPath dir platform) i bytes) := ⟨hp.before, hwriting⟩
  obtain ⟨hi, hbytes, -⟩ := h.writing hnow
  have hexec : (Op.fileRename (tmpPath dir platform) (finalPath dir platform)).exec d w.st = (.ok (),
      { w.st with files := w.st.files.rename (tmpPath dir platform) (finalPath dir platform) }) := by
    simp only [Op.exec, hd, hi]
  have hfiles : w'.st.files = w.st.files.rename (tmpPath dir platform) (finalPath dir platform) := by
    rw [hp.st, hexec]
  have hdb : w'.st.db = w.st.db := by rw [hp.st, hexec]
  have hstage : stage (⟨.fileRename (tmpPath dir platform) (finalPath dir platform),
      ((Op.fileRename (tmpPath dir platform) (finalPath dir platform)).exec d w.st).1⟩
        :: hist j w.log) = .renamed (finalPath dir platform) bytes := by
    rw [hexec]
    simp only [stage, hwriting]
  have hcontent : w'.st.files.content = w.st.files.content := by
    rw [hfiles, Files.rename_content]
  have hnames : ∀ {q}, q ≠ tmpPath dir platform → q ≠ finalPath dir platform →
      w'.st.files.names q = w.st.files.names q := by
    intro q hsrc hdst
    rw [hfiles, Files.rename_names_ne hsrc hdst]
  have hhere : w'.st.files.names (finalPath dir platform) = some i := by
    rw [hfiles, Files.rename_names hi, Function.update_self]
  have hfree : ∀ {i' t' bytes'}, ¬ At w i' t' (.renamed (finalPath dir platform) bytes') := by
    intro i' t' bytes' ha
    have hin := mem_renamers hn ha
    rw [hclear] at hin
    exact absurd hin List.not_mem_nil
  refine ⟨?_, fun {i' t' k} ha hk => ?_, fun {i' t' q i'' written'} ha => ?_,
    fun {i₁ i₂ t₁ t₂ q _ _ _ _} ha ha' => ?_, fun {i' t' q bytes'} ha => ?_,
    fun {i₁ i₂ t₁ t₂ q _ _} ha ha' => ?_, fun p hplatform' i' hi' => ?_⟩
  · rw [hfiles]
    exact h.sound.rename hi
  · refine hp.cases_at ha (fun _ heq _ => ?_) fun _ hold => h.fetching hold hk
    exact heq ▸ h.fetching hnow (by simp)
  · refine hp.cases_at ha (fun _ _ hk => absurd (hstage.symm.trans hk) (by simp)) fun hij hold => ?_
    obtain ⟨hi', hwritten', p, hin, hq⟩ := h.writing hold
    have hsrc : q ≠ tmpPath dir platform := by
      intro heq
      subst heq
      exact hij (h.one_writer hold hnow)
    have hdst : q ≠ finalPath dir platform := hq ▸ (finalPath_ne_tmpPath hplatform hin).symm
    exact ⟨(hnames hsrc hdst).trans hi', by rw [hcontent, hwritten'], p, hin, hq⟩
  · refine hp.cases_at ha (fun _ _ hk => absurd (hstage.symm.trans hk) (by simp)) fun _ hold => ?_
    refine hp.cases_at ha' (fun _ _ hk => absurd (hstage.symm.trans hk) (by simp)) fun _ hold' => ?_
    exact h.one_writer hold hold'
  · refine hp.cases_at ha (fun hij _ hk => ?_) fun hij hold => ?_
    · obtain ⟨rfl, rfl⟩ := Stage.renamed.inj (hstage.symm.trans hk)
      subst hij
      rw [hp.log, hist_own]
      refine ⟨platform, hplatform, rfl, ⟨i, hhere, by rw [hcontent, hbytes]⟩, release, hsome, ?_⟩
      exact hdownloaded.later (List.subset_cons_self _ _)
    · obtain ⟨p, hin, rfl, ⟨i'', hi'', hbytes'⟩, hrelease⟩ := h.renamed hold
      have hne : finalPath dir p ≠ finalPath dir platform := by
        intro heq
        rw [heq] at hold
        exact hfree hold
      rw [hp.log, hist_other (Ne.symm hij), hcontent]
      exact ⟨p, hin, rfl, ⟨i'', (hnames (finalPath_ne_tmpPath hin hplatform) hne).trans hi'',
        hbytes'⟩, hrelease⟩
  · refine hp.cases_at ha (fun hij _ hk => ?_) fun hij hold => ?_
    · obtain ⟨rfl, -⟩ := Stage.renamed.inj (hstage.symm.trans hk)
      exact hp.cases_at ha' (fun hij' _ _ => hij.trans hij'.symm) fun _ hold => absurd hold hfree
    · refine hp.cases_at ha' (fun _ _ hk => ?_) fun _ hold' => h.one_renamer hold hold'
      obtain ⟨rfl, -⟩ := Stage.renamed.inj (hstage.symm.trans hk)
      exact absurd hold hfree
  · by_cases hpp : p = platform
    · subst hpp
      exact .inl ⟨j, t, bytes, hp.at_own.mpr ⟨rfl, hstage⟩⟩
    · have hne : finalPath dir p ≠ finalPath dir platform :=
        fun heq => hpp (finalPath_inj hplatform' hplatform heq)
      have hold := (hnames (finalPath_ne_tmpPath hplatform' hplatform) hne).symm.trans hi'
      rw [hcontent, hdb, hp.log]
      obtain ⟨i'', t', bytes', hold'⟩ | ⟨tag, hon, hgenuine⟩ := h.recorded p hplatform' i' hold
      · have hij : i'' ≠ j := by
          intro heq
          subst heq
          exact absurd (hold'.2.symm.trans hwriting) (by simp)
        exact .inl ⟨i'', t', bytes', (hp.at_other hij).mpr hold'⟩
      · exact .inr ⟨tag, hon, hgenuine.cons _⟩

/-- The version of the template just renamed is set. -/
theorem Published.record (h : Published known dir w) {bytes : Bytes} {platform : PlatformInfo}
    {release : GithubRelease} (ho : o = .db (.setSetting (clientVersionKey platform) release.tagName))
    (hd : d.fault = none) (hplatform : platform ∈ PLATFORMS)
    (hrenamed : stage (hist j w.log) = .renamed (finalPath dir platform) bytes)
    (hsome : release? (hist j w.log) = some release) : Published known dir w' := by
  subst ho
  have hnow : At w j t (.renamed (finalPath dir platform) bytes) := ⟨hp.before, hrenamed⟩
  obtain ⟨other, hother, hpath, ⟨i, hi, hbytes⟩, release', hsome', hdownloaded⟩ := h.renamed hnow
  obtain rfl := finalPath_inj hplatform hother hpath
  obtain rfl := Option.some.inj (hsome.symm.trans hsome')
  have hst := hp.st
  rw [Op.exec_query hd] at hst
  have hfiles : w'.st.files = w.st.files := by rw [hst]
  have hversion : ∀ p, version p w'.st.db
      = if clientVersionKey platform = clientVersionKey p then some release.tagName
        else version p w.st.db := by
    intro p
    rw [hst]
    show ((w.st.db.settings.upsert ⟨clientVersionKey platform, release.tagName⟩).lookup
      (clientVersionKey p)).map Setting.value = _
    rw [Table.lookup_upsert]
    split <;> rfl
  have hidle : ∀ {k}, stage (⟨.db (.setSetting (clientVersionKey platform) release.tagName),
      ((Op.db (.setSetting (clientVersionKey platform) release.tagName)).exec d w.st).1⟩
        :: hist j w.log) = k → k = .idle := fun hk => hk.symm
  refine ⟨by rw [hfiles]; exact h.sound, fun {i' t' k} ha hk => ?_, fun {i' t' q i'' written'} ha => ?_,
    fun {i₁ i₂ t₁ t₂ q _ _ _ _} ha ha' => ?_, fun {i' t' q bytes'} ha => ?_,
    fun {i₁ i₂ t₁ t₂ q _ _} ha ha' => ?_, fun p hplatform' i' hi' => ?_⟩
  · exact hp.cases_at ha (fun _ _ hk' => absurd (hidle hk') hk) fun _ hold => h.fetching hold hk
  · refine hp.cases_at ha (fun _ _ hk => absurd (hidle hk) (by simp)) fun _ hold => ?_
    rw [hfiles]
    exact h.writing hold
  · refine hp.cases_at ha (fun _ _ hk => absurd (hidle hk) (by simp)) fun _ hold => ?_
    refine hp.cases_at ha' (fun _ _ hk => absurd (hidle hk) (by simp)) fun _ hold' => ?_
    exact h.one_writer hold hold'
  · refine hp.cases_at ha (fun _ _ hk => absurd (hidle hk) (by simp)) fun hij hold => ?_
    rw [hp.log, hist_other (Ne.symm hij), hfiles]
    exact h.renamed hold
  · refine hp.cases_at ha (fun _ _ hk => absurd (hidle hk) (by simp)) fun _ hold => ?_
    refine hp.cases_at ha' (fun _ _ hk => absurd (hidle hk) (by simp)) fun _ hold' => ?_
    exact h.one_renamer hold hold'
  · rw [hfiles] at hi' ⊢
    rw [hversion, hp.log]
    by_cases hpp : p = platform
    · -- the template is what the job has renamed
      subst hpp
      obtain rfl := Option.some.inj (hi.symm.trans hi')
      refine .inr ⟨release.tagName, if_pos rfl, .inr ⟨j, release, ?_, rfl⟩⟩
      rw [hist_own, hbytes]
      exact hdownloaded.later (List.subset_cons_self _ _)
    · have hkey : clientVersionKey platform ≠ clientVersionKey p :=
        fun heq => hpp (versionKey_inj hplatform hplatform' heq).symm
      rw [if_neg hkey]
      obtain ⟨i'', t', bytes', hold'⟩ | ⟨tag, hon, hgenuine⟩ := h.recorded p hplatform' i' hi'
      · have hij : i'' ≠ j := by
          intro heq
          subst heq
          obtain ⟨heq, -⟩ := Stage.renamed.inj (hold'.2.symm.trans hrenamed)
          exact hpp (finalPath_inj hplatform' hplatform heq)
        exact .inl ⟨i'', t', bytes', (hp.at_other hij).mpr hold'⟩
      · exact .inr ⟨tag, hon, hgenuine.cons _⟩

/-- The operations of a fetch, and those that write settings. -/
def Op.stages : Op → Bool
  | .fetchLatestRelease _ | .fileCreate _ | .fileWriteAt .. | .fileRename ..
  | .db (.setSetting ..) => true
  | _ => false

omit [Crates] hp in
theorem stage_cons {o : Op} (ho : o.stages = false) (r : o.Res) (h : Calls) :
    stage (⟨o, r⟩ :: h) = stage h ∧ release? (⟨o, r⟩ :: h) = release? h := by
  cases o with
  | db q => cases q <;> first | exact ⟨rfl, rfl⟩ | exact absurd ho (by simp [Op.stages])
  | _ => first | exact ⟨rfl, rfl⟩ | exact absurd ho (by simp [Op.stages])

/-- A write of a setting. -/
theorem Published.set (h : Published known dir w) {key value : String}
    (ho : o = .db (.setSetting key value)) (hordered : Ordered t (hist j w.log) o)
    (hconfig : ∀ config, Did (hist j w.log) .config config → config.fetchedTemplatesDir = dir)
    (horderly : orderly w w' = true) : Published known dir w' := by
  subst ho
  obtain ⟨hother, hversion⟩ := hordered
  cases hd : d.fault with
  | none =>
    by_cases hkey : ∃ platform ∈ PLATFORMS, key = clientVersionKey platform
    · obtain ⟨platform, hplatform, rfl⟩ := hkey
      obtain ⟨config, hc, release, bytes, hrenamed, hsome, rfl⟩ := hversion platform hplatform rfl
      rw [hconfig config hc] at hrenamed
      exact h.record hp rfl hd hplatform hrenamed hsome
    · -- some other setting; a fetch is then at no stage
      have hidle : stage (hist j w.log) = .idle := by
        by_contra hne
        refine hne (hother (fun hin => hkey ?_) (h.fetching hp.at_before hne))
        obtain ⟨platform, hplatform, heq⟩ := List.mem_map.mp hin
        exact ⟨platform, hplatform, heq.symm⟩
      have hst := hp.st
      rw [Op.exec_query hd] at hst
      refine h.other hp (by rw [hst]) (fun platform hplatform => ?_) (.inr rfl)
        (fun path bytes hk => absurd (hidle.symm.trans hk) (by simp))
        fun platform _ bytes hk => absurd (hidle.symm.trans hk) (by simp)
      rw [hst]
      show ((w.st.db.settings.upsert ⟨key, value⟩).lookup (clientVersionKey platform)).map
        Setting.value = _
      rw [Table.lookup_upsert, if_neg fun heq => hkey ⟨platform, hplatform, heq⟩]
      rfl
  | some e =>
    have hst := hp.st
    rw [Op.exec_query_fault hd] at hst
    refine h.other hp (by rw [hst]) (fun platform _ => by rw [hst]) (.inr rfl) (fun _ _ _ => rfl)
      fun platform hplatform bytes hk => .inr ?_
    -- the version it fails to set is on record
    rw [orderly, hp.log, Op.exec_query_fault hd] at horderly
    have hne : stage (hist j w.log) ≠ .idle := fun hidle => absurd (hk.symm.trans hidle) (by simp)
    have hkey : key ∈ PLATFORMS.map clientVersionKey := by
      by_contra hnot
      exact hne (hother hnot (h.fetching hp.at_before hne))
    obtain ⟨other, hin, heq⟩ := List.mem_map.mp hkey
    obtain ⟨config, hc, release, bytes', hrenamed, hsome, rfl⟩ := hversion other hin heq.symm
    rw [hconfig config hc] at hrenamed
    obtain ⟨hpath, -⟩ := Stage.renamed.inj (hk.symm.trans hrenamed)
    obtain rfl := finalPath_inj hplatform hin hpath
    refine ⟨release, hsome, ?_⟩
    have hon := List.all_eq_true.mp horderly platform hplatform
    simpa [heq] using hon

/-- **One operation.** -/
theorem Published.call (h : Published known dir w) (hn : System.Numbered w)
    (hordered : Ordered t (hist j w.log) o)
    (hconfig : ∀ config, Did (hist j w.log) .config config → config.fetchedTemplatesDir = dir)
    (horderly : orderly w w' = true) : Published known dir w' := by
  by_cases hplain : o.stages = false
  · obtain ⟨hstage, hrelease⟩ := stage_cons hplain (o.exec d w.st).1 (hist j w.log)
    refine h.other hp ?_ (fun platform _ => ?_) (.inl hstage) (fun _ _ _ => hrelease)
      fun _ _ _ _ => .inl hstage
    · rw [hp.st]
      refine exec_files ?_ d w.st
      cases o <;> first | rfl | exact absurd hplain (by simp [Op.stages])
    · unfold version
      rw [hp.st, exec_settings_of_ne]
      intro key value heq
      subst heq
      exact absurd hplain (by simp [Op.stages])
  · cases o with
    | db q =>
      cases q with
      | setSetting key value => exact h.set hp rfl hordered hconfig horderly
      | _ => exact absurd rfl hplain
    | fetchLatestRelease repo =>
      have hsame : stage (⟨.fetchLatestRelease repo, ((Op.fetchLatestRelease repo).exec d w.st).1⟩
          :: hist j w.log) = stage (hist j w.log) := rfl
      refine h.other hp ?_ (fun platform _ => ?_) (.inl hsame) (fun path bytes hk => ?_)
        fun _ _ _ _ => .inl hsame
      · rw [hp.st]
        exact exec_files rfl d w.st
      · unfold version
        rw [hp.st, exec_settings_of_ne fun key value => by simp]
      · -- a fetch asks once, before any file
        obtain ⟨_, _, _, _, release, hsome, _⟩ := h.renamed (hk ▸ hp.at_before)
        exact absurd (hordered.2.symm.trans hsome) (by simp)
    | fileCreate path =>
      obtain ⟨ht, hidle, config, hc, platform, hplatform, hpath⟩ := hordered
      rw [hconfig config hc] at hpath
      cases hd : d.fault with
      | none =>
        refine h.create hp hn rfl hd ht hplatform hpath hidle ?_
        rw [orderly, hp.log] at horderly
        simpa [Op.exec, hd] using horderly
      | some e =>
        have hexec : (Op.fileCreate path).exec d w.st = (.error e, w.st) := by simp only [Op.exec, hd]
        exact h.failed hp hexec (.inl rfl) rfl fun _ _ _ _ => rfl
    | fileWriteAt i offset b =>
      obtain ⟨path, written, hwriting, rfl⟩ := hordered
      cases hd : d.fault with
      | none => exact h.write hp rfl hd hwriting
      | some e =>
        have hexec : (Op.fileWriteAt i written.length b).exec d w.st = (.error e, w.st) := by
          simp only [Op.exec, hd]
        exact h.failed hp hexec (.inr rfl) rfl fun _ _ _ hk =>
          absurd (hwriting.symm.trans hk) (by simp)
    | fileRename src dst =>
      obtain ⟨config, hc, platform, hplatform, i, bytes, release, rfl, rfl, hwriting, hsome,
        hdownloaded⟩ := hordered
      rw [hconfig config hc] at hwriting
      have hdir := hconfig config hc
      cases hd : d.fault with
      | none =>
        obtain ⟨hi, -⟩ := h.writing (hwriting ▸ hp.at_before)
        refine h.rename hp hn (by rw [hdir]) hd hplatform hwriting hsome hdownloaded ?_
        rw [orderly, hp.log] at horderly
        simpa [Op.exec, hd, hdir, hi] using horderly
      | some e =>
        have hexec : (Op.fileRename (tmpPath config.fetchedTemplatesDir platform)
            (finalPath config.fetchedTemplatesDir platform)).exec d w.st = (.error e, w.st) := by
          simp only [Op.exec, hd]
        exact h.failed hp hexec (.inr rfl) rfl fun _ _ _ hk =>
          absurd (hwriting.symm.trans hk) (by simp)
    | _ => exact absurd rfl hplain

end Performs

/-- **One step**, at which fetches keep apart. -/
theorem Published.step (hr : Run A s₀ w) (hdir : s₀.config.fetchedTemplatesDir = dir)
    (h : Published known dir w) (hs : server.Step A w w') (horderly : orderly w w' = true) :
    Published known dir w' := by
  have hn : System.Numbered w := hr.numbered
  cases hs with
  | start t _ _ =>
    have hfiles : (t.begin w.st).files = w.st.files := by cases t <;> rfl
    have hdb : (t.begin w.st).db = w.st.db := by cases t <;> rfl
    refine h.frame (e := .start w.next t) rfl hfiles
      (fun platform _ => congrArg (version platform) hdb) (fun {j t' k} ha hk => ?_) (fun _ => rfl)
      fun platform _ {j t' bytes} ha => .inl ?_
    · obtain ⟨⟨p, hj⟩, hstage⟩ := ha
      dsimp only at hj
      have hstage' : stage (hist j (.start w.next t :: w.log)) = k := hstage
      rw [hist_start] at hstage'
      by_cases hjn : j = w.next
      · -- a new job has done nothing
        subst hjn
        rw [hn.hist_next] at hstage'
        exact absurd hstage'.symm hk
      · rw [Function.update_of_ne hjn] at hj
        exact ⟨⟨p, hj⟩, hstage'⟩
    · obtain ⟨⟨p, hj⟩, hstage⟩ := ha
      have hjn : j ≠ w.next := Nat.ne_of_lt (hn.job_lt j t' p hj)
      refine ⟨⟨p, ?_⟩, hstage⟩
      show Function.update w.jobs w.next _ j = _
      rwa [Function.update_of_ne hjn]
  | @call j t o k d hj hA =>
    have hp : Performs w ⟨(server.callView j t o d w.toView).2, Function.update w.jobs j
        (some (t, k (server.callView j t o d w.toView).1))⟩ j t o d :=
      ⟨⟨_, hj⟩, ⟨_, Function.update_self _ _ _⟩, fun i hi => Function.update_of_ne hi _ _, rfl, rfl⟩
    refine h.call hp hn (hr.next_licensed Task.ordered hj) (fun config hc => ?_) horderly
    rw [config_read hr (hr.event_of_hist hj hc), hdir]
  | env e =>
    cases e with
    | sendTaskStops c =>
      exact h.frame (e := .env (.sendTaskStops c)) rfl rfl (fun _ _ => rfl) (fun ha _ => ha)
        (fun _ => rfl) fun _ _ _ _ _ ha => .inl ha
    | restart =>
      refine h.frame (e := .env .restart) rfl rfl (fun _ _ => rfl) (fun {j t k} ha _ => ?_)
        (fun _ => rfl) fun platform hplatform {j t bytes} ha => .inr ?_
      · obtain ⟨⟨p, hj⟩, -⟩ := ha
        exact absurd hj (by simp [server])
      · -- the version of what has been renamed is on record
        obtain ⟨_, _, _, _, release, hsome, _⟩ := h.renamed ha
        have hall := List.all_eq_true.mp horderly platform hplatform
        rw [config_kept hr, hdir] at hall
        have hon := of_decide_eq_true (List.all_eq_true.mp hall j (mem_renamers hn ha))
        rw [hsome] at hon
        exact ⟨release, hsome, hon.symm⟩

/-- Each template is one whole asset of a release; and when no fetch is in
progress, the version on record is that release. -/
def Whole (known : PlatformInfo → String → Bytes → Prop) (w : ServerWorld) : Prop :=
  ∀ platform ∈ PLATFORMS, ∀ i,
    w.st.files.names (finalPath w.st.config.fetchedTemplatesDir platform) = some i →
    ∃ tag, Genuine known w.log platform tag (w.st.files.content i)
      ∧ (NoFetch w → version platform w.st.db = some tag)

theorem Published.whole (hr : Run A s₀ w) (hdir : s₀.config.fetchedTemplatesDir = dir)
    (h : Published known dir w) : Whole known w := by
  intro platform hplatform i hi
  rw [config_kept hr, hdir] at hi
  obtain ⟨j, t, bytes, ha⟩ | ⟨tag, hon, hgenuine⟩ := h.recorded platform hplatform i hi
  · obtain ⟨other, hother, hpath, ⟨i', hi', hbytes⟩, release, -, hdownloaded⟩ := h.renamed ha
    obtain rfl := finalPath_inj hplatform hother hpath
    obtain rfl := Option.some.inj (hi'.symm.trans hi)
    refine ⟨release.tagName, .inr ⟨j, release, ?_, rfl⟩, fun hnone => ?_⟩
    · rwa [hbytes]
    · -- a fetch that is over is at no stage
      obtain ⟨⟨p, hj⟩, hstage⟩ := ha
      have hfetches := h.fetching ⟨⟨p, hj⟩, hstage⟩ (by simp)
      have hdone := hnone j t p hj hfetches
      cases p with
      | call o k => exact absurd hdone Bool.false_ne_true
      | ret a =>
        have hidle := hr.finished Task.ordered hj hfetches
        exact absurd (hstage.symm.trans hidle) (by simp)
  · exact ⟨tag, hgenuine, fun _ => hon⟩

omit [Crates] in
/-- A server whose templates, if it has any, are in order. -/
theorem published_start {db : Db} {config : Config} {files : Files} (hsound : files.Sound)
    (hknown : ∀ platform ∈ PLATFORMS, ∀ i,
      files.names (finalPath config.fetchedTemplatesDir platform) = some i →
      ∃ tag, version platform db = some tag ∧ known platform tag (files.content i)) :
    Published known config.fetchedTemplatesDir (World.initial (Server.start db config files)) := by
  have hnone : ∀ {j t k}, ¬ At (World.initial (Server.start db config files)) j t k := by
    intro j t k ha
    obtain ⟨⟨p, hj⟩, -⟩ := ha
    exact absurd hj (by simp [World.initial])
  refine ⟨hsound, fun ha => absurd ha hnone, fun ha => absurd ha hnone,
    fun ha => absurd ha hnone, fun ha => absurd ha hnone, fun ha => absurd ha hnone, ?_⟩
  intro platform hplatform i hi
  obtain ⟨tag, hon, hgenuine⟩ := hknown platform hplatform i hi
  exact .inr ⟨tag, hon, .inl hgenuine⟩

end

/-- **Templates are whole, as long as fetches keep apart.** -/
theorem templates_whole [Crates] {known : PlatformInfo → String → Bytes → Prop} {db : Db}
    {config : Config} {files : Files} {w : ServerWorld} (hsound : files.Sound)
    (hknown : ∀ platform ∈ PLATFORMS, ∀ i,
      files.names (finalPath config.fetchedTemplatesDir platform) = some i →
      ∃ tag, version platform db = some tag ∧ known platform tag (files.content i))
    (h : server.ReachableWhen anyDraw (fun w w' => orderly w w' = true)
      (World.initial (Server.start db config files)) w) : Whole known w := by
  have hrun : Run anyDraw (Server.start db config files) w := System.ReachableWhen.reachable h
  refine Published.whole hrun rfl ?_
  induction h with
  | refl => exact published_start hsound hknown
  | tail hr hs ih =>
    have hr' := System.ReachableWhen.reachable hr
    exact (ih hr').step hr' rfl hs.1 hs.2

/-! ## §4. Two fetches that meet. -/

section Schedule

open scoped Transparent

/-- A database with two admins, each with a session. -/
def adminsDb : Db :=
  [Query.createAccount "ann@example.com" "" .admin, .createAccount "bob@example.com" "" .admin,
    .createSession "a" 1, .createSession "b" 2].foldl (fun db q => (q.exec 0 db).2) (Db.fresh true)

def noFiles : Files := ⟨fun _ => none, fun _ => [], 0⟩

theorem noFiles_sound : noFiles.Sound :=
  ⟨fun h _ => absurd h.symm (Option.some_ne_none _), fun h => absurd h.symm (Option.some_ne_none _)⟩

/-- The newest release has one asset, of two bytes. -/
def releaseDraw : Draw :=
  { Draw.from 0 with release := ⟨"v1", [⟨"windows-x86_64.exe", "asset"⟩]⟩, body := [1, 2] }

def fetchSteps (j n : Nat) : List ServerMove := List.replicate n (.step j releaseDraw)

def fetchWorld : ServerWorld :=
  World.initial (Server.start adminsDb ⟨⟨[], ""⟩, "templates", "fetched"⟩ noFiles)

/-- Ann fetches, alone. -/
def fetchAlone : List ServerMove :=
  .start (.http (.fetchRelease ⟨some "visuara_session=a", none⟩)) :: fetchSteps 0 11

/-- Bob truncates the temporary file that Ann has filled, and then she renames it. -/
def fetchTogether : List ServerMove :=
  .start (.http (.fetchRelease ⟨some "visuara_session=a", none⟩)) ::
    .start (.http (.fetchRelease ⟨some "visuara_session=b", none⟩)) ::
      (fetchSteps 0 7 ++ fetchSteps 1 5 ++ fetchSteps 0 1)

theorem fetchAlone_shows : (server.playAllWhen anyDraw orderly fetchAlone fetchWorld).any (fun w =>
    decide (w.st.files.names "fetched/windows-x86_64.exe" = some 0
      ∧ w.st.files.content 0 = [1, 2])) = true := by
  decide +kernel

theorem templates_whole_alone : ∃ w : ServerWorld, Whole (fun _ _ _ => False) w
    ∧ w.st.files.names "fetched/windows-x86_64.exe" = some 0 ∧ w.st.files.content 0 = [1, 2] := by
  have hshows := fetchAlone_shows
  simp only [Option.any_eq_true, decide_eq_true_eq] at hshows
  obtain ⟨w, hplays, hthere⟩ := hshows
  refine ⟨w, ?_, hthere⟩
  have hrun : server.ReachableWhen anyDraw (fun w w' => orderly w w' = true) fetchWorld w :=
    System.playAllWhen_reachable .refl hplays
  exact templates_whole noFiles_sound
    (fun _ _ i hi => absurd hi.symm (Option.some_ne_none i)) hrun

/-- What the event downloaded is not empty. -/
def downloadsSome : ServerEvent → Bool
  | .call _ _ ⟨.download _, .ok bytes⟩ => bytes ≠ []
  | _ => true

/-- The template is there, and empty. -/
theorem fetchTogether_shows : (server.playAll anyDraw fetchTogether fetchWorld).any (fun w =>
    decide (w.st.config.fetchedTemplatesDir = "fetched"
      ∧ w.st.files.names "fetched/windows-x86_64.exe" = some 0 ∧ w.st.files.content 0 = [])
      && w.log.all downloadsSome) = true := by
  decide +kernel

/-- Nothing empty has ever been downloaded, but an empty template is there. -/
theorem template_torn : ¬ ∀ (known : PlatformInfo → String → Bytes → Prop) (db : Db)
    (config : Config) (files : Files) (w : ServerWorld), files.Sound →
    (∀ platform ∈ PLATFORMS, ∀ i,
      files.names (finalPath config.fetchedTemplatesDir platform) = some i →
      ∃ tag, version platform db = some tag ∧ known platform tag (files.content i)) →
    Run anyDraw (Server.start db config files) w → Whole known w := by
  intro h
  have hshows := fetchTogether_shows
  simp only [Option.any_eq_true, Bool.and_eq_true, decide_eq_true_eq] at hshows
  obtain ⟨w, hplays, ⟨hdir, hname, hempty⟩, hdownloads⟩ := hshows
  have hwhole := h (fun _ _ _ => False) adminsDb ⟨⟨[], ""⟩, "templates", "fetched"⟩ noFiles w
    noFiles_sound (fun _ _ i hi => absurd hi.symm (Option.some_ne_none i))
    (System.playAll_reachable .refl hplays)
  obtain ⟨tag, hgenuine, -⟩ := hwhole _ List.mem_cons_self 0 (by rw [hdir]; exact hname)
  rw [hempty] at hgenuine
  obtain hknown | ⟨j, release, ⟨repo, asset, -, -, hdownload⟩, -⟩ := hgenuine
  · exact hknown
  · obtain ⟨t, hin⟩ := mem_of_mem_hist hdownload
    have hsome := List.all_eq_true.mp hdownloads _ hin
    have hne : decide (([] : Bytes) ≠ []) = true := hsome
    exact absurd rfl (of_decide_eq_true hne)

end Schedule

end Visuara.Signaling
