/-
  Visuara.Signaling.Templates
  ───────────────────────────
  **WHERE A FETCHED TEMPLATE COMES FROM.**

  A fetch writes the asset of a platform to a temporary file, renames it to the
  template's name and sets the version, in this order (`Task.ordered`).  All
  fetches use the same temporary file: as long as they do not meet there, and
  none is cut short before it has set the version, a template is one whole asset
  under its own version (`templates_whole`).

    • `stage`      — how far a fetch has got with its present platform;
    • `orderly`    — the steps at which nothing of that kind goes wrong;
    • `Published`  — what holds of files and versions then.
-/
import Visuara.Signaling.Footprint
import Visuara.Interleave.Rules

namespace Visuara.Signaling

open Interleave Relational

/-! ## §1. Files. -/

/-- A file has one name, and new files get a number of their own. -/
structure Files.Sound (f : Files) : Prop where
  one_name : ∀ {path path' i}, f.names path = some i → f.names path' = some i → path = path'
  below : ∀ {path i}, f.names path = some i → i < f.nextInode

namespace Files

variable {f : Files} {path path' src dst : String} {i : Nat}

theorem create_names : (f.create path).2.names path = some (f.create path).1 := by
  unfold create
  cases h : f.names path with
  | some i => exact h
  | none => exact Function.update_self _ _ _

theorem create_names_ne (h : path' ≠ path) : (f.create path).2.names path' = f.names path' := by
  unfold create
  cases f.names path with
  | some i => rfl
  | none => exact Function.update_of_ne h _ _

theorem create_content : (f.create path).2.content (f.create path).1 = [] := by
  unfold create
  cases f.names path with
  | some i => exact Function.update_self _ _ _
  | none => exact Function.update_self _ _ _

/-- Creating a file does not touch those of other names. -/
theorem Sound.create_other (hf : f.Sound) (h : path' ≠ path) (hi : f.names path' = some i) :
    (f.create path).2.content i = f.content i := by
  unfold Files.create
  cases hp : f.names path with
  | some j =>
    refine Function.update_of_ne (fun hij => h ?_) _ _
    subst hij
    exact hf.one_name hi hp
  | none => exact Function.update_of_ne (Nat.ne_of_lt (hf.below hi)) _ _

theorem Sound.create (hf : f.Sound) : (f.create path).2.Sound := by
  unfold Files.create
  cases hp : f.names path with
  | some j => exact ⟨hf.one_name, hf.below⟩
  | none =>
    have hold : ∀ {q i}, q ≠ path →
        Function.update f.names path (some f.nextInode) q = some i → f.names q = some i := by
      intro q i hq h
      rwa [Function.update_of_ne hq] at h
    have hnew : ∀ {i}, Function.update f.names path (some f.nextInode) path = some i →
        f.nextInode = i := by
      intro i h
      rw [Function.update_self] at h
      exact Option.some.inj h
    refine ⟨fun {q q' i} h h' => ?_, fun {q i} h => ?_⟩
    · by_cases hq : q = path
      · by_cases hq' : q' = path
        · exact hq.trans hq'.symm
        · subst hq
          have := hf.below (hold hq' h')
          exact absurd (hnew h) (Nat.ne_of_gt this)
      · by_cases hq' : q' = path
        · subst hq'
          have := hf.below (hold hq h)
          exact absurd (hnew h') (Nat.ne_of_gt this)
        · exact hf.one_name (hold hq h) (hold hq' h')
    · by_cases hq : q = path
      · subst hq
        exact Nat.lt_succ_of_le (Nat.le_of_eq (hnew h).symm)
      · exact Nat.lt_succ_of_lt (hf.below (hold hq h))

theorem Sound.writeAt (hf : f.Sound) (i offset : Nat) (b : UInt8) : (f.writeAt i offset b).Sound :=
  ⟨hf.one_name, hf.below⟩

/-- A byte written at its end makes a file longer. -/
theorem writeAt_end (f : Files) (i : Nat) (b : UInt8) :
    (f.writeAt i (f.content i).length b).content i = f.content i ++ [b] := by
  show Function.update f.content i _ i = _
  rw [Function.update_self]
  simp

theorem writeAt_other {j : Nat} (h : j ≠ i) (offset : Nat) (b : UInt8) :
    (f.writeAt i offset b).content j = f.content j :=
  Function.update_of_ne h _ _

theorem rename_names (hi : f.names src = some i) :
    (f.rename src dst).names = Function.update (Function.update f.names src none) dst (some i) := by
  unfold rename
  rw [hi]

theorem rename_content : (f.rename src dst).content = f.content := by
  unfold rename
  cases f.names src <;> rfl

theorem rename_names_ne (hsrc : path ≠ src) (hdst : path ≠ dst) :
    (f.rename src dst).names path = f.names path := by
  unfold rename
  cases f.names src with
  | none => rfl
  | some i =>
    show Function.update (Function.update f.names src none) dst (some i) path = _
    rw [Function.update_of_ne hdst, Function.update_of_ne hsrc]

theorem Sound.rename (hf : f.Sound) (hi : f.names src = some i) : (f.rename src dst).Sound := by
  have hnames : ∀ {q j}, (f.rename src dst).names q = some j →
      q = dst ∧ j = i ∨ q ≠ dst ∧ q ≠ src ∧ f.names q = some j := by
    intro q j h
    rw [rename_names hi] at h
    by_cases hq : q = dst
    · subst hq
      rw [Function.update_self] at h
      exact .inl ⟨rfl, (Option.some.inj h).symm⟩
    · rw [Function.update_of_ne hq] at h
      by_cases hs : q = src
      · subst hs
        rw [Function.update_self] at h
        exact absurd h.symm (Option.some_ne_none j)
      · rw [Function.update_of_ne hs] at h
        exact .inr ⟨hq, hs, h⟩
  refine ⟨fun {q q' j} h h' => ?_, fun {q j} h => ?_⟩
  · obtain ⟨hq, hj⟩ | ⟨-, hs, hold⟩ := hnames h
    · obtain ⟨hq', -⟩ | ⟨-, hs', hold'⟩ := hnames h'
      · exact hq.trans hq'.symm
      · exact absurd (hf.one_name (hj ▸ hold') hi) hs'
    · obtain ⟨-, hj⟩ | ⟨-, -, hold'⟩ := hnames h'
      · exact absurd (hf.one_name (hj ▸ hold) hi) hs
      · exact hf.one_name hold hold'
  · have hnext : (f.rename src dst).nextInode = f.nextInode := by
      unfold Files.rename
      rw [hi]
    rw [hnext]
    obtain ⟨-, rfl⟩ | ⟨-, -, h⟩ := hnames h
    · exact hf.below hi
    · exact hf.below h

end Files

/-! ## §2. How far a fetch has got. -/

def finalPath (dir : String) (platform : PlatformInfo) : String :=
  dir ++ "/" ++ platform.templateFilename

def tmpPath (dir : String) (platform : PlatformInfo) : String :=
  dir ++ "/" ++ platform.templateFilename ++ ".tmp"

/-- What a fetch is doing with the files of a platform. -/
inductive Stage where
  | idle
  /-- It has truncated the temporary file and written these bytes. -/
  | writing (path : String) (inode : Nat) (written : Bytes)
  /-- It has renamed a file with these bytes, and not yet set the version. -/
  | renamed (path : String) (bytes : Bytes)
  deriving DecidableEq

def stage : Calls → Stage
  | [] => .idle
  | ⟨.fileCreate path, .ok i⟩ :: _ => .writing path i []
  | ⟨.fileWriteAt _ _ b, .ok ()⟩ :: h =>
    match stage h with
    | .writing path i written => .writing path i (written ++ [b])
    | k => k
  | ⟨.fileRename _ dst, .ok ()⟩ :: h =>
    match stage h with
    | .writing _ _ written => .renamed dst written
    | k => k
  | ⟨.fileWriteAt .., .error _⟩ :: _ | ⟨.fileRename .., .error _⟩ :: _
  | ⟨.db (.setSetting ..), _⟩ :: _ => .idle
  | _ :: h => stage h

/-- The release a fetch is about. -/
def release? : Calls → Option GithubRelease
  | [] => none
  | ⟨.fetchLatestRelease _, .ok release⟩ :: _ => some release
  | _ :: h => release? h

/-- `bytes` is what was downloaded as the platform's asset of the release. -/
def Downloaded (h : Calls) (platform : PlatformInfo) (release : GithubRelease) (bytes : Bytes) :
    Prop :=
  ∃ repo asset, Did h (.fetchLatestRelease repo) (.ok release)
    ∧ release.assets.find? (fun a => a.name == platform.templateFilename) = some asset
    ∧ Did h (.download asset.browserDownloadUrl) (.ok bytes)

/-! ## §3. What a fetch does, in order. -/

/-- What task `t` has done before each operation of a fetch. -/
def Ordered (t : Task) (h : Calls) : Op → Prop
  | .fetchLatestRelease _ => t.fetches = true ∧ release? h = none
  | .fileCreate path => t.fetches = true ∧ stage h = .idle ∧ ∃ config, Did h .config config
      ∧ ∃ platform ∈ PLATFORMS, path = tmpPath config.fetchedTemplatesDir platform
  | .fileWriteAt i offset _ => ∃ path written, stage h = .writing path i written
      ∧ offset = written.length
  | .fileRename src dst => ∃ config, Did h .config config ∧ ∃ platform ∈ PLATFORMS,
      ∃ i bytes release, src = tmpPath config.fetchedTemplatesDir platform
        ∧ dst = finalPath config.fetchedTemplatesDir platform ∧ stage h = .writing src i bytes
        ∧ release? h = some release ∧ Downloaded h platform release bytes
  | .db (.setSetting key value) =>
      (key ∉ PLATFORMS.map clientVersionKey → t.fetches = true → stage h = .idle)
        ∧ ∀ platform ∈ PLATFORMS, key = clientVersionKey platform →
          ∃ config, Did h .config config ∧ ∃ release bytes,
            stage h = .renamed (finalPath config.fetchedTemplatesDir platform) bytes
              ∧ release? h = some release ∧ value = release.tagName
  | _ => True

theorem versionKey_inj {p q : PlatformInfo} (hp : p ∈ PLATFORMS) (hq : q ∈ PLATFORMS)
    (h : clientVersionKey p = clientVersionKey q) : p = q := by
  have hall : ∀ p ∈ PLATFORMS, ∀ q ∈ PLATFORMS,
      clientVersionKey p = clientVersionKey q → p = q := by decide
  exact hall p hp q hq h

theorem fetchedAtKey_ne {p q : PlatformInfo} (hp : p ∈ PLATFORMS) (hq : q ∈ PLATFORMS) :
    clientFetchedAtKey p ≠ clientVersionKey q := by
  have hall : ∀ p ∈ PLATFORMS, ∀ q ∈ PLATFORMS,
      clientFetchedAtKey p ≠ clientVersionKey q := by decide
  exact hall p hp q hq

/-- What a fetch knows from its release on. -/
structure Fetched (config : Config) (release : GithubRelease) (h : Calls) : Prop where
  config : Did h .config config
  answer : ∃ repo, Did h (.fetchLatestRelease repo) (.ok release)
  release : release? h = some release

section

variable {t : Task} {config : Config} {release : GithubRelease} {h : Calls}

theorem Fetched.cons (hf : Fetched config release h) {x : Call Op Op.Res}
    (hx : release? (x :: h) = release? h) : Fetched config release (x :: h) := by
  obtain ⟨repo, hanswer⟩ := hf.answer
  exact ⟨List.mem_cons_of_mem _ hf.config, ⟨repo, List.mem_cons_of_mem _ hanswer⟩,
    hx.trans hf.release⟩

/-- In a `Handler`, what follows an error is the error. -/
theorem follows_run_bind {α β : Type} {Φ : Calls → Op → Prop} {Ψ : Calls → Except String α → Prop}
    {x : Handler β} {f : β → Handler α}
    (hx : Prog.Follows Φ (fun h' r => match r with
      | .ok b => Prog.Follows Φ Ψ (f b).run h'
      | .error e => Ψ h' (.error e)) x.run h) : Prog.Follows Φ Ψ (x >>= f).run h := by
  rw [ExceptT.run_bind, Prog.follows_bind]
  refine hx.mono (fun _ _ h => h) fun h' r hr => ?_
  cases r with
  | ok b => exact hr
  | error e => exact hr

theorem follows_context {α : Type} {Φ : Calls → Op → Prop} {Ψ : Calls → Except String α → Prop}
    {x : Handler α} {message : String}
    (hx : Prog.Follows Φ (fun h' r => match r with
      | .ok a => Ψ h' (.ok a)
      | .error _ => ∀ e', Ψ h' (.error e')) x.run h) :
    Prog.Follows Φ Ψ (Handler.context x message).run h := by
  show Prog.Follows Φ Ψ (x.run >>= _) h
  rw [Prog.follows_bind]
  refine hx.mono (fun _ _ h => h) fun h' r hr => ?_
  cases r with
  | ok a => exact hr
  | error e => exact hr _

/-- Each byte is written at the end of what has been written. -/
theorem ordered_writeFrom {path : String} {i : Nat} (bytes : Bytes) :
    ∀ {h : Calls} {written : Bytes}, Fetched config release h →
      stage h = .writing path i written →
      Prog.Follows (Ordered t) (fun h' r => Fetched config release h' ∧ h <:+ h' ∧ match r with
        | .ok _ => stage h' = .writing path i (written ++ bytes)
        | .error _ => stage h' = .idle) (writeFrom i written.length bytes).run h := by
  induction bytes with
  | nil =>
    intro h written hf hstage
    refine ⟨hf, List.suffix_refl h, ?_⟩
    show stage h = .writing path i (written ++ [])
    rw [hstage, List.append_nil]
  | cons b bytes ih =>
    intro h written hf hstage
    refine follows_run_bind ⟨⟨path, written, hstage, rfl⟩, fun r => ?_⟩
    cases r with
    | error e => exact ⟨hf.cons rfl, List.suffix_cons _ _, rfl⟩
    | ok u =>
      have hnext : stage (⟨.fileWriteAt i written.length b, .ok u⟩ :: h)
          = .writing path i (written ++ [b]) := by
        simp only [stage, hstage]
      have hrest := ih (hf.cons (x := ⟨.fileWriteAt i written.length b, .ok u⟩) rfl) hnext
      rw [List.length_append, List.append_assoc] at hrest
      refine hrest.mono (fun _ _ h => h) fun h' r hpost => ?_
      exact ⟨hpost.1, (List.suffix_cons _ _).trans hpost.2.1, hpost.2.2⟩

/-- **One platform**: at the end, nothing is half done. -/
theorem ordered_fetchOnePlatform (ht : t.fetches = true) {platform : PlatformInfo}
    (hplatform : platform ∈ PLATFORMS) (hf : Fetched config release h) (hidle : stage h = .idle) :
    Prog.Follows (Ordered t) (fun h' _ => Fetched config release h' ∧ stage h' = .idle)
      (fetchOnePlatform config.fetchedTemplatesDir release platform).run h := by
  unfold fetchOnePlatform
  split
  next hnone => exact ⟨hf, hidle⟩
  next asset hasset =>
    refine follows_run_bind (follows_context ⟨trivial, fun downloaded => ?_⟩)
    cases downloaded with
    | error e => exact fun _ => ⟨hf.cons rfl, hidle⟩
    | ok bytes =>
      have hf₁ := hf.cons (x := ⟨.download asset.browserDownloadUrl, .ok bytes⟩) rfl
      refine follows_run_bind (follows_context (follows_run_bind ⟨?_, fun created => ?_⟩))
      · exact ⟨ht, hidle, config, hf₁.config, platform, hplatform, rfl⟩
      cases created with
      | error e => exact fun _ => ⟨hf₁.cons rfl, hidle⟩
      | ok i =>
        refine (ordered_writeFrom bytes (hf₁.cons (x := ⟨.fileCreate _, .ok i⟩) rfl) rfl).mono
          (fun _ _ h => h) fun h₂ r hwritten => ?_
        obtain ⟨hf₂, hsuffix, hstage⟩ := hwritten
        cases r with
        | error e => exact fun _ => ⟨hf₂, hstage⟩
        | ok _ =>
          have hwriting : stage h₂
              = .writing (tmpPath config.fetchedTemplatesDir platform) i bytes := hstage
          have hdownload : Did h₂ (.download asset.browserDownloadUrl) (.ok bytes) :=
            hsuffix.subset (List.mem_cons_of_mem _ List.mem_cons_self)
          obtain ⟨repo, hanswer⟩ := hf₂.answer
          refine follows_run_bind (follows_context ⟨?_, fun renamed => ?_⟩)
          · exact ⟨config, hf₂.config, platform, hplatform, i, bytes, release, rfl, rfl, hwriting,
              hf₂.release, repo, asset, hanswer, hasset, hdownload⟩
          cases renamed with
          | error e => exact fun _ => ⟨hf₂.cons rfl, rfl⟩
          | ok u =>
            have hrenamed : stage (⟨.fileRename (tmpPath config.fetchedTemplatesDir platform)
                (finalPath config.fetchedTemplatesDir platform), .ok u⟩ :: h₂)
                = .renamed (finalPath config.fetchedTemplatesDir platform) bytes := by
              simp only [stage, hwriting]
            rw [Handler.lift_bind]
            refine ⟨trivial, fun now => ?_⟩
            have hf₃ := (hf₂.cons (x := ⟨.fileRename (tmpPath config.fetchedTemplatesDir platform)
              (finalPath config.fetchedTemplatesDir platform), .ok u⟩) rfl).cons
                (x := ⟨.nowSecs, now⟩) rfl
            refine follows_run_bind ⟨⟨fun hkey => ?_, fun other hother hkey => ?_⟩, fun versioned => ?_⟩
            · exact absurd (List.mem_map.mpr ⟨platform, hplatform, rfl⟩) hkey
            · -- the version is set under the key of the platform just renamed
              obtain rfl := versionKey_inj hplatform hother hkey
              exact ⟨config, hf₃.config, release, bytes, hrenamed, hf₃.release, rfl⟩
            cases versioned with
            | error e => exact ⟨hf₃.cons rfl, rfl⟩
            | ok _ =>
              refine follows_run_bind ⟨⟨fun _ _ => rfl, fun other hother hkey => ?_⟩, fun timed => ?_⟩
              · exact absurd hkey (fetchedAtKey_ne hplatform hother)
              cases timed with
              | error e => exact ⟨(hf₃.cons rfl).cons rfl, rfl⟩
              | ok _ => exact ⟨(hf₃.cons rfl).cons rfl, rfl⟩

/-- A traversal in a `Handler` keeps what each of its rounds keeps. -/
theorem follows_run_mapM {α β : Type} {Φ : Calls → Op → Prop} {I : Calls → Prop}
    {f : β → Handler α} {l : List β}
    (hf : ∀ b ∈ l, ∀ h, I h → Prog.Follows Φ (fun h' _ => I h') (f b).run h) (hI : I h) :
    Prog.Follows Φ (fun h' _ => I h') (l.mapM f).run h := by
  induction l generalizing h with
  | nil => exact hI
  | cons b l ih =>
    rw [List.mapM_cons]
    refine follows_run_bind ((hf b List.mem_cons_self h hI).mono (fun _ _ h => h) fun h₁ r h₁I => ?_)
    cases r with
    | error e => exact h₁I
    | ok a =>
      have hrest := ih (fun b hb => hf b (List.mem_cons_of_mem _ hb)) h₁I
      refine follows_run_bind (hrest.mono (fun _ _ h => h) fun h₂ r h₂I => ?_)
      cases r with
      | error e => exact h₂I
      | ok _ => exact h₂I

theorem ordered_fetchAndStore (ht : t.fetches = true) (hc : Did h .config config)
    (hnone : release? h = none) (hidle : stage h = .idle) :
    Prog.Follows (Ordered t) (fun h' _ => stage h' = .idle)
      (fetchAndStore config.fetchedTemplatesDir RELEASE_REPO).run h := by
  refine follows_run_bind ⟨⟨ht, hnone⟩, fun answer => ?_⟩
  cases answer with
  | error e => exact hidle
  | ok release =>
    have hf : Fetched config release (⟨.fetchLatestRelease RELEASE_REPO, .ok release⟩ :: h) :=
      ⟨List.mem_cons_of_mem _ hc, ⟨RELEASE_REPO, List.mem_cons_self⟩, rfl⟩
    show Prog.Follows _ _ (ExceptT.run (PLATFORMS.mapM _)) _
    refine (follows_run_mapM (I := fun h => Fetched config release h ∧ stage h = .idle)
      (fun platform hplatform h' hI => ?_) ⟨hf, hidle⟩).mono (fun _ _ h => h) fun h' _ hI => hI.2
    rw [Handler.lift_bind, Prog.follows_bind]
    exact (ordered_fetchOnePlatform ht hplatform hI.1 hI.2).mono (fun _ _ h => h) fun _ _ h => h

end

variable [Crates]

/-- **Every task does things in this order.** -/
theorem Task.ordered (t : Task) : Prog.Follows (Ordered t)
    (fun h _ => t.fetches = true → stage h = .idle) (server.body t) [] := by
  cases ht : t.fetches with
  | false =>
    refine (Task.only_private ht).mono (fun h o ho => ?_)
      fun _ _ _ hfetches => absurd hfetches Bool.false_ne_true
    -- it performs none of the operations of a fetch
    have hother : o.publishes = false := by
      rw [Bool.and_eq_true] at ho
      simpa using ho.1
    cases o with
    | fetchLatestRelease | fileCreate | fileWriteAt | fileRename =>
      exact absurd hother (by simp [Op.publishes])
    | db q =>
      cases q with
      | setSetting key value =>
        refine ⟨fun _ hfetches => absurd hfetches (by simp [ht]), fun platform hplatform hkey => ?_⟩
        exact absurd (List.mem_map.mpr ⟨platform, hplatform, hkey.symm⟩) (of_decide_eq_false hother)
      | _ => trivial
    | _ => trivial
  | true =>
    obtain ⟨headers, rfl⟩ := exists_of_fetches ht
    show Prog.Follows _ _ (some <$> Api.route (.fetchRelease headers)) _
    rw [← bind_pure_comp, Prog.follows_bind]
    show Prog.Follows _ _ (Api.withAdmin headers _) _
    rw [Api.withAdmin_eq]
    cases cookieValue headers SESSION_COOKIE with
    | none => exact fun _ => rfl
    | some token =>
      refine ⟨trivial, fun found => ?_⟩
      rcases found with e | (_ | account)
      · exact fun _ => rfl
      · exact fun _ => rfl
      · dsimp only
        split
        · refine ⟨trivial, fun config => ?_⟩
          show Prog.Follows _ _
            ((fetchAndStore config.fetchedTemplatesDir RELEASE_REPO).run >>= _) _
          rw [Prog.follows_bind]
          refine (ordered_fetchAndStore rfl List.mem_cons_self rfl rfl).mono (fun _ _ h => h)
            fun h r hidle => ?_
          cases r with
          | ok results => exact fun _ => hidle
          | error e => exact fun _ => hidle
        · exact fun _ => rfl

end Visuara.Signaling
