/-
  Visuara.Signaling.ReleaseFetch
  ──────────────────────────────
  **CLIENT TEMPLATES** (`visuara-signaling/src/platforms.rs`,
  `release_fetch.rs`).

  Where the template of a platform is found, and how the newest release's
  assets get there: a temporary file is truncated, filled byte by byte and
  renamed, then two settings record the version and the time.
-/
import Visuara.Signaling.Session

namespace Visuara.Signaling

open Interleave

/-! ## §1. Platforms. -/

structure PlatformInfo where
  key : String
  templateFilename : String
  downloadFilename : String
  contentType : String
  deriving DecidableEq, Repr

def PLATFORMS : List PlatformInfo :=
  [{ key := "windows-x86_64", templateFilename := "windows-x86_64.exe",
     downloadFilename := "visuara.exe",
     contentType := "application/vnd.microsoft.portable-executable" },
   { key := "linux-x86_64", templateFilename := "linux-x86_64",
     downloadFilename := "visuara", contentType := "application/octet-stream" }]

inductive TemplateSource where
  | manual
  | fetched
  deriving DecidableEq, Repr

/-- A manually placed template wins over a fetched one. -/
def resolveTemplatePath (info : PlatformInfo) (clientTemplatesDir fetchedTemplatesDir : String) :
    Act (Option (String × TemplateSource)) := do
  let manual := clientTemplatesDir ++ "/" ++ info.templateFilename
  if ← perform (.fileExists manual) then pure (some (manual, .manual))
  else
    let fetched := fetchedTemplatesDir ++ "/" ++ info.templateFilename
    if ← perform (.fileExists fetched) then pure (some (fetched, .fetched))
    else pure none

/-! ## §2. Fetching a release. -/

def RELEASE_REPO : String := "deranjer/visuara"

def clientVersionKey (platform : PlatformInfo) : String := "client_version_" ++ platform.key

def clientFetchedAtKey (platform : PlatformInfo) : String := "client_fetched_at_" ++ platform.key

/-- `.with_context(|| message)?`, as `{:#}` prints it. -/
def Handler.context {α : Type} (x : Handler α) (message : String) : Handler α :=
  ExceptT.mk do
    match ← x.run with
    | .ok a => pure (.ok a)
    | .error e => pure (.error (message ++ ": " ++ e))

/-- Fill an open file from `offset` on, one byte after the other. -/
def writeFrom (inode : Nat) : (offset : Nat) → Bytes → Handler Unit
  | _, [] => pure ()
  | offset, b :: bytes => do
    ExceptT.mk (perform (.fileWriteAt inode offset b))
    writeFrom inode (offset + 1) bytes

/-- `tokio::fs::write`. -/
def fsWrite (path : String) (bytes : Bytes) : Handler Unit := do
  let inode ← ExceptT.mk (perform (.fileCreate path))
  writeFrom inode 0 bytes

def fetchOnePlatform (fetchedTemplatesDir : String) (release : GithubRelease)
    (platform : PlatformInfo) : Handler String := do
  match release.assets.find? fun a => a.name == platform.templateFilename with
  | none => throw s!"no asset named {platform.templateFilename} in release {release.tagName}"
  | some asset =>
    let bytes ← Handler.context (ExceptT.mk (perform (.download asset.browserDownloadUrl)))
      s!"download {asset.browserDownloadUrl}"
    let finalPath := fetchedTemplatesDir ++ "/" ++ platform.templateFilename
    let tmpPath := fetchedTemplatesDir ++ "/" ++ platform.templateFilename ++ ".tmp"
    Handler.context (fsWrite tmpPath bytes) s!"write {tmpPath}"
    Handler.context (ExceptT.mk (perform (.fileRename tmpPath finalPath)))
      s!"rename {tmpPath} to {finalPath}"
    let now ← ExceptT.lift (perform .nowSecs)
    Handler.query (.setSetting (clientVersionKey platform) release.tagName)
    Handler.query (.setSetting (clientFetchedAtKey platform) (toString now))
    pure release.tagName

structure FetchResult where
  platformKey : String
  outcome : Except String String

def fetchAndStore (fetchedTemplatesDir repo : String) : Handler (List FetchResult) := do
  let release ← ExceptT.mk (perform (.fetchLatestRelease repo))
  PLATFORMS.mapM fun platform => do
    let outcome ← ExceptT.lift (fetchOnePlatform fetchedTemplatesDir release platform).run
    pure ⟨platform.key, outcome⟩

end Visuara.Signaling
