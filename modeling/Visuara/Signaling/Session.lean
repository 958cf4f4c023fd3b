/-
  Visuara.Signaling.Session
  ─────────────────────────
  **HTTP SESSIONS AND THE FIRST ACCOUNT** (`visuara-signaling/src/session.rs`,
  and the two registration flags of `db.rs`).

  `Act` programs are the handlers' building blocks; in a `Handler`, `?`
  returns early with the error's text.
-/
import Visuara.Common.Text
import Visuara.Interleave.Prog
import Visuara.Signaling.State

namespace Visuara.Signaling

open Interleave

/-- Programs over the server's atomic operations. -/
abbrev Act := Prog Op Op.Res

/-- Programs that may return early with an error (`anyhow::Result`). -/
abbrev Handler := ExceptT String Act

/-- Perform one operation. -/
def perform (o : Op) : Act o.Res := Prog.perform o

/-- Call a method of `Db`. -/
def query (q : Query) : Act (Except String q.Val) := perform (.db q)

/-- Call a method of `Db`, and return early if it fails. -/
def Handler.query (q : Query) : Handler q.Val := ExceptT.mk (Signaling.query q)

/-- `tx.send(msg)?` -/
def Handler.send (tx : Sender) (msg : ServerMessage) : Handler Unit :=
  ExceptT.mk (perform (.send tx msg))

section

variable {α β : Type}

@[simp] theorem Handler.query_bind (q : Query) (f : q.Val → Handler α) :
    ExceptT.run (@bind Handler _ (no_index q.Val) α (Handler.query q) f) = .call (.db q) fun r =>
      match r with
      | .ok a => (f a).run
      | .error e => .ret (.error e) := by
  show Prog.call (Op.db q) _ = _
  congr 1
  funext r
  cases r <;> rfl

@[simp] theorem Handler.send_bind (tx : Sender) (msg : ServerMessage) (f : Unit → Handler α) :
    (Handler.send tx msg >>= f).run = .call (.send tx msg) fun r =>
      match r with
      | .ok a => (f a).run
      | .error e => .ret (.error e) := by
  show Prog.call (Op.send tx msg) _ = _
  congr 1
  funext r
  cases r <;> rfl

@[simp] theorem Handler.send_run (tx : Sender) (msg : ServerMessage) :
    (Handler.send tx msg).run = .call (.send tx msg) .ret := rfl

@[simp] theorem Handler.query_run (q : Query) :
    (Handler.query q).run = .call (.db q) .ret := rfl

@[simp] theorem Handler.mk_bind (p : Act (Except String β)) (f : β → Handler α) :
    (ExceptT.mk p >>= f).run = p >>= fun r =>
      match r with
      | .ok b => (f b).run
      | .error e => .ret (.error e) := by
  show p >>= ExceptT.bindCont f = _
  congr 1
  funext r
  cases r <;> rfl

@[simp] theorem Handler.lift_bind (p : Act β) (f : β → Handler α) :
    (ExceptT.lift p >>= f).run = p >>= fun b => (f b).run := by
  rw [ExceptT.run_bind_lift]

end

/-! ## §1. The session cookie. -/

/-- The request headers the handlers read. -/
structure HeaderMap where
  cookie : Option String
  userAgent : Option String
  deriving DecidableEq, Repr

/-- `HeaderValue::to_str`: only visible ASCII and tabs. -/
def toStr (value : String) : Option String :=
  if value.toList.all fun c => (32 ≤ c.toNat && c.toNat < 127) || c == '\t' then some value
  else none

def SESSION_COOKIE : String := "visuara_session"

/-- The value of the first `name=value` part of a `Cookie` header. -/
def cookieValueIn (header name : List Char) : Option (List Char) :=
  (header.splitOn ';').findSome? fun part =>
    match Text.splitOnce '=' (Text.trim part) with
    | some (k, v) => if k = name then some v else none
    | none => none

def cookieValue (headers : HeaderMap) (name : String) : Option String :=
  (headers.cookie.bind toStr).bind fun header =>
    (cookieValueIn header.toList name.toList).map String.ofList

/-- The `Set-Cookie` header of a new session. -/
def setSessionCookie (token : String) : String :=
  SESSION_COOKIE ++ "=" ++ token ++ "; Path=/; HttpOnly; SameSite=Strict"

/-- The `Set-Cookie` header that ends a session. -/
def clearSessionCookie : String := SESSION_COOKIE ++ "=; Path=/; Max-Age=0"

/-! ## §2. Who is asking. -/

/-- `StatusCode`, of the responses the handlers build. -/
abbrev Status := Nat

structure AuthedAccount where
  id : Int
  email : String
  role : AccountRole
  deriving DecidableEq, Repr

/-- The logged-in account of a request, if any. -/
def currentAccount (headers : HeaderMap) : Act (Option AuthedAccount) :=
  match cookieValue headers SESSION_COOKIE with
  | none => pure none
  | some token => do
    match ← query (.findSession token) with
    | .ok (some account) => pure (some ⟨account.id, account.email, account.role⟩)
    | _ => pure none

def requireAccount (headers : HeaderMap) : Act (Except Status AuthedAccount) := do
  match ← currentAccount headers with
  | some account => pure (.ok account)
  | none => pure (.error 401)

def requireAdmin (headers : HeaderMap) : Act (Except Status AuthedAccount) := do
  match ← requireAccount headers with
  | .ok account => if account.role = .admin then pure (.ok account) else pure (.error 403)
  | .error status => pure (.error status)

/-- Both checks are one lookup of the session. -/
theorem requireAccount_bind {α : Type} (headers : HeaderMap)
    (f : Except Status AuthedAccount → Act α) :
    requireAccount headers >>= f =
      match cookieValue headers SESSION_COOKIE with
      | none => f (.error 401)
      | some token => .call (.db (.findSession token)) fun r =>
        match r with
        | .ok (some account) => f (.ok ⟨account.id, account.email, account.role⟩)
        | _ => f (.error 401) := by
  simp only [requireAccount, currentAccount, bind_assoc]
  cases cookieValue headers SESSION_COOKIE with
  | none => rfl
  | some token =>
    simp only [query, perform, bind_assoc]
    show Prog.call _ _ = Prog.call _ _
    congr 1
    funext r
    rcases r with e | (_ | account) <;> rfl

theorem requireAdmin_bind {α : Type} (headers : HeaderMap)
    (f : Except Status AuthedAccount → Act α) :
    requireAdmin headers >>= f =
      match cookieValue headers SESSION_COOKIE with
      | none => f (.error 401)
      | some token => .call (.db (.findSession token)) fun r =>
        match r with
        | .ok (some account) =>
          if account.role = .admin then f (.ok ⟨account.id, account.email, account.role⟩)
          else f (.error 403)
        | _ => f (.error 401) := by
  simp only [requireAdmin, bind_assoc]
  rw [requireAccount_bind]
  cases cookieValue headers SESSION_COOKIE with
  | none => rfl
  | some token =>
    show Prog.call _ _ = Prog.call _ _
    congr 1
    funext r
    rcases r with e | (_ | account)
    · rfl
    · rfl
    · by_cases hrole : account.role = .admin
      · simp only [hrole, if_true]
        rfl
      · simp only [hrole, if_false]
        rfl

/-! ## §3. Registration. -/

def REGISTRATION_ENABLED : String := "registration_enabled"

/-- Absent means "not yet decided", and reads as enabled. -/
def registrationEnabled : Act (Except String Bool) := do
  match ← query (.getSetting REGISTRATION_ENABLED) with
  | .ok (some v) => pure (.ok (v == "true"))
  | .ok none => pure (.ok true)
  | .error e => pure (.error e)

/-- The check is one lookup. -/
theorem registrationEnabled_bind {α : Type} (f : Except String Bool → Act α) :
    registrationEnabled >>= f = .call (.db (.getSetting REGISTRATION_ENABLED)) fun r =>
      f (r.map fun v => v.elim true (· == "true")) := by
  simp only [registrationEnabled, bind_assoc]
  show Prog.call _ _ = Prog.call _ _
  congr 1
  funext r
  rcases r with e | (_ | v) <;> rfl

def setRegistrationEnabled (enabled : Bool) : Act (Except String Unit) :=
  query (.setSetting REGISTRATION_ENABLED (if enabled then "true" else "false"))

/-- The first account becomes admin, and closes public registration. -/
def createAccountAndMaybeBootstrapAdmin (email passwordHash : String) :
    Handler (Int × AccountRole) := do
  let isFirst := (← Handler.query .countAccounts) == 0
  let role := if isFirst then AccountRole.admin else AccountRole.user
  let accountId ← Handler.query (.createAccount email passwordHash role)
  if isFirst then
    ExceptT.mk (setRegistrationEnabled false)
  pure (accountId, role)

/-- The calls of the bootstrap: count, create, and for the first account close
registration. -/
theorem createAccountAndMaybeBootstrapAdmin_run (email passwordHash : String) :
    (createAccountAndMaybeBootstrapAdmin email passwordHash).run =
      .call (.db .countAccounts) fun n =>
        match n with
        | .error e => .ret (.error e)
        | .ok n =>
          .call (.db (.createAccount email passwordHash (if n == 0 then .admin else .user))) fun r =>
            match r with
            | .error e => .ret (.error e)
            | .ok id =>
              if n == 0 then .call (.db (.setSetting REGISTRATION_ENABLED "false")) fun r =>
                match r with
                | .ok _ => .ret (.ok (id, .admin))
                | .error e => .ret (.error e)
              else .ret (.ok (id, .user)) := by
  simp only [createAccountAndMaybeBootstrapAdmin, Handler.query_bind]
  congr 1
  funext n
  rcases n with e | n
  · rfl
  · dsimp only
    congr 1
    funext r
    rcases r with e | id
    · rfl
    · cases n == 0 with
      | false => rfl
      | true =>
        show Prog.call _ _ = Prog.call _ _
        congr 1
        funext r
        rcases r with e | _ <;> rfl

end Visuara.Signaling
