import Mathlib.Logic.Function.Basic
import JdHoldings.Core.Models

/-!
# The shared token cache

Processes that use the same Toss application would revoke each other's tokens.
`SharedTossTokenCache` keeps the newest token of every application in a file, under the
fingerprint of the credentials, and every read and write of the file happens under a file
lock.  `ResilientReadTossClient.authenticate` takes the token of the file where it can, and
asks the token endpoint only where it cannot.

Time is in seconds.  `TossClient.authenticate` asks the endpoint again where an attempt fails
for a passing reason, and an attempt that brings no token to the client may have made the
server issue one.
-/

namespace JdHoldings

/-- An entry of the file.  A token that is no text or empty, or a time that is no number, is
`none`. -/
structure TokenEntry (τ : Type) where
  accessToken : Option τ
  issuedAt : Option ℚ

/-- The entries of the file by fingerprint.  A file that is missing or damaged has none. -/
abbrev TokenFile (φ τ : Type) := φ → Option (TokenEntry τ)

/-- `SharedTossTokenCache`. -/
structure SharedTossTokenCache (φ : Type) where
  fingerprint : φ
  maxAgeSeconds : ℕ

variable {φ τ : Type}

namespace SharedTossTokenCache

variable [DecidableEq τ] (cache : SharedTossTokenCache φ)

/-- `age < -300 or age > self.max_age_seconds`. -/
def tooOld (issuedAt now : ℚ) : Bool :=
  decide (now - issuedAt < -300) || decide ((cache.maxAgeSeconds : ℚ) < now - issuedAt)

/-- `load_locked`. -/
def loadLocked (file : TokenFile φ τ) (excludeToken : Option τ) (now : ℚ) : Option τ := do
  let entry ← file cache.fingerprint
  let token ← entry.accessToken
  if excludeToken = some token then none
  else
    let issuedAt ← entry.issuedAt
    if cache.tooOld issuedAt now then none else some token

variable [DecidableEq φ]

/-- `discard_locked`. -/
def discardLocked (file : TokenFile φ τ) (token : Option τ) : TokenFile φ τ :=
  match token, file cache.fingerprint with
  | some token, some entry =>
      if entry.accessToken = some token then Function.update file cache.fingerprint none else file
  | _, _ => file

omit [DecidableEq τ] in
/-- `store_locked`. -/
def storeLocked (file : TokenFile φ τ) (token : τ) (now : ℚ) : TokenFile φ τ :=
  Function.update file cache.fingerprint (some ⟨some token, some now⟩)

end SharedTossTokenCache

/-- The token of the entry under a fingerprint. -/
def TokenFile.token (file : TokenFile φ τ) (fingerprint : φ) : Option τ :=
  (file fingerprint).bind TokenEntry.accessToken

namespace SharedTossTokenCache

variable {cache : SharedTossTokenCache φ} {file : TokenFile φ τ} {token : τ} {now : ℚ}

/-- The entry has a token, and its time is missing or too far off. -/
def aged (cache : SharedTossTokenCache φ) (file : TokenFile φ τ) (now : ℚ) : Bool :=
  (file cache.fingerprint).any fun entry =>
    entry.accessToken.isSome && entry.issuedAt.all fun issuedAt => cache.tooOld issuedAt now

section Load

variable [DecidableEq τ] {excludeToken : Option τ}

/-- Only a token that is excluded or too old is not found. -/
theorem loadLocked_none (hnone : cache.loadLocked file excludeToken now = none)
    (htoken : file.token cache.fingerprint = some token) :
    excludeToken = some token ∨ cache.aged file now = true := by
  obtain ⟨entry, hentry, hfound⟩ := Option.bind_eq_some_iff.mp htoken
  by_cases hexcluded : excludeToken = some token
  · exact .inl hexcluded
  · refine .inr ?_
    simp only [loadLocked, hentry, hfound, Option.bind_eq_bind, Option.bind_some, if_neg hexcluded]
      at hnone
    simp only [aged, hentry, Option.any_some, hfound, Option.isSome_some, Bool.true_and]
    cases hissued : entry.issuedAt with
    | none => rfl
    | some issuedAt =>
        rw [hissued, Option.bind_some] at hnone
        split at hnone
        next hold => exact hold
        · cases hnone

end Load

section Write

variable [DecidableEq φ] {fingerprint : φ}

theorem token_discardLocked_of_ne [DecidableEq τ] {rejected : Option τ}
    (hne : fingerprint ≠ cache.fingerprint) :
    (cache.discardLocked file rejected).token fingerprint = file.token fingerprint := by
  unfold discardLocked
  split
  · split
    · rw [TokenFile.token, Function.update_of_ne hne, TokenFile.token]
    · rfl
  · rfl

theorem token_storeLocked_self :
    (cache.storeLocked file token now).token cache.fingerprint = some token := by
  rw [TokenFile.token, storeLocked, Function.update_self]
  rfl

theorem token_storeLocked_of_ne (hne : fingerprint ≠ cache.fingerprint) :
    (cache.storeLocked file token now).token fingerprint = file.token fingerprint := by
  rw [TokenFile.token, storeLocked, Function.update_of_ne hne, TokenFile.token]

end Write

end SharedTossTokenCache

namespace TossClient

/-! ## The token endpoint -/

/-- `AUTH_MAX_ATTEMPTS`. -/
def authMaxAttempts : ℕ := 3

/-- What one attempt comes to. -/
inductive TokenReply (τ : Type) where
  | token (token : τ)
  /-- A network error, a refusal, or an answer without a token, and the token the server may
  have issued all the same. -/
  | failed (error : PyError) (retryable : Bool) (issued : Option τ)

/-- The loop ends by itself only where it makes no attempt. -/
def authStateError : PyError := .tossApi ⟨"토스 인증 재시도 상태가 올바르지 않습니다", none, none, none, false⟩

/-- The loop of `authenticate` from an attempt on, with the attempts that are left: the tokens
the server issues in it, and the answer. -/
def requestToken (endpoint : ℕ → TokenReply τ) (attempt : ℕ) : ℕ → List τ × Py τ
  | 0 => ([], .error authStateError)
  | left + 1 =>
      match endpoint attempt with
      | .token token => ([token], .ok token)
      | .failed error retryable issued =>
          if retryable = false ∨ left = 0 then (issued.toList, .error error)
          else
            let (later, answer) := requestToken endpoint (attempt + 1) left
            (issued.toList ++ later, answer)

/-- The last token the server issues is the one that is received. -/
theorem requestToken_ok {endpoint : ℕ → TokenReply τ} {attempt left : ℕ} {issued : List τ}
    {token : τ} (hok : requestToken endpoint attempt left = (issued, .ok token)) :
    ∃ unseen, issued = unseen ++ [token] := by
  induction left generalizing attempt issued with
  | zero => cases hok
  | succ left ih =>
      unfold requestToken at hok
      split at hok
      · cases hok
        exact ⟨[], rfl⟩
      next error retryable lost hreply =>
        split at hok
        · cases hok
        · cases hlater : requestToken endpoint (attempt + 1) left with
          | mk later answer =>
              rw [hlater] at hok
              cases hok
              obtain ⟨unseen, rfl⟩ := ih hlater
              exact ⟨lost.toList ++ unseen, (List.append_assoc ..).symm⟩

/-- How a call of `authenticate` ends: the token the client is left with, the tokens the server
has issued, and the answer. -/
structure AuthenticateResult (τ : Type) where
  accessToken : Option τ
  issued : List τ
  answer : Py τ

/-- `TossClient.authenticate`. -/
def authenticateAt (accessToken : Option τ) (force : Bool) (endpoint : ℕ → TokenReply τ) :
    AuthenticateResult τ :=
  match accessToken, force with
  | some token, false => ⟨some token, [], .ok token⟩
  | _, _ =>
      match requestToken endpoint 0 authMaxAttempts with
      | (issued, .ok token) => ⟨some token, issued, .ok token⟩
      | (issued, .error error) => ⟨none, issued, .error error⟩

/-- The tokens the server has issued and the client has not received. -/
def AuthenticateResult.unseen (result : AuthenticateResult τ) : ℕ :=
  match result.answer with
  | .ok _ => result.issued.length - 1
  | .error _ => result.issued.length

/-- The token is the client's own, or it is the last one the server has issued. -/
theorem authenticateAt_ok {accessToken : Option τ} {force : Bool} {endpoint : ℕ → TokenReply τ}
    {token : τ} (hok : (authenticateAt accessToken force endpoint).answer = .ok token) :
    (authenticateAt accessToken force endpoint).issued = [] ∨
      ∃ unseen, (authenticateAt accessToken force endpoint).issued = unseen ++ [token] := by
  unfold authenticateAt at hok ⊢
  split at hok
  · exact .inl rfl
  · split at hok
    next issued found hfound =>
      cases hok
      exact .inr (requestToken_ok hfound)
    · cases hok

end TossClient

/-- `ResilientReadTossClient.authenticate` with nobody else around: the file and the token it
leaves, and its answer. -/
def ResilientReadTossClient.authenticate [DecidableEq φ] [DecidableEq τ]
    (cache : SharedTossTokenCache φ) (file : TokenFile φ τ) (accessToken : Option τ) (force : Bool)
    (endpoint : ℕ → TossClient.TokenReply τ) (now : ℚ) : TokenFile φ τ × Option τ × Py τ :=
  let rejected := if force then accessToken else none
  match cache.loadLocked file rejected now with
  | some cached => (file, some cached, .ok cached)
  | none =>
      let file := if force then cache.discardLocked file rejected else file
      let result := TossClient.authenticateAt accessToken force endpoint
      match result.answer with
      | .error error => (file, result.accessToken, .error error)
      | .ok token => (cache.storeLocked file token now, result.accessToken, .ok token)

end JdHoldings
