import JdHoldings.Infrastructure.SharedTossToken
import JdHoldings.Library.Amortized

/-!
# One token for all processes

Any number of threads authenticate at any time, each with a client of its own or one it shares
with others.  A thread that has been told to refresh notes the token its client holds, waits for
the file lock, looks into the file, asks the server where it has to, and stores the token; the
others may do anything they can do without the lock in between, and a thread may fail or die at
every point.

The server accepts one token of an application, the last one it has issued, until it rejects
it for a reason of its own.  A token is *covered* while the file, or the thread that is about
to write it, has the token the server accepts.

* The token of the server is replaced only while it is not covered, and a replacement covers
  the new one.
* It stops being covered only where something is lost: the server rejects it, the entry is
  lost or too old, a thread stops between asking and storing, or a thread refreshes a token
  that is still accepted (`losses`).  A token that an attempt makes the server issue and that
  does not reach the client is lost as well.

Both together bound the tokens that are issued, however many threads see a rejection
(`tokens_issued_le_losses`).
-/

namespace JdHoldings

variable {φ ι κ τ : Type}

/-- Where a thread stands in `authenticate`. -/
inductive TokenStage (τ : Type) where
  | idle
  /-- `rejected` is read, and the lock is not yet taken. -/
  | waiting (force : Bool) (rejected : Option τ)
  | holding (force : Bool) (rejected : Option τ)
  /-- The file had nothing to offer. -/
  | asking (force : Bool)
  | storing (token : τ)

/-- The stages under the lock. -/
def TokenStage.underLock : TokenStage τ → Bool
  | .idle | .waiting _ _ => false
  | .holding _ _ | .asking _ | .storing _ => true

/-- The client of every thread, and the cache of every client. -/
structure TokenClients (φ ι κ : Type) where
  owner : ι → κ
  cache : κ → SharedTossTokenCache φ

/-- The application a thread asks for. -/
def TokenClients.fingerprint (clients : TokenClients φ ι κ) (thread : ι) : φ :=
  (clients.cache (clients.owner thread)).fingerprint

/-- The file, its lock, the clients and their threads, and what the server accepts and has
issued. -/
structure TokenWorld (φ ι κ τ : Type) where
  file : TokenFile φ τ := fun _ => none
  lock : Option ι := none
  accessToken : κ → Option τ := fun _ => none
  stage : ι → TokenStage τ := fun _ => .idle
  accepted : φ → Option τ := fun _ => none
  issued : φ → List τ := fun _ => []

/-- What happens next. -/
inductive TokenEvent (φ ι τ : Type) where
  /-- `authenticate` is called. -/
  | begins (thread : ι) (force : Bool)
  | locks (thread : ι)
  /-- `load_locked`, and `discard_locked` where it finds nothing. -/
  | loads (thread : ι) (now : ℚ)
  /-- `TossClient.authenticate`, with the reply to each of its attempts. -/
  | asks (thread : ι) (endpoint : ℕ → TossClient.TokenReply τ)
  | stores (thread : ι) (now : ℚ)
  /-- An exception leaves `authenticate`, or the process dies and its lock with it. -/
  | stops (thread : ι) (dies : Bool)
  /-- The server accepts no token of the application any more. -/
  | rejects (fingerprint : φ)
  /-- The file loses an entry. -/
  | loses (fingerprint : φ)

namespace TokenWorld

variable (clients : TokenClients φ ι κ)

/-- A stage of one thread. -/
def setStage [DecidableEq ι] (world : TokenWorld φ ι κ τ) (thread : ι) (stage : TokenStage τ) :
    TokenWorld φ ι κ τ :=
  { world with stage := Function.update world.stage thread stage }

/-- The end of `authenticate` under the lock. -/
def release [DecidableEq ι] (world : TokenWorld φ ι κ τ) (thread : ι) : TokenWorld φ ι κ τ :=
  { world.setStage thread .idle with lock := none }

/-- The client is left with a token. -/
def setToken [DecidableEq κ] (world : TokenWorld φ ι κ τ) (client : κ) (token : Option τ) :
    TokenWorld φ ι κ τ :=
  { world with accessToken := Function.update world.accessToken client token }

/-- The server issues tokens one after the other, and accepts the last of them only. -/
def issue [DecidableEq φ] (world : TokenWorld φ ι κ τ) (fingerprint : φ) (tokens : List τ) :
    TokenWorld φ ι κ τ :=
  { world with
    accepted := Function.update world.accepted fingerprint
      (tokens.getLast?.or (world.accepted fingerprint))
    issued := Function.update world.issued fingerprint
      (tokens.reverse ++ world.issued fingerprint) }

section Fields

variable (world : TokenWorld φ ι κ τ) (thread : ι) (stage : TokenStage τ)

@[simp] theorem setStage_stage [DecidableEq ι] :
    (world.setStage thread stage).stage = Function.update world.stage thread stage := rfl

@[simp] theorem setStage_lock [DecidableEq ι] :
    (world.setStage thread stage).lock = world.lock := rfl

@[simp] theorem release_stage [DecidableEq ι] :
    (world.release thread).stage = Function.update world.stage thread .idle := rfl

@[simp] theorem release_lock [DecidableEq ι] : (world.release thread).lock = none := rfl

end Fields

/-- One event; one that cannot happen changes nothing. -/
def step [DecidableEq φ] [DecidableEq ι] [DecidableEq κ] [DecidableEq τ]
    (world : TokenWorld φ ι κ τ) : TokenEvent φ ι τ → TokenWorld φ ι κ τ
  | .begins thread force =>
      match world.stage thread with
      | .idle =>
          let rejected := if force then world.accessToken (clients.owner thread) else none
          world.setStage thread (.waiting force rejected)
      | _ => world
  | .locks thread =>
      match world.stage thread, world.lock with
      | .waiting force rejected, none =>
          { world.setStage thread (.holding force rejected) with lock := some thread }
      | _, _ => world
  | .loads thread now =>
      let client := clients.owner thread
      match world.stage thread with
      | .holding force rejected =>
          match (clients.cache client).loadLocked world.file rejected now with
          | some cached => (world.setToken client (some cached)).release thread
          | none =>
              { world.setStage thread (.asking force) with
                file := if force then (clients.cache client).discardLocked world.file rejected
                  else world.file }
      | _ => world
  | .asks thread endpoint =>
      let client := clients.owner thread
      match world.stage thread with
      | .asking force =>
          let result := TossClient.authenticateAt (world.accessToken client) force endpoint
          let answered := (world.issue (clients.fingerprint thread) result.issued).setToken client
            result.accessToken
          match result.answer with
          | .error _ => answered.release thread
          | .ok token => answered.setStage thread (.storing token)
      | _ => world
  | .stores thread now =>
      match world.stage thread with
      | .storing token =>
          { world.release thread with
            file := (clients.cache (clients.owner thread)).storeLocked world.file token now }
      | _ => world
  | .stops thread dies =>
      let kept := if dies then world.setToken (clients.owner thread) none else world
      if world.lock = some thread then kept.release thread else kept.setStage thread .idle
  | .rejects fingerprint =>
      { world with accepted := Function.update world.accepted fingerprint none }
  | .loses fingerprint => { world with file := Function.update world.file fingerprint none }

/-- A thread that is alone does what `authenticate` does. -/
theorem authenticate_alone [DecidableEq φ] [DecidableEq ι] [DecidableEq κ] [DecidableEq τ]
    {world : TokenWorld φ ι κ τ} {thread : ι} (hidle : world.stage thread = .idle)
    (hfree : world.lock = none) (force : Bool) (endpoint : ℕ → TossClient.TokenReply τ) (now : ℚ) :
    let after := [TokenEvent.begins thread force, .locks thread, .loads thread now,
      .asks thread endpoint, .stores thread now].foldl (step clients) world
    let alone := ResilientReadTossClient.authenticate (clients.cache (clients.owner thread))
      world.file (world.accessToken (clients.owner thread)) force endpoint now
    after.file = alone.1 ∧ after.accessToken (clients.owner thread) = alone.2.1 := by
  intro after alone
  have hbegun : [TokenEvent.begins thread force, .locks thread].foldl (step clients) world =
      { world.setStage thread (.holding force
          (if force then world.accessToken (clients.owner thread) else none)) with
        lock := some thread } := by
    simp [step, hidle, hfree, setStage]
  have hafter : after = [TokenEvent.loads thread now, .asks thread endpoint,
      .stores thread now].foldl (step clients) { world.setStage thread (.holding force
        (if force then world.accessToken (clients.owner thread) else none)) with
          lock := some thread } := by
    rw [← hbegun]
    rfl
  rw [hafter]
  unfold alone ResilientReadTossClient.authenticate
  simp only [List.foldl_cons, List.foldl_nil]
  cases hloaded : (clients.cache (clients.owner thread)).loadLocked world.file
      (if force then world.accessToken (clients.owner thread) else none) now with
  | some cached => simp [step, hloaded, setStage, setToken, release]
  | none =>
      cases hanswer : (TossClient.authenticateAt (world.accessToken (clients.owner thread)) force
          endpoint).answer with
      | error error => simp [step, hloaded, hanswer, setStage, setToken, release, issue]
      | ok token => simp [step, hloaded, hanswer, setStage, setToken, release, issue]

/-! ## Covered tokens -/

/-- The token the file has, or gets from the thread that holds the lock. -/
def presented [DecidableEq φ] (world : TokenWorld φ ι κ τ) (fingerprint : φ) : Option τ :=
  match world.lock with
  | none => world.file.token fingerprint
  | some thread =>
      if clients.fingerprint thread = fingerprint then
        match world.stage thread with
        | .asking _ => none
        | .storing token => some token
        | _ => world.file.token fingerprint
      else world.file.token fingerprint

/-- The token the server accepts is presented. -/
def covered [DecidableEq φ] [DecidableEq τ] (world : TokenWorld φ ι κ τ) (fingerprint : φ) :
    Bool :=
  (world.accepted fingerprint).isSome &&
    decide (world.presented clients fingerprint = world.accepted fingerprint)

/-- The token a thread may not take from the file is the one the server accepts. -/
def refusesAccepted [DecidableEq τ] (world : TokenWorld φ ι κ τ) (fingerprint : φ)
    (rejected : Option τ) : Bool :=
  rejected.isSome && decide (world.accepted fingerprint = rejected)

/-- What may uncover the token of an application, and the tokens that are issued to nobody. -/
def losses [DecidableEq φ] [DecidableEq τ] (fingerprint : φ) (world : TokenWorld φ ι κ τ)
    (event : TokenEvent φ ι τ) : ℕ :=
  match event with
  | .loads thread now =>
      match world.stage thread with
      | .holding _ rejected =>
          if clients.fingerprint thread = fingerprint ∧
              ((clients.cache (clients.owner thread)).aged world.file now = true ∨
                world.refusesAccepted fingerprint rejected = true) then 1 else 0
      | _ => 0
  | .asks thread endpoint =>
      match world.stage thread with
      | .asking force =>
          if clients.fingerprint thread = fingerprint then
            (TossClient.authenticateAt (world.accessToken (clients.owner thread)) force
              endpoint).unseen
          else 0
      | _ => 0
  | .stops thread _ =>
      match world.stage thread with
      | .storing _ => if clients.fingerprint thread = fingerprint then 1 else 0
      | _ => 0
  | .rejects other => if other = fingerprint then 1 else 0
  | .loses other => if other = fingerprint then 1 else 0
  | _ => 0

/-- The lock belongs to the thread that is past it. -/
def Exclusive (world : TokenWorld φ ι κ τ) : Prop :=
  ∀ thread, (world.stage thread).underLock = true ↔ world.lock = some thread

namespace Exclusive

variable {clients} {world : TokenWorld φ ι κ τ} {thread : ι} {stage : TokenStage τ}

theorem lock_of_stage (hexclusive : world.Exclusive) (hstage : world.stage thread = stage)
    (hunder : stage.underLock = true) : world.lock = some thread := by
  rw [← hexclusive thread, hstage]
  exact hunder

/-- What the threads and the lock do not see. -/
theorem congr {world' : TokenWorld φ ι κ τ} (hexclusive : world.Exclusive)
    (hlock : world'.lock = world.lock) (hstage : world'.stage = world.stage) :
    world'.Exclusive := by
  intro other
  rw [hlock, hstage]
  exact hexclusive other

variable [DecidableEq ι]

theorem setStage (hexclusive : world.Exclusive)
    (hlock : stage.underLock = true ↔ world.lock = some thread) :
    (world.setStage thread stage).Exclusive := by
  intro other
  by_cases hsame : other = thread
  · rw [hsame, setStage_stage, setStage_lock, Function.update_self]
    exact hlock
  · rw [setStage_stage, setStage_lock, Function.update_of_ne hsame]
    exact hexclusive other

/-- The holder of the lock gives it back. -/
theorem release (hexclusive : world.Exclusive) (hlock : world.lock = some thread) :
    (world.release thread).Exclusive := by
  intro other
  by_cases hsame : other = thread
  · simp [hsame, TokenStage.underLock]
  · have hother := hexclusive other
    rw [release_stage, Function.update_of_ne hsame, hother, hlock, release_lock]
    simp only [Option.some.injEq, reduceCtorEq, iff_false]
    exact fun heq => hsame heq.symm

/-- A thread takes the lock nobody has. -/
theorem take (hexclusive : world.Exclusive) (hfree : world.lock = none)
    (hunder : stage.underLock = true) :
    Exclusive { world.setStage thread stage with lock := some thread } := by
  intro other
  by_cases hsame : other = thread
  · simp [hsame, hunder]
  · have hother := hexclusive other
    rw [hfree] at hother
    rw [setStage_stage, Function.update_of_ne hsame, hother]
    simp only [reduceCtorEq, Option.some.injEq, false_iff]
    exact fun heq => hsame heq.symm

theorem step [DecidableEq φ] [DecidableEq κ] [DecidableEq τ] (hexclusive : world.Exclusive)
    (event : TokenEvent φ ι τ) : (world.step clients event).Exclusive := by
  cases event with
  | begins thread force =>
      -- A thread is under the lock exactly between taking and leaving it, so each event is one of
      -- the three: it takes the lock, leaves it, or moves on with it.
      unfold TokenWorld.step
      dsimp only
      split
      next hidle =>
        have hoff : ¬world.lock = some thread := by
          rw [← hexclusive thread, hidle]
          simp [TokenStage.underLock]
        exact hexclusive.setStage (by simp [TokenStage.underLock, hoff])
      · exact hexclusive
  | locks thread =>
      unfold TokenWorld.step
      dsimp only
      split
      next force rejected hstage hfree => exact hexclusive.take hfree rfl
      · exact hexclusive
  | loads thread now =>
      unfold TokenWorld.step
      dsimp only
      split
      next force rejected hstage =>
        have hlock := hexclusive.lock_of_stage hstage rfl
        split
        · exact (hexclusive.congr rfl rfl).release hlock
        · exact (hexclusive.setStage (by simp [TokenStage.underLock, hlock])).congr rfl rfl
      · exact hexclusive
  | asks thread endpoint =>
      unfold TokenWorld.step
      dsimp only
      split
      next force hstage =>
        have hlock := hexclusive.lock_of_stage hstage rfl
        split
        · exact (hexclusive.congr rfl rfl).release hlock
        · refine (hexclusive.congr rfl rfl).setStage ?_
          simp [TokenStage.underLock, hlock]
      · exact hexclusive
  | stores thread now =>
      unfold TokenWorld.step
      dsimp only
      split
      next token hstage =>
        exact (hexclusive.release (hexclusive.lock_of_stage hstage rfl)).congr rfl rfl
      · exact hexclusive
  | stops thread dies =>
      have hkept : (if dies then world.setToken (clients.owner thread) none
          else world).Exclusive := by
        split
        · exact hexclusive.congr rfl rfl
        · exact hexclusive
      have hlockEq : (if dies then world.setToken (clients.owner thread) none else world).lock
          = world.lock := by
        split <;> rfl
      unfold TokenWorld.step
      dsimp only
      split
      next hlock => exact hkept.release (hlockEq.trans hlock)
      next hoff =>
        refine hkept.setStage ?_
        rw [hlockEq]
        simp [TokenStage.underLock, hoff]
  | rejects fingerprint => exact hexclusive.congr rfl rfl
  | loses fingerprint => exact hexclusive.congr rfl rfl

end Exclusive

/-! ## What the token of an application costs -/

/-- The tokens issued so far, and one more while the accepted one is not covered. -/
def outlay [DecidableEq φ] [DecidableEq τ] (fingerprint : φ) (world : TokenWorld φ ι κ τ) : ℕ :=
  (world.issued fingerprint).length + if world.covered clients fingerprint then 0 else 1

section Outlay

variable {clients} {world world' : TokenWorld φ ι κ τ} {thread : ι} {fingerprint : φ}
  [DecidableEq φ]

theorem presented_of_free (hfree : world.lock = none) :
    world.presented clients fingerprint = world.file.token fingerprint := by
  rw [presented, hfree]

theorem presented_of_ne (hlock : world.lock = some thread)
    (hne : clients.fingerprint thread ≠ fingerprint) :
    world.presented clients fingerprint = world.file.token fingerprint := by
  rw [presented, hlock]
  exact if_neg hne

theorem presented_of_holding {force : Bool} {rejected : Option τ} (hlock : world.lock = some thread)
    (hstage : world.stage thread = .holding force rejected) :
    world.presented clients fingerprint = world.file.token fingerprint := by
  rw [presented, hlock]
  dsimp only
  split
  · rw [hstage]
  · rfl

theorem presented_of_asking {force : Bool} (hlock : world.lock = some thread)
    (hsame : clients.fingerprint thread = fingerprint) (hstage : world.stage thread = .asking force) :
    world.presented clients fingerprint = none := by
  rw [presented, hlock]
  dsimp only
  rw [if_pos hsame, hstage]

theorem presented_of_storing {token : τ} (hlock : world.lock = some thread)
    (hsame : clients.fingerprint thread = fingerprint)
    (hstage : world.stage thread = .storing token) :
    world.presented clients fingerprint = some token := by
  rw [presented, hlock]
  dsimp only
  rw [if_pos hsame, hstage]

/-- Threads that are not under the lock present nothing. -/
theorem presented_congr (hlock : world'.lock = world.lock) (hfile : world'.file = world.file)
    (hstage : ∀ holder, world.lock = some holder → world'.stage holder = world.stage holder) :
    world'.presented clients fingerprint = world.presented clients fingerprint := by
  unfold presented
  rw [hlock, hfile]
  cases hheld : world.lock with
  | none => rfl
  | some holder => simp only [hstage holder hheld]

variable [DecidableEq τ]

theorem covered_congr (haccepted : world'.accepted fingerprint = world.accepted fingerprint)
    (hpresented : world'.presented clients fingerprint = world.presented clients fingerprint) :
    world'.covered clients fingerprint = world.covered clients fingerprint := by
  rw [covered, covered, haccepted, hpresented]

theorem covered_of (hcovered : world.covered clients fingerprint = true)
    (haccepted : world'.accepted fingerprint = world.accepted fingerprint)
    (hpresented : world'.presented clients fingerprint = world.presented clients fingerprint) :
    world'.covered clients fingerprint = true :=
  (covered_congr haccepted hpresented).trans hcovered

/-- A token that nobody presents is not covered. -/
theorem covered_of_presented_none (hnone : world.presented clients fingerprint = none) :
    world.covered clients fingerprint = false := by
  rw [covered, hnone]
  cases haccepted : world.accepted fingerprint with
  | none => rfl
  | some token => simp

theorem outlay_le_length_add_one :
    outlay clients fingerprint world ≤ (world.issued fingerprint).length + 1 := by
  unfold outlay
  split
  · exact Nat.le_succ _
  · exact le_rfl

theorem outlay_le {loss : ℕ} (hissued : world'.issued fingerprint = world.issued fingerprint)
    (hcovered : world.covered clients fingerprint = true →
      world'.covered clients fingerprint = true ∨ 1 ≤ loss) :
    outlay clients fingerprint world' ≤ outlay clients fingerprint world + loss := by
  unfold outlay
  rw [hissued]
  cases hbefore : world.covered clients fingerprint with
  | false =>
      rw [if_neg Bool.false_ne_true]
      split <;> omega
  | true =>
      rcases hcovered hbefore with hafter | hloss
      · simp [hafter]
      · rw [if_pos rfl]
        split <;> omega

theorem outlay_congr (hissued : world'.issued fingerprint = world.issued fingerprint)
    (haccepted : world'.accepted fingerprint = world.accepted fingerprint)
    (hpresented : world'.presented clients fingerprint = world.presented clients fingerprint) :
    outlay clients fingerprint world' ≤ outlay clients fingerprint world := by
  unfold outlay
  rw [hissued, covered_congr haccepted hpresented]

/-- The tokens of an application that is asked for: the last one is paid by the token nobody
presented before, the others are lost. -/
theorem outlay_answered {force : Bool} {endpoint : ℕ → TossClient.TokenReply τ}
    {result : TossClient.AuthenticateResult τ}
    (hresult : TossClient.authenticateAt (world.accessToken (clients.owner thread)) force endpoint
      = result) {token : τ} (hok : result.answer = .ok token) {answered : TokenWorld φ ι κ τ}
    (hissued : answered.issued fingerprint = result.issued.reverse ++ world.issued fingerprint)
    (haccepted : answered.accepted fingerprint
      = result.issued.getLast?.or (world.accepted fingerprint))
    (hpresented : answered.presented clients fingerprint = some token) :
    outlay clients fingerprint answered
      ≤ (world.issued fingerprint).length + 1 + result.unseen := by
  have hunseen : result.unseen = result.issued.length - 1 := by
    rw [TossClient.AuthenticateResult.unseen, hok]
  subst hresult
  rcases TossClient.authenticateAt_ok hok with hnone | ⟨unseen, hlast⟩
  · refine outlay_le_length_add_one.trans ?_
    rw [hissued, hnone]
    simp
  · have hcovered : answered.covered clients fingerprint = true := by
      rw [covered, hpresented, haccepted, hlast]
      simp
    rw [outlay, hcovered, hissued, hunseen, hlast]
    simp
    omega

variable [DecidableEq ι]

/-- A thread that is not under the lock moves freely. -/
theorem outlay_setStage {stage : TokenStage τ} (hoff : world.lock ≠ some thread) :
    outlay clients fingerprint (world.setStage thread stage)
      ≤ outlay clients fingerprint world := by
  refine outlay_congr rfl rfl (presented_congr rfl rfl ?_)
  intro holder hholder
  refine Function.update_of_ne ?_ ..
  rintro rfl
  exact hoff hholder

variable [DecidableEq κ]

/-- The thread that loads pays for a token that is too old, or accepted and refused. -/
theorem Exclusive.grows_loads (hexclusive : world.Exclusive) (now : ℚ) :
    outlay clients fingerprint (world.step clients (.loads thread now))
      ≤ outlay clients fingerprint world + world.losses clients fingerprint (.loads thread now) := by
  unfold TokenWorld.step
  dsimp only
  split
  next force rejected hstage =>
    have hlock := hexclusive.lock_of_stage hstage rfl
    have hbefore : world.presented clients fingerprint = world.file.token fingerprint :=
      presented_of_holding hlock hstage
    split
    next cached hloaded =>
      -- The cached token is returned: the file and the lock are given back as they were.
      refine le_trans ?_ (Nat.le_add_right _ _)
      refine outlay_congr rfl rfl ?_
      rw [hbefore]
      exact presented_of_free rfl
    next hnone =>
      refine outlay_le rfl fun hcovered => ?_
      by_cases hsame : clients.fingerprint thread = fingerprint
      · -- the accepted token was in the file: it was refused, or it is too old
        subst hsame
        rw [covered, hbefore, Bool.and_eq_true, decide_eq_true_eq] at hcovered
        obtain ⟨hsome, htoken⟩ := hcovered
        obtain ⟨token, haccepted⟩ := Option.isSome_iff_exists.mp hsome
        rw [haccepted] at htoken
        have hlost : (clients.cache (clients.owner thread)).aged world.file now = true ∨
            world.refusesAccepted (clients.fingerprint thread) rejected = true := by
          rcases SharedTossTokenCache.loadLocked_none hnone htoken with hexcluded | haged
          · exact .inr (by simp [refusesAccepted, hexcluded, haccepted])
          · exact .inl haged
        refine .inr ?_
        simp only [losses, hstage, hlost, and_self, if_true]
        exact le_rfl
      · -- Another pair of keys: its file stays.
        refine .inl (covered_of hcovered rfl ?_)
        rw [hbefore]
        refine (presented_of_ne ?_ hsame).trans ?_
        · exact hlock
        dsimp only
        split
        · exact SharedTossTokenCache.token_discardLocked_of_ne (Ne.symm hsame)
        · rfl
  · exact Nat.le_add_right _ _

/-- Asking is paid by the token that nobody presents. -/
theorem Exclusive.grows_asks (hexclusive : world.Exclusive)
    (endpoint : ℕ → TossClient.TokenReply τ) :
    outlay clients fingerprint (world.step clients (.asks thread endpoint))
      ≤ outlay clients fingerprint world
        + world.losses clients fingerprint (.asks thread endpoint) := by
  unfold TokenWorld.step
  dsimp only
  split
  next force hstage =>
    have hlock := hexclusive.lock_of_stage hstage rfl
    by_cases hsame : clients.fingerprint thread = fingerprint
    · -- Nobody presents a token of this pair while its thread asks for one.
      have huncovered : world.covered clients fingerprint = false :=
        covered_of_presented_none (presented_of_asking hlock hsame hstage)
      have hbefore : outlay clients fingerprint world = (world.issued fingerprint).length + 1 := by
        rw [outlay, huncovered]
        rfl
      have hloss : world.losses clients fingerprint (.asks thread endpoint)
          = (TossClient.authenticateAt (world.accessToken (clients.owner thread)) force
              endpoint).unseen := by
        simp only [losses, hstage, if_pos hsame]
      rw [hbefore, hloss]
      subst hsame
      split
      next error herror =>
        -- The tokens of a failed attempt are issued and never seen.
        refine outlay_le_length_add_one.trans ?_
        simp only [TossClient.AuthenticateResult.unseen, herror, TokenWorld.release,
          TokenWorld.setStage, TokenWorld.setToken, TokenWorld.issue, Function.update_self,
          List.length_append, List.length_reverse]
        omega
      next token hok =>
        refine outlay_answered rfl hok ?_ ?_ ?_
        · exact Function.update_self ..
        · exact Function.update_self ..
        · exact presented_of_storing hlock rfl (Function.update_self ..)
    · -- The tokens of another pair of keys are not concerned.
      have hbefore : world.presented clients fingerprint = world.file.token fingerprint :=
        presented_of_ne hlock hsame
      refine le_trans ?_ (Nat.le_add_right _ _)
      split
      next error herror =>
        refine outlay_congr (Function.update_of_ne (Ne.symm hsame) ..)
          (Function.update_of_ne (Ne.symm hsame) ..) ?_
        rw [hbefore]
        exact presented_of_free rfl
      next token hok =>
        refine outlay_congr (Function.update_of_ne (Ne.symm hsame) ..)
          (Function.update_of_ne (Ne.symm hsame) ..) ?_
        rw [hbefore]
        exact presented_of_ne hlock hsame
  · exact Nat.le_add_right _ _

/-- A thread that stops costs the token it was about to store. -/
theorem Exclusive.grows_stops (hexclusive : world.Exclusive) (dies : Bool) :
    outlay clients fingerprint (world.step clients (.stops thread dies))
      ≤ outlay clients fingerprint world
        + world.losses clients fingerprint (.stops thread dies) := by
  -- A client that dies forgets its token; the file still has what it had.
  have hdeath : outlay clients fingerprint (world.step clients (.stops thread dies))
      ≤ outlay clients fingerprint (world.step clients (.stops thread false)) := by
    unfold TokenWorld.step
    cases dies with
    | false => exact le_rfl
    | true =>
        dsimp only
        split <;> exact outlay_congr rfl rfl (presented_congr rfl rfl fun _ _ => rfl)
  refine hdeath.trans ?_
  have hloss : world.losses clients fingerprint (.stops thread dies)
      = world.losses clients fingerprint (.stops thread false) := rfl
  rw [hloss]
  unfold TokenWorld.step
  simp only [Bool.false_eq_true, if_false]
  split
  next hlock =>
    refine outlay_le rfl fun hcovered => ?_
    have hunder := (hexclusive thread).mpr hlock
    have hafter : (world.release thread).presented clients fingerprint
        = world.file.token fingerprint := presented_of_free rfl
    -- Where the thread was when it stopped decides what goes with it.
    cases hstage : world.stage thread with
    | idle =>
        rw [hstage] at hunder
        cases hunder
    | waiting force rejected =>
        rw [hstage] at hunder
        cases hunder
    | holding force rejected =>
        refine .inl (covered_of hcovered rfl ?_)
        rw [hafter, presented_of_holding hlock hstage]
    | asking force =>
        by_cases hsame : clients.fingerprint thread = fingerprint
        · rw [covered_of_presented_none (presented_of_asking hlock hsame hstage)] at hcovered
          cases hcovered
        · refine .inl (covered_of hcovered rfl ?_)
          rw [hafter, presented_of_ne hlock hsame]
    | storing token =>
        by_cases hsame : clients.fingerprint thread = fingerprint
        · refine .inr ?_
          simp only [losses, hstage, if_pos hsame]
          exact le_rfl
        · refine .inl (covered_of hcovered rfl ?_)
          rw [hafter, presented_of_ne hlock hsame]
  next hoff => exact (outlay_setStage hoff).trans (Nat.le_add_right _ _)

/-- One event adds to the outlay at most what it loses. -/
theorem Exclusive.grows (hexclusive : world.Exclusive) (event : TokenEvent φ ι τ) :
    outlay clients fingerprint (world.step clients event)
      ≤ outlay clients fingerprint world + world.losses clients fingerprint event := by
  cases event with
  | begins thread force =>
      refine le_trans ?_ (Nat.le_add_right _ _)
      unfold TokenWorld.step
      dsimp only
      split
      next hidle =>
        refine outlay_setStage ?_
        rw [ne_eq, ← hexclusive thread, hidle]
        simp [TokenStage.underLock]
      · exact le_rfl
  | locks thread =>
      refine le_trans ?_ (Nat.le_add_right _ _)
      unfold TokenWorld.step
      dsimp only
      split
      next force rejected hstage hfree =>
        refine outlay_congr rfl rfl ?_
        rw [presented_of_free hfree]
        exact presented_of_holding rfl (Function.update_self ..)
      · exact le_rfl
  | loads thread now => exact hexclusive.grows_loads now
  | asks thread endpoint => exact hexclusive.grows_asks endpoint
  | stores thread now =>
      refine le_trans ?_ (Nat.le_add_right _ _)
      unfold TokenWorld.step
      dsimp only
      split
      next token hstage =>
        have hlock := hexclusive.lock_of_stage hstage rfl
        refine outlay_congr rfl rfl ?_
        rw [presented_of_free rfl]
        by_cases hsame : clients.fingerprint thread = fingerprint
        · rw [presented_of_storing hlock hsame hstage, ← hsame]
          exact SharedTossTokenCache.token_storeLocked_self
        · rw [presented_of_ne hlock hsame]
          exact SharedTossTokenCache.token_storeLocked_of_ne (Ne.symm hsame)
      · exact le_rfl
  | stops thread dies => exact hexclusive.grows_stops dies
  | rejects other =>
      -- Toss stops accepting a token: that one is the loss.
      refine outlay_le rfl fun hcovered => ?_
      by_cases hsame : other = fingerprint
      · exact .inr (if_pos hsame).ge
      · exact .inl (covered_of hcovered (Function.update_of_ne (Ne.symm hsame) ..) rfl)
  | loses other =>
      refine outlay_le rfl fun hcovered => ?_
      by_cases hsame : other = fingerprint
      · exact .inr (if_pos hsame).ge
      · refine .inl (covered_of hcovered rfl ?_)
        have htoken : TokenFile.token (Function.update world.file other none) fingerprint
            = world.file.token fingerprint := by
          rw [TokenFile.token, Function.update_of_ne (Ne.symm hsame), TokenFile.token]
        simp only [TokenWorld.step, presented, htoken]

end Outlay

end TokenWorld

namespace TwoClients

/-- Two processes of one application, the second one with two threads. -/
def clients : TokenClients Unit (Fin 3) (Fin 2) where
  owner thread := if thread = 0 then 0 else 1
  cache _ := ⟨(), 64800⟩

/-- The first process gets a token, at its second attempt, and the second one finds it; the server
rejects it, and all threads are told to refresh it.  The first one asks and the second one finds the
new token, which the third one does not know of and finds as well. -/
def events : List (TokenEvent Unit (Fin 3) ℕ) :=
  [.begins 0 false, .locks 0, .loads 0 0,
    .asks 0 (fun attempt => if attempt = 0 then .failed .integrity true none else .token 1),
    .stores 0 0, .begins 1 false, .locks 1, .loads 1 5,
    .rejects (), .begins 0 true, .begins 1 true, .begins 2 true,
    .locks 0, .loads 0 10, .asks 0 (fun _ => .token 2), .stores 0 10,
    .locks 1, .loads 1 15, .locks 2, .loads 2 20]

open TokenWorld in
/-- One loss, and two tokens. -/
example : ((events.foldl (step clients) {}).issued ()).length = 2 ∧
    Run.total (step clients) (losses clients ()) {} events = 1 := by
  decide +kernel

end TwoClients

end JdHoldings
