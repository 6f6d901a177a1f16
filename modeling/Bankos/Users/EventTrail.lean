import Bankos.Base.Replay
import Bankos.Core.Entities

/-!
# The events of a user

The methods of `identity/src/core/domain/User.ts` statement by statement, on an object that keeps
what was assigned before a throw. The numbers are those of the language, with the three operations
that the class applies to them. The buffered events are the changes since they were last cleared.
-/

namespace Bankos

open Replay

/-- What `User.ts` does with a number: `0`, `x + 1` and `x >= y`. -/
class Counting (N : Type) where
  zero : N
  plusOne : N → N
  atLeast : N → N → Bool

instance : Counting Int := ⟨0, fun x ↦ x + 1, fun x y ↦ decide (y ≤ x)⟩

/-- The fields of a user, `User.ts:8–31`. -/
structure UserObject (N : Type) where
  id : String
  email : String
  passwordHash : String
  isLocked : Bool
  failedLoginAttempts : N
  emailVerified : Bool
  domainEvents : List DomainEvent

/-- A method: it changes the fields, and it may throw at any point. -/
abbrev Method (N : Type) := ExceptT JsError (StateM (UserObject N))

namespace UserObject

variable {N : Type}

/-- The constructor, `User.ts:15–31`. -/
def construct (id email passwordHash : String) (isLocked : Bool) (failedLoginAttempts : N)
    (emailVerified isNew : Bool) : UserObject N :=
  ⟨id, email, passwordHash, isLocked, failedLoginAttempts, emailVerified,
    if isNew then [{ detail := .userRegistered id email }] else []⟩

/-- `this._domainEvents.push(event)`. -/
def push (event : EventClass) : Method N Unit :=
  modify fun u ↦ { u with domainEvents := u.domainEvents ++ [{ detail := event }] }

/-- `User.ts:54–56`. -/
def clearEvents : Method N Unit := modify fun u ↦ { u with domainEvents := [] }

/-- `User.ts:58–64`. -/
def lock (reason : String) : Method N Unit := do
  if (← get).isLocked then return
  modify fun u ↦ { u with isLocked := true }
  push (.userLocked (← get).id reason)

variable [Counting N]

/-- `User.ts:66–69`. -/
def unlock : Method N Unit := do
  modify fun u ↦ { u with isLocked := false }
  modify fun u ↦ { u with failedLoginAttempts := Counting.zero }

/-- The reason that `User.ts:77` gives. -/
def tooManyAttempts : String := "Exceeded maximum failed login attempts"

/-- `User.ts:71–79`. -/
def incrementFailedAttempts (maxAttempts : N) : Method N Unit := do
  if (← get).isLocked then return
  modify fun u ↦ { u with failedLoginAttempts := Counting.plusOne u.failedLoginAttempts }
  if Counting.atLeast (← get).failedLoginAttempts maxAttempts then
    lock tooManyAttempts

/-- `User.ts:81–83`. -/
def resetFailedAttempts : Method N Unit :=
  modify fun u ↦ { u with failedLoginAttempts := Counting.zero }

/-- `User.ts:85–90`. -/
def verifyEmail : Method N Unit := do
  if (← get).emailVerified then return
  modify fun u ↦ { u with emailVerified := true }

/-- `User.ts:92–98`. -/
def changePassword (newPasswordHash : String) : Method N Unit := do
  if (← get).passwordHash = newPasswordHash then
    throw (.invalidStateError "New password must be different from the old password")
  modify fun u ↦ { u with passwordHash := newPasswordHash }
  push (.passwordChanged (← get).id)

/-- `User.ts:100–106`. -/
def recordLogin (ipAddress userAgent : String) : Method N Unit := do
  if (← get).isLocked then
    throw (.invalidStateError "User is locked and cannot log in")
  resetFailedAttempts
  push (.userLoggedIn (← get).id ipAddress userAgent)

/-- A call of one of the methods. -/
inductive Call (N : Type) where
  | lock (reason : String)
  | unlock
  | incrementFailedAttempts (maxAttempts : N)
  | resetFailedAttempts
  | verifyEmail
  | changePassword (newPasswordHash : String)
  | recordLogin (ipAddress userAgent : String)
  | clearEvents

/-- The method that is called. -/
def Call.method : Call N → Method N Unit
  | lock reason => UserObject.lock reason
  | unlock => UserObject.unlock
  | incrementFailedAttempts maxAttempts => UserObject.incrementFailedAttempts maxAttempts
  | resetFailedAttempts => UserObject.resetFailedAttempts
  | verifyEmail => UserObject.verifyEmail
  | changePassword newPasswordHash => UserObject.changePassword newPasswordHash
  | recordLogin ipAddress userAgent => UserObject.recordLogin ipAddress userAgent
  | clearEvents => UserObject.clearEvents

/-- A call on a user: how it ends, and the fields it leaves. -/
def perform (call : Call N) (u : UserObject N) : Except JsError Unit × UserObject N :=
  call.method.run.run u

/-! ### What each method does -/

/-- A locked user stays as it is; any other is locked, and the lock is recorded. -/
theorem perform_lock (reason : String) (u : UserObject N) :
    perform (.lock reason) u = (.ok (), if u.isLocked then u else { u with
      isLocked := true
      domainEvents := u.domainEvents ++ [{ detail := .userLocked u.id reason }] }) := by
  show (ite (u.isLocked = true) _ _ : Method N Unit).run.run u = _
  split <;> rfl

/-- Unlocking a user. -/
theorem perform_unlock (u : UserObject N) :
    perform .unlock u =
      (.ok (), { u with isLocked := false, failedLoginAttempts := Counting.zero }) := rfl

/-- A failure of a user who is not locked is counted, and the user is locked at the limit. -/
theorem perform_incrementFailedAttempts (maxAttempts : N) (u : UserObject N) :
    perform (.incrementFailedAttempts maxAttempts) u = (.ok (), if u.isLocked then u
      else if Counting.atLeast (Counting.plusOne u.failedLoginAttempts) maxAttempts then { u with
        failedLoginAttempts := Counting.plusOne u.failedLoginAttempts
        isLocked := true
        domainEvents := u.domainEvents ++ [{ detail := .userLocked u.id tooManyAttempts }] }
      else { u with failedLoginAttempts := Counting.plusOne u.failedLoginAttempts }) := by
  show (ite (u.isLocked = true) _ _ : Method N Unit).run.run u = _
  split
  · rfl
  · next hlocked =>
    -- the count is assigned before the limit is looked at, and `lock` looks at the flag again
    have hopen : u.isLocked = false := Bool.eq_false_iff.mpr hlocked
    show (ite (Counting.atLeast (Counting.plusOne u.failedLoginAttempts) maxAttempts = true) _ _ :
      Method N Unit).run.run
        { u with failedLoginAttempts := Counting.plusOne u.failedLoginAttempts } = _
    split
    · show perform (.lock tooManyAttempts) _ = _
      rw [perform_lock, if_neg hlocked]
    · rfl

/-- Setting the count of failed attempts back. -/
theorem perform_resetFailedAttempts (u : UserObject N) :
    perform .resetFailedAttempts u = (.ok (), { u with failedLoginAttempts := Counting.zero }) :=
  rfl

/-- Verifying an email that is not verified. -/
theorem perform_verifyEmail (u : UserObject N) :
    perform .verifyEmail u =
      (.ok (), if u.emailVerified then u else { u with emailVerified := true }) := by
  show (ite (u.emailVerified = true) _ _ : Method N Unit).run.run u = _
  split <;> rfl

/-- The hash that the user has is refused; any other is taken, and the change is recorded. -/
theorem perform_changePassword (newPasswordHash : String) (u : UserObject N) :
    perform (.changePassword newPasswordHash) u =
      if u.passwordHash = newPasswordHash then
        (.error (.invalidStateError "New password must be different from the old password"), u)
      else (.ok (), { u with
        passwordHash := newPasswordHash
        domainEvents := u.domainEvents ++ [{ detail := .passwordChanged u.id }] }) := by
  show (ite (u.passwordHash = newPasswordHash) _ _ : Method N Unit).run.run u = _
  split <;> rfl

/-- A locked user is refused; any other starts to count anew, and the login is recorded. -/
theorem perform_recordLogin (ipAddress userAgent : String) (u : UserObject N) :
    perform (.recordLogin ipAddress userAgent) u =
      if u.isLocked then
        (.error (.invalidStateError "User is locked and cannot log in"), u)
      else (.ok (), { u with
        failedLoginAttempts := Counting.zero
        domainEvents := u.domainEvents ++
          [{ detail := .userLoggedIn u.id ipAddress userAgent }] }) := by
  show (ite (u.isLocked = true) _ _ : Method N Unit).run.run u = _
  split <;> rfl

/-- Clearing the events of a user. -/
theorem perform_clearEvents (u : UserObject N) :
    perform .clearEvents u = (.ok (), { u with domainEvents := [] }) := rfl

/-! ### What a turn shows -/

/-- The reason with which a call locks a user. -/
def Call.lockReason : Call N → String
  | lock reason => reason
  | _ => tooManyAttempts

/-- The call clears the events. -/
def Call.clears : Call N → Bool
  | clearEvents => true
  | _ => false

/-- The event of a lock, if the flag went from false to true. -/
def lockShown (t : Turn (Call N) JsError (UserObject N)) : List DomainEvent :=
  if t.before.isLocked = false ∧ t.after.isLocked = true then
    [{ detail := .userLocked t.before.id t.call.lockReason }]
  else []

/-- The event of a new password, if the hash has changed. -/
def passwordShown (t : Turn (Call N) JsError (UserObject N)) : List DomainEvent :=
  if t.before.passwordHash ≠ t.after.passwordHash then
    [{ detail := .passwordChanged t.before.id }]
  else []

/-- The event of a login that did not throw. -/
def loginShown (t : Turn (Call N) JsError (UserObject N)) : List DomainEvent :=
  match t.call, t.outcome with
  | .recordLogin ipAddress userAgent, .ok () =>
    [{ detail := .userLoggedIn t.before.id ipAddress userAgent }]
  | _, _ => []

/-- The events of the changes of a turn. -/
def changesShown (t : Turn (Call N) JsError (UserObject N)) : List DomainEvent :=
  lockShown t ++ passwordShown t ++ loginShown t

/-- A call that throws has changed nothing. -/
theorem perform_error {call : Call N} {u : UserObject N} {e : JsError}
    (h : (perform call u).1 = .error e) : (perform call u).2 = u := by
  cases call with
  | changePassword newPasswordHash =>
    rw [perform_changePassword] at h ⊢
    split at h
    · next hsame => rw [if_pos hsame]
    · cases h
  | recordLogin ipAddress userAgent =>
    rw [perform_recordLogin] at h ⊢
    split at h
    · next hlocked => rw [if_pos hlocked]
    · cases h
  | lock reason => rw [perform_lock] at h; cases h
  | incrementFailedAttempts maxAttempts => rw [perform_incrementFailedAttempts] at h; cases h
  | verifyEmail => rw [perform_verifyEmail] at h; cases h
  | unlock => cases h
  | resetFailedAttempts => cases h
  | clearEvents => cases h

/-- A login that did not throw was that of a user who was not locked. -/
theorem unlocked_of_recordLogin {ipAddress userAgent : String} {u : UserObject N}
    (h : (perform (.recordLogin ipAddress userAgent) u).1 = .ok ()) : u.isLocked = false := by
  rw [perform_recordLogin] at h
  split at h
  · cases h
  · next hlocked => exact Bool.eq_false_iff.mpr hlocked

/-- A call that clears leaves no event. -/
theorem domainEvents_of_clears {call : Call N} {u : UserObject N} (h : call.clears = true) :
    (perform call u).2.domainEvents = [] := by
  cases call with
  | clearEvents => rw [perform_clearEvents]
  | _ => cases h

/-- Every other call extends the events by those of its changes. -/
theorem domainEvents_of_not_clears {call : Call N} {u : UserObject N} (h : call.clears = false) :
    (perform call u).2.domainEvents = u.domainEvents ++ changesShown (turn perform u call) := by
  unfold changesShown lockShown passwordShown loginShown turn
  cases call with
  | lock reason =>
    rw [perform_lock]
    cases hlocked : u.isLocked <;> simp [hlocked, Call.lockReason]
  | unlock => simp [perform_unlock]
  | incrementFailedAttempts maxAttempts =>
    rw [perform_incrementFailedAttempts]
    cases hlocked : u.isLocked with
    | true => simp [hlocked]
    | false =>
      by_cases hlimit : Counting.atLeast (Counting.plusOne u.failedLoginAttempts) maxAttempts = true
      · simp [hlimit, Call.lockReason]
      · simp [hlimit]
  | resetFailedAttempts => simp [perform_resetFailedAttempts]
  | verifyEmail =>
    rw [perform_verifyEmail]
    cases hverified : u.emailVerified <;> simp
  | changePassword newPasswordHash =>
    rw [perform_changePassword]
    by_cases hsame : u.passwordHash = newPasswordHash
    · simp [hsame]
    · simp [hsame]
  | recordLogin ipAddress userAgent =>
    rw [perform_recordLogin]
    cases hlocked : u.isLocked <;> simp [hlocked]
  | clearEvents => cases h

/-! ### The entity of the other modules -/

end UserObject

open UserObject

/-- The object with the fields of the entity. -/
def User.object (u : User) : UserObject Int :=
  ⟨u.id, u.email, u.passwordHash, u.isLocked, u.failedLoginAttempts, u.emailVerified,
    u.domainEvents⟩

/-- The call on the entity. -/
def UserObject.Call.onUser (u : User) : Call Int → Except JsError User
  | lock reason => .ok (u.lock reason)
  | unlock => .ok u.unlock
  | incrementFailedAttempts maxAttempts => .ok (u.incrementFailedAttempts maxAttempts)
  | resetFailedAttempts => .ok u.resetFailedAttempts
  | verifyEmail => .ok u.verifyEmail
  | changePassword newPasswordHash => u.changePassword newPasswordHash
  | recordLogin ipAddress userAgent => u.recordLogin ipAddress userAgent
  | clearEvents => .ok u.clearEvents

/-- The entity does what its object does, and it is as it was where the object throws. -/
theorem User.perform_object (u : User) (call : Call Int) :
    perform call u.object = match call.onUser u with
      | .ok u' => (.ok (), u'.object)
      | .error e => (.error e, u.object) := by
  cases call with
  | lock reason =>
    rw [perform_lock]
    show (_, ite (u.isLocked = true) _ _) = (_, (User.lock u reason).object)
    unfold User.lock
    split <;> rfl
  | unlock => rfl
  | incrementFailedAttempts maxAttempts =>
    rw [perform_incrementFailedAttempts]
    show (_, ite (u.isLocked = true) _ _) = (_, (u.incrementFailedAttempts maxAttempts).object)
    unfold User.incrementFailedAttempts User.lock
    by_cases hlocked : u.isLocked = true
    · rw [if_pos hlocked, if_pos hlocked]
    · by_cases hlimit : maxAttempts ≤ u.failedLoginAttempts + 1
      · simp [hlocked, hlimit, User.object, Counting.atLeast, Counting.plusOne, tooManyAttempts]
      · simp [hlocked, hlimit, User.object, Counting.atLeast, Counting.plusOne]
  | resetFailedAttempts => rfl
  | verifyEmail =>
    rw [perform_verifyEmail]
    show (_, ite (u.emailVerified = true) _ _) = (_, (User.verifyEmail u).object)
    unfold User.verifyEmail
    split <;> rfl
  | changePassword newPasswordHash =>
    rw [perform_changePassword]
    unfold Call.onUser User.changePassword User.object
    dsimp only
    by_cases hsame : u.passwordHash = newPasswordHash
    · rw [if_pos hsame, if_pos hsame]
    · rw [if_neg hsame, if_neg hsame]
  | recordLogin ipAddress userAgent =>
    rw [perform_recordLogin]
    unfold Call.onUser User.recordLogin User.object
    dsimp only
    by_cases hlocked : u.isLocked = true
    · rw [if_pos hlocked, if_pos hlocked]
    · rw [if_neg hlocked, if_neg hlocked]
      rfl
  | clearEvents => rfl

/-! ### Sequences of calls -/

/-- What the calls on a user have done, and the events they have left. -/
structure EventsMirror {N : Type} [Counting N] (u : UserObject N) (calls : List (Call N)) :
    Prop where
  thrown : ∀ t ∈ turns perform u calls, ∀ e, t.outcome = .error e → t.after = t.before
  logins : ∀ t ∈ turns perform u calls, ∀ ipAddress userAgent,
    t.call = .recordLogin ipAddress userAgent → t.outcome = .ok () → t.before.isLocked = false
  events : (final perform u calls).domainEvents =
    (since Call.clears (turns perform u calls)).flatMap changesShown

/-- Whatever is called on a user who was not new: a call that throws changes nothing, every recorded
login is that of a user who was not locked, and the events are the changes since the last clearing,
in order. By `User.perform_object` the entity of the services does what its object does. -/
theorem events_mirror_changes {N : Type} [Counting N] (id email passwordHash : String)
    (isLocked : Bool) (failedLoginAttempts : N) (emailVerified : Bool) (calls : List (Call N)) :
    EventsMirror (construct id email passwordHash isLocked failedLoginAttempts emailVerified false)
      calls where
  thrown := forall_turns (fun _ _ _ h ↦ perform_error h) _ calls
  logins := by
    apply forall_turns
    intro u call ipAddress userAgent hcall houtcome
    cases hcall
    exact unlocked_of_recordLogin houtcome
  events := by
    apply buffer_eq
    · rfl
    · exact fun _ _ hclears ↦ domainEvents_of_clears hclears
    · exact fun _ _ hclears ↦ domainEvents_of_not_clears hclears

end Bankos
