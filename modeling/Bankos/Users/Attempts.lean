import Bankos.Base.Throttle
import Bankos.Sessions.Issue
import Bankos.Users.Enumeration
import Bankos.Users.Lockout

/-!
# Logins one after the other

Sequential logins to one user, each of which loads the user and writes it back before the next one
starts. The stored counter and the stored lock are those of a counter of failures with limit five.
-/

namespace Bankos

open Js Jwt Effects Storage Prog DatabaseMapper

/-- The user `u` as it is stored with `c` failures. -/
def UserRow.counted (u : UserRow) (c : Int) : UserRow :=
  { u with failedLoginAttempts := c, isLocked := decide (5 ≤ c) }

/-- The password of the login is the one of the user. -/
def LoginRequest.passes (env : Env) (u : UserRow) (r : LoginRequest) : Bool :=
  decide (¬ r.Wrong env u)

namespace LoginService

/-- One of the logins. -/
def attempt (env : Env) (r : LoginRequest) : Program LoginResponse :=
  execute env PrismaUserRepository r

/-- The world after a sequence of logins, with the milliseconds that pass before each of them. -/
def afterAttempts (env : Env) (w : World) (calls : List (Nat × LoginRequest)) : World :=
  runAll (exec env) World.pass (attempt env) w calls

/-- Which of the logins of a sequence succeed. -/
def outcomes (env : Env) (w : World) (calls : List (Nat × LoginRequest)) : List Bool :=
  (visits (exec env) World.pass (attempt env) w calls).map fun v ↦
    ((attempt env v.2).run (exec env) v.1).1.isOk

/-- No call of the sequence fails. -/
def AttemptsAnswered (env : Env) (w : World) (calls : List (Nat × LoginRequest)) : Prop :=
  ∀ v ∈ visits (exec env) World.pass (attempt env) w calls, Unfailing env (attempt env v.2) v.1

instance (env : Env) (w : World) (calls : List (Nat × LoginRequest)) :
    Decidable (AttemptsAnswered env w calls) :=
  inferInstanceAs (Decidable (∀ v ∈ visits (exec env) World.pass (attempt env) w calls,
    Unfailing env (attempt env v.2) v.1))

end LoginService

variable {env : Env} {w : World} {r : LoginRequest} {u : UserRow} {c : Int}

/-! ### What is written -/

/-- A user that is not locked is stored with its counter. -/
theorem UserRow.counted_self (hunlocked : u.isLocked = false) (h : u.failedLoginAttempts < 5) :
    u.counted u.failedLoginAttempts = u := by
  unfold counted
  rw [decide_eq_false (Int.not_le.mpr h), ← hunlocked]

/-- A recorded login writes the counter back as zero. -/
theorem UserRow.write_recorded (h : c < 5) {user : User}
    (hrecord : (toDomainUser (u.counted c)).recordLogin r.ipAddress r.userAgent = .ok user) :
    (u.counted c).write u.id (PrismaUserRepository.updateData user) = u.counted 0 := by
  obtain ⟨hunlocked, rfl⟩ := User.recordLogin_ok hrecord
  unfold write
  rw [if_pos (show (u.counted c).id = u.id from rfl)]
  show { u with isLocked := decide (5 ≤ c), failedLoginAttempts := 0 } = u.counted 0
  rw [decide_eq_false (Int.not_le.mpr h)]
  rfl

/-- A counted failure writes the counter back with one more, and locks at the fifth. -/
theorem UserRow.write_incremented (h : c < 5) :
    (u.counted c).write u.id (PrismaUserRepository.updateData
        ((toDomainUser (u.counted c)).incrementFailedAttempts 5)) = u.counted (c + 1) := by
  have hunlocked : (toDomainUser (u.counted c)).isLocked = false :=
    decide_eq_false (Int.not_le.mpr h)
  obtain ⟨hattempts, hlocked⟩ := User.incrementFailedAttempts_unlocked (n := 5) hunlocked
  obtain ⟨-, -, hhash, hverified⟩ :=
    User.incrementFailedAttempts_spec (toDomainUser (u.counted c)) 5
  unfold write PrismaUserRepository.updateData toPrismaUser
  rw [if_pos (show (u.counted c).id = u.id from rfl), hattempts, hlocked, hhash, hverified]
  rfl

/-! ### One login -/

namespace LoginService

/-- A login to a locked user is refused and writes nothing. -/
theorem run_attempt_locked (hu : u ∈ w.users) (hto : r.To env u) (hlocked : u.isLocked = true) :
    (attempt env r).run (exec env) w = (.error (.domainError "Invalid credentials"), w) := by
  unfold attempt execute
  dsimp only
  rw [if_pos hto.isValid, PrismaUserRepository.proper.findByEmail,
    run_bind_ok env w (run_findByEmail env w _), hto.email, UserTable.find_email hu]
  dsimp only [Option.map]
  rw [if_pos (by exact hlocked)]
  exact run_refuse env w _ _

/-- A login to an unlocked user goes by the password. -/
theorem run_attempt_unlocked (hu : u ∈ w.users) (hto : r.To env u)
    (hunlocked : u.isLocked = false) :
    (attempt env r).run (exec env) w =
      if r.Wrong env u then
        (wrongPassword PrismaUserRepository (toDomainUser u)).run (exec env) w
      else (rightPassword env PrismaUserRepository r (toDomainUser u)).run (exec env) w := by
  unfold attempt execute
  dsimp only
  rw [if_pos hto.isValid, PrismaUserRepository.proper.findByEmail,
    run_bind_ok env w (run_findByEmail env w _), hto.email, UserTable.find_email hu]
  dsimp only [Option.map]
  rw [if_neg (by simpa using hunlocked), run_bind_ok env w (run_verify env w _ _)]
  by_cases hwrong : r.Wrong env u
  · rw [if_pos hwrong, if_neg (by exact fun h ↦ hwrong (of_decide_eq_true h))]
  · rw [if_neg hwrong, if_pos (by exact decide_eq_true (not_not.mp hwrong))]

/-- If no call of a login with the right password fails, none of those after the check does. -/
theorem unfailing_rightPassword (h : Unfailing env (attempt env r) w) (hu : u ∈ w.users)
    (hto : r.To env u) (hunlocked : u.isLocked = false) (hright : ¬ r.Wrong env u) :
    Unfailing env (rightPassword env PrismaUserRepository r (toDomainUser u)) w := by
  unfold attempt execute at h
  dsimp only at h
  rw [if_pos hto.isValid, PrismaUserRepository.proper.findByEmail] at h
  have hfound := h.after (run_findByEmail env w _)
  rw [hto.email, UserTable.find_email hu] at hfound
  dsimp only [Option.map] at hfound
  rw [if_neg (by simpa using hunlocked)] at hfound
  have hchecked := hfound.after (run_verify env w _ _)
  rw [if_pos (by exact decide_eq_true (not_not.mp hright))] at hchecked
  exact hchecked

/-- A wrong password is refused, and counted. -/
theorem run_wrongPassword (hu : u.counted c ∈ w.users) (h : c < 5) :
    ∃ w', (wrongPassword PrismaUserRepository (toDomainUser (u.counted c))).run (exec env) w =
        (.error (.domainError "Invalid credentials"), w') ∧ u.counted (c + 1) ∈ w'.users := by
  have hid : (u.counted c).id = ((toDomainUser (u.counted c)).incrementFailedAttempts 5).id :=
    (User.incrementFailedAttempts_spec (toDomainUser (u.counted c)) 5).1.symm
  have hupdated := run_update env w (r := u.counted c) hu hid
  unfold wrongPassword
  rw [PrismaUserRepository.proper.update, run_bind_ok env w hupdated]
  exact ⟨_, rfl, UserTable.mem_write.mpr ⟨_, hu, UserRow.write_incremented h⟩⟩

/-- The right password opens a session, and clears the counter. -/
theorem run_rightPassword (hu : u.counted c ∈ w.users) (h : c < 5)
    (hanswered : Unfailing env
      (rightPassword env PrismaUserRepository r (toDomainUser (u.counted c))) w) :
    ∃ tokens w', (rightPassword env PrismaUserRepository r (toDomainUser (u.counted c))).run
        (exec env) w = (.ok tokens, w') ∧ u.counted 0 ∈ w'.users := by
  have hunlocked : (toDomainUser (u.counted c)).isLocked = false :=
    decide_eq_false (Int.not_le.mpr h)
  obtain ⟨user, hrecord⟩ : ∃ user,
      (toDomainUser (u.counted c)).recordLogin r.ipAddress r.userAgent = .ok user :=
    ⟨_, User.recordLogin_unlocked hunlocked r.ipAddress r.userAgent⟩
  have hid : user.id = (u.counted c).id := by
    rw [(User.recordLogin_ok hrecord).2]
    rfl
  have hupdated : (PrismaUserRepository.update user).run (exec env) w =
      (.ok (), { w with
        users := w.users.write u.id (PrismaUserRepository.updateData user) }) :=
    run_update env w (r := u.counted c) hu hid.symm
  have hstored := UserTable.mem_write.mpr ⟨_, hu, UserRow.write_recorded h hrecord⟩
  unfold rightPassword at hanswered ⊢
  rw [hrecord, done_ok_bind, PrismaUserRepository.proper.update] at hanswered ⊢
  rw [run_bind_ok env w hupdated]
  -- the session is opened, and that writes no users
  obtain ⟨tokens, htokens⟩ := (openSession_returns env r user).run (hanswered.after hupdated)
  refine ⟨tokens, _, Prod.ext htokens rfl, ?_⟩
  have huses := openSession_uses PrismaUserRepository.proper env r user
  refine huses.run_keeps (J := fun w' : World ↦ u.counted 0 ∈ w'.users) ?_ _ hstored
  intro w' op hop hstored'
  rw [exec_users env w' fun harea ↦ by simpa using hop _ harea]
  exact hstored'

/-- A login to the stored user counts as an attempt against the stored counter. -/
theorem run_attempt (hu : u.counted c ∈ w.users) (hto : r.To env u)
    (h : Unfailing env (attempt env r) w) :
    ((attempt env r).run (exec env) w).1.isOk = Throttle.admits 5 c (r.passes env u) ∧
      u.counted (Throttle.next 5 c (r.passes env u)) ∈ ((attempt env r).run (exec env) w).2.users ∧
      (5 ≤ c → ((attempt env r).run (exec env) w).2.users = w.users) := by
  have hto' : r.To env (u.counted c) := ⟨hto.isValid, hto.email⟩
  unfold Throttle.admits Throttle.next
  by_cases hlimit : 5 ≤ c
  · have hbelow : ¬ c < 5 := Int.not_lt.mpr hlimit
    rw [run_attempt_locked hu hto' (decide_eq_true hlimit)]
    refine ⟨?_, ?_, fun _ ↦ rfl⟩
    · rw [decide_eq_false hbelow, Bool.and_false]
      rfl
    · rw [if_neg hbelow]
      exact hu
  · have hbelow : c < 5 := Int.not_le.mp hlimit
    have hunlocked : (u.counted c).isLocked = false := decide_eq_false hlimit
    have hrun := run_attempt_unlocked hu hto' hunlocked
    rw [decide_eq_true hbelow, Bool.and_true, if_pos hbelow]
    by_cases hwrong : r.Wrong env u
    · rw [if_pos (show r.Wrong env (u.counted c) from hwrong)] at hrun
      have hpasses : r.passes env u = false := decide_eq_false (not_not.mpr hwrong)
      obtain ⟨w', hrefused, hstored⟩ := run_wrongPassword hu hbelow
      rw [hrun, hpasses, hrefused]
      exact ⟨rfl, hstored, fun h ↦ absurd h hlimit⟩
    · rw [if_neg (show ¬ r.Wrong env (u.counted c) from hwrong)] at hrun
      have hpasses : r.passes env u = true := decide_eq_true hwrong
      obtain ⟨tokens, w', hopened, hstored⟩ :=
        run_rightPassword hu hbelow (unfailing_rightPassword h hu hto' hunlocked hwrong)
      rw [hrun, hpasses, hopened]
      exact ⟨rfl, hstored, fun h ↦ absurd h hlimit⟩

/-! ### Sequences of logins -/

variable {calls : List (Nat × LoginRequest)}

/-- The stored counter and the outcomes of a sequence are those of the counter of failures. -/
theorem attempts_spec (hu : u.counted c ∈ w.users) (hto : ∀ call ∈ calls, call.2.To env u)
    (hanswered : AttemptsAnswered env w calls) :
    outcomes env w calls =
        Throttle.results 5 c (calls.map fun call ↦ call.2.passes env u) ∧
      u.counted (Throttle.count 5 c (calls.map fun call ↦ call.2.passes env u)) ∈
        (afterAttempts env w calls).users := by
  induction calls generalizing w c with
  | nil => exact ⟨rfl, hu⟩
  | cons call calls ih =>
    obtain ⟨t, r⟩ := call
    have hu' : u.counted c ∈ (w.pass t).users := hu
    obtain ⟨houtcome, hstored, -⟩ := run_attempt hu' (hto (t, r) (List.mem_cons_self ..))
      (hanswered (w.pass t, r) (List.mem_cons_self ..))
    obtain ⟨houtcomes, hafter⟩ := ih hstored
      (fun call hcall ↦ hto call (List.mem_cons_of_mem _ hcall))
      fun v hv ↦ hanswered v (List.mem_cons_of_mem _ hv)
    exact ⟨congrArg₂ List.cons houtcome houtcomes, hafter⟩

/-- The first part of a sequence whose calls do not fail. -/
theorem AttemptsAnswered.before {before after : List (Nat × LoginRequest)}
    (h : AttemptsAnswered env w (before ++ after)) : AttemptsAnswered env w before := by
  intro v hv
  apply h
  rw [visits_append]
  exact List.mem_append_left _ hv

/-- The second part. -/
theorem AttemptsAnswered.after {before after : List (Nat × LoginRequest)}
    (h : AttemptsAnswered env w (before ++ after)) :
    AttemptsAnswered env (afterAttempts env w before) after := by
  intro v hv
  apply h
  rw [visits_append]
  exact List.mem_append_right _ hv

/-- A locked user is left as it is. -/
theorem attempts_locked (hu : u.counted c ∈ w.users) (h : 5 ≤ c)
    (hto : ∀ call ∈ calls, call.2.To env u) (hanswered : AttemptsAnswered env w calls) :
    u.counted c ∈ (afterAttempts env w calls).users := by
  have hstored := (attempts_spec hu hto hanswered).2
  rw [Throttle.count_of_le h] at hstored
  exact hstored

/-- The lockout of the user `u` in a sequence of logins: a login succeeds when its password is right
and at no earlier point five failures had been counted since the last success; the stored counter
stays within five, the stored lock says that it is five, and a locked user stays as it is. -/
structure LockoutExact (env : Env) (w : World) (u : UserRow) (calls : List (Nat × LoginRequest)) :
    Prop where
  succeeds : ∀ before t r after, calls = before ++ (t, r) :: after →
    (((attempt env r).run (exec env) ((afterAttempts env w before).pass t)).1.isOk = true ↔
      ¬ r.Wrong env u ∧ ∀ earlier, earlier <+: outcomes env w before →
        Throttle.since u.failedLoginAttempts earlier < 5)
  counted : ∀ before, before <+: calls → ∃ row ∈ (afterAttempts env w before).users,
    row.id = u.id ∧ row.failedLoginAttempts ≤ 5 ∧
      (row.isLocked = true ↔ row.failedLoginAttempts = 5)
  frozen : ∀ before later, before ++ later <+: calls →
    ∀ row ∈ (afterAttempts env w before).users, row.id = u.id → row.isLocked = true →
      row ∈ (afterAttempts env w (before ++ later)).users

/-- Sequential logins to a user that starts out unlocked lock it out exactly. -/
theorem lockout_exact (hu : u ∈ w.users) (hunlocked : u.isLocked = false)
    (hcount : u.failedLoginAttempts < 5) (hto : ∀ call ∈ calls, call.2.To env u)
    (hanswered : AttemptsAnswered env w calls) : LockoutExact env w u calls := by
  have hu' : u.counted u.failedLoginAttempts ∈ w.users := by
    rw [UserRow.counted_self hunlocked hcount]
    exact hu
  -- how the sequence stands after some of its logins
  have hspec : ∀ before after, calls = before ++ after →
      outcomes env w before = Throttle.results 5 u.failedLoginAttempts
          (before.map fun call ↦ call.2.passes env u) ∧
        u.counted (Throttle.count 5 u.failedLoginAttempts
          (before.map fun call ↦ call.2.passes env u)) ∈ (afterAttempts env w before).users := by
    rintro before after rfl
    exact attempts_spec hu' (fun call hcall ↦ hto call (List.mem_append_left _ hcall))
      hanswered.before
  constructor
  case succeeds =>
    rintro before t r after rfl
    obtain ⟨houtcomes, hstored⟩ := hspec before _ rfl
    have hr : r.To env u := hto (t, r) (List.mem_append_right _ (List.mem_cons_self ..))
    obtain ⟨houtcome, -, -⟩ := run_attempt (w := (afterAttempts env w before).pass t) hstored hr
      (hanswered.after ((afterAttempts env w before).pass t, r) (List.mem_cons_self ..))
    rw [houtcome, Throttle.admits_count_iff hcount, houtcomes]
    exact and_congr_left' decide_eq_true_iff
  case counted =>
    rintro before ⟨after, rfl⟩
    obtain ⟨-, hstored⟩ := hspec before after rfl
    have hle : Throttle.count 5 u.failedLoginAttempts
        (before.map fun call ↦ call.2.passes env u) ≤ 5 :=
      Throttle.count_le (by decide) hcount.le _
    refine ⟨_, hstored, rfl, hle, ?_⟩
    exact decide_eq_true_iff.trans ⟨fun h ↦ hle.antisymm h, fun h ↦ h.ge⟩
  case frozen =>
    rintro before later ⟨after, rfl⟩ row hrow hid hlocked
    obtain ⟨-, hstored⟩ := hspec before (later ++ after) (List.append_assoc ..)
    obtain rfl := UserTable.eq_of_id hrow hstored hid
    have hlater : AttemptsAnswered env (afterAttempts env w before) later := hanswered.before.after
    have hafter := attempts_locked hstored (of_decide_eq_true hlocked)
      (fun call hcall ↦ hto call (by simp [hcall])) hlater
    unfold afterAttempts at hafter ⊢
    rw [runAll_append]
    exact hafter

end LoginService

/-- `alice` gives the wrong password five times, and then the right one. -/
def Sample.sixLogins : List (Nat × LoginRequest) :=
  [0, 1, 2, 3, 4, 5].map fun i ↦ (1000, logins i)

/-- The case of these logins: the last one comes too late. -/
theorem lockout_exact_sixLogins :
    LoginService.LockoutExact Sample.env Sample.registered Sample.alice Sample.sixLogins := by
  apply LoginService.lockout_exact (List.mem_singleton.mpr rfl) rfl (by decide) ?_
    (by decide +kernel)
  intro call hcall
  obtain ⟨i, -, rfl⟩ := List.mem_map.mp hcall
  exact Sample.logins_to i

end Bankos
