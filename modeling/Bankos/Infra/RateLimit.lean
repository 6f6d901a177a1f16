import Bankos.Base.Pool
import Bankos.Core.Events

/-!
# Counters with a time to live

`identity/src/infrastructure/redis/RedisRateLimitService.ts` and the Redis behind it. Counting and
setting the time to live are two round trips. Log lines are left out.
-/

namespace Bankos

open Effects Prog

/-! ### The service -/

/-- Calls on the Redis client; `multi` is `INCR` and `TTL` of one key in a transaction. -/
inductive CounterOp where
  | multi (key : String)
  | expire (key : String) (seconds : Int)
  | del (key : String)
  | get (key : String)
  deriving DecidableEq, Repr

/-- What the client answers: the results of a transaction, or `null` for one that was aborted; the
number of keys concerned; the number that a string holds. -/
abbrev CounterOp.Reply : CounterOp → Type
  | multi _ => Option (Int × Int)
  | expire _ _ => Nat
  | del _ => Nat
  | get _ => Option Int

/-- The calls of the service. -/
abbrev CounterApi : Interface := ⟨CounterOp, CounterOp.Reply⟩

/-- A piece of the service. -/
abbrev CounterProgram := Prog CounterApi JsError

namespace RedisRateLimitService

/-- `RedisRateLimitService.ts:8–32`. -/
def incrementAttempts (key : String) (ttlSeconds : Int) : CounterProgram Int :=
  try
    let results ← perform (I := CounterApi) (.multi key)
    match results with
    | none => throw (.error "Transaction failed")
    | some (incrResult, ttlResult) =>
      if ttlResult = -1 ∨ ttlResult = -2 then
        let _ ← perform (I := CounterApi) (.expire key ttlSeconds)
        pure incrResult
      else pure incrResult
  catch error => throw error

/-- `RedisRateLimitService.ts:34–42`. -/
def resetAttempts (key : String) : CounterProgram Unit :=
  try
    let _ ← perform (I := CounterApi) (.del key)
    pure ()
  catch error => throw error

/-- `RedisRateLimitService.ts:44–53`. -/
def getAttempts (key : String) : CounterProgram Int :=
  try
    let result ← perform (I := CounterApi) (.get key)
    pure (result.getD 0)
  catch error => throw error

end RedisRateLimitService

/-! ### Redis -/

/-- A counter with the time in milliseconds at which it is gone, if there is one. -/
structure CounterEntry where
  value : Int
  expiresAt : Option Nat
  deriving DecidableEq, Repr

/-- The counters and the clock. -/
structure Counters where
  entries : String → Option CounterEntry
  now : Nat

/-- The answer of `TTL`: seconds, rounded, or `-1` for a key without an end. -/
def CounterEntry.ttl (now : Nat) (e : CounterEntry) : Int :=
  match e.expiresAt with
  | some at' => ((at' - now + 500) / 1000 : Nat)
  | none => -1

/-- The counter is there at the time `now`. -/
def CounterEntry.live (now : Nat) (e : CounterEntry) : Bool :=
  e.expiresAt.all fun at' ↦ decide (now < at')

namespace Counters

/-- Store a counter, or remove it. -/
def put (w : Counters) (key : String) (e : Option CounterEntry) : Counters :=
  { w with entries := Function.update w.entries key e }

/-- What `INCR` stores: a missing key counts from zero and has no end. -/
def incremented (w : Counters) (key : String) : CounterEntry :=
  let e := (w.entries key).getD ⟨0, none⟩
  { e with value := e.value + 1 }

/-- The calls on the client; `EXPIRE` with a time that is over deletes the key. -/
def exec : Handler CounterApi JsError Counters
  | w, .multi key =>
    (.ok (some ((w.incremented key).value, (w.incremented key).ttl w.now)),
      w.put key (some (w.incremented key)))
  | w, .expire key seconds =>
    match w.entries key with
    | none => (.ok 0, w)
    | some e =>
      if 0 < seconds then
        (.ok 1, w.put key (some { e with expiresAt := some (w.now + 1000 * seconds.toNat) }))
      else (.ok 1, w.put key none)
  | w, .del key => (.ok (if (w.entries key).isSome then 1 else 0), w.put key none)
  | w, .get key => (.ok ((w.entries key).map (·.value)), w)

/-- Time goes by, and the keys whose time is over are gone. -/
def pass (ms : Nat) (w : Counters) : Counters :=
  ⟨fun key ↦ (w.entries key).filter (·.live (w.now + ms)), w.now + ms⟩

@[simp] theorem put_entries (w : Counters) (key : String) (e : Option CounterEntry) :
    (w.put key e).entries key = e := by simp [put]

/-- Putting an entry leaves the other keys. -/
theorem put_entries_of_ne (w : Counters) {key key' : String} (e : Option CounterEntry)
    (h : key' ≠ key) : (w.put key e).entries key' = w.entries key' := by simp [put, h]

/-- The number that a key holds, zero for a missing one. -/
def value (w : Counters) (key : String) : Int := ((w.entries key).map (·.value)).getD 0

end Counters

/-! ### Runs -/

/-- A run of one of the methods. -/
inductive RateCall where
  | increment (key : String) (ttlSeconds : Int)
  | reset (key : String)
  | read (key : String)
  deriving DecidableEq, Repr

/-- What it returns. -/
inductive RateReply where
  | attempts (n : Int)
  | done
  deriving DecidableEq, Repr

open RedisRateLimitService

/-- The program of a run. -/
def RateCall.run : RateCall → CounterProgram RateReply
  | increment key ttlSeconds => do
    let n ← incrementAttempts key ttlSeconds
    pure (.attempts n)
  | reset key => do
    resetAttempts key
    pure .done
  | read key => do
    let n ← getAttempts key
    pure (.attempts n)

/-- What is left of an increment that found no time to live. -/
def armed (key : String) (ttlSeconds n : Int) : CounterProgram RateReply :=
  .call (.expire key ttlSeconds) fun
    | .ok _ => .done (.ok (.attempts n))
    | .error e => .done (.error e)

/-- What is left of an increment after its transaction. -/
def afterMulti (key : String) (ttlSeconds : Int) :
    Except JsError (Option (Int × Int)) → CounterProgram RateReply
  | .ok (some (n, ttlResult)) =>
    if ttlResult = -1 ∨ ttlResult = -2 then armed key ttlSeconds n else .done (.ok (.attempts n))
  | .ok none => .done (.error (.error "Transaction failed"))
  | .error e => .done (.error e)

/-- An increment is a transaction and what follows it. -/
theorem run_increment (key : String) (ttlSeconds : Int) :
    (RateCall.increment key ttlSeconds).run = .call (.multi key) (afterMulti key ttlSeconds) := by
  unfold RateCall.run incrementAttempts perform
  simp only [call_bind, call_tryCatch, Prog.call.injEq, heq_eq_eq, true_and]
  ext reply
  rcases reply with e | _ | ⟨n, ttlResult⟩
  · rfl
  · rfl
  · by_cases h : ttlResult = -1 ∨ ttlResult = -2
    · simp only [done_ok_bind, if_pos h, call_bind, call_tryCatch, afterMulti, armed,
        Prog.call.injEq, heq_eq_eq, true_and]
      ext reply
      rcases reply with e | m
      · rfl
      · rfl
    · simp [if_neg h, afterMulti]

end Bankos
