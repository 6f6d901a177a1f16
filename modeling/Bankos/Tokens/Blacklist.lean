import Bankos.Tokens.Clock
import Mathlib.Algebra.Order.Field.Rat
import Mathlib.Data.Rat.Lemmas
import Mathlib.Tactic.Linarith

/-!
# The blacklist of access tokens

A logout puts the `jti` of its access token under a Redis key that lives until the `exp` of the
token. Both claims are read without a check of the signature, and a later `SET` replaces the
entry together with its lifetime.
-/

namespace Bankos

open Js Jwt Effects Storage Prog

/-! ### The end of an entry -/

/-- The `exp` claim of a token as a number, as far as it decodes. -/
def LogoutService.claimedExp (env : Env) (token : Text) : Option Rat :=
  (JwtTokenService.decode token).bind fun payload ↦ payload.exp.toNumber env.conversions

/-- A lifetime counts from the whole second of the clock to the `exp` claim. -/
theorem LogoutService.blacklistTtl_some {env : Env} {token : Text} {reading : Nat} {ttl : Rat}
    (h : blacklistTtl env token reading = some ttl) :
    ∃ exp, claimedExp env token = some exp ∧ ttl = exp - (reading / 1000 : Nat) := by
  unfold blacklistTtl at h
  unfold claimedExp
  cases hdecode : JwtTokenService.decode token with
  | none =>
    rw [hdecode] at h
    cases h
  | some payload =>
    rw [hdecode] at h
    dsimp only at h
    split at h
    · cases hexp : payload.exp.toNumber env.conversions with
      | none =>
        rw [hexp] at h
        cases h
      | some exp =>
        rw [hexp] at h
        dsimp only at h
        split at h
        · cases h
          exact ⟨exp, hexp, rfl⟩
        · cases h
    · cases h

/-- An entry that Redis accepts lasts at least until the `exp` it was made for, however long ago
the clock was read; that `exp` is a whole number. -/
theorem validTtl_end {now reading : Nat} {exp ttl : Rat} (hvalid : validTtl now ttl = true)
    (hread : reading ≤ now) (httl : ttl = exp - (reading / 1000 : Nat)) :
    exp.den = 1 ∧ exp * 1000 ≤ ((now + ttl.num.toNat * 1000 : Nat) : Rat) := by
  obtain ⟨hden, hpos, -⟩ := of_decide_eq_true hvalid
  have hint : (ttl.num : Rat) = ttl := Rat.coe_int_num_of_den_eq_one hden
  have hnat : ((ttl.num.toNat : Nat) : Rat) = ttl := by
    have hcast : ((ttl.num.toNat : Nat) : Int) = ttl.num := Int.toNat_of_nonneg hpos.le
    calc ((ttl.num.toNat : Nat) : Rat) = (((ttl.num.toNat : Nat) : Int) : Rat) :=
          (Int.cast_natCast _).symm
      _ = ttl := by rw [hcast, hint]
  constructor
  · rw [← Rat.sub_natCast_den exp (reading / 1000), ← httl]
    exact hden
  · have hfloor : ((reading / 1000 : Nat) : Rat) * 1000 ≤ now := by
      exact_mod_cast (Nat.div_mul_le_self reading 1000).trans hread
    push_cast
    rw [hnat]
    linarith

/-! ### What a logout sets -/

/-- Only a logout sets a Redis key: the one of the `jti` that its access token claims, with the
lifetime that follows from the latest answer of the clock. -/
def Request.mayBlacklist (env : Env) (req : Request) (reading : Option Nat) : Op → Prop
  | .redis (.setEx key _ ttl) => ∃ r ip ua now, req = .logout r ip ua ∧ reading = some now ∧
      key = RedisTokenBlacklistService.getBlacklistKey env
        (LogoutService.claimedJti r.accessToken) ∧
      LogoutService.blacklistTtl env r.accessToken now = some ttl
  | _ => True

/-- The discipline of the Redis writes of one request. -/
abbrev blacklisting (env : Env) (req : Request) : Protocol Api JsError :=
  { clock with allows := req.mayBlacklist env }

/-- A program that leaves Redis alone is allowed. -/
theorem obeys_noRedis {α : Type} {env : Env} {req : Request} {p : Program α} {areas : List Area}
    (hp : p.Uses (Op.within areas)) (hredis : .redis ∉ areas) (s : Option Nat) :
    p.Obeys (blacklisting env req) s fun _ _ ↦ True := by
  apply hp.obeys (P := blacklisting env req) (fun _ ↦ True)
  · intro s op _ hop
    constructor
    · cases op with
      | redis o => exact absurd (hop _ rfl) hredis
      | _ => exact trivial
    · exact fun _ ↦ trivial
  · exact trivial

/-- Blacklisting sets what the discipline asks for. -/
theorem LogoutService.blacklistAccessToken_sets (env : Env) (r : LogoutRequest) (ip ua : String)
    (s : Option Nat) :
    (blacklistAccessToken env r.accessToken).Obeys (blacklisting env (.logout r ip ua)) s
      fun _ _ ↦ True := by
  unfold blacklistAccessToken
  cases hdecode : JwtTokenService.decode r.accessToken with
  | none => exact trivial
  | some payload =>
    dsimp only
    split
    · next htruthy =>
      constructor
      · trivial
      · intro reply
        cases reply with
        | error e => exact trivial
        | ok now =>
          show (done (.ok (now / 1000)) >>= _).Obeys _ _ _
          rw [done_ok_bind]
          dsimp only
          cases hexp : payload.exp.toNumber env.conversions with
          | none => exact trivial
          | some exp =>
            dsimp only
            split
            · next hpos =>
              refine ⟨⟨r, ip, ua, now, rfl, rfl, ?_, ?_⟩, fun _ ↦ trivial⟩
              · simp only [claimedJti, hdecode]
              · simp only [blacklistTtl, hdecode, htruthy, hexp, if_true]
                exact if_pos hpos
            · exact trivial
    · exact trivial

/-- Every request keeps to the discipline. -/
theorem serve_sets {users : IUserRepository} (hu : users.Proper) (env : Env) (req : Request) :
    (serve env users req).Obeys (blacklisting env req) none fun _ _ ↦ True := by
  have huses := serve_uses hu env req
  cases req with
  | logout r ip ua =>
    have hexecute : (LogoutService.execute env r ip ua).Obeys
        (blacklisting env (.logout r ip ua)) none fun _ _ ↦ True := by
      unfold LogoutService.execute
      apply obeys_bind
      apply (LogoutService.blacklistAccessToken_sets env r ip ua none).mono
      rintro s (e | a) _
      · exact trivial
      · exact obeys_noRedis (LogoutService.afterBlacklist_uses env r ip ua) (by simp) s
    apply obeys_bind
    apply hexecute.mono
    rintro s (e | a) _
    · exact trivial
    · exact trivial
  | _ => exact obeys_noRedis huses (by simp [Request.areas]) _

/-! ### Runs -/

variable {ι : Type} [DecidableEq ι] {env : Env} {users : IUserRepository} {reqs : ι → Request}
  {w : World} {p q : Server ι} {i : ι} {key : String} {e : Rat}

/-- A `SET` that is about to be accepted is the one of a logout, and its entry lasts until the
`exp` that the access token of this logout claims. -/
theorem set_lasts {ok : Server ι → ServerTurn ι → Prop} (hu : users.Proper)
    (hq : Server.Reaches env ok (Server.start env users reqs w) q) {value : String} {ttl : Rat}
    {next : Except JsError Unit → Program Response}
    (hi : q.rest i = .call (.redis (.setEx key value ttl)) next)
    (hvalid : validTtl q.world.now ttl = true) :
    ∃ r ip ua exp, reqs i = .logout r ip ua ∧
      key = RedisTokenBlacklistService.getBlacklistKey env
        (LogoutService.claimedJti r.accessToken) ∧
      LogoutService.claimedExp env r.accessToken = some exp ∧ exp.den = 1 ∧
      exp * 1000 ≤ ((q.world.now + ttl.num.toNat * 1000 : Nat) : Rat) := by
  obtain ⟨r, ip, ua, now, hreq, hreading, hkey, httl⟩ := hq.allows (serve_sets hu env (reqs i)) hi
  obtain ⟨exp, hexp, heq⟩ := LogoutService.blacklistTtl_some httl
  have hle : now ≤ q.world.now := Server.reading_le hq i now hreading
  obtain ⟨hden, hend⟩ := validTtl_end hvalid hle heq
  exact ⟨r, ip, ua, exp, hreq, hkey, hexp, hden, hend⟩

/-- The entry of the key lasts until the second `e`. -/
def World.Covers (w : World) (key : String) (e : Rat) : Prop :=
  ∃ entry, w.redis key = some entry ∧ e * 1000 ≤ entry.expiresAt

/-- An accepted `SET` replaces the entry. -/
theorem exec_setEx (w : World) {value : String} {ttl : Rat} (hvalid : validTtl w.now ttl = true) :
    (exec env w (.redis (.setEx key value ttl))).2.redis =
      Function.update w.redis key (some ⟨value, w.now + ttl.num.toNat * 1000⟩) := by
  simp only [exec, RedisOp.exec, hvalid, if_true]

/-- A `SET` that is not accepted changes nothing. -/
theorem exec_setEx_invalid (w : World) {value : String} {ttl : Rat}
    (hvalid : validTtl w.now ttl = false) :
    (exec env w (.redis (.setEx key value ttl))).2.redis = w.redis := by
  simp only [exec, RedisOp.exec, hvalid, if_false, Bool.false_eq_true]

/-- `EXISTS` changes nothing. -/
theorem exec_existsKey (w : World) (key : String) :
    (exec env w (.redis (.existsKey key))).2.redis = w.redis := by
  simp only [exec, RedisOp.exec]
  split <;> rfl

/-- The request is a logout with an access token that names the same key and whose `exp`, a
whole number, comes before the second `e`. -/
def Request.Shortens (env : Env) (key : String) (e : Rat) : Request → Prop
  | .logout r _ _ =>
    RedisTokenBlacklistService.getBlacklistKey env (LogoutService.claimedJti r.accessToken) = key ∧
      ∃ exp ∈ LogoutService.claimedExp env r.accessToken, exp.den = 1 ∧ exp < e
  | _ => False

instance (key : String) (e : Rat) : (req : Request) → Decidable (req.Shortens env key e)
  | .logout r _ _ => inferInstanceAs (Decidable (_ = _ ∧
      ∃ exp ∈ LogoutService.claimedExp env r.accessToken, _))
  | .login _ => isFalse not_false
  | .refresh _ _ _ => isFalse not_false
  | .resetPassword _ => isFalse not_false
  | .verifyEmail _ => isFalse not_false
  | .guarded _ _ => isFalse not_false
  | .gateway _ => isFalse not_false

/-- The key and the lifetime of the Redis entry that a call sets. -/
def Op.redisSet : Op → Option (String × Rat)
  | .redis (.setEx key _ ttl) => some (key, ttl)
  | _ => none

/-- The key and the lifetime of the Redis entry that request `i` is about to set. -/
def Server.setting {ι : Type} (q : Server ι) (i : ι) : Option (String × Rat) :=
  (q.pending i).bind Op.redisSet

omit [DecidableEq ι] in
/-- What is about to be set is the first call of what is left. -/
theorem Server.rest_of_setting {ttl : Rat} (h : q.setting i = some (key, ttl)) :
    ∃ value next, q.rest i = .call (.redis (.setEx key value ttl)) next := by
  obtain ⟨op, hop, hset⟩ := Option.bind_eq_some_iff.mp h
  obtain ⟨next, hi⟩ := Pool.rest_of_pending hop
  cases op with
  | redis o =>
    cases o with
    | setEx key value ttl =>
      cases hset
      exact ⟨value, next, hi⟩
    | existsKey key => cases hset
  | _ => cases hset

/-- A request that is about to set a Redis entry does not shorten the one of the key. -/
def NoneShortens (env : Env) (reqs : ι → Request) (key : String) (e : Rat) (q : Server ι) :
    ServerTurn ι → Prop
  | .act i => (q.setting i).isSome = true → ¬ (reqs i).Shortens env key e
  | _ => True

instance (q : Server ι) : (t : ServerTurn ι) → Decidable (NoneShortens env reqs key e q t)
  | .act i => inferInstanceAs (Decidable (_ = _ → ¬ (reqs i).Shortens env key e))
  | .fail _ _ => isTrue trivial
  | .pass _ => isTrue trivial

/-- The step: what is left of the entry after the next answered call. -/
theorem covers_step {ok : Server ι → ServerTurn ι → Prop} (hu : users.Proper)
    (hq : Server.Reaches env ok (Server.start env users reqs w) q) {op : Op}
    {next : Except JsError op.Reply → Program Response} (hi : q.rest i = .call op next)
    (hkeep : NoneShortens env reqs key e q (.act i)) (h : q.world.Covers key e) :
    (exec env q.world op).2.Covers key e := by
  by_cases harea : op.area = some .redis
  · cases op with
    | redis o =>
      cases o with
      | existsKey key' =>
        unfold World.Covers
        rw [exec_existsKey q.world key']
        exact h
      | setEx key' value ttl =>
        cases hvalid : validTtl q.world.now ttl with
        | false =>
          unfold World.Covers
          rw [exec_setEx_invalid q.world hvalid]
          exact h
        | true =>
          unfold World.Covers
          rw [exec_setEx q.world hvalid]
          by_cases hkey : key = key'
          · subst hkey
            obtain ⟨r, ip, ua, exp, hreq, hkey, hexp, hden, hend⟩ := set_lasts hu hq hi hvalid
            have hlong : e ≤ exp := by
              by_contra hshort
              apply hkeep (by rw [Server.setting, Pool.pending_of_rest hi]; rfl)
              rw [hreq]
              exact ⟨hkey.symm, exp, hexp, hden, not_le.mp hshort⟩
            refine ⟨_, Function.update_self .., ?_⟩
            calc e * 1000 ≤ exp * 1000 := by linarith
              _ ≤ _ := hend
          · rw [Function.update_of_ne hkey]
            exact h
    | user o => cases o <;> cases harea
    | hasher o => cases o <;> cases harea
    | resetToken o => cases o <;> cases harea
    | role o => cases o <;> cases harea
    | permission o => cases o <;> cases harea
    | _ => cases harea
  · unfold World.Covers
    rw [exec_redis env q.world harea]
    exact h

/-- An entry that lasts is found. -/
theorem run_isBlacklisted {jti : Value}
    (h : w.Covers (RedisTokenBlacklistService.getBlacklistKey env jti) e)
    (hbefore : (w.now : Rat) < e * 1000) :
    ((RedisTokenBlacklistService.isBlacklisted env jti).run (exec env) w).1 = .ok true := by
  obtain ⟨entry, hentry, hend⟩ := h
  have hnow : w.now < entry.expiresAt := by
    exact_mod_cast hbefore.trans_le hend
  have hrun : (request (.redis (.existsKey
      (RedisTokenBlacklistService.getBlacklistKey env jti)))).run (exec env) w = (.ok 1, w) := by
    rw [run_request]
    simp only [exec, RedisOp.exec, hentry, if_pos hnow]
  unfold RedisTokenBlacklistService.isBlacklisted
  rw [run_bind_ok env w hrun]
  rfl

/-- Once a logout has blacklisted an access token, its `jti` is found blacklisted at every
instant before its `exp`, as long as no logout writes the entry for a token that claims an
earlier `exp`. -/
theorem blacklist_survives (env : Env) (reqs : ι → Request) (w : World) (p q : Server ι) (i : ι)
    (r : LogoutRequest) (ip ua : String) (e : Rat) (hreq : reqs i = .logout r ip ua)
    (hexp : LogoutService.claimedExp env r.accessToken = some e)
    (hp : Server.Reaches env anyTurn (Server.start env PrismaUserRepository reqs w) p)
    (key : String) (ttl : Rat) (hset : p.setting i = some (key, ttl))
    (hvalid : validTtl p.world.now ttl = true)
    (hq : Server.Reaches env (NoneShortens env reqs key e)
      (Pool.step (exec env) World.pass p (.act i)) q)
    (hbefore : (q.world.now : Rat) < e * 1000) :
    ((RedisTokenBlacklistService.isBlacklisted env
      (LogoutService.claimedJti r.accessToken)).run (exec env) q.world).1 = .ok true := by
  have hu := PrismaUserRepository.proper
  obtain ⟨value, next, hi⟩ := Server.rest_of_setting hset
  obtain ⟨r', ip', ua', exp, hreq', hkey, hexp', -, hend⟩ := set_lasts hu hp hi hvalid
  rw [hreq] at hreq'
  cases hreq'
  rw [hexp] at hexp'
  cases hexp'
  have hp' : Server.Reaches env anyTurn (Server.start env PrismaUserRepository reqs w)
      (Pool.step (exec env) World.pass p (.act i)) := .step _ hp trivial
  have hcovers : q.world.Covers key e := by
    apply hq.invariant (J := fun q : Server ι ↦ q.world.Covers key e)
    · simp only [Pool.step, hi]
      refine ⟨⟨value, p.world.now + ttl.num.toNat * 1000⟩, ?_, hend⟩
      show (exec env p.world (.redis (.setEx key value ttl))).2.redis key = _
      rw [exec_setEx p.world hvalid]
      exact Function.update_self ..
    · intro (q : Server ι) j op next hreach h hkeep hj
      exact covers_step hu (hp'.trans (hreach.mono fun _ _ _ ↦ trivial)) hj hkeep h
    · intro (q : Server ι) j e op next _ h _ _
      exact h
    · intro (q : Server ι) ms h _
      exact h
  rw [hkey] at hcovers
  exact run_isBlacklisted hcovers hbefore

/-- The access token of `alice` with an `exp` of the sender's choice, and not signed. -/
def Sample.forged : Text :=
  match tokens.accessToken with
  | .jws t => .jws { t with
      claims := { t.claims with exp := .num 1001 }
      signature := .other "forged" }
  | token => token

/-- `alice` logs out twice, and somebody with a forged token logs out. -/
def Sample.logouts : Nat → Request := fun i ↦
  .logout ⟨if i = 2 then forged else tokens.accessToken, tokens.refreshToken⟩ "10.0.0.1" "browser"

/-- The server of these logouts after the given turns. -/
def Sample.blacklist (turns : List (ServerTurn Nat)) : Server Nat :=
  (Server.start Sample.env PrismaUserRepository logouts loggedIn).play (exec Sample.env) World.pass
    turns

/-- The pool in which the first logout is about to set its entry. -/
def Sample.aboutToSet : Server Nat := blacklist [.act 0]

/-- The turns from there with another logout of `alice`. -/
def Sample.logoutAgain : Server Nat :=
  (Pool.step (exec Sample.env) World.pass aboutToSet (.act 0)).play (exec Sample.env) World.pass
    [.pass 5500, .act 1, .act 1, .pass 100000]

/-- The same access token again does not shorten the entry. -/
theorem blacklist_survives_again :
    ((RedisTokenBlacklistService.isBlacklisted Sample.env
      (LogoutService.claimedJti Sample.tokens.accessToken)).run (exec Sample.env)
      Sample.logoutAgain.world).1 = .ok true := by
  have hset : Sample.aboutToSet.setting 0 = some ("bl:uu", 900) := by decide +kernel
  have hreaches : Server.Reaches Sample.env
      (NoneShortens Sample.env Sample.logouts "bl:uu" 1900)
      (Pool.step (exec Sample.env) World.pass Sample.aboutToSet (.act 0)) Sample.logoutAgain :=
    Pool.reaches_play _ (by decide +kernel)
  exact blacklist_survives Sample.env Sample.logouts Sample.loggedIn Sample.aboutToSet
    Sample.logoutAgain 0 ⟨Sample.tokens.accessToken, Sample.tokens.refreshToken⟩ "10.0.0.1"
    "browser" 1900 rfl (by decide +kernel) (Pool.reaches_play_any _ _) "bl:uu" 900 hset
    (by decide +kernel) hreaches (by decide +kernel)

/-- A logout with a forged token ends the entry of another token within seconds. -/
theorem blacklist_shortened :
    Sample.aboutToSet.setting 0 = some ("bl:uu", 900) ∧
      ¬ ∀ q, Server.Reaches Sample.env anyTurn
          (Pool.step (exec Sample.env) World.pass Sample.aboutToSet (.act 0)) q →
        (q.world.now : Rat) < 1900 * 1000 →
        ((RedisTokenBlacklistService.isBlacklisted Sample.env
          (LogoutService.claimedJti Sample.tokens.accessToken)).run (exec Sample.env)
          q.world).1 = .ok true := by
  constructor
  · exact by decide +kernel
  · intro h
    have hfound := h _ (Pool.reaches_play_any _ [.act 2, .act 2, .pass 2000]) (by decide +kernel)
    revert hfound
    decide +kernel

end Bankos
