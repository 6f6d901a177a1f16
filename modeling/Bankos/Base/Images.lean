import Bankos.Base.Pool

/-!
# Images of programs and of pools

A program that does what another one does and only reports its result in other words is its image.
The image of a pool takes the turns of the pool itself: it makes the same calls in the same world,
and its log is the same. So what is proved of the pool is known of its image.
-/

namespace Effects

variable {I : Interface} {ε ι α β W T : Type}

namespace Prog

/-- The program with its result put in other words. -/
def mapResult (f : Except ε α → Except ε β) : Prog I ε α → Prog I ε β
  | done r => done (f r)
  | call op next => call op fun r ↦ (next r).mapResult f

@[simp] theorem mapResult_done (f : Except ε α → Except ε β) (r : Except ε α) :
    (done r : Prog I ε α).mapResult f = done (f r) := rfl

@[simp] theorem mapResult_call (f : Except ε α → Except ε β) (op : I.Op)
    (next : Except ε (I.Reply op) → Prog I ε α) :
    (call op next).mapResult f = call op fun r ↦ (next r).mapResult f := rfl

/-- An image makes the calls of its program. -/
theorem uses_mapResult {f : Except ε α → Except ε β} {allowed : I.Op → Prop} {p : Prog I ε α} :
    (p.mapResult f).Uses allowed ↔ p.Uses allowed := by
  induction p with
  | done r => exact Iff.rfl
  | call op next ih => exact and_congr_right fun _ ↦ forall_congr' ih

end Prog

namespace Pool

variable [DecidableEq ι] {exec : Prog.Handler I ε W} {pass : T → W → W}
  {ok : Pool I ε ι β W → Turn ε ι T → Prop}

/-- The pool of the images. -/
def map (f : ι → Except ε α → Except ε β) (p : Pool I ε ι α W) : Pool I ε ι β W :=
  ⟨p.world, fun i ↦ (p.rest i).mapResult (f i), p.log⟩

variable {f : ι → Except ε α → Except ε β}

omit [DecidableEq ι] in
/-- The images of programs that have not started. -/
theorem map_start (w : W) (rest : ι → Prog I ε α) :
    (start w rest).map f = start w fun i ↦ (rest i).mapResult (f i) := rfl

/-- An answered call is answered in the image. -/
theorem map_record (p : Pool I ε ι α W) (i : ι) (op : I.Op) (r : Except ε (I.Reply op))
    (next : Except ε (I.Reply op) → Prog I ε α) (w : W) :
    (p.record i op r next w).map f =
      (p.map f).record i op r (fun r ↦ (next r).mapResult (f i)) w := by
  have hrest : (fun j ↦ (Function.update p.rest i (next r) j).mapResult (f j)) =
      Function.update (fun j ↦ (p.rest j).mapResult (f j)) i ((next r).mapResult (f i)) := by
    funext j
    by_cases hj : j = i
    · subst hj
      rw [Function.update_self, Function.update_self]
    · rw [Function.update_of_ne hj, Function.update_of_ne hj]
  unfold map record
  rw [hrest]

/-- The image of a turn is that turn of the image. -/
theorem map_step (p : Pool I ε ι α W) (t : Turn ε ι T) :
    (p.step exec pass t).map f = (p.map f).step exec pass t := by
  cases t with
  | act i =>
    cases hi : p.rest i with
    | done r =>
      have hmap : (p.map f).rest i = .done (f i r) := congrArg (Prog.mapResult (f i)) hi
      simp only [step, hi, hmap]
    | call op next =>
      have hmap : (p.map f).rest i = .call op fun r ↦ (next r).mapResult (f i) :=
        congrArg (Prog.mapResult (f i)) hi
      simp only [step, hi, hmap]
      exact map_record ..
  | fail i e =>
    cases hi : p.rest i with
    | done r =>
      have hmap : (p.map f).rest i = .done (f i r) := congrArg (Prog.mapResult (f i)) hi
      simp only [step, hi, hmap]
    | call op next =>
      have hmap : (p.map f).rest i = .call op fun r ↦ (next r).mapResult (f i) :=
        congrArg (Prog.mapResult (f i)) hi
      simp only [step, hi, hmap]
      exact map_record ..
  | pass t => rfl

/-- The runs of an image are the images of the runs. -/
theorem reaches_map {p : Pool I ε ι α W} {q' : Pool I ε ι β W} :
    Reaches exec pass ok (p.map f) q' ↔
      ∃ q, q' = q.map f ∧ Reaches exec pass (fun q t ↦ ok (q.map f) t) p q := by
  constructor
  · intro h
    induction h with
    | refl => exact ⟨p, rfl, .refl⟩
    | @step q₁ t _ ht ih =>
      obtain ⟨q, rfl, hq⟩ := ih
      exact ⟨q.step exec pass t, (map_step q t).symm, .step t hq ht⟩
  · rintro ⟨q, rfl, hq⟩
    induction hq with
    | refl => exact .refl
    | step t _ ht ih =>
      rw [map_step]
      exact .step t ih ht

end Pool
end Effects
