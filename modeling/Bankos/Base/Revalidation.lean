import Mathlib.Tactic.Common

/-!
# Copies that are revalidated

A client keeps a copy of what origins serve, with its tag. Each time it asks it names the tag, and
an origin either sends what it serves or says that the copy is still good. If tags tell apart what
is served, the copy is that of the origin that has answered last.
-/

namespace Revalidation

/-- What an origin serves. -/
structure Origin (T B : Type) where
  tag : T
  body : B

/-- What comes back. -/
inductive Reply (T B : Type) where
  | sent (tag : T) (body : B)
  | unchanged
  | lost

variable {T B : Type}

/-- What the client holds after the reply. -/
def learn (held : Option (Origin T B)) : Reply T B → Option (Origin T B)
  | .sent tag body => some ⟨tag, body⟩
  | .unchanged => held
  | .lost => held

/-- The reply may come from the origin if the client has named the tag of what it holds. -/
inductive Origin.Replies (o : Origin T B) (held : Option (Origin T B)) : Reply T B → Prop
  | sent : Replies o held (.sent o.tag o.body)
  | unchanged {copy : Origin T B} : held = some copy → copy.tag = o.tag → Replies o held .unchanged
  | lost : Replies o held .lost

/-- The client goes from one origin to the next. -/
inductive Visits : List (Origin T B) → Option (Origin T B) → Prop
  | start : Visits [] none
  | visit {os : List (Origin T B)} {held : Option (Origin T B)} {o : Origin T B} {r : Reply T B} :
      Visits os held → o.Replies held r → Visits (os ++ [o]) (learn held r)

/-- The tags tell apart what the origins serve. -/
def TagsTell (os : List (Origin T B)) : Prop :=
  ∀ o ∈ os, ∀ o' ∈ os, o.tag = o'.tag → o.body = o'.body

variable {os : List (Origin T B)} {held : Option (Origin T B)} {o : Origin T B} {r : Reply T B}

/-- What a client holds was served by one of the origins. -/
theorem Visits.mem (h : Visits os held) : ∀ copy, held = some copy → copy ∈ os := by
  induction h with
  | start => exact fun _ h ↦ nomatch h
  | @visit os held o r _ hreply ih =>
    intro copy hcopy
    cases hreply with
    | sent =>
      cases hcopy
      exact List.mem_append_right _ (List.mem_singleton.mpr rfl)
    | unchanged => exact List.mem_append_left _ (ih copy hcopy)
    | lost => exact List.mem_append_left _ (ih copy hcopy)

/-- A client that has been answered holds what the origin serves. -/
theorem Visits.learn_eq (h : Visits os held) (htags : TagsTell (os ++ [o]))
    (hreply : o.Replies held r) (hr : r ≠ .lost) : learn held r = some o := by
  cases hreply with
  | sent => rfl
  | @unchanged copy hheld htag =>
    have hbody : copy.body = o.body :=
      htags copy (List.mem_append_left _ (h.mem copy hheld)) o
        (List.mem_append_right _ (List.mem_singleton.mpr rfl)) htag
    obtain ⟨tag, body⟩ := copy
    obtain rfl : tag = o.tag := htag
    obtain rfl : body = o.body := hbody
    exact hheld
  | lost => exact absurd rfl hr

end Revalidation
