/-!
# Commands to a remote store

A command that a process sends can end in three ways; what the process learns does not
always tell it whether the command took effect.
-/

/-- How a command ends: its effect and its reply happen, neither does, or the effect
happens and the caller sees a failure. -/
inductive Fate
  | answered | lost | unanswered
deriving DecidableEq, Repr

namespace Fate

variable {α : Type}

/-- The state after a command with that fate. -/
def effect (before after : α) : Fate → α
  | .lost => before
  | .answered | .unanswered => after

/-- Where the caller goes on. -/
def reply (next failed : α) : Fate → α
  | .answered => next
  | .lost | .unanswered => failed

theorem effect_of_ne_lost {fate : Fate} (h : fate ≠ .lost) (before after : α) :
    fate.effect before after = after := by
  cases fate with
  | lost => exact absurd rfl h
  | answered | unanswered => rfl

/-- What holds with and without the effect. -/
theorem effect_of {P : α → Prop} {before after : α} (fate : Fate) (hbefore : P before)
    (hafter : fate ≠ .lost → P after) : P (fate.effect before after) := by
  cases fate with
  | lost => exact hbefore
  | answered => exact hafter (by decide)
  | unanswered => exact hafter (by decide)

theorem reply_of {P : α → Prop} {next failed : α} (fate : Fate) (hnext : P next)
    (hfailed : P failed) : P (fate.reply next failed) := by
  cases fate with
  | answered => exact hnext
  | lost | unanswered => exact hfailed

end Fate
