/-
What a call comes to, in a language with exceptions and undefined behaviour.

A call returns, or an exception leaves it, or its behaviour is undefined.  `bind` is one
statement after another and `catching` a `try` block; whether the whole returns is read
off its parts by `bind_returns` and `catching_returns`.  What is undefined no handler
makes up for.
-/
import Mathlib.Logic.Basic

namespace AmxxCurl

inductive Outcome (ε α : Type)
  | returns (a : α)
  | throws (e : ε)
  | undefined
  deriving DecidableEq

namespace Outcome

variable {ε α β : Type}

protected def bind (x : Outcome ε α) (f : α → Outcome ε β) : Outcome ε β :=
  match x with
  | returns a => f a
  | throws e => throws e
  | undefined => undefined

instance : Monad (Outcome ε) where
  pure := returns
  bind := Outcome.bind

/-- `try { x } catch`: the handlers take the exceptions `p` is true of, and yield `a`. -/
def catching (x : Outcome ε α) (p : ε → Bool) (a : α) : Outcome ε α :=
  match x with
  | throws e => if p e then returns a else throws e
  | x => x

/-- Throw unless `c` holds. -/
def require (c : Bool) (e : ε) : Outcome ε Unit := if c then returns () else throws e

/-- Control comes back to the caller. -/
def Returns (x : Outcome ε α) : Prop := ∃ a, x = returns a

variable {x : Outcome ε α} {f : α → Outcome ε β} {p : ε → Bool} {a : α} {e : ε} {c : Bool}

theorem returns_returns (a : α) : Returns (returns a : Outcome ε α) := ⟨a, rfl⟩

theorem not_throws_returns (e : ε) : ¬Returns (throws e : Outcome ε α) := by
  rintro ⟨a, h⟩
  nomatch h

theorem not_undefined_returns : ¬Returns (undefined : Outcome ε α) := by
  rintro ⟨a, h⟩
  nomatch h

theorem bind_returns : (x >>= f).Returns ↔ ∃ a, x = returns a ∧ (f a).Returns := by
  cases x with
  | returns a =>
      constructor
      · exact fun h => ⟨a, rfl, h⟩
      · rintro ⟨a', he, h⟩
        injection he with he
        subst he
        exact h
  | throws e =>
      constructor
      · exact fun h => absurd h (not_throws_returns e)
      · rintro ⟨a, he, -⟩
        nomatch he
  | undefined =>
      constructor
      · exact fun h => absurd h not_undefined_returns
      · rintro ⟨a, he, -⟩
        nomatch he

theorem catching_returns :
    (x.catching p a).Returns ↔ x.Returns ∨ ∃ e, x = throws e ∧ p e = true := by
  cases x with
  | returns b => exact iff_of_true ⟨b, rfl⟩ (Or.inl ⟨b, rfl⟩)
  | throws e =>
      unfold catching
      dsimp only
      split
      · rename_i hp
        exact iff_of_true ⟨a, rfl⟩ (Or.inr ⟨e, rfl, hp⟩)
      · rename_i hp
        refine iff_of_false (not_throws_returns e) ?_
        rintro (h | ⟨e', he, hp'⟩)
        · exact not_throws_returns e h
        · injection he with he
          subst he
          exact hp hp'
  | undefined =>
      refine iff_of_false not_undefined_returns ?_
      rintro (h | ⟨e, he, -⟩)
      · exact not_undefined_returns h
      · nomatch he

theorem require_eq_returns : require c e = returns () ↔ c = true := by
  unfold require
  cases c with
  | false => exact iff_of_false nofun nofun
  | true => exact iff_of_true rfl rfl

/-- One check before the rest. -/
theorem require_bind_returns {f : Unit → Outcome ε β} :
    (require c e >>= f).Returns ↔ c = true ∧ (f ()).Returns := by
  rw [bind_returns]
  constructor
  · rintro ⟨⟨⟩, he, h⟩
    exact ⟨require_eq_returns.mp he, h⟩
  · rintro ⟨hc, h⟩
    exact ⟨(), require_eq_returns.mpr hc, h⟩

end Outcome

end AmxxCurl
