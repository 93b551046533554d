/-
Variadic arguments on a 32-bit stack.

The caller pushes its arguments as words, one or two each, after the promotions of C;
the callee reads them back as the kinds it expects.  Nothing ties the two together but
that they agree on every argument in turn (`Agrees`), and then the callee reads what was
meant and nothing is left over.  A 64-bit integer is two words that no kind expects.
-/
import Mathlib.Data.Nat.Cast.Order.Ring
import Mathlib.Algebra.BigOperators.Group.List.Basic

namespace AmxxCurl

namespace Varargs

abbrev Word := BitVec 32

/-- An argument, after the promotions. -/
inductive Arg
  /-- An `int`, an enum, a pointer, a `size_t`. -/
  | word (w : Word)
  /-- A 64-bit integer. -/
  | wide (v : BitVec 64)
  /-- The bits of a `double`. -/
  | double (v : BitVec 64)
  deriving DecidableEq

/-- What `va_arg` is asked for. -/
inductive Kind
  | word
  | double
  deriving DecidableEq

/-- What it gives back. -/
inductive Value
  | word (w : Word)
  | double (v : BitVec 64)
  deriving DecidableEq

def low (v : BitVec 64) : Word := v.setWidth 32

def high (v : BitVec 64) : Word := v.extractLsb' 32 32

/-- The two halves make up the whole. -/
theorem high_append_low (v : BitVec 64) : high v ++ low v = v := by
  apply BitVec.eq_of_getLsbD_eq
  intro i hi
  unfold high low
  rw [BitVec.getLsbD_append]
  by_cases hlow : i < 32
  · simp [hlow]
  · have hback : 32 + (i - 32) = i := by omega
    have hsmall : i - 32 < 32 := by omega
    simp [hlow, hback, hsmall]

/-- The words an argument is pushed as, the lowest address first. -/
def Arg.words : Arg → List Word
  | .word w => [w]
  | .wide v => [low v, high v]
  | .double v => [low v, high v]

def push (args : List Arg) : List Word := args.flatMap Arg.words

def Kind.size : Kind → Nat
  | .word => 1
  | .double => 2

/-- Read one value for each kind; `none` where the words run out. -/
def read : List Kind → List Word → Option (List Value × List Word)
  | [], ws => some ([], ws)
  | .word :: ks, w :: ws => (read ks ws).map fun r => (.word w :: r.1, r.2)
  | .double :: ks, l :: h :: ws => (read ks ws).map fun r => (.double (h ++ l) :: r.1, r.2)
  | _, _ => none

/-- Caller and callee agree on each argument, and on what it means. -/
inductive Agrees : List Kind → List Arg → List Value → Prop
  | nil : Agrees [] [] []
  | word (w : Word) {ks : List Kind} {args : List Arg} {vs : List Value} (h : Agrees ks args vs) :
      Agrees (.word :: ks) (.word w :: args) (.word w :: vs)
  | double (v : BitVec 64) {ks : List Kind} {args : List Arg} {vs : List Value}
      (h : Agrees ks args vs) : Agrees (.double :: ks) (.double v :: args) (.double v :: vs)

/-- What is agreed on is read, and nothing more. -/
theorem Agrees.read {ks : List Kind} {args : List Arg} {vs : List Value} (h : Agrees ks args vs)
    (rest : List Word) : Varargs.read ks (push args ++ rest) = some (vs, rest) := by
  induction h with
  | nil => rfl
  | word w h ih =>
      show (Varargs.read _ (push _ ++ rest)).map _ = _
      rw [ih]
      rfl
  | double v h ih =>
      show (Varargs.read _ (push _ ++ rest)).map _ = _
      rw [ih, Option.map_some, high_append_low]

/-- Reading takes as many words as the kinds have. -/
theorem read_length : ∀ {ks : List Kind} {ws : List Word} {vs : List Value} {rest : List Word},
    Varargs.read ks ws = some (vs, rest) →
      ws.length = (ks.map Kind.size).sum + rest.length := by
  intro ks ws
  induction ks, ws using Varargs.read.induct with
  | case1 ws =>
      intro vs rest h
      obtain ⟨-, rfl⟩ := Prod.mk.inj (Option.some.inj h)
      simp
  | case2 ks w ws ih =>
      intro vs rest h
      obtain ⟨⟨vs', rest'⟩, hr, he⟩ := Option.map_eq_some_iff.mp h
      obtain ⟨-, rfl⟩ := Prod.mk.inj he
      have hlen := ih hr
      simp only [List.length_cons, List.map_cons, List.sum_cons, Kind.size]
      omega
  | case3 ks l h ws ih =>
      intro vs rest hread
      obtain ⟨⟨vs', rest'⟩, hr, he⟩ := Option.map_eq_some_iff.mp hread
      obtain ⟨-, rfl⟩ := Prod.mk.inj he
      have hlen := ih hr
      simp only [List.length_cons, List.map_cons, List.sum_cons, Kind.size]
      omega
  | case4 ks ws hnil hword hdouble =>
      intro vs rest h
      rw [Varargs.read.eq_def] at h
      split at h
      · exact absurd rfl hnil
      · exact (hword _ _ _ rfl rfl).elim
      · exact (hdouble _ _ _ _ rfl rfl).elim
      · simp at h

end Varargs

end AmxxCurl
