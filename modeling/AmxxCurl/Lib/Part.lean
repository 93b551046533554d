/-
Parts of a machine that have a life of their own.

`turn s a` is what the action `a` asks of one part, if it has to do with it at all, and
`view s` is the state of that part.  Where each step does to the view what the turn says,
and leaves it alone where there is none, the part is a machine itself: its turns, picked out
of a run of the whole, are a run of it, and what becomes of it depends on nothing else.
-/
import AmxxCurl.Lib.Machine

namespace AmxxCurl

namespace Machine

variable {σ α τ β : Type} {M : Machine σ α} {N : Machine τ β}

/-- What a trace asks of the part, in order. -/
def turns (M : Machine σ α) (turn : σ → α → Option β) (tr : List α) : List β :=
  M.observe (fun l s a _ => l ++ (turn s a).toList) [] M.init tr

/-- What becomes of a part that is asked something, or nothing. -/
def Takes (N : Machine τ β) (x : τ) : Option β → τ → Prop
  | none, x' => x' = x
  | some b, x' => N.next x b = some x'

namespace Run

variable {C : σ → α → Prop} {turn : σ → α → Option β} {view : σ → τ} {tr : List α} {s : σ}

/-- The turns of a run are a run of the part. -/
theorem part (h0 : view M.init = N.init)
    (hstep : ∀ tr s a s', M.Run C tr s → C s a → M.next s a = some s' →
      N.Takes (view s) (turn s a) (view s'))
    (h : M.Run C tr s) : N.Run Free (M.turns turn tr) (view s) := by
  refine h.noted (P := fun l s => N.Run Free l (view s)) (h0 ▸ .init) ?_
  intro tr s a s' hr hpart hc hn
  have htakes := hstep tr s a s' hr hc hn
  generalize turn s a = b at htakes
  cases b with
  | none =>
      rw [Option.toList_none, List.append_nil]
      have hsame : view s' = view s := htakes
      exact hsame ▸ hpart
  | some b => exact .snoc hpart trivial htakes

end Run

end Machine

end AmxxCurl
