/-
How large handle numbers get.

Pawn code keeps handles in cells and arrays, so it matters that the numbers stay small.
`GetCurlHandle` makes a number up only while none is queued, past the size of the table;
as long as no `curl_easy_init` fails, the table is then full from 1 on, and the loop that
looks for an unused number never turns.  A `curl_easy_init` that fails loses the number it
had drawn, and each of these can push the numbers up by one.
-/
import AmxxCurl.Amx.Countdown
import AmxxCurl.Amx.Handles

namespace AmxxCurl

namespace AmxCurlController

variable {m m' : AmxCurlController} {tr : List Action} {a : Action}

/-- `curl_easy_init` fails, and its number with it. -/
def Action.failsInit : Action → Bool
  | .easyInit _ none => true
  | _ => false

def Action.isTeardown : Action → Bool
  | .teardown _ => true
  | _ => false

/-- Until the tables are taken down, where numbers are dropped for good. -/
def BeforeTeardown (_ : AmxCurlController) (a : Action) : Prop := a.isTeardown = false

instance (m : AmxCurlController) (a : Action) : Decidable (BeforeTeardown m a) :=
  inferInstanceAs (Decidable (_ = _))

/-- What the probe passes is in use. -/
theorem firstUnused_first (t : Table AmxCurlHandle ObjId) (n : Nat) :
    ∀ h j : Int, h ≤ j → j < firstUnused t n h → (t.lookup j).isSome := by
  induction n with
  | zero =>
      intro h j hle hlt
      have hlt : j < h := hlt
      omega
  | succ n ih =>
      intro h j hle hlt
      have hlt : j < if (t.lookup h).isSome then firstUnused t n (h + 1) else h := hlt
      split at hlt
      · rename_i hsome
        by_cases hj : j = h
        · rw [hj]
          exact hsome
        · exact ih (h + 1) j (by omega) hlt
      · omega

/-- A number is made up as `GetCurlHandle` does it. -/
theorem getCurlHandle_makesUp (hfree : m.freeHandles = []) :
    m.getCurlHandle.2 = [] ∧ m.getCurlHandle.1 ∉ m.pool.used ∧
    (m.pool.used.card : Int) + 1 ≤ m.getCurlHandle.1 ∧
    ∀ j, (m.pool.used.card : Int) + 1 ≤ j → j < m.getCurlHandle.1 → j ∈ m.pool.used := by
  have hget : m.getCurlHandle =
      (firstUnused m.amxCurl m.amxCurl.keys.card (m.amxCurl.keys.card + 1), []) := by
    unfold getCurlHandle
    rw [hfree]
  rw [hget]
  refine ⟨rfl, ?_, le_firstUnused .., fun j hle hlt => ?_⟩
  · rw [mem_pool, firstUnused_eq_none]
    simp
  · rw [mem_pool]
    exact firstUnused_first m.amxCurl _ _ j hle hlt

/-- A step keeps the numbers together; `n` grows only to what is in use then. -/
theorem next_spans {lost n : Nat} (hs : m.pool.Sound (0 < ·)) (h : m.pool.Spans lost n)
    (ha : BeforeTeardown m a) (hn : m.next a = some m') :
    ∃ n', m'.pool.Spans (lost + if a.failsInit then 1 else 0) n' ∧
      (n' = n ∨ n' ≤ m'.handleCount + lost) := by
  cases next_renumbers hs hn with
  | same _ _ hsame =>
      rw [pool_eq (congrArg Finmap.keys hsame.1) hsame.2]
      exact ⟨n, h.mono (Nat.le_add_right _ _), Or.inl rfl⟩
  | issue b e hcurl hfree =>
      have hcount : m'.handleCount = (insert m.getCurlHandle.1 m.amxCurl.keys).card := by
        unfold handleCount
        rw [hcurl, keys_insert]
      rw [hcount, pool_eq ((congrArg Finmap.keys hcurl).trans (keys_insert ..)) hfree]
      have hnew := (hs.draws getCurlHandle_draws).2.1
      cases hq : m.freeHandles with
      | nil =>
          obtain ⟨hrest, hk, hsize, hfirst⟩ := getCurlHandle_makesUp hq
          rw [hrest]
          exact h.makeUp hq hk hsize hfirst
      | cons k rest =>
          have hget : m.getCurlHandle = (k, rest) := by
            unfold getCurlHandle
            rw [hq]
          rw [hget] at hnew ⊢
          exact ⟨n, h.issue hq hnew, Or.inl rfl⟩
  | lose b hcurl hfree =>
      rw [pool_eq (congrArg Finmap.keys hcurl) hfree]
      refine ⟨n, h.lose (k := m.getCurlHandle.1) ?_, Or.inl rfl⟩
      cases hq : m.freeHandles with
      | nil => exact Or.inr ⟨hq, (getCurlHandle_makesUp hq).1⟩
      | cons k rest =>
          have hget : m.getCurlHandle = (k, rest) := by
            unfold getCurlHandle
            rw [hq]
          rw [hget]
          exact Or.inl hq
  | giveBack _ hs' _ hback _ =>
      rw [pool_eq hback.used hback.freeHandles]
      refine ⟨n, Pool.Spans.mono (h.giveBack hback.nodup fun k hk => ?_) (Nat.le_add_right _ _),
        Or.inl rfl⟩
      obtain ⟨o, ho, -⟩ := hback.idle k hk
      rw [mem_pool, ho]
      rfl
  | drop order k hcurl hfree => exact absurd ha (by simp [BeforeTeardown, Action.isTeardown])
  | forget order hcurl hfree => exact absurd ha (by simp [BeforeTeardown, Action.isTeardown])

/-- The numbers reach as far as the most handles at a time, and the failures. -/
theorem run_spans (h : machine.Run BeforeTeardown tr m) {most : Nat}
    (hmost : ∀ t₁ t₂ m₁, tr = t₁ ++ t₂ → machine.Run BeforeTeardown t₁ m₁ → m₁.handleCount ≤ most) :
    ∃ n, m.pool.Spans (tr.countP Action.failsInit) n ∧
      n ≤ most + tr.countP Action.failsInit := by
  induction h with
  | init => exact ⟨0, .empty, Nat.zero_le _⟩
  | @snoc tr m m' a hr hc hn ih =>
      obtain ⟨n, hspans, hle⟩ := ih fun t₁ t₂ m₁ ht hr₁ =>
        hmost t₁ (t₂ ++ [a]) m₁ (by rw [ht, List.append_assoc]) hr₁
      have hcount := hmost (tr ++ [a]) [] m' (by simp) (.snoc hr hc hn)
      obtain ⟨n', hspans', hle'⟩ := next_spans (run_pool hr) hspans hc hn
      rw [List.countP_append, List.countP_singleton]
      refine ⟨n', hspans', ?_⟩
      rcases hle' with rfl | hle' <;> omega

/--
**Handle numbers stay small.**  Until the teardown no number is greater than the most
handles there have been at a time and the times `curl_easy_init` has failed.  Where it has
never failed, the numbers in use and in the queue are exactly those from 1 to how many they
are, and `GetCurlHandle` finds an unused one without searching.
-/
theorem handles_dense (h : machine.Run BeforeTeardown tr m) {most : Nat}
    (hmost : ∀ t₁ t₂ m₁, tr = t₁ ++ t₂ → machine.Run BeforeTeardown t₁ m₁ → m₁.handleCount ≤ most) :
    (∀ k : Int, k ∈ m.amxCurl ∨ k ∈ m.freeHandles →
      1 ≤ k ∧ k ≤ (most : Int) + tr.countP Action.failsInit) ∧
    (tr.countP Action.failsInit = 0 →
      (∀ k : Int, (k ∈ m.amxCurl ∨ k ∈ m.freeHandles) ↔
        1 ≤ k ∧ k ≤ (m.handleCount : Int) + m.freeHandles.length) ∧
      (m.freeHandles = [] → (m.handleCount : Int) + 1 = m.getCurlHandle.1)) := by
  obtain ⟨n, hspans, hle⟩ := run_spans h hmost
  have hin : ∀ k : Int, (k ∈ m.amxCurl ∨ k ∈ m.freeHandles) ↔ (k ∈ m.pool.used ∨ k ∈ m.pool.free) := by
    intro k
    exact or_congr_left Finmap.mem_keys.symm
  refine ⟨fun k hk => ?_, fun hnever => ?_⟩
  · have hwithin := hspans.within k ((hin k).mp hk)
    omega
  · rw [hnever] at hspans
    have hfull := fun k => (hin k).trans (hspans.full (run_pool h) k)
    refine ⟨hfull, fun hfree => ?_⟩
    obtain ⟨-, hnew, hsize, hfirst⟩ := getCurlHandle_makesUp hfree
    by_contra hne
    -- the number past the size would have been in use, and it is not among the first so many
    have hused := hfirst (m.pool.used.card + 1) (le_refl _) (lt_of_le_of_ne hsize hne)
    have hlast := (hspans.full (run_pool h) (m.pool.used.card + 1)).mp (Or.inl hused)
    have hqueue : m.pool.free = [] := hfree
    rw [hqueue] at hlast
    simp at hlast

/-- Handle 1 is given back, and its number lost in a `curl_easy_init` that fails. -/
def losing : List Action :=
  [.load 7, .easyInit 7 (some 100), .easyInit 7 (some 101), .easyCleanup 1, .easyInit 7 none,
    .easyInit 7 (some 102)]

def lossy : AmxCurlController := (machine.exec BeforeTeardown boot losing).get (by decide)

/-- The last handle is number 3, with two of them there. -/
theorem handles_dense_lossy : lossy.handleCount = 2 ∧ 3 ∈ lossy.amxCurl ∧
    ∀ k : Int, k ∈ lossy.amxCurl ∨ k ∈ lossy.freeHandles → 1 ≤ k ∧ k ≤ (2 : Nat) + 1 := by
  have hrun : machine.Run BeforeTeardown losing lossy := Machine.run_of_exec (Option.some_get _).symm
  have hall : ∀ t ∈ losing.inits,
      (machine.exec Machine.Free boot t).all (fun m => decide (m.handleCount ≤ 2)) = true := by
    decide
  refine ⟨by decide, by decide, (handles_dense hrun fun t₁ t₂ m₁ ht hr => ?_).1⟩
  have ht₁ := hall t₁ (List.mem_inits t₁ losing |>.mpr ⟨t₂, ht.symm⟩)
  have hexec : machine.exec Machine.Free boot t₁ = some m₁ := Machine.exec_of_run hr
  rw [hexec] at ht₁
  exact of_decide_eq_true ht₁

end AmxCurlController

end AmxxCurl
