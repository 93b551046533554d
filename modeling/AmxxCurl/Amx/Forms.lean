/-
`curl_formadd`, which takes its arguments in pairs.

`params[0]` is the size of what the plugin has passed.  One loop looks for CURLFORM_END at
every other index, no further than that; a second one then reads an option and a value for
each pair the first has counted.  The first counts a pair when it has seen an option: where
the plugin has passed an option without a value, and no CURLFORM_END, the second reads the
value one place behind the last argument.

The result keeps the indices `params` is read at, in order.
-/
import Mathlib.Data.Nat.Cast.Order.Ring

namespace AmxxCurl

/-- A `cell` of AMXX. -/
abbrev Cell := BitVec 32

def CURLFORM_END : Cell := 17

/-- `struct curl_forms`; the value of the last one is left as it was allocated. -/
structure CurlForms where
  option : Cell
  value : Option (List UInt8)
  deriving DecidableEq

/-- A call of the native, with what AMXX makes of the addresses it is passed. -/
structure FormCall where
  params : Nat → Cell
  /-- `*MF_GetAmxAddr(amx, address)`. -/
  addr : Cell → Cell
  /-- `MF_GetAmxString(amx, address, 0, &g_len)`, up to its terminating zero. -/
  string : Cell → List UInt8

/-- How the native ends. -/
inductive FormOutcome
  /-- "Invalid params count, get %d, must be in range 0 - 14", and -1. -/
  | invalidCount (pairs : Nat)
  /-- `curl_formadd(first, last, CURLFORM_ARRAY, forms, CURLFORM_END)`, and what that returns. -/
  | formadd (first last : Cell) (forms : List CurlForms)
  deriving DecidableEq

/-- What the native has read of `params`, and how it ends. -/
structure FormResult where
  reads : List Nat
  outcome : FormOutcome
  deriving DecidableEq

/-- The pairs of a list of arguments before the first of them that starts with an `isEnd`. -/
def pairsBefore {α : Type} (isEnd : α → Bool) : List α → List (α × α)
  | o :: v :: rest => if isEnd o then [] else (o, v) :: pairsBefore isEnd rest
  | _ => []

namespace FormCall

variable (c : FormCall)

/-- `static_cast<int>(params[0] / sizeof(cell))`, a division of unsigned numbers. -/
def paramCount : Nat := (c.params 0).toNat / 4

/-- `static_cast<CURLformoption>(*MF_GetAmxAddr(amx, params[i])) != CURLFORM_END`, negated. -/
def ends (i : Nat) : Bool := c.addr (c.params i) == CURLFORM_END

/-- The first loop: the indices it reads, and the pairs it counts. -/
def scan (i pairs : Nat) : List Nat × Nat :=
  if i ≤ c.paramCount then
    if c.ends i then ([i], pairs)
    else
      let rest := scan (i + 2) (pairs + 1)
      (i :: rest.1, rest.2)
  else ([], pairs)
termination_by c.paramCount + 1 - i

/-- The option at one index and the value at another; `strncpy(.., 16383)` cuts the value. -/
def form (option value : Cell) : CurlForms :=
  ⟨c.addr option, some ((c.string value).take 16383)⟩

/-- `amx_curl_formadd`. -/
def amxCurlFormadd : FormResult :=
  let counted := c.scan 3 0
  let reads := [1, 2, 0] ++ counted.1
  let pairs := counted.2
  if pairs = 0 ∨ pairs > 14 then ⟨reads, .invalidCount pairs⟩
  else
    -- the second loop
    ⟨reads ++ (List.range pairs).flatMap fun i => [i * 2 + 4, i * 2 + 3],
      .formadd (c.params 1) (c.params 2)
        ((List.range pairs).map (fun i => c.form (c.params (i * 2 + 3)) (c.params (i * 2 + 4))) ++
          [⟨CURLFORM_END, none⟩])⟩

/-- The arguments behind the first two. -/
def trailing : List Cell := (List.range' 3 (c.paramCount - 2)).map c.params

/-- The native reads what it was passed, and hands on the pairs before the first CURLFORM_END. -/
structure Contained : Prop where
  inBounds : ∀ i ∈ c.amxCurlFormadd.reads, i ≤ c.paramCount
  handed : ∀ first last forms, c.amxCurlFormadd.outcome = .formadd first last forms →
    first = c.params 1 ∧ last = c.params 2 ∧
    forms = (pairsBefore (fun o => c.addr o == CURLFORM_END) c.trailing).map
      (fun p => c.form p.1 p.2) ++ [⟨CURLFORM_END, none⟩]

variable {c}

/-- `i` and `pairs`, which are `int`s, stay far from their bounds. -/
theorem paramCount_lt : c.paramCount < 2 ^ 30 := by
  have hlt : (c.params 0).toNat < 2 ^ 32 := (c.params 0).isLt
  unfold paramCount
  omega

/-! ### The first loop -/

theorem scan_stop {i pairs : Nat} (h : c.paramCount < i) : c.scan i pairs = ([], pairs) := by
  rw [scan, if_neg (Nat.not_le.mpr h)]

theorem scan_end {i pairs : Nat} (h : i ≤ c.paramCount) (he : c.ends i = true) :
    c.scan i pairs = ([i], pairs) := by
  rw [scan, if_pos h, if_pos he]

theorem scan_pair {i pairs : Nat} (h : i ≤ c.paramCount) (he : c.ends i = false) :
    c.scan i pairs =
      (i :: (c.scan (i + 2) (pairs + 1)).1, (c.scan (i + 2) (pairs + 1)).2) := by
  rw [scan, if_pos h, if_neg (by rw [he]; decide)]

/-- The first loop has seen `k` options from `i` on, and stopped. -/
structure Scanned (c : FormCall) (i k : Nat) : Prop where
  options : ∀ j, j < k → i + 2 * j ≤ c.paramCount ∧ c.ends (i + 2 * j) = false
  stop : c.paramCount < i + 2 * k ∨ i + 2 * k ≤ c.paramCount ∧ c.ends (i + 2 * k) = true

/-- The first loop stops, and looks at no index behind the last argument. -/
theorem scan_spec (i pairs : Nat) : ∃ k, (c.scan i pairs).2 = pairs + k ∧ Scanned c i k ∧
    ∀ r ∈ (c.scan i pairs).1, r ≤ c.paramCount := by
  induction i, pairs using scan.induct c with
  | case1 i pairs hle hend =>
      rw [scan_end hle hend]
      refine ⟨0, rfl, ⟨fun j hj => absurd hj (Nat.not_lt_zero j), Or.inr ⟨hle, hend⟩⟩, fun r hr => ?_⟩
      rw [List.mem_singleton.mp hr]
      exact hle
  | case2 i pairs hle hend ih =>
      have hend : c.ends i = false := by simpa using hend
      obtain ⟨k, hpairs, hscanned, hreads⟩ := ih
      rw [scan_pair hle hend]
      refine ⟨k + 1, by rw [hpairs]; omega, ⟨fun j hj => ?_, ?_⟩, fun r hr => ?_⟩
      · cases j with
        | zero => exact ⟨hle, hend⟩
        | succ j =>
            have hshift : i + 2 * (j + 1) = i + 2 + 2 * j := by omega
            rw [hshift]
            exact hscanned.options j (Nat.lt_of_succ_lt_succ hj)
      · have hshift : i + 2 * (k + 1) = i + 2 + 2 * k := by omega
        rw [hshift]
        exact hscanned.stop
      · rcases List.mem_cons.mp hr with rfl | hr
        · exact hle
        · exact hreads r hr
  | case3 i pairs hle =>
      have hlt : c.paramCount < i := Nat.lt_of_not_le hle
      rw [scan_stop hlt]
      refine ⟨0, rfl, ⟨fun j hj => absurd hj (Nat.not_lt_zero j), Or.inl hlt⟩, fun r hr => ?_⟩
      simp at hr

/-! ### The pairs -/

/-- The arguments from an index on. -/
def argsFrom (c : FormCall) (i : Nat) : List Cell :=
  (List.range' i (c.paramCount + 1 - i)).map c.params

theorem argsFrom_pair {i : Nat} (h : i + 1 ≤ c.paramCount) :
    c.argsFrom i = c.params i :: c.params (i + 1) :: c.argsFrom (i + 2) := by
  unfold argsFrom
  have hlen : c.paramCount + 1 - i = (c.paramCount + 1 - (i + 2)) + 1 + 1 := by omega
  rw [hlen, List.range'_succ, List.range'_succ]
  rfl

/-- What the first loop counts are the pairs, if each option it has seen has a value. -/
theorem pairsBefore_scanned : ∀ {k i : Nat}, Scanned c i k →
    (∀ j, j < k → i + 2 * j + 1 ≤ c.paramCount) →
    pairsBefore (fun o => c.addr o == CURLFORM_END) (c.argsFrom i) =
      (List.range k).map fun j => (c.params (i + 2 * j), c.params (i + 2 * j + 1)) := by
  intro k
  induction k with
  | zero =>
      intro i hscanned _
      rcases hscanned.stop with hstop | ⟨-, hend⟩
      · have hnone : c.paramCount + 1 - i = 0 := by omega
        unfold argsFrom
        rw [hnone]
        rfl
      · by_cases hle : i + 1 ≤ c.paramCount
        · rw [argsFrom_pair hle]
          exact if_pos hend
        · -- CURLFORM_END is the last argument, or there is none
          have hlen : c.paramCount + 1 - i = 0 ∨ c.paramCount + 1 - i = 1 := by omega
          unfold argsFrom
          rcases hlen with hlen | hlen <;> rw [hlen] <;> rfl
  | succ k ih =>
      intro i hscanned hvalue
      obtain ⟨hle, hend⟩ := hscanned.options 0 (Nat.succ_pos k)
      have hshift : ∀ j, i + 2 * (j + 1) = i + 2 + 2 * j := fun j => by omega
      have hrest : Scanned c (i + 2) k := by
        refine ⟨fun j hj => ?_, ?_⟩
        · rw [← hshift]
          exact hscanned.options (j + 1) (Nat.succ_lt_succ hj)
        · rw [← hshift]
          exact hscanned.stop
      have hvalue' : ∀ j, j < k → i + 2 + 2 * j + 1 ≤ c.paramCount := by
        intro j hj
        rw [← hshift]
        exact hvalue (j + 1) (Nat.succ_lt_succ hj)
      have hfirst : (c.addr (c.params i) == CURLFORM_END) = false := hend
      rw [argsFrom_pair (hvalue 0 (Nat.succ_pos k)), pairsBefore, hfirst,
        if_neg Bool.false_ne_true, ih hrest hvalue', List.range_succ_eq_map, List.map_cons,
        List.map_map]
      congr 1
      refine List.map_congr_left fun j _ => ?_
      show _ = (c.params (i + 2 * (j + 1)), c.params (i + 2 * (j + 1) + 1))
      rw [hshift]

/-! ### When the native stays inside its arguments -/

/-- The arguments come in pairs, or the first loop meets a CURLFORM_END or rejects the call. -/
def Paired (c : FormCall) : Prop :=
  2 ≤ c.paramCount ∧ (c.paramCount % 2 = 0 ∨ 29 < c.paramCount ∨
    ∃ k, 3 + 2 * k ≤ c.paramCount ∧ c.ends (3 + 2 * k) = true)

/-- The reads of the native, once its first loop has counted `k` pairs. -/
theorem reads_of_scanned {k : Nat} (hk : (c.scan 3 0).2 = k) (h0 : k ≠ 0) (h14 : k ≤ 14) :
    c.amxCurlFormadd = ⟨[1, 2, 0] ++ (c.scan 3 0).1 ++
        (List.range k).flatMap fun i => [i * 2 + 4, i * 2 + 3],
      .formadd (c.params 1) (c.params 2)
        ((List.range k).map (fun i => c.form (c.params (i * 2 + 3)) (c.params (i * 2 + 4))) ++
          [⟨CURLFORM_END, none⟩])⟩ := by
  have hno : ¬(k = 0 ∨ k > 14) := by omega
  unfold amxCurlFormadd
  dsimp only
  rw [hk, if_neg hno]

theorem rejected_of_scanned {k : Nat} (hk : (c.scan 3 0).2 = k) (h : k = 0 ∨ k > 14) :
    c.amxCurlFormadd = ⟨[1, 2, 0] ++ (c.scan 3 0).1, .invalidCount k⟩ := by
  unfold amxCurlFormadd
  dsimp only
  rw [hk, if_pos h]

/--
**`curl_formadd` stays inside its argument list iff its arguments come in pairs**, or it
meets a CURLFORM_END in option position, or it has seen too many options and gives up.
-/
theorem formadd_contained_iff (c : FormCall) : c.Contained ↔ c.Paired := by
  obtain ⟨k, hk, hscanned, hscan⟩ := c.scan_spec 3 0
  rw [Nat.zero_add] at hk
  constructor
  · intro h
    have hreads := h.inBounds
    by_cases hrejected : k = 0 ∨ k > 14
    · rw [rejected_of_scanned hk hrejected] at hreads
      have htwo : 2 ≤ c.paramCount := hreads 2 (by simp)
      refine ⟨htwo, ?_⟩
      rcases hscanned.stop with hstop | ⟨hle, hend⟩
      · rcases hrejected with rfl | hmany
        · exact Or.inl (by omega)
        · have hlast := (hscanned.options (k - 1) (by omega)).1
          exact Or.inr (Or.inl (by omega))
      · exact Or.inr (Or.inr ⟨k, hle, hend⟩)
    · rw [reads_of_scanned hk (by omega) (by omega)] at hreads
      have htwo : 2 ≤ c.paramCount := hreads 2 (by simp)
      refine ⟨htwo, ?_⟩
      -- the value of the last pair is an argument
      have hvalue : (k - 1) * 2 + 4 ≤ c.paramCount := by
        refine hreads _ (List.mem_append_right _ (List.mem_flatMap.mpr ⟨k - 1, ?_, by simp⟩))
        exact List.mem_range.mpr (by omega)
      rcases hscanned.stop with hstop | ⟨hle, hend⟩
      · exact Or.inl (by omega)
      · exact Or.inr (Or.inr ⟨k, hle, hend⟩)
  · intro ⟨htwo, hpaired⟩
    have hfront : ∀ r ∈ [1, 2, 0] ++ (c.scan 3 0).1, r ≤ c.paramCount := by
      intro r hr
      rcases List.mem_append.mp hr with hr | hr
      · simp only [List.mem_cons, List.not_mem_nil, or_false] at hr
        omega
      · exact hscan r hr
    by_cases hrejected : k = 0 ∨ k > 14
    · have hcall := rejected_of_scanned hk hrejected
      refine ⟨fun r hr => ?_, fun first last forms he => ?_⟩
      · rw [hcall] at hr
        exact hfront r hr
      · rw [hcall] at he
        simp at he
    · -- each option the first loop has seen has a value
      have hvalue : ∀ j, j < k → 3 + 2 * j + 1 ≤ c.paramCount := by
        intro j hj
        have hoption := (hscanned.options (k - 1) (by omega)).1
        rcases hscanned.stop with hstop | ⟨hle, -⟩
        · rcases hpaired with heven | hmany | ⟨k', hle', hend'⟩
          · omega
          · omega
          · have hpast : ¬k' < k := fun hlt =>
              absurd ((hscanned.options k' hlt).2.symm.trans hend') (by decide)
            omega
        · omega
      have hcall := reads_of_scanned hk (by omega) (by omega)
      refine ⟨fun r hr => ?_, fun first last forms he => ?_⟩
      · rw [hcall] at hr
        rcases List.mem_append.mp hr with hr | hr
        · exact hfront r hr
        · obtain ⟨j, hj, hr⟩ := List.mem_flatMap.mp hr
          have hbound := hvalue j (List.mem_range.mp hj)
          simp only [List.mem_cons, List.not_mem_nil, or_false] at hr
          omega
      · rw [hcall] at he
        obtain ⟨rfl, rfl, rfl⟩ := FormOutcome.formadd.inj he
        have htrailing : c.trailing = c.argsFrom 3 := by
          unfold trailing argsFrom
          have hlen : c.paramCount - 2 = c.paramCount + 1 - 3 := by omega
          rw [hlen]
        refine ⟨rfl, rfl, ?_⟩
        rw [htrailing, pairsBefore_scanned hscanned hvalue, List.map_map]
        congr 1
        refine List.map_congr_left fun j _ => ?_
        have hoption : j * 2 + 3 = 3 + 2 * j := by omega
        have hval : j * 2 + 4 = 3 + 2 * j + 1 := by omega
        rw [hoption, hval]
        rfl

/-- `curl_formadd(first, last, CURLFORM_COPYNAME)`: the value is read behind the last argument. -/
def unpaired : FormCall where
  params i := if i = 0 then 12 else i
  addr _ := 1
  string _ := []

theorem formadd_reads_past : unpaired.paramCount = 3 ∧ 4 ∈ unpaired.amxCurlFormadd.reads ∧
    ¬unpaired.Contained := by
  have hcount : unpaired.paramCount = 3 := by decide
  have hscan : unpaired.scan 3 0 = ([3], 1) := by
    rw [scan_pair (by rw [hcount]) (by decide), scan_stop (by rw [hcount]; decide)]
  have hreads : 4 ∈ unpaired.amxCurlFormadd.reads := by
    rw [reads_of_scanned (k := 1) (by rw [hscan]) (by decide) (by decide)]
    simp
  refine ⟨hcount, hreads, fun h => ?_⟩
  have hle := h.inBounds 4 hreads
  rw [hcount] at hle
  exact absurd hle (by decide)

end FormCall

end AmxxCurl
