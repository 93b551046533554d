/-
The response body `WriteCallback` captures where the plugin has set no forward.

A monitor beside the machine notes the chunks libcurl has delivered to an object since it
last began anew, by an accepted perform or a reset, and the warnings printed about them.
The captured body is those chunks put together, cut off at `MAX_RESPONSE_BODY`.  The
warning is printed by the chunk that does not fit while there is room, so one that ends
exactly at the cap keeps the truncation of all that follow a secret.

The native hands the body over as a C string, so it ends at the first NUL.
-/
import AmxxCurl.Amx.Objects
import AmxxCurl.Amx.Handles
import AmxxCurl.Amx.Refinement
import Mathlib.Data.Nat.Cast.Order.Ring
import Mathlib.Algebra.BigOperators.Group.List.Basic
import Mathlib.Data.List.TakeWhile

namespace AmxxCurl

namespace AmxCurlController

open Transfers

variable {m m' : AmxCurlController} {a : Action} {o : ObjId} {h : AmxCurlHandle}
  {tr : List Action}

/-- `AmxCurlManager::CurlGetResponseBody`; an unknown handle throws. -/
def curlGetResponseBody (m : AmxCurlController) (h : AmxCurlHandle) : Option (List UInt8) :=
  (m.amxCurl.lookup h).map fun o => (m.obj o).responseBody

/-- What `c_str` is of a string of these bytes. -/
def cString (bytes : List UInt8) : List UInt8 := bytes.takeWhile (· != 0)

/-- `amx_curl_get_response_body`: the string it hands to `MF_SetAmxString`. -/
def amxCurlGetResponseBody (m : AmxCurlController) (h : AmxCurlHandle) : Option (List UInt8) :=
  (m.curlGetResponseBody h).map cString

/-! ### What libcurl delivers -/

/-- The action gives the object an empty body: it accepts a perform, or is a reset. -/
def Restarts (m : AmxCurlController) (o : ObjId) : Action → Prop
  | .addReturn true =>
      match m.stack with
      | .adding o' _ :: _ => o' = o
      | _ => False
  | .easyReset h => m.Idle h o
  | _ => False

instance (m : AmxCurlController) (o : ObjId) : ∀ a, Decidable (m.Restarts o a)
  | .addReturn true => by
      unfold Restarts
      exact match m.stack with
        | .adding o' _ :: _ => inferInstanceAs (Decidable (o' = o))
        | [] | .socketAction :: _ | .checkMultiInfo :: _ | .removing .. :: _
        | .completion .. :: _ | .dataCallback .. :: _ => inferInstanceAs (Decidable False)
  | .easyReset h => inferInstanceAs (Decidable (m.Idle h o))
  | .load _ | .unload _ | .easyInit .. | .setCallback .. | .setOption .. | .easyPerform ..
  | .easyCleanup _ | .addReturn false | .removeReturn _ | .postDone .. | .callback ..
  | .socketActionReturn | .readMessage | .checkMultiInfoReturn | .pawnReturn _ | .poll | .sweep _
  | .onAmxxDetach | .drained .. | .exit | .teardown _ => inferInstanceAs (Decidable False)

/-- The chunk libcurl delivers to the object. -/
def Action.chunk (o : ObjId) : Action → Option (List UInt8)
  | .callback o' (.write chunk) => if o' = o then some chunk else none
  | _ => none

/-- The chunks delivered to the object since it last began anew. -/
def received (o : ObjId) (tr : List Action) : List (List UInt8) :=
  machine.observe (fun cs m a _ => if m.Restarts o a then [] else cs ++ (a.chunk o).toList) []
    boot tr

/-- `MF_PrintSrvConsole`. -/
def Event.isPrint : Event → Bool
  | .mf .printSrvConsole _ => true
  | _ => false

/-- The lines printed so far. -/
def printed (m : AmxCurlController) : Nat := m.log.countP Event.isPrint

/-- The lines `WriteCallback` has printed for the object since it last began anew. -/
def warnings (o : ObjId) (tr : List Action) : Nat :=
  machine.observe (fun n m a m' =>
    if m.Restarts o a then 0
    else if (a.chunk o).isSome then n + (m'.printed - m.printed)
    else n) 0 boot tr

/-- The object is given no chunk while it has a forward for it, or is interrupted. -/
def Captures (o : ObjId) (m : AmxCurlController) (a : Action) : Prop :=
  (a.chunk o).isSome → (m.obj o).registeredCallbacks .writeFunction = none ∧
    (m.obj o).interrupt = false

instance (m : AmxCurlController) (a : Action) : Decidable (Captures o m a) :=
  inferInstanceAs (Decidable (_ → _))

/-! ### What a step does to the body -/

/-- A live object was not destroyed. -/
theorem not_destroys {n : AmxCurlHandle} (hr : Records m.transfers) (hn : m.next a = some m')
    (hlive : m.amxCurl.lookup n = some o) (hlive' : m'.amxCurl.lookup n = some o) :
    m.amxCurl.lookup h = some o → ¬m.Destroys h o a := by
  intro hh hd
  obtain rfl : n = h := hr.handleInj hlive hh
  rw [next_destroys hn hh hd] at hlive'
  simp at hlive'

theorem restarts_addReturn {ok : Bool} : m.Restarts o (.addReturn ok) ↔
    ok = true ∧ ∃ p rest, m.stack = .adding o p :: rest := by
  cases ok with
  | false => exact ⟨False.elim, fun h => absurd h.1 Bool.false_ne_true⟩
  | true =>
      unfold Restarts
      dsimp only
      split
      · rename_i o' p rest hs
        constructor
        · rintro rfl
          exact ⟨rfl, p, rest, hs⟩
        · rintro ⟨-, p', rest', hs'⟩
          rw [hs] at hs'
          injection hs' with hframe
          injection hframe
      · rename_i hne
        exact ⟨False.elim, fun ⟨_, p, rest, hs⟩ => hne o p rest hs⟩

/-- No other callback writes to the body. -/
theorem answered_body {k : Callback} (hk : ∀ chunk, k ≠ .write chunk) :
    (m.answered o k).responseBody = (m.obj o).responseBody := by
  unfold answered
  dsimp only
  split
  · rfl
  · split
    · rename_i chunk hnone
      exact absurd rfl (hk chunk)
    · rfl
    · split <;> rfl

theorem chunk_write {chunk : List UInt8} :
    (Action.callback o (.write chunk)).chunk o = some chunk :=
  if_pos rfl

theorem chunk_eq_some {chunk : List UInt8} (hchunk : a.chunk o = some chunk) :
    a = .callback o (.write chunk) := by
  cases a with
  | callback o' k =>
      cases k with
      | write chunk' =>
          have hchunk : (if o' = o then some chunk' else none) = some chunk := hchunk
          by_cases ho : o' = o
          · rw [if_pos ho] at hchunk
            rw [ho, Option.some.inj hchunk]
          · rw [if_neg ho] at hchunk
            simp at hchunk
      | _ => nomatch hchunk
  | _ => nomatch hchunk

/-- An accepted perform and a reset empty the body. -/
theorem after_restart (h : m.Restarts o a) : (m.after a o).responseBody = [] := by
  cases a with
  | easyReset h₀ =>
      simp only [after]
      rw [if_pos (show m.Idle h₀ o from h)]
      rfl
  | addReturn ok =>
      obtain ⟨rfl, p, rest, hs⟩ := restarts_addReturn.mp h
      simp only [after, hs, if_true]
      rfl
  | _ => exact h.elim

/-- A chunk is captured as far as there is room. -/
theorem after_chunk {chunk : List UInt8} (hc : Captures o m a) (hchunk : a.chunk o = some chunk) :
    (m.after a o).responseBody =
      (m.obj o).responseBody ++ chunk.take (remaining (m.obj o)) := by
  obtain ⟨hnone, hint⟩ := hc (by rw [hchunk]; rfl)
  obtain rfl := chunk_eq_some hchunk
  have hanswer : m.after (.callback o (.write chunk)) o = m.answered o (.write chunk) :=
    if_pos rfl
  have hwrite : m.answered o (.write chunk) = (m.obj o).capture chunk := by
    unfold answered
    simp only [hint, Callback.option, hnone]
    rfl
  rw [hanswer, hwrite]
  rfl

/-- Nothing else changes it, while the object is there. -/
theorem after_same (hnew : o < m.objs.next)
    (hkept : ∀ h, m.amxCurl.lookup h = some o → ¬m.Destroys h o a) (hnot : ¬m.Restarts o a)
    (hchunk : a.chunk o = none) : (m.after a o).responseBody = (m.obj o).responseBody := by
  cases a with
  | easyInit b reply =>
      simp only [after]
      split
      · rw [if_neg (Nat.ne_of_lt hnew)]
      · rfl
  | setCallback h c reply codes =>
      cases c with
      | none => rfl
      | some c =>
          simp only [after]
          split <;> rfl
  | setOption h d =>
      cases d with
      | none => rfl
      | some d =>
          simp only [after]
          split <;> rfl
  | easyPerform h found fun_ dataLen =>
      simp only [after]
      split
      · cases found <;> rfl
      · rfl
  | easyCleanup h =>
      simp only [after]
      rw [if_neg fun hidle => hkept h hidle.1 ⟨rfl, hidle.2⟩]
      split <;> rfl
  | easyReset h =>
      simp only [after]
      rw [if_neg (show ¬m.Idle h o from hnot)]
  | addReturn ok =>
      simp only [after]
      split
      · rename_i o' p rest hs
        split
        · rename_i ho
          subst ho
          cases ok with
          | false => rfl
          | true => exact absurd (restarts_addReturn.mpr ⟨rfl, p, rest, hs⟩) hnot
        · rfl
      · rfl
  | removeReturn f =>
      simp only [after]
      split
      · split <;> rfl
      · rfl
  | callback o' k =>
      simp only [after]
      split
      · rename_i ho
        refine answered_body fun chunk hk => ?_
        rw [ho, hk, chunk_write] at hchunk
        simp at hchunk
      · rfl
  | sweep order =>
      simp only [after]
      rw [if_neg]
      rintro ⟨h, hmem, hdue⟩
      exact hkept h hdue.1.1 ⟨hmem, hdue.2, hdue.1.2⟩
  | teardown order =>
      simp only [after]
      split
      · rename_i actor h todo hph
        rw [if_neg fun hh => hkept h hh ⟨actor, todo, hph⟩]
      · rfl
  | _ => rfl

theorem after_body (hnew : o < m.objs.next)
    (hkept : ∀ h, m.amxCurl.lookup h = some o → ¬m.Destroys h o a) (hc : Captures o m a) :
    (m.after a o).responseBody = if m.Restarts o a then [] else
      (m.obj o).responseBody ++ ((a.chunk o).getD []).take (remaining (m.obj o)) := by
  by_cases hrestart : m.Restarts o a
  · rw [if_pos hrestart]
    exact after_restart hrestart
  · rw [if_neg hrestart]
    cases hchunk : a.chunk o with
    | none =>
        rw [after_same hnew hkept hrestart hchunk]
        simp
    | some chunk => exact after_chunk hc hchunk

/-! ### The captured body -/

theorem next_write {chunk : List UInt8} (hn : m.next (.callback o (.write chunk)) = some m') :
    m.easies.lookup (m.obj o).curl = some o ∧ m' = m.writeCallback o chunk := by
  cases next_fires hn with
  | callback o' k hl he => exact ⟨he, rfl⟩

theorem chunk_live {chunk : List UInt8} (hr : Records m.transfers) (hn : m.next a = some m')
    (hchunk : a.chunk o = some chunk) : ∃ n, m.amxCurl.lookup n = some o := by
  obtain rfl := chunk_eq_some hchunk
  exact (hr.easy.mp (next_write hn).1).1

/-- What the monitor of the chunks notes. -/
def receive (o : ObjId) (cs : List (List UInt8)) (m : AmxCurlController) (a : Action) :
    List (List UInt8) :=
  if m.Restarts o a then [] else cs ++ (a.chunk o).toList

/-- Nothing is delivered to an object that is not there yet. -/
theorem receive_new (hr : Records m.transfers) (hn : m.next a = some m') (hnew : m.objs.next ≤ o) :
    receive o [] m a = [] := by
  have hnone : ∀ n, m.amxCurl.lookup n ≠ some o :=
    fun n hlive => absurd (hr.objLt ⟨n, hlive⟩) (Nat.not_lt.mpr hnew)
  unfold receive
  split
  · rfl
  · cases hchunk : a.chunk o with
    | none => rfl
    | some chunk =>
        obtain ⟨n, hlive⟩ := chunk_live hr hn hchunk
        exact absurd hlive (hnone n)

/-- Capturing a chunk into a body that is cut off is cutting off what is put together. -/
theorem take_append_capture (bytes chunk : List UInt8) :
    bytes.take maxResponseBody ++
        chunk.take (maxResponseBody - (bytes.take maxResponseBody).length) =
      (bytes ++ chunk).take maxResponseBody := by
  rw [List.take_append, List.length_take]
  congr 2
  omega

/-- The body is what the chunks noted make up. -/
structure Reads (o : ObjId) (cs : List (List UInt8)) (m : AmxCurlController) : Prop where
  fresh : m.objs.next ≤ o → cs = []
  body : ∀ n, m.amxCurl.lookup n = some o →
    (m.obj o).responseBody = cs.flatten.take maxResponseBody

theorem Reads.step {cs : List (List UInt8)} (h : Reads o cs m) (hr : Records m.transfers)
    (hs : m.pool.Sound (0 < ·)) (hc : Captures o m a) (hn : m.next a = some m') :
    Reads o (receive o cs m a) m' where
  fresh := by
    intro hnew
    have hnew : m.objs.next ≤ o := (next_le hn).trans hnew
    rw [h.fresh hnew]
    exact receive_new hr hn hnew
  body := by
    intro n hlive'
    rcases (next_renumbers hs hn).live hlive' with hlive | ⟨rfl, b, e, rfl⟩
    · have hlt : o < m.objs.next := hr.objLt ⟨n, hlive⟩
      rw [next_obj hn, after_body hlt (fun _ => not_destroys hr hn hlive hlive') hc]
      unfold receive
      split
      · rfl
      · rw [h.body n hlive]
        unfold remaining
        rw [h.body n hlive, take_append_capture, List.flatten_append]
        cases a.chunk o with
        | none => simp
        | some chunk => simp
    · obtain ⟨q, -, hobj⟩ := next_new hn
      rw [hobj, h.fresh (Nat.le_refl _), receive_new hr hn (Nat.le_refl _)]
      rfl

theorem run_reads (h : machine.Run (Captures o) tr m) : Reads o (received o tr) m := by
  have h0 : Reads o [] machine.init := ⟨fun _ => rfl, fun n hlive => by simp [machine, boot] at hlive⟩
  exact h.noted (f := fun cs m a _ => receive o cs m a) h0
    fun _ _ _ _ hr hread hc hn => hread.step (run_records hr) (run_pool hr) hc hn

/-! ### The warning -/

/-- A chunk is captured: what it prints, and what libcurl is told. -/
theorem capture_log {chunk : List UInt8} (hnone : (m.obj o).registeredCallbacks .writeFunction = none)
    (hint : (m.obj o).interrupt = false) : (m.writeCallback o chunk).log = m.log ++
      (if (m.obj o).responseBody.length + chunk.length > maxResponseBody ∧
          remaining (m.obj o) > 0 then [.mf .printSrvConsole m.isDetached] else []) ++
      [.returned o .writeFunction chunk.length] := by
  unfold writeCallback
  rw [hint, if_neg Bool.false_ne_true, hnone]
  show (m.captureBody o chunk).log ++ _ = _
  congr 1
  unfold captureBody
  by_cases hfull : (m.obj o).responseBody.length + chunk.length > maxResponseBody
  · rw [if_pos hfull]
    by_cases hroom : remaining (m.obj o) > 0
    · rw [if_pos hroom, if_pos ⟨hfull, hroom⟩]
      rfl
    · rw [if_neg hroom, if_neg fun hc => hroom hc.2, List.append_nil]
  · rw [if_neg hfull, if_neg fun hc => hfull hc.1, List.append_nil]
    rfl

/-- The chunk that does not fit while there is room is the one that warns. -/
theorem capture_printed {chunk : List UInt8}
    (hnone : (m.obj o).registeredCallbacks .writeFunction = none)
    (hint : (m.obj o).interrupt = false) : (m.writeCallback o chunk).printed - m.printed =
      if (m.obj o).responseBody.length < maxResponseBody ∧
        maxResponseBody < (m.obj o).responseBody.length + chunk.length then 1 else 0 := by
  unfold printed
  rw [capture_log hnone hint, List.countP_append, List.countP_append]
  have hreturned : List.countP Event.isPrint [.returned o .writeFunction chunk.length] = 0 := rfl
  have hcond : (m.obj o).responseBody.length < maxResponseBody ∧
      maxResponseBody < (m.obj o).responseBody.length + chunk.length ↔
      (m.obj o).responseBody.length + chunk.length > maxResponseBody ∧
        remaining (m.obj o) > 0 := by
    rw [and_comm]
    exact and_congr_right' Nat.sub_pos_iff_lt.symm
  rw [hreturned, if_congr hcond rfl rfl]
  by_cases hwarn : (m.obj o).responseBody.length + chunk.length > maxResponseBody ∧
      remaining (m.obj o) > 0
  · have hone : List.countP Event.isPrint [.mf .printSrvConsole m.isDetached] = 1 := rfl
    rw [if_pos hwarn, if_pos hwarn, hone]
    omega
  · have hzero : List.countP Event.isPrint [] = 0 := rfl
    rw [if_neg hwarn, if_neg hwarn, hzero]
    omega

/-- One warning is due: there are more bytes than fit, and none of the chunks ended at the cap. -/
def Announced (ls : List Nat) : Prop :=
  maxResponseBody < ls.sum ∧ ∀ i, (ls.take i).sum ≠ maxResponseBody

/-- A chunk after which a warning is due is one that does not fit, or follows one. -/
theorem announced_snoc (ls : List Nat) (n : Nat) : Announced (ls ++ [n]) ↔
    Announced ls ∨ ls.sum < maxResponseBody ∧ maxResponseBody < ls.sum + n := by
  have hsum : (ls ++ [n]).sum = ls.sum + n := by simp
  have hlow : ∀ i, i ≤ ls.length → (ls ++ [n]).take i = ls.take i :=
    fun i hi => List.take_append_of_le_length hi
  have hhigh : ∀ i, ls.length < i → (ls ++ [n]).take i = ls ++ [n] := by
    intro i hi
    refine List.take_of_length_le ?_
    rw [List.length_append, List.length_singleton]
    omega
  have hpart : ∀ i, (ls.take i).sum ≤ ls.sum := by
    intro i
    have hsplit := List.sum_take_add_sum_drop ls i
    omega
  unfold Announced
  rw [hsum]
  constructor
  · rintro ⟨hbig, hne⟩
    rcases Nat.lt_trichotomy ls.sum maxResponseBody with hlt | heq | hgt
    · exact Or.inr ⟨hlt, hbig⟩
    · have hall := hne ls.length
      rw [hlow _ (Nat.le_refl _), List.take_length] at hall
      exact absurd heq hall
    · refine Or.inl ⟨hgt, fun i => ?_⟩
      by_cases hi : i ≤ ls.length
      · rw [← hlow i hi]
        exact hne i
      · rw [List.take_of_length_le (by omega)]
        omega
  · intro hcases
    have hbig : maxResponseBody < ls.sum + n := by
      rcases hcases with ⟨hbig, -⟩ | ⟨-, hbig⟩
      · omega
      · exact hbig
    refine ⟨hbig, fun i => ?_⟩
    by_cases hi : i ≤ ls.length
    · rw [hlow i hi]
      rcases hcases with ⟨-, hne⟩ | ⟨hlt, -⟩
      · exact hne i
      · have hle := hpart i
        omega
    · rw [hhigh i (by omega), hsum]
      omega

/-- The count of warnings that follows from the chunks. -/
structure Counts (ls : List Nat) (w : Nat) : Prop where
  one : Announced ls → w = 1
  zero : ¬Announced ls → w = 0

theorem Counts.nil : Counts [] 0 := by
  refine ⟨fun h => ?_, fun _ => rfl⟩
  have hpos : maxResponseBody < 0 := h.1
  exact absurd hpos (Nat.not_lt_zero _)

theorem Counts.snoc {ls : List Nat} {w n : Nat} (h : Counts ls w) :
    Counts (ls ++ [n]) (w + if min maxResponseBody ls.sum < maxResponseBody ∧
      maxResponseBody < min maxResponseBody ls.sum + n then 1 else 0) := by
  have hcond : (min maxResponseBody ls.sum < maxResponseBody ∧
      maxResponseBody < min maxResponseBody ls.sum + n) ↔
      ls.sum < maxResponseBody ∧ maxResponseBody < ls.sum + n := by omega
  rw [if_congr hcond rfl rfl]
  by_cases hfirst : ls.sum < maxResponseBody ∧ maxResponseBody < ls.sum + n
  · have hnone : ¬Announced ls := fun hann => absurd hann.1 (Nat.not_lt.mpr (Nat.le_of_lt hfirst.1))
    rw [if_pos hfirst, h.zero hnone]
    exact ⟨fun _ => rfl, fun hnot => absurd ((announced_snoc ls n).mpr (Or.inr hfirst)) hnot⟩
  · have hsame : Announced (ls ++ [n]) ↔ Announced ls := by
      rw [announced_snoc]
      exact or_iff_left hfirst
    rw [if_neg hfirst, Nat.add_zero]
    exact ⟨fun hann => h.one (hsame.mp hann), fun hnot => h.zero fun hann => hnot (hsame.mpr hann)⟩

/-- The lengths of the chunks delivered to the object since it last began anew. -/
def lengths (o : ObjId) (tr : List Action) : List Nat := (received o tr).map List.length

theorem received_snoc {C : AmxCurlController → Action → Prop} (h : machine.Run C tr m)
    (hn : m.next a = some m') : received o (tr ++ [a]) = receive o (received o tr) m a :=
  h.observe_snoc hn

theorem warnings_snoc {C : AmxCurlController → Action → Prop} (h : machine.Run C tr m)
    (hn : m.next a = some m') : warnings o (tr ++ [a]) = if m.Restarts o a then 0
      else if (a.chunk o).isSome then warnings o tr + (m'.printed - m.printed)
      else warnings o tr :=
  h.observe_snoc hn

/-- **Whether a truncation is announced depends on where the chunks end.** -/
theorem run_counts (h : machine.Run (Captures o) tr m) :
    Counts (lengths o tr) (warnings o tr) := by
  refine h.history (P := fun tr _ => Counts (lengths o tr) (warnings o tr)) .nil ?_
  intro tr m a m' hr ih hc hn
  unfold lengths at ih ⊢
  rw [received_snoc hr hn, warnings_snoc hr hn]
  unfold receive
  by_cases hrestart : m.Restarts o a
  · rw [if_pos hrestart, if_pos hrestart]
    exact .nil
  · rw [if_neg hrestart, if_neg hrestart]
    cases hchunk : a.chunk o with
    | none =>
        rw [if_neg (by simp), Option.toList_none, List.append_nil]
        exact ih
    | some chunk =>
        have hsome : (a.chunk o).isSome := by
          rw [hchunk]
          rfl
        obtain ⟨hnone, hint⟩ := hc hsome
        obtain ⟨n, hlive⟩ := chunk_live (run_records hr) hn hchunk
        have hlen : (m.obj o).responseBody.length =
            min maxResponseBody ((received o tr).map List.length).sum := by
          rw [(run_reads hr).body n hlive, List.length_take, List.length_flatten]
        have hprinted : m'.printed - m.printed =
            if (m.obj o).responseBody.length < maxResponseBody ∧
              maxResponseBody < (m.obj o).responseBody.length + chunk.length then 1 else 0 := by
          obtain rfl := chunk_eq_some hchunk
          rw [(next_write hn).2, capture_printed hnone hint]
        rw [hchunk] at hsome
        rw [if_pos hsome, Option.toList_some, List.map_append, hprinted, hlen]
        exact ih.snoc

/-! ### Any chunks may be delivered -/

/-- libcurl is in control, and may deliver to an object that captures. -/
structure Capturing (m : AmxCurlController) (o : ObjId) : Prop where
  inLibcurl : m.InLibcurl
  easy : m.easies.lookup (m.obj o).curl = some o
  unset : (m.obj o).registeredCallbacks .writeFunction = none
  free : (m.obj o).interrupt = false

theorem captureBody_capturing (chunk : List UInt8) (h : m.Capturing o) :
    Capturing (m.captureBody o chunk) o := by
  have hset : ∀ f : AmxCurl → AmxCurl, (f (m.obj o)).curl = (m.obj o).curl →
      (f (m.obj o)).registeredCallbacks = (m.obj o).registeredCallbacks →
      (f (m.obj o)).interrupt = (m.obj o).interrupt → Capturing (m.setObj o f) o := by
    intro f hcurl hreg hint
    have hobj : (m.setObj o f).obj o = f (m.obj o) := Heap.modify_cell_self ..
    refine ⟨h.inLibcurl, ?_, ?_, ?_⟩
    · rw [hobj, hcurl]
      exact h.easy
    · rw [hobj, hreg]
      exact h.unset
    · rw [hobj, hint]
      exact h.free
  unfold captureBody
  split
  · split
    · have hset := hset (fun x => x.capture chunk) rfl rfl rfl
      exact ⟨hset.inLibcurl, hset.easy, hset.unset, hset.free⟩
    · exact h
  · exact hset _ rfl rfl rfl

theorem writeCallback_capturing {chunk : List UInt8} (h : m.Capturing o) :
    Capturing (m.writeCallback o chunk) o := by
  have hbody := captureBody_capturing chunk h
  unfold writeCallback
  rw [h.free, if_neg Bool.false_ne_true, h.unset]
  exact ⟨hbody.inLibcurl, hbody.easy, hbody.unset, hbody.free⟩

/-- The deliveries of these chunks. -/
def writes (o : ObjId) (cs : List (List UInt8)) : List Action := cs.map fun c => .callback o (.write c)

theorem run_writes (cs : List (List UInt8)) :
    ∀ {tr m}, machine.Run (Captures o) tr m → m.Capturing o →
      ∃ m', machine.Run (Captures o) (tr ++ writes o cs) m' ∧
        received o (tr ++ writes o cs) = received o tr ++ cs := by
  induction cs with
  | nil =>
      intro tr m h _
      rw [writes, List.map_nil, List.append_nil, List.append_nil]
      exact ⟨m, h, rfl⟩
  | cons c cs ih =>
      intro tr m h hm
      have hn : m.next (.callback o (.write c)) = some (m.writeCallback o c) :=
        if_pos ⟨hm.inLibcurl, hm.easy⟩
      have hc : Captures o m (.callback o (.write c)) := fun _ => ⟨hm.unset, hm.free⟩
      obtain ⟨m', hrun, hreceived⟩ := ih (h.snoc hc hn) (writeCallback_capturing hm)
      have htrace : tr ++ writes o (c :: cs) =
          (tr ++ [Action.callback o (.write c)]) ++ writes o cs := by
        rw [writes, List.map_cons, List.append_assoc]
        rfl
      rw [htrace]
      refine ⟨m', hrun, ?_⟩
      have hnot : ¬m.Restarts o (.callback o (.write c)) := not_false
      rw [hreceived, received_snoc h hn, receive, if_neg hnot, chunk_write, List.append_assoc]
      rfl

/-! ### The body a plugin reads -/

/-- Nothing of a string without a NUL is lost. -/
theorem cString_eq_self {bytes : List UInt8} : cString bytes = bytes ↔ 0 ∉ bytes := by
  unfold cString
  rw [List.takeWhile_eq_self_iff]
  constructor
  · intro hall hmem
    exact absurd (hall 0 hmem) (by decide)
  · intro hno x hx
    rw [bne_iff_ne]
    rintro rfl
    exact hno hx

/-- A perform that does not start leaves the body alone. -/
theorem failed_body {n : AmxCurlHandle} (hr : Records m.transfers)
    (hlive : m.amxCurl.lookup n = some o) (hn : m.next a = some m')
    (ha : (∃ k found f len, a = .easyPerform k found f len) ∨ a = .addReturn false) :
    m'.curlGetResponseBody n = m.curlGetResponseBody n := by
  have hquiet : ¬m.Restarts o a ∧ a.chunk o = none ∧ m'.amxCurl = m.amxCurl := by
    cases next_fires hn with
    | easyPerform k found f len => exact ⟨not_false, rfl, SameNumbers.amxCurlEasyPerform.1⟩
    | addReturn ok o' p rest =>
        have hok : ok = false := by simpa using ha
        subst hok
        exact ⟨not_false, rfl, SameNumbers.performAdded.1⟩
    | _ => simp at ha
  obtain ⟨hnot, hchunk, hhandles⟩ := hquiet
  have hlive' : m'.amxCurl.lookup n = some o := by rw [hhandles, hlive]
  have hc : Captures o m a := by
    intro hsome
    rw [hchunk] at hsome
    simp at hsome
  have hbody := after_body (hr.objLt ⟨n, hlive⟩) (fun _ => not_destroys hr hn hlive hlive') hc
  rw [if_neg hnot, hchunk, ← next_obj hn] at hbody
  unfold curlGetResponseBody
  rw [hlive, hlive', Option.map_some, Option.map_some, hbody]
  simp

/--
**The native hands over the capped response iff that has no NUL in it.**  The captured body
is at any moment the first `MAX_RESPONSE_BODY` bytes of what was delivered since the last
accepted perform or reset, and `c_str` ends it at the first NUL; each chunk is accepted
whole, and a perform that does not start leaves the body alone.
-/
theorem body_capped {n : AmxCurlHandle} (h : machine.Run (Captures o) tr m)
    (hlive : m.amxCurl.lookup n = some o) :
    (m.amxCurlGetResponseBody n = some ((received o tr).flatten.take maxResponseBody) ↔
      0 ∉ (received o tr).flatten.take maxResponseBody) ∧
    m.curlGetResponseBody n = some ((received o tr).flatten.take maxResponseBody) ∧
    m.amxCurlGetResponseBody n =
      some (cString ((received o tr).flatten.take maxResponseBody)) ∧
    (∀ chunk m', m.next (.callback o (.write chunk)) = some m' →
      Captures o m (.callback o (.write chunk)) →
      m'.log.getLast? = some (.returned o .writeFunction chunk.length)) ∧
    ∀ a m', m.next a = some m' → (∃ k found f len, a = .easyPerform k found f len) ∨
      a = .addReturn false → m'.curlGetResponseBody n = m.curlGetResponseBody n := by
  have hbody : m.curlGetResponseBody n =
      some ((received o tr).flatten.take maxResponseBody) := by
    unfold curlGetResponseBody
    rw [hlive, Option.map_some, (run_reads h).body n hlive]
  have hnative : m.amxCurlGetResponseBody n =
      some (cString ((received o tr).flatten.take maxResponseBody)) := by
    unfold amxCurlGetResponseBody
    rw [hbody, Option.map_some]
  refine ⟨?_, hbody, hnative, ?_, fun a m' hn ha => failed_body (run_records h) hlive hn ha⟩
  · rw [hnative, Option.some_inj]
    exact cString_eq_self
  · intro chunk m' hn hc
    obtain ⟨hnone, hint⟩ := hc (by rw [chunk_write]; rfl)
    rw [(next_write hn).2, capture_log hnone hint, List.getLast?_concat]

/-- Two bytes and one more are delivered to a transfer that was accepted. -/
def delivered : AmxCurlController :=
  (machine.exec (Captures 0) boot [.load 7, .easyInit 7 (some 100), .easyPerform 1 true 3 0,
    .addReturn true, .poll, .callback 0 (.write [72, 105]), .callback 0 (.write [33])]).get (by decide)

theorem body_capped_delivered : delivered.amxCurlGetResponseBody 1 = some [72, 105, 33] := by
  have hrun : machine.Run (Captures 0) _ delivered := Machine.run_of_exec (Option.some_get _).symm
  exact (body_capped hrun (by decide)).1.mpr (by decide)

/-- The second of the three bytes is a NUL. -/
def binary : List Action :=
  [.load 7, .easyInit 7 (some 100), .easyPerform 1 true 3 0, .addReturn true, .poll,
    .callback 0 (.write [72, 0, 105])]

def binaryDelivered : AmxCurlController :=
  (machine.exec (Captures 0) boot binary).get (by decide)

theorem body_ends_at_nul : machine.Run (Captures 0) binary binaryDelivered ∧
    binaryDelivered.amxCurl.lookup 1 = some 0 ∧
    (received 0 binary).flatten.take maxResponseBody = [72, 0, 105] ∧
    binaryDelivered.amxCurlGetResponseBody 1 = some [72] ∧
    binaryDelivered.amxCurlGetResponseBody 1 ≠
      some ((received 0 binary).flatten.take maxResponseBody) :=
  ⟨Machine.run_of_exec (Option.some_get _).symm, by decide, by decide, by decide, by decide⟩

/--
**When a truncation is announced as it should be.**  Once if there are more bytes than fit
and not at all otherwise: exactly if all of them fit, or no chunk ends at the cap.
-/
theorem truncation_announced_iff (h : machine.Run (Captures o) tr m) :
    warnings o tr = (if maxResponseBody < (lengths o tr).sum then 1 else 0) ↔
      (lengths o tr).sum ≤ maxResponseBody ∨
        ∀ i, ((lengths o tr).take i).sum ≠ maxResponseBody := by
  have hc := run_counts h
  by_cases hbig : maxResponseBody < (lengths o tr).sum
  · rw [if_pos hbig, or_iff_right (Nat.not_le.mpr hbig)]
    constructor
    · intro hone
      by_contra hne
      have hzero := hc.zero fun hann => hne hann.2
      omega
    · exact fun hne => hc.one ⟨hbig, hne⟩
  · rw [if_neg hbig]
    exact iff_of_true (hc.zero fun hann => hbig hann.1) (Or.inl (Nat.not_lt.mp hbig))

theorem truncation_announced_iff_delivered :
    warnings 0 [.load 7, .easyInit 7 (some 100), .easyPerform 1 true 3 0, .addReturn true, .poll,
      .callback 0 (.write [72, 105]), .callback 0 (.write [33])] = 0 := by
  have hrun : machine.Run (Captures 0) _ delivered := Machine.run_of_exec (Option.some_get _).symm
  exact ((truncation_announced_iff hrun).mpr (Or.inl (by decide))).trans (by decide)

/-- A transfer was accepted, and libcurl is about to deliver. -/
def accepting : List Action :=
  [.load 7, .easyInit 7 (some 100), .easyPerform 1 true 3 0, .addReturn true, .poll]

def fourAndOne : List (List UInt8) := List.replicate 4 (List.replicate 16384 0) ++ [[0]]

/-- Four full chunks and one byte: the byte is cut off, and nothing is printed. -/
theorem truncation_silent : (∃ m, machine.Run (Captures 0) (accepting ++ writes 0 fourAndOne) m) ∧
    (lengths 0 (accepting ++ writes 0 fourAndOne)).sum = maxResponseBody + 1 ∧
    warnings 0 (accepting ++ writes 0 fourAndOne) = 0 := by
  have hstart : machine.Run (Captures 0) accepting
      ((machine.exec (Captures 0) boot accepting).get (by decide)) :=
    Machine.run_of_exec (Option.some_get _).symm
  have hready : Capturing ((machine.exec (Captures 0) boot accepting).get (by decide)) 0 :=
    ⟨by decide, by decide, by decide, by decide⟩
  obtain ⟨m, hrun, hreceived⟩ := run_writes fourAndOne hstart hready
  have hnone : received 0 accepting = [] := by decide
  have hlen : lengths 0 (accepting ++ writes 0 fourAndOne) = [16384, 16384, 16384, 16384, 1] := by
    unfold lengths fourAndOne
    rw [fourAndOne] at hreceived
    rw [hreceived, hnone, List.nil_append, List.map_append, List.map_replicate,
      List.length_replicate]
    rfl
  have hc := run_counts hrun
  rw [hlen] at hc ⊢
  refine ⟨⟨m, hrun⟩, by decide, hc.zero fun hann => hann.2 4 (by decide)⟩

end AmxCurlController

end AmxxCurl
