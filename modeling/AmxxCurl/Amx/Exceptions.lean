/-
When control returns from a native.

AMXX is built without exceptions, so one that leaves a native ends the server.  Each
native has its own `catch` clauses and its own statements outside of the `try`; what they
let through is worked out for one native at a time, and there are three exceptions and
two strings that need not be there.
-/
import AmxxCurl.Amx.NativeCalls

namespace AmxxCurl

open AmxCurlController

variable {s : Bound} {h : AmxCurlHandle} {o : ObjId} {t : OptionTable}

/-! ### The parts -/

/-- What `BindCallback` comes to for an option `SetupAmxCallback` takes. -/
theorem bindCallback_outcome (c : CallbackOption) (dataCode functionCode : CurlCode) :
    (Curl.bindCallback t o c.number dataCode functionCode).2 =
      if dataCode = curleOk then
        if functionCode = curleOk then .returns ()
        else .throws (.invalidOption c.number (.strerror functionCode))
      else .throws (.invalidOption c.number (.strerror dataCode)) := by
  obtain ⟨hcallback, hdata, hmethod, -⟩ := number_bindable c
  unfold Curl.bindCallback
  rw [if_pos hcallback, hdata]
  dsimp only
  split
  · rw [hmethod]
  · rfl

theorem not_invalidOption_caught {option : CurlOption} {what : What} {clauses : List Clause}
    (hc : ∀ c ∈ clauses, c = .invalidHandle ∨ c = .initFailture) :
    takesAny clauses (.invalidOption option what) = false := by
  unfold takesAny
  rw [List.any_eq_false]
  intro c hmem
  rcases hc c hmem with rfl | rfl <;> exact Bool.false_ne_true

/-- A call of which the exceptions are not caught. -/
theorem catching_bindCallback (t : OptionTable) (o : ObjId) (c : CallbackOption)
    (dataCode functionCode : CurlCode) {clauses : List Clause} {f : Unit → Call Int} {a : Int}
    (hc : ∀ c ∈ clauses, c = .invalidHandle ∨ c = .initFailture)
    (hf : (f ()).Returns) :
    (attempt ((Curl.bindCallback t o c.number dataCode functionCode).2 >>= f) clauses a).Returns ↔
      dataCode = curleOk ∧ functionCode = curleOk := by
  have hthrow : ∀ what, ¬(attempt ((.throws (.invalidOption c.number what) : Call Unit) >>= f)
      clauses a).Returns := by
    intro what hr
    rcases Outcome.catching_returns.mp hr with hr | ⟨e, he, htakes⟩
    · exact Outcome.not_throws_returns _ hr
    · have he : (.throws (.invalidOption c.number what) : Call Int) = .throws e := he
      injection he with he
      rw [← he, not_invalidOption_caught hc] at htakes
      exact Bool.false_ne_true htakes
  rw [bindCallback_outcome]
  by_cases hdata : dataCode = curleOk
  · by_cases hfun : functionCode = curleOk
    · rw [if_pos hdata, if_pos hfun]
      exact iff_of_true (Outcome.catching_returns.mpr (Or.inl hf)) ⟨hdata, hfun⟩
    · rw [if_pos hdata, if_neg hfun]
      exact iff_of_false (hthrow _) fun h => hfun h.2
  · rw [if_neg hdata]
    exact iff_of_false (hthrow _) fun h => hdata h.1

/-- What is thrown for an unknown handle is caught by whoever has a clause for it. -/
theorem catching_checkHandle {f : ObjId → Call Int} {clauses : List Clause} {a : Int}
    (hc : takesAny clauses .invalidHandle = true) :
    (attempt (s.checkHandle h >>= f) clauses a).Returns ↔
      ∀ o, s.ctrl.amxCurl.lookup h = some o → (attempt (f o) clauses a).Returns := by
  unfold Bound.checkHandle
  cases hh : s.ctrl.amxCurl.lookup h with
  | none =>
      refine iff_of_true (Outcome.catching_returns.mpr (Or.inr ⟨_, rfl, hc⟩)) fun o ho => ?_
      nomatch ho
  | some o =>
      constructor
      · intro hr o' ho'
        obtain rfl := Option.some.inj ho'
        exact hr
      · exact fun hr => hr o rfl

/-- `new T[n]`, where nothing is caught. -/
theorem newArray_bind_returns {size n : Int} {f : Unit → Call Int} :
    (newArray size n >>= f).Returns ↔ (0 ≤ n ∧ n * size ≤ 0x7fffffff) ∧ (f ()).Returns := by
  unfold newArray
  rw [Outcome.require_bind_returns]
  simp

theorem takesAny_all {clauses : List Clause} (h : Clause.all ∈ clauses) (e : CurlException) :
    takesAny clauses e = true :=
  List.any_eq_true.mpr ⟨.all, h, rfl⟩

/-- Behind `catch (...)` all is well that is not undefined. -/
theorem catching_all {x : Call Int} {clauses : List Clause} {a : Int}
    (hx : x ≠ .undefined) (h : Clause.all ∈ clauses) :
    (attempt x clauses a).Returns := by
  unfold attempt
  rw [Outcome.catching_returns]
  cases x with
  | returns b => exact Or.inl ⟨b, rfl⟩
  | throws e => exact Or.inr ⟨e, rfl, takesAny_all h e⟩
  | undefined => exact absurd rfl hx

section Setopt

variable {option : CurlOption} {value : Int} {code dataCode functionCode : CurlCode}

theorem setManagerOption_defined : (setManagerOption t option value code).2 ≠ .undefined := by
  unfold setManagerOption Curl.setOption
  split_ifs <;> exact nofun

theorem setManagerCallback_defined (t : OptionTable) (o : ObjId) (option : CurlOption)
    (dataCode functionCode : CurlCode) :
    (setManagerCallback t o option dataCode functionCode).2 ≠ .undefined := by
  unfold setManagerCallback
  cases hc : setupOption option with
  | none => exact nofun
  | some c =>
      rw [setupOption_eq_some.mp hc]
      show (Curl.bindCallback t o c.number dataCode functionCode).2 ≠ .undefined
      rw [bindCallback_outcome]
      split_ifs <;> exact nofun

theorem dispatchSetopt_defined :
    (dispatchSetopt t o option value code dataCode functionCode).2 ≠ .undefined := by
  unfold dispatchSetopt
  split
  · exact setManagerOption_defined
  split
  · exact setManagerOption_defined
  split
  · have hdef := setManagerCallback_defined t o option dataCode functionCode
    show (setManagerCallback t o option dataCode functionCode).2 >>= _ ≠ _
    cases hr : (setManagerCallback t o option dataCode functionCode).2 with
    | returns a => exact nofun
    | throws e => exact nofun
    | undefined => exact absurd hr hdef
  · exact setManagerOption_defined

end Setopt

/-! ### The natives -/

namespace Bound

/-- What takes control away from AMXX. -/
def Escapes (s : Bound) : Native → Prop
  | .easyEscape h escaped => h ∈ s.ctrl.amxCurl ∧ escaped = none
  | .easyUnescape h unescaped => h ∈ s.ctrl.amxCurl ∧ unescaped = none
  | .easyInit _ reply dataCode functionCode =>
      reply ≠ none ∧ ¬(dataCode = curleOk ∧ functionCode = curleOk)
  | .easyPerform _ _ _ dataLen _ _ _ _ => dataLen > 0x1fffffff
  | .easyReset h dataCode functionCode =>
      (∃ o, s.ctrl.Idle h o) ∧ ¬(dataCode = curleOk ∧ functionCode = curleOk)
  | _ => False

theorem mem_amxCurl : h ∈ s.ctrl.amxCurl ↔ ∃ o, s.ctrl.amxCurl.lookup h = some o :=
  Finmap.mem_iff

theorem easyEscape_returns {escaped : Option (List UInt8)} :
    (s.amxCurlEasyEscape h escaped).Returns ↔ ¬(h ∈ s.ctrl.amxCurl ∧ escaped = none) := by
  unfold amxCurlEasyEscape
  rw [catching_checkHandle rfl, mem_amxCurl]
  cases escaped with
  | none =>
      constructor
      · rintro hr ⟨⟨o, ho⟩, -⟩
        exact Outcome.not_undefined_returns (hr o ho)
      · intro hn o ho
        exact absurd ⟨⟨o, ho⟩, rfl⟩ hn
  | some bytes =>
      refine iff_of_true (fun o _ => Outcome.returns_returns _) ?_
      rintro ⟨-, he⟩
      nomatch he

theorem easyUnescape_returns {unescaped : Option (List UInt8)} :
    (s.amxCurlEasyUnescape h unescaped).Returns ↔
      ¬(h ∈ s.ctrl.amxCurl ∧ unescaped = none) := by
  unfold amxCurlEasyUnescape
  rw [catching_checkHandle rfl, mem_amxCurl]
  cases unescaped with
  | none =>
      constructor
      · rintro hr ⟨⟨o, ho⟩, -⟩
        exact Outcome.not_undefined_returns (hr o ho)
      · intro hn o ho
        exact absurd ⟨⟨o, ho⟩, rfl⟩ hn
  | some bytes =>
      refine iff_of_true (fun o _ => Outcome.returns_returns _) ?_
      rintro ⟨-, he⟩
      nomatch he

/-- `CurlInitFailtureException` is caught, what `BindCallback` throws is not. -/
theorem easyInit_returns {reply : Option CurlPtr} {dataCode functionCode : CurlCode} :
    (s.amxCurlEasyInit reply dataCode functionCode).Returns ↔
      ¬(reply ≠ none ∧ ¬(dataCode = curleOk ∧ functionCode = curleOk)) := by
  unfold amxCurlEasyInit Curl.initCurl
  cases reply with
  | none =>
      refine iff_of_true (Outcome.catching_returns.mpr (Or.inr ⟨.initFailture, rfl, rfl⟩)) ?_
      exact fun he => he.1 rfl
  | some c =>
      have hclauses : ∀ c ∈ [Clause.initFailture], c = .invalidHandle ∨ c = .initFailture := by
        simp
      refine (catching_bindCallback Curl.cleared s.ctrl.objs.next .writeFunction dataCode
        functionCode hclauses (Outcome.returns_returns _)).trans ?_
      constructor
      · exact fun hok he => he.2 hok
      · exact fun hn => by_contra fun hok => hn ⟨by simp, hok⟩

/-- The array is made before the `try`. -/
theorem easyPerform_returns {found : Bool} {dataLen : Int} :
    (s.amxCurlEasyPerform h found dataLen).Returns ↔ ¬dataLen > 0x1fffffff := by
  unfold amxCurlEasyPerform
  have hrest : (attempt (s.curlPerformTask h found >>= fun _ => .returns 0)
      [.taskCallbackNotFound, .invalidHandle, .all] 0).Returns := by
    refine catching_all ?_ (by simp)
    unfold curlPerformTask checkHandle
    cases s.ctrl.amxCurl.lookup h with
    | none => exact nofun
    | some o =>
        show (if (s.ctrl.obj o).isTransferInProgress then _ else _) >>= _ ≠ _
        split
        · exact nofun
        · cases found <;> exact nofun
  by_cases hlen : dataLen > 0
  · rw [if_pos hlen, newArray_bind_returns, and_iff_left hrest]
    omega
  · rw [if_neg hlen]
    refine iff_of_true hrest ?_
    omega

/-- `setopt` has a `catch` for everything. -/
theorem easySetopt_returns {option value : Int} {code dataCode functionCode : CurlCode} :
    (s.amxCurlEasySetopt h option value code dataCode functionCode).Returns := by
  unfold amxCurlEasySetopt
  refine catching_all ?_ (by simp)
  unfold checkHandle
  cases s.ctrl.amxCurl.lookup h with
  | none => exact nofun
  | some o => exact dispatchSetopt_defined

theorem easyReset_returns {dataCode functionCode : CurlCode} :
    (s.amxCurlEasyReset h dataCode functionCode).Returns ↔
      ¬((∃ o, s.ctrl.Idle h o) ∧ ¬(dataCode = curleOk ∧ functionCode = curleOk)) := by
  unfold amxCurlEasyReset
  have hbody : (attempt (s.curlReset h dataCode functionCode >>= fun _ => .returns 0)
      [.invalidHandle] 0).Returns ↔ ∀ o, s.ctrl.Idle h o →
        dataCode = curleOk ∧ functionCode = curleOk := by
    unfold curlReset
    cases hh : s.ctrl.amxCurl.lookup h with
    | none =>
        rw [show s.checkHandle h = .throws .invalidHandle by unfold checkHandle; rw [hh]]
        refine iff_of_true (Outcome.catching_returns.mpr (Or.inr ⟨_, rfl, rfl⟩)) ?_
        intro o hidle
        rw [hidle.1] at hh
        nomatch hh
    | some o =>
        rw [show s.checkHandle h = .returns o by unfold checkHandle; rw [hh]]
        have hidle : ∀ o', s.ctrl.Idle h o' ↔
            o' = o ∧ (s.ctrl.obj o).isTransferInProgress = false := by
          intro o'
          constructor
          · rintro ⟨ho, hip⟩
            obtain rfl := Option.some.inj (ho.symm.trans hh)
            exact ⟨rfl, hip⟩
          · rintro ⟨rfl, hip⟩
            exact ⟨hh, hip⟩
        show (attempt ((if (s.ctrl.obj o).isTransferInProgress then _ else _) >>= _) _ 0).Returns ↔ _
        by_cases hip : (s.ctrl.obj o).isTransferInProgress = true
        · rw [if_pos hip]
          refine iff_of_true (Outcome.returns_returns _) ?_
          intro o' ho'
          rw [((hidle o').mp ho').2] at hip
          nomatch hip
        · rw [if_neg hip]
          have hclauses : ∀ c ∈ [Clause.invalidHandle], c = .invalidHandle ∨ c = .initFailture := by
            simp
          refine (catching_bindCallback Curl.cleared o .writeFunction dataCode functionCode hclauses
            (Outcome.returns_returns _)).trans ?_
          constructor
          · exact fun hok _ _ => hok
          · exact fun hall => hall o ((hidle o).mpr ⟨rfl, Bool.eq_false_iff.mpr hip⟩)
  rw [hbody]
  constructor
  · rintro hall ⟨⟨o, ho⟩, hfail⟩
    exact hfail (hall o ho)
  · exact fun hn o ho => by_contra fun hok => hn ⟨⟨o, ho⟩, hok⟩

theorem easyGetinfo_returns {info : Nat} {code : CurlCode} :
    (s.amxCurlEasyGetinfo h info code).Returns := by
  unfold amxCurlEasyGetinfo
  split
  · rw [catching_checkHandle rfl]
    exact fun o _ => Outcome.returns_returns _
  · exact Outcome.returns_returns _

theorem formadd_returns {options : List Int} {code : Int} :
    (amxCurlFormadd options code).Returns := by
  unfold amxCurlFormadd
  split
  · exact Outcome.returns_returns _
  · rename_i hpairs
    rw [newArray_bind_returns, newArray_bind_returns]
    exact ⟨by decide, by omega, Outcome.returns_returns _⟩

/-- **A native returns to AMXX unless it is given one of these.** -/
theorem natives_return_iff (s : Bound) (n : Native) : (s.outcome n).Returns ↔ ¬s.Escapes n := by
  cases n with
  | easyEscape h escaped => exact easyEscape_returns
  | easyUnescape h unescaped => exact easyUnescape_returns
  | easyInit a reply dataCode functionCode => exact easyInit_returns
  | easyPerform h found fun_ dataLen => exact easyPerform_returns
  | easySetopt h option value => exact iff_of_true easySetopt_returns not_false
  | easyCleanup h =>
      refine iff_of_true ?_ not_false
      exact (catching_checkHandle rfl).mpr fun o _ => Outcome.returns_returns _
  | easyReset h dataCode functionCode => exact easyReset_returns
  | easyGetinfo h info code => exact iff_of_true easyGetinfo_returns not_false
  | formadd options code => exact iff_of_true formadd_returns not_false
  | getResponseBody h copied =>
      refine iff_of_true ?_ not_false
      exact (catching_checkHandle rfl).mpr fun o _ => Outcome.returns_returns _
  | _ => exact iff_of_true (Outcome.returns_returns _) not_false

/-- `curl_easy_perform` with a length no array can have, before any handle is looked at. -/
theorem perform_escapes :
    ¬(boot.outcome (.easyPerform 1 true 0 0x7fffffff 0 0 0 0)).Returns := by
  have hthrows : boot.outcome (.easyPerform 1 true 0 0x7fffffff 0 0 0 0) =
      .throws .badArrayNewLength := by decide
  rw [hthrows]
  exact Outcome.not_throws_returns _

end Bound

end AmxxCurl
