/-
What libcurl holds of the module: its callbacks, and what they are called with.

libcurl calls a FUNCTION option with the DATA option that goes with it, and the trampoline
casts that to a `CurlCallback`.  So the two have to be set as a pair, and nothing a plugin
passes may get into either.  There are three ways to the options of an easy handle:
`SetOption`, which turns such options down, `BindCallback`, and the four options of
`AddCurl`; `Paired` is what each of them keeps.
-/
import AmxxCurl.Amx.Handles
import AmxxCurl.Amx.Exceptions

namespace AmxxCurl

open AmxCurlController
open Transfers (Records)

variable {t : OptionTable} {o : ObjId} {x y : CurlOption} {v : OptionValue} {code : CurlCode}

/-! ### The options of one easy handle -/

namespace OptionTable

/-- A callback that is set is a pair: the trampoline, and the `CurlCallbackAmx` of `o`. -/
def Paired (t : OptionTable) (o : ObjId) : Prop :=
  ∀ ⦃f v⦄, CurlOption.IsFunction f → f ≠ Curlopt.openSocketFunction →
    f ≠ Curlopt.closeSocketFunction → t f = some v →
      ∃ c : CallbackOption, f = c.number ∧ v = .trampoline c.virtual ∧
        t c.dataNumber = some (.callbackAmx o)

/-- `WRITEFUNCTION` is the trampoline of `WriteCallback`. -/
def Writes (t : OptionTable) : Prop :=
  t Curlopt.writeFunction = some (.trampoline .writeCallback)

/-- The sockets of the transfer are opened and closed by the `CurlMulti`. -/
structure Socketed (t : OptionTable) : Prop where
  openFunction : t Curlopt.openSocketFunction = some .openSocket
  openData : t Curlopt.openSocketData = some .curlMulti
  closeFunction : t Curlopt.closeSocketFunction = some .closeSocket
  closeData : t Curlopt.closeSocketData = some .curlMulti

/-- An option that no trampoline is called for or with. -/
structure Plain (x : CurlOption) : Prop where
  function : CurlOption.IsFunction x → x = Curlopt.openSocketFunction ∨ x = Curlopt.closeSocketFunction
  data : ∀ c : CallbackOption, x ≠ c.dataNumber

/-- An option that `AddCurl` does not set. -/
structure Unsocketed (x : CurlOption) : Prop where
  openFunction : x ≠ Curlopt.openSocketFunction
  openData : x ≠ Curlopt.openSocketData
  closeFunction : x ≠ Curlopt.closeSocketFunction
  closeData : x ≠ Curlopt.closeSocketData

theorem easySetopt_ne (hne : y ≠ x) : t.easySetopt x v code y = t y := by
  unfold easySetopt
  split
  · exact Function.update_of_ne hne ..
  · rfl

theorem easySetopt_self : t.easySetopt x v code x = if code = curleOk then some v else t x := by
  unfold easySetopt
  split
  · exact Function.update_self ..
  · rfl

theorem dataNumber_lt (c : CallbackOption) : c.dataNumber < Curlopt.writeFunction := by
  cases c <;> decide

theorem number_ne_dataNumber (c d : CallbackOption) : c.number ≠ d.dataNumber := by
  exact Nat.ne_of_gt (Nat.lt_of_lt_of_le (dataNumber_lt d) (number_isFunction c).1)

theorem number_unsocketed (c : CallbackOption) : Unsocketed c.number := by
  cases c <;> exact ⟨by decide, by decide, by decide, by decide⟩

theorem dataNumber_unsocketed (c : CallbackOption) : Unsocketed c.dataNumber := by
  cases c <;> exact ⟨by decide, by decide, by decide, by decide⟩

/-- Where nothing is set, there is nothing to pair. -/
theorem Paired.cleared : Paired Curl.cleared o := by
  intro f v _ _ _ hset
  nomatch hset

theorem Paired.plain (h : t.Paired o) (hx : Plain x) : (t.easySetopt x v code).Paired o := by
  intro f w hf hopen hclose hset
  have hne : f ≠ x := by
    rintro rfl
    rcases hx.function hf with hx | hx
    · exact hopen hx
    · exact hclose hx
  rw [easySetopt_ne hne] at hset
  obtain ⟨c, hc, hw, hdata⟩ := h hf hopen hclose hset
  refine ⟨c, hc, hw, ?_⟩
  rw [easySetopt_ne (hx.data c).symm]
  exact hdata

/-- What `BindCallback` makes of the options, for one that `SetupAmxCallback` takes. -/
theorem bindCallback_table (c : CallbackOption) (dataCode functionCode : CurlCode) :
    (Curl.bindCallback t o c.number dataCode functionCode).1 =
      if dataCode = curleOk then
        (t.easySetopt c.dataNumber (.callbackAmx o) curleOk).easySetopt c.number
          (.trampoline c.virtual) functionCode
      else t := by
  obtain ⟨hcallback, hdata, hmethod, -⟩ := number_bindable c
  unfold Curl.bindCallback
  rw [if_pos hcallback, hdata]
  dsimp only
  by_cases hok : dataCode = curleOk
  · subst hok
    rw [if_pos rfl, if_pos rfl, hmethod]
  · rw [if_neg hok, if_neg hok]
    exact if_neg hok

/-- The data is set before the function, and so the pair is never half set. -/
theorem Paired.bind (h : t.Paired o) (c : CallbackOption) (dataCode functionCode : CurlCode) :
    (Curl.bindCallback t o c.number dataCode functionCode).1.Paired o := by
  rw [bindCallback_table]
  by_cases hok : dataCode = curleOk
  · rw [if_pos hok]
    intro f w hf hopen hclose hset
    have hdata : ∀ d : CallbackOption, ((t.easySetopt c.dataNumber (.callbackAmx o)
        curleOk).easySetopt c.number (.trampoline c.virtual) functionCode) d.dataNumber =
        if d = c then some (.callbackAmx o) else t d.dataNumber := by
      intro d
      rw [easySetopt_ne (number_ne_dataNumber c d).symm]
      by_cases hd : d = c
      · rw [if_pos hd, hd, easySetopt_self, if_pos rfl]
      · rw [if_neg hd, easySetopt_ne fun hn => hd (dataNumber_inj hn)]
    have hkeep : t f = some w → ∃ d : CallbackOption, f = d.number ∧ w = .trampoline d.virtual ∧
        ((t.easySetopt c.dataNumber (.callbackAmx o) curleOk).easySetopt c.number
          (.trampoline c.virtual) functionCode) d.dataNumber = some (.callbackAmx o) := by
      intro hold
      obtain ⟨d, hd, hw, hdd⟩ := h hf hopen hclose hold
      refine ⟨d, hd, hw, ?_⟩
      rw [hdata]
      split
      · rfl
      · exact hdd
    by_cases hfc : f = c.number
    · subst hfc
      rw [easySetopt_self] at hset
      split at hset
      · refine ⟨c, rfl, (Option.some.inj hset).symm, ?_⟩
        rw [hdata, if_pos rfl]
      · rw [easySetopt_ne (number_ne_dataNumber c c)] at hset
        exact hkeep hset
    · rw [easySetopt_ne hfc] at hset
      have hfd : f ≠ c.dataNumber := Nat.ne_of_gt (Nat.lt_of_lt_of_le (dataNumber_lt c) hf.1)
      rw [easySetopt_ne hfd] at hset
      exact hkeep hset
  · rw [if_neg hok]
    exact h

theorem Writes.plain (h : t.Writes) (hx : Plain x) : (t.easySetopt x v code).Writes := by
  refine (easySetopt_ne ?_).trans h
  rintro rfl
  rcases hx.function (number_isFunction .writeFunction) with he | he <;> exact absurd he (by decide)

theorem Writes.bind (h : t.Writes) (c : CallbackOption) (dataCode functionCode : CurlCode) :
    (Curl.bindCallback t o c.number dataCode functionCode).1.Writes := by
  rw [bindCallback_table]
  split
  · by_cases hc : c = .writeFunction
    · subst hc
      refine easySetopt_self.trans ?_
      split
      · rfl
      · exact (easySetopt_ne (number_ne_dataNumber .writeFunction .writeFunction)).trans h
    · refine (easySetopt_ne fun he => hc (number_inj (d := .writeFunction) he.symm)).trans ?_
      exact (easySetopt_ne (number_ne_dataNumber .writeFunction c)).trans h
  · exact h

/-- A binding of `WRITEFUNCTION` that does not throw has set it. -/
theorem Writes.bound (t : OptionTable) (o : ObjId) :
    (Curl.bindCallback t o Curlopt.writeFunction curleOk curleOk).1.Writes :=
  rfl

theorem Socketed.unsocketed (h : t.Socketed) (hx : Unsocketed x) :
    (t.easySetopt x v code).Socketed where
  openFunction := (easySetopt_ne hx.openFunction.symm).trans h.openFunction
  openData := (easySetopt_ne hx.openData.symm).trans h.openData
  closeFunction := (easySetopt_ne hx.closeFunction.symm).trans h.closeFunction
  closeData := (easySetopt_ne hx.closeData.symm).trans h.closeData

theorem Socketed.bind (h : t.Socketed) (c : CallbackOption) (dataCode functionCode : CurlCode) :
    (Curl.bindCallback t o c.number dataCode functionCode).1.Socketed := by
  rw [bindCallback_table]
  split
  · exact (h.unsocketed (dataNumber_unsocketed c)).unsocketed (number_unsocketed c)
  · exact h

/-! ### What `setopt` does to them -/

section Setopt

variable {option : CurlOption} {value : Int} {dataCode functionCode : CurlCode}

/-- Three things `setopt` can do to the options. -/
inductive Sets (t : OptionTable) (o : ObjId) : OptionTable → Prop
  | same : Sets t o t
  | plain (x : CurlOption) (v : OptionValue) (code : CurlCode) (hx : Plain x) (hs : Unsocketed x) :
      Sets t o (t.easySetopt x v code)
  | bind (c : CallbackOption) (dataCode functionCode : CurlCode) :
      Sets t o (Curl.bindCallback t o c.number dataCode functionCode).1

/-- An option in a range of plain ones, unless it is a data option. -/
theorem setManagerOption_sets (hrange : ¬CurlOption.IsFunction option) :
    Sets t o (setManagerOption t option value code).1 := by
  unfold setManagerOption Curl.setOption
  split
  · exact .same
  · rename_i hdata
    have hne : ∀ {y : CurlOption}, isDataOption y = true → option ≠ y := by
      rintro y hy rfl
      exact hdata hy
    split
    · exact .same
    · split
      · exact .same
      · refine .plain _ _ _ ⟨fun hf => absurd hf hrange, fun c => hne (dataNumber_isData c)⟩ ?_
        refine ⟨?_, hne rfl, ?_, hne rfl⟩
        · rintro rfl
          exact hrange ⟨by decide, by decide⟩
        · rintro rfl
          exact hrange ⟨by decide, by decide⟩

theorem setManagerCallback_sets :
    Sets t o (setManagerCallback t o option dataCode functionCode).1 := by
  unfold setManagerCallback
  cases hc : setupOption option with
  | none => exact .same
  | some c =>
      obtain rfl := setupOption_eq_some.mp hc
      exact .bind c dataCode functionCode

theorem dispatchSetopt_sets :
    Sets t o (dispatchSetopt t o option value code dataCode functionCode).1 := by
  unfold dispatchSetopt
  split
  · rename_i hlt
    exact setManagerOption_sets fun hf => absurd (hlt.trans (by decide)) (Nat.not_lt_of_le hf.1)
  · split
    · rename_i hlt
      dsimp only
      split
      · exact setManagerOption_sets fun hf => absurd hf.1 (by decide)
      · exact setManagerOption_sets fun hf => absurd hlt (Nat.not_lt_of_le hf.1)
    · split
      · exact setManagerCallback_sets
      · rename_i hge
        exact setManagerOption_sets fun hf => hge hf.2

end Setopt

theorem Paired.sets {t' : OptionTable} (h : t.Paired o) (hs : Sets t o t') : t'.Paired o := by
  cases hs with
  | same => exact h
  | plain x v code hx _ => exact h.plain hx
  | bind c dataCode functionCode => exact h.bind c dataCode functionCode

theorem Writes.sets {t' : OptionTable} (h : t.Writes) (hs : Sets t o t') : t'.Writes := by
  cases hs with
  | same => exact h
  | plain x v code hx _ => exact h.plain hx
  | bind c dataCode functionCode => exact h.bind c dataCode functionCode

theorem Socketed.sets {t' : OptionTable} (h : t.Socketed) (hs : Sets t o t') : t'.Socketed := by
  cases hs with
  | same => exact h
  | plain x v code _ hx => exact h.unsocketed hx
  | bind c dataCode functionCode => exact h.bind c dataCode functionCode

/-! ### What `AddCurl` does to them -/

/-- The four options are not those of a trampoline. -/
theorem addCurl_plain (hx : x ∈ [Curlopt.openSocketFunction, Curlopt.openSocketData,
    Curlopt.closeSocketFunction, Curlopt.closeSocketData]) : Plain x := by
  simp only [List.mem_cons, List.not_mem_nil, or_false] at hx
  rcases hx with rfl | rfl | rfl | rfl
  · exact ⟨fun _ => Or.inl rfl, fun c => (dataNumber_unsocketed c).openFunction.symm⟩
  · exact ⟨fun hf => absurd hf.1 (by decide), fun c => (dataNumber_unsocketed c).openData.symm⟩
  · exact ⟨fun _ => Or.inr rfl, fun c => (dataNumber_unsocketed c).closeFunction.symm⟩
  · exact ⟨fun hf => absurd hf.1 (by decide), fun c => (dataNumber_unsocketed c).closeData.symm⟩

theorem Paired.addCurl (h : t.Paired o) (c₁ c₂ c₃ c₄ : CurlCode) :
    (addCurlOptions t c₁ c₂ c₃ c₄).Paired o :=
  (((h.plain (addCurl_plain (by simp))).plain (addCurl_plain (by simp))).plain
    (addCurl_plain (by simp))).plain (addCurl_plain (by simp))

theorem Writes.addCurl (h : t.Writes) (c₁ c₂ c₃ c₄ : CurlCode) :
    (addCurlOptions t c₁ c₂ c₃ c₄).Writes :=
  (((h.plain (addCurl_plain (by simp))).plain (addCurl_plain (by simp))).plain
    (addCurl_plain (by simp))).plain (addCurl_plain (by simp))

/-- What libcurl accepts is set afterwards. -/
theorem Socketed.addCurl (t : OptionTable) :
    (addCurlOptions t curleOk curleOk curleOk curleOk).Socketed :=
  ⟨rfl, rfl, rfl, rfl⟩

end OptionTable

namespace AmxCurlController

variable {m m' : AmxCurlController}

/-- A transfer begins with an accepted perform only. -/
theorem after_inProgress {a : AmxCurlController.Action}
    (hafter : (m.after a o).isTransferInProgress = true) :
    (m.obj o).isTransferInProgress = true ∨
      ∃ h fun_ dataLen, a = .easyPerform h true fun_ dataLen ∧ m.Idle h o := by
  rcases m.after_touch a o with ht | ⟨-, b, reply, q, e, -, hnew⟩
  · generalize m.after a o = y at ht hafter
    cases ht with
    | start h fun_ dataLen ha hidle => exact Or.inr ⟨h, fun_, dataLen, ha, hidle⟩
    | notAdded => simp [AmxCurl.settle] at hafter
    | removed => simp [AmxCurl.settle] at hafter
    | destroyed =>
        refine Or.inl ?_
        revert hafter
        cases m.valid o <;> exact id
    | _ => exact Or.inl hafter
  · rw [hnew] at hafter
    simp [AmxCurl.new] at hafter

end AmxCurlController

namespace Bound

variable {s s' : Bound} {n : Native}

/-! ### The natives, for one object -/

open OptionTable

/-- What a native may do to the options of `o`. -/
inductive Rewrites (s : Bound) (o : ObjId) : Native → OptionTable → Prop
  | sets (n : Native) (t : OptionTable) (ht : Sets (s.options o) o t) : Rewrites s o n t
  | add (h : AmxCurlHandle) (fun_ dataLen : Int) (c₁ c₂ c₃ c₄ : CurlCode) (hidle : s.ctrl.Idle h o) :
      Rewrites s o (.easyPerform h true fun_ dataLen c₁ c₂ c₃ c₄)
        (addCurlOptions (s.options o) c₁ c₂ c₃ c₄)
  | reset (h : AmxCurlHandle) (dataCode functionCode : CurlCode) (hidle : s.ctrl.Idle h o) :
      Rewrites s o (.easyReset h dataCode functionCode)
        (Curl.bindCallback Curl.cleared o Curlopt.writeFunction dataCode functionCode).1

/-- The options of another object are left alone. -/
theorem setOptions_ne {o' : ObjId} {f : OptionTable → OptionTable} (hne : o ≠ o') :
    s.setOptions o' f o = s.options o :=
  Function.update_of_ne hne ..

theorem setOptions_self {f : OptionTable → OptionTable} : s.setOptions o f o = f (s.options o) :=
  Function.update_self ..

theorem Rewrites.same : Rewrites s o n (s.options o) := .sets n _ .same

/-- A perform that starts has set the four options. -/
theorem optionsAfter_perform {h : AmxCurlHandle} {fun_ dataLen : Int} {c₁ c₂ c₃ c₄ : CurlCode}
    (hh : s.ctrl.amxCurl.lookup h = some o) (hidle : (s.ctrl.obj o).isTransferInProgress = false) :
    s.optionsAfter (.easyPerform h true fun_ dataLen c₁ c₂ c₃ c₄) =
      s.setOptions o fun t => addCurlOptions t c₁ c₂ c₃ c₄ := by
  simp only [optionsAfter, hh]
  rw [hidle]
  rfl

theorem optionsAfter_rewrites (hne : o ≠ s.ctrl.objs.next) : Rewrites s o n (s.optionsAfter n o) := by
  cases n with
  | easyInit a reply dataCode functionCode =>
      simp only [optionsAfter]
      rw [setOptions_ne hne]
      exact .same
  | easyPerform h found fun_ dataLen c₁ c₂ c₃ c₄ =>
      cases hh : s.ctrl.amxCurl.lookup h with
      | none =>
          simp only [optionsAfter, hh]
          exact .same
      | some o' =>
          by_cases hgo : ((s.ctrl.obj o').isTransferInProgress || !found) = true
          · simp only [optionsAfter, hh]
            rw [if_pos hgo]
            exact .same
          · have hstart : (s.ctrl.obj o').isTransferInProgress = false ∧ found = true := by
              simpa using hgo
            obtain ⟨hidle, rfl⟩ := hstart
            rw [optionsAfter_perform hh hidle]
            by_cases ho : o = o'
            · subst ho
              rw [setOptions_self]
              exact .add h fun_ dataLen c₁ c₂ c₃ c₄ ⟨hh, hidle⟩
            · rw [setOptions_ne ho]
              exact .same
  | easySetopt h option value reply code dataCode functionCode =>
      cases hh : s.ctrl.amxCurl.lookup h with
      | none =>
          simp only [optionsAfter, hh]
          exact .same
      | some o' =>
          simp only [optionsAfter, hh]
          by_cases ho : o = o'
          · subst ho
            rw [setOptions_self]
            exact .sets _ _ dispatchSetopt_sets
          · rw [setOptions_ne ho]
            exact .same
  | easyReset h dataCode functionCode =>
      cases hh : s.ctrl.amxCurl.lookup h with
      | none =>
          simp only [optionsAfter, hh]
          exact .same
      | some o' =>
          simp only [optionsAfter, hh]
          by_cases hbusy : (s.ctrl.obj o').isTransferInProgress = true
          · rw [if_pos hbusy]
            exact .same
          · rw [if_neg hbusy]
            by_cases ho : o = o'
            · subst ho
              rw [setOptions_self]
              exact .reset h dataCode functionCode ⟨hh, Bool.eq_false_iff.mpr hbusy⟩
            · rw [setOptions_ne ho]
              exact .same
  | _ => exact .same

/-! ### Turns and runs -/

theorem next_native (hn : s.next (.native n) = some s') :
    (s.outcome n).Returns ∧ s.called n = some s'.ctrl ∧ s'.options = s.optionsAfter n := by
  unfold next at hn
  dsimp only at hn
  split at hn
  · rename_i a ha
    obtain ⟨m, hm, rfl⟩ := Option.map_eq_some_iff.mp hn
    exact ⟨⟨a, ha⟩, hm, rfl⟩
  · simp at hn

theorem next_other {a : AmxCurlController.Action} (hn : s.next (.other a) = some s') :
    a.isNative = false ∧ s.ctrl.next a = some s'.ctrl ∧ s'.options = s.options := by
  unfold next at hn
  dsimp only at hn
  split at hn
  · simp at hn
  · rename_i ha
    obtain ⟨m, hm, rfl⟩ := Option.map_eq_some_iff.mp hn
    exact ⟨Bool.eq_false_iff.mpr ha, hm, rfl⟩

theorem called_eq (hm : s.called n = some s'.ctrl) :
    (∃ a, s.action n = some a ∧ s.ctrl.next a = some s'.ctrl) ∨
      s.action n = none ∧ s'.ctrl = s.ctrl := by
  unfold called at hm
  split at hm
  · rename_i a ha
    exact Or.inl ⟨a, ha, hm⟩
  · rename_i ha
    split at hm
    · exact Or.inr ⟨ha, (Option.some.inj hm).symm⟩
    · simp at hm

variable {C : Bound → Turn → Prop} {tr : List Turn}

/-- **The controller of a run of the two together is in a run of its own.** -/
theorem run_ctrl (h : machine.Run C tr s) :
    ∃ tr', AmxCurlController.machine.Run Machine.Free tr' s.ctrl := by
  induction h with
  | init => exact ⟨[], .init⟩
  | @snoc tr s s' a _ _ hn ih =>
      obtain ⟨tr', hr⟩ := ih
      cases a with
      | native n =>
          obtain ⟨-, hcalled, -⟩ := next_native hn
          rcases called_eq hcalled with ⟨a, -, ha⟩ | ⟨-, heq⟩
          · exact ⟨_, hr.snoc trivial ha⟩
          · exact ⟨tr', heq ▸ hr⟩
      | other a => exact ⟨_, hr.snoc trivial (next_other hn).2.1⟩

/-- libcurl has the four options `AddCurl` sets, and accepts them. -/
def AcceptsSockets (_ : Bound) : Turn → Prop
  | .native (.easyPerform _ _ _ _ openCode openDataCode closeCode closeDataCode) =>
      openCode = curleOk ∧ openDataCode = curleOk ∧ closeCode = curleOk ∧ closeDataCode = curleOk
  | _ => True

/-- What libcurl holds of the live objects. -/
def Held (s : Bound) : Prop :=
  ∀ ⦃h o⦄, s.ctrl.amxCurl.lookup h = some o → (s.options o).Paired o ∧ (s.options o).Writes ∧
    ((s.ctrl.obj o).isTransferInProgress = true → (s.options o).Socketed)

theorem Rewrites.paired {t : OptionTable} (hrw : Rewrites s o n t) (h : (s.options o).Paired o) :
    t.Paired o := by
  cases hrw with
  | sets n t ht => exact h.sets ht
  | add h' fun_ dataLen c₁ c₂ c₃ c₄ hidle => exact h.addCurl c₁ c₂ c₃ c₄
  | reset h' dataCode functionCode hidle => exact Paired.cleared.bind .writeFunction _ _

/-- `WRITEFUNCTION` is bound again before a reset returns. -/
theorem Rewrites.writes {t : OptionTable} (hrw : Rewrites s o n t) (hret : (s.outcome n).Returns)
    (h : (s.options o).Writes) : t.Writes := by
  cases hrw with
  | sets n t ht => exact h.sets ht
  | add h' fun_ dataLen c₁ c₂ c₃ c₄ hidle => exact h.addCurl c₁ c₂ c₃ c₄
  | reset h' dataCode functionCode hidle =>
      have hcodes : dataCode = curleOk ∧ functionCode = curleOk :=
        by_contra fun hcodes => easyReset_returns.mp hret ⟨⟨o, hidle⟩, hcodes⟩
      obtain ⟨rfl, rfl⟩ := hcodes
      exact Writes.bound Curl.cleared o

/-- While a transfer is in progress its four options stay. -/
theorem Rewrites.socketed {t : OptionTable} (hrw : Rewrites s o n t)
    (hbusy : (s.ctrl.obj o).isTransferInProgress = true) (h : (s.options o).Socketed) :
    t.Socketed := by
  cases hrw with
  | sets n t ht => exact h.sets ht
  | add h' fun_ dataLen c₁ c₂ c₃ c₄ hidle =>
      rw [hidle.2] at hbusy
      nomatch hbusy
  | reset h' dataCode functionCode hidle =>
      rw [hidle.2] at hbusy
      nomatch hbusy

/-- What the native `curl_easy_init` does to the options of the object it makes. -/
theorem init_held {a : AmxPtr} {e : CurlPtr} {dataCode functionCode : CurlCode}
    (hret : (s.outcome (.easyInit a (some e) dataCode functionCode)).Returns) :
    (s.optionsAfter (.easyInit a (some e) dataCode functionCode) s.ctrl.objs.next).Paired
        s.ctrl.objs.next ∧
      (s.optionsAfter (.easyInit a (some e) dataCode functionCode) s.ctrl.objs.next).Writes := by
  have hcodes : dataCode = curleOk ∧ functionCode = curleOk :=
    by_contra fun hcodes => easyInit_returns.mp hret ⟨by simp, hcodes⟩
  obtain ⟨rfl, rfl⟩ := hcodes
  have hinit : Curl.initCurl s.ctrl.objs.next (some e).isSome curleOk curleOk =
      Curl.bindCallback Curl.cleared s.ctrl.objs.next Curlopt.writeFunction curleOk curleOk := rfl
  simp only [optionsAfter]
  rw [setOptions_self, hinit]
  exact ⟨Paired.cleared.bind .writeFunction _ _, Writes.bound Curl.cleared _⟩

theorem action_easyInit {a : AmxPtr} {reply : Option CurlPtr}
    (ha : s.action n = some (.easyInit a reply)) :
    ∃ dataCode functionCode, n = .easyInit a reply dataCode functionCode := by
  cases n with
  | easyInit b r dataCode functionCode =>
      obtain ⟨rfl, rfl⟩ := by simpa [action] using ha
      exact ⟨dataCode, functionCode, rfl⟩
  | easySetopt h option value reply =>
      simp only [action] at ha
      split at ha
      · simp at ha
      · split at ha
        · simp at ha
        · split at ha <;> simp at ha
  | _ => simp [action] at ha

theorem action_easyPerform {h : AmxCurlHandle} {found : Bool} {fun_ dataLen : Int}
    (ha : s.action n = some (.easyPerform h found fun_ dataLen)) :
    ∃ c₁ c₂ c₃ c₄, n = .easyPerform h found fun_ dataLen c₁ c₂ c₃ c₄ := by
  cases n with
  | easyPerform h' found' fun' len c₁ c₂ c₃ c₄ =>
      obtain ⟨rfl, rfl, rfl, rfl⟩ := by simpa [action] using ha
      exact ⟨c₁, c₂, c₃, c₄, rfl⟩
  | easySetopt h option value reply =>
      simp only [action] at ha
      split at ha
      · simp at ha
      · split at ha
        · simp at ha
        · split at ha <;> simp at ha
  | _ => simp [action] at ha

/-- A native keeps what libcurl holds. -/
theorem Held.native (h : Held s) (hr : Records s.ctrl.transfers)
    (hs : s.ctrl.pool.Sound (0 < ·)) (hc : AcceptsSockets s (.native n))
    (hn : s.next (.native n) = some s') : Held s' := by
  obtain ⟨hret, hcalled, hopt⟩ := next_native hn
  -- an object that was live before
  have hold : ∀ {k o}, s.ctrl.amxCurl.lookup k = some o →
      ((s'.ctrl.obj o).isTransferInProgress = true →
        (s.ctrl.obj o).isTransferInProgress = true ∨ (s'.options o).Socketed) →
      (s'.options o).Paired o ∧ (s'.options o).Writes ∧
        ((s'.ctrl.obj o).isTransferInProgress = true → (s'.options o).Socketed) := by
    intro k o hk hbusy
    obtain ⟨hpaired, hwrites, hsock⟩ := h hk
    have hlt : o < s.ctrl.objs.next := hr.objLt ⟨k, hk⟩
    have hrw : Rewrites s o n (s'.options o) :=
      hopt ▸ optionsAfter_rewrites (Nat.ne_of_lt hlt)
    refine ⟨hrw.paired hpaired, hrw.writes hret hwrites, fun hbusy' => ?_⟩
    rcases hbusy hbusy' with hb | hdone
    · exact hrw.socketed hb (hsock hb)
    · exact hdone
  intro k o hk
  rcases called_eq hcalled with ⟨a, ha, hnext⟩ | ⟨-, heq⟩
  · rcases (next_renumbers hs hnext).live hk with hk | ⟨rfl, b, e, rfl⟩
    · refine hold hk fun hbusy => ?_
      rw [next_obj hnext o] at hbusy
      rcases after_inProgress hbusy with hb | ⟨h', fun_, dataLen, rfl, hidle⟩
      · exact Or.inl hb
      · obtain ⟨c₁, c₂, c₃, c₄, rfl⟩ := action_easyPerform ha
        obtain ⟨rfl, rfl, rfl, rfl⟩ := hc
        refine Or.inr ?_
        rw [hopt, optionsAfter_perform hidle.1 hidle.2, setOptions_self]
        exact Socketed.addCurl _
    · obtain ⟨dataCode, functionCode, rfl⟩ := action_easyInit ha
      obtain ⟨hpaired, hwrites⟩ := init_held hret
      rw [hopt]
      refine ⟨hpaired, hwrites, fun hbusy => ?_⟩
      obtain ⟨q, -, hnew⟩ := next_new hnext
      rw [hnew] at hbusy
      nomatch hbusy
  · rw [heq] at hk
    exact hold hk fun hbusy => Or.inl (heq ▸ hbusy)

/-- Whatever else happens does not touch the options. -/
theorem Held.other {a : AmxCurlController.Action} (h : Held s) (hs : s.ctrl.pool.Sound (0 < ·))
    (hn : s.next (.other a) = some s') : Held s' := by
  obtain ⟨hnative, hnext, hopt⟩ := next_other hn
  intro k o hk
  rw [hopt]
  rcases (next_renumbers hs hnext).live hk with hk | ⟨rfl, b, e, rfl⟩
  · obtain ⟨hpaired, hwrites, hsock⟩ := h hk
    refine ⟨hpaired, hwrites, fun hbusy => hsock ?_⟩
    rw [next_obj hnext o] at hbusy
    rcases after_inProgress hbusy with hb | ⟨h', fun_, dataLen, rfl, hidle⟩
    · exact hb
    · nomatch hnative
  · nomatch hnative

theorem run_held (h : machine.Run AcceptsSockets tr s) : Held s := by
  refine h.invariant_of (I := fun s => Records s.ctrl.transfers ∧ s.ctrl.pool.Sound (0 < ·))
    ?_ ?_ ?_
  · intro tr s hr
    obtain ⟨tr', hctrl⟩ := run_ctrl hr
    exact ⟨run_records hctrl, run_pool hctrl⟩
  · intro k o hk
    simp [machine, boot, AmxCurlController.boot] at hk
  · rintro s a s' ⟨hr, hs⟩ hheld hc hn
    cases a with
    | native n => exact hheld.native hr hs hc hn
    | other a => exact hheld.other hs hn

/-! ### What libcurl may call -/

/-- What the options of the easy handle `e`, which is the object `o`'s, lead libcurl to. -/
structure Bindings (s : Bound) (e : CurlPtr) (o : ObjId) : Prop where
  live : ∃ h, s.ctrl.amxCurl.lookup h = some o
  curl : (s.ctrl.obj o).curl = e
  /-- A callback is a trampoline of the module, with the live `CurlCallbackAmx` of `o`. -/
  callbacks : ∀ ⦃f v⦄, CurlOption.IsFunction f → f ≠ Curlopt.openSocketFunction →
    f ≠ Curlopt.closeSocketFunction → s.options o f = some v →
      ∃ w data, getMethodPointerForCallbackOption f = some w ∧ w.isOverridden = true ∧
        v = .trampoline w ∧ getDataOptionForCallbackOption f = some data ∧
        s.options o data = some (.callbackAmx o)
  write : s.options o Curlopt.writeFunction = some (.trampoline .writeCallback)
  attached : ∀ ⦃p⦄, s.ctrl.attached.lookup e = some p → (s.options o).Socketed

/--
**Callback bindings are the module's own**, for every easy handle at any time: no option a
plugin sets leads libcurl to anything but the overridden virtual functions of the object the
easy handle belongs to, or to the sockets of this `CurlMulti`.
-/
theorem bindings_hold (h : machine.Run AcceptsSockets tr s) {e : CurlPtr}
    (he : s.ctrl.easies.lookup e = some o) : s.Bindings e o := by
  obtain ⟨tr', hctrl⟩ := run_ctrl h
  have hr := run_records hctrl
  obtain ⟨⟨k, hk⟩, hcurl⟩ := hr.easy.mp he
  obtain ⟨hpaired, hwrites, hsock⟩ := run_held h hk
  refine ⟨⟨k, hk⟩, hcurl, ?_, hwrites, ?_⟩
  · intro f v hf hopen hclose hset
    obtain ⟨c, rfl, rfl, hdata⟩ := hpaired hf hopen hclose hset
    obtain ⟨-, hdataOption, hmethod, hover⟩ := number_bindable c
    exact ⟨c.virtual, c.dataNumber, hmethod, hover, rfl, hdataOption, hdata⟩
  · intro p hp
    refine hsock ?_
    have hsome : (s.ctrl.transfers.attached.lookup (s.ctrl.transfers.obj o).curl).isSome := by
      rw [hcurl]
      exact Option.isSome_iff_exists.mpr ⟨p, hp⟩
    exact ((hr.agree ⟨k, hk⟩).attached.mp hsome).1

instance (s : Bound) (a : Turn) : Decidable (AcceptsSockets s a) := by
  unfold AcceptsSockets
  split <;> infer_instance

/-- A handle with a `READFUNCTION`, in flight, that a plugin tries to reset and to misuse. -/
def attacked : Bound :=
  (machine.exec AcceptsSockets boot [.other (.load 7), .native (.easyInit 7 (some 100) 0 0),
    .native (.easySetopt 1 20012 0 (some 0) 0 0 0),
    .native (.easyPerform 1 true 3 0 0 0 0 0), .other (.addReturn true),
    .native (.easySetopt 1 20219 0 none 0 0 0), .native (.easySetopt 1 20163 5 none 0 0 0),
    .native (.easySetopt 1 10001 5 none 0 0 0), .native (.easyReset 1 0 0)]).get (by decide)

theorem bindings_hold_attacked : attacked.Bindings 100 0 :=
  bindings_hold (Machine.run_of_exec (Option.some_get _).symm : machine.Run _ _ attacked)
    (by decide)

end Bound

end AmxxCurl
