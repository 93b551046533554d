/-
What `curl_easy_setopt` says of a callback option, and what it has done.

Three things have to come true: AMXX registers a forward for the public, and libcurl takes
the data option and the function.  The first reports failure with -1, which
`SetupAmxCallback` prints and returns from; the other two by a code, which `BindCallback`
makes an exception of, after the forward is in `registered_callbacks_`.  The native sees
the exception only.
-/
import AmxxCurl.Amx.Bindings

namespace AmxxCurl

open AmxCurlController

namespace Bound

variable {s s' : Bound} {h : AmxCurlHandle} {o : ObjId} {c : CallbackOption}
  {option value : Int} {reply : Option ForwardId} {code dataCode functionCode r : CurlCode}
  {runs runs' : ForwardId → String} {name : String}

/-- The public each forward runs, once `MF_RegisterSPForwardByName` was asked for one of this name. -/
def runsAfter (s : Bound) (runs : ForwardId → String) (h : AmxCurlHandle) (option : Int)
    (name : String) (reply : Option ForwardId) : ForwardId → String :=
  match s.ctrl.amxCurl.lookup h, setupOption (toOption option) with
  | some o, some _ =>
      match s.ctrl.granted o reply with
      | some f => Function.update runs f.1 name
      | none => runs
  | _, _ => runs

/-- The option has a live forward for the public, and libcurl the trampoline and its data. -/
structure IsSet (s : Bound) (runs : ForwardId → String) (o : ObjId) (c : CallbackOption)
    (name : String) : Prop where
  forward : ∃ f q, (s.ctrl.obj o).registeredCallbacks c = some (f, q) ∧
    s.ctrl.amxx.forwards f = some q ∧ s.ctrl.amxx.loaded (s.ctrl.obj o).amx = some q ∧
    runs f = name
  function : s.options o c.number = some (.trampoline c.virtual)
  data : s.options o c.dataNumber = some (.callbackAmx o)

/-- What is there of a callback option: the forward, and the two options of libcurl. -/
def SameOption (s s' : Bound) (o : ObjId) (c : CallbackOption) : Prop :=
  (s'.ctrl.obj o).registeredCallbacks c = (s.ctrl.obj o).registeredCallbacks c ∧
    s'.options o c.number = s.options o c.number ∧
    s'.options o c.dataNumber = s.options o c.dataNumber

/-- `r` is the true outcome of setting the option, and what is not set is not half set. -/
structure Truthful (s s' : Bound) (runs' : ForwardId → String) (h : AmxCurlHandle) (option : Int)
    (name : String) (r : Int) : Prop where
  ok : r = curleOk ↔ ∃ o c, s.ctrl.amxCurl.lookup h = some o ∧
    setupOption (toOption option) = some c ∧ s'.IsSet runs' o c name
  undone : r ≠ curleOk → ∀ o c, s.ctrl.amxCurl.lookup h = some o →
    setupOption (toOption option) = some c → (s'.ctrl.obj o).registeredCallbacks c = none
  others : ∀ o c, ¬(s.ctrl.amxCurl.lookup h = some o ∧ setupOption (toOption option) = some c) →
    SameOption s s' o c

/-- The call registers a forward iff libcurl takes both options. -/
def AllOrNothing (s : Bound) (h : AmxCurlHandle) (option : Int) (reply : Option ForwardId)
    (dataCode functionCode : CurlCode) : Prop :=
  ∀ o c, s.ctrl.amxCurl.lookup h = some o → setupOption (toOption option) = some c →
    ((s.ctrl.granted o reply).isSome ↔ dataCode = curleOk ∧ functionCode = curleOk)

/-! ### The result -/

/-- The numbers that reach `CurlSetupAmxCallback`. -/
def IsCallbackCell (option : Int) : Prop :=
  Curlopt.writeFunction ≤ toOption option ∧ toOption option < Curlopt.offT

theorem dispatchSetopt_callback {t : OptionTable} (hrange : IsCallbackCell option) :
    dispatchSetopt t o (toOption option) value code dataCode functionCode =
      ((setManagerCallback t o (toOption option) dataCode functionCode).1,
        (setManagerCallback t o (toOption option) dataCode functionCode).2 >>= fun _ =>
          .returns curleOk) := by
  unfold dispatchSetopt
  have hobject : ¬toOption option < Curlopt.objectPoint := by
    refine Nat.not_lt_of_le (Nat.le_trans ?_ hrange.1)
    decide
  rw [if_neg hobject, if_neg (Nat.not_lt_of_le hrange.1), if_pos hrange.2]

/-- The native returns `CURLE_OK` where libcurl takes both options, whatever AMXX has said. -/
theorem easySetopt_callback (hrange : IsCallbackCell option) :
    s.amxCurlEasySetopt h option value code dataCode functionCode = .returns
      (if (s.ctrl.amxCurl.lookup h).isSome ∧ (setupOption (toOption option)).isSome ∧
        dataCode = curleOk ∧ functionCode = curleOk then curleOk else -1) := by
  unfold amxCurlEasySetopt checkHandle
  cases hh : s.ctrl.amxCurl.lookup h with
  | none => rfl
  | some o =>
      show attempt (dispatchSetopt (s.options o) o (toOption option) value code dataCode
        functionCode).2 _ (-1) = _
      rw [dispatchSetopt_callback hrange]
      unfold setManagerCallback
      cases hc : setupOption (toOption option) with
      | none => rfl
      | some c =>
          rw [setupOption_eq_some.mp hc]
          dsimp only
          rw [bindCallback_outcome]
          by_cases hdata : dataCode = curleOk
          · by_cases hfun : functionCode = curleOk
            · rw [if_pos hdata, if_pos hfun, if_pos ⟨rfl, rfl, hdata, hfun⟩]
              rfl
            · rw [if_pos hdata, if_neg hfun, if_neg fun hok => hfun hok.2.2.2]
              rfl
          · rw [if_neg hdata, if_neg fun hok => hdata hok.2.2.1]
            rfl

/-! ### The forward -/

/-- A forward that is granted is live when `SetupAmxCallback` returns. -/
theorem setupAmxCallback_live {m : AmxCurlController} {f : ForwardId} {q : PluginId}
    (hgrant : m.granted o reply = some (f, q)) :
    (m.setupAmxCallback o c reply).amxx.forwards f = some q ∧
      (m.setupAmxCallback o c reply).amxx.loaded = m.amxx.loaded ∧
      m.amxx.loaded (m.obj o).amx = some q := by
  obtain ⟨q', hq, hf⟩ := Option.bind_eq_some_iff.mp hgrant
  obtain ⟨f', rfl, he⟩ := Option.map_eq_some_iff.mp hf
  obtain ⟨rfl, rfl⟩ := Prod.mk.inj he
  have hamx : ((m.dropForward o c).obj o).amx = (m.obj o).amx := by
    rw [obj_of_objs dropForward_objs, Heap.modify_cell_self]
    rfl
  have hloaded : (m.dropForward o c).amxx.loaded (m.obj o).amx = some q' := by
    rw [dropForward_loaded, hq]
  have hamxx : (m.setupAmxCallback o c (some f')).amxx =
      (m.dropForward o c).amxx.register (m.obj o).amx f' := by
    unfold setupAmxCallback registerForward
    dsimp only
    rw [hamx, hloaded]
    rfl
  refine ⟨?_, ?_, hq⟩
  · rw [hamxx, Amxx.register_forwards, if_pos rfl, hloaded]
  · rw [hamxx, Amxx.register_loaded, dropForward_loaded]

theorem action_setopt (hrange : IsCallbackCell option) :
    s.action (.easySetopt h option value reply code dataCode functionCode) =
      some (.setCallback h (setupOption (toOption option)) reply (dataCode, functionCode)) :=
  if_pos hrange

/-- A native call of `curl_easy_setopt` that reaches `CurlSetupAmxCallback`. -/
theorem next_setopt (hrange : IsCallbackCell option)
    (hn : s.next (.native (.easySetopt h option value reply code dataCode functionCode)) = some s') :
    s.ctrl.next (.setCallback h (setupOption (toOption option)) reply (dataCode, functionCode)) =
        some s'.ctrl ∧
      s'.ctrl = s.ctrl.curlSetupAmxCallback h (setupOption (toOption option)) reply
        (dataCode, functionCode) := by
  obtain ⟨-, hcalled, -⟩ := next_native hn
  have hnext : s.ctrl.next (.setCallback h (setupOption (toOption option)) reply
      (dataCode, functionCode)) = some s'.ctrl := by
    unfold called at hcalled
    rw [action_setopt hrange] at hcalled
    exact hcalled
  refine ⟨hnext, ?_⟩
  simp only [AmxCurlController.next] at hnext
  split at hnext
  · exact (Option.some.inj hnext).symm
  · simp at hnext

/-- The object is as `SetupAmxCallback` leaves it. -/
theorem setopt_obj (hrange : IsCallbackCell option)
    (hn : s.next (.native (.easySetopt h option value reply code dataCode functionCode)) = some s')
    (hh : s.ctrl.amxCurl.lookup h = some o) (hc : setupOption (toOption option) = some c) :
    s'.ctrl.obj o = (s.ctrl.obj o).setForward c (s.ctrl.granted o reply) := by
  obtain ⟨hnext, -⟩ := next_setopt hrange hn
  rw [next_obj hnext, hc]
  exact if_pos hh

/-- The option has the forward that was granted, and only if there was one. -/
theorem setopt_forward (hrange : IsCallbackCell option)
    (hn : s.next (.native (.easySetopt h option value reply code dataCode functionCode)) = some s')
    (hh : s.ctrl.amxCurl.lookup h = some o) (hc : setupOption (toOption option) = some c) :
    (s'.ctrl.obj o).registeredCallbacks c = s.ctrl.granted o reply := by
  rw [setopt_obj hrange hn hh hc]
  exact Function.update_self ..

/-- It is one of the plugin at `amx_`, for the public that was named. -/
theorem setopt_live (hrange : IsCallbackCell option)
    (hn : s.next (.native (.easySetopt h option value reply code dataCode functionCode)) = some s')
    (hh : s.ctrl.amxCurl.lookup h = some o) (hc : setupOption (toOption option) = some c)
    {f : ForwardId} {q : PluginId} (hgrant : s.ctrl.granted o reply = some (f, q)) :
    s'.ctrl.amxx.forwards f = some q ∧ s'.ctrl.amxx.loaded (s'.ctrl.obj o).amx = some q ∧
      s.runsAfter runs h option name reply f = name := by
  obtain ⟨hlive, hloaded, hq⟩ := setupAmxCallback_live (c := c) hgrant
  have hamxx : s'.ctrl.amxx = (s.ctrl.setupAmxCallback o c reply).amxx := by
    rw [(next_setopt hrange hn).2, hc]
    unfold curlSetupAmxCallback
    rw [hh]
    dsimp only
    split <;> rfl
  refine ⟨by rw [hamxx, hlive], ?_, ?_⟩
  · rw [hamxx, hloaded, setopt_obj hrange hn hh hc]
    exact hq
  · unfold runsAfter
    rw [hh, hc]
    dsimp only
    rw [hgrant]
    exact Function.update_self ..

/-! ### The options of libcurl -/

theorem setopt_options
    (hn : s.next (.native (.easySetopt h option value reply code dataCode functionCode)) = some s')
    (hh : s.ctrl.amxCurl.lookup h = some o) (o' : ObjId) : s'.options o' =
      if o' = o then (dispatchSetopt (s.options o) o (toOption option) value code dataCode
        functionCode).1 else s.options o' := by
  rw [(next_native hn).2.2]
  simp only [optionsAfter, hh]
  by_cases ho : o' = o
  · rw [if_pos ho, ho, setOptions_self]
  · rw [if_neg ho, setOptions_ne ho]

/-- With both codes in order the trampoline and its data are set. -/
theorem setopt_bound (hrange : IsCallbackCell option)
    (hn : s.next (.native (.easySetopt h option value reply code curleOk curleOk)) = some s')
    (hh : s.ctrl.amxCurl.lookup h = some o) (hc : setupOption (toOption option) = some c) :
    s'.options o c.number = some (.trampoline c.virtual) ∧
      s'.options o c.dataNumber = some (.callbackAmx o) := by
  rw [setopt_options hn hh, if_pos rfl, dispatchSetopt_callback hrange]
  unfold setManagerCallback
  rw [hc, setupOption_eq_some.mp hc]
  dsimp only
  rw [OptionTable.bindCallback_table, if_pos rfl]
  constructor
  · rw [OptionTable.easySetopt_self, if_pos rfl]
  · rw [OptionTable.easySetopt_ne (OptionTable.number_ne_dataNumber c c).symm,
      OptionTable.easySetopt_self, if_pos rfl]

/-- The options of other callbacks are left alone. -/
theorem bindCallback_other {t : OptionTable} {d : CallbackOption} (hd : d ≠ c) :
    (Curl.bindCallback t o c.number dataCode functionCode).1 d.number = t d.number ∧
      (Curl.bindCallback t o c.number dataCode functionCode).1 d.dataNumber = t d.dataNumber := by
  rw [OptionTable.bindCallback_table]
  split
  · have hnumber : d.number ≠ c.number := fun he => hd (number_inj he)
    have hdata : d.dataNumber ≠ c.dataNumber := fun he => hd (dataNumber_inj he)
    constructor
    · rw [OptionTable.easySetopt_ne hnumber,
        OptionTable.easySetopt_ne (OptionTable.number_ne_dataNumber d c)]
    · rw [OptionTable.easySetopt_ne (OptionTable.number_ne_dataNumber c d).symm,
        OptionTable.easySetopt_ne hdata]
  · exact ⟨rfl, rfl⟩

/-- So is everything else of the kind. -/
theorem setopt_others (hrange : IsCallbackCell option)
    (hn : s.next (.native (.easySetopt h option value reply code dataCode functionCode)) = some s')
    {d : CallbackOption} {o' : ObjId}
    (hne : ¬(s.ctrl.amxCurl.lookup h = some o' ∧ setupOption (toOption option) = some d)) :
    SameOption s s' o' d := by
  obtain ⟨hnext, -⟩ := next_setopt hrange hn
  constructor
  · rw [next_obj hnext]
    cases hc : setupOption (toOption option) with
    | none => rfl
    | some c =>
        simp only [after]
        split
        · rename_i hh
          refine Function.update_of_ne ?_ ..
          intro hdc
          exact hne ⟨hh, by rw [hdc]; exact hc⟩
        · rfl
  · cases hh : s.ctrl.amxCurl.lookup h with
    | none =>
        have hopt : s'.options = s.options := by
          rw [(next_native hn).2.2]
          simp only [optionsAfter, hh]
        rw [hopt]
        exact ⟨rfl, rfl⟩
    | some o =>
        rw [setopt_options hn hh]
        split
        · rename_i ho
          subst ho
          rw [dispatchSetopt_callback hrange]
          unfold setManagerCallback
          cases hc : setupOption (toOption option) with
          | none => exact ⟨rfl, rfl⟩
          | some c =>
              rw [setupOption_eq_some.mp hc]
              refine bindCallback_other ?_
              intro hdc
              exact hne ⟨hh, by rw [hdc]; exact hc⟩
        · exact ⟨rfl, rfl⟩

/-! ### Whether the result is true -/

/--
**`curl_easy_setopt` tells the truth about a callback option, and undoes what it has not
done, iff AMXX registers the forward exactly where libcurl takes the two options.**
-/
theorem setopt_truthful_iff (hrange : IsCallbackCell option)
    (hn : s.next (.native (.easySetopt h option value reply code dataCode functionCode)) = some s')
    (hr : s.outcome (.easySetopt h option value reply code dataCode functionCode) = .returns r) :
    Truthful s s' (s.runsAfter runs h option name reply) h option name r ↔
      AllOrNothing s h option reply dataCode functionCode := by
  have hresult : r = if (s.ctrl.amxCurl.lookup h).isSome ∧
      (setupOption (toOption option)).isSome ∧ dataCode = curleOk ∧ functionCode = curleOk
      then curleOk else -1 := by
    have heq : (.returns r : Call Int) = _ := hr.symm.trans (easySetopt_callback hrange)
    injection heq
  constructor
  · intro htrue o c hh hc
    have hforward := setopt_forward hrange hn hh hc
    rw [hh, hc] at hresult
    by_cases hok : dataCode = curleOk ∧ functionCode = curleOk
    · -- the result is `CURLE_OK`, so the option is set, and its forward is the one granted
      rw [if_pos ⟨rfl, rfl, hok⟩] at hresult
      obtain ⟨o', c', hh', hc', hset⟩ := htrue.ok.mp hresult
      obtain rfl := Option.some.inj (hh.symm.trans hh')
      obtain rfl := Option.some.inj (hc.symm.trans hc')
      obtain ⟨f, q, hreg, -⟩ := hset.forward
      rw [hforward] at hreg
      exact iff_of_true (by rw [hreg]; rfl) hok
    · -- it is not, so what was granted has been taken back
      rw [if_neg fun hall => hok hall.2.2] at hresult
      have hnone := htrue.undone (by rw [hresult]; decide) o c hh hc
      rw [hforward] at hnone
      exact iff_of_false (by rw [hnone]; simp) hok
  · intro hall
    refine ⟨?_, ?_, fun o c hne => setopt_others hrange hn hne⟩
    · constructor
      · intro hrok
        rw [hrok] at hresult
        split at hresult
        · rename_i hok
          obtain ⟨hhsome, hcsome, rfl, rfl⟩ := hok
          obtain ⟨o, hh⟩ := Option.isSome_iff_exists.mp hhsome
          obtain ⟨c, hc⟩ := Option.isSome_iff_exists.mp hcsome
          obtain ⟨⟨f, q⟩, hgrant⟩ :=
            Option.isSome_iff_exists.mp ((hall o c hh hc).mpr ⟨rfl, rfl⟩)
          have hforward := setopt_forward hrange hn hh hc
          obtain ⟨hfun, hdata⟩ := setopt_bound hrange hn hh hc
          obtain ⟨hf, hq, hname⟩ := setopt_live hrange hn hh hc hgrant
          exact ⟨o, c, hh, hc, ⟨f, q, hforward.trans hgrant, hf, hq, hname⟩, hfun, hdata⟩
        · exact absurd hresult (by decide)
      · rintro ⟨o, c, hh, hc, hset⟩
        have hforward := setopt_forward hrange hn hh hc
        obtain ⟨f, q, hreg, -⟩ := hset.forward
        rw [hforward] at hreg
        have hok := (hall o c hh hc).mp (by rw [hreg]; rfl)
        rw [hresult, hh, hc, if_pos ⟨rfl, rfl, hok⟩]
    · intro hrne o c hh hc
      have hforward := setopt_forward hrange hn hh hc
      rw [hforward]
      by_contra hsome
      have hok := (hall o c hh hc).mp (Option.isSome_iff_ne_none.mpr hsome)
      rw [hresult, hh, hc, if_pos ⟨rfl, rfl, hok⟩] at hrne
      exact hrne rfl

/-- A handle, fresh from `curl_easy_init`. -/
def ready : Bound :=
  (machine.exec Machine.Free boot [.other (.load 7), .native (.easyInit 7 (some 100) 0 0)]).get
    (by decide)

/-- `HEADERFUNCTION` is set to a public the plugin does not have. -/
def misnamed : Bound := (ready.next (.native (.easySetopt 1 20079 0 none 0 0 0))).get (by decide)

/-- libcurl does not know the data option of `SSL_CTX_FUNCTION`. -/
def refused : Bound := (ready.next (.native (.easySetopt 1 20108 0 (some 5) 0 48 0))).get (by decide)

theorem setopt_half_done :
    (ready.outcome (.easySetopt 1 20079 0 none 0 0 0) = .returns curleOk ∧
      (misnamed.ctrl.obj 0).registeredCallbacks .headerFunction = none ∧
      ¬Truthful ready misnamed (ready.runsAfter (fun _ => "") 1 20079 "on_head" none) 1 20079
        "on_head" curleOk) ∧
    ready.outcome (.easySetopt 1 20108 0 (some 5) 0 48 0) = .returns (-1) ∧
      (refused.ctrl.obj 0).registeredCallbacks .sslCtxFunction = some (5, 0) ∧
      refused.ctrl.amxx.forwards 5 = some 0 ∧
      ¬Truthful ready refused (ready.runsAfter (fun _ => "") 1 20108 "on_ssl" (some 5)) 1 20108
        "on_ssl" (-1) := by
  refine ⟨⟨by decide, by decide, ?_⟩, by decide, by decide, by decide, ?_⟩
  · intro htrue
    obtain ⟨o, c, hh, hc, hset⟩ := htrue.ok.mp rfl
    obtain ⟨f, q, hreg, -⟩ := hset.forward
    have ho : some o = some 0 := hh.symm.trans (by decide)
    have hheader : some c = some .headerFunction := hc.symm.trans (by decide)
    obtain rfl := Option.some.inj ho
    obtain rfl := Option.some.inj hheader
    have hnone : (misnamed.ctrl.obj 0).registeredCallbacks .headerFunction = none := by decide
    rw [hnone] at hreg
    simp at hreg
  · intro htrue
    have hnone := htrue.undone (by decide) 0 .sslCtxFunction (by decide) (by decide)
    exact absurd hnone (by decide)

/-- `READFUNCTION` is set to a public there is. -/
def reading : Bound := (ready.next (.native (.easySetopt 1 20012 0 (some 5) 0 0 0))).get (by decide)

theorem setopt_truthful_iff_reading :
    Truthful ready reading (ready.runsAfter (fun _ => "") 1 20012 "on_read" (some 5)) 1 20012
        "on_read" 0 ↔
      AllOrNothing ready 1 20012 (some 5) 0 0 :=
  setopt_truthful_iff ⟨by decide, by decide⟩ (Option.some_get _).symm (by decide)

end Bound

end AmxxCurl
