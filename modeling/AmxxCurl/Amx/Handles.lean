/-
The numbers handles are known by.

The keys of `amx_curl_` and the queue `free_handles_` are a pool: a new handle gets the
first queued number, or one past `size()` while none is queued; a handle that is
destroyed by `RemoveTask` or by a sweep gives its number back.  `RemoveAllTasks` and the
destructors give none back, the former throwing the queue away.
-/
import AmxxCurl.Amx.Cases
import AmxxCurl.Amx.Changes
import AmxxCurl.Lib.Pool

namespace AmxxCurl

namespace AmxCurlController

variable {m m' m'' : AmxCurlController} {o : ObjId} {h : AmxCurlHandle}

/-- `amx_curl_easy_init`, with the number it returns. -/
def amxCurlEasyInit (m : AmxCurlController) (a : AmxPtr) (q : PluginId) (reply : Option CurlPtr) :
    AmxCurlController × AmxCurlHandle :=
  (m.createCurl a q reply, if reply.isSome then m.getCurlHandle.1 else 0)

/-! ### The probe past `size()` -/

/-- Where the probe ends on a number in use, all it passed are. -/
theorem firstUnused_isSome {t : Table AmxCurlHandle ObjId} {n : Nat} :
    ∀ {h : Int}, (t.lookup (firstUnused t n h)).isSome →
      ∀ i : Nat, i ≤ n → (t.lookup (h + (i : Int))).isSome := by
  induction n with
  | zero =>
      intro h hs i hi
      obtain rfl := Nat.le_zero.mp hi
      rw [show h + ((0 : Nat) : Int) = h from Int.add_zero h]
      exact hs
  | succ n ih =>
      intro h hs i hi
      have hs : (t.lookup (if (t.lookup h).isSome then firstUnused t n (h + 1) else h)).isSome := hs
      by_cases hh : (t.lookup h).isSome
      · rw [if_pos hh] at hs
        cases i with
        | zero =>
            rw [show h + ((0 : Nat) : Int) = h from Int.add_zero h]
            exact hh
        | succ i =>
            have hnext := ih hs i (Nat.le_of_succ_le_succ hi)
            rw [show h + ((i + 1 : Nat) : Int) = h + 1 + i by omega]
            exact hnext
      · rw [if_neg hh] at hs
        exact absurd hs hh

/-- The probe starts past `size()`, so one of the numbers it may reach is not in use. -/
theorem firstUnused_eq_none (t : Table AmxCurlHandle ObjId) :
    t.lookup (firstUnused t t.keys.card (t.keys.card + 1)) = none := by
  by_contra hne
  have hall := firstUnused_isSome (Option.isSome_iff_ne_none.mpr hne)
  have hsub : (Finset.range (t.keys.card + 1)).image
      (fun i : Nat => ((t.keys.card : Int) + 1 + i)) ⊆ t.keys := by
    intro k hk
    obtain ⟨i, hi, rfl⟩ := Finset.mem_image.mp hk
    have hi := hall i (Nat.lt_succ_iff.mp (Finset.mem_range.mp hi))
    exact Finmap.mem_keys.mpr (Finmap.mem_of_lookup_eq_some (Option.eq_some_of_isSome hi))
  have hcard := Finset.card_le_card hsub
  have hinj : Function.Injective fun i : Nat => ((t.keys.card : Int) + 1 + i) := by
    intro i j hij
    have hij : (t.keys.card : Int) + 1 + i = t.keys.card + 1 + j := hij
    omega
  rw [Finset.card_image_of_injective _ hinj, Finset.card_range] at hcard
  omega

theorem le_firstUnused (t : Table AmxCurlHandle ObjId) (n : Nat) :
    ∀ h : Int, h ≤ (firstUnused t n h : Int) := by
  induction n with
  | zero => exact fun h => le_refl h
  | succ n ih =>
      intro h
      show h ≤ if (t.lookup h).isSome then firstUnused t n (h + 1) else h
      split
      · exact (Int.le_add_one (le_refl h)).trans (ih (h + 1))
      · exact le_refl h

/-! ### The pool -/

/-- The numbers in use and the numbers given back. -/
def pool (m : AmxCurlController) : Pool AmxCurlHandle := ⟨m.amxCurl.keys, m.freeHandles⟩

theorem mem_pool {n : AmxCurlHandle} : n ∈ m.pool.used ↔ (m.amxCurl.lookup n).isSome := by
  show n ∈ m.amxCurl.keys ↔ _
  rw [Finmap.mem_keys, ← Finmap.lookup_isSome]

theorem keys_insert (t : Table AmxCurlHandle ObjId) (n : AmxCurlHandle) (o : ObjId) :
    (t.insert n o).keys = insert n t.keys := by
  ext k
  rw [Finset.mem_insert, Finmap.mem_keys, Finmap.mem_keys, Finmap.mem_insert]

/-- `GetCurlHandle` draws a number. -/
theorem getCurlHandle_draws :
    m.pool.Draws (0 < ·) m.getCurlHandle.1 m.getCurlHandle.2 := by
  unfold getCurlHandle pool Pool.Draws
  cases hf : m.freeHandles with
  | cons n rest => exact Or.inl rfl
  | nil =>
      refine Or.inr ⟨rfl, rfl, ?_, ?_⟩
      · rw [Finmap.mem_keys, ← Finmap.lookup_isSome, firstUnused_eq_none]
        simp
      · have hle := le_firstUnused m.amxCurl m.amxCurl.keys.card (m.amxCurl.keys.card + 1)
        exact lt_of_lt_of_le (Int.lt_add_one_of_le (Int.natCast_nonneg _)) hle

/-! ### What leaves the numbers alone -/

/-- The numbers are the same. -/
def SameNumbers (m m' : AmxCurlController) : Prop :=
  m'.amxCurl = m.amxCurl ∧ m'.freeHandles = m.freeHandles

namespace SameNumbers

theorem refl (m : AmxCurlController) : SameNumbers m m := ⟨rfl, rfl⟩

theorem trans (h : SameNumbers m m') (h' : SameNumbers m' m'') : SameNumbers m m'' :=
  ⟨h'.1.trans h.1, h'.2.trans h.2⟩

theorem emit {es : List Event} : SameNumbers m (m.emit es) := ⟨rfl, rfl⟩

theorem pop {rest : List Frame} (h : SameNumbers { m with stack := rest } m') : SameNumbers m m' :=
  ⟨h.1, h.2⟩

theorem isAmxValid : SameNumbers m (m.isAmxValid o).1 := by
  unfold AmxCurlController.isAmxValid
  split <;> exact .refl _

theorem dropForward {c : CallbackOption} : SameNumbers m (m.dropForward o c) := by
  unfold AmxCurlController.dropForward
  split <;> exact ⟨rfl, rfl⟩

theorem registerForward {c : CallbackOption} {reply : Option ForwardId} :
    SameNumbers m (m.registerForward o c reply) := by
  unfold AmxCurlController.registerForward
  dsimp only
  split <;> exact ⟨rfl, rfl⟩

theorem curlSetupAmxCallback {c : Option CallbackOption} {reply : Option ForwardId}
    {codes : CurlCode × CurlCode} :
    SameNumbers m (m.curlSetupAmxCallback h c reply codes) := by
  rcases m.curlSetupAmxCallback_cases h c reply codes with
    ⟨heq, -⟩ | ⟨o, c', es, -, -, -, heq⟩ <;> rw [heq]
  · exact ⟨rfl, rfl⟩
  · exact (dropForward.trans registerForward).trans .emit

theorem curlSetOption {d : Option (CallbackOption × Int)} :
    SameNumbers m (m.curlSetOption h d) := by
  unfold AmxCurlController.curlSetOption
  repeat' split
  all_goals exact ⟨rfl, rfl⟩

theorem destroyAmxCurl : SameNumbers m (m.destroyAmxCurl o) := by
  have hcleaned : SameNumbers m (m.cleanedUp o) := ⟨rfl, rfl⟩
  rw [destroyAmxCurl_eq]
  split
  · exact (hcleaned.trans isAmxValid).trans ⟨rfl, rfl⟩
  · exact (hcleaned.trans isAmxValid).trans ⟨rfl, rfl⟩

theorem curlReset : SameNumbers m (m.curlReset h) := by
  unfold AmxCurlController.curlReset
  repeat' split
  all_goals exact ⟨rfl, rfl⟩

theorem amxCurlEasyPerform {found : Bool} {fun_ dataLen : Int} :
    SameNumbers m (m.amxCurlEasyPerform h found fun_ dataLen) := by
  unfold AmxCurlController.amxCurlEasyPerform AmxCurlController.curlPerformTask
    AmxCurlController.perform
  dsimp only
  repeat' split
  all_goals exact ⟨rfl, rfl⟩

theorem performAdded {p : PerformId} {ok : Bool} : SameNumbers m (m.performAdded o p ok) := by
  unfold AmxCurlController.performAdded
  dsimp only
  split <;> exact ⟨rfl, rfl⟩

theorem performRemoved {p : PerformId} {f : ForwardId} :
    SameNumbers m (m.performRemoved o p f) := by
  have hsettled : SameNumbers m (m.settled o p) := ⟨rfl, rfl⟩
  rcases m.performRemoved_cases o p f with ⟨-, heq⟩ | ⟨-, -, heq⟩ | ⟨q, -, -, heq⟩ <;> rw [heq]
  · exact hsettled.trans .emit
  · exact ((hsettled.trans .emit).trans .emit).trans .emit
  · have hasked : SameNumbers m (m.asked o p q f) :=
      ((hsettled.trans .emit).trans .emit).trans .emit
    exact ⟨hasked.1, hasked.2⟩

theorem checkMultiInfo : SameNumbers m m.checkMultiInfo := by
  unfold AmxCurlController.checkMultiInfo
  split
  · exact ⟨rfl, rfl⟩
  · dsimp only
    split <;> exact ⟨rfl, rfl⟩

theorem executeForward {c : CallbackOption} {f : ForwardId} {expected : Int} :
    SameNumbers m (m.executeForward o c f expected) := by
  unfold AmxCurlController.executeForward
  dsimp only
  split <;> exact ⟨rfl, rfl⟩

theorem captureBody {chunk : List UInt8} : SameNumbers m (m.captureBody o chunk) := by
  unfold AmxCurlController.captureBody
  repeat' split
  all_goals exact ⟨rfl, rfl⟩

theorem callback {k : Callback} : SameNumbers m (m.callback o k) := by
  have hvalid := isAmxValid (m := m) (o := o)
  have hdata : ∀ {c : CallbackOption} {unregistered invalid : Int},
      SameNumbers m (m.dataCallback o c unregistered invalid) := by
    intro c unregistered invalid
    unfold AmxCurlController.dataCallback
    split
    · exact ⟨rfl, rfl⟩
    · split
      · exact ⟨rfl, rfl⟩
      · split
        · rename_i m₁ he
          rw [he] at hvalid
          exact hvalid
        · rename_i m₁ he
          rw [he] at hvalid
          exact hvalid.trans executeForward
  cases k with
  | write chunk =>
      show SameNumbers m (m.writeCallback o chunk)
      unfold AmxCurlController.writeCallback
      split
      · exact ⟨rfl, rfl⟩
      · split
        · exact captureBody
        · split
          · rename_i m₁ he
            rw [he] at hvalid
            exact hvalid
          · rename_i m₁ he
            rw [he] at hvalid
            exact hvalid.trans executeForward
  | _ => exact hdata

theorem dataCallbackReturn {c : CallbackOption} {expected result : Int} :
    SameNumbers m (m.dataCallbackReturn o c expected result) := by
  unfold AmxCurlController.dataCallbackReturn
  dsimp only
  split <;> exact ⟨rfl, rfl⟩

theorem removeTransfer : SameNumbers m (m.removeTransfer h) := by
  unfold AmxCurlController.removeTransfer
  repeat' split
  all_goals exact ⟨rfl, rfl⟩

theorem shutdown : SameNumbers m m.shutdown := by
  unfold AmxCurlController.shutdown
  split <;> exact ⟨rfl, rfl⟩

end SameNumbers

/-! ### What changes them -/

/-- A deferred handle that no transfer holds back any more. -/
def Sweepable (m : AmxCurlController) (o : ObjId) : Prop :=
  (m.obj o).cleanupDeferred = true ∧ (m.obj o).isTransferInProgress = false

/-- The handles `hs` are destroyed and their numbers given back, in this order. -/
structure GivesBack (m : AmxCurlController) (hs : List AmxCurlHandle) (m' : AmxCurlController) :
    Prop where
  nodup : hs.Nodup
  idle : ∀ h ∈ hs, ∃ o, m.amxCurl.lookup h = some o ∧ (m.obj o).isTransferInProgress = false
  amxCurl : ∀ n, m'.amxCurl.lookup n = if n ∈ hs then none else m.amxCurl.lookup n
  freeHandles : m'.freeHandles = m.freeHandles ++ hs

/-- An idle handle is destroyed and its number given back. -/
theorem GivesBack.one (hh : m.amxCurl.lookup h = some o)
    (hidle : (m.obj o).isTransferInProgress = false) :
    GivesBack m [h] ({ m with
      amxCurl := m.amxCurl.erase h
      freeHandles := m.freeHandles ++ [h] }.destroyAmxCurl o) := by
  obtain ⟨hcurl, hfree⟩ := SameNumbers.destroyAmxCurl (o := o) (m := { m with
    amxCurl := m.amxCurl.erase h
    freeHandles := m.freeHandles ++ [h] })
  refine ⟨List.nodup_singleton h, fun n hn => ?_, fun n => ?_, hfree⟩
  · obtain rfl := List.mem_singleton.mp hn
    exact ⟨o, hh, hidle⟩
  · rw [hcurl, Table.lookup_erase_if]
    simp

theorem GivesBack.trans {hs hs' : List AmxCurlHandle} (h : GivesBack m hs m')
    (hidle : ∀ o, (m'.obj o).isTransferInProgress = (m.obj o).isTransferInProgress)
    (h' : GivesBack m' hs' m'') : GivesBack m (hs ++ hs') m'' := by
  have hleft : ∀ n ∈ hs', n ∉ hs ∧ ∃ o, m.amxCurl.lookup n = some o ∧
      (m.obj o).isTransferInProgress = false := by
    intro n hn
    obtain ⟨o, ho, hio⟩ := h'.idle n hn
    rw [h.amxCurl] at ho
    split at ho
    · simp at ho
    · rename_i hne
      exact ⟨hne, o, ho, hidle o ▸ hio⟩
  refine ⟨?_, fun n hn => ?_, fun n => ?_, ?_⟩
  · refine List.nodup_append.mpr ⟨h.nodup, h'.nodup, fun n hn k hk => ?_⟩
    rintro rfl
    exact (hleft n hk).1 hn
  · rcases List.mem_append.mp hn with hn | hn
    · exact h.idle n hn
    · exact (hleft n hn).2
  · rw [h'.amxCurl, h.amxCurl]
    by_cases hn : n ∈ hs <;> by_cases hn' : n ∈ hs' <;> simp [hn, hn']
  · rw [h'.freeHandles, h.freeHandles, List.append_assoc]

/-- One round of a sweep destroys its handle or finds nothing to do. -/
theorem sweepOne_cases (m : AmxCurlController) (h : AmxCurlHandle) :
    (m.sweepOne h = m ∧ ∀ o, m.amxCurl.lookup h = some o → ¬m.Sweepable o) ∨
      (GivesBack m [h] (m.sweepOne h) ∧
        ∀ o, ((m.sweepOne h).obj o).cleanupDeferred = (m.obj o).cleanupDeferred ∧
          ((m.sweepOne h).obj o).isTransferInProgress = (m.obj o).isTransferInProgress) := by
  unfold sweepOne
  split
  · rename_i hnone
    refine Or.inl ⟨rfl, fun o ho => ?_⟩
    rw [hnone] at ho
    simp at ho
  · rename_i o hh
    split
    · rename_i hcond
      rw [Bool.and_eq_true, Bool.not_eq_true'] at hcond
      refine Or.inr ⟨GivesBack.one hh hcond.2, fun o' => ?_⟩
      exact (destroyAmxCurl_obj (o := o) (m := { m with
        amxCurl := m.amxCurl.erase h
        freeHandles := m.freeHandles ++ [h] }) o').2
    · rename_i hcond
      refine Or.inl ⟨rfl, fun o' ho' hsweep => hcond ?_⟩
      obtain rfl := Option.some.inj (hh.symm.trans ho')
      rw [hsweep.1, hsweep.2]
      rfl

/-- A sweep destroys idle handles, and leaves none on its way that is to be swept. -/
theorem sweep_givesBack (order : List AmxCurlHandle) :
    ∃ hs, GivesBack m hs (m.sweepDeferredCleanups order) ∧
      (∀ o, (m.sweepDeferredCleanups order).Sweepable o ↔ m.Sweepable o) ∧
      ∀ n ∈ order, ∀ o, (m.sweepDeferredCleanups order).amxCurl.lookup n = some o →
        ¬m.Sweepable o := by
  unfold sweepDeferredCleanups
  induction order generalizing m with
  | nil => exact ⟨[], ⟨List.nodup_nil, by simp, by simp, by simp⟩, fun _ => Iff.rfl, by simp⟩
  | cons h order ih =>
      obtain ⟨hs, hback, hflags, hleft⟩ := ih (m := m.sweepOne h)
      rw [List.foldl_cons]
      rcases sweepOne_cases m h with ⟨hsame, hnot⟩ | ⟨hone, hone_flags⟩
      · rw [hsame] at hback hflags hleft ⊢
        refine ⟨hs, hback, hflags, fun n hn o ho => ?_⟩
        rcases List.mem_cons.mp hn with rfl | hn
        · rw [hback.amxCurl] at ho
          split at ho
          · simp at ho
          · exact hnot o ho
        · exact hleft n hn o ho
      · have hsame : ∀ o, (m.sweepOne h).Sweepable o ↔ m.Sweepable o := by
          intro o
          unfold Sweepable
          rw [(hone_flags o).1, (hone_flags o).2]
        refine ⟨h :: hs, hone.trans (fun o => (hone_flags o).2) hback,
          fun o => (hflags o).trans (hsame o), fun n hn o ho => ?_⟩
        rcases List.mem_cons.mp hn with rfl | hn
        · rw [hback.amxCurl, hone.amxCurl] at ho
          simp at ho
        · exact fun hs => hleft n hn o ho ((hsame o).mpr hs)

/-- What a step does to the numbers. -/
inductive Renumbers (m : AmxCurlController) : Action → AmxCurlController → Prop
  | same (a : Action) {m' : AmxCurlController} (ha : ∀ order, a ≠ .sweep order)
      (hs : SameNumbers m m') : Renumbers m a m'
  | issue (b : AmxPtr) (e : CurlPtr) {m' : AmxCurlController}
      (hn : m'.amxCurl = m.amxCurl.insert m.getCurlHandle.1 m.objs.next)
      (hf : m'.freeHandles = m.getCurlHandle.2) : Renumbers m (.easyInit b (some e)) m'
  /-- `curl_easy_init` fails, and the number it had drawn is lost. -/
  | lose (b : AmxPtr) {m' : AmxCurlController} (hn : m'.amxCurl = m.amxCurl)
      (hf : m'.freeHandles = m.getCurlHandle.2) : Renumbers m (.easyInit b none) m'
  | giveBack (a : Action) (hs : List AmxCurlHandle) {m' : AmxCurlController}
      (ha : ∀ order, a ≠ .teardown order) (hb : GivesBack m hs m')
      (hw : ∀ order, a = .sweep order → ∀ n o, m'.amxCurl.lookup n = some o → ¬m'.Sweepable o) :
      Renumbers m a m'
  | drop (order : List AmxCurlHandle) (n : AmxCurlHandle) {m' : AmxCurlController}
      (hn : m'.amxCurl = m.amxCurl.erase n) (hf : m'.freeHandles = m.freeHandles) :
      Renumbers m (.teardown order) m'
  | forget (order : List AmxCurlHandle) {m' : AmxCurlController} (hn : m'.amxCurl = m.amxCurl)
      (hf : m'.freeHandles = []) : Renumbers m (.teardown order) m'

theorem createCurl_renumbers (hs : m.pool.Sound (0 < ·)) (b : AmxPtr) (q : PluginId)
    (reply : Option CurlPtr) : Renumbers m (.easyInit b reply) (m.createCurl b q reply) := by
  have hfree : m.amxCurl.lookup m.getCurlHandle.1 = none := by
    have hnew := (hs.draws getCurlHandle_draws).2.1
    rwa [mem_pool, Option.not_isSome_iff_eq_none] at hnew
  cases reply with
  | none => rcases m.createCurl_lost b q with heq | ⟨-, heq⟩ <;> rw [heq] <;> exact .lose b rfl rfl
  | some e =>
      unfold createCurl
      dsimp only
      split
      · rename_i o hh
        have hh : m.amxCurl.lookup m.getCurlHandle.1 = some o := hh
        rw [hfree] at hh
        simp at hh
      · exact .issue b e rfl rfl

theorem removeTask_renumbers : Renumbers m (.easyCleanup h) (m.removeTask h) := by
  unfold removeTask
  split
  · exact .same _ (by simp) ⟨rfl, rfl⟩
  · rename_i o hh
    split
    · exact .same _ (by simp) ⟨rfl, rfl⟩
    · rename_i hidle
      exact .giveBack _ [h] (by simp) (.one hh (Bool.eq_false_iff.mpr hidle)) (by simp)

theorem TearsDown.renumbers {order : List AmxCurlHandle} (ht : m.TearsDown order m') :
    Renumbers m (.teardown order) m' := by
  cases ht with
  | visit actor n todo => exact .same _ (by simp) SameNumbers.removeTransfer
  | drop actor n todo =>
      unfold dropEntry
      cases hn : m.amxCurl.lookup n with
      | none => exact .same _ (by simp) ⟨rfl, rfl⟩
      | some o =>
          obtain ⟨hcurl, hfree⟩ :=
            SameNumbers.destroyAmxCurl (m := { m with amxCurl := m.amxCurl.erase n }) (o := o)
          exact .drop order n hcurl hfree
  | cleared => exact .forget order rfl rfl
  | clearedByGuard => exact .forget order rfl rfl
  | shutdown => exact .same _ (by simp) SameNumbers.shutdown
  | shutdownLast => exact .same _ (by simp) SameNumbers.shutdown
  | _ => exact .same _ (by simp) ⟨rfl, rfl⟩

theorem next_renumbers {a : Action} (hs : m.pool.Sound (0 < ·)) (hn : m.next a = some m') :
    Renumbers m a m' := by
  cases next_fires hn with
  | easyInit b q reply => exact createCurl_renumbers hs b q reply
  | setCallback => exact .same _ (by simp) .curlSetupAmxCallback
  | setOption => exact .same _ (by simp) .curlSetOption
  | easyPerform => exact .same _ (by simp) .amxCurlEasyPerform
  | easyCleanup => exact removeTask_renumbers
  | easyReset => exact .same _ (by simp) .curlReset
  | addReturn => exact .same _ (by simp) (SameNumbers.pop .performAdded)
  | removeReturn => exact .same _ (by simp) (SameNumbers.pop .performRemoved)
  | callback => exact .same _ (by simp) .callback
  | readMessage => exact .same _ (by simp) .checkMultiInfo
  | dataCallbackReturn => exact .same _ (by simp) (SameNumbers.pop .dataCallbackReturn)
  | sweep order hstack hph ho =>
      obtain ⟨hs, hback, hflags, hleft⟩ := sweep_givesBack (m := m) order
      refine .giveBack _ hs (by simp) hback fun order' ho' n o hno => ?_
      rw [hflags o]
      refine hleft n ?_ o hno
      have hlive : m.amxCurl.lookup n = some o := by
        rw [hback.amxCurl] at hno
        split at hno
        · simp at hno
        · exact hno
      rw [← List.mem_toFinset, ho.2, Finmap.mem_keys]
      exact Finmap.mem_of_lookup_eq_some hlive
  | drained =>
      refine .same _ (by simp) ?_
      split <;> exact ⟨rfl, rfl⟩
  | teardown order m' hstack ht => exact ht.renumbers
  | _ => exact .same _ (by simp) ⟨rfl, rfl⟩

theorem GivesBack.used {hs : List AmxCurlHandle} (hb : GivesBack m hs m') :
    m'.pool.used = m.pool.used \ hs.toFinset := by
  ext n
  rw [Finset.mem_sdiff, List.mem_toFinset, mem_pool, mem_pool, hb.amxCurl]
  split <;> simp [*]

theorem pool_eq {ks : Finset AmxCurlHandle} {l : List AmxCurlHandle}
    (hk : m'.amxCurl.keys = ks) (hl : m'.freeHandles = l) : m'.pool = ⟨ks, l⟩ := by
  unfold pool
  rw [hk, hl]

theorem Renumbers.turn {a : Action} (hr : Renumbers m a m') :
    Pool.Turn (0 < ·) m.pool m'.pool := by
  cases hr with
  | same a ha hs =>
      rw [pool_eq (congrArg Finmap.keys hs.1) hs.2]
      exact .refl
  | issue b e hn hf =>
      rw [pool_eq ((congrArg Finmap.keys hn).trans (keys_insert ..)) hf]
      exact .issue _ _ getCurlHandle_draws
  | lose b hn hf =>
      rw [pool_eq (congrArg Finmap.keys hn) hf]
      exact .lose _ _ getCurlHandle_draws
  | giveBack a hs ha hb hw =>
      rw [pool_eq hb.used hb.freeHandles]
      refine .giveBack hs hb.nodup fun n hn => ?_
      obtain ⟨o, ho, -⟩ := hb.idle n hn
      rw [mem_pool, ho]
      rfl
  | drop order n hn hf =>
      rw [pool_eq ((congrArg Finmap.keys hn).trans (Finmap.keys_erase ..)) hf]
      exact .drop n
  | forget order hn hf =>
      rw [pool_eq (congrArg Finmap.keys hn) hf]
      exact .forget

variable {C : AmxCurlController → Action → Prop} {tr : List Action}

theorem run_pool (h : machine.Run C tr m) : m.pool.Sound (0 < ·) :=
  h.invariant (P := fun m => m.pool.Sound (0 < ·)) .empty
    fun _ _ _ hs _ hn => hs.turn (next_renumbers hs hn).turn

/-- A number names what it named before, or the handle that is new. -/
theorem Renumbers.live {a : Action} (hr : Renumbers m a m') {n : AmxCurlHandle}
    (ho : m'.amxCurl.lookup n = some o) : m.amxCurl.lookup n = some o ∨
      o = m.objs.next ∧ ∃ b e, a = .easyInit b (some e) := by
  cases hr with
  | same a ha hs => exact Or.inl (hs.1 ▸ ho)
  | issue b e hn hf =>
      rw [hn] at ho
      rcases Table.lookup_insert_eq_some.mp ho with ⟨-, rfl⟩ | ⟨-, ho⟩
      · exact Or.inr ⟨rfl, b, e, rfl⟩
      · exact Or.inl ho
  | lose b hn hf => exact Or.inl (hn ▸ ho)
  | giveBack a hs ha hb hw =>
      rw [hb.amxCurl] at ho
      split at ho
      · simp at ho
      · exact Or.inl ho
  | drop order k hn hf =>
      rw [hn] at ho
      exact Or.inl (Table.lookup_erase_eq_some.mp ho).2
  | forget order hn hf => exact Or.inl (hn ▸ ho)

/-- A handle that is destroyed is not known any more. -/
theorem next_destroys {a : Action} (hn : m.next a = some m') (hh : m.amxCurl.lookup h = some o)
    (hd : m.Destroys h o a) : m'.amxCurl.lookup h = none := by
  cases next_fires hn with
  | easyCleanup h' hp =>
      obtain ⟨rfl, hidle⟩ := hd
      have hback : GivesBack m [h'] (m.removeTask h') := by
        unfold removeTask
        rw [hh]
        dsimp only
        rw [if_neg (by simp [hidle])]
        exact .one hh hidle
      rw [hback.amxCurl, if_pos (List.mem_singleton.mpr rfl)]
  | sweep order hs hph ho =>
      obtain ⟨hmem, hdue⟩ := hd
      obtain ⟨hs, hback, -, hleft⟩ := sweep_givesBack (m := m) order
      cases hgone : (m.sweepDeferredCleanups order).amxCurl.lookup h with
      | none => rfl
      | some o' =>
          have hsame : m.amxCurl.lookup h = some o' := by
            rw [hback.amxCurl] at hgone
            split at hgone
            · simp at hgone
            · exact hgone
          obtain rfl := Option.some.inj (hh.symm.trans hsame)
          exact absurd hdue (hleft h hmem o hgone)
  | teardown order m' hs ht =>
      obtain ⟨actor, todo, hph⟩ := hd
      cases ht with
      | drop actor' h' todo' hph' =>
          have heq : Phase.clearing actor (h :: todo) = .clearing actor' (h' :: todo') :=
            hph.symm.trans hph'
          obtain ⟨-, rfl, -⟩ := by simpa using heq
          show (m.dropEntry h).amxCurl.lookup h = none
          unfold dropEntry
          rw [hh]
          dsimp only
          rw [SameNumbers.destroyAmxCurl.1]
          exact Finmap.lookup_erase ..
      | visit actor' h' todo' hph' => simp [hph] at hph'
      | clear actor' hph' ho => simp [hph] at hph'
      | cleared hph' => simp [hph] at hph'
      | clearedByGuard hph' ho => simp [hph] at hph'
      | destructed hph' => simp [hph] at hph'
      | shutdown hph' => simp [hph] at hph'
      | shutdownLast actor' hph' ha => simp [hph] at hph'
      | globalCleanup hph' => simp [hph] at hph'
      | destruct hph' hd ho => simp [hph] at hph'
      | guard hph' hd ho => simp [hph] at hph'
  | _ => exact absurd hd not_false

/-- What a sweep destroys was to be destroyed when it began. -/
theorem sweep_lost {order : List AmxCurlHandle} : ∀ {m : AmxCurlController},
    m.amxCurl.lookup h = some o → (m.sweepDeferredCleanups order).amxCurl.lookup h ≠ some o →
      m.Destroys h o (.sweep order) := by
  unfold sweepDeferredCleanups
  induction order with
  | nil =>
      intro m hh hlost
      exact absurd hh hlost
  | cons k order ih =>
      intro m hh hlost
      rw [List.foldl_cons] at hlost
      rcases sweepOne_plugins (m := m) (h := k) with hone | ⟨o', free, hk, hdef, hidle, hone⟩
      · rw [hone] at hlost
        obtain ⟨hmem, hrest⟩ := ih hh hlost
        exact ⟨List.mem_cons_of_mem _ hmem, hrest⟩
      · by_cases hkh : h = k
        · subst hkh
          obtain rfl := Option.some.inj (hh.symm.trans hk)
          exact ⟨List.mem_cons_self .., hdef, hidle⟩
        · obtain ⟨hcurl, hflags⟩ := destroyAmxCurl_obj
            (m := { m with amxCurl := m.amxCurl.erase k, freeHandles := free }) (o := o') o
          have hh' : (m.sweepOne k).amxCurl.lookup h = some o := by
            rw [hone, hcurl]
            exact Table.lookup_erase_eq_some.mpr ⟨hkh, hh⟩
          obtain ⟨hmem, hdef', hidle'⟩ := ih hh' hlost
          rw [hone] at hdef' hidle'
          exact ⟨List.mem_cons_of_mem _ hmem, hflags.1 ▸ hdef', hflags.2 ▸ hidle'⟩

/-- Only a handle that is destroyed is not known any more. -/
theorem next_lost {a : Action} (hs : m.pool.Sound (0 < ·)) (hn : m.next a = some m')
    (hh : m.amxCurl.lookup h = some o) (hlost : m'.amxCurl.lookup h ≠ some o) :
    m.Destroys h o a := by
  have hsame : ∀ {m₁ : AmxCurlController}, m₁.amxCurl.lookup h ≠ some o → SameNumbers m m₁ →
      m.Destroys h o a := fun hlost hsame => absurd (hsame.1 ▸ hh) hlost
  cases next_fires hn with
  | easyInit b q reply =>
      have hnew : m.amxCurl.lookup m.getCurlHandle.1 = none := by
        have hnew := (hs.draws getCurlHandle_draws).2.1
        rwa [mem_pool, Option.not_isSome_iff_eq_none] at hnew
      cases reply with
      | none =>
          refine absurd ?_ hlost
          rcases m.createCurl_lost b q with heq | ⟨-, heq⟩ <;> rw [heq] <;> exact hh
      | some e =>
          refine absurd ?_ hlost
          unfold createCurl
          dsimp only
          split
          · rename_i o' ho'
            exact absurd (hnew.symm.trans ho') (by simp)
          · refine Table.lookup_insert_eq_some.mpr (Or.inr ⟨?_, hh⟩)
            rintro rfl
            rw [hnew] at hh
            nomatch hh
  | setCallback => exact hsame hlost .curlSetupAmxCallback
  | setOption => exact hsame hlost .curlSetOption
  | easyPerform => exact hsame hlost .amxCurlEasyPerform
  | easyCleanup k =>
      unfold removeTask at hlost
      split at hlost
      · exact absurd hh hlost
      · rename_i o' hk
        split at hlost
        · exact absurd hh hlost
        · rename_i hidle
          rw [(GivesBack.one hk (Bool.eq_false_iff.mpr hidle)).amxCurl] at hlost
          by_cases hkh : h = k
          · subst hkh
            obtain rfl := Option.some.inj (hh.symm.trans hk)
            exact ⟨rfl, Bool.eq_false_iff.mpr hidle⟩
          · exact absurd ((if_neg (by simpa using hkh)).trans hh) hlost
  | easyReset => exact hsame hlost .curlReset
  | addReturn => exact hsame hlost (SameNumbers.pop .performAdded)
  | removeReturn => exact hsame hlost (SameNumbers.pop .performRemoved)
  | callback => exact hsame hlost .callback
  | readMessage => exact hsame hlost .checkMultiInfo
  | dataCallbackReturn => exact hsame hlost (SameNumbers.pop .dataCallbackReturn)
  | sweep order hstack hph ho => exact sweep_lost hh hlost
  | drained =>
      refine hsame hlost ?_
      split <;> exact ⟨rfl, rfl⟩
  | teardown order m' hstack ht =>
      cases ht with
      | visit actor n todo => exact hsame hlost .removeTransfer
      | drop actor n todo hph =>
          by_cases hn : h = n
          · exact hn ▸ ⟨actor, todo, hph⟩
          · refine absurd ?_ hlost
            show (m.dropEntry n).amxCurl.lookup h = some o
            unfold dropEntry
            split
            · exact hh
            · rw [(SameNumbers.destroyAmxCurl).1]
              exact Table.lookup_erase_eq_some.mpr ⟨hn, hh⟩
      | shutdown => exact hsame hlost .shutdown
      | shutdownLast => exact hsame hlost .shutdown
      | _ => exact absurd hh hlost
  | _ => exact hsame hlost ⟨rfl, rfl⟩

/-! ### Handle numbers over a whole run -/

/-- What a step may do to handle numbers. -/
structure Renumbered (m : AmxCurlController) (a : Action) (m' : AmxCurlController) : Prop where
  /-- A number comes into use as what `curl_easy_init` returns. -/
  issued : ∀ n, m.amxCurl.lookup n = none → (m'.amxCurl.lookup n).isSome →
    ∃ b q e, a = .easyInit b (some e) ∧ n = (m.amxCurlEasyInit b q (some e)).2
  /-- A number in use names the same handle or none. -/
  bound : ∀ n o, m.amxCurl.lookup n = some o →
    m'.amxCurl.lookup n = none ∨ m'.amxCurl.lookup n = some o
  /-- Only an idle handle is destroyed, unless everything is. -/
  idle : ∀ n o, m.amxCurl.lookup n = some o → m'.amxCurl.lookup n = none →
    (m.obj o).isTransferInProgress = false ∨ ∃ order, a = .teardown order
  swept : ∀ order, a = .sweep order → ∀ n o, m'.amxCurl.lookup n = some o → ¬m'.Sweepable o
  /-- The queue loses what is issued, and gets each number whose handle is destroyed, once. -/
  pushed : (∀ order, a ≠ .teardown order) → ∃ taken rest pushed,
    m.freeHandles = taken ++ rest ∧ m'.freeHandles = rest ++ pushed ∧ pushed.Nodup ∧
      ∀ n, n ∈ pushed ↔ (m.amxCurl.lookup n).isSome ∧ m'.amxCurl.lookup n = none
  /-- Handles destroyed with the map give no number back; the queue is kept or emptied. -/
  removed : (∃ order, a = .teardown order) →
    m'.freeHandles = m.freeHandles ∨ m'.freeHandles = []

/-- A step after which every number in use is in use as before. -/
theorem Renumbered.keep {a : Action} (taken : List AmxCurlHandle) (ha : ∀ order, a ≠ .sweep order)
    (hn : m'.amxCurl = m.amxCurl) (hf : m.freeHandles = taken ++ m'.freeHandles)
    (hdown : (∃ order, a = .teardown order) → m'.freeHandles = m.freeHandles) :
    Renumbered m a m' where
  issued := by
    intro n hnone hsome
    rw [hn, hnone] at hsome
    simp at hsome
  bound := by
    intro n o ho
    exact Or.inr (hn ▸ ho)
  idle := by
    intro n o ho hnone
    rw [hn, ho] at hnone
    simp at hnone
  swept := fun order ho => absurd ho (ha order)
  pushed := by
    intro _
    refine ⟨taken, m'.freeHandles, [], hf, by simp, List.nodup_nil, fun n => ?_⟩
    rw [hn]
    cases m.amxCurl.lookup n <;> simp
  removed := fun hd => Or.inl (hdown hd)

/-- A step that puts numbers out of use and brings none into use. -/
theorem Renumbered.free {a : Action} (hs : List AmxCurlHandle)
    (hn : ∀ n, m'.amxCurl.lookup n = if n ∈ hs then none else m.amxCurl.lookup n)
    (hidle : ∀ n o, n ∈ hs → m.amxCurl.lookup n = some o →
      (m.obj o).isTransferInProgress = false ∨ ∃ order, a = .teardown order)
    (hsweep : ∀ order, a = .sweep order → ∀ n o, m'.amxCurl.lookup n = some o → ¬m'.Sweepable o)
    (hpush : (∀ order, a ≠ .teardown order) → hs.Nodup ∧ (∀ n ∈ hs, (m.amxCurl.lookup n).isSome) ∧
      m'.freeHandles = m.freeHandles ++ hs)
    (hdown : (∃ order, a = .teardown order) →
      m'.freeHandles = m.freeHandles ∨ m'.freeHandles = []) : Renumbered m a m' where
  issued := by
    intro n hnone hsome
    rw [hn, hnone] at hsome
    simp at hsome
  bound := by
    intro n o ho
    rw [hn]
    split
    · exact Or.inl rfl
    · exact Or.inr ho
  idle := by
    intro n o ho hnone
    refine hidle n o ?_ ho
    by_contra hmem
    rw [hn, if_neg hmem, ho] at hnone
    simp at hnone
  swept := hsweep
  pushed := by
    intro hnot
    obtain ⟨hnodup, hused, hfree⟩ := hpush hnot
    refine ⟨[], m.freeHandles, hs, rfl, hfree, hnodup, fun n => ⟨fun hmem => ?_, fun hg => ?_⟩⟩
    · exact ⟨hused n hmem, by rw [hn, if_pos hmem]⟩
    · by_contra hmem
      rw [hn, if_neg hmem] at hg
      rw [hg.2] at hg
      simp at hg
  removed := hdown

theorem Renumbers.renumbered {a : Action} (hs : m.pool.Sound (0 < ·)) (hr : Renumbers m a m') :
    Renumbered m a m' := by
  have hdraw : ∃ taken, m.freeHandles = taken ++ m.getCurlHandle.2 := by
    rcases getCurlHandle_draws (m := m) with hfree | ⟨hfree, hrest, -⟩
    · exact ⟨[m.getCurlHandle.1], hfree⟩
    · exact ⟨[], hfree.trans hrest.symm⟩
  obtain ⟨taken, htaken⟩ := hdraw
  cases hr with
  | same a ha hs => exact .keep [] ha hs.1 hs.2.symm fun _ => hs.2
  | lose b hn hf => exact .keep taken (by simp) hn (hf ▸ htaken) (by simp)
  | issue b e hn hf =>
      have hnew : m.amxCurl.lookup m.getCurlHandle.1 = none := by
        have hnew := (hs.draws getCurlHandle_draws).2.1
        rwa [mem_pool, Option.not_isSome_iff_eq_none] at hnew
      have hold : ∀ n, n ≠ m.getCurlHandle.1 → m'.amxCurl.lookup n = m.amxCurl.lookup n := by
        intro n hne
        rw [hn]
        exact Finmap.lookup_insert_of_ne _ hne
      refine ⟨fun n hnone hsome => ?_, fun n o ho => Or.inr ?_, fun n o ho hnone => ?_, by simp,
        fun _ => ⟨taken, m'.freeHandles, [], hf ▸ htaken, by simp, List.nodup_nil, fun n => ?_⟩,
        by simp⟩
      · by_cases heq : n = m.getCurlHandle.1
        · exact ⟨b, 0, e, rfl, heq⟩
        · rw [hold n heq, hnone] at hsome
          simp at hsome
      · rw [hold n ?_]
        · exact ho
        · rintro rfl
          rw [hnew] at ho
          simp at ho
      · by_cases heq : n = m.getCurlHandle.1
        · rw [heq, hnew] at ho
          simp at ho
        · rw [hold n heq, ho] at hnone
          simp at hnone
      · by_cases heq : n = m.getCurlHandle.1
        · rw [heq, hnew]
          simp
        · rw [hold n heq]
          cases m.amxCurl.lookup n <;> simp
  | giveBack a hs ha hb hw =>
      refine .free hs hb.amxCurl (fun n o hmem ho => Or.inl ?_) hw
        (fun _ => ⟨hb.nodup, fun n hmem => ?_, hb.freeHandles⟩) fun ⟨order, ho⟩ => absurd ho (ha order)
      · obtain ⟨o', ho', hidle⟩ := hb.idle n hmem
        obtain rfl := Option.some.inj (ho.symm.trans ho')
        exact hidle
      · obtain ⟨o, ho, -⟩ := hb.idle n hmem
        rw [ho]
        rfl
  | drop order n hn hf =>
      refine .free [n] (fun k => ?_) (fun _ _ _ _ => Or.inr ⟨order, rfl⟩) (by simp)
        (fun hnot => absurd rfl (hnot order)) fun _ => Or.inl hf
      rw [hn, Table.lookup_erase_if]
      simp
  | forget order hn hf =>
      exact .free [] (by simp [hn]) (by simp) (by simp)
        (fun hnot => absurd rfl (hnot order)) fun _ => Or.inr hf

/--
**Handle numbers are unique.**  In every state `curl_easy_init` returns a positive number
that nothing is known by, no number is queued twice or while it is in use, and no step
does more to the numbers than `Renumbered` says.
-/
theorem handles_unique (h : machine.Run C tr m) :
    (∀ b q e, 0 < (m.amxCurlEasyInit b q (some e)).2 ∧
      m.amxCurl.lookup (m.amxCurlEasyInit b q (some e)).2 = none) ∧
    m.freeHandles.Nodup ∧ (∀ n ∈ m.freeHandles, m.amxCurl.lookup n = none) ∧
    ∀ a m', m.next a = some m' → m.Renumbered a m' := by
  have hs := run_pool h
  have hout : ∀ n, n ∉ m.pool.used → m.amxCurl.lookup n = none := by
    intro n hn
    rwa [mem_pool, Option.not_isSome_iff_eq_none] at hn
  obtain ⟨hpos, hnew, -⟩ := hs.draws getCurlHandle_draws
  exact ⟨fun b q e => ⟨hpos, hout _ hnew⟩, hs.nodup, fun n hn => hout n (hs.apart n hn),
    fun a m' hn => (next_renumbers hs hn).renumbered hs⟩

/-- Two handles are made; one is cleaned up, and its number issued again. -/
def reissued : AmxCurlController :=
  (machine.exec Machine.Free boot [.load 7, .easyInit 7 (some 100), .easyInit 7 (some 101),
    .easyCleanup 1, .easyInit 7 (some 102)]).get (by decide)

theorem handles_unique_reissued : reissued.freeHandles.Nodup ∧
    0 < (reissued.amxCurlEasyInit 7 0 (some 103)).2 := by
  have hrun : machine.Run Machine.Free _ reissued := Machine.run_of_exec (Option.some_get _).symm
  have h := handles_unique hrun
  exact ⟨h.2.1, (h.1 7 0 103).1⟩

/-- `RemoveAllTasks` is about to destroy handle 1. -/
def clearing : AmxCurlController :=
  (machine.exec Machine.Free boot [.load 7, .easyInit 7 (some 100), .onAmxxDetach,
    .drained false [1], .teardown [], .teardown [1]]).get (by decide)

/-- It destroys it, and its number is queued neither then nor when it is done. -/
theorem removed_not_pushed : (∃ tr, machine.Run Machine.Free tr clearing) ∧
    clearing.amxCurl.lookup 1 = some 0 ∧ clearing.freeHandles = [] ∧
    ∃ m₁ m₂, clearing.next (.teardown []) = some m₁ ∧ m₁.amxCurl.lookup 1 = none ∧
      m₁.freeHandles = [] ∧ m₁.next (.teardown []) = some m₂ ∧ m₂.freeHandles = [] := by
  refine ⟨⟨_, Machine.run_of_exec (Option.some_get _).symm⟩, by decide, by decide, ?_⟩
  exact ⟨(clearing.next (.teardown [])).get (by decide),
    (((clearing.next (.teardown [])).get (by decide)).next (.teardown [])).get (by decide),
    (Option.some_get _).symm, by decide, by decide, (Option.some_get _).symm, by decide⟩

end AmxCurlController

end AmxxCurl
