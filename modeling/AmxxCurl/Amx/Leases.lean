/-
Forwards as leases.

While the plugin of every handle is there, the ids that options hold are registered for
them, and no two of them are the same (`Housed`).  So a data callback executes an id that
was registered for it, `SetupAmxCallback` and the destructor give back what they hold, and
what is held at any time is what has been acquired and not yet released.
-/
import AmxxCurl.Amx.Forwards

namespace AmxxCurl

open AmxCurlController
open Transfers (Records)
open Plugins (Sound)

namespace AmxCurlController

variable {m m' : AmxCurlController} {a : Action} {o : ObjId} {h : AmxCurlHandle}
  {c : CallbackOption} {f : ForwardId × PluginId}

/-! ### Plugins that outlive their handles -/

/--
Until the module is detached no plugin is unloaded while a handle of its is left; after
that, none calls a native.
-/
def Hosted (m : AmxCurlController) : Action → Prop
  | .unload b =>
      m.isDetached = true ∨ ∀ h ∈ m.amxCurl.keys, ∀ o ∈ m.amxCurl.lookup h, (m.obj o).amx ≠ b
  | a => m.NativesBeforeDetach a

instance (m : AmxCurlController) (a : Action) : Decidable (m.Hosted a) := by
  unfold Hosted
  split <;> infer_instance

theorem Hosted.natives (ha : m.Hosted a) : m.NativesBeforeDetach a := by
  cases a with
  | unload b => exact fun hn => nomatch hn
  | _ => exact ha

theorem Hosted.unload {b : AmxPtr} (ha : m.Hosted (.unload b)) (hd : m.isDetached = false)
    (hh : m.amxCurl.lookup h = some o) : (m.obj o).amx ≠ b := by
  rcases ha with hdet | hall
  · rw [hd] at hdet
    nomatch hdet
  · exact hall h (Finmap.mem_keys.mpr (Finmap.mem_of_lookup_eq_some hh)) o hh

/-- Every handle belongs to a plugin that is there, and every forward to a handle. -/
structure Housed (m : AmxCurlController) : Prop where
  sound : m.plugins.Sound
  home : ∀ ⦃h o⦄, m.amxCurl.lookup h = some o →
    m.amxx.loaded (m.obj o).amx = some (m.obj o).creator
  live : ∀ ⦃o c f⦄, (m.obj o).registeredCallbacks c = some f → ∃ h, m.amxCurl.lookup h = some o

namespace Housed

/-- An id that an option has is registered, for the plugin of the handle. -/
theorem holds (hm : m.Housed) (hf : (m.obj o).registeredCallbacks c = some f) :
    m.plugins.Holds o c f := by
  obtain ⟨h, hh⟩ := hm.live hf
  have hmine : f.2 = (m.obj o).creator := hm.sound.mine (o := o) hf (hm.home hh)
  exact ⟨hf, by rw [hmine]; exact hm.home hh⟩

theorem registered (hm : m.Housed) (hf : (m.obj o).registeredCallbacks c = some f) :
    m.amxx.forwards f.1 = some f.2 :=
  hm.sound.held (hm.holds hf)

theorem valid (hm : m.Housed) (hd : m.isDetached = false) (hh : m.amxCurl.lookup h = some o) :
    m.valid o = true := by
  unfold AmxCurlController.valid
  rw [hd, hm.home hh]
  rfl

/-- An object libcurl calls back for, or a completion, is of a handle that is known. -/
theorem reached_live (hr : Records m.transfers) (hn : m.next a = some m') (ho : o ∈ m.reached a) :
    ∃ h, m.amxCurl.lookup h = some o := by
  cases next_fires hn with
  | removeReturn f o' p res rest hs hf =>
      simp only [reached, hs] at ho
      split at ho
      · exact absurd ho (Option.not_mem_none o)
      · obtain rfl := Option.some.inj ho
        have htask : (o', .removing p res) ∈ m.transfers.tasks := by
          show _ ∈ m.stack.filterMap Frame.task
          rw [hs]
          exact List.mem_cons_self ..
        exact (hr.busy htask).1
  | callback o' k hl he =>
      simp only [reached] at ho
      split at ho
      · exact absurd ho (Option.not_mem_none o)
      · obtain rfl := Option.some.inj ho
        exact (hr.easy.mp he).1
  | _ => exact absurd ho (Option.not_mem_none o)

theorem unmistaken (hm : m.Housed) (hr : Records m.transfers) (hn : m.next a = some m') :
    m.Unmistaken a := by
  constructor
  · intro o ho q hq
    obtain ⟨h, hh⟩ := reached_live hr hn ho
    exact Option.some.inj (hq.symm.trans (hm.home hh))
  · intro h _ o hh c _ _ f hf q hq
    have hheld := hm.registered (o := o) (c := c) hf
    exact Option.some.inj (hq.symm.trans hheld)

end Housed

/-! ### What a step keeps -/

/-- Destroying objects loads and unloads nobody, and returns from no call. -/
theorem foldl_destroy_same (os : List ObjId) : ∀ p : Plugins,
    (os.foldl Plugins.destroy p).amxx.loaded = p.amxx.loaded ∧
      (os.foldl Plugins.destroy p).isDetached = p.isDetached ∧
      (os.foldl Plugins.destroy p).pawn = p.pawn := by
  induction os with
  | nil => exact fun p => ⟨rfl, rfl, rfl⟩
  | cons o os ih =>
      intro p
      obtain ⟨hl, hd, hp⟩ := ih (p.destroy o)
      exact ⟨hl.trans p.destroy_loaded, hd.trans p.destroy_isDetached, hp.trans p.destroy_pawn⟩

/-- A plugin that is loaded stays where it is until it is unloaded. -/
theorem Change.loaded {p : Plugins} (hc : Change m a p) {b : AmxPtr} {q : PluginId}
    (hq : m.amxx.loaded b = some q) (ha : a ≠ .unload b) : p.amxx.loaded b = some q := by
  cases hc with
  | load b' ha' hb =>
      show (m.amxx.load b' hb).loaded b = some q
      rw [Amxx.load_loaded, if_neg, hq]
      rintro rfl
      rw [hb] at hq
      nomatch hq
  | unload b' q' hb hs ha' =>
      show (m.amxx.unload b').loaded b = some q
      rw [Amxx.unload_loaded, if_neg, hq]
      rintro rfl
      exact ha ha'
  | setup h o c reply =>
      rw [Plugins.register_loaded, Plugins.drop_loaded]
      exact hq
  | reset h o =>
      rw [Plugins.release_loaded]
      exact hq
  | destroy os =>
      rw [(foldl_destroy_same os m.plugins).1]
      exact hq
  | _ => exact hq

/-- The module stays detached. -/
theorem Change.detached {p : Plugins} (hc : Change m a p) (hd : m.isDetached = true) :
    p.isDetached = true := by
  have hdrop : ∀ {p : Plugins} {o : ObjId} {c : CallbackOption},
      (p.drop o c).isDetached = p.isDetached := by
    intro p o c
    unfold Plugins.drop
    split <;> rfl
  have hregister : ∀ {p : Plugins} {o : ObjId} {c : CallbackOption} {reply : Option ForwardId},
      (p.register o c reply).isDetached = p.isDetached := by
    intro p o c reply
    rcases p.register_cases o c reply with ⟨q, f, -, -, heq⟩ | heq <;> rw [heq] <;> rfl
  cases hc with
  | setup h o c reply =>
      rw [hregister, hdrop]
      exact hd
  | destroy os =>
      rw [(foldl_destroy_same os m.plugins).2.1]
      exact hd
  | detach => rfl
  | _ => exact hd

theorem destroyed_forwards (x : AmxCurl) (v : Bool) :
    (x.destroyed v).registeredCallbacks = fun _ => none := by
  cases v <;> rfl

theorem answered_forwards {k : Callback} :
    (m.answered o k).registeredCallbacks = (m.obj o).registeredCallbacks := by
  unfold answered
  dsimp only
  split
  · rfl
  · split
    · rfl
    · rfl
    · split <;> rfl

/-! ### Which forwards an object has after a step -/

/-- The objects that give up all their forwards. -/
def releasedBy (m : AmxCurlController) : Action → List ObjId
  | .easyCleanup h => ((m.amxCurl.lookup h).filter fun o => m.Idle h o).toList
  | .easyReset h => ((m.amxCurl.lookup h).filter fun o => m.Idle h o).toList
  | .sweep order => order.filterMap fun h => (m.amxCurl.lookup h).filter fun o => m.Due h o
  | .teardown _ =>
      match m.phase with
      | .clearing _ (h :: _) => (m.amxCurl.lookup h).toList
      | _ => []
  | _ => []

theorem mem_filter_idle : o ∈ ((m.amxCurl.lookup h).filter fun o => m.Idle h o).toList ↔
    m.Idle h o := by
  rw [Option.mem_toList, Option.filter_eq_some_iff, decide_eq_true_eq]
  exact and_iff_right_of_imp fun hidle => hidle.1

theorem mem_released_sweep {order : List AmxCurlHandle} :
    o ∈ m.releasedBy (.sweep order) ↔ ∃ h ∈ order, m.Due h o := by
  unfold releasedBy
  rw [List.mem_filterMap]
  refine exists_congr fun h => and_congr_right fun _ => ?_
  rw [Option.filter_eq_some_iff, decide_eq_true_eq]
  exact and_iff_right_of_imp fun hdue => hdue.1.1

/-- What is destroyed gives up its forwards. -/
theorem Destroys.released (hh : m.amxCurl.lookup h = some o) (hd : m.Destroys h o a) :
    o ∈ m.releasedBy a := by
  cases a with
  | easyCleanup k =>
      obtain ⟨rfl, hidle⟩ := hd
      exact mem_filter_idle.mpr ⟨hh, hidle⟩
  | sweep order =>
      obtain ⟨hmem, hdef, hidle⟩ := hd
      exact mem_released_sweep.mpr ⟨h, hmem, ⟨hh, hidle⟩, hdef⟩
  | teardown order =>
      obtain ⟨actor, todo, hph⟩ := hd
      simp only [releasedBy, hph]
      rw [hh]
      exact List.mem_singleton.mpr rfl
  | _ => exact absurd hd not_false

theorem released_registered (hr : o ∈ m.releasedBy a) :
    (m.after a o).registeredCallbacks = fun _ => none := by
  cases a with
  | easyCleanup h =>
      simp only [after]
      rw [if_pos (mem_filter_idle.mp hr)]
      exact destroyed_forwards ..
  | easyReset h =>
      simp only [after]
      rw [if_pos (mem_filter_idle.mp hr)]
      rfl
  | sweep order =>
      simp only [after]
      rw [if_pos (mem_released_sweep.mp hr)]
      exact destroyed_forwards ..
  | teardown order =>
      simp only [releasedBy] at hr
      split at hr
      · rename_i actor h todo hph
        simp only [after, hph]
        rw [if_pos (Option.mem_toList.mp hr)]
        exact destroyed_forwards ..
      · exact absurd hr List.not_mem_nil
  | _ => exact absurd hr List.not_mem_nil

/-- The step sets up an option of the object. -/
def SetsUp (m : AmxCurlController) (o : ObjId) (a : Action) : Prop :=
  ∃ h c reply codes, a = .setCallback h (some c) reply codes ∧ m.amxCurl.lookup h = some o

/-- What the others have stays as it is. -/
theorem kept_registered (hr : o ∉ m.releasedBy a) (hs : ¬m.SetsUp o a)
    (hnew : ∀ b e, a = .easyInit b (some e) → o ≠ m.objs.next) :
    (m.after a o).registeredCallbacks = (m.obj o).registeredCallbacks := by
  cases a with
  | easyInit b reply =>
      simp only [after]
      split
      · rw [if_neg (hnew b _ rfl)]
      · rfl
  | setCallback h c reply codes =>
      cases c with
      | none => rfl
      | some c =>
          simp only [after]
          rw [if_neg fun hh => hs ⟨h, c, reply, codes, rfl, hh⟩]
  | setOption h d =>
      cases d with
      | none => rfl
      | some d =>
          simp only [after]
          split <;> rfl
  | easyPerform h found fun_ dataLen =>
      simp only [after]
      split
      · cases found <;> rfl
      · rfl
  | easyCleanup h =>
      simp only [after]
      rw [if_neg fun hidle => hr (mem_filter_idle.mpr hidle)]
      split <;> rfl
  | easyReset h =>
      simp only [after]
      rw [if_neg fun hidle => hr (mem_filter_idle.mpr hidle)]
  | addReturn ok =>
      simp only [after]
      split
      · split
        · cases ok <;> rfl
        · rfl
      · rfl
  | removeReturn f =>
      simp only [after]
      split
      · split <;> rfl
      · rfl
  | callback o' k =>
      simp only [after]
      split
      · exact answered_forwards
      · rfl
  | sweep order =>
      simp only [after]
      rw [if_neg fun hdue => hr (mem_released_sweep.mpr hdue)]
  | teardown order =>
      simp only [after]
      split
      · rename_i actor h todo hph
        rw [if_neg]
        intro hh
        refine hr ?_
        simp only [releasedBy, hph]
        exact Option.mem_toList.mpr hh
      · rfl
  | _ => rfl

/-- A handle that does not give up its forwards stays. -/
theorem live_kept (hs : m.pool.Sound (0 < ·)) (hn : m.next a = some m')
    (hh : m.amxCurl.lookup h = some o) (hr : o ∉ m.releasedBy a) : m'.amxCurl.lookup h = some o :=
  by_contra fun hlost => hr ((next_lost hs hn hh hlost).released hh)

theorem Housed.next (hm : m.Housed) (hr : Records m.transfers) (hs : m.pool.Sound (0 < ·))
    (hd : m.isDetached = false) (ha : m.Hosted a) (hn : m.next a = some m') : m'.Housed where
  sound := (next_plugins hn).sound hr (hm.unmistaken hr hn) hm.sound
  home := by
    intro h o hh
    rw [next_obj hn o]
    rcases (next_renumbers hs hn).live hh with hh | ⟨rfl, b, e, rfl⟩
    · obtain ⟨hamx, hcreator, -⟩ := after_owner (a := a) (Nat.ne_of_lt (hr.objLt ⟨h, hh⟩))
      rw [hamx, hcreator]
      refine (next_plugins hn).loaded (hm.home hh) ?_
      rintro rfl
      exact ha.unload hd hh rfl
    · obtain ⟨q, hq, hnew⟩ := next_new hn
      rw [← next_obj hn, hnew]
      exact (next_plugins hn).loaded hq (by simp)
  live := by
    intro o c f hf
    rw [next_obj hn o] at hf
    by_cases hrel : o ∈ m.releasedBy a
    · rw [released_registered hrel] at hf
      nomatch hf
    by_cases hset : m.SetsUp o a
    · obtain ⟨h, c', reply, codes, rfl, hh⟩ := hset
      exact ⟨h, live_kept hs hn hh hrel⟩
    by_cases hnew : ∃ b e, a = .easyInit b (some e) ∧ o = m.objs.next
    · obtain ⟨b, e, rfl, rfl⟩ := hnew
      obtain ⟨q, -, hobj⟩ := next_new hn
      rw [← next_obj hn, hobj] at hf
      nomatch hf
    · rw [kept_registered hrel hset fun b e ha ho => hnew ⟨b, e, ha, ho⟩] at hf
      obtain ⟨h, hh⟩ := hm.live hf
      exact ⟨h, live_kept hs hn hh hrel⟩

/-! ### Who holds what -/

/-- Somebody relies on the id: an option, or an `OnPerformComplete` that has not returned. -/
def Holding (m : AmxCurlController) (i : ForwardId) : ForwardUser → Prop
  | .option o c => ∃ q, (m.obj o).registeredCallbacks c = some (i, q)
  | .completion => ∃ b q data, Frame.completion b q i data ∈ m.stack

theorem holding_option {i : ForwardId} : m.Holding i (.option o c) ↔
    ((m.obj o).registeredCallbacks c).map Prod.fst = some i := by
  rw [Option.map_eq_some_iff]
  constructor
  · rintro ⟨q, hf⟩
    exact ⟨(i, q), hf, rfl⟩
  · rintro ⟨f, hf, rfl⟩
    exact ⟨f.2, hf⟩

/-- What is leased is what somebody relies on. -/
def Accounted (m : AmxCurlController) (held : ForwardId → Option ForwardUser) : Prop :=
  ∀ i u, held i = some u ↔ m.Holding i u

/-- The calls of `a` are legal, and lead to what is relied on in `m'`. -/
def Leased (m : AmxCurlController) (held : ForwardId → Option ForwardUser) (a : Action)
    (m' : AmxCurlController) : Prop :=
  ∃ held', Lease.Legal held ((m.forwardCalls a).filterMap ForwardCall.lease) held' ∧
    m'.Accounted held'

theorem mem_pawn {b : AmxPtr} {q : PluginId} {i : ForwardId} {data : Option DataId} :
    Frame.completion b q i data ∈ m.plugins.pawn ↔ Frame.completion b q i data ∈ m.stack := by
  show _ ∈ m.stack.filter _ ↔ _
  rw [List.mem_filter]
  exact and_iff_left rfl

/-- The completions that have not returned change with two actions only. -/
theorem Change.completions {p : Plugins} (hc : Change m a p) (hpawn : ∀ r, a ≠ .pawnReturn r)
    (hremove : ∀ f, a ≠ .removeReturn f) {b : AmxPtr} {q : PluginId} {i : ForwardId}
    {data : Option DataId} :
    Frame.completion b q i data ∈ p.pawn ↔ Frame.completion b q i data ∈ m.plugins.pawn := by
  cases hc with
  | setup h o c reply => rw [Plugins.register_pawn, Plugins.drop_pawn]
  | destroy os => rw [(foldl_destroy_same os m.plugins).2.2]
  | complete o pid res rest q' f data' ha => exact absurd ha (hremove f)
  | completed b' q' f data' rest hs ha =>
      obtain ⟨r, ha⟩ := ha
      exact absurd ha (hpawn r)
  | executed o c q' expected rest hs ha =>
      obtain ⟨r, ha⟩ := ha
      exact absurd ha (hpawn r)
  | execute o k f expected =>
      show _ ∈ _ ++ m.plugins.pawn ↔ _
      rw [List.mem_append]
      refine or_iff_right fun hmem => ?_
      obtain ⟨q', -, he⟩ := List.mem_map.mp hmem
      nomatch he
  | _ => rfl

namespace Housed

variable {held : ForwardId → Option ForwardUser} {i : ForwardId} {u : ForwardUser}

/-- What somebody relies on is registered. -/
theorem holding_registered (hm : m.Housed) (hu : m.Holding i u) : m.amxx.forwards i ≠ none := by
  cases u with
  | option o c =>
      obtain ⟨q, hf⟩ := hu
      rw [show i = (i, q).1 from rfl, hm.registered hf]
      simp
  | completion =>
      obtain ⟨b, q, data, hmem⟩ := hu
      have hcalled : m.amxx.forwards i = some q := hm.sound.called (mem_pawn.mpr hmem)
      rw [hcalled]
      simp

/-- An id that is free is leased to nobody. -/
theorem free (hm : m.Housed) (hheld : m.Accounted held) (hi : m.amxx.forwards i = none) :
    held i = none :=
  Option.eq_none_iff_forall_ne_some.mpr fun u hu =>
    hm.holding_registered ((hheld i u).mp hu) hi

/-- A step that neither sets up nor releases anything for an object. -/
theorem kept (hm : m.Housed) (hr : Records m.transfers) (hn : m.next a = some m')
    (hrel : o ∉ m.releasedBy a) (hset : ¬m.SetsUp o a) (c : CallbackOption) :
    (m'.obj o).registeredCallbacks c = (m.obj o).registeredCallbacks c := by
  by_cases hnew : ∃ b e, a = .easyInit b (some e) ∧ o = m.objs.next
  · obtain ⟨b, e, rfl, rfl⟩ := hnew
    obtain ⟨q, -, hobj⟩ := next_new hn
    rw [hobj]
    cases hf : (m.obj m.objs.next).registeredCallbacks c with
    | none => rfl
    | some f =>
        obtain ⟨h, hh⟩ := hm.live hf
        exact absurd (hr.objLt ⟨h, hh⟩) (Nat.lt_irrefl _)
  · rw [next_obj hn o, kept_registered hrel hset fun b e ha ho => hnew ⟨b, e, ha, ho⟩]

/-- A step after which everybody relies on what they relied on. -/
theorem quiet (hheld : m.Accounted held)
    (hreg : ∀ o c, (m'.obj o).registeredCallbacks c = (m.obj o).registeredCallbacks c)
    (hframes : ∀ b q i data, Frame.completion b q i data ∈ m'.stack ↔
      Frame.completion b q i data ∈ m.stack) : m'.Accounted held := by
  intro i u
  rw [hheld i u]
  cases u with
  | option o c => exact exists_congr fun q => by rw [hreg]
  | completion =>
      exact exists_congr fun b => exists_congr fun q => exists_congr fun data =>
        (hframes b q i data).symm

/-! ### The leases of a step -/

/-- The ids that objects hold, one after the other. -/
def idsOf (m : AmxCurlController) (os : List ObjId) : List ForwardId :=
  os.flatMap fun o => (m.obj o).forwards.map Prod.fst

theorem mem_idsOf {os : List ObjId} :
    i ∈ idsOf m os ↔ ∃ o ∈ os, ∃ c, m.Holding i (.option o c) := by
  unfold idsOf
  rw [List.mem_flatMap]
  refine exists_congr fun o => and_congr_right fun _ => ?_
  rw [List.mem_map]
  constructor
  · rintro ⟨f, hf, rfl⟩
    obtain ⟨c, hc⟩ := (Owner.mem_forwards (w := (m.obj o).owner)).mp hf
    exact ⟨c, f.2, hc⟩
  · rintro ⟨c, q, hc⟩
    exact ⟨(i, q), (Owner.mem_forwards (w := (m.obj o).owner)).mpr ⟨c, hc⟩, rfl⟩

/-- No id is held twice. -/
theorem idsOf_nodup (hheld : m.Accounted held) {os : List ObjId} (hos : os.Nodup) :
    (idsOf m os).Nodup := by
  have huser : ∀ {i o c o' c'}, m.Holding i (.option o c) → m.Holding i (.option o' c') →
      o = o' ∧ c = c' := by
    intro i o c o' c' h h'
    have hsame := ((hheld i _).mpr h).symm.trans ((hheld i _).mpr h')
    simpa using hsame
  refine List.nodup_flatMap.mpr ⟨fun o _ => ?_, ?_⟩
  · have hforwards : (m.obj o).forwards.map Prod.fst =
        CallbackOption.all.filterMap fun c => ((m.obj o).registeredCallbacks c).map Prod.fst :=
      List.map_filterMap ..
    rw [hforwards]
    refine List.Nodup.filterMap ?_ (by decide)
    intro c c' i hc hc'
    obtain ⟨f, hf, rfl⟩ := Option.map_eq_some_iff.mp hc
    obtain ⟨g, hg, hgf⟩ := Option.map_eq_some_iff.mp hc'
    exact (huser ⟨f.2, hf⟩ ⟨g.2, by rw [hg, ← hgf]⟩).2
  · refine hos.pairwise_of_forall_ne fun o ho o' ho' hne i hi hi' => hne ?_
    have hi : i ∈ idsOf m [o] := by simpa [idsOf] using hi
    have hi' : i ∈ idsOf m [o'] := by simpa [idsOf] using hi'
    obtain ⟨_, ho, c, hc⟩ := mem_idsOf.mp hi
    obtain ⟨_, ho', c', hc'⟩ := mem_idsOf.mp hi'
    obtain rfl := List.mem_singleton.mp ho
    obtain rfl := List.mem_singleton.mp ho'
    exact (huser hc hc').1

/-- Objects give up what they hold, and are left with nothing. -/
theorem released (hheld : m.Accounted held) {os : List ObjId} (hos : os.Nodup)
    (hcalls : (m.forwardCalls a).filterMap ForwardCall.lease = (idsOf m os).map .release)
    (hnone : ∀ o ∈ os, ∀ c, (m'.obj o).registeredCallbacks c = none)
    (hkept : ∀ o, o ∉ os → ∀ c, (m'.obj o).registeredCallbacks c = (m.obj o).registeredCallbacks c)
    (hframes : ∀ b q i data, Frame.completion b q i data ∈ m'.stack ↔
      Frame.completion b q i data ∈ m.stack) : m.Leased held a m' := by
  have hall : ∀ i ∈ idsOf m os, held i ≠ none := by
    intro i hi
    obtain ⟨o, -, c, hc⟩ := mem_idsOf.mp hi
    rw [(hheld i _).mpr hc]
    simp
  refine ⟨_, by rw [hcalls]; exact .releases held (idsOf_nodup hheld hos) hall, fun i u => ?_⟩
  -- the users that are left are those that are no option of these objects
  have hleft : m'.Holding i u ↔ m.Holding i u ∧ ∀ o ∈ os, ∀ c, u ≠ .option o c := by
    cases u with
    | option o c =>
        by_cases ho : o ∈ os
        · refine iff_of_false ?_ fun hn => hn.2 o ho c rfl
          rintro ⟨q, hq⟩
          rw [hnone o ho c] at hq
          nomatch hq
        · have hsame : m'.Holding i (.option o c) ↔ m.Holding i (.option o c) :=
            exists_congr fun q => by rw [hkept o ho c]
          rw [hsame, and_iff_left]
          rintro o' ho' c' he
          obtain ⟨rfl, -⟩ := ForwardUser.option.inj he
          exact ho ho'
    | completion =>
        have hsame : m'.Holding i .completion ↔ m.Holding i .completion :=
          exists_congr fun b => exists_congr fun q => exists_congr fun data => hframes b q i data
        rw [hsame, and_iff_left]
        exact fun o _ c he => nomatch he
  rw [hleft]
  constructor
  · intro hu
    split at hu
    · nomatch hu
    · rename_i hi
      refine ⟨(hheld i u).mp hu, fun o ho c he => hi (mem_idsOf.mpr ⟨o, ho, c, ?_⟩)⟩
      exact he ▸ (hheld i u).mp hu
  · rintro ⟨hu, hnot⟩
    rw [if_neg]
    · exact (hheld i u).mpr hu
    · intro hi
      obtain ⟨o, ho, c, hc⟩ := mem_idsOf.mp hi
      have hsame := ((hheld i _).mpr hu).symm.trans ((hheld i _).mpr hc)
      exact hnot o ho c (Option.some.inj hsame)

theorem releaseCalls_leases {os : List ObjId} :
    (os.flatMap m.releaseCalls).filterMap ForwardCall.lease = (idsOf m os).map .release := by
  unfold idsOf
  rw [List.filterMap_flatMap, List.map_flatMap]
  refine List.flatMap_congr fun o _ => ?_
  unfold releaseCalls
  rw [List.filterMap_map, List.map_map]
  exact congrFun (List.filterMap_eq_map
    (f := fun f : ForwardId × PluginId => Lease.release (κ := ForwardUser) f.1)) _

/-- With its plugin there, an object that is destroyed gives back what it has. -/
theorem destroyCalls_eq (hm : m.Housed) (hd : m.isDetached = false)
    (hh : m.amxCurl.lookup h = some o) : m.destroyCalls o = m.releaseCalls o :=
  if_pos (hm.valid hd hh)

/-- The actions that make objects give up all they have. -/
def Releasing : Action → Prop
  | .easyCleanup _ | .easyReset _ | .sweep _ | .teardown _ => True
  | _ => False

theorem forwardCalls_released (hm : m.Housed) (hd : m.isDetached = false) (ha : Releasing a) :
    m.forwardCalls a = (m.releasedBy a).flatMap m.releaseCalls := by
  have hfilter : ∀ {P : ObjId → Prop} [DecidablePred P] {h : AmxCurlHandle} {o : ObjId},
      m.amxCurl.lookup h = some o →
      ((m.amxCurl.lookup h).filter fun o => P o).toList.flatMap m.releaseCalls =
        if P o then m.releaseCalls o else [] := by
    intro P _ h o hh
    rw [hh, Option.filter_some]
    by_cases hP : P o
    · rw [if_pos hP, if_pos (decide_eq_true hP)]
      exact List.append_nil _
    · rw [if_neg hP, if_neg (by simpa using hP)]
      rfl
  have hidle : ∀ {h o}, m.amxCurl.lookup h = some o →
      (if (m.obj o).isTransferInProgress then [] else m.releaseCalls o) =
        ((m.amxCurl.lookup h).filter fun o => m.Idle h o).toList.flatMap m.releaseCalls := by
    intro h o hh
    rw [hfilter hh]
    by_cases hbusy : (m.obj o).isTransferInProgress = true
    · rw [if_pos hbusy, if_neg]
      intro hi
      rw [hi.2] at hbusy
      nomatch hbusy
    · rw [if_neg hbusy, if_pos ⟨hh, Bool.eq_false_iff.mpr hbusy⟩]
  cases a with
  | easyCleanup h =>
      cases hh : m.amxCurl.lookup h with
      | none =>
          simp only [forwardCalls, releasedBy, hh]
          rfl
      | some o =>
          refine Eq.trans ?_ (hidle hh)
          simp only [forwardCalls, hh]
          rw [hm.destroyCalls_eq hd hh]
  | easyReset h =>
      cases hh : m.amxCurl.lookup h with
      | none =>
          simp only [forwardCalls, releasedBy, hh]
          rfl
      | some o =>
          refine Eq.trans ?_ (hidle hh)
          simp only [forwardCalls, hh]
  | sweep order =>
      simp only [forwardCalls, releasedBy]
      rw [List.filterMap_eq_flatMap_toList, List.flatMap_assoc]
      refine List.flatMap_congr fun h _ => ?_
      cases hh : m.amxCurl.lookup h with
      | none =>
          simp only [sweepCalls, hh]
          rfl
      | some o =>
          have hdue := hfilter (P := fun o => m.Due h o) hh
          rw [hh] at hdue
          simp only [sweepCalls, hh]
          rw [hm.destroyCalls_eq hd hh]
          exact hdue.symm
  | teardown order =>
      by_cases hph : ∃ actor h todo, m.phase = .clearing actor (h :: todo)
      · obtain ⟨actor, h, todo, hph⟩ := hph
        simp only [forwardCalls, releasedBy, hph]
        cases hh : m.amxCurl.lookup h with
        | none => rfl
        | some o => exact (hm.destroyCalls_eq hd hh).trans (List.append_nil _).symm
      · have hcalls : m.forwardCalls (.teardown order) = [] := by
          simp only [forwardCalls]
          split
          · rename_i actor h todo hc
            exact absurd ⟨actor, h, todo, hc⟩ hph
          · rfl
        have hrel : m.releasedBy (.teardown order) = [] := by
          simp only [releasedBy]
          split
          · rename_i actor h todo hc
            exact absurd ⟨actor, h, todo, hc⟩ hph
          · rfl
        rw [hcalls, hrel]
        rfl
  | _ => exact absurd ha not_false

theorem releasedBy_nodup (hr : Records m.transfers) (hn : m.next a = some m') :
    (m.releasedBy a).Nodup := by
  have hone : ∀ x : Option ObjId, x.toList.Nodup := by
    intro x
    cases x with
    | none => exact List.nodup_nil
    | some o => exact List.nodup_singleton o
  cases a with
  | easyCleanup h => exact hone _
  | easyReset h => exact hone _
  | sweep order =>
      cases next_fires hn with
      | sweep _ hs hph ho =>
          refine ho.1.filterMap fun h h' o hh hh' => ?_
          exact hr.handleInj (Option.filter_eq_some_iff.mp hh).1 (Option.filter_eq_some_iff.mp hh').1
  | teardown order =>
      simp only [releasedBy]
      split
      · exact hone _
      · exact List.nodup_nil
  | _ => exact List.nodup_nil

theorem completions_kept (hn : m.next a = some m') (hpawn : ∀ r, a ≠ .pawnReturn r)
    (hremove : ∀ f, a ≠ .removeReturn f) (b : AmxPtr) (q : PluginId) (i : ForwardId)
    (data : Option DataId) :
    Frame.completion b q i data ∈ m'.stack ↔ Frame.completion b q i data ∈ m.stack := by
  rw [← mem_pawn, ← mem_pawn]
  exact (next_plugins hn).completions hpawn hremove

/-- A step without a call about forwards. -/
theorem unleased (hm : m.Housed) (hr : Records m.transfers) (hheld : m.Accounted held)
    (hn : m.next a = some m') (hcalls : m.forwardCalls a = []) (hrel : m.releasedBy a = [])
    (hset : ∀ o, ¬m.SetsUp o a)
    (hframes : ∀ b q i data, Frame.completion b q i data ∈ m'.stack ↔
      Frame.completion b q i data ∈ m.stack) : m.Leased held a m' := by
  refine ⟨held, ?_, quiet hheld (fun o c => hm.kept hr hn ?_ (hset o) c) hframes⟩
  · rw [hcalls]
    exact .nil
  · rw [hrel]
    exact List.not_mem_nil

theorem leased_releasing (hm : m.Housed) (hr : Records m.transfers) (hd : m.isDetached = false)
    (hheld : m.Accounted held) (hn : m.next a = some m') (ha : Releasing a) :
    m.Leased held a m' := by
  have hset : ∀ o, ¬m.SetsUp o a := by
    rintro o ⟨h, c, reply, codes, rfl, -⟩
    exact ha
  refine released hheld (releasedBy_nodup hr hn) ?_ (fun o ho c => ?_)
    (fun o ho => hm.kept hr hn ho (hset o)) (completions_kept hn ?_ ?_)
  · rw [hm.forwardCalls_released hd ha, releaseCalls_leases]
  · rw [next_obj hn o, released_registered ho]
  · rintro r rfl
    exact ha
  · rintro f rfl
    exact ha

/-- `SetupAmxCallback` gives back what the option has before it asks for another. -/
theorem leased_setup (hm : m.Housed) (hr : Records m.transfers) (hheld : m.Accounted held)
    (hh : m.amxCurl.lookup h = some o) {reply : Option ForwardId}
    (hn : m.next (.setCallback h (some c) reply codes) = some m') :
    m.Leased held (.setCallback h (some c) reply codes) m' := by
  have hcalls : (m.forwardCalls (.setCallback h (some c) reply codes)).filterMap ForwardCall.lease =
      (((m.obj o).registeredCallbacks c).map Prod.fst).toList.map Lease.release ++
        ((m.granted o reply).map Prod.fst).toList.map (Lease.acquire · (.option o c)) := by
    simp only [forwardCalls, hh]
    unfold setupCalls
    cases (m.obj o).registeredCallbacks c <;> cases m.granted o reply <;> rfl
  have hold : ∀ i, held i = some (.option o c) ↔
      ((m.obj o).registeredCallbacks c).map Prod.fst = some i := by
    intro i
    rw [hheld, holding_option]
  have hnew : ∀ i ∈ (m.granted o reply).map Prod.fst, held i = none ∨
      ((m.obj o).registeredCallbacks c).map Prod.fst = some i := by
    intro i hi
    obtain ⟨g, hg, rfl⟩ := Option.map_eq_some_iff.mp hi
    obtain ⟨q, -, hg⟩ := Option.bind_eq_some_iff.mp hg
    obtain ⟨f, rfl, rfl⟩ := Option.map_eq_some_iff.mp hg
    cases next_fires hn with
    | setCallback _ _ _ _ hp hfree =>
        refine (hfree f rfl).imp (hm.free hheld) fun hrep => ?_
        unfold replaced at hrep
        rw [hh] at hrep
        exact hrep
  obtain ⟨held', hlegal, hheld'⟩ := Lease.Legal.replace hold hnew
  refine ⟨held', by rw [hcalls]; exact hlegal, fun i u => ?_⟩
  rw [hheld', hheld]
  have hobj := next_obj hn o
  simp only [after] at hobj
  rw [if_pos hh] at hobj
  cases u with
  | completion =>
      have hsame : m'.Holding i .completion ↔ m.Holding i .completion :=
        exists_congr fun b => exists_congr fun q => exists_congr fun data =>
          completions_kept hn (by simp) (by simp) b q i data
      rw [hsame]
      simp
  | option o' c' =>
      by_cases hthis : o' = o ∧ c' = c
      · obtain ⟨rfl, rfl⟩ := hthis
        have hgot : (m'.obj o').registeredCallbacks c' = m.granted o' reply := by
          rw [hobj]
          exact Function.update_self ..
        rw [holding_option (m := m'), hgot]
        simp
      · have hkept : (m'.obj o').registeredCallbacks c' = (m.obj o').registeredCallbacks c' := by
          by_cases ho : o' = o
          · subst ho
            rw [hobj]
            exact Function.update_of_ne (fun hc => hthis ⟨rfl, hc⟩) ..
          · refine hm.kept hr hn List.not_mem_nil ?_ c'
            rintro ⟨h', c'', reply', codes', he, hh'⟩
            obtain ⟨rfl, -, -, -⟩ := Action.setCallback.inj he
            exact ho (Option.some.inj (hh'.symm.trans hh))
        have hne : ForwardUser.option o' c' ≠ .option o c := fun he => hthis (by simpa using he)
        rw [holding_option, holding_option, hkept]
        simp [hne]

/-- A data callback executes the id its option has. -/
theorem leased_callback (hm : m.Housed) (hr : Records m.transfers) (hheld : m.Accounted held)
    {k : Callback} (hn : m.next (.callback o k) = some m') :
    m.Leased held (.callback o k) m' := by
  have hset : ∀ o', ¬m.SetsUp o' (.callback o k) := by simp [SetsUp]
  refine ⟨held, ?_, quiet hheld (fun o' c => hm.kept hr hn List.not_mem_nil (hset o') c)
    (completions_kept hn (by simp) (by simp))⟩
  show Lease.Legal held ((m.executeCalls o k.option).filterMap ForwardCall.lease) held
  unfold executeCalls
  split
  · exact .nil
  · cases hf : (m.obj o).registeredCallbacks k.option with
    | none => exact .nil
    | some f =>
        dsimp only
        split
        · exact .use ((hheld _ _).mpr ⟨f.2, hf⟩)
        · exact .nil

/-- `OnPerformComplete` registers an id of its own, and executes it. -/
theorem leased_complete (hm : m.Housed) (hr : Records m.transfers) (hheld : m.Accounted held)
    {f : ForwardId} (hn : m.next (.removeReturn f) = some m') :
    m.Leased held (.removeReturn f) m' := by
  have hset : ∀ o, ¬m.SetsUp o (.removeReturn f) := by simp [SetsUp]
  have hkept : ∀ o c, (m'.obj o).registeredCallbacks c = (m.obj o).registeredCallbacks c :=
    fun o c => hm.kept hr hn List.not_mem_nil (hset o) c
  cases next_fires hn with
  | removeReturn _ o p res rest hs hf =>
      have hpop := pop_plugins hs rfl
      rcases performRemoved_plugins (m := { m with stack := rest }) (o := o) (p := p) (f := f) with
        ⟨heq, hnot⟩ | ⟨q, data, hd, hq, heq⟩
      · have hvalid : m.valid o = false := by
          unfold AmxCurlController.valid
          rcases hnot with hd | hq
          · rw [show m.isDetached = true from hd]
            rfl
          · rw [show m.amxx.loaded (m.obj o).amx = none from hq]
            exact Bool.and_false _
        refine hm.unleased hr hheld hn ?_ rfl hset fun b q i data => ?_
        · simp only [forwardCalls, hs]
          exact if_neg (by rw [hvalid]; exact Bool.false_ne_true)
        · rw [← mem_pawn, ← mem_pawn, heq, hpop]
      · have hvalid : m.valid o = true := by
          unfold AmxCurlController.valid
          rw [show m.isDetached = false from hd, show m.amxx.loaded (m.obj o).amx = some q from hq]
          rfl
        have hcalls : m.forwardCalls (.removeReturn f) = [.register f, .execute f .completion] := by
          simp only [forwardCalls, hs]
          exact if_pos hvalid
        refine ⟨_, by
          rw [hcalls]
          exact (Lease.Legal.acquire (hm.free hheld hf)).append (.use (Function.update_self ..)),
          fun i u => ?_⟩
        rw [Function.update_apply]
        have hfresh : ∀ u, ¬m.Holding f u := fun u hu => hm.holding_registered hu hf
        cases u with
        | option o' c' =>
            have hsame : ({ m with stack := rest }.performRemoved o p f).Holding i (.option o' c') ↔
                m.Holding i (.option o' c') := exists_congr fun q => by rw [hkept]
            rw [hsame]
            by_cases hi : i = f
            · subst hi
              rw [if_pos rfl]
              exact iff_of_false (by simp) (hfresh _)
            · rw [if_neg hi]
              exact hheld i _
        | completion =>
            have hmem : ∀ b q' data', Frame.completion b q' i data' ∈
                ({ m with stack := rest }.performRemoved o p f).stack ↔
                Frame.completion b q' i data' = .completion (m.obj o).amx q f data ∨
                  Frame.completion b q' i data' ∈ m.stack := by
              intro b q' data'
              rw [← mem_pawn, heq, hpop]
              exact List.mem_cons.trans (or_congr_right mem_pawn)
            by_cases hi : i = f
            · subst hi
              rw [if_pos rfl]
              exact iff_of_true rfl ⟨_, _, _, (hmem _ _ _).mpr (Or.inl rfl)⟩
            · rw [if_neg hi, hheld]
              refine exists_congr fun b => exists_congr fun q' => exists_congr fun data' => ?_
              rw [hmem, or_iff_right]
              intro he
              exact hi (Frame.completion.inj he).2.2.1

/-- A completion gives its id back when its `OnPerformComplete` is through. -/
theorem leased_return (hm : m.Housed) (hr : Records m.transfers) (hheld : m.Accounted held)
    {result : Int} (hn : m.next (.pawnReturn result) = some m') :
    m.Leased held (.pawnReturn result) m' := by
  have hset : ∀ o, ¬m.SetsUp o (.pawnReturn result) := by simp [SetsUp]
  have hkept : ∀ o c, (m'.obj o).registeredCallbacks c = (m.obj o).registeredCallbacks c :=
    fun o c => hm.kept hr hn List.not_mem_nil (hset o) c
  cases next_fires hn with
  | completionReturn _ b q f data rest hs =>
      have hmine : held f = some .completion :=
        (hheld f .completion).mpr ⟨b, q, data, hs ▸ List.mem_cons_self ..⟩
      have hcalls : m.forwardCalls (.pawnReturn result) = [.unregister f] := by
        simp only [forwardCalls, hs]
      refine ⟨_, by
        rw [hcalls]
        exact Lease.Legal.release (by rw [hmine]; exact Option.some_ne_none _), fun i u => ?_⟩
      rw [Function.update_apply]
      -- nobody else has the id
      have hgone : ∀ {b' q' data'}, Frame.completion b' q' f data' ∉ rest := by
        intro b' q' data' hmem
        have hnodup := hm.sound.nodup
        have hpawn : m.plugins.pawn =
            .completion b q f data :: rest.filter fun f => f.plugin.isSome := by
          show m.stack.filter _ = _
          rw [hs]
          rfl
        rw [hpawn] at hnodup
        refine (List.nodup_cons.mp hnodup).1 (List.mem_filterMap.mpr ?_)
        exact ⟨.completion b' q' f data', List.mem_filter.mpr ⟨hmem, rfl⟩, rfl⟩
      cases u with
      | option o c =>
          have hsame : ({ m with stack := rest }.completionReturn b q f data).Holding i (.option o c)
              ↔ m.Holding i (.option o c) := exists_congr fun q => by rw [hkept]
          rw [hsame, ← hheld]
          by_cases hi : i = f
          · subst hi
            rw [if_pos rfl, hmine]
            simp
          · rw [if_neg hi]
      | completion =>
          show _ ↔ ∃ b' q' data', Frame.completion b' q' i data' ∈ rest
          by_cases hi : i = f
          · subst hi
            rw [if_pos rfl]
            refine iff_of_false (by simp) ?_
            rintro ⟨b', q', data', hmem⟩
            exact hgone hmem
          · rw [if_neg hi, hheld]
            refine exists_congr fun b' => exists_congr fun q' => exists_congr fun data' => ?_
            rw [hs, List.mem_cons, or_iff_right]
            intro he
            exact hi (Frame.completion.inj he).2.2.1
  | dataCallbackReturn _ o c q expected rest hs =>
      refine hm.unleased hr hheld hn (by simp only [forwardCalls, hs]) rfl hset fun b q' i data => ?_
      rw [Offstage.dataCallbackReturn.stack, hs, List.mem_cons, or_iff_right (by simp)]

/-- **The calls of a step are legal**, and what is leased is again what is relied on. -/
theorem leased (hm : m.Housed) (hr : Records m.transfers) (hd : m.isDetached = false)
    (hheld : m.Accounted held) (hn : m.next a = some m') : m.Leased held a m' := by
  cases a with
  | easyCleanup h => exact hm.leased_releasing hr hd hheld hn trivial
  | easyReset h => exact hm.leased_releasing hr hd hheld hn trivial
  | sweep order => exact hm.leased_releasing hr hd hheld hn trivial
  | teardown order => exact hm.leased_releasing hr hd hheld hn trivial
  | callback o k => exact hm.leased_callback hr hheld hn
  | removeReturn f => exact hm.leased_complete hr hheld hn
  | pawnReturn result => exact hm.leased_return hr hheld hn
  | setCallback h c reply codes =>
      have hframes := completions_kept hn (by simp) (by simp)
      cases c with
      | none =>
          exact hm.unleased hr hheld hn rfl rfl (by simp [SetsUp]) hframes
      | some c =>
          cases hh : m.amxCurl.lookup h with
          | some o => exact hm.leased_setup hr hheld hh hn
          | none =>
              have hset : ∀ o, ¬m.SetsUp o (.setCallback h (some c) reply codes) := by
                simp [SetsUp, hh]
              exact hm.unleased hr hheld hn (by simp only [forwardCalls, hh]) rfl hset hframes
  | _ =>
      exact hm.unleased hr hheld hn rfl rfl (by simp [SetsUp])
        (completions_kept hn (by simp) (by simp))

end Housed

/-! ### Runs -/

variable {tr : List Action}

/-- What the calls in the log acquire, use and release. -/
def leaseLog (m : AmxCurlController) : List (Lease ForwardId ForwardUser) :=
  m.forwardLog.filterMap ForwardCall.lease

theorem next_leaseLog (hr : Records m.transfers) (hn : m.next a = some m') :
    m'.leaseLog = m.leaseLog ++ (m.forwardCalls a).filterMap ForwardCall.lease := by
  unfold leaseLog
  rw [next_forwardLog hr hn, List.filterMap_append]

/-- Once detached, the module says nothing about forwards. -/
theorem forwardCalls_detached (hs : m.isDetached = true → m.stack = []) (hd : m.isDetached = true)
    (ha : m.NativesBeforeDetach a) : m.forwardCalls a = [] := by
  have hvalid : ∀ o, m.valid o = false := by
    intro o
    unfold valid
    rw [hd]
    rfl
  have hdestroy : ∀ o, m.destroyCalls o = [] := fun o =>
    if_neg (by rw [hvalid]; exact Bool.false_ne_true)
  have hnative : a.isNative = false := by
    refine Bool.eq_false_iff.mpr fun hnat => ?_
    have hnot := ha hnat
    rw [hd] at hnot
    nomatch hnot
  cases a with
  | easyCleanup h => nomatch hnative
  | easyReset h => nomatch hnative
  | setCallback h c reply codes => nomatch hnative
  | callback o k =>
      simp only [forwardCalls]
      unfold executeCalls
      split
      · rfl
      · split
        · rfl
        · exact if_neg (by rw [hvalid]; exact Bool.false_ne_true)
  | removeReturn f => simp only [forwardCalls, hs hd]
  | pawnReturn result => simp only [forwardCalls, hs hd]
  | sweep order =>
      simp only [forwardCalls]
      refine List.flatMap_eq_nil_iff.mpr fun h _ => ?_
      unfold sweepCalls
      split
      · rfl
      · split
        · exact hdestroy _
        · rfl
  | teardown order =>
      simp only [forwardCalls]
      split
      · split
        · rfl
        · exact hdestroy _
      · rfl
  | _ => rfl

theorem boot_housed : boot.Housed where
  sound := run_sound .init
  home := fun _ _ hh => nomatch hh
  live := fun _ _ _ hf => nomatch hf

theorem boot_accounted : boot.Accounted fun _ => none := by
  intro i u
  refine iff_of_false (fun he => nomatch he) ?_
  cases u with
  | option o c =>
      rintro ⟨q, hf⟩
      nomatch hf
  | completion =>
      rintro ⟨b, q, data, hmem⟩
      nomatch hmem

/-- What has been said about forwards is legal, and that is where it leaves them. -/
structure Settled (m : AmxCurlController) (held : ForwardId → Option ForwardUser) : Prop where
  legal : Lease.Legal (fun _ => none) m.leaseLog held
  housed : m.isDetached = false → m.Housed
  accounted : m.isDetached = false → m.Accounted held

theorem run_settled (h : machine.Run Hosted tr m) : ∃ held, m.Settled held := by
  induction h with
  | init => exact ⟨_, .nil, fun _ => boot_housed, fun _ => boot_accounted⟩
  | @snoc tr m m' a hrun ha hn ih =>
      obtain ⟨held, hset⟩ := ih
      have hr : Records m.transfers := run_records (hrun.mono fun _ _ _ => trivial)
      have hlog := next_leaseLog hr hn
      cases hd : m.isDetached with
      | true =>
          have hs := run_stack (hrun.mono fun _ _ => Hosted.natives)
          rw [forwardCalls_detached hs hd ha.natives, List.filterMap_nil, List.append_nil] at hlog
          have hd' : m'.isDetached = true := (next_plugins hn).detached hd
          have hnot : m'.isDetached ≠ false := by rw [hd']; simp
          refine ⟨held, ?_, fun hf => absurd hf hnot, fun hf => absurd hf hnot⟩
          rw [hlog]
          exact hset.legal
      | false =>
          have hm := hset.housed hd
          obtain ⟨held', hlegal, hheld'⟩ := hm.leased hr hd (hset.accounted hd) hn
          refine ⟨held', ?_, fun _ => hm.next hr (run_pool hrun) hd ha hn, fun _ => hheld'⟩
          rw [hlog]
          exact hset.legal.append hlegal

/--
**Forwards are used only while they are registered, and released exactly once.**  As long as
plugins outlive their handles, the ids in the `MF_*` calls of a run are a legal list of leases:
a data callback executes the id its option has, a completion its own, and each id is released
as often as it is acquired, but for the once that it may still be held.  Until the module
is detached it is held by an option of a handle that is there, or by an `OnPerformComplete`
that has not returned.
-/
theorem forwards_leased (h : machine.Run Hosted tr m) :
    ∃ held, Lease.Legal (fun _ => none) m.leaseLog held ∧
      (∀ i, m.leaseLog.countP (·.acquires i) =
        m.leaseLog.countP (·.releases i) + Lease.outstanding held i) ∧
      (m.isDetached = false → m.Accounted held ∧ ∀ i u, m.Holding i u →
        m.amxx.forwards i ≠ none ∧ ∀ o c, u = .option o c → ∃ h, m.amxCurl.lookup h = some o) := by
  obtain ⟨held, hset⟩ := run_settled h
  refine ⟨held, hset.legal, hset.legal.acquired_eq, fun hd => ?_⟩
  have hm := hset.housed hd
  refine ⟨hset.accounted hd, fun i u hu => ⟨hm.holding_registered hu, ?_⟩⟩
  rintro o c rfl
  obtain ⟨q, hf⟩ := hu
  exact hm.live hf

/--
An option is set, set again to another public, executed, and goes with its handle from
inside the completion, whose id is the one the option had first.
-/
def released : AmxCurlController :=
  (machine.exec Hosted boot [.load 7, .easyInit 7 (some 100),
    .setCallback 1 (some .headerFunction) (some 5) (0, 0),
    .setCallback 1 (some .headerFunction) (some 6) (0, 0), .easyPerform 1 true 3 0,
    .addReturn true, .poll, .callback 0 (.header 4), .pawnReturn 4, .postDone 100 0,
    .socketActionReturn, .readMessage, .removeReturn 5, .easyCleanup 1, .pawnReturn 0,
    .checkMultiInfoReturn, .unload 7]).get (by decide)

theorem forwards_leased_released :
    released.leaseLog = [.acquire 5 (.option 0 .headerFunction), .release 5,
      .acquire 6 (.option 0 .headerFunction), .use 6 (.option 0 .headerFunction),
      .acquire 5 .completion, .use 5 .completion, .release 6, .release 5] ∧
    ∃ held, Lease.Legal (fun _ => none) released.leaseLog held := by
  have hrun : machine.Run Hosted _ released := Machine.run_of_exec (Option.some_get _).symm
  obtain ⟨held, hlegal, -⟩ := forwards_leased hrun
  exact ⟨by decide, held, hlegal⟩

end AmxCurlController

end AmxxCurl
