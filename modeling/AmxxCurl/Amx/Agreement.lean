/-
The records agree, and what libcurl forbids on an attached easy handle is never done.

`attachedIn` reads libcurl's list off the log alone.  It is the list the controller
assumes, so a call that is only made for an object that is on no record is made for
an easy handle that is not attached.
-/
import AmxxCurl.Amx.Refinement
import AmxxCurl.Lib.Appends

namespace AmxxCurl

open AmxCurlController
open Transfers (Op Move Reachable Records)

/-! ### Attached, by the log -/

/-- What an event does to the place of `o` on libcurl's list. -/
def AmxCurlController.Event.attach (o : ObjId) (b : Bool) : Event → Bool
  | .libcurl (.added o' true) => b || o' == o
  | .libcurl (.removeHandle o') => b && o' != o
  | _ => b

/-- By the log the easy handle of `o` is attached. -/
def AmxCurlController.attachedIn (log : List Event) (o : ObjId) : Bool :=
  log.foldl (Event.attach o) false

/-- A call that libcurl forbids for an attached easy handle, on that of `o`. -/
def AmxCurlController.Event.NeedsDetached (e : Event) (o : ObjId) : Prop :=
  e = .libcurl (.easyCleanup o) ∨ e = .libcurl (.easyReset o) ∨ e = .libcurl (.addHandle o)

/-- The event is no forbidden call, after the events before it. -/
def AmxCurlController.OnDetached (pre : List Event) (e : Event) : Prop :=
  ∀ o, e.NeedsDetached o → attachedIn pre o = false

theorem attachedIn_snoc (l : List Event) (e : Event) (o : ObjId) :
    attachedIn (l ++ [e]) o = e.attach o (attachedIn l o) := by
  simp [attachedIn]

/-- Only major events change what is attached. -/
theorem attachedIn_filter (l : List Event) (o : ObjId) :
    attachedIn (l.filter Event.isMajor) o = attachedIn l o := by
  unfold attachedIn
  generalize false = b
  induction l generalizing b with
  | nil => rfl
  | cons e l ih =>
      cases he : e.isMajor with
      | true => rw [List.filter_cons_of_pos he, List.foldl_cons, List.foldl_cons, ih]
      | false =>
          rw [List.filter_cons_of_neg (by simp [he]), List.foldl_cons, ih]
          congr 1
          cases e with
          | libcurl c => cases c <;> first | rfl | simp [Event.isMajor] at he
          | _ => rfl

namespace Transfers

variable {N : Phase → Prop} {t t' : Transfers}

/-- The easy handle of `o` is attached. -/
def Attached (t : Transfers) (o : ObjId) : Prop :=
  ∃ e, t.easies.lookup e = some o ∧ (t.attached.lookup e).isSome

/-- The log tells what is attached, and obeys libcurl. -/
structure Traced (t : Transfers) : Prop where
  attached : ∀ o, attachedIn t.log o = true ↔ t.Attached o
  legal : Each OnDetached t.log

namespace Traced

theorem boot : Traced boot where
  attached := by simp [Transfers.boot, attachedIn, Attached]
  legal := .nil

/-- An event that is no forbidden call, and tells the new list from the old. -/
theorem snoc (h : Traced t) {e : Event} (hlog : t'.log = t.log ++ [e])
    (hneed : ∀ o, e.NeedsDetached o → ¬t.Attached o)
    (hatt : ∀ o, e.attach o (attachedIn t.log o) = true ↔ t'.Attached o) : Traced t' where
  attached := by
    intro o
    rw [hlog, attachedIn_snoc]
    exact hatt o
  legal := by
    rw [hlog]
    refine h.legal.snoc fun o ho => ?_
    rw [← Bool.not_eq_true, h.attached]
    exact hneed o ho

/-- Such an event that is not about libcurl's list. -/
theorem plain (h : Traced t) {e : Event} (hlog : t'.log = t.log ++ [e])
    (hneed : ∀ o, e.NeedsDetached o → ¬t.Attached o) (hplain : ∀ o b, e.attach o b = b)
    (hatt : ∀ o, t.Attached o ↔ t'.Attached o) : Traced t' := by
  refine h.snoc hlog hneed fun o => ?_
  rw [hplain, h.attached]
  exact hatt o

/-- Nothing about libcurl's list has changed. -/
theorem same (h : Traced t) (hlog : t'.log = t.log) (he : t'.easies = t.easies)
    (ha : t'.attached = t.attached) : Traced t' where
  attached := by
    unfold Attached
    rw [hlog, he, ha]
    exact h.attached
  legal := hlog ▸ h.legal

/-- An object with an easy handle that is not attached. -/
theorem not_attached (hr : Records t) {o : ObjId}
    (hatt : t.attached.lookup (t.obj o).curl = none) : ¬t.Attached o := by
  rintro ⟨e, he, ha⟩
  rw [← (hr.easy.mp he).2, hatt] at ha
  simp at ha

theorem detach (h : Traced t) (hr : Records t) {o : ObjId} (ho : t.IsLive o) :
    Traced (t.detach o) := by
  refine h.snoc rfl (by simp [Event.NeedsDetached]) fun o' => ?_
  show (attachedIn t.log o' && o != o') = true ↔ _
  rw [Bool.and_eq_true, h.attached, bne_iff_ne]
  constructor
  · rintro ⟨⟨e, he, ha⟩, hne⟩
    refine ⟨e, he, ?_⟩
    show ((t.attached.erase (t.obj o).curl).lookup e).isSome
    rw [Finmap.lookup_erase_ne ?_]
    · exact ha
    · rintro rfl
      exact hne (Option.some.inj ((hr.easy.mpr ⟨ho, rfl⟩).symm.trans he))
  · rintro ⟨e, he, ha⟩
    have ha : ((t.attached.erase (t.obj o).curl).lookup e).isSome := ha
    rw [Table.lookup_erase_if] at ha
    split at ha
    · simp at ha
    · rename_i hne
      refine ⟨⟨e, he, ha⟩, ?_⟩
      rintro rfl
      exact hne (hr.easy.mp he).2.symm

/-- An easy handle nobody has attached is cleaned up. -/
theorem destroy (h : Traced t) (hr : Records t) {n : AmxCurlHandle} {o : ObjId}
    (hatt : t.attached.lookup (t.obj o).curl = none) : Traced (t.destroy n o) := by
  refine h.plain rfl ?_ (fun _ _ => rfl) fun o' => ?_
  · rintro o' (heq | heq | heq)
    · obtain rfl := LibCall.easyCleanup.inj (Event.libcurl.inj heq)
      exact not_attached hr hatt
    · simp at heq
    · simp at heq
  · refine exists_congr fun e => and_congr_left fun ha => ?_
    show _ ↔ (t.easies.erase (t.obj o).curl).lookup e = some o'
    rw [Finmap.lookup_erase_ne]
    rintro rfl
    rw [hatt] at ha
    simp at ha

/-- Every change to the transfers obeys libcurl. -/
theorem op (h : Traced t) (hr : Records t) (hop : Op N t t') : Traced t' := by
  cases hop with
  | create n e hlive he hh =>
      refine h.plain rfl (by simp [Event.NeedsDetached]) (fun _ _ => rfl) fun o => ?_
      refine exists_congr fun e' => and_congr_left fun ha => ?_
      show _ ↔ (t.easies.insert e t.objs.next).lookup e' = some o
      rw [Finmap.lookup_insert_of_ne]
      rintro rfl
      obtain ⟨p, hp⟩ := Option.isSome_iff_exists.mp ha
      obtain ⟨o', ho'⟩ := hr.attachOwner hp
      rw [he] at ho'
      simp at ho'
  | createLost e =>
      have hfresh : ¬t.Attached t.objs.next := by
        rintro ⟨e', he', -⟩
        exact absurd (hr.objLt (hr.easy.mp he').1) (Nat.lt_irrefl _)
      have hinit : Traced ((t.alloc e).emit [.libcurl (.easyInit t.objs.next)]) :=
        h.plain rfl (by simp [Event.NeedsDetached]) (fun _ _ => rfl) fun _ => Iff.rfl
      refine hinit.plain (e := .libcurl (.easyCleanup t.objs.next)) ?_ ?_ (fun _ _ => rfl)
        fun _ => Iff.rfl
      · simp [Transfers.emit]
      · rintro o (heq | heq | heq)
        · obtain rfl := LibCall.easyCleanup.inj (Event.libcurl.inj heq)
          exact hfresh
        · simp at heq
        · simp at heq
  | destroy n o hlive hh hidle => exact h.destroy hr (hr.idle ⟨n, hh⟩ hidle).2.1
  | reset n o hlive hh hidle =>
      refine h.plain rfl ?_ (fun _ _ => rfl) fun _ => Iff.rfl
      rintro o' (heq | heq | heq)
      · simp at heq
      · obtain rfl := LibCall.easyReset.inj (Event.libcurl.inj heq)
        exact not_attached hr (hr.idle ⟨n, hh⟩ hidle).2.1
      · simp at heq
  | refuse => exact h.same rfl rfl rfl
  | add n o args hlive hh hidle =>
      refine h.plain rfl ?_ (fun _ _ => rfl) fun _ => Iff.rfl
      rintro o' (heq | heq | heq)
      · simp at heq
      · simp at heq
      · obtain rfl := LibCall.addHandle.inj (Event.libcurl.inj heq)
        exact not_attached hr (hr.idle ⟨n, hh⟩ hidle).2.1
  | added o p rest hs hm hfree =>
      have hadded : Traced ({ t with
          attached := t.attached.insert (t.obj o).curl p
          tasks := rest }.emit [.libcurl (.added o true)]) := by
        refine h.snoc rfl (by simp [Event.NeedsDetached]) fun o' => ?_
        show (attachedIn t.log o' || o == o') = true ↔ _
        rw [Bool.or_eq_true, h.attached, beq_iff_eq]
        have ho := (hr.head_task hs).1
        constructor
        · rintro (⟨e, he, ha⟩ | rfl)
          · refine ⟨e, he, ?_⟩
            show ((t.attached.insert (t.obj o).curl p).lookup e).isSome
            rw [Table.lookup_insert_if]
            split
            · rfl
            · exact ha
          · refine ⟨(t.obj o).curl, hr.easy.mpr ⟨ho, rfl⟩, ?_⟩
            show ((t.attached.insert (t.obj o).curl p).lookup (t.obj o).curl).isSome
            rw [Finmap.lookup_insert]
            rfl
        · rintro ⟨e, he, ha⟩
          have ha : ((t.attached.insert (t.obj o).curl p).lookup e).isSome := ha
          rw [Table.lookup_insert_if] at ha
          split at ha
          · rename_i heq
            refine Or.inr (Option.some.inj ?_)
            rw [← hr.easy.mpr ⟨ho, rfl⟩, ← heq]
            exact he
          · exact Or.inl ⟨e, he, ha⟩
      refine hadded.plain (e := .accepted p) ?_ (by simp [Event.NeedsDetached]) (fun _ _ => rfl)
        fun _ => Iff.rfl
      simp [Transfers.emit, Transfers.added]
  | addFailed => exact h.plain rfl (by simp [Event.NeedsDetached]) (fun _ _ => rfl) fun _ => Iff.rfl
  | complete o p res rest hs =>
      exact (h.detach hr (hr.head_task hs).1).plain rfl (by simp [Event.NeedsDetached])
        (fun _ _ => rfl) fun _ => Iff.rfl
  | read e p res rest =>
      unfold Transfers.read
      split <;> exact h.same rfl rfl rfl
  | post => exact h.same rfl rfl rfl

/-- So does every step towards the end. -/
theorem move (h : Traced t) (hr : Records t) (hmove : Move t t') : Traced t' := by
  cases hmove with
  | visit actor n todo =>
      have hvisit : Traced (t.visit n) := by
        unfold Transfers.visit
        split
        · exact h
        · rename_i o hn
          split
          · exact (h.detach hr ⟨n, hn⟩).same rfl rfl rfl
          · exact h
      exact hvisit.same rfl rfl rfl
  | drop actor n todo hph =>
      have hdrop : Traced (t.drop n) := by
        unfold Transfers.drop
        split
        · exact h
        · rename_i o hn
          refine h.destroy hr ?_
          rw [← Option.not_isSome_iff_eq_none, (hr.agree ⟨n, hn⟩).attached]
          refine fun hc => hc.2.2 ?_
          unfold Dropped
          rw [hph]
          trivial
      exact hdrop.same rfl rfl rfl
  | shutdown => exact h.plain rfl (by simp [Event.NeedsDetached]) (fun _ _ => rfl) fun _ => Iff.rfl
  | globalCleanup =>
      exact h.plain rfl (by simp [Event.NeedsDetached]) (fun _ _ => rfl) fun _ => Iff.rfl
  | _ => exact h.same rfl rfl rfl

theorem reachable (hN : ∀ ph, N ph → ph.IsLive) (h : Reachable N t) : Traced t := by
  induction h with
  | refl => exact .boot
  | tail hreach hstep ih =>
      have hr := Records.reachable hN hreach
      rcases hstep with hop | hmove
      · exact ih.op hr hop
      · exact ih.move hr hmove

end Traced

end Transfers

/-! ### The controller -/

namespace AmxCurlController

variable {m : AmxCurlController} {tr : List Action}

/-- No `Perform`, `OnPerformComplete` or `RemoveAllTasks` is under way. -/
def AtRest (m : AmxCurlController) : Prop :=
  (∀ f ∈ m.stack, f.task = none) ∧
    match m.phase with
    | .removing _ _ | .clearing _ _ => False
    | _ => True

/-- The flag of each handle, libcurl's list and `curl_map_` say the same. -/
structure RecordsAgree (m : AmxCurlController) : Prop where
  attached : ∀ h o, m.amxCurl.lookup h = some o →
    ((m.obj o).isTransferInProgress = true ↔ (m.attached.lookup (m.obj o).curl).isSome)
  mapped : ∀ h o, m.amxCurl.lookup h = some o →
    ((m.attached.lookup (m.obj o).curl).isSome ↔ (m.curlMap.lookup (m.obj o).curl).isSome)
  noOther : ∀ e o, m.curlMap.lookup e = some o →
    ∃ h, m.amxCurl.lookup h = some o ∧ (m.obj o).curl = e

theorem AtRest.agree (hr : Records m.transfers) (hrest : m.AtRest) : m.RecordsAgree := by
  have htasks : m.transfers.tasks = [] := List.filterMap_eq_nil_iff.mpr hrest.1
  have hdrop : ∀ o, ¬m.transfers.Dropped o := by
    intro o hd
    have hph := hrest.2
    unfold Transfers.Dropped at hd
    rw [show m.transfers.phase = m.phase from rfl] at hd
    split at hd
    · rename_i heq
      rw [heq] at hph
      exact hph
    · rename_i heq
      rw [heq] at hph
      exact hph
    · exact hd
  have hadd : ∀ o, ¬m.transfers.Adding o := fun o ⟨_, hk⟩ => by simp [htasks] at hk
  have hrem : ∀ o, ¬m.transfers.Removing o := fun o ⟨_, _, hk⟩ => by simp [htasks] at hk
  have hatt : ∀ h o, m.amxCurl.lookup h = some o →
      ((m.obj o).isTransferInProgress = true ↔ (m.attached.lookup (m.obj o).curl).isSome) := by
    intro h o hh
    exact ((hr.agree ⟨h, hh⟩).attached.trans (and_iff_left ⟨hadd o, hdrop o⟩)).symm
  refine ⟨hatt, fun h o hh => ?_, fun e o hm => ?_⟩
  · rw [← hatt h o hh]
    exact ((hr.agree ⟨h, hh⟩).mapped.trans (and_iff_left ⟨hrem o, hdrop o⟩)).symm
  · obtain ⟨⟨h, hh⟩, hcurl⟩ := hr.easy.mp (hr.mapOwner hm)
    exact ⟨h, hh, hcurl⟩

/--
**The three records of what is in flight agree** whenever none of the functions that
change them is under way; and at any time `curl_easy_cleanup`, `curl_easy_reset` and
`curl_multi_add_handle` are called for an easy handle that is not attached only.
-/
theorem records_agree (h : machine.Run Machine.Free tr m) :
    (m.AtRest → m.RecordsAgree) ∧ Each OnDetached m.log := by
  obtain ⟨hreach, -⟩ := run_reachable h
  have htraced := Transfers.Traced.reachable (fun _ => id) hreach
  refine ⟨fun hrest => hrest.agree (run_records h), ?_⟩
  refine htraced.legal.of_filter (fun pre e he o ho => ?_) fun pre e hp o ho => ?_
  · rcases ho with rfl | rfl | rfl <;> simp [Event.isMajor] at he
  · rw [← attachedIn_filter]
    exact hp o ho

/-- A handle in flight is reset, cleaned up and performed again; another is idle. -/
def inFlight : AmxCurlController :=
  (machine.exec Machine.Free boot [.load 7, .easyInit 7 (some 100), .easyInit 7 (some 101),
    .easyPerform 1 true 3 2, .addReturn true, .easyReset 1, .easyPerform 1 true 4 0,
    .easyCleanup 1]).get (by decide)

theorem records_agree_inFlight : inFlight.RecordsAgree ∧ Each OnDetached inFlight.log := by
  have h := records_agree (Machine.run_of_exec (Option.some_get _).symm : machine.Run _ _ inFlight)
  exact ⟨h.1 ⟨by decide, trivial⟩, h.2⟩

end AmxCurlController

end AmxxCurl
