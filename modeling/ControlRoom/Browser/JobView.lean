/-
  ControlRoom.Browser.JobView
  ───────────────────────────
  **WHAT A TAB SHOWS OF A JOB** (`useJobStream`, `web/src/lib/updates.ts`).

  The REST answer and the frames of the WebSocket write to the same state,
  and nothing says which of them is newer.  An answer that arrives among the
  frames may take output away that has been shown already, or bring output
  that a frame still to come brings again (`Tab.harmless` excludes it); and a
  chunk that begins inside a character is read as U+FFFD.

    §1  what a list of frames shows, and the text of it,
    §2  the steps of a tab, and the condition on an arriving answer,
    §3  the assertions of a tab,
    §4  the theorem, two answers that arrive at the wrong moment, and a
        character cut in two.
-/
import ControlRoom.Jobs.StreamText

namespace ControlRoom

open Foundation

/-! ## §1. Frames. -/

section Text

variable (text : Bytes → String)

/-- The output on display after these frames. -/
def shown (frames : List Frame) : String :=
  (frames.foldl (JobView.onMessage text) .initial).output

variable {text}

/-- The output after a frame depends on the output before it. -/
theorem JobView.onMessage_output {u v : JobView} (h : u.output = v.output) (f : Frame) :
    (u.onMessage text f).output = (v.onMessage text f).output := by
  cases f with
  | snapshot output =>
      simp only [onMessage]
      by_cases hnil : output = []
      · rw [if_pos hnil, if_pos hnil]
        exact h
      · rw [if_neg hnil, if_neg hnil]
  | chunk output =>
      simp only [onMessage]
      by_cases hnil : output = []
      · rw [if_pos hnil, if_pos hnil]
        exact h
      · rw [if_neg hnil, if_neg hnil]
        show u.output ++ _ = v.output ++ _
        rw [h]
  | state s => exact h

theorem onMessage_shown {v : JobView} {frames : List Frame} (h : v.output = shown text frames)
    (f : Frame) : (v.onMessage text f).output = shown text (frames ++ [f]) := by
  unfold shown
  rw [List.foldl_append]
  exact JobView.onMessage_output h f

variable {sub : Subscription} {chunks : List Bytes} {frames : List Frame}

/-- **What the frames of a subscription show**: its snapshot and the chunks. -/
theorem Carries.shown (htext : text [] = "") (h : Carries sub chunks frames) :
    shown text frames = text sub.snapshot ++ String.join (chunks.map text) := by
  induction h with
  | opening =>
      unfold Subscription.opening ControlRoom.shown
      by_cases hnil : sub.snapshot = []
      · rw [if_pos hnil, hnil, htext]
        rfl
      · rw [if_neg hnil]
        show (JobView.onMessage text .initial (.snapshot sub.snapshot)).output = _
        simp only [JobView.onMessage]
        rw [if_neg hnil]
        simp [String.join]
  | chunk x _ ih =>
      rw [← onMessage_shown (v := ⟨ControlRoom.shown text _, .notFound, none⟩) rfl, ih]
      simp only [JobView.onMessage]
      by_cases hnil : x = []
      · rw [if_pos hnil, hnil]
        simp [String.join, htext]
      · rw [if_neg hnil]
        simp [String.join, String.append_assoc]
  | state s _ ih =>
      rw [← onMessage_shown (v := ⟨ControlRoom.shown text _, .notFound, none⟩) rfl, ih]
      rfl

/-- They begin with the snapshot, if there is one. -/
theorem Carries.opening_prefix (h : Carries sub chunks frames) : sub.opening <+: frames := by
  induction h with
  | opening => exact List.prefix_refl _
  | chunk x _ ih => exact ih.trans (List.prefix_append _ _)
  | state s _ ih => exact ih.trans (List.prefix_append _ _)

/-- The first frames carry the snapshot and the first chunks. -/
theorem Carries.take (h : Carries sub chunks frames) {k : Nat} (hk : sub.opening.length ≤ k) :
    ∃ chunks', chunks' <+: chunks ∧ Carries sub chunks' (frames.take k) := by
  induction h with
  | opening =>
      rw [List.take_of_length_le hk]
      exact ⟨[], List.prefix_refl _, .opening⟩
  | @chunk chunks frames x hold ih =>
      by_cases hle : k ≤ frames.length
      · obtain ⟨chunks', hchunks, hcarries⟩ := ih
        rw [List.take_append_of_le_length hle]
        exact ⟨chunks', hchunks.trans (List.prefix_append _ _), hcarries⟩
      · rw [List.take_of_length_le (by rw [List.length_append, List.length_singleton]; omega)]
        exact ⟨_, List.prefix_refl _, hold.chunk x⟩
  | @state chunks frames st hold ih =>
      by_cases hle : k ≤ frames.length
      · rw [List.take_append_of_le_length hle]
        exact ih
      · rw [List.take_of_length_le (by rw [List.length_append, List.length_singleton]; omega)]
        exact ⟨_, List.prefix_refl _, hold.state st⟩

theorem Carries.head (h : Carries sub chunks frames) (hne : sub.snapshot ≠ []) :
    frames[0]? = some (.snapshot sub.snapshot) := by
  obtain ⟨rest, hrest⟩ := h.opening_prefix
  have hopening : sub.opening = [.snapshot sub.snapshot] := if_neg hne
  rw [← hrest, hopening]
  rfl

end Text

/-- What the page reads of a Go string: `encoding/json`, and then `JSON.parse`. -/
def jsonText (p : Bytes) : String := String.ofList (lossy p)

theorem join_map_jsonText (chunks : List Bytes) :
    String.join (chunks.map jsonText) = String.ofList (chunks.flatMap lossy) := by
  induction chunks with
  | nil => rfl
  | cons p rest ih =>
      rw [List.map_cons, String.join_cons, ih, List.flatMap_cons, String.ofList_append]
      rfl

/-- **Frames cut between characters** show the text of what they carry. -/
theorem Carries.shown_jsonText {sub : Subscription} {chunks : List Bytes} {frames : List Frame}
    (h : Carries sub chunks frames) (hbegins : ∀ x ∈ chunks, Begins x) :
    ControlRoom.shown jsonText frames = jsonText (ControlRoom.outputs frames) := by
  rw [h.shown rfl, h.outputs, join_map_jsonText]
  unfold jsonText
  rw [lossy_append_flatten hbegins, String.ofList_append]

/-! ## §2. The steps of a tab. -/

/-- What can happen to a tab. -/
inductive TabStep (text : Bytes → String) (act : JobAct) (w : JobWorld) (t : Tab) :
    JobWorld → Tab → Prop
  | stream (w' : JobWorld) (st' : Stream) (h : StreamStep act w t.stream w' st') :
      TabStep text act w t w' { t with stream := st' }
  | status (pc : StatusPC) (h : t.status.step t.stream.jobID w = some pc) :
      TabStep text act w t w { t with status := pc }
  | frame (f : Frame) (h : t.stream.frames[t.delivered]? = some f) :
      TabStep text act w t w
        { t with delivered := t.delivered + 1, view := t.view.onMessage text f }
  | answer (hact : act = .deliverStatus) (answer : Option JobStatusResp)
      (h : t.status = .answered answer) :
      TabStep text act w t w
        { t with status := .delivered, view := t.view.onStatus text answer }
  | socketError :
      TabStep text act w t w { t with view := { t.view with error := some "connection error" } }

theorem Tab.step_tabStep {text : Bytes → String} {act : JobAct} {w w' : JobWorld} {t t' : Tab}
    (h : t.step text act w = some (w', t')) : TabStep text act w t w' t' := by
  unfold Tab.step at h
  split at h
  · obtain ⟨pc, hpc, heq⟩ := Option.map_eq_some_iff.mp h
    cases heq
    exact .status pc hpc
  · obtain ⟨f, hf, heq⟩ := Option.map_eq_some_iff.mp h
    cases heq
    exact .frame f hf
  · split at h
    · next answer hanswer =>
      cases h
      exact .answer rfl answer hanswer
    · cases h
  · cases h
    exact .socketError
  · obtain ⟨⟨w₁, st⟩, hstep, heq⟩ := Option.map_eq_some_iff.mp h
    cases heq
    exact .stream _ st (Stream.step_cases hstep)

/-- The handler has a state frame still to send. -/
def Stream.telling (st : Stream) : Bool :=
  match st.pc with
  | .snapshot _ => true
  | .state _ => true
  | .loop _ => true
  | _ => false

/-- The subscription of a handler that has sent its last frame. -/
def Stream.settled (st : Stream) : Option Subscription :=
  match st.pc with
  | .unsubscribe sub => some sub
  | .returned sub => sub
  | _ => none

/-- The answer may arrive now.  Its output is what the frames delivered so far have
brought, or the snapshot frame is still to come; its state is final, or a state frame is
still to come. -/
def Tab.harmless (t : Tab) (sub : Subscription) (resp : JobStatusResp) : Prop :=
  ((sub.snapshot ≠ [] ∧ t.delivered = 0)
      ∨ resp.output = outputs (t.stream.frames.take t.delivered))
    ∧ (resp.state ≠ .running ∨ t.stream.telling = true ∨ t.delivered < t.stream.frames.length)

instance (t : Tab) (sub : Subscription) (resp : JobStatusResp) :
    Decidable (t.harmless sub resp) :=
  inferInstanceAs (Decidable ((_ ∨ _) ∧ (_ ∨ _ ∨ _)))

/-- The tab that an answer is about to reach. -/
def JobParty.answered (e : JobEnv) : JobParty → Option (Tab × JobStatusResp)
  | .tab t =>
      if e.act = .deliverStatus then
        match t.status with
        | .answered (some resp) => some (t, resp)
        | _ => none
      else none
  | _ => none

/-- The client that listens on the channel `ref` keeps up (`attentive`), what is written
to it begins with the first byte of a character, and the REST answer reaches it at a
harmless moment. -/
def inStep (ref : Nat) : Guard JobEnv JobWorld JobParty where
  own := fun e w l => (attentive ref).own e w l
    ∧ (∀ p ∈ writesOf e w l, ref ∈ w.job.listeners.map Prod.snd → Begins p)
    ∧ ∀ r ∈ l.answered e, ∀ sub ∈ r.1.stream.subscription, sub.ref = ref →
        r.1.harmless sub r.2
  pair := fun _ _ _ _ => True

instance (ref : Nat) (e : JobEnv) (w : JobWorld) (l : JobParty) :
    Decidable ((inStep ref).own e w l) :=
  inferInstanceAs (Decidable (_ ∧ (∀ p ∈ writesOf e w l, _)
    ∧ ∀ r ∈ l.answered e, ∀ sub ∈ r.1.stream.subscription, _))

instance (ref : Nat) (e : JobEnv) (w : JobWorld) (l m : JobParty) :
    Decidable ((inStep ref).pair e w l m) :=
  inferInstanceAs (Decidable True)

/-! ## §3. The assertions. -/

section Job

variable {w w' : JobWorld} {writes : Bool} {own : Option Subscription}

/-- What has been written stays written. -/
theorem JobEffect.written (h : JobEffect writes own w w') (hw : w.Sound) :
    w.written <+: w'.written := by
  cases h with
  | same => exact List.prefix_refl _
  | wrote p hwrites hrun =>
      rw [hw.toWired.write p]
      exact List.prefix_append _ _
  | returned res hrun => exact List.prefix_refl _
  | finished now res hret =>
      rw [hw.toWired.finish now res]
      exact List.prefix_refl _
  | exited hfin => exact List.prefix_refl _
  | subscribed =>
      obtain ⟨_, _, _, _, hwritten, _⟩ := JobWorld.subscribe_rest (w := w)
      rw [hwritten]
  | unsubscribed s hown =>
      rcases hw.toWired.unsubscribe s with ⟨id, ref, _, _, heq⟩ | heq
      · rw [heq]
        exact List.prefix_refl _
      · rw [heq]
        exact List.prefix_refl _
  | received s hown r w' hrec =>
      obtain ⟨c, _, heq⟩ := JobWorld.receive_eq_some hrec
      rw [heq]
      exact List.prefix_refl _

/-- **A channel to which only whole characters are written** carries no other pieces. -/
theorem JobParty.step_begins {text : Bytes → String} {e : JobEnv} {l l' : JobParty} {ref : Nat}
    (h : l.step text e w = some (w', l')) (hw : w.Sound)
    (hwrites : ∀ p ∈ writesOf e w l, ref ∈ w.job.listeners.map Prod.snd → Begins p)
    (hold : ∀ x ∈ (w.chans ref).sent, Begins x) : ∀ x ∈ (w'.chans ref).sent, Begins x := by
  rcases JobParty.step_writes h with ⟨p, hp, _, hw'⟩ | ⟨_, hsilent⟩
  · rw [hw', hw.toWired.write p]
    show ∀ x ∈ ((w.wrote p).chans ref).sent, Begins x
    by_cases hmem : ref ∈ w.job.listeners.map Prod.snd
    · rw [JobWorld.wrote_chan_of_mem hmem]
      by_cases hfull : (w.chans ref).full
      · rw [offered_of_full hfull]
        exact hold
      · rw [offered_of_room hfull, Chan.push_sent, List.forall_mem_append]
        exact ⟨hold, List.forall_mem_singleton.mpr (hwrites p (by rw [hp]; simp) hmem)⟩
    · rw [JobWorld.wrote_chan_of_not_mem hmem]
      exact hold
  · rcases hsilent.silent_cases hw ref with ⟨hsent, _⟩ | ⟨_, hempty⟩
    · rw [hsent]
      exact hold
    · rw [hempty]
      exact fun x hx => by cases hx

/-- The buffer is empty only if nothing has been written. -/
theorem JobWorld.Sound.snapshot_ne_nil (hw : w.Sound) :
    w.job.output.snapshot ≠ [] ↔ w.written ≠ [] := by
  have hpos : 0 < defaultBufferSize := by
    unfold defaultBufferSize
    omega
  show w.job.output.buf ≠ [] ↔ w.written ≠ []
  rw [hw.buf, ← List.length_pos_iff, ← List.length_pos_iff]
  unfold List.rtake
  rw [List.length_drop]
  omega

/-- What the REST answer says, or is going to say: a state and an output. -/
def StatusPC.reported : StatusPC → Option (JobState × Bytes)
  | .snapshot s => some (s, [])
  | .finishedAt s output => some (s, output)
  | .error s output _ => some (s, output)
  | .answered (some resp) => some (resp.state, resp.output)
  | _ => none

/-- A report may be old, but it is true: a final state is the job's state, and there is
no output before something is written. -/
structure Reported (w : JobWorld) (r : JobState × Bytes) : Prop where
  state : r.1 ≠ .running → w.job.state = r.1
  output : r.2 ≠ [] → w.written ≠ []

theorem Reported.mono {r : JobState × Bytes} (h : Reported w r)
    (hstate : w.job.state ≠ .running → w'.job.state = w.job.state)
    (hwritten : w.written <+: w'.written) : Reported w' r := by
  refine ⟨?_, ?_⟩
  · intro hr
    have hold := h.state hr
    rw [← hold] at hr ⊢
    exact hstate hr
  · intro hr hnil
    rw [hnil] at hwritten
    exact h.output hr (List.prefix_nil.mp hwritten)

/-- **A statement of `jobStatusHandler`** reports what is true. -/
theorem StatusPC.step_reported {jobID : String} {pc pc' : StatusPC} {r : JobState × Bytes}
    (hw : w.Sound) (h : pc.step jobID w = some pc')
    (hold : ∀ r, pc.reported = some r → Reported w r) (hr : pc'.reported = some r) :
    Reported w r := by
  cases pc with
  | get =>
      simp only [step] at h
      split at h
      · cases h
        cases hr
      · cases h
        cases hr
  | state =>
      cases h
      cases hr
      exact ⟨fun _ => rfl, fun hne => absurd rfl hne⟩
  | snapshot s =>
      cases h
      cases hr
      exact ⟨(hold _ rfl).state, hw.snapshot_ne_nil.mp⟩
  | finishedAt s output =>
      cases h
      cases hr
      exact hold _ rfl
  | error s output fin =>
      cases h
      cases hr
      exact hold _ rfl
  | answered answer => cases h
  | delivered => cases h

end Job

/-- What holds of a tab whose stream listens on the channel `ref`. -/
structure Tab.Sound (ref : Nat) (w : JobWorld) (t : Tab) : Prop where
  delivered_le : t.delivered ≤ t.stream.frames.length
  reported : ∀ r, t.status.reported = some r → Reported w r
  before : t.stream.connected = true → (t.stream.pc = .get ∨ t.stream.pc = .subscribe) →
    ∃ output, t.view.output = jsonText output ∧ (output ≠ [] → w.written ≠ [])
  after : t.stream.connected = true → ∀ sub, t.stream.subscription = some sub → sub.ref = ref →
    (sub.snapshot ≠ [] ∧ t.delivered = 0)
      ∨ t.view.output = shown jsonText (t.stream.frames.take t.delivered)
  settled : t.stream.connected = true → ∀ sub, t.stream.settled = some sub → sub.ref = ref →
    t.delivered = t.stream.frames.length → t.view.state = .job w.job.state

section Handler

variable {act : JobAct} {w w' : JobWorld} {st st' : Stream} {ref : Nat} {sub : Subscription}

theorem Stream.Sound.early (h : st.Sound ref w) (hconn : st.connected = true)
    (hpc : st.pc = .get ∨ st.pc = .subscribe) : st.frames = [] := by
  have hold := h hconn
  rcases hpc with hpc | hpc
  · rw [hpc] at hold
    exact hold
  · rw [hpc] at hold
    exact hold

/-- The frames carry the subscription from its first one on, and chunks of the channel. -/
theorem Stream.Sound.carries (h : st.Sound ref w) (hconn : st.connected = true)
    (hsub : st.subscription = some sub) (href : sub.ref = ref) :
    st.frames = []
      ∨ ∃ chunks, chunks ⊆ (w.chans ref).sent ∧ Carries sub chunks st.frames := by
  have hold := h hconn
  unfold Stream.subscription at hsub
  cases hpc : st.pc with
  | get =>
      rw [hpc] at hsub
      cases hsub
  | subscribe =>
      rw [hpc] at hsub
      cases hsub
  | snapshot s =>
      rw [hpc] at hold hsub
      cases hsub
      exact .inl (hold href).1
  | state s =>
      rw [hpc] at hold hsub
      cases hsub
      exact .inr ⟨_, List.nil_subset _, (hold href).1⟩
  | loop s =>
      rw [hpc] at hold hsub
      cases hsub
      refine .inr ⟨_, ?_, (hold href).1⟩
      rw [href]
      exact List.take_subset _ _
  | unsubscribe s =>
      rw [hpc] at hold hsub
      cases hsub
      exact .inr ⟨_, by rw [href]; exact List.Subset.refl _, (hold href).carried⟩
  | returned s =>
      rw [hpc] at hold hsub
      cases hsub
      exact .inr ⟨_, by rw [href]; exact List.Subset.refl _, (hold href).carried⟩

/-- **What the delivered frames show** is the text of what they have brought, or the snapshot
frame is still to come. -/
theorem Stream.Sound.shown_take (h : st.Sound ref w) (hconn : st.connected = true)
    (hsub : st.subscription = some sub) (href : sub.ref = ref)
    (hbegins : ∀ x ∈ (w.chans ref).sent, Begins x) (k : Nat) :
    (sub.snapshot ≠ [] ∧ k = 0)
      ∨ shown jsonText (st.frames.take k) = jsonText (outputs (st.frames.take k)) := by
  by_cases hfirst : sub.snapshot ≠ [] ∧ k = 0
  · exact .inl hfirst
  · right
    rcases h.carries hconn hsub href with hnil | ⟨chunks, hchunks, hcarries⟩
    · rw [hnil, List.take_nil]
      rfl
    · have hopening : sub.opening.length ≤ k := by
        unfold Subscription.opening
        by_cases hsnap : sub.snapshot = []
        · rw [if_pos hsnap]
          exact Nat.zero_le k
        · rw [if_neg hsnap, List.length_singleton]
          exact Nat.one_le_iff_ne_zero.mpr fun hk => hfirst ⟨hsnap, hk⟩
      obtain ⟨chunks', hfew, htake⟩ := hcarries.take hopening
      exact htake.shown_jsonText fun x hx => hbegins x (hchunks (hfew.subset hx))

theorem Stream.subscription_of_settled (h : st.settled = some sub) :
    st.subscription = some sub := by
  unfold settled at h
  unfold subscription
  split at h
  · next hpc =>
    rw [hpc]
    exact h
  · next hpc =>
    rw [hpc]
    exact h
  · cases h

theorem Stream.Sound.told (h : st.Sound ref w) (hconn : st.connected = true)
    (hsub : st.settled = some sub) (href : sub.ref = ref) : Told w st.frames sub := by
  have hold := h hconn
  unfold Stream.settled at hsub
  split at hsub
  · next hpc =>
    cases hsub
    rw [hpc] at hold
    exact hold href
  · next hpc =>
    cases hsub
    rw [hpc] at hold
    exact hold href
  · cases hsub

theorem StreamStep.frames_prefix (h : StreamStep act w st w' st') : st.frames <+: st'.frames := by
  cases h with
  | notFound hpc frames hframes => exact hframes
  | snapshot sub hpc hne => exact List.prefix_append _ _
  | state sub hpc => exact List.prefix_append _ _
  | chunk sub x w' hpc hrec => exact List.prefix_append _ _
  | closed sub w' hpc hrec => exact List.prefix_append _ _
  | done sub hact hpc hdone => exact List.prefix_append _ _
  | disconnected => exact List.prefix_refl _
  | found hpc => exact List.prefix_refl _
  | subscribed hpc => exact List.prefix_refl _
  | noSnapshot sub hpc hnil => exact List.prefix_refl _
  | pinged sub hpc => exact List.prefix_refl _
  | lost sub w' hsub hgone hw => exact List.prefix_refl _
  | unsubscribed sub hpc => exact List.prefix_refl _

theorem StreamStep.connected (h : StreamStep act w st w' st') (hconn : st'.connected = true) :
    st.connected = true := by
  cases h with
  | disconnected => cases hconn
  | _ => exact hconn

theorem StreamStep.early (h : StreamStep act w st w' st') (hconn : st'.connected = true)
    (hpc' : st'.pc = .get ∨ st'.pc = .subscribe) :
    w' = w ∧ (st.pc = .get ∨ st.pc = .subscribe) := by
  cases h with
  | disconnected => cases hconn
  | found hpc => exact ⟨rfl, .inl hpc⟩
  | pinged sub hpc => exact ⟨rfl, hpc'⟩
  | _ => rcases hpc' with hpc' | hpc' <;> cases hpc'

/-- The last frame is sent before the handler is settled; afterwards it only calls the
unsubscribe function. -/
theorem StreamStep.settled (h : StreamStep act w st w' st') (hconn : st'.connected = true)
    (hset : st'.settled = some sub) :
    st.frames.length < st'.frames.length
      ∨ (st.settled = some sub ∧ st'.frames = st.frames) := by
  cases h with
  | disconnected => cases hconn
  | pinged s hpc => exact .inr ⟨hset, rfl⟩
  | closed s w' hpc hrec =>
      left
      show st.frames.length < (st.frames ++ [_]).length
      rw [List.length_append, List.length_singleton]
      omega
  | done s hact hpc hdone =>
      left
      show st.frames.length < (st.frames ++ [_]).length
      rw [List.length_append, List.length_singleton]
      omega
  | lost s w' hsub hgone hw =>
      have hconn : st.connected = true := hconn
      rw [hgone] at hconn
      cases hconn
  | unsubscribed s hpc =>
      right
      cases hset
      refine ⟨?_, rfl⟩
      unfold Stream.settled
      rw [hpc]
  | _ => cases hset

theorem StreamStep.subscribes (h : StreamStep act w st w' st') :
    (st.pc = .subscribe ∧ w' = w.subscribe.1 ∧ st' = { st with pc := .snapshot w.subscribe.2 })
      ∨ st'.subscription = st.subscription := by
  cases h with
  | subscribed hpc => exact .inl ⟨hpc, rfl, rfl⟩
  | lost sub w' hsub hgone hw => exact .inr hsub.symm
  | _ => right; simp_all [Stream.subscription]

end Handler

section Steps

variable {ref : Nat} {w w' : JobWorld} {t : Tab}

/-- **Somebody else's statement** keeps the assertions of a tab. -/
theorem Tab.Sound.mono (h : t.Sound ref w) (hstream : t.stream.Sound ref w)
    (hsub : ∀ sub, t.stream.subscription = some sub → sub.Follows w)
    (hstate : w.job.state ≠ .running → w'.job.state = w.job.state)
    (hwritten : w.written <+: w'.written) : t.Sound ref w' where
  delivered_le := h.delivered_le
  reported := fun r hr => (h.reported r hr).mono hstate hwritten
  before := by
    intro hconn hpc
    obtain ⟨output, hview, hout⟩ := h.before hconn hpc
    refine ⟨output, hview, ?_⟩
    intro hne hnil
    rw [hnil] at hwritten
    exact hout hne (List.prefix_nil.mp hwritten)
  after := h.after
  settled := by
    intro hconn sub hset href hall
    have htold := hstream.told hconn hset href
    have hfollows := hsub sub (Stream.subscription_of_settled hset)
    rw [hstate (hfollows.ended htold.closed)]
    exact h.settled hconn sub hset href hall

/-- **A statement of the tab's stream** keeps its assertions. -/
theorem Tab.Sound.stream {act : JobAct} {st' : Stream} (hw : w.Sound) (h : t.Sound ref w)
    (hstream : t.stream.Sound ref w)
    (hsub : ∀ sub, t.stream.subscription = some sub → sub.Follows w)
    (hstep : StreamStep act w t.stream w' st') :
    ({ t with stream := st' } : Tab).Sound ref w' := by
  have heff := hstep.acquires.effect
  have hmono := h.mono hstream hsub (heff.state hw) (heff.written hw)
  have hprefix := hstep.frames_prefix
  have hle := Nat.le_trans h.delivered_le hprefix.length_le
  refine ⟨hle, hmono.reported, ?_, ?_, ?_⟩
  · intro hconn hpc
    exact hmono.before (hstep.connected hconn) (hstep.early hconn hpc).2
  · intro hconn sub hsub' href
    have hconn' := hstep.connected hconn
    rcases hstep.subscribes with ⟨hpc, _, hst⟩ | hsame
    · -- nothing has been sent, so what is shown is what the answer has brought
      have hframes := hstream.early hconn' (.inr hpc)
      have hnone : t.delivered = 0 := by
        have hle := h.delivered_le
        rw [hframes] at hle
        exact Nat.le_zero.mp hle
      rw [hst] at hsub' ⊢
      cases hsub'
      by_cases hsnap : w.subscribe.2.snapshot = []
      · right
        obtain ⟨output, hview, hout⟩ := h.before hconn' (.inr hpc)
        have hwritten : w.written = [] := by
          have hiff := hw.snapshot_ne_nil
          have hsnap' : w.job.output.snapshot = [] := by
            unfold JobWorld.subscribe at hsnap
            split at hsnap <;> exact hsnap
          by_contra hne
          exact hiff.mpr hne hsnap'
        have hnil : output = [] := by
          by_contra hne
          exact hout hne hwritten
        show t.view.output = shown jsonText (t.stream.frames.take t.delivered)
        rw [hview, hnil, hframes, List.take_nil]
        rfl
      · exact .inl ⟨hsnap, hnone⟩
    · have htake : st'.frames.take t.delivered = t.stream.frames.take t.delivered := by
        obtain ⟨rest, hrest⟩ := hprefix
        rw [← hrest, List.take_append_of_le_length h.delivered_le]
      show (sub.snapshot ≠ [] ∧ t.delivered = 0)
        ∨ t.view.output = shown jsonText (st'.frames.take t.delivered)
      rw [htake]
      exact h.after hconn' sub (hsame ▸ hsub') href
  · intro hconn sub hset href hall
    rcases hstep.settled hconn hset with hmore | ⟨hset', hframes⟩
    · -- the last frame has only just been sent
      have hle := h.delivered_le
      have hall : t.delivered = st'.frames.length := hall
      omega
    · have hall : t.delivered = st'.frames.length := hall
      rw [hframes] at hall
      exact hmono.settled (hstep.connected hconn) sub hset' href hall

/-- **The delivery of a frame.** -/
theorem Tab.Sound.frame {f : Frame} (h : t.Sound ref w) (hstream : t.stream.Sound ref w)
    (hf : t.stream.frames[t.delivered]? = some f) :
    ({ t with delivered := t.delivered + 1, view := t.view.onMessage jsonText f } : Tab).Sound
      ref w := by
  obtain ⟨hlt, hget⟩ := List.getElem?_eq_some_iff.mp hf
  have htake : t.stream.frames.take (t.delivered + 1) = t.stream.frames.take t.delivered ++ [f] := by
    rw [← hget]
    exact (List.take_append_getElem hlt).symm
  refine ⟨hlt, h.reported, ?_, ?_, ?_⟩
  · intro hconn hpc
    have hnil := hstream.early hconn hpc
    rw [hnil] at hf
    cases hf
  · intro hconn sub hsub href
    right
    show (t.view.onMessage jsonText f).output
      = shown jsonText (t.stream.frames.take (t.delivered + 1))
    rw [htake]
    rcases h.after hconn sub hsub href with ⟨hne, hnone⟩ | hview
    · -- the first frame is the snapshot, which overwrites whatever is shown
      rcases hstream.carries hconn hsub href with hnil | ⟨chunks, _, hcarries⟩
      · rw [hnil] at hf
        cases hf
      · have hhead := hcarries.head hne
        rw [hnone, hhead] at hf
        cases hf
        rw [hnone]
        simp only [JobView.onMessage, shown, List.take_zero, List.nil_append, List.foldl_cons,
          List.foldl_nil]
        rw [if_neg hne, if_neg hne]
    · exact onMessage_shown hview f
  · intro hconn sub hset href hall
    have hlast := (hstream.told hconn hset href).last
    have hall : t.delivered + 1 = t.stream.frames.length := hall
    rw [List.getLast?_eq_getElem?, ← hall] at hlast
    have heq : f = .state (.job w.job.state) := Option.some.inj (hf.symm.trans hlast)
    rw [heq]
    rfl

/-- **The arrival of the REST answer** at a harmless moment. -/
theorem Tab.Sound.answer {answer : Option JobStatusResp} (h : t.Sound ref w)
    (hstream : t.stream.Sound ref w) (hbegins : ∀ x ∈ (w.chans ref).sent, Begins x)
    (hanswer : t.status = .answered answer)
    (hharmless : ∀ resp, answer = some resp → ∀ sub, t.stream.subscription = some sub →
      sub.ref = ref → t.harmless sub resp) :
    ({ t with status := .delivered, view := t.view.onStatus jsonText answer } : Tab).Sound
      ref w := by
  cases answer with
  | none => exact ⟨h.delivered_le, fun r hr => (by cases hr), h.before, h.after, h.settled⟩
  | some resp =>
      have hreport : Reported w (resp.state, resp.output) := by
        apply h.reported
        rw [hanswer]
        rfl
      refine ⟨h.delivered_le, fun r hr => (by cases hr), ?_, ?_, ?_⟩
      · intro _ _
        exact ⟨resp.output, rfl, hreport.output⟩
      · intro hconn sub hsub href
        rcases (hharmless resp rfl sub hsub href).1 with hfirst | hsame
        · exact .inl hfirst
        · rcases hstream.shown_take hconn hsub href hbegins t.delivered with hfirst | hshown
          · exact .inl hfirst
          · right
            show jsonText resp.output = shown jsonText (t.stream.frames.take t.delivered)
            rw [hshown, hsame]
      · intro hconn sub hset href hall
        have hall : t.delivered = t.stream.frames.length := hall
        have hsub := Stream.subscription_of_settled hset
        rcases (hharmless resp rfl sub hsub href).2 with hstate | htelling | hmore
        · show FrameState.job resp.state = .job w.job.state
          rw [hreport.state hstate]
        · -- a handler that is settled has nothing more to tell
          have hset : t.stream.settled = some sub := hset
          unfold Stream.settled at hset
          unfold Stream.telling at htelling
          split at hset
          · next hpc =>
            rw [hpc] at htelling
            cases htelling
          · next hpc =>
            rw [hpc] at htelling
            cases htelling
          · cases hset
        · omega

end Steps

/-! ## §4. The theorem. -/

section Convergence

variable {ι : Type*} {ref : Nat}

/-- What holds of a party. -/
structure JobParty.Views (ref : Nat) (w : JobWorld) (l : JobParty) : Prop where
  party : l.Sound ref w
  tab : ∀ t, l = .tab t → t.Sound ref w

theorem JobParty.Views.own_step {e : JobEnv} {w w' : JobWorld} {l l' : JobParty}
    (hown : (inStep ref).own e w l) (hstep : l.step jsonText e w = some (w', l'))
    (hw : w.Sound) (hbegins : ∀ x ∈ (w.chans ref).sent, Begins x) (hl : l.Views ref w) :
    l'.Views ref w' := by
  refine ⟨hl.party.own_step hown.1 hstep hw, ?_⟩
  intro t' ht'
  cases l with
  | tab t =>
      obtain ⟨⟨w₁, t₁⟩, htab, heq⟩ := Option.map_eq_some_iff.mp hstep
      cases heq
      cases ht'
      have hsound := hl.tab t rfl
      have hstream : t.stream.Sound ref w := hl.party.handler t.stream rfl
      cases Tab.step_tabStep htab with
      | stream _ st' hst => exact hsound.stream hw hstream hl.party.follows hst
      | status pc hpc =>
          exact ⟨hsound.delivered_le, fun r hr => StatusPC.step_reported hw hpc hsound.reported hr,
            hsound.before, hsound.after, hsound.settled⟩
      | frame f hf => exact hsound.frame hstream hf
      | answer hact answer hanswer =>
          refine hsound.answer hstream hbegins hanswer ?_
          intro resp hresp sub hsub href
          refine hown.2.2 (t, resp) ?_ sub hsub href
          show JobParty.answered e (.tab t) = some (t, resp)
          unfold JobParty.answered
          simp only [hact, if_true, hanswer, hresp]
      | socketError =>
          exact ⟨hsound.delivered_le, hsound.reported, hsound.before, hsound.after, hsound.settled⟩
  | _ =>
      obtain ⟨r, _, heq⟩ := Option.map_eq_some_iff.mp hstep
      cases heq
      cases ht'

theorem JobParty.Views.other_step {e : JobEnv} {w w' : JobWorld} {l l' m : JobParty}
    (hown : (inStep ref).own e w l) (hstep : l.step jsonText e w = some (w', l')) (hw : w.Sound)
    (hm : m.Views ref w)
    (hapart : ∀ s t, l.subscription = some s → m.subscription = some t → s.Apart t) :
    m.Views ref w' := by
  have heff := (JobParty.step_acquires hstep).effect
  refine ⟨hm.party.other_step hown.1 hstep hw hapart, ?_⟩
  intro t ht
  have hfollows : ∀ sub, t.stream.subscription = some sub → sub.Follows w := by
    intro sub hsub
    apply hm.party.follows
    rw [ht]
    exact hsub
  have hstream : t.stream.Sound ref w := by
    apply hm.party.handler
    rw [ht]
    rfl
  exact (hm.tab t ht).mono hstream hfollows (heff.state hw) (heff.written hw)

/-- The outline of the runs in step. -/
def viewOutline (ref : Nat) : Outline (jobMachine jsonText) (inStep ref) where
  shared := fun w => w.Sound ∧ ∀ x ∈ (w.chans ref).sent, Begins x
  party := JobParty.Views ref
  pair := fun _ l m => ∀ s t, l.subscription = some s → m.subscription = some t → s.Apart t
  pair_symm := JobParty.apart_symm
  own_step := fun _ hown hstep hw hl =>
    ⟨⟨(JobParty.step_acquires hstep).effect.sound hw.1,
      JobParty.step_begins hstep hw.1 hown.2.1 hw.2⟩, hl.own_step hown hstep hw.1 hw.2⟩
  other_step := fun _ hown _ hstep hw _ hm hpair =>
    ⟨JobParty.Views.other_step hown hstep hw.1 hm hpair,
      JobParty.Sound.apart_step hstep hm.party hpair⟩
  bystanders := fun _ _ _ _ _ _ _ _ _ hmn => hmn

theorem JobParty.views_of_unstarted {w : JobWorld} {l : JobParty} (h : l.unstarted = true) :
    l.Views ref w := by
  refine ⟨JobParty.sound_of_unstarted h, ?_⟩
  intro t ht
  rw [ht] at h
  obtain ⟨hpc, hframes, hdelivered, hstatus, hview⟩ := of_decide_eq_true h
  refine ⟨?_, ?_, ?_, ?_, ?_⟩
  · rw [hdelivered]
    exact Nat.zero_le _
  · intro r hr
    rw [hstatus] at hr
    cases hr
  · intro _ _
    refine ⟨[], ?_, fun hne => absurd rfl hne⟩
    rw [hview]
    rfl
  · intro _ sub hsub
    unfold Stream.subscription at hsub
    rw [hpc] at hsub
    cases hsub
  · intro _ sub hset
    unfold Stream.settled at hset
    rw [hpc] at hset
    cases hset

theorem JobOpening.viewed {c : Config JobWorld JobParty ι} (h : JobOpening c) :
    (viewOutline ref).Holds c := by
  refine ⟨?_, fun i => JobParty.views_of_unstarted (h.parties i), ?_⟩
  · obtain ⟨id, action, now, hjob⟩ := h.job
    rw [hjob]
    exact ⟨JobWorld.sound_fresh id action now, fun x hx => by cases hx⟩
  · intro i j _ s t hs
    rw [JobParty.subscription_of_unstarted (h.parties i)] at hs
    cases hs

/-- What was kept at a position, and everything behind it. -/
theorem rtake_take_append_drop {bytes : Bytes} {n : Nat} (h : n ≤ bytes.length) (k : Nat) :
    (bytes.take n).rtake k ++ bytes.drop n = bytes.drop (n - k) := by
  have hsplit : (bytes.take n ++ bytes.drop n).drop (n - k)
      = (bytes.take n).drop (n - k) ++ bytes.drop n := by
    apply List.drop_append_of_le_length
    rw [List.length_take_of_le h]
    exact Nat.sub_le n k
  rw [List.take_append_drop] at hsplit
  unfold List.rtake
  rw [List.length_take_of_le h, hsplit]

/-- The tab shows the text of the job's output (the last 512 KiB at the moment of its
subscription and everything written since, as one text) and its final state. -/
structure Subscription.Displayed (w : JobWorld) (sub : Subscription) (v : JobView) : Prop where
  output : v.output = jsonText (w.written.drop (sub.start - defaultBufferSize))
  state : v.state = .job w.job.state ∧ w.job.state ≠ .running

/-- **THE JOB VIEW CONVERGES**: when its stream has returned and every frame has been
delivered, a tab shows the whole job, if its client keeps up, what is written since its
subscription is cut between characters, and the REST answer, when it arrives, arrives at a
harmless moment. -/
theorem job_view_converges [DecidableEq ι] {c c' : Config JobWorld JobParty ι}
    (hopening : JobOpening c) {sub : Subscription}
    (hruns : (jobMachine jsonText).Runs (inStep sub.ref) c c') {i : ι} {t : Tab}
    (htab : c'.locals i = .tab t) (hret : t.stream.pc = .returned (some sub))
    (hconn : t.stream.connected = true) (hframes : t.delivered = t.stream.frames.length) :
    sub.Displayed c'.shared t.view := by
  have hend := (viewOutline sub.ref).runs hruns hopening.viewed
  have hbegins := hend.shared.2
  have hparty := hend.party i
  have hsound := hparty.tab t htab
  have hstream : t.stream.Sound sub.ref c'.shared := by
    apply hparty.party.handler
    rw [htab]
    rfl
  have hset : t.stream.settled = some sub := by
    unfold Stream.settled
    rw [hret]
  have hsub := Stream.subscription_of_settled hset
  have hfollows : sub.Follows c'.shared := by
    apply hparty.party.follows
    rw [htab]
    exact hsub
  have htold := hstream.told hconn hset rfl
  have hstreamed := htold.streamed hfollows
  refine ⟨?_, hsound.settled hconn sub hset rfl hframes, hfollows.ended htold.closed⟩
  -- the frames have brought the buffer and what was written since
  have hbytes : outputs t.stream.frames
      = c'.shared.written.drop (sub.start - defaultBufferSize) := by
    rw [hstreamed.carried, hstreamed.buffered]
    exact rtake_take_append_drop hfollows.start_le _
  rw [← hbytes, ← htold.carried.shown_jsonText hbegins]
  rcases hsound.after hconn sub hsub rfl with ⟨_, hnone⟩ | hview
  · -- the last frame has been delivered, so at least one has
    have hlast := htold.last
    rw [List.eq_nil_of_length_eq_zero (hframes.symm.trans hnone)] at hlast
    cases hlast
  · rw [hview, hframes, List.take_length]

end Convergence

section Schedules

/-- A job, its goroutine and one tab. -/
def oneTab : Config JobWorld JobParty Bool where
  shared := .fresh (newJob "j" "updates.apply" ⟨second, Nat.le_refl _⟩)
  locals := fun i => if i then .goroutine else .tab ⟨⟨"j", .get, [], true⟩, 0, .get, .initial⟩

theorem oneTab_opening : JobOpening oneTab := by
  refine ⟨⟨_, _, _, rfl⟩, ?_⟩
  intro i
  cases i <;> decide +kernel

/-- `jobStatusHandler` from its first statement to its answer. -/
def statusCall (seconds : Nat) : List (Bool × JobEnv) :=
  List.replicate 5 (false, jobEnv seconds .status)

/-- The tab asks before anything is written and has the answer before the first frame. -/
theorem job_view_converges_in_turn :
    let sched : List (Bool × JobEnv) :=
      statusCall 0 ++ [(true, jobEnv 1 (.write [97])), (false, jobEnv 2 .next),
       (false, jobEnv 3 .next), (false, jobEnv 4 .deliverStatus), (false, jobEnv 5 .next),
       (false, jobEnv 6 .next), (true, jobEnv 7 (.write [0xC3, 0xA9])),
       (true, jobEnv 8 (.returns none)), (true, jobEnv 9 .next), (true, jobEnv 10 .next),
       (false, jobEnv 11 (.select .chunk)), (false, jobEnv 12 (.select .done)),
       (false, jobEnv 13 .next)]
        ++ List.replicate 4 (false, jobEnv 14 .deliverFrame)
    let c := (jobMachine jsonText).after (inStep 0) sched oneTab
    let view : JobView := ⟨"aé", .job .succeeded, none⟩
    (c.locals false) = .tab ⟨⟨"j", .returned (some ⟨[97], 0, some 0, 1⟩),
        [.snapshot [97], .state (.job .running), .chunk [0xC3, 0xA9], .state (.job .succeeded)],
        true⟩, 4, .delivered, view⟩
      ∧ Subscription.Displayed c.shared ⟨[97], 0, some 0, 1⟩ view := by
  intro sched c view
  have hruns : (jobMachine jsonText).Runs
      (inStep (Subscription.mk [97] 0 (some 0) 1).ref) oneTab c :=
    Machine.runs_after (by decide +kernel)
  have htab : (c.locals false) = .tab ⟨⟨"j", .returned (some ⟨[97], 0, some 0, 1⟩),
      [.snapshot [97], .state (.job .running), .chunk [0xC3, 0xA9], .state (.job .succeeded)],
      true⟩, 4, .delivered, view⟩ := by decide +kernel
  exact ⟨htab, job_view_converges oneTab_opening hruns htab rfl rfl rfl⟩

/-- **The view does not converge.**  In the first schedule the tab is answered while
nothing is written yet, and the answer arrives after the last frame: the output is gone and
the job runs for ever.  In the second it subscribes before the first write and is answered
after it, and the answer arrives before the chunk: the output is shown twice.  In the third
the answer has arrived before anything else happens, and `é` is written in two pieces: it is
shown as two U+FFFD. -/
theorem job_view_overwritten :
    (let sched : List (Bool × JobEnv) :=
      statusCall 0 ++ List.replicate 4 (false, jobEnv 1 .next)
       ++ [(true, jobEnv 2 (.write [97])), (true, jobEnv 3 (.returns none)), (true, jobEnv 4 .next),
        (true, jobEnv 5 .next), (false, jobEnv 6 (.select .chunk)),
        (false, jobEnv 7 (.select .done)), (false, jobEnv 8 .next)]
       ++ List.replicate 3 (false, jobEnv 9 .deliverFrame) ++ [(false, jobEnv 10 .deliverStatus)]
     let c := (jobMachine jsonText).after (attentive 0) sched oneTab
     let view : JobView := ⟨"", .job .running, none⟩
     (jobMachine jsonText).Runs (attentive 0) oneTab c
      ∧ c.locals false = .tab ⟨⟨"j", .returned (some ⟨[], 0, some 0, 0⟩),
          [.state (.job .running), .chunk [97], .state (.job .succeeded)], true⟩, 3, .delivered,
          view⟩
      ∧ ¬ Subscription.Displayed c.shared ⟨[], 0, some 0, 0⟩ view)
    ∧ (let sched : List (Bool × JobEnv) :=
      List.replicate 4 (false, jobEnv 0 .next) ++ [(true, jobEnv 1 (.write [97]))]
       ++ statusCall 2 ++ [(false, jobEnv 3 .deliverStatus), (true, jobEnv 4 (.returns none)),
        (true, jobEnv 5 .next), (true, jobEnv 6 .next), (false, jobEnv 7 (.select .chunk)),
        (false, jobEnv 8 (.select .done)), (false, jobEnv 9 .next)]
       ++ List.replicate 3 (false, jobEnv 10 .deliverFrame)
     let c := (jobMachine jsonText).after (attentive 0) sched oneTab
     let view : JobView := ⟨"aa", .job .succeeded, none⟩
     (jobMachine jsonText).Runs (attentive 0) oneTab c
      ∧ c.locals false = .tab ⟨⟨"j", .returned (some ⟨[], 0, some 0, 0⟩),
          [.state (.job .running), .chunk [97], .state (.job .succeeded)], true⟩, 3, .delivered,
          view⟩
      ∧ c.shared.written = [97] ∧ ¬ Subscription.Displayed c.shared ⟨[], 0, some 0, 0⟩ view)
    ∧ (let sched : List (Bool × JobEnv) :=
      statusCall 0 ++ [(false, jobEnv 1 .deliverStatus)] ++ List.replicate 4 (false, jobEnv 2 .next)
       ++ [(true, jobEnv 3 (.write [0xC3])), (true, jobEnv 4 (.write [0xA9])),
        (true, jobEnv 5 (.returns none)), (true, jobEnv 6 .next), (true, jobEnv 7 .next),
        (false, jobEnv 8 (.select .chunk)), (false, jobEnv 9 (.select .chunk)),
        (false, jobEnv 10 (.select .done)), (false, jobEnv 11 .next)]
       ++ List.replicate 4 (false, jobEnv 12 .deliverFrame)
     let c := (jobMachine jsonText).after (attentive 0) sched oneTab
     let view : JobView := ⟨String.ofList [replacement, replacement], .job .succeeded, none⟩
     (jobMachine jsonText).Runs (attentive 0) oneTab c
      ∧ c.locals false = .tab ⟨⟨"j", .returned (some ⟨[], 0, some 0, 0⟩),
          [.state (.job .running), .chunk [0xC3], .chunk [0xA9], .state (.job .succeeded)], true⟩,
          4, .delivered, view⟩
      ∧ c.shared.written = utf8 ['é']
      ∧ ¬ Subscription.Displayed c.shared ⟨[], 0, some 0, 0⟩ view) := by
  refine ⟨⟨Machine.runs_after (by decide +kernel), by decide +kernel, ?_⟩,
    ⟨Machine.runs_after (by decide +kernel), by decide +kernel, by decide +kernel, ?_⟩,
    ⟨Machine.runs_after (by decide +kernel), by decide +kernel, by decide +kernel, ?_⟩⟩
  · intro h
    exact absurd h.state (by decide +kernel)
  · intro h
    exact absurd h.output (by decide +kernel)
  · intro h
    exact absurd h.output (by decide +kernel)

end Schedules

end ControlRoom
