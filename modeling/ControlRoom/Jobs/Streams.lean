/-
  ControlRoom.Jobs.Streams
  ────────────────────────
  **WHAT THE JOB WEBSOCKET DELIVERS.**

  `jobStreamWS` loses output in two ways: a `Write` drops the listener when
  its channel is full, and the `select` may take `<-job.Done()` while chunks
  are still buffered.  If neither happens to a client that stays connected
  (`attentive`), it gets the whole job.

    §1  frames, and the condition,
    §2  what somebody else's statement does to a channel,
    §3  the assertions of a handler,
    §4  the proof outline,
    §5  the theorem, and the schedules that break the condition.
-/
import ControlRoom.Jobs.Listeners

namespace ControlRoom

open Foundation

/-! ## §1. Frames. -/

/-- The `output` of a frame. -/
def Frame.output : Frame → Bytes
  | .snapshot output => output
  | .chunk output => output
  | .state _ => []

/-- The outputs of the frames, one after the other. -/
def outputs (frames : List Frame) : Bytes := (frames.map Frame.output).flatten

theorem outputs_concat (frames : List Frame) (f : Frame) :
    outputs (frames ++ [f]) = outputs frames ++ f.output := by
  unfold outputs
  rw [List.map_append, List.flatten_append]
  simp

/-- The frames before the first state: a snapshot frame, unless there is no output
yet. -/
def Subscription.opening (sub : Subscription) : List Frame :=
  if sub.snapshot = [] then [] else [.snapshot sub.snapshot]

/-- Frames that carry the snapshot of a subscription and then these chunks. -/
inductive Carries (sub : Subscription) : List Bytes → List Frame → Prop
  | opening : Carries sub [] sub.opening
  | chunk {chunks : List Bytes} {frames : List Frame} (x : Bytes)
      (h : Carries sub chunks frames) : Carries sub (chunks ++ [x]) (frames ++ [.chunk x])
  | state {chunks : List Bytes} {frames : List Frame} (s : FrameState)
      (h : Carries sub chunks frames) : Carries sub chunks (frames ++ [.state s])

theorem Carries.outputs {sub : Subscription} {chunks : List Bytes} {frames : List Frame}
    (h : Carries sub chunks frames) : outputs frames = sub.snapshot ++ chunks.flatten := by
  induction h with
  | opening =>
      unfold Subscription.opening
      by_cases hnil : sub.snapshot = []
      · rw [if_pos hnil, hnil]
        rfl
      · rw [if_neg hnil]
        rfl
  | chunk x _ ih =>
      rw [outputs_concat, ih, List.flatten_append, List.append_assoc]
      simp [Frame.output]
  | state s _ ih =>
      rw [outputs_concat, ih]
      exact List.append_nil _

/-- The subscription of a handler about to take the case `<-job.Done()`. -/
def JobParty.quits (e : JobEnv) (l : JobParty) : Option Subscription :=
  match l.handler with
  | none => none
  | some st =>
      match st.pc with
      | .loop sub => if e.act = .select .done then some sub else none
      | _ => none

/-- No `Write` finds the channel `ref` full, and the handler that listens on it takes
the case `<-job.Done()` only when no chunk is left in the channel. -/
def attentive (ref : Nat) : Guard JobEnv JobWorld JobParty where
  own := fun e w l =>
    (l.writes e = true → ref ∈ w.job.listeners.map Prod.snd → ¬ (w.chans ref).full)
      ∧ (∀ sub ∈ l.quits e, sub.ref = ref → (w.chans ref).buffered = [])
  pair := fun _ _ _ _ => True

instance (ref : Nat) (e : JobEnv) (w : JobWorld) (l : JobParty) :
    Decidable ((attentive ref).own e w l) :=
  inferInstanceAs (Decidable (_ ∧ (∀ sub ∈ l.quits e, _)))

instance (ref : Nat) (e : JobEnv) (w : JobWorld) (l m : JobParty) :
    Decidable ((attentive ref).pair e w l m) :=
  inferInstanceAs (Decidable True)

/-! ## §2. Bystanders. -/

/-- Different channels and different listeners. -/
structure Subscription.Apart (s t : Subscription) : Prop where
  refs : s.ref ≠ t.ref
  listeners : ∀ id, s.listener = some id → t.listener ≠ some id

/-- What somebody else may do to the channel of a listener that keeps up: send on it,
or close it at the end of the job; then nothing more is sent. -/
structure Continues (c c' : Chan Bytes Closer) : Prop where
  received : c'.received = c.received
  sent : c.sent <+: c'.sent
  closed : c'.closedBy = c.closedBy ∨ (c.closedBy = none ∧ c'.closedBy = some .completion)
  ended : c.closedBy = some .completion → c'.sent = c.sent

theorem Continues.refl (c : Chan Bytes Closer) : Continues c c :=
  ⟨rfl, List.prefix_refl _, .inl rfl, fun _ => rfl⟩

theorem Continues.of_eq {c c' : Chan Bytes Closer} (h : c' = c) : Continues c c' :=
  h ▸ .refl c

section Bystanders

variable {w w' : JobWorld} {writes : Bool} {own : Option Subscription} {sub : Subscription}

/-- **Somebody else's statement** only continues the channel of a listener that keeps
up. -/
theorem JobEffect.continues (h : JobEffect writes own w w') (hw : w.Sound)
    (hsub : sub.Follows w)
    (hroom : writes = true → sub.ref ∈ w.job.listeners.map Prod.snd → ¬ (w.chans sub.ref).full)
    (hapart : ∀ s, own = some s → s.Apart sub) :
    Continues (w.chans sub.ref) (w'.chans sub.ref) := by
  cases h with
  | same => exact .refl _
  | wrote p hwrites hrun =>
      rw [hw.toWired.write p]
      show Continues (w.chans sub.ref) ((w.wrote p).chans sub.ref)
      by_cases hmem : sub.ref ∈ w.job.listeners.map Prod.snd
      · have hfull := hroom hwrites hmem
        obtain ⟨l, hl, href⟩ := List.mem_map.mp hmem
        have hopen : (w.chans sub.ref).closedBy = none := href ▸ hw.opened l hl
        rw [JobWorld.wrote_chan_of_mem hmem, offered_of_room hfull]
        refine ⟨List.take_append_of_le_length (w.chans sub.ref).taken_le,
          List.prefix_append _ _, .inl rfl, ?_⟩
        intro hend
        rw [hopen] at hend
        cases hend
      · exact .of_eq (JobWorld.wrote_chan_of_not_mem hmem)
  | returned res hrun => exact .refl _
  | finished now res hret =>
      rw [hw.toWired.finish now res]
      show Continues (w.chans sub.ref) ((w.hungUp now res).chans sub.ref)
      by_cases hmem : sub.ref ∈ w.job.listeners.map Prod.snd
      · obtain ⟨l, hl, href⟩ := List.mem_map.mp hmem
        have hopen : (w.chans sub.ref).closedBy = none := href ▸ hw.opened l hl
        have hchan : (w.hungUp now res).chans sub.ref = (w.chans sub.ref).shut .completion :=
          if_pos hmem
        rw [hchan]
        exact ⟨rfl, List.prefix_refl _, .inr ⟨hopen, rfl⟩, fun _ => rfl⟩
      · exact .of_eq (if_neg hmem)
  | exited hfin => exact .refl _
  | subscribed => exact .of_eq (JobWorld.subscribe_chan_of_lt hsub.known)
  | unsubscribed s hown =>
      rcases hw.toWired.unsubscribe s with ⟨id, ref, hid, hmem, heq⟩ | heq
      · rw [heq]
        refine .of_eq (JobWorld.dropped_chan_of_ne ?_)
        intro href
        -- the removed listener would be that of `sub`
        have hopen : (w.chans sub.ref).closedBy = none := by
          rw [href]
          exact hw.opened _ hmem
        obtain ⟨id', hid', hmem'⟩ := hsub.mapped hopen
        have hpair := hw.toWired.eq_of_ref hmem hmem' href.symm
        have hsame : id = id' := congrArg Prod.fst hpair
        exact (hapart s hown).listeners id hid (hsame ▸ hid')
      · rw [heq]
        exact .refl _
  | received s hown r w' hrec =>
      obtain ⟨c, _, heq⟩ := JobWorld.receive_eq_some hrec
      have hne : sub.ref ≠ s.ref := fun h => (hapart s hown).refs h.symm
      refine .of_eq ?_
      rw [heq]
      exact Function.update_of_ne hne _ _

/-- A state that is final stays. -/
theorem JobEffect.state (h : JobEffect writes own w w') (hw : w.Sound)
    (hend : w.job.state ≠ .running) : w'.job.state = w.job.state := by
  cases h with
  | same => rfl
  | wrote p hwrites hrun => exact absurd (hw.running hrun) hend
  | returned res hrun => rfl
  | finished now res hret => exact absurd (hw.returned res hret) hend
  | exited hfin => rfl
  | subscribed => exact JobWorld.subscribe_rest.2.1
  | unsubscribed s hown =>
      rcases hw.toWired.unsubscribe s with ⟨id, ref, _, _, heq⟩ | heq
      · rw [heq]
        rfl
      · rw [heq]
        rfl
  | received s hown r w' hrec =>
      obtain ⟨c, _, heq⟩ := JobWorld.receive_eq_some hrec
      rw [heq]
      rfl

end Bystanders

/-! ## §3. The handler. -/

/-- The channel is open, or the end of the job has closed it. -/
def Lasting (c : Chan Bytes Closer) : Prop :=
  c.closedBy = none ∨ c.closedBy = some .completion

theorem Continues.lasting {c c' : Chan Bytes Closer} (h : Continues c c') (hc : Lasting c) :
    Lasting c' := by
  rcases h.closed with hsame | ⟨_, hend⟩
  · unfold Lasting
    rw [hsame]
    exact hc
  · exact .inr hend

/-- The frames carry the whole job, and the last one its final state. -/
structure Told (w : JobWorld) (frames : List Frame) (sub : Subscription) : Prop where
  closed : (w.chans sub.ref).closedBy = some .completion
  carried : Carries sub (w.chans sub.ref).sent frames
  last : frames.getLast? = some (.state (.job w.job.state))

/-- What holds of a handler whose client stays connected and that listens on the
channel `ref`. -/
def Stream.Sound (ref : Nat) (w : JobWorld) (st : Stream) : Prop :=
  st.connected = true →
    match st.pc with
    | .get => st.frames = []
    | .subscribe => st.frames = []
    | .snapshot sub => sub.ref = ref →
        st.frames = [] ∧ (w.chans sub.ref).received = [] ∧ Lasting (w.chans sub.ref)
    | .state sub => sub.ref = ref →
        Carries sub [] st.frames ∧ (w.chans sub.ref).received = [] ∧ Lasting (w.chans sub.ref)
    | .loop sub => sub.ref = ref →
        Carries sub (w.chans sub.ref).received st.frames ∧ Lasting (w.chans sub.ref)
    | .unsubscribe sub => sub.ref = ref → Told w st.frames sub
    | .returned none => True
    | .returned (some sub) => sub.ref = ref → Told w st.frames sub

section Handler

variable {act : JobAct} {w w' : JobWorld} {st st' : Stream} {ref : Nat} {sub : Subscription}

theorem Told.continues (h : Told w st.frames sub) (hsub : sub.Follows w)
    (hchan : Continues (w.chans sub.ref) (w'.chans sub.ref))
    (hstate : w.job.state ≠ .running → w'.job.state = w.job.state) : Told w' st.frames sub := by
  refine ⟨?_, ?_, ?_⟩
  · rcases hchan.closed with hsame | ⟨_, hend⟩
    · exact hsame.trans h.closed
    · exact hend
  · rw [hchan.ended h.closed]
    exact h.carried
  · rw [hstate (hsub.ended h.closed)]
    exact h.last

/-- **Somebody else's statement** keeps the assertion of a handler. -/
theorem Stream.Sound.continues (h : st.Sound ref w)
    (hsub : ∀ s, st.subscription = some s → s.Follows w)
    (hchan : ∀ s, st.subscription = some s → s.ref = ref →
      Continues (w.chans s.ref) (w'.chans s.ref))
    (hstate : w.job.state ≠ .running → w'.job.state = w.job.state) : st.Sound ref w' := by
  intro hconn
  have hold := h hconn
  unfold Stream.subscription at hsub hchan
  cases hpc : st.pc with
  | get =>
      rw [hpc] at hold
      exact hold
  | subscribe =>
      rw [hpc] at hold
      exact hold
  | snapshot s =>
      rw [hpc] at hold hchan
      intro href
      obtain ⟨hframes, hrec, hlast⟩ := hold href
      have hc := hchan s rfl href
      exact ⟨hframes, hc.received.trans hrec, hc.lasting hlast⟩
  | state s =>
      rw [hpc] at hold hchan
      intro href
      obtain ⟨hframes, hrec, hlast⟩ := hold href
      have hc := hchan s rfl href
      exact ⟨hframes, hc.received.trans hrec, hc.lasting hlast⟩
  | loop s =>
      rw [hpc] at hold hchan
      intro href
      obtain ⟨hframes, hlast⟩ := hold href
      have hc := hchan s rfl href
      refine ⟨?_, hc.lasting hlast⟩
      rw [hc.received]
      exact hframes
  | unsubscribe s =>
      rw [hpc] at hold hchan hsub
      intro href
      exact (hold href).continues (hsub s rfl) (hchan s rfl href) hstate
  | returned s =>
      rw [hpc] at hold hchan hsub
      cases s with
      | none => trivial
      | some s =>
          intro href
          exact (hold href).continues (hsub s rfl) (hchan s rfl href) hstate

/-- The channel of a new subscription. -/
theorem JobWorld.subscribe_chan_new :
    w.subscribe.1.chans w.subscribe.2.ref = (Chan.make 0).shut .completion
      ∨ w.subscribe.1.chans w.subscribe.2.ref = .make listenerBuffer := by
  unfold JobWorld.subscribe
  by_cases hstate : w.job.state ≠ .running
  · rw [if_pos hstate]
    exact .inl (Function.update_self _ _ _)
  · rw [if_neg hstate]
    exact .inr (Function.update_self _ _ _)

/-- Once the job has ended the map is empty, so no listener's channel is open. -/
theorem Subscription.Follows.closed (h : sub.Follows w) (hw : w.Sound)
    (hend : w.job.state ≠ .running) (hlast : Lasting (w.chans sub.ref)) :
    (w.chans sub.ref).closedBy = some .completion := by
  rcases hlast with hopen | hclosed
  · obtain ⟨id, _, hmem⟩ := h.mapped hopen
    rw [hw.ended hend] at hmem
    cases hmem
  · exact hclosed

/-- The end of the job has removed the listener already. -/
theorem Subscription.Follows.unsubscribe_ended (h : sub.Follows w) (hw : w.Sound)
    (hclosed : (w.chans sub.ref).closedBy = some .completion) : w.unsubscribe sub = .ok w := by
  have hempty := hw.ended (h.ended hclosed)
  rcases hw.toWired.unsubscribe sub with ⟨id, r, _, hmem, _⟩ | heq
  · rw [hempty] at hmem
    cases hmem
  · exact heq

/-- The last frame, once the channel has been emptied. -/
theorem Told.of_drained (hdrained : (w.chans sub.ref).buffered = [])
    (hclosed : (w.chans sub.ref).closedBy = some .completion) {frames : List Frame}
    (hframes : Carries sub (w.chans sub.ref).received frames) :
    Told w (frames ++ [.state (.job w.job.state)]) sub := by
  refine ⟨hclosed, ?_, List.getLast?_concat⟩
  rw [← Chan.received_of_buffered_nil hdrained]
  exact hframes.state _

/-- **The handler's own statement** keeps its assertion, if it does not leave chunks
behind. -/
theorem StreamStep.own_sound (h : StreamStep act w st w' st') (hw : w.Sound)
    (hsub : ∀ s, st.subscription = some s → s.Follows w)
    (hdrained : ∀ s, act = .select .done → st.pc = .loop s → s.ref = ref →
      (w.chans s.ref).buffered = [])
    (hs : st.Sound ref w) : st'.Sound ref w' := by
  intro hconn
  cases h with
  | disconnected => cases hconn
  | found hpc =>
      have hold := hs hconn
      rw [hpc] at hold
      exact hold
  | notFound hpc frames hframes => trivial
  | subscribed hpc =>
      have hold := hs hconn
      rw [hpc] at hold
      intro _
      rcases JobWorld.subscribe_chan_new (w := w) with hchan | hchan
      · refine ⟨hold, ?_⟩
        rw [hchan]
        exact ⟨rfl, .inr rfl⟩
      · refine ⟨hold, ?_⟩
        rw [hchan]
        exact ⟨rfl, .inl rfl⟩
  | snapshot sub hpc hne =>
      have hold := hs hconn
      rw [hpc] at hold
      intro href
      obtain ⟨hframes, hrest⟩ := hold href
      refine ⟨?_, hrest⟩
      show Carries sub [] (st.frames ++ [.snapshot sub.snapshot])
      have hopening : sub.opening = [.snapshot sub.snapshot] := if_neg hne
      rw [hframes, List.nil_append, ← hopening]
      exact .opening
  | noSnapshot sub hpc hnil =>
      have hold := hs hconn
      rw [hpc] at hold
      intro href
      obtain ⟨hframes, hrest⟩ := hold href
      refine ⟨?_, hrest⟩
      show Carries sub [] st.frames
      have hopening : sub.opening = [] := if_pos hnil
      rw [hframes, ← hopening]
      exact .opening
  | state sub hpc =>
      have hold := hs hconn
      rw [hpc] at hold
      intro href
      obtain ⟨hframes, hrec, hlast⟩ := hold href
      refine ⟨?_, hlast⟩
      rw [hrec]
      exact hframes.state _
  | pinged sub hpc => exact hs hconn
  | chunk sub x w' hpc hrec =>
      have hold := hs hconn
      rw [hpc] at hold
      intro href
      obtain ⟨hframes, hlast⟩ := hold href
      refine ⟨?_, ?_⟩
      · rw [JobWorld.receive_value hrec]
        exact hframes.chunk x
      · unfold Lasting
        rw [(JobWorld.receive_chan hrec sub.ref).2]
        exact hlast
  | closed sub w' hpc hrec =>
      have hold := hs hconn
      rw [hpc] at hold
      intro href
      obtain ⟨hframes, hlast⟩ := hold href
      obtain ⟨hworld, hnil, hclosed⟩ := JobWorld.receive_closed hrec
      have hend : (w.chans sub.ref).closedBy = some .completion := by
        rcases hlast with hopen | hend
        · exact absurd hopen hclosed
        · exact hend
      rw [hworld]
      exact Told.of_drained hnil hend hframes
  | done sub hact hpc hdone =>
      have hold := hs hconn
      rw [hpc] at hold
      intro href
      obtain ⟨hframes, hlast⟩ := hold href
      have hend : w.job.state ≠ .running := hw.exited (hw.done hdone)
      have hfollows := hsub sub (Stream.subscription_of_loop hpc)
      exact Told.of_drained (hdrained sub hact hpc href) (hfollows.closed hw hend hlast) hframes
  | lost sub w' hsub' hgone hw' =>
      have hgone' : st.connected = true := hconn
      rw [hgone] at hgone'
      cases hgone'
  | unsubscribed sub hpc =>
      have hold := hs hconn
      rw [hpc] at hold
      intro href
      have hfollows : sub.Follows w := by
        refine hsub sub ?_
        unfold Stream.subscription
        rw [hpc]
      have htold := hold href
      have hsame := hfollows.unsubscribe_ended hw htold.closed
      rw [hsame]
      exact htold

end Handler

/-! ## §4. The outline. -/

theorem Subscription.Apart.symm {s t : Subscription} (h : s.Apart t) : t.Apart s :=
  ⟨fun heq => h.refs heq.symm, fun id ht hs => h.listeners id hs ht⟩

theorem JobWorld.subscribe_new (w : JobWorld) :
    w.subscribe.2.ref = w.nextChan
      ∧ ∀ id, w.subscribe.2.listener = some id →
          id = w.job.nextLis ∧ w.subscribe.1.job.nextLis = w.job.nextLis + 1 := by
  unfold JobWorld.subscribe
  by_cases hstate : w.job.state ≠ .running
  · rw [if_pos hstate]
    exact ⟨rfl, fun id hid => by cases hid⟩
  · rw [if_neg hstate]
    refine ⟨rfl, ?_⟩
    intro id hid
    cases hid
    exact ⟨rfl, rfl⟩

theorem JobEffect.nextLis {writes : Bool} {own : Option Subscription} {w w' : JobWorld}
    (h : JobEffect writes own w w') (hw : w.Sound) : w.job.nextLis ≤ w'.job.nextLis := by
  cases h with
  | same => exact Nat.le_refl _
  | wrote p hwrites hrun =>
      rw [hw.toWired.write p]
      exact Nat.le_refl _
  | returned res hrun => exact Nat.le_refl _
  | finished now res hret =>
      rw [hw.toWired.finish now res]
      exact Nat.le_refl _
  | exited hfin => exact Nat.le_refl _
  | subscribed =>
      unfold JobWorld.subscribe
      by_cases hstate : w.job.state ≠ .running
      · rw [if_pos hstate]
        exact Nat.le_refl _
      · rw [if_neg hstate]
        exact Nat.le_succ _
  | unsubscribed s hown =>
      rcases hw.toWired.unsubscribe s with ⟨id, ref, _, _, heq⟩ | heq
      · rw [heq]
        exact Nat.le_refl _
      · rw [heq]
        exact Nat.le_refl _
  | received s hown r w' hrec =>
      obtain ⟨c, _, heq⟩ := JobWorld.receive_eq_some hrec
      rw [heq]
      exact Nat.le_refl _

/-- What holds of a party with respect to the channel `ref`. -/
structure JobParty.Sound (ref : Nat) (w : JobWorld) (l : JobParty) : Prop where
  follows : ∀ sub, l.subscription = some sub → sub.Follows w
  listener : ∀ sub id, l.subscription = some sub → sub.listener = some id → id < w.job.nextLis
  handler : ∀ st, l.handler = some st → st.Sound ref w

/-- A party's handler has taken a statement, or neither it nor the job has changed. -/
theorem JobParty.step_handler {text : Bytes → String} {e : JobEnv} {w w' : JobWorld}
    {l l' : JobParty} {st' : Stream} (h : l.step text e w = some (w', l'))
    (hst : l'.handler = some st') :
    ∃ st, l.handler = some st ∧ (StreamStep e.act w st w' st' ∨ (w' = w ∧ st' = st)) := by
  cases l with
  | goroutine =>
      obtain ⟨w₁, _, heq⟩ := Option.map_eq_some_iff.mp h
      cases heq
      cases hst
  | listener sub =>
      obtain ⟨⟨w₁, sub'⟩, _, heq⟩ := Option.map_eq_some_iff.mp h
      cases heq
      cases hst
  | stream st =>
      obtain ⟨⟨w₁, st₁⟩, hstep, heq⟩ := Option.map_eq_some_iff.mp h
      cases heq
      cases hst
      exact ⟨st, rfl, .inl (Stream.step_cases hstep)⟩
  | tab t =>
      obtain ⟨⟨w₁, t'⟩, hstep, heq⟩ := Option.map_eq_some_iff.mp h
      cases heq
      cases hst
      refine ⟨t.stream, rfl, ?_⟩
      rcases Tab.step_cases hstep with ⟨hstream, _⟩ | ⟨hw, hst⟩
      · exact .inl hstream
      · exact .inr ⟨hw, hst⟩

theorem Stream.subscription_of_handler {l : JobParty} {st : Stream} (h : l.handler = some st) :
    l.subscription = st.subscription := by
  cases l with
  | goroutine => cases h
  | listener sub => cases h
  | stream st₁ => cases h; rfl
  | tab t => cases h; rfl

section Steps

variable {text : Bytes → String} {ref : Nat} {e : JobEnv} {w w' : JobWorld} {l l' m : JobParty}

theorem JobParty.Sound.own_step (hown : (attentive ref).own e w l)
    (hstep : l.step text e w = some (w', l')) (hw : w.Sound) (hl : l.Sound ref w) :
    l'.Sound ref w' := by
  have h := JobParty.step_acquires hstep
  refine ⟨?_, ?_, ?_⟩
  · intro sub hsub
    cases h with
    | kept _ heff hkept =>
        rw [hkept] at hsub
        exact heff.follows hw (hl.follows sub hsub)
    | got _ hgot =>
        cases hgot.symm.trans hsub
        exact JobWorld.subscribe_follows hw
  · intro sub id hsub hid
    cases h with
    | kept _ heff hkept =>
        rw [hkept] at hsub
        exact Nat.lt_of_lt_of_le (hl.listener sub id hsub hid) (heff.nextLis hw)
    | got _ hgot =>
        cases hgot.symm.trans hsub
        obtain ⟨heq, hnext⟩ := (w.subscribe_new).2 id hid
        omega
  · intro st' hst'
    obtain ⟨st, hst, hcase⟩ := JobParty.step_handler hstep hst'
    have hsubs := Stream.subscription_of_handler hst
    rcases hcase with hstream | ⟨hsame, heq⟩
    · refine hstream.own_sound hw ?_ ?_ (hl.handler st hst)
      · intro s hs
        exact hl.follows s (hsubs.trans hs)
      · intro s hact hpc href
        have hquits : l.quits e = some s := by
          unfold JobParty.quits
          rw [hst]
          show (match st.pc with
            | .loop sub => if e.act = .select .done then some sub else none
            | _ => none) = some s
          rw [hpc]
          exact if_pos hact
        rw [href]
        exact hown.2 s hquits href
    · rw [hsame, heq]
      exact hl.handler st hst

theorem JobParty.Sound.other_step (hown : (attentive ref).own e w l)
    (hstep : l.step text e w = some (w', l')) (hw : w.Sound) (hm : m.Sound ref w)
    (hapart : ∀ s t, l.subscription = some s → m.subscription = some t → s.Apart t) :
    m.Sound ref w' := by
  have heff := (JobParty.step_acquires hstep).effect
  refine ⟨?_, ?_, ?_⟩
  · intro sub hsub
    exact heff.follows hw (hm.follows sub hsub)
  · intro sub id hsub hid
    exact Nat.lt_of_lt_of_le (hm.listener sub id hsub hid) (heff.nextLis hw)
  · intro st hst
    have hsubs := Stream.subscription_of_handler hst
    refine (hm.handler st hst).continues ?_ ?_ (heff.state hw)
    · intro s hs
      exact hm.follows s (hsubs.trans hs)
    · intro s hs href
      refine heff.continues hw (hm.follows s (hsubs.trans hs)) ?_ ?_
      · rw [href]
        exact hown.1
      · intro t ht
        exact hapart t s ht (hsubs.trans hs)

theorem JobParty.Sound.apart_step (hstep : l.step text e w = some (w', l'))
    (hm : m.Sound ref w)
    (hapart : ∀ s t, l.subscription = some s → m.subscription = some t → s.Apart t) :
    ∀ s t, l'.subscription = some s → m.subscription = some t → s.Apart t := by
  intro s t hs ht
  cases JobParty.step_acquires hstep with
  | kept _ _ hkept => exact hapart s t (hkept ▸ hs) ht
  | got _ hgot =>
      -- a new channel and a new id
      cases hgot.symm.trans hs
      obtain ⟨href, hid⟩ := w.subscribe_new
      refine ⟨?_, ?_⟩
      · rw [href]
        exact Nat.ne_of_gt (hm.follows t ht).known
      · intro id hnew hold
        have hlt := hm.listener t id ht hold
        have heq := (hid id hnew).1
        omega

end Steps

/-- Parties whose subscriptions are apart, told the other way. -/
theorem JobParty.apart_symm (_ : JobWorld) (l m : JobParty)
    (h : ∀ s t, l.subscription = some s → m.subscription = some t → s.Apart t) :
    ∀ s t, m.subscription = some s → l.subscription = some t → s.Apart t :=
  fun s t hs ht => (h t s ht hs).symm

/-- The outline of the runs in which the listener of `ref` is attended to. -/
def streamOutline (text : Bytes → String) (ref : Nat) :
    Outline (jobMachine text) (attentive ref) where
  shared := JobWorld.Sound
  party := JobParty.Sound ref
  pair := fun _ l m => ∀ s t, l.subscription = some s → m.subscription = some t → s.Apart t
  pair_symm := JobParty.apart_symm
  own_step := fun _ hown hstep hw hl =>
    ⟨(JobParty.step_acquires hstep).effect.sound hw, hl.own_step hown hstep hw⟩
  other_step := fun _ hown _ hstep hw _ hm hpair =>
    ⟨JobParty.Sound.other_step hown hstep hw hm hpair,
      JobParty.Sound.apart_step hstep hm hpair⟩
  bystanders := fun _ _ _ _ _ _ _ _ _ hmn => hmn

/-! ## §5. The theorem. -/

section Delivery

variable {ι : Type*} {text : Bytes → String}

theorem JobParty.sound_of_unstarted {ref : Nat} {w : JobWorld} {l : JobParty}
    (h : l.unstarted = true) : l.Sound ref w := by
  have hnone := JobParty.subscription_of_unstarted h
  refine ⟨?_, ?_, ?_⟩
  · intro sub hsub
    rw [hnone] at hsub
    cases hsub
  · intro sub id hsub
    rw [hnone] at hsub
    cases hsub
  · intro st hst _
    cases l with
    | goroutine => cases hst
    | listener sub => cases hst
    | stream st₁ =>
        cases hst
        obtain ⟨hpc, hframes⟩ := of_decide_eq_true h
        rw [hpc]
        exact hframes
    | tab t =>
        cases hst
        obtain ⟨hpc, hframes, _⟩ := of_decide_eq_true h
        rw [hpc]
        exact hframes

theorem JobOpening.attended {c : Config JobWorld JobParty ι} (h : JobOpening c) (ref : Nat) :
    (streamOutline text ref).Holds c := by
  refine ⟨?_, fun i => JobParty.sound_of_unstarted (h.parties i), ?_⟩
  · obtain ⟨id, action, now, hjob⟩ := h.job
    rw [hjob]
    exact JobWorld.sound_fresh id action now
  · intro i j _ s t hs
    rw [JobParty.subscription_of_unstarted (h.parties i)] at hs
    cases hs

/-- The frames of a handler that has returned carry the output that was buffered when
it subscribed and everything written since, and the last one a final state. -/
structure Subscription.Streamed (w : JobWorld) (sub : Subscription) (frames : List Frame) :
    Prop where
  buffered : sub.snapshot = (w.written.take sub.start).rtake defaultBufferSize
  carried : outputs frames = sub.snapshot ++ w.written.drop sub.start
  last : ∃ s, frames.getLast? = some (.state (.job s)) ∧ s ≠ .running

theorem Told.streamed {w : JobWorld} {frames : List Frame} {sub : Subscription}
    (h : Told w frames sub) (hsub : sub.Follows w) : sub.Streamed w frames := by
  obtain ⟨rest, hrest, _, hend⟩ := hsub.segment
  have hall := hend h.closed
  refine ⟨hsub.snapshot, ?_, w.job.state, h.last, hsub.ended h.closed⟩
  rw [h.carried.outputs]
  congr 1
  -- what follows the first `start` bytes is what has been sent
  have hdrop : w.written.take sub.start ++ w.written.drop sub.start
      = w.written.take sub.start ++ (w.chans sub.ref).sent.flatten := by
    rw [List.take_append_drop]
    conv_lhs => rw [hrest, hall, List.append_nil]
  exact (List.append_cancel_left hdrop).symm

/-- **THE JOB WEBSOCKET DELIVERS THE WHOLE JOB** to a client that stays connected, if no
`Write` finds the client's channel full and the handler does not leave chunks behind. -/
theorem job_stream_delivers [DecidableEq ι] {c c' : Config JobWorld JobParty ι}
    (hopening : JobOpening c) {sub : Subscription}
    (hruns : (jobMachine text).Runs (attentive sub.ref) c c') {i : ι} {st : Stream}
    (hst : (c'.locals i).handler = some st) (hret : st.pc = .returned (some sub))
    (hconn : st.connected = true) : sub.Streamed c'.shared st.frames := by
  have hend := (streamOutline text sub.ref).runs hruns (hopening.attended sub.ref)
  have hparty := hend.party i
  have hsound := hparty.handler st hst hconn
  rw [hret] at hsound
  refine (hsound rfl).streamed (hparty.follows sub ?_)
  rw [Stream.subscription_of_handler hst]
  unfold Stream.subscription
  rw [hret]

end Delivery

section Schedules

/-- A job, its goroutine and one client of `jobStreamWS`. -/
def oneStream : Config JobWorld JobParty Bool where
  shared := .fresh (newJob "j" "updates.apply" ⟨second, Nat.le_refl _⟩)
  locals := fun i => if i then .goroutine else .stream ⟨"j", .get, [], true⟩

theorem oneStream_opening : JobOpening oneStream := by
  refine ⟨⟨_, _, _, rfl⟩, ?_⟩
  intro i
  cases i <;> decide

/-- The handler subscribes between the two writes, and empties its channel before it
sees that the job is done. -/
theorem job_stream_delivers_in_turn :
    let sched : List (Bool × JobEnv) :=
      [(true, jobEnv 0 (.write [1, 2])), (false, jobEnv 1 .next), (false, jobEnv 2 .next),
       (false, jobEnv 3 .next), (false, jobEnv 4 .next), (true, jobEnv 5 (.write [3])),
       (true, jobEnv 6 (.returns none)), (true, jobEnv 7 .next), (true, jobEnv 8 .next),
       (false, jobEnv 9 (.select .chunk)), (false, jobEnv 10 (.select .done)),
       (false, jobEnv 11 .next)]
    let c := (jobMachine fun _ => "").after (attentive 0) sched oneStream
    let frames : List Frame :=
      [.snapshot [1, 2], .state (.job .running), .chunk [3], .state (.job .succeeded)]
    (c.locals false).handler = some ⟨"j", .returned (some ⟨[1, 2], 0, some 0, 2⟩), frames, true⟩
      ∧ Subscription.Streamed c.shared ⟨[1, 2], 0, some 0, 2⟩ frames := by
  intro sched c frames
  have hruns : (jobMachine fun _ => "").Runs
      (attentive (Subscription.mk [1, 2] 0 (some 0) 2).ref) oneStream c :=
    Machine.runs_after (by decide +kernel)
  have hst : (c.locals false).handler
      = some ⟨"j", .returned (some ⟨[1, 2], 0, some 0, 2⟩), frames, true⟩ := by decide +kernel
  exact ⟨hst, job_stream_delivers oneStream_opening hruns hst rfl rfl⟩

/-- **The output is cut short.**  In the first schedule the handler takes the case
`<-job.Done()` while a chunk is buffered; in the second it reads nothing during 33
writes, is dropped, and reports a running job. -/
theorem job_stream_cut_short :
    (let sched : List (Bool × JobEnv) :=
      [(false, jobEnv 0 .next), (false, jobEnv 1 .next), (false, jobEnv 2 .next),
       (false, jobEnv 3 .next), (true, jobEnv 4 (.write [1])), (true, jobEnv 5 (.returns none)),
       (true, jobEnv 6 .next), (true, jobEnv 7 .next), (false, jobEnv 8 (.select .done)),
       (false, jobEnv 9 .next)]
     let c := (jobMachine fun _ => "").after Guard.free sched oneStream
     let frames : List Frame := [.state (.job .running), .state (.job .succeeded)]
     (jobMachine fun _ => "").Runs Guard.free oneStream c
      ∧ (c.locals false).handler = some ⟨"j", .returned (some ⟨[], 0, some 0, 0⟩), frames, true⟩
      ∧ ¬ Subscription.Streamed c.shared ⟨[], 0, some 0, 0⟩ frames)
    ∧ (let sched : List (Bool × JobEnv) :=
      [(false, jobEnv 0 .next), (false, jobEnv 1 .next), (false, jobEnv 2 .next),
       (false, jobEnv 3 .next)] ++ List.replicate 33 (true, jobEnv 4 (.write [1]))
        ++ List.replicate 33 (false, jobEnv 5 (.select .chunk)) ++ [(false, jobEnv 6 .next)]
     let c := (jobMachine fun _ => "").after Guard.free sched oneStream
     let frames : List Frame := [.state (.job .running)] ++ List.replicate 32 (.chunk [1])
        ++ [.state (.job .running)]
     (jobMachine fun _ => "").Runs Guard.free oneStream c
      ∧ (c.locals false).handler = some ⟨"j", .returned (some ⟨[], 0, some 0, 0⟩), frames, true⟩
      ∧ ¬ Subscription.Streamed c.shared ⟨[], 0, some 0, 0⟩ frames) := by
  refine ⟨⟨Machine.runs_after (by decide +kernel), by decide +kernel, ?_⟩,
    ⟨Machine.runs_after (by decide +kernel), by decide +kernel, ?_⟩⟩
  · intro h
    exact absurd h.carried (by decide +kernel)
  · intro h
    exact absurd h.carried (by decide +kernel)

end Schedules

end ControlRoom
