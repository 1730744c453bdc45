/-
  ControlRoom.Jobs.Listeners
  ──────────────────────────
  **THE LISTENER PROTOCOL OF A JOB.**

  Three parties close the channel of a listener: a `Write` that finds it
  full, the end of the job, and the unsubscribe function.  The map
  `j.listeners` says who may still do so: a channel in the map is open, and
  whoever closes a channel removes it (`Wired`).  A listener in the map has
  been sent everything since its snapshot (`Follows`).

    §1  the invariant of the job, and the operations under it,
    §2  what one statement can do to the job,
    §3  what every statement keeps,
    §4  the proof outline, and the theorem.
-/
import Mathlib.Data.Fintype.Option
import ControlRoom.Jobs.Parties

namespace ControlRoom

open Foundation

/-! ## §1. The job. -/

/-- The map of the listeners: its ids and channels are distinct and known, its
channels are open, and it is empty once the job has ended. -/
structure JobWorld.Wired (w : JobWorld) : Prop where
  ids : (w.job.listeners.map Prod.fst).Nodup
  refs : (w.job.listeners.map Prod.snd).Nodup
  id_lt : ∀ l ∈ w.job.listeners, l.1 < w.job.nextLis
  ref_lt : ∀ l ∈ w.job.listeners, l.2 < w.nextChan
  opened : ∀ l ∈ w.job.listeners, (w.chans l.2).closedBy = none
  ended : w.job.state ≠ .running → w.job.listeners = []

/-- The job as a whole: the buffer holds the end of what has been written, and the
state follows the goroutine. -/
structure JobWorld.Sound (w : JobWorld) : Prop extends w.Wired where
  cap : w.job.output.cap = defaultBufferSize
  buf : w.job.output.buf = w.written.rtake defaultBufferSize
  running : w.goroutine = .running → w.job.state = .running
  returned : ∀ res, w.goroutine = .returned res → w.job.state = .running
  finished : w.goroutine = .finished → w.job.state ≠ .running
  exited : w.goroutine = .exited → w.job.state ≠ .running
  done : w.job.done = true → w.goroutine = .exited
  calm : w.panicked = false

theorem JobWorld.sound_fresh (id action : String) (now : Time) :
    (JobWorld.fresh (newJob id action now)).Sound := by
  have hnone : ∀ l ∈ (JobWorld.fresh (newJob id action now)).job.listeners, False := by
    intro l hl
    cases hl
  refine ⟨⟨List.nodup_nil, List.nodup_nil, ?_, ?_, ?_, fun _ => rfl⟩, rfl,
    (List.rtake_nil _).symm, fun _ => rfl, fun _ _ => rfl, fun h => (by cases h),
    fun h => (by cases h), fun h => (by cases h), rfl⟩
  · exact fun l hl => (hnone l hl).elim
  · exact fun l hl => (hnone l hl).elim
  · exact fun l hl => (hnone l hl).elim

/-- The channel of a listener after a `Write`. -/
def offered (p : Bytes) (c : Chan Bytes Closer) : Chan Bytes Closer :=
  if h : c.full then c.shut .slow else c.push p h

theorem offered_of_full {p : Bytes} {c : Chan Bytes Closer} (h : c.full) :
    offered p c = c.shut .slow := dif_pos h

theorem offered_of_room {p : Bytes} {c : Chan Bytes Closer} (h : ¬ c.full) :
    offered p c = c.push p h := dif_neg h

theorem offer_of_open {p : Bytes} {c : Chan Bytes Closer} (h : c.closedBy = none) :
    offer p c = .ok (!decide c.full, offered p c) := by
  unfold offer
  rw [Chan.trySend_of_open h]
  by_cases hf : c.full
  · rw [dif_pos hf, offered_of_full hf]
    simp [Chan.close_of_open h, hf]
  · rw [dif_neg hf, offered_of_room hf]
    simp [hf]

theorem hangUp_of_open {c : Chan Bytes Closer} (h : c.closedBy = none) :
    hangUp c = .ok (false, c.shut .completion) := by
  unfold hangUp
  rw [Chan.close_of_open h]

namespace JobWorld

/-- A listener outlasts the loop over all listeners if its own pass keeps it. -/
theorem Wired.outlasts {w : JobWorld} (hw : w.Wired) (stays : Chan Bytes Closer → Bool)
    {l : Nat × Nat} (hl : l ∈ w.job.listeners) :
    w.outlasts stays w.job.listeners l = stays (w.chans l.2) := by
  rw [Bool.eq_iff_iff]
  unfold JobWorld.outlasts
  rw [List.all_eq_true]
  constructor
  · intro h
    simpa using h l hl
  · intro h k hk
    by_cases hid : k.1 = l.1
    · -- the ids are distinct, so `k` is `l`
      have hkl : k = l := List.inj_on_of_nodup_map hw.ids hk hl hid
      rw [hkl]
      simp [h]
    · simp [hid]

/-- The job after a `Write` of `p` in a wired state. -/
def wrote (p : Bytes) (w : JobWorld) : JobWorld :=
  { w with
    job := { w.job with
      output := w.job.output.write p
      listeners := w.job.listeners.filter fun l => !decide (w.chans l.2).full }
    chans := fun r => if r ∈ w.job.listeners.map Prod.snd then offered p (w.chans r)
      else w.chans r
    written := w.written ++ p }

/-- **A `Write` does not panic.** -/
theorem Wired.write {w : JobWorld} (hw : w.Wired) (p : Bytes) : w.write p = .ok (w.wrote p) := by
  have hbody : ∀ c : Chan Bytes Closer, c.closedBy = none →
      offer p c = .ok (!decide c.full, offered p c) := fun _ hc => offer_of_open hc
  unfold JobWorld.write
  rw [foldlM_visit hbody w.job.listeners (w.append p) hw.refs hw.opened]
  have hkept : (w.append p).job.listeners.filter
        ((w.append p).outlasts (fun c => !decide c.full) w.job.listeners)
      = w.job.listeners.filter fun l => !decide (w.chans l.2).full :=
    List.filter_congr fun l hl => hw.outlasts (fun c => !decide c.full) hl
  unfold visited
  rw [hkept]
  rfl

/-- The job after the end of its goroutine in a wired state. -/
def hungUp (now : Time) (res : Option RunError) (w : JobWorld) : JobWorld :=
  { w with
    job := { w.job with
      finishedAt := some now, state := finalState res, err := finalError res, listeners := [] }
    chans := fun r => if r ∈ w.job.listeners.map Prod.snd then (w.chans r).shut .completion
      else w.chans r }

/-- **The end of the job does not panic.** -/
theorem Wired.finish {w : JobWorld} (hw : w.Wired) (now : Time) (res : Option RunError) :
    w.finish now res = .ok (w.hungUp now res) := by
  have hbody : ∀ c : Chan Bytes Closer, c.closedBy = none →
      hangUp c = .ok ((fun _ => false) c, c.shut .completion) := fun _ hc => hangUp_of_open hc
  unfold JobWorld.finish
  rw [foldlM_visit hbody w.job.listeners (w.conclude now res) hw.refs hw.opened]
  have hnone : (w.conclude now res).job.listeners.filter
      ((w.conclude now res).outlasts (fun _ => false) w.job.listeners) = [] := by
    rw [List.filter_eq_nil_iff]
    intro l hl
    rw [show (w.conclude now res).outlasts (fun _ => false) w.job.listeners l = false from
      hw.outlasts (fun _ => false) hl]
    simp
  unfold visited
  rw [hnone]
  rfl

/-- The job after an unsubscribe function has removed the listener `id`. -/
def dropped (id ref : Nat) (w : JobWorld) : JobWorld :=
  (w.deleteListener id).setChan ref ((w.chans ref).shut .unsubscribe)

/-- **An unsubscribe function does not panic**: it removes its own listener, or
finds it gone. -/
theorem Wired.unsubscribe {w : JobWorld} (hw : w.Wired) (sub : Subscription) :
    (∃ id ref, sub.listener = some id ∧ (id, ref) ∈ w.job.listeners
        ∧ w.unsubscribe sub = .ok (w.dropped id ref))
      ∨ w.unsubscribe sub = .ok w := by
  unfold JobWorld.unsubscribe
  cases hid : sub.listener with
  | none => exact .inr rfl
  | some id =>
      cases hlook : w.job.listeners.lookup id with
      | none => exact .inr (by simp [hlook])
      | some ref =>
          have hmem : (id, ref) ∈ w.job.listeners := by
            obtain ⟨l₁, l₂, hsplit, _⟩ := List.lookup_eq_some_iff.mp hlook
            rw [hsplit]
            simp
          left
          refine ⟨id, ref, rfl, hmem, ?_⟩
          simp [hlook, Chan.close_of_open (hw.opened _ hmem), dropped]

end JobWorld

/-! ## §2. What a statement can do. -/

/-- The party is about to call `Write`. -/
def JobParty.writes (e : JobEnv) : JobParty → Bool
  | .goroutine =>
      match e.act with
      | .write _ => true
      | _ => false
  | _ => false

/-- What one statement of a party does to the job; `writes` says whether it calls
`Write`, `own` is the subscription that the party holds. -/
inductive JobEffect (writes : Bool) (own : Option Subscription) (w : JobWorld) : JobWorld → Prop
  | same : JobEffect writes own w w
  | wrote (p : Bytes) (hwrites : writes = true) (hrun : w.goroutine = .running) :
      JobEffect writes own w (w.settle (w.write p))
  | returned (res : Option RunError) (hrun : w.goroutine = .running) :
      JobEffect writes own w { w with goroutine := .returned res }
  | finished (now : Time) (res : Option RunError) (hret : w.goroutine = .returned res) :
      JobEffect writes own w { w.settle (w.finish now res) with goroutine := .finished }
  | exited (hfin : w.goroutine = .finished) :
      JobEffect writes own w { w.closeDone with goroutine := .exited }
  | subscribed : JobEffect writes own w w.subscribe.1
  | unsubscribed (sub : Subscription) (hown : own = some sub) :
      JobEffect writes own w (w.settle (w.unsubscribe sub))
  | received (sub : Subscription) (hown : own = some sub) (r : Received Bytes) (w' : JobWorld)
      (h : w.receive sub.ref = some (r, w')) : JobEffect writes own w w'

theorem JobWorld.advance_effect {e : JobEnv} {w w' : JobWorld} (h : w.advance e = some w') :
    JobEffect (JobParty.goroutine.writes e) none w w' := by
  unfold JobWorld.advance at h
  split at h
  · next p hg hact =>
    cases h
    refine .wrote p ?_ hg
    unfold JobParty.writes
    rw [hact]
  · next res hg _ => cases h; exact .returned res hg
  · next res hg _ => cases h; exact .finished e.now res hg
  · next hg _ => cases h; exact .exited hg
  · cases h

/-- What a statement of a party does to the job and to the party's own subscription:
it keeps what it has, or has just got one. -/
inductive Acquires (writes : Bool) (w : JobWorld) (old new : Option Subscription) :
    JobWorld → Prop
  | kept (w' : JobWorld) (heff : JobEffect writes old w w') (h : new = old) :
      Acquires writes w old new w'
  | got (h₀ : old = none) (h : new = some w.subscribe.2) : Acquires writes w old new w.subscribe.1

theorem StreamStep.acquires {act : JobAct} {w w' : JobWorld} {st st' : Stream}
    (h : StreamStep act w st w' st') :
    Acquires false w st.subscription st'.subscription w' := by
  cases h with
  | disconnected => exact .kept w .same rfl
  | found hpc =>
      refine .kept w .same ?_
      unfold Stream.subscription
      rw [hpc]
  | notFound hpc frames hframes =>
      refine .kept w .same ?_
      unfold Stream.subscription
      rw [hpc]
  | subscribed hpc =>
      refine .got ?_ rfl
      unfold Stream.subscription
      rw [hpc]
  | snapshot sub hpc hne =>
      refine .kept w .same ?_
      unfold Stream.subscription
      rw [hpc]
  | noSnapshot sub hpc hnil =>
      refine .kept w .same ?_
      unfold Stream.subscription
      rw [hpc]
  | state sub hpc =>
      refine .kept w .same ?_
      unfold Stream.subscription
      rw [hpc]
  | pinged sub hpc => exact .kept w .same rfl
  | chunk sub x w' hpc hrec =>
      have hsub := Stream.subscription_of_loop hpc
      exact .kept _ (.received sub hsub _ _ hrec) hsub.symm
  | closed sub w' hpc hrec =>
      have hsub := Stream.subscription_of_loop hpc
      exact .kept _ (.received sub hsub _ _ hrec) hsub.symm
  | done sub hact hpc hdone => exact .kept w .same (Stream.subscription_of_loop hpc).symm
  | lost sub w' hsub hgone hw =>
      rcases hw with hw | ⟨r, hrec⟩
      · rw [hw]
        exact .kept w .same hsub.symm
      · exact .kept _ (.received sub hsub _ _ hrec) hsub.symm
  | unsubscribed sub hpc =>
      have hsub : st.subscription = some sub := by
        unfold Stream.subscription
        rw [hpc]
      exact .kept _ (.unsubscribed sub hsub) hsub.symm

theorem listen_acquires {act : JobAct} {w w' : JobWorld} {sub sub' : Option Subscription}
    (h : listen act w sub = some (w', sub')) : Acquires false w sub sub' w' := by
  unfold listen at h
  split at h
  · split at h
    · cases h
      exact .got rfl rfl
    · cases h
  · split at h
    · obtain ⟨⟨r, w₁⟩, hrec, heq⟩ := Option.map_eq_some_iff.mp h
      cases heq
      exact .kept _ (.received _ rfl r _ hrec) rfl
    · cases h
      exact .kept _ (.unsubscribed _ rfl) rfl
    · cases h

/-- **The case analysis of a step of a tab**: a statement of its stream, or something
that leaves the job and the stream alone. -/
theorem Tab.step_cases {text : Bytes → String} {act : JobAct} {w w' : JobWorld} {t t' : Tab}
    (h : t.step text act w = some (w', t')) :
    (StreamStep act w t.stream w' t'.stream ∧ t' = { t with stream := t'.stream })
      ∨ (w' = w ∧ t'.stream = t.stream) := by
  unfold Tab.step at h
  split at h
  · obtain ⟨pc, _, heq⟩ := Option.map_eq_some_iff.mp h
    cases heq
    exact .inr ⟨rfl, rfl⟩
  · obtain ⟨f, _, heq⟩ := Option.map_eq_some_iff.mp h
    cases heq
    exact .inr ⟨rfl, rfl⟩
  · split at h
    · cases h
      exact .inr ⟨rfl, rfl⟩
    · cases h
  · cases h
    exact .inr ⟨rfl, rfl⟩
  · obtain ⟨⟨w₁, st⟩, hstep, heq⟩ := Option.map_eq_some_iff.mp h
    cases heq
    exact .inl ⟨Stream.step_cases hstep, rfl⟩

/-- **What a step of a party does** to the job and to its own subscription. -/
theorem JobParty.step_acquires {text : Bytes → String} {e : JobEnv} {w w' : JobWorld}
    {l l' : JobParty} (h : l.step text e w = some (w', l')) :
    Acquires (l.writes e) w l.subscription l'.subscription w' := by
  cases l with
  | goroutine =>
      obtain ⟨w₁, hadv, heq⟩ := Option.map_eq_some_iff.mp h
      cases heq
      exact .kept _ (JobWorld.advance_effect hadv) rfl
  | listener sub =>
      obtain ⟨⟨w₁, sub'⟩, hstep, heq⟩ := Option.map_eq_some_iff.mp h
      cases heq
      exact listen_acquires hstep
  | stream st =>
      obtain ⟨⟨w₁, st'⟩, hstep, heq⟩ := Option.map_eq_some_iff.mp h
      cases heq
      exact (Stream.step_cases hstep).acquires
  | tab t =>
      obtain ⟨⟨w₁, t'⟩, hstep, heq⟩ := Option.map_eq_some_iff.mp h
      cases heq
      rcases Tab.step_cases hstep with ⟨hst, _⟩ | ⟨hw, hst⟩
      · exact hst.acquires
      · rw [hw]
        refine .kept _ .same ?_
        show t'.stream.subscription = t.stream.subscription
        rw [hst]

/-! ## §3. What every statement keeps. -/

/-- What holds of a subscription: its channel has been sent what was written since
the snapshot, all of it unless a `Write` or the unsubscribe function has closed the
channel; `rest` is what was not sent. -/
structure Subscription.Follows (w : JobWorld) (sub : Subscription) : Prop where
  known : sub.ref < w.nextChan
  start_le : sub.start ≤ w.written.length
  snapshot : sub.snapshot = (w.written.take sub.start).rtake defaultBufferSize
  segment : ∃ rest, w.written = w.written.take sub.start ++ ((w.chans sub.ref).sent.flatten ++ rest)
    ∧ ((w.chans sub.ref).closedBy = none → rest = [])
    ∧ ((w.chans sub.ref).closedBy = some .completion → rest = [])
  mapped : (w.chans sub.ref).closedBy = none →
    ∃ id, sub.listener = some id ∧ (id, sub.ref) ∈ w.job.listeners
  ended : (w.chans sub.ref).closedBy = some .completion → w.job.state ≠ .running

section Keeps

variable {w w' : JobWorld} {writes : Bool} {own : Option Subscription}

/-- A map that only loses listeners stays wired. -/
theorem JobWorld.Wired.shrink (hw : w.Wired)
    (hsub : w'.job.listeners.Sublist w.job.listeners) (hlis : w.job.nextLis ≤ w'.job.nextLis)
    (hchan : w.nextChan ≤ w'.nextChan)
    (hopen : ∀ l ∈ w'.job.listeners, (w'.chans l.2).closedBy = none)
    (hended : w'.job.state ≠ .running → w'.job.listeners = []) : w'.Wired where
  ids := hw.ids.sublist (hsub.map _)
  refs := hw.refs.sublist (hsub.map _)
  id_lt := fun l hl => Nat.lt_of_lt_of_le (hw.id_lt l (hsub.subset hl)) hlis
  ref_lt := fun l hl => Nat.lt_of_lt_of_le (hw.ref_lt l (hsub.subset hl)) hchan
  opened := hopen
  ended := hended

/-- Two listeners with one channel are one. -/
theorem JobWorld.Wired.eq_of_ref (hw : w.Wired) {k l : Nat × Nat} (hk : k ∈ w.job.listeners)
    (hl : l ∈ w.job.listeners) (h : k.2 = l.2) : k = l :=
  List.inj_on_of_nodup_map hw.refs hk hl h

theorem JobWorld.wrote_chan_of_mem {p : Bytes} {r : Nat} (h : r ∈ w.job.listeners.map Prod.snd) :
    (w.wrote p).chans r = offered p (w.chans r) := if_pos h

theorem JobWorld.wrote_chan_of_not_mem {p : Bytes} {r : Nat}
    (h : r ∉ w.job.listeners.map Prod.snd) : (w.wrote p).chans r = w.chans r := if_neg h

theorem JobWorld.mem_wrote_listeners {p : Bytes} {l : Nat × Nat} :
    l ∈ (w.wrote p).job.listeners ↔ l ∈ w.job.listeners ∧ ¬ (w.chans l.2).full := by
  show l ∈ w.job.listeners.filter _ ↔ _
  rw [List.mem_filter]
  simp

theorem JobWorld.Wired.wrote (hw : w.Wired) (p : Bytes) : (w.wrote p).Wired := by
  refine hw.shrink List.filter_sublist (Nat.le_refl _) (Nat.le_refl _) ?_ ?_
  · intro l hl
    obtain ⟨hmem, hroom⟩ := JobWorld.mem_wrote_listeners.mp hl
    rw [JobWorld.wrote_chan_of_mem (List.mem_map_of_mem hmem), offered_of_room hroom]
    exact hw.opened l hmem
  · intro hstate
    show w.job.listeners.filter _ = []
    rw [hw.ended hstate]
    rfl

theorem JobWorld.Sound.wrote (hw : w.Sound) (p : Bytes) : (w.wrote p).Sound where
  toWired := hw.toWired.wrote p
  cap := (RingBuffer.write_cap _ p).trans hw.cap
  buf := by
    show (w.job.output.write p).buf = (w.written ++ p).rtake defaultBufferSize
    rw [RingBuffer.write_buf, hw.cap, hw.buf, rtake_append_rtake]
  running := hw.running
  returned := hw.returned
  finished := hw.finished
  exited := hw.exited
  done := hw.done
  calm := hw.calm

theorem JobWorld.Wired.hungUp (hw : w.Wired) (now : Time) (res : Option RunError) :
    (w.hungUp now res).Wired :=
  hw.shrink (List.nil_sublist _) (Nat.le_refl _) (Nat.le_refl _) (fun _ hl => by cases hl)
    fun _ => rfl

theorem JobWorld.dropped_chan_of_ne {id ref r : Nat} (h : r ≠ ref) :
    (w.dropped id ref).chans r = w.chans r := Function.update_of_ne h _ _

theorem JobWorld.dropped_chan_self {id ref : Nat} :
    (w.dropped id ref).chans ref = (w.chans ref).shut .unsubscribe := Function.update_self _ _ _

theorem JobWorld.mem_dropped_listeners {id ref : Nat} {l : Nat × Nat} :
    l ∈ (w.dropped id ref).job.listeners ↔ l ∈ w.job.listeners ∧ l.1 ≠ id := by
  show l ∈ w.job.listeners.filter _ ↔ _
  rw [List.mem_filter]
  simp

theorem JobWorld.Wired.dropped (hw : w.Wired) {id ref : Nat}
    (hmem : (id, ref) ∈ w.job.listeners) : (w.dropped id ref).Wired := by
  refine hw.shrink List.filter_sublist (Nat.le_refl _) (Nat.le_refl _) ?_ ?_
  · intro l hl
    obtain ⟨hl, hne⟩ := JobWorld.mem_dropped_listeners.mp hl
    have href : l.2 ≠ ref := by
      intro href
      exact hne (congrArg Prod.fst (hw.eq_of_ref hl hmem href))
    rw [JobWorld.dropped_chan_of_ne href]
    exact hw.opened l hl
  · intro hstate
    show w.job.listeners.filter _ = []
    rw [hw.ended hstate]
    rfl

/-- A receive takes from one channel and leaves the job alone. -/
theorem JobWorld.receive_eq_some {ref : Nat} {r : Received Bytes}
    (h : w.receive ref = some (r, w')) :
    ∃ c, (w.chans ref).receive = some (r, c) ∧ w' = w.setChan ref c := by
  obtain ⟨⟨r₁, c⟩, hrec, heq⟩ := Option.map_eq_some_iff.mp h
  cases heq
  exact ⟨c, hrec, rfl⟩

/-- What has been sent on a channel, and who has closed it, no receive changes. -/
theorem JobWorld.receive_chan {ref : Nat} {r : Received Bytes}
    (h : w.receive ref = some (r, w')) (k : Nat) :
    (w'.chans k).sent = (w.chans k).sent ∧ (w'.chans k).closedBy = (w.chans k).closedBy := by
  obtain ⟨c, hrec, rfl⟩ := JobWorld.receive_eq_some h
  unfold JobWorld.setChan
  by_cases hk : k = ref
  · subst hk
    show (Function.update w.chans k c k).sent = _ ∧ (Function.update w.chans k c k).closedBy = _
    rw [Function.update_self]
    rcases Chan.receive_cases hrec with ⟨_, _, _, hsent, hclosed⟩ | ⟨_, heq, _, _⟩
    · exact ⟨hsent, hclosed⟩
    · rw [heq]
      exact ⟨rfl, rfl⟩
  · show (Function.update w.chans ref c k).sent = _ ∧ (Function.update w.chans ref c k).closedBy = _
    rw [Function.update_of_ne hk]
    exact ⟨rfl, rfl⟩

/-- A value received is the next one of the channel. -/
theorem JobWorld.receive_value {ref : Nat} {x : Bytes}
    (h : w.receive ref = some (.value x, w')) :
    (w'.chans ref).received = (w.chans ref).received ++ [x] := by
  obtain ⟨c, hrec, rfl⟩ := JobWorld.receive_eq_some h
  have hchan : (w.setChan ref c).chans ref = c := Function.update_self _ _ _
  rw [hchan]
  rcases Chan.receive_cases hrec with ⟨y, hy, hreceived, _, _⟩ | ⟨hy, _⟩
  · cases hy
    exact hreceived
  · cases hy

/-- The close of a channel is received when nothing is left on it, any number of times. -/
theorem JobWorld.receive_closed {ref : Nat} (h : w.receive ref = some (.closed, w')) :
    w' = w ∧ (w.chans ref).buffered = [] ∧ (w.chans ref).closedBy ≠ none := by
  obtain ⟨c, hrec, heq⟩ := JobWorld.receive_eq_some h
  rcases Chan.receive_cases hrec with ⟨y, hy, _⟩ | ⟨_, hsame, hnil, hclosed⟩
  · cases hy
  · refine ⟨?_, hnil, hclosed⟩
    rw [heq, hsame]
    unfold JobWorld.setChan
    rw [Function.update_eq_self]

theorem JobWorld.Wired.received (hw : w.Wired) {ref : Nat} {r : Received Bytes}
    (h : w.receive ref = some (r, w')) : w'.Wired := by
  obtain ⟨c, _, heq⟩ := JobWorld.receive_eq_some h
  refine hw.shrink ?_ ?_ ?_ ?_ ?_
  · rw [heq]
    exact List.Sublist.refl _
  · rw [heq]
    exact Nat.le_refl _
  · rw [heq]
    exact Nat.le_refl _
  · intro l hl
    rw [(JobWorld.receive_chan h l.2).2]
    rw [heq] at hl
    exact hw.opened l hl
  · rw [heq]
    exact hw.ended

theorem JobWorld.Wired.subscribed (hw : w.Wired) : w.subscribe.1.Wired := by
  unfold JobWorld.subscribe
  by_cases hstate : w.job.state ≠ .running
  · rw [if_pos hstate]
    have hnil := hw.ended hstate
    refine hw.shrink (List.Sublist.refl _) (Nat.le_refl _) (Nat.le_succ _) ?_ fun _ => hnil
    intro l hl
    exact absurd (hnil ▸ hl) List.not_mem_nil
  · rw [if_neg hstate]
    refine ⟨?_, ?_, ?_, ?_, ?_, fun h => absurd h hstate⟩
    · show ((w.job.listeners ++ [(w.job.nextLis, w.nextChan)]).map Prod.fst).Nodup
      rw [List.map_append, List.nodup_append]
      refine ⟨hw.ids, List.nodup_singleton _, ?_⟩
      intro a ha b hb heq
      obtain ⟨l, hl, rfl⟩ := List.mem_map.mp ha
      have hlt := hw.id_lt l hl
      have hb : b = w.job.nextLis := by simpa using hb
      omega
    · show ((w.job.listeners ++ [(w.job.nextLis, w.nextChan)]).map Prod.snd).Nodup
      rw [List.map_append, List.nodup_append]
      refine ⟨hw.refs, List.nodup_singleton _, ?_⟩
      intro a ha b hb heq
      obtain ⟨l, hl, rfl⟩ := List.mem_map.mp ha
      have hlt := hw.ref_lt l hl
      have hb : b = w.nextChan := by simpa using hb
      omega
    · intro l hl
      show l.1 < w.job.nextLis + 1
      rcases List.mem_append.mp hl with hl | hl
      · have hlt := hw.id_lt l hl
        omega
      · rw [List.mem_singleton.mp hl]
        exact Nat.lt_succ_self _
    · intro l hl
      show l.2 < w.nextChan + 1
      rcases List.mem_append.mp hl with hl | hl
      · have hlt := hw.ref_lt l hl
        omega
      · rw [List.mem_singleton.mp hl]
        exact Nat.lt_succ_self _
    · intro l hl
      show (Function.update w.chans w.nextChan _ l.2).closedBy = none
      rcases List.mem_append.mp hl with hl | hl
      · have hlt := hw.ref_lt l hl
        rw [Function.update_of_ne (by omega)]
        exact hw.opened l hl
      · rw [List.mem_singleton.mp hl]
        show (Function.update w.chans w.nextChan _ w.nextChan).closedBy = none
        rw [Function.update_self]
        rfl

/-- `Subscribe` and the unsubscribe function leave everything but the listeners and
their channels alone. -/
theorem JobWorld.Sound.of_wired (hw : w.Sound) (hwired : w'.Wired)
    (hgo : w'.goroutine = w.goroutine) (hstate : w'.job.state = w.job.state)
    (hdone : w'.job.done = w.job.done) (hout : w'.job.output = w.job.output)
    (hwritten : w'.written = w.written) (hcalm : w'.panicked = w.panicked) : w'.Sound where
  toWired := hwired
  cap := by rw [hout]; exact hw.cap
  buf := by rw [hout, hwritten]; exact hw.buf
  running := by rw [hgo, hstate]; exact hw.running
  returned := by rw [hgo, hstate]; exact hw.returned
  finished := by rw [hgo, hstate]; exact hw.finished
  exited := by rw [hgo, hstate]; exact hw.exited
  done := by rw [hgo, hdone]; exact hw.done
  calm := hcalm.trans hw.calm

theorem JobWorld.subscribe_rest : w.subscribe.1.goroutine = w.goroutine
    ∧ w.subscribe.1.job.state = w.job.state ∧ w.subscribe.1.job.done = w.job.done
    ∧ w.subscribe.1.job.output = w.job.output ∧ w.subscribe.1.written = w.written
    ∧ w.subscribe.1.panicked = w.panicked ∧ w.subscribe.1.nextChan = w.nextChan + 1 := by
  unfold JobWorld.subscribe
  by_cases hstate : w.job.state ≠ .running
  · rw [if_pos hstate]
    exact ⟨rfl, rfl, rfl, rfl, rfl, rfl, rfl⟩
  · rw [if_neg hstate]
    exact ⟨rfl, rfl, rfl, rfl, rfl, rfl, rfl⟩

/-- **Every statement keeps the invariant of the job.** -/
theorem JobEffect.sound (h : JobEffect writes own w w') (hw : w.Sound) : w'.Sound := by
  cases h with
  | same => exact hw
  | wrote p hwrites hrun =>
      rw [hw.toWired.write p]
      exact hw.wrote p
  | returned res hrun =>
      have hstate := hw.running hrun
      refine ⟨⟨hw.ids, hw.refs, hw.id_lt, hw.ref_lt, hw.opened, hw.ended⟩, hw.cap, hw.buf,
        fun h => (by cases h), fun _ _ => hstate, fun h => (by cases h), fun h => (by cases h),
        ?_, hw.calm⟩
      intro hdone
      have hexit := hw.done hdone
      rw [hrun] at hexit
      cases hexit
  | finished now res hret =>
      rw [hw.toWired.finish now res]
      have hwired := hw.toWired.hungUp now res
      have hstate := finalState_ne_running res
      refine ⟨⟨hwired.ids, hwired.refs, hwired.id_lt, hwired.ref_lt, hwired.opened, hwired.ended⟩,
        hw.cap, hw.buf, fun h => (by cases h), fun _ h => (by cases h), fun _ => hstate,
        fun h => (by cases h), ?_, hw.calm⟩
      intro hdone
      have hexit := hw.done hdone
      rw [hret] at hexit
      cases hexit
  | exited hfin =>
      have hstate := hw.finished hfin
      exact ⟨⟨hw.ids, hw.refs, hw.id_lt, hw.ref_lt, hw.opened, hw.ended⟩, hw.cap, hw.buf,
        fun h => (by cases h), fun _ h => (by cases h), fun h => (by cases h), fun _ => hstate,
        fun _ => rfl, hw.calm⟩
  | subscribed =>
      obtain ⟨h1, h2, h3, h4, h5, h6, _⟩ := JobWorld.subscribe_rest (w := w)
      exact hw.of_wired hw.toWired.subscribed h1 h2 h3 h4 h5 h6
  | unsubscribed sub hown =>
      rcases hw.toWired.unsubscribe sub with ⟨id, ref, _, hmem, heq⟩ | heq
      · rw [heq]
        exact hw.of_wired (hw.toWired.dropped hmem) rfl rfl rfl rfl rfl rfl
      · rw [heq]
        exact hw
  | received sub hown r w' hrec =>
      have hwired := hw.toWired.received hrec
      obtain ⟨c, _, heq⟩ := JobWorld.receive_eq_some hrec
      refine hw.of_wired hwired ?_ ?_ ?_ ?_ ?_ ?_ <;> rw [heq] <;> rfl

/-- A statement that writes nothing, and neither sends on the channel nor closes it. -/
theorem Subscription.Follows.carry {sub : Subscription} (h : sub.Follows w)
    (hnext : w.nextChan ≤ w'.nextChan) (hwritten : w'.written = w.written)
    (hsent : (w'.chans sub.ref).sent = (w.chans sub.ref).sent)
    (hclosed : (w'.chans sub.ref).closedBy = (w.chans sub.ref).closedBy)
    (hmap : ∀ id, (id, sub.ref) ∈ w.job.listeners → (id, sub.ref) ∈ w'.job.listeners)
    (hstate : w.job.state ≠ .running → w'.job.state ≠ .running) : sub.Follows w' where
  known := Nat.lt_of_lt_of_le h.known hnext
  start_le := by rw [hwritten]; exact h.start_le
  snapshot := by rw [hwritten]; exact h.snapshot
  segment := by rw [hwritten, hsent, hclosed]; exact h.segment
  mapped := by
    intro hopen
    obtain ⟨id, hid, hmem⟩ := h.mapped (hclosed ▸ hopen)
    exact ⟨id, hid, hmap id hmem⟩
  ended := fun hend => hstate (h.ended (hclosed ▸ hend))

/-- The channel is closed, by a `Write` or by the unsubscribe function. -/
theorem Subscription.Follows.cut {sub : Subscription} (h : sub.Follows w)
    (hnext : w.nextChan ≤ w'.nextChan) {p : Bytes} (hwritten : w'.written = w.written ++ p)
    (hsent : (w'.chans sub.ref).sent = (w.chans sub.ref).sent)
    (hopen : (w'.chans sub.ref).closedBy ≠ none)
    (hcompl : (w'.chans sub.ref).closedBy ≠ some .completion) : sub.Follows w' where
  known := Nat.lt_of_lt_of_le h.known hnext
  start_le := by
    rw [hwritten, List.length_append]
    exact Nat.le_trans h.start_le (Nat.le_add_right _ _)
  snapshot := by
    rw [hwritten, List.take_append_of_le_length h.start_le]
    exact h.snapshot
  segment := by
    obtain ⟨rest, hrest, _, _⟩ := h.segment
    refine ⟨rest ++ p, ?_, fun hnone => absurd hnone hopen, fun hend => absurd hend hcompl⟩
    rw [hwritten, List.take_append_of_le_length h.start_le, hsent]
    conv_lhs => rw [hrest]
    simp only [List.append_assoc]
  mapped := fun hnone => absurd hnone hopen
  ended := fun hend => absurd hend hcompl

theorem Subscription.Follows.wrote {sub : Subscription} (h : sub.Follows w) (hw : w.Sound)
    (hrun : w.goroutine = .running) (p : Bytes) : sub.Follows (w.wrote p) := by
  by_cases hmem : sub.ref ∈ w.job.listeners.map Prod.snd
  · obtain ⟨l, hl, href⟩ := List.mem_map.mp hmem
    have hopen : (w.chans sub.ref).closedBy = none := href ▸ hw.opened l hl
    by_cases hfull : (w.chans sub.ref).full
    · -- dropped: `p` is not sent
      have hchan : (w.wrote p).chans sub.ref = (w.chans sub.ref).shut .slow := by
        rw [JobWorld.wrote_chan_of_mem hmem, offered_of_full hfull]
      refine h.cut (Nat.le_refl _) rfl ?_ ?_ ?_
      · rw [hchan]
        rfl
      · rw [hchan]
        simp
      · rw [hchan]
        simp
    · -- sent
      have hchan : (w.wrote p).chans sub.ref = (w.chans sub.ref).push p hfull := by
        rw [JobWorld.wrote_chan_of_mem hmem, offered_of_room hfull]
      obtain ⟨rest, hrest, hnil, _⟩ := h.segment
      have hall := hnil hopen
      refine ⟨h.known, ?_, ?_, ⟨[], ?_, fun _ => rfl, fun _ => rfl⟩, ?_, ?_⟩
      · show sub.start ≤ (w.written ++ p).length
        rw [List.length_append]
        exact Nat.le_trans h.start_le (Nat.le_add_right _ _)
      · show sub.snapshot = ((w.written ++ p).take sub.start).rtake defaultBufferSize
        rw [List.take_append_of_le_length h.start_le]
        exact h.snapshot
      · show w.written ++ p = (w.written ++ p).take sub.start ++ _
        rw [List.take_append_of_le_length h.start_le, hchan]
        conv_lhs => rw [hrest, hall]
        simp
      · intro _
        obtain ⟨id, hid, hlis⟩ := h.mapped hopen
        exact ⟨id, hid, JobWorld.mem_wrote_listeners.mpr ⟨hlis, hfull⟩⟩
      · rw [hchan]
        intro hend
        rw [Chan.push_closedBy, hopen] at hend
        cases hend
  · -- no longer in the map: closed, and not by the end of the job
    have hchan := JobWorld.wrote_chan_of_not_mem (p := p) hmem
    have hopen : (w.chans sub.ref).closedBy ≠ none := by
      intro hnone
      obtain ⟨id, _, hlis⟩ := h.mapped hnone
      exact hmem (List.mem_map_of_mem hlis)
    have hcompl : (w.chans sub.ref).closedBy ≠ some .completion :=
      fun hend => h.ended hend (hw.running hrun)
    refine h.cut (Nat.le_refl _) rfl ?_ ?_ ?_
    · rw [hchan]
    · rw [hchan]
      exact hopen
    · rw [hchan]
      exact hcompl

theorem Subscription.Follows.hungUp {sub : Subscription} (h : sub.Follows w) (hw : w.Sound)
    (now : Time) (res : Option RunError) : sub.Follows (w.hungUp now res) := by
  have hstate := finalState_ne_running res
  by_cases hmem : sub.ref ∈ w.job.listeners.map Prod.snd
  · obtain ⟨l, hl, href⟩ := List.mem_map.mp hmem
    have hopen : (w.chans sub.ref).closedBy = none := href ▸ hw.opened l hl
    have hchan : (w.hungUp now res).chans sub.ref = (w.chans sub.ref).shut .completion :=
      if_pos hmem
    obtain ⟨rest, hrest, hnil, _⟩ := h.segment
    refine ⟨h.known, h.start_le, h.snapshot, ⟨rest, ?_, fun _ => hnil hopen,
      fun _ => hnil hopen⟩, ?_, fun _ => hstate⟩
    · rw [hchan]
      exact hrest
    · rw [hchan]
      intro hnone
      cases hnone
  · have hchan : (w.hungUp now res).chans sub.ref = w.chans sub.ref := if_neg hmem
    have hmap : ∀ id, (id, sub.ref) ∈ w.job.listeners →
        (id, sub.ref) ∈ (w.hungUp now res).job.listeners := by
      intro id hid
      exact absurd (List.mem_map_of_mem hid) hmem
    exact h.carry (Nat.le_refl _) rfl (by rw [hchan]) (by rw [hchan]) hmap fun _ => hstate

theorem Subscription.Follows.dropped {sub : Subscription} (h : sub.Follows w) (hw : w.Sound)
    {id ref : Nat} (hmem : (id, ref) ∈ w.job.listeners) : sub.Follows (w.dropped id ref) := by
  by_cases href : sub.ref = ref
  · have hchan : (w.dropped id ref).chans sub.ref = (w.chans sub.ref).shut .unsubscribe := by
      rw [href]
      exact JobWorld.dropped_chan_self
    refine h.cut (Nat.le_refl _) (List.append_nil _).symm ?_ ?_ ?_
    · rw [hchan]
      rfl
    · rw [hchan]
      simp
    · rw [hchan]
      simp
  · have hchan : (w.dropped id ref).chans sub.ref = w.chans sub.ref :=
      JobWorld.dropped_chan_of_ne href
    refine h.carry (Nat.le_refl _) rfl (by rw [hchan]) (by rw [hchan]) ?_ fun hne => hne
    intro id' hid'
    refine JobWorld.mem_dropped_listeners.mpr ⟨hid', ?_⟩
    intro heq
    -- one id has one channel
    have hpair := List.inj_on_of_nodup_map hw.ids hid' hmem heq
    exact href (congrArg Prod.snd hpair)

theorem JobWorld.subscribe_chan_of_ne {r : Nat} (h : r ≠ w.nextChan) :
    w.subscribe.1.chans r = w.chans r := by
  unfold JobWorld.subscribe
  by_cases hstate : w.job.state ≠ .running
  · rw [if_pos hstate]
    exact Function.update_of_ne h _ _
  · rw [if_neg hstate]
    exact Function.update_of_ne h _ _

theorem JobWorld.subscribe_chan_of_lt {r : Nat} (h : r < w.nextChan) :
    w.subscribe.1.chans r = w.chans r :=
  JobWorld.subscribe_chan_of_ne (Nat.ne_of_lt h)

theorem JobWorld.mem_subscribe_listeners {l : Nat × Nat} (h : l ∈ w.job.listeners) :
    l ∈ w.subscribe.1.job.listeners := by
  unfold JobWorld.subscribe
  by_cases hstate : w.job.state ≠ .running
  · rw [if_pos hstate]
    exact h
  · rw [if_neg hstate]
    exact List.mem_append_left _ h

/-- **Every statement keeps a subscription in step with the job.** -/
theorem JobEffect.follows (h : JobEffect writes own w w') (hw : w.Sound) {sub : Subscription}
    (hsub : sub.Follows w) : sub.Follows w' := by
  cases h with
  | same => exact hsub
  | wrote p hwrites hrun =>
      rw [hw.toWired.write p]
      exact hsub.wrote hw hrun p
  | returned res hrun =>
      exact hsub.carry (Nat.le_refl _) rfl rfl rfl (fun _ h => h) fun h => h
  | finished now res hret =>
      rw [hw.toWired.finish now res]
      have hold := hsub.hungUp hw now res
      exact hold.carry (Nat.le_refl _) rfl rfl rfl (fun _ h => h) fun h => h
  | exited hfin => exact hsub.carry (Nat.le_refl _) rfl rfl rfl (fun _ h => h) fun h => h
  | subscribed =>
      obtain ⟨_, hstate, _, _, hwritten, _, hnext⟩ := JobWorld.subscribe_rest (w := w)
      have hchan := JobWorld.subscribe_chan_of_lt hsub.known
      refine hsub.carry (by omega) hwritten (by rw [hchan]) (by rw [hchan])
        (fun _ h => JobWorld.mem_subscribe_listeners h) ?_
      rw [hstate]
      exact fun h => h
  | unsubscribed s hown =>
      rcases hw.toWired.unsubscribe s with ⟨id, ref, _, hmem, heq⟩ | heq
      · rw [heq]
        exact hsub.dropped hw hmem
      · rw [heq]
        exact hsub
  | received s hown r w' hrec =>
      obtain ⟨hsent, hclosed⟩ := JobWorld.receive_chan hrec sub.ref
      obtain ⟨c, _, heq⟩ := JobWorld.receive_eq_some hrec
      refine hsub.carry ?_ ?_ hsent hclosed ?_ ?_
      · rw [heq]
        exact Nat.le_refl _
      · rw [heq]
        rfl
      · rw [heq]
        exact fun _ h => h
      · rw [heq]
        exact fun h => h

/-- **A new subscription is in step**: nothing has been written since. -/
theorem JobWorld.subscribe_follows (hw : w.Sound) : w.subscribe.2.Follows w.subscribe.1 := by
  have htake : w.written = w.written.take w.written.length ++ (([] : List Bytes).flatten ++ []) := by
    simp
  have hsnap : w.job.output.snapshot
      = (w.written.take w.written.length).rtake defaultBufferSize := by
    rw [List.take_length]
    exact hw.buf
  unfold JobWorld.subscribe
  by_cases hstate : w.job.state ≠ .running
  · rw [if_pos hstate]
    have hchan : (Function.update w.chans w.nextChan ((Chan.make 0).shut .completion)) w.nextChan
        = (Chan.make 0).shut .completion := Function.update_self _ _ _
    refine ⟨Nat.lt_succ_self _, Nat.le_refl _, hsnap, ⟨[], ?_, fun _ => rfl, fun _ => rfl⟩, ?_,
      fun _ => hstate⟩
    · show w.written = w.written.take w.written.length
        ++ ((Function.update w.chans w.nextChan _ w.nextChan).sent.flatten ++ [])
      rw [hchan]
      exact htake
    · intro hnone
      have hnone : (Function.update w.chans w.nextChan ((Chan.make 0).shut .completion)
        w.nextChan).closedBy = none := hnone
      rw [hchan] at hnone
      cases hnone
  · rw [if_neg hstate]
    have hchan : (Function.update w.chans w.nextChan (.make listenerBuffer)) w.nextChan
        = (.make listenerBuffer : Chan Bytes Closer) := Function.update_self _ _ _
    refine ⟨Nat.lt_succ_self _, Nat.le_refl _, hsnap, ⟨[], ?_, fun _ => rfl, fun _ => rfl⟩, ?_, ?_⟩
    · show w.written = w.written.take w.written.length
        ++ ((Function.update w.chans w.nextChan _ w.nextChan).sent.flatten ++ [])
      rw [hchan]
      exact htake
    · intro _
      exact ⟨w.job.nextLis, rfl, List.mem_append_right _ (List.mem_singleton_self _)⟩
    · intro hend
      have hend : (Function.update w.chans w.nextChan (.make listenerBuffer)
        w.nextChan).closedBy = some .completion := hend
      rw [hchan] at hend
      cases hend

end Keeps

/-! ## §4. The theorem. -/

section Protocol

variable {ι : Type*} {text : Bytes → String}

theorem Acquires.effect {writes : Bool} {w w' : JobWorld} {old new : Option Subscription}
    (h : Acquires writes w old new w') : JobEffect writes old w w' := by
  cases h with
  | kept _ heff _ => exact heff
  | got _ _ => exact .subscribed

/-- The outline of the protocol. -/
def listenerOutline (text : Bytes → String) : Outline (jobMachine text) Guard.free :=
  Outline.solitary JobWorld.Sound
    (fun w l => ∀ sub, l.subscription = some sub → sub.Follows w)
    (by
      intro e w l w' l' _ _ hstep hw hl
      have h := JobParty.step_acquires hstep
      refine ⟨h.effect.sound hw, ?_⟩
      intro sub hsub
      cases h with
      | kept _ heff hkept =>
          rw [hkept] at hsub
          exact heff.follows hw (hl sub hsub)
      | got _ hgot =>
          cases hgot.symm.trans hsub
          exact JobWorld.subscribe_follows hw)
    (by
      intro e w l w' l' m _ _ _ hstep hw _ hm sub hsub
      exact (JobParty.step_acquires hstep).effect.follows hw (hm sub hsub))

/-- A job that `Run` has just registered, and parties that have not begun. -/
structure JobOpening (c : Config JobWorld JobParty ι) : Prop where
  job : ∃ id action now, c.shared = .fresh (newJob id action now)
  parties : ∀ i, (c.locals i).unstarted = true

theorem JobParty.subscription_of_unstarted {l : JobParty} (h : l.unstarted = true) :
    l.subscription = none := by
  cases l with
  | goroutine => rfl
  | listener sub => exact Option.isNone_iff_eq_none.mp h
  | stream st =>
      have hpc := (of_decide_eq_true h).1
      show st.subscription = none
      unfold Stream.subscription
      rw [hpc]
  | tab t =>
      have hpc := (of_decide_eq_true h).1
      show t.stream.subscription = none
      unfold Stream.subscription
      rw [hpc]

theorem JobOpening.holds {c : Config JobWorld JobParty ι} (h : JobOpening c) :
    (listenerOutline text).Holds c := by
  refine ⟨?_, ?_, fun _ _ _ => trivial⟩
  · obtain ⟨id, action, now, hjob⟩ := h.job
    rw [hjob]
    exact JobWorld.sound_fresh id action now
  · intro i sub hsub
    rw [JobParty.subscription_of_unstarted (h.parties i)] at hsub
    cases hsub

/-- What a listener has been sent: its snapshot and its chunks are one piece of what
the job has written, from byte `start - 512 Ki` on, and nothing is missing at the end
(`after`) while the channel is open or if the end of the job has closed it. -/
def Subscription.Delivers (w : JobWorld) (sub : Subscription) : Prop :=
  ∃ before after, w.written = before ++ (sub.snapshot ++ (w.chans sub.ref).sent.flatten) ++ after
    ∧ before.length = sub.start - defaultBufferSize
    ∧ ((w.chans sub.ref).closedBy = none → after = [])
    ∧ ((w.chans sub.ref).closedBy = some .completion → after = [] ∧ w.job.state ≠ .running)

theorem Subscription.Follows.delivers {w : JobWorld} {sub : Subscription} (h : sub.Follows w) :
    sub.Delivers w := by
  obtain ⟨rest, hrest, hopen, hend⟩ := h.segment
  have hlen : (w.written.take sub.start).length = sub.start := by
    rw [List.length_take]
    exact Nat.min_eq_left h.start_le
  refine ⟨(w.written.take sub.start).take (sub.start - defaultBufferSize), rest, ?_, ?_, hopen,
    fun hc => ⟨hend hc, h.ended hc⟩⟩
  · -- what the snapshot has forgotten, and the snapshot
    have hsplit : w.written.take sub.start
        = (w.written.take sub.start).take (sub.start - defaultBufferSize) ++ sub.snapshot := by
      rw [h.snapshot]
      unfold List.rtake
      rw [hlen, List.take_append_drop]
    conv_lhs => rw [hrest, hsplit]
    simp only [List.append_assoc]
  · rw [List.length_take, hlen]
    exact Nat.min_eq_left (Nat.sub_le _ _)

/-- **THE LISTENER PROTOCOL**: in every run no channel is closed twice or sent to once
closed, and every subscriber has been sent one piece of the output, up to its end if
the end of the job has closed the channel. -/
theorem listener_protocol [DecidableEq ι] {c c' : Config JobWorld JobParty ι}
    (hopening : JobOpening c)
    (hruns : (jobMachine text).Runs Guard.free c c') :
    c'.shared.panicked = false
      ∧ ∀ i sub, (c'.locals i).subscription = some sub → sub.Delivers c'.shared := by
  have hend := (listenerOutline text).runs hruns hopening.holds
  exact ⟨hend.shared.calm, fun i sub hsub => (hend.party i sub hsub).delivers⟩

/-- A job, its goroutine and two users of `Subscribe`. -/
def twoListeners : Config JobWorld JobParty (Option Bool) where
  shared := .fresh (newJob "j" "updates.apply" ⟨second, Nat.le_refl _⟩)
  locals := fun i =>
    match i with
    | none => .goroutine
    | some _ => .listener none

/-- What happens at a party at the given second. -/
def jobEnv (seconds : Nat) (act : JobAct) : JobEnv :=
  ⟨⟨(seconds + 1) * second, le_succ_mul_second seconds⟩, act⟩

/-- One subscribes before the first write, the other between the two; the first leaves
before the second write, and both call the unsubscribe function after the end. -/
theorem listener_protocol_of_two :
    let sched : List (Option Bool × JobEnv) :=
      [(some true, jobEnv 0 .next), (none, jobEnv 1 (.write [1, 2])),
       (some false, jobEnv 2 .next), (some true, jobEnv 3 .unsubscribe),
       (none, jobEnv 4 (.write [3])), (none, jobEnv 5 (.returns none)),
       (none, jobEnv 6 .next), (some false, jobEnv 7 .receive), (some true, jobEnv 8 .unsubscribe),
       (some false, jobEnv 9 .unsubscribe), (none, jobEnv 10 .next)]
    let c := (jobMachine fun _ => "").after Guard.free sched twoListeners
    c.shared.written = [1, 2, 3] ∧ c.shared.panicked = false
      ∧ ∀ i sub, (c.locals i).subscription = some sub → sub.Delivers c.shared := by
  intro sched c
  have hopening : JobOpening twoListeners := by
    refine ⟨⟨_, _, _, rfl⟩, ?_⟩
    intro i
    cases i <;> rfl
  have hruns : (jobMachine fun _ => "").Runs Guard.free twoListeners c :=
    Machine.runs_after (by decide +kernel)
  exact ⟨by decide +kernel, listener_protocol hopening hruns⟩

end Protocol

end ControlRoom
