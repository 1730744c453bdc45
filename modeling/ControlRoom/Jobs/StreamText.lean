/-
  ControlRoom.Jobs.StreamText
  ───────────────────────────
  **JOB OUTPUT AS TEXT.**

  A frame's `output` is a Go string made of the bytes of one `Write`, or of
  the ring buffer.  `encoding/json` replaces each byte of it that is no UTF-8
  by U+FFFD, so a character that a `Write`, or the start of the snapshot, has
  cut in two does not come back.

    §1  decoded frames, and what a statement writes,
    §2  a channel holds the pieces written since the subscription,
    §3  the theorem, and a character cut in two.
-/
import ControlRoom.Foundation.Traces
import ControlRoom.Foundation.Utf8
import ControlRoom.Jobs.Streams

namespace ControlRoom

open Foundation

/-! ## §1. Frames and writes. -/

/-- What the client reads in a frame. -/
def Frame.decoded (f : Frame) : List Char := lossy f.output

/-- What it reads in all of them. -/
def decoded (frames : List Frame) : List Char := frames.flatMap Frame.decoded

/-- The client reads the snapshot and the chunks. -/
theorem Carries.decoded {sub : Subscription} {chunks : List Bytes} {frames : List Frame}
    (h : Carries sub chunks frames) : decoded frames = (sub.snapshot :: chunks).flatMap lossy := by
  unfold ControlRoom.decoded
  induction h with
  | opening =>
      unfold Subscription.opening
      by_cases hnil : sub.snapshot = []
      · rw [if_pos hnil, hnil]
        rfl
      · rw [if_neg hnil]
        rfl
  | chunk x _ ih =>
      rw [List.flatMap_append, ih, ← List.cons_append, List.flatMap_append]
      rfl
  | state s _ ih =>
      rw [List.flatMap_append, ih]
      exact List.append_nil _

/-- What a statement writes. -/
def writesOf (e : JobEnv) (w : JobWorld) : JobParty → List Bytes
  | .goroutine =>
      match w.goroutine, e.act with
      | .running, .write p => [p]
      | _, _ => []
  | _ => []

section Steps

variable {text : Bytes → String} {e : JobEnv} {w w' : JobWorld} {l l' : JobParty}
  {own : Option Subscription} {sub : Subscription}

/-- A statement is a `Write`, or writes nothing. -/
theorem JobParty.step_writes (h : l.step text e w = some (w', l')) :
    (∃ p, writesOf e w l = [p] ∧ w.goroutine = .running ∧ w' = w.settle (w.write p))
      ∨ (writesOf e w l = [] ∧ JobEffect false l.subscription w w') := by
  cases l with
  | goroutine =>
      -- of the goroutine's steps, only a `Write` of the running function writes
      obtain ⟨w₁, hadvance, heq⟩ := Option.map_eq_some_iff.mp h
      cases heq
      unfold JobWorld.advance at hadvance
      unfold writesOf
      split at hadvance
      · next p hg hact =>
        cases hadvance
        exact .inl ⟨p, by rw [hg, hact], hg, rfl⟩
      · next res hg hact =>
        cases hadvance
        exact .inr ⟨by rw [hg, hact], .returned res hg⟩
      · next res hg hact =>
        cases hadvance
        exact .inr ⟨by rw [hg], .finished e.now res hg⟩
      · next hg hact =>
        cases hadvance
        exact .inr ⟨by rw [hg], .exited hg⟩
      · cases hadvance
  | listener s => exact .inr ⟨rfl, (JobParty.step_acquires h).effect⟩
  | stream st => exact .inr ⟨rfl, (JobParty.step_acquires h).effect⟩
  | tab t => exact .inr ⟨rfl, (JobParty.step_acquires h).effect⟩

theorem JobEffect.written_eq (h : JobEffect false own w w') (hw : w.Sound) :
    w'.written = w.written := by
  cases h with
  | same => rfl
  | wrote p hwrites hrun => cases hwrites
  | returned res hrun => rfl
  | finished now res hret =>
      rw [hw.toWired.finish now res]
      rfl
  | exited hfin => rfl
  | subscribed => exact (JobWorld.subscribe_rest (w := w)).2.2.2.2.1
  | unsubscribed s hown =>
      rcases hw.toWired.unsubscribe s with ⟨id, ref, _, _, heq⟩ | heq
      · rw [heq]
        rfl
      · rw [heq]
        rfl
  | received s hown v w' hrec =>
      obtain ⟨c, _, heq⟩ := JobWorld.receive_eq_some hrec
      rw [heq]
      rfl

/-- **What has been written** grows by what a statement writes. -/
theorem JobParty.step_written (h : l.step text e w = some (w', l')) (hw : w.Sound) :
    w'.written = w.written ++ (writesOf e w l).flatten := by
  rcases JobParty.step_writes h with ⟨p, hwrites, _, hw'⟩ | ⟨hwrites, hsilent⟩
  · rw [hwrites, hw', hw.toWired.write p, List.flatten_singleton]
    rfl
  · rw [hwrites, hsilent.written_eq hw, List.flatten_nil, List.append_nil]

/-! ## §2. The pieces. -/

/-- A statement that writes nothing sends nothing, and reopens no channel; a channel that it makes
is empty. -/
theorem JobEffect.silent_cases (h : JobEffect false own w w') (hw : w.Sound) (r : Nat) :
    ((w'.chans r).sent = (w.chans r).sent
        ∧ ((w.chans r).closedBy ≠ none → (w'.chans r).closedBy = (w.chans r).closedBy))
      ∨ (¬ r < w.nextChan ∧ (w'.chans r).sent = []) := by
  cases h with
  | same => exact .inl ⟨rfl, fun _ => rfl⟩
  | wrote p hwrites hrun => cases hwrites
  | returned res hrun => exact .inl ⟨rfl, fun _ => rfl⟩
  | finished now res hret =>
      left
      rw [hw.toWired.finish now res]
      show ((w.hungUp now res).chans r).sent = _
        ∧ (_ → ((w.hungUp now res).chans r).closedBy = _)
      by_cases hmem : r ∈ w.job.listeners.map Prod.snd
      · -- the end closes it, but it was open
        obtain ⟨l, hl, href⟩ := List.mem_map.mp hmem
        have hchan : (w.hungUp now res).chans r = (w.chans r).shut .completion := if_pos hmem
        have hopen : (w.chans r).closedBy = none := href ▸ hw.opened l hl
        rw [hchan]
        exact ⟨rfl, fun hclosed => absurd hopen hclosed⟩
      · have hchan : (w.hungUp now res).chans r = w.chans r := if_neg hmem
        rw [hchan]
        exact ⟨rfl, fun _ => rfl⟩
  | exited hfin => exact .inl ⟨rfl, fun _ => rfl⟩
  | subscribed =>
      by_cases hnew : r = w.nextChan
      · right
        have hchan := JobWorld.subscribe_chan_new (w := w)
        rw [(JobWorld.subscribe_new w).1, ← hnew] at hchan
        refine ⟨by omega, ?_⟩
        rcases hchan with hchan | hchan <;> rw [hchan] <;> rfl
      · left
        rw [JobWorld.subscribe_chan_of_ne hnew]
        exact ⟨rfl, fun _ => rfl⟩
  | unsubscribed s hown =>
      left
      rcases hw.toWired.unsubscribe s with ⟨id, ref, _, hmem, heq⟩ | heq
      · rw [heq]
        show ((w.dropped id ref).chans r).sent = _
          ∧ (_ → ((w.dropped id ref).chans r).closedBy = _)
        by_cases href : r = ref
        · rw [href, JobWorld.dropped_chan_self]
          exact ⟨rfl, fun hclosed => absurd (hw.opened _ hmem) hclosed⟩
        · rw [JobWorld.dropped_chan_of_ne href]
          exact ⟨rfl, fun _ => rfl⟩
      · rw [heq]
        exact ⟨rfl, fun _ => rfl⟩
  | received s hown v w' hrec =>
      obtain ⟨hsent, hclosed⟩ := JobWorld.receive_chan hrec r
      exact .inl ⟨hsent, fun _ => hclosed⟩

theorem JobEffect.silent (h : JobEffect false own w w') (hw : w.Sound) {r : Nat}
    (hr : r < w.nextChan) :
    (w'.chans r).sent = (w.chans r).sent
      ∧ ((w.chans r).closedBy ≠ none → (w'.chans r).closedBy = (w.chans r).closedBy) :=
  (h.silent_cases hw r).resolve_right fun hnew => hnew.1 hr

/-- A `Write` is sent to a listener that it leaves in step. -/
theorem Subscription.Follows.wrote_sent (h : sub.Follows w) (hw : w.Sound)
    (hrun : w.goroutine = .running) {p : Bytes} (hlast : Lasting ((w.wrote p).chans sub.ref)) :
    Lasting (w.chans sub.ref)
      ∧ ((w.wrote p).chans sub.ref).sent = (w.chans sub.ref).sent ++ [p] := by
  by_cases hmem : sub.ref ∈ w.job.listeners.map Prod.snd
  · obtain ⟨l, hl, href⟩ := List.mem_map.mp hmem
    have hopen : (w.chans sub.ref).closedBy = none := href ▸ hw.opened l hl
    rw [JobWorld.wrote_chan_of_mem hmem] at hlast ⊢
    by_cases hfull : (w.chans sub.ref).full
    · rw [offered_of_full hfull] at hlast
      rcases hlast with hlast | hlast <;> cases hlast
    · rw [offered_of_room hfull]
      exact ⟨.inl hopen, rfl⟩
  · -- a channel that is not in the map is closed, and the job is still running
    rw [JobWorld.wrote_chan_of_not_mem hmem] at hlast
    rcases hlast with hopen | hend
    · obtain ⟨id, _, hlis⟩ := h.mapped hopen
      exact absurd (List.mem_map_of_mem hlis) hmem
    · exact absurd (hw.running hrun) (h.ended hend)

/-- A job from the subscription on: `seen` is what has been written since, and all that has been
sent to a channel that lasts. -/
structure Subscription.Logs (sub : Subscription) (before : Bytes) (seen : List Bytes)
    (w : JobWorld) : Prop where
  sound : w.Sound
  follows : sub.Follows w
  written : w.written = before ++ seen.flatten
  sent : Lasting (w.chans sub.ref) → (w.chans sub.ref).sent = seen

/-- **Every statement** logs what it writes. -/
theorem Subscription.Logs.step {before : Bytes} {seen : List Bytes} (h : sub.Logs before seen w)
    (hstep : l.step text e w = some (w', l')) :
    sub.Logs before (seen ++ writesOf e w l) w' := by
  have heffect := (JobParty.step_acquires hstep).effect
  refine ⟨heffect.sound h.sound, heffect.follows h.sound h.follows, ?_, fun hlast => ?_⟩
  · rw [JobParty.step_written hstep h.sound, h.written, List.flatten_append, List.append_assoc]
  · rcases JobParty.step_writes hstep with ⟨p, hwrites, hrun, hw'⟩ | ⟨hwrites, hsilent⟩
    · rw [hw', h.sound.toWired.write p] at hlast ⊢
      obtain ⟨hold, hsent⟩ := h.follows.wrote_sent h.sound hrun hlast
      rw [hwrites, ← h.sent hold]
      exact hsent
    · obtain ⟨hsent, hclosed⟩ := hsilent.silent h.sound h.follows.known
      have hold : Lasting (w.chans sub.ref) := by
        by_cases hopen : (w.chans sub.ref).closedBy = none
        · exact .inl hopen
        · unfold Lasting at hlast
          rw [hclosed hopen] at hlast
          exact hlast
      rw [hwrites, List.append_nil, hsent, h.sent hold]

end Steps

/-! ## §3. The theorem. -/

section StreamText

variable {ι : Type*} [DecidableEq ι] {text : Bytes → String} {g : Guard JobEnv JobWorld JobParty}

/-- A run up to the subscription. -/
theorem written_before {c c' : Config JobWorld JobParty ι} {ps : List Bytes}
    (hopening : JobOpening c) (h : (jobMachine text).Traces g (fun _ => writesOf) c ps c') :
    c'.shared.Sound ∧ c'.shared.written = ps.flatten := by
  obtain ⟨id, action, now, hjob⟩ := hopening.job
  refine h.preserves (I := fun seen c => c.shared.Sound ∧ c.shared.written = seen.flatten) ?_ ?_
  · intro seen i e c₁ c₂ hstep ⟨hsound, hwritten⟩
    obtain ⟨w', l', hparty, rfl, rfl, -⟩ := hstep.cases
    refine ⟨(JobParty.step_acquires hparty).effect.sound hsound, ?_⟩
    rw [JobParty.step_written hparty hsound, hwritten, List.flatten_append]
  · rw [hjob]
    exact ⟨JobWorld.sound_fresh id action now, rfl⟩

theorem JobWorld.subscribe_start (w : JobWorld) : w.subscribe.2.start = w.written.length := by
  unfold JobWorld.subscribe
  split <;> rfl

/-- The subscription. -/
theorem logs_subscribed {c c' : Config JobWorld JobParty ι} {i : ι} {e : JobEnv}
    (hstep : (jobMachine text).StepBy g i e c c') (hsound : c.shared.Sound)
    (hnone : (c.locals i).subscription = none) {sub : Subscription}
    (hsome : (c'.locals i).subscription = some sub) :
    sub.start = c.shared.written.length ∧ sub.Logs c.shared.written [] c'.shared := by
  obtain ⟨w', l', hparty, rfl, rfl, -⟩ := hstep.cases
  have hacquires := JobParty.step_acquires hparty
  generalize c'.shared = w' at *
  have hsound' := hacquires.effect.sound hsound
  cases hacquires with
  | kept _ _ hkept =>
      rw [hsome, hnone] at hkept
      cases hkept
  | got _ hgot =>
      cases hsome.symm.trans hgot
      have hchan := JobWorld.subscribe_chan_new (w := c.shared)
      refine ⟨JobWorld.subscribe_start c.shared, hsound',
        JobWorld.subscribe_follows hsound, ?_, fun _ => ?_⟩
      · rw [(JobWorld.subscribe_rest (w := c.shared)).2.2.2.2.1]
        exact (List.append_nil _).symm
      · rcases hchan with hchan | hchan <;> rw [hchan] <;> rfl

/-- A run from the subscription on. -/
theorem logs_after {c c' : Config JobWorld JobParty ι} {sub : Subscription} {before : Bytes}
    {qs : List Bytes} (hlogs : sub.Logs before [] c.shared)
    (h : (jobMachine text).Traces g (fun _ => writesOf) c qs c') : sub.Logs before qs c'.shared := by
  refine h.preserves (I := fun seen c => sub.Logs before seen c.shared) ?_ hlogs
  intro seen i e c₁ c₂ hstep hlogs
  obtain ⟨w', l', hparty, rfl, -, -⟩ := hstep.cases
  exact hlogs.step hparty

/-- **WHEN JOB OUTPUT SURVIVES CHUNKING**: a client that keeps up reads the output, from the first
character that is whole in the buffer, just when every `Write` since its subscription, and the
buffer at that moment, begins with the first byte of a character. -/
theorem job_text_iff {c c₁ c₂ c' : Config JobWorld JobParty ι} (hopening : JobOpening c)
    {sub : Subscription} {i : ι} {e : JobEnv} {ps qs : List Bytes}
    (hbefore : (jobMachine text).Traces (attentive sub.ref) (fun _ => writesOf) c ps c₁)
    (hstep : (jobMachine text).StepBy (attentive sub.ref) i e c₁ c₂)
    (hnone : (c₁.locals i).subscription = none) (hsome : (c₂.locals i).subscription = some sub)
    (hafter : (jobMachine text).Traces (attentive sub.ref) (fun _ => writesOf) c₂ qs c')
    {st : Stream} (hst : (c'.locals i).handler = some st) (hret : st.pc = .returned (some sub))
    (hconn : st.connected = true) {output : List Char}
    (houtput : (ps ++ qs).flatten = utf8 output) :
    decoded st.frames = charsFrom (ps.flatten.length - defaultBufferSize) output ↔
      Begins (ps.flatten.rtake defaultBufferSize) ∧ ∀ q ∈ qs, Begins q := by
  obtain ⟨hsound, hwritten⟩ := written_before hopening hbefore
  obtain ⟨hstart, hlogs⟩ := logs_subscribed hstep hsound hnone hsome
  have hend := logs_after hlogs hafter
  have hruns : (jobMachine text).Runs (attentive sub.ref) c c' :=
    (hbefore.runs.tail ⟨i, e, hstep⟩).trans hafter.runs
  have htold := ((streamOutline text sub.ref).runs hruns
    (hopening.attended sub.ref)).party i |>.handler st hst hconn
  rw [hret] at htold
  have htold : Told c'.shared st.frames sub := htold rfl
  -- the client has been sent the buffer and every later piece, in order: so it decodes the output
  -- from where the buffer began, cut where the pieces are
  have hsnapshot : sub.snapshot = ps.flatten.rtake defaultBufferSize := by
    rw [hend.follows.snapshot, hend.written, hstart, List.take_left, hwritten]
  have hpieces : (sub.snapshot :: qs).flatten
      = (utf8 output).drop (ps.flatten.length - defaultBufferSize) := by
    rw [← houtput, List.flatten_append, List.drop_append_of_le_length (Nat.sub_le _ _),
      List.flatten_cons, hsnapshot]
    rfl
  rw [htold.carried.decoded, hend.sent (.inr htold.closed), flatMap_lossy_iff hpieces,
    List.forall_mem_cons, hsnapshot]

end StreamText

section Schedules

/-- The client subscribes between `a` and `é`, and reads both. -/
theorem job_text_whole :
    let sub : Subscription := ⟨[0x61], 0, some 0, 1⟩
    let g := attentive sub.ref
    let ps : List Bytes := [[0x61]]
    let c₁ := (jobMachine fun _ => "").after g
      [(true, jobEnv 0 (.write [0x61])), (false, jobEnv 1 .next)] oneStream
    let c₂ := (jobMachine fun _ => "").after g [(false, jobEnv 2 .next)] c₁
    let c' := (jobMachine fun _ => "").after g
      [(false, jobEnv 3 .next), (false, jobEnv 4 .next), (true, jobEnv 5 (.write [0xC3, 0xA9])),
       (true, jobEnv 6 (.returns none)), (true, jobEnv 7 .next), (true, jobEnv 8 .next),
       (false, jobEnv 9 (.select .chunk)), (false, jobEnv 10 (.select .done)),
       (false, jobEnv 11 .next)] c₂
    let frames : List Frame :=
      [.snapshot [0x61], .state (.job .running), .chunk [0xC3, 0xA9], .state (.job .succeeded)]
    (c'.locals false).handler = some ⟨"j", .returned (some sub), frames, true⟩
      ∧ decoded frames = charsFrom (ps.flatten.length - defaultBufferSize) ['a', 'é'] := by
  intro sub g ps c₁ c₂ c' frames
  have hbefore : (jobMachine fun _ => "").Traces g (fun _ => writesOf) oneStream ps c₁ :=
    Machine.traces_after (by decide +kernel) (by decide +kernel)
  have hstep : (jobMachine fun _ => "").StepBy g false (jobEnv 2 .next) c₁ c₂ :=
    Machine.stepBy_after (by decide +kernel)
  have hafter : (jobMachine fun _ => "").Traces g (fun _ => writesOf) c₂ [[0xC3, 0xA9]] c' :=
    Machine.traces_after (by decide +kernel) (by decide +kernel)
  have hst : (c'.locals false).handler = some ⟨"j", .returned (some sub), frames, true⟩ := by
    decide +kernel
  have houtput : (ps ++ [[0xC3, 0xA9]]).flatten = utf8 ['a', 'é'] := by decide +kernel
  exact ⟨hst, (job_text_iff oneStream_opening hbefore hstep (by decide +kernel) (by decide +kernel)
    hafter hst rfl rfl houtput).mpr (by decide +kernel)⟩

/-- **A character is cut in two**: `é` is written in two pieces, and the client reads U+FFFD
twice. -/
theorem job_text_cut :
    let c := (jobMachine fun _ => "").after (attentive 0)
      [(false, jobEnv 0 .next), (false, jobEnv 1 .next), (false, jobEnv 2 .next),
       (false, jobEnv 3 .next), (true, jobEnv 4 (.write [0xC3])), (true, jobEnv 5 (.write [0xA9])),
       (true, jobEnv 6 (.returns none)), (true, jobEnv 7 .next), (true, jobEnv 8 .next),
       (false, jobEnv 9 (.select .chunk)), (false, jobEnv 10 (.select .chunk)),
       (false, jobEnv 11 (.select .done)), (false, jobEnv 12 .next)] oneStream
    let frames : List Frame :=
      [.state (.job .running), .chunk [0xC3], .chunk [0xA9], .state (.job .succeeded)]
    (jobMachine fun _ => "").Runs (attentive 0) oneStream c
      ∧ (c.locals false).handler = some ⟨"j", .returned (some ⟨[], 0, some 0, 0⟩), frames, true⟩
      ∧ c.shared.written = utf8 ['é'] ∧ decoded frames ≠ ['é'] :=
  ⟨Machine.runs_after (by decide +kernel), by decide +kernel, by decide +kernel,
    by decide +kernel⟩

end Schedules

end ControlRoom
