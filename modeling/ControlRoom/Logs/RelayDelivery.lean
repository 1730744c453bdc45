/-
  ControlRoom.Logs.RelayDelivery
  ──────────────────────────────
  **NOTHING LOST, NOTHING TWICE** (the five live streams).

  A handler writes what the reader makes of the stream, from the first item on
  and in order, whoever is scheduled when.  And it says that the stream has
  ended, by closing the connection, only when it has written everything.

    §1  what has been made of the stream so far, and how it grows,
    §2  the goroutine that reads it,
    §3  the handler,
    §4  the theorem (`relay_delivers`).
-/
import ControlRoom.Logs.Relays

namespace ControlRoom

open Foundation

variable {β α : Type} {code : RelayCode β α} {e : RelayEvent β} {s s' : LiveRelay β α}
  {l l' : RelayParty α} {h h' : RelayHandlerPC α} {d d' : DrainerPC} {p p' : ProducerPC α}
  {r r' : ReaperPC}

/-! ## §1. What has been made of the stream. -/

/-- The chunks of what the reader has got. -/
def LiveRelay.streamed (code : RelayCode β α) (s : LiveRelay β α) : List (List α) :=
  code.reader.sees s.got s.eof

/-- The chunks of all that has been written. -/
def LiveRelay.made (code : RelayCode β α) (s : LiveRelay β α) : List (List α) :=
  code.reader.sees s.written s.ended

/-- A source that has ended writes no more. -/
theorem RelayStep.written_grows (hstep : RelayStep code e s l s' l') :
    ∃ more, s'.written = s.written ++ more ∧ (s.ended = true → more = [])
      ∧ (s.ended = true → s'.ended = true) := by
  cases hstep with
  | writes bytes _ _ hended =>
      refine ⟨bytes, rfl, ?_, ?_⟩
      · intro h
        rw [hended] at h
        cases h
      · exact fun h => h
  | ends => exact ⟨[], (List.append_nil _).symm, fun _ => rfl, fun _ => rfl⟩
  | bodyClosed => exact ⟨[], (List.append_nil _).symm, fun _ => rfl, fun _ => rfl⟩
  | _ => exact ⟨[], (List.append_nil _).symm, fun _ => rfl, fun h => h⟩

/-- Nor does a reader get more that has come to the end. -/
theorem RelayStep.got_grows (hstep : RelayStep code e s l s' l') :
    ∃ more, s'.got = s.got ++ more ∧ (s.eof = true → more = [])
      ∧ (s.eof = true → s'.eof = true) := by
  have hnil : s.eof = true → s.ended = true ∧ s.pipe = [] := by
    intro h
    simpa [LiveRelay.eof] using h
  cases hstep with
  | filled pc n _ _ hn =>
      refine ⟨s.pipe.take n, rfl, ?_, ?_⟩
      · intro h
        rw [(hnil h).2, List.take_nil]
      · intro h
        have hlength := hn.2
        rw [(hnil h).2, List.length_nil] at hlength
        omega
  | writes bytes _ _ hended =>
      refine ⟨[], (List.append_nil _).symm, fun _ => rfl, ?_⟩
      intro h
      rw [hended] at hnil
      cases (hnil h).1
  | ends _ hended =>
      refine ⟨[], (List.append_nil _).symm, fun _ => rfl, ?_⟩
      intro h
      rw [hended] at hnil
      cases (hnil h).1
  | bodyClosed => exact ⟨[], (List.append_nil _).symm, fun _ => rfl, fun _ => rfl⟩
  | reaps hended =>
      refine ⟨[], (List.append_nil _).symm, fun _ => rfl, fun _ => ?_⟩
      unfold LiveRelay.eof
      rw [hended]
      rfl
  | _ => exact ⟨[], (List.append_nil _).symm, fun _ => rfl, fun h => h⟩

/-- **What has been made stays.** -/
theorem RelayStep.made_grows (hstep : RelayStep code e s l s' l') :
    s.made code <+: s'.made code := by
  obtain ⟨more, hwritten, hmore, hended⟩ := hstep.written_grows
  unfold LiveRelay.made
  rw [hwritten]
  exact code.reader.sees_prefix hmore _ hended

/-- The source has ended, or the reader has given up on what it has written. -/
def LiveRelay.Over (code : RelayCode β α) (s : LiveRelay β α) : Prop :=
  s.ended = true ∨ code.reader.givenUp s.written = true

/-- Then nothing more is made of it. -/
theorem RelayStep.made_of_over (hstep : RelayStep code e s l s' l') (hover : s.Over code) :
    s'.made code = s.made code ∧ s'.Over code := by
  obtain ⟨more, hwritten, hmore, hended⟩ := hstep.written_grows
  unfold LiveRelay.made LiveRelay.Over
  rcases hover with hover | hover
  · rw [hwritten, hmore hover, hended hover, hover, List.append_nil]
    exact ⟨rfl, .inl rfl⟩
  · have hsees := code.reader.sees_of_givenUp hover
    have hnow := hsees [] s.ended
    rw [List.append_nil] at hnow
    rw [hwritten, hsees more s'.ended, hnow]
    exact ⟨rfl, .inr (code.reader.stays _ _ hover)⟩

/-- What the reader has got is a part of what has been written, -/
theorem streamed_prefix_made (hpiped : s.got ++ s.pipe = s.written) :
    s.streamed code <+: s.made code := by
  unfold LiveRelay.streamed LiveRelay.made
  rw [← hpiped]
  apply code.reader.sees_prefix
  · intro heof
    unfold LiveRelay.eof at heof
    simpa using (Bool.and_eq_true_iff.mp heof).2
  · intro heof
    exact (Bool.and_eq_true_iff.mp heof).1

/-- and all of it once it has come to the end. -/
theorem streamed_eq_made (hpiped : s.got ++ s.pipe = s.written)
    (hend : s.eof = true ∨ code.reader.givenUp s.got = true) :
    s.streamed code = s.made code ∧ s.Over code := by
  unfold LiveRelay.streamed LiveRelay.made LiveRelay.Over
  rcases hend with heof | hgiven
  · obtain ⟨hended, hpipe⟩ := Bool.and_eq_true_iff.mp heof
    rw [List.isEmpty_iff.mp hpipe, List.append_nil] at hpiped
    rw [heof, hended, hpiped]
    exact ⟨rfl, .inl rfl⟩
  · have hsees := code.reader.sees_of_givenUp hgiven
    have hnow := hsees [] s.eof
    rw [List.append_nil] at hnow
    rw [← hpiped, hsees, hnow]
    exact ⟨rfl, .inr (code.reader.stays _ _ hgiven)⟩

/-! ## §2. The goroutine that reads. -/

/-- What it has still to put on the channel of the chunk that it has made. -/
def ProducerPC.pending : ProducerPC α → List α
  | .sending rest => rest
  | _ => []

/-- It reads no more. -/
def ProducerPC.Stopped (p : ProducerPC α) : Prop := p = .closing ∨ p = .done

/-- **What has been sent**: the chunks that it has made, and all there are if it reads no more. -/
structure Produced (code : RelayCode β α) (s : LiveRelay β α) (p : ProducerPC α) : Prop where
  count : s.chunks ≤ (s.streamed code).length
  sent : s.chan.sent ++ p.pending = ((s.streamed code).take s.chunks).flatten
  all : p.Stopped → s.chunks = (s.streamed code).length
    ∧ (s.eof = true ∨ code.reader.givenUp s.got = true)

/-- A statement that sends nothing keeps it so. -/
theorem Produced.carry (hp : Produced code s p) (hstep : RelayStep code e s l s' l')
    (hsent : s'.chan.sent = s.chan.sent) (hchunks : s'.chunks = s.chunks) :
    Produced code s' p := by
  obtain ⟨more, hgot, hmore, heof⟩ := hstep.got_grows
  have hgrows : s.streamed code <+: s'.streamed code := by
    unfold LiveRelay.streamed
    rw [hgot]
    exact code.reader.sees_prefix hmore _ heof
  refine ⟨hchunks ▸ hp.count.trans hgrows.length_le, ?_, ?_⟩
  · obtain ⟨rest, hrest⟩ := hgrows
    rw [hsent, hp.sent, hchunks, ← hrest, List.take_append_of_le_length hp.count]
  · intro hstopped
    obtain ⟨hall, hend⟩ := hp.all hstopped
    have hsame : s'.streamed code = s.streamed code
        ∧ (s'.eof = true ∨ code.reader.givenUp s'.got = true) := by
      unfold LiveRelay.streamed
      rw [hgot]
      rcases hend with hend | hend
      · rw [hmore hend, heof hend, hend, List.append_nil]
        exact ⟨rfl, .inl rfl⟩
      · have hsees := code.reader.sees_of_givenUp hend
        have hnow := hsees [] s.eof
        rw [List.append_nil] at hnow
        rw [hsees, hnow]
        exact ⟨rfl, .inr (code.reader.stays _ _ hend)⟩
    rw [hsame.1, hchunks]
    exact ⟨hall, hsame.2⟩

/-- **The step lemma of the reading goroutine**, as long as its context lives. -/
theorem Produced.step (hp : Produced code s p) (hcancelled : s.cancelled = false)
    (hstep : RelayStep code e s (.producer p) s' (.producer p')) : Produced code s' p' := by
  have hgoesOn : ∀ {q : ProducerPC α}, q = .checking ∨ q = .reading → ¬ q.Stopped := by
    rintro q (rfl | rfl) (h | h) <;> cases h
  cases hstep with
  | peeked => exact ⟨hp.count, hp.sent, fun h => absurd h (hgoesOn (.inl rfl))⟩
  | peekedEnd hopened hpeeks hgot heof =>
      -- there is nothing to make of an empty stream
      have hnil : s.streamed code = [] := by
        unfold LiveRelay.streamed
        rw [heof, hgot]
        exact code.peeks_nil hpeeks
      have hcount := hp.count
      rw [hnil] at hcount
      exact ⟨hp.count, hp.sent, fun _ => ⟨by rw [hnil]; exact Nat.le_zero.mp hcount, .inl heof⟩⟩
  | filled pc n hopened hpc hn => exact hp.carry (.filled (e := e) p n hopened hpc hn) rfl rfl
  | checked h => exact absurd (hcancelled.symm.trans h) (by decide)
  | goesOn => exact ⟨hp.count, hp.sent, fun h => absurd h (hgoesOn (.inr rfl))⟩
  | chunk chunk hchunk =>
      obtain ⟨hlt, hget⟩ := List.getElem?_eq_some_iff.mp hchunk
      refine ⟨hlt, ?_, ?_⟩
      · have hsent : s.chan.sent ++ [] = _ := hp.sent
        show s.chan.sent ++ chunk = ((s.streamed code).take (s.chunks + 1)).flatten
        rw [List.append_nil] at hsent
        have htake : (s.streamed code).take (s.chunks + 1)
            = (s.streamed code).take s.chunks ++ [chunk] := by
          rw [List.take_add_one]
          exact congrArg (fun o => _ ++ Option.toList o) hchunk
        rw [htake, List.flatten_append, ← hsent, List.flatten_singleton]
      · rintro (h | h) <;> cases h
  | readAll hnone hend =>
      have hle : (s.streamed code).length ≤ s.chunks := List.getElem?_eq_none_iff.mp hnone
      exact ⟨hp.count, hp.sent, fun _ => ⟨Nat.le_antisymm hp.count hle, hend⟩⟩
  | sentChunk => exact ⟨hp.count, hp.sent, fun h => absurd h (hgoesOn (.inl rfl))⟩
  | put a rest hroom =>
      refine ⟨hp.count, ?_, ?_⟩
      · show s.chan.sent ++ [a] ++ rest = _
        rw [List.append_assoc]
        exact hp.sent
      · rintro (h | h) <;> cases h
  | gaveUp a rest h => exact absurd (hcancelled.symm.trans h) (by decide)
  | shut => exact ⟨hp.count, hp.sent, fun _ => hp.all (.inl rfl)⟩

/-! ## §3. The handler. -/

/-- What a handler has written when it ends: an error or nothing if it has refused, and then there
is no stream; else a part of what was to be made, and if the channel was drained, all of it. -/
def Ended (code : RelayCode β α) (s : LiveRelay β α) (o : RelayEnd) : Prop :=
  (o = .refused ∧ s.opened = false ∧ (s.frames = [] ∨ ∃ err, s.frames = [.error err]))
    ∨ ∃ items : List α, s.frames = items.map .item ∧ items <+: (s.made code).flatten
      ∧ (o = .drained → items = (s.made code).flatten ∧ s.Over code)

/-- What it has written, when it stands here, of what it has received. -/
def Handled (code : RelayCode β α) (s : LiveRelay β α) : RelayHandlerPC α → Prop
  | .selecting => s.frames = s.chan.received.map .item
  | .pinging => s.frames = s.chan.received.map .item
  | .sending a => s.frames ++ [.item a] = s.chan.received.map .item
  | .releasing o => Ended code s o
  | .cancelling o => Ended code s o
  | .hangingUp o => Ended code s o
  | .returned o => Ended code s o
  | _ => s.frames = [] ∧ s.chan.received = [] ∧ s.opened = false

/-- The handler has not let go of the stream. -/
def RelayHandlerPC.live : RelayHandlerPC α → Bool
  | .cancelling _ => false
  | .hangingUp _ => false
  | .returned _ => false
  | _ => true

theorem prefix_flatten {ls ls' : List (List α)} (h : ls <+: ls') : ls.flatten <+: ls'.flatten := by
  obtain ⟨rest, rfl⟩ := h
  rw [List.flatten_append]
  exact List.prefix_append _ _

/-- What has been written stays a part of what is made. -/
theorem Ended.carry {o : RelayEnd} (ho : Ended code s o) (hstep : RelayStep code e s l s' l')
    (hframes : s'.frames = s.frames) (hopened : s'.opened = s.opened) : Ended code s' o := by
  rcases ho with ⟨ho, hclosed, hrefused⟩ | ⟨items, hitems, hbegun, hall⟩
  · exact .inl ⟨ho, hopened.trans hclosed, hframes ▸ hrefused⟩
  · refine .inr ⟨items, hframes ▸ hitems, hbegun.trans (prefix_flatten hstep.made_grows), ?_⟩
    intro hdrained
    obtain ⟨heq, hover⟩ := hall hdrained
    obtain ⟨hmade, hover'⟩ := hstep.made_of_over hover
    exact ⟨by rw [heq, hmade], hover'⟩

/-- What the handler has written depends on nothing else. -/
theorem Handled.carry (hh : Handled code s h) (hstep : RelayStep code e s l s' l')
    (hframes : s'.frames = s.frames) (hreceived : s'.chan.received = s.chan.received)
    (hopened : s'.opened = s.opened) : Handled code s' h := by
  cases h with
  | releasing o => exact Ended.carry hh hstep hframes hopened
  | cancelling o => exact Ended.carry hh hstep hframes hopened
  | hangingUp o => exact Ended.carry hh hstep hframes hopened
  | returned o => exact Ended.carry hh hstep hframes hopened
  | selecting =>
      unfold Handled at hh ⊢
      rw [hframes, hreceived]
      exact hh
  | pinging =>
      unfold Handled at hh ⊢
      rw [hframes, hreceived]
      exact hh
  | sending a =>
      unfold Handled at hh ⊢
      rw [hframes, hreceived]
      exact hh
  | _ =>
      unfold Handled at hh ⊢
      rw [hframes, hreceived, hopened]
      exact hh

/-- What has been received is a part of what is made. -/
theorem received_prefix_made (hp : Produced code s p) (hpiped : s.got ++ s.pipe = s.written) :
    s.chan.received <+: (s.made code).flatten := by
  have hsent : s.chan.received <+: s.chan.sent := List.take_prefix _ _
  have hmade : s.chan.sent <+: ((s.streamed code).take s.chunks).flatten := ⟨_, hp.sent⟩
  exact (hsent.trans hmade).trans ((prefix_flatten (List.take_prefix _ _)).trans
    (prefix_flatten (streamed_prefix_made hpiped)))

/-- A drained channel has carried everything. -/
theorem received_eq_made {chan : Chan α Unit} (hp : Produced code s p)
    (hpiped : s.got ++ s.pipe = s.written) (hshut : s.chan.closedBy = none ↔ p ≠ .done)
    (hdrained : s.chan.receive = some (.closed, chan)) :
    s.chan.received = (s.made code).flatten ∧ s.Over code := by
  rcases Chan.receive_cases hdrained with ⟨a, heq, -⟩ | ⟨-, -, hbuffered, hclosed⟩
  · cases heq
  · have hdone : p = .done := by
      by_contra hne
      exact hclosed (hshut.mpr hne)
    obtain ⟨hall, hend⟩ := hp.all (.inr hdone)
    have hsent := hp.sent
    rw [hdone, hall, List.take_length] at hsent
    obtain ⟨hmade, hover⟩ := streamed_eq_made hpiped hend
    rw [Chan.received_of_buffered_nil hbuffered, ← hmade, ← hsent]
    exact ⟨(List.append_nil _).symm, hover⟩

/-- **The step lemma of the handler.** -/
theorem Handled.step (hh : Handled code s h)
    (hlive : h.live = true → Produced code s p ∧ s.got ++ s.pipe = s.written)
    (hshut : s.chan.closedBy = none ↔ p ≠ .done)
    (hstep : RelayStep code e s (.handler h) s' (.handler h')) : Handled code s' h' := by
  -- a handler that ends with what it has received
  have hends : ∀ o, o ≠ .drained → h.live = true → s.frames = s.chan.received.map .item →
      Ended code s o := by
    intro o ho hl hframes
    obtain ⟨hp, hpiped⟩ := hlive hl
    exact .inr ⟨_, hframes, received_prefix_made hp hpiped, fun hdrained => absurd hdrained ho⟩
  cases hstep with
  | refused pc err started hpc =>
      have hnone : s.frames = [] ∧ s.chan.received = [] ∧ s.opened = false := by
        rcases hpc with ⟨rfl, -⟩ | ⟨rfl, -⟩
        · exact hh
        · exact hh
      unfold refuse
      split
      · exact hnone
      · split
        · exact .inl ⟨rfl, hnone.2.2, .inl hnone.1⟩
        · exact .inl ⟨rfl, hnone.2.2, .inl hnone.1⟩
  | accepted => exact hh
  | started => exact hh
  | opened =>
      obtain ⟨hframes, hreceived, -⟩ := hh
      show s.frames = s.chan.received.map .item
      rw [hframes, hreceived]
      rfl
  | told err started ok =>
      have hframes : s.frames = [] := hh.1
      have hended : Ended code
          { s with frames := if ok then s.frames ++ [.error err] else s.frames } .refused := by
        refine .inl ⟨rfl, hh.2.2, ?_⟩
        rw [hframes]
        cases ok with
        | true => exact .inr ⟨err, rfl⟩
        | false => exact .inl rfl
      cases started with
      | true => exact hended
      | false => exact hended
  | noticed => exact hends .clientGone (by decide) rfl hh
  | ping => exact hh
  | took a chan htook =>
      have hframes : s.frames = s.chan.received.map .item := hh
      rcases Chan.receive_cases htook with ⟨a', heq, hreceived, -⟩ | ⟨heq, -⟩
      · cases heq
        show s.frames ++ [.item a] = chan.received.map .item
        rw [hreceived, hframes, List.map_append, List.map_singleton]
      · cases heq
  | drained chan hdrained =>
      obtain ⟨hp, hpiped⟩ := hlive rfl
      obtain ⟨hall, hover⟩ := received_eq_made hp hpiped hshut hdrained
      exact .inr ⟨_, hh, hall ▸ List.prefix_rfl, fun _ => ⟨hall, hover⟩⟩
  | sent a => exact hh
  | sendFailed a =>
      -- what was in hand is not written
      have hframes : s.frames ++ [.item a] = s.chan.received.map .item := hh
      obtain ⟨items, last, hsplit, hitems, -⟩ := List.map_eq_append_iff.mp hframes.symm
      obtain ⟨hp, hpiped⟩ := hlive rfl
      have hbegun : items <+: s.chan.received := ⟨last, hsplit.symm⟩
      exact .inr ⟨items, hitems.symm, hbegun.trans (received_prefix_made hp hpiped),
        fun hdrained => by cases hdrained⟩
  | pinged => exact hh
  | pingFailed => exact hends .writeFailed (by decide) rfl hh
  | bodyClosed o hcloses =>
      exact Ended.carry hh (RelayStep.bodyClosed (e := e) o hcloses) rfl rfl
  | bodyKept => exact hh
  | cancelled => exact hh
  | hungUp => exact hh

/-! ## §4. The theorem. -/

/-- **The invariant.** -/
structure RelayInv (code : RelayCode β α) (s : LiveRelay β α) (h : RelayHandlerPC α)
    (p : ProducerPC α) (r : ReaperPC) : Prop where
  piped : s.released = false → s.got ++ s.pipe = s.written
  live : h.live = true → s.released = false ∧ s.cancelled = false
  reaper : r ≠ .waiting → s.cancelled = true
  produced : s.cancelled = false → Produced code s p
  shut : s.chan.closedBy = none ↔ p ≠ .done
  handled : Handled code s h

theorem RelayStep.piped (hstep : RelayStep code e s l s' l') (hreleased : s'.released = false)
    (hpiped : s.released = false → s.got ++ s.pipe = s.written) :
    s.released = false ∧ s'.got ++ s'.pipe = s'.written := by
  cases hstep with
  | filled pc n =>
      refine ⟨hreleased, ?_⟩
      show s.got ++ s.pipe.take n ++ s.pipe.drop n = s.written
      rw [List.append_assoc, List.take_append_drop]
      exact hpiped hreleased
  | writes bytes =>
      refine ⟨hreleased, ?_⟩
      show s.got ++ (s.pipe ++ bytes) = s.written ++ bytes
      rw [← List.append_assoc, hpiped hreleased]
  | bodyClosed => cases hreleased
  | reaps => cases hreleased
  | _ => exact ⟨hreleased, hpiped hreleased⟩

/-- Only the reading goroutine sends and closes. -/
theorem RelayStep.sent_eq (hstep : RelayStep code e s l s' l') (hl : l.worker ≠ .producer) :
    s'.chan.sent = s.chan.sent ∧ s'.chan.closedBy = s.chan.closedBy ∧ s'.chunks = s.chunks := by
  cases hstep with
  | took a chan htook =>
      rcases Chan.receive_cases htook with ⟨-, -, -, hsent, hclosed⟩ | ⟨heq, -⟩
      · exact ⟨hsent, hclosed, rfl⟩
      · cases heq
  | chunk => exact absurd rfl hl
  | put => exact absurd rfl hl
  | shut => exact absurd rfl hl
  | _ => exact ⟨rfl, rfl, rfl⟩

/-- Only the handler receives, writes, opens the stream and cancels. -/
theorem RelayStep.frames_eq (hstep : RelayStep code e s l s' l') (hl : l.worker ≠ .handler) :
    s'.frames = s.frames ∧ s'.chan.received = s.chan.received ∧ s'.opened = s.opened
      ∧ s'.cancelled = s.cancelled := by
  cases hstep with
  | took => exact absurd rfl hl
  | told => exact absurd rfl hl
  | sent => exact absurd rfl hl
  | opened => exact absurd rfl hl
  | cancelled => exact absurd rfl hl
  | put a rest hroom =>
      exact ⟨rfl, List.take_append_of_le_length s.chan.taken_le, rfl, rfl⟩
  | _ => exact ⟨rfl, rfl, rfl, rfl⟩

theorem RelayStep.cancelled_grows (hstep : RelayStep code e s l s' l')
    (h : s'.cancelled = false) : s.cancelled = false := by
  cases hstep with
  | cancelled => cases h
  | _ => exact h

/-- A handler that has not let go has not done so before. -/
theorem RelayStep.live_eq (hstep : RelayStep code e s (.handler h) s' (.handler h'))
    (hlive : h'.live = true) :
    h.live = true ∧ s'.released = s.released ∧ s'.cancelled = s.cancelled := by
  cases hstep with
  | refused pc err started hpc =>
      rcases hpc with ⟨rfl, -⟩ | ⟨rfl, -⟩
      · exact ⟨rfl, rfl, rfl⟩
      · exact ⟨rfl, rfl, rfl⟩
  | bodyClosed => cases hlive
  | bodyKept => cases hlive
  | cancelled => cases hlive
  | hungUp => cases hlive
  | _ => exact ⟨rfl, rfl, rfl⟩

/-- The channel is closed by the last statement of the reading goroutine. -/
theorem RelayStep.shut_iff (hstep : RelayStep code e s (.producer p) s' (.producer p'))
    (hshut : s.chan.closedBy = none ↔ p ≠ .done) :
    s'.chan.closedBy = none ↔ p' ≠ .done := by
  cases hstep with
  | shut =>
      constructor
      · intro h
        cases h
      · intro h
        exact absurd rfl h
  | filled => exact hshut
  | _ => exact hshut.trans ⟨fun _ h => (by cases h), fun _ h => (by cases h)⟩

/-- Only the reaper and the handler let go of the stream. -/
theorem RelayStep.released_eq (hstep : RelayStep code e s l s' l') (hl : l.worker ≠ .handler) :
    s'.released = s.released ∨ l = .reaper .reaping := by
  cases hstep with
  | bodyClosed => exact absurd rfl hl
  | reaps => exact .inr rfl
  | _ => exact .inl rfl

/-- What a goroutine other than the handler keeps. -/
theorem RelayInv.bystander (hinv : RelayInv code s h p r) (hstep : RelayStep code e s l s' l')
    (hl : l.worker ≠ .handler) (hr : l = .reaper .reaping → s.cancelled = true) :
    (s'.released = false → s'.got ++ s'.pipe = s'.written)
      ∧ (h.live = true → s'.released = false ∧ s'.cancelled = false) ∧ Handled code s' h := by
  obtain ⟨hframes, hreceived, hopened, hcancelled⟩ := hstep.frames_eq hl
  refine ⟨fun h => (hstep.piped h hinv.piped).2, ?_,
    hinv.handled.carry hstep hframes hreceived hopened⟩
  intro hlive
  obtain ⟨hheld, halive⟩ := hinv.live hlive
  rcases hstep.released_eq hl with heq | heq
  · exact ⟨heq.trans hheld, hcancelled.trans halive⟩
  · exact absurd (halive.symm.trans (hr heq)) (by decide)

/-- **The step lemma.** -/
theorem RelayInv.step (hinv : RelayInv code s h p r)
    (hmove : RelayMove code e s s' h d p r h' d' p' r') : RelayInv code s' h' p' r' := by
  cases hmove with
  | handler hstep =>
      obtain ⟨hsent, hclosed, hchunks⟩ := hstep.sent_eq (fun hw => by cases hw)
      refine ⟨fun h => (hstep.piped h hinv.piped).2, ?_, ?_, ?_, hclosed ▸ hinv.shut, ?_⟩
      · intro hlive
        obtain ⟨hbefore, hreleased, hcancelled⟩ := hstep.live_eq hlive
        rw [hreleased, hcancelled]
        exact hinv.live hbefore
      · intro hr
        by_contra hfalse
        have hbefore := hstep.cancelled_grows (by simpa using hfalse)
        exact absurd (hbefore.symm.trans (hinv.reaper hr)) (by decide)
      · intro hcancelled
        exact (hinv.produced (hstep.cancelled_grows hcancelled)).carry hstep hsent hchunks
      · refine hinv.handled.step (p := p) ?_ hinv.shut hstep
        intro hlive
        obtain ⟨hreleased, hcancelled⟩ := hinv.live hlive
        exact ⟨hinv.produced hcancelled, hinv.piped hreleased⟩
  | drainer hstep =>
      obtain ⟨hsent, hclosed, hchunks⟩ := hstep.sent_eq (fun hw => by cases hw)
      obtain ⟨-, -, -, hcancelled⟩ := hstep.frames_eq (fun hw => by cases hw)
      obtain ⟨hpiped, hlive, hhandled⟩ := hinv.bystander hstep (fun hw => by cases hw)
        (fun hw => by cases hw)
      refine ⟨hpiped, hlive, hcancelled ▸ hinv.reaper, ?_, hclosed ▸ hinv.shut, hhandled⟩
      exact fun h => (hinv.produced (hcancelled ▸ h)).carry hstep hsent hchunks
  | producer hstep =>
      obtain ⟨-, -, -, hcancelled⟩ := hstep.frames_eq (fun hw => by cases hw)
      obtain ⟨hpiped, hlive, hhandled⟩ := hinv.bystander hstep (fun hw => by cases hw)
        (fun hw => by cases hw)
      refine ⟨hpiped, hlive, hcancelled ▸ hinv.reaper, ?_, hstep.shut_iff hinv.shut, hhandled⟩
      exact fun h => (hinv.produced (hcancelled ▸ h)).step (hcancelled ▸ h) hstep
  | reaper hstep =>
      obtain ⟨hsent, hclosed, hchunks⟩ := hstep.sent_eq (fun hw => by cases hw)
      obtain ⟨-, -, -, hcancelled⟩ := hstep.frames_eq (fun hw => by cases hw)
      obtain ⟨hpiped, hlive, hhandled⟩ := hinv.bystander hstep (fun hw => by cases hw)
        (fun h => hinv.reaper (by rintro rfl; cases h))
      refine ⟨hpiped, hlive, ?_, ?_, hclosed ▸ hinv.shut, hhandled⟩
      · intro _
        rw [hcancelled]
        cases hstep with
        | reaperWakes _ _ h => exact h
        | kills => exact hinv.reaper (by decide)
        | reaps => exact hinv.reaper (by decide)
      · exact fun h => (hinv.produced (hcancelled ▸ h)).carry hstep hsent hchunks
  | source hstep =>
      obtain ⟨hsent, hclosed, hchunks⟩ := hstep.sent_eq (fun hw => by cases hw)
      obtain ⟨-, -, -, hcancelled⟩ := hstep.frames_eq (fun hw => by cases hw)
      obtain ⟨hpiped, hlive, hhandled⟩ := hinv.bystander hstep (fun hw => by cases hw)
        (fun hw => by cases hw)
      refine ⟨hpiped, hlive, hcancelled ▸ hinv.reaper, ?_, hclosed ▸ hinv.shut, hhandled⟩
      exact fun h => (hinv.produced (hcancelled ▸ h)).carry hstep hsent hchunks

/-- **The run lemma.** -/
theorem relayInv_of_runs {g : Guard (RelayEvent β) (LiveRelay β α) (RelayParty α)}
    {c : RelayConfig β α} (hruns : (relayMachine code).Runs g (relayOpening code) c) :
    ∃ h d p r, RelayAt c h d p r ∧ RelayInv code c.shared h p r := by
  refine relay_invariant (I := fun s h _ p r => RelayInv code s h p r)
    (fun hmove hinv => hinv.step hmove) ?_ hruns
  refine ⟨fun _ => rfl, fun _ => ⟨rfl, rfl⟩, fun h => absurd rfl h, fun _ => ?_, ?_, ⟨rfl, rfl, rfl⟩⟩
  · refine ⟨Nat.zero_le _, by simp [relayOpening, ProducerPC.pending], ?_⟩
    rintro (h | h) <;> cases h
  · exact ⟨fun _ h => (by cases h), fun _ => rfl⟩

/-- What a handler has written at any moment. -/
def Shown (code : RelayCode β α) (s : LiveRelay β α) (h : RelayHandlerPC α) : Prop :=
  (s.opened = false ∧ ∃ err, s.frames = [.error err])
    ∨ ∃ items : List α, s.frames = items.map .item ∧ items <+: (s.made code).flatten
      ∧ (h = .returned .drained → items = (s.made code).flatten ∧ s.Over code)

theorem Shown.nothing (hframes : s.frames = []) (hh : h ≠ .returned .drained) :
    Shown code s h :=
  .inr ⟨[], hframes, List.nil_prefix, fun heq => absurd heq hh⟩

theorem Ended.shown {o : RelayEnd} (ho : Ended code s o)
    (heq : h = .returned .drained → o = .drained) : Shown code s h := by
  rcases ho with ⟨ho, hopened, hframes | hframes⟩ | ⟨items, hitems, hbegun, hall⟩
  · apply Shown.nothing hframes
    intro h
    rw [heq h] at ho
    cases ho
  · exact .inl ⟨hopened, hframes⟩
  · exact .inr ⟨items, hitems, hbegun, fun h => hall (heq h)⟩

/-- Wherever it stands. -/
theorem Handled.shown (hh : Handled code s h)
    (hlive : h.live = true → Produced code s p ∧ s.got ++ s.pipe = s.written) :
    Shown code s h := by
  cases h with
  | selecting =>
      obtain ⟨hp, hpiped⟩ := hlive rfl
      exact .inr ⟨_, hh, received_prefix_made hp hpiped, fun h => by cases h⟩
  | pinging =>
      obtain ⟨hp, hpiped⟩ := hlive rfl
      exact .inr ⟨_, hh, received_prefix_made hp hpiped, fun h => by cases h⟩
  | sending a =>
      have hframes : s.frames ++ [.item a] = s.chan.received.map .item := hh
      obtain ⟨items, last, hsplit, hitems, -⟩ := List.map_eq_append_iff.mp hframes.symm
      have hbegun : items <+: s.chan.received := ⟨last, hsplit.symm⟩
      obtain ⟨hp, hpiped⟩ := hlive rfl
      exact .inr ⟨items, hitems.symm, hbegun.trans (received_prefix_made hp hpiped),
        fun h => by cases h⟩
  | releasing o => exact Ended.shown hh (fun h => by cases h)
  | cancelling o => exact Ended.shown hh (fun h => by cases h)
  | hangingUp o => exact Ended.shown hh (fun h => by cases h)
  | returned o => exact Ended.shown hh (fun h => by injection h)
  | _ => exact Shown.nothing hh.1 (fun h => by cases h)

/-- **NOTHING LOST, NOTHING TWICE**: whatever has been scheduled, a handler has refused with one
error and without a stream, or the frames that it has written are, in order, the first items that
are made of the stream, however that goes on; and they are all of them if it has ended because the
channel was closed. -/
theorem relay_delivers {γ : Type} (lib : RelayLib γ) (r : RelayReq) (k : RelayKind)
    {c : RelayConfig UInt8 (Relayed γ)}
    (hruns : (relayMachine (k.code lib r)).Runs Guard.free (relayOpening (k.code lib r)) c) :
    (c.shared.opened = false ∧ ∃ err, c.shared.frames = [.error err])
      ∨ ∃ items : List (Relayed γ), c.shared.frames = items.map .item
        ∧ ∀ more, (c.shared.ended = true → more = []) →
          items <+: k.delivers lib (c.shared.written ++ more)
          ∧ (c.locals .handler = .handler (.returned .drained) →
            items = k.delivers lib (c.shared.written ++ more)) := by
  obtain ⟨h, d, p, rp, hat, hinv⟩ := relayInv_of_runs hruns
  have hlive : h.live = true → Produced (k.code lib r) c.shared p
      ∧ c.shared.got ++ c.shared.pipe = c.shared.written := fun hl =>
    ⟨hinv.produced (hinv.live hl).2, hinv.piped (hinv.live hl).1⟩
  rcases hinv.handled.shown hlive with hrefused | ⟨items, hitems, hbegun, hall⟩
  · exact .inl hrefused
  · refine .inr ⟨items, hitems, fun more hmore => ?_⟩
    rw [← k.flatten_whole lib r]
    refine ⟨hbegun.trans (prefix_flatten ?_), ?_⟩
    · exact (k.code lib r).reader.sees_prefix hmore true (fun _ => rfl)
    · intro hreturned
      rw [hat.handler] at hreturned
      obtain ⟨heq, hover⟩ := hall (by injection hreturned)
      rw [heq]
      unfold LiveRelay.made
      rcases hover with hended | hgiven
      · rw [hmore hended, hended, List.append_nil]
        rfl
      · have hsees := (k.code lib r).reader.sees_of_givenUp hgiven
        have hnow := hsees [] c.shared.ended
        rw [List.append_nil] at hnow
        rw [hnow, ← hsees more true]
        rfl

/-- A pod `b`, and libraries that do little. -/
def podReq : RelayReq := ⟨true, "", "", "a", "b", fun _ => ""⟩
def podLib : RelayLib Unit :=
  ⟨lineLib "" .null, (byteScanner maxTokenSize).reader.map fun _ => ()⟩

/-- The pod writes a line and ends; everything is read and sent. -/
def podSchedule : List (RelayWorker × RelayEvent UInt8) :=
  [(.handler, .go), (.handler, .go), (.handler, .opened none), (.source, .writes [97, 10]),
    (.producer, .go), (.producer, .go), (.producer, .fill 2), (.producer, .go), (.source, .ends),
    (.producer, .send), (.handler, .receive), (.producer, .go), (.producer, .go), (.producer, .go),
    (.handler, .wrote true), (.producer, .go), (.handler, .receive), (.handler, .go),
    (.handler, .go), (.handler, .go)]

def podDrained : RelayConfig UInt8 (Relayed Unit) :=
  (relayMachine (RelayKind.pods.code podLib podReq)).after Guard.free podSchedule
    (relayOpening (RelayKind.pods.code podLib podReq))

theorem podDrained_runs :
    (relayMachine (RelayKind.pods.code podLib podReq)).Runs Guard.free
      (relayOpening (RelayKind.pods.code podLib podReq)) podDrained :=
  Machine.runs_after (by decide +kernel)

/-- That line has been written. -/
theorem relay_delivers_line :
    podDrained.shared.frames = (RelayKind.pods.delivers podLib [97, 10]).map .item := by
  rcases relay_delivers podLib podReq .pods podDrained_runs with ⟨hopened, -⟩ | ⟨items, hitems, h⟩
  · exact absurd hopened (by decide +kernel)
  · have hdrained : podDrained.locals .handler = .handler (.returned .drained) := by decide +kernel
    have hwritten : podDrained.shared.written ++ [] = [97, 10] := by decide +kernel
    rw [hitems, (h [] fun _ => rfl).2 hdrained, hwritten]

end ControlRoom
