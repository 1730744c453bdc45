/-
  ControlRoom.Logs.RelayTeardown
  ──────────────────────────────
  **NOTHING LEFT BEHIND** (the five live streams).

  A handler returns without waiting for the goroutines that it has started.
  What it leaves to them is enough: they come to their end by themselves, and
  `journalctl` has been killed and reaped.

    §1  who has been started, and what has been left to them,
    §2  how much there is still to do (`RelayRank`),
    §3  where nobody can go on,
    §4  the theorem (`relay_leaves_nothing`).
-/
import Mathlib.Algebra.Order.BigOperators.Group.List
import ControlRoom.Foundation.Settling
import ControlRoom.Logs.RelayDelivery

namespace ControlRoom

open Foundation

variable {β α : Type} {code : RelayCode β α} {e : RelayEvent β} {s s' : LiveRelay β α}
  {l l' : RelayParty α} {h h' : RelayHandlerPC α} {d d' : DrainerPC} {p p' : ProducerPC α}
  {r r' : ReaperPC}

/-! ## §1. Who has been started. -/

/-- The handler has cancelled the context, if there is a stream. -/
def RelayHandlerPC.hasCancelled : RelayHandlerPC α → Bool
  | .hangingUp _ => true
  | .returned _ => true
  | _ => false

/-- The reaper has killed the child. -/
def ReaperPC.hasKilled : ReaperPC → Bool
  | .reaping => true
  | .done => true
  | _ => false

/-- What has been started, and what is left to it. -/
structure Started (s : LiveRelay β α) (h : RelayHandlerPC α) (p : ProducerPC α) (r : ReaperPC) :
    Prop where
  cancelled : h.hasCancelled = true → s.opened = true → s.cancelled = true
  hungUp : (∃ o, h = .returned o) → s.hungUp = true
  opened : p ≠ .peeking → s.opened = true
  killed : r.hasKilled = true → s.killed = true

/-- What is said about the session only grows. -/
theorem RelayStep.flags_grow (hstep : RelayStep code e s l s' l') :
    (s.opened = true → s'.opened = true) ∧ (s.hungUp = true → s'.hungUp = true)
      ∧ (s.killed = true → s'.killed = true) := by
  cases hstep with
  | opened => exact ⟨fun _ => rfl, id, id⟩
  | hungUp => exact ⟨id, fun _ => rfl, id⟩
  | kills => exact ⟨id, id, fun _ => rfl⟩
  | _ => exact ⟨id, id, id⟩

/-- **The step lemma of the handler**: when it hangs up, it has cancelled whatever was opened. -/
theorem RelayStep.cancels (hstep : RelayStep code e s (.handler h) s' (.handler h'))
    (hh : Handled code s h) (hcancelled : h.hasCancelled = true → s.opened = true → s.cancelled = true)
    (hafter : h'.hasCancelled = true) (hopened : s'.opened = true) : s'.cancelled = true := by
  cases hstep with
  | refused pc err started hpc =>
      have hnone : s.opened = false := by
        rcases hpc with ⟨rfl, -⟩ | ⟨rfl, -⟩
        · exact hh.2.2
        · exact hh.2.2
      exact absurd (hnone.symm.trans hopened) (by decide)
  | told err started ok => exact absurd (hh.2.2.symm.trans hopened) (by decide)
  | cancelled => rfl
  | hungUp => exact hcancelled rfl hopened
  | _ => cases hafter

/-- The handler returns after it has hung up. -/
theorem RelayStep.hangsUp (hstep : RelayStep code e s (.handler h) s' (.handler h'))
    (hafter : ∃ o, h' = .returned o) : s'.hungUp = true := by
  obtain ⟨o, ho⟩ := hafter
  cases hstep with
  | refused pc err started =>
      unfold refuse at ho
      split at ho
      · cases ho
      · split at ho <;> cases ho
  | told err started => cases started <;> cases ho
  | hungUp => rfl
  | _ => cases ho

theorem Started.step (hs : Started s h p r) (hinv : RelayInv code s h p r)
    (hmove : RelayMove code e s s' h d p r h' d' p' r') : Started s' h' p' r' := by
  -- a goroutine other than the handler
  have hother : ∀ {l l' : RelayParty α}, RelayStep code e s l s' l' → l.worker ≠ .handler →
      (h.hasCancelled = true → s'.opened = true → s'.cancelled = true)
        ∧ ((∃ o, h = .returned o) → s'.hungUp = true) := by
    intro l l' hstep hl
    obtain ⟨-, -, hopened, hcancelled⟩ := hstep.frames_eq hl
    rw [hopened, hcancelled]
    exact ⟨hs.cancelled, fun ho => hstep.flags_grow.2.1 (hs.hungUp ho)⟩
  cases hmove with
  | handler hstep =>
      obtain ⟨hopened, hhungUp, hkilled⟩ := hstep.flags_grow
      exact ⟨hstep.cancels hinv.handled hs.cancelled, hstep.hangsUp,
        fun hp => hopened (hs.opened hp), fun hr => hkilled (hs.killed hr)⟩
  | drainer hstep =>
      obtain ⟨hcancelled, hhungUp⟩ := hother hstep (fun hw => by cases hw)
      obtain ⟨hopened, -, hkilled⟩ := hstep.flags_grow
      exact ⟨hcancelled, hhungUp, fun hp => hopened (hs.opened hp), fun hr => hkilled (hs.killed hr)⟩
  | producer hstep =>
      obtain ⟨hcancelled, hhungUp⟩ := hother hstep (fun hw => by cases hw)
      obtain ⟨hopened, -, hkilled⟩ := hstep.flags_grow
      refine ⟨hcancelled, hhungUp, ?_, fun hr => hkilled (hs.killed hr)⟩
      intro hp'
      by_cases hp : p = .peeking
      · -- it waits for the stream to be opened
        subst hp
        cases hstep with
        | peeked h => exact h
        | peekedEnd h => exact h
        | filled => exact absurd rfl hp'
      · exact hopened (hs.opened hp)
  | reaper hstep =>
      obtain ⟨hcancelled, hhungUp⟩ := hother hstep (fun hw => by cases hw)
      obtain ⟨hopened, -, hkilled⟩ := hstep.flags_grow
      refine ⟨hcancelled, hhungUp, fun hp => hopened (hs.opened hp), ?_⟩
      intro hr'
      cases hstep with
      | reaperWakes => cases hr'
      | kills => rfl
      | reaps => exact hs.killed rfl
  | source hstep =>
      obtain ⟨hcancelled, hhungUp⟩ := hother hstep (fun hw => by cases hw)
      obtain ⟨hopened, -, hkilled⟩ := hstep.flags_grow
      exact ⟨hcancelled, hhungUp, fun hp => hopened (hs.opened hp), fun hr => hkilled (hs.killed hr)⟩

/-- **The run lemma.** -/
theorem started_of_runs {c : RelayConfig β α}
    {g : Guard (RelayEvent β) (LiveRelay β α) (RelayParty α)}
    (hruns : (relayMachine code).Runs g (relayOpening code) c) :
    ∃ h d p r, RelayAt c h d p r ∧ RelayInv code c.shared h p r ∧ Started c.shared h p r := by
  refine relay_invariant
    (I := fun s h _ p r => RelayInv code s h p r ∧ Started s h p r)
    (fun hmove hI => ⟨hI.1.step hmove, hI.2.step hI.1 hmove⟩) ⟨?_, ?_⟩ hruns
  · obtain ⟨h, d, p, r, hat, hinv⟩ := relayInv_of_runs (.refl : (relayMachine code).Runs g _ _)
    obtain ⟨hh, -, hp, hr, -⟩ := hat
    cases hh
    cases hp
    cases hr
    exact hinv
  · exact ⟨fun h => (by cases h), fun ⟨o, h⟩ => (by cases h), fun h => absurd rfl h,
      fun h => (by cases h)⟩

/-! ## §2. What there is still to do. -/

/-- The statements that a chunk takes, and those of some chunks. -/
def chunkCost (chunk : List α) : Nat := chunk.length + 3
def chunksCost (chunks : List (List α)) : Nat := (chunks.map chunkCost).sum

/-- No prefix of the stream takes more than this. -/
def costBound (code : RelayCode β α) (stream : List β) : Nat :=
  ((List.range (stream.length + 1)).map fun k =>
    chunksCost (code.reader.soFar (stream.take k))
      + chunksCost (code.reader.whole (stream.take k))).sum

theorem chunksCost_drop_le (chunks : List (List α)) (n : Nat) :
    chunksCost (chunks.drop n) ≤ chunksCost chunks := by
  unfold chunksCost
  conv_rhs => rw [← List.take_append_drop n chunks, List.map_append, List.sum_append]
  omega

theorem sees_le_costBound {got stream : List β} (h : got <+: stream) (eof : Bool) (n : Nat) :
    chunksCost ((code.reader.sees got eof).drop n) ≤ costBound code stream := by
  refine (chunksCost_drop_le _ n).trans ?_
  have hmem : chunksCost (code.reader.soFar (stream.take got.length))
      + chunksCost (code.reader.whole (stream.take got.length))
      ∈ (List.range (stream.length + 1)).map fun k =>
        chunksCost (code.reader.soFar (stream.take k))
          + chunksCost (code.reader.whole (stream.take k)) := by
    refine List.mem_map.mpr ⟨got.length, ?_, rfl⟩
    have hle := h.length_le
    exact List.mem_range.mpr (by omega)
  have hle := List.single_le_sum (fun _ _ => Nat.zero_le _) _ hmem
  rw [← List.prefix_iff_eq_take.mp h] at hle
  unfold costBound
  cases eof with
  | true => exact (Nat.le_add_left _ _).trans hle
  | false => exact (Nat.le_add_right _ _).trans hle

/-- How far a goroutine is from its end, without the chunks that it has still to make. -/
def DrainerPC.rank : DrainerPC → Nat
  | .reading => 1
  | .done => 0

def ProducerPC.rank : ProducerPC α → Nat
  | .peeking => 4
  | .checking => 3
  | .reading => 2
  | .sending rest => rest.length + 4
  | .closing => 1
  | .done => 0

def ReaperPC.rank : ReaperPC → Nat
  | .waiting => 3
  | .killing => 2
  | .reaping => 1
  | .done => 0

/-- The chunks that there are to make of what the reader has got. -/
def LiveRelay.unread (code : RelayCode β α) (s : LiveRelay β α) : Nat :=
  chunksCost ((s.streamed code).drop s.chunks)

/-- How often the reader may yet find more. -/
def LiveRelay.news (s : LiveRelay β α) : Nat := s.pipe.length + if s.ended then 0 else 1

/-- All of it; whenever the reader finds more there may be another `bound` to do. -/
def restRank (code : RelayCode β α) (bound : Nat) (s : LiveRelay β α) (d : DrainerPC)
    (p : ProducerPC α) (r : ReaperPC) : Nat :=
  d.rank + p.rank + r.rank + s.unread code + s.news * (bound + 1)

/-- Neither the source nor the client sends anything. -/
def RelayEvent.isQuiet : RelayEvent β → Bool
  | .message => false
  | .writes _ => false
  | _ => true

/-- Nothing more is sent by them. -/
def quiet : Guard (RelayEvent β) (LiveRelay β α) (RelayParty α) where
  own := fun e _ _ => e.isQuiet = true
  pair := fun _ _ _ _ => True

/-- When a goroutine goes on, and nothing else changes. -/
theorem restRank_lt_of_rank {bound : Nat} (hunread : s'.unread code = s.unread code)
    (hnews : s'.news = s.news) (hrank : d'.rank + p'.rank + r'.rank < d.rank + p.rank + r.rank) :
    restRank code bound s' d' p' r' < restRank code bound s d p r := by
  unfold restRank
  rw [hunread, hnews]
  omega

/-- When the reader may have found more, there is less to find. -/
theorem restRank_lt_of_news {bound : Nat} (hunread : s'.unread code ≤ bound)
    (hnews : s'.news < s.news) (hrank : d'.rank + p'.rank + r'.rank ≤ d.rank + p.rank + r.rank) :
    restRank code bound s' d' p' r' < restRank code bound s d p r := by
  have hmul : (s'.news + 1) * (bound + 1) ≤ s.news * (bound + 1) := Nat.mul_le_mul_right _ hnews
  rw [Nat.succ_mul] at hmul
  unfold restRank
  omega

/-- A chunk is made: its statements are no longer among those of the chunks to come. -/
theorem unread_eq_of_chunk {chunk : List α}
    (hchunk : (code.reader.sees s.got s.eof)[s.chunks]? = some chunk) :
    s.unread code = chunkCost chunk + chunksCost ((s.streamed code).drop (s.chunks + 1)) := by
  obtain ⟨hlt, hget⟩ := List.getElem?_eq_some_iff.mp hchunk
  unfold LiveRelay.unread LiveRelay.streamed
  rw [List.drop_eq_getElem_cons hlt, hget]
  unfold chunksCost
  rw [List.map_cons, List.sum_cons]

variable {stream : List β}

/-- **The step lemma of the reading goroutine.** -/
theorem restRank_lt_of_producer (hstep : RelayStep code e s (.producer p) s' (.producer p'))
    (hstream : s.got ++ s.pipe <+: stream) :
    restRank code (costBound code stream) s' d p' r < restRank code (costBound code stream) s d p r
      ∧ s'.got ++ s'.pipe <+: stream := by
  cases hstep with
  | peeked => exact ⟨restRank_lt_of_rank rfl rfl (by simp [ProducerPC.rank]), hstream⟩
  | peekedEnd => exact ⟨restRank_lt_of_rank rfl rfl (by simp [ProducerPC.rank]), hstream⟩
  | filled pc n _ _ hn =>
      have hrest : s.got ++ s.pipe.take n ++ s.pipe.drop n = s.got ++ s.pipe := by
        rw [List.append_assoc, List.take_append_drop]
      have hstream' : s.got ++ s.pipe.take n ++ s.pipe.drop n <+: stream := hrest ▸ hstream
      refine ⟨restRank_lt_of_news ?_ ?_ le_rfl, hstream'⟩
      · exact sees_le_costBound ((List.prefix_append _ _).trans hstream') _ _
      · refine Nat.add_lt_add_right ?_ _
        show (s.pipe.drop n).length < s.pipe.length
        rw [List.length_drop]
        omega
  | checked => exact ⟨restRank_lt_of_rank rfl rfl (by simp [ProducerPC.rank]), hstream⟩
  | goesOn => exact ⟨restRank_lt_of_rank rfl rfl (by simp [ProducerPC.rank]), hstream⟩
  | chunk chunk hchunk =>
      refine ⟨?_, hstream⟩
      have hunread := unread_eq_of_chunk hchunk
      have hcost : chunkCost chunk = chunk.length + 3 := rfl
      show d.rank + (chunk.length + 4) + r.rank + chunksCost ((s.streamed code).drop (s.chunks + 1))
        + s.news * _ < d.rank + 2 + r.rank + s.unread code + s.news * _
      omega
  | readAll => exact ⟨restRank_lt_of_rank rfl rfl (by simp [ProducerPC.rank]), hstream⟩
  | sentChunk => exact ⟨restRank_lt_of_rank rfl rfl (by simp [ProducerPC.rank]), hstream⟩
  | put => exact ⟨restRank_lt_of_rank rfl rfl (by simp [ProducerPC.rank]), hstream⟩
  | gaveUp => exact ⟨restRank_lt_of_rank rfl rfl (by simp [ProducerPC.rank]), hstream⟩
  | shut => exact ⟨restRank_lt_of_rank rfl rfl (by simp [ProducerPC.rank]), hstream⟩

/-- That of the reaper. -/
theorem restRank_lt_of_reaper (hstep : RelayStep code e s (.reaper r) s' (.reaper r'))
    (hstream : s.got ++ s.pipe <+: stream) :
    restRank code (costBound code stream) s' d p r' < restRank code (costBound code stream) s d p r
      ∧ s'.got ++ s'.pipe <+: stream := by
  cases hstep with
  | reaperWakes => exact ⟨restRank_lt_of_rank rfl rfl (by simp [ReaperPC.rank]), hstream⟩
  | kills => exact ⟨restRank_lt_of_rank rfl rfl (by simp [ReaperPC.rank]), hstream⟩
  | reaps hended =>
      have hgot : s.got ++ [] <+: stream := by
        rw [List.append_nil]
        exact (List.prefix_append _ _).trans hstream
      refine ⟨?_, hgot⟩
      cases hpipe : s.pipe with
      | nil =>
          -- there was nothing left to read
          refine restRank_lt_of_rank ?_ ?_ (by simp [ReaperPC.rank])
          · unfold LiveRelay.unread LiveRelay.streamed LiveRelay.eof
            rw [hpipe]
          · unfold LiveRelay.news
            rw [hpipe]
      | cons b pipe =>
          refine restRank_lt_of_news ?_ ?_ (by simp [ReaperPC.rank])
          · exact sees_le_costBound ((List.prefix_append _ _).trans hgot) _ _
          · unfold LiveRelay.news
            rw [hpipe]
            simp

/-- **The step lemma**: once the handler has returned, every statement brings the end nearer. -/
theorem restRank_step {o : RelayEnd}
    (hmove : RelayMove code e s s' (.returned o) d p r h' d' p' r')
    (hquiet : e.isQuiet = true) (hstream : s.got ++ s.pipe <+: stream) :
    (restRank code (costBound code stream) s' d' p' r'
        < restRank code (costBound code stream) s d p r
      ∧ s'.got ++ s'.pipe <+: stream) ∧ h' = .returned o := by
  cases hmove with
  | handler hstep =>
      cases hstep with
      | refused _ _ _ hpc => rcases hpc with ⟨heq, -⟩ | ⟨heq, -⟩ <;> cases heq
  | drainer hstep =>
      refine ⟨?_, rfl⟩
      cases hstep with
      | message hevent =>
          rw [hevent] at hquiet
          cases hquiet
      | gone => exact ⟨restRank_lt_of_rank rfl rfl (by simp [DrainerPC.rank]), hstream⟩
  | producer hstep => exact ⟨restRank_lt_of_producer hstep hstream, rfl⟩
  | reaper hstep => exact ⟨restRank_lt_of_reaper hstep hstream, rfl⟩
  | source hstep =>
      refine ⟨?_, rfl⟩
      cases hstep with
      | writes bytes hevent =>
          rw [hevent] at hquiet
          cases hquiet
      | ends _ hended =>
          refine ⟨restRank_lt_of_news ?_ ?_ le_rfl, hstream⟩
          · exact sees_le_costBound ((List.prefix_append _ _).trans hstream) _ _
          · unfold LiveRelay.news
            rw [hended]
            simp

/-- **The rank** of a connection whose handler has returned; the stream is fixed. -/
def RelayRank (code : RelayCode β α) (o : RelayEnd) (stream : List β) (n : Nat)
    (c : RelayConfig β α) : Prop :=
  ∃ d p r, RelayAt c (.returned o) d p r ∧ c.shared.got ++ c.shared.pipe <+: stream
    ∧ n = restRank code (costBound code stream) c.shared d p r

theorem relayRank_ranked (o : RelayEnd) (stream : List β) :
    (relayMachine code).Ranked quiet (RelayRank code o stream) := by
  rintro n i e c c' ⟨d, p, r, hat, hstream, rfl⟩ hstep
  obtain ⟨h', d', p', r', hat', hmove⟩ := relayMove_of_stepBy hstep hat
  obtain ⟨⟨hlt, hstream'⟩, rfl⟩ := restRank_step hmove hstep.own hstream
  exact ⟨_, hlt, d', p', r', hat', hstream', rfl⟩

/-! ## §3. Where nobody can go on. -/

/-- Nothing is left of a connection: it is closed, everybody who has been started has come to an
end, and the child has been killed and reaped. -/
structure LeftNothing (code : RelayCode β α) (c : RelayConfig β α) : Prop where
  connection : c.shared.hungUp = true
  drainer : c.shared.draining = true → c.locals .drainer = .drainer .done
  producer : c.shared.opened = true → c.locals .producer = .producer .done
  source : c.shared.opened = true → c.shared.ended = true
  reaper : c.shared.opened = true → code.reaps = true →
    c.shared.killed = true ∧ c.locals .reaper = .reaper .done

section Rest

variable {c : RelayConfig β α}

/-- Nobody can go on with an event that is not one of those. -/
theorem stuck_of_rest (hrest : (relayMachine code).AtRest quiet c) (i : RelayWorker)
    (hquiet : e.isQuiet = true) :
    (c.locals i).step code e c.shared = none :=
  hrest.stuck (g := quiet) trivial hquiet fun _ _ => trivial

/-- The source has ended. -/
theorem ended_of_rest (hrest : (relayMachine code).AtRest quiet c)
    (hsource : c.locals .source = .source) (hopened : c.shared.opened = true) :
    c.shared.ended = true := by
  have hstuck := stuck_of_rest hrest .source (e := .ends) rfl
  rw [hsource] at hstuck
  by_contra hended
  simp [RelayParty.step, sourceStep, hopened, hended] at hstuck

/-- The goroutine that reads has come to its end: there is always something for it to do. -/
theorem producer_of_rest (hrest : (relayMachine code).AtRest quiet c)
    (hp : c.locals .producer = .producer p) (hopened : c.shared.opened = true)
    (hended : c.shared.ended = true) (hcancelled : c.shared.cancelled = true) : p = .done := by
  have hstuck : ∀ e : RelayEvent β, e.isQuiet = true →
      producerStep code e c.shared p = none := by
    intro e hquiet
    have hstep := stuck_of_rest hrest .producer hquiet
    rw [hp] at hstep
    simpa [RelayParty.step] using hstep
  -- with an empty pipe the stream is at its end, and else there is something to read
  have hfill : c.shared.eof = false →
      ∃ s', fill (.fill c.shared.pipe.length) c.shared = some s' := by
    intro heof
    have hpipe : c.shared.pipe ≠ [] := by
      simpa [LiveRelay.eof, hended] using heof
    exact ⟨_, if_pos ⟨List.length_pos_iff.mpr hpipe, le_rfl⟩⟩
  cases p with
  | done => rfl
  | peeking =>
      have hstep := hstuck (.fill c.shared.pipe.length) rfl
      simp only [producerStep] at hstep
      rw [if_neg (by simp [hopened])] at hstep
      split at hstep
      · cases hstep
      · split at hstep
        · cases hstep
        · next heof =>
          obtain ⟨s', hs'⟩ := hfill (by simpa using heof)
          rw [hs'] at hstep
          cases hstep
  | checking =>
      have hstep := hstuck .go rfl
      simp only [producerStep] at hstep
      split at hstep <;> cases hstep
  | reading =>
      have hstep := hstuck (.fill c.shared.pipe.length) rfl
      simp only [producerStep] at hstep
      split at hstep
      · cases hstep
      · split at hstep
        · cases hstep
        · next hend =>
          obtain ⟨s', hs'⟩ := hfill (by
            by_contra heof
            exact hend (.inl (by simpa using heof)))
          rw [hs'] at hstep
          cases hstep
  | sending rest =>
      cases rest with
      | nil => cases hstuck .go rfl
      | cons a rest =>
          have hstep := hstuck .done rfl
          simp [producerStep, hcancelled] at hstep
  | closing => cases hstuck .go rfl

/-- So has the reaper. -/
theorem reaper_of_rest (hrest : (relayMachine code).AtRest quiet c)
    (hr : c.locals .reaper = .reaper r) (hreaps : code.reaps = true)
    (hopened : c.shared.opened = true) (hended : c.shared.ended = true)
    (hcancelled : c.shared.cancelled = true) : r = .done := by
  have hstuck := stuck_of_rest hrest .reaper (e := .go) rfl
  rw [hr] at hstuck
  cases r with
  | waiting => simp [RelayParty.step, reaperStep, hreaps, hopened, hcancelled] at hstuck
  | killing => simp [RelayParty.step, reaperStep] at hstuck
  | reaping => simp [RelayParty.step, reaperStep, hended] at hstuck
  | done => rfl

theorem drainer_of_rest (hrest : (relayMachine code).AtRest quiet c)
    (hd : c.locals .drainer = .drainer d) (hdraining : c.shared.draining = true) : d = .done := by
  have hstuck := stuck_of_rest hrest .drainer (e := .readError) rfl
  rw [hd] at hstuck
  cases d with
  | reading => simp [RelayParty.step, drainerStep, hdraining] at hstuck
  | done => rfl

/-- **At rest there is nothing left.** -/
theorem leftNothing_of_rest {o : RelayEnd}
    (hruns : (relayMachine code).Runs Guard.free (relayOpening code) c)
    (hreturned : c.locals .handler = .handler (.returned o))
    (hrest : (relayMachine code).AtRest quiet c) : LeftNothing code c := by
  obtain ⟨h, d, p, r, hat, -, hstarted⟩ := started_of_runs hruns
  have hh : h = .returned o := by
    rw [hat.handler] at hreturned
    injection hreturned
  subst hh
  have hended : c.shared.opened = true → c.shared.ended = true :=
    ended_of_rest hrest hat.source
  refine ⟨hstarted.hungUp ⟨o, rfl⟩, ?_, ?_, hended, ?_⟩
  · intro hdraining
    rw [hat.drainer, drainer_of_rest hrest hat.drainer hdraining]
  · intro hopened
    rw [hat.producer, producer_of_rest hrest hat.producer hopened (hended hopened)
      (hstarted.cancelled rfl hopened)]
  · intro hopened hreaps
    have hdone := reaper_of_rest hrest hat.reaper hreaps hopened (hended hopened)
      (hstarted.cancelled rfl hopened)
    subst hdone
    exact ⟨hstarted.killed rfl, hat.reaper⟩

end Rest

/-! ## §4. The theorem. -/

/-- **NOTHING LEFT BEHIND**: wherever everybody stands when a handler has returned, and whoever is
scheduled then, there is a bound on the statements that are left as long as neither the source nor
the client sends more; they can be run to their end, and at the end nothing is left. -/
theorem relay_leaves_nothing {γ : Type} (lib : RelayLib γ) (r : RelayReq) (k : RelayKind)
    {c : RelayConfig UInt8 (Relayed γ)} {o : RelayEnd}
    (hruns : (relayMachine (k.code lib r)).Runs Guard.free (relayOpening (k.code lib r)) c)
    (hreturned : c.locals .handler = .handler (.returned o)) :
    (∃ bound, ∀ n c', (relayMachine (k.code lib r)).Steps quiet n c c' → n ≤ bound
        ∧ ((relayMachine (k.code lib r)).AtRest quiet c' → LeftNothing (k.code lib r) c'))
      ∧ ∃ n c', (relayMachine (k.code lib r)).Steps quiet n c c'
        ∧ LeftNothing (k.code lib r) c' := by
  obtain ⟨h, d, p, rp, hat, -, -⟩ := started_of_runs hruns
  have hh : h = .returned o := by
    rw [hat.handler] at hreturned
    injection hreturned
  subst hh
  have hranked : (relayMachine (k.code lib r)).Ranked quiet
      (RelayRank (k.code lib r) o (c.shared.got ++ c.shared.pipe)) :=
    relayRank_ranked o (c.shared.got ++ c.shared.pipe)
  have hrank : RelayRank (k.code lib r) o (c.shared.got ++ c.shared.pipe) _ c :=
    ⟨d, p, rp, hat, List.prefix_rfl, rfl⟩
  -- at rest, wherever it has got to
  have hleft : ∀ {n m c'}, (relayMachine (k.code lib r)).Steps quiet n c c' →
      RelayRank (k.code lib r) o (c.shared.got ++ c.shared.pipe) m c' →
      (relayMachine (k.code lib r)).AtRest quiet c' → LeftNothing (k.code lib r) c' := by
    rintro n m c' hsteps ⟨_, _, _, hat', _, _⟩ hrest
    exact leftNothing_of_rest (hruns.trans (hsteps.runs.relax (Guard.implies_free _))) hat'.handler hrest
  constructor
  · refine ⟨restRank (k.code lib r) (costBound (k.code lib r) (c.shared.got ++ c.shared.pipe))
      c.shared d p rp, fun n c' hsteps => ?_⟩
    obtain ⟨m, hle, hm⟩ := hranked.steps hsteps hrank
    exact ⟨(Nat.le_add_left n m).trans hle, hleft hsteps hm⟩
  · obtain ⟨n, c', m, hsteps, hrest, hm⟩ := hranked.settles hrank
    exact ⟨n, c', hsteps, hleft hsteps hm hrest⟩

/-- Nothing is left of the connection that has sent its line. -/
theorem relay_leaves_nothing_line :
    ∃ n c', (relayMachine (RelayKind.pods.code podLib podReq)).Steps quiet n podDrained c'
      ∧ LeftNothing (RelayKind.pods.code podLib podReq) c' :=
  (relay_leaves_nothing (o := .drained) podLib podReq .pods podDrained_runs (by decide +kernel)).2

end ControlRoom
