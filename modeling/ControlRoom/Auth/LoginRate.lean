/-
  ControlRoom.Auth.LoginRate
  ──────────────────────────
  **THE LOGIN RATE BOUND** (`internal/auth/ratelimit.go`, `IPLimiter`).

  `Allow` is a draw from a family of token buckets, one for each key: `Tracks`
  relates a limiter to a family that it cannot be told apart from.  The sweep
  of `expireLocked` keeps the relation, because a bucket that has been idle for
  ten minutes is full, and the next call for its key would make a full one.

    §1  the bucket map of the limiter,
    §2  `Allow` as a draw, and the sweep,
    §3  runs of calls: the sweep is invisible, and the bound.
-/
import ControlRoom.Auth.RateLimit
import ControlRoom.Foundation.TokenBucket

namespace ControlRoom

open Foundation

/-! ## §1. The bucket map. -/

/-- The clock in seconds. -/
def Time.seconds (t : Time) : ℚ := (t.ns : ℚ) / second

theorem secondsSince_eq (now t : Time) : secondsSince now t = now.seconds - t.seconds :=
  sub_div _ _ _

theorem second_pos : (0 : ℚ) < second := by
  unfold second
  norm_num

theorem Time.seconds_mono {t u : Time} (h : t ≤ u) : t.seconds ≤ u.seconds := by
  have hns : (t.ns : ℚ) ≤ u.ns := Nat.cast_le.mpr h
  exact div_le_div_of_nonneg_right hns second_pos.le

/-- So many whole seconds later. -/
theorem Time.le_seconds_sub {t u : Time} {n : Nat} (h : t.ns + n * second ≤ u.ns) :
    (n : ℚ) ≤ u.seconds - t.seconds := by
  have hns : ((t.ns + n * second : Nat) : ℚ) ≤ u.ns := Nat.cast_le.mpr h
  push_cast at hns
  unfold Time.seconds
  rw [← sub_div, le_div_iff₀ second_pos]
  linarith

namespace IPLimiter

variable {l : IPLimiter} {now : Time} {k key : String} {b : IPBucket}

/-- The map holds one bucket for a key. -/
theorem bucket_eq_some_iff : l.bucket k = some b ↔ (k, b) ∈ l.buckets := by
  unfold bucket
  constructor
  · intro h
    obtain ⟨⟨k', b'⟩, hfind, rfl⟩ := Option.map_eq_some_iff.mp h
    have hkey : k' = k := by simpa using List.find?_some hfind
    rw [← hkey]
    exact List.mem_of_find?_eq_some hfind
  · intro hmem
    cases hfind : l.buckets.find? (fun kb => decide (kb.1 = k)) with
    | none => exact absurd (List.find?_eq_none.mp hfind (k, b) hmem) (by simp)
    | some kb =>
        have hkey : kb.1 = k := by simpa using List.find?_some hfind
        have hsame : kb = (k, b) := by
          apply List.inj_on_of_nodup_map l.uniqueKeys (List.mem_of_find?_eq_some hfind) hmem
          exact hkey
        rw [hsame]
        rfl

theorem bucket_setBucket_self : (l.setBucket key b).bucket key = some b :=
  bucket_eq_some_iff.mpr (List.mem_cons_self)

theorem bucket_setBucket_of_ne (h : k ≠ key) : (l.setBucket key b).bucket k = l.bucket k := by
  apply Option.ext
  intro b'
  rw [bucket_eq_some_iff, bucket_eq_some_iff]
  unfold setBucket
  simp [h]

/-- What the sweep leaves of a bucket: all of it, or nothing if it is too old. -/
theorem bucket_expireLocked (l : IPLimiter) (now : Time) (k : String) :
    (l.expireLocked now).bucket k = l.bucket k
      ∨ ((l.expireLocked now).bucket k = none
          ∧ ∃ b, l.bucket k = some b ∧ b.touched.ns + expireDur < now.ns) := by
  unfold expireLocked
  by_cases hfew : l.buckets.length < 1024
  · rw [if_pos hfew]
    exact .inl rfl
  · rw [if_neg hfew]
    cases hb : l.bucket k with
    | none =>
        -- the sweep makes no buckets
        left
        rw [Option.eq_none_iff_forall_ne_some] at hb ⊢
        intro b hb'
        exact hb b (bucket_eq_some_iff.mpr
          (List.mem_of_mem_filter (bucket_eq_some_iff.mp hb')))
    | some b =>
        have hmem := bucket_eq_some_iff.mp hb
        by_cases hold : now.ns ≤ b.touched.ns + expireDur
        · left
          apply bucket_eq_some_iff.mpr
          exact List.mem_filter.mpr ⟨hmem, decide_eq_true hold⟩
        · right
          refine ⟨?_, b, rfl, by omega⟩
          -- another bucket of the same key could have survived, but there is none
          rw [Option.eq_none_iff_forall_ne_some]
          intro b' hb'
          obtain ⟨hmem', hyoung⟩ := List.mem_filter.mp (bucket_eq_some_iff.mp hb')
          have hsame : l.bucket k = some b' := bucket_eq_some_iff.mpr hmem'
          rw [hb] at hsame
          cases hsame
          exact hold (of_decide_eq_true hyoung)

/-! ## §2. `Allow` as a draw. -/

/-- The limiter that never deletes a bucket: `Allow` without its `expireLocked`. -/
def allowKeeping (l : IPLimiter) (now : Time) (key : String) : IPLimiter × Bool × Nat :=
  let b := l.refill now ((l.bucket key).getD ⟨l.capacity, now, now⟩)
  if b.tokens < 1 then
    let retry := ⌊(1 - b.tokens) / l.refillPS * second⌋.toNat + second
    (l.setBucket key b, false, retry)
  else (l.setBucket key { b with tokens := b.tokens - 1 }, true, 0)

theorem allow_eq (l : IPLimiter) (now : Time) (key : String) :
    l.allow now key = (l.expireLocked now).allowKeeping now key := rfl

/-- The limiter as a family of token buckets. -/
def family (l : IPLimiter) : Buckets String ℚ := fun k =>
  (l.bucket k).map fun b => ⟨b.tokens, b.lastFill.seconds⟩

end IPLimiter

/-- The answer to a call that finds that many tokens in the bucket. -/
def allowAnswer (r : Rate ℚ) (found : ℚ) : Bool × Nat :=
  if found < 1 then (false, ⌊(1 - found) / r.rate * second⌋.toNat + second) else (true, 0)

/-- At `now` the limiter cannot be told apart from the family `B`, and its own buckets
are in order. -/
structure IPLimiter.Tracks (r : Rate ℚ) (now : Time) (l : IPLimiter) (B : Buckets String ℚ) :
    Prop where
  capacity : l.capacity = r.cap
  refillPS : l.refillPS = r.rate
  touched : ∀ k b, l.bucket k = some b → b.touched = b.lastFill
  sound : r.AllSound now.seconds l.family
  alike : ∀ k, r.Alike now.seconds k l.family B

section Tracks

variable {r : Rate ℚ} {now later : Time} {l : IPLimiter} {B : Buckets String ℚ}

theorem IPLimiter.family_of_some {k : String} {b : IPBucket} (h : l.bucket k = some b) :
    l.family k = some ⟨b.tokens, b.lastFill.seconds⟩ := by
  unfold IPLimiter.family
  rw [h]
  rfl

theorem IPLimiter.family_of_none {k : String} (h : l.bucket k = none) : l.family k = none := by
  unfold IPLimiter.family
  rw [h]
  rfl

theorem IPLimiter.Tracks.mono (h : l.Tracks r now B) (hle : now ≤ later) : l.Tracks r later B where
  capacity := h.capacity
  refillPS := h.refillPS
  touched := h.touched
  sound := h.sound.mono (Time.seconds_mono hle)
  alike := fun k => (h.alike k).mono (Time.seconds_mono hle)

/-- What `Allow` reads of the bucket of its key. -/
theorem IPLimiter.refill_tokens (hcap : l.capacity = r.cap) (hrate : l.refillPS = r.rate)
    (now : Time) (key : String) :
    (l.refill now ((l.bucket key).getD ⟨l.capacity, now, now⟩)).tokens
      = r.found l.family key now.seconds := by
  show min l.capacity _ = _
  rw [hcap, hrate, secondsSince_eq]
  cases hb : l.bucket key with
  | none =>
      rw [Rate.found, IPLimiter.family_of_none hb]
      rfl
  | some b =>
      rw [Rate.found_of_some (IPLimiter.family_of_some hb)]
      rfl

/-- **`Allow` is a draw.** -/
theorem IPLimiter.allowKeeping_spec (hcap : l.capacity = r.cap) (hrate : l.refillPS = r.rate)
    (now : Time) (key : String) :
    (l.allowKeeping now key).2 = allowAnswer r (r.found l.family key now.seconds)
      ∧ (l.allowKeeping now key).1 = l.setBucket key
          ⟨Rate.left (r.found l.family key now.seconds), now, now⟩ := by
  have hfound := IPLimiter.refill_tokens hcap hrate now key
  unfold IPLimiter.allowKeeping allowAnswer Rate.left
  dsimp only
  rw [hfound, hrate]
  by_cases hlt : r.found l.family key now.seconds < 1
  · rw [if_pos hlt, if_pos hlt, if_pos hlt]
    refine ⟨rfl, ?_⟩
    rw [← hfound]
    rfl
  · rw [if_neg hlt, if_neg hlt, if_neg hlt]
    exact ⟨rfl, rfl⟩

/-- The family after the bucket of a key has been drawn from. -/
theorem IPLimiter.family_setBucket (key : String) (tokens : ℚ) :
    (l.setBucket key ⟨tokens, now, now⟩).family
      = Function.update l.family key (some ⟨tokens, now.seconds⟩) := by
  funext k
  by_cases hk : k = key
  · subst hk
    rw [Function.update_self]
    exact IPLimiter.family_of_some IPLimiter.bucket_setBucket_self
  · rw [Function.update_of_ne hk]
    unfold IPLimiter.family
    rw [IPLimiter.bucket_setBucket_of_ne hk]

/-- A call answers from what it finds, and leaves the family drawn from. -/
theorem IPLimiter.Tracks.allowKeeping (h : l.Tracks r now B) (key : String) :
    (l.allowKeeping now key).2 = allowAnswer r (r.found B key now.seconds)
      ∧ (l.allowKeeping now key).1.Tracks r now (r.draw B key now.seconds) := by
  obtain ⟨hanswer, hafter⟩ := IPLimiter.allowKeeping_spec h.capacity h.refillPS now key
  have hsame := h.alike key now.seconds (le_refl _)
  have hfamily : (l.allowKeeping now key).1.family = r.draw l.family key now.seconds := by
    rw [hafter, IPLimiter.family_setBucket]
    rfl
  refine ⟨by rw [hanswer, hsame], ?_, ?_, ?_, ?_, ?_⟩
  · rw [hafter]
    exact h.capacity
  · rw [hafter]
    exact h.refillPS
  · intro k b hb
    rw [hafter] at hb
    by_cases hk : k = key
    · subst hk
      rw [IPLimiter.bucket_setBucket_self] at hb
      cases hb
      rfl
    · rw [IPLimiter.bucket_setBucket_of_ne hk] at hb
      exact h.touched k b hb
  · rw [hfamily]
    exact h.sound.draw
  · intro k
    rw [hfamily]
    by_cases hk : k = key
    · subst hk
      exact (h.alike k).draw (le_refl _)
    · have hleft : r.Alike now.seconds k (r.draw l.family key now.seconds) l.family :=
        Rate.alike_draw_of_ne hk
      have hright : r.Alike now.seconds k (r.draw B key now.seconds) B := Rate.alike_draw_of_ne hk
      exact hleft.trans ((h.alike k).trans hright.symm)

/-- Ten minutes are enough to fill a bucket. -/
def FillsInTime (r : Rate ℚ) : Prop := r.cap ≤ 600 * r.rate

/-- A bucket old enough for the sweep is full. -/
theorem IPLimiter.Tracks.level_expired (h : l.Tracks r now B) (hfill : FillsInTime r)
    {k : String} {b : IPBucket} (hb : l.bucket k = some b)
    (hold : b.touched.ns + expireDur < now.ns) :
    r.level ⟨b.tokens, b.lastFill.seconds⟩ now.seconds = r.cap := by
  apply (h.sound k _ (IPLimiter.family_of_some hb)).level_idle
  have hidle : (600 : ℚ) ≤ now.seconds - b.lastFill.seconds := by
    rw [h.touched k b hb] at hold
    exact_mod_cast Time.le_seconds_sub (n := 600) hold.le
  calc r.cap ≤ 600 * r.rate := hfill
    _ ≤ (now.seconds - b.lastFill.seconds) * r.rate :=
        mul_le_mul_of_nonneg_right hidle r.rate_pos.le

/-- **The sweep deletes full buckets only**, so it changes no answer. -/
theorem IPLimiter.Tracks.expireLocked (h : l.Tracks r now B) (hfill : FillsInTime r) :
    (l.expireLocked now).Tracks r now B := by
  have hfields : (l.expireLocked now).capacity = l.capacity
      ∧ (l.expireLocked now).refillPS = l.refillPS := by
    unfold IPLimiter.expireLocked
    split
    · exact ⟨rfl, rfl⟩
    · exact ⟨rfl, rfl⟩
  have hkept : ∀ k b, (l.expireLocked now).bucket k = some b → l.bucket k = some b := by
    intro k b hb
    rcases l.bucket_expireLocked now k with hsame | ⟨hnone, _⟩
    · rw [← hsame]
      exact hb
    · rw [hnone] at hb
      cases hb
  -- what is left is as it was; a bucket that is gone was full
  refine ⟨hfields.1.trans h.capacity, hfields.2.trans h.refillPS, ?_, ?_, ?_⟩
  · exact fun k b hb => h.touched k b (hkept k b hb)
  · intro k b hb
    obtain ⟨b₀, hb₀, rfl⟩ := Option.map_eq_some_iff.mp hb
    exact h.sound k _ (IPLimiter.family_of_some (hkept k b₀ hb₀))
  · intro k
    refine Rate.Alike.trans ?_ (h.alike k)
    rcases l.bucket_expireLocked now k with
      hsame | ⟨hnone, b, hb, hold⟩
    · apply Rate.alike_of_eq
      unfold IPLimiter.family
      rw [hsame]
    · exact (Rate.alike_of_full (IPLimiter.family_of_some hb) (h.level_expired hfill hb hold)
        (IPLimiter.family_of_none hnone)).symm

end Tracks

/-! ## §3. Runs of calls. -/

/-- `Allow`, or a variant of it. -/
abbrev AllowMethod := IPLimiter → Time → String → IPLimiter × Bool × Nat

/-- The answers to calls, each with its time and its key. -/
def IPLimiter.answers (method : AllowMethod) (l : IPLimiter) :
    List (Time × String) → List (Bool × Nat)
  | [] => []
  | c :: calls => (method l c.1 c.2).2 :: (method l c.1 c.2).1.answers method calls

/-- The limiter after the calls. -/
def IPLimiter.after (method : AllowMethod) (l : IPLimiter) (calls : List (Time × String)) :
    IPLimiter :=
  calls.foldl (fun l c => (method l c.1 c.2).1) l

/-- The clock does not go back between the calls. -/
def Nondecreasing (calls : List (Time × String)) : Prop := calls.Pairwise fun c d => c.1 ≤ d.1

instance (calls : List (Time × String)) : Decidable (Nondecreasing calls) :=
  inferInstanceAs (Decidable (calls.Pairwise _))

/-- The calls as draws. -/
def draws (calls : List (Time × String)) : List (ℚ × String) :=
  calls.map fun c => (c.1.seconds, c.2)

/-- The method answers and acts as a draw does. -/
def IsDraw (r : Rate ℚ) (method : AllowMethod) : Prop :=
  ∀ l now B key, l.Tracks r now B →
    (method l now key).2 = allowAnswer r (r.found B key now.seconds)
      ∧ (method l now key).1.Tracks r now (r.draw B key now.seconds)

theorem isDraw_allowKeeping (r : Rate ℚ) : IsDraw r IPLimiter.allowKeeping :=
  fun _ _ _ key h => h.allowKeeping key

theorem isDraw_allow {r : Rate ℚ} (hfill : FillsInTime r) : IsDraw r IPLimiter.allow := by
  intro l now B key h
  rw [IPLimiter.allow_eq]
  exact (h.expireLocked hfill).allowKeeping key

section Runs

variable {r : Rate ℚ} {method : AllowMethod} {t : Time} {l : IPLimiter} {B : Buckets String ℚ}
  {calls : List (Time × String)}

theorem inOrder_draws (hfrom : ∀ c ∈ calls, t ≤ c.1) (hcalls : Nondecreasing calls) :
    InOrder t.seconds (draws calls) := by
  induction calls generalizing t with
  | nil => trivial
  | cons c calls ih =>
      obtain ⟨hlater, hrest⟩ := List.pairwise_cons.mp hcalls
      exact ⟨Time.seconds_mono (hfrom c List.mem_cons_self), ih hlater hrest⟩

/-- **A run of calls is a run of draws.** -/
theorem IPLimiter.Tracks.answers (hmethod : IsDraw r method) (h : l.Tracks r t B)
    (hfrom : ∀ c ∈ calls, t ≤ c.1) (hcalls : Nondecreasing calls) :
    l.answers method calls = (r.finds B (draws calls)).map (allowAnswer r) := by
  induction calls generalizing t l B with
  | nil => rfl
  | cons c calls ih =>
      obtain ⟨hlater, hrest⟩ := List.pairwise_cons.mp hcalls
      obtain ⟨hanswer, hnext⟩ := hmethod l c.1 B c.2 (h.mono (hfrom c List.mem_cons_self))
      show (method l c.1 c.2).2 :: (method l c.1 c.2).1.answers method calls = _
      rw [hanswer, ih hnext hlater hrest]
      rfl

theorem IPLimiter.Tracks.after (hmethod : IsDraw r method) (h : l.Tracks r t B)
    (hfrom : ∀ c ∈ calls, t ≤ c.1) (hcalls : Nondecreasing calls) :
    ∃ t' B', (l.after method calls).Tracks r t' B' := by
  induction calls generalizing t l B with
  | nil => exact ⟨t, B, h⟩
  | cons c calls ih =>
      obtain ⟨hlater, hrest⟩ := List.pairwise_cons.mp hcalls
      obtain ⟨_, hnext⟩ := hmethod l c.1 B c.2 (h.mono (hfrom c List.mem_cons_self))
      exact ih hnext hlater hrest

end Runs

/-- `capacity` and `refillPS` of `NewIPLimiter`. -/
def loginRate (perMinute : Int) : Rate ℚ where
  cap := max 1 (perMinute : ℚ)
  rate := max 1 (perMinute : ℚ) / 60
  one_le_cap := le_max_left 1 (perMinute : ℚ)
  rate_pos := div_pos (zero_lt_one.trans_le (le_max_left _ _)) (by norm_num)

theorem loginRate_fills (perMinute : Int) : FillsInTime (loginRate perMinute) := by
  have hcap : (1 : ℚ) ≤ max 1 (perMinute : ℚ) := le_max_left _ _
  show max 1 (perMinute : ℚ) ≤ 600 * (max 1 (perMinute : ℚ) / 60)
  linarith

theorem newIPLimiter_capacity (perMinute : Int) :
    (newIPLimiter perMinute).capacity = max 1 (perMinute : ℚ) := by
  show (if (perMinute : ℚ) < 1 then 1 else (perMinute : ℚ)) = _
  split
  next hlt => exact (max_eq_left hlt.le).symm
  next hge => exact (max_eq_right (not_lt.mp hge)).symm

/-- A new limiter has no buckets. -/
theorem newIPLimiter_tracks (perMinute : Int) (t : Time) :
    (newIPLimiter perMinute).Tracks (loginRate perMinute) t (fun _ => none) where
  capacity := newIPLimiter_capacity perMinute
  refillPS := by
    show (newIPLimiter perMinute).capacity / 60 = _
    rw [newIPLimiter_capacity]
    rfl
  touched := fun k b h => by cases h
  sound := Rate.allSound_none
  alike := fun _ => Rate.Alike.refl

/-- The clock has left the first second of the epoch. -/
def Time.first : Time := ⟨second, Nat.le_refl _⟩

theorem Time.first_le (t : Time) : Time.first ≤ t := t.sinceEpoch

section New

variable (perMinute : Int) {calls : List (Time × String)}

/-- The answers of a new limiter, by what the draws find. -/
theorem newIPLimiter_answers {method : AllowMethod} (hmethod : IsDraw (loginRate perMinute) method)
    (hcalls : Nondecreasing calls) :
    (newIPLimiter perMinute).answers method calls
      = ((loginRate perMinute).finds (fun _ => none) (draws calls)).map
          (allowAnswer (loginRate perMinute)) :=
  (newIPLimiter_tracks perMinute Time.first).answers hmethod (fun c _ => Time.first_le c.1) hcalls

/-- **EVICTING IDLE BUCKETS IS INVISIBLE**: `IPLimiter` answers every call as the limiter
that never deletes a bucket. -/
theorem eviction_invisible (hcalls : Nondecreasing calls) :
    (newIPLimiter perMinute).answers IPLimiter.allow calls
      = (newIPLimiter perMinute).answers IPLimiter.allowKeeping calls := by
  rw [newIPLimiter_answers perMinute (isDraw_allow (loginRate_fills perMinute)) hcalls,
    newIPLimiter_answers perMinute (isDraw_allowKeeping _) hcalls]

/-- The calls for the key in the window that are allowed. -/
def allowedIn (key : String) (lo hi : ℚ) (log : List ((Time × String) × Bool × Nat)) : Nat :=
  log.countP fun x =>
    decide (x.1.2 = key ∧ lo ≤ x.1.1.seconds ∧ x.1.1.seconds ≤ hi ∧ x.2.1 = true)

/-- An allowed call has found a token. -/
theorem allowAnswer_fst {r : Rate ℚ} {found : ℚ} :
    (allowAnswer r found).1 = true ↔ 1 ≤ found := by
  unfold allowAnswer
  by_cases hlt : found < 1
  · rw [if_pos hlt]
    simp [hlt]
  · rw [if_neg hlt]
    simpa using hlt

/-- Allowed calls are granted draws. -/
theorem allowedIn_eq_granted (r : Rate ℚ) (B : Buckets String ℚ) (key : String) (lo hi : ℚ)
    (calls : List (Time × String)) :
    allowedIn key lo hi (calls.zip ((r.finds B (draws calls)).map (allowAnswer r)))
      = r.granted key lo hi B (draws calls) := by
  unfold allowedIn Rate.granted
  have hdraws : (draws calls).zip (r.finds B (draws calls))
      = (calls.zip (r.finds B (draws calls))).map fun x => ((x.1.1.seconds, x.1.2), x.2) :=
    List.zip_map_left
  rw [hdraws, List.zip_map_right, List.countP_map, List.countP_map]
  apply List.countP_congr
  intro x _
  simp only [Function.comp_apply, Prod.map, id_eq, allowAnswer_fst, decide_eq_true_eq]
  rfl

/-- The entries of one key in a run are the run of its own calls. -/
theorem answers_filter (r : Rate ℚ) (key : String) (hcalls : Nondecreasing calls) :
    (calls.zip ((r.finds (fun _ => none) (draws calls)).map (allowAnswer r))).filter
        (fun x => decide (x.1.2 = key))
      = (calls.filter fun c => decide (c.2 = key)).zip
          ((r.finds (fun _ => none) (draws (calls.filter fun c => decide (c.2 = key)))).map
            (allowAnswer r)) := by
  have hfinds := Rate.finds_filter (r := r) (k := key) (t := Time.first.seconds)
    (B := fun _ => none) (fun c : Time × String => (c.1.seconds, c.2)) Rate.Alike.refl
    (inOrder_draws (fun c _ => Time.first_le c.1) hcalls)
  rw [List.zip_map_right, List.filter_map, List.zip_map_right]
  exact congrArg (List.map (Prod.map id (allowAnswer r))) hfinds

/-- **THE LOGIN RATE BOUND.**  With `c = max 1 perMinute`, a window of `T` seconds allows
`c + T * c / 60` calls for a key or fewer; the buckets hold between `0` and `c` tokens; and
the answers for a key are those to its own calls. -/
theorem login_rate_bound (hcalls : Nondecreasing calls) :
    (∀ (key : String) (a T : ℚ), 0 ≤ T →
        (allowedIn key a (a + T)
          (calls.zip ((newIPLimiter perMinute).answers IPLimiter.allow calls)) : ℚ)
            ≤ max 1 (perMinute : ℚ) + T * max 1 (perMinute : ℚ) / 60)
      ∧ (∀ kb ∈ ((newIPLimiter perMinute).after IPLimiter.allow calls).buckets,
          0 ≤ kb.2.tokens ∧ kb.2.tokens ≤ max 1 (perMinute : ℚ))
      ∧ ∀ key : String,
          (calls.zip ((newIPLimiter perMinute).answers IPLimiter.allow calls)).filter
              (fun x => decide (x.1.2 = key))
            = (calls.filter fun c => decide (c.2 = key)).zip
                ((newIPLimiter perMinute).answers IPLimiter.allow
                  (calls.filter fun c => decide (c.2 = key))) := by
  have hdraw : IsDraw (loginRate perMinute) IPLimiter.allow :=
    isDraw_allow (loginRate_fills perMinute)
  have hanswers := newIPLimiter_answers perMinute hdraw hcalls
  refine ⟨?_, ?_, ?_⟩
  · intro key a T hT
    rw [hanswers, allowedIn_eq_granted]
    have hwin : a ≤ a + T := by linarith
    have hbound := Rate.granted_le (r := loginRate perMinute) key
      (Rate.allSound_none (κ := String)) (inOrder_draws (fun c _ => Time.first_le c.1) hcalls) hwin
    calc _ ≤ (loginRate perMinute).cap + (a + T - a) * (loginRate perMinute).rate := hbound
      _ = max 1 (perMinute : ℚ) + T * max 1 (perMinute : ℚ) / 60 := by
          show max 1 (perMinute : ℚ) + (a + T - a) * (max 1 (perMinute : ℚ) / 60) = _
          ring
  · intro kb hkb
    obtain ⟨t, B, htracks⟩ := (newIPLimiter_tracks perMinute Time.first).after hdraw
      (fun c _ => Time.first_le c.1) hcalls
    have hsound := htracks.sound kb.1 _
      (IPLimiter.family_of_some (IPLimiter.bucket_eq_some_iff.mpr hkb))
    exact ⟨hsound.nonneg, hsound.le_cap⟩
  · intro key
    have hown : Nondecreasing (calls.filter fun c => decide (c.2 = key)) :=
      hcalls.sublist List.filter_sublist
    rw [hanswers, newIPLimiter_answers perMinute hdraw hown]
    exact answers_filter _ key hcalls

end New

/-- Six logins from one address in the first second, one from another, and one more from
the first eleven minutes later. -/
def loginCalls : List (Time × String) :=
  List.replicate 6 (Time.first, "10.0.0.7")
    ++ [(Time.first, "10.0.0.8"), (Time.first.add (11 * 60 * second), "10.0.0.7")]

example : (newIPLimiter 5).answers IPLimiter.allow loginCalls
    = List.replicate 5 (true, 0) ++ [(false, 13 * second), (true, 0), (true, 0)] := by
  decide +kernel

theorem eviction_invisible_of_logins :
    Nondecreasing loginCalls
      ∧ (newIPLimiter 5).answers IPLimiter.allow loginCalls
        = (newIPLimiter 5).answers IPLimiter.allowKeeping loginCalls := by
  have hcalls : Nondecreasing loginCalls := by decide
  exact ⟨hcalls, eviction_invisible 5 hcalls⟩

theorem login_rate_bound_of_logins :
    (allowedIn "10.0.0.7" 1 (1 + 60)
        (loginCalls.zip ((newIPLimiter 5).answers IPLimiter.allow loginCalls)) : ℚ)
          ≤ max 1 ((5 : Int) : ℚ) + 60 * max 1 ((5 : Int) : ℚ) / 60 := by
  have hcalls : Nondecreasing loginCalls := by decide
  exact (login_rate_bound 5 hcalls).1 "10.0.0.7" 1 60 (by norm_num)

end ControlRoom
