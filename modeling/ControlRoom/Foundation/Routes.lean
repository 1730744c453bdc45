/-
  ControlRoom.Foundation.Routes
  ─────────────────────────────
  **ROUTES IN THE ORDER OF THEIR REGISTRATION — the general layer.**

  A router tries its routes in order.  A route that matches a request puts its
  gates in the way, and answers the request or passes it on.

    §1  patterns, routes and the dispatch,
    §2  the way of a request: its gates and its endpoint (`dispatch_eq`),
    §3  two routes that never match the same request (`Apart`), a route that
        matches whenever another does (`Covers`),
    §4  a route that nothing stands before but such routes (`way_of_clear`),
    §5  the parameters of a path.

  Nothing here mentions a particular program.
-/
import Mathlib.Data.List.Basic

namespace Foundation

/-! ## §1. Routes. -/

/-- A segment of a pattern: written out, or a parameter; of the last segment, the pattern may have
only the first letters. -/
inductive Segment where
  | lit (s : String)
  | param
  | start (s : String)
  deriving DecidableEq, Repr

/-- The first text begins the second. -/
def begins (s t : String) : Bool := s.toList.isPrefixOf t.toList

/-- How a router reads a path: its segments, when a segment is the one that is written out, and
when it begins with what is written out. -/
structure PathReading where
  segments : String → List String
  same : String → String → Bool
  starts : String → String → Bool
  same_inj : ∀ a b x, same a x = true → same b x = true → a = b
  starts_iff : ∀ a b x, same b x = true → starts a x = begins a b

/-- A route: the methods and the paths it is for (`below` says that whatever continues the pattern
is among them), its gates, and what answers the request, if the route does not pass it on. -/
structure Route (μ ω η : Type) where
  methods : List μ
  pattern : List Segment
  below : Bool
  gates : List ω
  endpoint : Option η
  deriving DecidableEq

section Dispatch

variable {μ ω η ε : Type} [DecidableEq μ] (R : PathReading)

/-- A parameter is not empty. -/
def Segment.takes (x : String) : Segment → Bool
  | lit s => R.same s x
  | param => decide (x ≠ "")
  | start s => R.starts s x

/-- The path is one of the pattern. -/
def Segment.fits (below : Bool) : List Segment → List String → Bool
  | [], path => below || path.isEmpty
  | _ :: _, [] => false
  | seg :: pattern, x :: path => seg.takes R x && fits below pattern path

def Route.hits (m : μ) (path : List String) (r : Route μ ω η) : Bool :=
  decide (m ∈ r.methods) && Segment.fits R r.below r.pattern path

/-- The gates in order, up to the first that does not let the request pass. -/
def passAll (check : ω → Except ε Unit) : List ω → Except ε Unit
  | [] => .ok ()
  | w :: ws =>
      match check w with
      | .error err => .error err
      | .ok () => passAll check ws

/-- What becomes of a request: an error of a gate, or what answers it. -/
def dispatch (check : ω → Except ε Unit) (m : μ) (path : List String) :
    List (Route μ ω η) → Except ε (Option η)
  | [] => .ok none
  | r :: rs =>
      if r.hits R m path then
        match passAll check r.gates with
        | .error err => .error err
        | .ok () =>
            match r.endpoint with
            | some x => .ok (some x)
            | none => dispatch check m path rs
      else dispatch check m path rs

/-! ## §2. The way of a request. -/

/-- The gates that a request meets, and what is behind them. -/
def way (m : μ) (path : List String) : List (Route μ ω η) → List ω × Option η
  | [] => ([], none)
  | r :: rs =>
      if r.hits R m path then
        match r.endpoint with
        | some x => (r.gates, some x)
        | none => (r.gates ++ (way m path rs).1, (way m path rs).2)
      else way m path rs

variable {R} {check : ω → Except ε Unit} {m : μ} {path : List String}

theorem passAll_append (ws ws' : List ω) :
    passAll check (ws ++ ws')
      = match passAll check ws with
        | .error err => .error err
        | .ok () => passAll check ws' := by
  induction ws with
  | nil => rfl
  | cons w ws ih =>
      simp only [List.cons_append, passAll]
      cases check w with
      | error err => rfl
      | ok u => exact ih

/-- All of them let it pass. -/
theorem passAll_eq_ok_iff {ws : List ω} :
    passAll check ws = .ok () ↔ ∀ w ∈ ws, check w = .ok () := by
  induction ws with
  | nil => simp [passAll]
  | cons w ws ih =>
      unfold passAll
      rw [List.forall_mem_cons, ← ih]
      cases check w with
      | error err => simp
      | ok u => simp

/-- **The dispatch** is the gates on the way, and then what is behind them. -/
theorem dispatch_eq (rs : List (Route μ ω η)) :
    dispatch R check m path rs
      = (passAll check (way R m path rs).1).map fun _ => (way R m path rs).2 := by
  induction rs with
  | nil => rfl
  | cons r rs ih =>
      unfold dispatch way
      by_cases hhits : r.hits R m path = true
      · rw [if_pos hhits, if_pos hhits]
        cases hx : r.endpoint with
        | some x =>
            cases passAll check r.gates <;> rfl
        | none =>
            show _ = (passAll check (r.gates ++ _)).map _
            rw [passAll_append, ih]
            cases passAll check r.gates <;> rfl
      · rw [if_neg hhits, if_neg hhits, ih]

/-- What is behind the gates belongs to a route of the request. -/
theorem exists_of_way {rs : List (Route μ ω η)} {x : η} (h : (way R m path rs).2 = some x) :
    ∃ r ∈ rs, r.endpoint = some x ∧ r.hits R m path = true := by
  induction rs with
  | nil => cases h
  | cons r rs ih =>
      unfold way at h
      by_cases hhits : r.hits R m path = true
      · rw [if_pos hhits] at h
        cases hx : r.endpoint with
        | some y =>
            rw [hx] at h
            exact ⟨r, List.mem_cons_self, hx.trans h, hhits⟩
        | none =>
            rw [hx] at h
            obtain ⟨r', hr', hx', hhits'⟩ := ih h
            exact ⟨r', List.mem_cons_of_mem r hr', hx', hhits'⟩
      · rw [if_neg hhits] at h
        obtain ⟨r', hr', hx', hhits'⟩ := ih h
        exact ⟨r', List.mem_cons_of_mem r hr', hx', hhits'⟩

/-- Routes that do not match are not on the way. -/
theorem way_filter (keep : Route μ ω η → Bool) {rs : List (Route μ ω η)}
    (h : ∀ r ∈ rs, keep r = false → r.hits R m path = false) :
    way R m path rs = way R m path (rs.filter keep) := by
  induction rs with
  | nil => rfl
  | cons r rs ih =>
      have hrest := ih fun r' hr' => h r' (List.mem_cons_of_mem r hr')
      by_cases hkeep : keep r = true
      · rw [List.filter_cons_of_pos hkeep, way, way, hrest]
      · rw [List.filter_cons_of_neg hkeep, way, if_neg, hrest]
        rw [h r List.mem_cons_self (by simpa using hkeep)]
        exact Bool.false_ne_true

/-! ## §3. Patterns that exclude or cover each other. -/

/-- No text is one of both segments. -/
def Segment.against : Segment → Segment → Bool
  | lit s, lit t => decide (s ≠ t)
  | lit s, start t => !begins t s
  | start s, lit t => !begins s t
  | _, _ => false

/-- Whatever is one of the second segment is one of the first. -/
def Segment.wider : Segment → Segment → Bool
  | start s, lit t => begins s t
  | seg, seg' => decide (seg = seg')

theorem Segment.not_takes_of_against {seg seg' : Segment} {x : String}
    (h : seg.against seg' = true) (hx : seg.takes R x = true) : seg'.takes R x = false := by
  cases seg with
  | param => cases h
  | lit s =>
      cases seg' with
      | param => cases h
      | lit t =>
          by_contra hyes
          exact of_decide_eq_true h (R.same_inj s t x hx (Bool.of_not_eq_false hyes))
      | start t =>
          show R.starts t x = false
          rw [R.starts_iff t s x hx]
          simpa [against] using h
  | start s =>
      cases seg' with
      | param => cases h
      | start t => cases h
      | lit t =>
          by_contra hyes
          have hsame : R.same t x = true := Bool.of_not_eq_false hyes
          have hbegins : begins s t = true := (R.starts_iff s t x hsame).symm.trans hx
          simp [against, hbegins] at h

theorem Segment.takes_of_wider {seg seg' : Segment} {x : String} (h : seg.wider seg' = true)
    (hx : seg'.takes R x = true) : seg.takes R x = true := by
  cases seg with
  | lit s => rwa [of_decide_eq_true h]
  | param => rwa [of_decide_eq_true h]
  | start s =>
      cases seg' with
      | lit t => exact (R.starts_iff s t x hx).trans h
      | param => cases h
      | start t => rwa [of_decide_eq_true h]

/-- No path is one of both patterns. -/
def Segment.clash : List Segment → Bool → List Segment → Bool → Bool
  | [], _, [], _ => false
  | [], below, _ :: _, _ => !below
  | _ :: _, _, [], below => !below
  | seg :: p, below, seg' :: p', below' => seg.against seg' || clash p below p' below'

theorem Segment.not_fits_of_clash {p p' : List Segment} {below below' : Bool} {path : List String}
    (h : clash p below p' below' = true) (hp : fits R below p path = true) :
    fits R below' p' path = false := by
  induction p generalizing p' path with
  | nil =>
      cases p' with
      | nil => cases h
      | cons seg' p' =>
          have hbelow : below = false := by simpa [clash] using h
          cases path with
          | nil => rfl
          | cons x path =>
              rw [hbelow] at hp
              cases hp
  | cons seg p ih =>
      cases path with
      | nil => cases hp
      | cons x path =>
          obtain ⟨htakes, hrest⟩ := Bool.and_eq_true_iff.mp hp
          cases p' with
          | nil =>
              have hbelow : below' = false := by simpa [clash] using h
              rw [hbelow]
              rfl
          | cons seg' p' =>
              show (seg'.takes R x && fits R below' p' path) = false
              rcases Bool.or_eq_true_iff.mp h with hne | hrest'
              · rw [not_takes_of_against hne htakes, Bool.false_and]
              · rw [ih hrest' hrest, Bool.and_false]

/-- The second pattern continues the first. -/
def Segment.leads : List Segment → List Segment → Bool
  | [], _ => true
  | _ :: _, [] => false
  | seg :: p, seg' :: p' => seg.wider seg' && leads p p'

/-- Whatever is one of the second pattern continues the first. -/
theorem Segment.fits_of_leads {p p' : List Segment} {below : Bool} {path : List String}
    (h : leads p p' = true) (hp : fits R below p' path = true) : fits R true p path = true := by
  induction p generalizing p' path with
  | nil => rfl
  | cons seg p ih =>
      cases p' with
      | nil => cases h
      | cons seg' p' =>
          cases path with
          | nil => cases hp
          | cons x path =>
              obtain ⟨hwider, hleads⟩ := Bool.and_eq_true_iff.mp h
              obtain ⟨htakes, hrest⟩ := Bool.and_eq_true_iff.mp hp
              exact Bool.and_eq_true_iff.mpr ⟨takes_of_wider hwider htakes, ih hleads hrest⟩

namespace Route

/-- The two routes match no request both. -/
def Apart (q r : Route μ ω η) : Prop :=
  (∀ m ∈ r.methods, m ∉ q.methods)
    ∨ Segment.clash r.pattern r.below q.pattern q.below = true

/-- The first passes on every request of the second. -/
def Covers (q r : Route μ ω η) : Prop :=
  q.endpoint = none ∧ q.below = true ∧ Segment.leads q.pattern r.pattern = true
    ∧ ∀ m ∈ r.methods, m ∈ q.methods

instance (q r : Route μ ω η) : Decidable (q.Apart r) :=
  inferInstanceAs (Decidable (_ ∨ _))

instance [DecidableEq η] (q r : Route μ ω η) : Decidable (q.Covers r) :=
  inferInstanceAs (Decidable (_ ∧ _ ∧ _ ∧ _))

variable {q r : Route μ ω η}

theorem Apart.not_hits (h : q.Apart r) (hr : r.hits R m path = true) :
    q.hits R m path = false := by
  obtain ⟨hm, hfits⟩ := Bool.and_eq_true_iff.mp hr
  unfold hits
  rcases h with hmethods | hclash
  · rw [decide_eq_false (hmethods m (of_decide_eq_true hm)), Bool.false_and]
  · rw [Segment.not_fits_of_clash hclash hfits, Bool.and_false]

theorem Covers.hits (h : q.Covers r) (hr : r.hits R m path = true) : q.hits R m path = true := by
  obtain ⟨hm, hfits⟩ := Bool.and_eq_true_iff.mp hr
  obtain ⟨-, hbelow, hleads, hmethods⟩ := h
  unfold Route.hits
  rw [decide_eq_true (hmethods m (of_decide_eq_true hm)), hbelow,
    Segment.fits_of_leads hleads hfits]
  rfl

/-! ## §4. A route with a clear way. -/

/-- Every route before `r` passes its requests on, or never sees them. -/
def Clear (before : List (Route μ ω η)) (r : Route μ ω η) : Prop :=
  ∀ q ∈ before, q.Covers r ∨ q.Apart r

instance [DecidableEq η] (before : List (Route μ ω η)) (r : Route μ ω η) :
    Decidable (Clear before r) :=
  inferInstanceAs (Decidable (∀ q ∈ before, q.Covers r ∨ q.Apart r))

/-- The gates that stand before `r`. -/
def gatesTo [DecidableEq η] (before : List (Route μ ω η)) (r : Route μ ω η) : List ω :=
  (before.flatMap fun q => if q.Covers r ∧ ¬ q.Apart r then q.gates else []) ++ r.gates

/-- **A clear way**: a request of `r` meets the gates before it, and then `r` answers it. -/
theorem way_of_clear [DecidableEq η] {before after : List (Route μ ω η)} {x : η}
    (hclear : Clear before r) (hx : r.endpoint = some x) (hr : r.hits R m path = true) :
    way R m path (before ++ r :: after) = (gatesTo before r, some x) := by
  induction before with
  | nil =>
      unfold way
      rw [List.nil_append]
      simp only [hr, if_true, hx]
      rfl
  | cons q before ih =>
      have hrest := ih fun q' hq' => hclear q' (List.mem_cons_of_mem q hq')
      rw [List.cons_append, way]
      by_cases hapart : q.Apart r
      · have hgates : gatesTo (q :: before) r = gatesTo before r := by
          unfold gatesTo
          rw [List.flatMap_cons, if_neg (fun h => h.2 hapart), List.nil_append]
        rw [if_neg (by rw [hapart.not_hits hr]; exact Bool.false_ne_true), hrest, hgates]
      · have hcovers := (hclear q List.mem_cons_self).resolve_right hapart
        have hgates : gatesTo (q :: before) r = q.gates ++ gatesTo before r := by
          unfold gatesTo
          rw [List.flatMap_cons, if_pos ⟨hcovers, hapart⟩, List.append_assoc]
        rw [if_pos (hcovers.hits hr), hcovers.1, hrest, hgates]

end Route

/-! ## §5. Parameters. -/

/-- What stands in a path for the parameters of a pattern. -/
def Segment.values : List Segment → List String → List String
  | param :: pattern, x :: path => x :: values pattern path
  | _ :: pattern, _ :: path => values pattern path
  | _, _ => []

/-- A path of the pattern, with these parameters. -/
def Segment.fill : List Segment → List String → List String
  | [], _ => []
  | param :: pattern, vs => vs.headD "" :: fill pattern vs.tail
  | lit s :: pattern, vs => s :: fill pattern vs
  | start s :: pattern, vs => s :: fill pattern vs

/-- How many parameters a pattern has. -/
def Segment.arity (pattern : List Segment) : Nat := pattern.countP (· = param)

theorem Segment.values_fill {pattern : List Segment} {vs : List String}
    (h : vs.length = arity pattern) : values pattern (fill pattern vs) = vs := by
  induction pattern generalizing vs with
  | nil => exact (List.length_eq_zero_iff.mp h).symm
  | cons seg pattern ih =>
      cases seg with
      | param =>
          cases vs with
          | nil => simp [arity] at h
          | cons v vs =>
              have hrest : vs.length = arity pattern := by simpa [arity] using h
              show v :: values pattern (fill pattern vs) = v :: vs
              rw [ih hrest]
      | lit s => exact ih (by simpa [arity] using h)
      | start s => exact ih (by simpa [arity] using h)

theorem Segment.mem_fill {pattern : List Segment} {vs : List String}
    (h : vs.length = arity pattern) {x : String} (hx : x ∈ fill pattern vs) :
    x ∈ vs ∨ lit x ∈ pattern ∨ start x ∈ pattern := by
  induction pattern generalizing vs with
  | nil => cases hx
  | cons seg pattern ih =>
      cases seg with
      | param =>
          cases vs with
          | nil => simp [arity] at h
          | cons v vs =>
              rcases List.mem_cons.mp hx with rfl | hx
              · exact .inl List.mem_cons_self
              · rcases ih (by simpa [arity] using h) hx with hv | hlit | hstart
                · exact .inl (List.mem_cons_of_mem _ hv)
                · exact .inr (.inl (List.mem_cons_of_mem _ hlit))
                · exact .inr (.inr (List.mem_cons_of_mem _ hstart))
      | lit s =>
          rcases List.mem_cons.mp hx with rfl | hx
          · exact .inr (.inl List.mem_cons_self)
          · rcases ih (by simpa [arity] using h) hx with hv | hlit | hstart
            · exact .inl hv
            · exact .inr (.inl (List.mem_cons_of_mem _ hlit))
            · exact .inr (.inr (List.mem_cons_of_mem _ hstart))
      | start s =>
          rcases List.mem_cons.mp hx with rfl | hx
          · exact .inr (.inr List.mem_cons_self)
          · rcases ih (by simpa [arity] using h) hx with hv | hlit | hstart
            · exact .inl hv
            · exact .inr (.inl (List.mem_cons_of_mem _ hlit))
            · exact .inr (.inr (List.mem_cons_of_mem _ hstart))

/-- A path of the pattern is one, if a segment is itself and no parameter is empty. -/
theorem Segment.fits_fill {pattern : List Segment} {vs : List String}
    (hsame : ∀ s, R.same s s = true) (h : vs.length = arity pattern) (hvs : ∀ v ∈ vs, v ≠ "")
    (hwhole : ∀ seg ∈ pattern, ∀ s, seg ≠ start s) :
    fits R false pattern (fill pattern vs) = true := by
  induction pattern generalizing vs with
  | nil => rfl
  | cons seg pattern ih =>
      obtain ⟨hfirst, hrest⟩ := List.forall_mem_cons.mp hwhole
      cases seg with
      | param =>
          cases vs with
          | nil => simp [arity] at h
          | cons v vs =>
              obtain ⟨hv, hvs⟩ := List.forall_mem_cons.mp hvs
              show (decide (v ≠ "") && fits R false pattern (fill pattern vs)) = true
              rw [decide_eq_true hv, ih (by simpa [arity] using h) hvs hrest]
              rfl
      | lit s =>
          show (R.same s s && fits R false pattern (fill pattern vs)) = true
          rw [hsame, ih (by simpa [arity] using h) hvs hrest]
          rfl
      | start s => exact absurd rfl (hfirst s)

end Dispatch

end Foundation
