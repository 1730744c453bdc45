/-
  ControlRoom.Network.Firewall
  ────────────────────────────
  **DELETING A FIREWALL RULE BY ITS NUMBER** (`internal/network/ufw.go`,
  `internal/api/network/network.go`).

  A client reads the numbered rules in one request and names a number in
  another.  What happens to the list in between is in the `log`, a ghost:
  `Standing` follows the listed rule through it, and a deletion removes the
  rule that the client has seen just when its listing shows one at the number
  and the rule stands where it did.

    §1  the index of a request, `DeleteRule`,
    §2  a listing: what `parseUFWStatus` reads of the rules that ufw prints,
    §3  the machine: the host, the responses on their way, what clients show,
    §4  listings keep to the history,
    §5  the deletions of a run.

  What `ufw` makes of an added rule (where it stands, in one list for both
  address families or for one) is left open: `add` brings any edits.
-/
import ControlRoom.Foundation.Positions
import ControlRoom.Network.UfwStatus
import Mathlib.Logic.Function.Basic

namespace ControlRoom

open Foundation

/-! ## §1. The index. -/

/-- The answers of `deleteRule` that are not ok. -/
inductive DeleteRefusal where
  /-- 400: no index. -/
  | invalidIndex
  /-- 500: an index out of range, or `ufw` has failed. -/
  | failed
  deriving DecidableEq

/-- `network.DeleteRule`: the list as `ufw --force delete N` leaves it.  `runs` says whether the
command works at all. -/
def removeRule {R : Type*} (rules : List R) (index : Int) (runs : Bool) :
    Except DeleteRefusal (List R) :=
  if index < 1 ∨ 9999 < index then .error .failed
  else
    let n := index.toNat
    if runs ∧ n ≤ rules.length then .ok (rules.eraseIdx (n - 1)) else .error .failed

/-- The rule that a request asks for, before anything is known of the list. -/
def deleteIndex (param : String) : Except DeleteRefusal Int :=
  match atoi param with
  | none => .error .invalidIndex
  | some index => if index < 1 then .error .invalidIndex else .ok index

/-! ## §2. A listing. -/

/-- A rule of the firewall, by what ufw prints of it. -/
structure FirewallRule where
  «to» : ColumnText
  verdict : Verdict
  direction : Direction
  «from» : ColumnText

def FirewallRule.action (r : FirewallRule) : List Char :=
  r.verdict.name ++ ' ' :: r.direction.name

/-- The rule under its number, which is an `int`. -/
def FirewallRule.numbered (r : FirewallRule) (index : Nat) : Option ListedRule :=
  if h : index < 2 ^ 63 then some ⟨index, h, r.to, r.verdict, r.direction, r.from⟩ else none

/-- `ufw status numbered`: an inactive firewall prints no rules. -/
def statusNumbered (active : Bool) (rules : List FirewallRule) : List Char :=
  if active then
    unlines '\n' (statusLines ⟨true, none, none, none⟩
      ((rules.zipIdx 1).filterMap fun x => x.1.numbered x.2))
  else unlines '\n' [statusKey ++ " inactive".toList]

/-- The rows that `network.Status` returns. -/
def statusRows (active : Bool) (rules : List FirewallRule) : List UFWRule :=
  (parseUFWStatus (statusNumbered active rules)).rules

/-- The row has the columns of the rule. -/
structure UFWRule.Shows (row : UFWRule) (r : FirewallRule) : Prop where
  «to» : row.to = r.to.text
  action : row.action = r.action
  «from» : row.from = r.from.text

theorem ColumnText.eq_of_text {a b : ColumnText} (h : a.text = b.text) : a = b := by
  obtain ⟨⟨text, _, _, _⟩, _⟩ := a
  obtain ⟨⟨text', _, _, _⟩, _⟩ := b
  cases h
  rfl

/-- The action names the verdict and the direction. -/
theorem action_inj {v v' : Verdict} {d d' : Direction}
    (h : v.name ++ ' ' :: d.name = v'.name ++ ' ' :: d'.name) : v = v' ∧ d = d' := by
  revert h
  cases v <;> cases v' <;> cases d <;> cases d' <;> decide

/-- The columns tell the rules apart. -/
theorem UFWRule.Shows.unique {row : UFWRule} {r r' : FirewallRule} (h : row.Shows r)
    (h' : row.Shows r') : r = r' := by
  have hto := ColumnText.eq_of_text (h.to.symm.trans h'.to)
  have hfrom := ColumnText.eq_of_text (h.from.symm.trans h'.from)
  obtain ⟨hverdict, hdirection⟩ := action_inj (h.action.symm.trans h'.action)
  cases r
  cases r'
  dsimp only at hto hfrom hverdict hdirection
  rw [hto, hfrom, hverdict, hdirection]

theorem FirewallRule.numbered_eq_some {r : FirewallRule} {index : Nat} {listed : ListedRule}
    (h : r.numbered index = some listed) :
    listed.rule.index = index ∧ listed.rule.Shows r := by
  unfold FirewallRule.numbered at h
  split at h
  · cases h
    exact ⟨rfl, rfl, rfl, rfl⟩
  · cases h

/-- The rows of an active firewall: no destination of more than 25 characters, and nothing behind
a line that is too long. -/
theorem statusRows_active (rules : List FirewallRule) :
    statusRows true rules
      = ((((rules.zipIdx 1).filterMap fun x => x.1.numbered x.2).takeWhile
          (lineScanner.Fits ·.row)).filter (·.to.text.length ≤ 25)).map ListedRule.rule := by
  unfold statusRows statusNumbered
  rw [if_pos rfl, parseUFWStatus_of_header (by decide)]

theorem statusRows_inactive (rules : List FirewallRule) : statusRows false rules = [] := by
  have hnone : (parseUFWStatus (unlines '\n' [statusKey ++ " inactive".toList])).rules = [] := by
    decide +kernel
  exact hnone

/-- **A row shows the rule at its number.** -/
theorem rule_of_mem_statusRows {active : Bool} {rules : List FirewallRule} {row : UFWRule}
    (h : row ∈ statusRows active rules) :
    ∃ i rule, rules[i]? = some rule ∧ row.index = (i + 1 : Nat) ∧ row.Shows rule := by
  cases active with
  | false =>
      rw [statusRows_inactive] at h
      cases h
  | true =>
      rw [statusRows_active] at h
      obtain ⟨listed, hlisted, rfl⟩ := List.mem_map.mp h
      have hmem := (List.takeWhile_sublist _).subset (List.mem_filter.mp hlisted).1
      obtain ⟨⟨rule, k⟩, hk, hnumbered⟩ := List.mem_filterMap.mp hmem
      obtain ⟨hindex, hshows⟩ := FirewallRule.numbered_eq_some hnumbered
      obtain ⟨hle, hrule⟩ := List.mem_zipIdx_iff_le_and_getElem?_sub.mp hk
      refine ⟨k - 1, rule, hrule, ?_, hshows⟩
      rw [hindex]
      have hk1 : k - 1 + 1 = k := Nat.sub_add_cancel hle
      rw [hk1]

/-! ## §3. The machine. -/

/-- The rows of a listing, and how much of the history it has seen. -/
structure Listing where
  rows : List UFWRule
  seen : Nat

/-- The firewall of the host, the listings on their way to clients and those that clients show.
The log of all edits is a ghost. -/
structure Firewall (C : Type*) where
  rules : List FirewallRule
  active : Bool
  log : List (Edit FirewallRule)
  responses : List (C × Listing)
  shown : C → Option Listing

/-- What happens, one thing at a time. -/
inductive FirewallEvent (C : Type*) where
  /-- `ufw status numbered` runs for a request of the client. -/
  | status (c : C)
  /-- A response reaches its client, in any order. -/
  | receive (i : Nat)
  /-- `ufw` adds a rule, or someone edits the list on the host. -/
  | add (edits : List (Edit FirewallRule))
  /-- `DELETE /firewall/rules/:index`. -/
  | delete (c : C) (param : String) (runs : Bool)
  | enable
  | disable

namespace Firewall

variable {C : Type*}

/-- A firewall of which no client has seen anything. -/
def start (rules : List FirewallRule) (active : Bool) : Firewall C where
  rules := rules
  active := active
  log := []
  responses := []
  shown := fun _ => none

/-- The listing that a client gets now. -/
def listing (s : Firewall C) : Listing := ⟨statusRows s.active s.rules, s.log.length⟩

/-- The handler: the index of the rule that was removed, if it answers ok. -/
def deleteRule (s : Firewall C) (param : String) (runs : Bool) :
    Firewall C × Except DeleteRefusal Nat :=
  match deleteIndex param with
  | .error refusal => (s, .error refusal)
  | .ok index =>
      match removeRule s.rules index runs with
      | .error refusal => (s, .error refusal)
      | .ok rules =>
          ({ s with rules := rules, log := s.log ++ [.erase (index.toNat - 1)] },
            .ok index.toNat)

variable [DecidableEq C]

/-- The `i`-th response that is on its way becomes what its client shows. -/
def receive (s : Firewall C) (i : Nat) : Firewall C :=
  match s.responses[i]? with
  | none => s
  | some (c, l) =>
      { s with responses := s.responses.eraseIdx i, shown := Function.update s.shown c (some l) }

def step (s : Firewall C) : FirewallEvent C → Firewall C
  | .status c => { s with responses := s.responses ++ [(c, s.listing)] }
  | .receive i => s.receive i
  | .add edits => { s with rules := applyAll edits s.rules, log := s.log ++ edits }
  | .delete _ param runs => (s.deleteRule param runs).1
  | .enable => { s with active := true }
  | .disable => { s with active := false }

def run (s : Firewall C) (events : List (FirewallEvent C)) : Firewall C :=
  events.foldl step s

end Firewall

/-! ## §4. Listings. -/

section Listings

variable {C : Type*} {rules : List FirewallRule} {s : Firewall C} {l : Listing} {param : String}
  {runs : Bool}

/-- The listing shows the rules as they were when that much of the history had happened. -/
def Listing.Saw (rules : List FirewallRule) (log : List (Edit FirewallRule)) (l : Listing) : Prop :=
  l.seen ≤ log.length ∧ ∃ active, l.rows = statusRows active (applyAll (log.take l.seen) rules)

/-- Listings keep to the history of a firewall that began with the rules. -/
structure Firewall.Kept (rules : List FirewallRule) (s : Firewall C) : Prop where
  history : s.rules = applyAll s.log rules
  responses : ∀ x ∈ s.responses, x.2.Saw rules s.log
  shown : ∀ c l, s.shown c = some l → l.Saw rules s.log

theorem Listing.Saw.append {log : List (Edit FirewallRule)} (h : l.Saw rules log)
    (edits : List (Edit FirewallRule)) : l.Saw rules (log ++ edits) := by
  refine ⟨Nat.le_trans h.1 (by simp), ?_⟩
  rw [List.take_append_of_le_length h.1]
  exact h.2

theorem Firewall.kept_start (active : Bool) : (start rules active : Firewall C).Kept rules where
  history := rfl
  responses := fun _ hx => by cases hx
  shown := fun _ _ h => by cases h

/-- What the firewall lists is what it has. -/
theorem Firewall.Kept.listing (h : s.Kept rules) : s.listing.Saw rules s.log := by
  refine ⟨Nat.le_refl _, s.active, ?_⟩
  show statusRows s.active s.rules = statusRows s.active (applyAll (s.log.take s.log.length) rules)
  rw [List.take_length, ← h.history]

/-- The firewall after some edits. -/
def Firewall.edited (s : Firewall C) (edits : List (Edit FirewallRule)) : Firewall C :=
  { s with rules := applyAll edits s.rules, log := s.log ++ edits }

/-- The listings stay what they are while the rules are edited. -/
theorem Firewall.Kept.edited (h : s.Kept rules) (edits : List (Edit FirewallRule)) :
    (s.edited edits).Kept rules where
  history := by
    show applyAll edits s.rules = applyAll (s.log ++ edits) rules
    rw [applyAll_append, h.history]
  responses := fun x hx => (h.responses x hx).append edits
  shown := fun c l hl => (h.shown c l hl).append edits

/-- **What a deletion does**: nothing, or it erases the rule at the index that it is asked for. -/
theorem Firewall.deleteRule_cases (s : Firewall C) (param : String) (runs : Bool) :
    (∃ refusal, s.deleteRule param runs = (s, .error refusal)
        ∧ ∀ index, deleteIndex param = .ok index → index ≤ 9999 → runs = true →
            s.rules.length < index)
      ∨ ∃ n : Nat, deleteIndex param = .ok (n : Int) ∧ 1 ≤ n ∧ n ≤ 9999 ∧ runs = true
          ∧ n ≤ s.rules.length ∧ s.deleteRule param runs = (s.edited [.erase (n - 1)], .ok n) := by
  unfold Firewall.deleteRule
  cases hindex : deleteIndex param with
  | error refusal => exact Or.inl ⟨refusal, rfl, fun _ h => by cases h⟩
  | ok index =>
      have hpos : 1 ≤ index := by
        unfold deleteIndex at hindex
        split at hindex
        · cases hindex
        · split at hindex
          · cases hindex
          · cases hindex
            omega
      obtain ⟨n, rfl⟩ := Int.eq_ofNat_of_zero_le (by omega : 0 ≤ index)
      unfold removeRule
      dsimp only
      by_cases hrange : (n : Int) < 1 ∨ 9999 < (n : Int)
      · rw [if_pos hrange]
        refine Or.inl ⟨_, rfl, ?_⟩
        intro index hok hle
        cases hok
        omega
      · -- in range: `ufw` refuses a number past the end of its list
        rw [if_neg hrange, Int.toNat_natCast]
        by_cases hruns : runs ∧ n ≤ s.rules.length
        · rw [if_pos hruns]
          exact Or.inr ⟨n, rfl, by omega, by omega, hruns.1, hruns.2, rfl⟩
        · rw [if_neg hruns]
          refine Or.inl ⟨_, rfl, ?_⟩
          intro index hok _ hrun
          cases hok
          have hlt : ¬ n ≤ s.rules.length := fun hle => hruns ⟨hrun, hle⟩
          omega

theorem Firewall.Kept.deleteRule (h : s.Kept rules) : (s.deleteRule param runs).1.Kept rules := by
  rcases s.deleteRule_cases param runs with ⟨_, hrefused, _⟩ | ⟨_, _, _, _, _, _, hdone⟩
  · rw [hrefused]
    exact h
  · rw [hdone]
    exact h.edited _

theorem Firewall.Kept.receive [DecidableEq C] (h : s.Kept rules) (i : Nat) :
    (s.receive i).Kept rules := by
  unfold Firewall.receive
  cases hi : s.responses[i]? with
  | none => exact h
  | some x =>
      refine ⟨h.history, fun y hy => h.responses y (List.mem_of_mem_eraseIdx hy), ?_⟩
      intro c l hl
      by_cases hc : c = x.1
      · -- the client shows what was on its way
        subst hc
        dsimp only at hl
        rw [Function.update_self] at hl
        cases hl
        exact h.responses x (List.mem_of_getElem? hi)
      · dsimp only at hl
        rw [Function.update_of_ne hc] at hl
        exact h.shown c l hl

theorem Firewall.Kept.step [DecidableEq C] (h : s.Kept rules) (e : FirewallEvent C) :
    (s.step e).Kept rules := by
  cases e with
  | status c =>
      refine ⟨h.history, ?_, h.shown⟩
      intro x hx
      rcases List.mem_append.mp hx with hx | hx
      · exact h.responses x hx
      · cases List.mem_singleton.mp hx
        exact h.listing
  | receive i => exact h.receive i
  | add edits => exact h.edited edits
  | delete c param runs => exact h.deleteRule
  | enable => exact ⟨h.history, h.responses, h.shown⟩
  | disable => exact ⟨h.history, h.responses, h.shown⟩

end Listings

/-! ## §5. Deletions. -/

section Deletions

variable {C : Type*} [DecidableEq C]

/-- A `DELETE` of a client, and the firewall that it finds. -/
structure Deletion (C : Type*) where
  found : Firewall C
  client : C
  param : String
  runs : Bool

/-- The deletions of a run. -/
def Firewall.deletions (s : Firewall C) : List (FirewallEvent C) → List (Deletion C)
  | [] => []
  | .delete c param runs :: events =>
      ⟨s, c, param, runs⟩ :: (s.step (.delete c param runs)).deletions events
  | e :: events => (s.step e).deletions events

/-- The deletion removes the rule that the client's last listing shows at the index, or it fails
and removes nothing. -/
def Deletion.Right (d : Deletion C) : Prop :=
  match d.found.deleteRule d.param d.runs with
  | (s', .error _) => s'.rules = d.found.rules
  | (s', .ok index) =>
      s'.rules = d.found.rules.eraseIdx (index - 1)
        ∧ ∃ l row rule, d.found.shown d.client = some l ∧ row ∈ l.rows ∧ row.index = index
            ∧ d.found.rules[index - 1]? = some rule ∧ row.Shows rule

/-- The listing has a row with that number, and where the edits since have taken the rule of that
number, it stood before. -/
def Listing.Standing (l : Listing) (log : List (Edit FirewallRule)) (index : Nat) : Prop :=
  (∃ row ∈ l.rows, row.index = index) ∧ moveAll (log.drop l.seen) (index - 1) = some (index - 1)

/-- If there is a rule at the index, the client's listing shows one there and it still stands: what
was entered and what was erased before it since the listing add up to no shift. -/
def Deletion.Standing (d : Deletion C) : Prop :=
  ∀ index, deleteIndex d.param = .ok index → index ≤ 9999 → d.runs = true →
    index ≤ d.found.rules.length →
      ∃ l, d.found.shown d.client = some l ∧ l.Standing d.found.log index.toNat

variable {rules : List FirewallRule} {s : Firewall C} {d : Deletion C}

/-- Every deletion of a run finds a firewall that keeps to the history. -/
theorem Firewall.Kept.deletions {run : List (FirewallEvent C)} (h : s.Kept rules)
    (hd : d ∈ s.deletions run) : d.found.Kept rules := by
  induction run generalizing s with
  | nil => cases hd
  | cons e run ih =>
      have hnext := h.step e
      cases e with
      | delete c param runs =>
          rcases List.mem_cons.mp hd with rfl | hd
          · exact h
          · exact ih hnext hd
      | status c => exact ih hnext hd
      | receive i => exact ih hnext hd
      | add edits => exact ih hnext hd
      | enable => exact ih hnext hd
      | disable => exact ih hnext hd

/-- A row of a listing shows a rule of the list that was listed, from which the edits since have
made the list of now. -/
theorem Listing.Saw.row {log : List (Edit FirewallRule)} {l : Listing} (h : l.Saw rules log)
    {row : UFWRule} (hrow : row ∈ l.rows) {n : Nat} (hindex : row.index = n) :
    ∃ rule, (applyAll (log.take l.seen) rules)[n - 1]? = some rule ∧ row.Shows rule
      ∧ applyAll log rules = applyAll (log.drop l.seen) (applyAll (log.take l.seen) rules) := by
  obtain ⟨_, active, hrows⟩ := h
  rw [hrows] at hrow
  obtain ⟨i, rule, hrule, hi, hshows⟩ := rule_of_mem_statusRows hrow
  have hn : n - 1 = i := by omega
  refine ⟨rule, by rw [hn]; exact hrule, hshows, ?_⟩
  rw [← applyAll_append, List.take_append_drop]

omit [DecidableEq C] in
/-- A listed rule that stands where it did is the one that is removed. -/
theorem Deletion.right_of_standing (h : d.found.Kept rules) (hstanding : d.Standing) : d.Right := by
  unfold Deletion.Right
  rcases d.found.deleteRule_cases d.param d.runs with
    ⟨_, hrefused, _⟩ | ⟨n, hindex, hpos, hmax, hruns, hn, hdone⟩
  · rw [hrefused]
  · rw [hdone]
    obtain ⟨l, hshown, ⟨row, hrow, hnumber⟩, hmove⟩ :=
      hstanding n hindex (by omega) hruns (by omega)
    rw [Int.toNat_natCast] at hnumber hmove
    -- the list of now is the listed one after the edits since, which leave the rule in place
    obtain ⟨rule, hrule, hshows, hnow⟩ := (h.shown d.client l hshown).row hrow hnumber
    refine ⟨rfl, l, row, rule, hshown, hrow, hnumber, ?_, hshows⟩
    rw [h.history, hnow]
    exact getElem?_applyAll hrule hmove

omit [DecidableEq C] in
/-- If another rule stands there, and no rule was entered twice, the wrong one is removed. -/
theorem Deletion.standing_of_right (h : d.found.Kept rules)
    (honce : (rules ++ enteredBy d.found.log).Nodup) (hright : d.Right) : d.Standing := by
  intro index hindex hmax hruns hlen
  unfold Deletion.Right at hright
  rcases d.found.deleteRule_cases d.param d.runs with
    ⟨_, _, hrefused⟩ | ⟨n, hindex', _, _, _, _, hdone⟩
  · exact absurd hlen (Int.not_le.mpr (hrefused index hindex hmax hruns))
  · rw [hdone] at hright
    obtain ⟨_, l, row, rule, hshown, hrow, hnumber, hrule, hshows⟩ := hright
    cases hindex.symm.trans hindex'
    obtain ⟨listed, hlisted, hshows', hnow⟩ := (h.shown d.client l hshown).row hrow hnumber
    -- the columns of the row belong to one rule
    cases hshows.unique hshows'
    refine ⟨l, hshown, ⟨row, hrow, hnumber⟩, ?_⟩
    rw [h.history, hnow] at hrule
    -- split the history at the listing: its rules are distinct, so the rule marks its place
    rw [← List.take_append_drop l.seen d.found.log] at honce
    exact moveAll_of_getElem? (nodup_applyAll honce) hlisted hrule

/-- **DELETION BY NUMBER**: in every run, a deletion removes the rule that its client has seen, or
fails, if the client's listing shows a rule at the index that still stands there; and only if, in
a run in which no rule is entered twice. -/
theorem deletions_remove_listed (active : Bool) (run : List (FirewallEvent C))
    (hd : d ∈ (Firewall.start rules active).deletions run) :
    (d.Standing → d.Right) ∧ ((rules ++ enteredBy d.found.log).Nodup → d.Right → d.Standing) :=
  have hkept := (Firewall.kept_start active).deletions hd
  ⟨Deletion.right_of_standing hkept, Deletion.standing_of_right hkept⟩

end Deletions

/-- A rule that lets everyone in. -/
def allowIn (text : List Char) (h : text ≠ [] ∧ '\n' ∉ text ∧ Trimmed isSpace text
    ∧ SingleSpaced text) : FirewallRule where
  «to» := ⟨⟨text, h.1, h.2.1, h.2.2.1⟩, h.2.2.2⟩
  verdict := .allow
  direction := .incoming
  «from» := ⟨⟨"Anywhere".toList, by decide, by decide, by decide⟩, by decide⟩

def threeRules : List FirewallRule :=
  [allowIn "22/tcp".toList (by decide), allowIn "80/tcp".toList (by decide),
    allowIn "443/tcp".toList (by decide)]

/-- Two operators have listed three rules. -/
def listedTwice : Firewall Bool :=
  (Firewall.start threeRules true).run [.status true, .status false, .receive 0, .receive 0]

/-- One of them deletes the first rule, -/
def firstDeletion : Deletion Bool := ⟨listedTwice, true, "1", true⟩

/-- and the other then the second. -/
def secondDeletion : Deletion Bool :=
  ⟨listedTwice.step (.delete true "1" true), false, "2", true⟩

def twoDeletions : List (FirewallEvent Bool) :=
  [.status true, .status false, .receive 0, .receive 0, .delete true "1" true,
    .delete false "2" true]

/-- What both of them see. -/
theorem statusRows_threeRules :
    statusRows true threeRules
      = [⟨1, "22/tcp".toList, "ALLOW IN".toList, "Anywhere".toList⟩,
        ⟨2, "80/tcp".toList, "ALLOW IN".toList, "Anywhere".toList⟩,
        ⟨3, "443/tcp".toList, "ALLOW IN".toList, "Anywhere".toList⟩] := by
  rw [statusRows_active]
  decide +kernel

/-- The first removes the rule that was listed, -/
theorem deletions_remove_listed_of_first : firstDeletion.Right := by
  have hmem : firstDeletion ∈ (Firewall.start threeRules true).deletions twoDeletions :=
    List.mem_cons_self
  apply (deletions_remove_listed true twoDeletions hmem).1
  intro index hindex _ _ _
  have hone : deleteIndex firstDeletion.param = .ok 1 := by decide +kernel
  cases hindex.symm.trans hone
  refine ⟨⟨statusRows true threeRules, 0⟩, rfl, ?_, rfl⟩
  rw [statusRows_threeRules]
  exact ⟨_, List.mem_cons_self, rfl⟩

/-- and the second, of the rule `80/tcp` of its listing, does not. -/
theorem deletes_another_rule :
    secondDeletion ∈ (Firewall.start threeRules true).deletions twoDeletions
      ∧ (∃ l row, secondDeletion.found.shown secondDeletion.client = some l ∧ row ∈ l.rows
        ∧ row.index = 2 ∧ row.to = "80/tcp".toList)
      ∧ ¬ secondDeletion.Right := by
  refine ⟨List.mem_cons_of_mem _ List.mem_cons_self, ?_, ?_⟩
  · refine ⟨⟨statusRows true threeRules, 0⟩,
      ⟨2, "80/tcp".toList, "ALLOW IN".toList, "Anywhere".toList⟩, rfl, ?_, rfl, rfl⟩
    rw [statusRows_threeRules]
    exact List.mem_cons_of_mem _ List.mem_cons_self
  · rintro ⟨_, l, row, rule, hshown, hrow, hnumber, hrule, hshows⟩
    cases hshown
    -- the row is that of `80/tcp`, the rule at its number by now is `443/tcp`
    obtain ⟨i, listed, hlisted, hi, hshows'⟩ := rule_of_mem_statusRows hrow
    cases hshows.unique hshows'
    have htwo : row.index = ((2 : Nat) : Int) := hnumber
    have hone : i = 1 := by omega
    subst hone
    cases hlisted
    cases hrule

end ControlRoom
