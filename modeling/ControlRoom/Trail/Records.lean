/-
  ControlRoom.Trail.Records
  ─────────────────────────
  **WHAT A REQUEST LEAVES IN THE AUDIT LOG** (`docs/SECURITY.md`, Audit).

  A request that changes users or sessions, or attempts an operation on the
  host or the cluster, should leave one row, which says how it went and who
  sent it.  The handlers of the host and the cluster do so always.

    §1  complete trails,
    §2  the host and the cluster.
-/
import ControlRoom.Trail.Operations

namespace ControlRoom

/-! ## §1. Complete trails. -/

/-- What a row says of a request. -/
structure Noted where
  outcome : String
  userID : Option Nat
  deriving DecidableEq

def AuditRow.noted (r : AuditRow) : Noted := ⟨r.outcome, r.userID⟩

/-- What a request has left: whether users or sessions have changed, the writes and operations
that it attempted, its rows, the user who is known to have sent it, and whether it starts a job. -/
structure Trail where
  changed : Prop
  attempts : List Bool
  rows : List Noted
  actor : Option Nat
  job : Bool

/-- A request that has done something has one row, with the outcome and the user. -/
def Trail.Complete (t : Trail) : Prop :=
  t.changed ∨ t.attempts ≠ [] →
    ∃ row, t.rows = [row]
      ∧ (if t.job = true then row.outcome = "started"
          else (row.outcome = "success" ↔ ∀ ok ∈ t.attempts, ok = true))
      ∧ ∀ id ∈ t.actor, row.userID = some id

section Complete

variable {t : Trail}

theorem Trail.complete_of_idle (hchanged : ¬ t.changed) (h : t.attempts = []) : t.Complete := by
  rintro (hc | ha)
  · exact absurd hc hchanged
  · exact absurd h ha

theorem Trail.not_complete_of_no_row (h : t.attempts ≠ []) (hrows : t.rows = []) :
    ¬ t.Complete := by
  intro hcomplete
  obtain ⟨row, hrow, _⟩ := hcomplete (Or.inr h)
  rw [hrows] at hrow
  cases hrow

theorem Trail.not_complete_of_anonymous {row : Noted} {id : Nat} (h : t.attempts ≠ [])
    (hrows : t.rows = [row]) (hactor : t.actor = some id) (hrow : row.userID = none) :
    ¬ t.Complete := by
  intro hcomplete
  obtain ⟨row', hrow', _, huser⟩ := hcomplete (Or.inr h)
  rw [hrows] at hrow'
  cases hrow'
  have hnone := huser id hactor
  rw [hrow] at hnone
  cases hnone

/-- For one row, what is to be shown of it. -/
theorem Trail.complete_iff {row : Noted} (h : t.attempts ≠ []) (hrows : t.rows = [row])
    (hjob : t.job = false) (huser : ∀ id ∈ t.actor, row.userID = some id) :
    t.Complete ↔ (row.outcome = "success" ↔ ∀ ok ∈ t.attempts, ok = true) := by
  constructor
  · intro hcomplete
    obtain ⟨row', hrow', houtcome, _⟩ := hcomplete (Or.inr h)
    rw [hrows] at hrow'
    cases hrow'
    rwa [hjob, if_neg Bool.false_ne_true] at houtcome
  · intro houtcome _
    refine ⟨row, hrows, ?_, huser⟩
    rwa [hjob, if_neg Bool.false_ne_true]

end Complete

/-! ## §2. The host and the cluster. -/

def HostRun.trail {α : Type} (run : HostRun α) (userID : Nat) (job : Bool) : Trail where
  changed := False
  attempts := run.attempts
  rows := run.rows.map AuditRow.noted
  actor := some userID
  job := job

section Host

variable (c : ManifestClient) (hid : 0 < c.userID)

include hid

/-- **The shape of the handlers is complete.** -/
theorem operate_complete {ε β : Type} (checked : Except HTTPError (HostOperation ε β))
    (result : Except ε β) : ((operate c checked result).trail c.userID false).Complete := by
  have huser : ∀ id ∈ some c.userID, (if 0 < c.userID then some c.userID else none) = some id := by
    rintro id ⟨⟩
    exact if_pos hid
  cases checked with
  | error err => exact Trail.complete_of_idle not_false rfl
  | ok op =>
      cases result with
      | error err =>
          apply (Trail.complete_iff (List.cons_ne_nil _ _) rfl rfl huser).mpr
          simp [HostOperation.row, writeAudit, AuditRow.noted, operate, HostRun.trail]
      | ok out =>
          apply (Trail.complete_iff (List.cons_ne_nil _ _) rfl rfl huser).mpr
          simp [HostOperation.row, writeAudit, AuditRow.noted, operate, HostRun.trail]

theorem updatesHandler_complete (r : Runner) (order : List Nat) (id : String)
    (request : UpdatesRequest) :
    ((updatesHandler c r order id request).trail c.userID true).Complete := by
  unfold updatesHandler
  rcases r.enter_cases order request with hrun | ⟨answer, hanswered⟩
  · rw [hrun]
    intro _
    refine ⟨_, rfl, rfl, ?_⟩
    rintro uid ⟨⟩
    exact if_pos hid
  · rw [hanswered]
    exact Trail.complete_of_idle not_false rfl

end Host

/-- The requests that operate on the host or the cluster, with what the operation returns. -/
inductive HostRequest
  | service (client : Bool) (action unit : String) (result : Except String Unit)
  | container (client : Bool) (action id : String) (result : Except String Unit)
  | removeContainer (client : Bool) (id : String) (force : Bool) (result : Except String Unit)
  | addRule (body : Option AddRuleSpec) (result : Except String Unit)
  | deleteRule (param : String) (result : Except String Unit)
  | enableFirewall (result : Except String Unit)
  | disableFirewall (result : Except String Unit)
  | updateConfigMap (client : Bool) (order : List Entry) (key : ObjectKey)
      (body : Option (Option StringMap)) (result : Except ApiError Unit)
  | restartWorkload (client : Bool) (ns kind name : String) (result : Except String Unit)
  | scaleWorkload (client : Bool) (ns kind name : String) (body : Option (Option Int))
      (result : Except String Int)
  | deletePod (client : Bool) (ns name : String) (force : Bool) (grace : Option (Option Int))
      (result : Except String Unit)
  | cordonNode (client : Bool) (name : String) (body : Option (Option Bool))
      (result : Except String Unit)
  | applyManifest (client : Bool) (body : Option ApplyReq)
      (result : Except ManifestErr (String × List String))
  | job (r : Runner) (order : List Nat) (id : String) (request : UpdatesRequest)

/-- What the handler of the request leaves. -/
def HostRequest.trail {Obj : Type} (L : ManifestLib Obj) (c : ManifestClient) :
    HostRequest → Trail
  | .service client action unit result =>
      (servicesActionHandler c client action unit result).trail c.userID false
  | .container client action id result =>
      (containersActionHandler c client action id result).trail c.userID false
  | .removeContainer client id force result =>
      (containersRemoveHandler c client id force result).trail c.userID false
  | .addRule body result => (ControlRoom.addRule c body result).trail c.userID false
  | .deleteRule param result => (ControlRoom.deleteRule c param result).trail c.userID false
  | .enableFirewall result => (ControlRoom.enableFirewall c result).trail c.userID false
  | .disableFirewall result => (ControlRoom.disableFirewall c result).trail c.userID false
  | .updateConfigMap client order key body result =>
      (updateConfigMapHandler c L client order key body result).trail c.userID false
  | .restartWorkload client ns kind name result =>
      (restartWorkloadHandler c L client ns kind name result).trail c.userID false
  | .scaleWorkload client ns kind name body result =>
      (scaleWorkloadHandler c L client ns kind name body result).trail c.userID false
  | .deletePod client ns name force grace result =>
      (deletePodHandler c client ns name force grace result).trail c.userID false
  | .cordonNode client name body result =>
      (cordonNodeHandler c client name body result).trail c.userID false
  | .applyManifest client body result =>
      (applyManifestRun c L client body result).trail c.userID false
  | .job r order id request => (updatesHandler c r order id request).trail c.userID true

theorem HostRequest.complete {Obj : Type} (L : ManifestLib Obj) (c : ManifestClient)
    (hid : 0 < c.userID) (op : HostRequest) : (op.trail L c).Complete := by
  cases op with
  | job r order id request => exact updatesHandler_complete c hid r order id request
  | _ => exact operate_complete c hid _ _

end ControlRoom
