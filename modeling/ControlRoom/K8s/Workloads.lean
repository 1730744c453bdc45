/-
  ControlRoom.K8s.Workloads
  ─────────────────────────
  **RESTART, SCALE AND CORDON ON A SHARED CLUSTER** (`internal/k8s/actions.go`,
  the write handlers of `internal/api/k8s/k8s.go`).

  A restart and a cordon are merge patches, one call each; a scale reads the
  scale subresource and writes it back with its version.  Between the calls
  other administrators and controllers write to the same objects.

  An object is the tree of its fields, without what the API server manages
  itself (generation, managed fields, status); a field that the wire form
  leaves out because it is empty stands in it with its empty value.  Admission
  webhooks that rewrite an object are left out.

    §1  objects and the calls of the API server,
    §2  `actions.go`,
    §3  administrators and other writers, one call at a time,
    §4  what a request asks for,
    §5  what every step keeps, and the theorem.
-/
import ControlRoom.Foundation.EventRuns
import ControlRoom.Foundation.MergePatch
import ControlRoom.Logs.Journal
import ControlRoom.Trail.Operations

namespace ControlRoom

open Foundation

/-! ## §1. The API server. -/

/-- The kinds of objects that the handlers write. -/
inductive KubeKind
  | deployment
  | statefulset
  | daemonset
  | node
  deriving DecidableEq, Repr

structure KubeKey where
  kind : KubeKind
  ns : String
  name : String
  deriving DecidableEq, Repr

/-- `spec.template.metadata.annotations["kubectl.kubernetes.io/restartedAt"]`. -/
def restartPath : List String :=
  ["spec", "template", "metadata", "annotations", "kubectl.kubernetes.io/restartedAt"]

/-- `spec.replicas`. -/
def replicasPath : List String := ["spec", "replicas"]

/-- `spec.unschedulable`. -/
def unschedulablePath : List String := ["spec", "unschedulable"]

/-- The fields that are written. -/
def writtenPaths : List (List String) := [restartPath, replicasPath, unschedulablePath]

/-- An object; the types of the API have no arrays on the way to the written fields. -/
structure KubeObject where
  doc : Json Int
  opens : ∀ ks ∈ writtenPaths, doc.Opens ks

/-- A value for one field of one object. -/
structure FieldWrite where
  key : KubeKey
  path : List String
  written : path ∈ writtenPaths
  value : Json Int
  leaf : value.isLeaf = true

/-- The objects of the API server, with their resourceVersions. -/
abbrev KubeStore := Versioned KubeKey KubeObject

/-- The object with the value merged into it. -/
def KubeObject.merge (obj : KubeObject) (fw : FieldWrite) : KubeObject where
  doc := obj.doc.mergePatch (.onePath fw.value fw.path)
  opens := fun ks hks => (obj.opens ks hks).onePath fw.leaf fw.path

/-- The value stands in the field already. -/
def KubeObject.has (obj : KubeObject) (fw : FieldWrite) : Bool :=
  decide (obj.doc.headAt (fw.path.map .key) = some fw.value.head)

/-- What the API server makes of the object; a write that changes nothing is none. -/
def KubeObject.updated (obj : KubeObject) (fw : FieldWrite) : KubeObject :=
  if obj.has fw then obj else obj.merge fw

/-- What the API server stores. -/
def KubeStore.merge (s : KubeStore) (obj : KubeObject) (fw : FieldWrite) : KubeStore :=
  if obj.has fw then s else s.put fw.key (obj.merge fw)

/-- `Spec.Replicas` of the scale of the object. -/
def KubeObject.replicas (obj : KubeObject) : Int :=
  match obj.doc.headAt (replicasPath.map .key) with
  | some (.num n) => n
  | _ => 0

/-- What happens to a call on its way: the API server refuses it, or its answer is lost. -/
structure KubeFaults where
  refuse : Option ApiError
  lost : Option ApiError

/-- The answer to a call that has been carried out. -/
def KubeFaults.answer {α : Type} (f : KubeFaults) (a : α) : Except ApiError α :=
  match f.lost with
  | some err => .error err
  | none => .ok a

def kubeNotFound : ApiError := ⟨.notFound, "not found"⟩

/-- `Patch` with `types.MergePatchType`. -/
def KubeStore.patch (s : KubeStore) (f : KubeFaults) (fw : FieldWrite) :
    KubeStore × Except ApiError Unit :=
  match f.refuse with
  | some err => (s, .error err)
  | none =>
      match s.get fw.key with
      | none => (s, .error kubeNotFound)
      | some (obj, _) => (s.merge obj fw, f.answer ())

/-- `GetScale`. -/
def KubeStore.getScale (s : KubeStore) (f : KubeFaults) (key : KubeKey) :
    Except ApiError (KubeObject × Nat) :=
  match f.refuse with
  | some err => .error err
  | none =>
      match s.get key with
      | none => .error kubeNotFound
      | some got => f.answer got

/-- `UpdateScale` of a scale that was read with the version `n`; the answer is the object as it
is then. -/
def KubeStore.updateScale (s : KubeStore) (f : KubeFaults) (fw : FieldWrite) (n : Nat) :
    KubeStore × Except ApiError KubeObject :=
  match f.refuse with
  | some err => (s, .error err)
  | none =>
      match s.get fw.key with
      | none => (s, .error kubeNotFound)
      | some (obj, m) =>
          if n = m then (s.merge obj fw, f.answer (obj.updated fw))
          else (s, .error ⟨.conflict, "the object has been modified"⟩)

/-! ## §2. `actions.go`. -/

section Actions

variable {Obj : Type} (L : ManifestLib Obj)

/-- The kinds that `RestartWorkload` knows. -/
def restartKinds : List (String × KubeKind) :=
  [("deployment", .deployment), ("statefulset", .statefulset), ("daemonset", .daemonset)]

/-- The kinds that `ScaleWorkload` knows. -/
def scaleKinds : List (String × KubeKind) :=
  [("deployment", .deployment), ("statefulset", .statefulset)]

/-- What a method of the client does first: an error of its own, a patch, or the two calls
of a scale. -/
inductive ClientCall
  | unknown (err : String)
  | patch (fw : FieldWrite)
  | scale (fw : FieldWrite)

/-- `RestartWorkload`. -/
def RestartWorkload (now : Time) (ns kind name : String) : ClientCall :=
  match restartKinds.lookup (L.toLower kind) with
  | none => .unknown ("unknown workload kind: " ++ kind)
  | some k =>
      .patch {
        key := ⟨k, ns, name⟩
        path := restartPath
        written := by simp [writtenPaths]
        value := .str (formatRFC3339 (now.ns / second : Nat) 0)
        leaf := rfl }

/-- `ScaleWorkload`. -/
def ScaleWorkload (ns kind name : String) (replicas : Int) : ClientCall :=
  match scaleKinds.lookup (L.toLower kind) with
  | none => .unknown ("unknown or unscalable workload kind: " ++ kind)
  | some k =>
      .scale {
        key := ⟨k, ns, name⟩
        path := replicasPath
        written := by simp [writtenPaths]
        value := .num replicas
        leaf := rfl }

/-- `CordonNode`. -/
def CordonNode (name : String) (cordoned : Bool) : ClientCall :=
  .patch {
    key := ⟨.node, "", name⟩
    path := unschedulablePath
    written := by simp [writtenPaths]
    value := .bool cordoned
    leaf := rfl }

/-! ## §3. Administrators and other writers. -/

/-- A request to one of the three handlers, with what its body parses to. -/
inductive KubeReq
  | restart (ns kind name : String)
  | scale (ns kind name : String) (body : Option (Option Int))
  | cordon (name : String) (body : Option (Option Bool))
  deriving DecidableEq

/-- The handler of the request; the result is that of its client's method. -/
def KubeReq.handle (client : Bool) (c : ManifestClient) (result : Except String Int) :
    KubeReq → HostRun (Except HTTPError Reply)
  | .restart ns kind name =>
      restartWorkloadHandler c L client ns kind name (result.map fun _ => ())
  | .scale ns kind name body => scaleWorkloadHandler c L client ns kind name body result
  | .cordon name body => cordonNodeHandler c client name body (result.map fun _ => ())

/-- The checks of the handler let the request through to the client. -/
def KubeReq.passes (client : Bool) (c : ManifestClient) (req : KubeReq) : Bool :=
  decide ((req.handle L client c (.error "")).attempts ≠ [])

/-- The call of the client that the handler makes, with its arguments. -/
def KubeReq.call (now : Time) : KubeReq → ClientCall
  | .restart ns kind name => RestartWorkload L now ns (L.toLower kind) name
  | .scale ns kind name body => ScaleWorkload L ns (L.toLower kind) name (body.join.getD 0)
  | .cordon name body => CordonNode name (body.join.getD false)

/-- What the client's method returns once its last call is answered. -/
def clientResult {α : Type} (count : α → Int) : Except ApiError α → Except String Int
  | .error err => .error err.message
  | .ok a => .ok (count a)

/-- Where a request stands; `got` is what `GetScale` has returned. -/
inductive KubePC
  | idle
  | call (req : KubeReq)
  | update (req : KubeReq) (fw : FieldWrite) (got : KubeObject × Nat)

/-- An administrator and the request of theirs that is under way. -/
structure KubeAdmin where
  userID : Nat
  ip : String
  pc : KubePC

/-- A request that has been answered; `read` is what its `GetScale` has returned. -/
structure OkReply where
  req : KubeReq
  now : Time
  read : Option (KubeObject × Nat)
  answer : Except HTTPError Reply

/-- A step that may have changed the cluster: the request that it answers, if it is one. -/
structure KubeChange where
  served : Option OkReply
  before : KubeStore
  after : KubeStore

/-- The API server and the audit log.  The ledger is history. -/
structure KubeWorld where
  cluster : KubeStore
  audit : List AuditRow
  ledger : List KubeChange

/-- What happens next at a party. -/
inductive KubeAct
  | send (req : KubeReq)
  | next
  | write (key : KubeKey) (obj : KubeObject)
  | delete (key : KubeKey)

/-- What the outside decides in one step: the clock, what happens, and the faults. -/
structure KubeEnv where
  now : Time
  act : KubeAct
  faults : KubeFaults

/-- The step changes the cluster, in favour of no request of ours. -/
def KubeWorld.change (w : KubeWorld) (cluster : KubeStore) : KubeWorld :=
  { w with cluster := cluster, ledger := w.ledger ++ [⟨none, w.cluster, cluster⟩] }

/-- The handler writes its row and answers. -/
def KubeWorld.answer (w : KubeWorld) (cluster : KubeStore) (req : KubeReq) (now : Time)
    (read : Option (KubeObject × Nat)) (run : HostRun (Except HTTPError Reply)) : KubeWorld where
  cluster := cluster
  audit := w.audit ++ run.rows
  ledger := w.ledger ++ [⟨some ⟨req, now, read, run.answer⟩, w.cluster, cluster⟩]

section Machine

variable (client : Bool)

/-- The next step of a request. -/
def KubeWorld.serve (e : KubeEnv) (w : KubeWorld) (userID : Nat) (ip : String) :
    KubePC → Option (KubeWorld × KubePC)
  | .idle => none
  | .call req =>
      let handle := fun result => req.handle L client ⟨e.now, userID, ip⟩ result
      if req.passes L client ⟨e.now, userID, ip⟩ = false then
        some (w.answer w.cluster req e.now none (handle (.error "")), .idle)
      else
        match req.call L e.now with
        | .unknown err => some (w.answer w.cluster req e.now none (handle (.error err)), .idle)
        | .patch fw =>
            let (cluster, answer) := w.cluster.patch e.faults fw
            -- a patch returns no count
            let result := clientResult (fun _ => 0) answer
            some (w.answer cluster req e.now none (handle result), .idle)
        | .scale fw =>
            match w.cluster.getScale e.faults fw.key with
            | .error err =>
                some (w.answer w.cluster req e.now none (handle (.error err.message)), .idle)
            | .ok got => some (w, .update req fw got)
  | .update req fw got =>
      let (cluster, answer) := w.cluster.updateScale e.faults fw got.2
      let result := clientResult KubeObject.replicas answer
      some (w.answer cluster req e.now (some got)
        (req.handle L client ⟨e.now, userID, ip⟩ result), .idle)

/-- The parties: administrators, and whoever else writes to the API server. -/
inductive KubeParty
  | admin (a : KubeAdmin)
  | writer

def KubeParty.step (e : KubeEnv) (w : KubeWorld) : KubeParty → Option (KubeWorld × KubeParty)
  | .admin a =>
      match e.act with
      | .send req =>
          match a.pc with
          | .idle => some (w, .admin { a with pc := .call req })
          | _ => none
      | .next =>
          (w.serve L client e a.userID a.ip a.pc).map fun r => (r.1, .admin { a with pc := r.2 })
      | _ => none
  | .writer =>
      match e.act with
      | .write key obj => some (w.change (w.cluster.put key obj), .writer)
      | .delete key => some (w.change (w.cluster.delete key), .writer)
      | _ => none

/-- The machine of the cluster's administrators. -/
def kubeMachine : Machine KubeEnv KubeWorld KubeParty where
  admits := fun _ _ => True
  step := KubeParty.step L client

instance (e : KubeEnv) (w : KubeWorld) : Decidable ((kubeMachine L client).admits e w) :=
  inferInstanceAs (Decidable True)

end Machine

/-! ## §4. What a request asks for. -/

def KubeReq.isScale : KubeReq → Bool
  | .scale _ _ _ _ => true
  | _ => false

/-- What a request asks for when it is carried out at the time `now`. -/
def KubeReq.Asks (now : Time) (fw : FieldWrite) : KubeReq → Prop
  | .restart ns kind name =>
      validK8sName ns = true ∧ validK8sName name = true
        ∧ (∃ k, restartKinds.lookup (L.toLower kind) = some k ∧ fw.key = ⟨k, ns, name⟩)
        ∧ fw.path = restartPath ∧ fw.value = .str (formatRFC3339 (now.ns / second : Nat) 0)
  | .scale ns kind name body =>
      validK8sName ns = true ∧ validK8sName name = true
        ∧ (∃ k, scaleKinds.lookup (L.toLower kind) = some k ∧ fw.key = ⟨k, ns, name⟩)
        ∧ fw.path = replicasPath
        ∧ ∃ n, body = some (some n) ∧ 0 ≤ n ∧ n ≤ 1000 ∧ fw.value = .num n
  | .cordon name body =>
      validK8sName name = true ∧ fw.key = ⟨.node, "", name⟩ ∧ fw.path = unschedulablePath
        ∧ ∃ b, body = some (some b) ∧ fw.value = .bool b

section Requests

variable {L} {client : Bool} {c : ManifestClient} {req : KubeReq} {now : Time} {fw : FieldWrite}

theorem operate_passed {ε β : Type} {checked : Except HTTPError (HostOperation ε β)}
    {result : Except ε β} (h : (operate c checked result).attempts ≠ []) :
    ∃ op, checked = .ok op ∧ ∀ out, (operate c checked (.ok out)).answer = .ok (op.reply out) := by
  cases checked with
  | error err => exact absurd rfl h
  | ok op => exact ⟨op, rfl, fun _ => rfl⟩

theorem operate_answered {ε β : Type} {checked : Except HTTPError (HostOperation ε β)}
    {result : Except ε β} {reply : Reply} (h : (operate c checked result).answer = .ok reply) :
    (operate c checked result).attempts ≠ [] := by
  cases checked with
  | error err => cases h
  | ok op =>
      cases result with
      | error err => cases h
      | ok out => exact List.cons_ne_nil _ _

theorem operate_failed {ε β : Type} (checked : Except HTTPError (HostOperation ε β)) (err : ε) :
    ∃ err', (operate c checked (.error err)).answer = .error err' := by
  cases checked with
  | error err' => exact ⟨err', rfl⟩
  | ok op => exact ⟨op.failure err, rfl⟩

/-- A handler whose client fails answers with an error. -/
theorem KubeReq.handle_failed (req : KubeReq) (err : String) :
    ∃ err', (req.handle L client c (.error err)).answer = .error err' := by
  cases req with
  | restart ns kind name => exact operate_failed _ err
  | scale ns kind name body => exact operate_failed _ err
  | cordon name body => exact operate_failed _ err

theorem restart_passed {ns kind name : String} {result : Except String Unit}
    (h : (restartWorkloadHandler c L client ns kind name result).attempts ≠ []) :
    validK8sName ns = true ∧ validK8sName name = true
      ∧ ∀ out, (restartWorkloadHandler c L client ns kind name (.ok out)).answer
        = .ok [("ok", .flag true), ("message", .text "rollout restarted")] := by
  obtain ⟨op, hop, hreply⟩ := operate_passed h
  split at hop
  · cases hop
  split at hop
  · cases hop
  next hns =>
  split at hop
  · cases hop
  split at hop
  · cases hop
  next hname =>
    cases hop
    exact ⟨by simpa using hns, by simpa using hname, hreply⟩

theorem scale_passed {ns kind name : String} {body : Option (Option Int)}
    {result : Except String Int}
    (h : (scaleWorkloadHandler c L client ns kind name body result).attempts ≠ []) :
    validK8sName ns = true ∧ validK8sName name = true
      ∧ (∃ n, body = some (some n) ∧ 0 ≤ n ∧ n ≤ 1000)
      ∧ ∀ out, (scaleWorkloadHandler c L client ns kind name body (.ok out)).answer
        = .ok [("ok", .flag true), ("replicas", .int out)] := by
  obtain ⟨op, hop, hreply⟩ := operate_passed h
  split at hop
  · cases hop
  split at hop
  · cases hop
  next hns =>
  split at hop
  · cases hop
  split at hop
  · cases hop
  split at hop
  · cases hop
  next hname =>
  split at hop
  · cases hop
  · cases hop
  · next n =>
    split at hop
    · cases hop
    · next hrange =>
      cases hop
      refine ⟨by simpa using hns, by simpa using hname, ⟨n, rfl, ?_, ?_⟩, hreply⟩
      · omega
      · omega

theorem cordon_passed {name : String} {body : Option (Option Bool)} {result : Except String Unit}
    (h : (cordonNodeHandler c client name body result).attempts ≠ []) :
    validK8sName name = true
      ∧ ∃ b, body = some (some b) ∧ ∀ out, (cordonNodeHandler c client name body (.ok out)).answer
        = .ok [("ok", .flag true), ("cordoned", .flag b)] := by
  obtain ⟨op, hop, hreply⟩ := operate_passed h
  split at hop
  · cases hop
  split at hop
  · cases hop
  next hname =>
  split at hop
  · cases hop
  · cases hop
  · next b =>
    cases hop
    exact ⟨by simpa using hname, b, rfl, hreply⟩

/-- **The call of a request that has passed its checks** is what it asks for. -/
theorem KubeReq.call_asks (hL : L.Lawful) (hpass : req.passes L client c = true)
    (hcall : req.call L now = .patch fw ∨ req.call L now = .scale fw) : req.Asks L now fw := by
  have hpass := of_decide_eq_true hpass
  cases req with
  | restart ns kind name =>
      obtain ⟨hns, hname, _⟩ := restart_passed hpass
      simp only [call, RestartWorkload, hL.toLower_toLower] at hcall
      cases hk : restartKinds.lookup (L.toLower kind) with
      | none => simp [hk] at hcall
      | some k =>
          simp only [hk, ClientCall.patch.injEq, reduceCtorEq, or_false] at hcall
          rw [← hcall]
          exact ⟨hns, hname, ⟨k, hk, rfl⟩, rfl, rfl⟩
  | scale ns kind name body =>
      obtain ⟨hns, hname, ⟨n, rfl, hlow, hhigh⟩, _⟩ := scale_passed hpass
      simp only [call, ScaleWorkload, hL.toLower_toLower] at hcall
      cases hk : scaleKinds.lookup (L.toLower kind) with
      | none => simp [hk] at hcall
      | some k =>
          simp only [hk, ClientCall.scale.injEq, reduceCtorEq, false_or] at hcall
          rw [← hcall]
          exact ⟨hns, hname, ⟨k, hk, rfl⟩, rfl, n, rfl, hlow, hhigh, rfl⟩
  | cordon name body =>
      obtain ⟨hname, b, rfl, _⟩ := cordon_passed hpass
      simp only [call, CordonNode, ClientCall.patch.injEq, reduceCtorEq, or_false] at hcall
      rw [← hcall]
      exact ⟨hname, rfl, rfl, b, rfl, rfl⟩

/-- Only a scale makes two calls, and it always does. -/
theorem KubeReq.isScale_of_call (hcall : req.call L now = .scale fw) : req.isScale = true := by
  cases req with
  | scale ns kind name body => rfl
  | restart ns kind name =>
      simp only [call, RestartWorkload] at hcall
      split at hcall
      · cases hcall
      · cases hcall
  | cordon name body => cases hcall

theorem KubeReq.not_isScale_of_call (hcall : req.call L now = .patch fw) :
    req.isScale = false := by
  cases req with
  | scale ns kind name body =>
      simp only [call, ScaleWorkload] at hcall
      split at hcall
      · cases hcall
      · cases hcall
  | restart ns kind name => rfl
  | cordon name body => rfl

/-- The time matters for a restart only. -/
theorem KubeReq.Asks.at_any (h : req.Asks L now fw) (hscale : req.isScale = true) (t : Time) :
    req.Asks L t fw := by
  cases req with
  | scale ns kind name body => exact h
  | restart ns kind name => cases hscale
  | cordon name body => cases hscale

/-- An object with the value of a scale has its count. -/
theorem KubeReq.Asks.value_of_scale (h : req.Asks L now fw) (hscale : req.isScale = true)
    {obj : KubeObject} (hobj : obj.has fw = true) : fw.value = .num obj.replicas := by
  cases req with
  | scale ns kind name body =>
      obtain ⟨_, _, _, hpath, n, _, _, _, hvalue⟩ := h
      have hstored := of_decide_eq_true hobj
      rw [hpath, hvalue] at hstored
      unfold KubeObject.replicas
      rw [hstored, hvalue]
      rfl
  | restart ns kind name => cases hscale
  | cordon name body => cases hscale

/-- **The count in an answer** is the one that the client returned. -/
theorem KubeReq.handle_replicas {n m : Int} {reply : Reply}
    (h : (req.handle L client c (.ok n)).answer = .ok reply)
    (hm : ("replicas", .int m) ∈ reply) : req.isScale = true ∧ m = n := by
  cases req with
  | restart ns kind name =>
      obtain ⟨_, _, hreply⟩ := restart_passed (operate_answered h)
      cases h.symm.trans (hreply ())
      simp at hm
  | scale ns kind name body =>
      obtain ⟨_, _, _, hreply⟩ := scale_passed (operate_answered h)
      cases h.symm.trans (hreply n)
      exact ⟨rfl, by simpa using hm⟩
  | cordon name body =>
      obtain ⟨_, b, _, hreply⟩ := cordon_passed (operate_answered h)
      cases h.symm.trans (hreply ())
      simp at hm

end Requests

/-! ## §5. What every step keeps, and the theorem. -/

/-- From `s` to `s'` the value is set in its field, and nothing else changes. -/
structure FieldWrite.Done (fw : FieldWrite) (s s' : KubeStore) : Prop where
  field : ∃ obj n obj' n', s.get fw.key = some (obj, n) ∧ s'.get fw.key = some (obj', n')
    ∧ Json.SetsPath fw.path fw.value obj.doc obj'.doc
  others : ∀ key, key ≠ fw.key → s'.get key = s.get key

theorem KubeStore.merge_done {s : KubeStore} {fw : FieldWrite} {obj : KubeObject} {n : Nat}
    (h : s.get fw.key = some (obj, n)) : fw.Done s (s.merge obj fw) := by
  unfold merge
  split
  · next hhas =>
    have hset := Json.setsPath_self fw.leaf (of_decide_eq_true hhas)
    exact ⟨⟨obj, n, obj, n, h, h, hset⟩, fun _ _ => rfl⟩
  · have hset := Json.setsPath_mergePatch fw.leaf (obj.opens fw.path fw.written)
    exact ⟨⟨obj, n, obj.merge fw, _, h, Versioned.put_get_self, hset⟩,
      fun _ hne => Versioned.put_get_of_ne hne⟩

/-- The value stands in the object after the write. -/
theorem KubeObject.has_updated (obj : KubeObject) (fw : FieldWrite) :
    (obj.updated fw).has fw = true := by
  unfold updated
  split
  · next hhas => exact hhas
  · have hset := Json.setsPath_mergePatch fw.leaf (obj.opens fw.path fw.written)
    have hhead := hset.below []
    rw [List.append_nil] at hhead
    exact decide_eq_true hhead

theorem KubeFaults.answer_eq_ok {α : Type} {f : KubeFaults} {a b : α} (h : f.answer a = .ok b) :
    b = a := by
  unfold answer at h
  split at h
  · cases h
  · cases h
    rfl

theorem KubeStore.follows_merge (s : KubeStore) (obj : KubeObject) (fw : FieldWrite) :
    s.Follows (s.merge obj fw) := by
  unfold merge
  split
  · exact Versioned.Follows.refl s
  · exact Versioned.follows_put

/-- **What a patch can do**: nothing, and its answer is an error; or what it says. -/
theorem KubeStore.patch_cases (s : KubeStore) (f : KubeFaults) (fw : FieldWrite) :
    ((s.patch f fw).1 = s ∧ ∃ err, (s.patch f fw).2 = .error err)
      ∨ fw.Done s (s.patch f fw).1 := by
  unfold patch
  split
  · next err _ => exact .inl ⟨rfl, err, rfl⟩
  · split
    · exact .inl ⟨rfl, _, rfl⟩
    · next hget => exact .inr (merge_done hget)

theorem KubeStore.follows_patch (s : KubeStore) (f : KubeFaults) (fw : FieldWrite) :
    s.Follows (s.patch f fw).1 := by
  unfold patch
  split
  · exact Versioned.Follows.refl s
  · split
    · exact Versioned.Follows.refl s
    · exact follows_merge s _ fw

/-- **What an update of a scale can do**: the same, and only while the version is the one
that it names. -/
theorem KubeStore.updateScale_cases (s : KubeStore) (f : KubeFaults) (fw : FieldWrite) (n : Nat) :
    ((s.updateScale f fw n).1 = s ∧ ∃ err, (s.updateScale f fw n).2 = .error err)
      ∨ (fw.Done s (s.updateScale f fw n).1 ∧ (∃ obj, s.get fw.key = some (obj, n))
        ∧ ∀ obj, (s.updateScale f fw n).2 = .ok obj → obj.has fw = true) := by
  unfold updateScale
  split
  · next err _ => exact .inl ⟨rfl, err, rfl⟩
  · split
    · exact .inl ⟨rfl, _, rfl⟩
    · next obj m hget =>
      split
      · next hn =>
        refine .inr ⟨merge_done hget, ⟨obj, hn ▸ hget⟩, ?_⟩
        intro obj' hanswer
        rw [KubeFaults.answer_eq_ok hanswer]
        exact obj.has_updated fw
      · exact .inl ⟨rfl, _, rfl⟩

theorem KubeStore.getScale_ok {s : KubeStore} {f : KubeFaults} {key : KubeKey}
    {got : KubeObject × Nat} (h : s.getScale f key = .ok got) : s.get key = some got := by
  unfold getScale at h
  split at h
  · cases h
  · split at h
    · cases h
    · next hget => rw [KubeFaults.answer_eq_ok h, hget]

theorem KubeStore.follows_updateScale (s : KubeStore) (f : KubeFaults) (fw : FieldWrite) (n : Nat) :
    s.Follows (s.updateScale f fw n).1 := by
  unfold updateScale
  split
  · exact Versioned.Follows.refl s
  · split
    · exact Versioned.Follows.refl s
    · split
      · exact follows_merge s _ fw
      · exact Versioned.Follows.refl s

/-- The change carries out what the request asks for; what a scale has read is what it
overwrites. -/
structure KubeChange.CarriesOut (ch : KubeChange) (r : OkReply) (fw : FieldWrite) : Prop where
  asked : r.req.Asks L r.now fw
  done : fw.Done ch.before ch.after
  seen : r.req.isScale = true → r.read = ch.before.get fw.key
  told : ∀ reply n, r.answer = .ok reply → ("replicas", .int n) ∈ reply → fw.value = .num n

/-- A request that is answered has changed nothing and failed, or has been carried out. -/
def KubeChange.Sound (ch : KubeChange) : Prop :=
  ∀ r, ch.served = some r →
    (ch.after = ch.before ∧ ∃ err, r.answer = .error err) ∨ ∃ fw, ch.CarriesOut L r fw

/-- What a request carries along: the scale that it is about to write, and the object
that it has read. -/
def KubePC.Sound (s : KubeStore) : KubePC → Prop
  | .idle => True
  | .call _ => True
  | .update req fw got =>
      req.isScale = true ∧ (∀ t, req.Asks L t fw) ∧ s.Recalls fw.key got.1 got.2

/-- What holds of the shared state: the ledger leads from `s` to the present. -/
structure KubeWorld.Sound (s : KubeStore) (w : KubeWorld) : Prop where
  linked : Chained KubeChange.before KubeChange.after s w.ledger w.cluster
  changes : ∀ ch ∈ w.ledger, ch.Sound L

section Keeps

variable {L} {client : Bool} {e : KubeEnv} {w w' : KubeWorld} {s s' : KubeStore}

theorem KubePC.Sound.mono {pc : KubePC} (h : pc.Sound L s) (hfollows : s.Follows s') :
    pc.Sound L s' := by
  cases pc with
  | idle => trivial
  | call req => trivial
  | update req fw got => exact ⟨h.1, h.2.1, h.2.2.mono hfollows⟩

theorem KubeWorld.Sound.append (h : w.Sound L s) (ch : KubeChange) (hbefore : ch.before = w.cluster)
    (hch : ch.Sound L) {audit : List AuditRow} :
    KubeWorld.Sound L s ⟨ch.after, audit, w.ledger ++ [ch]⟩ := by
  refine ⟨h.linked.snoc hbefore, ?_⟩
  intro a ha
  rcases List.mem_append.mp ha with hold | hnew
  · exact h.changes a hold
  · rw [List.mem_singleton.mp hnew]
    exact hch

/-- The answer to a request that has changed nothing. -/
theorem KubeWorld.Sound.failed (h : w.Sound L s) (req : KubeReq) (now : Time)
    (read : Option (KubeObject × Nat)) (c : ManifestClient) (err : String) :
    (w.answer w.cluster req now read (req.handle L client c (.error err))).Sound L s := by
  refine h.append ⟨some _, w.cluster, w.cluster⟩ rfl ?_
  intro r hr
  cases hr
  exact .inl ⟨rfl, req.handle_failed err⟩

/-- The answer once the client's last call has been answered. -/
theorem KubeWorld.Sound.answered {α : Type} (h : w.Sound L s) {req : KubeReq} {now : Time}
    {read : Option (KubeObject × Nat)} {fw : FieldWrite} {cluster : KubeStore} {count : α → Int}
    {answer : Except ApiError α} (c : ManifestClient) (hasks : req.Asks L now fw)
    (hcall : (cluster = w.cluster ∧ ∃ err, answer = .error err)
      ∨ (fw.Done w.cluster cluster ∧ (req.isScale = true → read = w.cluster.get fw.key
        ∧ ∀ a, answer = .ok a → fw.value = .num (count a)))) :
    (w.answer cluster req now read
      (req.handle L client c (clientResult count answer))).Sound L s := by
  rcases hcall with ⟨rfl, err, rfl⟩ | ⟨hdone, hscaled⟩
  · exact h.failed req now read c err.message
  · refine h.append ⟨some _, w.cluster, cluster⟩ rfl ?_
    intro r hr
    cases hr
    refine .inr ⟨fw, hasks, hdone, fun hscale => (hscaled hscale).1, ?_⟩
    intro reply n hreply hn
    cases answer with
    | error err =>
        have hfailed : ∃ err', (req.handle L client c (.error err.message)).answer
            = .error err' := req.handle_failed err.message
        obtain ⟨err', herr⟩ := hfailed
        cases hreply.symm.trans herr
    | ok a =>
        obtain ⟨hscale, rfl⟩ := KubeReq.handle_replicas hreply hn
        exact (hscaled hscale).2 a rfl

/-- **One step of a request.** -/
theorem KubeWorld.Sound.serve (hL : L.Lawful) (h : w.Sound L s) {userID : Nat} {ip : String}
    {pc pc' : KubePC} (hpc : pc.Sound L w.cluster)
    (hstep : w.serve L client e userID ip pc = some (w', pc')) :
    w'.Sound L s ∧ w.cluster.Follows w'.cluster ∧ pc'.Sound L w'.cluster := by
  cases pc with
  | idle => cases hstep
  | call req =>
      simp only [KubeWorld.serve] at hstep
      split at hstep
      · cases hstep
        exact ⟨h.failed req e.now none _ "", Versioned.Follows.refl _, trivial⟩
      next hpass =>
      have hpass : req.passes L client ⟨e.now, userID, ip⟩ = true := by simpa using hpass
      split at hstep
      · next err _ =>
        cases hstep
        exact ⟨h.failed req e.now none _ err, Versioned.Follows.refl _, trivial⟩
      · next fw hcall =>
        cases hstep
        refine ⟨?_, KubeStore.follows_patch w.cluster e.faults fw, trivial⟩
        refine h.answered _ (KubeReq.call_asks hL hpass (.inl hcall)) ?_
        rcases KubeStore.patch_cases w.cluster e.faults fw with hnone | hdone
        · exact .inl hnone
        · refine .inr ⟨hdone, fun hscale => ?_⟩
          rw [KubeReq.not_isScale_of_call hcall] at hscale
          cases hscale
      · next fw hcall =>
        have hscale := KubeReq.isScale_of_call hcall
        have hasks := KubeReq.call_asks hL hpass (.inr hcall)
        split at hstep
        · next err _ =>
          cases hstep
          exact ⟨h.failed req e.now none _ err.message, Versioned.Follows.refl _, trivial⟩
        · next got hget =>
          cases hstep
          exact ⟨h, Versioned.Follows.refl _, hscale, fun t => hasks.at_any hscale t,
            Versioned.recalls_of_get (KubeStore.getScale_ok hget)⟩
  | update req fw got =>
      obtain ⟨hscale, hasks, hrecalls⟩ := hpc
      simp only [KubeWorld.serve] at hstep
      cases hstep
      refine ⟨?_, KubeStore.follows_updateScale w.cluster e.faults fw got.2, trivial⟩
      refine h.answered _ (hasks e.now) ?_
      rcases KubeStore.updateScale_cases w.cluster e.faults fw got.2 with
        hnone | ⟨hdone, ⟨obj, hobj⟩, hanswer⟩
      · exact .inl hnone
      · refine .inr ⟨hdone, fun _ => ⟨?_, fun a ha => ?_⟩⟩
        · -- the version is the one that was read, so the object is, too
          rw [hobj, hrecalls.same obj hobj]
        · exact (hasks e.now).value_of_scale hscale (hanswer a ha)

end Keeps

/-- What holds of a party. -/
def KubeParty.Sound (s : KubeStore) : KubeParty → Prop
  | .admin a => a.pc.Sound L s
  | .writer => True

section Theorem

variable {L} {client : Bool} {ι : Type*}

theorem KubeParty.Sound.mono {s s' : KubeStore} {p : KubeParty} (h : p.Sound L s)
    (hfollows : s.Follows s') : p.Sound L s' := by
  cases p with
  | admin a => exact KubePC.Sound.mono h hfollows
  | writer => trivial

/-- **What a step of a party does.** -/
theorem KubeParty.step_sound (hL : L.Lawful) {s : KubeStore} {e : KubeEnv} {w w' : KubeWorld}
    {p p' : KubeParty} (hstep : p.step L client e w = some (w', p')) (hw : w.Sound L s)
    (hp : p.Sound L w.cluster) :
    w'.Sound L s ∧ w.cluster.Follows w'.cluster ∧ p'.Sound L w'.cluster := by
  cases p with
  | writer =>
      simp only [KubeParty.step] at hstep
      split at hstep
      · next key obj _ =>
        cases hstep
        refine ⟨hw.append ⟨none, w.cluster, _⟩ rfl (fun _ h => (by cases h)),
          Versioned.follows_put, trivial⟩
      · next key _ =>
        cases hstep
        refine ⟨hw.append ⟨none, w.cluster, _⟩ rfl (fun _ h => (by cases h)),
          Versioned.follows_delete, trivial⟩
      · cases hstep
  | admin a =>
      simp only [KubeParty.step] at hstep
      split at hstep
      · split at hstep
        · cases hstep
          exact ⟨hw, Versioned.Follows.refl _, trivial⟩
        · cases hstep
      · obtain ⟨⟨w₁, pc⟩, hserve, heq⟩ := Option.map_eq_some_iff.mp hstep
        cases heq
        exact hw.serve hL hp hserve
      · cases hstep

/-- The outline of a cluster that began as `s`. -/
def kubeOutline (hL : L.Lawful) (client : Bool) (s : KubeStore) :
    Outline (kubeMachine L client) Guard.free :=
  Outline.solitary (fun w => w.Sound L s) (fun w p => p.Sound L w.cluster)
    (by
      intro e w p w' p' _ _ hstep hw hp
      obtain ⟨hw', _, hp'⟩ := KubeParty.step_sound hL hstep hw hp
      exact ⟨hw', hp'⟩)
    (by
      intro e w p w' p' q _ _ _ hstep hw hp hq
      exact hq.mono (KubeParty.step_sound hL hstep hw hp).2.1)

/-- Any objects, an empty ledger, and no request under way. -/
structure KubeOpening (c : Config KubeWorld KubeParty ι) : Prop where
  ledger : c.shared.ledger = []
  idle : ∀ i a, c.locals i = .admin a → a.pc = .idle

theorem KubeOpening.holds (hL : L.Lawful) {c : Config KubeWorld KubeParty ι}
    (h : KubeOpening c) : (kubeOutline hL client c.shared.cluster).Holds c := by
  refine ⟨⟨?_, ?_⟩, ?_, fun _ _ _ => trivial⟩
  · rw [h.ledger]
    rfl
  · intro ch hch
    rw [h.ledger] at hch
    cases hch
  · intro i
    show (c.locals i).Sound L c.shared.cluster
    cases hp : c.locals i with
    | writer => trivial
    | admin a =>
        show a.pc.Sound L c.shared.cluster
        rw [h.idle i a hp]
        trivial

/-- **WHAT THE WRITE ACTIONS DO TO A SHARED CLUSTER**: along any run the cluster goes from
change to change of the ledger; a request that is answered has changed nothing and failed, or
has set the one field that it asks for in the object that it names, a scale in the very
object that it had read; and the count in its answer is what it has set. -/
theorem workload_changes_sound [DecidableEq ι] (hL : L.Lawful)
    {c c' : Config KubeWorld KubeParty ι} (hopening : KubeOpening c)
    (hruns : (kubeMachine L client).Runs Guard.free c c') :
    Chained KubeChange.before KubeChange.after c.shared.cluster c'.shared.ledger c'.shared.cluster
      ∧ ∀ ch ∈ c'.shared.ledger, ∀ r, ch.served = some r →
        (ch.after = ch.before ∧ ∃ err, r.answer = .error err) ∨ ∃ fw, ch.CarriesOut L r fw := by
  have hsound := ((kubeOutline hL client c.shared.cluster).runs hruns (hopening.holds hL)).shared
  exact ⟨hsound.linked, hsound.changes⟩

end Theorem

end Actions

/-! ## A schedule. -/

/-- A deployment with three replicas. -/
def webDeployment : KubeObject where
  doc := .obj [("spec", .obj [("replicas", .num 3),
    ("template", .obj [("metadata", .obj [("annotations", .null)])])])]
  opens := by
    intro ks hks
    simp only [writtenPaths, List.mem_cons, List.not_mem_nil, or_false] at hks
    rcases hks with rfl | rfl | rfl
    · exact ⟨fun _ => rfl, fun _ => rfl, fun _ => rfl, fun _ => rfl, fun _ => rfl, trivial⟩
    · exact ⟨fun _ => rfl, fun _ => rfl, trivial⟩
    · exact ⟨fun _ => rfl, fun _ => rfl, trivial⟩

def webKey : KubeKey := ⟨.deployment, "ns", "web"⟩

/-- The deployment, two administrators and another writer. -/
def twoAdmins : Config KubeWorld KubeParty (Option Bool) where
  shared := ⟨Versioned.empty.put webKey webDeployment, [], []⟩
  locals := fun i =>
    match i with
    | none => .writer
    | some b => .admin ⟨if b then 1 else 2, "ip", .idle⟩

theorem twoAdmins_opening : KubeOpening twoAdmins := by
  refine ⟨rfl, ?_⟩
  intro i a h
  cases i with
  | none => cases h
  | some b =>
      cases h
      rfl

/-- An administrator sends a request; it goes on. -/
def kubeSends (i : Bool) (req : KubeReq) : Option Bool × KubeEnv :=
  (some i, ⟨⟨2 * second, le_succ_mul_second 1⟩, .send req, ⟨none, none⟩⟩)
def kubeNext (i : Bool) : Option Bool × KubeEnv :=
  (some i, ⟨⟨2 * second, le_succ_mul_second 1⟩, .next, ⟨none, none⟩⟩)

/-- A restart comes between the two calls of a scale, which fails; the next one does not. -/
theorem workload_changes_sound_scaled :
    let scale : KubeReq := .scale "ns" "Deployment" "web" (some (some 5))
    let sched := [kubeSends true scale, kubeNext true,
      kubeSends false (.restart "ns" "deployment" "web"), kubeNext false, kubeNext true,
      kubeSends true scale, kubeNext true, kubeNext true]
    let c := (kubeMachine plainLib true).after Guard.free sched twoAdmins
    c.shared.ledger.map (fun ch => ch.served.map fun r => r.answer.toOption)
        = [some (some [("ok", .flag true), ("message", .text "rollout restarted")]), some none,
          some (some [("ok", .flag true), ("replicas", .int 5)])]
      ∧ (c.shared.cluster.get webKey).map (fun item => item.1.doc.headAt (replicasPath.map .key))
        = some (some (.num 5))
      ∧ Chained KubeChange.before KubeChange.after twoAdmins.shared.cluster c.shared.ledger
        c.shared.cluster
      ∧ ∀ ch ∈ c.shared.ledger, ∀ r, ch.served = some r →
        (ch.after = ch.before ∧ ∃ err, r.answer = .error err)
          ∨ ∃ fw, ch.CarriesOut plainLib r fw := by
  intro scale sched c
  have hruns : (kubeMachine plainLib true).Runs Guard.free twoAdmins c :=
    Machine.runs_after (by decide +kernel)
  exact ⟨by decide +kernel, by decide +kernel,
    workload_changes_sound plainLib_lawful twoAdmins_opening hruns⟩

end ControlRoom
