/-
  ControlRoom.Browser.EditorVersions
  ──────────────────────────────────
  **THE VERSION THAT THE MANIFEST EDITOR STARTS FROM.**

  The version goes backwards where the editor takes up something older than what
  has been returned, and nowhere else.  The query's cache is older after every
  apply, until Reload.

    §1  the answer to a request,
    §2  what an event does (`step_moves`),
    §3  the versions of what is under way,
    §4  the editor's version, event by event,
    §5  applies and conflicts,
    §6  the theorem, and an editor that is opened again.
-/
import ControlRoom.Text.Strconv
import ControlRoom.Browser.ManifestEditor

namespace ControlRoom

/-! ## §1. The answer to a request. -/

section Server

variable {Obj : Type} [DecidableEq Obj] {L : ManifestLib Obj} {K : ManifestServer Obj}
  {c : ManifestClient} {s s' : StoredObject Obj} {refuse : Option OtherError}
  {call : UpdateCall Obj} {err : ApiError} {body : ApplyReq}

/-- **An update that succeeds** stores what the API server accepts. -/
theorem StoredObject.update_ok (h : s.update L K refuse call = .ok s') :
    s.version ≤ s'.version ∧ K.accept s.object call.object = .ok s'.object := by
  unfold StoredObject.update at h
  split at h
  · cases h
  · split at h
    · cases h
    · split at h
      · cases h
      · split at h
        · cases h
        · next object haccept =>
            split at h
            · next hsame =>
                cases h
                exact ⟨Nat.le_refl _, hsame ▸ haccept⟩
            · cases h
              exact ⟨Nat.le_succ _, haccept⟩

/-- A conflict means another version. -/
theorem StoredObject.update_conflict (h : s.update L K refuse call = .error err)
    (hreason : err.reason = .conflict) :
    L.resourceVersion call.object ≠ K.versionText s.version := by
  unfold StoredObject.update at h
  split at h
  · next other =>
      cases h
      exact absurd hreason other.2
  · split at h
    · cases h
      cases hreason
    · split at h
      · next hversion => exact hversion
      · split at h
        · next other _ =>
            cases h
            exact absurd hreason other.2
        · split at h
          · cases h
          · cases h

/-- **A request is refused**, and nothing changes, and a conflict means another version; **or it
succeeds**, and an apply returns the version that there is then. -/
theorem StoredObject.handle_cases (hL : L.Lawful) (hK : K.Lawful L) (c : ManifestClient)
    (s : StoredObject Obj) (refuse : Option OtherError) (body : ApplyReq) :
    (∃ err, s.handle L K c refuse body = (.error err, s) ∧
      (err.status = 409 →
        body.resourceVersion ≠ "" ∧ body.resourceVersion ≠ K.versionText s.version)) ∨
    ∃ resp s', s.handle L K c refuse body = (.ok resp, s') ∧ s.version ≤ s'.version ∧
      (body.dryRun = true → s' = s) ∧
      (body.dryRun = false → resp.resourceVersion = K.versionText s'.version) := by
  unfold StoredObject.handle
  rcases L.applyManifestHandler_cases (s.server L K refuse) c body with
    ⟨hupdates, err, hanswer, hstatus⟩ | ⟨m, obj, gvr, hadm, hupdates, hanswer⟩
  · -- the server has refused it before its update, and not with a conflict
    left
    rw [hupdates, hanswer]
    exact ⟨err, rfl, fun h => absurd h hstatus⟩
  · rw [hupdates, hanswer]
    have hversion : L.resourceVersion (L.updateCall gvr body m obj).object = body.resourceVersion :=
      hL.resourceVersion_set _ _ hadm.name_ne_empty hadm.version
    have hname : L.name (L.updateCall gvr body m obj).object ≠ "" := by
      have hset := hL.name_set obj body.resourceVersion
      exact fun h => hadm.name_ne_empty (hset ▸ h)
    have hdry : (L.updateCall gvr body m obj).dryRun = if body.dryRun then [dryRunAll] else [] :=
      rfl
    -- of the object that is sent, only its version, its name and the dry run matter from here
    generalize L.updateCall gvr body m obj = call at hversion hname hdry ⊢
    simp only [List.foldl_cons, List.foldl_nil, StoredObject.server, StoredObject.after]
    cases hupdate : s.update L K refuse call with
    | error err =>
        left
        refine ⟨L.applyError (mapManifestErr err), ?_, ?_⟩
        · simp [Except.map, Except.toOption]
        · intro hstatus
          by_cases hreason : err.reason = .conflict
          · exact ⟨hadm.version, hversion ▸ StoredObject.update_conflict hupdate hreason⟩
          · exact absurd hstatus (ManifestLib.mapManifestErr_status hreason)
    | ok s' =>
        right
        obtain ⟨hle, haccept⟩ := StoredObject.update_ok hupdate
        have hstored : L.resourceVersion (L.setResourceVersion s'.object (K.versionText s'.version))
            = K.versionText s'.version := by
          refine hL.resourceVersion_set _ _ ?_ (hK.versionText_ne _)
          rw [hK.accept_name _ _ _ haccept]
          exact hname
        cases hbody : body.dryRun with
        | true =>
            -- the API server answers a dry run and does not store what it returns
            rw [hbody, if_pos rfl] at hdry
            simp only [hdry, Except.map, if_true]
            exact ⟨_, s, rfl, Nat.le_refl _, fun _ => rfl, nofun⟩
        | false =>
            rw [hbody, if_neg Bool.false_ne_true] at hdry
            simp only [hdry, Except.map, Except.toOption, if_true]
            exact ⟨_, s', rfl, hle, nofun, fun _ => hstored⟩

end Server

section Invariant

variable {Obj : Type} {L : ManifestLib Obj} {K : ManifestServer Obj} {c : ManifestClient}
  {t : EditorSession Obj} {m : K8sManifest} {e : ManifestEditor} {p p' q : ManifestPost}
  {i n n' : Nat}

/-! ## §2. What an event does. -/

namespace EditorSession

theorem accepted_iff :
    p.accepted = true ↔ p.body.dryRun = false ∧ ∃ resp, p.answer = some (.ok resp) := by
  unfold ManifestPost.accepted
  split
  · next resp hanswer =>
      rw [Bool.not_eq_true']
      exact (and_iff_left ⟨resp, hanswer⟩).symm
  · next hnot =>
      refine iff_of_false Bool.false_ne_true ?_
      rintro ⟨-, resp, hanswer⟩
      exact hnot resp hanswer

/-- Nothing has been sent, processed or returned, and the editor takes up nothing. -/
structure Quiet (t t' : EditorSession Obj) : Prop where
  stored : t'.stored = t.stored
  posts : t'.posts = t.posts
  newest : t'.newest = t.newest
  cached : ∀ m, t'.cache = some m → t.cache = some m
  fetched : ∀ m, t'.fetch = some (some m) → t.fetch = some (some m)
  opened : t'.editor.opened = true → t.editor.opened = true
  named : t'.editor.resourceVersion = "" ∨
    t'.editor.resourceVersion = t.editor.resourceVersion ∧ t'.editor.version = t.editor.version
      ∧ t'.editor.basis = t.editor.basis

theorem Quiet.refl (t : EditorSession Obj) : t.Quiet t :=
  ⟨rfl, rfl, rfl, fun _ h => h, fun _ h => h, fun h => h, .inr ⟨rfl, rfl, rfl⟩⟩

section Moves

variable [DecidableEq Obj]

/-- What an event does: it is quiet, or it is one of these. -/
inductive Moves (L : ManifestLib Obj) (K : ManifestServer Obj) (c : ManifestClient)
    (t : EditorSession Obj) : ManifestEvent → EditorSession Obj → Prop
  | quiet {ev : ManifestEvent} {t' : EditorSession Obj} (h : t.Quiet t') (hready : t.ready ev) :
      Moves L K c t ev t'
  | opens (h : t.editor.opened = false) : Moves L K c t .openEditor t.openEditor
  | reads : Moves L K c t .fetchRead { t with fetch := some (some (t.stored.getManifest K)) }
  | loads (m : K8sManifest) (h : t.fetch = some (some m)) : Moves L K c t .fetchDone (t.load m)
  | sends {ev : ManifestEvent} (dialog dryRun : Bool) (hopened : t.editor.opened = true)
      (hev : ev = if dryRun then .dryRun else .confirm) :
      Moves L K c t ev
        (({ t with editor := { t.editor with applyDialogOpen := dialog } } :
          EditorSession Obj).runApply dryRun)
  | serves (i : Nat) (refuse : Option OtherError) (p : ManifestPost) (hp : t.posts[i]? = some p)
      (hnone : p.answer = none) :
      Moves L K c t (.serve i refuse) (t.serve i p (t.stored.handle L K c refuse p.body))
  | delivers (i : Nat) (p : ManifestPost) (answer : Except HTTPError ApplyResp)
      (hp : t.posts[i]? = some p) (hdelivered : p.delivered = false)
      (hanswer : p.answer = some answer) : Moves L K c t (.answer i) (t.deliver i p answer)
  | loses (i : Nat) (p : ManifestPost) (hp : t.posts[i]? = some p) {e : ManifestEditor}
      (hquiet : t.Quiet { t with editor := e }) :
      Moves L K c t (.lost i)
        { t with posts := t.posts.set i { p with delivered := true }, editor := e }

/-- **What a step can do.** -/
theorem step_moves (t : EditorSession Obj) (ev : ManifestEvent) :
    Moves L K c t ev (t.step L K c ev) := by
  have hquiet := Quiet.refl t
  cases ev with
  | openEditor =>
      simp only [EditorSession.step]
      split
      · next hopened =>
          refine .quiet hquiet ?_
          intro hclosed
          rw [hclosed] at hopened
          cases hopened
      · next hclosed => exact .opens (Bool.eq_false_iff.mpr hclosed)
  -- a closed editor has no version to be current
  | close => exact .quiet { hquiet with opened := fun h => by cases h } trivial
  | leave => exact .quiet { hquiet with opened := fun h => (by cases h), named := .inl rfl } trivial
  | evict =>
      simp only [EditorSession.step]
      split
      · exact .quiet hquiet trivial
      · exact .quiet { hquiet with cached := fun _ h => by cases h } trivial
  | edit text =>
      simp only [EditorSession.step]
      split
      · exact .quiet { hquiet with } trivial
      · exact .quiet hquiet trivial
  | dryRun =>
      simp only [EditorSession.step]
      split
      · next henabled =>
          -- the button is there only in an editor that is open
          unfold ManifestEditor.enabled at henabled
          simp only [Bool.and_eq_true] at henabled
          exact .sends t.editor.applyDialogOpen true henabled.1.1.1 rfl
      · exact .quiet hquiet trivial
  | apply =>
      simp only [EditorSession.step]
      split
      · exact .quiet { hquiet with } trivial
      · exact .quiet hquiet trivial
  | cancel => exact .quiet { hquiet with } trivial
  | confirm =>
      simp only [EditorSession.step]
      split
      · next hguard => exact .sends false false hguard.2.1 rfl
      · exact .quiet hquiet trivial
  | reload =>
      simp only [EditorSession.step, EditorSession.reload]
      split
      · split
        · exact .quiet { hquiet with fetched := fun _ h => by cases h } trivial
        · exact .quiet hquiet trivial
      · exact .quiet hquiet trivial
  | fetchRead =>
      simp only [EditorSession.step]
      split
      · exact .reads
      · exact .quiet hquiet trivial
  | fetchDone =>
      simp only [EditorSession.step]
      split
      · next m hfetch => exact .loads m hfetch
      · next hnone =>
          refine .quiet hquiet ?_
          intro _
          unfold FetchCurrent
          split
          · next m hfetch => exact absurd hfetch (hnone m)
          · trivial
  | fetchFailed => exact .quiet { hquiet with fetched := fun _ h => by cases h } trivial
  | serve i refuse =>
      simp only [EditorSession.step]
      split
      · exact .quiet hquiet trivial
      · next p hp =>
          split
          · next hnone => exact .serves i refuse p hp (Option.isNone_iff_eq_none.mp hnone)
          · exact .quiet hquiet trivial
  | answer i =>
      simp only [EditorSession.step]
      split
      · next hnone =>
          refine .quiet hquiet ?_
          intro _
          unfold AnswerCurrent
          rw [hnone]
          trivial
      · next p hp =>
          split
          · next answer hdelivered hanswer => exact .delivers i p answer hp hdelivered hanswer
          · next hnot =>
              -- nothing arrives: it has been delivered already, or the server has not answered
              refine .quiet hquiet ?_
              intro _
              unfold AnswerCurrent
              rw [hp]
              intro hdelivered haccepted
              obtain ⟨-, resp, hresp⟩ := accepted_iff.mp haccepted
              exact absurd hresp (hnot _ hdelivered)
  | lost i =>
      simp only [EditorSession.step]
      split
      · exact .quiet hquiet trivial
      · next p hp =>
          refine .loses i p hp ?_
          split
          · exact { hquiet with }
          · exact hquiet

end Moves

end EditorSession

/-! ## §3. The versions of what is under way. -/

/-- The manifest names its version, which is not above `n`. -/
def K8sManifest.Stamped (K : ManifestServer Obj) (m : K8sManifest) (n : Nat) : Prop :=
  m.resourceVersion = K.versionText m.version ∧ m.version ≤ n

/-- The editor names its version, if it has one. -/
def ManifestEditor.Stamped (K : ManifestServer Obj) (e : ManifestEditor) (n : Nat) : Prop :=
  e.resourceVersion = "" ∨ e.resourceVersion = K.versionText e.version ∧ e.version ≤ n

/-- The answer to an apply that has succeeded names the version that it has made. -/
def ManifestPost.Stamped (K : ManifestServer Obj) (p : ManifestPost) (n : Nat) : Prop :=
  ∀ resp, p.answer = some (.ok resp) →
    p.version ≤ n ∧ (p.body.dryRun = false → resp.resourceVersion = K.versionText p.version)

theorem K8sManifest.Stamped.mono (h : m.Stamped K n) (hle : n ≤ n') : m.Stamped K n' :=
  ⟨h.1, Nat.le_trans h.2 hle⟩

theorem ManifestEditor.Stamped.mono (h : e.Stamped K n) (hle : n ≤ n') : e.Stamped K n' :=
  h.imp_right fun hnamed => ⟨hnamed.1, Nat.le_trans hnamed.2 hle⟩

theorem ManifestPost.Stamped.mono (h : p.Stamped K n) (hle : n ≤ n') : p.Stamped K n' :=
  fun resp hresp => ⟨Nat.le_trans (h resp hresp).1 hle, (h resp hresp).2⟩

namespace EditorSession

/-- Every version is one that the object has had; what the client has been told is not newer than
what the server has, and the server's is the work of an apply, unless it is the first. -/
structure Known (K : ManifestServer Obj) (t : EditorSession Obj) : Prop where
  newest : t.newest ≤ t.stored.version
  cached : ∀ m, t.cache = some m → m.Stamped K t.newest
  fetched : ∀ m, t.fetch = some (some m) → m.Stamped K t.stored.version
  editor : t.editor.Stamped K t.stored.version
  posts : ∀ p ∈ t.posts, p.Stamped K t.stored.version
  written : t.stored.version = 0 ∨ ∃ p ∈ t.posts, p.accepted = true ∧ p.version = t.stored.version

theorem start_known (object : Obj) : (start object).Known K :=
  ⟨Nat.le_refl _, nofun, nofun, .inl rfl, nofun, .inl rfl⟩

/-- **A quiet event.** -/
theorem Known.quiet (h : t.Known K) {t' : EditorSession Obj} (hquiet : t.Quiet t') :
    t'.Known K := by
  refine ⟨?_, ?_, ?_, ?_, ?_, ?_⟩
  · rw [hquiet.newest, hquiet.stored]
    exact h.newest
  · rw [hquiet.newest]
    exact fun m hm => h.cached m (hquiet.cached m hm)
  · rw [hquiet.stored]
    exact fun m hm => h.fetched m (hquiet.fetched m hm)
  · rcases hquiet.named with hnone | ⟨hnamed, hversion, -⟩
    · exact .inl hnone
    · unfold ManifestEditor.Stamped
      rw [hnamed, hversion, hquiet.stored]
      exact h.editor
  · rw [hquiet.posts, hquiet.stored]
    exact h.posts
  · rw [hquiet.posts, hquiet.stored]
    exact h.written

theorem Known.withFetch (h : t.Known K) {fetch : Option (Option K8sManifest)}
    (hfetch : ∀ m, fetch = some (some m) → m.Stamped K t.stored.version) :
    ({ t with fetch := fetch } : EditorSession Obj).Known K :=
  ⟨h.newest, h.cached, hfetch, h.editor, h.posts, h.written⟩

/-- **The editor is opened.** -/
theorem Known.openEditor (h : t.Known K) : t.openEditor.Known K := by
  unfold EditorSession.openEditor
  split
  · next m hcache =>
      have hm := (h.cached m hcache).mono h.newest
      exact ⟨h.newest, h.cached, h.fetched, .inr hm, h.posts, h.written⟩
  · refine ⟨h.newest, h.cached, ?_, h.editor, h.posts, h.written⟩
    intro m hm
    cases hfetch : t.fetch with
    | none =>
        rw [hfetch] at hm
        cases hm
    | some fetch =>
        rw [hfetch] at hm
        exact h.fetched m (hfetch.trans hm)

/-- **A fetch ends.** -/
theorem Known.load (h : t.Known K) (hm : m.Stamped K t.stored.version) : (t.load m).Known K := by
  refine ⟨Nat.max_le.mpr ⟨h.newest, hm.2⟩, ?_, nofun, ?_, h.posts, h.written⟩
  · intro m' hm'
    cases hm'
    exact ⟨hm.1, Nat.le_max_right _ _⟩
  · show ManifestEditor.Stamped K (ite _ _ _) _
    split
    · exact .inr hm
    · exact h.editor

/-- In a list where `p` has become `p'` all else is what it was. -/
theorem mem_set_of_getElem? {posts : List ManifestPost} (hp : posts[i]? = some p) (hq : q ∈ posts)
    (p' : ManifestPost) : q = p ∨ q ∈ posts.set i p' := by
  obtain ⟨j, hj⟩ := List.mem_iff_getElem?.mp hq
  by_cases hij : i = j
  · rw [← hij, hp] at hj
    exact .inl (Option.some.inj hj).symm
  · refine .inr (List.mem_of_getElem? (i := j) ?_)
    rw [List.getElem?_set_ne hij]
    exact hj

/-- **A request that says the same about versions** takes the place of `p`. -/
theorem Known.withPost (h : t.Known K) (hp : t.posts[i]? = some p) (p' : ManifestPost)
    (hbody : p'.body = p.body) (hanswer : p'.answer = p.answer)
    (hversion : p'.version = p.version) :
    ({ t with posts := t.posts.set i p' } : EditorSession Obj).Known K := by
  have hmem : p ∈ t.posts := List.mem_of_getElem? hp
  have hstamped : p'.Stamped K t.stored.version := by
    unfold ManifestPost.Stamped
    rw [hbody, hanswer, hversion]
    exact h.posts p hmem
  refine ⟨h.newest, h.cached, h.fetched, h.editor, ?_, ?_⟩
  · intro q hq
    rcases List.mem_or_eq_of_mem_set hq with hold | rfl
    · exact h.posts q hold
    · exact hstamped
  · refine h.written.imp_right ?_
    rintro ⟨q, hq, haccepted, hwritten⟩
    rcases mem_set_of_getElem? hp hq p' with rfl | hset
    · have hi : i < t.posts.length := (List.getElem?_eq_some_iff.mp hp).1
      refine ⟨p', List.mem_set hi _, ?_, hversion.trans hwritten⟩
      unfold ManifestPost.accepted at haccepted ⊢
      rw [hbody, hanswer]
      exact haccepted
    · exact ⟨q, hset, haccepted, hwritten⟩

/-- **A request is sent.** -/
theorem Known.runApply (h : t.Known K) (dryRun : Bool) : (t.runApply dryRun).Known K := by
  refine ⟨h.newest, h.cached, h.fetched, h.editor, ?_, ?_⟩
  · intro p hp
    rcases List.mem_append.mp hp with hold | hnew
    · exact h.posts p hold
    · rw [List.mem_singleton.mp hnew]
      exact nofun
  · refine h.written.imp_right ?_
    rintro ⟨q, hq, haccepted, hwritten⟩
    exact ⟨q, List.mem_append_left _ hq, haccepted, hwritten⟩

theorem settle_stamped (he : e.Stamped K n) (hp : p.Stamped K n)
    {answer : Except HTTPError ApplyResp} (hanswer : p.answer = some answer) :
    (e.settle p answer).Stamped K n := by
  unfold ManifestEditor.settle
  split
  · exact he
  · next resp =>
      obtain ⟨hle, hnamed⟩ := hp resp hanswer
      split
      · exact he
      · next happly => exact .inr ⟨hnamed (Bool.eq_false_iff.mpr happly), hle⟩

/-- **An answer arrives.** -/
theorem Known.deliver (h : t.Known K) (hp : t.posts[i]? = some p)
    {answer : Except HTTPError ApplyResp} (hanswer : p.answer = some answer) :
    (t.deliver i p answer).Known K := by
  have hstamped := h.posts p (List.mem_of_getElem? hp)
  have hposts := h.withPost hp { p with delivered := true } rfl rfl rfl
  refine ⟨?_, ?_, h.fetched, ?_, hposts.posts, hposts.written⟩
  · show ite _ _ _ ≤ _
    split
    · next haccepted =>
        obtain ⟨-, resp, hresp⟩ := accepted_iff.mp haccepted
        exact Nat.max_le.mpr ⟨h.newest, (hstamped resp hresp).1⟩
    · exact h.newest
  · intro m hm
    refine (h.cached m hm).mono ?_
    show _ ≤ ite _ _ _
    split
    · exact Nat.le_max_left _ _
    · exact Nat.le_refl _
  · show ManifestEditor.Stamped K (ite _ _ _) _
    split
    · exact settle_stamped h.editor hstamped hanswer
    · exact h.editor

section Steps

variable [DecidableEq Obj] {refuse : Option OtherError}

/-- **The server processes a request.** -/
theorem Known.serve (hL : L.Lawful) (hK : K.Lawful L) (h : t.Known K) (hp : t.posts[i]? = some p)
    (hnone : p.answer = none) : (t.serve i p (t.stored.handle L K c refuse p.body)).Known K := by
  have hi : i < t.posts.length := (List.getElem?_eq_some_iff.mp hp).1
  have hnot : p.accepted ≠ true := by
    intro haccepted
    obtain ⟨-, resp, hresp⟩ := accepted_iff.mp haccepted
    rw [hnone] at hresp
    cases hresp
  -- the other requests stay as they are
  have hkeep : ∀ {p' : ManifestPost} {n : Nat}, n = t.stored.version →
      n = 0 ∨ ∃ q ∈ t.posts.set i p', q.accepted = true ∧ q.version = n := by
    rintro p' n rfl
    refine h.written.imp_right ?_
    rintro ⟨q, hq, haccepted, hwritten⟩
    rcases mem_set_of_getElem? hp hq p' with rfl | hset
    · exact absurd haccepted hnot
    · exact ⟨q, hset, haccepted, hwritten⟩
  rcases StoredObject.handle_cases hL hK c t.stored refuse p.body with
    ⟨err, hhandle, -⟩ | ⟨resp, s', hhandle, hle, hdry, hnamed⟩
  · rw [hhandle]
    refine ⟨h.newest, h.cached, h.fetched, h.editor, ?_, hkeep rfl⟩
    intro q hq
    rcases List.mem_or_eq_of_mem_set hq with hold | rfl
    · exact h.posts q hold
    · exact nofun
  · rw [hhandle]
    refine ⟨Nat.le_trans h.newest hle, h.cached, fun m hm => (h.fetched m hm).mono hle,
      h.editor.mono hle, ?_, ?_⟩
    · intro q hq
      rcases List.mem_or_eq_of_mem_set hq with hold | rfl
      · exact (h.posts q hold).mono hle
      · intro resp' hresp'
        cases hresp'
        exact ⟨Nat.le_refl _, hnamed⟩
    · cases hbody : p.body.dryRun with
      | true =>
          refine hkeep ?_
          rw [hdry hbody]
          rfl
      | false =>
          refine .inr ⟨_, List.mem_set hi _, ?_, rfl⟩
          exact accepted_iff.mpr ⟨hbody, resp, rfl⟩

/-- **Every event keeps the invariant.** -/
theorem Known.moves (hL : L.Lawful) (hK : K.Lawful L) (h : t.Known K) {ev : ManifestEvent}
    {t' : EditorSession Obj} (hmoves : Moves L K c t ev t') : t'.Known K := by
  cases hmoves with
  | quiet hquiet _ => exact h.quiet hquiet
  | opens _ => exact h.openEditor
  | reads =>
      refine h.withFetch ?_
      intro m hm
      cases hm
      exact ⟨rfl, Nat.le_refl _⟩
  | loads m hfetch => exact h.load (h.fetched m hfetch)
  | sends dialog dryRun _ _ =>
      have hdialog : ({ t with editor := { t.editor with applyDialogOpen := dialog } } :
          EditorSession Obj).Known K := h.quiet { Quiet.refl t with }
      exact hdialog.runApply dryRun
  | serves i refuse p hp hnone => exact h.serve hL hK hp hnone
  | delivers i p answer hp _ hanswer => exact h.deliver hp hanswer
  | loses i p hp hquiet =>
      have hpost := h.withPost hp { p with delivered := true } rfl rfl rfl
      exact hpost.quiet { hquiet with posts := rfl }

end Steps

/-! ## §4. The editor's version. -/

theorem sync_upTo_iff (hne : m.resourceVersion ≠ "") : (e.sync m).UpTo n ↔ n ≤ m.version := by
  refine ⟨fun h => (h hne).1, fun h _ => ⟨h, h⟩⟩

theorem Known.cached_ne (hK : K.Lawful L) (h : m.Stamped K n) : m.resourceVersion ≠ "" := by
  rw [h.1]
  exact hK.versionText_ne _

/-- While the editor is closed, nothing is asked of it. -/
theorem current_of_closed (h : t.editor.opened = false) : t.Current := by
  intro hopened
  rw [h] at hopened
  cases hopened

theorem current_iff_of_opened (h : t.editor.opened = true) : t.Current ↔ t.editor.UpTo t.newest :=
  ⟨fun hcurrent => hcurrent h, fun hupTo _ => hupTo⟩

/-- **The editor is opened.** -/
theorem Known.openEditor_current_iff (hK : K.Lawful L) (h : t.Known K) :
    t.openEditor.Current ↔ t.CacheCurrent := by
  unfold EditorSession.openEditor CacheCurrent
  split
  · next m hcache =>
      rw [current_iff_of_opened rfl]
      exact sync_upTo_iff (cached_ne hK (h.cached m hcache))
  · exact current_iff_of_opened rfl

/-- A manifest whose data the query has is not a newer one. -/
theorem Known.same_le (hK : K.Lawful L) (h : t.Known K) (hm : m.Stamped K n)
    (hsame : t.cache.any (fun m' => decide (m'.SameData m)) = true) : m.version ≤ t.newest := by
  obtain ⟨m', hcache, hdata⟩ := Option.any_eq_true _ _ |>.mp hsame
  have hcached := h.cached m' hcache
  have hversion : m'.version = m.version := by
    refine hK.versionText_injective ?_
    rw [← hcached.1, ← hm.1]
    exact (of_decide_eq_true hdata).2
  exact hversion ▸ hcached.2

/-- **A fetch ends**, while the editor is open. -/
theorem Known.load_current_iff (hK : K.Lawful L) (h : t.Known K) (hm : m.Stamped K n)
    (hopened : t.editor.opened = true) (hcurrent : t.Current) :
    (t.load m).Current ↔
      (t.cache.any (fun m' => m'.SameData m) = false → t.newest ≤ m.version) := by
  have hupTo := hcurrent hopened
  unfold EditorSession.load
  by_cases hsame : t.cache.any (fun m' => m'.SameData m) = true
  · -- the effect does not run
    refine iff_of_true ?_ (fun hnew => absurd hsame (hnew ▸ Bool.false_ne_true))
    have hmax : max t.newest m.version = t.newest := Nat.max_eq_left (h.same_le hK hm hsame)
    rw [if_neg (fun hboth => hboth.2 hsame), hmax]
    exact fun _ => hupTo
  · rw [if_pos ⟨hopened, hsame⟩, current_iff_of_opened (by exact hopened)]
    rw [sync_upTo_iff (cached_ne hK hm)]
    show max t.newest m.version ≤ m.version ↔ _
    rw [Nat.max_le, and_iff_left (Nat.le_refl _)]
    exact ⟨fun hle _ => hle, fun hle => hle (Bool.eq_false_iff.mpr hsame)⟩

theorem settle_of_not_accepted {answer : Except HTTPError ApplyResp}
    (hanswer : p.answer = some answer) (h : p.accepted = false) :
    e.settle p answer = { e with awaiting := none } := by
  cases answer with
  | error err => rfl
  | ok resp =>
      have hdry : p.body.dryRun = true := by
        by_contra happly
        have haccepted := accepted_iff.mpr ⟨Bool.eq_false_iff.mpr happly, resp, hanswer⟩
        rw [h] at haccepted
        cases haccepted
      exact if_pos hdry

/-- **An answer arrives**, while the editor is open. -/
theorem Known.deliver_current_iff (hK : K.Lawful L) (h : t.Known K) (hp : t.posts[i]? = some p)
    {answer : Except HTTPError ApplyResp} (hanswer : p.answer = some answer)
    (hopened : t.editor.opened = true) (hcurrent : t.Current) :
    (t.deliver i p answer).Current ↔
      (p.accepted = true →
        if t.editor.awaiting = some i then
          t.newest ≤ p.version ∧ (t.editor.continues = true ∨ p.version ≤ t.editor.basis)
        else t.editor.UpTo p.version) := by
  have hupTo := hcurrent hopened
  unfold EditorSession.deliver
  cases haccepted : p.accepted with
  | false =>
      -- a dry run or an error: the editor keeps its version, and the server its own
      refine iff_of_true ?_ nofun
      intro _
      rw [settle_of_not_accepted hanswer haccepted]
      show (ite _ _ _ : ManifestEditor).UpTo t.newest
      split
      · exact hupTo
      · exact hupTo
  | true =>
      obtain ⟨happly, resp, hresp⟩ := accepted_iff.mp haccepted
      cases hanswer.symm.trans hresp
      rw [imp_iff_right rfl, if_pos rfl]
      by_cases hawaiting : t.editor.awaiting = some i
      · -- the editor takes the version that the apply has returned
        rw [if_pos hawaiting, if_pos hawaiting]
        have hsettle : t.editor.settle p (.ok resp) =
            { t.editor with
              awaiting := none
              originalYAML := p.body.yaml
              resourceVersion := resp.resourceVersion
              version := p.version
              basis := if t.editor.continues then p.version else t.editor.basis } :=
          if_neg (Bool.eq_false_iff.mp happly)
        have hne : resp.resourceVersion ≠ "" := by
          rw [(h.posts p (List.mem_of_getElem? hp) resp hresp).2 happly]
          exact hK.versionText_ne _
        rw [hsettle, current_iff_of_opened (by exact hopened)]
        show (resp.resourceVersion ≠ "" → max t.newest p.version ≤ p.version
          ∧ max t.newest p.version ≤ ite _ _ _) ↔ _
        rw [imp_iff_right hne, Nat.max_le, and_iff_left (Nat.le_refl _)]
        refine and_congr_right fun hle => ?_
        rw [Nat.max_eq_right hle]
        cases t.editor.continues with
        | true => exact iff_of_true (Nat.le_refl _) (.inl rfl)
        | false => exact (or_iff_right Bool.false_ne_true).symm
      · -- the editor no longer waits for it: the server is ahead, the editor stays where it was
        rw [if_neg hawaiting, if_neg hawaiting, current_iff_of_opened (by exact hopened)]
        show t.editor.UpTo (max t.newest p.version) ↔ _
        constructor
        · intro hmax hne
          exact ⟨(Nat.max_le.mp (hmax hne).1).2, (Nat.max_le.mp (hmax hne).2).2⟩
        · intro hversion hne
          exact ⟨Nat.max_le.mpr ⟨(hupTo hne).1, (hversion hne).1⟩,
            Nat.max_le.mpr ⟨(hupTo hne).2, (hversion hne).2⟩⟩

theorem Quiet.current {t' : EditorSession Obj} (hquiet : t.Quiet t') (hcurrent : t.Current) :
    t'.Current := by
  intro hopened hne
  rcases hquiet.named with hnone | ⟨hnamed, hversion, hbasis⟩
  · exact absurd hnone hne
  · rw [hquiet.newest, hversion, hbasis]
    exact hcurrent (hquiet.opened hopened) (hnamed ▸ hne)

/-- What happens while the editor is closed leaves it closed, unless it is opened. -/
theorem load_opened : (t.load m).editor.opened = t.editor.opened := by
  show (ite _ _ _ : ManifestEditor).opened = _
  split
  · rfl
  · rfl

theorem deliver_opened {answer : Except HTTPError ApplyResp} :
    (t.deliver i p answer).editor.opened = t.editor.opened := by
  show (ite _ _ _ : ManifestEditor).opened = _
  split
  · cases answer with
    | error err => rfl
    | ok resp => exact (apply_ite ManifestEditor.opened _ _ _).trans (ite_self _)
  · rfl

/-- An event that happens while the editor is closed. -/
theorem current_iff_of_closed {t' : EditorSession Obj} {P : Prop}
    (hclosed : t.editor.opened = false) (hsame : t'.editor.opened = t.editor.opened) :
    t'.Current ↔ (t.editor.opened = true → P) := by
  refine iff_of_true (current_of_closed (hsame.trans hclosed)) ?_
  intro hopened
  rw [hclosed] at hopened
  cases hopened

section Steps

variable [DecidableEq Obj]

/-- **An event leaves the editor's version current exactly if it meets the condition.** -/
theorem Known.current_moves_iff (hK : K.Lawful L) (h : t.Known K) (hcurrent : t.Current)
    {ev : ManifestEvent} {t' : EditorSession Obj} (hmoves : Moves L K c t ev t') :
    t'.Current ↔ t.ready ev := by
  cases hmoves with
  -- of the events that the condition does not speak of, none changes a version
  | quiet hquiet hready => exact iff_of_true (hquiet.current hcurrent) hready
  | opens hclosed => exact (h.openEditor_current_iff hK).trans (imp_iff_right hclosed).symm
  | reads => exact iff_of_true hcurrent trivial
  | loads m hfetch =>
      cases hopened : t.editor.opened with
      | false => exact current_iff_of_closed hopened load_opened
      | true =>
          refine Iff.trans ?_ (imp_iff_right hopened).symm
          unfold FetchCurrent
          rw [hfetch]
          exact h.load_current_iff hK (h.fetched m hfetch) hopened hcurrent
  | sends dialog dryRun _ hev =>
      refine iff_of_true hcurrent ?_
      rw [hev]
      cases dryRun <;> trivial
  | serves i refuse p _ _ => exact iff_of_true hcurrent trivial
  | delivers i p answer hp hdelivered hanswer =>
      cases hopened : t.editor.opened with
      | false => exact current_iff_of_closed hopened deliver_opened
      | true =>
          refine Iff.trans ?_ (imp_iff_right hopened).symm
          unfold AnswerCurrent
          rw [hp]
          refine Iff.trans ?_ (imp_iff_right hdelivered).symm
          exact h.deliver_current_iff hK hp hanswer hopened hcurrent
  | loses i p _ hquiet =>
      exact iff_of_true (fun hopened hne => hquiet.current hcurrent hopened hne) trivial

end Steps

/-! ## §5. Applies and conflicts. -/

/-- The version on the server is the one that the apply names that it has not processed; there is
only one such apply, and none has been refused with a conflict. -/
structure Unrefused (K : ManifestServer Obj) (t : EditorSession Obj) : Prop where
  named : ∀ p ∈ t.posts, p.waiting = true →
    p.body.resourceVersion = "" ∨ p.body.resourceVersion = K.versionText t.stored.version
  single : ∀ (i j : Nat) (p q : ManifestPost), t.posts[i]? = some p → t.posts[j]? = some q →
    p.waiting = true → q.waiting = true → i = j
  unrefused : ∀ p ∈ t.posts, p.body.dryRun = false → p.conflicts = false

theorem start_unrefused (object : Obj) : (start object).Unrefused K := ⟨nofun, nofun, nofun⟩

/-- **The client sends nothing, and the server does nothing.** -/
theorem Unrefused.same (h : t.Unrefused K) {t' : EditorSession Obj}
    (hstored : t'.stored = t.stored) (hposts : t'.posts = t.posts) : t'.Unrefused K := by
  refine ⟨?_, ?_, ?_⟩
  · rw [hstored, hposts]
    exact h.named
  · rw [hposts]
    exact h.single
  · rw [hposts]
    exact h.unrefused

theorem getElem?_set_cases {posts : List ManifestPost} {j : Nat}
    (h : (posts.set i p')[j]? = some q) : j = i ∧ q = p' ∨ j ≠ i ∧ posts[j]? = some q := by
  by_cases hij : i = j
  · rw [← hij] at h ⊢
    have hi : i < posts.length := by
      have hlt := (List.getElem?_eq_some_iff.mp h).1
      rwa [List.length_set] at hlt
    rw [List.getElem?_set_self hi] at h
    exact .inl ⟨rfl, (Option.some.inj h).symm⟩
  · rw [List.getElem?_set_ne hij] at h
    exact .inr ⟨Ne.symm hij, h⟩

/-- **A request that has the same answer** takes the place of `p`. -/
theorem Unrefused.withPost (h : t.Unrefused K) (hp : t.posts[i]? = some p) (p' : ManifestPost)
    (hbody : p'.body = p.body) (hanswer : p'.answer = p.answer) :
    ({ t with posts := t.posts.set i p' } : EditorSession Obj).Unrefused K := by
  have hmem : p ∈ t.posts := List.mem_of_getElem? hp
  have hwaiting : p'.waiting = p.waiting := by
    unfold ManifestPost.waiting
    rw [hbody, hanswer]
  have hconflicts : p'.conflicts = p.conflicts := by
    unfold ManifestPost.conflicts
    rw [hanswer]
  -- what waits at some place has waited there before
  have hold : ∀ (j : Nat) (q : ManifestPost), (t.posts.set i p')[j]? = some q → q.waiting = true →
      ∃ q', t.posts[j]? = some q' ∧ q'.waiting = true := by
    intro j q hq hwait
    rcases getElem?_set_cases hq with ⟨rfl, rfl⟩ | ⟨-, hj⟩
    · exact ⟨p, hp, hwaiting ▸ hwait⟩
    · exact ⟨q, hj, hwait⟩
  refine ⟨?_, ?_, ?_⟩
  · intro q hq hwait
    rcases List.mem_or_eq_of_mem_set hq with hq | rfl
    · exact h.named q hq hwait
    · rw [hbody]
      exact h.named p hmem (hwaiting ▸ hwait)
  · intro j k q r hq hr hqwait hrwait
    obtain ⟨q', hq', hqwait'⟩ := hold j q hq hqwait
    obtain ⟨r', hr', hrwait'⟩ := hold k r hr hrwait
    exact h.single j k q' r' hq' hr' hqwait' hrwait'
  · intro q hq happly
    rcases List.mem_or_eq_of_mem_set hq with hq | rfl
    · exact h.unrefused q hq happly
    · rw [hconflicts]
      exact h.unrefused p hmem (hbody ▸ happly)

/-- **A request is sent** that is a dry run, or that names the version on the server while no other
apply waits. -/
theorem Unrefused.runApply (h : t.Unrefused K) {dryRun : Bool}
    (hsend : dryRun = false → (∀ p ∈ t.posts, p.waiting = false) ∧
      (t.editor.resourceVersion = "" ∨
        t.editor.resourceVersion = K.versionText t.stored.version)) :
    (t.runApply dryRun).Unrefused K := by
  obtain ⟨new, hnew⟩ : ∃ new : ManifestPost, new =
      ⟨⟨t.editor.editedYAML, t.editor.resourceVersion, dryRun⟩, none, false, 0⟩ := ⟨_, rfl⟩
  have hposts : (t.runApply dryRun).posts = t.posts ++ [new] := by
    rw [hnew]
    rfl
  have hwaiting : new.waiting = true → dryRun = false := by
    rw [hnew]
    intro hwait
    exact (Bool.not_eq_true' _).mp (Bool.and_eq_true_iff.mp hwait).1
  refine ⟨?_, ?_, ?_⟩
  · rw [hposts]
    intro p hp hwait
    rcases List.mem_append.mp hp with hold | hlast
    · exact h.named p hold hwait
    · rw [List.mem_singleton.mp hlast] at hwait ⊢
      have hversion := (hsend (hwaiting hwait)).2
      rw [hnew]
      exact hversion
  · rw [hposts]
    intro j k p q hp hq hpwait hqwait
    -- two of the old ones, or one of them is new and the other does not wait
    have hplace : ∀ (j : Nat) (p : ManifestPost), (t.posts ++ [new])[j]? = some p →
        p.waiting = true → t.posts[j]? = some p ∨
          j = t.posts.length ∧ ∀ p ∈ t.posts, p.waiting = false := by
      intro j p hp hwait
      rcases Nat.lt_trichotomy j t.posts.length with hlt | heq | hgt
      · rw [List.getElem?_append_left hlt] at hp
        exact .inl hp
      · rw [heq, List.getElem?_concat_length] at hp
        cases hp
        exact .inr ⟨heq, (hsend (hwaiting hwait)).1⟩
      · rw [List.getElem?_eq_none (by simp; omega)] at hp
        cases hp
    rcases hplace j p hp hpwait with hj | ⟨hj, hnone⟩
    · rcases hplace k q hq hqwait with hk | ⟨-, hnone⟩
      · exact h.single j k p q hj hk hpwait hqwait
      · exact absurd hpwait (Bool.eq_false_iff.mp (hnone p (List.mem_of_getElem? hj)))
    · rcases hplace k q hq hqwait with hk | ⟨hk, -⟩
      · exact absurd hqwait (Bool.eq_false_iff.mp (hnone q (List.mem_of_getElem? hk)))
      · rw [hj, hk]
  · rw [hposts]
    intro p hp happly
    rcases List.mem_append.mp hp with hold | hlast
    · exact h.unrefused p hold happly
    · rw [List.mem_singleton.mp hlast, hnew]
      rfl

/-- **What the editor sends is the version on the server**, once the earlier applies have been
answered. -/
theorem Known.names_stored (h : t.Known K) (hcurrent : t.Current) (hopened : t.editor.opened = true)
    (hanswered : t.answered .confirm) :
    t.editor.resourceVersion = ""
      ∨ t.editor.resourceVersion = K.versionText t.stored.version := by
  rcases h.editor with hnone | ⟨hnamed, hle⟩
  · exact .inl hnone
  · by_cases hne : t.editor.resourceVersion = ""
    · exact .inl hne
    · have hge : t.stored.version ≤ t.editor.version := by
        rcases h.written with hfirst | ⟨p, hp, haccepted, hwritten⟩
        · rw [hfirst]
          exact Nat.zero_le _
        · have happly := (accepted_iff.mp haccepted).1
          rw [← hwritten]
          exact Nat.le_trans ((hanswered p hp happly).2 haccepted) (hcurrent hopened hne).1
      rw [hnamed, Nat.le_antisymm hle hge]
      exact .inr rfl

section Steps

variable [DecidableEq Obj] {refuse : Option OtherError}

/-- **The server processes a request.** -/
theorem Unrefused.serve (hL : L.Lawful) (hK : K.Lawful L) (h : t.Unrefused K)
    (hp : t.posts[i]? = some p) (hnone : p.answer = none) :
    (t.serve i p (t.stored.handle L K c refuse p.body)).Unrefused K := by
  have hmem : p ∈ t.posts := List.mem_of_getElem? hp
  have hwaiting : p.body.dryRun = false → p.waiting = true := by
    intro happly
    unfold ManifestPost.waiting
    rw [happly, hnone]
    rfl
  obtain ⟨handled, hhandled⟩ : ∃ handled, handled = t.stored.handle L K c refuse p.body := ⟨_, rfl⟩
  obtain ⟨p', hp'⟩ : ∃ p' : ManifestPost, p' =
      { p with answer := some handled.1, version := handled.2.version } := ⟨_, rfl⟩
  have hposts : (t.serve i p handled).posts = t.posts.set i p' := by
    rw [hp']
    rfl
  have hdone : p'.waiting = false := by
    rw [hp']
    exact Bool.and_false _
  -- whatever waits is another request
  have hother : ∀ (j : Nat) (q : ManifestPost), (t.posts.set i p')[j]? = some q → q.waiting = true →
      j ≠ i ∧ t.posts[j]? = some q := by
    intro j q hq hwait
    rcases getElem?_set_cases hq with ⟨-, rfl⟩ | hj
    · rw [hdone] at hwait
      cases hwait
    · exact hj
  rw [← hhandled]
  refine ⟨?_, ?_, ?_⟩
  · rw [hposts]
    intro q hq hwait
    obtain ⟨j, hj⟩ := List.mem_iff_getElem?.mp hq
    obtain ⟨hne, hj⟩ := hother j q hj hwait
    -- an apply is the only one that waits, and a dry run stores nothing
    have hstored : handled.2 = t.stored := by
      rcases StoredObject.handle_cases hL hK c t.stored refuse p.body with
        ⟨err, hhandle, -⟩ | ⟨resp, s', hhandle, -, hdry, -⟩
      · rw [hhandled, hhandle]
      · rw [hhandled, hhandle]
        cases hbody : p.body.dryRun with
        | true => exact hdry hbody
        | false => exact absurd (h.single j i q p hj hp hwait (hwaiting hbody)) hne
    have hnamed := h.named q (List.mem_of_getElem? hj) hwait
    show _ ∨ _ = K.versionText handled.2.version
    rw [hstored]
    exact hnamed
  · rw [hposts]
    intro j k q r hq hr hqwait hrwait
    exact h.single j k q r (hother j q hq hqwait).2 (hother k r hr hrwait).2 hqwait hrwait
  · rw [hposts]
    intro q hq happly
    rcases List.mem_or_eq_of_mem_set hq with hold | rfl
    · exact h.unrefused q hold happly
    · rw [hp'] at happly ⊢
      rcases StoredObject.handle_cases hL hK c t.stored refuse p.body with
        ⟨err, hhandle, hconflict⟩ | ⟨resp, s', hhandle, -⟩
      · rw [hhandled, hhandle]
        show (err.status == 409) = false
        rw [beq_eq_false_iff_ne]
        intro hstatus
        obtain ⟨hne, hother⟩ := hconflict hstatus
        rcases h.named p hmem (hwaiting happly) with hnone | hsame
        · exact hne hnone
        · exact hother hsame
      · rw [hhandled, hhandle]
        rfl

/-- **No event makes the server refuse an apply**, if the version is current and the earlier applies
have been answered. -/
theorem Unrefused.moves (hL : L.Lawful) (hK : K.Lawful L) (hknown : t.Known K)
    (hcurrent : t.Current) (h : t.Unrefused K) {ev : ManifestEvent} (hanswered : t.answered ev)
    {t' : EditorSession Obj} (hmoves : Moves L K c t ev t') : t'.Unrefused K := by
  cases hmoves with
  -- an apply can be refused only for what it names and for what is stored: the editor's own
  -- fields do not count, until it sends
  | quiet hquiet _ => exact h.same hquiet.stored hquiet.posts
  | opens _ =>
      unfold EditorSession.openEditor
      split
      · exact h.same rfl rfl
      · exact h.same rfl rfl
  | reads => exact h.same rfl rfl
  | loads m _ => exact h.same rfl rfl
  | sends dialog dryRun hopened hev =>
      have hdialog : ({ t with editor := { t.editor with applyDialogOpen := dialog } } :
          EditorSession Obj).Unrefused K := h.same rfl rfl
      refine hdialog.runApply ?_
      rintro rfl
      rw [hev] at hanswered
      refine ⟨?_, hknown.names_stored hcurrent hopened hanswered⟩
      intro p hp
      unfold ManifestPost.waiting
      cases happly : p.body.dryRun with
      | true => rfl
      | false =>
          rw [Option.isNone_eq_false_iff.mpr (hanswered p hp happly).1]
          rfl
  | serves i refuse p hp hnone => exact h.serve hL hK hp hnone
  | delivers i p answer hp _ _ =>
      exact (h.withPost hp { p with delivered := true } rfl rfl).same rfl rfl
  | loses i p hp _ => exact (h.withPost hp { p with delivered := true } rfl rfl).same rfl rfl

end Steps

end EditorSession

end Invariant

/-! ## §6. The theorem. -/

namespace EditorSession

section Runs

variable {Obj : Type} [DecidableEq Obj] {L : ManifestLib Obj} {K : ManifestServer Obj}
  {c : ManifestClient} {t : EditorSession Obj} {events : List ManifestEvent}

/-- **The run lemma of the version.** -/
theorem Known.current_run_iff (hL : L.Lawful) (hK : K.Lawful L) (h : t.Known K)
    (hcurrent : t.Current) :
    (∀ n, (t.run L K c (events.take n)).Current) ↔ t.throughout L K c ready events := by
  induction events generalizing t with
  | nil =>
      refine iff_of_true ?_ trivial
      intro n
      rw [List.take_nil]
      exact hcurrent
  | cons ev rest ih =>
      have hmoves : Moves L K c t ev (t.step L K c ev) := step_moves t ev
      have hstep := h.current_moves_iff hK hcurrent hmoves
      by_cases hready : t.ready ev
      · have hrest := ih (h.moves hL hK hmoves) (hstep.mpr hready)
        refine Iff.trans ?_ (hrest.trans (and_iff_right hready).symm)
        refine ⟨fun hall n => hall (n + 1), fun hall n => ?_⟩
        cases n with
        | zero => exact hcurrent
        | succ n => exact hall n
      · refine iff_of_false ?_ (fun hboth => hready hboth.1)
        intro hall
        exact hready (hstep.mp (hall 1))

/-- **The run lemma of the applies.** -/
theorem Unrefused.run (hL : L.Lawful) (hK : K.Lawful L) (hknown : t.Known K) (hcurrent : t.Current)
    (h : t.Unrefused K) (hready : t.throughout L K c ready events)
    (hanswered : t.throughout L K c answered events) : (t.run L K c events).Unrefused K := by
  induction events generalizing t with
  | nil => exact h
  | cons ev rest ih =>
      have hmoves : Moves L K c t ev (t.step L K c ev) := step_moves t ev
      refine ih (hknown.moves hL hK hmoves) ?_ ?_ hready.2 hanswered.2
      · exact (hknown.current_moves_iff hK hcurrent hmoves).mpr hready.1
      · exact h.moves hL hK hknown hcurrent hanswered.1 hmoves

end Runs

end EditorSession

/-- **THE EDITOR'S VERSION GOES BACKWARDS EXACTLY WHEN IT TAKES UP SOMETHING OLDER**: for every
sequence of events, the text and the version of the open editor are at least as new as whatever an
apply or a fetch has returned, if and only if what it takes up is, whenever it takes up something.
Then no apply is refused with a conflict that is sent once the earlier ones have been answered. -/
theorem manifest_editor_current_iff {Obj : Type} [DecidableEq Obj] {L : ManifestLib Obj}
    {K : ManifestServer Obj} (hL : L.Lawful) (hK : K.Lawful L) (c : ManifestClient) (object : Obj)
    (events : List ManifestEvent) :
    let t := EditorSession.start object
    ((∀ n, (t.run L K c (events.take n)).Current)
        ↔ t.throughout L K c EditorSession.ready events)
      ∧ (t.throughout L K c EditorSession.ready events →
        t.throughout L K c EditorSession.answered events →
          ∀ p ∈ (t.run L K c events).posts, p.body.dryRun = false → p.conflicts = false) := by
  intro t
  have hknown : t.Known K := EditorSession.start_known object
  have hcurrent : t.Current := EditorSession.current_of_closed rfl
  refine ⟨hknown.current_run_iff hL hK hcurrent, ?_⟩
  intro hready hanswered
  have hrun := EditorSession.Unrefused.run hL hK hknown hcurrent
    (EditorSession.start_unrefused object) hready hanswered
  exact hrun.unrefused

section Sequences

/-- A ConfigMap with one entry. -/
structure NoteObject where
  note : String
  kind : String
  ns : String
  name : String
  resourceVersion : String
  deriving DecidableEq

/-- The ConfigMap `ns/cm`. -/
def noteObject (note : String) : NoteObject := ⟨note, "ConfigMap", "ns", "cm", ""⟩

/-- Its manifest. -/
def noteText (note : String) : String :=
  "apiVersion: v1\ndata:\n  note: " ++ note
    ++ "\nkind: ConfigMap\nmetadata:\n  name: cm\n  namespace: ns\n"

/-- Decoders that know three texts. -/
def noteLib : ManifestLib NoteObject where
  lowerRune := Char.toLower
  quote := fun s => "\"" ++ s ++ "\""
  decodeMeta := fun s =>
    match ["a", "b", "c"].find? fun note => noteText note == s with
    | some _ => .ok ⟨"ConfigMap", "ns", "cm"⟩
    | none => .error "error converting YAML to JSON"
  decodeObject := fun s =>
    match ["a", "b", "c"].find? fun note => noteText note == s with
    | some note => .ok (some (noteObject note))
    | none => .error "error converting YAML to JSON"
  kind := NoteObject.kind
  ns := NoteObject.ns
  name := NoteObject.name
  resourceVersion := NoteObject.resourceVersion
  setResourceVersion := fun o rv => { o with resourceVersion := rv }

/-- An API server that stores what it is given. -/
def noteServer : ManifestServer NoteObject where
  gvr := ⟨"", "v1", "configmaps"⟩
  ns := "ns"
  name := "cm"
  render := fun o => noteText o.note
  accept := fun _ o => .ok { o with resourceVersion := "" }
  versionText := fun n => String.ofList (Nat.toDigits 10 n)

theorem noteLib_lawful : noteLib.Lawful where
  lower_lower := toLower_toLower_char
  resourceVersion_set := fun _ _ _ _ => rfl
  kind_set := fun _ _ => rfl
  ns_set := fun _ _ => rfl
  name_set := fun _ _ => rfl

theorem noteServer_lawful : noteServer.Lawful noteLib where
  versionText_injective := by
    intro n n' h
    have hdigits : Nat.toDigits 10 n = Nat.toDigits 10 n' := String.ofList_injective h
    have hread := decimal_toDigits n
    rw [hdigits, decimal_toDigits n'] at hread
    exact (Option.some.inj hread).symm
  versionText_ne := by
    intro n h
    have hlist := congrArg String.toList h
    rw [noteServer, String.toList_ofList] at hlist
    exact Nat.toDigits_ne_nil hlist
  accept_name := by
    intro stored o o' h
    cases h
    rfl

/-- The editor is opened, and its manifest comes. -/
def openAndLoad : List ManifestEvent := [.openEditor, .fetchRead, .fetchDone]

/-- The user makes the entry `note`, and applies it; the answer comes. -/
def editAndApply (note : String) (i : Nat) : List ManifestEvent :=
  [.edit (noteText note), .apply, .confirm, .serve i none, .answer i]

/-- The user applies, presses Reload, closes the editor, opens it again, and applies. -/
theorem manifest_editor_after_reload :
    let t := EditorSession.start (noteObject "a")
    let events := openAndLoad ++ editAndApply "b" 0 ++ [.reload, .fetchRead, .fetchDone, .close,
      .openEditor] ++ editAndApply "c" 1
    (∀ n, (t.run noteLib noteServer plainClient (events.take n)).Current)
      ∧ (t.run noteLib noteServer plainClient events).posts.map ManifestPost.accepted = [true, true]
      ∧ ∀ p ∈ (t.run noteLib noteServer plainClient events).posts,
          p.body.dryRun = false → p.conflicts = false := by
  intro t events
  have hall := manifest_editor_current_iff noteLib_lawful noteServer_lawful plainClient
    (noteObject "a") events
  have hready : t.throughout noteLib noteServer plainClient EditorSession.ready events := by
    decide +kernel
  refine ⟨hall.1.mpr hready, by decide +kernel, hall.2 hready ?_⟩
  decide +kernel

/-- **Without Reload the editor starts from the old manifest**, and its next apply is refused with a
conflict, although nobody else has written the object. -/
theorem manifest_editor_reopened :
    let t := (EditorSession.start (noteObject "a")).run noteLib noteServer plainClient
      (openAndLoad ++ editAndApply "b" 0 ++ [.close, .openEditor])
    t.editor.editedYAML = noteText "a" ∧ t.editor.resourceVersion = noteServer.versionText 0
      ∧ t.stored.version = 1 ∧ t.newest = 1 ∧ ¬ t.Current
      ∧ (t.run noteLib noteServer plainClient (editAndApply "c" 1)).posts.map
          ManifestPost.conflicts = [false, true] := by
  decide +kernel

end Sequences

end ControlRoom
