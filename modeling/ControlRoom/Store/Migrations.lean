/-
  ControlRoom.Store.Migrations
  ────────────────────────────
  **SCHEMA MIGRATIONS** (`internal/store/store.go`).

  `Open` reads once which versions are applied, and then runs a transaction
  for each file that is not among them: its body, and an insert of its version
  under the primary key.  Any number of `Open` calls share the database, with
  every statement free to fail and every process free to die.

  A body may write any table.  One that writes `schema_migrations` makes the
  table say what has not happened (`migrations_forged`); of the others each
  runs once (`migrations_once`).

    §1  the database and the files,
    §2  `Open`, statement by statement,
    §3  what a statement does,
    §4  the outline,
    §5  migrations run exactly once.
-/
import ControlRoom.Foundation.Pool
import ControlRoom.Text.Strings
import Mathlib.Data.Char
import Mathlib.Data.List.Lex
import Mathlib.Data.List.Sort

namespace ControlRoom

open Foundation
open Machine

/-! ## §1. The database and the files. -/

/-- The name of a file, or a version. -/
abbrev MigrationName : Type := List Char

/-- `schema_migrations`: versions, and when they were applied. -/
structure SchemaMigrations where
  rows : List (MigrationName × Int)
  primaryKey : (rows.map Prod.fst).Nodup

namespace SchemaMigrations

def empty : SchemaMigrations := ⟨[], List.nodup_nil⟩

def versions (t : SchemaMigrations) : List MigrationName := t.rows.map Prod.fst

/-- `INSERT INTO schema_migrations (version, applied_at) VALUES (?, unixepoch())`. -/
def insert (t : SchemaMigrations) (version : MigrationName) (now : Int) :
    Option SchemaMigrations :=
  if h : version ∈ t.versions then none
  else some ⟨t.rows ++ [(version, now)], by
    rw [List.map_append, List.map_singleton, ← List.concat_eq_append]
    exact List.Nodup.concat h t.primaryKey⟩

end SchemaMigrations

variable {Data : Type}

/-- The database; `data` is everything but `schema_migrations`. -/
structure Database (Data : Type) where
  migrations : Option SchemaMigrations
  data : Data

/-- The versions in `schema_migrations`, if the table is there. -/
def Database.versions (db : Database Data) : List MigrationName :=
  db.migrations.elim [] SchemaMigrations.versions

/-- `CREATE TABLE IF NOT EXISTS schema_migrations`. -/
def Database.createTable (db : Database Data) : Database Data :=
  { db with migrations := some (db.migrations.getD .empty) }

/-- An entry of the directory `migrations`; the body of a file is what its statements make of the
database, or fail to. -/
structure MigrationFile (Data : Type) where
  name : MigrationName
  isDir : Bool
  body : Database Data → Option (Database Data)

/-- `strings.TrimSuffix(name, ".sql")`. -/
def version (name : MigrationName) : MigrationName := trimSuffix name ".sql".toList

/-- `applyMigration`: all of it, or nothing. -/
def MigrationFile.applyMigration (f : MigrationFile Data) (now : Int) (db : Database Data) :
    Option (Database Data) :=
  (f.body db).bind fun db => db.migrations.bind fun t =>
    (t.insert (version f.name) now).map fun t => { db with migrations := some t }

/-- The body leaves `schema_migrations` alone. -/
def MigrationFile.LeavesVersions (f : MigrationFile Data) : Prop :=
  ∀ db db', f.body db = some db' → db'.migrations = db.migrations

/-- `migrationsFS`. -/
structure MigrationsFS (Data : Type) where
  entries : List (MigrationFile Data)
  distinct : (entries.map MigrationFile.name).Nodup

/-- The names that `migrate` goes through, sorted. -/
def MigrationsFS.files (fs : MigrationsFS Data) : List (MigrationFile Data) :=
  (fs.entries.filter fun e => !e.isDir && ".sql".toList.isSuffixOf e.name).insertionSort
    fun e e' => e.name ≤ e'.name

/-! ## §2. `Open`, statement by statement. -/

/-- Where an `Open` call is. -/
inductive OpenPC (Data : Type) where
  | ping
  | createTable
  | appliedVersions
  | loop (applied : List MigrationName) (rest : List (MigrationFile Data))
  | returned (ok : Bool)
  | crashed

/-- An `Open` call, with the names of the files whose bodies it has committed. -/
structure OpenCall (Data : Type) where
  fs : MigrationsFS Data
  pc : OpenPC Data
  commits : List MigrationName

/-- The database, with the versions whose bodies have been committed, one for each time. -/
structure SchemaWorld (Data : Type) where
  db : Database Data
  committed : List MigrationName

/-- A database without migrations. -/
def SchemaWorld.fresh (data : Data) : SchemaWorld Data := ⟨⟨none, data⟩, []⟩

/-- How the next statement fares: `lost` is one that takes effect but is reported as failed, and
`work` what the server does with its tables once the database is open. -/
inductive Fate (Data : Type) where
  | ok
  | fails
  | lost
  | crash
  | work (data : Data)

namespace OpenCall

/-- The next statement of `Open`; `none` where the database refuses it. -/
def attempt (now : Int) (w : SchemaWorld Data) (call : OpenCall Data) :
    Option (SchemaWorld Data × OpenCall Data) :=
  match call.pc with
  | .ping => some (w, { call with pc := .createTable })
  | .createTable => some ({ w with db := w.db.createTable }, { call with pc := .appliedVersions })
  | .appliedVersions =>
      w.db.migrations.map fun t => (w, { call with pc := .loop t.versions call.fs.files })
  | .loop _ [] => some (w, { call with pc := .returned true })
  | .loop applied (f :: rest) =>
      if version f.name ∈ applied then some (w, { call with pc := .loop applied rest })
      else (f.applyMigration now w.db).map fun db =>
        (⟨db, w.committed ++ [version f.name]⟩,
          { call with pc := .loop applied rest, commits := call.commits ++ [f.name] })
  | .returned _ => none
  | .crashed => none

/-- One step: an error ends the call, and so does a crash. -/
def step (e : Fate Data × Int) (w : SchemaWorld Data) (call : OpenCall Data) :
    Option (SchemaWorld Data × OpenCall Data) :=
  match call.pc with
  | .crashed => none
  | .returned false => none
  | .returned true =>
      match e.1 with
      | .work data => some ({ w with db := { w.db with data := data } }, call)
      | _ => none
  | _ =>
      match e.1 with
      | .ok => some ((call.attempt e.2 w).getD (w, { call with pc := .returned false }))
      | .fails => some (w, { call with pc := .returned false })
      | .lost => some (((call.attempt e.2 w).getD (w, call)).map id
          fun call => { call with pc := .returned false })
      | .crash => some (w, { call with pc := .crashed })
      | .work _ => none

end OpenCall

/-- The `Open` calls of all processes. -/
def opens (Data : Type) : Machine (Fate Data × Int) (SchemaWorld Data) (OpenCall Data) where
  admits := fun _ _ => True
  step := OpenCall.step

/-- The call has not begun. -/
def OpenCall.Unstarted (call : OpenCall Data) : Prop := call.pc = .ping ∧ call.commits = []

/-! ## §3. What a statement does. -/

variable {w w' : SchemaWorld Data} {call call' : OpenCall Data} {e : Fate Data × Int} {now : Int}

/-- The table holds the versions whose bodies have been committed. -/
def SchemaWorld.Recorded (w : SchemaWorld Data) : Prop := w.committed = w.db.versions

theorem SchemaWorld.Recorded.nodup (h : w.Recorded) : w.committed.Nodup := by
  rw [show w.committed = w.db.versions from h]
  unfold Database.versions
  cases w.db.migrations with
  | none => exact List.nodup_nil
  | some t => exact t.primaryKey

theorem Database.versions_createTable (db : Database Data) :
    db.createTable.versions = db.versions := by
  unfold Database.versions Database.createTable
  cases db.migrations <;> rfl

/-- A transaction that commits adds its version, if its body leaves the table alone. -/
theorem MigrationFile.versions_applyMigration {f : MigrationFile Data} {db db' : Database Data}
    (hbody : f.LeavesVersions) (h : f.applyMigration now db = some db') :
    db'.versions = db.versions ++ [version f.name] := by
  unfold applyMigration at h
  obtain ⟨db₁, hdb₁, h⟩ := Option.bind_eq_some_iff.mp h
  obtain ⟨t, ht, h⟩ := Option.bind_eq_some_iff.mp h
  obtain ⟨t', hinsert, rfl⟩ := Option.map_eq_some_iff.mp h
  rw [hbody db db₁ hdb₁] at ht
  unfold SchemaMigrations.insert at hinsert
  split at hinsert
  · cases hinsert
  · obtain rfl := Option.some.inj hinsert
    unfold Database.versions SchemaMigrations.versions
    rw [ht]
    simp

theorem MigrationsFS.files_sorted (fs : MigrationsFS Data) :
    (fs.files.map MigrationFile.name).Pairwise (· < ·) := by
  have hsorted : fs.files.Pairwise fun e e' => e.name ≤ e'.name :=
    List.pairwise_insertionSort _ _
  have hdistinct : (fs.files.map MigrationFile.name).Nodup := by
    have hperm : fs.files.Perm _ := List.perm_insertionSort _ _
    rw [(hperm.map _).nodup_iff]
    exact fs.distinct.sublist (List.filter_sublist.map _)
  rw [← List.pairwise_map] at hsorted
  exact (hsorted.and hdistinct).imp fun h => lt_of_le_of_ne h.1 h.2

namespace OpenCall

/-- How far the call has come: in the loop, the files behind it are committed, by this call or by
another. -/
def Progress (call : OpenCall Data) (committed : List MigrationName) : Prop :=
  match call.pc with
  | .ping => call.commits = []
  | .createTable => call.commits = []
  | .appliedVersions => call.commits = []
  | .loop applied rest => applied ⊆ committed ∧ ∃ before, call.fs.files = before ++ rest
      ∧ (∀ f ∈ before, version f.name ∈ committed)
      ∧ call.commits.Sublist (before.map MigrationFile.name)
  | .returned ok => call.commits.Sublist (call.fs.files.map MigrationFile.name)
      ∧ (ok = true → ∀ f ∈ call.fs.files, version f.name ∈ committed)
  | .crashed => call.commits.Sublist (call.fs.files.map MigrationFile.name)

/-- What holds of a call: its bodies leave the table alone, what it has committed is committed in
the same order, and it is as far as it says. -/
structure Sound (w : SchemaWorld Data) (call : OpenCall Data) : Prop where
  bodies : ∀ f ∈ call.fs.files, f.LeavesVersions
  recorded : (call.commits.map version).Sublist w.committed
  progress : call.Progress w.committed

/-- A call commits files in their order. -/
theorem Progress.ordered {committed : List MigrationName} (h : call.Progress committed) :
    call.commits.Sublist (call.fs.files.map MigrationFile.name) := by
  unfold Progress at h
  split at h
  · rw [h]; exact List.nil_sublist _
  · rw [h]; exact List.nil_sublist _
  · rw [h]; exact List.nil_sublist _
  · obtain ⟨_, before, hfiles, _, hcommits⟩ := h
    rw [hfiles, List.map_append]
    exact hcommits.trans (List.sublist_append_left _ _)
  · exact h.1
  · exact h

/-- Commits of others do no harm. -/
theorem Sound.mono (h : call.Sound w) {more : List MigrationName}
    (hmore : w'.committed = w.committed ++ more) : call.Sound w' := by
  have hsub : w.committed ⊆ w'.committed := by
    rw [hmore]
    exact List.subset_append_left _ _
  refine ⟨h.bodies, ?_, ?_⟩
  · rw [hmore]
    exact h.recorded.trans (List.sublist_append_left _ _)
  · have hprogress := h.progress
    unfold Progress at hprogress ⊢
    split at hprogress
    · exact hprogress
    · exact hprogress
    · exact hprogress
    · obtain ⟨happlied, before, hfiles, hbefore, hcommits⟩ := hprogress
      exact ⟨List.Subset.trans happlied hsub, before, hfiles,
        fun f hf => hsub (hbefore f hf), hcommits⟩
    · exact ⟨hprogress.1, fun hok f hf => hsub (hprogress.2 hok f hf)⟩
    · exact hprogress

/-- A call that stops keeps what it has. -/
theorem Sound.stop (h : call.Sound w) {pc : OpenPC Data}
    (hpc : pc = .returned false ∨ pc = .crashed) : Sound w { call with pc := pc } := by
  refine ⟨h.bodies, h.recorded, ?_⟩
  rcases hpc with rfl | rfl
  · exact ⟨h.progress.ordered, fun hok => by cases hok⟩
  · exact h.progress.ordered

/-- **What a statement does**: it may add one version, to the table and to what is committed. -/
theorem Sound.attempt (hrecorded : w.Recorded) (h : call.Sound w)
    (hattempt : call.attempt now w = some (w', call')) :
    w'.Recorded ∧ call'.Sound w' ∧ ∃ more, w'.committed = w.committed ++ more := by
  have hprogress := h.progress
  unfold OpenCall.attempt at hattempt
  unfold Progress at hprogress
  split at hattempt
  · next hpc =>
      cases hattempt
      rw [hpc] at hprogress
      exact ⟨hrecorded, ⟨h.bodies, h.recorded, hprogress⟩, [], (List.append_nil _).symm⟩
  · next hpc =>
      cases hattempt
      rw [hpc] at hprogress
      refine ⟨?_, ⟨h.bodies, h.recorded, hprogress⟩, [], (List.append_nil _).symm⟩
      exact hrecorded.trans w.db.versions_createTable.symm
  · next hpc =>
      obtain ⟨t, ht, heq⟩ := Option.map_eq_some_iff.mp hattempt
      cases heq
      rw [hpc] at hprogress
      refine ⟨hrecorded, ⟨h.bodies, h.recorded, ?_⟩, [], (List.append_nil _).symm⟩
      -- what it reads is what is committed
      have hversions : t.versions = w.committed := by
        rw [show w.committed = w.db.versions from hrecorded]
        unfold Database.versions
        rw [ht]
        rfl
      refine ⟨?_, [], rfl, fun f hf => absurd hf List.not_mem_nil, ?_⟩
      · rw [hversions]
        exact List.Subset.refl _
      · show call.commits.Sublist _
        rw [hprogress]
        exact List.nil_sublist _
  · next hpc =>
      cases hattempt
      rw [hpc] at hprogress
      obtain ⟨_, before, hfiles, hbefore, hcommits⟩ := hprogress
      rw [List.append_nil] at hfiles
      rw [← hfiles] at hbefore hcommits
      exact ⟨hrecorded, ⟨h.bodies, h.recorded, hcommits, fun _ => hbefore⟩, [],
        (List.append_nil _).symm⟩
  · next applied f rest hpc =>
      rw [hpc] at hprogress
      obtain ⟨happlied, before, hfiles, hbefore, hcommits⟩ := hprogress
      have hfiles' : call.fs.files = (before ++ [f]) ++ rest := by
        rw [hfiles, List.append_assoc, List.singleton_append]
      split at hattempt
      · next hskip =>
          -- applied before this call
          cases hattempt
          refine ⟨hrecorded, ⟨h.bodies, h.recorded, happlied, before ++ [f], hfiles', ?_, ?_⟩, [],
            (List.append_nil _).symm⟩
          · rw [List.forall_mem_append, List.forall_mem_singleton]
            exact ⟨hbefore, happlied hskip⟩
          · rw [List.map_append]
            exact hcommits.trans (List.sublist_append_left _ _)
      · obtain ⟨db, hdb, heq⟩ := Option.map_eq_some_iff.mp hattempt
        cases heq
        have hbody : f.LeavesVersions := h.bodies f (by rw [hfiles]; simp)
        have hversions := MigrationFile.versions_applyMigration hbody hdb
        refine ⟨?_, ⟨h.bodies, ?_, ?_⟩, [version f.name], rfl⟩
        · show w.committed ++ [version f.name] = db.versions
          rw [hversions, show w.committed = w.db.versions from hrecorded]
        · rw [List.map_append]
          exact h.recorded.append (List.Sublist.refl _)
        · refine ⟨List.Subset.trans happlied (List.subset_append_left _ _), before ++ [f],
            hfiles', ?_, ?_⟩
          · rw [List.forall_mem_append, List.forall_mem_singleton]
            exact ⟨fun g hg => List.mem_append_left _ (hbefore g hg),
              List.mem_append_right _ List.mem_cons_self⟩
          · rw [List.map_append]
            exact hcommits.append (List.Sublist.refl _)
  · cases hattempt
  · cases hattempt

/-- **The step inversion**: the server works on its tables, the call stops, or a statement takes
effect. -/
theorem step_cases (h : call.step e w = some (w', call')) :
    (call' = call ∧ w'.committed = w.committed ∧ w'.db.migrations = w.db.migrations)
    ∨ (w' = w ∧ ∃ pc, (pc = .returned false ∨ pc = .crashed) ∧ call' = { call with pc := pc })
    ∨ ∃ call₁, call.attempt e.2 w = some (w', call₁)
      ∧ (call' = call₁ ∨ call' = { call₁ with pc := .returned false }) := by
  unfold OpenCall.step at h
  split at h
  · cases h
  · cases h
  · split at h
    · cases h
      exact .inl ⟨rfl, rfl, rfl⟩
    · cases h
  · split at h
    · cases hattempt : call.attempt e.2 w with
      | none =>
          rw [hattempt] at h
          cases h
          exact .inr (.inl ⟨rfl, _, .inl rfl, rfl⟩)
      | some r =>
          rw [hattempt] at h
          cases h
          exact .inr (.inr ⟨_, rfl, .inl rfl⟩)
    · cases h
      exact .inr (.inl ⟨rfl, _, .inl rfl, rfl⟩)
    · cases hattempt : call.attempt e.2 w with
      | none =>
          rw [hattempt] at h
          cases h
          exact .inr (.inl ⟨rfl, _, .inl rfl, rfl⟩)
      | some r =>
          rw [hattempt] at h
          cases h
          exact .inr (.inr ⟨_, rfl, .inr rfl⟩)
    · cases h
      exact .inr (.inl ⟨rfl, _, .inr rfl, rfl⟩)
    · cases h

/-- **The step lemma.** -/
theorem Sound.step (hrecorded : w.Recorded) (h : call.Sound w)
    (hstep : call.step e w = some (w', call')) :
    w'.Recorded ∧ call'.Sound w' ∧ ∃ more, w'.committed = w.committed ++ more := by
  rcases step_cases hstep with ⟨rfl, hcommitted, hmigrations⟩ | ⟨rfl, pc, hpc, rfl⟩
    | ⟨call₁, hattempt, hcall⟩
  · have hsame : w'.committed = w.committed ++ [] := by rw [hcommitted, List.append_nil]
    refine ⟨?_, h.mono hsame, [], hsame⟩
    show w'.committed = w'.db.versions
    unfold Database.versions
    rw [hcommitted, hmigrations]
    exact hrecorded
  · exact ⟨hrecorded, h.stop hpc, [], (List.append_nil _).symm⟩
  · obtain ⟨hrecorded', hsound, hmore⟩ := h.attempt hrecorded hattempt
    rcases hcall with rfl | rfl
    · exact ⟨hrecorded', hsound, hmore⟩
    · exact ⟨hrecorded', hsound.stop (.inl rfl), hmore⟩

end OpenCall

/-! ## §4. The outline. -/

/-- **The outline** of the `Open` calls. -/
def openOutline (Data : Type) : Outline (opens Data) Guard.free :=
  .solitary SchemaWorld.Recorded (fun w call => call.Sound w)
    (fun _ _ hstep hrecorded hsound =>
      ⟨(hsound.step hrecorded hstep).1, (hsound.step hrecorded hstep).2.1⟩)
    (by
      intro e w call w' call' other _ _ _ hstep hrecorded hsound hother
      obtain ⟨_, _, _, hmore⟩ := hsound.step hrecorded hstep
      exact hother.mono hmore)

/-! ## §5. The theorem. -/

theorem OpenCall.fs_attempt (h : call.attempt now w = some (w', call')) : call'.fs = call.fs := by
  unfold OpenCall.attempt at h
  split at h
  · cases h; rfl
  · cases h; rfl
  · obtain ⟨_, _, heq⟩ := Option.map_eq_some_iff.mp h
    cases heq; rfl
  · cases h; rfl
  · split at h
    · cases h; rfl
    · obtain ⟨_, _, heq⟩ := Option.map_eq_some_iff.mp h
      cases heq; rfl
  · cases h
  · cases h

section Runs

variable {ι : Type*} [DecidableEq ι] {c c' : Config (SchemaWorld Data) (OpenCall Data) ι}

/-- A call has its files from the beginning. -/
theorem fs_runs (h : (opens Data).Runs Guard.free c c') (i : ι) :
    (c'.locals i).fs = (c.locals i).fs := by
  refine h.preserves (I := fun d => (d.locals i).fs = (c.locals i).fs) ?_ rfl
  intro j e d d' hstep hd
  obtain ⟨w', call', hfired, _, hlocal, hrest⟩ := hstep.cases
  by_cases hi : i = j
  · subst hi
    rw [hlocal, ← hd]
    rcases OpenCall.step_cases hfired with ⟨rfl, _⟩ | ⟨_, pc, _, rfl⟩ | ⟨call₁, hattempt, hcall⟩
    · rfl
    · rfl
    · have hfs := OpenCall.fs_attempt hattempt
      rcases hcall with rfl | rfl
      · exact hfs
      · exact hfs
  · rw [hrest i hi, hd]

/-- **MIGRATIONS RUN EXACTLY ONCE**, as long as their bodies leave `schema_migrations` alone: the
table holds the versions whose bodies have been committed, none was committed twice, each call
commits in the order of the names, and a call that succeeds leaves no file behind. -/
theorem migrations_once {data : Data} (hfresh : c.shared = .fresh data)
    (hstart : ∀ i, (c.locals i).Unstarted)
    (hbodies : ∀ i, ∀ f ∈ (c.locals i).fs.files, f.LeavesVersions)
    (hruns : (opens Data).Runs Guard.free c c') :
    (∀ v, v ∈ c'.shared.committed ↔ v ∈ c'.shared.db.versions)
      ∧ c'.shared.committed.Nodup
      ∧ ∀ i, (c'.locals i).commits.Pairwise (· < ·)
        ∧ ((c'.locals i).commits.map version).Sublist c'.shared.committed
        ∧ ((c'.locals i).pc = .returned true →
          ∀ f ∈ (c.locals i).fs.files, version f.name ∈ c'.shared.db.versions) := by
  -- at the start nothing is committed and no call has begun
  have hholds : (openOutline Data).Holds c := by
    refine ⟨?_, fun i => ?_, fun _ _ _ => trivial⟩
    · show c.shared.committed = c.shared.db.versions
      rw [hfresh]
      rfl
    · obtain ⟨hpc, hcommits⟩ := hstart i
      refine ⟨hbodies i, ?_, ?_⟩
      · rw [hcommits]
        exact List.nil_sublist _
      · unfold OpenCall.Progress
        rw [hpc]
        exact hcommits
  have hend := (openOutline Data).runs hruns hholds
  have hrecorded : c'.shared.Recorded := hend.shared
  have hversions : c'.shared.committed = c'.shared.db.versions := hrecorded
  refine ⟨fun v => by rw [hversions], hrecorded.nodup, fun i => ?_⟩
  have hsound : (c'.locals i).Sound c'.shared := hend.party i
  refine ⟨(c'.locals i).fs.files_sorted.sublist hsound.progress.ordered, hsound.recorded, ?_⟩
  -- a call that returned has run through its files, which no step changes
  intro hpc f hf
  have hprogress := hsound.progress
  unfold OpenCall.Progress at hprogress
  rw [hpc] at hprogress
  rw [← fs_runs hruns i] at hf
  rw [← hversions]
  exact hprogress.2 rfl f hf

end Runs

instance (e : Fate Data × Int) (w : SchemaWorld Data) : Decidable ((opens Data).admits e w) :=
  .isTrue trivial

/-- A migration that does nothing but write its version into `schema_migrations`, if it has
another. -/
def noteFile (name noted : String) : MigrationFile Unit where
  name := name.toList
  isDir := false
  body := fun db => db.migrations.bind fun t =>
    if noted = "" then some db
    else (t.insert noted.toList 0).map fun t => { db with migrations := some t }

/-- One call of `Open`, with one file. -/
def singleOpen (f : MigrationFile Unit) : Config (SchemaWorld Unit) (OpenCall Unit) Unit :=
  ⟨.fresh (), fun _ => ⟨⟨[f], List.nodup_singleton _⟩, .ping, []⟩⟩

/-- It meets no failure. -/
def openSchedule : List (Unit × (Fate Unit × Int)) := List.replicate 5 ((), (.ok, 0))

/-- It ends with its file applied. -/
theorem migrations_once_single :
    ∃ c' : Config (SchemaWorld Unit) (OpenCall Unit) Unit,
      (c'.locals ()).commits = ["001_initial.sql".toList]
        ∧ c'.shared.db.versions = ["001_initial".toList] ∧ c'.shared.committed.Nodup := by
  have hruns : (opens Unit).Runs Guard.free (singleOpen (noteFile "001_initial.sql" ""))
      ((opens Unit).after Guard.free openSchedule (singleOpen (noteFile "001_initial.sql" ""))) :=
    runs_after (by decide)
  have honce := migrations_once rfl (fun _ => ⟨rfl, rfl⟩) (fun _ f hf => ?_) hruns
  · exact ⟨_, by decide, by decide, honce.2.1⟩
  · have hfile : f = noteFile "001_initial.sql" "" := List.mem_singleton.mp hf
    subst hfile
    intro db db' h
    obtain ⟨_, _, hsome⟩ := Option.bind_eq_some_iff.mp h
    cases hsome
    rfl

/-- **A body that writes the table**: `002` is recorded, and has never run. -/
theorem migrations_forged :
    ∃ c' : Config (SchemaWorld Unit) (OpenCall Unit) Unit,
      (opens Unit).Runs Guard.free (singleOpen (noteFile "001_initial.sql" "002_more")) c'
        ∧ ¬ ∀ v, v ∈ c'.shared.committed ↔ v ∈ c'.shared.db.versions := by
  refine ⟨(opens Unit).after Guard.free openSchedule
    (singleOpen (noteFile "001_initial.sql" "002_more")), runs_after (by decide), fun h => ?_⟩
  exact absurd ((h "002_more".toList).mpr (by decide)) (by decide)

end ControlRoom
