import Scheduler0.Repository.Project

/-!
# Invariants of the projects table over runs of the repository

The data model asks for unique, non-empty project names and non-empty
descriptions. The store declares neither, so both rest on the repository.
A run folds write calls, each with the replicated log's verdict, over the
store, and `runOps_invariant` lifts a one-call lemma to every run. A
description update keeps every name, a delete only drops rows, and an insert
under a name not yet stored keeps names unique. What breaks the invariants is
`CreateOne`'s duplicate check, which never fires and copies the stored
description into the new row, and `UpdateOneByID`, which checks nothing.
-/

namespace Scheduler0.ProjectRepo

open Utils Fsm

inductive ProjectOp where
  | createOne (project : Project) (now : ℕ)
  | updateOneByID (project : Project)
  | deleteOneByID (project : Project)

def ProjectOp.run (v : RaftVerdict) : ProjectOp → Store → Store
  | .createOne p now, s => (ProjectRepo.createOne v now p s).2.2
  | .updateOneByID p, s => (ProjectRepo.updateOneByID v p s).2
  | .deleteOneByID p, s => (ProjectRepo.deleteOneByID v p s).2

def runOps : Store → List (ProjectOp × RaftVerdict) → Store
  | s, [] => s
  | s, (op, v) :: ops => runOps (op.run v s) ops

def Admits (A : Store → ProjectOp → Prop) : Store → List (ProjectOp × RaftVerdict) → Prop
  | _, [] => True
  | s, (op, v) :: ops => A s op ∧ Admits A (op.run v s) ops

/-- A property of the table that every admitted call keeps holds after every
admitted run. -/
theorem runOps_invariant (P : ProjectsTable → Prop) (A : Store → ProjectOp → Prop)
    (hstep : ∀ s op v, P s.projects → A s op → P (op.run v s).projects) :
    ∀ s ops, P s.projects → Admits A s ops → P (runOps s ops).projects
  | _, [], hs, _ => hs
  | s, (op, v) :: ops, hs, ⟨ha, hops⟩ =>
    runOps_invariant P A hstep (op.run v s) ops (hstep s op v hs ha) hops

/-! ## Unique names -/

def NamesUnique (t : ProjectsTable) : Prop := (t.rows.map Project.name).Nodup

theorem namesUnique_setDescription {t : ProjectsTable} (h : NamesUnique t) (id : ℕ) (d : String) :
    NamesUnique (t.setDescription id d) := by
  have hnames : (t.setDescription id d).rows.map Project.name = t.rows.map Project.name := by
    simp [Function.comp_def]
  rw [NamesUnique, hnames]
  exact h

theorem namesUnique_delete {t : ProjectsTable} (h : NamesUnique t) (id : ℕ) :
    NamesUnique (t.delete id) :=
  h.sublist ((List.filter_sublist _).map _)

theorem namesUnique_insert {t : ProjectsTable} (h : NamesUnique t) {n : String}
    (hn : ∀ r ∈ t.rows, r.name ≠ n) (d : String) (c : ℕ) : NamesUnique (t.insert n d c) := by
  simp only [NamesUnique, ProjectsTable.insert_rows, List.map_append, List.map_cons,
    List.map_nil]
  exact h.append (List.nodup_singleton n) (by simpa [List.disjoint_singleton] using hn)

def FreshCreate (s : Store) : ProjectOp → Prop
  | .createOne p _ => ∀ r ∈ s.projects.rows, r.name ≠ p.name
  | _ => True

theorem namesUnique_run (s : Store) (op : ProjectOp) (v : RaftVerdict)
    (h : NamesUnique s.projects) (hf : FreshCreate s op) : NamesUnique (op.run v s).projects := by
  cases op with
  | createOne p now =>
    rcases createOne_store v now p s with hs | ⟨-, -, hs⟩
    · simpa [ProjectOp.run, hs] using h
    · have hq := getOneByName_of_not_mem hf
      simp only [ProjectOp.run, hs, insertedRow, applyCommand, hq]
      exact namesUnique_insert h hf _ _
  | updateOneByID p =>
    rcases updateOneByID_store v p s with hs | hs <;> simp only [ProjectOp.run, hs]
    · exact h
    · exact namesUnique_setDescription h _ _
  | deleteOneByID p =>
    rcases deleteOneByID_store v p s with hs | ⟨-, hs⟩ <;> simp only [ProjectOp.run, hs]
    · exact h
    · exact namesUnique_delete h _

/-- A committed `CreateOne` under a stored name returns the new id and leaves
two rows with that name: its duplicate check never fires. -/
theorem createOne_commit_duplicate_name (now : ℕ) {p : Project} (s : Store)
    (hn : 0 < p.name.length) (hd : 0 < p.description.length)
    (h : ∃ r ∈ s.projects.rows, r.name = p.name) :
    (createOne .commit now p s).1 = .ok (s.projects.seq + 1) ∧
      ¬NamesUnique (createOne .commit now p s).2.2.projects := by
  obtain ⟨hq, hqn⟩ := getOneByName_of_mem h
  rw [createOne_commit now s hn hd]
  refine ⟨rfl, fun hu => ?_⟩
  simp only [NamesUnique, applyCommand, insertedRow, ProjectsTable.insert_rows, List.map_append,
    List.map_cons, List.map_nil, List.nodup_append, List.disjoint_singleton] at hu
  exact hu.2.2 (List.mem_map_of_mem _ hq)

theorem createOne_commit_duplicate_name_one_row :
    let s : Store := ⟨(ProjectsTable.empty false).insert "a" "d" 0, []⟩
    NamesUnique s.projects ∧
      (createOne .commit 5 ⟨0, "a", "d", 0⟩ s).1 = .ok 2 ∧
      ¬NamesUnique (createOne .commit 5 ⟨0, "a", "d", 0⟩ s).2.2.projects :=
  ⟨List.nodup_singleton _,
    createOne_commit_duplicate_name 5 ⟨(ProjectsTable.empty false).insert "a" "d" 0, []⟩ (by decide)
      (by decide) ⟨_, List.mem_singleton_self _, rfl⟩⟩

/-! ## The row `CreateOne` inserts -/

/-- Under a stored name, the row a committed `CreateOne` inserts takes its
description from a stored project with that name, not from the caller. -/
theorem createOne_commit_copies_description (now : ℕ) {p : Project} (s : Store)
    (hn : 0 < p.name.length) (hd : 0 < p.description.length)
    (h : ∃ r ∈ s.projects.rows, r.name = p.name) :
    ∃ r ∈ s.projects.rows, r.name = p.name ∧
      createOne .commit now p s =
        (.ok (s.projects.seq + 1), ⟨s.projects.seq + 1, p.name, r.description, now⟩,
          { s with projects := s.projects.insert p.name r.description now }) := by
  obtain ⟨hq, hqn⟩ := getOneByName_of_mem h
  refine ⟨_, hq, hqn, ?_⟩
  rw [createOne_commit now s hn hd]
  simp only [insertedRow, applyCommand, hqn]

theorem createOne_commit_copies_description_old :
    let s : Store := ⟨(ProjectsTable.empty false).insert "a" "old" 0, []⟩
    (createOne .commit 5 ⟨0, "a", "new", 0⟩ s).1 = .ok 2 ∧
      (createOne .commit 5 ⟨0, "a", "new", 0⟩ s).2.1 = ⟨2, "a", "old", 5⟩ ∧
      (createOne .commit 5 ⟨0, "a", "new", 0⟩ s).2.2.projects.rows =
        [⟨1, "a", "old", 0⟩, ⟨2, "a", "old", 5⟩] := by
  obtain ⟨r, hr, -, heq⟩ := @createOne_commit_copies_description 5 ⟨0, "a", "new", 0⟩
    ⟨(ProjectsTable.empty false).insert "a" "old" 0, []⟩ (by decide) (by decide)
    ⟨_, List.mem_singleton_self _, rfl⟩
  rw [List.mem_singleton.1 hr] at heq
  dsimp only
  rw [heq]
  exact ⟨rfl, rfl, rfl⟩

/-! ## Non-empty fields -/

def FieldsNonEmpty (t : ProjectsTable) : Prop :=
  ∀ r ∈ t.rows, 0 < r.name.length ∧ 0 < r.description.length

def NoEmptyUpdate : ProjectOp → Prop
  | .updateOneByID p => 0 < p.description.length
  | _ => True

theorem fieldsNonEmpty_insert {t : ProjectsTable} (h : FieldsNonEmpty t) {n d : String}
    (hn : 0 < n.length) (hd : 0 < d.length) (c : ℕ) : FieldsNonEmpty (t.insert n d c) := by
  intro r hr
  simp only [ProjectsTable.insert_rows, List.mem_append, List.mem_singleton] at hr
  rcases hr with hr | rfl
  · exact h r hr
  · exact ⟨hn, hd⟩

theorem fieldsNonEmpty_setDescription {t : ProjectsTable} (h : FieldsNonEmpty t) (id : ℕ)
    {d : String} (hd : 0 < d.length) : FieldsNonEmpty (t.setDescription id d) := by
  intro r' hr'
  obtain ⟨r, hr, rfl⟩ := List.mem_map.1 hr'
  unfold ProjectsTable.describe
  split_ifs
  · exact ⟨(h r hr).1, hd⟩
  · exact h r hr

theorem fieldsNonEmpty_delete {t : ProjectsTable} (h : FieldsNonEmpty t) (id : ℕ) :
    FieldsNonEmpty (t.delete id) :=
  fun r hr => h r (List.mem_of_mem_filter hr)

theorem fieldsNonEmpty_run (s : Store) (op : ProjectOp) (v : RaftVerdict)
    (h : FieldsNonEmpty s.projects) (hu : NoEmptyUpdate op) :
    FieldsNonEmpty (op.run v s).projects := by
  cases op with
  | createOne p now =>
    rcases createOne_store v now p s with hs | ⟨hn, hd, hs⟩
    · simpa [ProjectOp.run, hs] using h
    · have hq : 0 < (getOneByName s.projects p).1.name.length ∧
          0 < (getOneByName s.projects p).1.description.length := by
        by_cases hm : ∃ r ∈ s.projects.rows, r.name = p.name
        · exact h _ (getOneByName_of_mem hm).1
        · rw [getOneByName_of_not_mem fun r hr hrn => hm ⟨r, hr, hrn⟩]
          exact ⟨hn, hd⟩
      simp only [ProjectOp.run, hs, insertedRow, applyCommand]
      exact fieldsNonEmpty_insert h hq.1 hq.2 now
  | updateOneByID p =>
    rcases updateOneByID_store v p s with hs | hs <;> simp only [ProjectOp.run, hs]
    · exact h
    · exact fieldsNonEmpty_setDescription h _ hu
  | deleteOneByID p =>
    rcases deleteOneByID_store v p s with hs | ⟨-, hs⟩ <;> simp only [ProjectOp.run, hs]
    · exact h
    · exact fieldsNonEmpty_delete h _

/-- Names and descriptions stay non-empty over every run in which no
`UpdateOneByID` carries an empty description. -/
theorem fieldsNonEmpty_runOps (s : Store) (ops : List (ProjectOp × RaftVerdict))
    (h : FieldsNonEmpty s.projects) (hu : Admits (fun _ => NoEmptyUpdate) s ops) :
    FieldsNonEmpty (runOps s ops).projects :=
  runOps_invariant FieldsNonEmpty _ fieldsNonEmpty_run s ops h hu

theorem fieldsNonEmpty_runOps_update :
    let s : Store := ⟨(ProjectsTable.empty false).insert "a" "d" 0, []⟩
    let ops : List (ProjectOp × RaftVerdict) :=
      [(.updateOneByID ⟨1, "", "e", 0⟩, .commit), (.createOne ⟨0, "", "x", 0⟩ 1, .commit)]
    FieldsNonEmpty (runOps s ops).projects :=
  fieldsNonEmpty_runOps ⟨(ProjectsTable.empty false).insert "a" "d" 0, []⟩
    [(.updateOneByID ⟨1, "", "e", 0⟩, .commit), (.createOne ⟨0, "", "x", 0⟩ 1, .commit)]
    (fun r hr => by rw [List.mem_singleton.1 hr]; decide)
    ⟨show 0 < "e".length by decide, trivial, trivial⟩

/-- `UpdateOneByID` stores an empty description when it commits on a stored id. -/
theorem updateOneByID_commit_empty_description {p : Project} (s : Store)
    (hp : ∃ r ∈ s.projects.rows, r.id = p.id) (he : p.description = "") :
    ¬FieldsNonEmpty (updateOneByID .commit p s).2.projects := by
  obtain ⟨r, hr, hid⟩ := hp
  intro hne
  have hmem : ProjectsTable.describe p.id p.description r ∈
      (updateOneByID .commit p s).2.projects.rows :=
    List.mem_map_of_mem _ hr
  have := (hne _ hmem).2
  simp [ProjectsTable.describe, hid, he] at this

theorem updateOneByID_commit_empty_description_one_row :
    let s : Store := ⟨(ProjectsTable.empty false).insert "a" "d" 0, []⟩
    FieldsNonEmpty s.projects ∧ ¬FieldsNonEmpty (updateOneByID .commit ⟨1, "a", "", 0⟩ s).2.projects :=
  ⟨fun r hr => by rw [List.mem_singleton.1 hr]; decide,
    updateOneByID_commit_empty_description ⟨(ProjectsTable.empty false).insert "a" "d" 0, []⟩
      ⟨_, List.mem_singleton_self _, rfl⟩ rfl⟩

/-! ## What a run keeps of the rows stored before it -/

def Descends (t₀ t : ProjectsTable) : Prop :=
  t.autoincrement = true ∧ t₀.seq ≤ t.seq ∧ ∀ r' ∈ t.rows,
    (∃ r ∈ t₀.rows, r.id = r'.id ∧ r.name = r'.name ∧ r.dateCreated = r'.dateCreated) ∨
      t₀.seq < r'.id

theorem descends_insert {t₀ t : ProjectsTable} (h : Descends t₀ t) (n d : String) (c : ℕ) :
    Descends t₀ (t.insert n d c) := by
  refine ⟨h.1, Nat.le_succ_of_le h.2.1, fun r' hr' => ?_⟩
  simp only [ProjectsTable.insert_rows, List.mem_append, List.mem_singleton] at hr'
  rcases hr' with hr' | rfl
  · exact h.2.2 r' hr'
  · exact .inr (Nat.lt_succ_of_le h.2.1)

theorem descends_setDescription {t₀ t : ProjectsTable} (h : Descends t₀ t) (id : ℕ) (d : String) :
    Descends t₀ (t.setDescription id d) := by
  refine ⟨h.1, h.2.1, fun r' hr' => ?_⟩
  obtain ⟨r, hr, rfl⟩ := List.mem_map.1 hr'
  simpa using h.2.2 r hr

theorem descends_delete {t₀ t : ProjectsTable} (h : Descends t₀ t) (id : ℕ) :
    Descends t₀ (t.delete id) :=
  ⟨h.1, (ProjectsTable.delete_seq_of_autoincrement h.1 id).symm ▸ h.2.1,
    fun r hr => h.2.2 r (List.mem_of_mem_filter hr)⟩

theorem descends_run (t₀ : ProjectsTable) (s : Store) (op : ProjectOp) (v : RaftVerdict)
    (h : Descends t₀ s.projects) : Descends t₀ (op.run v s).projects := by
  cases op with
  | createOne p now =>
    rcases createOne_store v now p s with hs | ⟨-, -, hs⟩ <;> simp only [ProjectOp.run, hs]
    · exact h
    · exact descends_insert h _ _ _
  | updateOneByID p =>
    rcases updateOneByID_store v p s with hs | hs <;> simp only [ProjectOp.run, hs]
    · exact h
    · exact descends_setDescription h _ _
  | deleteOneByID p =>
    rcases deleteOneByID_store v p s with hs | ⟨-, hs⟩ <;> simp only [ProjectOp.run, hs]
    · exact h
    · exact descends_delete h _

theorem admits_true : ∀ (s : Store) (ops : List (ProjectOp × RaftVerdict)),
    Admits (fun _ _ => True) s ops
  | _, [] => trivial
  | s, (op, v) :: ops => ⟨trivial, admits_true (op.run v s) ops⟩

/-- When the id column is declared `AUTOINCREMENT`, over every run of write
calls, whatever the log does with each, a row stored after the run either was
stored before it with the same id, name and creation date, only its
description free to differ, or is new, with an id above every id handed out
before the run. -/
theorem runOps_keeps_identity (s : Store) (ops : List (ProjectOp × RaftVerdict))
    (hauto : s.projects.autoincrement = true) :
    ∀ r' ∈ (runOps s ops).projects.rows,
      (∃ r ∈ s.projects.rows, r.id = r'.id ∧ r.name = r'.name ∧ r.dateCreated = r'.dateCreated) ∨
        s.projects.seq < r'.id :=
  (runOps_invariant (Descends s.projects) (fun _ _ => True)
    (fun s op v h _ => descends_run _ s op v h) s ops
    ⟨hauto, le_rfl, fun r hr => .inl ⟨r, hr, rfl, rfl, rfl⟩⟩ (admits_true s ops)).2.2

theorem runOps_keeps_identity_update :
    let s : Store := ⟨(ProjectsTable.empty true).insert "a" "d" 0, []⟩
    let ops : List (ProjectOp × RaftVerdict) := [(.updateOneByID ⟨1, "", "x", 0⟩, .commit)]
    (⟨1, "a", "x", 0⟩ : Project) ∈ (runOps s ops).projects.rows ∧
      ((∃ r ∈ s.projects.rows, r.id = 1 ∧ r.name = "a" ∧ r.dateCreated = 0) ∨ s.projects.seq < 1) :=
  ⟨by decide, runOps_keeps_identity ⟨(ProjectsTable.empty true).insert "a" "d" 0, []⟩
    [(.updateOneByID ⟨1, "", "x", 0⟩, .commit)] rfl ⟨1, "a", "x", 0⟩ (by decide)⟩

end Scheduler0.ProjectRepo
