import SiteWeave.Build.Session

/-!
# Running actions

An action of a build is run from a session, and leaves a result and a session. An action that only
reads leaves the file tree alone, and its result depends on nothing but the tree.

## Main definitions

* `BuildM.runFrom`: the result of an action and the session that it leaves.
* `BuildM.resultOn`: the result of an action on a file tree.
* `BuildM.Reads`: the action leaves the file tree alone and depends on it only.

## Main results

* `BuildM.Reads.exists_runFrom_bind`: an action goes on with what was read, from the same tree.
* `BuildM.Reads.bind`: reading goes on with reading.
-/

namespace SiteWeave

namespace BuildM

variable {α β : Type} {action : BuildM α} {next : α → BuildM β}

theorem bind_eq_ok_iff {ε : Type} {result : Except ε α} {more : α → Except ε β} {value : β} :
    result.bind more = .ok value ↔ ∃ first, result = .ok first ∧ more first = .ok value := by
  cases result <;> simp [Except.bind]

theorem mapError_eq_ok_iff {ε ε' : Type} {asError : ε → ε'} {result : Except ε α} {value : α} :
    result.mapError asError = .ok value ↔ result = .ok value := by
  cases result with
  | error error => exact ⟨nofun, nofun⟩
  | ok other => exact ⟨fun h => congrArg _ (Except.ok.inj h), fun h => congrArg _ (Except.ok.inj h)⟩

/-- The result of an action and the session that it leaves. -/
def runFrom (action : BuildM α) (session : Session) : Except BuildError α × Session :=
  action.run.run session

/-- An action goes on from the session that the one in front of it leaves, if that succeeds. -/
@[simp] theorem runFrom_bind (action : BuildM α) (next : α → BuildM β) (session : Session) :
    runFrom (action >>= next) session = match runFrom action session with
      | (.ok value, after) => runFrom (next value) after
      | (.error error, after) => (.error error, after) := by
  simp only [runFrom, ExceptT.run_bind, StateT.run_bind]
  obtain ⟨result, after⟩ := action.run.run session
  cases result <;> rfl

@[simp] theorem runFrom_note (records : List LogRecord) (session : Session) :
    runFrom (note records) session = (.ok (), { session with log := session.log ++ records }) := rfl

@[simp] theorem runFrom_say (text : String) (session : Session) :
    runFrom (say text) session = (.ok (), { session with printed := session.printed ++ text }) := rfl

@[simp] theorem runFrom_tree (session : Session) :
    runFrom tree session = (.ok session.tree, session) := rfl

@[simp] theorem runFrom_replaceTree (tree : FileTree) (session : Session) :
    runFrom (replaceTree tree) session = (.ok (), { session with tree := tree }) := rfl

@[simp] theorem runFrom_check {ε : Type} (asError : ε → BuildError) (result : Except ε α)
    (session : Session) :
    runFrom (check asError result) session = (result.mapError asError, session) := by
  cases result <;> rfl

/-- The result of an action on a file tree. -/
def resultOn (action : BuildM α) (tree : FileTree) : Except BuildError α :=
  (runFrom action { tree := tree }).1

/-! ### Actions that read -/

/-- The action leaves the file tree alone, and gives what `result` says of the tree. -/
structure Reads (action : BuildM α) (result : FileTree → Except BuildError α) : Prop where
  tree_eq : ∀ session, (runFrom action session).2.tree = session.tree
  result_eq : ∀ session, (runFrom action session).1 = result session.tree

theorem reads_pure (value : α) : Reads (pure value) fun _ => .ok value :=
  ⟨fun _ => rfl, fun _ => rfl⟩

theorem reads_note (records : List LogRecord) : Reads (note records) fun _ => .ok () :=
  ⟨fun _ => rfl, fun _ => rfl⟩

theorem reads_say (text : String) : Reads (say text) fun _ => .ok () :=
  ⟨fun _ => rfl, fun _ => rfl⟩

theorem reads_tree : Reads tree .ok :=
  ⟨fun _ => rfl, fun _ => rfl⟩

theorem reads_check {ε : Type} (asError : ε → BuildError) (result : Except ε α) :
    Reads (check asError result) fun _ => result.mapError asError := by
  cases result <;> exact ⟨fun _ => rfl, fun _ => rfl⟩

namespace Reads

variable {result : FileTree → Except BuildError α} {more : α → FileTree → Except BuildError β}

theorem resultOn_eq (h : Reads action result) (tree : FileTree) : resultOn action tree = result tree :=
  h.result_eq { tree := tree }

theorem toResultOn (h : Reads action result) : Reads action (resultOn action) :=
  ⟨h.tree_eq, fun session => (h.result_eq session).trans (h.resultOn_eq session.tree).symm⟩

/-- An action goes on with what was read, from the same tree. -/
theorem exists_runFrom_bind (h : Reads action result) {session : Session} {value : α}
    (hvalue : result session.tree = .ok value) : ∃ after : Session, after.tree = session.tree ∧
      runFrom (action >>= next) session = runFrom (next value) after := by
  have hresult := (h.result_eq session).trans hvalue
  refine ⟨(runFrom action session).2, h.tree_eq session, ?_⟩
  rw [runFrom_bind]
  rcases heq : runFrom action session with ⟨_ | _, after⟩ <;> rw [heq] at hresult
  · simp at hresult
  · rw [← Except.ok.inj hresult]

/-- Nothing goes on after reading fails. -/
theorem exists_runFrom_bind_error (h : Reads action result) {session : Session}
    {error : BuildError} (herror : result session.tree = .error error) :
    ∃ after : Session, after.tree = session.tree ∧
      runFrom (action >>= next) session = (.error error, after) := by
  have hresult := (h.result_eq session).trans herror
  refine ⟨(runFrom action session).2, h.tree_eq session, ?_⟩
  rw [runFrom_bind]
  rcases heq : runFrom action session with ⟨_ | _, after⟩ <;> rw [heq] at hresult
  · rw [← Except.error.inj hresult]
  · simp at hresult

/-- **Reading goes on with reading,** from the same tree. -/
theorem bind (h : Reads action result) (hnext : ∀ value, Reads (next value) (more value)) :
    Reads (action >>= next) fun tree => (result tree).bind fun value => more value tree := by
  have hboth (session : Session) :
      (runFrom (action >>= next) session).2.tree = session.tree ∧
        (runFrom (action >>= next) session).1 =
          (result session.tree).bind fun value => more value session.tree := by
    cases hresult : result session.tree with
    | error error =>
      obtain ⟨after, htree, hrun⟩ := h.exists_runFrom_bind_error hresult
      rw [hrun]
      exact ⟨htree, rfl⟩
    | ok value =>
      obtain ⟨after, htree, hrun⟩ := h.exists_runFrom_bind hresult
      rw [hrun, (hnext value).tree_eq, (hnext value).result_eq, htree]
      exact ⟨rfl, rfl⟩
  exact ⟨fun session => (hboth session).1, fun session => (hboth session).2⟩

end Reads

end BuildM

end SiteWeave
