import CoreApi.Knowledge.Isolation

/-!
# The edit history of an item

Under READ COMMITTED, with any number of commands in any order, every item has
exactly the revisions 2 to its version and the last one holds its body; and an
edit that commits moves the item from the version it expects to the next one.
-/

namespace CoreApi.Knowledge

variable {contexts : ℕ → Context} {commands : ℕ → KnowledgeCommand}
  {permits : List KnowledgeDb → KnowledgeDb → Prop} {context : Context}
  {pending : List KnowledgeWrite} {db : KnowledgeDb}

/-- The item stands at a version. -/
def AtVersion (db : KnowledgeDb) (id : String) (version : ℕ) : Prop :=
  ∃ row, db.items.get? id = some row ∧ row.version = version

theorem AtVersion.unique {id : String} {first second : ℕ} (at_first : AtVersion db id first)
    (at_second : AtVersion db id second) : first = second := by
  rcases at_first with ⟨row, found, rfl⟩
  rcases at_second with ⟨row', found', rfl⟩
  simp only [found, Option.some.injEq] at found'
  rw [found']

theorem Interference.atVersion {held : List KnowledgeWrite} {now : KnowledgeDb} {id : String}
    {version : ℕ} (interference : Interference held db now) (before : AtVersion db id version) :
    ∃ later, version ≤ later ∧ AtVersion now id later := by
  rcases before with ⟨row, found, rfl⟩
  rcases interference.grown id row found with ⟨row', found', older⟩
  exact ⟨row'.version, older, row', found', rfl⟩

/-- An edit writes the next version over the version it expects. -/
theorem Wrote.edited {edit : UpdateKnowledgeCommand}
    (wrote : Wrote permits context (.update edit) pending db) :
    AtVersion db edit.id edit.expectedVersion ∧
      AtVersion (knowledgeEngine.view db pending) edit.id (edit.expectedVersion + 1) := by
  cases wrote with
  | nothing unedited => exact absurd rfl (unedited edit)
  | created unedited fresh first => exact absurd rfl (unedited edit)
  | @stored _ view first seen orgId loaded current events permitted count head found matched held
      id validated =>
      rcases validated edit rfl with ⟨expected, same⟩
      refine ⟨⟨current, held, expected⟩, ?_⟩
      rw [view_rowWrites, KnowledgeCommand.stored_id, id]
      refine ⟨_, (OrderedMap.get?_set ..).trans (if_pos rfl), ?_⟩
      change loaded.version + 1 = _
      omega

/-- Two clients edited one item against one version. -/
def SameEdit (commands : ℕ → KnowledgeCommand) (first second : ℕ) : Prop :=
  ∃ edit edit', commands first = .update edit ∧ commands second = .update edit' ∧
    edit.id = edit'.id ∧ edit.expectedVersion = edit'.expectedVersion

/-- The committed edits are all different, and each is behind the item's version by now. -/
structure EditsDiffer (commands : ℕ → KnowledgeCommand) (db : KnowledgeDb)
    (log : List (Workload.Entry ℕ KnowledgeDb (Option String))) : Prop where
  different : log.Pairwise fun first second => ¬ SameEdit commands first.client second.client
  behind : ∀ entry ∈ log, ∀ edit, commands entry.client = .update edit →
    ∃ version, edit.expectedVersion < version ∧ AtVersion db edit.id version

theorem EditsDiffer.commit {log : List (Workload.Entry ℕ KnowledgeDb (Option String))}
    (differ : EditsDiffer commands db log) {client : ℕ} {begun : KnowledgeDb}
    {reply : Option String} (wrote : Wrote permits context (commands client) pending db) :
    EditsDiffer commands (knowledgeEngine.view db pending) (log ++ [⟨client, begun, reply⟩]) := by
  have interference : Interference [] db (knowledgeEngine.view db pending) :=
    wrote.interference (Engine.Apart.nil pending).symm
  refine ⟨?_, ?_⟩
  · refine List.pairwise_append.mpr ⟨differ.different, by simp, ?_⟩
    rintro earlier member last lastMember ⟨edit, edit', same, same', id, version⟩
    simp only [List.mem_singleton.mp lastMember] at same'
    simp only [same'] at wrote
    -- the earlier edit left the version this one expects behind
    rcases differ.behind earlier member edit same with ⟨now, older, at_now⟩
    simp only [id] at at_now
    have expected := at_now.unique wrote.edited.1
    omega
  · intro entry member edit same
    rcases List.mem_append.mp member with old | new
    · rcases differ.behind entry old edit same with ⟨now, older, at_now⟩
      rcases interference.atVersion at_now with ⟨later, grown, at_later⟩
      exact ⟨later, by omega, at_later⟩
    · simp only [List.mem_singleton.mp new] at same
      simp only [same] at wrote
      exact ⟨_, Nat.lt_succ_self _, wrote.edited.2⟩

variable {state : Workload.State ℕ KnowledgeDb KnowledgeWrite KnowledgeError (Option String)}

theorem editsDiffer_of_reachable
    (reached : (knowledgeWorkload contexts commands).system.Reachable state) :
    EditsDiffer commands state.db state.log := by
  refine Outline.invariant (knowledgeOutline contexts commands fun _ _ _ => True) ?_ ?_ ?_ reached
  · exact fun db _ => ⟨.nil, by simp⟩
  · exact fun db next log _ change => change.elim
  · rintro db next log client begun reply - differ - ⟨pending, wrote, rfl⟩
    exact differ.commit wrote

/-- In every reachable state of any number of commands: every item has exactly the revisions 2 to
its version, the last with its body; a commit of an edit moves the item from the version it expects
to the next; and no two edits of an item have committed against one version. -/
theorem editHistory_gapless
    (reached : (knowledgeWorkload contexts commands).system.Reachable state) :
    (∀ id row, state.db.items.get? id = some row → HistoryOf row (revisionsOf state.db id)) ∧
    (∀ client edit next, commands client = .update edit →
      (knowledgeWorkload contexts commands).Step state (.commit client) next →
      AtVersion state.db edit.id edit.expectedVersion ∧
        AtVersion next.db edit.id (edit.expectedVersion + 1)) ∧
    state.log.Pairwise fun first second => ¬ SameEdit commands first.client second.client := by
  have steady := Outline.steady_of_reachable
    (knowledgeOutline contexts commands fun _ _ _ => True) reached
  refine ⟨fun id row found => (steady.inv.item id row found).2, ?_,
    (editsDiffer_of_reachable reached).different⟩
  intro client edit next same move
  cases move with
  | commit finished =>
      rcases (steady.settled finished).2.1 with ⟨pending, wrote, after⟩
      simp only [same] at wrote
      have edited := wrote.edited
      rw [← after] at edited
      exact edited

/-- A document of the organization, as it was created. -/
def document : KnowledgeItemRow where
  toKnowledgeItem :=
    .create "item" 0 "org" "space" .document "Runbook" "first" none "author"
  contentHash := none

/-- What an editor's request runs with. -/
def inOrg : Context where
  tenantId := some "org"
  id := "revision"
  now := 1
  writtenAt := 1

/-- The state before any command, with one document. -/
def documentState :
    Workload.State ℕ KnowledgeDb KnowledgeWrite KnowledgeError (Option String) where
  db := ⟨OrderedMap.empty.set "item" document, [], []⟩
  log := []
  session _ := .idle

theorem documentState_initial (contexts : ℕ → Context) (commands : ℕ → KnowledgeCommand)
    (permits : ℕ → List KnowledgeDb → KnowledgeDb → Prop) :
    ((knowledgeWorkload contexts commands).under permits).system.Reachable documentState := by
  refine .initial ⟨⟨rfl, ?_⟩, rfl, fun _ => rfl⟩
  intro id row found
  by_cases same : id = "item"
  · subst same
    cases found
    exact ⟨rfl, rfl⟩
  · simp [documentState, OrderedMap.get?_set, same] at found

/-- The document is changed twice; the second change is made to what the first has left. -/
def edits (client : ℕ) : KnowledgeCommand :=
  .update ⟨"item", if client = 0 then 1 else 2, "Runbook", if client = 0 then "second" else "third",
    "editor"⟩

theorem editHistory_gapless_edited :
    ∃ (state : Workload.State ℕ KnowledgeDb KnowledgeWrite KnowledgeError (Option String))
      (row : KnowledgeItemRow), state.db.items.get? "item" = some row ∧ row.version = 3 ∧
      HistoryOf row (revisionsOf state.db "item") ∧ (revisionsOf state.db "item").length = 2 ∧
      state.log.Pairwise fun first second => ¬ SameEdit edits first.client second.client := by
  let contexts : ℕ → Context := fun client => { inOrg with now := client, writtenAt := client }
  have start : (knowledgeWorkload contexts edits).system.Reachable documentState :=
    documentState_initial contexts edits fun _ _ _ => True
  let second : KnowledgeItemRow := { document with
    body := "second", version := 2, updatedByUserId := some "editor", updatedAt := 0 }
  have reached := Workload.reachable_commit start 0 (.inl rfl) (fun _ _ => rfl)
    (.of_all (fun _ _ => trivial) _ _ _)
    (show _ = Except.ok (none, [.putItem second,
      .insertRevision ⟨"revision", "item", 2, "second", "editor", 0⟩]) by decide +kernel)
  let third : KnowledgeItemRow := { second with body := "third", version := 3, updatedAt := 1 }
  have reached' := Workload.reachable_commit reached 1 (.inl rfl)
    (fun other _ => by rcases other with _ | _ <;> rfl) (.of_all (fun _ _ => trivial) _ _ _)
    (show _ = Except.ok (none, [.putItem third,
      .insertRevision ⟨"revision", "item", 3, "third", "editor", 1⟩]) by decide +kernel)
  have history := editHistory_gapless reached'
  exact ⟨_, third, rfl, rfl, history.1 "item" third rfl, rfl, history.2.2⟩

end CoreApi.Knowledge
