import CoreApi.Knowledge.Effects

/-!
# Accepted answers

A question accepts an answer after checking that it is a live answer to it. The
commands that come later keep the types, the parents and the organizations of
items, but a delete does not look for questions that have accepted the item.
-/

namespace CoreApi.Knowledge

open PrismaKnowledgeItemRepository

def KnowledgeDb.empty : KnowledgeDb := ⟨.empty, [], []⟩

/-- Any number of commands from an empty database, one after another. -/
def knowledgeCommands (sent : KnowledgeDb → Context → KnowledgeCommand → Prop) :
    TransitionSystem (Committed KnowledgeDb (Context × KnowledgeCommand) (Option String))
      (Context × KnowledgeCommand) :=
  Committed.system knowledgeEngine (fun sending => sending.2.execute sending.1)
    (fun db => db = .empty) fun db sending => sent db sending.1 sending.2

/-- The item is a live answer to the question. -/
def IsAnswerTo (db : KnowledgeDb) (question : KnowledgeItemRow) (answerId : String) : Prop :=
  ∃ answer, db.items.get? answerId = some answer ∧ answer.deletedAt = none ∧
    answer.orgId = question.orgId ∧ answer.type = .answer ∧ answer.parentId = some question.id

/-- What a live item has accepted is a live answer to it, and it is a question. -/
def AcceptedValid (db : KnowledgeDb) : Prop :=
  ∀ id row answerId, db.items.get? id = some row → row.deletedAt = none →
    row.acceptedAnswerId = some answerId → row.type = .question ∧ IsAnswerTo db row answerId

/-- No delete that finds its item is of an answer that a live item has accepted. -/
def SparesAccepted (db : KnowledgeDb) (context : Context) (command : KnowledgeCommand) : Prop :=
  ∀ delete orgId, command = .delete delete → context.tenantId = some orgId →
    (findFirst db delete.id orgId).isSome →
    ∀ id row, db.items.get? id = some row → row.deletedAt = none →
      row.acceptedAnswerId ≠ some delete.id

variable {db next : KnowledgeDb} {context : Context} {command : KnowledgeCommand}
  {reply : Option String} {row : KnowledgeItemRow}

theorem IsAnswerTo.congr {other : KnowledgeItemRow} {answerId : String}
    (isAnswer : IsAnswerTo db row answerId) (id : other.id = row.id)
    (org : other.orgId = row.orgId) : IsAnswerTo db other answerId := by
  rcases isAnswer with ⟨answer, stored, live, org', type, parent⟩
  exact ⟨answer, stored, live, org'.trans org.symm, type, parent.trans (congrArg some id.symm)⟩

theorem KnowledgeItem.verify_kept (item : KnowledgeItem) (now : ℤ) (userId : String) :
    (item.verify now userId).2.deletedAt = item.deletedAt ∧
      (item.verify now userId).2.acceptedAnswerId = item.acceptedAnswerId := by
  rw [KnowledgeItem.verify]
  split <;> exact ⟨rfl, rfl⟩

/-- Only a delete takes a live item away. -/
theorem KnowledgeCommand.stored_live (spares : ∀ delete, command ≠ .delete delete)
    (live : row.deletedAt = none) :
    (command.stored context row.toKnowledgeItem row).deletedAt = none := by
  cases command with
  | delete delete => exact absurd rfl (spares delete)
  | verify verify => exact (KnowledgeItem.verify_kept _ _ _).1.trans live
  | _ => exact live

/-- Only an accept makes an item accept an answer. -/
theorem KnowledgeCommand.stored_accepted {answerId : String}
    (accepted : (command.stored context row.toKnowledgeItem row).acceptedAnswerId = some answerId) :
    row.acceptedAnswerId = some answerId ∨
      ∃ accept, command = .acceptAnswer accept ∧ accept.answerId = answerId := by
  cases command with
  | acceptAnswer accept => exact .inr ⟨accept, rfl, Option.some.inj accepted⟩
  | unacceptAnswer unaccept => cases accepted
  | verify verify => exact .inl ((KnowledgeItem.verify_kept _ _ _).2.symm.trans accepted)
  | _ => exact .inl accepted

/-- An answer stays one as long as nobody deletes it. -/
theorem Commits.isAnswerTo (commits : Commits context db command reply next)
    {question : KnowledgeItemRow} {answerId : String}
    (spares : ∀ delete, command = .delete delete → delete.id ≠ answerId)
    (isAnswer : IsAnswerTo db question answerId) : IsAnswerTo next question answerId := by
  rcases isAnswer with ⟨answer, stored, live, org, type, parent⟩
  cases commits with
  | created fresh =>
      have other : answerId ≠ context.id := by
        rintro rfl
        cases fresh.symm.trans stored
      exact ⟨answer, by simp [OrderedMap.get?_set, other, stored], live, org, type, parent⟩
  | unchanged => exact ⟨answer, stored, live, org, type, parent⟩
  | @stored command orgId row tenant found org' live' checks =>
      by_cases same : answerId = command.target
      · subst same
        obtain rfl : row = answer := Option.some.inj (found.symm.trans stored)
        have kept := command.stored_kept context row.toKnowledgeItem row
        refine ⟨command.stored context row.toKnowledgeItem row, ?_, ?_, kept.2.1.trans org,
          kept.2.2.2.1.trans type, kept.2.2.2.2.trans parent⟩
        · simp [OrderedMap.get?_set]
        · refine KnowledgeCommand.stored_live ?_ live
          rintro delete rfl
          exact spares delete rfl rfl
      · exact ⟨answer, by simp [OrderedMap.get?_set, same, stored], live, org, type, parent⟩

theorem Commits.acceptedValid (valid : AcceptedValid db)
    (spares : SparesAccepted db context command)
    (commits : Commits context db command reply next) : AcceptedValid next := by
  have kept : ∀ id row answerId, db.items.get? id = some row → row.deletedAt = none →
      row.acceptedAnswerId = some answerId → row.type = .question ∧
        IsAnswerTo next row answerId := by
    intro id row answerId stored live accepted
    rcases valid id row answerId stored live accepted with ⟨type, isAnswer⟩
    refine ⟨type, commits.isAnswerTo ?_ isAnswer⟩
    rintro delete rfl rfl
    cases commits with
    | stored tenant found org live' checks =>
        refine spares delete _ rfl tenant ?_ id row stored live accepted
        exact Option.isSome_iff_exists.mpr ⟨_, findFirst_iff.mpr ⟨_, found, org, live', rfl⟩⟩
  intro id row' answerId stored live accepted
  cases commits with
  | @created create fresh =>
      simp only [OrderedMap.get?_set] at stored
      split at stored
      · cases stored
        cases accepted
      · exact kept id row' answerId stored live accepted
  | unchanged => exact kept id row' answerId stored live accepted
  | @stored command orgId row tenant found org live' checks =>
      have commits := Commits.stored tenant found org live' checks
      simp only [OrderedMap.get?_set] at stored
      split at stored
      · cases stored
        have same := command.stored_kept context row.toKnowledgeItem row
        rcases KnowledgeCommand.stored_accepted accepted with old | ⟨accept, rfl, rfl⟩
        · rcases kept _ _ _ found live' old with ⟨type, isAnswer⟩
          exact ⟨same.2.2.2.1.trans type, isAnswer.congr same.1 same.2.1⟩
        · rcases checks with ⟨type, answer, present, -, answers, parent⟩
          rcases findFirst_iff.mp present with ⟨answerRow, stored, org', live'', rfl⟩
          have isAnswer : IsAnswerTo db row accept.answerId :=
            ⟨answerRow, stored, live'', org'.trans org.symm, answers, parent⟩
          exact ⟨type, (commits.isAnswerTo (by rintro delete ⟨⟩) isAnswer).congr rfl rfl⟩
      · exact kept id row' answerId stored live accepted

/-- As long as no accepted answer is deleted, what a live question has accepted is a live answer to
it of the same organization. -/
theorem accepted_answers_valid
    {state : Committed KnowledgeDb (Context × KnowledgeCommand) (Option String)}
    (reached : (knowledgeCommands SparesAccepted).Reachable state) : AcceptedValid state.db := by
  have both : ItemsKeyed state.db ∧ AcceptedValid state.db := by
    refine @Committed.invariant _ _ _ _ _ _ _ _ _ _ _
      (fun state => ItemsKeyed state.db ∧ AcceptedValid state.db) reached ?_ ?_
    · rintro db rfl
      refine ⟨fun id row stored => ?_, fun id row answerId stored => ?_⟩
      · cases stored
      · cases stored
    · rintro state ⟨context, command⟩ reply writes ⟨keyed, valid⟩ spares ran
      have commits := commits_of_ok keyed ran
      exact ⟨commits.itemsKeyed keyed, commits.acceptedValid valid spares⟩
  exact both.2

/-- Alice asks a question. -/
def question : CreateKnowledgeCommand := ⟨"org", "space", .question, "Why?", "", none, "alice"⟩

/-- Bob answers it. -/
def answer : CreateKnowledgeCommand :=
  ⟨"org", "space", .answer, "Because", "", some "question", "bob"⟩

/-- One member asks, another one answers, and the first one accepts the answer. -/
def answered : List (Context × KnowledgeCommand) :=
  [(⟨some "org", "question", 0, 0⟩, .create question),
    (⟨some "org", "answer", 1, 1⟩, .create answer),
    (⟨some "org", "", 2, 2⟩, .acceptAnswer ⟨"question", "answer", "alice"⟩)]

/-- Bob's answer is deleted after it was accepted. -/
def answerDeleted : Context × KnowledgeCommand := (⟨some "org", "", 3, 3⟩, .delete ⟨"answer"⟩)

/-- The state after some commands. -/
def questionDb (commands : List (Context × KnowledgeCommand)) :
    Committed KnowledgeDb (Context × KnowledgeCommand) (Option String) :=
  Committed.run knowledgeEngine (fun sending => sending.2.execute sending.1) .empty commands

/-- The question once its answer is accepted. -/
def acceptedQuestion : KnowledgeItemRow :=
  { createdRow ⟨some "org", "question", 0, 0⟩ question with
    acceptedAnswerId := some "answer"
    updatedAt := 2 }

theorem accepted_answers_valid_answered :
    IsAnswerTo (questionDb answered).db acceptedQuestion "answer" := by
  have reached : (knowledgeCommands SparesAccepted).Reachable (questionDb answered) := by
    refine Committed.reachable_run (by rfl) answered ?_
    simp [SparesAccepted, answered]
  have stored : (questionDb answered).db.items.get? "question" = some acceptedQuestion := rfl
  exact (accepted_answers_valid reached _ _ _ stored rfl rfl).2

/-- The answer is deleted, and the question still points at it. -/
theorem accepted_answer_deleted :
    ∃ state, (knowledgeCommands fun _ _ _ => True).Reachable state ∧ ¬ AcceptedValid state.db := by
  have reached : (knowledgeCommands fun _ _ _ => True).Reachable
      (questionDb (answered ++ [answerDeleted])) :=
    Committed.reachable_run (by rfl) _ fun _ _ _ => trivial
  have stored : (questionDb (answered ++ [answerDeleted])).db.items.get? "question" =
      some acceptedQuestion := rfl
  have deleted : ((questionDb (answered ++ [answerDeleted])).db.items.get? "answer").map
      (fun row => row.deletedAt) = some (some 3) := rfl
  refine ⟨_, reached, fun valid => ?_⟩
  rcases (valid _ _ _ stored rfl rfl).2 with ⟨answer, found, live, -⟩
  simp [found, live] at deleted

end CoreApi.Knowledge
