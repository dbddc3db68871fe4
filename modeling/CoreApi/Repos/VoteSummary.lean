import Mathlib.Data.Fintype.EquivFin
import CoreApi.Engagement.UnitVotes
import CoreApi.Foundation.Observation
import CoreApi.Knowledge.Effects
import CoreApi.Repos.Queries
import CoreApi.Tenant.Founder

/-!
# The summary of the votes on an item

The summary is put together from three reads that run at the same time, each on
what is committed when it starts. The downvotes are the number of votes of one
read less the upvotes of another, so they are right exactly when both reads see
the same number of upvotes.
-/

namespace CoreApi

open Engagement

/-- What the aggregate read answers; the sum of no rows is `null`. -/
structure VoteAggregate where
  count : ℕ
  sum : Option ℤ

namespace PrismaEngagementQueryRepository

variable (db : CoreDb) (itemId orgId userId : String)

/-- The rows of `where: { itemId, orgId }`. -/
def itemVotes : List Vote :=
  db.engagement.votes.values.filter fun vote => vote.orgId = orgId ∧ vote.itemId = itemId

/-- `aggregate`: how many votes there are on an item and their sum, which is missing if there are
none. -/
def voteAggregate : VoteAggregate where
  count := (itemVotes db itemId orgId).length
  sum := match itemVotes db itemId orgId with
    | [] => none
    | rows => some (rows.map Vote.value).sum

/-- `count` of the votes that are up. -/
def voteCount : ℕ := (itemVotes db itemId orgId).countP fun vote => vote.value = 1

/-- `findFirst` of the reader's own vote. -/
def voteFindFirst : Option Vote :=
  (itemVotes db itemId orgId).find? fun vote => vote.userId = userId

/-- The summary that is put together from the three queries. -/
def voteSummary (aggregate : VoteAggregate) (upvotes : ℕ) (myVoteRow : Option Vote) :
    VoteSummaryDto where
  score := aggregate.sum.getD 0
  upvotes := upvotes
  downvotes := aggregate.count - upvotes
  myVote := (myVoteRow.map Vote.value).getD 0

/-- The summary from reads that see three databases. -/
def voteSummaryOf (aggregated counted found : CoreDb) (itemId orgId userId : String) :
    VoteSummaryDto :=
  voteSummary (voteAggregate aggregated itemId orgId) (voteCount counted itemId orgId)
    (voteFindFirst found itemId orgId userId)

/-- The sum of no rows counts as zero. -/
theorem voteAggregate_score :
    (voteAggregate db itemId orgId).sum.getD 0 =
      ((itemVotes db itemId orgId).map Vote.value).sum := by
  rw [voteAggregate]
  split
  · next none =>
      rw [none]
      rfl
  · rfl

/-- On one database the three reads are the summary of its votes. -/
theorem voteSummary_of_one :
    voteSummaryOf db db db itemId orgId userId = getVoteSummary db itemId orgId userId := by
  rw [voteSummaryOf, voteSummary, voteAggregate_score]
  rfl

end PrismaEngagementQueryRepository

/-- No count is negative, and the score is the difference of the two. -/
structure VoteSummaryDto.Consistent (summary : VoteSummaryDto) : Prop where
  upvotes : 0 ≤ (summary.upvotes : ℤ)
  downvotes : 0 ≤ summary.downvotes
  score : summary.score = summary.upvotes - summary.downvotes

open PrismaEngagementQueryRepository

section Units

variable {votes : List Vote} (units : ∀ vote ∈ votes, UnitVote vote.value)

include units

/-- Votes that are all for or against add up to the votes for less the votes against. -/
theorem sum_of_units : (votes.map Vote.value).sum =
    2 * (votes.countP fun vote => vote.value = 1) - votes.length := by
  induction votes with
  | nil => rfl
  | cons vote rest ih =>
      rw [List.forall_mem_cons] at units
      have rest := ih units.2
      rcases units.1 with up | down
      · simp only [List.map_cons, List.sum_cons, List.countP_cons, List.length_cons, up, rest]
        simp
        omega
      · simp only [List.map_cons, List.sum_cons, List.countP_cons, List.length_cons, down, rest]
        simp
        omega

/-- The counts tell which values are there. -/
theorem exists_value_iff {value : ℤ} (unit : UnitVote value) :
    (∃ vote ∈ votes, vote.value = value) ↔
    (value = 1 ∧ 0 < votes.countP fun vote => vote.value = 1) ∨
      (value = -1 ∧ (votes.countP fun vote => vote.value = 1) < votes.length) := by
  have all : (votes.countP fun vote => vote.value = 1) < votes.length ↔
      ∃ vote ∈ votes, vote.value = -1 := by
    rw [lt_iff_le_and_ne, ne_eq, List.countP_eq_length]
    simp only [List.countP_le_length, true_and, not_forall, decide_eq_true_eq, exists_prop]
    refine exists_congr fun vote => and_congr_right fun member => ?_
    rcases units vote member with up | down <;> simp [*]
  rw [all, List.countP_pos_iff]
  rcases unit with rfl | rfl <;> simp

end Units

section Reads

variable {db aggregated counted found : CoreDb} {itemId orgId userId : String}

theorem Engagement.UnitVotes.of_item (units : UnitVotes db) :
    ∀ vote ∈ itemVotes db itemId orgId, UnitVote vote.value := by
  intro vote member
  rcases OrderedMap.mem_values.mp (List.mem_of_mem_filter member) with ⟨key, stored⟩
  exact (units key vote stored).2

/-- The summary is consistent exactly when the first two reads see the same number of upvotes. -/
theorem consistent_iff (units : UnitVotes aggregated) :
    (voteSummaryOf aggregated counted found itemId orgId userId).Consistent ↔
      voteCount aggregated itemId orgId = voteCount counted itemId orgId := by
  have score : (voteAggregate aggregated itemId orgId).sum.getD 0 =
      2 * (voteCount aggregated itemId orgId : ℤ) -
        ((voteAggregate aggregated itemId orgId).count : ℤ) :=
    (voteAggregate_score aggregated itemId orgId).trans (sum_of_units units.of_item)
  have fewer : voteCount aggregated itemId orgId ≤ (voteAggregate aggregated itemId orgId).count :=
    List.countP_le_length
  constructor
  · intro consistent
    have difference := consistent.score
    simp only [voteSummaryOf, voteSummary, score] at difference
    omega
  · intro same
    refine ⟨by simp, ?_, ?_⟩
    · simp only [voteSummaryOf, voteSummary]
      omega
    · simp only [voteSummaryOf, voteSummary, score]
      omega

/-- The summary shows which values are there. -/
theorem Engagement.UnitVotes.value_iff (units : UnitVotes db) {value : ℤ} (unit : UnitVote value)
    {summary : VoteSummaryDto} (upvotes : summary.upvotes = voteCount db itemId orgId)
    (downvotes : summary.downvotes =
      (voteAggregate db itemId orgId).count - voteCount db itemId orgId) :
    (∃ vote ∈ itemVotes db itemId orgId, vote.value = value) ↔
      (value = 1 ∧ 0 < summary.upvotes) ∨ (value = -1 ∧ 0 < summary.downvotes) := by
  have counts : 0 < summary.downvotes ↔
      voteCount db itemId orgId < (voteAggregate db itemId orgId).count := by
    omega
  rw [exists_value_iff units.of_item unit, counts, upvotes]
  rfl

theorem voteFindFirst_mem {vote : Vote} (mine : voteFindFirst db itemId orgId userId = some vote) :
    vote ∈ itemVotes db itemId orgId ∧ vote.userId = userId := by
  rw [voteFindFirst] at mine
  exact ⟨List.mem_of_find?_eq_some mine, by simpa using List.find?_some mine⟩

/-- The summary of votes that are all for or against. -/
def IsSummary (itemId orgId userId : String) (summary : VoteSummaryDto) : Prop :=
  ∃ db, UnitVotes db ∧ getVoteSummary db itemId orgId userId = summary

theorem IsSummary.consistent {summary : VoteSummaryDto}
    (isSummary : IsSummary itemId orgId userId summary) : summary.Consistent := by
  rcases isSummary with ⟨db, units, rfl⟩
  rw [← voteSummary_of_one]
  exact (consistent_iff units).mpr rfl

/-- The user's own vote is among those that are counted. -/
theorem IsSummary.sees {summary : VoteSummaryDto}
    (isSummary : IsSummary itemId orgId userId summary) (unit : UnitVote summary.myVote) :
    (summary.myVote = 1 ∧ 0 < summary.upvotes) ∨ (summary.myVote = -1 ∧ 0 < summary.downvotes) := by
  rcases isSummary with ⟨db, units, rfl⟩
  rw [← voteSummary_of_one] at unit ⊢
  apply (units.value_iff unit rfl rfl).mp
  cases mine : voteFindFirst db itemId orgId userId with
  | none => rcases unit with up | down <;> simp [voteSummaryOf, voteSummary, mine] at *
  | some vote => exact ⟨vote, (voteFindFirst_mem mine).1,
      by simp [voteSummaryOf, voteSummary, mine]⟩

/-- A user has one vote on an item. -/
theorem Engagement.UnitVotes.eq_of_voter (units : UnitVotes db) {vote other : Vote}
    (member : vote ∈ itemVotes db itemId orgId)
    (member' : other ∈ itemVotes db itemId orgId)
    (voter : vote.userId = other.userId) : vote = other := by
  have keyed : db.engagement.votes.All fun key vote => (vote.itemId, vote.userId) = key :=
    OrderedMap.All.mono units fun key vote unit => unit.1
  have stored : ∀ vote ∈ itemVotes db itemId orgId,
      db.engagement.votes.get? (itemId, vote.userId) = some vote := by
    intro vote member
    rcases List.mem_filter.mp member with ⟨among, item⟩
    rw [← (of_decide_eq_true item).2]
    exact keyed.get?_of_mem among
  have found := stored vote member
  rw [voter, stored other member'] at found
  exact (Option.some.inj found).symm

/-- Some user has a vote of a value that is there, and some user has none. -/
theorem Engagement.UnitVotes.exists_voter (units : UnitVotes db) {mine : Option ℤ}
    (cast : ∀ value, mine = some value →
      ∃ other ∈ itemVotes db itemId orgId, other.value = value) :
    ∃ voter, (voteFindFirst db itemId orgId voter).map Vote.value = mine := by
  cases mine with
  | none =>
      rcases Infinite.exists_notMem_finset
        ((itemVotes db itemId orgId).map Vote.userId).toFinset
        with ⟨voter, new⟩
      refine ⟨voter, ?_⟩
      simp only [List.mem_toFinset, List.mem_map, not_exists, not_and] at new
      rw [Option.map_eq_none_iff, voteFindFirst, List.find?_eq_none]
      intro vote member
      simpa using new vote member
  | some value =>
      rcases cast value rfl with ⟨other, member, same⟩
      refine ⟨other.userId, ?_⟩
      cases mine : voteFindFirst db itemId orgId other.userId with
      | none =>
          rw [voteFindFirst, List.find?_eq_none] at mine
          exact absurd (decide_eq_true rfl) (mine other member)
      | some vote =>
          rcases voteFindFirst_mem mine with ⟨among, voter⟩
          rw [units.eq_of_voter among member voter, Option.map_some, same]

end Reads

section Rename

variable (voters : Equiv.Perm String) {db : CoreDb} {itemId orgId userId : String}

/-- The vote of a user under another name. -/
def renameVoter (vote : Vote) : Vote := { vote with userId := voters vote.userId }

theorem renameKey_injective : Function.Injective (Prod.map (id : String → String) voters) :=
  Function.injective_id.prodMap voters.injective

/-- The same votes, cast by other users. -/
def renameVoters (db : CoreDb) : CoreDb :=
  { db with engagement := { db.engagement with
      votes := (db.engagement.votes.mapKeys _ (renameKey_injective voters)).mapValues
        (renameVoter voters) } }

theorem Engagement.UnitVotes.rename (units : UnitVotes db) :
    UnitVotes (renameVoters voters db) := by
  apply OrderedMap.All.mapValues
  apply OrderedMap.All.mapKeys
  refine OrderedMap.All.mono units ?_
  rintro key vote ⟨rfl, unit⟩
  exact ⟨rfl, unit⟩

theorem itemVotes_rename :
    itemVotes (renameVoters voters db) itemId orgId =
      (itemVotes db itemId orgId).map (renameVoter voters) := by
  rw [itemVotes, renameVoters, OrderedMap.values_mapValues, OrderedMap.values_mapKeys,
    List.filter_map]
  rfl

theorem getVoteSummary_rename :
    getVoteSummary (renameVoters voters db) itemId orgId (voters userId) =
      getVoteSummary db itemId orgId userId := by
  have mine : ((voteFindFirst (renameVoters voters db) itemId orgId (voters userId)).map
      Vote.value) = (voteFindFirst db itemId orgId userId).map Vote.value := by
    simp [voteFindFirst, itemVotes_rename, List.find?_map, Function.comp_def, renameVoter]
  have score : (voteAggregate (renameVoters voters db) itemId orgId).sum.getD 0 =
      (voteAggregate db itemId orgId).sum.getD 0 := by
    simp [voteAggregate_score, itemVotes_rename, Function.comp_def, renameVoter]
  have upvotes : voteCount (renameVoters voters db) itemId orgId = voteCount db itemId orgId := by
    rw [voteCount, itemVotes_rename, List.countP_map]
    rfl
  have total : (voteAggregate (renameVoters voters db) itemId orgId).count =
      (voteAggregate db itemId orgId).count := by
    simp [voteAggregate, itemVotes_rename]
  rw [← voteSummary_of_one, ← voteSummary_of_one, voteSummaryOf, voteSummaryOf, voteSummary,
    voteSummary, mine, score, upvotes, total]

end Rename

/-- It is the summary of some votes exactly when, besides, the vote that the third read finds has a
value that the first read counts. -/
theorem isSummary_iff {aggregated counted found : CoreDb} {itemId orgId userId : String}
    (units : UnitVotes aggregated) (units' : UnitVotes found) :
    IsSummary itemId orgId userId (voteSummaryOf aggregated counted found itemId orgId userId) ↔
      voteCount aggregated itemId orgId = voteCount counted itemId orgId ∧
        ∀ vote, voteFindFirst found itemId orgId userId = some vote →
          ∃ other ∈ itemVotes aggregated itemId orgId, other.value = vote.value := by
  constructor
  · intro isSummary
    have same : voteCount aggregated itemId orgId = voteCount counted itemId orgId :=
      (consistent_iff units).mp isSummary.consistent
    refine ⟨same, fun vote mine => ?_⟩
    have unit : UnitVote vote.value := units'.of_item vote (voteFindFirst_mem mine).1
    have sees := isSummary.sees
    simp only [mine, voteSummaryOf, voteSummary, Option.map_some, Option.getD_some] at sees
    apply (exists_value_iff units.of_item unit).mpr
    rcases sees unit with ⟨up, some⟩ | ⟨down, some⟩
    · refine .inl ⟨up, ?_⟩
      change 0 < voteCount aggregated itemId orgId
      omega
    · refine .inr ⟨down, ?_⟩
      change voteCount aggregated itemId orgId < (voteAggregate aggregated itemId orgId).count
      omega
  · rintro ⟨same, cast⟩
    have mine : ∀ value, (voteFindFirst found itemId orgId userId).map Vote.value = some value →
        ∃ other ∈ itemVotes aggregated itemId orgId, other.value = value := by
      intro value stored
      rcases Option.map_eq_some_iff.mp stored with ⟨vote, mine, rfl⟩
      exact cast vote mine
    rcases units.exists_voter mine with ⟨voter, mine⟩
    refine ⟨renameVoters (Equiv.swap voter userId) aggregated, units.rename _, ?_⟩
    have renamed := @getVoteSummary_rename (Equiv.swap voter userId) aggregated itemId orgId voter
    rw [Equiv.swap_apply_left] at renamed
    rw [renamed, ← voteSummary_of_one, voteSummaryOf, voteSummaryOf, voteSummary, voteSummary, mine,
      same]

/-- The reads of one summary. -/
inductive SummaryRead where
  | aggregate
  | count
  | findFirst
deriving DecidableEq

/-- Any number of commands of all modules, and the reads of one summary at any moments. -/
def summarySystem (catalog : Tenant.PermissionCatalog) (commands : ℕ → CoreCommand) :=
  (coreWorkload catalog commands).system.observed Workload.State.db SummaryRead

/-- The run next to a reader, and the database that each of his three queries saw. -/
abbrev SummaryState :=
  Observation (Workload.State ℕ CoreDb CoreWrite CoreError CoreReply) SummaryRead CoreDb

/-- What the three reads have seen. -/
structure Answered (observation : SummaryState) (aggregated counted found : CoreDb) : Prop where
  aggregate : observation.seen .aggregate = some aggregated
  count : observation.seen .count = some counted
  findFirst : observation.seen .findFirst = some found

/-- However the reads fall between the commits of commands that have passed the schema, the summary
is consistent exactly when the database of the aggregate and that of the count have the same number
of upvotes of the item. It is then the summary of some votes exactly when the vote found by the
third read has a value that the aggregate has counted. -/
theorem vote_summary_iff {catalog : Tenant.PermissionCatalog} {commands : ℕ → CoreCommand}
    (checked : ∀ client, CastVoteSchema (commands client)) {observation : SummaryState}
    (reached : (summarySystem catalog commands).Reachable observation)
    {aggregated counted found : CoreDb} (answered : Answered observation aggregated counted found)
    (itemId orgId userId : String) :
    ((voteSummaryOf aggregated counted found itemId orgId userId).Consistent ↔
      voteCount aggregated itemId orgId = voteCount counted itemId orgId) ∧
    (IsSummary itemId orgId userId
        (voteSummaryOf aggregated counted found itemId orgId userId) ↔
      voteCount aggregated itemId orgId = voteCount counted itemId orgId ∧
        ∀ vote, voteFindFirst found itemId orgId userId = some vote →
          ∃ other ∈ itemVotes aggregated itemId orgId, other.value = vote.value) := by
  have units : ∀ {read : SummaryRead} {db : CoreDb}, observation.seen read = some db →
      UnitVotes db := by
    intro read db looked
    rcases reached.seen looked with ⟨past, reached, rfl⟩
    exact unitVotes_of_reachable checked reached
  exact ⟨consistent_iff (units answered.aggregate),
    isSummary_iff (units answered.aggregate) (units answered.findFirst)⟩

section Upvote

open Knowledge

/-- What the creation of the question runs with. -/
def asked : Context := ⟨some "org-a", "question", 3, 3⟩

/-- Alice asks a question. -/
def question : CreateKnowledgeCommand := ⟨"org-a", "space", .question, "Why?", "", none, "alice"⟩

/-- Bob's vote for it. -/
def upvoted : Vote := Vote.create "vote" 4 "org-a" "question" "bob" 1

/-- A question and a vote for it. -/
def questionCommands : ℕ → CoreCommand
  | 0 => .knowledge asked (.create question)
  | _ => .engagement ⟨some "org-a", "vote", 4, 4⟩ (.castVote ⟨"question", "bob", 1⟩)

/-- The question without votes. -/
def questionDb : CoreDb :=
  coreEngine.view .empty [.knowledge (.putItem (createdRow asked question))]

/-- The question after Bob's vote. -/
def upvotedDb : CoreDb := coreEngine.view questionDb [.engagement (.putVote upvoted)]

/-- One read comes before the vote, and the others after it. -/
theorem reachable_upvote {early late last : SummaryRead} (late_ne : late ≠ early)
    (last_ne : last ≠ early) (last_ne' : last ≠ late) :
    ∃ observation, (summarySystem Tenant.namedCatalog questionCommands).Reachable observation ∧
      observation.seen early = some questionDb ∧ observation.seen late = some upvotedDb ∧
      observation.seen last = some upvotedDb := by
  let workload := coreWorkload Tenant.namedCatalog questionCommands
  have start : (summarySystem Tenant.namedCatalog questionCommands).Reachable
      ⟨⟨.empty, [], fun _ => .idle⟩, fun _ => none⟩ :=
    .initial ⟨⟨rfl, rfl, fun _ => rfl⟩, fun _ => rfl⟩
  have create : workload.aloneFrom .empty [] (workload.program 0) =
      .ok (.knowledge (some "question"), [.knowledge (.putItem (createdRow asked question))]) := by
    decide +kernel
  have cast : workload.aloneFrom questionDb [] (workload.program 1) =
      .ok (.engagement, [.engagement (.putVote upvoted)]) := by
    decide +kernel
  have asks := start.observed_leads (Workload.leads_alone workload _ 0 (.inl rfl)
    (fun _ _ => rfl) (.of_all (fun _ _ => trivial) _ _ _)
    create)
  have votes := (asks.observed_look early rfl).observed_leads (Workload.leads_alone workload _ 1
    (.inl rfl) (fun other _ => by rcases other with _ | _ | _ <;> rfl)
    (.of_all (fun _ _ => trivial) _ _ _) cast)
  have counts := votes.observed_look late (by simp [late_ne])
  refine ⟨_, counts.observed_look last (by simp [last_ne, last_ne']), ?_, ?_, ?_⟩
  · simp [last_ne.symm, late_ne.symm]
    rfl
  · simp [last_ne'.symm]
    rfl
  · simp
    rfl

theorem vote_summary_iff_upvote :
    (voteSummaryOf upvotedDb upvotedDb questionDb "question" "org-a" "bob").Consistent := by
  rcases @reachable_upvote .findFirst .aggregate .count (by decide) (by decide) (by decide) with
    ⟨observation, reached, found, aggregated, counted⟩
  have checked : ∀ client, CastVoteSchema (questionCommands client) := by
    rintro (_ | client) context cast ⟨⟩
    exact .inl rfl
  exact (vote_summary_iff checked reached ⟨aggregated, counted, found⟩ _ _ _).1.mpr rfl

/-- The votes are added up before a vote for the question and the upvotes counted after it: the
summary has minus one downvotes. -/
theorem negative_downvotes :
    ∃ observation, (summarySystem Tenant.namedCatalog questionCommands).Reachable observation ∧
      Answered observation questionDb upvotedDb upvotedDb ∧
      voteSummaryOf questionDb upvotedDb upvotedDb "question" "org-a" "bob" = ⟨0, 1, -1, 1⟩ ∧
      ¬ (voteSummaryOf questionDb upvotedDb upvotedDb "question" "org-a" "bob").Consistent ∧
      ¬ IsSummary "question" "org-a" "bob"
        (voteSummaryOf questionDb upvotedDb upvotedDb "question" "org-a" "bob") := by
  rcases @reachable_upvote .aggregate .count .findFirst (by decide) (by decide) (by decide) with
    ⟨observation, reached, aggregated, counted, found⟩
  have summary : voteSummaryOf questionDb upvotedDb upvotedDb "question" "org-a" "bob" =
      ⟨0, 1, -1, 1⟩ := by
    decide +kernel
  have torn : ¬ (voteSummaryOf questionDb upvotedDb upvotedDb "question" "org-a"
      "bob").Consistent := by
    rw [summary]
    intro consistent
    exact absurd consistent.downvotes (by decide)
  exact ⟨observation, reached, ⟨aggregated, counted, found⟩, summary, torn,
    fun isSummary => torn isSummary.consistent⟩

end Upvote

end CoreApi
