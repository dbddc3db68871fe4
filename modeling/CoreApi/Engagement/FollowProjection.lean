import Mathlib.Data.Finset.Insert
import Mathlib.Data.Finset.Erase
import CoreApi.Engagement.Effects
import CoreApi.Tenant.Founder

/-!
# The follow events as a projection

A consumer folds the events of the follows into a set: a created one inserts its
relationship and a removed one deletes it. An unfollow emits its event whether or
not it deleted a row, and it deletes only a row of its tenant.
-/

namespace CoreApi.Engagement

/-- The consumer's set after one more event. -/
def FollowEvent.project (followers : Finset FollowKey) : FollowEvent → Finset FollowKey
  | .followCreated _ _ payload => insert payload followers
  | .followRemoved _ _ payload => followers.erase payload

/-- The consumer's set after all events, in the order they were emitted. -/
def projection (events : List FollowEvent) : Finset FollowKey :=
  events.foldl FollowEvent.project ∅

/-- The projected relationships are those of the stored rows. -/
def FollowsProjected (db : EngagementDb) : Prop :=
  ∀ key, key ∈ projection db.outbox ↔ ∃ follow ∈ db.follows.values, follow.key = key

/-- An unfollow of a stored relationship comes from the organization of its row. -/
def UnfollowsAtHome (db : CoreDb) (command : CoreCommand) : Prop :=
  ∀ context unfollow orgId follow, command = .engagement context (.unfollowTarget unfollow) →
    context.tenantId = some orgId → orgId ≠ "" →
    db.engagement.follows.get? ⟨unfollow.userId, unfollow.targetType, unfollow.targetId⟩ =
      some follow → follow.orgId = orgId

/-- Nobody follows anything yet, and no event has been emitted. -/
def Unfollowed (db : CoreDb) : Prop :=
  db.engagement.follows = .empty ∧ db.engagement.outbox = []

/-- Follows stand under their keys, which are the projected ones. -/
structure Synced (db : EngagementDb) : Prop where
  keyed : ∀ key follow, db.follows.get? key = some follow → follow.key = key
  projected : ∀ key, key ∈ projection db.outbox ↔ (db.follows.get? key).isSome

theorem projection_append (events : List FollowEvent) (event : FollowEvent) :
    projection (events ++ [event]) = FollowEvent.project (projection events) event := by
  simp [projection]

theorem Synced.projects {db : EngagementDb} (synced : Synced db) : FollowsProjected db := by
  intro key
  rw [synced.projected, Option.isSome_iff_exists]
  constructor
  · rintro ⟨follow, stored⟩
    exact ⟨follow, OrderedMap.mem_values.mpr ⟨key, stored⟩, synced.keyed key follow stored⟩
  · rintro ⟨follow, member, rfl⟩
    have keyed : db.follows.All fun key follow => follow.key = key := synced.keyed
    exact ⟨follow, keyed.get?_of_mem member⟩

theorem Synced.kept {db next : EngagementDb} (synced : Synced db)
    (follows : next.follows = db.follows) (outbox : next.outbox = db.outbox) : Synced next := by
  refine ⟨?_, ?_⟩
  · rw [follows]
    exact synced.keyed
  · rw [follows, outbox]
    exact synced.projected

/-- The row of a follow, or the one that is there, and the event. -/
theorem Synced.followed {db : EngagementDb} (synced : Synced db) (follow : Follow)
    (aggregateId orgId : String) :
    Synced (engagementEngine.view db ((match db.follows.get? follow.key with
      | some _ => []
      | none => [.putFollow follow]) ++
      [.appendOutbox (.followCreated aggregateId orgId follow.key)])) := by
  have projected : ∀ other,
      other ∈ projection (db.outbox ++ [.followCreated aggregateId orgId follow.key]) ↔
        other = follow.key ∨ (db.follows.get? other).isSome := by
    intro other
    rw [projection_append, FollowEvent.project, Finset.mem_insert, synced.projected]
  cases stored : db.follows.get? follow.key with
  | some row =>
      refine ⟨synced.keyed, fun other => (projected other).trans (or_iff_right_of_imp ?_)⟩
      rintro rfl
      simp [stored]
  | none =>
      refine ⟨fun other row found => ?_, fun other => (projected other).trans ?_⟩
      · change (db.follows.set follow.key follow).get? other = some row at found
        rw [OrderedMap.get?_set] at found
        split at found
        · next same =>
            cases found
            exact same.symm
        · exact synced.keyed other row found
      · change _ ↔ ((db.follows.set follow.key follow).get? other).isSome
        rw [OrderedMap.get?_set]
        by_cases same : other = follow.key <;> simp [same]

/-- The deletion of the row, which the tenant owns if there is one, and the event. -/
theorem Synced.unfollowed {db : EngagementDb} (synced : Synced db) {key : FollowKey}
    {orgId : String} (home : ∀ follow, db.follows.get? key = some follow → follow.orgId = orgId)
    (aggregateId : String) :
    Synced (engagementEngine.view db ((match (db.follows.get? key).filter fun follow =>
        follow.orgId = orgId with
      | some _ => [.deleteFollow key]
      | none => []) ++ [.appendOutbox (.followRemoved aggregateId orgId key)])) := by
  have projected : ∀ other,
      other ∈ projection (db.outbox ++ [.followRemoved aggregateId orgId key]) ↔
        other ≠ key ∧ (db.follows.get? other).isSome := by
    intro other
    rw [projection_append, FollowEvent.project, Finset.mem_erase, synced.projected]
  cases stored : db.follows.get? key with
  | none =>
      refine ⟨synced.keyed, fun other => (projected other).trans (and_iff_right_of_imp ?_)⟩
      rintro found rfl
      simp [stored] at found
  | some row =>
      simp only [Option.filter_some, home row stored, decide_true, if_true]
      refine ⟨fun other row found => ?_, fun other => (projected other).trans ?_⟩
      · change (db.follows.delete key).get? other = some row at found
        rw [OrderedMap.get?_delete] at found
        split at found
        · cases found
        · exact synced.keyed other row found
      · change _ ↔ ((db.follows.delete key).get? other).isSome
        rw [OrderedMap.get?_delete]
        by_cases same : other = key <;> simp [same]

theorem Writes.synced {db : CoreDb} {context : Knowledge.Context} {command : EngagementCommand}
    {writes : List EngagementWrite} (synced : Synced db.engagement)
    (home : UnfollowsAtHome db (.engagement context command))
    (wrote : Writes context db.engagement command writes) :
    Synced (engagementEngine.view db.engagement writes) := by
  cases wrote with
  | castVote => exact synced.kept rfl rfl
  | removeVote wrote => rcases wrote with rfl | rfl <;> exact synced.kept rfl rfl
  | addBookmark wrote => rcases wrote with rfl | rfl <;> exact synced.kept rfl rfl
  | removeBookmark wrote => rcases wrote with rfl | rfl <;> exact synced.kept rfl rfl
  | followTarget same => exact synced.followed _ _ _
  | unfollowTarget same tenant nonempty =>
      subst same
      exact synced.unfollowed
        (fun follow stored => home context _ _ follow rfl tenant nonempty stored) _

theorem synced_of_ok {catalog : Tenant.PermissionCatalog} {db : CoreDb} {command : CoreCommand}
    {answer : CoreReply} {writes : List CoreWrite} (synced : Synced db.engagement)
    (home : UnfollowsAtHome db command)
    (ran : coreEngine.aloneFrom db [] (command.execute catalog) = .ok (answer, writes)) :
    Synced (coreEngine.view db writes).engagement := by
  cases command with
  | tenant context command =>
      rcases aloneFrom_tenant_ok ran with ⟨reply, more, -, -, rfl⟩
      rw [view_tenant]
      exact synced
  | knowledge context command =>
      rcases aloneFrom_knowledge_ok ran with ⟨reply, more, -, -, rfl⟩
      rw [view_knowledge]
      exact synced
  | credit stamp command =>
      rcases aloneFrom_credit_ok ran with ⟨reply, more, -, -, rfl⟩
      rw [(view_credit db stamp.createdAt more).2.2]
      exact synced
  | engagement context command =>
      rcases aloneFrom_engagement_ok ran with ⟨more, rfl, wrote⟩
      rw [view_engagement]
      exact wrote.synced synced home

/-- As long as every unfollow of a stored relationship comes from the organization of its row, the
projection of the emitted events is the set of the stored relationships. -/
theorem follow_events_project {catalog : Tenant.PermissionCatalog}
    {state : Committed CoreDb CoreCommand CoreReply}
    (reached : (coreCommands catalog Unfollowed UnfollowsAtHome).Reachable state) :
    FollowsProjected state.db.engagement := by
  refine Synced.projects ?_
  refine @Committed.invariant _ _ _ _ _ _ _ _ _ _ _ (fun state => Synced state.db.engagement)
    reached ?_ ?_
  · rintro db ⟨none, silent⟩
    refine ⟨fun key follow stored => ?_, fun key => ?_⟩
    · rw [none] at stored
      cases stored
    · rw [none, silent]
      simp [projection]
  · intro state command reply writes synced home ran
    exact synced_of_ok synced home ran

open Tenant in
/-- Two organizations of one owner, who follows a space of the first. -/
def spaceFollowed : List CoreCommand :=
  [.tenant ⟨"org-a", "membership-a", 0⟩ (.createOrg ⟨"Acme", "acme", "alice"⟩),
    .tenant ⟨"org-b", "membership-b", 1⟩ (.createOrg ⟨"Beta", "beta", "alice"⟩),
    .tenant ⟨"space", "", 2⟩ (.createSpace ⟨"org-a", "General", .org⟩),
    .engagement ⟨some "org-a", "follow", 3, 3⟩ (.followTarget ⟨"alice", .space, "space"⟩)]

/-- Alice takes back in one organization what she follows in another. -/
def unfollowedElsewhere : CoreCommand :=
  .engagement ⟨some "org-b", "", 4, 4⟩ (.unfollowTarget ⟨"alice", .space, "space"⟩)

/-- The state after some commands. -/
def followDb (commands : List CoreCommand) : Committed CoreDb CoreCommand CoreReply :=
  Committed.run coreEngine (CoreCommand.execute Tenant.namedCatalog) .empty commands

theorem follow_events_project_followed :
    ∃ follow ∈ (followDb spaceFollowed).db.engagement.follows.values,
      follow.key = ⟨"alice", .space, "space"⟩ := by
  have reached : (coreCommands Tenant.namedCatalog Unfollowed UnfollowsAtHome).Reachable
      (followDb spaceFollowed) := by
    refine Committed.reachable_run ⟨rfl, rfl⟩ spaceFollowed ?_
    simp [UnfollowsAtHome, spaceFollowed]
  refine (follow_events_project reached _).mp ?_
  decide +kernel

/-- The owner unfollows the space while working in the second organization: the row stays, but the
consumer forgets the follower. -/
theorem follow_forgotten :
    ∃ state, (coreCommands Tenant.namedCatalog Unfollowed fun _ _ => True).Reachable state ∧
      ¬ FollowsProjected state.db.engagement := by
  have reached : (coreCommands Tenant.namedCatalog Unfollowed fun _ _ => True).Reachable
      (followDb (spaceFollowed ++ [unfollowedElsewhere])) :=
    Committed.reachable_run ⟨rfl, rfl⟩ _ fun _ _ _ => trivial
  have forgotten : ⟨"alice", .space, "space"⟩ ∉
      projection (followDb (spaceFollowed ++ [unfollowedElsewhere])).db.engagement.outbox := by
    decide +kernel
  have stored : ∃ follow ∈
      (followDb (spaceFollowed ++ [unfollowedElsewhere])).db.engagement.follows.values,
      follow.key = ⟨"alice", .space, "space"⟩ := by
    decide +kernel
  exact ⟨_, reached, fun projects => forgotten ((projects _).mpr stored)⟩

end CoreApi.Engagement
