import CoreApi.Tenant.Founder

/-!
# Accepting invites at the same time

An accept checks that the invite is unused and that the user is no member, and
then writes both rows with upserts. The rows are held from there on, but not
from the checks, so what the checks found may be gone when the rows are written.
An accept that commits while it still holds admits one member with one invite.
-/

namespace CoreApi.Tenant

namespace OrgInvite

/-- What an invite offers, whether it has been used or not. -/
def offer (invite : OrgInvite) : OrgInvite := { invite with usedAt := none, usedBy := none }

@[simp]
theorem offer_accept (invite : OrgInvite) (now : ℤ) (userId : String) :
    (invite.accept now userId).offer = invite.offer := rfl

theorem offer_eq {invite other : OrgInvite} (same : invite.offer = other.offer) :
    invite.id = other.id ∧ invite.token = other.token ∧ invite.orgId = other.orgId ∧
      invite.role = other.role := by
  simp only [offer, mk.injEq] at same
  exact ⟨same.1, same.2.1, same.2.2.1, same.2.2.2.1⟩

end OrgInvite

/-- Tokens are unique. -/
def TokensUnique (db : TenantDb) : Prop :=
  ∀ id id' invite invite', db.invites.get? id = some invite →
    db.invites.get? id' = some invite' → invite.token = invite'.token → id = id'

/-- What others may commit meanwhile: invites keep what they offer, and nobody touches a row that
is held. -/
structure Meanwhile (held : List TenantWrite) (db now : TenantDb) : Prop where
  organizations : now.organizations = db.organizations
  offers : ∀ id,
    (now.invites.get? id).map OrgInvite.offer = (db.invites.get? id).map OrgInvite.offer
  membership : ∀ write ∈ held, ∀ orgId userId,
    tenantEngine.lock write = some (.membership orgId userId) →
    now.memberships.get? (orgId, userId) = db.memberships.get? (orgId, userId)
  invite : ∀ write ∈ held, ∀ id, tenantEngine.lock write = some (.invite id) →
    now.invites.get? id = db.invites.get? id

namespace Meanwhile

theorem refl (held : List TenantWrite) (db : TenantDb) : Meanwhile held db db :=
  ⟨rfl, fun _ => rfl, fun _ _ _ _ _ => rfl, fun _ _ _ _ => rfl⟩

theorem trans {held : List TenantWrite} {db now later : TenantDb} (first : Meanwhile held db now)
    (second : Meanwhile held now later) : Meanwhile held db later where
  organizations := second.organizations.trans first.organizations
  offers id := (second.offers id).trans (first.offers id)
  membership write member orgId userId lock :=
    (second.membership write member orgId userId lock).trans
      (first.membership write member orgId userId lock)
  invite write member id lock :=
    (second.invite write member id lock).trans (first.invite write member id lock)

theorem offered {held : List TenantWrite} {db now : TenantDb} (meanwhile : Meanwhile held db now)
    {id : String} {invite : OrgInvite} (found : db.invites.get? id = some invite) :
    ∃ invite', now.invites.get? id = some invite' ∧ invite'.offer = invite.offer := by
  have offers := meanwhile.offers id
  simpa [found] using offers

end Meanwhile

/-- The invites and memberships stand under their keys, and tokens are unique. -/
structure Inviting (db : TenantDb) : Prop where
  keyed : Keyed db
  tokens : TokensUnique db

/-- What holds of the tables while invites are accepted, and what others who accept may do
meanwhile. -/
def acceptAssumptions : Assumptions TenantDb TenantWrite where
  Inv := Inviting
  Rely := Meanwhile
  refl := Meanwhile.refl
  trans := Meanwhile.trans

/-- The row an accept leaves for its user. -/
def memberRow (context : TenantContext) (userId : String) (invite : OrgInvite) :
    Option Membership → Membership
  | some row => { row with role := invite.role }
  | none => Membership.createMember context.membershipId context.now invite.orgId userId invite.role

/-- What an accept leaves behind, given the invite it consumes. -/
def accepted (context : TenantContext) (userId : String) (invite : OrgInvite) (db : TenantDb) :
    TenantDb :=
  { db with
    memberships := db.memberships.set (invite.orgId, userId)
      (memberRow context userId invite (db.memberships.get? (invite.orgId, userId)))
    invites := db.invites.set invite.id (invite.accept context.now userId) }

theorem memberRow_offer {context : TenantContext} {userId : String} {invite other : OrgInvite}
    (same : invite.offer = other.offer) (row : Option Membership) :
    memberRow context userId invite row = memberRow context userId other row := by
  rcases OrgInvite.offer_eq same with ⟨-, -, orgId, role⟩
  cases row <;> simp [memberRow, orgId, role]

theorem memberRow_key {db : TenantDb} (keyed : Keyed db) (context : TenantContext) (userId : String)
    (invite : OrgInvite) :
    let row := memberRow context userId invite (db.memberships.get? (invite.orgId, userId))
    (row.orgId, row.userId) = (invite.orgId, userId) := by
  cases found : db.memberships.get? (invite.orgId, userId) with
  | none => rfl
  | some row => exact (keyed.membership _ _ found).1

section Bodies

variable {context : TenantContext} {command : AcceptInviteCommand}
  {permits : List TenantDb → TenantDb → Prop} {seen : List TenantDb} {pending : List TenantWrite}
  {db : TenantDb}

/-- What an accept has written when it is about to commit, and the rows it wrote over. -/
structure AcceptWrote (context : TenantContext) (command : AcceptInviteCommand)
    (reply : String × ManageableOrgRole) (pending : List TenantWrite) (db : TenantDb)
    (invite : OrgInvite) : Prop where
  found : db.invites.get? invite.id = some invite
  token : invite.token = command.token
  reply : reply = (invite.orgId, invite.role)
  organization : hasOrganization db invite.orgId
  writes : ∃ row, row = memberRow context command.userId invite
      (db.memberships.get? (invite.orgId, command.userId)) ∧
    (row.orgId, row.userId) = (invite.orgId, command.userId) ∧
    pending = [.putMembership row, .putInvite (invite.accept context.now command.userId)]

/-- The upsert of the membership writes over the row it finds. -/
theorem saveMembership_ends {post : Unit → List TenantDb → List TenantWrite → TenantDb → Prop}
    {userId : String} {invite : OrgInvite}
    (ends : ∀ now, Meanwhile [] db now → Inviting now → hasOrganization now invite.orgId →
      ∀ row, row = memberRow context userId invite
        (now.memberships.get? (invite.orgId, userId)) →
      (row.orgId, row.userId) = (invite.orgId, userId) →
      ∀ seen, post () seen [.putMembership row] now) :
    acceptAssumptions.Ends tenantEngine permits post (PrismaMembershipRepository.save
      (Membership.createMember context.membershipId context.now invite.orgId userId invite.role))
      seen [] db := by
  apply Assumptions.Ends.execute
  intro now rely inviting _ writes _ saved
  have key := memberRow_key inviting.keyed context userId invite
  have saved' : (match now.memberships.get? (invite.orgId, userId) with
      | some row => Except.ok ([TenantWrite.putMembership { row with role := invite.role }], ())
      | none =>
          if hasOrganization now invite.orgId then
            Except.ok ([.putMembership (Membership.createMember context.membershipId context.now
              invite.orgId userId invite.role)], ())
          else Except.error (TenantError.foreignKey "org_id")) = .ok (writes, _) := saved
  cases found : now.memberships.get? (invite.orgId, userId) with
  | none =>
      rw [found] at saved' key
      simp only at saved'
      split at saved'
      · next organization =>
          cases saved'
          exact ends now rely inviting organization _ (by rw [found]) key _
      · cases saved'
  | some row =>
      rw [found] at saved' key
      cases saved'
      rcases inviting.keyed.membership _ _ found with ⟨same, organization⟩
      rw [(Prod.mk.inj same).1] at organization
      exact ends now rely inviting organization _ (by rw [found]) key _

/-- The upsert of the invite writes over the invite as it stands by then. -/
theorem saveInvite_ends {post : Unit → List TenantDb → List TenantWrite → TenantDb → Prop}
    {userId : String} {invite stored : OrgInvite} {row : Membership}
    (found : db.invites.get? invite.id = some stored) (offer : stored.offer = invite.offer)
    (ends : ∀ now consumed, Meanwhile [.putMembership row] db now →
      now.invites.get? invite.id = some consumed → consumed.offer = invite.offer →
      ∀ seen, post () seen
        [.putMembership row, .putInvite (consumed.accept context.now userId)] now) :
    acceptAssumptions.Ends tenantEngine permits post
      (PrismaOrgInviteRepository.save (invite.accept context.now userId)) seen
      [.putMembership row] db := by
  apply Assumptions.Ends.execute
  intro now rely _ _ writes _ saved
  rcases rely.offered found with ⟨consumed, found', offer'⟩
  have view : (tenantEngine.view now [.putMembership row]).invites.get?
      (invite.accept context.now userId).id = some consumed := found'
  simp only [view] at saved
  cases saved
  exact ends now consumed rely found' (offer'.trans offer) _

theorem acceptInvite_ends :
    acceptAssumptions.Ends tenantEngine permits
      (fun reply _ pending db => ∃ invite, AcceptWrote context command reply pending db invite)
      (AcceptInviteHandler.execute context command) [] [] db := by
  refine Assumptions.Ends.bind (Assumptions.Ends.read fun first _ inviting => ?_)
  refine Assumptions.Ends.bind (orThrow_ends fun invite found => ?_)
  rcases findByToken_keyed inviting.keyed found with ⟨stored, token⟩
  refine Assumptions.Ends.bind (throwIf_ends fun _ => ?_)
  refine Assumptions.Ends.bind (throwIf_ends fun _ => ?_)
  refine Assumptions.Ends.bind (Assumptions.Ends.read fun second rely _ => ?_)
  refine Assumptions.Ends.bind (throwIf_ends fun _ => ?_)
  refine Assumptions.Ends.bind (saveMembership_ends ?_)
  intro now rely' inviting organization row wrote key _
  rcases (rely.trans rely').offered stored with ⟨middle, stored', offer⟩
  refine Assumptions.Ends.bind (saveInvite_ends stored' offer ?_)
  intro later consumed meanwhile found offer _
  rcases OrgInvite.offer_eq offer with ⟨id, token', orgId, role⟩
  have held : later.memberships.get? (invite.orgId, command.userId) =
      now.memberships.get? (invite.orgId, command.userId) := by
    refine meanwhile.membership _ (List.mem_singleton_self _) _ _ ?_
    simpa [tenantEngine] using key
  refine Assumptions.Ends.pure ⟨consumed, ?_⟩
  refine ⟨id ▸ found, token'.trans token, by rw [orgId, role], ?_, row, ?_, orgId ▸ key, rfl⟩
  · simpa [hasOrganization, meanwhile.organizations, orgId] using organization
  · rw [orgId, held, memberRow_offer offer, ← wrote]

variable {reply : String × ManageableOrgRole} {invite : OrgInvite} {now : TenantDb}

/-- The rows an accept has written stay as it found them until it commits. -/
theorem AcceptWrote.stable (wrote : AcceptWrote context command reply pending db invite)
    (meanwhile : Meanwhile pending db now) :
    AcceptWrote context command reply pending now invite := by
  rcases wrote.writes with ⟨row, same, key, rfl⟩
  have member : now.memberships.get? (invite.orgId, command.userId) =
      db.memberships.get? (invite.orgId, command.userId) := by
    refine meanwhile.membership (.putMembership row) (by simp) _ _ ?_
    simpa [tenantEngine] using key
  have consumed : now.invites.get? invite.id = db.invites.get? invite.id :=
    meanwhile.invite (.putInvite (invite.accept context.now command.userId)) (by simp) _ rfl
  refine ⟨consumed.trans wrote.found, wrote.token, wrote.reply, ?_, row, ?_, key, rfl⟩
  · simpa [hasOrganization, meanwhile.organizations] using wrote.organization
  · rw [member, ← same]

theorem AcceptWrote.view (wrote : AcceptWrote context command reply pending db invite) :
    tenantEngine.view db pending = accepted context command.userId invite db := by
  rcases wrote.writes with ⟨row, same, key, rfl⟩
  rw [accepted, ← same, ← key]
  rfl

theorem accepted_offers {userId : String} (found : db.invites.get? invite.id = some invite)
    (id : String) : ((accepted context userId invite db).invites.get? id).map OrgInvite.offer =
      (db.invites.get? id).map OrgInvite.offer := by
  simp only [accepted, OrderedMap.get?_set]
  split
  · next same => simp [same, found]
  · rfl

theorem TokensUnique.of_offers (unique : TokensUnique db) (offers : ∀ id,
    (now.invites.get? id).map OrgInvite.offer = (db.invites.get? id).map OrgInvite.offer) :
    TokensUnique now := by
  intro id id' invite invite' found found' same
  have stored : ∃ row, db.invites.get? id = some row ∧ row.offer = invite.offer := by
    simpa [found] using (offers id).symm
  have stored' : ∃ row, db.invites.get? id' = some row ∧ row.offer = invite'.offer := by
    simpa [found'] using (offers id').symm
  rcases stored with ⟨row, stored, offer⟩
  rcases stored' with ⟨row', stored', offer'⟩
  refine unique id id' row row' stored stored' ?_
  rw [(OrgInvite.offer_eq offer).2.1, (OrgInvite.offer_eq offer').2.1, same]

/-- What an accept commits keeps the tables in order. -/
theorem AcceptWrote.inviting (wrote : AcceptWrote context command reply pending db invite)
    (inviting : Inviting db) : Inviting (accepted context command.userId invite db) := by
  rcases wrote.writes with ⟨row, same, key, -⟩
  refine ⟨⟨inviting.keyed.organization, ?_, ?_⟩,
    inviting.tokens.of_offers (accepted_offers wrote.found)⟩
  · intro key' membership stored
    simp only [accepted, OrderedMap.get?_set, ← same] at stored
    split at stored
    · next same' =>
        cases stored
        refine ⟨key.trans same'.symm, ?_⟩
        rw [(Prod.mk.inj key).1]
        exact wrote.organization
    · exact inviting.keyed.membership _ _ stored
  · intro id invite' stored
    simp only [accepted, OrderedMap.get?_set] at stored
    split at stored
    · next same' =>
        cases stored
        exact same'.symm
    · exact inviting.keyed.invite _ _ stored

/-- What an accept commits leaves the rows alone that others hold. -/
theorem AcceptWrote.meanwhile (wrote : AcceptWrote context command reply pending db invite)
    {held : List TenantWrite} (apart : tenantEngine.Apart held pending) :
    Meanwhile held db (accepted context command.userId invite db) := by
  rcases wrote.writes with ⟨row, -, key, rfl⟩
  refine ⟨rfl, accepted_offers wrote.found, ?_, ?_⟩
  · intro write member orgId userId lock
    have other := apart write member _ lock (.putMembership row) (by simp)
    simp only [accepted, OrderedMap.get?_set]
    refine if_neg fun same => other ?_
    have key := key.trans same.symm
    simp only [Prod.mk.injEq] at key
    simp [tenantEngine, key]
  · intro write member id lock
    have other := apart write member _ lock
      (.putInvite (invite.accept context.now command.userId)) (by simp)
    simp only [accepted, OrderedMap.get?_set]
    refine if_neg fun same => other ?_
    simp [tenantEngine, same, OrgInvite.accept]

end Bodies

/-- Clients that accept invites, starting from given tables. -/
def acceptWorkload (before : TenantDb) (contexts : ℕ → TenantContext)
    (commands : ℕ → AcceptInviteCommand) :
    Workload ℕ TenantDb TenantWrite TenantLock TenantError (String × ManageableOrgRole) where
  toEngine := tenantEngine
  program client := AcceptInviteHandler.execute (contexts client) (commands client)
  initial db := db = before
  external _ _ := False

variable {before : TenantDb} {contexts : ℕ → TenantContext} {commands : ℕ → AcceptInviteCommand}

/-- On every schedule an accept consumes the invite of its token and stores the membership of its
user. -/
def acceptOutline (contexts : ℕ → TenantContext) (commands : ℕ → AcceptInviteCommand)
    (inviting : Inviting before) : Outline (acceptWorkload before contexts commands) where
  toAssumptions := acceptAssumptions
  Effect client _ reply db after := ∃ pending invite,
    AcceptWrote (contexts client) (commands client) reply pending db invite ∧
      after = accepted (contexts client) (commands client).userId invite db
  initial db start := start ▸ inviting
  external db next _ change := change.elim
  safe client begun inviting := by
    refine acceptInvite_ends.mono ?_
    rintro reply seen pending db ⟨invite, wrote⟩ now rely inviting'
    have wrote := wrote.stable rely
    have view : (acceptWorkload before contexts commands).view now pending =
        accepted (contexts client) (commands client).userId invite now := wrote.view
    rw [view]
    exact ⟨wrote.inviting inviting', ⟨pending, invite, wrote, rfl⟩, fun held apart =>
      wrote.meanwhile apart⟩

/-- The invite of an accept is unused and its user no member. -/
def InviteOpen (db : TenantDb) (command : AcceptInviteCommand) : Prop :=
  ∀ invite, db.invites.get? invite.id = some invite → invite.token = command.token →
    invite.usedAt = none ∧ db.memberships.get? (invite.orgId, command.userId) = none

/-- An accept that commits finds open, as the rows are then, what it found open when it checked. -/
def StillOpen (commands : ℕ → AcceptInviteCommand)
    (state : Workload.State ℕ TenantDb TenantWrite TenantError (String × ManageableOrgRole))
    (label : Workload.Label ℕ) : Prop :=
  ∀ client, label = .commit client → InviteOpen state.db (commands client)

/-- An acceptance that has committed. -/
abbrev Acceptance := Workload.Entry ℕ TenantDb (String × ManageableOrgRole)

/-- The membership an accept stands for in the log. -/
def Acceptance.key (commands : ℕ → AcceptInviteCommand) (entry : Acceptance) : String × String :=
  (entry.reply.1, (commands entry.client).userId)

/-- The invite an accept has consumed, and the membership it has added. -/
def Admitted (before : TenantDb) (contexts : ℕ → TenantContext)
    (commands : ℕ → AcceptInviteCommand) (db : TenantDb) (entry : Acceptance) : Prop :=
  ∃ invite, before.invites.get? invite.id = some invite ∧
    invite.token = (commands entry.client).token ∧ invite.usedAt = none ∧
    entry.reply = (invite.orgId, invite.role) ∧
    before.memberships.get? (entry.key commands) = none ∧
    db.memberships.get? (entry.key commands) = some (Membership.createMember
      (contexts entry.client).membershipId (contexts entry.client).now invite.orgId
      (commands entry.client).userId invite.role)

/-- Every committed accept has an invite of its own and a new membership of its own with the
invite's organization and role, and every other membership is as it was. -/
structure AdmitsOnce (before : TenantDb) (contexts : ℕ → TenantContext)
    (commands : ℕ → AcceptInviteCommand) (db : TenantDb) (log : List Acceptance) : Prop where
  consumed : (log.map fun entry => (commands entry.client).token).Nodup
  members : (log.map (Acceptance.key commands)).Nodup
  admitted : ∀ entry ∈ log, Admitted before contexts commands db entry
  kept : ∀ key membership, before.memberships.get? key = some membership →
    db.memberships.get? key = some membership
  added : ∀ key membership, db.memberships.get? key = some membership →
    before.memberships.get? key = some membership ∨ ∃ entry ∈ log, entry.key commands = key

/-- An unused invite is as it was, and nobody has consumed it. -/
def Unconsumed (before : TenantDb) (commands : ℕ → AcceptInviteCommand) (db : TenantDb)
    (log : List Acceptance) : Prop :=
  ∀ id invite, db.invites.get? id = some invite → invite.usedAt = none →
    before.invites.get? id = some invite ∧
      ∀ entry ∈ log, (commands entry.client).token ≠ invite.token

variable {db : TenantDb} {log : List Acceptance} {client : ℕ} {begun : TenantDb}
  {reply : String × ManageableOrgRole} {pending : List TenantWrite} {invite : OrgInvite}

theorem AcceptWrote.unconsumed
    (wrote : AcceptWrote (contexts client) (commands client) reply pending db invite)
    (tokens : TokensUnique db) (unconsumed : Unconsumed before commands db log) :
    Unconsumed before commands
      (accepted (contexts client) (commands client).userId invite db)
      (log ++ [⟨client, begun, reply⟩]) := by
  intro id other stored unused
  simp only [accepted, OrderedMap.get?_set] at stored
  split at stored
  · cases stored
    cases unused
  · next distinct =>
      rcases unconsumed id other stored unused with ⟨same, fresh⟩
      refine ⟨same, fun entry member => ?_⟩
      rcases List.mem_append.mp member with old | new
      · exact fresh entry old
      · rw [List.mem_singleton.mp new]
        intro same'
        exact distinct (tokens _ _ _ _ stored wrote.found (same'.symm.trans wrote.token.symm))

/-- An accept that commits while its invite is open admits one member. -/
theorem AcceptWrote.admitsOnce
    (wrote : AcceptWrote (contexts client) (commands client) reply pending db invite)
    (unconsumed : Unconsumed before commands db log) (isOpen : InviteOpen db (commands client))
    (admits : AdmitsOnce before contexts commands db log) :
    AdmitsOnce before contexts commands
      (accepted (contexts client) (commands client).userId invite db)
      (log ++ [⟨client, begun, reply⟩]) := by
  rcases isOpen invite wrote.found wrote.token with ⟨unused, absent⟩
  rcases unconsumed _ _ wrote.found unused with ⟨original, fresh⟩
  obtain rfl := wrote.reply
  have stored : ∀ key, (accepted (contexts client) (commands client).userId invite
      db).memberships.get? key = if key = (invite.orgId, (commands client).userId) then
        some (Membership.createMember (contexts client).membershipId (contexts client).now
          invite.orgId (commands client).userId invite.role)
      else db.memberships.get? key := by
    intro key
    simp only [accepted, OrderedMap.get?_set, absent, memberRow]
  have others : ∀ key membership, db.memberships.get? key = some membership →
      key ≠ (invite.orgId, (commands client).userId) := by
    rintro key membership found rfl
    simp [absent] at found
  have apart : ∀ entry ∈ log, entry.key commands ≠ (invite.orgId, (commands client).userId) := by
    intro entry member
    rcases admits.admitted entry member with ⟨other, -, -, -, -, -, found⟩
    exact others _ _ found
  have new : before.memberships.get? (invite.orgId, (commands client).userId) = none := by
    by_contra present
    rcases Option.ne_none_iff_exists'.mp present with ⟨membership, found⟩
    exact others _ _ (admits.kept _ _ found) rfl
  refine ⟨?_, ?_, ?_, ?_, ?_⟩
  · have used : (commands client).token ∉ log.map fun entry => (commands entry.client).token := by
      rw [List.mem_map]
      rintro ⟨entry, old, same⟩
      exact fresh entry old (same.trans wrote.token.symm)
    simpa using admits.consumed.concat used
  · have known : (invite.orgId, (commands client).userId) ∉ log.map (Acceptance.key commands) := by
      rw [List.mem_map]
      rintro ⟨entry, old, same⟩
      exact apart entry old same
    simpa [Acceptance.key] using admits.members.concat known
  · intro entry member
    rcases List.mem_append.mp member with old | last
    · rcases admits.admitted entry old with ⟨other, found, token, open_, reply, none, row⟩
      refine ⟨other, found, token, open_, reply, none, ?_⟩
      rw [stored, if_neg (apart entry old), row]
    · obtain rfl := List.mem_singleton.mp last
      exact ⟨invite, original, wrote.token, unused, rfl, new, (stored _).trans (if_pos rfl)⟩
  · intro key membership found
    have found := admits.kept key membership found
    rw [stored, if_neg (others key membership found), found]
  · intro key membership found
    rw [stored] at found
    split at found
    · next same => exact .inr ⟨_, List.mem_append_right _ (List.mem_singleton_self _), same.symm⟩
    · rcases admits.added key membership found with original | ⟨entry, member, same⟩
      · exact .inl original
      · exact .inr ⟨entry, List.mem_append_left _ member, same⟩

/-- In every run whose accepts all commit while what they checked still holds, each invite admits
one member. -/
theorem invite_admits_once (inviting : Inviting before)
    {state : Workload.State ℕ TenantDb TenantWrite TenantError (String × ManageableOrgRole)}
    (reached : ((acceptWorkload before contexts commands).system.restrict
      (StillOpen commands)).Reachable state) :
    AdmitsOnce before contexts commands state.db state.log := by
  have both : Unconsumed before commands state.db state.log ∧
      AdmitsOnce before contexts commands state.db state.log := by
    refine @Outline.invariant_of_restrict _ _ _ _ _ _ _ state _ _ (fun db log =>
      Unconsumed before commands db log ∧ AdmitsOnce before contexts commands db log)
      ?_ ?_ ?_ reached
    · rintro db rfl
      refine ⟨fun id invite found _ => ⟨found, by simp⟩, ⟨List.nodup_nil, List.nodup_nil, by simp,
        fun _ _ found => found, fun _ _ found => .inl found⟩⟩
    · intro db next log _ change
      exact change.elim
    · rintro state client begun seen pending reply reached finished still ⟨unconsumed, admits⟩
      let outline := acceptOutline contexts commands inviting
      have steady := Outline.steady_of_reachable outline reached
      rcases (Outline.commit_effect outline reached finished).2 with
        ⟨pending', invite, wrote, after⟩
      rw [after]
      exact ⟨wrote.unconsumed steady.inv.tokens unconsumed,
        wrote.admitsOnce unconsumed (still client rfl) admits⟩
  exact both.2

theorem inviting_invitingDb : Inviting invitingDb := by
  have reached : (tenantCommands namedCatalog fun _ _ => True).Reachable
      ⟨invitingDb, [(acmeCreated, .id "org-1"), (memberInvited, .id "join")]⟩ :=
    reachable_inviting trivial trivial
  refine ⟨(Consistent.of_reachable reached).keyed, ?_⟩
  have table : invitingDb.invites = OrderedMap.empty.set "invite-1" openInvite := rfl
  have only : ∀ id invite, invitingDb.invites.get? id = some invite → id = "invite-1" := by
    intro id invite found
    rw [table, OrderedMap.get?_set] at found
    by_contra distinct
    rw [if_neg distinct] at found
    cases found
  intro id id' invite invite' found found' _
  rw [only id invite found, only id' invite' found']

/-- Two guests accept the same invite. -/
def guests (client : ℕ) : AcceptInviteCommand :=
  if client = 0 then ⟨"join", "bob"⟩ else ⟨"join", "carol"⟩

/-- What the two acceptances draw. -/
def guestContexts (client : ℕ) : TenantContext :=
  ⟨"", if client = 0 then "membership-2" else "membership-3", 10⟩

/-- The invite is open, and nobody has begun. -/
def invitedState :
    Workload.State ℕ TenantDb TenantWrite TenantError (String × ManageableOrgRole) :=
  ⟨invitingDb, [], fun _ => .idle⟩

/-- What the acceptance of either guest commits. -/
def memberWrites (client : ℕ) : List TenantWrite :=
  [.putMembership (Membership.createMember (guestContexts client).membershipId 10 "org-1"
      (guests client).userId memberRole),
    .putInvite (openInvite.accept 10 (guests client).userId)]

theorem invite_admits_once_guest :
    AdmitsOnce invitingDb guestContexts guests (tenantEngine.view invitingDb (memberWrites 0))
      [⟨0, invitingDb, ("org-1", ⟨.member, by decide⟩)⟩] := by
  let workload := acceptWorkload invitingDb guestContexts guests
  have start : (workload.system.restrict (StillOpen guests)).Reachable invitedState :=
    .initial ⟨rfl, rfl, fun _ => rfl⟩
  have stillOpen : InviteOpen invitingDb (guests 0) := by
    intro invite found token
    have table : invitingDb.invites = OrderedMap.empty.set "invite-1" openInvite := rfl
    rw [table, OrderedMap.get?_set] at found
    split at found
    · cases found
      exact ⟨rfl, by decide +kernel⟩
    · cases found
  have committed := Workload.reachable_commit_of start 0 (.inl rfl) (fun _ _ => rfl)
    (.of_all (fun _ _ => trivial) _ _ _)
    (show _ = Except.ok (("org-1", ⟨.member, by decide⟩), memberWrites 0) by decide +kernel)
    (fun _ _ same => by cases same) (fun _ _ same => by cases same)
    (fun _ _ _ same => by cases same; exact stillOpen)
  exact invite_admits_once inviting_invitingDb committed

/-- Both guests find the invite unused and themselves no members; both become members. -/
theorem invite_admits_twice :
    ∃ state, (acceptWorkload invitingDb guestContexts guests).system.Reachable state ∧
      ∃ entry ∈ state.log, ∃ entry' ∈ state.log, entry.client ≠ entry'.client ∧
        (guests entry.client).token = (guests entry'.client).token ∧
        (state.db.memberships.get? (Acceptance.key guests entry)).isSome ∧
        (state.db.memberships.get? (Acceptance.key guests entry')).isSome := by
  let workload := acceptWorkload invitingDb guestContexts guests
  have start : workload.system.Reachable invitedState := .initial ⟨rfl, rfl, fun _ => rfl⟩
  -- what is left of the first accept once it has made its checks
  let rest : TenantTx (String × ManageableOrgRole) := do
    PrismaMembershipRepository.save (Membership.createMember "membership-2" 10 "org-1" "bob"
      ⟨.member, by decide⟩)
    PrismaOrgInviteRepository.save (openInvite.accept 10 "bob")
    return ("org-1", ⟨.member, by decide⟩)
  let checked := invitedState.put 0 (.active invitingDb [invitingDb, invitingDb] [] rest)
  have reads := Workload.reachable_read start 0 (.inl rfl) rfl trivial rfl
  have checks : workload.system.Reachable checked :=
    reads.leads (Workload.leads_read workload invitedState trivial rfl)
  have carol := Workload.reachable_commit checks 1 (.inl rfl)
    (fun other _ => by rcases other with _ | _ | _ <;> rfl)
    (.of_all (fun _ _ => trivial) _ _ _)
    (show _ = Except.ok (("org-1", ⟨.member, by decide⟩), memberWrites 1) by decide +kernel)
  have bob := Workload.leads_resume workload
    (checked.commit workload 1 invitingDb ("org-1", ⟨.member, by decide⟩) (memberWrites 1)) 0 rfl
    (fun other _ => by rcases other with _ | _ | _ <;> rfl) (.of_all (fun _ _ => trivial) _ _ _)
    (show _ = Except.ok (("org-1", ⟨.member, by decide⟩), memberWrites 0) by decide +kernel)
  refine ⟨_, carol.leads bob, _, List.mem_cons_self, _, List.mem_cons_of_mem _ List.mem_cons_self,
    by decide, rfl, rfl, rfl⟩

end CoreApi.Tenant
