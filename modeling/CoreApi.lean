import CoreApi.Http.ReplayIsolation
import CoreApi.Http.AiQuota
import CoreApi.Outbox.StreamOrder
import CoreApi.Compensation.Settlement
import CoreApi.Compensation.Idempotence
import CoreApi.Knowledge.AcceptedAnswers
import CoreApi.Knowledge.Publication
import CoreApi.Engagement.FollowProjection
import CoreApi.Tenant.Authorization
import CoreApi.Tenant.Invalidation
import CoreApi.Tenant.InviteAcceptance
import CoreApi.Tenant.RolePermissions
import CoreApi.Repos.Pagination
import CoreApi.Repos.References
import CoreApi.Repos.SoftDelete
import CoreApi.Repos.VoteSummary
import CoreApi.Tenancy.Noninterference
import CoreApi.Credit.Statement
import CoreApi.Credit.RoundTrip
import CoreApi.Credit.Conservation
import CoreApi.Credit.StaleReservations
import CoreApi.PlatformAdmin.ProvisionOrg
import CoreApi.Repos.Outbox
import CoreApi.Attribution.Requests
import CoreApi.Tenant.Delegation
