import VirtualStack.Durability
import VirtualStack.TenantAdministration
import VirtualStack.InvitationTenancy
import VirtualStack.APIKeyTenancy
import VirtualStack.InvitationLifecycle
import VirtualStack.InvitationRace
import VirtualStack.InvitationAcceptance
import VirtualStack.TenantIsolation
import VirtualStack.RoleNames
import VirtualStack.Deactivation
import VirtualStack.Privileges
import VirtualStack.APIKeyOwnership
import VirtualStack.APIKeyLifecycle
import VirtualStack.Authentication
import VirtualStack.RoleRace
import VirtualStack.ActiveInvitations
import VirtualStack.StatusIsolation
import VirtualStack.ClosedTenants
import VirtualStack.RoleReplacement
import VirtualStack.RoleMembers
import VirtualStack.UserPages
import VirtualStack.AccessibleTenants
import VirtualStack.KeyPages
import VirtualStack.InvitationPages
import VirtualStack.PendingInvitations
import VirtualStack.RoleListing
import VirtualStack.RoleRefusals
import VirtualStack.Dicts
import VirtualStack.PageRoles
import VirtualStack.UserCreation
import VirtualStack.InvitationRefusals
import VirtualStack.FailedAcceptance
import VirtualStack.InvitedRoles
import VirtualStack.UserProfiles
import VirtualStack.SortedSets
import VirtualStack.RateLimiter
import VirtualStack.RateQuota
import VirtualStack.Migrations
import VirtualStack.SeedMigration
import VirtualStack.Closing
import VirtualStack.SentStatements
import VirtualStack.Footprints
import VirtualStack.Catalogue
import VirtualStack.Provenance
import VirtualStack.UserRows
import VirtualStack.InvitationsOverTheAPI
import VirtualStack.DurableTables
import VirtualStack.RateDelays
import VirtualStack.RateIsolation
import VirtualStack.ConcurrentRoles
import VirtualStack.OtherTenants
import VirtualStack.LoginTokens
import VirtualStack.IssuedKeys
import VirtualStack.Refusals
import VirtualStack.Resending
import VirtualStack.Disclosure
import VirtualStack.Memberships
