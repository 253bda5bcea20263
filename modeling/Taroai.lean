import Taroai.Agent.Observations
import Taroai.Chat.Awake
import Taroai.Chat.ClaimTwins
import Taroai.Chat.ExactlyOnce
import Taroai.Governance.ModelPolicy
import Taroai.Store.Reconnects
import Taroai.Triggers.DueOnce
import Taroai.Triggers.Window
import Taroai.Workers.Fencing
import Taroai.Workers.Handover
import Taroai.Workers.QueueTwins
import Taroai.Workers.RedisClaimants
import Taroai.Workers.RedisCrash
import Taroai.Workflow.Completions
import Taroai.Workflow.Finality
import Taroai.Api.PageWalk
import Taroai.Auth.CutOff
import Taroai.Connectors.Confinement
import Taroai.Incidents.Stopped
import Taroai.Licensing.InTime
import Taroai.Lifecycle.PlanRaces
import Taroai.ModelGateway.Admission
import Taroai.Store.ApprovalRaces
import Taroai.Store.LeaseTwins
import Taroai.Store.ThreadActivity
import Taroai.Tenancy.Acceptance
import Taroai.Workers.SyncDelivery
import Taroai.Agents.LinearHistory
import Taroai.Connectors.SourceAccess
import Taroai.Connectors.TokenPair
import Taroai.Evaluation.Verdict
import Taroai.Knowledge.Isolation
import Taroai.Memory.Forgotten
import Taroai.Scim.Converges
import Taroai.Skills.Published
import Taroai.Skills.Upgrades
import Taroai.Memory.TenantsApart
import Taroai.Sandbox.ImagePolicy
import Taroai.Triggers.Webhook
import Taroai.Workflow.ValidateGraph
import Taroai.Agent.DecisionKeys
import Taroai.Agent.ResponseUrls
import Taroai.Agents.ApiKeyAccess
import Taroai.Evaluation.SchemaMeaning
import Taroai.Governance.Decisions
import Taroai.Governance.Keywords
import Taroai.ModelGateway.Streaming
import Taroai.Triggers.WallClock
import Taroai.Governance.Redactions
import Taroai.Support.SecretValues
import Taroai.Billing.CurrencyPurity
import Taroai.Billing.EffectiveRules
import Taroai.Billing.RepositoryTwins
import Taroai.ModelGateway.ObjectText
import Taroai.ModelGateway.RedisWindow
import Taroai.Skills.Materializer
import Taroai.Skills.Subdirectory
import Taroai.Knowledge.Ingestion
import Taroai.Secrets.Leases
import Taroai.Triggers.CronFields
import Taroai.Governance.ApprovalCover
import Taroai.Agent.Bounded
import Taroai.Store.Sequences
