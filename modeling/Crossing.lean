import Crossing.Metering
import Crossing.MandateRevocation
import Crossing.Bounds
import Crossing.SignedState
import Crossing.CallCount
import Crossing.Evidence
import Crossing.Completion
import Crossing.Attenuation
import Crossing.Revocation
import Crossing.TenantSecrecy
import Crossing.ReceiptCheck
import Crossing.StoredTerms
import Crossing.OperatorReach
import Crossing.OutboxDelivery
import Crossing.OutboxResults
import Crossing.KeyConfinement
import Crossing.KeyScopes
import Crossing.BalanceLog
import Crossing.ReconciliationTrail
import Crossing.WebhookReplay
import Crossing.DebitReasons
import Crossing.DenialLog
import Crossing.IdempotencyGates
import Crossing.Retry
import Crossing.AgentTree
import Crossing.RateLimit
import Crossing.WebhookSignature
import Crossing.FeeRange
import Crossing.ProviderRequests
import Crossing.ProxyCalls
import Crossing.CanonicalText
import Crossing.IssuedReceipts
import Crossing.CallArguments
import Crossing.BillingStatus
import Crossing.SessionBalances
import Crossing.Quotes
import Crossing.ProxyStream
import Crossing.TenantReads
import Crossing.HtmlText
import Crossing.Dashboard
import Crossing.WebhookRequests
import Crossing.KeyStores
import Crossing.KeyBoot
