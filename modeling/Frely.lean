import Frely.Admin.Equiv.SavedPrice
import Frely.Application.Equiv.CreditLedger
import Frely.Application.Equiv.Evidence
import Frely.Application.Equiv.Holds
import Frely.Application.Equiv.PrepaidTranches
import Frely.Application.Equiv.RoutingPath
import Frely.Application.Equiv.SellerConservation
import Frely.Application.Equiv.TaskLeases
import Frely.Billing.Equiv.FreezePriceRow
import Frely.Capture.Equiv.StreamWriter
import Frely.Cliproxy.Equiv.CpaBasicAgree
import Frely.Core.Equiv.AccessPointRequestOverrides
import Frely.Entitlement.Equiv.PersonalProviderSlots
import Frely.Entitlement.Equiv.PlanDefinitions
import Frely.Entitlement.Equiv.Subscriptions
import Frely.Gateway.Equiv.BodyCapacity
import Frely.Gateway.Equiv.HardStops
import Frely.Gateway.Equiv.Pipeline
import Frely.Gateway.Equiv.PipelineCompiler
import Frely.Gateway.Equiv.RateLimits
import Frely.Gateway.Equiv.ShadowRisk
import Frely.Gateway.Equiv.SseOutput
import Frely.Gateway.Equiv.StreamBilling
import Frely.ModelAccess.Equiv.Failover
import Frely.ModelAccess.Equiv.ProviderManagement
import Frely.ModelAccess.Equiv.Routability
import Frely.ModelAccess.Equiv.RoutingQueries
import Frely.PiTunnel.Equiv.Activations
import Frely.PiTunnel.Equiv.ForwardSends
import Frely.PiTunnel.Equiv.LateAnswers
import Frely.PiTunnel.Equiv.Sessions
import Frely.Pricing.Equiv.PriceSnapshots
import Frely.Pricing.Equiv.SelectPrice
import Frely.Pricing.Equiv.WorstCase
import Frely.Providers.Equiv.JsonText
import Frely.Providers.Equiv.Sse
import Frely.Providers.Equiv.Transport
