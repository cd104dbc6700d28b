import IntegrationPlatform.Workflow.Stopping
import IntegrationPlatform.Workflow.Traversal
import IntegrationPlatform.Privacy.Redaction
import IntegrationPlatform.Triggers.FanOut
import IntegrationPlatform.Sync.Retry
import IntegrationPlatform.Sync.Deduplication
import IntegrationPlatform.Sync.Uniqueness
import IntegrationPlatform.Flows.Retries
import IntegrationPlatform.Gateway.Versions
import IntegrationPlatform.Rates.Concurrency
import IntegrationPlatform.Webhooks.Tenants
import IntegrationPlatform.Webhooks.Intake
import IntegrationPlatform.Webhooks.Processing
import IntegrationPlatform.OAuth.Rotation
import IntegrationPlatform.OAuth.Revocation
import IntegrationPlatform.Sdk.HttpClient
import IntegrationPlatform.Sdk.Triggers
import IntegrationPlatform.Resilience.Recovery
import IntegrationPlatform.Connectors.Pinning
import IntegrationPlatform.Connectors.SchemaChanges
import IntegrationPlatform.Connectors.Health
import IntegrationPlatform.OnPremise.DeliveryOrder
import IntegrationPlatform.OnPremise.Outbound
import IntegrationPlatform.OnPremise.Documents
import IntegrationPlatform.OnPremise.Connection
import IntegrationPlatform.Integrators.EmailPoller
import IntegrationPlatform.Integrators.AllegroScraper
import IntegrationPlatform.Integrators.AllegroTokens
import IntegrationPlatform.Kafka.Consumer
import IntegrationPlatform.Integrators.KsefSessions
import IntegrationPlatform.Integrators.WmsFeedback
import IntegrationPlatform.Integrators.FilePollers
import IntegrationPlatform.Integrators.SlackPoller
import IntegrationPlatform.Integrators.BaseLinkerScraper
import IntegrationPlatform.Integrators.ShopifyScraper
import IntegrationPlatform.Integrators.TimestampScrapers
import IntegrationPlatform.Integrators.WindowScrapers
import IntegrationPlatform.Integrators.CourierOrders
import IntegrationPlatform.Workflow.Aggregate
import IntegrationPlatform.Integrators.SkanujFakture
import IntegrationPlatform.Integrators.SymfoniaSessions
import IntegrationPlatform.Workflow.Branching
import IntegrationPlatform.Workflow.Loops
import IntegrationPlatform.Workflow.SharedItems
import IntegrationPlatform.Rates.RetryAfter
import IntegrationPlatform.Webhooks.Totality
import IntegrationPlatform.OAuth.StateRoundTrip
import IntegrationPlatform.Sync.EntityKeys
import IntegrationPlatform.Sync.ContentHash
import IntegrationPlatform.Workflow.Interpolation
import IntegrationPlatform.Mapping.Templates
import IntegrationPlatform.Privacy.LogRedaction
import IntegrationPlatform.Flows.Outcomes
import IntegrationPlatform.Integrators.PollerReset
import IntegrationPlatform.Connectors.SchemaMerge
import IntegrationPlatform.Rates.RequestLimits
import IntegrationPlatform.Networks.UrlGuards
import IntegrationPlatform.Flows.PathParameters
import IntegrationPlatform.Mapping.SharedMapper
import IntegrationPlatform.Integrators.InvoiceTotals
import IntegrationPlatform.Integrators.RawInvoices
import IntegrationPlatform.Integrators.ShipmentLookup
import IntegrationPlatform.Integrators.FtpPaths
import IntegrationPlatform.Gateway.CronSchedules
import IntegrationPlatform.Integrators.RestBatch
import IntegrationPlatform.Integrators.RestDiscovery
import IntegrationPlatform.Integrators.WooCommerce
import IntegrationPlatform.Mapping.PreviewAgreement
import IntegrationPlatform.Workflow.Provenance
import IntegrationPlatform.Workflow.Upstream
import IntegrationPlatform.Gateway.ScheduledRuns
import IntegrationPlatform.Gateway.CredentialTokens
import IntegrationPlatform.Sdk.ActionLimits
