import Waldur.Core.Table
import Waldur.Core.Calendar
import Waldur.Core.Program
import Waldur.Marketplace.States
import Waldur.Marketplace.Lifecycle
import Waldur.Marketplace.Store
import Waldur.Marketplace.Dispatch
import Waldur.Marketplace.Redelivery
import Waldur.Marketplace.Approval
import Waldur.Marketplace.Checkout
import Waldur.Marketplace.Limits
import Waldur.Marketplace.StaleResources
import Waldur.Marketplace.UsageNotifications
import Waldur.Marketplace.Categories
import Waldur.Marketplace.Attributes
import Waldur.Marketplace.Quota
import Waldur.Marketplace.Expiry
import Waldur.Marketplace.Usage
import Waldur.Marketplace.Rollup
import Waldur.Marketplace.Move
import Waldur.Invoices.ItemUpdate
import Waldur.Notifications.Recipients
import Waldur.MarketplaceOpenstack.StorageMode
import Waldur.MarketplaceOpenstack.TenantOfferings
