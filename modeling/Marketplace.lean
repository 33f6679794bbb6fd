import Marketplace.Payments.Records
import Marketplace.Inventory.Records
import Marketplace.Orders.Coverage
import Marketplace.Shipping.Lockstep
import Marketplace.Carts.Readiness
import Marketplace.Carts.Lifecycle
