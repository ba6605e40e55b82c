import InventoryManagement.Cache.Transparency
import InventoryManagement.Catalog.Edits
import InventoryManagement.Catalog.Inactive
import InventoryManagement.Catalog.Payloads
import InventoryManagement.Catalog.ProductSearch
import InventoryManagement.Services.AlertData
import InventoryManagement.Services.AlertLifecycle
import InventoryManagement.Services.Announcements
import InventoryManagement.Services.AuditTrail
import InventoryManagement.Services.ColumnRange
import InventoryManagement.Services.Conservation
import InventoryManagement.Services.Evaluation
import InventoryManagement.Services.FirstReceipts
import InventoryManagement.Services.StockBoard
import InventoryManagement.Services.TransferRenaming
import InventoryManagement.Tasks.AlertEmail
import InventoryManagement.Tasks.Isolation
import InventoryManagement.Tasks.Notification
import InventoryManagement.Tasks.Reactions
import InventoryManagement.Tasks.Reports
import InventoryManagement.Websockets.Bookkeeping
import InventoryManagement.Websockets.Broadcasting
import InventoryManagement.Websockets.ExactlyOnce
import InventoryManagement.Websockets.Wire
