import Storefront.Config
import Storefront.Dispatcher
import Storefront.Document.Event
import Storefront.Http.Sample
import Storefront.LockRegistry
import Storefront.Order.Policy
import Storefront.Proofs.Evaluation
import Storefront.Proofs.Refusal
import Storefront.Proofs.Table
import Storefront.Service.Pool
import Storefront.Proofs.Effect
import Storefront.Proofs.Execution
import Storefront.Proofs.Lines
import Storefront.Proofs.Catalogue
import Storefront.Proofs.Filling
import Storefront.Proofs.Soundness
import Storefront.Proofs.Deliveries
import Storefront.Proofs.Conservation
import Storefront.Proofs.Acceptance
import Storefront.Proofs.Compensation
import Storefront.Proofs.Undoing
import Storefront.Proofs.Overlay
import Storefront.Proofs.Discipline
import Storefront.Proofs.Turns
import Storefront.Proofs.Serializability
import Storefront.Proofs.Atomicity
import Storefront.Proofs.Oversale
import Storefront.Proofs.LockQueue
import Storefront.Proofs.Exclusion
import Storefront.Proofs.OrderView
import Storefront.Proofs.Chronicle
import Storefront.Proofs.Announcement
import Storefront.Proofs.Journal
import Storefront.Proofs.Custody
import Storefront.Proofs.Tending
import Storefront.Proofs.OrderLife
import Storefront.Proofs.Clientele
import Storefront.Proofs.Crediting
import Storefront.Proofs.Arrival
import Storefront.Proofs.EqualOrders
import Storefront.Proofs.Telling
import Storefront.Proofs.Backlog
import Storefront.Proofs.Listening
import Storefront.Proofs.Balance
import Storefront.Proofs.Session
import Storefront.Proofs.Dispatch
import Storefront.Proofs.Idleness
import Storefront.Proofs.LockOrder
import Storefront.Proofs.Progress
import Storefront.Proofs.Roster
import Storefront.Proofs.Rivalry
import Storefront.Proofs.Addresses
import Storefront.Proofs.Digits
import Storefront.Proofs.JsonText
import Storefront.Proofs.Instants
import Storefront.Proofs.Fields
import Storefront.Proofs.Documents
import Storefront.Proofs.Showing
import Storefront.Proofs.Responses
import Storefront.Proofs.Tallies
import Storefront.Proofs.Reckoning
import Storefront.Proofs.Reconciliation
import Storefront.Proofs.CustomerView
import Storefront.Proofs.CustomerLog
import Storefront.Proofs.Recounting
import Storefront.Proofs.Grouping
import Storefront.Proofs.StoreCalls
import Storefront.Proofs.CustomerCalls
import Storefront.Proofs.Exactness
import Storefront.Proofs.Spelling
import Storefront.Proofs.MoneyText
