import PaymentLedger.Shared.Program
import PaymentLedger.Shared.System
import PaymentLedger.Shared.ProgramLogic
import PaymentLedger.BankA.Domain
import PaymentLedger.Shared.Json
import PaymentLedger.Shared.Outbox
import PaymentLedger.BankA.Database
import PaymentLedger.BankA.Services
import PaymentLedger.BankA.Commits
import PaymentLedger.BankA.Invariant
import PaymentLedger.BankA.Frame
import PaymentLedger.BankA.Contract
import PaymentLedger.BankA.Statements
import PaymentLedger.BankA.Sessions
import PaymentLedger.BankA.Transfers
import PaymentLedger.BankA.InterbankTransfers
import PaymentLedger.BankA.Replies
import PaymentLedger.BankA.Verified
import PaymentLedger.BankA.Solvency
import PaymentLedger.BankA.Idempotency
import PaymentLedger.BankA.Reversals
import PaymentLedger.BankA.Saga
import PaymentLedger.BankA.Compensation
import PaymentLedger.Hub.Database
import PaymentLedger.Hub.Services
import PaymentLedger.Hub.Commits
import PaymentLedger.Hub.Invariant
import PaymentLedger.Hub.Contract
import PaymentLedger.Hub.Statements
import PaymentLedger.Hub.Verified
import PaymentLedger.Hub.Lifecycle
import PaymentLedger.Hub.Settlements
import PaymentLedger.Shared.History
import PaymentLedger.Shared.Issues
import PaymentLedger.Hub.History
import PaymentLedger.BankA.History
import PaymentLedger.Network.Histories
import PaymentLedger.Shared.Single
import PaymentLedger.BankA.Atomicity
import PaymentLedger.BankA.Turns
import PaymentLedger.BankA.Transit
import PaymentLedger.BankA.Requests
import PaymentLedger.Network.Model
import PaymentLedger.Network.Origins
import PaymentLedger.Network.Verdicts
import PaymentLedger.Network.Agreement
import PaymentLedger.Shared.Precedence
import PaymentLedger.BankB.Domain
import PaymentLedger.BankB.Database
import PaymentLedger.BankB.Services
import PaymentLedger.BankB.Commits
import PaymentLedger.BankB.Contract
import PaymentLedger.BankB.Verified
import PaymentLedger.BankB.Transfers
import PaymentLedger.Shared.ConnectionPool
import PaymentLedger.BankB.Connections
import PaymentLedger.Shared.Relay
import PaymentLedger.Shared.Deliveries
import PaymentLedger.Shared.Draining
import PaymentLedger.Shared.TickSeries
import PaymentLedger.Shared.Channel
import PaymentLedger.BankA.Relay
import PaymentLedger.Hub.Relay
import PaymentLedger.Network.Relays
import PaymentLedger.Network.Requests
import PaymentLedger.Hub.Routing
import PaymentLedger.BankB.Credits
import PaymentLedger.BankB.References
import PaymentLedger.Network.Outcomes
import PaymentLedger.BankA.LockOrder
import PaymentLedger.BankA.Balances
import PaymentLedger.BankA.Retries
import PaymentLedger.BankA.Deadlock
import PaymentLedger.Hub.Atomicity
import PaymentLedger.Hub.Serial
import PaymentLedger.Network.Reconciliation
import PaymentLedger.Network.Causality
import PaymentLedger.BankB.Atomicity
import PaymentLedger.BankA.Whole
import PaymentLedger.Network.AllOrNothing
import PaymentLedger.Network.Isolation
import PaymentLedger.Network.Amounts
import PaymentLedger.BankA.Merits
import PaymentLedger.Shared.Sequential
import PaymentLedger.Shared.Advisory
import PaymentLedger.Migrations.Runner
import PaymentLedger.Migrations.Runs
import PaymentLedger.Shared.Escrow
import PaymentLedger.BankA.Escrow
import PaymentLedger.Shared.Solo
import PaymentLedger.Shared.Receipts
import PaymentLedger.Hub.Completion
import PaymentLedger.Network.Recovery
import PaymentLedger.Shared.Inbox
import PaymentLedger.Shared.Returns
import PaymentLedger.Hub.Handled
import PaymentLedger.Network.Consumers
import PaymentLedger.Shared.Monitor
import PaymentLedger.Shared.Connections
import PaymentLedger.Shared.Progress
import PaymentLedger.BankA.Connections
import PaymentLedger.Hub.Connections
import PaymentLedger.Network.Connections
import PaymentLedger.Network.Backing
import PaymentLedger.Shared.Disclosure
import PaymentLedger.BankA.Refusals
