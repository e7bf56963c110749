import Settlement.Arguments
import Settlement.Config.Document
import Settlement.Codec.Payment
import Settlement.Codec.Payout
import Settlement.Engine.Operation
import Settlement.Json.Parser
import Settlement.Json.Printer
import Settlement.Replay.Log
import Settlement.Main
import Settlement.Proofs.Balance.Conservation
import Settlement.Proofs.Balance.Exact
import Settlement.Proofs.Engine.Atomicity
import Settlement.Proofs.Engine.Credit
import Settlement.Proofs.Engine.Reconciliation
import Settlement.Proofs.Balance.Credit
import Settlement.Proofs.Engine.Standing
import Settlement.Proofs.Engine.Completion
import Settlement.Proofs.Engine.Delivery
import Settlement.Proofs.Engine.Retries
import Settlement.Proofs.Engine.Blind
import Settlement.Proofs.Engine.Lapse
import Settlement.Proofs.Engine.Expiry
import Settlement.Proofs.Time.Month
import Settlement.Proofs.Compliance.Gate
import Settlement.Proofs.Compliance.Volume
import Settlement.Proofs.Compliance.Order
import Settlement.Proofs.Engine.Course
import Settlement.Proofs.Engine.Series
import Settlement.Proofs.Engine.Volume
import Settlement.Proofs.Engine.Redelivery
import Settlement.Proofs.Engine.Reservation
import Settlement.Proofs.Engine.Families
import Settlement.Proofs.Engine.Dust
import Settlement.Proofs.Engine.Noninterference
import Settlement.Proofs.Engine.References
import Settlement.Proofs.Engine.Contention
import Settlement.Proofs.Replay.Labels
import Settlement.Proofs.Replay.Agreement
import Settlement.Proofs.Replay.Concord
import Settlement.Proofs.Replay.Registration
import Settlement.Proofs.Replay.Rows
import Settlement.Proofs.Replay.Draws
import Settlement.Proofs.Replay.Lockstep
import Settlement.Proofs.Replay.Statement
import Settlement.Proofs.Replay.Reproducible
import Settlement.Proofs.Replay.Skipped
import Settlement.Proofs.Fee
import Settlement.Proofs.Balance.Simulation
import Settlement.Proofs.Engine.History
import Settlement.Proofs.Replay.Payouts
import Settlement.Proofs.Compliance.Admission
import Settlement.Proofs.Engine.Displayed
import Settlement.Proofs.Engine.Audit
import Settlement.Proofs.Engine.Spelling
import Settlement.Proofs.Text.Digits
import Settlement.Proofs.Decimal.Printed
import Settlement.Proofs.Identifier
import Settlement.Proofs.Time.Written
import Settlement.Proofs.Json.Written
import Settlement.Proofs.Codec.Lawful
import Settlement.Proofs.Codec.Records
import Settlement.Proofs.Balance.Printed
import Settlement.Proofs.Replay.Amounts
import Settlement.Proofs.Replay.Balances
