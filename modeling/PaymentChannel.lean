import PaymentChannel.Main
import PaymentChannel.Settings
import PaymentChannel.Wallet
import PaymentChannel.Proofs.Template.Recognition
import PaymentChannel.Proofs.Channel.Deposit
import PaymentChannel.Proofs.Channel.Bookkeeping
import PaymentChannel.Proofs.Channel.Ordering
import PaymentChannel.Proofs.Ecdsa.Encoding
import PaymentChannel.Proofs.Spend.Acceptance
import PaymentChannel.Proofs.Wallet.Bookkeeping
import PaymentChannel.Proofs.Channel.Failure
import PaymentChannel.Proofs.Spend.Handshake
import PaymentChannel.Proofs.Json.Document
import PaymentChannel.Proofs.Json.Record
import PaymentChannel.Proofs.Snapshot.Text
import PaymentChannel.Proofs.Channel.Funding
import PaymentChannel.Proofs.Store
import PaymentChannel.Proofs.Channel.Answers
import PaymentChannel.Proofs.Wallet.Restore
import PaymentChannel.Proofs.Channel.Consistency
import PaymentChannel.Proofs.Channel.Exchange
import PaymentChannel.Proofs.Channel.Remaining
import PaymentChannel.Proofs.Channel.SpendSecret
import PaymentChannel.Proofs.Channel.Replay
import PaymentChannel.Proofs.Channel.Proposal
import PaymentChannel.Proofs.Channel.Reading
import PaymentChannel.Proofs.Channel.Transferred
import PaymentChannel.Proofs.Spend.Disclosure
import PaymentChannel.Proofs.Channel.Punishment
import PaymentChannel.Proofs.Store.Catalog
import PaymentChannel.Proofs.Snapshot.Layout
import PaymentChannel.Proofs.Channel.Adding
import PaymentChannel.Proofs.Channel.Loading
import PaymentChannel.Proofs.Channel.Unavailable
import PaymentChannel.Proofs.Channel.StableOrder
import PaymentChannel.Proofs.Wallet.Revoking
import PaymentChannel.Proofs.Script.Words
import PaymentChannel.Proofs.Transaction.Canonical
import PaymentChannel.Proofs.CommandLine.Inspection
