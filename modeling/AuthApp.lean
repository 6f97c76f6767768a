import AuthApp.Payments.Order
import AuthApp.Payments.History
import AuthApp.Payments.Race
import AuthApp.Payments.FailedRefund
import AuthApp.Payments.FakeRuns
import AuthApp.Payments.Reconcile
import AuthApp.Payments.SafeRetry
import AuthApp.Payments.ChargeRefunded
import AuthApp.Payments.Insertion
import AuthApp.Payments.StripeHeader
import AuthApp.Payments.Receipts
import AuthApp.Payments.Totals
import AuthApp.Payments.Snapshot
import AuthApp.Accounts.BruteForce
import AuthApp.Accounts.Enumeration
import AuthApp.Accounts.Guesses
import AuthApp.Accounts.Persisted
import AuthApp.Accounts.IdToken
import AuthApp.Accounts.FirstLogin
import AuthApp.Sessions.InOrder
import AuthApp.Sessions.Lifecycle
import AuthApp.Sessions.Rotation
import AuthApp.Sessions.Rounded
import AuthApp.Audit.Recent
import AuthApp.Http.Transactions
import AuthApp.Http.Overflow
import AuthApp.Http.RetryAfter
import AuthApp.Http.Listing
import AuthApp.Web.Collisions
import AuthApp.Server.TimeArithmetic
import AuthApp.Contracts.Isolation
import AuthApp.Contracts.Resume
import AuthApp.Http.Witnessed
import AuthApp.Web.Unauthorized
import AuthApp.Web.Nav
import AuthApp.Web.DoubleSubmit
import AuthApp.Http.Lasting
import AuthApp.Http.Verifications
