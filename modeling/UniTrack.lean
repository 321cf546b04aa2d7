import UniTrack.Accounts.DenyList
import UniTrack.Accounts.Lifecycle
import UniTrack.Accounts.MailLimit
import UniTrack.Accounts.PrincipalText
import UniTrack.Accounts.Rotation
import UniTrack.Accounts.SafetyNet
import UniTrack.Accounts.SingleUse
import UniTrack.Accounts.Snapshot
import UniTrack.Accounts.Suspension
import UniTrack.Boarding.Alerts
import UniTrack.Boarding.Answers
import UniTrack.Boarding.Codes
import UniTrack.Boarding.Concurrent
import UniTrack.Boarding.Custody
import UniTrack.Boarding.Delay
import UniTrack.Boarding.Detection
import UniTrack.Boarding.Effects
import UniTrack.Boarding.Fares
import UniTrack.Boarding.Manifest
import UniTrack.Boarding.Nonce
import UniTrack.Boarding.Overspending
import UniTrack.Boarding.Resubmission
import UniTrack.Boarding.RouteScope
import UniTrack.Catalog.Edits
import UniTrack.Catalog.RouteStops
import UniTrack.Console.Claims
import UniTrack.Core.Authz
import UniTrack.Core.Elasticsearch
import UniTrack.Core.Redis
import UniTrack.Core.Revocation
import UniTrack.Core.Security
import UniTrack.Core.Sslcommerz
import UniTrack.Framework.Batch
import UniTrack.Framework.Calls
import UniTrack.Framework.Cooldown
import UniTrack.Framework.Expiry
import UniTrack.Framework.Keyring
import UniTrack.Framework.Records
import UniTrack.Framework.Runs
import UniTrack.Framework.Search
import UniTrack.Framework.Serial
import UniTrack.Framework.Sessions
import UniTrack.Framework.Spelled
import UniTrack.Framework.Stream
import UniTrack.Framework.Table
import UniTrack.Framework.Threads
import UniTrack.Gps.Attribution
import UniTrack.Gps.Delivery
import UniTrack.Gps.FleetMap
import UniTrack.Gps.History
import UniTrack.Gps.Latest
import UniTrack.Gps.Nearby
import UniTrack.Gps.Watching
import UniTrack.Models.Accounts
import UniTrack.Models.Catalog
import UniTrack.Models.Commerce
import UniTrack.Models.Fleet
import UniTrack.Models.UnitOfWork
import UniTrack.Payments.Attempts
import UniTrack.Payments.Backlog
import UniTrack.Payments.Echo
import UniTrack.Payments.Interleaving
import UniTrack.Payments.LatePass
import UniTrack.Payments.Ledger
import UniTrack.Payments.LostRace
import UniTrack.Payments.OwnPayment
import UniTrack.Payments.Pass
import UniTrack.Payments.Reach
import UniTrack.Payments.Reports
import UniTrack.Payments.Told
import UniTrack.Python.Base64
import UniTrack.Python.Datetime
import UniTrack.Python.Decimal
import UniTrack.Python.Dumps
import UniTrack.Python.Fixed
import UniTrack.Python.Json
import UniTrack.Python.Scanner
import UniTrack.Python.Text
import UniTrack.Python.Urls
import UniTrack.Repositories.Commerce
import UniTrack.Repositories.Users
import UniTrack.Routes.Admin
import UniTrack.Routes.AdminCatalog
import UniTrack.Routes.Auth
import UniTrack.Routes.Boarding
import UniTrack.Routes.Catalog
import UniTrack.Routes.Console
import UniTrack.Routes.Helper
import UniTrack.Routes.Mail
import UniTrack.Routes.Moderation
import UniTrack.Routes.Sessions
import UniTrack.Routes.Shop
import UniTrack.Routes.Tracking
import UniTrack.Routes.WsTrack
import UniTrack.Services.Boarding
import UniTrack.Services.Eta
import UniTrack.Services.FleetView
import UniTrack.Services.LiveTrack
import UniTrack.Services.Ops
import UniTrack.Services.Redemption
import UniTrack.Services.Settlement
import UniTrack.Services.Trip
import UniTrack.Trips.ActiveTripText
import UniTrack.Trips.Arrivals
import UniTrack.Trips.Board
import UniTrack.Trips.Ended
import UniTrack.Trips.EtaText
import UniTrack.Trips.Furthest
import UniTrack.Trips.NextStop
import UniTrack.Trips.Progress
import UniTrack.Trips.RecentFixes
import UniTrack.Trips.StopBoard
import UniTrack.Worker.Alive
import UniTrack.Worker.EtaEngine
import UniTrack.Worker.FraudSweep
import UniTrack.Worker.GpsEsIndexer
import UniTrack.Worker.Main
import UniTrack.Worker.Passes
import UniTrack.Worker.PaymentReconciler
