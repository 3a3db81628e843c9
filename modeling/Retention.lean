import Retention.Config.File
import Retention.Config.Json
import Retention.Pruner.Prune
import Retention.Rehearsal.Paths
import Retention.Rehearsal.Plan
import Retention.Rehearsal.Responder
import Retention.Rehearsal.Stage
import Retention.Proofs.Trace
import Retention.Proofs.Removal
import Retention.Proofs.Choice
import Retention.Proofs.Accounting
import Retention.Proofs.RemovalOrder
import Retention.Proofs.Selection
import Retention.Proofs.Candidates
import Retention.Proofs.Trimming
import Retention.Proofs.Survival
import Retention.Proofs.DryRun
import Retention.Proofs.Memory
import Retention.Proofs.Resumption
import Retention.Proofs.Phases
import Retention.Proofs.ReportedType
import Retention.Proofs.ApiVersions
import Retention.Proofs.ValidSettings
import Retention.Proofs.Pages
import Retention.Proofs.ListingOrder
import Retention.Proofs.Dispatches
import Retention.Proofs.Faults
import Retention.Proofs.Forms
import Retention.Proofs.Addresses
import Retention.Proofs.Operations
import Retention.Proofs.Delivery
import Retention.Proofs.Discovery
import Retention.Proofs.Chronicle
import Retention.Proofs.Namespaces
import Retention.Proofs.Selectors
import Retention.Proofs.TextMaps
import Retention.Proofs.Workloads
import Retention.Proofs.Guises
import Retention.Proofs.Watch
import Retention.Proofs.Cancellation
import Retention.Proofs.Calendar
import Retention.Proofs.Digits
import Retention.Proofs.Instants
import Retention.Proofs.JsonText
import Retention.Proofs.Members
import Retention.Proofs.ConfigForms
import Retention.Proofs.Minutes
import Retention.Proofs.Reports
import Retention.Proofs.Alarms
import Retention.Proofs.Departures
import Retention.Proofs.Succession
import Retention.Proofs.Registrations
import Retention.Proofs.ByteOrder
import Retention.Proofs.Seniority
import Retention.Proofs.Spellings
import Retention.Proofs.Fractions
import Retention.Proofs.ByteOffsets
import Retention.Proofs.Words
import Retention.Proofs.Ages
import Retention.Proofs.LabelRules
import Retention.Proofs.FirstFault
import Retention.Proofs.LooserLimits
import Retention.Proofs.CalendarStart
import Retention.Proofs.Quotations
import Retention.Proofs.Displays
