import AutoProxy.Main
import AutoProxy.Script.Workers
import AutoProxy.Source.Concurrent
import AutoProxy.Source.Watch
import AutoProxy.Proofs.Text
import AutoProxy.Proofs.Decimal
import AutoProxy.Proofs.Answer.Segments
import AutoProxy.Proofs.Answer.Notation
import AutoProxy.Proofs.Url.Host
import AutoProxy.Proofs.Calendar.Count
import AutoProxy.Proofs.Calendar.Order
import AutoProxy.Proofs.Source.Calls
import AutoProxy.Proofs.Source.Steps
import AutoProxy.Proofs.Source.Alone
import AutoProxy.Proofs.Source.Lock
import AutoProxy.Proofs.Resolver.Bypass
import AutoProxy.Proofs.Source.Invalidation
import AutoProxy.Proofs.Source.Sharing
import AutoProxy.Proofs.Script.Binding
import AutoProxy.Proofs.Script.History
import AutoProxy.Proofs.Workers.Evaluations
import AutoProxy.Proofs.Workers.Generations
import AutoProxy.Proofs.Workers.Deaths
import AutoProxy.Proofs.Resolver.Law
import AutoProxy.Proofs.Workers.Alone
import AutoProxy.Proofs.Workers.Steps
import AutoProxy.Proofs.Resolver.Counts
import AutoProxy.Proofs.Script.Call
import AutoProxy.Proofs.Script.Bench
import AutoProxy.Proofs.Settings.Priority
import AutoProxy.Proofs.Wildcard
import AutoProxy.Proofs.Predicate.OrderedRange
import AutoProxy.Proofs.Predicate.WrappingRange
import AutoProxy.Proofs.Predicate.TimeOfDay
import AutoProxy.Proofs.Predicate.Present
import AutoProxy.Proofs.Predicate.TimeRange
import AutoProxy.Proofs.Predicate.WeekdayRange
import AutoProxy.Proofs.Web.Expiry
import AutoProxy.Proofs.Calendar.Limits
import AutoProxy.Proofs.Answer.Account
import AutoProxy.Proofs.Source.Overrun
import AutoProxy.Proofs.Predicate.Words
import AutoProxy.Proofs.LineBreak
import AutoProxy.Proofs.Answer.Grammar
import AutoProxy.Proofs.Answer.Address
import AutoProxy.Proofs.Answer.Port
import AutoProxy.Proofs.Predicate.TimeArguments
import AutoProxy.Proofs.Predicate.Network
import AutoProxy.Proofs.Predicate.Lookup
import AutoProxy.Proofs.Settings.Document
import AutoProxy.Proofs.Predicate.Agreement
import AutoProxy.Proofs.Predicate.NextYear
import AutoProxy.Proofs.CommandLine.Verdict
import AutoProxy.Proofs.CommandLine.Output
