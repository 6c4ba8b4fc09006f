import QuoteDesk.Main
import QuoteDesk.Proofs.Analysis.Fencing
import QuoteDesk.Proofs.Analysis.Lines
import QuoteDesk.Proofs.Assistant.Answering
import QuoteDesk.Proofs.Bus.Mirroring
import QuoteDesk.Proofs.Catalog.Searching
import QuoteDesk.Proofs.Console.Commands
import QuoteDesk.Proofs.Console.Sitting
import QuoteDesk.Proofs.Directive.Endings
import QuoteDesk.Proofs.Directive.Recent
import QuoteDesk.Proofs.Quote.Totals
import QuoteDesk.Proofs.Reply.Accounting
import QuoteDesk.Proofs.Reply.Rendered
import QuoteDesk.Proofs.Reply.Reporting
import QuoteDesk.Proofs.Reply.Spacing
import QuoteDesk.Proofs.Session.Announcements
import QuoteDesk.Proofs.Session.Discretion
import QuoteDesk.Proofs.Session.EventLog
import QuoteDesk.Proofs.Session.Reviewing
import QuoteDesk.Proofs.Session.Sale
import QuoteDesk.Proofs.Settings.Overriding
import QuoteDesk.Proofs.Settings.Repeating
