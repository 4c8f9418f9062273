import MetaSearch.Main
import MetaSearch.Service.Basic
import MetaSearch.Proofs.Template.Words
import MetaSearch.Proofs.Template.Form
import MetaSearch.Proofs.Template.Pass
import MetaSearch.Proofs.Template.Meaning
import MetaSearch.Proofs.Cache.Contents
import MetaSearch.Proofs.Search.Traffic
import MetaSearch.Proofs.Search.Faithful
import MetaSearch.Proofs.Search.Asked
import MetaSearch.Proofs.Search.Trail
import MetaSearch.Proofs.Calendar.Legible
import MetaSearch.Proofs.Number.Spelled
import MetaSearch.Proofs.Number.Greatest
import MetaSearch.Proofs.Release.Legible
import MetaSearch.Proofs.Datum.Equality
import MetaSearch.Proofs.Search.Rows
import MetaSearch.Proofs.Address.Parsed
import MetaSearch.Proofs.Release.Sorted
import MetaSearch.Proofs.Search.Accounted
import MetaSearch.Proofs.Web.Logged
import MetaSearch.Proofs.Address.Absolute
import MetaSearch.Proofs.Address.Percent
import MetaSearch.Proofs.Site.Carried
import MetaSearch.Proofs.Web.SolvedPage
import MetaSearch.Proofs.Text.Parts
import MetaSearch.Proofs.Text.Utf8
import MetaSearch.Proofs.Shape.Unbroken
import MetaSearch.Proofs.Yaml.Misspelled
import MetaSearch.Proofs.Site.Breaking
import MetaSearch.Proofs.Site.Loaded
import MetaSearch.Proofs.Cache.Recency
import MetaSearch.Proofs.Address.Segments
import MetaSearch.Proofs.Release.WellFormed
import MetaSearch.Proofs.Search.Latest
import MetaSearch.Proofs.Site.Addressed
import MetaSearch.Proofs.Search.Scheduled
import MetaSearch.Proofs.Search.Listed
import MetaSearch.Proofs.Config.Precedence
import MetaSearch.Proofs.Config.Reload
import MetaSearch.Proofs.Site.Forwarded
import MetaSearch.Proofs.Template.Delimiters
import MetaSearch.Proofs.Cache.Backends
import MetaSearch.Proofs.Site.Accepted
import MetaSearch.Proofs.Search.Unmissed
import MetaSearch.Proofs.Release.Ordered
import MetaSearch.Proofs.Template.Settled
import MetaSearch.Proofs.Search.Identified
import MetaSearch.Proofs.Web.Orderly
import MetaSearch.Proofs.Extract.Merged
import MetaSearch.Proofs.Extract.Published
import MetaSearch.Proofs.Template.Dotted
import MetaSearch.Proofs.Text.Folded
import MetaSearch.Proofs.Search.Matched
import MetaSearch.Proofs.Number.Written
import MetaSearch.Proofs.Release.Linked
import MetaSearch.Proofs.Extract.Stepped
import MetaSearch.Proofs.Number.Rounded
import MetaSearch.Proofs.Release.Displayed
import MetaSearch.Proofs.Calendar.Day
import MetaSearch.Proofs.Calendar.Stamp
import MetaSearch.Proofs.Calendar.Phrase
import MetaSearch.Proofs.Filter.Dated
import MetaSearch.Proofs.Calendar.Shown
import MetaSearch.Proofs.Calendar.Behind
import MetaSearch.Proofs.Calendar.Ago
import MetaSearch.Proofs.Calendar.Yearless
import MetaSearch.Proofs.Calendar.Restored
import MetaSearch.Proofs.Filter.Restamped
import MetaSearch.Proofs.Config.Stacked
import MetaSearch.Proofs.Pattern.Dollars
import MetaSearch.Proofs.Site.Longhand
