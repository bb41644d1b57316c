import ContentFilter.Builder
import ContentFilter.Command.Arguments
import ContentFilter.Command.Basic
import ContentFilter.Command.Run
import ContentFilter.Files
import ContentFilter.Hiding
import ContentFilter.Host
import ContentFilter.Live.CustomRules
import ContentFilter.Live.Filter
import ContentFilter.Main
import ContentFilter.Pattern
import ContentFilter.Proofs.Command.FirstLoad
import ContentFilter.Proofs.Files.Growth
import ContentFilter.Proofs.Files.Parents
import ContentFilter.Proofs.Hiding.Documents
import ContentFilter.Proofs.Hiding.DomainLines
import ContentFilter.Proofs.Hiding.Exceptions
import ContentFilter.Proofs.Hiding.Lines
import ContentFilter.Proofs.Host.Coverage
import ContentFilter.Proofs.Host.Domains
import ContentFilter.Proofs.Host.Filters
import ContentFilter.Proofs.Host.Names
import ContentFilter.Proofs.Host.Registry
import ContentFilter.Proofs.Host.Walks
import ContentFilter.Proofs.Live.AppendedLines
import ContentFilter.Proofs.Live.Edits
import ContentFilter.Proofs.Live.Failures
import ContentFilter.Proofs.Live.FileLines
import ContentFilter.Proofs.Live.History
import ContentFilter.Proofs.Live.LetterCase
import ContentFilter.Proofs.Live.Reload
import ContentFilter.Proofs.Live.Removal
import ContentFilter.Proofs.Live.RootDot
import ContentFilter.Proofs.Live.RuleFile
import ContentFilter.Proofs.Live.Withdrawal
import ContentFilter.Proofs.Pattern.SmallLetters
import ContentFilter.Proofs.Regex.Growth
import ContentFilter.Proofs.Regex.LetterCase
import ContentFilter.Proofs.Regex.Matching
import ContentFilter.Proofs.Regex.Reading
import ContentFilter.Proofs.Regex.Room
import ContentFilter.Proofs.Regex.SetRoom
import ContentFilter.Proofs.Regex.Sets
import ContentFilter.Proofs.Rule.Expressions
import ContentFilter.Proofs.Rule.HostLines
import ContentFilter.Proofs.Rule.OptionLines
import ContentFilter.Proofs.Rule.Options
import ContentFilter.Proofs.Rule.SingleOptions
import ContentFilter.Proofs.RuleSet.AddedLine
import ContentFilter.Proofs.RuleSet.Contents
import ContentFilter.Proofs.RuleSet.SameLines
import ContentFilter.Proofs.RuleSet.Tallies
import ContentFilter.Proofs.Text.Cuts
import ContentFilter.Proofs.Text.LetterCase
import ContentFilter.Proofs.Text.Lines
import ContentFilter.Proofs.Text.LossyDecoding
import ContentFilter.Proofs.Text.Words
import ContentFilter.Proofs.Unicode.CaseClasses
import ContentFilter.Proofs.Unicode.CodeBits
import ContentFilter.Proofs.Unicode.SmallLetters
import ContentFilter.Proofs.Url.Assembly
import ContentFilter.Proofs.Url.Parts
import ContentFilter.Proofs.Url.WebAddress
import ContentFilter.Proofs.Verdict.Blocking
import ContentFilter.Proofs.Verdict.HostFilters
import ContentFilter.Proofs.Verdict.Lines
import ContentFilter.Proofs.Wildcard.DomainFilters
import ContentFilter.Proofs.Wildcard.HostFilters
import ContentFilter.Proofs.Wildcard.Meaning
import ContentFilter.Proofs.Wildcard.Reading
import ContentFilter.Proofs.Wildcard.Room
import ContentFilter.Regex.Basic
import ContentFilter.Regex.Layout
import ContentFilter.Regex.Matcher
import ContentFilter.Regex.Property
import ContentFilter.Regex.Property.Basic
import ContentFilter.Regex.Reader
import ContentFilter.Regex.Reader.Class
import ContentFilter.Regex.Reader.Escape
import ContentFilter.Regex.Room
import ContentFilter.Regex.Room.Automaton
import ContentFilter.Request
import ContentFilter.Rule.Basic
import ContentFilter.Rule.Line
import ContentFilter.RuleSet
import ContentFilter.Settings.Basic
import ContentFilter.Settings.Reader
import ContentFilter.Text.Basic
import ContentFilter.Text.Utf8
import ContentFilter.Text.Utf8.Lemmas
import ContentFilter.Toml.Document
import ContentFilter.Toml.Reader
import ContentFilter.Toml.Scalar
import ContentFilter.Toml.Token
import ContentFilter.Unicode.Age
import ContentFilter.Unicode.Casing
import ContentFilter.Unicode.Category
import ContentFilter.Unicode.Latest
import ContentFilter.Unicode.Property
import ContentFilter.Unicode.Ranges
import ContentFilter.Unicode.Script
import ContentFilter.Unicode.Script.Extension
import ContentFilter.Unicode.Word
import ContentFilter.Verdict
