import TypedJson.Disk.Tree
import TypedJson.Main
import TypedJson.Proofs.Descriptor.Accepts
import TypedJson.Proofs.Descriptor.Report
import TypedJson.Proofs.Result
import TypedJson.Proofs.Text.Split
import TypedJson.Proofs.Json.Pointer
import TypedJson.Proofs.Json.Path
import TypedJson.Proofs.Descriptor.Place
import TypedJson.Proofs.Json.Members
import TypedJson.Proofs.Json.Edit
import TypedJson.Proofs.Descriptor.Repair
import TypedJson.Proofs.Descriptor.Completeness
import TypedJson.Proofs.Descriptor.Order
import TypedJson.Proofs.Schema.Compile
import TypedJson.Proofs.Schema.Satisfies
import TypedJson.Proofs.Schema.WellFormed
import TypedJson.Proofs.Schema.Extension
import TypedJson.Proofs.Regex.Matches
import TypedJson.Proofs.Regex.Reach
import TypedJson.Proofs.Regex.Automaton
import TypedJson.Proofs.Regex.Search
import TypedJson.Proofs.Backtrack.Matches
import TypedJson.Proofs.Backtrack.Machine
import TypedJson.Proofs.Backtrack.Plain
import TypedJson.Proofs.Backtrack.Program
import TypedJson.Proofs.Backtrack.LookAround
import TypedJson.Proofs.Backtrack.Layout
import TypedJson.Proofs.Pattern.Body
import TypedJson.Proofs.Pattern.Words
import TypedJson.Proofs.Pattern.Image
import TypedJson.Proofs.Pattern.ClassText
import TypedJson.Proofs.Pattern.CountText
import TypedJson.Proofs.Pattern.LinearText
import TypedJson.Proofs.Unicode.Folding
import TypedJson.Proofs.Pattern.Source
import TypedJson.Proofs.Pattern.GatheredText
import TypedJson.Proofs.Pattern.BacktrackText
import TypedJson.Proofs.Pattern.BacktrackRow
import TypedJson.Proofs.Pattern.BacktrackBody
import TypedJson.Proofs.Pattern.Counterpart
import TypedJson.Proofs.Pattern.Agreement
import TypedJson.Proofs.Registry.Session
import TypedJson.Proofs.Schema.Fault
import TypedJson.Proofs.Schema.Keywords
import TypedJson.Proofs.Schema.Names
import TypedJson.Proofs.Schema.Replacement
import TypedJson.Proofs.Schema.Canonical
import TypedJson.Proofs.Json.Left
import TypedJson.Proofs.Json.Common
import TypedJson.Proofs.Registry.File
import TypedJson.Proofs.Registry.Document
import TypedJson.Proofs.Registry.Order
import TypedJson.Proofs.Binary64.Rounding
import TypedJson.Proofs.Binary64.Shortest
import TypedJson.Proofs.Binary64.Text
import TypedJson.Proofs.Descriptor.Alike
import TypedJson.Proofs.Descriptor.Describe
import TypedJson.Proofs.Disk.Still
import TypedJson.Proofs.Disk.Way
import TypedJson.Proofs.Glob.Still
import TypedJson.Proofs.Glob.Search
import TypedJson.Proofs.Glob.Itself
import TypedJson.Proofs.CommandLine.Check
import TypedJson.Proofs.CommandLine.Lines
import TypedJson.Proofs.CommandLine.Inputs
import TypedJson.Proofs.Json.Sameness
import TypedJson.Proofs.Descriptor.Congruence
import TypedJson.Proofs.Descriptor.Sameness
import TypedJson.Proofs.Descriptor.Unread
import TypedJson.Proofs.Unicode.Ranges
import TypedJson.Proofs.Unicode.ByteRow
import TypedJson.Proofs.Regex.Footprint
import TypedJson.Proofs.Pattern.Bracket
import TypedJson.Proofs.Pattern.BracketText
import TypedJson.Proofs.Pattern.BracketSet
import TypedJson.Proofs.Pattern.BracketRow
import TypedJson.Proofs.Pattern.EscapeRow
import TypedJson.Proofs.Pattern.BracketPattern
import TypedJson.Proofs.Backtrack.Closing
import TypedJson.Proofs.Backtrack.Moving
import TypedJson.Proofs.Backtrack.RowMoving
import TypedJson.Proofs.Backtrack.RowClosing
import TypedJson.Proofs.Backtrack.Reading
import TypedJson.Proofs.Backtrack.Relocation
import TypedJson.Proofs.Backtrack.Copies
import TypedJson.Proofs.Pattern.StickyLinear
import TypedJson.Proofs.Binary64.Nearest
import TypedJson.Proofs.Schema.Count
import TypedJson.Proofs.Schema.IntegerBounds
import TypedJson.Proofs.Schema.Integers
import TypedJson.Proofs.Format.Date
import TypedJson.Proofs.Format.DateTime
import TypedJson.Proofs.Schema.Narrowing
import TypedJson.Proofs.Backtrack.Anchored
import TypedJson.Proofs.Pattern.StickyBacktrack
import TypedJson.Proofs.Pattern.Sticky
import TypedJson.Proofs.Format.MailAddress
import TypedJson.Proofs.Format.Regular
import TypedJson.Proofs.Pattern.Place
import TypedJson.Proofs.Pattern.Translation
