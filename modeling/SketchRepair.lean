import SketchRepair.Answer.Fence
import SketchRepair.Answer.Patches
import SketchRepair.Command.Arguments
import SketchRepair.Command.Run
import SketchRepair.Decimal.Double
import SketchRepair.Decimal.Fixed
import SketchRepair.Decimal.Nearest
import SketchRepair.Decimal.Shortest
import SketchRepair.Decimal.Whole
import SketchRepair.Document.BareStyle
import SketchRepair.Document.Element
import SketchRepair.Document.Markup
import SketchRepair.Document.OpeningTag
import SketchRepair.Document.Reference
import SketchRepair.Http.Message
import SketchRepair.Http.Service
import SketchRepair.Http.Validation
import SketchRepair.Json.Complaint
import SketchRepair.Json.Parser
import SketchRepair.Json.Value
import SketchRepair.Main
import SketchRepair.Page.Event
import SketchRepair.Page.Fault
import SketchRepair.Page.Message
import SketchRepair.Page.Visit
import SketchRepair.Patch.Block
import SketchRepair.Patch.Line
import SketchRepair.Patch.Similarity
import SketchRepair.Prompt.MissingFunction
import SketchRepair.Prompt.Paren
import SketchRepair.Prompt.Request
import SketchRepair.Prompt.Resource
import SketchRepair.Prompt.StyleSheet
import SketchRepair.Prompt.Undefined
import SketchRepair.Proofs.Answer.Fenced
import SketchRepair.Proofs.Answer.Unreadable
import SketchRepair.Proofs.Answer.Whole
import SketchRepair.Proofs.Descending
import SketchRepair.Proofs.Document.BareStyle
import SketchRepair.Proofs.Document.Dissection
import SketchRepair.Proofs.Document.EncodedElement
import SketchRepair.Proofs.Document.Exchange
import SketchRepair.Proofs.Document.HeldMarkup
import SketchRepair.Proofs.Document.InPlace
import SketchRepair.Proofs.Document.Layout
import SketchRepair.Proofs.Document.LineRange
import SketchRepair.Proofs.Document.Markup
import SketchRepair.Proofs.Document.Outside
import SketchRepair.Proofs.Document.Regapped
import SketchRepair.Proofs.Document.Region
import SketchRepair.Proofs.Document.RestoredNames
import SketchRepair.Proofs.Document.RestoredTwice
import SketchRepair.Proofs.Document.Revision
import SketchRepair.Proofs.Document.ScriptsKept
import SketchRepair.Proofs.Document.Standing
import SketchRepair.Proofs.Document.Surroundings
import SketchRepair.Proofs.Document.WrappedRegions
import SketchRepair.Proofs.Json.Ends
import SketchRepair.Proofs.Json.Overlong
import SketchRepair.Proofs.Page.Distinct
import SketchRepair.Proofs.Page.Fault
import SketchRepair.Proofs.Page.NotAFunction
import SketchRepair.Proofs.Patch.Block
import SketchRepair.Proofs.Patch.Greatest
import SketchRepair.Proofs.Patch.Line
import SketchRepair.Proofs.Patch.MendLine
import SketchRepair.Proofs.Patch.Position
import SketchRepair.Proofs.Patch.Simultaneous
import SketchRepair.Proofs.Prompt.Excerpt
import SketchRepair.Proofs.Prompt.StyleSheet
import SketchRepair.Proofs.Prompt.Undefined
import SketchRepair.Proofs.Repair.Backup
import SketchRepair.Proofs.Repair.Chronicle
import SketchRepair.Proofs.Repair.Declaration
import SketchRepair.Proofs.Repair.Edit
import SketchRepair.Proofs.Repair.EndlessTurn
import SketchRepair.Proofs.Repair.Fixes
import SketchRepair.Proofs.Repair.Isolation
import SketchRepair.Proofs.Repair.LineNumber
import SketchRepair.Proofs.Repair.LiveCall
import SketchRepair.Proofs.Repair.MissingFunction
import SketchRepair.Proofs.Repair.Parenthesis
import SketchRepair.Proofs.Repair.Run
import SketchRepair.Proofs.Repair.ScriptTag
import SketchRepair.Proofs.Repair.Shader
import SketchRepair.Proofs.Repair.StyleSheet
import SketchRepair.Proofs.Repair.Trail
import SketchRepair.Proofs.Repair.UndefinedVariable
import SketchRepair.Proofs.Repair.Visibility
import SketchRepair.Proofs.Repair.Work
import SketchRepair.Proofs.Script.Block
import SketchRepair.Proofs.Script.Call
import SketchRepair.Proofs.Script.Closing
import SketchRepair.Proofs.Script.Conditional
import SketchRepair.Proofs.Script.Detection
import SketchRepair.Proofs.Script.Distance
import SketchRepair.Proofs.Script.Extent
import SketchRepair.Proofs.Script.Identifier
import SketchRepair.Proofs.Script.Matching
import SketchRepair.Proofs.Script.Mending
import SketchRepair.Proofs.Script.Name
import SketchRepair.Proofs.Script.Nesting
import SketchRepair.Proofs.Script.ParenRepair
import SketchRepair.Proofs.Script.Sewing
import SketchRepair.Proofs.Script.Unmatched
import SketchRepair.Proofs.Stylesheet.Mechanical
import SketchRepair.Proofs.Stylesheet.NormalForm
import SketchRepair.Proofs.Text.Blank
import SketchRepair.Proofs.Text.FirstOccurrence
import SketchRepair.Proofs.Text.Letter
import SketchRepair.Proofs.Text.Lines
import SketchRepair.Proofs.Text.Occurrence
import SketchRepair.Proofs.Text.Places
import SketchRepair.Proofs.Text.Position
import SketchRepair.Proofs.Text.Replacement
import SketchRepair.Proofs.Text.Scan
import SketchRepair.Proofs.Text.Splice
import SketchRepair.Repair.Abort
import SketchRepair.Repair.File
import SketchRepair.Repair.Loop
import SketchRepair.Repair.Pass
import SketchRepair.Repair.Pass.Markup
import SketchRepair.Repair.Pass.MissingFunction
import SketchRepair.Repair.Pass.Parenthesis
import SketchRepair.Repair.Pass.ScriptTag
import SketchRepair.Repair.Pass.Shader
import SketchRepair.Repair.Pass.StyleSheet
import SketchRepair.Repair.Pass.UndefinedVariable
import SketchRepair.Repair.Pipeline
import SketchRepair.Repair.Record
import SketchRepair.Repair.Report
import SketchRepair.Repair.Run
import SketchRepair.Script.Block
import SketchRepair.Script.Call
import SketchRepair.Script.Name
import SketchRepair.Script.Paren
import SketchRepair.Script.ParenRepair
import SketchRepair.Script.Scope
import SketchRepair.Settings.Environment
import SketchRepair.Settings.Reading
import SketchRepair.Stylesheet.Findings
import SketchRepair.Stylesheet.Likely
import SketchRepair.Stylesheet.Mechanical
import SketchRepair.Suggestion.Oracle
import SketchRepair.Suggestion.Provider
import SketchRepair.Text.Basic
import SketchRepair.Text.Blank
import SketchRepair.Text.Cased
import SketchRepair.Text.Digit
import SketchRepair.Text.Fold
import SketchRepair.Text.GroupName
import SketchRepair.Text.LineEnd
import SketchRepair.Text.LowerCase
import SketchRepair.Text.Position
import SketchRepair.Text.Printable
import SketchRepair.Text.Quoted
import SketchRepair.Text.Search
import SketchRepair.Text.Template
import SketchRepair.Text.Word
