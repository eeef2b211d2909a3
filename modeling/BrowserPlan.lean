import BrowserPlan.Main
import BrowserPlan.Report.Document
import BrowserPlan.Tool.Http
import BrowserPlan.Tool.Keyword
import BrowserPlan.Proofs.Plan.Snapshot
import BrowserPlan.Proofs.Java.Brace
import BrowserPlan.Proofs.Java.Head
import BrowserPlan.Proofs.Java.Walk
import BrowserPlan.Proofs.Plan.Correspondence
import BrowserPlan.Proofs.Java.Segment
import BrowserPlan.Proofs.Action.Quiet
import BrowserPlan.Proofs.Action.Recognition
import BrowserPlan.Proofs.Action.RoundTrip
import BrowserPlan.Proofs.Java.Body
import BrowserPlan.Proofs.Java.Comment
import BrowserPlan.Proofs.Java.Token
import BrowserPlan.Proofs.Java.Lexing
import BrowserPlan.Proofs.Java.Lexer
import BrowserPlan.Proofs.Action.Document
import BrowserPlan.Proofs.Plan.Document
import BrowserPlan.Proofs.Text.Cut
import BrowserPlan.Proofs.Report.Template
import BrowserPlan.Proofs.Report.Case
import BrowserPlan.Proofs.Store.Place
import BrowserPlan.Proofs.Store.Results
import BrowserPlan.Proofs.Report.Soundness
import BrowserPlan.Proofs.Java.Completeness
import BrowserPlan.Proofs.Plan.Grammar
import BrowserPlan.Proofs.Store.Layout
import BrowserPlan.Proofs.Tool.Frame
import BrowserPlan.Proofs.Tool.Surface
import BrowserPlan.Proofs.Plan.Freshness
import BrowserPlan.Proofs.Plan.Visit
import BrowserPlan.Proofs.Java.LineEnd
import BrowserPlan.Proofs.Command.Check
import BrowserPlan.Proofs.Plan.Inert
import BrowserPlan.Proofs.Plan.Record
import BrowserPlan.Proofs.Action.Order
import BrowserPlan.Proofs.Action.Argument
import BrowserPlan.Proofs.Action.Description
import BrowserPlan.Proofs.Action.Selector
import BrowserPlan.Proofs.Action.Deferred
import BrowserPlan.Proofs.Java.Syntax
import BrowserPlan.Proofs.Java.Insertion
import BrowserPlan.Proofs.Action.Assertion
import BrowserPlan.Proofs.Plan.Count
import BrowserPlan.Proofs.Java.TestCount
import BrowserPlan.Proofs.Tool.Compiler
import BrowserPlan.Proofs.Report.Label
import BrowserPlan.Proofs.Store.Export
import BrowserPlan.Proofs.Java.Masking
import BrowserPlan.Proofs.Java.Matching
import BrowserPlan.Proofs.Report.Rule
