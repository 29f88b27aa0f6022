import TestWeaver.Build.Duration
import TestWeaver.Build.Invocation
import TestWeaver.Build.Run
import TestWeaver.Build.Settings
import TestWeaver.Build.Summary
import TestWeaver.Build.Target
import TestWeaver.Build.Tool
import TestWeaver.Build.Verdict
import TestWeaver.Child.Basic
import TestWeaver.Child.Run
import TestWeaver.CommandLine.Arguments
import TestWeaver.CommandLine.Grammar
import TestWeaver.CommandLine.Run
import TestWeaver.Config.Basic
import TestWeaver.Config.Coercion
import TestWeaver.Config.Reading
import TestWeaver.Decimal.Binary64
import TestWeaver.Decimal.Directive
import TestWeaver.Decimal.Notation
import TestWeaver.Decimal.Reading
import TestWeaver.Decimal.Real
import TestWeaver.Dependency.Lookup
import TestWeaver.Dependency.Targets
import TestWeaver.Failure
import TestWeaver.FileTree.Files
import TestWeaver.FileTree.Listing
import TestWeaver.FileTree.Node
import TestWeaver.FileTree.RealPath
import TestWeaver.FileTree.Walk
import TestWeaver.Json.Basic
import TestWeaver.Json.Printing
import TestWeaver.Json.Reading
import TestWeaver.Layout.Convention
import TestWeaver.Layout.Resolver
import TestWeaver.Layout.Workspace
import TestWeaver.Log.Record
import TestWeaver.Log.Sinks
import TestWeaver.Machine.Kernel
import TestWeaver.Machine.Programs
import TestWeaver.Machine.Search
import TestWeaver.Machine.Signal
import TestWeaver.Machine.Work
import TestWeaver.Main
import TestWeaver.Merge.Closing
import TestWeaver.Merge.Fragment
import TestWeaver.Merge.ImportSet
import TestWeaver.Merge.Imports
import TestWeaver.Merge.Insertion
import TestWeaver.Path.Basic
import TestWeaver.Pattern.Class
import TestWeaver.Pattern.Glob
import TestWeaver.Pattern.Names
import TestWeaver.Pattern.Regex
import TestWeaver.Proofs.ClosingRow
import TestWeaver.Proofs.ImportRows
import TestWeaver.Proofs.MergeRun
import TestWeaver.Proofs.MergedImports
import TestWeaver.Proofs.ScanMoves
import TestWeaver.Proofs.ScanReference
import TestWeaver.Proofs.ScanStream
import TestWeaver.Proofs.Splice
import TestWeaver.Service.Request
import TestWeaver.Service.Respond
import TestWeaver.Session.Basic
import TestWeaver.Session.Storage
import TestWeaver.Session.TestRun
import TestWeaver.Shell.Arithmetic
import TestWeaver.Shell.Builtin.Jobs
import TestWeaver.Shell.Builtin.Naming
import TestWeaver.Shell.Builtin.Places
import TestWeaver.Shell.Builtin.Printing
import TestWeaver.Shell.Builtin.Reading
import TestWeaver.Shell.Builtin.Settings
import TestWeaver.Shell.Builtin.Stack
import TestWeaver.Shell.Builtin.Variables
import TestWeaver.Shell.Declaration
import TestWeaver.Shell.Environment
import TestWeaver.Shell.Expansion
import TestWeaver.Shell.Grammar
import TestWeaver.Shell.Launch
import TestWeaver.Shell.Menu
import TestWeaver.Shell.Output
import TestWeaver.Shell.Programs
import TestWeaver.Shell.Redirection
import TestWeaver.Shell.Run
import TestWeaver.Shell.Runner
import TestWeaver.Shell.Script
import TestWeaver.Shell.Start
import TestWeaver.Shell.State
import TestWeaver.Shell.Token
import TestWeaver.Shell.Trace
import TestWeaver.Shell.Usage
import TestWeaver.Source.Annotation
import TestWeaver.Source.Declaration
import TestWeaver.Source.Header
import TestWeaver.Source.Import
import TestWeaver.Source.Listing
import TestWeaver.Source.Member
import TestWeaver.Source.Scan
import TestWeaver.Source.Statement
import TestWeaver.Source.TestMethod
import TestWeaver.Source.Unit
import TestWeaver.Text.Basic
import TestWeaver.Text.Blank
import TestWeaver.Text.Digit
import TestWeaver.Text.Lines
import TestWeaver.Text.Lowercase
import TestWeaver.Text.Quoted
import TestWeaver.Text.Range
import TestWeaver.Text.Raw
import TestWeaver.Text.Utf8
import TestWeaver.Text.Wide
import TestWeaver.Text.Word
import TestWeaver.Time.Moment
import TestWeaver.Utility.Basic
import TestWeaver.Utility.Blocks
import TestWeaver.Utility.Coding
import TestWeaver.Utility.Columns
import TestWeaver.Utility.Comparing
import TestWeaver.Utility.Condition
import TestWeaver.Utility.Content
import TestWeaver.Utility.EditScript
import TestWeaver.Utility.Editing
import TestWeaver.Utility.Escape
import TestWeaver.Utility.Finding
import TestWeaver.Utility.Listing
import TestWeaver.Utility.Places
import TestWeaver.Utility.Printf
import TestWeaver.Utility.Searching
import TestWeaver.Utility.Sorting
import TestWeaver.Utility.Starting
import TestWeaver.Utility.System
import TestWeaver.Utility.Words
import TestWeaver.Yaml.Character
import TestWeaver.Yaml.Document
import TestWeaver.Yaml.Loader
import TestWeaver.Yaml.Node
import TestWeaver.Yaml.Scalar
import TestWeaver.Yaml.Tag
import TestWeaver.Yaml.Token
import TestWeaver.Yaml.Value
import TestWeaver.Proofs.MethodPlace
import TestWeaver.Proofs.MergedBraces
import TestWeaver.Proofs.ImportPlace
import TestWeaver.Proofs.ImportBatches
import TestWeaver.Proofs.RepeatedMerges
import TestWeaver.Proofs.MergedMembers
import TestWeaver.Proofs.MergedTests
import TestWeaver.Proofs.OpenBraces
import TestWeaver.Proofs.PathNames
import TestWeaver.Proofs.RootSearch
import TestWeaver.Proofs.RunStates
import TestWeaver.Proofs.SettingsRead
import TestWeaver.Proofs.WaitLimit
import TestWeaver.Proofs.LineNumbers
import TestWeaver.Proofs.SettingValues
import TestWeaver.Proofs.ChosenSettings
import TestWeaver.Proofs.Outcomes
import TestWeaver.Proofs.ActionRuns
import TestWeaver.Proofs.CommandStops
import TestWeaver.Proofs.ExitCodes
import TestWeaver.Proofs.Utf8Octets
import TestWeaver.Proofs.FileWalks
import TestWeaver.Proofs.WrittenMerge
import TestWeaver.Proofs.Counterparts
import TestWeaver.Proofs.Confinement
import TestWeaver.Proofs.CounterpartLocation
import TestWeaver.Proofs.PackageDirs
import TestWeaver.Proofs.RealPaths
import TestWeaver.Proofs.CommentRows
import TestWeaver.Proofs.AnnotatedTypes
import TestWeaver.Proofs.HeaderText
import TestWeaver.Proofs.Signatures
import TestWeaver.Proofs.PrintedHeaders
import TestWeaver.Proofs.ImportTargets
import TestWeaver.Proofs.TargetNames
import TestWeaver.Proofs.LeadingAnnotations
import TestWeaver.Proofs.AnnotatedMethods
import TestWeaver.Proofs.LibraryImports
import TestWeaver.Proofs.SuffixedTwins
import TestWeaver.Proofs.CounterpartNames
import TestWeaver.Proofs.ListingOrder
import TestWeaver.Proofs.SortedTexts
import TestWeaver.Proofs.SourcePlaces
import TestWeaver.Proofs.SourceLookup
import TestWeaver.Proofs.SummaryRows
import TestWeaver.Proofs.LowerRows
import TestWeaver.Proofs.ShownEvidence
import TestWeaver.Proofs.ChildCleanup
import TestWeaver.Proofs.LogSinks
import TestWeaver.Proofs.AppendedFiles
import TestWeaver.Proofs.LoggedRecords
