import Whittle.Decimal.Binary64
import Whittle.Decimal.Digits
import Whittle.Decimal.Notation
import Whittle.Decimal.Scaled
import Whittle.Decimal.Shortest
import Whittle.Fault.Attempt
import Whittle.Fault.Basic
import Whittle.Fault.Capture
import Whittle.Fault.Outcome
import Whittle.Fault.Thread
import Whittle.Guest.Binary
import Whittle.Guest.Host
import Whittle.Guest.Linker
import Whittle.Guest.Memory
import Whittle.Guest.Module
import Whittle.Guest.Run
import Whittle.Guest.Signature
import Whittle.Guest.Typing
import Whittle.Json.Reader
import Whittle.Json.Record
import Whittle.Json.Value
import Whittle.Json.Words
import Whittle.Json.Writer
import Whittle.Main
import Whittle.Pattern.Basic
import Whittle.Pattern.CharSet
import Whittle.Pattern.Flags
import Whittle.Pattern.Reader
import Whittle.Program.Build
import Whittle.Program.Interchange
import Whittle.Program.Kind
import Whittle.Program.Node
import Whittle.Program.Operator
import Whittle.Program.Outline
import Whittle.Program.Render
import Whittle.Program.Tree
import Whittle.Program.Walk
import Whittle.Proofs.Addresses
import Whittle.Proofs.AssertionReports
import Whittle.Proofs.Base64
import Whittle.Proofs.CandidateCounts
import Whittle.Proofs.Changes
import Whittle.Proofs.Comments
import Whittle.Proofs.Declarations
import Whittle.Proofs.Deletion
import Whittle.Proofs.EmptyBlocks
import Whittle.Proofs.FewerCandidates
import Whittle.Proofs.FiniteNumbers
import Whittle.Proofs.FixedPoint
import Whittle.Proofs.GuestSoundness
import Whittle.Proofs.GuestTexts
import Whittle.Proofs.History
import Whittle.Proofs.Indentation
import Whittle.Proofs.Interpreting
import Whittle.Proofs.Lexemes
import Whittle.Proofs.Lines
import Whittle.Proofs.Linking
import Whittle.Proofs.Loading
import Whittle.Proofs.MarkerSurvival
import Whittle.Proofs.MarkerWords
import Whittle.Proofs.Mentions
import Whittle.Proofs.Messages
import Whittle.Proofs.Names
import Whittle.Proofs.NestedText
import Whittle.Proofs.NormalForm
import Whittle.Proofs.Numerals
import Whittle.Proofs.OneByOne
import Whittle.Proofs.OutlineWalks
import Whittle.Proofs.Placement
import Whittle.Proofs.PrintedComments
import Whittle.Proofs.Probing
import Whittle.Proofs.Provenance
import Whittle.Proofs.ReadingBack
import Whittle.Proofs.Records
import Whittle.Proofs.Recycling
import Whittle.Proofs.RootCause
import Whittle.Proofs.Scopes
import Whittle.Proofs.Searching
import Whittle.Proofs.Serving
import Whittle.Proofs.Simplification
import Whittle.Proofs.SingleRemoval
import Whittle.Proofs.Skeleton
import Whittle.Proofs.SkeletonAgreement
import Whittle.Proofs.SkeletonReading
import Whittle.Proofs.SkeletonReduction
import Whittle.Proofs.Spelling
import Whittle.Proofs.TextNumbers
import Whittle.Proofs.Threads
import Whittle.Proofs.TreeInterchange
import Whittle.Proofs.TypeSoundness
import Whittle.Proofs.Uncommented
import Whittle.Proofs.Unwrapping
import Whittle.Proofs.Utf8
import Whittle.Proofs.Walks
import Whittle.Proofs.Weight
import Whittle.Proofs.WrittenPatterns
import Whittle.Reduction.Greedy
import Whittle.Reduction.Kind
import Whittle.Reduction.Options
import Whittle.Reduction.Pass
import Whittle.Reduction.Survey
import Whittle.Sandbox.Config
import Whittle.Sandbox.Container
import Whittle.Sandbox.Engine
import Whittle.Sandbox.Harness
import Whittle.Sandbox.Interpreter
import Whittle.Text.Base64
import Whittle.Text.Quoted
import Whittle.Text.Search
import Whittle.Text.Utf8
import Whittle.Unicode.CaseFold
import Whittle.Unicode.GraphemeExtend
import Whittle.Unicode.Printable
import Whittle.Unicode.Ranges
import Whittle.Unicode.Word
import Whittle.Worker.Basic
import Whittle.Worker.CommandLine
import Whittle.Worker.Config
import Whittle.Worker.LogFilter
import Whittle.Worker.Message
import Whittle.Worker.Recycler
import Whittle.Worker.Serve
import Whittle.Worker.Session
import Whittle.Worker.Variables
import Whittle.Worker.Watchdog
