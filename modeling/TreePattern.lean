import TreePattern.Main
import TreePattern.Matching.Walk
import TreePattern.Session
import TreePattern.Proofs.Matching.Choices
import TreePattern.Proofs.Matching.Run
import TreePattern.Proofs.Matching.Segment
import TreePattern.Proofs.Matching.Opening
import TreePattern.Proofs.Matching.Backtracking
import TreePattern.Proofs.Matching.Meaning
import TreePattern.Proofs.Matching.Requests
import TreePattern.Proofs.Matching.Outcomes
import TreePattern.Proofs.Matching.Leniency
import TreePattern.Proofs.Matching.Composition
import TreePattern.Proofs.Matching.Reordering
import TreePattern.Proofs.Matching.Skipping
import TreePattern.Proofs.Matching.Names
import TreePattern.Proofs.Matching.Conjunction
import TreePattern.Proofs.Matching.Literal
import TreePattern.Proofs.Matching.Origin
import TreePattern.Proofs.Matching.Place
import TreePattern.Proofs.Matching.Stack
import TreePattern.Proofs.Value.Rearrangement
import TreePattern.Proofs.Value.Indexing
import TreePattern.Proofs.Value.Display
import TreePattern.Proofs.Json.Conversion
import TreePattern.Proofs.Predicate.Uri
import TreePattern.Proofs.Pattern.Grammar
import TreePattern.Proofs.Pattern.Lexical
import TreePattern.Proofs.Pattern.Soundness
import TreePattern.Proofs.Pattern.Completeness
import TreePattern.Proofs.Pattern.Concatenation
import TreePattern.Proofs.Definitions
import TreePattern.Proofs.Table
import TreePattern.Proofs.Pattern.Resolution
import TreePattern.Proofs.Pattern.Viability
import TreePattern.Proofs.Pattern.Locality
import TreePattern.Proofs.Pattern.Positions
import TreePattern.Proofs.Pattern.Shape
import TreePattern.Proofs.Session
import TreePattern.Proofs.Text.Cut
import TreePattern.Proofs.Text.Quoted
import TreePattern.Proofs.CommandLine.Definitions
import TreePattern.Proofs.CommandLine.Report
