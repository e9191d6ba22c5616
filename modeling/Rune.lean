import Rune.Config.Query
import Rune.Session.Entry
import Rune.Session.Origin
import Rune.System.Host
import Rune.Proofs.Evaluation.Parametric
import Rune.Proofs.Outcome
import Rune.Proofs.Entries
import Rune.Proofs.Evaluation.Plain
import Rune.Proofs.Session.Resources
import Rune.Proofs.Evaluation.Force
import Rune.Proofs.Evaluation.Tracking
import Rune.Proofs.Evaluation.CallByName
import Rune.Proofs.Evaluation.Lockstep
import Rune.Proofs.File.Path
import Rune.Proofs.Session.Reloading
import Rune.Proofs.Session.Transparency
import Rune.Proofs.Tree.Complaints
import Rune.Proofs.Session.ImportCycle
import Rune.Proofs.Session.Includes
import Rune.Proofs.Tree.Sentences
import Rune.Proofs.Tree.Taking
import Rune.Proofs.Tree.Soundness
import Rune.Proofs.Tree.Completeness
import Rune.Proofs.Tree.Acceptance
import Rune.Proofs.Evaluation.Bare
import Rune.Proofs.Evaluation.Editing
import Rune.Proofs.Evaluation.Redrafting
import Rune.Proofs.Session.Redrafting
import Rune.Proofs.Session.Reordering
import Rune.Proofs.Evaluation.Stacks
import Rune.Proofs.Evaluation.Mirroring
import Rune.Proofs.Evaluation.Requests
import Rune.Proofs.Evaluation.Containment
import Rune.Proofs.Session.Termination
import Rune.Proofs.Evaluation.Congruent
import Rune.Proofs.Tree.Progress
import Rune.Proofs.Evaluation.Blame
import Rune.Proofs.Session.Faults
import Rune.Proofs.Evaluation.Probing
import Rune.Proofs.Session.Layers
import Rune.Proofs.Session.Probing
import Rune.Proofs.Config.Layout
import Rune.Proofs.Evaluation.Laying
import Rune.Proofs.Evaluation.Recording
import Rune.Proofs.Session.Locations
import Rune.Proofs.Text.Lines
import Rune.Proofs.Token.Extent
import Rune.Proofs.Token.Streams
import Rune.Proofs.Lists
import Rune.Proofs.SideBySide
import Rune.Proofs.Failure
import Rune.Proofs.Tree.Likeness
import Rune.Proofs.Tree.Parallel
import Rune.Proofs.Tree.Concatenation
import Rune.Proofs.Tree.Respacing
import Rune.Proofs.Evaluation.Likewise
import Rune.Proofs.Config.Respelling
import Rune.Proofs.Session.Failures
import Rune.Proofs.Session.Places
import Rune.Proofs.Session.Respelling
import Rune.Proofs.Token.Coverage
import Rune.Proofs.Text.LineEndings
import Rune.Proofs.Token.LineEndings
import Rune.Proofs.Tree.LineEndings
import Rune.Proofs.Session.Ledger
import Rune.Proofs.Evaluation.Watching
import Rune.Proofs.Session.Moves
import Rune.Proofs.Session.Once
import Rune.Proofs.Session.Survival
import Rune.Proofs.Token.Slices
import Rune.Proofs.Tree.Nesting
import Rune.Proofs.Tree.Slices
import Rune.Proofs.Token.Literals
import Rune.Proofs.Tree.References
import Rune.Proofs.Tree.Parts
import Rune.Proofs.Tree.Divisions
import Rune.Proofs.Token.Phrases
import Rune.Proofs.Tree.HostBindings
import Rune.Proofs.Session.HostBindings
import Rune.Proofs.Token.LineFeeds
import Rune.Proofs.Number.Digits
import Rune.Proofs.Config.Paths
import Rune.Proofs.Tree.Names
import Rune.Proofs.Evaluation.Contents
import Rune.Proofs.Config.Positions
import Rune.Proofs.Evaluation.Lookup
import Rune.Proofs.Config.Descent
import Rune.Proofs.Evaluation.Queries
import Rune.Proofs.Session.References
import Rune.Proofs.Tree.Operands
import Rune.Proofs.Evaluation.Raising
import Rune.Proofs.Evaluation.Presence
import Rune.Proofs.Evaluation.Resuming
import Rune.Proofs.Evaluation.Equality
import Rune.Proofs.Number.Range
import Rune.Proofs.Config.Segments
import Rune.Proofs.Config.Defaults
import Rune.Proofs.System.Quantity
import Rune.Proofs.System.Host
import Rune.Proofs.File.Detours
import Rune.Proofs.Session.Sharing
import Rune.Proofs.Session.Likewise
import Rune.Proofs.Session.Fallback
import Rune.Proofs.Session.Contents
import Rune.Proofs.Session.Positions
import Rune.Proofs.Pattern.Accounting
import Rune.Proofs.Tree.Stepwise
import Rune.Proofs.Tree.Advance
import Rune.Proofs.Token.Numerals
import Rune.Proofs.Json.Grammar
import Rune.Proofs.Json.Numbers
import Rune.Proofs.Json.Writing
import Rune.Proofs.Json.Spacing
import Rune.Proofs.Session.Exporting
import Rune.Proofs.Text.Offsets
import Rune.Proofs.Session.Standing
import Rune.Proofs.Session.Origin
import Rune.Proofs.Session.Identity
