import LineShell.Main
import LineShell.Proofs.History
import LineShell.Proofs.Injection
import LineShell.Proofs.OnePass
import LineShell.Proofs.Quote
import LineShell.Proofs.Bindings
import LineShell.Proofs.Isolation
import LineShell.Proofs.Recall
import LineShell.Proofs.Progress
import LineShell.Proofs.Endings
import LineShell.Proofs.Places
import LineShell.Proofs.FailFast
import LineShell.Proofs.Truncation
import LineShell.Proofs.Direct
import LineShell.Proofs.Grouping
import LineShell.Proofs.Segments
import LineShell.Proofs.Assignment
import LineShell.Proofs.Loop
import LineShell.Proofs.Concatenation
import LineShell.Proofs.LastFlush
import LineShell.Proofs.Conservation
import LineShell.Proofs.Context
import LineShell.Proofs.Decoding
import LineShell.Proofs.Lines
import LineShell.Proofs.Requests
import LineShell.Proofs.NamedFiles
import LineShell.Proofs.Totals
import LineShell.Proofs.Refiltering
import LineShell.Proofs.Matches
import LineShell.Proofs.Shapes
import LineShell.Proofs.Tracking
import LineShell.Proofs.Tracking.Escape
import LineShell.Proofs.Tracking.Brackets
import LineShell.Proofs.Tracking.Group
import LineShell.Proofs.Tracking.Repetition
import LineShell.Proofs.Tracking.Parse
import LineShell.Proofs.Enclosure
import LineShell.Proofs.WholeWords
import LineShell.Proofs.Arguments
import LineShell.Proofs.Chunks
import LineShell.Proofs.Subparts
import LineShell.Proofs.Sizes
import LineShell.Proofs.PlainWords
import LineShell.Proofs.Partition
import LineShell.Proofs.Joining
import LineShell.Proofs.Spelling
import LineShell.Proofs.Locations
import LineShell.Proofs.Search
import LineShell.Proofs.Launching
import LineShell.Proofs.Directories
