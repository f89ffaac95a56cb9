import Outliner.CommandLine.Run
import Outliner.Main
import Outliner.Proofs.Outline.Entries
import Outliner.Proofs.Outline.Faults
import Outliner.Proofs.Outline.Locality
import Outliner.Proofs.Outline.Nesting
import Outliner.Proofs.Outline.Projection
import Outliner.Proofs.Session.Answers
import Outliner.Proofs.Session.History
import Outliner.Proofs.Session.Lines
import Outliner.Proofs.Session.Messages
import Outliner.Proofs.Session.Strict
import Outliner.Proofs.Snapshot.Acceptance
import Outliner.Proofs.Snapshot.Looks
import Outliner.Proofs.Snapshot.Meaning
import Outliner.Proofs.Snapshot.RoundTrip
import Outliner.Proofs.Snapshot.Validation
import Outliner.Proofs.Snapshot.Variation
import Outliner.Proofs.Outline.Descent
import Outliner.Proofs.Session.Notes
import Outliner.Proofs.CommandLine.Arguments
import Outliner.Proofs.Outline.Indentation
import Outliner.Proofs.Snapshot.Description
import Outliner.Proofs.CommandLine.Runs
import Outliner.Proofs.Snapshot.Listing
import Outliner.Proofs.Outline.Search
import Outliner.Proofs.Snapshot.Spelling
import Outliner.Proofs.Outline.Depth
import Outliner.Proofs.Snapshot.Visits
import Outliner.Proofs.Outline.Frames
import Outliner.Proofs.Snapshot.FileName
