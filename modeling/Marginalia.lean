import Marginalia.Disk.FileTree
import Marginalia.Main
import Marginalia.Proofs.Highlight.Divider
import Marginalia.Proofs.Highlight.Fragments
import Marginalia.Proofs.Highlight.Matches
import Marginalia.Proofs.Highlight.LineWise
import Marginalia.Proofs.Highlight.RoundTrip
import Marginalia.Proofs.Highlight.LostSentinels
import Marginalia.Proofs.Highlight.Strays
import Marginalia.Proofs.Segment.Concatenation
import Marginalia.Proofs.Segment.Contribution
import Marginalia.Proofs.Segment.Sections
import Marginalia.Proofs.Segment.Runs
import Marginalia.Proofs.Segment.Sentences
import Marginalia.Proofs.Segment.Docblocks
import Marginalia.Proofs.Segment.Labels
import Marginalia.Proofs.Documenter.OwnCode
import Marginalia.Proofs.Path
import Marginalia.Proofs.Disk.Lawful
import Marginalia.Proofs.Disk.Directories
import Marginalia.Proofs.Disk.FileTree
import Marginalia.Proofs.Disk.Components
import Marginalia.Proofs.Documenter.Publish
import Marginalia.Proofs.Documenter.Turns
import Marginalia.Proofs.Documenter.Outcomes
import Marginalia.Proofs.Documenter.Confined
import Marginalia.Proofs.CommandLine.OwnPages
import Marginalia.Proofs.CommandLine.Files
import Marginalia.Proofs.CommandLine.Posting
import Marginalia.Proofs.CommandLine.Sources
import Marginalia.Proofs.CommandLine.Links
import Marginalia.Proofs.Page.Links
import Marginalia.Proofs.Highlight.Fallbacks
import Marginalia.Proofs.Language.Registry
import Marginalia.Proofs.Segment.LineEndings
import Marginalia.Proofs.Page.Titles
import Marginalia.Proofs.Text.Words
import Marginalia.Proofs.Segment.Tags
import Marginalia.Proofs.Config.Languages
