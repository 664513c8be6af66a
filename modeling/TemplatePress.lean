import TemplatePress.Main
import TemplatePress.Toolchain.Faults
import TemplatePress.Toolchain.Rehearsal
import TemplatePress.Proofs.Lookups
import TemplatePress.Proofs.Regions
import TemplatePress.Proofs.Changes
import TemplatePress.Proofs.Copying
import TemplatePress.Proofs.Packages
import TemplatePress.Proofs.Courses
import TemplatePress.Proofs.Discovery
import TemplatePress.Proofs.Frames
import TemplatePress.Proofs.Destinations
import TemplatePress.Proofs.Contents
import TemplatePress.Proofs.CallOrder
import TemplatePress.Proofs.Clones
import TemplatePress.Proofs.Independence
import TemplatePress.Proofs.Repetition
import TemplatePress.Proofs.StalePackages
import TemplatePress.Proofs.ExitStatus
import TemplatePress.Proofs.Links
import TemplatePress.Proofs.Limits
import TemplatePress.Proofs.Verdicts
import TemplatePress.Proofs.Duplicates
import TemplatePress.Proofs.Announcements
import TemplatePress.Proofs.FetchedCopies
import TemplatePress.Proofs.SameTemplates
import TemplatePress.Proofs.Stages
import TemplatePress.Proofs.Identifiers
import TemplatePress.Proofs.SearchOrder
import TemplatePress.Proofs.FailedSearches
import TemplatePress.Proofs.SourceFolders
import TemplatePress.Proofs.Listings
import TemplatePress.Proofs.Removals
import TemplatePress.Proofs.Spellings
import TemplatePress.Proofs.NewPlaces
import TemplatePress.Proofs.ExactCopies
import TemplatePress.Proofs.Lines
import TemplatePress.Proofs.Settings
import TemplatePress.Proofs.Separation
