import Tabletop.Session
import Tabletop.Main
import Tabletop.Proofs.Rolling
import Tabletop.Proofs.Web.Invisibility
import Tabletop.Proofs.Succession
import Tabletop.Proofs.Correspondence
import Tabletop.Proofs.Requests
import Tabletop.Proofs.WholeNumber
import Tabletop.Proofs.CommandLine.Plain
import Tabletop.Proofs.CommandLine.Rolling
import Tabletop.Proofs.Web.Conclusion
import Tabletop.Proofs.Surfaces.Agreement
import Tabletop.Proofs.Surfaces.Admission
import Tabletop.Proofs.Json.Spelling
import Tabletop.Proofs.Web.PoolBody
import Tabletop.Proofs.Web.Structured
import Tabletop.Proofs.Surfaces.Malformed
import Tabletop.Proofs.Surfaces.Oversize
import Tabletop.Proofs.Roll.Ranking
import Tabletop.Proofs.Roll.Choices
import Tabletop.Proofs.Roll.Duality
import Tabletop.Proofs.Completion
import Tabletop.Proofs.Notation.Parsing
import Tabletop.Proofs.Notation.Padding
import Tabletop.Proofs.Surfaces.Lines
import Tabletop.Proofs.Interchange
import Tabletop.Proofs.Session
import Tabletop.Proofs.Records
import Tabletop.Proofs.Web.Accounting
import Tabletop.Proofs.Sentence
import Tabletop.Proofs.Roll.Recovery
import Tabletop.Proofs.Web.PoolForm
import Tabletop.Proofs.Notation.Occurrences
import Tabletop.Proofs.CommandLine.Journal
