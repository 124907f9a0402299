import WebDocs.CommandLine.Run
import WebDocs.Main
import WebDocs.Proofs.CommandLine.AllOrNothing
import WebDocs.Proofs.Dump.Containment
import WebDocs.Proofs.Dump.Document
import WebDocs.Proofs.Dump.RoundTrip
import WebDocs.Proofs.Fragment.AnnotationJoin
import WebDocs.Proofs.Json.Reordering
import WebDocs.Proofs.Loading.OvertakenLoad
import WebDocs.Proofs.Loading.SourceFailure
import WebDocs.Proofs.WebPage.Assembly
import WebDocs.Proofs.Fragment.TextFidelity
import WebDocs.Proofs.WebPage.Navigation
import WebDocs.Proofs.WebPage.ShownState
import WebDocs.Proofs.WebPage.TreeOfNames
import WebDocs.Proofs.Text.Numeral
import WebDocs.Proofs.Dump.ValueReading
import WebDocs.Proofs.WebPage.Isolation
import WebDocs.Proofs.WebPage.LinkRoundTrip
import WebDocs.Proofs.WebPage.ReadyPage
import WebDocs.Proofs.WebPage.OpaquePositions
import WebDocs.Proofs.Fragment.OutlineText
import WebDocs.Proofs.Dump.LastWrite
import WebDocs.Proofs.WebPage.Listing
import WebDocs.Proofs.Fragment.DeclaredTypes
import WebDocs.Proofs.Fragment.FieldCount
