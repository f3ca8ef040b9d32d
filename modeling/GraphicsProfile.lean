import GraphicsProfile.Proofs.Canonical
import GraphicsProfile.Proofs.Journal
import GraphicsProfile.Proofs.Document.Codes
import GraphicsProfile.Proofs.Document.Cuts
import GraphicsProfile.Proofs.Document.Layout
import GraphicsProfile.Proofs.Document.Margins
import GraphicsProfile.Proofs.Document.Misfits
import GraphicsProfile.Proofs.Document.Passing
import GraphicsProfile.Proofs.Document.Repetitions
import GraphicsProfile.Proofs.Messages
import GraphicsProfile.Proofs.Session.Runs
