import Textbank.Main
import Textbank.Storage.Memory
import Textbank.Proofs.Document.Grammar
import Textbank.Proofs.Document.Rewrite
import Textbank.Proofs.Reference.Nesting
import Textbank.Proofs.Reference.Reentry
import Textbank.Proofs.Reference.Separation
import Textbank.Proofs.Storage.Directory
import Textbank.Proofs.Workspace.Serving
import Textbank.Proofs.Storage.Listing
import Textbank.Proofs.Storage.Mirroring
import Textbank.Proofs.Workspace.Ledger
import Textbank.Proofs.Workspace.Separately
import Textbank.Proofs.Storage.Backed
import Textbank.Proofs.Workspace.Foreign
import Textbank.Proofs.Reference.Scope
import Textbank.Proofs.Reference.Marker
import Textbank.Proofs.Workspace.Saving
import Textbank.Proofs.Stem
import Textbank.Proofs.Numeral.Canonical
import Textbank.Proofs.Reference.Naming
import Textbank.Proofs.Filter
import Textbank.Proofs.Export
import Textbank.Proofs.Config
import Textbank.Proofs.Storage.Resource
import Textbank.Proofs.Layout
import Textbank.Proofs.Bank.Update
import Textbank.Proofs.Reference.Canonical
import Textbank.Proofs.Workspace.Preloading
import Textbank.Proofs.Reference.Pieces
