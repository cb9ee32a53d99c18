import RowShell.Database
import RowShell.Proofs.Catalog.Division
import RowShell.Proofs.Catalog.Whole
import RowShell.Proofs.Column.Category
import RowShell.Proofs.Column.Declaration
import RowShell.Proofs.Column.Fault
import RowShell.Proofs.Column.Kind
import RowShell.Proofs.Column.Leading
import RowShell.Proofs.Column.RoundTrip
import RowShell.Proofs.Column.Timestamp
import RowShell.Proofs.Schema.Dependence
import RowShell.Proofs.Schema.Order
import RowShell.Proofs.Shell
import RowShell.Proofs.Table.Insertion
import RowShell.Proofs.Table.Session
import RowShell.Proofs.Table.Statement
import RowShell.Proofs.Table.Unknown
import RowShell.Proofs.Table.Whole
import RowShell.Proofs.Time.Agreement
