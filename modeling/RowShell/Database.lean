/-
Databases in files.

Opening a database starts the shell on its file and discovers its tables.
-/
import RowShell.Catalog.Basic
import RowShell.Shell

namespace RowShell

/-- Whether the columns of all tables are asked for together. -/
def CatalogConfig.together (config : CatalogConfig) : Bool := config.batchedIntrospection.isTruthy

/-- Discovers the tables of the database in a file. -/
def openDatabase (file : Path) (config : Config) (host : Host) : Report (Option Catalog) × Host :=
  (Catalog.discover file.text config.catalog.together).run config.shell.executor host

end RowShell
