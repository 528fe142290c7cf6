import ColumnCrypt.Binary64
import ColumnCrypt.Text
import ColumnCrypt.Dictionary
import ColumnCrypt.Algorithm
import ColumnCrypt.Fault
import ColumnCrypt.Factory
import ColumnCrypt.Table
import ColumnCrypt.Rule
import ColumnCrypt.Session
import ColumnCrypt.Folder
import ColumnCrypt.Yaml.Node
import ColumnCrypt.Yaml.Line
import ColumnCrypt.Yaml.Scalar
import ColumnCrypt.Yaml.Flow
import ColumnCrypt.Yaml.Block
import ColumnCrypt.Loader
import ColumnCrypt.Proofs.Build
import ColumnCrypt.Proofs.NameIndex
import ColumnCrypt.Proofs.Dispatch
import ColumnCrypt.Proofs.Table
import ColumnCrypt.Proofs.Routing
import ColumnCrypt.Proofs.RoundTrip
import ColumnCrypt.Proofs.HolderHistory
import ColumnCrypt.Proofs.Batch
import ColumnCrypt.Proofs.TableChecks
import ColumnCrypt.Proofs.Classification
import ColumnCrypt.Proofs.Serving
import ColumnCrypt.Proofs.Registration
import ColumnCrypt.Proofs.CaseFolding
import ColumnCrypt.Proofs.CipherIndex
import ColumnCrypt.Proofs.ConfigSchema
