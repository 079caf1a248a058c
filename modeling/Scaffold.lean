import Scaffold.Disk.Survey
import Scaffold.Main
import Scaffold.Proofs.ClosingBracket
import Scaffold.Proofs.ExactManifest
import Scaffold.Proofs.MethodConcatenation
import Scaffold.Proofs.PrimaryEntity
import Scaffold.Proofs.QueryHook
import Scaffold.Proofs.Reharvest
import Scaffold.Proofs.ScannedFields
import Scaffold.Proofs.SharedTypes
import Scaffold.Proofs.SourceDependence
import Scaffold.Proofs.StructuralFaults
import Scaffold.Proofs.TableAlias
import Scaffold.Proofs.TestFile
import Scaffold.Proofs.TokenRow
import Scaffold.Proofs.VariableNames
import Scaffold.Session
import Scaffold.Text.Hex
