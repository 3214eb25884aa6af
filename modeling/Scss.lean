import Scss.Main
import Scss.Memory
import Scss.Proofs.Runs
import Scss.Proofs.Scan
import Scss.Proofs.Token
import Scss.Proofs.Scope
import Scss.Proofs.Substitution
import Scss.Proofs.Declaration
import Scss.Proofs.Injection
import Scss.Proofs.Stylesheet
import Scss.Proofs.Diagnostics
import Scss.Proofs.Bundle
import Scss.Proofs.Mentions
import Scss.Proofs.Disk
import Scss.Proofs.Compilation
import Scss.Proofs.Input
import Scss.Proofs.Import
import Scss.Proofs.Lines
import Scss.Proofs.Assembly
import Scss.Proofs.Settings
import Scss.Proofs.Bytes
import Scss.Proofs.Definitions
import Scss.Proofs.Build
import Scss.Proofs.Regex
import Scss.Proofs.Expression
import Scss.Proofs.Residue
import Scss.Proofs.Check
import Scss.Proofs.Components
import Scss.Proofs.Confinement
import Scss.Proofs.Renaming
import Scss.Proofs.Collection
import Scss.Proofs.Overwriting
import Scss.Proofs.Partials
