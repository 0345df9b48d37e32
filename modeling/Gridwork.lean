import Gridwork.Disposition
import Gridwork.Http.Client
import Gridwork.Main
import Gridwork.Proofs.Build.FailFast
import Gridwork.Proofs.Build.Reordering
import Gridwork.Proofs.Build.Respelling
import Gridwork.Proofs.Build.Sanitizing
import Gridwork.Proofs.Build.Session
import Gridwork.Proofs.Build.Titles
import Gridwork.Proofs.Service.EntryPoints
import Gridwork.Proofs.Service.PathSafety
import Gridwork.Proofs.Validation.Barrier
import Gridwork.Proofs.Validation.Sanitizing
import Gridwork.Proofs.Formula.Shape
import Gridwork.Proofs.Style.Color
import Gridwork.Proofs.Style.Grammar
import Gridwork.Proofs.Build.Faults
import Gridwork.Proofs.Build.Agreement
import Gridwork.Proofs.Http.RateLimit
import Gridwork.Proofs.Http.Independence
import Gridwork.Proofs.Http.Redirect
import Gridwork.Proofs.Cli.Endings
import Gridwork.Proofs.Storage.Outcome
import Gridwork.Proofs.Storage.DerivedName
import Gridwork.Proofs.Service.RowBound
import Gridwork.Proofs.Build.HalfRow
import Gridwork.Proofs.Build.Trace
import Gridwork.Proofs.Http.Download
import Gridwork.Proofs.Log.Line
import Gridwork.Proofs.Log.Routing
import Gridwork.Proofs.Settings.Loading
