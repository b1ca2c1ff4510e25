import KongIngress.Model.Objects
import KongIngress.Model.Kong
import KongIngress.Model.Prog
import KongIngress.Model.Cluster
import KongIngress.Model.World
import KongIngress.Controller.Naming
import KongIngress.Controller.Configure
import KongIngress.Controller.Sync
import KongIngress.Controller.Claim
import KongIngress.Run.Plugins
import KongIngress.Run.Store
import KongIngress.Run.Configure
import KongIngress.Run.Sync
import KongIngress.Run.Effects
import KongIngress.Run.Rely
import KongIngress.Run.Named
import KongIngress.Runtime.Controller
import KongIngress.Runtime.Threads
import KongIngress.Correctness.Established
import KongIngress.Correctness.Idempotent
import KongIngress.Correctness.Collect
import KongIngress.Correctness.Dereference
import KongIngress.Correctness.Converge
import KongIngress.Correctness.Concurrency
import KongIngress.Correctness.Interleaved
import KongIngress.Correctness.SetOnce
