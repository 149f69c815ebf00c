import RustyCrew.Proof.Lifecycle.Log
import RustyCrew.Proof.Lifecycle.HostTools
import RustyCrew.Proof.Persistence.Postgres
import RustyCrew.Proof.Engine.Wake
import RustyCrew.Proof.Bridge.HostTools
import RustyCrew.Proof.Brain.Budget
import RustyCrew.Proof.Brain.Tools
import RustyCrew.Proof.Brain.Compaction
import RustyCrew.Proof.Brain.ProviderText
import RustyCrew.Proof.Engine.FollowUps
import RustyCrew.Proof.Engine.SchedulerTick
import RustyCrew.Proof.Persistence.Backends
import RustyCrew.Proof.Engine.SchedulerClaims
import RustyCrew.Proof.Engine.Bus
import RustyCrew.Proof.Engine.Cleanup
import RustyCrew.Proof.Engine.Delegations
import RustyCrew.Proof.Coordination.Controllers
import RustyCrew.Proof.Coordination.Events
import RustyCrew.Proof.Coordination.Retries
import RustyCrew.Proof.Coordination.Routes
import RustyCrew.Proof.Lifecycle.Claims
import RustyCrew.Proof.Coordination.Reviews
import RustyCrew.Proof.Coordination.Gates
import RustyCrew.Engine.ToolRegistry
import RustyCrew.Proof.Engine.ToolRegistry
