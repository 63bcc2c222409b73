import Kubedock.Types
import Kubedock.Store
import Kubedock.Backend
import Kubedock.Router
import Kubedock.RoutesVolumes
import Kubedock.RoutesNetworks
import Kubedock.Server
import Kubedock.Names
import Kubedock.Backing
import Kubedock.Membership
import Kubedock.Lookup
import Kubedock.Filter
import Kubedock.Thread
import Kubedock.Concurrent
import Kubedock.RaceCreate
import Kubedock.RaceRemove
import Kubedock.RaceUpdate
import Kubedock.Aliases
import Kubedock.PruneReport
import Kubedock.PlatformObjects
import Kubedock.RaceBacking
import Kubedock.Claims
import Kubedock.RaceClaims
import Kubedock.Cleanup
import Kubedock.Presenters
import Kubedock.RaceReports
import Kubedock.Routes
import Kubedock.RaceNetworkReports
