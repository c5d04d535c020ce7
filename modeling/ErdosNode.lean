import ErdosNode.Communication
import ErdosNode.Wait
import ErdosNode.Barriers
import ErdosNode.Operators
import ErdosNode.Cluster.Model
import ErdosNode.Cluster.Invariant
import ErdosNode.Cluster.Termination
import ErdosNode.Cluster.Progress
import ErdosNode.Cluster.Safety
import ErdosNode.Cluster.Refinement
import ErdosNode.Discovery
import ErdosNode.Supervisor
import ErdosNode.Transports
