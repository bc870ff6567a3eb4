import EdgeAgent.Cluster.Requests
import EdgeAgent.Main
import EdgeAgent.Platform.Address
import EdgeAgent.Sync.Script
import EdgeAgent.Proofs.Cluster.Healed
import EdgeAgent.Proofs.Cluster.InEffect
import EdgeAgent.Proofs.Cluster.Repeated
import EdgeAgent.Proofs.Platform.Reply
import EdgeAgent.Proofs.Routing.Queue
import EdgeAgent.Proofs.Routing.Relist
import EdgeAgent.Proofs.Cluster.Census
import EdgeAgent.Proofs.Cluster.Sparing
import EdgeAgent.Proofs.Cluster.Depot
import EdgeAgent.Proofs.Cluster.Spared
import EdgeAgent.Proofs.Access.UserPassword
import EdgeAgent.Proofs.Cluster.Repaired
import EdgeAgent.Proofs.Routing.Path
import EdgeAgent.Proofs.Sync.Single
import EdgeAgent.Proofs.Access.Token
import EdgeAgent.Proofs.Cluster.Berth
import EdgeAgent.Proofs.Cluster.Connected
import EdgeAgent.Proofs.Cluster.Overtaken
import EdgeAgent.Proofs.Cluster.Refreshed
import EdgeAgent.Proofs.Cluster.Reported
import EdgeAgent.Proofs.Access.QueryToken
import EdgeAgent.Proofs.Access.Forwarded
import EdgeAgent.Proofs.Sync.Loop
import EdgeAgent.Proofs.Resource.Naming
import EdgeAgent.Proofs.Access.Realm
import EdgeAgent.Proofs.Resource.Lossless
import EdgeAgent.Proofs.Sync.Accounted
