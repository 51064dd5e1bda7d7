import KVStore.Cluster.Connection
import KVStore.Cluster.Exclusion
import KVStore.Cluster.Recovery
import KVStore.Cluster.Reports
import KVStore.Cluster.Results
import KVStore.Cluster.Shutdown
import KVStore.Cluster.Smoke
import KVStore.Cluster.Timestamps
import KVStore.Common.Collector
import KVStore.Common.Logger
import KVStore.Common.Protocol
import KVStore.Common.Reception
import KVStore.Master.Accounts
import KVStore.Master.Dispatch
import KVStore.Master.Journal
import KVStore.Master.Progress
import KVStore.Master.Reallocations
import KVStore.Master.Receiver
import KVStore.Master.Registration
import KVStore.Master.Rotation
import KVStore.Worker.Answers
import KVStore.Worker.Batches
import KVStore.Worker.Idempotence
import KVStore.Worker.Requests
import KVStore.Worker.Rest
import KVStore.Worker.Warnings
import KVStore.Worker.Halt
