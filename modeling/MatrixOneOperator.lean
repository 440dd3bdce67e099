import MatrixOneOperator.Upsert
import MatrixOneOperator.Go
import MatrixOneOperator.Api
import MatrixOneOperator.Overlay
import MatrixOneOperator.Conditions
import MatrixOneOperator.Failover
import MatrixOneOperator.Bucket
import MatrixOneOperator.ConfigTree
import MatrixOneOperator.DNSet
import MatrixOneOperator.Cluster
import MatrixOneOperator.StartScript
import MatrixOneOperator.InstanceConfig
