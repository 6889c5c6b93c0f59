import LoadReth.Primitives
import LoadReth.Chainspec
import LoadReth.Block
import LoadReth.Evm
import LoadReth.Pool
import LoadReth.Engine.Payload
import LoadReth.Engine.Validator
import LoadReth.Engine.Builder
import LoadReth.Engine.BuilderInvariant
import LoadReth.BlobBudget
import LoadReth.Engine.Rpc
import LoadReth.Rpc.Backpressure
import LoadReth.Rpc.Batch
import LoadReth.Rpc.Progress
import LoadReth.Engine.BuilderAccounting
import LoadReth.Rpc.GateSpec
