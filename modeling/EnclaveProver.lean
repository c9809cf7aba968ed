import EnclaveProver.Server.Handlers
import EnclaveProver.Pipeline.ProverToml
import EnclaveProver.Bridge.Relay
import EnclaveProver.Server.Connection
import EnclaveProver.Pipeline.Witness
import EnclaveProver.Pipeline.Frame
import EnclaveProver.Server.Workspaces
import EnclaveProver.Server.ProveOutcomes
import EnclaveProver.Server.Exchange
import EnclaveProver.Server.Truncation
import EnclaveProver.Server.Accept
