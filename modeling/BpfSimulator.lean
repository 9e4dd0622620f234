import BpfSimulator.Cli.Loading
import BpfSimulator.Cli.ProgramData
import BpfSimulator.Cli.SimulatedPrograms
import BpfSimulator.InstructionExecutor.AccountReads
import BpfSimulator.InstructionExecutor.Budget
import BpfSimulator.InstructionExecutor.ChunkPartition
import BpfSimulator.InstructionExecutor.Confinement
import BpfSimulator.InstructionExecutor.EntrypointAbi
import BpfSimulator.InstructionExecutor.InstructionSection
import BpfSimulator.InstructionExecutor.Isolation
import BpfSimulator.InstructionExecutor.LastUpdates
import BpfSimulator.InstructionExecutor.LayoutIndependence
import BpfSimulator.InstructionExecutor.Memcpy
import BpfSimulator.InstructionExecutor.NonContiguousCopy
import BpfSimulator.InstructionExecutor.ProgramAddressSearch
import BpfSimulator.InstructionExecutor.ReturnData
import BpfSimulator.InstructionExecutor.Reupdate
import BpfSimulator.InstructionExecutor.RoundTrip
import BpfSimulator.InstructionExecutor.SizesIndependence
import BpfSimulator.InstructionExecutor.SliceBounds
import BpfSimulator.InstructionExecutor.StackFrames
import BpfSimulator.MessageExecutor.ExecutionRecord
import BpfSimulator.MessageExecutor.InstructionOrder
import BpfSimulator.MessageExecutor.LoaderAgreement
import BpfSimulator.MessageExecutor.MessageIsolation
import BpfSimulator.MessageExecutor.ProgramOrigins
import BpfSimulator.MessageExecutor.ProgramSelection
