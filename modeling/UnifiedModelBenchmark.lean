import UnifiedModelBenchmark.Properties.Dict
import UnifiedModelBenchmark.Properties.Counts
import UnifiedModelBenchmark.Properties.Shapes
import UnifiedModelBenchmark.Properties.Sampling
import UnifiedModelBenchmark.Properties.MonitorEnd
import UnifiedModelBenchmark.Properties.Elapsed
import UnifiedModelBenchmark.Properties.Progress
import UnifiedModelBenchmark.Properties.Protocol
import UnifiedModelBenchmark.Properties.Faults
import UnifiedModelBenchmark.Properties.Listing
import UnifiedModelBenchmark.Properties.Stats
import UnifiedModelBenchmark.Properties.Merge
import UnifiedModelBenchmark.Properties.Accounting
import UnifiedModelBenchmark.Properties.Buffers
import UnifiedModelBenchmark.Properties.Preparation
import UnifiedModelBenchmark.Properties.Mains
import UnifiedModelBenchmark.Properties.NcnnRun
import UnifiedModelBenchmark.Properties.Canonical
import UnifiedModelBenchmark.Properties.Diagnosis
import UnifiedModelBenchmark.Properties.ReadInfo
