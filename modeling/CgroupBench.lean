import CgroupBench.Main
import CgroupBench.Proofs.Coverage
import CgroupBench.Proofs.FaithfulHost
import CgroupBench.Proofs.FaultyHost
import CgroupBench.Proofs.Ledger
import CgroupBench.Proofs.Lifecycle
import CgroupBench.Proofs.Preparation
import CgroupBench.Proofs.Restoration
import CgroupBench.Proofs.Standing
import CgroupBench.Proofs.Undoing
import CgroupBench.Proofs.Watch
import CgroupBench.Proofs.WriteAhead
import CgroupBench.Simulation.Sandbox
import CgroupBench.Simulation.ScriptedHost
import CgroupBench.Proofs.Conservation
import CgroupBench.Proofs.DrainedJournal
import CgroupBench.Proofs.Course
import CgroupBench.Proofs.Conduct
import CgroupBench.Proofs.Unwinding
import CgroupBench.Proofs.LaunchConditions
import CgroupBench.Proofs.LoneBoundary
import CgroupBench.Proofs.Ending
import CgroupBench.Proofs.SeriesFold
import CgroupBench.Proofs.RunOutcome
import CgroupBench.Proofs.Expansion
import CgroupBench.Proofs.Preflight
import CgroupBench.Proofs.Configuration
import CgroupBench.Proofs.OwedRestore
import CgroupBench.Proofs.LateRefusal
import CgroupBench.Proofs.Leftovers
import CgroupBench.Proofs.Itinerary
import CgroupBench.Proofs.CallOrder
import CgroupBench.Proofs.SeriesSplit
import CgroupBench.Proofs.Scene
import CgroupBench.Proofs.SmtBooks
import CgroupBench.Proofs.Utf8RoundTrip
import CgroupBench.Simulation.HostSystem
import CgroupBench.Proofs.Service
import CgroupBench.Proofs.Recovery
import CgroupBench.Proofs.Undescribed
import CgroupBench.Proofs.Enumeration
import CgroupBench.Proofs.SizeForm
import CgroupBench.Proofs.Handover
import CgroupBench.Proofs.SizeRoundTrip
import CgroupBench.Proofs.ReversalsInTurn
import CgroupBench.Proofs.BoundedRetries
import CgroupBench.Proofs.CaseFolding
import CgroupBench.Proofs.SizeCase
import CgroupBench.Proofs.Admission
import CgroupBench.Proofs.StageTrace
import CgroupBench.Proofs.OwnResources
import CgroupBench.Proofs.TwoRuns
import CgroupBench.Proofs.Tolerance
import CgroupBench.Proofs.RepeatedPasses
import CgroupBench.Proofs.ResultsFile
import CgroupBench.Proofs.Restriction
import CgroupBench.Proofs.Grouping
import CgroupBench.Proofs.Mirror
import CgroupBench.Proofs.ShortenedError
