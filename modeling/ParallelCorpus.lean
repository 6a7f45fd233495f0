import ParallelCorpus.FileTree.Lemmas
import ParallelCorpus.Main
import ParallelCorpus.Proofs.LineStructure
import ParallelCorpus.Proofs.TallyOfPairs
import ParallelCorpus.Proofs.Lockstep
import ParallelCorpus.Proofs.Walk
import ParallelCorpus.Proofs.Ways
import ParallelCorpus.Proofs.PairFilter
import ParallelCorpus.Proofs.Clearing
import ParallelCorpus.Proofs.InputDirectories
import ParallelCorpus.Proofs.Unlinked
import ParallelCorpus.Proofs.CorpusFold
import ParallelCorpus.Proofs.CorpusRun
import ParallelCorpus.Proofs.LineAlignment
import ParallelCorpus.Proofs.Unread
import ParallelCorpus.Proofs.Listing
import ParallelCorpus.Proofs.StrictAlignment
import ParallelCorpus.Proofs.Leftovers
import ParallelCorpus.Proofs.Rerunning
import ParallelCorpus.Proofs.Footprint
import ParallelCorpus.Proofs.StaleOutputs
import ParallelCorpus.Proofs.FlatLookup
import ParallelCorpus.Proofs.Merging
import ParallelCorpus.Proofs.TraversalOrder
import ParallelCorpus.Proofs.Recording
import ParallelCorpus.Proofs.Splitting
import ParallelCorpus.Proofs.Refiltering
import ParallelCorpus.Proofs.FigureBounds
import ParallelCorpus.Proofs.DecimalCounts
import ParallelCorpus.Proofs.CommandLines
import ParallelCorpus.Proofs.JsonReaders
import ParallelCorpus.Proofs.TallyJson
import ParallelCorpus.Proofs.SummaryFile
import ParallelCorpus.Proofs.Reporting
import ParallelCorpus.Proofs.PathComponents
import ParallelCorpus.Proofs.AsciiBytes
import ParallelCorpus.Proofs.FoundDocuments
import ParallelCorpus.Proofs.MirroredLookup
import ParallelCorpus.Proofs.OutputGrowth
import ParallelCorpus.Proofs.WordCounting
import ParallelCorpus.Proofs.DecodedWords
import ParallelCorpus.Proofs.Selection
import ParallelCorpus.Proofs.Turns
import ParallelCorpus.Proofs.WordConservation
import ParallelCorpus.Proofs.CounterBounds
import ParallelCorpus.Proofs.JobPaths
import ParallelCorpus.Proofs.JobDemands
import ParallelCorpus.Proofs.LineReading
