import TableStore.Main
import TableStore.Session
import TableStore.Settings.Document
import TableStore.Proofs.StoreOutlines
import TableStore.Proofs.WriteBacks
import TableStore.Proofs.Endings
import TableStore.Proofs.Evictions
import TableStore.Proofs.Fetches
import TableStore.Proofs.RowChanges
import TableStore.Proofs.Operations
import TableStore.Proofs.Steps
import TableStore.Proofs.Turns
import TableStore.Proofs.Runs
import TableStore.Proofs.Ledgers
import TableStore.Proofs.Pins
import TableStore.Proofs.Isolation
import TableStore.Proofs.Durability
import TableStore.Proofs.Reloading
import TableStore.Proofs.PlainTables
import TableStore.Proofs.Serial
import TableStore.Proofs.SerialChanges
import TableStore.Proofs.SerialRequests
import TableStore.Proofs.Capacity
import TableStore.Proofs.LockFrames
import TableStore.Proofs.LockSteps
import TableStore.Proofs.TwoPhase
import TableStore.Proofs.Deadlocks
import TableStore.Proofs.Contests
import TableStore.Proofs.ModeMaps
import TableStore.Proofs.CacheAccounts
import TableStore.Proofs.UnflushedPages
import TableStore.Proofs.Tidy
import TableStore.Proofs.Undisturbed
import TableStore.Proofs.TidySteps
import TableStore.Proofs.TidyRuns
import TableStore.Proofs.Outcomes
import TableStore.Proofs.ScanReadings
import TableStore.Proofs.RepeatableScans
import TableStore.Proofs.TableEntries
import TableStore.Proofs.LoneInsertions
import TableStore.Proofs.Fillings
import TableStore.Proofs.Workloads
import TableStore.Proofs.Registrations
import TableStore.Proofs.FillerBytes
import TableStore.Proofs.PageRoundTrips
import TableStore.Proofs.Uses
import TableStore.Proofs.Rollbacks
import TableStore.Proofs.FailedFetches
import TableStore.Proofs.Inventories
import TableStore.Proofs.Seeks
import TableStore.Proofs.Commands
import TableStore.Proofs.Invocations
import TableStore.Proofs.DeadlockChecks
import TableStore.Proofs.PartialCommits
import TableStore.Proofs.BackedPages
import TableStore.Proofs.InsertionRuns
import TableStore.Proofs.FirstPlaces
import TableStore.Proofs.FailedChanges
import TableStore.Proofs.Reloads
import TableStore.Proofs.ScanAnswers
import TableStore.Proofs.RecencyOrder
import TableStore.Proofs.SlotMaps
import TableStore.Proofs.EvictionLines
import TableStore.Proofs.LoneScans
import TableStore.Proofs.ChangeOwners
import TableStore.Proofs.TableEvictions
import TableStore.Proofs.OrderlyUses
import TableStore.Proofs.Reopenings
import TableStore.Proofs.RowRoundTrips
import TableStore.Proofs.PageArrays
import TableStore.Proofs.CatalogNames
import TableStore.Proofs.Accesses
import TableStore.Proofs.RecentPages
import TableStore.Proofs.SchemaTexts
import TableStore.Proofs.SlotRanges
