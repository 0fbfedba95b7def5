import Reconcile.Listing.Served
import Reconcile.Main
import Reconcile.Repair.World
import Reconcile.Proofs.Ordered
import Reconcile.Proofs.Key
import Reconcile.Proofs.Merge
import Reconcile.Proofs.Comparison
import Reconcile.Proofs.Range
import Reconcile.Proofs.Paging
import Reconcile.Proofs.Listing
import Reconcile.Proofs.Digest
import Reconcile.Proofs.Tile
import Reconcile.Proofs.Scan
import Reconcile.Proofs.Utf8
import Reconcile.Proofs.FollowerDb
import Reconcile.Proofs.Transparency
import Reconcile.Proofs.ConcurrentWrites
import Reconcile.Proofs.CutScan
import Reconcile.Proofs.Decision
import Reconcile.Proofs.Repair
import Reconcile.Proofs.WriteSafety
import Reconcile.Proofs.RepairRun
import Reconcile.Proofs.Rescan
import Reconcile.Proofs.Json
import Reconcile.Proofs.DifferenceFile
import Reconcile.Proofs.FollowerScan
import Reconcile.Proofs.Percent
import Reconcile.Proofs.ObjectUrl
import Reconcile.Proofs.RepairAgain
import Reconcile.Proofs.ScanSteps
import Reconcile.Proofs.ScanPool
import Reconcile.Proofs.RepairFootprint
import Reconcile.Proofs.FileParts
import Reconcile.Proofs.RepairLedger
import Reconcile.Proofs.RepairOrder
import Reconcile.Proofs.ScanLog
import Reconcile.Proofs.ChunkCount
import Reconcile.Proofs.ScanLedger
import Reconcile.Proofs.Cutting
import Reconcile.Proofs.TransientReplies
import Reconcile.Proofs.RepairTwice
import Reconcile.Proofs.CuttingAfresh
import Reconcile.Proofs.ListingTurns
import Reconcile.Proofs.Form
import Reconcile.Proofs.QueryMark
import Reconcile.Proofs.ListingQuery
import Reconcile.Proofs.Retrying
import Reconcile.Proofs.UrlSlash
import Reconcile.Proofs.TrailingSlash
import Reconcile.Proofs.JsonInside
import Reconcile.Proofs.JsonNumber
import Reconcile.Proofs.JsonValue
import Reconcile.Proofs.InlineListing
import Reconcile.Proofs.SpanChain
import Reconcile.Proofs.Backoff
import Reconcile.Proofs.BucketOrder
