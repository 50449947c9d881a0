import DocumentSearch.Main
import DocumentSearch.Proofs.Documents
import DocumentSearch.Proofs.DocumentEquality
import DocumentSearch.Proofs.UpToDate
import DocumentSearch.Proofs.Buckets
import DocumentSearch.Proofs.AggregationAnswers
import DocumentSearch.Proofs.PercentEncoding
import DocumentSearch.Proofs.Dialogues
import DocumentSearch.Proofs.SearchAddress
import DocumentSearch.Proofs.Deviations
import DocumentSearch.Proofs.DottedPaths
import DocumentSearch.Proofs.NormalizedSettings
import DocumentSearch.Proofs.DifferenceReport
import DocumentSearch.Proofs.ReportInvariance
import DocumentSearch.Proofs.AggregationDocuments
import DocumentSearch.Proofs.RequestDocuments
import DocumentSearch.Proofs.UnmanagedSettings
import DocumentSearch.Proofs.ReportedSettings
import DocumentSearch.Proofs.MembershipConditions
import DocumentSearch.Proofs.SearchRuns
import DocumentSearch.Proofs.Sequencing
import DocumentSearch.Proofs.WatchedPaths
import DocumentSearch.Proofs.DecodedAggregations
import DocumentSearch.Proofs.StatusRuns
import DocumentSearch.Proofs.MemberOrder
import DocumentSearch.Proofs.UnrequestedMembers
import DocumentSearch.Proofs.Insertions
import DocumentSearch.Proofs.DraftHistories
import DocumentSearch.Proofs.Separators
import DocumentSearch.Proofs.ArgumentForms
import DocumentSearch.Proofs.AcceptedArguments
import DocumentSearch.Proofs.Records
import DocumentSearch.Proofs.Rounding
import DocumentSearch.Proofs.Hits
import DocumentSearch.Proofs.SearchResponses
import DocumentSearch.Proofs.DecodedHits
import DocumentSearch.Proofs.AggregationRuns
import DocumentSearch.Proofs.AnalysisPlacement
import DocumentSearch.Proofs.AppendedSegments
