import Bookfinder.Database.Store
import Bookfinder.Http.Client
import Bookfinder.Main
import Bookfinder.Proofs.Traffic
import Bookfinder.Rating.Service
import Bookfinder.Proofs.LatestRequest
import Bookfinder.Proofs.Years
import Bookfinder.Proofs.CanonicalQuery
import Bookfinder.Proofs.Dispatch
import Bookfinder.Proofs.Fallback
import Bookfinder.Proofs.Lowercase
import Bookfinder.Proofs.Sections
import Bookfinder.Proofs.Submission
import Bookfinder.Proofs.LiveRatings
import Bookfinder.Proofs.BookFigures
import Bookfinder.Proofs.BookList
import Bookfinder.Proofs.QueryGrammar
import Bookfinder.Proofs.ClientAgreement
import Bookfinder.Proofs.Browsing
import Bookfinder.Proofs.FailedRequests
import Bookfinder.Proofs.DecodedBooks
import Bookfinder.Proofs.PoolLifetime
import Bookfinder.Proofs.MissingRatings
import Bookfinder.Proofs.LongYears
import Bookfinder.Proofs.ShownMeans
import Bookfinder.Proofs.RankedMeans
import Bookfinder.Proofs.BookStatistics
import Bookfinder.Proofs.Retries
import Bookfinder.Proofs.Summaries
import Bookfinder.Proofs.Acceptance
import Bookfinder.Proofs.RatingObjects
import Bookfinder.Proofs.SameBooks
import Bookfinder.Proofs.Narrowing
import Bookfinder.Proofs.CopiedParts
import Bookfinder.Proofs.Stepping
import Bookfinder.Proofs.SentRatings
import Bookfinder.Proofs.ServiceAnswers
import Bookfinder.Proofs.SectionsAtOnce
import Bookfinder.Proofs.NormalRatings
import Bookfinder.Proofs.Connections
import Bookfinder.Proofs.DatabaseTurns
import Bookfinder.Proofs.RequestAddresses
