import LibraryServer.Tables
import LibraryServer.Programs
import LibraryServer.Runs
import LibraryServer.Queries
import LibraryServer.Ledgers
import LibraryServer.Interleaving
import LibraryServer.Serializability
import LibraryServer.Paths
import LibraryServer.Fallible
import LibraryServer.Texts
import LibraryServer.Java
import LibraryServer.Entities
import LibraryServer.Repositories
import LibraryServer.LendingServices
import LibraryServer.LendingInvariant
import LibraryServer.LendingRefinement
import LibraryServer.LendingOutcomes
import LibraryServer.LendingRoundTrip
import LibraryServer.LendingConcurrency
import LibraryServer.LendingSeparation
import LibraryServer.Catalogue
import LibraryServer.BookMaster
import LibraryServer.BookBatches
import LibraryServer.Covers
import LibraryServer.ImageUploads
import LibraryServer.ImageNames
import LibraryServer.JwtFilter
import LibraryServer.RateLimit
import LibraryServer.Accounts
import LibraryServer.AccountIntegrity
import LibraryServer.RegistrationRaces
import LibraryServer.Authority
import LibraryServer.BorrowedViews
import LibraryServer.Fines
import LibraryServer.Controllers
import LibraryServer.LoanLists
import LibraryServer.Confinement
import LibraryServer.BatchReturns
import LibraryServer.ReturnSets
import LibraryServer.ReturnForms
import LibraryServer.BorrowSessions
import LibraryServer.BorrowSelection
import LibraryServer.LendingDesk
import LibraryServer.PageForms
import LibraryServer.Changes
import LibraryServer.Application
import LibraryServer.Accountability
import LibraryServer.SignIn
import LibraryServer.LoanPages
import LibraryServer.Resending
