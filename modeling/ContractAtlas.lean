import ContractAtlas.Main
import ContractAtlas.Proofs.Calls
import ContractAtlas.Proofs.CommandLine.Listing
import ContractAtlas.Proofs.CommandLine.Mapping
import ContractAtlas.Proofs.Crawl.Accounting
import ContractAtlas.Proofs.Crawl.Coverage
import ContractAtlas.Proofs.Crawl.RateLimiting
import ContractAtlas.Proofs.Crawl.ServiceLedger
import ContractAtlas.Proofs.Files.WellFormed
import ContractAtlas.Proofs.Graph.Core
import ContractAtlas.Proofs.Graph.Density
import ContractAtlas.Proofs.Graph.Representation
import ContractAtlas.Proofs.Graph.ZeroExclusion
import ContractAtlas.Proofs.Resolution.WholeLiterals
import ContractAtlas.Proofs.Session.SteadyEnrichment
import ContractAtlas.Proofs.SessionKey.Target
import ContractAtlas.Proofs.Store.AddressIndex
import ContractAtlas.Proofs.Store.Documents
import ContractAtlas.Proofs.Store.Enrichment
import ContractAtlas.Proofs.Store.FailedWrite
import ContractAtlas.Proofs.Store.Mapping
import ContractAtlas.Proofs.Store.MatchModes
import ContractAtlas.Proofs.Store.Placement
import ContractAtlas.Proofs.Store.Readability
import ContractAtlas.Proofs.Store.Replacement
import ContractAtlas.Proofs.Store.Uniqueness
import ContractAtlas.Proofs.Web.SessionRoute
import ContractAtlas.Store.Memory
