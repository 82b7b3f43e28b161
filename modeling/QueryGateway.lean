import QueryGateway.CommandLine.Program
import QueryGateway.Config.Watch
import QueryGateway.GraphQL.Inspection
import QueryGateway.GraphQL.ProviderCell
import QueryGateway.GraphQL.Session
import QueryGateway.GraphQL.SharedProviders
import QueryGateway.Lifecycle.Shutdown
import QueryGateway.Main
import QueryGateway.Proofs.BatchAgreement
import QueryGateway.Proofs.BatchRecord
import QueryGateway.Proofs.Deadlines
import QueryGateway.Proofs.Delivery
import QueryGateway.Proofs.FileReloads
import QueryGateway.Proofs.HandlerRefinement
import QueryGateway.Proofs.Identifiers
import QueryGateway.Proofs.Independence
import QueryGateway.Proofs.InstalledProviders
import QueryGateway.Proofs.ProviderUpdates
import QueryGateway.Proofs.Reloads
import QueryGateway.Proofs.RequestRecord
import QueryGateway.Proofs.RoutePatterns
import QueryGateway.Proofs.RunningServer
import QueryGateway.Proofs.ShutdownSignals
import QueryGateway.Proofs.Transports
import QueryGateway.Server.Running
import QueryGateway.Proofs.Essences
import QueryGateway.Proofs.SameButType
import QueryGateway.Proofs.TargetQueries
import QueryGateway.Proofs.ContentTypes
import QueryGateway.Proofs.OperationNames
import QueryGateway.Proofs.TargetParameters
import QueryGateway.Proofs.ConfigRules
import QueryGateway.Proofs.RegistryHistories
import QueryGateway.Proofs.Envelopes
import QueryGateway.Proofs.ConfigDocuments
