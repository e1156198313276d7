import OnchainBacktest.Lib.Dict
import OnchainBacktest.Lib.Bisect
import OnchainBacktest.Domain.Chain
import OnchainBacktest.Domain.Identifiers
import OnchainBacktest.Domain.Ledger
import OnchainBacktest.Engine.TransactionClock
import OnchainBacktest.Engine.Portfolio
import OnchainBacktest.Domain.AccountRequirements
import OnchainBacktest.Domain.Intents
import OnchainBacktest.Domain.MarketEvents
import OnchainBacktest.Domain.RoundTrips
import OnchainBacktest.Engine.AccountBooks
import OnchainBacktest.Engine.Conservation
import OnchainBacktest.Engine.Cooldowns
import OnchainBacktest.Engine.OrderAccounting
import OnchainBacktest.Engine.WalletRent
import OnchainBacktest.Artifacts.CollectionSafety
import OnchainBacktest.Artifacts.PublicationSafety
import OnchainBacktest.Artifacts.PurgeOutcome
import OnchainBacktest.Domain.RoundTripDocuments
import OnchainBacktest.Jobs.QueueRuntime
import OnchainBacktest.Reference.ObservedOrder
import OnchainBacktest.Source.SpanIndependence
import OnchainBacktest.Ml.TrainingLeakage
import OnchainBacktest.Engine.ResultOrder
import OnchainBacktest.Engine.CopyLatches
import OnchainBacktest.Source.ShardAdditivity
import OnchainBacktest.Artifacts.IndexMatchesRebuild
import OnchainBacktest.UseCases.ListPaging
import OnchainBacktest.Jobs.ProgressFraming
import OnchainBacktest.Artifacts.ShardFrontier
import OnchainBacktest.Plugins.ConstantProduct
import OnchainBacktest.Ml.UniverseMembership
import OnchainBacktest.Results.EntryPaging
import OnchainBacktest.Engine.ClockTargets
import OnchainBacktest.Plugins.PumpRounding
import OnchainBacktest.Plugins.PumpGroups
import OnchainBacktest.Engine.OrderTransactions
import OnchainBacktest.Source.EvidenceOrder
import OnchainBacktest.Plugins.PumpDecoding
import OnchainBacktest.Lib.JsonRounds
import OnchainBacktest.Bundles.CodeBundles
import OnchainBacktest.Lib.Tiles
import OnchainBacktest.Engine.BoundaryBatches
import OnchainBacktest.Engine.ColumnarPack
import OnchainBacktest.Engine.ColumnarEngine
import OnchainBacktest.Engine.ColumnarBatches
import OnchainBacktest.Ml.RidgeFit
import OnchainBacktest.Engine.SnipingChronicle
import OnchainBacktest.Jobs.ProgressDelivery
import OnchainBacktest.Jobs.ProgressPersistence
