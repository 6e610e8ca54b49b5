import SensorStream.Foreign.Library
import SensorStream.Main
import SensorStream.Proofs.BackPressure
import SensorStream.Proofs.Conservation
import SensorStream.Proofs.DiscoveryRace
import SensorStream.Proofs.DispatchLoop
import SensorStream.Proofs.DownSamplingCounts
import SensorStream.Proofs.FailedStarts
import SensorStream.Proofs.FailureReports
import SensorStream.Proofs.FinalCounters
import SensorStream.Proofs.HandingOut
import SensorStream.Proofs.LifeCycle
import SensorStream.Proofs.LinkStore
import SensorStream.Proofs.ListingAgain
import SensorStream.Proofs.ListingCycle
import SensorStream.Proofs.OpeningRequests
import SensorStream.Proofs.ProgressRange
import SensorStream.Proofs.QueueInterleaving
import SensorStream.Proofs.ReportedAttempts
import SensorStream.Proofs.RunProtocol
import SensorStream.Proofs.ShutdownRace
import SensorStream.Source.Recorded
import SensorStream.Source.Script
import SensorStream.Proofs.TextForms
import SensorStream.Proofs.SensorNames
import SensorStream.Proofs.TransportKeys
import SensorStream.Proofs.EnvironmentReading
import SensorStream.Proofs.Deadlines
import SensorStream.Proofs.ListingRecords
import SensorStream.Proofs.FieldTexts
import SensorStream.Proofs.KeyLists
import SensorStream.Proofs.PublishedMeasurements
import SensorStream.Proofs.GeneratorTurns
import SensorStream.Proofs.GeneratorUpkeep
import SensorStream.Proofs.GeneratedStream
