import SpaceVeins.Shared.FieldNumerals
import SpaceVeins.Shared.Runs
import SpaceVeins.Shared.Numbering
import SpaceVeins.Shared.FloorSpacing
import SpaceVeins.SimTime
import SpaceVeins.TimerManager
import SpaceVeins.Messages
import SpaceVeins.SamacSatelliteAppl
import SpaceVeins.PacketQueue
import SpaceVeins.Samac
import SpaceVeins.SamacSteps
import SpaceVeins.ScheduleBook
import SpaceVeins.WlanSlots
import SpaceVeins.PublishedSlots
import SpaceVeins.SamacRegistration
import SpaceVeins.SamacRetry
import SpaceVeins.Shared.Journal
import SpaceVeins.SamacNetwork
import SpaceVeins.AckAgreement
import SpaceVeins.Coordinates
import SpaceVeins.RadioMedium
import SpaceVeins.RadioMediumFilters
import SpaceVeins.Shared.CxxString
import SpaceVeins.Shared.TextLines
import SpaceVeins.SatelliteInserter
import SpaceVeins.SatelliteModules
import SpaceVeins.TleFile
import SpaceVeins.SatelliteRequests
import SpaceVeins.Shared.CxxVector
import SpaceVeins.TEME2ITRF
import SpaceVeins.Shared.DefaultFloat
import SpaceVeins.SatelliteObservationPoint
import SpaceVeins.SGP4Mobility
import SpaceVeins.ScheduleTiming
import SpaceVeins.RadioMediumDefaults
import SpaceVeins.Shared.Python
import SpaceVeins.ConvertSumoObjects
import SpaceVeins.FindSuitableSatellite
import SpaceVeins.FailedPropagation
import SpaceVeins.SatelliteNames
import SpaceVeins.VectorSizes
import SpaceVeins.DataService
import SpaceVeins.SamacEncapsulate
import SpaceVeins.Shared.Interleaving
import SpaceVeins.PacketInjection
import SpaceVeins.OperationalBase
import SpaceVeins.StopAndCrash
import SpaceVeins.AntennaOrientation
import SpaceVeins.AntennaGain
import SpaceVeins.JulianDate
import SpaceVeins.MovingSatellite
import SpaceVeins.SGP4Init
import SpaceVeins.SGP4Outcome
import SpaceVeins.SamacStatistics
import SpaceVeins.TimerRuns
import SpaceVeins.TimerAddresses
import SpaceVeins.TraCIHeading
