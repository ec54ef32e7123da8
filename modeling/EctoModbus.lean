import EctoModbus.Library.PyM
import EctoModbus.Library.Bits
import EctoModbus.Library.Decimal
import EctoModbus.Library.Transition
import EctoModbus.Library.Replay
import EctoModbus.Library.Shadow
import EctoModbus.Library.BlockTable
import EctoModbus.Library.Delivery
import EctoModbus.Transport.ModBusRTU
import EctoModbus.Transport.RegisterBlocks
import EctoModbus.Transport.RtuServer
import EctoModbus.Devices.Blocks
import EctoModbus.Transport.Journal
import EctoModbus.Devices.RelaySync
import EctoModbus.Devices.Encoders
import EctoModbus.Entity.Switch
import EctoModbus.Entity.RelaySystem
import EctoModbus.Entity.RelayRuns
import EctoModbus.Coordinator
import EctoModbus.Entity.BinarySensorSystem
import EctoModbus.Entity.BinarySensorRuns
import EctoModbus.WordRange
import EctoModbus.TimerRuns
import EctoModbus.IdentityRuns
import EctoModbus.SerialWrapper
import EctoModbus.Devices.TemperatureRuns
import EctoModbus.Setup
import EctoModbus.Entity.Platform
import EctoModbus.Library.Coupling
import EctoModbus.Library.Team
import EctoModbus.Bus.Display
import EctoModbus.Bus.Threads
import EctoModbus.Bus.Sessions
import EctoModbus.SerialLog
import EctoModbus.Library.Schema
import EctoModbus.ConfigDefs
import EctoModbus.Config
import EctoModbus.AsyncSetup
import EctoModbus.FromConfiguration
