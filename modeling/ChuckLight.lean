import ChuckLight.Dmx.Concurrent
import ChuckLight.Dmx.DMXDummy
import ChuckLight.Dmx.Failures
import ChuckLight.Dmx.OnTheWire
import ChuckLight.DmxModule.Interrupts
import ChuckLight.DmxModule.Serialiser
import ChuckLight.Firmware.ButtonPresses
import ChuckLight.Firmware.KonamiCodes
import ChuckLight.Firmware.MainLoop
import ChuckLight.Firmware.MotionControllers
import ChuckLight.Firmware.PacketBuffers
import ChuckLight.Firmware.Panel
import ChuckLight.Firmware.Sampling
import ChuckLight.Firmware.StickRepeats
import ChuckLight.Firmware.WireFormat
import ChuckLight.Kernel.IrqHandler
import ChuckLight.Kernel.Probe
import ChuckLight.Kernel.SysfsFiles
import ChuckLight.Lighting.FailedSaves
import ChuckLight.Lighting.FixtureEffects
import ChuckLight.Lighting.FixtureFrame
import ChuckLight.Lighting.FixtureOrder
import ChuckLight.Lighting.FixtureValid
import ChuckLight.Lighting.RigEffects
import ChuckLight.Lighting.RigFollows
import ChuckLight.Lighting.SceneFile
import ChuckLight.Lighting.SceneIndex
import ChuckLight.Lighting.SceneOrder
import ChuckLight.Lighting.SetConfinement
import ChuckLight.Lighting.SetFile
import ChuckLight.Lighting.XYConverter
import ChuckLight.ManagerSurvival
import ChuckLight.Support.Ledger
import ChuckLight.Support.Listing
import ChuckLight.Support.Ramp
import ChuckLight.Support.Rounds
import ChuckLight.System.ClosedLoop
import ChuckLight.System.LossyLink
import ChuckLight.Threads.Cancelling
import ChuckLight.Threads.ChannelEdits
import ChuckLight.Threads.Cursors
import ChuckLight.Threads.Dimming
import ChuckLight.Threads.HighlightCalls
import ChuckLight.Threads.HighlightLedger
import ChuckLight.Threads.HighlightList
import ChuckLight.Threads.HighlightPermit
import ChuckLight.Threads.Laps
import ChuckLight.Threads.LightCursor
import ChuckLight.Threads.LightSelection
import ChuckLight.Threads.Ownership
import ChuckLight.Threads.Passes
import ChuckLight.Threads.Quit
import ChuckLight.Threads.Selection
import ChuckLight.Threads.ServerEnd
import ChuckLight.Threads.StoredScenes
import ChuckLight.Threads.UDPServerThread
import ChuckLight.Threads.VisualDimmer
