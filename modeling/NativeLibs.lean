import NativeLibs.Gui.SlotBudget
import NativeLibs.Gui.FrameHistory
import NativeLibs.Binder.OnewayNumbers
import NativeLibs.Binder.MemoryDealerRuns
import NativeLibs.Binder.ParcelObjects
import NativeLibs.Binder.ParcelProtection
import NativeLibs.Binder.ParcelRoundTrip
import NativeLibs.Input.KeyCharacterMap
import NativeLibs.Input.KeyboardInputMapper
import NativeLibs.Input.LostMessages
import NativeLibs.Input.Delivery
import NativeLibs.Input.MultiTouchInputMapper
import NativeLibs.Input.PointerCoords
import NativeLibs.Input.TouchTransfer
import NativeLibs.Input.FallbackKeys
import NativeLibs.Scheduler.TimerQueueWakeup
import NativeLibs.Scheduler.TimerQueueCancel
import NativeLibs.Scheduler.TimerQueueTargets
import NativeLibs.Scheduler.VSyncPredictor
import NativeLibs.Flinger.CacheCoherence
import NativeLibs.Scheduler.EventThread
import NativeLibs.Flinger.Privilege
import NativeLibs.CompositionEngine.DirtyRegion
import NativeLibs.Flinger.ListenerIsolation
import NativeLibs.Binder.LazyServiceRegistrar
import NativeLibs.Egl.BlobCache
import NativeLibs.Vr.BroadcastRingReads
import NativeLibs.Vr.StringWrapper
import NativeLibs.Cmds.InstalldPaths
import NativeLibs.Cmds.FreeCache
import NativeLibs.Sensor.SensorEventConnection
import NativeLibs.Scheduler.LayerHistory
