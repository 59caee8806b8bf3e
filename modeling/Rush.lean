import Rush.Library.Decimal
import Rush.Library.OrderedMap
import Rush.Library.Runs
import Rush.Library.Attempts
import Rush.Actor.Error
import Rush.Storage.Error
import Rush.Storage.Stores
import Rush.Storage.KeyText
import Rush.Storage.Fjall
import Rush.Library.Framing
import Rush.Storage.Files
import Rush.Storage.Journal
import Rush.Storage.Isolation
import Rush.Storage.JournalModel
import Rush.Storage.JournalImport
import Rush.Storage.JournalExport
import Rush.Storage.Snapshotter
import Rush.Storage.Persist
import Rush.Storage.Durability
import Rush.Actor.Registration
import Rush.Actor.RunLoop
import Rush.Actor.ParentStop
import Rush.Actor.Creation
import Rush.Actor.FailedStart
import Rush.Actor.Orphans
import Rush.Actor.StopRequest
import Rush.Actor.Shutdown
import Rush.Actor.RetryAsk
import Rush.Actor.Startup
import Rush.Actor.Depth
import Rush.Actor.StopCall
import Rush.Actor.Children
import Rush.Actor.RestartTree
import Rush.Storage.Restart
import Rush.Storage.GracefulStop
import Rush.Storage.Edits
import Rush.Storage.KeyOrder
import Rush.Storage.BackEnds
import Rush.Storage.Addresses
import Rush.Storage.ImportFrames
import Rush.Storage.PutOnly
import Rush.Storage.FrameCodec
import Rush.Storage.SnapshotActor
import Rush.Storage.StoreNames
import Rush.Storage.Crash
import Rush.Storage.Overflow
import Rush.Actor.Abandoned
import Rush.Actor.Escalation
import Rush.Storage.ChildProtocol
import Rush.Actor.EventHandlers
import Rush.Storage.JournalProtocol
import Rush.Storage.SnapshotRegister
import Rush.Actor.Started
import Rush.Actor.Progress
