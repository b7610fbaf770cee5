import SummitUsbgadget.Base
import SummitUsbgadget.Lib.Index
import SummitUsbgadget.Lib.Machine
import SummitUsbgadget.Lib.Crc32
import SummitUsbgadget.Lib.Coroutine
import SummitUsbgadget.Lib.Watch
import SummitUsbgadget.Swupdate.Session
import SummitUsbgadget.Swupdate.Live
import SummitUsbgadget.Swupdate.Feed
import SummitUsbgadget.Swupdate.Transfer
import SummitUsbgadget.Swupdate.Async
import SummitUsbgadget.Swupdate.Verdict
import SummitUsbgadget.DfuFunction.Protocol
import SummitUsbgadget.DfuFunction.Handler
import SummitUsbgadget.DfuFunction.Spec
import SummitUsbgadget.DfuFunction.Step
import SummitUsbgadget.DfuFunction.Isolation
import SummitUsbgadget.DfuFunction.Fault
import SummitUsbgadget.DfuFunction.Receive
import SummitUsbgadget.DfuFunction.Download
import SummitUsbgadget.Fastboot.Proto
import SummitUsbgadget.FastbootUsb.State
import SummitUsbgadget.FastbootUsb.Commands
import SummitUsbgadget.FastbootUsb.Serve
import SummitUsbgadget.FastbootUsb.Spec
import SummitUsbgadget.FastbootUsb.DataPhase
import SummitUsbgadget.FastbootUsb.Boundary
import SummitUsbgadget.FastbootUsb.Cancel
import SummitUsbgadget.FastbootUsb.Finish
import SummitUsbgadget.FastbootUsb.Link
import SummitUsbgadget.FastbootUsb.Enable
import SummitUsbgadget.FastbootUsb.Isolation
import SummitUsbgadget.FastbootTcp.Transport
import SummitUsbgadget.FastbootTcp.Session
import SummitUsbgadget.FastbootTcp.Stream
import SummitUsbgadget.FastbootTcp.Sender
import SummitUsbgadget.Fastboot.EarlySuccess
import SummitUsbgadget.FastbootUsb.Refinement
import SummitUsbgadget.Swupdate.Once
import SummitUsbgadget.Swupdate.Restart
import SummitUsbgadget.Lib.Fifo
import SummitUsbgadget.Lib.Text
import SummitUsbgadget.Lib.Numeral
import SummitUsbgadget.Swupdate.Stream
import SummitUsbgadget.Swupdate.Pipeline
import SummitUsbgadget.Swupdate.Ipc
import SummitUsbgadget.SocketUpdate.Serve
import SummitUsbgadget.FastbootTcp.Wire
import SummitUsbgadget.FastbootTcp.Teardown
import SummitUsbgadget.Fastboot.Device
import SummitUsbgadget.FastbootTcp.Requests
import SummitUsbgadget.FastbootUsb.Outside
import SummitUsbgadget.FastbootUsb.Requests
import SummitUsbgadget.Fastboot.Agreement
import SummitUsbgadget.Fastboot.Header
import SummitUsbgadget.FastbootTcp.Header
import SummitUsbgadget.SwupdateIpc.Codec
import SummitUsbgadget.DfuFunction.Upload
import SummitUsbgadget.FastbootTcp.Frames
import SummitUsbgadget.DfuFunction.Ledger
import SummitUsbgadget.SwupdateIpc.InstallResult
import SummitUsbgadget.SwupdateIpc.Progress
import SummitUsbgadget.SwupdateIpc.Pieces
import SummitUsbgadget.UsbGadget.Server
import SummitUsbgadget.UsbGadget.Bookkeeping
import SummitUsbgadget.UsbGadget.Coverage
import SummitUsbgadget.Lib.Saturating
import SummitUsbgadget.SwupdateIpc.Percent
import SummitUsbgadget.FastbootTcp.Framing
import SummitUsbgadget.Fastboot.Tail
import SummitUsbgadget.SwupdateIpc.AsyncInstall
import SummitUsbgadget.Lib.Search
import SummitUsbgadget.Lib.Positions
import SummitUsbgadget.Lib.Lossy
import SummitUsbgadget.SwupdateIpc.HeaderLayout
import SummitUsbgadget.UsbGadget.Config
import SummitUsbgadget.UsbGadget.Fallback
import SummitUsbgadget.UsbGadget.Build
import SummitUsbgadget.UsbGadget.Debris
import SummitUsbgadget.Swupdate.Growth
import SummitUsbgadget.DfuFunction.Device
import SummitUsbgadget.DfuFunction.Buffering
import SummitUsbgadget.Lib.Zoom
import SummitUsbgadget.Lib.BytesMut
import SummitUsbgadget.FastbootUsb.Buffers
import SummitUsbgadget.FastbootUsb.Reads
import SummitUsbgadget.Lib.Keyed
import SummitUsbgadget.Aio.Driver
import SummitUsbgadget.Aio.Books
import SummitUsbgadget.Aio.Accounts
import SummitUsbgadget.Aio.Wakeups
import SummitUsbgadget.Swupdate.Serving
import SummitUsbgadget.DfuFunction.Refinement
import SummitUsbgadget.DfuFunction.EndToEnd
import SummitUsbgadget.FunctionFs.Ep0
import SummitUsbgadget.FunctionFs.Kernel
import SummitUsbgadget.FunctionFs.Serve
import SummitUsbgadget.DfuFunction.Served
import SummitUsbgadget.FastbootUsb.Control
import SummitUsbgadget.Lib.Wire
import SummitUsbgadget.Lib.Columns
import SummitUsbgadget.FunctionFs.Descriptors
import SummitUsbgadget.FunctionFs.Builder
import SummitUsbgadget.FunctionFs.Layout
import SummitUsbgadget.DfuFunction.Descriptor
import SummitUsbgadget.Lib.LinkTree
import SummitUsbgadget.UsbGadget.Removal
import SummitUsbgadget.UsbGadget.Placement
import SummitUsbgadget.UsbGadget.Teardown
import SummitUsbgadget.UsbGadget.Lifetime
