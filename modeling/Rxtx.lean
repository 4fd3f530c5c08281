import Rxtx.CommDriver.Initialize
import Rxtx.CommDriver.PrefixValid
import Rxtx.LPRPort.CloseDescriptor
import Rxtx.LPRPort.InputOrder
import Rxtx.LPRPort.MonitorThreads
import Rxtx.LPRPort.ReadArray
import Rxtx.LPRPort.WriteArray
import Rxtx.RXTXPort.CloseOnce
import Rxtx.RXTXPort.CloseOvertakes
import Rxtx.RXTXPort.EventPointer
import Rxtx.RXTXPort.FlowMode
import Rxtx.RXTXPort.InputOrder
import Rxtx.RXTXPort.ListenerLife
import Rxtx.RXTXPort.MonitorLock
import Rxtx.RXTXPort.OutputOrder
import Rxtx.RXTXPort.PortSettings
import Rxtx.RXTXPort.ReadDelivers
import Rxtx.RXTXPort.ReceiveTimeout
import Rxtx.RXTXPort.SendEvent
import Rxtx.RXTXPort.StreamCalls
import Rxtx.RXTXPort.WritePassing
import Rxtx.SerialImp.DataAvailable
import Rxtx.SerialImp.EventDelivery
import Rxtx.SerialImp.EventList
import Rxtx.SerialImp.InterruptLoop
import Rxtx.SerialImp.LineParams
import Rxtx.SerialImp.LineSetters
import Rxtx.SerialImp.LockProtocol
import Rxtx.SerialImp.LockRoundTrip
import Rxtx.SerialImp.NameScan
import Rxtx.SerialImp.OpenClose
import Rxtx.SerialImp.OutputEmpty
import Rxtx.SerialImp.ParityDecoders
import Rxtx.SerialImp.PortSettings
import Rxtx.SerialImp.PreopenedMap
import Rxtx.SerialImp.ReadTerminated
import Rxtx.SerialImp.SetPortParams
import Rxtx.SerialImp.TestRead
import Rxtx.SerialImp.UucpLock
import Rxtx.SerialImp.UucpProtocol
import Rxtx.SerialImp.WriteArray
import Rxtx.SerialImp.WriteMarks
import Rxtx.Win32.AtomicSettings
import Rxtx.Win32.Descriptors
import Rxtx.Win32.EventMask
import Rxtx.Win32.InputOrder
import Rxtx.Win32.ModemLines
import Rxtx.Win32.OutputEmpty
import Rxtx.Win32.ReceiveErrors
import Rxtx.Win32.RoundTrip
import Rxtx.Win32.SerialRead
import Rxtx.Win32.TableShape
import Rxtx.WinCE.HandOff
import Rxtx.WinCE.LineSettings
import Rxtx.WinCE.LoopLife
import Rxtx.WinCE.Open
import Rxtx.WinCE.ReadArray
import Rxtx.WinCE.SerialParams
import Rxtx.WinCE.WriteArray
