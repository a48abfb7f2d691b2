import KernelDrivers.Bpf.Ksyms
import KernelDrivers.Bpf.Vmexit
import KernelDrivers.Debugfs.Showtask
import KernelDrivers.Genetlink.Dispatch
import KernelDrivers.Genetlink.Message
import KernelDrivers.Genetlink.RoundTrip
import KernelDrivers.Genetlink.Safety
import KernelDrivers.Genetlink.Selection
import KernelDrivers.Input.Mouse
import KernelDrivers.Lcd.Extent
import KernelDrivers.Lcd.Fill
import KernelDrivers.Library.Dns
import KernelDrivers.Library.ForLoop
import KernelDrivers.Library.FullRead
import KernelDrivers.Library.Pairing
import KernelDrivers.Library.Program
import KernelDrivers.Library.Raster
import KernelDrivers.Library.RegisterFile
import KernelDrivers.Library.Ring
import KernelDrivers.Library.Scaling
import KernelDrivers.Library.Sections
import KernelDrivers.Library.Split
import KernelDrivers.Library.Transactions
import KernelDrivers.Library.Transition
import KernelDrivers.Pwm.Backlight
import KernelDrivers.Pwm.Duty
import KernelDrivers.Regulator.Act8846
import KernelDrivers.Regulator.Act8846Mode
import KernelDrivers.Regulator.Act8846Voltage
import KernelDrivers.Regulator.Rk818
import KernelDrivers.Regulator.Rk818Bus
import KernelDrivers.Regulator.Rk818Frame
import KernelDrivers.Regulator.Rk818Irq
import KernelDrivers.Regulator.Rk818Reject
import KernelDrivers.Regulator.Rk818Switch
import KernelDrivers.Regulator.Rk818Voltage
import KernelDrivers.Regulator.TableReads
import KernelDrivers.Rockusb.Acceptance
import KernelDrivers.Rockusb.BlockStore
import KernelDrivers.Rockusb.Bounds
import KernelDrivers.Rockusb.Cache
import KernelDrivers.Rockusb.Dispatch
import KernelDrivers.Rockusb.Host
import KernelDrivers.Rockusb.Iteration
import KernelDrivers.Rockusb.Lock
import KernelDrivers.Rockusb.Loop
import KernelDrivers.Rockusb.MediaRead
import KernelDrivers.Rockusb.Ownership
import KernelDrivers.Rockusb.Protocol
import KernelDrivers.Rockusb.ReadAhead
import KernelDrivers.Rockusb.ReadCommand
import KernelDrivers.Rockusb.ReadRun
import KernelDrivers.Rockusb.Reading
import KernelDrivers.Rockusb.Residue
import KernelDrivers.Rockusb.Rounds
import KernelDrivers.Rockusb.Session
import KernelDrivers.Rockusb.Status
import KernelDrivers.Rockusb.Storing
import KernelDrivers.Rockusb.WriteCommand
import KernelDrivers.Rockusb.WriteOnce
import KernelDrivers.Rockusb.WriteRun
import KernelDrivers.Serial.Access
import KernelDrivers.Serial.SpiBus
import KernelDrivers.Serial.Transmit
import KernelDrivers.Serial.Wk2xxx
import KernelDrivers.Serial.Work
import KernelDrivers.Sound.Agreement
import KernelDrivers.Sound.Clock
import KernelDrivers.Sound.CodecFields
import KernelDrivers.Sound.Dividers
import KernelDrivers.Sound.Es8316
import KernelDrivers.Sound.Es8316Frame
import KernelDrivers.Sound.Es8316Link
import KernelDrivers.Sound.Es8316Params
import KernelDrivers.Sound.Es8316Power
import KernelDrivers.Sound.I2s
import KernelDrivers.Sound.RegisterCache
import KernelDrivers.Sound.SetFmt
import KernelDrivers.Sound.Speaker
import KernelDrivers.Sound.StreamParams
import KernelDrivers.Sound.Trigger
import KernelDrivers.Uart.Blocking
import KernelDrivers.Uart.Count
import KernelDrivers.Uart.Record
import KernelDrivers.Uart.Words
import KernelDrivers.Xconnect.Hostile
import KernelDrivers.Xconnect.Name2ip
import KernelDrivers.Xconnect.Query
import KernelDrivers.Xconnect.QueryBounds
import KernelDrivers.Xconnect.Resolv
import KernelDrivers.Xconnect.Response
import KernelDrivers.Xconnect.Connect
import KernelDrivers.Xconnect.Dotted
import KernelDrivers.Genetlink.Exchange
import KernelDrivers.Genetlink.Programs
import KernelDrivers.Deferred.IrqWork
import KernelDrivers.Deferred.TimerWorkq
import KernelDrivers.Deferred.WaitEvent
import KernelDrivers.Debugfs.SeqTest
import KernelDrivers.Pwm.Panel
import KernelDrivers.Spi.M25p80
import KernelDrivers.Uart.LoopTest
import KernelDrivers.Input.MouseLifetime
import KernelDrivers.Library.Purge
import KernelDrivers.Regulator.Act8846Requests
import KernelDrivers.Regulator.Rk818Isolation
