import Possum.Lib.Run
import Possum.Lib.Store
import Possum.Lib.Overlay
import Possum.Lib.Stack
import Possum.Ata.Card
import Possum.Ata.CardBus
import Possum.Ata.Access
import Possum.Ata.Drives
import Possum.Ata.Command
import Possum.Ata.Transfer
import Possum.Ata.Refinement
import Possum.Ata.Invariant
import Possum.Ata.Sectors
import Possum.Ata.Safety
import Possum.Bus
import Possum.Cpu.Registers
import Possum.Cpu.Alu
import Possum.Cpu.Methods
import Possum.Cpu.BitTables
import Possum.Cpu.Tables
import Possum.Cpu.Decode
import Possum.Cpu.Control
import Possum.Cpu.Line
import Possum.Cpu.Branch
import Possum.Cpu.Interrupts
import Possum.Cpu.Transparency
import Possum.Cpu.Termination
import Possum.Cpu.Exchange
import Possum.Cpu.IndexPages
import Possum.Cpu.Bits
import Possum.Cpu.Stack
import Possum.Lib.Overflow
import Possum.Vdc.Chip
import Possum.Vdc.Tick
import Possum.Vdc.Ports
import Possum.Vdc.Frame
import Possum.Vdc.RegisterFile
import Possum.Vdc.Geometry
import Possum.Vdc.Panics
import Possum.Lib.Scan
import Possum.Vdc.Raster
import Possum.Sys.Memory
import Possum.Sys.View
import Possum.Sys.Banks
import Possum.Cpu.BlockPort
import Possum.Sys.BlockIo
import Possum.Ser.Streams
import Possum.Cpu.Operands
import Possum.Lib.CarryChain
import Possum.Cpu.Multiprecision
import Possum.Cpu.BlockCopy
import Possum.Cpu.BlockSearch
import Possum.Cpu.BlockTiming
import Possum.Dma.Chip
import Possum.Dma.Ports
import Possum.Dma.Transfer
import Possum.Dma.Shown
import Possum.Dma.Program
import Possum.Dma.Histories
import Possum.Lib.Paint
import Possum.Vdc.Picture
import Possum.Cpu.Decimal
import Possum.Cpu.Order
import Possum.Cpu.ComputedJump
import Possum.Cpu.Shadow
import Possum.Cpu.Wz
import Possum.Sys.PortMap
import Possum.Vdc.Scanline
import Possum.Vdc.Text
import Possum.Vdc.Attributes
import Possum.Vdc.Rows
import Possum.Ser.Dlab
import Possum.Dma.Parameters
import Possum.Dma.Framing
import Possum.Dma.Control
import Possum.Dma.Interrupts
import Possum.Dma.Block
import Possum.Dma.Search
import Possum.Vdc.Timing
import Possum.Vdc.Vblank
import Possum.Lib.Cursor
import Possum.Vdc.Streaming
import Possum.Dma.ReadBack
import Possum.Dma.Queues
import Possum.Vdc.Modes
import Possum.Cpu.Effects
import Possum.Cpu.Simulation
import Possum.Sys.Devices
import Possum.Lib.Leads
import Possum.Sys.Board
import Possum.Sys.Boot
import Possum.Sys.Keyboard
import Possum.Software.Program
import Possum.Software.Print
import Possum.Software.Hello
import Possum.Software.Calls
import Possum.Software.Disk
import Possum.Software.HelloHd
import Possum.Software.Subroutines
