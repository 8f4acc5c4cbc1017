import Mctpd.Wire
import Mctpd.Codec
import Mctpd.EidPool
import Mctpd.CtrlTx
import Mctpd.Engine
import Mctpd.Engine.Bookkeeping
import Mctpd.Engine.Timer
import Mctpd.Engine.Correlation
import Mctpd.Engine.Liveness
import Mctpd.Engine.Dispatch
import Mctpd.Engine.Transmit
import Mctpd.Onboarding
import Mctpd.Fleet
import Mctpd.Fleet.Pool
import Mctpd.Daemon
import Mctpd.Conversation
import Mctpd.Binding
import Mctpd.PCIeDriver
