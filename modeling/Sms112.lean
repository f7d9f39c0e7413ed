import Sms112.Model.Threads
import Sms112.Handler.Text
import Sms112.Handler.Outcome
import Sms112.Handler.Framing
import Sms112.Handler.Answer
import Sms112.Handler.Ledger
import Sms112.Handler.Locals
import Sms112.Requests.Pool
import Sms112.Connection.Served
import Sms112.Connection.Sockets
import Sms112.Connection.TcpFlag
import Sms112.Connection.SmppFlag
import Sms112.Connection.Stream
import Sms112.Report.Valid
import Sms112.Report.Escaping
import Sms112.Invite.Parts
import Sms112.Invite.Buffers
import Sms112.Dialog.Teardown
import Sms112.Dialog.Addressing
import Sms112.Dialog.Outcome
import Sms112.Exchange.Completed
import Sms112.Exchange.Agreement
import Sms112.Exchange.Layout
import Sms112.Timing.Deadline
import Sms112.Timing.Pace
import Sms112.Geodata.Extraction
import Sms112.Configuration.Loading
import Sms112.Session.Numbers
import Sms112.Service.Gateway
import Sms112.Shutdown.Stop
import Sms112.Dialogs.Settled
import Sms112.Curl.Session
import Sms112.Process.CleaningUp
import Sms112.Process.Stop
import Sms112.Process.Reports
