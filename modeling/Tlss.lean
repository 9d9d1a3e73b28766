import Tlss.Monitor.SpoolFiles
import Tlss.Monitor.PublisherWait
import Tlss.Monitor.CollectorRun
import Tlss.Monitor.RecoveryOrder
import Tlss.Monitor.NoLoss
import Tlss.Monitor.AlarmBursts
import Tlss.Monitor.StreamChunks
import Tlss.Monitor.WireCanonical
import Tlss.Monitor.Policies
import Tlss.Monitor.CliLines
import Tlss.Monitor.CallbackWorker
import Tlss.Base.PoolFates
import Tlss.Base.PoolWakeups
import Tlss.Base.DbPoolShutdown
import Tlss.Net.WriteStream
import Tlss.Net.WriteAccounts
import Tlss.Net.EventLoopThread
import Tlss.Net.EventLoop
import Tlss.Net.Buffer
import Tlss.Memory.ParallelCopy
import Tlss.Cache.FrequencyOrder
import Tlss.Ftp.ResponseFraming
import Tlss.Ftp.UploadBody
import Tlss.Ftp.DiskRelease
import Tlss.Ftp.ReadLiveness
import Tlss.Ftp.LoginSafety
import Tlss.Ftp.PathIntegrity
import Tlss.Ftp.UserIsolation
import Tlss.Ftp.CommandFraming
import Tlss.Ftp.TransferMetrics
import Tlss.Ftp.TransferRequests
import Tlss.Ftp.CloseDecision
