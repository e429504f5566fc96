import GitvTime.Guarantees.Realtime.LiveCounters
import GitvTime.Guarantees.Realtime.LiveSessions
import GitvTime.Guarantees.Realtime.Serialisability
import GitvTime.Guarantees.Realtime.TtlPyPayments
import GitvTime.Guarantees.Realtime.VodReplay
import GitvTime.Guarantees.Viscosity.RowCounts
import GitvTime.Guarantees.Viscosity.Top100
import GitvTime.Guarantees.Launcher.Lines
import GitvTime.Guarantees.Launcher.Sanitising
import GitvTime.Guarantees.Launcher.ExpandedLines
import GitvTime.Guarantees.Launcher.IdentifiedDevices
import GitvTime.Guarantees.UserInfo.PartnerList
import GitvTime.Guarantees.Hdfs.OpenFiles
import GitvTime.Guarantees.Hdfs.AckedTuples
import GitvTime.Guarantees.UserInfo.OpenTimes
import GitvTime.Guarantees.UserInfo.MysqlSync
import GitvTime.Guarantees.Viscosity.Acknowledgement
import GitvTime.Guarantees.Viscosity.AlbumTotals
import GitvTime.Guarantees.Viscosity.OddLines
import GitvTime.Guarantees.Realtime.OrderFreeCounting
import GitvTime.Guarantees.Realtime.FlushRetry
import GitvTime.Guarantees.Realtime.SessionAgreement
import GitvTime.Guarantees.Launcher.Answers
import GitvTime.Guarantees.UserInfo.MacQueue
import GitvTime.Guarantees.UserInfo.AppVersion
import GitvTime.Guarantees.PartnerToProvince
import GitvTime.Guarantees.Realtime.TtlPyCounters
import GitvTime.Guarantees.Hdfs.TtlSweep
import GitvTime.Guarantees.Launcher.ApkParsing
import GitvTime.Guarantees.Realtime.StoredKeys
import GitvTime.Guarantees.Viscosity.ReduceOrder
import GitvTime.Guarantees.Viscosity.DuplicateAlbums
import GitvTime.Guarantees.UserInfo.NothingErased
import GitvTime.Guarantees.UserInfo.ConsumerStart
import GitvTime.Guarantees.UserInfo.CqlLiterals
import GitvTime.Guarantees.Viscosity.BoundRows
import GitvTime.Guarantees.Hdfs.ExactlyOnce
import GitvTime.Guarantees.Hdfs.TornRecovery
import GitvTime.Guarantees.Hdfs.StuckSpout
import GitvTime.Guarantees.Hdfs.LockEntries
import GitvTime.Guarantees.Rpc.LostCalls
import GitvTime.Guarantees.Rpc.LoadedHandler
