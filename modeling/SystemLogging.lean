import SystemLogging.Platform
import SystemLogging.CString
import SystemLogging.Interleaving
import SystemLogging.Liblog.LogdWriter
import SystemLogging.Liblog.DroppedCounter
import SystemLogging.Liblog.LogdSocket
import SystemLogging.Liblog.LoggerWrite
import SystemLogging.Liblog.Globals
import SystemLogging.Liblog.WritePath
import SystemLogging.Logd.BugMap
import SystemLogging.Logd.AuditText
import SystemLogging.Logd.AuditRecords
import SystemLogging.Logd.LogPrint
import SystemLogging.Logd.Auditd
import SystemLogging.Logd.Main
import SystemLogging.Logpersist.Script
