import SqlAccess.BlockingWork
import SqlAccess.Config.Load
import SqlAccess.Proofs.BoundParameters
import SqlAccess.Proofs.CloseFailures
import SqlAccess.Proofs.DatabaseLifecycle
import SqlAccess.Proofs.GeneratedColumns
import SqlAccess.Proofs.MarshalledColumn
import SqlAccess.Proofs.PageFetch
import SqlAccess.Proofs.PasswordSecrecy
import SqlAccess.Proofs.QueryAccounts
import SqlAccess.Proofs.ReadingStatements
import SqlAccess.Proofs.ResetQuery
import SqlAccess.Proofs.SearchPatterns
import SqlAccess.Proofs.SelectedProperties
import SqlAccess.Proofs.SqliteStorage
import SqlAccess.Proofs.TemplateSegments
import SqlAccess.Proofs.WireForm
import SqlAccess.Proofs.Tracing
import SqlAccess.Trace.Frames
import SqlAccess.Proofs.BindReplacement
import SqlAccess.Proofs.QueryCalls
import SqlAccess.Proofs.ClosedQuery
import SqlAccess.Proofs.EpochMillis
import SqlAccess.Proofs.WritingBack
import SqlAccess.Proofs.IntegerColumns
import SqlAccess.Proofs.LabelledRows
import SqlAccess.Proofs.TemplateSlots
import SqlAccess.Proofs.DatabaseLoading
import SqlAccess.Proofs.FlattenedTables
import SqlAccess.Proofs.ParameterOverrides
import SqlAccess.Proofs.BacktraceFrames
import SqlAccess.Proofs.SqlLiterals
import SqlAccess.Proofs.TimestampLayouts
import SqlAccess.Proofs.ColumnHistory
import SqlAccess.Proofs.NameLists
