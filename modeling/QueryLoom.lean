import QueryLoom.Main
import QueryLoom.Session.Runner
import QueryLoom.BulkCopy
import QueryLoom.Query.Build
import QueryLoom.Proofs.ParameterNames
import QueryLoom.Proofs.StatementRuns
import QueryLoom.Proofs.IssuedBindings
import QueryLoom.Proofs.StatementBindings
import QueryLoom.Proofs.Batching
import QueryLoom.Proofs.FaithfulBinding
import QueryLoom.Proofs.UnwrittenBindings
import QueryLoom.Proofs.TransactionProtocol
import QueryLoom.Proofs.SearchConditions
import QueryLoom.Proofs.ConjoinedConditions
import QueryLoom.Proofs.CombinedBranches
import QueryLoom.Proofs.SetOperationChains
import QueryLoom.Proofs.CombinedProjections
import QueryLoom.Proofs.BatchNumbering
import QueryLoom.Proofs.Renumbering
import QueryLoom.Proofs.Correspondence
import QueryLoom.Proofs.ShiftedCompilation
import QueryLoom.Proofs.ShiftedCommands
import QueryLoom.Proofs.RenamedParameters
import QueryLoom.Proofs.BatchedCompilation
import QueryLoom.Proofs.BatchPartition
import QueryLoom.Proofs.Outlines
import QueryLoom.Proofs.OutlinedCompilation
import QueryLoom.Proofs.OutlinedStatements
import QueryLoom.Proofs.JoinScopes
import QueryLoom.Proofs.SelectBindings
import QueryLoom.Proofs.StatementTemplates
import QueryLoom.Proofs.Traversals
import QueryLoom.Proofs.RecordedTraversals
import QueryLoom.Proofs.ChosenForms
import QueryLoom.Proofs.DerivedTables
import QueryLoom.Proofs.ExposedColumns
import QueryLoom.Proofs.ExposedSources
import QueryLoom.Proofs.SplitTables
import QueryLoom.Proofs.NoticedTraversals
import QueryLoom.Proofs.LayeredRows
import QueryLoom.Proofs.RowCaps
import QueryLoom.Proofs.Reprojections
import QueryLoom.Proofs.SelectionRows
import QueryLoom.Proofs.CappedRows
import QueryLoom.Proofs.JsonForms
import QueryLoom.Proofs.CalendarText
import QueryLoom.Proofs.UuidText
import QueryLoom.Proofs.QueryForms
import QueryLoom.Proofs.EncodedForms
import QueryLoom.Proofs.CommandForms
import QueryLoom.Proofs.LosslessJson
import QueryLoom.Proofs.Rollbacks
import QueryLoom.Proofs.UpperCasing
import QueryLoom.Proofs.QuotedTables
import QueryLoom.Proofs.BoundQueries
import QueryLoom.Proofs.AliasColumns
import QueryLoom.Proofs.LevelColumns
import QueryLoom.Proofs.RootColumns
import QueryLoom.Proofs.CountedRows
import QueryLoom.Proofs.RefusedCommands
import QueryLoom.Proofs.TraversedTables
import QueryLoom.Proofs.UpdateSources
import QueryLoom.Proofs.BindingCounts
import QueryLoom.Proofs.InsertedRows
import QueryLoom.Proofs.OrderedParameters
import QueryLoom.Proofs.PageWindows
import QueryLoom.Proofs.StableIdentifiers
import QueryLoom.Proofs.Conjunctions
import QueryLoom.Proofs.BoundOctets
import QueryLoom.Proofs.LiteralPaths
