import SqlComposer.Main
import SqlComposer.Statement.Operation
import SqlComposer.Proofs.OrderedMap
import SqlComposer.Proofs.Recording
import SqlComposer.Proofs.Effect
import SqlComposer.Proofs.OrScope
import SqlComposer.Proofs.Reachability
import SqlComposer.Proofs.Aliases
import SqlComposer.Proofs.ScopeTree
import SqlComposer.Proofs.ScopeFrames
import SqlComposer.Proofs.ScopeRun
import SqlComposer.Proofs.Schema
import SqlComposer.Proofs.Consistency
import SqlComposer.Proofs.Ordering
import SqlComposer.Proofs.SelectList
import SqlComposer.Proofs.Composition
import SqlComposer.Proofs.Rendering
import SqlComposer.Proofs.Forest
import SqlComposer.Proofs.Nesting
import SqlComposer.Proofs.Stripping
import SqlComposer.Proofs.Figures
import SqlComposer.Proofs.Operand
import SqlComposer.Proofs.Unqualified
import SqlComposer.Proofs.DirectForm
import SqlComposer.Proofs.Parts
import SqlComposer.Proofs.Quotation
import SqlComposer.Proofs.Affixes
import SqlComposer.Proofs.Window
import SqlComposer.Proofs.Token
import SqlComposer.Proofs.Resolution
import SqlComposer.Proofs.History
import SqlComposer.Proofs.Listing
import SqlComposer.Proofs.Replacement
import SqlComposer.Proofs.Gaps
import SqlComposer.Proofs.Filling
import SqlComposer.Proofs.Carrying
import SqlComposer.Proofs.Coupling
import SqlComposer.Proofs.Alongside
import SqlComposer.Proofs.Comparison
import SqlComposer.Proofs.HashFree
import SqlComposer.Proofs.HashFreeRun
import SqlComposer.Proofs.Sections
import SqlComposer.Proofs.HashFreeSelect
import SqlComposer.Proofs.Substitution
import SqlComposer.Proofs.TemplatePath
import SqlComposer.Proofs.EarlyCondition
import SqlComposer.Proofs.Exchange
import SqlComposer.Proofs.ExchangedParts
import SqlComposer.Proofs.CoupledRendering
import SqlComposer.Proofs.Interference
import SqlComposer.Proofs.UnionWindow
import SqlComposer.Proofs.Aggregate
import SqlComposer.Proofs.DeclaredAliases
import SqlComposer.Proofs.RowFilter
import SqlComposer.Proofs.FetchRange
import SqlComposer.Proofs.Pages
import SqlComposer.Proofs.PageHistory
import SqlComposer.Proofs.JoinTree
import SqlComposer.Proofs.FromScope
import SqlComposer.Proofs.NestedAliases
import SqlComposer.Proofs.OutsideScope
import SqlComposer.Proofs.PendingConditions
import SqlComposer.Proofs.HeldClauses
import SqlComposer.Proofs.Restrictions
import SqlComposer.Proofs.Membership
import SqlComposer.Proofs.ScopeGrowth
import SqlComposer.Proofs.ListComparison
import SqlComposer.Proofs.LockScope
import SqlComposer.Proofs.Scanning
import SqlComposer.Proofs.TidyClauses
import SqlComposer.Proofs.TidyTemplate
import SqlComposer.Proofs.TidyRun
import SqlComposer.Proofs.SelectTexts
import SqlComposer.Proofs.ClosedStatement
import SqlComposer.Proofs.LiteralReading
import SqlComposer.Proofs.PatternMatching
import SqlComposer.Proofs.LikePredicate
import SqlComposer.Proofs.IgnoredCase
import SqlComposer.Proofs.SchemaHistory
import SqlComposer.Proofs.JoinAcceptance
import SqlComposer.Proofs.LoadingOrder
import SqlComposer.Proofs.ConditionTemplate
import SqlComposer.Proofs.Markless
import SqlComposer.Proofs.ChangedRows
import SqlComposer.Proofs.ConditionAcceptance
import SqlComposer.Proofs.OperandReading
import SqlComposer.Proofs.OrderReading
import SqlComposer.Proofs.OrderMeaning
import SqlComposer.Proofs.FileBuilding
import SqlComposer.Proofs.FileJoins
import SqlComposer.Proofs.FileConditions
import SqlComposer.Proofs.FileScopes
import SqlComposer.Proofs.FileStatement
import SqlComposer.Proofs.JoinNesting
import SqlComposer.Proofs.TemporalOrder
import SqlComposer.Proofs.FileFetch
import SqlComposer.Proofs.FileRun
import SqlComposer.Proofs.BranchScope
