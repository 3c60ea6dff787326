import FilterQuery.Compile.Document
import FilterQuery.Compile.Term
import FilterQuery.Filter.Expr.Parse
import FilterQuery.Results.Query
import FilterQuery.Declaration.Outline
import FilterQuery.Proofs.RoundTrip
import FilterQuery.Proofs.Merging
import FilterQuery.Proofs.Elements
import FilterQuery.Proofs.Folding
import FilterQuery.Proofs.SharedElements
import FilterQuery.Proofs.DocumentMeaning
import FilterQuery.Proofs.Compilable
import FilterQuery.Proofs.Swapping
import FilterQuery.Proofs.Reordering
import FilterQuery.Proofs.UnfitLiterals
import FilterQuery.Proofs.Validation
import FilterQuery.Proofs.Expressible
import FilterQuery.Proofs.FieldSpelling
import FilterQuery.Proofs.PrintedValues
import FilterQuery.Proofs.DocumentTraces
import FilterQuery.Proofs.DocumentIdentity
import FilterQuery.Proofs.SchemaRoutes
import FilterQuery.Proofs.SchemaWalks
import FilterQuery.Proofs.TargetPaths
import FilterQuery.Proofs.CollectionIdentity
import FilterQuery.Proofs.DocumentScopes
import FilterQuery.Proofs.FieldHistory
import FilterQuery.Proofs.Paging
import FilterQuery.Proofs.StableSort
import FilterQuery.Proofs.FilterAndSort
import FilterQuery.Proofs.IgnoringCase
import FilterQuery.Proofs.FieldCheck
import FilterQuery.Proofs.RegistryHistory
import FilterQuery.Proofs.TokenTiling
import FilterQuery.Proofs.LongestSymbol
import FilterQuery.Proofs.EscapedValues
import FilterQuery.Proofs.Diagnosis
import FilterQuery.Proofs.Negation
import FilterQuery.Proofs.NumberOrder
import FilterQuery.Proofs.IntegerFilters
import FilterQuery.Proofs.TextTests
import FilterQuery.Proofs.OrderReading
import FilterQuery.Proofs.FlatClauses
import FilterQuery.Proofs.WildcardPatterns
import FilterQuery.Proofs.PrintedLiterals
import FilterQuery.Proofs.Lifting
import FilterQuery.Proofs.DefaultOffset
import FilterQuery.Proofs.ConstantNames
import FilterQuery.Proofs.WrittenSettings
import FilterQuery.Proofs.SpreadSettings
