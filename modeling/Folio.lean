import Folio.ArticleStore
import Folio.Fault.Arguments
import Folio.Http.Service
import Folio.Json.Writer
import Folio.JsonSchema.FieldReference
import Folio.JsonSchema.QueryParameters
import Folio.Proofs.RoundTrip
import Folio.Registry
import Folio.Proofs.Listing
import Folio.Proofs.RegistryHistory
import Folio.Proofs.Resolvable
import Folio.Proofs.RefusedParameter
import Folio.Proofs.JsonSchema.Reference
import Folio.Proofs.JsonSchema.DefinitionKey
import Folio.Proofs.JsonSchema.QueryParameters
import Folio.Proofs.Http.ArticleListing
import Folio.Proofs.Http.NewArticle
import Folio.Proofs.ArticleStore
import Folio.Proofs.Http.StoreHistory
import Folio.Proofs.Arrangement
import Folio.Proofs.StoreReplay
import Folio.Proofs.Search
import Folio.Proofs.Settings
import Folio.Proofs.PageBounds
import Folio.Proofs.Conflict
import Folio.Proofs.CreationTime
import Folio.Proofs.SingleParameter
import Folio.Proofs.OrderDecoding
import Folio.Proofs.OrderableField
import Folio.Proofs.Binary64.Nearest
import Folio.Proofs.Binary64.Range
import Folio.Proofs.PageCount
import Folio.Proofs.Calendar
import Folio.Proofs.LocalTime
import Folio.Proofs.Article
import Folio.Proofs.Chronology
import Folio.Proofs.Http.Reprint
import Folio.Proofs.InsertionOrder
import Folio.Proofs.JsonSchema.Reachable
import Folio.Proofs.JsonSchema.FirstFailure
import Folio.Proofs.JsonSchema.Inlining
import Folio.Proofs.CapitalizedName
import Folio.Proofs.ParameterNames
import Folio.Proofs.DerivedSchema
import Folio.Proofs.SettingsHistory
