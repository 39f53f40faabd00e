import ConfigService.Json.Build
import ConfigService.Service.Handle
import ConfigService.Settings.VariableFile
import ConfigService.Store.Call
import ConfigService.Proofs.Json.Numeral
import ConfigService.Proofs.Json.Lawful
import ConfigService.Proofs.Json.Order
import ConfigService.Proofs.Json.Containers
import ConfigService.Proofs.Timestamp.Text
import ConfigService.Proofs.Json.RoundTrip
import ConfigService.Proofs.Json.Canonical
import ConfigService.Proofs.Json.Record
import ConfigService.Proofs.Json.Scalar
import ConfigService.Proofs.Config.Document
import ConfigService.Proofs.Config.Update
import ConfigService.Proofs.Store.Access
import ConfigService.Store.Traffic
import ConfigService.Proofs.Store.Traffic
import ConfigService.Proofs.Store.Consistency
import ConfigService.Proofs.Service.Handle
import ConfigService.Proofs.Service.Sequence
import ConfigService.Proofs.Store.Repository
import ConfigService.Payload.Parts
import ConfigService.Proofs.Payload.Lower
import ConfigService.Proofs.Timestamp.Source
import ConfigService.Proofs.Payload.Writable
import ConfigService.Payload.Direct
import ConfigService.Proofs.Payload.Direct
import ConfigService.Proofs.Timestamp.Conversion
import ConfigService.Proofs.Payload.Handed
import ConfigService.Proofs.Html.Page
import ConfigService.Proofs.Config.Acceptance
import ConfigService.Proofs.Timestamp.Language
import ConfigService.Json.Reordered
import ConfigService.Proofs.Json.Reordered
import ConfigService.Timestamp.Spelling
import ConfigService.Proofs.Text.Order
import ConfigService.Distinct
import ConfigService.Proofs.Distinct
import ConfigService.Proofs.Timestamp.Order
import ConfigService.Html.ScriptData
import ConfigService.Proofs.Html.ScriptData
import ConfigService.Config.Edit
import ConfigService.Proofs.Config.Edit
import ConfigService.Store.Storage
import ConfigService.Proofs.Store.Storage
import ConfigService.Html.Reference
import ConfigService.Html.Link
import ConfigService.Proofs.Html.Link
import ConfigService.Settings.Setting
import ConfigService.Proofs.Settings.Value
import ConfigService.Proofs.Settings.Naming
import ConfigService.Proofs.Settings.Variables
import ConfigService.Store.Course
import ConfigService.Proofs.Store.Course
import ConfigService.Proofs.Service.CacheDuration
