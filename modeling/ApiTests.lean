import ApiTests.Py.Text
import ApiTests.Py.Re
import ApiTests.Credentials.File
import ApiTests.Py.Dict
import ApiTests.Credentials.Codec
import ApiTests.Config
import ApiTests.Credentials.Operation
import ApiTests.Credentials.Local
import ApiTests.Credentials.Disposable
import ApiTests.Credentials.Session
import ApiTests.Credentials.Provenance
import ApiTests.Credentials.Binding
import ApiTests.Credentials.Slots
import ApiTests.Auth.Browser
import ApiTests.Auth.Protocol
import ApiTests.Credentials.Concurrent
import ApiTests.Py.Url
import ApiTests.Spacing
import ApiTests.Client.RatePolicy
import ApiTests.Client.Pacing
import ApiTests.Py.Json
import ApiTests.Py.Unicode
import ApiTests.Py.Utf8
import ApiTests.Logging.RedactText
import ApiTests.Logging.RedactBody
import ApiTests.Logging.Address
import ApiTests.Logging.EmailMatch
import ApiTests.Logging.RedactedAddress
import ApiTests.Py.Checks
import ApiTests.Py.JsonEqual
import ApiTests.OpenApi.Document
import ApiTests.OpenApi.Drift
import ApiTests.OpenApi.DriftExact
import ApiTests.OpenApi.References
import ApiTests.Coverage.Forbidden
import ApiTests.Py.Sorted
import ApiTests.Coverage.Inventory
import ApiTests.Py.Yaml
import ApiTests.Coverage.GatewayInventory
import ApiTests.Coverage.Markers
import ApiTests.Coverage.GatewayReport
import ApiTests.Coverage.MarkerAgreement
import ApiTests.Dependencies.Contract
import ApiTests.Dependencies.Installed
import ApiTests.Py.Program
import ApiTests.Py.JsonString
import ApiTests.Dependencies.Bootstrap
import ApiTests.Dependencies.ReadinessMarker
import ApiTests.Evidence.Packages
import ApiTests.Evidence.RedactText
import ApiTests.Evidence.Reports
import ApiTests.Evidence.Tree
import ApiTests.Evidence.Generate
import ApiTests.Evidence.Completed
import ApiTests.Py.ReLocal
import ApiTests.Evidence.Assignment
import ApiTests.Evidence.Credential
import ApiTests.Credentials.Persisted
import ApiTests.Py.Counter
import ApiTests.Coverage.OperationCoverage
import ApiTests.Dependencies.Lock
import ApiTests.Py.Toml
import ApiTests.Evidence.Recorded
import ApiTests.Dependencies.Preparation
import ApiTests.Dependencies.Recovery
import ApiTests.Dependencies.HashedExport
import ApiTests.Evidence.ExportReaders
import ApiTests.Evidence.StableTree
import ApiTests.Py.Rearranged
import ApiTests.Py.Percent
import ApiTests.Py.Replace
import ApiTests.Supply
import ApiTests.Client.FlowObserver
import ApiTests.Client.CookieAssertions
import ApiTests.Config.Validation
import ApiTests.Config.SessionMode
import ApiTests.Credentials.VariableNames
import ApiTests.Coverage.InventoryGrammar
import ApiTests.Credentials.AtomicWrite
import ApiTests.Py.Template
import ApiTests.OpenApi.RequestCase
import ApiTests.Py.Pointer
import ApiTests.OpenApi.ResponseSchema
import ApiTests.Py.Query
import ApiTests.Logging.RedactUrl
import ApiTests.Auth.DisposableTarget
import ApiTests.Auth.AccountProtocol
import ApiTests.Auth.Ledger
import ApiTests.Py.JsonReader
import ApiTests.Py.JsonRoundTrip
import ApiTests.Py.JsonRead
import ApiTests.Py.JsonSorted
import ApiTests.OpenApi.Snapshot
import ApiTests.Py.JsonIntegers
import ApiTests.Coverage.Refresh
import ApiTests.Browser.Flow
import ApiTests.Browser.Trace
import ApiTests.Browser.Safety
import ApiTests.Coverage.Accepted
import ApiTests.Coverage.Exercised
import ApiTests.Coverage.GatewayContract
import ApiTests.Coverage.Manifests
import ApiTests.Py.Traced
import ApiTests.Runner.Gates
import ApiTests.Runner.LocalRunner
