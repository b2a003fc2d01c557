import DeviceGrant.CommandLine
import DeviceGrant.Deployment
import DeviceGrant.Main
import DeviceGrant.Proofs.Store.Pairing
import DeviceGrant.Proofs.Clock
import DeviceGrant.Proofs.Store.Run
import DeviceGrant.Proofs.Store.History
import DeviceGrant.Proofs.Authorization
import DeviceGrant.Proofs.Registry
import DeviceGrant.Proofs.Validator
import DeviceGrant.Proofs.Json.RoundTrip
import DeviceGrant.Proofs.Record
import DeviceGrant.Proofs.Store.Commands
import DeviceGrant.Proofs.Store.Encoding
import DeviceGrant.Proofs.Store.Backends
import DeviceGrant.Proofs.Store.KeySpace
import DeviceGrant.Proofs.Authorised
import DeviceGrant.Proofs.Interleaving
import DeviceGrant.Proofs.Registry.Entries
import DeviceGrant.Proofs.Store.Retention
import DeviceGrant.Proofs.Mask
import DeviceGrant.Proofs.IssuanceLog
import DeviceGrant.Proofs.Lifetime
import DeviceGrant.Proofs.Registry.Snapshot
import DeviceGrant.Proofs.Text.Trimmed
import DeviceGrant.Proofs.Override
import DeviceGrant.Proofs.Settings
import DeviceGrant.Proofs.Answer
import DeviceGrant.Proofs.Store.Sweeps
import DeviceGrant.Proofs.Decision
import DeviceGrant.Proofs.Store.Patterns
import DeviceGrant.Proofs.Store.Reclaim
import DeviceGrant.Proofs.WebAddress
import DeviceGrant.Proofs.PlainAddress
import DeviceGrant.Proofs.IntervalLanguage
import DeviceGrant.Proofs.Registry.Scopes
import DeviceGrant.Proofs.Store.Commuting
import DeviceGrant.Proofs.Code
import DeviceGrant.Proofs.Caller
import DeviceGrant.Proofs.DerivedAddress
