import TenantOnboarding.Arithmetic.Modular
import TenantOnboarding.Curve.Edwards
import TenantOnboarding.Curve.Multiple
import TenantOnboarding.Curve.Weierstrass
import TenantOnboarding.Digest.Hmac
import TenantOnboarding.Digest.Sha2
import TenantOnboarding.Email.Basic
import TenantOnboarding.Email.Literal
import TenantOnboarding.Failure.Basic
import TenantOnboarding.Failure.Database
import TenantOnboarding.Failure.Storage
import TenantOnboarding.Http.Cors
import TenantOnboarding.Http.JsonBody
import TenantOnboarding.Http.MediaType
import TenantOnboarding.Http.Message
import TenantOnboarding.Http.Target
import TenantOnboarding.Identity.Basic
import TenantOnboarding.Identity.Bearer
import TenantOnboarding.Identity.Google.Claims
import TenantOnboarding.Identity.Google.Keys
import TenantOnboarding.Identity.Google.Verifier
import TenantOnboarding.Identity.Refusal
import TenantOnboarding.Identity.TokenTable
import TenantOnboarding.Identity.Verifier
import TenantOnboarding.Idna.Composition
import TenantOnboarding.Idna.Direction
import TenantOnboarding.Idna.Domain
import TenantOnboarding.Idna.Joining
import TenantOnboarding.Idna.Punycode
import TenantOnboarding.Idna.Table.Composition
import TenantOnboarding.Idna.Table.Direction
import TenantOnboarding.Idna.Table.Joining
import TenantOnboarding.Idna.Table.Mapping
import TenantOnboarding.Instant
import TenantOnboarding.Json.Basic
import TenantOnboarding.Json.Coded
import TenantOnboarding.Json.Number
import TenantOnboarding.Json.Quoted
import TenantOnboarding.Json.Shape
import TenantOnboarding.Json.Skip
import TenantOnboarding.Json.Untyped
import TenantOnboarding.Json.Value
import TenantOnboarding.Main
import TenantOnboarding.Octets
import TenantOnboarding.Organization.Basic
import TenantOnboarding.Provisioning.Basic
import TenantOnboarding.Provisioning.Request
import TenantOnboarding.Provisioning.State
import TenantOnboarding.Rsa.Signature
import TenantOnboarding.Script
import TenantOnboarding.Server.Log
import TenantOnboarding.Server.Migration
import TenantOnboarding.Server.Start
import TenantOnboarding.Server.Visit
import TenantOnboarding.Service.Basic
import TenantOnboarding.Service.Router
import TenantOnboarding.Session
import TenantOnboarding.Settings.Assignment
import TenantOnboarding.Settings.Basic
import TenantOnboarding.Settings.File
import TenantOnboarding.Store.Basic
import TenantOnboarding.Store.Database
import TenantOnboarding.Store.Directory
import TenantOnboarding.Store.Fault
import TenantOnboarding.Store.Statement
import TenantOnboarding.Store.Tenancy
import TenantOnboarding.Text.Alphanumeric
import TenantOnboarding.Text.Base64
import TenantOnboarding.Text.Blank
import TenantOnboarding.Text.CharTable
import TenantOnboarding.Text.Numeral
import TenantOnboarding.Text.Utf8
import TenantOnboarding.Tls.Acceptor
import TenantOnboarding.Tls.Certificate
import TenantOnboarding.Tls.Der
import TenantOnboarding.Tls.Listener
import TenantOnboarding.Tls.Pem
import TenantOnboarding.Tls.PrivateKey
import TenantOnboarding.Token.Compact
import TenantOnboarding.Token.Header
import TenantOnboarding.Token.PublicKey
import TenantOnboarding.Token.Registered
import TenantOnboarding.Proofs.Script
import TenantOnboarding.Proofs.Store.Conversation
import TenantOnboarding.Proofs.Store.Transaction
import TenantOnboarding.Proofs.Provisioning.Creation
import TenantOnboarding.Proofs.Service.Requests
import TenantOnboarding.Proofs.Service.Runs
import TenantOnboarding.Proofs.Provisioning.Race
import TenantOnboarding.Proofs.Json.Grammar
import TenantOnboarding.Proofs.Json.Spelling
import TenantOnboarding.Proofs.Json.Numbers
import TenantOnboarding.Proofs.Json.Scalars
import TenantOnboarding.Proofs.Json.Values
import TenantOnboarding.Proofs.Json.Objects
import TenantOnboarding.Proofs.Json.Records
import TenantOnboarding.Proofs.Json.Skipping
import TenantOnboarding.Proofs.Json.Agreement
import TenantOnboarding.Proofs.Text.RoundTrip
import TenantOnboarding.Proofs.Text.Trimming
import TenantOnboarding.Proofs.Text.Cutting
import TenantOnboarding.Proofs.Email.Rule
import TenantOnboarding.Proofs.Provisioning.Examination
import TenantOnboarding.Proofs.Token.Parts
import TenantOnboarding.Proofs.Token.Headers
import TenantOnboarding.Proofs.Session.RoundTrip
import TenantOnboarding.Proofs.Session.Lifetime
import TenantOnboarding.Proofs.Session.Acceptance
import TenantOnboarding.Proofs.Service.Permanence
import TenantOnboarding.Proofs.Google.Calls
import TenantOnboarding.Proofs.Google.Acceptance
import TenantOnboarding.Proofs.Google.Cache
import TenantOnboarding.Proofs.Store.Likeness
import TenantOnboarding.Proofs.Service.Answers
import TenantOnboarding.Proofs.Service.Gate
import TenantOnboarding.Proofs.Service.Concealment
import TenantOnboarding.Proofs.Provisioning.Calm
import TenantOnboarding.Proofs.Provisioning.Rows
import TenantOnboarding.Proofs.Service.Isolation
import TenantOnboarding.Proofs.Service.Columns
import TenantOnboarding.Proofs.Provisioning.MissingRow
import TenantOnboarding.Proofs.Service.Statuses
import TenantOnboarding.Proofs.Provisioning.Conduct
import TenantOnboarding.Proofs.Provisioning.Attempts
import TenantOnboarding.Proofs.Provisioning.Transcript
import TenantOnboarding.Proofs.Provisioning.Protocol
import TenantOnboarding.Proofs.Provisioning.Scope
import TenantOnboarding.Proofs.Service.Origins
import TenantOnboarding.Proofs.Tls.Listener
import TenantOnboarding.Proofs.Identity.Bearer
import TenantOnboarding.Proofs.Service.Admission
import TenantOnboarding.Proofs.Http.OriginList
import TenantOnboarding.Proofs.Settings.Address
import TenantOnboarding.Proofs.Text.Numerals
import TenantOnboarding.Proofs.Settings.Loading
import TenantOnboarding.Proofs.Provisioning.WireForm
import TenantOnboarding.Proofs.Json.RoundTrip
import TenantOnboarding.Proofs.Service.Entities
