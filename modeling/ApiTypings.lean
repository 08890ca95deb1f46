import ApiTypings.Main
import ApiTypings.Proofs.OpenApi.Parts
import ApiTypings.Proofs.Json.Nodes
import ApiTypings.Proofs.Reading
import ApiTypings.Proofs.OpenApi.Described
import ApiTypings.Proofs.OpenApi.Cycles
import ApiTypings.Proofs.OpenApi.Termination
import ApiTypings.Proofs.Json.Same
import ApiTypings.Proofs.TypeScript.Membership
import ApiTypings.Proofs.OpenApi.Validity
import ApiTypings.Proofs.OpenApi.Soundness
import ApiTypings.Proofs.TypeScript.Token
import ApiTypings.Proofs.TypeScript.Grammar
import ApiTypings.Proofs.TypeScript.Roundtrip
import ApiTypings.Proofs.TypeScript.Unambiguous
import ApiTypings.Proofs.Text.Identifier
import ApiTypings.Proofs.Text.Idempotent
import ApiTypings.Proofs.TypeScript.Inside
import ApiTypings.Proofs.OpenApi.Built
import ApiTypings.Proofs.OpenApi.Generated
import ApiTypings.Proofs.OpenApi.Names
import ApiTypings.Proofs.OpenApi.Distinct
import ApiTypings.Proofs.OpenApi.Layout
import ApiTypings.Proofs.OpenApi.Typed
import ApiTypings.Proofs.OpenApi.Closed
import ApiTypings.Proofs.Json.Keys
import ApiTypings.Proofs.OpenApi.PropertyNames
import ApiTypings.Proofs.OpenApi.Independence
import ApiTypings.Proofs.OpenApi.WellFormed
import ApiTypings.Proofs.OpenApi.Envelopes
import ApiTypings.Proofs.OpenApi.Contexts
import ApiTypings.Proofs.OpenApi.Transparency
import ApiTypings.Proofs.OpenApi.Reordered
import ApiTypings.Proofs.OpenApi.OperationOrder
import ApiTypings.Proofs.OpenApi.Deduplicated
import ApiTypings.Proofs.OpenApi.Clashes
import ApiTypings.Proofs.OpenApi.Respelled
import ApiTypings.Proofs.GraphQl.Resolution
import ApiTypings.Proofs.OpenApi.Accounted
import ApiTypings.Proofs.OpenApi.Omission
import ApiTypings.Proofs.TypeScript.Objects
import ApiTypings.Proofs.OpenApi.Domains
import ApiTypings.Proofs.TypeScript.Pinning
import ApiTypings.Proofs.TypeScript.StringLiteral
import ApiTypings.Proofs.OpenApi.Dictionaries
import ApiTypings.Proofs.OpenApi.Discriminators
import ApiTypings.Proofs.OpenApi.Synonyms
import ApiTypings.Proofs.OpenApi.Precedence
import ApiTypings.Proofs.OpenApi.MediaTypes
import ApiTypings.Proofs.OpenApi.Addresses
import ApiTypings.Proofs.OpenApi.Extensions
import ApiTypings.Proofs.GraphQl.Supported
import ApiTypings.Proofs.CommandLine.Taken
import ApiTypings.Proofs.CommandLine.Written
import ApiTypings.Proofs.CommandLine.Omitted
import ApiTypings.Proofs.CommandLine.Delivery
