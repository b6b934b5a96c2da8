import SpreadFlow.Catalog.Offer
import SpreadFlow.Config.Json
import SpreadFlow.Config.Toml
import SpreadFlow.Config.Yaml
import SpreadFlow.Node.Recipe
import SpreadFlow.Spread.Outline
import SpreadFlow.Spread.Rows
import SpreadFlow.Zip.Host
import SpreadFlow.Proofs.Decimal.Digits
import SpreadFlow.Proofs.Decimal.Reading
import SpreadFlow.Proofs.Zip.Refill
import SpreadFlow.Proofs.Decimal.Grid
import SpreadFlow.Proofs.Decimal.Nearest
import SpreadFlow.Proofs.Decimal.Shortest
import SpreadFlow.Proofs.Decimal.RoundTrip
import SpreadFlow.Proofs.Decimal.Rounding
import SpreadFlow.Proofs.Catalog.Offers
import SpreadFlow.Proofs.Json.Lexing
import SpreadFlow.Proofs.Zip.Interleaving
import SpreadFlow.Proofs.Json.RoundTrip
import SpreadFlow.Proofs.Json.Language
import SpreadFlow.Proofs.Config.Language
import SpreadFlow.Proofs.Json.Document
import SpreadFlow.Proofs.Json.Continuation
import SpreadFlow.Proofs.Json.Prompt
import SpreadFlow.Proofs.Config.FirstFault
import SpreadFlow.Proofs.Decimal.Distinct
import SpreadFlow.Proofs.Zip.Determined
import SpreadFlow.Proofs.Zip.Agreement
import SpreadFlow.Proofs.Text.ByteOrder
import SpreadFlow.Proofs.Catalog.Listing
import SpreadFlow.Proofs.Node.Journal
import SpreadFlow.Proofs.Node.Context
import SpreadFlow.Proofs.Node.Observation
import SpreadFlow.Proofs.Node.Propagation
import SpreadFlow.Proofs.Config.Layout
import SpreadFlow.Proofs.Toml.Entries
import SpreadFlow.Proofs.Yaml.Entries
import SpreadFlow.Proofs.Config.Formats
import SpreadFlow.Proofs.Text.LetterCase
import SpreadFlow.Proofs.Catalog.Search
import SpreadFlow.Proofs.Catalog.Identifier
import SpreadFlow.Proofs.Decimal.Integral
import SpreadFlow.Proofs.Decimal.Positional
import SpreadFlow.Proofs.Decimal.IntegerText
import SpreadFlow.Proofs.Decimal.DigitCount
import SpreadFlow.Proofs.Zip.Joined
import SpreadFlow.Proofs.Zip.Batches
import SpreadFlow.Proofs.Zip.Lenience
import SpreadFlow.Spread.Cyclic
import SpreadFlow.Proofs.Spread.Cyclic
import SpreadFlow.Proofs.Spread.Isolation
import SpreadFlow.Proofs.Node.Laws
import SpreadFlow.Proofs.Failure.Naming
import SpreadFlow.Proofs.Json.Record
import SpreadFlow.Proofs.Json.Description
