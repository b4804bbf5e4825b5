import PageLayout.Main
import PageLayout.Session
import PageLayout.Proofs.Markup.Entity
import PageLayout.Proofs.Page.Canvas
import PageLayout.Proofs.Page.Sheet
import PageLayout.Proofs.Kind.Delimiters
import PageLayout.Proofs.History.Zipper
import PageLayout.Proofs.Decimal.Shape
import PageLayout.Proofs.Document.Faults
import PageLayout.Proofs.Decimal.Integral
import PageLayout.Proofs.Kind.Requirements
import PageLayout.Proofs.Page.Acceptance
import PageLayout.Proofs.Kind.Reach
import PageLayout.Proofs.Page.Dependence
import PageLayout.Proofs.Json.Number
import PageLayout.Proofs.Json.Layout
import PageLayout.Proofs.Json.RoundTrip
import PageLayout.Proofs.Document.Draft
import PageLayout.Proofs.Document.Saved
import PageLayout.Proofs.Page.StyleBlock
import PageLayout.Proofs.Cli.Files
import PageLayout.Proofs.Cli.Log
import PageLayout.Proofs.Cli.Run
import PageLayout.Proofs.Text.ByteOrder
import PageLayout.Proofs.Kind.Registration
import PageLayout.Proofs.Json.Grammar
import PageLayout.Proofs.Json.Skipping
import PageLayout.Proofs.Json.Keeping
import PageLayout.Proofs.Json.Parts
import PageLayout.Proofs.Json.Fields
import PageLayout.Proofs.Document.Variants
import PageLayout.Proofs.Json.Passed
import PageLayout.Proofs.Json.Taken
import PageLayout.Proofs.Document.Embedded
import PageLayout.Proofs.Style.IdentifierStart
import PageLayout.Proofs.Document.Span
import PageLayout.Proofs.Kind.Heading
import PageLayout.Proofs.Style.Forms
import PageLayout.Proofs.Page.Composition
import PageLayout.Proofs.Page.Clean
import PageLayout.Proofs.Cli.Filename
import PageLayout.Proofs.Markup.Escaped
import PageLayout.Proofs.Style.Dropped
import PageLayout.Proofs.Style.Identifier
import PageLayout.Proofs.Kind.Placeholder
