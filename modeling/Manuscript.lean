import Manuscript.CommandLine
import Manuscript.Config
import Manuscript.Conversion
import Manuscript.Layout.Description
import Manuscript.Layout.Style
import Manuscript.Main
import Manuscript.Node.Text
import Manuscript.Node.Visit
import Manuscript.Node.Visitor
import Manuscript.Node.WellSorted
import Manuscript.Package
import Manuscript.Readers
import Manuscript.Render
import Manuscript.Renderer
import Manuscript.Source
import Manuscript.Proofs.Node.Listing
import Manuscript.Proofs.Node.Properties
import Manuscript.Proofs.Node.TokenText
import Manuscript.Proofs.Node.OwnText
import Manuscript.Proofs.Node.Sorting
import Manuscript.Proofs.Node.Traversal
import Manuscript.Proofs.Text.Percent
import Manuscript.Proofs.Text.Utf8
import Manuscript.Proofs.Markdown.Address
import Manuscript.Proofs.Picture.Location
import Manuscript.Proofs.Render.Leaves
import Manuscript.Proofs.Render.PlainText
import Manuscript.Proofs.Render.Grid
import Manuscript.Proofs.Layout.Table
import Manuscript.Proofs.Layout.OnDemand
import Manuscript.Proofs.Layout.Merging
import Manuscript.Proofs.Layout.Description
import Manuscript.Proofs.Render.Cells
import Manuscript.Proofs.Render.LiteralText
import Manuscript.Proofs.Render.Outline
import Manuscript.Proofs.Render.Presentation
import Manuscript.Proofs.Render.StandIns
import Manuscript.Proofs.Render.Gathering
import Manuscript.Proofs.Render.Walk
import Manuscript.Proofs.Render.Reuse
import Manuscript.Proofs.Render.Quotes
import Manuscript.Proofs.Render.Pairing
import Manuscript.Proofs.Render.SoftBreaks
import Manuscript.Proofs.Docx.Outcome
import Manuscript.Proofs.Docx.Growth
import Manuscript.Proofs.Docx.Relationships
import Manuscript.Proofs.Docx.Runs
import Manuscript.Proofs.Docx.Links
import Manuscript.Proofs.Docx.Body
import Manuscript.Proofs.Docx.Simulation
import Manuscript.Proofs.Docx.Saving
import Manuscript.Proofs.Files.Refusal
import Manuscript.Proofs.Docx.Failure
import Manuscript.Proofs.Docx.Mirror
import Manuscript.Proofs.Docx.Pictures
import Manuscript.Proofs.Docx.Unpictured
import Manuscript.Proofs.Docx.Wrappers
import Manuscript.Proofs.Render.Headings
import Manuscript.Proofs.Docx.Styles
import Manuscript.Proofs.Docx.Formats
import Manuscript.Proofs.Conversion.Headings
import Manuscript.Proofs.Conversion.Pictures
import Manuscript.Proofs.Source.Outcome
import Manuscript.Proofs.Source.FrontMatter
import Manuscript.Proofs.Source.Agreement
import Manuscript.Proofs.Files.Change
import Manuscript.Proofs.Conversion.Folder
import Manuscript.Proofs.Files.Spelling
import Manuscript.Proofs.CommandLine.Effects
import Manuscript.Proofs.Text.Integer
import Manuscript.Proofs.Toml.Faults
import Manuscript.Proofs.Json.Faults
import Manuscript.Proofs.Config.Loading
import Manuscript.Proofs.Config.Discovery
import Manuscript.Proofs.Options.Update
import Manuscript.Proofs.Options.Ladder
import Manuscript.Proofs.Options.Refusals
import Manuscript.Proofs.Config.Outcome
import Manuscript.Proofs.CommandLine.Choices
import Manuscript.Proofs.Config.Layers
import Manuscript.Proofs.Config.Validity
import Manuscript.Proofs.Options.HeadingSizes
import Manuscript.Proofs.Package.Findings
