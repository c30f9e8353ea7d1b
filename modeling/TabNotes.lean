import TabNotes.CommandLine.Arguments
import TabNotes.CommandLine.Export
import TabNotes.CommandLine.Run
import TabNotes.CommandLine.Session
import TabNotes.Fault
import TabNotes.Files.Path
import TabNotes.Files.Tree
import TabNotes.Frontmatter.Block
import TabNotes.Frontmatter.Field
import TabNotes.Frontmatter.Items
import TabNotes.Frontmatter.Settings
import TabNotes.Json
import TabNotes.Main
import TabNotes.Note.Context
import TabNotes.Note.Format
import TabNotes.Notice
import TabNotes.Number.Binary64
import TabNotes.Number.Decimal
import TabNotes.Number.Integer
import TabNotes.Number.Shortest
import TabNotes.Obsidian.Link
import TabNotes.Obsidian.NotePath
import TabNotes.Obsidian.Plan
import TabNotes.Preferences
import TabNotes.Preset
import TabNotes.Proofs.Frontmatter.BlockReader
import TabNotes.Proofs.Frontmatter.Compose
import TabNotes.Proofs.Frontmatter.Quoting
import TabNotes.Proofs.Note.Context
import TabNotes.Proofs.Note.Derivation
import TabNotes.Proofs.Note.Fallback
import TabNotes.Proofs.Note.Grouping
import TabNotes.Proofs.Number.Magnitude
import TabNotes.Proofs.Runs
import TabNotes.Proofs.Tab.Access
import TabNotes.Proofs.Tab.Gathering
import TabNotes.Proofs.Tab.GroupRecords
import TabNotes.Proofs.Tab.Views
import TabNotes.Proofs.Template.DigitLimits
import TabNotes.Proofs.Template.DottedPaths
import TabNotes.Proofs.Template.PlainFrames
import TabNotes.Proofs.Frontmatter.Independence
import TabNotes.Proofs.Template.Escaping
import TabNotes.Proofs.Template.Entities
import TabNotes.Proofs.Template.FrontmatterTags
import TabNotes.Proofs.Template.Lexemes
import TabNotes.Proofs.Template.NormalForm
import TabNotes.Proofs.Template.Output
import TabNotes.Proofs.Template.RawTags
import TabNotes.Proofs.Template.Reading
import TabNotes.Proofs.Template.RoundTrip
import TabNotes.Proofs.Template.SinglePass
import TabNotes.Proofs.Template.Subtokens
import TabNotes.Proofs.Text.Blank
import TabNotes.Proofs.Text.Replace
import TabNotes.Proofs.Text.Search
import TabNotes.Proofs.Text.Surrogates
import TabNotes.Proofs.Time.Utc
import TabNotes.Tab.Records
import TabNotes.Tab.Selection
import TabNotes.Tab.Title
import TabNotes.Tab.View
import TabNotes.Template.Parse
import TabNotes.Template.Render
import TabNotes.Template.Review
import TabNotes.Template.TagText
import TabNotes.Template.Token
import TabNotes.Text.Blank
import TabNotes.Text.CaseFold
import TabNotes.Text.Digit
import TabNotes.Text.Hexadecimal
import TabNotes.Text.LowerCase
import TabNotes.Text.Percent
import TabNotes.Text.Printable
import TabNotes.Text.Quoted
import TabNotes.Text.Ranges
import TabNotes.Text.Search
import TabNotes.Text.Surrogates
import TabNotes.Text.Utf8
import TabNotes.Text.WordCharacter
import TabNotes.Time.Calendar
import TabNotes.Time.Coerce
import TabNotes.Time.Elapsed
import TabNotes.Time.Iso
import TabNotes.Time.LocalZone
import TabNotes.Time.Moment
import TabNotes.Time.Notation
import TabNotes.Time.Stamp
import TabNotes.Url.Address
import TabNotes.Url.Parts
import TabNotes.Url.Split
import TabNotes.Value.Access
import TabNotes.Value.Basic
import TabNotes.Value.Display
import TabNotes.Proofs.Text.Utf8
import TabNotes.Proofs.Text.Percent
import TabNotes.Proofs.Obsidian.LinkReading
import TabNotes.Proofs.Text.LowerCase
import TabNotes.Proofs.Time.Stamp
import TabNotes.Proofs.Obsidian.NotePath
import TabNotes.Proofs.Obsidian.EnteredPlace
import TabNotes.Proofs.Obsidian.Planning
import TabNotes.Proofs.Note.Presets
import TabNotes.Proofs.CommandLine.Arguments
import TabNotes.Proofs.CommandLine.Reading
import TabNotes.Proofs.Files.Tree
import TabNotes.Proofs.CommandLine.Delivery
import TabNotes.Proofs.Template.NamedKeys
import TabNotes.Proofs.Template.PartialMarks
import TabNotes.Proofs.Files.Changes
import TabNotes.Proofs.CommandLine.Alike
import TabNotes.Proofs.CommandLine.Validation
import TabNotes.Proofs.Tab.Selection
import TabNotes.Proofs.CommandLine.ExcludedTabs
import TabNotes.Proofs.CommandLine.WithLink
import TabNotes.Proofs.CommandLine.WrittenFile
import TabNotes.Proofs.Template.Concatenation
import TabNotes.Proofs.Note.OldFormats
import TabNotes.Proofs.Json
import TabNotes.Proofs.Note.Faults
import TabNotes.Proofs.Preferences
import TabNotes.Proofs.CommandLine.Inputs
import TabNotes.Proofs.CommandLine.UnusedPreferences
import TabNotes.Proofs.CommandLine.Preparing
import TabNotes.Proofs.CommandLine.Endings
import TabNotes.Proofs.Number.Digits
import TabNotes.Proofs.Obsidian.DotSegments
import TabNotes.Proofs.Tab.Stages
import TabNotes.Proofs.Tab.Title
import TabNotes.Proofs.Url.Split
import TabNotes.Proofs.Url.Origin
import TabNotes.Proofs.Time.Calendar
import TabNotes.Proofs.Time.Notation
import TabNotes.Proofs.Time.Positions
import TabNotes.Proofs.CommandLine.Items
import TabNotes.Proofs.Time.Elapsed
import TabNotes.Proofs.Time.IsoReading
import TabNotes.Proofs.Time.ReadBack
import TabNotes.Proofs.Time.CivilSecond
import TabNotes.Proofs.Value.Entries
import TabNotes.Proofs.Preferences.Merging
import TabNotes.Proofs.Template.Stopping
import TabNotes.Proofs.Template.DepthLimits
import TabNotes.Proofs.Template.RefusedPartials
import TabNotes.Proofs.Frontmatter.Items
