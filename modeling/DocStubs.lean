import DocStubs.Code.Automaton
import DocStubs.Code.Bindings
import DocStubs.Code.Form
import DocStubs.Code.Grammar
import DocStubs.Code.Layout
import DocStubs.Code.Lookahead
import DocStubs.Code.Node
import DocStubs.Code.Outline
import DocStubs.Code.Phrase
import DocStubs.Code.Process
import DocStubs.Code.Reader
import DocStubs.Code.Recovery
import DocStubs.Code.Rule
import DocStubs.Code.Rules
import DocStubs.Code.Spot
import DocStubs.Code.Statement
import DocStubs.Code.Tables
import DocStubs.Code.Terminal
import DocStubs.Code.Tree
import DocStubs.CommandLine
import DocStubs.Config
import DocStubs.Data.Datum
import DocStubs.Data.Json
import DocStubs.Data.Toml
import DocStubs.Descriptor
import DocStubs.Error
import DocStubs.Files.Disk
import DocStubs.Files.Fault
import DocStubs.Files.Lookup
import DocStubs.Files.Path
import DocStubs.Files.Tree
import DocStubs.Files.Walk
import DocStubs.Generate
import DocStubs.Main
import DocStubs.Member
import DocStubs.Name
import DocStubs.Packages
import DocStubs.Page
import DocStubs.Pattern.Basic
import DocStubs.Pattern.Classes
import DocStubs.Pattern.Reader
import DocStubs.Pattern.Search
import DocStubs.Pattern.Size
import DocStubs.Program
import DocStubs.Registry
import DocStubs.Source
import DocStubs.Symbol
import DocStubs.Text.Age
import DocStubs.Text.Blank
import DocStubs.Text.Break
import DocStubs.Text.CaseFold
import DocStubs.Text.Category
import DocStubs.Text.CharSet
import DocStubs.Text.Cut
import DocStubs.Text.Letter
import DocStubs.Text.Property.Lists
import DocStubs.Text.Property.Named
import DocStubs.Text.Runs
import DocStubs.Text.Script
import DocStubs.Text.Utf8
import DocStubs.Writing
import DocStubs.Proofs.Files.Path
import DocStubs.Proofs.Files.Tree
import DocStubs.Proofs.Files.Lookup
import DocStubs.Proofs.Files.Reach
import DocStubs.Proofs.Files.Disk
import DocStubs.Proofs.Writing.FreeNumber
import DocStubs.Proofs.Writing.Copy
import DocStubs.Proofs.Writing.Artifact
import DocStubs.Proofs.Generate.Plan
import DocStubs.Proofs.Generate.Preservation
import DocStubs.Proofs.Generate.Outcome
import DocStubs.Proofs.Text.Identifier
import DocStubs.Proofs.Packages.Listing
import DocStubs.Proofs.Query
import DocStubs.Proofs.Text.Dotted
import DocStubs.Proofs.Packages.Memory
import DocStubs.Proofs.Packages.History
import DocStubs.Proofs.Registry
import DocStubs.Proofs.Source.Inventory
import DocStubs.Proofs.Source.Survey
import DocStubs.Proofs.Source.Agreement
import DocStubs.Proofs.Code.NameTable
import DocStubs.Proofs.Code.Changes
import DocStubs.Proofs.Code.LastBinding
import DocStubs.Proofs.Code.Deletion
import DocStubs.Proofs.Code.Members
import DocStubs.Proofs.Generate.Failure
import DocStubs.Proofs.Program
import DocStubs.Proofs.Files.LinkFree
import DocStubs.Proofs.Generate.Clash
import DocStubs.Proofs.Code.Dormant
import DocStubs.Proofs.Source.RegistryWalk
import DocStubs.Proofs.Generate.Confined
import DocStubs.Proofs.Writing.Numbered
import DocStubs.Proofs.Generate.Rerun
import DocStubs.Proofs.Config
import DocStubs.Proofs.Source.Exclusion
import DocStubs.Proofs.Source.Distinct
import DocStubs.Proofs.Generate.Collision
import DocStubs.Proofs.Page
import DocStubs.Proofs.Inspection
import DocStubs.Proofs.Generate.Links
import DocStubs.Proofs.Code.History
import DocStubs.Proofs.Code.Alias
import DocStubs.Proofs.Files.Depth
import DocStubs.Proofs.Source.Termination
import DocStubs.Proofs.Code.DocumentOrder
import DocStubs.Proofs.Text.ByteOrder
import DocStubs.Proofs.Text.Relative
import DocStubs.Proofs.Member
import DocStubs.Proofs.Source.RegistryListing
import DocStubs.Proofs.Packages.Children
import DocStubs.Proofs.Writing.Replace
import DocStubs.Proofs.Writing.Versions
import DocStubs.Proofs.Writing.Walk
import DocStubs.Proofs.Writing.Copying
import DocStubs.Proofs.Writing.Faithful
import DocStubs.Proofs.LeadingDoc
import DocStubs.Proofs.Readability
import DocStubs.Proofs.Manifest
