import DeviceGen.Main
import DeviceGen.Proofs.Wire.Reads
import DeviceGen.Proofs.Wire.Written
import DeviceGen.Proofs.Wire.Taken
import DeviceGen.Proofs.Wire.Forms
import DeviceGen.Proofs.Wire.Fields
import DeviceGen.Proofs.Descriptor.Occurrences
import DeviceGen.Proofs.Descriptor.RoundTrip
import DeviceGen.Proofs.Descriptor.Depth
import DeviceGen.Proofs.Descriptor.Contents
import DeviceGen.Proofs.Descriptor.Merge
import DeviceGen.Proofs.Descriptor.Insertion
import DeviceGen.Proofs.Descriptor.Cut
import DeviceGen.Proofs.Request.RoundTrip
import DeviceGen.Proofs.Request.Concatenation
import DeviceGen.Proofs.Request.UnknownFields
import DeviceGen.Proofs.Request.Truncation
import DeviceGen.Proofs.Response.RoundTrip
import DeviceGen.Proofs.Offline.Direct
import DeviceGen.Proofs.Offline.Places
import DeviceGen.Proofs.Offline.Written
import DeviceGen.Proofs.Plugin.Delivery
import DeviceGen.Proofs.FirstFault
import DeviceGen.Proofs.FirstOccurrences
import DeviceGen.Proofs.Generator.Failure
import DeviceGen.Proofs.Generator.Events
import DeviceGen.Proofs.C.Execution
import DeviceGen.Proofs.C.Conditionals
import DeviceGen.Proofs.C.Typedefs
import DeviceGen.Proofs.C.Tokens
import DeviceGen.Proofs.C.Code
import DeviceGen.Proofs.C.Printed
import DeviceGen.Proofs.C.ReadBack
import DeviceGen.Proofs.C.Declarations
import DeviceGen.Proofs.C.Machine
import DeviceGen.Proofs.C.Agreement
import DeviceGen.Proofs.Can.Helpers
import DeviceGen.Proofs.Can.Program
import DeviceGen.Proofs.Can.Packing
import DeviceGen.Proofs.Can.Generated
import DeviceGen.Proofs.Can.HeaderLines
import DeviceGen.Proofs.Can.Inclusion
import DeviceGen.Proofs.Can.Together
import DeviceGen.Proofs.Can.Guards
import DeviceGen.Proofs.Text.Segment
import DeviceGen.Proofs.Text.Words
import DeviceGen.Proofs.Text.Reader
import DeviceGen.Proofs.Text.Json.Grammar
import DeviceGen.Proofs.Text.Json.Scalar
import DeviceGen.Proofs.Text.Json.Reader
import DeviceGen.Proofs.Text.Json.Printed
import DeviceGen.Proofs.Schema.Dump
import DeviceGen.Proofs.Can.Sizes
import DeviceGen.Proofs.Generator.Contents
import DeviceGen.Proofs.Generator.Relevance
import DeviceGen.Proofs.Generator.Selection
import DeviceGen.Proofs.Generator.Names
import DeviceGen.Proofs.Descriptor.Numbering
import DeviceGen.Proofs.Can.Independence
import DeviceGen.Proofs.Can.Canonical
import DeviceGen.Proofs.C.Identifiers
import DeviceGen.Proofs.C.Names
import DeviceGen.Proofs.Can.Members
import DeviceGen.Proofs.Can.FirstUse
import DeviceGen.Proofs.Can.SourceLines
import DeviceGen.Proofs.Can.OwnHeader
import DeviceGen.Proofs.Can.BlockNames
import DeviceGen.Proofs.Can.Identifiers
import DeviceGen.Proofs.Bindings
import DeviceGen.Proofs.Text.MixedCase
import DeviceGen.Proofs.Widgets.Keys
import DeviceGen.Proofs.Schema.Places
import DeviceGen.Proofs.Schema.FirstDeclarations
import DeviceGen.Proofs.Widgets.Elements
import DeviceGen.Proofs.Widgets.Identifiers
import DeviceGen.Proofs.Widgets.Labels
import DeviceGen.Proofs.Text.Blank
import DeviceGen.Proofs.Text.Pattern
import DeviceGen.Proofs.Options.Entries
import DeviceGen.Proofs.Options.Patterns
import DeviceGen.Proofs.Options.Grammar
import DeviceGen.Proofs.Text.UpperCase
import DeviceGen.Proofs.Text.Quoted
import DeviceGen.Proofs.Generator.Log
