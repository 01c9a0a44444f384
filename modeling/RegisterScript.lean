import RegisterScript.Assembly
import RegisterScript.Backend.CArray
import RegisterScript.Backend.Generator
import RegisterScript.Backend.ScriptText
import RegisterScript.Backend.Target
import RegisterScript.Block
import RegisterScript.CommandLine.Flag
import RegisterScript.CommandLine.Manual
import RegisterScript.CommandLine.Settings
import RegisterScript.Compile
import RegisterScript.Destination
import RegisterScript.Device
import RegisterScript.Disassembly
import RegisterScript.Disk
import RegisterScript.Draft
import RegisterScript.Fault
import RegisterScript.Log.Level
import RegisterScript.Log.Logger
import RegisterScript.Log.Note
import RegisterScript.Machine
import RegisterScript.Main
import RegisterScript.Modifier
import RegisterScript.Numeral.Binary32
import RegisterScript.Numeral.Floating
import RegisterScript.Numeral.Integer
import RegisterScript.Operand
import RegisterScript.Optimize
import RegisterScript.Packet.Layout
import RegisterScript.Packet.Stream
import RegisterScript.Packet.Tag
import RegisterScript.Packet.Word
import RegisterScript.Proofs.ArrayText
import RegisterScript.Proofs.ArrayValues
import RegisterScript.Proofs.BinaryRoundTrip
import RegisterScript.Proofs.Calls
import RegisterScript.Proofs.CharacterClasses
import RegisterScript.Proofs.CleanUp
import RegisterScript.Proofs.Concatenation
import RegisterScript.Proofs.DeadStorePositions
import RegisterScript.Proofs.Disassembling
import RegisterScript.Proofs.DiskFrame
import RegisterScript.Proofs.Emission
import RegisterScript.Proofs.Expansion
import RegisterScript.Proofs.FailingOutput
import RegisterScript.Proofs.Feeding
import RegisterScript.Proofs.FieldMasks
import RegisterScript.Proofs.FieldWidths
import RegisterScript.Proofs.Filling
import RegisterScript.Proofs.Grammar
import RegisterScript.Proofs.IntegerOperands
import RegisterScript.Proofs.MachineInvariant
import RegisterScript.Proofs.MachineStep
import RegisterScript.Proofs.NameLookup
import RegisterScript.Proofs.NumberForms
import RegisterScript.Proofs.NumberReading
import RegisterScript.Proofs.NumberTokens
import RegisterScript.Proofs.Observation
import RegisterScript.Proofs.PacketGrammar
import RegisterScript.Proofs.PacketRoundTrip
import RegisterScript.Proofs.PacketStream
import RegisterScript.Proofs.PacketWords
import RegisterScript.Proofs.Printing
import RegisterScript.Proofs.Program
import RegisterScript.Proofs.Reading
import RegisterScript.Proofs.Rebuilding
import RegisterScript.Proofs.Refusal
import RegisterScript.Proofs.Rendering
import RegisterScript.Proofs.Replaying
import RegisterScript.Proofs.Scanning
import RegisterScript.Proofs.SeveralScripts
import RegisterScript.Proofs.ShiftsAndMasks
import RegisterScript.Proofs.Spelling
import RegisterScript.Proofs.Streaming
import RegisterScript.Proofs.TaskGroup
import RegisterScript.Proofs.Telling
import RegisterScript.Proofs.TextRoundTrip
import RegisterScript.Proofs.TextureFilling
import RegisterScript.Proofs.TokenPlaces
import RegisterScript.Proofs.ToolRuns
import RegisterScript.Proofs.Trivia
import RegisterScript.Proofs.Warnings
import RegisterScript.Register
import RegisterScript.Script
import RegisterScript.Script.Descent
import RegisterScript.Text.Basic
import RegisterScript.Text.CharacterClass
import RegisterScript.Text.Printable
import RegisterScript.Text.Quoted
import RegisterScript.Text.Utf8
import RegisterScript.Token
import RegisterScript.Token.Scanner
import RegisterScript.Tool
import RegisterScript.Tool.Compiler
import RegisterScript.Tool.Disassembler
import RegisterScript.Tool.GoldenTests
import RegisterScript.Tool.Report
import RegisterScript.Trace
import RegisterScript.Write
