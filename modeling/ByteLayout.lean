import ByteLayout.Main
import ByteLayout.Workspace.Tables
import ByteLayout.Proofs.Layout.RoundTrip
import ByteLayout.Proofs.Layout.Window
import ByteLayout.Proofs.Layout.Composition
import ByteLayout.Proofs.Layout.ByteOrders
import ByteLayout.Proofs.Layout.Tiling
import ByteLayout.Proofs.Layout.WriteBack
import ByteLayout.Proofs.Record.Clone
import ByteLayout.Proofs.Record.Edits
import ByteLayout.Proofs.RecordClass.Hierarchy
import ByteLayout.Proofs.Stream.Unpacking
import ByteLayout.Proofs.Gpt.Layouts
import ByteLayout.Proofs.Gpt.Reading
import ByteLayout.Proofs.Bits.Octets
import ByteLayout.Proofs.Field.Copied
import ByteLayout.Proofs.Field.Terminated
import ByteLayout.Proofs.Field.CutText
import ByteLayout.Proofs.Field.Frame
import ByteLayout.Proofs.Field.PaddedInteger
import ByteLayout.Proofs.Layout.Warnings
import ByteLayout.Proofs.Field.BitRow
import ByteLayout.Proofs.Gpt.Names
import ByteLayout.Proofs.Gpt.Attributes
import ByteLayout.Proofs.Gpt.Guid
import ByteLayout.Proofs.Stream.History
import ByteLayout.Proofs.Gpt.Listing
